import Marginalia.Failure
import Marginalia.Offside.Outline
import Marginalia.Outline.Json

/-!
# Companions

Python files are parsed by a companion: a program that runs a script on the
file and writes the outline as JSON.  A response tells how far that went, and
`Companion.outline` what is made of it.  The bundled companion is the
parser of this library.
-/

namespace Marginalia

/-- How a program ended. -/
inductive Status where
  | exited (code : Nat)
  | killed (signal : Nat)
  deriving DecidableEq

namespace Status

/-- The names of the signals, in order from the first. -/
def signalNames : List String :=
  ["SIGHUP", "SIGINT", "SIGQUIT", "SIGILL", "SIGTRAP", "SIGABRT", "SIGBUS", "SIGFPE", "SIGKILL",
    "SIGUSR1", "SIGSEGV", "SIGUSR2", "SIGPIPE", "SIGALRM", "SIGTERM", "SIGSTKFLT", "SIGCHLD",
    "SIGCONT", "SIGSTOP", "SIGTSTP", "SIGTTIN", "SIGTTOU", "SIGURG", "SIGXCPU", "SIGXFSZ",
    "SIGVTALRM", "SIGPROF", "SIGWINCH", "SIGIO", "SIGPWR", "SIGSYS"]

/-- How a status is reported. -/
def text : Status → Text
  | .exited code => "exit status: ".toList ++ (Nat.repr code).toList
  | .killed signal =>
    "signal: ".toList ++ (Nat.repr signal).toList ++
      match signal with
      | 0 => []
      | index + 1 =>
        match signalNames[index]? with
        | some name => " (".toList ++ name.toList ++ [')']
        | none => []

end Status

namespace Companion

/-- What came of running a companion. -/
inductive Response where
  | noScript
  | noProgram
  /-- The program was found and could not be started. -/
  | refused (reason : Text)
  | finished (status : Status) (output errors : Bytes)

/-- How a program that was started ended, and what it wrote. -/
structure Ending where
  status : Status
  output : Bytes
  errors : Bytes

/-- The response of a program that was found: how it ended, or why it did not
start. -/
def Response.ofLaunch : Except Text Ending → Response
  | .ok ending => .finished ending.status ending.output ending.errors
  | .error reason => .refused reason

end Companion

/-- A companion: a program, its script, and the response to the contents of a
file. -/
structure Companion where
  program : Text
  script : Text
  respond : Bytes → Companion.Response

namespace Companion

/-- The outline that the output of a companion spells, blanks around it aside. -/
def decode (output : Text) : Except Failure Outline :=
  match Outline.ofJson? (Text.trim output) with
  | none => .error (.companionFailure "Malformed parser output".toList)
  | some outline => .ok outline

/-- The outline that a companion wrote, or what went wrong first. -/
def outline (companion : Companion) : Response → Except Failure Outline
  | .noScript =>
    .error (.companionNotFound ("Python script not found at ".toList ++ companion.script))
  | .noProgram =>
    .error (.companionNotFound ("interpreter '".toList ++ companion.program ++
      "' not found: cannot find binary path".toList))
  | .refused reason => .error (.companionFailure ("Python process error: ".toList ++ reason))
  | .finished status output errors =>
    if status != .exited 0 then
      .error (.companionFailure ("Python process exited with ".toList ++ status.text ++
        ": ".toList ++ Text.trim (Bytes.toTextLossy errors)))
    else
      match Bytes.toText output with
      | .error fault =>
        .error (.companionFailure
          ("Python process wrote non UTF-8 output: ".toList ++ fault.message))
      | .ok text => decode text

/-! ## The bundled companion -/

/-- The program that runs the script unless another is asked for. -/
def standardProgram : Text :=
  "python3".toList

/-- The script that stands for the parser of this library. -/
def standardScript : Text :=
  "<default>".toList

/-- What comes of running the parser of this library with these codecs at hand. -/
def bundledEnding (codecs : Offside.Codecs) (contents : Bytes) : Ending :=
  match Offside.outline? codecs contents with
  | some outline =>
    { status := .exited 0
      output := Text.toBytes (Outline.toJson Json.Style.companion outline ++ ['\n'])
      errors := [] }
  | none => { status := .exited 1, output := [], errors := [] }

end Companion

end Marginalia
