import Marginalia.Offside.Charset
import Marginalia.Program

/-!
# The command line program

The program reads its command line and its environment, looks up the one file
that it documents, and writes or prints the page.  All decisions are taken by
the pure functions of the library.
-/

namespace Marginalia

/-- What stands at a path of the file system, and what prevents reading it. -/
def probe (path : Text) : IO (Option Entry × Option Text) := do
  let path := String.ofList path
  try discard (IO.FS.realPath path) catch _ => return (none, none)
  try
    let contents ← IO.FS.readBinFile path
    return (some (.file contents.toList), none)
  catch
    | .inappropriateType .. => return (some .directory, none)
    | failure => return (some (.file []), some (toString failure).toList)

/-- The value of an environment variable. -/
def setting (name : String) : IO (Option Text) := do
  return (← IO.getEnv name).map String.toList

/-- Write a file of the file system, or say what prevents it. -/
def store (path : Text) (contents : Bytes) : IO (Except Text Unit) := do
  try
    IO.FS.writeBinFile (String.ofList path) ⟨contents.toArray⟩
    return .ok ()
  catch failure => return .error (toString failure).toList

/-- The bundled companion for a file.  It ends badly if the file cannot be read. -/
def companion (view : View) (file program script : Text) : Companion :=
  let host := Host.bundled Offside.ownCodecs view
  let failing : Companion.Ending := { status := .exited 1, output := [], errors := [] }
  let start := if (view.barrier? file).isSome then fun _ _ _ => .ok failing else host.start
  { host with start }.companion program script

/-- How the program is called. -/
def usage : String :=
  "Usage: srcdoc [-v] [--python PROGRAM] [--python-script SCRIPT] " ++
    "generate-docs FILE [-f FORMAT] [--stdout]"

end Marginalia

open Marginalia in
/-- Run the program. -/
def main (words : List String) : IO UInt32 := do
  let environment : CommandLine.Environment :=
    { program := ← setting "SRCDOC_PYTHON", script := ← setting "SRCDOC_PYTHON_SCRIPT" }
  match CommandLine.parse environment (words.map String.toList) with
  | .error refusal =>
    if refusal.exitCode == 0 then IO.println usage else IO.eprintln usage
    return UInt32.ofNat refusal.exitCode
  | .ok invocation =>
    let file := invocation.request.file
    let (entry, barrier) ← probe file
    let (script, _) ← probe invocation.script
    let view : View :=
      { entry? := fun path =>
          if path == file then entry else if path == invocation.script then script else none
        barrier? := fun path => if path == file then barrier else none }
    let output ← Program.perform store (← setting "RUST_LOG") view
      (companion view file invocation.program invocation.script) invocation
    IO.eprint (String.ofList output.stderr)
    IO.print (String.ofList output.stdout)
    return UInt32.ofNat output.exitCode
