import Marginalia.Generator

/-!
# Hosts

A companion is a program that is started with a script on a file.  How far that
goes is decided by its host: the script has to be a file, the name of the program
has to stand for one, and the program has to start.
-/

namespace Marginalia

/-- Where companions are started. -/
structure Host where
  view : View
  /-- Whether a name stands for a program. -/
  resolves : Text → Bool
  /-- What comes of starting a program with a script on the contents of a file:
  how it ended, or why it did not start. -/
  start : Text → Text → Bytes → Except Text Companion.Ending

namespace Host

/-- How far a program gets with a script on the contents of a file. -/
def respond (host : Host) (program script : Text) (contents : Bytes) : Companion.Response :=
  match host.view.entry? script with
  | some (.file _) =>
    if host.resolves program then .ofLaunch (host.start program script contents)
    else .noProgram
  | _ => .noScript

/-- A program with its script as a companion. -/
def companion (host : Host) (program script : Text) : Companion :=
  { program, script, respond := host.respond program script }

/-- A host of the parser of this library, whose script is always there.  Nothing
else can be started on it. -/
def bundled (codecs : Offside.Codecs) (view : View) : Host :=
  { view := { view with
      entry? := fun path =>
        if path == Companion.standardScript then some (.file []) else view.entry? path }
    resolves := fun program => program == Companion.standardProgram
    start := fun _ script contents =>
      if script == Companion.standardScript then .ok (Companion.bundledEnding codecs contents)
      else .error "no other script than the bundled one can be run".toList }

end Host

end Marginalia
