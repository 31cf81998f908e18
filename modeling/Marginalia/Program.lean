import Marginalia.CommandLine
import Marginalia.Host

/-!
# The program

A run of the program reads its command line, documents one file and reports.
The report holds all that is printed, the exit code, and the file tree as it is
after the run.
-/

namespace Marginalia.Program

/-- Where a run takes place. -/
structure Surroundings where
  environment : CommandLine.Environment
  /-- The setting of the log filter. -/
  logging : Option Text
  tree : FileTree
  /-- The companion for a program and a script, in a view of the files. -/
  companion : View → Text → Text → Companion

/-- What a run prints, and how it ends. -/
structure Output where
  exitCode : Nat
  stdout : Text
  stderr : Text

/-- What a run leaves behind. -/
structure Report extends Output where
  tree : FileTree

/-- What is printed about an outcome. -/
def announce (request : Generator.Request) : Generator.Outcome → Text
  | .written path => "Documentation generated and saved to ".toList ++ path ++ ['\n']
  | .printed page => page
  | .missing => "File not found: ".toList ++ request.file ++ ['\n']
  | .unsupported => "No documentation generated for ".toList ++ request.file ++ ['\n']

/-- Lines with their ends. -/
def unlines (lines : List Text) : Text :=
  lines.flatMap (· ++ ['\n'])

/-- What is printed about a result after some events. -/
def output (filter : Log.Filter) (request : Generator.Request) (events : List Log.Event)
    (result : Except Failure Generator.Outcome) : Output :=
  let shown := unlines (filter.lines (events ++ Generator.outcomeEvents result))
  match result with
  | .ok outcome => { exitCode := 0, stdout := announce request outcome, stderr := shown }
  | .error failure =>
    { exitCode := failure.exitCode
      stdout := []
      stderr := shown ++ "Error: ".toList ++ failure.message ++ ['\n'] }

/-- Carry out a command line that was read, where a file is written by `write`. -/
def perform {m : Type → Type} [Monad m] (write : Text → Bytes → m (Except Text Unit))
    (logging : Option Text) (view : View) (companion : Companion)
    (invocation : CommandLine.Invocation) : m Output := do
  let request := invocation.request
  let result ← Generator.carryOut write (Generator.plan view companion request)
  let filter := Log.Filter.choose logging invocation.verbose
  return output filter request (Generator.planEvents view companion request) result

/-- Run the program. -/
def run (surroundings : Surroundings) (words : List Text) : Report :=
  match CommandLine.parse surroundings.environment words with
  | .error refusal =>
    { exitCode := refusal.exitCode, stdout := [], stderr := [], tree := surroundings.tree }
  | .ok invocation =>
    let view := surroundings.tree.view
    let companion := surroundings.companion view invocation.program invocation.script
    let (output, tree) := perform Generator.store surroundings.logging view companion invocation
      surroundings.tree
    { output with tree }

end Marginalia.Program
