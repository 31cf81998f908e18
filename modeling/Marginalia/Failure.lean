import Marginalia.Text.Basic

/-!
# Failures

Everything that can keep a file from being documented, with the message that
reports it and the exit code that stands for it.
-/

namespace Marginalia

/-- Why a file could not be documented. -/
inductive Failure where
  | fileNotFound (path : Text)
  | unsupportedLanguage (extension : Text)
  | parseFailure (detail : Text)
  | companionNotFound (detail : Text)
  | companionFailure (detail : Text)
  | system (detail : Text)
  deriving DecidableEq

namespace Failure

/-- The report of a failure. -/
def message : Failure → Text
  | .fileNotFound path => "File not found: ".toList ++ path
  | .unsupportedLanguage extension => "Unsupported file type: ".toList ++ extension
  | .parseFailure detail => "Parse failure: ".toList ++ detail
  | .companionNotFound detail => "Companion parser not found: ".toList ++ detail
  | .companionFailure detail => "Companion parser failed: ".toList ++ detail
  | .system detail => "IO error: ".toList ++ detail

/-- The exit code that stands for a failure. -/
def exitCode : Failure → Nat
  | .fileNotFound _ => 2
  | .unsupportedLanguage _ => 3
  | .parseFailure _ | .companionNotFound _ | .companionFailure _ => 4
  | .system _ => 5

end Failure

end Marginalia
