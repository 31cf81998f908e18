import Marginalia.Text.Basic

/-!
# Outlines

The outline of a source file lists its top-level functions and classes with
the byte spans they occupy.
-/

namespace Marginalia

/-- A function at the top level of a file. -/
structure FunctionRecord where
  name : Text
  params : List Text
  start : Nat
  stop : Nat
  deriving DecidableEq

/-- A class at the top level of a file. -/
structure ClassRecord where
  name : Text
  start : Nat
  stop : Nat
  deriving DecidableEq

/-- The functions and classes of a file, each in source order. -/
structure Outline where
  functions : List FunctionRecord
  classes : List ClassRecord
  deriving DecidableEq

/-- The end and then the start of a span, moved back into a text of `length`
bytes. -/
def clampSpan (length start stop : Nat) : Nat × Nat :=
  let stop := min stop length
  (min start stop, stop)

namespace Outline

/-- The outline of a file that declares nothing. -/
def empty : Outline :=
  { functions := [], classes := [] }

/-- Whether nothing is listed. -/
def isEmpty (outline : Outline) : Bool :=
  outline.functions.isEmpty && outline.classes.isEmpty

/-- The outline with every span moved into a text of `length` bytes. -/
def clamped (outline : Outline) (length : Nat) : Outline :=
  { functions := outline.functions.map fun record =>
      let (start, stop) := clampSpan length record.start record.stop
      { record with start, stop }
    classes := outline.classes.map fun record =>
      let (start, stop) := clampSpan length record.start record.stop
      { record with start, stop } }

end Outline

end Marginalia
