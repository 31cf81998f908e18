import Marginalia.Language
import Marginalia.Text.Lines

/-!
# Comments

What the comments of a file say about it and about its declarations: the line
comments of the whole file, the block of documentation in a text, and the run
of comment lines directly in front of a declaration.
-/

namespace Marginalia.Comment

/-- What a trimmed line says, if it is a line comment of either family. -/
def lineText? (line : Text) : Option Text :=
  match line.after? "//".toList with
  | some body => some (Text.trim body)
  | none => (line.after? "#".toList).map Text.trim

/-- The text of every line comment of a file. -/
def fileDescription (text : Text) : Text :=
  Text.joinLines (text.lines.filterMap fun line => lineText? (Text.trim line))

/-! ## Documentation blocks -/

/-- What stands between the first `opening` and the first `closing` behind it. -/
def between? (opening closing text : Text) : Option Text :=
  match text.cut? opening with
  | none => none
  | some (_, beyond) => (Text.cut? beyond closing).map (·.1)

/-- Where a scan through the lines of a block stands. -/
inductive Margin where
  /-- At the beginning of a line, behind blanks. -/
  | blank
  /-- Directly behind the star of the margin. -/
  | star
  /-- In the text of a line. -/
  | closed

/-- The lines of a block without their margin, which is a star with the blanks
in front of it and one blank behind it.  `held` are the blanks, in reverse,
that belong to the text unless a star follows. -/
def withoutMargin (margin : Margin) (held : Text) : Text → Text
  | [] => held.reverse
  | c :: rest =>
    match margin with
    | .blank =>
      if Text.isBlank c then withoutMargin .blank (c :: held) rest
      else if c == '*' then withoutMargin .star [] rest
      else held.reverse ++ c :: withoutMargin .closed [] rest
    | .star =>
      if c == '\n' then withoutMargin .blank [] rest
      else if Text.isBlank c then withoutMargin .closed [] rest
      else c :: withoutMargin .closed [] rest
    | .closed => c :: withoutMargin (if c == '\n' then .blank else .closed) [] rest

/-- The first block of documentation in a text, or nothing. -/
def blockDescription (family : Family) (text : Text) : Text :=
  match family with
  | .javaScript =>
    match between? "/**".toList "*/".toList text with
    | some body => Text.trim (withoutMargin .blank [] body)
    | none => []
  | .python =>
    match between? "\"\"\"".toList "\"\"\"".toList text with
    | some body => Text.trim body
    | none => []

/-! ## Declarations -/

/-- Whether a trimmed line belongs to the comments in front of a declaration. -/
def isLeading (family : Family) (line : Text) : Bool :=
  match family with
  | .javaScript =>
    line.startsWith "//".toList || line.startsWith "/*".toList || line.startsWith "*".toList
  | .python => line.startsWith "#".toList || line.startsWith "@".toList

/-- The comment lines directly above the line of the byte at `start`. -/
def leading (family : Family) (text : Text) (start : Nat) : Text :=
  let complete := (text.takeBytes start).segments.filter fun line => line.getLast? == some '\n'
  (complete.reverse.takeWhile fun line => isLeading family (Text.trim line)).reverse.flatten

/-- What is said about a declaration: the block in front of it, else the block
inside it, else the line comments in front of it. -/
def declarationDescription (family : Family) (leading body : Text) : Text :=
  let before := blockDescription family leading
  let inside := blockDescription family body
  if !before.isEmpty then before
  else if !inside.isEmpty then inside
  else
    Text.joinLines (leading.lines.filterMap fun line =>
      ((Text.trim line).after? family.marker).map Text.trim)

end Marginalia.Comment
