import Marginalia.Text.Basic

/-!
# Paths

A path is a text with slashes between its components.  Empty components and
single points name nothing, except for a point at the very beginning.
-/

namespace Marginalia.Path

/-- The pieces of a path between its slashes. -/
def pieces (path : Text) : List Text :=
  path.foldr split [[]]
where
  /-- Put one character in front of the pieces that follow it. -/
  split (c : Char) : List Text → List Text
    | [] => [[c]]
    | piece :: more => if c == '/' then [] :: piece :: more else (c :: piece) :: more

/-- The components of a path that name something. -/
def components (path : Text) : List Text :=
  (pieces path).filter fun piece => !piece.isEmpty && piece != ['.']

/-- The name of the file that a path leads to. -/
def fileName? (path : Text) : Option Text :=
  match (components path).getLast? with
  | none => none
  | some name => if name == ['.', '.'] then none else some name

/-- What follows the last point of the file's name, unless the name begins with
that point. -/
def extension? (path : Text) : Option Text :=
  match fileName? path with
  | none => none
  | some name =>
    let tail := name.reverse.takeWhile (· != '.')
    if name.length ≤ tail.length + 1 then none else some tail.reverse

/-- Where the documentation of a file is written. -/
def output (path : Text) : Text :=
  path ++ ".md".toList

end Marginalia.Path
