import Marginalia.Language
import Marginalia.Text.Lines
import Marginalia.Text.Word

/-!
# Tags

Documentation names parameters and results in a fixed form: a tag such as
`@param {type} name text`, or a name or arrow with a colon.  Each form is a
small pattern.  A pattern takes as many blanks as it can and gives back one at
a time where the rest does not match; of several places that match, the first
counts.
-/

namespace Marginalia.Tag

/-- One or more blanks, as many as the rest of the pattern allows. -/
def blanks {α : Type} (next : Text → Option α) : Text → Option α
  | [] => none
  | c :: rest => if Text.isBlank c then blanks next rest <|> next rest else none

/-- Any number of blanks, as many as the rest of the pattern allows. -/
def maybeBlanks {α : Type} (next : Text → Option α) (text : Text) : Option α :=
  blanks next text <|> next text

/-- A type in braces. -/
def braced {α : Type} (next : Text → Option α) : Text → Option α
  | '{' :: rest =>
    match rest.dropWhile (· != '}') with
    | _ :: beyond => next beyond
    | [] => none
  | _ => none

/-- The rest of the line, which is not empty. -/
def lineRest (text : Text) : Option Text :=
  match text.upTo '\n' with
  | [] => none
  | line => some line

/-- The first match of a pattern.  The pattern is given the character in front
of it, if any. -/
def search {α : Type} (pattern : Option Char → Text → Option α) :
    Option Char → Text → Option α
  | before, [] => pattern before []
  | before, c :: rest => pattern before (c :: rest) <|> search pattern (some c) rest

/-- Whether a word begins or ends between two neighbours. -/
def wordBoundary (before after : Option Char) : Bool :=
  before.any Text.isWord != after.any Text.isWord

/-- What a text says about a parameter. -/
def parameter? (family : Family) (name : Text) (text : Text) : Option Text :=
  search pattern none text
where
  /-- The name with its description behind it. -/
  described (rest : Text) : Option Text :=
    (rest.after? name).bind (blanks lineRest)
  /-- The pattern of the family. -/
  pattern (before : Option Char) (rest : Text) : Option Text :=
    match family with
    | .javaScript =>
      (rest.after? "@param".toList).bind
        (blanks fun beyond => braced (blanks described) beyond <|> described beyond)
    | .python =>
      if wordBoundary before rest.head? then
        (rest.after? name).bind (maybeBlanks fun
          | ':' :: beyond => maybeBlanks lineRest beyond
          | _ => none)
      else none

/-- The description of a parameter. -/
def parameterDescription (family : Family) (name text : Text) : Text :=
  match parameter? family name text with
  | some description => Text.trimEnd description
  | none => "No description provided".toList

/-- What a text says about the result. -/
def result? (family : Family) (text : Text) : Option Text :=
  search (fun _ => pattern) none text
where
  /-- The pattern of the family. -/
  pattern (rest : Text) : Option Text :=
    match family with
    | .javaScript =>
      (rest.after? "@return".toList).bind fun beyond =>
        blanks (braced (blanks lineRest)) ((Text.after? beyond ['s']).getD beyond)
    | .python =>
      (rest.after? "->".toList).bind fun beyond =>
        let type := Text.upTo beyond ':'
        if type.isEmpty || beyond.length == type.length then none else some type

/-- The description of the result, or nothing. -/
def resultDescription (family : Family) (text : Text) : Text :=
  match result? family text with
  | some description => Text.trim description
  | none => []

/-- Whether a line brings in another module. -/
def isImport (family : Family) (line : Text) : Bool :=
  let trimmed := Text.trim line
  match family with
  | .javaScript =>
    trimmed.startsWith "import".toList ||
      (trimmed.startsWith "const".toList && line.contains "require".toList)
  | .python => trimmed.startsWith "import".toList || trimmed.startsWith "from".toList

/-- The lines that bring in other modules. -/
def imports (family : Family) (text : Text) : List Text :=
  text.lines.filter (isImport family)

end Marginalia.Tag
