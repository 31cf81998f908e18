import Marginalia.Offside.Literal
import Marginalia.Offside.Target
import Marginalia.Outline
import Marginalia.Text.Normal

/-!
# Outlines of the offside language

The outline of a file lists the functions and classes among its direct
statements.  A definition reaches from its first word, behind any decorators,
to its last token that is not layout.  Lines and columns are turned into byte
offsets by a table of where the lines of the file begin.
-/

namespace Marginalia.Offside

/-! ## Well-formed files -/

/-- Whether tokens form a phrase, with all their strings.  The expressions
inside formatted strings are checked in turn, at most `depth` deep. -/
def wellFormed? : Nat → Phrase → List Token → Option OffsideTree
  | 0, _, _ => none
  | depth + 1, phrase, tokens =>
    match parse? phrase tokens with
    | none => none
    | some tree =>
      let strings := tokens.filter (·.kind == .string)
      let fits := (review tree).sound && concatenable none tokens && strings.all fun token =>
        match embedded? token.text with
        | none => false
        | some expressions => expressions.all fun expression =>
          match tokens? ('(' :: expression ++ ")\n".toList) with
          | none => false
          | some inner => (wellFormed? depth .embedded inner).isSome
      if fits then some tree else none

/-! ## Offsets -/

/-- Where the lines of a file begin: at its start, and behind every line feed. -/
def lineStarts (bytes : Bytes) : List Nat :=
  0 :: go 1 bytes
where
  /-- The starts behind the line feeds, given the offset behind the next byte. -/
  go (behind : Nat) : Bytes → List Nat
    | [] => []
    | byte :: rest => if byte == 10 then behind :: go (behind + 1) rest else go (behind + 1) rest

/-- The offset of a place. -/
def offset? (starts : List Nat) (place : Place) : Option Nat :=
  (starts[place.line - 1]?).map (· + place.column)

/-! ## Records -/

/-- Whether a token only lays out the file. -/
def isLayout (token : Token) : Bool :=
  token.kind == .newline || token.kind == .indent || token.kind == .dedent

/-- The span of a tree. -/
def span? (starts : List Nat) (tree : OffsideTree) : Option (Nat × Nat) :=
  match tree.tokens.filter (fun token => !isLayout token) with
  | [] => none
  | first :: rest =>
    let last := rest.getLast?.getD first
    match offset? starts first.start, offset? starts last.stop with
    | some start, some stop => some (start, stop)
    | _, _ => none

/-- The characters of a name, in normal form. -/
def nameText (token : Token) : Text :=
  Text.normal (Bytes.toTextLossy (asBytes token.text))

/-- The name of a definition: its first name that is no reserved word. -/
def definedName (parts : List OffsideTree) : Text :=
  (parts.findSome? fun
    | .leaf token =>
      if token.kind == .name && !reservedWords.contains token.text then some (nameText token)
      else none
    | .node .. => none).getD []

/-- The names of the parameters that can be given by position. -/
def positionalNames (parts : List OffsideTree) : List Text :=
  let list := (parts.findSome? fun
    | .node .parameters list => some list
    | _ => none).getD []
  let parameters := list.filterMap fun
    | .node .parameter inner => some inner
    | _ => none
  let positional := parameters.takeWhile fun inner =>
    match parameterForm inner with
    | .slash | .plain _ => true
    | .star | .collector | .namedCollector => false
  positional.filterMap fun inner =>
    match parameterForm inner with
    | .plain _ => some (definedName inner)
    | _ => none

/-- Add the definition that a statement makes, if any, to the end of an outline. -/
def addDefinition (starts : List Nat) (outline : Outline) (statement : OffsideTree) :
    Option Outline :=
  match statement.parts.getLast? with
  | some (.node .functionDefinition parts) =>
    (span? starts (.node .functionDefinition parts)).map fun (start, stop) =>
      let record : FunctionRecord :=
        { name := definedName parts, params := positionalNames parts, start, stop }
      { outline with functions := outline.functions ++ [record] }
  | some (.node .classDefinition parts) =>
    (span? starts (.node .classDefinition parts)).map fun (start, stop) =>
      let record : ClassRecord := { name := definedName parts, start, stop }
      { outline with classes := outline.classes ++ [record] }
  | _ => some outline

/-- The outline of a file, unless it is malformed. -/
def outline? (codecs : Codecs) (bytes : Bytes) : Option Outline :=
  match prepare? codecs bytes with
  | none => none
  | some text =>
    match (tokens? text).bind (wellFormed? (text.length + 1) .file) with
    | none => none
    | some tree => tree.parts.foldlM (addDefinition (lineStarts bytes)) Outline.empty

end Marginalia.Offside
