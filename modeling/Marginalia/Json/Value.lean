import Marginalia.Json.Token

/-!
# Values of JSON

A value is read from tokens.  Members of an object keep their order and are not
merged, so that a reader can tell a repeated name.
-/

namespace Marginalia.Json

/-- A value.  Strings and names that stand for no text are kept as `none`. -/
inductive Value where
  | null
  | bool (value : Bool)
  | number (spelling : Text)
  | string (value : Option Text)
  | array (elements : List Value)
  | object (members : List (Option Text × Value))

mutual

/-- The value at the beginning of the tokens, and what follows.  `fuel` bounds
the nesting and the number of tokens. -/
def value? : Nat → List Token → Option (Value × List Token)
  | 0, _ => none
  | fuel + 1, tokens =>
    match tokens with
    | .null :: rest => some (.null, rest)
    | .true :: rest => some (.bool true, rest)
    | .false :: rest => some (.bool false, rest)
    | .number spelling :: rest => some (.number spelling, rest)
    | .string value :: rest => some (.string value, rest)
    | .openBracket :: .closeBracket :: rest => some (.array [], rest)
    | .openBracket :: rest =>
      match elements? fuel rest with
      | some (elements, beyond) => some (.array elements, beyond)
      | none => none
    | .openBrace :: .closeBrace :: rest => some (.object [], rest)
    | .openBrace :: rest =>
      match members? fuel rest with
      | some (members, beyond) => some (.object members, beyond)
      | none => none
    | _ => none

/-- One element or more, up to the closing bracket. -/
def elements? : Nat → List Token → Option (List Value × List Token)
  | 0, _ => none
  | fuel + 1, tokens =>
    match value? fuel tokens with
    | some (first, .comma :: rest) =>
      match elements? fuel rest with
      | some (more, beyond) => some (first :: more, beyond)
      | none => none
    | some (first, .closeBracket :: rest) => some ([first], rest)
    | _ => none

/-- One member or more, up to the closing brace. -/
def members? : Nat → List Token → Option (List (Option Text × Value) × List Token)
  | 0, _ => none
  | fuel + 1, tokens =>
    match tokens with
    | .string name :: .colon :: inside =>
      match value? fuel inside with
      | some (first, .comma :: rest) =>
        match members? fuel rest with
        | some (more, beyond) => some ((name, first) :: more, beyond)
        | none => none
      | some (first, .closeBrace :: rest) => some ([(name, first)], rest)
      | _ => none
    | _ => none

end

/-- The value that a text spells. -/
def parse? (text : Text) : Option Value :=
  match tokens? text with
  | none => none
  | some tokens =>
    match value? (tokens.length + 1) tokens with
    | some (value, []) => some value
    | _ => none

end Marginalia.Json
