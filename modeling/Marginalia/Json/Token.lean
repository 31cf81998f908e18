import Marginalia.Text.Basic

/-!
# Tokens of JSON

A JSON text is a sequence of tokens with blanks between them.  A string keeps
its decoded text, unless its escapes spell half of a surrogate pair: then it is
well-formed but stands for no text.  A number keeps the spelling it was written
with.
-/

namespace Marginalia.Json

/-- A token. -/
inductive Token where
  | openBrace
  | closeBrace
  | openBracket
  | closeBracket
  | colon
  | comma
  | string (value : Option Text)
  | number (spelling : Text)
  | true
  | false
  | null
  deriving DecidableEq

/-- A blank between tokens. -/
def isSpace (c : Char) : Bool :=
  c == ' ' || c == '\n' || c == '\t' || c == '\r'

/-- The value of a hexadecimal digit. -/
def hexValue? (c : Char) : Option Nat :=
  if '0' ≤ c && c ≤ '9' then some (c.toNat - '0'.toNat)
  else if 'a' ≤ c && c ≤ 'f' then some (c.toNat - 'a'.toNat + 10)
  else if 'A' ≤ c && c ≤ 'F' then some (c.toNat - 'A'.toNat + 10)
  else none

/-- The number that four hexadecimal digits stand for, and what follows. -/
def unit? : Text → Option (Nat × Text)
  | a :: b :: c :: d :: rest =>
    match hexValue? a, hexValue? b, hexValue? c, hexValue? d with
    | some a, some b, some c, some d => some (((a * 16 + b) * 16 + c) * 16 + d, rest)
    | _, _, _, _ => none
  | _ => none

/-- A piece of a string: a character, or a UTF-16 unit that was escaped. -/
inductive Piece where
  | char (value : Char)
  | unit (value : Nat)

/-- The character that a letter behind a backslash stands for. -/
def escaped? (c : Char) : Option Char :=
  match c with
  | '"' | '\\' | '/' => some c
  | 'b' => some '\x08'
  | 'f' => some '\x0c'
  | 'n' => some '\n'
  | 'r' => some '\r'
  | 't' => some '\t'
  | _ => none

/-- The pieces of a string up to its closing quote, and what follows.  The text
has at most `fuel` characters. -/
def pieces? : Nat → Text → Option (List Piece × Text)
  | 0, _ => none
  | _ + 1, [] => none
  | fuel + 1, c :: rest =>
    if c == '"' then some ([], rest)
    else if c.toNat < 0x20 then none
    else if c != '\\' then prepend (.char c) (pieces? fuel rest)
    else
      match rest with
      | 'u' :: digits =>
        match unit? digits with
        | some (value, more) => prepend (.unit value) (pieces? fuel more)
        | none => none
      | e :: more =>
        match escaped? e with
        | some value => prepend (.char value) (pieces? fuel more)
        | none => none
      | [] => none
where
  /-- Put a piece in front. -/
  prepend (piece : Piece) : Option (List Piece × Text) → Option (List Piece × Text)
    | some (more, rest) => some (piece :: more, rest)
    | none => none

/-- The text of the pieces of a string, unless a surrogate stands alone. -/
def decode? : List Piece → Option Text
  | [] => some []
  | .char c :: rest => (decode? rest).map (c :: ·)
  | .unit high :: rest =>
    if 0xDC00 ≤ high && high ≤ 0xDFFF then none
    else if 0xD800 ≤ high && high ≤ 0xDBFF then
      match rest with
      | .unit low :: more =>
        if 0xDC00 ≤ low && low ≤ 0xDFFF then
          (decode? more).map
            (Char.ofNat (0x10000 + (high - 0xD800) * 0x400 + (low - 0xDC00)) :: ·)
        else none
      | _ => none
    else (decode? rest).map (Char.ofNat high :: ·)

/-- A digit. -/
def isDigit (c : Char) : Bool :=
  '0' ≤ c && c ≤ '9'

/-- What follows a run of one digit or more. -/
def digits? (text : Text) : Option Text :=
  match text.dropWhile isDigit with
  | rest => if rest.length == text.length then none else some rest

/-- What follows the whole part of a number, which has no needless zero. -/
def whole? (text : Text) : Option Text :=
  match text with
  | '0' :: rest => some rest
  | _ => digits? text

/-- What follows the fraction of a number, if it has one. -/
def fraction? (text : Text) : Option Text :=
  match text with
  | '.' :: rest => digits? rest
  | _ => some text

/-- What follows the exponent of a number, if it has one. -/
def exponent? (text : Text) : Option Text :=
  match text with
  | c :: rest =>
    if c == 'e' || c == 'E' then
      match rest with
      | s :: more => if s == '+' || s == '-' then digits? more else digits? rest
      | [] => none
    else some text
  | [] => some text

/-- What follows a number. -/
def number? (text : Text) : Option Text :=
  let unsigned := match text with
    | '-' :: rest => rest
    | _ => text
  (whole? unsigned).bind fun rest => (fraction? rest).bind exponent?

/-- A character that may occur in a number. -/
def isNumeric (c : Char) : Bool :=
  isDigit c || c == '-' || c == '+' || c == '.' || c == 'e' || c == 'E'

/-- The first token of a text that begins with none of the blanks, and what
follows. -/
def token? (text : Text) : Option (Token × Text) :=
  match text with
  | [] => none
  | c :: rest =>
    match c with
    | '{' => some (.openBrace, rest)
    | '}' => some (.closeBrace, rest)
    | '[' => some (.openBracket, rest)
    | ']' => some (.closeBracket, rest)
    | ':' => some (.colon, rest)
    | ',' => some (.comma, rest)
    | '"' => (pieces? (rest.length + 1) rest).map fun (pieces, beyond) =>
        (.string (decode? pieces), beyond)
    | 't' => (Text.after? text "true".toList).map fun beyond => (.true, beyond)
    | 'f' => (Text.after? text "false".toList).map fun beyond => (.false, beyond)
    | 'n' => (Text.after? text "null".toList).map fun beyond => (.null, beyond)
    | _ =>
      let scope := text.takeWhile isNumeric
      (number? scope).map fun left =>
        let length := scope.length - left.length
        (.number (text.take length), text.drop length)

/-- The tokens of a text of at most `fuel` characters. -/
def tokensWithin : Nat → Text → Option (List Token)
  | 0, _ => some []
  | fuel + 1, text =>
    match text.dropWhile isSpace with
    | [] => some []
    | rest =>
      match token? rest with
      | none => none
      | some (token, beyond) => (tokensWithin fuel beyond).map (token :: ·)

/-- The tokens of a text. -/
def tokens? (text : Text) : Option (List Token) :=
  tokensWithin (text.length + 1) text

end Marginalia.Json
