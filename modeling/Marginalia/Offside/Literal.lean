import Marginalia.Offside.Token

/-!
# String literals of the offside language

The marks in front of a string tell whether it holds bytes, whether backslashes
escape, and whether it is a formatted string with expressions in braces.  This
module checks the escapes and finds the expressions.
-/

namespace Marginalia.Offside

/-- A string literal taken apart. -/
structure Literal where
  bytes : Bool
  raw : Bool
  formatted : Bool
  body : Text

/-- Take a string token apart. -/
def Literal.ofToken (text : Text) : Literal :=
  let marks := text.takeWhile fun c => c != '"' && c != '\''
  let lower := marks.map Char.toLower
  let quoted := text.drop marks.length
  let width := match quoted with
    | a :: b :: c :: _ :: _ :: _ => if a == b && b == c then 3 else 1
    | _ => 1
  { bytes := lower.contains 'b'
    raw := lower.contains 'r'
    formatted := lower.contains 'f'
    body := (quoted.drop width).take (quoted.length - 2 * width) }

/-! ## Escapes -/

/-- Whether so many hexadecimal digits come first, and a condition holds of the
number that they stand for. -/
def hexAhead (count : Nat) (holds : Nat → Bool) (text : Text) : Bool :=
  let digits := text.take count
  digits.length == count && digits.all isHexDigit && holds (digits.foldl value 0)
where
  /-- Append a digit to a number. -/
  value (total : Nat) (c : Char) : Nat :=
    total * 16 +
      if c.isDigit then c.toNat - '0'.toNat else c.toLower.toNat - 'a'.toNat + 10

/-- Whether a named character comes first: a name in braces. -/
def nameAhead : Text → Bool
  | '{' :: rest =>
    let name := Text.upTo rest '}'
    !name.isEmpty && name.length < rest.length &&
      name.all fun c => c.isAlphanum || c == ' ' || c == '-'
  | _ => false

/-- Whether what follows a backslash is an escape or stands for itself. -/
def escapeFits (bytes : Bool) : Text → Bool
  | 'x' :: rest => hexAhead 2 (fun _ => true) rest
  | 'u' :: rest => bytes || hexAhead 4 (fun _ => true) rest
  | 'U' :: rest => bytes || hexAhead 8 (· ≤ 0x10FFFF) rest
  | 'N' :: rest => bytes || nameAhead rest
  | _ => true

/-- Whether every escape of a text fits; `escaped` says that the next character
belongs to one. -/
def escapesFit (bytes : Bool) (escaped : Bool) : Text → Bool
  | [] => true
  | c :: rest =>
    if escaped then escapesFit bytes false rest
    else if c == '\\' then escapeFits bytes rest && escapesFit bytes true rest
    else escapesFit bytes false rest

/-- Whether a literal that is not formatted stands for a value. -/
def Literal.fits (literal : Literal) (body : Text) : Bool :=
  (literal.raw || escapesFit literal.bytes false body) &&
    if literal.bytes then body.all fun c => c.toNat < 0x80
    else (Bytes.toText? (asBytes body)).isSome

/-! ## Formatted strings -/

/-- Where a formatted string is read.  `spec` format specifications are open
inside one another. -/
inductive FormatState where
  /-- In literal text. -/
  | literal (spec : Nat)
  /-- In an expression: the brackets that are still to come, the quote of an
  open string and whether it is a long one, and the text so far in reverse. -/
  | expression (spec : Nat) (brackets : List Char) (quote : Option (Char × Bool)) (seen : Text)
  /-- Behind an expression and its equals sign. -/
  | shown (spec : Nat)
  /-- Behind an expression and its conversion. -/
  | converted (spec : Nat)

/-- What one character leads to: the next state, how many of the following
characters it takes along, and the expression that it ends. -/
structure FormatStep where
  state : FormatState
  skip : Nat := 0
  found : Option Text := none

/-- A blank inside an expression. -/
def isExpressionBlank (c : Char) : Bool :=
  c == ' ' || c == '\t' || c == '\n' || c == '\x0c'

/-- A step in literal text. -/
def literalStep (raw : Bool) (spec : Nat) (c : Char) (rest : Text) : Option FormatStep :=
  if c == '\\' && !raw then
    match rest with
    | 'N' :: '{' :: name =>
      some { state := .literal spec, skip := (Text.upTo name '}').length + 3 }
    | d :: _ => some { state := .literal spec, skip := if d == '{' || d == '}' then 0 else 1 }
    | [] => some { state := .literal spec }
  else if c == '{' then
    if spec == 0 && rest.head? == some '{' then some { state := .literal spec, skip := 1 }
    else if 2 ≤ spec then none
    else some { state := .expression spec [] none [] }
  else if c == '}' then
    if spec != 0 then some { state := .literal (spec - 1) }
    else if rest.head? == some '}' then some { state := .literal spec, skip := 1 }
    else none
  else some { state := .literal spec }

/-- A step behind an expression. -/
def tailStep (spec : Nat) (c : Char) (rest : Text) : Option FormatStep :=
  if c == '}' then some { state := .literal spec }
  else if c == ':' then some { state := .literal (spec + 1) }
  else if c == '!' then
    if rest.head?.any fun d => d == 's' || d == 'r' || d == 'a' then
      some { state := .converted spec, skip := 1 }
    else none
  else if c == '=' then some { state := .shown spec }
  else none

/-- A step in an expression, outside its strings.  `go` goes on with other
brackets, and `seen` holds the expression so far in reverse. -/
def codeStep (spec : Nat) (brackets : List Char) (seen : Text) (c : Char) (rest : Text) :
    Option FormatStep :=
  let go (brackets : List Char) : Option FormatStep :=
    some { state := .expression spec brackets none (c :: seen) }
  match closing? c, brackets with
  | some close, _ => if bracketLimit ≤ brackets.length then none else go (close :: brackets)
  | none, expected :: outer =>
    if c == ')' || c == ']' || c == '}' then
      if c == expected then go outer else none
    else go brackets
  | none, [] =>
    if rest.head? == some '=' && (c == '!' || c == '=' || c == '<' || c == '>') then
      some { state := .expression spec [] none ('=' :: c :: seen), skip := 1 }
    else if c == '!' || c == ':' || c == '}' || c == '=' then
      if seen.all isExpressionBlank then none
      else (tailStep spec c rest).map fun step => { step with found := some seen.reverse }
    else if c == ')' || c == ']' then none
    else go []

/-- A step in an expression. -/
def expressionStep (spec : Nat) (brackets : List Char) (quote : Option (Char × Bool))
    (seen : Text) (c : Char) (rest : Text) : Option FormatStep :=
  let thrice := rest.take 2 == [c, c]
  let turn (quote : Option (Char × Bool)) : Option FormatStep :=
    some { state := .expression spec brackets quote (c :: seen) }
  let turnThrice (quote : Option (Char × Bool)) : Option FormatStep :=
    some { state := .expression spec brackets quote (c :: c :: c :: seen), skip := 2 }
  if c == '\\' then none
  else
    match quote with
    | some (mark, long) =>
      if c != mark then turn quote
      else if !long then turn none
      else if thrice then turnThrice none
      else turn quote
    | none =>
      if c == '"' || c == '\'' then
        if thrice then turnThrice (some (c, true)) else turn (some (c, false))
      else if c == '#' then none
      else codeStep spec brackets seen c rest

/-- A step of reading a formatted string; `raw` says that backslashes stand for
themselves. -/
def FormatState.step (raw : Bool) (state : FormatState) (c : Char) (rest : Text) :
    Option FormatStep :=
  match state with
  | .literal spec => literalStep raw spec c rest
  | .expression spec brackets quote seen => expressionStep spec brackets quote seen c rest
  | .shown spec =>
    if c == ' ' || (9 ≤ c.toNat && c.toNat ≤ 13) then some { state }
    else if c == '=' then none
    else tailStep spec c rest
  | .converted spec => if c == '!' || c == '=' then none else tailStep spec c rest

/-- The expressions of a formatted string, in order.  Nothing where the braces
do not fit. -/
def expressions? (raw : Bool) (state : FormatState) (skip : Nat) : Text → Option (List Text)
  | [] =>
    match state with
    | .literal 0 => some []
    | _ => none
  | c :: rest =>
    if skip != 0 then expressions? raw state (skip - 1) rest
    else
      match state.step raw c rest with
      | none => none
      | some step =>
        (expressions? raw step.state step.skip rest).map (step.found.toList ++ ·)

/-- The expressions of a string token, which are none unless it is formatted;
nothing where the token stands for no value. -/
def embedded? (text : Text) : Option (List Text) :=
  let literal := Literal.ofToken text
  if !literal.fits literal.body then none
  else if literal.formatted then expressions? literal.raw (.literal 0) 0 literal.body
  else some []

/-- Whether neighbouring strings are all of bytes or all of characters. -/
def concatenable (bytes? : Option Bool) : List Token → Bool
  | [] => true
  | token :: rest =>
    if token.kind == .string then
      let bytes := (Literal.ofToken token.text).bytes
      bytes?.all (· == bytes) && concatenable (some bytes) rest
    else concatenable none rest

end Marginalia.Offside
