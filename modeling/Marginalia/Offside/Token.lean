import Marginalia.Offside.Source
import Marginalia.Text.Word

/-!
# Tokens of the offside language

A file is cut into tokens.  Line breaks that end a statement are tokens, and so
is every increase and decrease of indentation, so that blocks are bracketed
like anything else.  A token knows the lines and columns where it begins and
ends; lines are counted from one, columns in bytes from zero.
-/

namespace Marginalia.Offside

/-- What a token is. -/
inductive Kind where
  | name
  | number
  | string
  | operator
  | newline
  | indent
  | dedent
  | finish
  deriving DecidableEq

/-- A place in a file. -/
structure Place where
  line : Nat
  column : Nat
  deriving DecidableEq

/-- A token. -/
structure Token where
  kind : Kind
  text : Text
  start : Place
  stop : Place

/-! ## Names -/

/-- A character that a name may begin with, apart from those that are not
ASCII. -/
def isNameStart (c : Char) : Bool :=
  c.isAlpha || c == '_' || 0x80 ≤ c.toNat

/-- A character that may continue a name, apart from those that are not
ASCII. -/
def isNamePart (c : Char) : Bool :=
  isNameStart c || c.isDigit

/-- Letters that no name begins with, as their compatibility form begins
otherwise. -/
def startExceptions : List Nat :=
  [0x37A, 0xE33, 0xEB3, 0x2E2F, 0xFC5E, 0xFC5F, 0xFC60, 0xFC61, 0xFC62, 0xFC63, 0xFDFA, 0xFDFB,
    0xFE70, 0xFE72, 0xFE74, 0xFE76, 0xFE78, 0xFE7A, 0xFE7C, 0xFE7E, 0xFF9E, 0xFF9F]

/-- Whether a name may begin with a character. -/
def startsIdentifier (c : Char) : Bool :=
  (Text.isLetter c && !startExceptions.contains c.toNat) ||
    ['_', 'ᢅ', 'ᢆ', '℘', '℮'].contains c

/-- Ranges of characters that join no name though they are letters or marks. -/
def partExceptions : List (Nat × Nat) :=
  [(0x37A, 0x37A), (0x488, 0x489), (0x1ABE, 0x1ABE), (0x20DD, 0x20E0), (0x20E2, 0x20E4),
    (0x2E2F, 0x2E2F), (0xA670, 0xA672), (0xFC5E, 0xFC63), (0xFDFA, 0xFDFB), (0xFE70, 0xFE70),
    (0xFE72, 0xFE72), (0xFE74, 0xFE74), (0xFE76, 0xFE76), (0xFE78, 0xFE78), (0xFE7A, 0xFE7A),
    (0xFE7C, 0xFE7C), (0xFE7E, 0xFE7E)]

/-- Ranges of characters that join a name though they are neither letters nor
marks. -/
def partAdditions : List (Nat × Nat) :=
  [(0xB7, 0xB7), (0x387, 0x387), (0x1369, 0x1371), (0x19DA, 0x19DA), (0x2118, 0x2118),
    (0x212E, 0x212E)]

/-- Whether a name may go on with a character. -/
def continuesIdentifier (c : Char) : Bool :=
  ((Text.isLetter c || Text.isMark c) && !Text.inRanges partExceptions c.toNat) ||
    Text.inRanges partAdditions c.toNat

/-- Whether the bytes of a name spell an identifier. -/
def isIdentifier (name : Text) : Bool :=
  if name.all fun c => c.toNat < 0x80 then true
  else
    match Bytes.toText? (asBytes name) with
    | some (c :: rest) => startsIdentifier c && rest.all continuesIdentifier
    | _ => false

/-! ## Numbers -/

/-- What follows digits with single underscores between them, the first of
which was read; nothing where an underscore is followed by no digit. -/
def digitsTail? (isDigit : Char → Bool) (underscore : Bool) : Text → Option Text
  | [] => if underscore then none else some []
  | c :: rest =>
    if isDigit c then digitsTail? isDigit false rest
    else if underscore then none
    else if c == '_' then digitsTail? isDigit true rest
    else some (c :: rest)

/-- Words that may follow a number without a blank between. -/
def numberFollowers : List Text :=
  ["and", "else", "for", "if", "in", "is", "or"].map String.toList

/-- The rest behind a number, unless the number runs into a name. -/
def closeNumber? (rest : Text) : Option Text :=
  match rest with
  | [] => some rest
  | c :: _ =>
    if isNamePart c && !numberFollowers.any (Text.startsWith rest) then none else some rest

/-- The rest behind the mark of an imaginary number, if there is one. -/
def imaginary? (rest : Text) : Option Text :=
  match rest with
  | c :: more => if c == 'j' || c == 'J' then closeNumber? more else closeNumber? rest
  | [] => some rest

/-- The rest behind an exponent, if there is one. -/
def exponent? (rest : Text) : Option Text :=
  match rest with
  | c :: more =>
    if c == 'e' || c == 'E' then
      match more with
      | d :: tail =>
        if d == '+' || d == '-' then
          match tail with
          | e :: beyond =>
            if e.isDigit then (digitsTail? Char.isDigit false beyond).bind imaginary? else none
          | [] => none
        else if d.isDigit then (digitsTail? Char.isDigit false tail).bind imaginary?
        else closeNumber? rest
      | [] => closeNumber? rest
    else imaginary? rest
  | [] => some rest

/-- The rest behind a fraction, whose point was read. -/
def fraction? (rest : Text) : Option Text :=
  match rest with
  | c :: more =>
    if c.isDigit then (digitsTail? Char.isDigit false more).bind exponent? else exponent? rest
  | [] => some rest

/-- The rest behind what may follow the whole part of a number. -/
def afterWhole? (rest : Text) : Option Text :=
  match rest with
  | '.' :: more => fraction? more
  | _ => exponent? rest

/-- The rest behind digits of a base, the mark of which was read. -/
def based? (isDigit : Char → Bool) (rest : Text) : Option Text :=
  let start := match rest with
    | '_' :: more => more
    | _ => rest
  match start with
  | c :: more =>
    if isDigit c then
      (digitsTail? isDigit false more).bind fun beyond =>
        match beyond with
        | d :: _ => if d.isDigit then none else closeNumber? beyond
        | [] => some beyond
    else none
  | [] => none

/-- A hexadecimal digit. -/
def isHexDigit (c : Char) : Bool :=
  c.isDigit || ('a' ≤ c && c ≤ 'f') || ('A' ≤ c && c ≤ 'F')

/-- An octal digit. -/
def isOctalDigit (c : Char) : Bool :=
  '0' ≤ c && c ≤ '7'

/-- Most digits that a whole number may have. -/
def digitLimit : Nat := 4300

/-- The rest behind a number that begins with a digit.  Whole numbers other
than zero have no leading zero. -/
def number? (text : Text) : Option Text :=
  match text with
  | '0' :: c :: rest =>
    if c == 'x' || c == 'X' then based? isHexDigit rest
    else if c == 'o' || c == 'O' then based? isOctalDigit rest
    else if c == 'b' || c == 'B' then based? (fun d => d == '0' || d == '1') rest
    else
      (digitsTail? Char.isDigit false (c :: rest)).bind fun beyond =>
        let whole := text.take (text.length - beyond.length)
        let isReal := match beyond with
          | d :: _ => d == '.' || d == 'e' || d == 'E' || d == 'j' || d == 'J'
          | [] => false
        if whole.any (fun d => d != '0' && d != '_') && !isReal then none else afterWhole? beyond
  | c :: rest =>
    if c.isDigit then
      (digitsTail? Char.isDigit false rest).bind fun beyond =>
        let whole := text.take (text.length - beyond.length)
        (afterWhole? beyond).bind fun final =>
          if final.length == beyond.length && digitLimit < (whole.filter Char.isDigit).length then
            none
          else some final
    else none
  | [] => none

/-! ## Strings -/

/-- What may stand in front of the quote of a string, in lower case. -/
def stringMarks : List Text :=
  ["", "r", "u", "b", "f", "br", "rb", "fr", "rf"].map String.toList

/-- The length of a string behind its opening quote of one character, its
closing quote included. -/
def shortString? (quote : Char) (escaped : Bool) (passed : Nat) : Text → Option Nat
  | [] => none
  | c :: rest =>
    if escaped then shortString? quote false (passed + 1) rest
    else if c == quote then some (passed + 1)
    else if c == '\n' then none
    else shortString? quote (c == '\\') (passed + 1) rest

/-- The length of a string behind its opening quote of three characters, its
closing quote included; `seen` quote characters came last. -/
def longString? (quote : Char) (escaped : Bool) (seen passed : Nat) : Text → Option Nat
  | [] => none
  | c :: rest =>
    if escaped then longString? quote false 0 (passed + 1) rest
    else if c == quote then
      if seen == 2 then some (passed + 1) else longString? quote false (seen + 1) (passed + 1) rest
    else longString? quote (c == '\\') 0 (passed + 1) rest

/-- The length of a string at its opening quote. -/
def stringLength? : Text → Option Nat
  | a :: b :: c :: rest =>
    if a == b && b == c then (longString? a false 0 0 rest).map (· + 3)
    else (shortString? a false 0 (b :: c :: rest)).map (· + 1)
  | a :: rest => (shortString? a false 0 rest).map (· + 1)
  | [] => none

/-! ## Operators -/

/-- The operators, longer ones first. -/
def operators : List Text :=
  ["**=", "//=", ">>=", "<<=", "...", "**", "//", ">>", "<<", "<=", ">=", "==", "!=", "->", "+=",
    "-=", "*=", "/=", "%=", "&=", "|=", "^=", "@=", ":=", "<>", "(", ")", "[", "]", "\x7b", "\x7d",
    ",", ":", ";", ".", "+", "-", "*", "/", "%", "@", "&", "|", "^", "~", "<", ">", "="].map
    String.toList

/-- The bracket that closes an opening one. -/
def closing? (c : Char) : Option Char :=
  match c with
  | '(' => some ')'
  | '[' => some ']'
  | '{' => some '}'
  | _ => none

/-! ## Layout -/

/-- The state of reading a file. -/
structure State where
  rest : Text
  place : Place
  /-- The widths of the open blocks, innermost first, with tabs counted to the
  next multiple of eight and with tabs counted as one. -/
  indents : List (Nat × Nat)
  /-- The closing brackets that are still to come, innermost first. -/
  brackets : List Char
  /-- The current line holds nothing but blanks so far. -/
  blank : Bool

/-- The place behind a text. -/
def Place.after (place : Place) (text : Text) : Place :=
  text.foldl (fun place c =>
    if c == '\n' then { line := place.line + 1, column := 0 }
    else { place with column := place.column + 1 }) place

/-- Most blocks inside one another. -/
def blockLimit : Nat := 100

/-- Most brackets inside one another. -/
def bracketLimit : Nat := 200

/-- How far a line is indented. -/
structure Margin where
  wide : Nat
  narrow : Nat
  /-- The width in front of the first joined line, if it is not zero. -/
  joined : Nat
  rest : Text
  place : Place

/-- Measure the blanks at the beginning of a line.  Lines may be joined by a
backslash there, but not at the end of the file. -/
def measure? (wide narrow joined : Nat) (place : Place) : Text → Option Margin
  | ' ' :: rest =>
    measure? (wide + 1) (narrow + 1) joined { place with column := place.column + 1 } rest
  | '\t' :: rest =>
    measure? ((wide / 8 + 1) * 8) (narrow + 1) joined { place with column := place.column + 1 } rest
  | '\x0c' :: rest => measure? 0 0 joined { place with column := place.column + 1 } rest
  | ['\\', '\n'] => none
  | '\\' :: '\n' :: rest =>
    measure? wide narrow (if joined == 0 then wide else joined)
      { line := place.line + 1, column := 0 } rest
  | rest => some { wide, narrow, joined, rest, place }

/-- A token without text. -/
def emptyToken (kind : Kind) (place : Place) : Token :=
  { kind, text := [], start := place, stop := place }

/-- The tokens that a change of indentation gives, and the blocks that are open
then.  The tabs of neighbouring lines have to agree. -/
def relayout? (wide narrow : Nat) (place : Place) :
    List (Nat × Nat) → Option (List Token × List (Nat × Nat))
  | [] => none
  | (outerWide, outerNarrow) :: outer =>
    if wide == outerWide then
      if narrow == outerNarrow then some ([], (outerWide, outerNarrow) :: outer) else none
    else if outerWide < wide then
      if narrow ≤ outerNarrow || blockLimit ≤ outer.length + 1 then none
      else some ([emptyToken .indent place], (wide, narrow) :: (outerWide, outerNarrow) :: outer)
    else close outer [emptyToken .dedent place]
where
  /-- Close blocks until one of the line's width is reached. -/
  close : List (Nat × Nat) → List Token → Option (List Token × List (Nat × Nat))
    | [], _ => none
    | (outerWide, outerNarrow) :: outer, tokens =>
      if wide < outerWide then close outer (emptyToken .dedent place :: tokens)
      else if wide == outerWide && narrow == outerNarrow then
        some (tokens, (outerWide, outerNarrow) :: outer)
      else none

/-- A step of reading: tokens and the state behind them. -/
abbrev Step := Option (List Token × State)

/-- Take so many characters as a token. -/
def State.take (state : State) (kind : Kind) (length : Nat) : List Token × State :=
  let text := state.rest.take length
  let stop := state.place.after text
  ([{ kind, text, start := state.place, stop }],
    { state with rest := state.rest.drop length, place := stop })

/-- Pass over so many characters that are on one line. -/
def State.skip (state : State) (length : Nat) : State :=
  { state with
    rest := state.rest.drop length
    place := { state.place with column := state.place.column + length } }

/-- Begin a line: measure it and open or close blocks, unless it is blank or
inside brackets. -/
def State.beginLine? (state : State) : Step :=
  match measure? 0 0 0 state.place state.rest with
  | none => none
  | some margin =>
    let state := { state with rest := margin.rest, place := margin.place, blank := false }
    match margin.rest with
    | '#' :: _ | '\n' :: _ => some ([], { state with blank := true })
    | _ =>
      if state.brackets.isEmpty then
        let wide := if margin.joined == 0 then margin.wide else margin.joined
        let narrow := if margin.joined == 0 then margin.narrow else margin.joined
        (relayout? wide narrow state.place state.indents).map fun (tokens, indents) =>
          (tokens, { state with indents })
      else some ([], state)

/-- End a line.  Only a line that holds something outside brackets ends a
statement. -/
def State.endLine? (state : State) : Step :=
  let (tokens, beyond) := state.take .newline 1
  let tokens := if state.blank || !state.brackets.isEmpty then [] else tokens
  beyond.beginLine?.map fun (more, final) => (tokens ++ more, final)

/-- Read a name, or a string that a name marks. -/
def State.word? (state : State) : Step :=
  let word := state.rest.takeWhile isNamePart
  let beyond := state.rest.drop word.length
  let quoted := match beyond with
    | c :: _ => (c == '"' || c == '\'') && stringMarks.contains (word.map Char.toLower)
    | [] => false
  if quoted then
    (stringLength? beyond).map fun length => state.take .string (word.length + length)
  else if isIdentifier word then some (state.take .name word.length)
  else none

/-- Read an operator, and keep account of brackets. -/
def State.operator? (state : State) : Step :=
  match operators.find? (Text.startsWith state.rest) with
  | none => none
  | some spelling =>
    let (tokens, beyond) := state.take .operator spelling.length
    match spelling with
    | [c] =>
      match closing? c with
      | some close =>
        if bracketLimit ≤ state.brackets.length then none
        else some (tokens, { beyond with brackets := close :: state.brackets })
      | none =>
        if c == ')' || c == ']' || c == '}' then
          match state.brackets with
          | expected :: outer =>
            if c == expected then some (tokens, { beyond with brackets := outer }) else none
          | [] => none
        else some (tokens, beyond)
    | _ => some (tokens, beyond)

/-- Read a number. -/
def State.numeral? (state : State) (beyond : Option Text) : Step :=
  beyond.map fun beyond => state.take .number (state.rest.length - beyond.length)

/-- One step of reading at a character. -/
def State.step? (state : State) (c : Char) (more : Text) : Step :=
  if c == ' ' || c == '\t' || c == '\x0c' then some ([], state.skip 1)
  else if c == '#' then some ([], state.skip (Text.upTo state.rest '\n').length)
  else if c == '\n' then state.endLine?
  else if c == '\\' then
    match more with
    | '\n' :: _ :: _ =>
      some ([], { state with
        rest := more.drop 1, place := { line := state.place.line + 1, column := 0 } })
    | _ => none
  else if isNameStart c then state.word?
  else if c == '"' || c == '\'' then
    (stringLength? state.rest).map fun length => state.take .string length
  else if c.isDigit then state.numeral? (number? state.rest)
  else if c == '.' && more.head?.any Char.isDigit then state.numeral? (fraction? more)
  else state.operator?

/-- The tokens from a state on, in at most `fuel` steps. -/
def tokensFrom : Nat → State → Option (List Token)
  | 0, _ => none
  | fuel + 1, state =>
    match state.rest with
    | [] => if state.brackets.isEmpty then some [emptyToken .finish state.place] else none
    | c :: more =>
      match state.step? c more with
      | none => none
      | some (tokens, next) => (tokensFrom fuel next).map (tokens ++ ·)

/-- The tokens of a text that is ready for reading. -/
def tokens? (text : Text) : Option (List Token) :=
  let start : State :=
    { rest := text, place := { line := 1, column := 0 }, indents := [(0, 0)], brackets := []
      blank := false }
  match start.beginLine? with
  | none => none
  | some (tokens, state) => (tokensFrom (text.length + 1) state).map (tokens ++ ·)

end Marginalia.Offside
