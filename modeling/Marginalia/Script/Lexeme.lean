import Marginalia.Text.Basic

/-!
# Lexemes of scripts

Scripts (JavaScript, TypeScript and their JSX dialects) are read without a
separate token list, because what a character means depends on the phrase it
stands in: a slash divides or opens a pattern, an angle bracket compares or
opens a tag.  A `Cursor` stands behind the last lexeme; it knows the gap of
blanks and comments that follows and the text behind the gap.  `Lexeme.read`
reads one lexeme at a cursor.
-/

namespace Marginalia.Script

/-! ## Gaps -/

/-- White space between lexemes, which includes some invisible characters but not
the control character for a next line. -/
def isSpace (c : Char) : Bool :=
  (Text.isBlank c && c != '\u0085') || c == '\ufeff' || c == '\u2060' || c == '\u200b'

/-- A character that ends a line comment. -/
def endsLine (c : Char) : Bool :=
  c == '\n' || c == '\r' || c == '\u2028' || c == '\u2029'

/-- Where a scan through a gap stands. -/
inductive GapState where
  | between
  | afterSlash
  | lineComment
  | blockComment
  | blockStar

/-- The number of characters of the gap at the beginning of a text.  `passed`
characters were scanned, the first `closed` of which belong to the gap for
certain; a block comment that is never closed does not. -/
def gapLength (state : GapState) (passed closed : Nat) : Text → Nat
  | [] =>
    match state with
    | .between | .lineComment => passed
    | _ => closed
  | c :: rest =>
    match state with
    | .between =>
      if isSpace c then gapLength .between (passed + 1) (passed + 1) rest
      else if c == '/' then gapLength .afterSlash (passed + 1) closed rest
      else closed
    | .afterSlash =>
      if c == '/' then gapLength .lineComment (passed + 1) closed rest
      else if c == '*' then gapLength .blockComment (passed + 1) closed rest
      else closed
    | .lineComment =>
      if endsLine c then gapLength .between (passed + 1) (passed + 1) rest
      else gapLength .lineComment (passed + 1) closed rest
    | .blockComment =>
      gapLength (if c == '*' then .blockStar else .blockComment) (passed + 1) closed rest
    | .blockStar =>
      if c == '/' then gapLength .between (passed + 1) (passed + 1) rest
      else gapLength (if c == '*' then .blockStar else .blockComment) (passed + 1) closed rest

/-- A place in a script: the gap behind the last lexeme and what follows it. -/
structure Cursor where
  gap : Text
  rest : Text

/-- The cursor in front of a text. -/
def Cursor.at (text : Text) : Cursor :=
  let length := gapLength .between 0 0 text
  { gap := text.take length, rest := text.drop length }

/-- Everything behind the last lexeme. -/
def Cursor.remaining (cursor : Cursor) : Text :=
  cursor.gap ++ cursor.rest

/-- A lexeme with the gap in front of it. -/
structure Token where
  gap : Text
  text : Text

/-! ## Character classes -/

/-- A character that may continue a name. -/
def isNamePart (c : Char) : Bool :=
  ('a' ≤ c && c ≤ 'z') || ('A' ≤ c && c ≤ 'Z') || ('0' ≤ c && c ≤ '9') || c == '_' || c == '$' ||
    (0x7F ≤ c.toNat && !isSpace c)

/-- A character that may begin a name. -/
def isNameStart (c : Char) : Bool :=
  isNamePart c && !('0' ≤ c && c ≤ '9')

/-- A hexadecimal digit. -/
def isHexDigit (c : Char) : Bool :=
  ('0' ≤ c && c ≤ '9') || ('a' ≤ c && c ≤ 'f') || ('A' ≤ c && c ≤ 'F')

/-- An octal digit. -/
def isOctalDigit (c : Char) : Bool :=
  '0' ≤ c && c ≤ '7'

/-! ## Scanners

A scanner gives the number of characters that it matches at the beginning of a
text. -/

/-- So many hexadecimal digits. -/
def hexDigits? (count : Nat) (text : Text) : Option Nat :=
  let digits := text.take count
  if digits.length == count && digits.all isHexDigit then some count else none

/-- A code point in hexadecimal: four digits, or any number of digits in
braces. -/
def codePoint? (text : Text) : Option Nat :=
  match text with
  | '{' :: rest =>
    let count := (rest.takeWhile isHexDigit).length
    if count != 0 && (rest.drop count).head? == some '}' then some (count + 2) else none
  | _ => hexDigits? 4 text

/-- A name, escapes included; zero where none begins. -/
def nameLength (text : Text) : Nat :=
  go 0 0 text
where
  /-- Continue a name of `passed` characters, the next `skip` of which belong
  to an escape. -/
  go (skip passed : Nat) : Text → Nat
    | [] => passed
    | c :: rest =>
      if skip != 0 then go (skip - 1) (passed + 1) rest
      else if c == '\\' then
        match rest with
        | 'u' :: more =>
          match codePoint? more with
          | some length => go (length + 1) (passed + 1) rest
          | none => passed
        | _ => passed
      else if isNamePart c && (passed != 0 || isNameStart c) then go 0 (passed + 1) rest
      else passed

/-- An escape sequence behind its backslash. -/
def escape? (text : Text) : Option Nat :=
  match text with
  | [] => none
  | 'x' :: rest => (hexDigits? 2 rest).map (· + 1)
  | 'u' :: rest => (codePoint? rest).map (· + 1)
  | '\r' :: '\n' :: _ => some 2
  | c :: _ => if isOctalDigit c then some ((text.take 3).takeWhile isOctalDigit).length else some 1

/-- A quoted string behind its opening quote.  Line breaks need an escape. -/
def quoted? (quote : Char) (text : Text) : Option Nat :=
  go 0 0 text
where
  /-- Continue behind `passed` characters, the next `skip` of which belong to
  an escape. -/
  go (skip passed : Nat) : Text → Option Nat
    | [] => none
    | c :: rest =>
      if skip != 0 then go (skip - 1) (passed + 1) rest
      else if c == quote then some (passed + 1)
      else if c == '\\' then
        match escape? rest with
        | some length => go length (passed + 1) rest
        | none => none
      else if c == '\n' || c == '\r' then none
      else go 0 (passed + 1) rest

/-- A regular expression behind its opening slash, up to the closing one.
`escaped` says that a backslash came last, `inClass` that a bracketed class is
open. -/
def patternBody? (escaped inClass : Bool) (passed : Nat) : Text → Option Nat
  | [] => none
  | c :: rest =>
    if c == '\n' then none
    else if escaped then patternBody? false inClass (passed + 1) rest
    else if c == '\\' then patternBody? true inClass (passed + 1) rest
    else if inClass then patternBody? false (c != ']') (passed + 1) rest
    else if c == '/' then some (passed + 1)
    else patternBody? false (c == '[') (passed + 1) rest

/-- The text behind a run of digits with single underscores between them, which
must hold one digit at least. -/
def digits? (isDigit : Char → Bool) (text : Text) : Option Text :=
  match text with
  | [] => none
  | c :: rest => if isDigit c then some (go false rest) else none
where
  /-- Continue behind a digit, or behind an underscore. -/
  go (underscore : Bool) : Text → Text
    | [] => if underscore then ['_'] else []
    | c :: rest =>
      if isDigit c then go false rest
      else if underscore then '_' :: c :: rest
      else if c == '_' then go true rest
      else c :: rest

/-- The text behind an exponent, if there is one. -/
def behindExponent (text : Text) : Text :=
  match text with
  | c :: rest =>
    if c == 'e' || c == 'E' then
      let unsigned := match rest with
        | s :: more => if s == '+' || s == '-' then more else rest
        | [] => rest
      (digits? Char.isDigit unsigned).getD text
    else text
  | [] => text

/-- The text behind the mark of a big integer, if there is one. -/
def behindBigMark (text : Text) : Text :=
  match text with
  | 'n' :: rest => rest
  | _ => text

/-- The text behind a decimal number. -/
def behindDecimal? (text : Text) : Option Text :=
  match digits? Char.isDigit text with
  | none => none
  | some beyond =>
    match beyond with
    | '.' :: fraction => some (behindExponent ((digits? Char.isDigit fraction).getD fraction))
    | 'n' :: rest => some rest
    | _ => some (behindExponent beyond)

/-- The text behind a number. -/
def behindNumber? (text : Text) : Option Text :=
  match text with
  | '.' :: rest => (digits? Char.isDigit rest).map behindExponent
  | '0' :: c :: rest =>
    let based :=
      if c == 'x' || c == 'X' then digits? isHexDigit rest
      else if c == 'o' || c == 'O' then digits? isOctalDigit rest
      else if c == 'b' || c == 'B' then digits? (fun d => d == '0' || d == '1') rest
      else none
    match based with
    | some beyond => some (behindBigMark beyond)
    | none => behindDecimal? text
  | _ => behindDecimal? text

/-- A number. -/
def number? (text : Text) : Option Nat :=
  let scope := text.takeWhile fun c => isNamePart c || c == '.' || c == '+' || c == '-'
  (behindNumber? scope).map (scope.length - ·.length)

/-- The operators of more than one character, those that another one begins
with after it. -/
def longOperators : List Text :=
  [">>>=", "===", "!==", "**=", "<<=", ">>=", ">>>", "&&=", "||=", "??=", "...", "=>", "==", "!=",
    "<=", ">=", "&&", "||", "??", "?.", "++", "--", "+=", "-=", "*=", "/=", "%=", "&=", "|=", "^=",
    "<<", ">>", "**"].map String.toList

/-- The longest operator at the beginning of a text.  A question mark and a
point before a digit are two operators. -/
def operatorAt (text : Text) : Text :=
  match text with
  | '?' :: '.' :: c :: _ => if c.isDigit then ['?'] else ['?', '.']
  | _ => (longOperators.find? text.startsWith).getD (text.take 1)

/-! ## Automatic semicolons -/

/-- ASCII white space. -/
def isPlainSpace (c : Char) : Bool :=
  c == ' ' || (9 ≤ c.toNat && c.toNat ≤ 13)

/-- What follows the plain white space and the comments at the beginning of a
text, unless a slash stands there that begins no comment.  Line comments go on to
a line feed here, and a null character ends every comment. -/
def behindRemarks? (state : GapState) : Text → Option Text
  | [] =>
    match state with
    | .afterSlash => none
    | _ => some []
  | c :: rest =>
    match state with
    | .between =>
      if isPlainSpace c then behindRemarks? .between rest
      else if c == '/' then behindRemarks? .afterSlash rest
      else some (c :: rest)
    | .afterSlash =>
      if c == '/' then behindRemarks? .lineComment rest
      else if c == '*' then behindRemarks? .blockComment rest
      else none
    | .lineComment =>
      if c == '\x00' then some (c :: rest)
      else behindRemarks? (if c == '\n' then .between else .lineComment) rest
    | .blockComment =>
      if c == '\x00' then some (c :: rest)
      else behindRemarks? (if c == '*' then .blockStar else .blockComment) rest
    | .blockStar =>
      if c == '\x00' then some (c :: rest)
      else behindRemarks?
        (if c == '/' then .between else if c == '*' then .blockStar else .blockComment) rest

/-- Whether a text on a new line begins a new statement.  `operand` says that a
binary operator could stand there, `signature` that the body of a function
could. -/
def beginsAnew (operand signature : Bool) : Text → Bool
  | [] => true
  | c :: rest =>
    match c with
    | '\x60' | ',' | '.' | ';' | '*' | '%' | '>' | '<' | '=' | '?' | '^' | '|' | '&' | '/'
    | ':' =>
      false
    | '{' => !signature
    | '(' | '[' => !operand
    | '+' => rest.head? == some '+'
    | '-' => rest.head? == some '-'
    | '!' => rest.head? != some '='
    | 'i' =>
      match rest with
      | 'n' :: more =>
        !(!startsName more || (match Text.after? more "stanceof".toList with
          | some beyond => !startsName beyond
          | none => false))
      | _ => true
    | _ => true
where
  /-- Whether a letter comes first. -/
  startsName : Text → Bool
    | c :: _ => c.isAlpha
    | [] => false

/-- Whether a semicolon is put in front of a text that has none: at its end, in
front of a closing brace, and at a line feed if what follows it begins a new
statement.  Only plain white space may stand in front of these. -/
def endsHere (operand signature : Bool) : Text → Bool
  | [] => true
  | c :: rest =>
    if c == '\x00' then true
    else if c == '}' then
      match rest.dropWhile isPlainSpace with
      | ':' :: _ => operand
      | _ => true
    else if c == '\n' then
      match behindRemarks? .between rest with
      | some beyond => beginsAnew operand signature beyond
      | none => false
    else if isPlainSpace c then endsHere operand signature rest
    else false

/-- Where the comments of a gap end, `passed` characters into which it begins. -/
def commentEnds (state : GapState) (passed : Nat) : Text → List Nat
  | [] =>
    match state with
    | .lineComment => [passed]
    | _ => []
  | c :: rest =>
    match state with
    | .between => commentEnds (if c == '/' then .afterSlash else .between) (passed + 1) rest
    | .afterSlash =>
      commentEnds (if c == '/' then .lineComment else .blockComment) (passed + 1) rest
    | .lineComment =>
      if endsLine c then passed :: commentEnds .between (passed + 1) rest
      else commentEnds .lineComment (passed + 1) rest
    | .blockComment =>
      commentEnds (if c == '*' then .blockStar else .blockComment) (passed + 1) rest
    | .blockStar =>
      if c == '/' then (passed + 1) :: commentEnds .between (passed + 1) rest
      else commentEnds (if c == '*' then .blockStar else .blockComment) (passed + 1) rest

/-- How far behind the last lexeme a semicolon is put that is not there: directly
behind it, or behind the first comment of the gap where this can be done. -/
def ending? (operand signature : Bool) (cursor : Cursor) : Option Nat :=
  (0 :: commentEnds .between 0 cursor.gap).find? fun passed =>
    endsHere operand signature (cursor.remaining.drop passed)

/-! ## Lexemes -/

/-- What a script can be asked to hold at a cursor. -/
inductive Lexeme where
  /-- A word with this spelling. -/
  | word (spelling : Text)
  /-- A name that is none of the words listed. -/
  | name (barred : List Text)
  /-- One of these operators, where no longer operator stands. -/
  | operator (spellings : List Text)
  /-- These characters, whatever follows. -/
  | mark (spelling : Text)
  /-- These characters directly behind the last lexeme. -/
  | adjoined (spelling : Text)
  | number
  | string
  | pattern
  | privateName
  | interpreterLine
  /-- A comment in the manner of markup, up to the end of its line.  Only when
  `fresh`, directly behind the end of a statement or an opening brace, may it
  open with the mark that also compares, or stand on the line of what comes
  before it. -/
  | markupComment (fresh : Bool)
  /-- Characters of a template that stand for themselves. -/
  | templateText
  /-- An escape sequence of a template. -/
  | templateEscape
  /-- Text between tags. -/
  | tagText
  /-- A character reference between tags. -/
  | tagReference
  /-- A quoted attribute value, which may hold line breaks. -/
  | tagString
  /-- A name with hyphens. -/
  | tagName
  /-- The statement ends here, though no semicolon stands here. -/
  | ending (operand signature : Bool)
  /-- The comments behind the last lexeme up to the one behind which the statement
  ends. -/
  | remark (operand : Bool)
  /-- The script ends here. -/
  | finish

/-- Take so many characters behind the gap as one token. -/
def Cursor.advance (cursor : Cursor) (length : Nat) : Option (Option Token × Cursor) :=
  some (some { gap := cursor.gap, text := cursor.rest.take length },
    Cursor.at (cursor.rest.drop length))

/-- Take so many characters as one token, those of the gap included. -/
def Cursor.advanceInGap (cursor : Cursor) (length : Nat) : Option (Option Token × Cursor) :=
  let raw := cursor.remaining
  some (some { gap := [], text := raw.take length }, Cursor.at (raw.drop length))

/-- Template characters: up to a backquote, a backslash or an opened
substitution. -/
def templateLength (passed : Nat) : Text → Nat
  | [] => passed
  | c :: rest =>
    if c == '\x60' || c == '\\' || (c == '$' && rest.head? == some '{') then passed
    else templateLength (passed + 1) rest

/-- Text between tags, when it holds more than line breaks with the blanks that
follow them. -/
def tagTextLength? (seen atBreak : Bool) (passed : Nat) : Text → Option Nat
  | [] => if seen then some passed else none
  | c :: rest =>
    if c == '<' || c == '>' || c == '{' || c == '}' || c == '&' then
      if seen then some passed else none
    else if c == '\n' then tagTextLength? seen true (passed + 1) rest
    else
      let still := atBreak && isPlainSpace c
      tagTextLength? (seen || !still) still (passed + 1) rest

/-- A character reference. -/
def tagReference? (text : Text) : Option Nat :=
  match text with
  | '&' :: '#' :: c :: rest =>
    if c == 'x' || c == 'X' then closed 3 6 (rest.takeWhile isHexDigit) rest
    else closed 2 5 ((c :: rest).takeWhile Char.isDigit) (c :: rest)
  | '&' :: rest => closed 1 30 (rest.takeWhile Char.isAlpha) rest
  | _ => none
where
  /-- A reference has a body of bounded length and ends with a semicolon. -/
  closed (opening bound : Nat) (body rest : Text) : Option Nat :=
    if body.isEmpty || bound < body.length || (rest.drop body.length).head? != some ';' then none
    else some (opening + body.length + 1)

/-- Read a lexeme at a cursor. -/
def Lexeme.read (lexeme : Lexeme) (cursor : Cursor) : Option (Option Token × Cursor) :=
  match lexeme with
  | .word spelling =>
    match cursor.rest.after? spelling with
    | some (c :: _) =>
      if isNamePart c || c == '\\' then none else cursor.advance spelling.length
    | some [] => cursor.advance spelling.length
    | none => none
  | .name barred =>
    let length := nameLength cursor.rest
    if length == 0 || barred.contains (cursor.rest.take length) then none
    else cursor.advance length
  | .operator spellings =>
    let found := operatorAt cursor.rest
    if found.isEmpty || !spellings.contains found then none else cursor.advance found.length
  | .mark spelling =>
    if cursor.rest.startsWith spelling then cursor.advance spelling.length else none
  | .adjoined spelling =>
    if cursor.remaining.startsWith spelling then cursor.advanceInGap spelling.length else none
  | .number => (number? cursor.rest).bind cursor.advance
  | .string =>
    match cursor.rest with
    | [] => none
    | c :: rest =>
      if c == '"' || c == '\'' then (quoted? c rest).bind fun length => cursor.advance (length + 1)
      else none
  | .pattern =>
    match cursor.rest with
    | '/' :: rest =>
      (patternBody? false false 0 rest).bind fun length =>
        if length == 1 then none
        else
          let flags := (rest.drop length).takeWhile fun c => 'a' ≤ c && c ≤ 'z'
          cursor.advance (length + 1 + flags.length)
    | _ => none
  | .privateName =>
    match cursor.rest with
    | '#' :: rest =>
      let length := nameLength rest
      if length == 0 then none else cursor.advance (length + 1)
    | _ => none
  | .interpreterLine =>
    match cursor.rest with
    | '#' :: '!' :: rest => cursor.advance ((Text.upTo rest '\n').length + 2)
    | _ => none
  | .markupComment fresh =>
    if (fresh && cursor.rest.startsWith "<!--".toList) ||
        ((fresh || (ending? false false cursor).isSome) &&
          cursor.rest.startsWith "-->".toList) then
      cursor.advance (cursor.rest.takeWhile fun c => c == '\r' || !endsLine c).length
    else none
  | .templateText =>
    let length := templateLength 0 cursor.remaining
    if length == 0 then none else cursor.advanceInGap length
  | .templateEscape =>
    match cursor.remaining with
    | '\\' :: rest => (escape? rest).bind fun length => cursor.advanceInGap (length + 1)
    | _ => none
  | .tagText => (tagTextLength? false false 0 cursor.remaining).bind cursor.advanceInGap
  | .tagReference => (tagReference? cursor.remaining).bind cursor.advanceInGap
  | .tagString =>
    match cursor.rest with
    | [] => none
    | c :: rest =>
      if c == '"' || c == '\'' then
        let body := Text.upTo rest c
        if (rest.drop body.length).isEmpty then none else cursor.advance (body.length + 2)
      else none
  | .tagName =>
    match cursor.rest with
    | [] => none
    | c :: rest =>
      if isNameStart c then
        cursor.advance ((rest.takeWhile fun d => isNamePart d || d == '-').length + 1)
      else none
  | .ending operand signature =>
    if (ending? operand signature cursor).isSome then some (none, cursor) else none
  | .remark operand =>
    match ending? operand false cursor with
    | some (length + 1) =>
      some (some { gap := [], text := cursor.gap.take (length + 1) },
        { cursor with gap := cursor.gap.drop (length + 1) })
    | _ => some (none, cursor)
  | .finish => if cursor.rest.isEmpty then some (none, cursor) else none

end Marginalia.Script
