import Marginalia.Json.Value

/-!
# Writing JSON

A style decides whether characters outside ASCII are escaped and whether a
blank follows a comma or colon.
-/

namespace Marginalia.Json

/-- How a value is written. -/
structure Style where
  /-- Characters outside ASCII are escaped. -/
  ascii : Bool
  /-- A blank follows every comma and colon. -/
  spaced : Bool

/-- The style of a companion's answer. -/
def Style.companion : Style :=
  { ascii := true, spaced := true }

/-- The style with nothing that could be left out. -/
def Style.compact : Style :=
  { ascii := false, spaced := false }

/-- The digit of a number below sixteen. -/
def hexDigit (value : Nat) : Char :=
  if value < 10 then Char.ofNat ('0'.toNat + value) else Char.ofNat ('a'.toNat + (value - 10))

/-- A UTF-16 unit as an escape. -/
def unitEscape (value : Nat) : Text :=
  ['\\', 'u', hexDigit (value / 4096 % 16), hexDigit (value / 256 % 16),
    hexDigit (value / 16 % 16), hexDigit (value % 16)]

/-- A character as an escape of one or two units. -/
def charEscape (c : Char) : Text :=
  let code := c.toNat
  if code < 0x10000 then unitEscape code
  else unitEscape (0xD800 + (code - 0x10000) / 0x400) ++
    unitEscape (0xDC00 + (code - 0x10000) % 0x400)

/-- A character inside a string. -/
def Style.char (style : Style) (c : Char) : Text :=
  match c with
  | '"' => ['\\', '"']
  | '\\' => ['\\', '\\']
  | '\n' => ['\\', 'n']
  | '\r' => ['\\', 'r']
  | '\t' => ['\\', 't']
  | '\x08' => ['\\', 'b']
  | '\x0c' => ['\\', 'f']
  | _ =>
    if c.toNat < 0x20 || (style.ascii && 0x7E < c.toNat) then charEscape c else [c]

/-- A string. -/
def Style.string (style : Style) (text : Text) : Text :=
  '"' :: text.flatMap style.char ++ ['"']

/-- The blank behind a comma or colon. -/
def Style.blank (style : Style) : Text :=
  if style.spaced then [' '] else []

/-- Written values in brackets. -/
def Style.array (style : Style) (elements : List Text) : Text :=
  '[' :: List.intercalate (',' :: style.blank) elements ++ [']']

/-- Written members in braces. -/
def Style.object (style : Style) (members : List (Text × Text)) : Text :=
  '{' :: List.intercalate (',' :: style.blank)
    (members.map fun (name, value) => style.string name ++ ':' :: style.blank ++ value) ++ ['}']

/-- A natural number. -/
def decimal (value : Nat) : Text :=
  Nat.toDigits 10 value

end Marginalia.Json
