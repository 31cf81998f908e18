import Marginalia.Text.Basic

/-!
# Bytes

Reading and writing a text as UTF-8.  Reading strictly reports the first place
where the bytes are no text; reading loosely puts a replacement character there.
-/

namespace Marginalia

/-- A sequence of bytes. -/
abbrev Bytes := List UInt8

/-- The bytes of a text. -/
def Text.toBytes (text : Text) : Bytes :=
  text.flatMap String.utf8EncodeChar

namespace Bytes

/-- What stands at the beginning of a sequence of bytes. -/
inductive Piece where
  /-- A character of so many bytes. -/
  | char (value : Char) (size : Nat)
  /-- So many bytes that no character begins with. -/
  | invalid (size : Nat)
  /-- The beginning of a character, cut off by the end of the sequence. -/
  | incomplete

/-- Whether a byte continues a character. -/
def isContinuation (byte : UInt8) : Bool :=
  0x80 ≤ byte && byte ≤ 0xBF

/-- The range of the second byte of a character of three or four bytes. -/
def secondRange (first : UInt8) : UInt8 × UInt8 :=
  if first == 0xE0 then (0xA0, 0xBF)
  else if first == 0xED then (0x80, 0x9F)
  else if first == 0xF0 then (0x90, 0xBF)
  else if first == 0xF4 then (0x80, 0x8F)
  else (0x80, 0xBF)

/-- The code point with these leading bits and continuation bytes. -/
def codePoint (leading : Nat) (continuation : List UInt8) : Char :=
  Char.ofNat (continuation.foldl (fun code byte => code * 64 + byte.toNat % 64) leading)

/-- The piece that begins with `first`. -/
def piece (first : UInt8) (rest : Bytes) : Piece :=
  if first < 0x80 then .char (Char.ofNat first.toNat) 1
  else if 0xC2 ≤ first && first ≤ 0xDF then
    match rest with
    | [] => .incomplete
    | second :: _ =>
      if isContinuation second then .char (codePoint (first.toNat % 32) [second]) 2
      else .invalid 1
  else if 0xE0 ≤ first && first ≤ 0xF4 then
    let (low, high) := secondRange first
    match rest with
    | [] => .incomplete
    | second :: more =>
      if !(low ≤ second && second ≤ high) then .invalid 1
      else match more with
        | [] => .incomplete
        | third :: last =>
          if !isContinuation third then .invalid 2
          else if first < 0xF0 then .char (codePoint (first.toNat % 16) [second, third]) 3
          else match last with
            | [] => .incomplete
            | fourth :: _ =>
              if isContinuation fourth then
                .char (codePoint (first.toNat % 8) [second, third, fourth]) 4
              else .invalid 3
  else .invalid 1

/-- Why bytes are no text, and where. -/
inductive Fault where
  /-- So many bytes that no character begins with. -/
  | invalid (size index : Nat)
  /-- The last character is cut off. -/
  | incomplete (index : Nat)

/-- Cut bytes into pieces.  Each piece comes with the place where it begins;
`skip` bytes belong to the piece before. -/
def pieces (skip index : Nat) : Bytes → List (Nat × Piece)
  | [] => []
  | first :: rest =>
    if skip != 0 then pieces (skip - 1) (index + 1) rest
    else
      let found := piece first rest
      match found with
      | .char _ size | .invalid size => (index, found) :: pieces (size - 1) (index + 1) rest
      | .incomplete => [(index, found)]

/-- The text of the bytes, or the first fault. -/
def toText (bytes : Bytes) : Except Fault Text :=
  (pieces 0 0 bytes).mapM fun
    | (_, .char value _) => .ok value
    | (index, .invalid size) => .error (.invalid size index)
    | (index, .incomplete) => .error (.incomplete index)

/-- The text of the bytes, if they are one. -/
def toText? (bytes : Bytes) : Option Text :=
  (toText bytes).toOption

/-- The text of the bytes, with a replacement character for each fault. -/
def toTextLossy (bytes : Bytes) : Text :=
  (pieces 0 0 bytes).map fun
    | (_, .char value _) => value
    | (_, _) => '�'

/-- The report of a fault. -/
def Fault.message : Fault → Text
  | .invalid size index =>
    "invalid utf-8 sequence of ".toList ++ Nat.toDigits 10 size ++ " bytes from index ".toList ++
      Nat.toDigits 10 index
  | .incomplete index =>
    "incomplete utf-8 byte sequence from index ".toList ++ Nat.toDigits 10 index

end Bytes

end Marginalia
