/-!
# Text

A text is the list of its characters.  Positions inside a text are counted in
UTF-8 bytes, so that they agree with the offsets a parser reports.  This module
holds blanks and trimming, searching, and cutting at byte offsets.
-/

namespace Marginalia

/-- A text, character by character. -/
abbrev Text := List Char

namespace Text

/-- Unicode white space. -/
def isBlank (c : Char) : Bool :=
  let code := c.toNat
  (9 ≤ code && code ≤ 13) || code == 0x20 || code == 0x85 || code == 0xA0 ||
    code == 0x1680 || (0x2000 ≤ code && code ≤ 0x200A) || code == 0x2028 ||
    code == 0x2029 || code == 0x202F || code == 0x205F || code == 0x3000

/-- The text without its leading blanks. -/
def trimStart (text : Text) : Text :=
  text.dropWhile isBlank

/-- The text without its trailing blanks. -/
def trimEnd (text : Text) : Text :=
  (text.reverse.dropWhile isBlank).reverse

/-- The text without leading and trailing blanks. -/
def trim (text : Text) : Text :=
  text.trimStart.trimEnd

/-- Whether `text` begins with `head`. -/
def startsWith (text head : Text) : Bool :=
  head.isPrefixOf text

/-- What follows `head` at the beginning of `text`, when `text` begins with it. -/
def after? (text head : Text) : Option Text :=
  head.isPrefixOf? text

/-- The texts before and after the first occurrence of `needle`. -/
def cut? (text needle : Text) : Option (Text × Text) :=
  go [] text
where
  /-- Search `rest`, having passed `seen`, which is kept in reverse. -/
  go (seen rest : Text) : Option (Text × Text) :=
    match rest.after? needle with
    | some beyond => some (seen.reverse, beyond)
    | none =>
      match rest with
      | [] => none
      | c :: more => go (c :: seen) more

/-- Whether `needle` occurs in `text`. -/
def contains (text needle : Text) : Bool :=
  (text.cut? needle).isSome

/-- The part of the text before the first `c`, or all of it. -/
def upTo (text : Text) (c : Char) : Text :=
  text.takeWhile (· != c)

/-! ## Byte offsets -/

/-- The number of bytes of the text in UTF-8. -/
def byteLength (text : Text) : Nat :=
  text.foldl (fun total c => total + c.utf8Size) 0

/-- How many leading characters end within the first `limit` bytes. -/
def fitting (text : Text) (limit : Nat) : Nat :=
  go limit 0 text
where
  /-- Count on from `count`, with room for `room` more bytes. -/
  go (room count : Nat) : Text → Nat
    | [] => count
    | c :: rest =>
      if c.utf8Size ≤ room then go (room - c.utf8Size) (count + 1) rest else count

/-- The characters that end within the first `limit` bytes. -/
def takeBytes (text : Text) (limit : Nat) : Text :=
  text.take (text.fitting limit)

/-- The text from the character that holds the byte at `offset`. -/
def dropBytes (text : Text) (offset : Nat) : Text :=
  text.drop (text.fitting offset)

/-- The greatest character boundary at or below `index`; the byte length when
`index` lies beyond the text. -/
def floorBoundary (text : Text) (index : Nat) : Nat :=
  (text.takeBytes index).byteLength

/-- The text of a byte span.  Both ends move back to a character boundary, and
a span that ends before it starts is empty. -/
def slice (text : Text) (start stop : Nat) : Text :=
  (text.takeBytes stop).dropBytes start

end Text

end Marginalia
