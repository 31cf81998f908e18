import Marginalia.Text.Bytes

/-!
# Source files of the offside language

A Python file is read byte by byte; a byte is kept as the character of the same
number.  Before it is read, every line is made to end with one line feed, a byte
order mark is dropped, and a declared encoding is undone.  UTF-8 and Latin-1 are
known here; other encodings are read by the codecs of the host.
-/

namespace Marginalia.Offside

/-- Bytes as characters of the same numbers. -/
def asChars (bytes : Bytes) : Text :=
  bytes.map fun byte => Char.ofNat byte.toNat

/-- Characters below 256 as bytes of the same numbers. -/
def asBytes (chars : Text) : Bytes :=
  chars.map fun c => UInt8.ofNat c.toNat

/-- One line feed for each carriage return, alone or before a line feed. -/
def unifyBreaks (afterReturn : Bool) : Text → Text
  | [] => []
  | c :: rest =>
    if c == '\r' then '\n' :: unifyBreaks true rest
    else if c == '\n' && afterReturn then unifyBreaks false rest
    else c :: unifyBreaks false rest

/-- The text with a line feed at its end. -/
def closeLastLine (text : Text) : Text :=
  if text.getLast? == some '\n' then text else text ++ ['\n']

/-! ## Declared encodings -/

/-- A blank that may stand in front of a comment. -/
def isIndent (c : Char) : Bool :=
  c == ' ' || c == '\t' || c == '\x0c'

/-- A character of the name of an encoding. -/
def isEncodingPart (c : Char) : Bool :=
  c.isAlphanum || c == '-' || c == '_' || c == '.'

/-- The encoding that the text of a comment declares. -/
def declared? : Text → Option Text
  | [] => none
  | c :: rest =>
    let here := (Text.after? (c :: rest) "coding".toList).bind fun
      | mark :: value =>
        if mark == ':' || mark == '=' then
          match (value.dropWhile fun d => d == ' ' || d == '\t').takeWhile isEncodingPart with
          | [] => none
          | name => some name
        else none
      | [] => none
    match here with
    | some name => some name
    | none => declared? rest

/-- The encoding that a line declares, if it holds nothing but a comment. -/
def lineEncoding? (line : Text) : Option Text :=
  match line.dropWhile isIndent with
  | '#' :: comment => declared? comment
  | _ => none

/-- Whether a line holds nothing but blanks and a comment. -/
def isIdle (line : Text) : Bool :=
  match line.dropWhile isIndent with
  | [] => true
  | c :: _ => c == '#'

/-- The encoding that one of the first two lines declares. -/
def fileEncoding? (text : Text) : Option Text :=
  let first := text.upTo '\n'
  match lineEncoding? first with
  | some name => some name
  | none =>
    if isIdle first then lineEncoding? (Text.upTo (text.drop (first.length + 1)) '\n') else none

/-- A way to read bytes as a text, unless they mean nothing. -/
abbrev Codec := Bytes → Option Text

/-- The codecs at hand, by the names that files declare. -/
abbrev Codecs := Text → Option Codec

/-- Each byte as the character of the same number. -/
def Codec.latin1 : Codec :=
  fun bytes => some (asChars bytes)

/-- How the bytes of a file stand for characters. -/
inductive Encoding where
  /-- In UTF-8, whose faults are found when the text is read. -/
  | utf8
  /-- As a codec reads all of them. -/
  | coded (codec : Codec)

/-- The beginning of the name of an encoding, in lower case and with hyphens. -/
def shortName (name : Text) : Text :=
  (name.take 12).map fun c => if c == '_' then '-' else c.toLower

/-- Whether a name is `stem`, or goes on after it with a hyphen. -/
def isVariantOf (stem : String) (name : Text) : Bool :=
  match name.after? stem.toList with
  | some [] => true
  | some (c :: _) => c == '-'
  | none => false

/-- The encoding with a given name. -/
def encoding? (codecs : Codecs) (name : Text) : Option Encoding :=
  if isVariantOf "utf-8" (shortName name) then some .utf8
  else if ["latin-1", "iso-8859-1", "iso-latin-1"].any (isVariantOf · (shortName name)) then
    some (.coded .latin1)
  else (codecs name).map .coded

/-- The text in UTF-8 bytes, given that it is in an encoding.  A null character
that a codec reads ends the text. -/
def Encoding.toUtf8? (encoding : Encoding) (text : Text) : Option Text :=
  match encoding with
  | .utf8 => some text
  | .coded codec =>
    (codec (asBytes text)).map fun decoded => asChars (Text.toBytes (decoded.upTo '\x00'))

/-- The byte order mark, as characters. -/
def byteOrderMark : Text :=
  ['\xef', '\xbb', '\xbf']

/-- A file made ready for reading, unless it holds a null byte or declares an
encoding that does not fit. -/
def prepare? (codecs : Codecs) (bytes : Bytes) : Option Text :=
  if bytes.contains 0 then none
  else
    let text := closeLastLine (unifyBreaks false (asChars bytes))
    match text.after? byteOrderMark with
    | some rest =>
      match (fileEncoding? rest).map (encoding? codecs) with
      | none | some (some .utf8) => some rest
      | some _ => none
    | none =>
      match (fileEncoding? text).map (encoding? codecs) with
      | none => some text
      | some (some encoding) => encoding.toUtf8? text
      | some none => none

end Marginalia.Offside
