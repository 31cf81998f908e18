import Marginalia.Text.Basic
import Marginalia.Text.Combining
import Marginalia.Text.Composite
import Marginalia.Text.Variant

/-!
# Normal forms

Names that look alike are the same name.  The normal form of a text has plain
characters for variants, marks in the order of their classes, and composite
letters wherever there are any.
-/

namespace Marginalia.Text

/-! ## Korean syllables -/

/-- The first syllable. -/
def firstSyllable : Nat := 0xAC00

/-- The first leading consonant. -/
def firstLead : Nat := 0x1100

/-- The first vowel. -/
def firstVowel : Nat := 0x1161

/-- The place in front of the first trailing consonant. -/
def beforeTrail : Nat := 0x11A7

/-- The letters of a syllable. -/
def syllableParts? (c : Char) : Option (List Char) :=
  let index := c.toNat - firstSyllable
  if c.toNat < firstSyllable || 19 * 21 * 28 ≤ index then none
  else
    let lead := Char.ofNat (firstLead + index / (21 * 28))
    let vowel := Char.ofNat (firstVowel + index / 28 % 21)
    let trail := index % 28
    some (lead :: vowel :: if trail == 0 then [] else [Char.ofNat (beforeTrail + trail)])

/-- The syllable of two letters, or of a syllable and a letter. -/
def syllable? (first second : Char) : Option Char :=
  let lead := first.toNat - firstLead
  let vowel := second.toNat - firstVowel
  let syllable := first.toNat - firstSyllable
  let trail := second.toNat - beforeTrail
  if firstLead ≤ first.toNat && lead < 19 && firstVowel ≤ second.toNat && vowel < 21 then
    some (Char.ofNat (firstSyllable + (lead * 21 + vowel) * 28))
  else if firstSyllable ≤ first.toNat && syllable < 19 * 21 * 28 && syllable % 28 == 0 &&
      beforeTrail < second.toNat && trail < 28 then
    some (Char.ofNat (first.toNat + trail))
  else none

/-! ## The normal form -/

/-- Decompositions nest at most this deep. -/
def decompositionDepth : Nat := 6

/-- The plain characters of a character, decomposed at most `depth` deep. -/
def decompose : Nat → Char → Text
  | 0, c => [c]
  | depth + 1, c =>
    match syllableParts? c with
    | some letters => letters
    | none =>
      match parts? c with
      | some (letter, mark) => decompose depth letter ++ decompose depth mark
      | none =>
        match plain? c with
        | some plain => plain.flatMap (decompose depth)
        | none => [c]

/-- Put a character in front of a text in order.  A mark moves behind the marks
of lower classes. -/
def place (c : Char) : Text → Text
  | [] => [c]
  | d :: rest =>
    if combiningClass d != 0 && combiningClass d < combiningClass c then d :: place c rest
    else c :: d :: rest

/-- The text with its marks in the order of their classes. -/
def inOrder : Text → Text
  | [] => []
  | c :: rest => place c (inOrder rest)

/-- Join what follows a letter with it.  `held` are the marks, in reverse, that
could not be joined; a mark is joined only past marks of lower classes. -/
def joinTo (letter : Char) (held : Text) : Text → Text
  | [] => letter :: held.reverse
  | c :: rest =>
    let free := match held with
      | [] => true
      | last :: _ => combiningClass last < combiningClass c
    match if free then (syllable? letter c).or (composite? letter c) else none with
    | some whole => joinTo whole held rest
    | none =>
      if combiningClass c == 0 then letter :: held.reverse ++ joinTo c [] rest
      else joinTo letter (c :: held) rest

/-- The normal form of a text. -/
def normal (text : Text) : Text :=
  if text.all fun c => c.toNat < 0x80 then text
  else
    match inOrder (text.flatMap (decompose decompositionDepth)) with
    | [] => []
    | letter :: rest => joinTo letter [] rest

end Marginalia.Text
