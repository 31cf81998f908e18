import Marginalia.Offside.Charset
import Marginalia.Proofs.LineBreaks

/-!
# Codecs

A codec is regular if it reads bytes unit by unit, where ASCII characters are units
of their own and line breaks occur in no other unit.  Main statements: where a token
ends in what a regular codec reads, a unit ends in the bytes; and the charsets of
this library are regular, unless they have second bytes for ASCII characters.
-/

namespace Marginalia.Offside

/-! ## Units -/

/-- Bytes with what they mean together.  An ASCII byte means itself; other bytes mean
characters beyond ASCII, and there is no line break among them. -/
inductive IsUnit : Bytes × Text → Prop
  | ascii {byte : UInt8} (narrow : byte.toNat < 0x80) : IsUnit ([byte], [Char.ofNat byte.toNat])
  | wide {piece : Bytes} {chars : Text} (present : piece ≠ []) (meant : chars ≠ [])
      (beyond : ∀ c ∈ chars, 0x80 ≤ c.toNat) (noFeed : 10 ∉ piece) (noReturn : 13 ∉ piece) :
      IsUnit (piece, chars)

/-- The bytes of units. -/
def spelling (units : List (Bytes × Text)) : Bytes :=
  units.flatMap Prod.fst

/-- What units mean. -/
def meaning (units : List (Bytes × Text)) : Text :=
  units.flatMap Prod.snd

theorem spelling_append (left right : List (Bytes × Text)) :
    spelling (left ++ right) = spelling left ++ spelling right :=
  List.flatMap_append

theorem meaning_append (left right : List (Bytes × Text)) :
    meaning (left ++ right) = meaning left ++ meaning right :=
  List.flatMap_append

/-- A codec that knows units and reads what they spell. -/
structure Codec.ReadsUnits (codec : Codec) (known : Bytes × Text → Prop) : Prop where
  isUnit : ∀ unit, known unit → IsUnit unit
  reads_iff : ∀ bytes text, codec bytes = some text ↔
    ∃ units, (∀ unit ∈ units, known unit) ∧ spelling units = bytes ∧ meaning units = text

theorem Codec.ReadsUnits.areUnits {codec : Codec} {known : Bytes × Text → Prop}
    (reads : codec.ReadsUnits known) {units : List (Bytes × Text)}
    (areKnown : ∀ unit ∈ units, known unit) : ∀ unit ∈ units, IsUnit unit :=
  fun unit member => reads.isUnit unit (areKnown unit member)

/-- A codec that reads bytes unit by unit. -/
def Codec.Regular (codec : Codec) : Prop :=
  ∃ known, codec.ReadsUnits known

namespace IsUnit

variable {unit : Bytes × Text}

/-- An ASCII character is a unit of its own. -/
theorem eq_of_mem {c : Char} (isUnit : IsUnit unit) (ascii : c.toNat < 0x80)
    (member : c ∈ unit.2) : unit = ([UInt8.ofNat c.toNat], [c]) := by
  cases isUnit with
  | ascii =>
      obtain rfl := List.mem_singleton.mp member
      simp [toNat_asChar]
  | wide _ _ beyond =>
      have wide := beyond c member
      omega

/-- A line feed is a unit of its own. -/
theorem eq_of_feed_mem (isUnit : IsUnit unit) (member : 10 ∈ unit.1) :
    unit = ([10], ['\n']) := by
  cases isUnit with
  | ascii =>
      obtain rfl := List.mem_singleton.mp member
      rfl
  | wide _ _ _ noFeed => exact absurd member noFeed

theorem count_feed (isUnit : IsUnit unit) : unit.2.count '\n' = unit.1.count 10 := by
  cases isUnit with
  | @ascii byte => exact count_asChars (by decide) [byte]
  | wide _ _ beyond noFeed =>
      have unbroken : '\n' ∉ _ := fun member => absurd (beyond '\n' member) (by decide)
      rw [List.count_eq_zero_of_not_mem unbroken, List.count_eq_zero_of_not_mem noFeed]

/-- A byte that means a character beyond ASCII, and is no line break. -/
theorem of_wide {byte : UInt8} {c : Char} (wide : 0x80 ≤ c.toNat) (noFeed : byte ≠ 10)
    (noReturn : byte ≠ 13) : IsUnit ([byte], [c]) := by
  apply IsUnit.wide
  · exact List.cons_ne_nil _ _
  · exact List.cons_ne_nil _ _
  · simpa using wide
  · simpa using noFeed.symm
  · simpa using noReturn.symm

theorem of_beyond {byte : UInt8} {c : Char} (beyond : 0x80 ≤ byte.toNat) (wide : 0x80 ≤ c.toNat) :
    IsUnit ([byte], [c]) := by
  apply of_wide wide
  · rintro rfl
    exact absurd beyond (by decide)
  · rintro rfl
    exact absurd beyond (by decide)

/-- A byte that is read as the character of the same number is a unit. -/
theorem of_asChar (byte : UInt8) : IsUnit ([byte], [Char.ofNat byte.toNat]) := by
  by_cases narrow : byte.toNat < 0x80
  · exact .ascii narrow
  · apply of_beyond (Nat.le_of_not_lt narrow)
    rw [toNat_asChar]
    exact Nat.le_of_not_lt narrow

/-- The bytes of a character in UTF-8 are a unit. -/
theorem of_encode (c : Char) : IsUnit (String.utf8EncodeChar c, [c]) := by
  by_cases ascii : c.toNat < 0x80
  · have narrow : (UInt8.ofNat c.toNat).toNat < 0x80 := by
      rwa [Bytes.toNat_ofNat_of_lt (by omega)]
    have unit := IsUnit.ascii narrow
    rwa [asChar_ofNat (by omega), ← encode_ascii ascii] at unit
  · have wide := Nat.le_of_not_lt ascii
    apply IsUnit.wide
    · rw [← List.length_pos_iff, String.length_utf8EncodeChar]
      exact c.utf8Size_pos
    · exact List.cons_ne_nil _ _
    · simpa using wide
    · intro feed
      exact absurd (wide_of_mem_encode wide feed) (by decide)
    · intro isReturn
      exact absurd (wide_of_mem_encode wide isReturn) (by decide)

end IsUnit

section

variable {units : List (Bytes × Text)}

theorem count_meaning (areUnits : ∀ unit ∈ units, IsUnit unit) :
    (meaning units).count '\n' = (spelling units).count 10 := by
  induction units with
  | nil => rfl
  | cons unit units ih =>
      obtain ⟨first, others⟩ := List.forall_mem_cons.mp areUnits
      rw [meaning, spelling, List.flatMap_cons, List.flatMap_cons, List.count_append,
        List.count_append, first.count_feed]
      exact congrArg _ (ih others)

/-- Where a line feed is among the bytes, it is read. -/
theorem spelling_split (areUnits : ∀ unit ∈ units, IsUnit unit) {front back : Bytes}
    (whole : spelling units = front ++ 10 :: back) :
    ∃ left right, units = left ++ ([10], ['\n']) :: right ∧ spelling left = front ∧
      spelling right = back := by
  obtain ⟨left, unit, right, rfl, inFront, alone, inBack⟩ := flatMap_split
    (fun unit member inside => congrArg Prod.fst ((areUnits unit member).eq_of_feed_mem inside))
    whole
  obtain rfl := (areUnits unit (by simp)).eq_of_feed_mem (by simp [alone])
  exact ⟨left, right, rfl, inFront, inBack⟩

/-- Where lines end among the bytes, lines end in what is read. -/
theorem exists_lines (areUnits : ∀ unit ∈ units, IsUnit unit) {above line : Bytes}
    (ends : EndsLine 10 above) (whole : spelling units = above ++ line) :
    ∃ left right, units = left ++ right ∧ spelling left = above ∧ spelling right = line ∧
      EndsLine '\n' (meaning left) := by
  rcases ends.cases with rfl | ⟨front, rfl⟩
  · exact ⟨[], units, rfl, rfl, whole, endsLine_nil _⟩
  · obtain ⟨left, right, rfl, rfl, rfl⟩ :=
      spelling_split areUnits (whole.trans (List.append_assoc front [10] line))
    refine ⟨left ++ [([10], ['\n'])], right, by simp, spelling_append .., rfl, ?_⟩
    rw [meaning_append]
    exact endsLine_concat _ _

end

/-! ## Charsets -/

/-- A codec that reads byte by byte is regular if each byte is a unit. -/
theorem regular_of_bytes {read : UInt8 → Option Char}
    (isUnit : ∀ byte c, read byte = some c → IsUnit ([byte], [c])) :
    Codec.Regular fun bytes => bytes.mapM read := by
  refine ⟨fun unit => ∃ byte c, read byte = some c ∧ unit = ([byte], [c]), ?_, ?_⟩
  · rintro unit ⟨byte, c, meant, rfl⟩
    exact isUnit byte c meant
  intro bytes text
  constructor
  · intro all
    induction bytes generalizing text with
    | nil =>
        cases all
        exact ⟨[], by simp, rfl, rfl⟩
    | cons byte bytes ih =>
        rw [List.mapM_cons] at all
        obtain ⟨c, meant, rest⟩ := Option.bind_eq_some_iff.mp all
        obtain ⟨chars, later, same⟩ := Option.bind_eq_some_iff.mp rest
        cases same
        obtain ⟨units, known, rfl, rfl⟩ := ih chars later
        exact ⟨([byte], [c]) :: units, List.forall_mem_cons.mpr ⟨⟨byte, c, meant, rfl⟩, known⟩,
          rfl, rfl⟩
  · rintro ⟨units, known, rfl, rfl⟩
    induction units with
    | nil => rfl
    | cons unit units ih =>
        obtain ⟨⟨byte, c, meant, rfl⟩, others⟩ := List.forall_mem_cons.mp known
        have later := ih others
        simp only [spelling, meaning] at later
        simp [spelling, meaning, List.mapM_cons, meant, later]

theorem regular_utf8 : Codec.Regular Bytes.toText? := by
  refine ⟨fun unit => ∃ c, unit = (String.utf8EncodeChar c, [c]), ?_, ?_⟩
  · rintro unit ⟨c, rfl⟩
    exact .of_encode c
  intro bytes text
  rw [Bytes.toText?_eq_some_iff]
  constructor
  · rintro rfl
    refine ⟨text.map fun c => (String.utf8EncodeChar c, [c]), ?_, ?_, ?_⟩
    · simp
    · simp [spelling, List.flatMap_map, Text.toBytes]
    · simp [meaning, List.flatMap_map]
  · rintro ⟨units, known, rfl, rfl⟩
    induction units with
    | nil => rfl
    | cons unit units ih =>
        obtain ⟨⟨c, rfl⟩, others⟩ := List.forall_mem_cons.mp known
        have later := ih others
        rw [spelling, meaning] at later
        simp [spelling, meaning, later, Text.toBytes]

/-- A repertoire that gives no second byte to an ASCII character, and changes no line
break. -/
def Repertoire.keepsApart : Repertoire → Bool
  | .utf8 => true
  | .bytes changed _ =>
    changed.all fun change =>
      change.1 != '\n' && change.1 != '\r' && change.2.all (0x80 ≤ ·.toNat)

/-- A repertoire that keeps ASCII apart is read by a regular codec. -/
theorem Repertoire.regular {repertoire : Repertoire} (apart : repertoire.keepsApart) :
    repertoire.codec.Regular := by
  cases repertoire with
  | utf8 => exact regular_utf8
  | bytes changed upper =>
      apply regular_of_bytes
      intro byte c meant
      unfold byteMeaning? at meant
      simp only at meant
      split at meant
      case h_1 said found =>
        obtain ⟨front, back, rfl, -⟩ := List.lookup_eq_some_iff.mp found
        simp only [keepsApart, List.all_append, List.all_cons, Bool.and_eq_true, bne_iff_ne, ne_eq,
          meant, Option.all_some, decide_eq_true_eq] at apart
        obtain ⟨-, ⟨⟨noFeed, noReturn⟩, wide⟩, -⟩ := apart
        rw [asChar_eq_iff (by decide)] at noFeed noReturn
        exact .of_wide wide noFeed noReturn
      case h_2 =>
        split at meant
        case isTrue narrow =>
          cases meant
          exact .of_asChar byte
        case isFalse wide =>
          rw [UInt8.lt_iff_toNat_lt] at wide
          split at meant
          case h_1 =>
            obtain ⟨notAscii, same⟩ := Option.ite_none_left_eq_some.mp meant
            cases same
            exact .of_beyond (Nat.le_of_not_lt wide) (Nat.le_of_not_lt notAscii)
          case h_2 =>
            cases meant
            exact .of_asChar byte

/-- Without changes an ASCII byte is read as itself, and no other byte is read as an
ASCII character. -/
theorem ascii_byteMeaning_iff {upper : Text} {byte : UInt8} {c : Char}
    (meant : byteMeaning? [] upper byte = some c) : c.toNat < 0x80 ↔ byte.toNat < 0x80 := by
  simp only [byteMeaning?, List.lookup_nil, UInt8.lt_iff_toNat_lt] at meant
  split at meant
  case isTrue =>
    cases meant
    rw [toNat_asChar]
  case isFalse beyond =>
    split at meant
    · obtain ⟨wide, same⟩ := Option.ite_none_left_eq_some.mp meant
      cases same
      exact iff_of_false wide beyond
    · cases meant
      rw [toNat_asChar]

/-- Byte by byte as many characters are read as there are bytes, and ASCII characters
are read of ASCII bytes. -/
theorem size_of_bytes {upper meant : Text} {bytes : Bytes}
    (read : bytes.mapM (byteMeaning? [] upper) = some meant) :
    meant.length = bytes.length ∧
      ((∀ c ∈ meant, c.toNat < 0x80) ↔ ∀ byte ∈ bytes, byte.toNat < 0x80) := by
  induction bytes generalizing meant with
  | nil =>
      cases read
      simp
  | cons byte bytes ih =>
      rw [List.mapM_cons] at read
      obtain ⟨c, first, rest⟩ := Option.bind_eq_some_iff.mp read
      obtain ⟨chars, later, same⟩ := Option.bind_eq_some_iff.mp rest
      cases same
      obtain ⟨length, ascii⟩ := ih later
      rw [List.forall_mem_cons, List.forall_mem_cons, ascii, ascii_byteMeaning_iff first,
        List.length_cons, List.length_cons, length]
      exact ⟨rfl, Iff.rfl⟩

theorem mapM_byteMeaning_of_ascii (upper : Text) {bytes : Bytes}
    (ascii : ∀ byte ∈ bytes, byte.toNat < 0x80) :
    bytes.mapM (byteMeaning? [] upper) = some (asChars bytes) := by
  induction bytes with
  | nil => rfl
  | cons byte bytes ih =>
      obtain ⟨narrow, others⟩ := List.forall_mem_cons.mp ascii
      have itself : byteMeaning? [] upper byte = some (Char.ofNat byte.toNat) := by
        simp only [byteMeaning?, List.lookup_nil, UInt8.lt_iff_toNat_lt]
        exact if_pos narrow
      rw [List.mapM_cons, itself, ih others]
      rfl

end Marginalia.Offside
