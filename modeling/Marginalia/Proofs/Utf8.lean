import Marginalia.Text.Bytes

/-!
# Reading what was written

The bytes of a character are read as that character, and bytes that are read as
a character are the bytes of that character.  Main statement: bytes are read as
a text exactly if they are the bytes of that text, so that each text has one
written form.
-/

namespace Marginalia.Bytes

/-! ## One character -/

/-- The bytes that a character of two bytes or more goes on with. -/
def Continues (byte : UInt8) : Prop :=
  0x80 ≤ byte.toNat ∧ byte.toNat ≤ 0xBF

/-- The bytes that a character of three or four bytes goes on with behind its
first byte: no shorter form and no surrogate begins like this. -/
def Follows (first second : UInt8) : Prop :=
  Continues second ∧ (first.toNat = 0xE0 → 0xA0 ≤ second.toNat) ∧
    (first.toNat = 0xED → second.toNat ≤ 0x9F) ∧ (first.toNat = 0xF0 → 0x90 ≤ second.toNat) ∧
    (first.toNat = 0xF4 → second.toNat ≤ 0x8F)

theorem isContinuation_iff {byte : UInt8} : isContinuation byte ↔ Continues byte := by
  simp [isContinuation, Continues, UInt8.le_iff_toNat_le]

theorem secondRange_iff {first second : UInt8} :
    (secondRange first).1.toNat ≤ second.toNat ∧ second.toNat ≤ (secondRange first).2.toNat ↔
      Follows first second := by
  have range : (secondRange first).1.toNat =
        (if first.toNat = 0xE0 then 0xA0 else if first.toNat = 0xF0 then 0x90 else 0x80) ∧
      (secondRange first).2.toNat =
        (if first.toNat = 0xED then 0x9F else if first.toNat = 0xF4 then 0x8F else 0xBF) := by
    simp only [secondRange, beq_iff_eq, ← UInt8.toNat_inj, UInt8.reduceToNat]
    split
    · simp_all
    · split
      · simp_all
      · split
        · simp_all
        · split <;> simp_all
  simp only [range, Follows, Continues]
  grind

/-- The bytes that are read as one character: one to four of them. -/
theorem piece_cases {first : UInt8} {rest : Bytes} {c : Char} {size : Nat}
    (read : piece first rest = .char c size) :
    (first.toNat < 0x80 ∧ c = Char.ofNat first.toNat ∧ size = 1) ∨
    (∃ second more, rest = second :: more ∧ 0xC2 ≤ first.toNat ∧ first.toNat ≤ 0xDF ∧
      Continues second ∧ c = Char.ofNat (first.toNat % 32 * 64 + second.toNat % 64) ∧ size = 2) ∨
    (∃ second third more, rest = second :: third :: more ∧ 0xE0 ≤ first.toNat ∧
      first.toNat < 0xF0 ∧ Follows first second ∧ Continues third ∧
      c = Char.ofNat ((first.toNat % 16 * 64 + second.toNat % 64) * 64 + third.toNat % 64) ∧
      size = 3) ∨
    (∃ second third fourth more, rest = second :: third :: fourth :: more ∧
      0xF0 ≤ first.toNat ∧ first.toNat ≤ 0xF4 ∧ Follows first second ∧ Continues third ∧
      Continues fourth ∧
      c = Char.ofNat (((first.toNat % 8 * 64 + second.toNat % 64) * 64 + third.toNat % 64) * 64 +
        fourth.toNat % 64) ∧ size = 4) := by
  simp only [piece, Bool.and_eq_true, decide_eq_true_eq, UInt8.lt_iff_toNat_lt,
    UInt8.le_iff_toNat_le, UInt8.reduceToNat] at read
  split at read
  case isTrue one =>
    cases read
    exact Or.inl ⟨one, rfl, rfl⟩
  case isFalse =>
    right
    split at read
    case isTrue two =>
      left
      split at read
      · cases read
      case h_2 second more =>
        split at read
        case isFalse => cases read
        case isTrue continues =>
          cases read
          exact ⟨second, more, rfl, two.1, two.2, isContinuation_iff.mp continues, rfl, rfl⟩
    case isFalse =>
      right
      split at read
      case isFalse => cases read
      case isTrue long =>
        split at read
        · cases read
        case h_2 second more =>
          split at read
          case isTrue => cases read
          case isFalse follows =>
            simp only [Bool.not_eq_true', Bool.not_eq_false, Bool.and_eq_true, decide_eq_true_eq,
              secondRange_iff] at follows
            split at read
            · cases read
            case h_2 third last =>
              split at read
              case isTrue => cases read
              case isFalse continues =>
                simp only [Bool.not_eq_true', Bool.not_eq_false, isContinuation_iff] at continues
                split at read
                case isTrue short =>
                  cases read
                  exact Or.inl ⟨second, third, last, rfl, long.1, short, follows, continues, rfl, rfl⟩
                case isFalse four =>
                  split at read
                  · cases read
                  case h_2 fourth more =>
                    split at read
                    case isFalse => cases read
                    case isTrue continues' =>
                      cases read
                      exact Or.inr ⟨second, third, fourth, more, rfl, Nat.le_of_not_lt four, long.2,
                        follows, continues, isContinuation_iff.mp continues', rfl, rfl⟩

/-- Code points leave out the surrogates. -/
theorem toNat_char_valid (c : Char) :
    c.toNat < 0xD800 ∨ 0xE000 ≤ c.toNat ∧ c.toNat < 0x110000 := by
  have valid := c.valid
  simp only [UInt32.isValidChar, Nat.isValidChar] at valid
  have value : c.toNat = c.val.toNat := rfl
  omega

theorem toNat_char_ofNat {code : Nat}
    (valid : code < 0xD800 ∨ 0xE000 ≤ code ∧ code < 0x110000) : (Char.ofNat code).toNat = code := by
  have isValid : code.isValidChar := by
    simp only [Nat.isValidChar]
    omega
  rw [Char.ofNat, dif_pos isValid]
  rfl

theorem ofNat_eq {value : Nat} (byte : UInt8) (same : value = byte.toNat) :
    UInt8.ofNat value = byte := by
  rw [same, UInt8.ofNat_toNat]

private theorem split_of_encoded {c : Char} (bytes more : Bytes)
    (encoded : String.utf8EncodeChar c = bytes) :
    ∃ rest, bytes ++ more = String.utf8EncodeChar c ++ rest ∧ bytes.length = c.utf8Size :=
  ⟨more, by rw [encoded], by rw [← encoded, String.length_utf8EncodeChar]⟩

/-- Bytes that are read as a character are the bytes of that character. -/
theorem encode_of_piece {first : UInt8} {rest : Bytes} {c : Char} {size : Nat}
    (read : piece first rest = .char c size) :
    ∃ more, first :: rest = String.utf8EncodeChar c ++ more ∧ size = c.utf8Size := by
  have value : c.val.toNat = c.toNat := rfl
  rcases piece_cases read with ⟨one, rfl, rfl⟩ | ⟨second, more, rfl, low, high, two, rfl, rfl⟩ |
    ⟨second, third, more, rfl, low, high, two, three, rfl, rfl⟩ |
    ⟨second, third, fourth, more, rfl, low, high, two, three, four, rfl, rfl⟩
  · apply split_of_encoded [first] rest
    rw [toNat_char_ofNat (by omega)] at value
    simp only [String.utf8EncodeChar, value]
    rw [if_pos (by omega), UInt8.ofNat_toNat]
  · apply split_of_encoded [first, second] more
    simp only [Continues] at two
    rw [toNat_char_ofNat (by omega)] at value
    simp only [String.utf8EncodeChar, value]
    rw [if_neg (by omega), if_pos (by omega), ofNat_eq first (by omega),
      ofNat_eq second (by omega)]
  · apply split_of_encoded [first, second, third] more
    simp only [Follows, Continues] at two three
    rw [toNat_char_ofNat (by omega)] at value
    simp only [String.utf8EncodeChar, value]
    rw [if_neg (by omega), if_neg (by omega), if_pos (by omega), ofNat_eq first (by omega),
      ofNat_eq second (by omega), ofNat_eq third (by omega)]
  · apply split_of_encoded [first, second, third, fourth] more
    simp only [Follows, Continues] at two three four
    rw [toNat_char_ofNat (by omega)] at value
    simp only [String.utf8EncodeChar, value]
    rw [if_neg (by omega), if_neg (by omega), if_neg (by omega), ofNat_eq first (by omega),
      ofNat_eq second (by omega), ofNat_eq third (by omega),
      ofNat_eq fourth (by omega)]

/-! The four forms are read as the code points that they stand for. -/

section Forms

variable {first second third fourth : UInt8} (c : Char) (rest : Bytes)

private theorem piece_one (one : first.toNat < 0x80) (code : first.toNat = c.toNat) :
    piece first rest = .char c 1 := by
  have less : first < 0x80 := UInt8.lt_iff_toNat_lt.mpr one
  simp only [piece, if_pos less, code, Char.ofNat_toNat]

private theorem piece_two (low : 0xC2 ≤ first.toNat) (high : first.toNat ≤ 0xDF)
    (two : Continues second)
    (code : first.toNat % 32 * 64 + second.toNat % 64 = c.toNat) :
    piece first (second :: rest) = .char c 2 := by
  have notShort : ¬ first.toNat < 0x80 := by omega
  simp [piece, UInt8.lt_iff_toNat_lt, UInt8.le_iff_toNat_le, notShort, low, high,
    isContinuation_iff.mpr two, codePoint, code]

private theorem piece_three (low : 0xE0 ≤ first.toNat) (high : first.toNat < 0xF0)
    (two : Follows first second) (three : Continues third)
    (code : (first.toNat % 16 * 64 + second.toNat % 64) * 64 + third.toNat % 64 = c.toNat) :
    piece first (second :: third :: rest) = .char c 3 := by
  have notShort : ¬ first.toNat < 0x80 := by omega
  have notTwo : ¬ first.toNat ≤ 0xDF := by omega
  have notFour : first.toNat ≤ 0xF4 := by omega
  obtain ⟨lower, upper⟩ := secondRange_iff.mpr two
  simp [piece, UInt8.lt_iff_toNat_lt, UInt8.le_iff_toNat_le, notShort, notTwo, low, high, notFour,
    lower, upper, isContinuation_iff.mpr three, codePoint, code]

private theorem piece_four (low : 0xF0 ≤ first.toNat) (high : first.toNat ≤ 0xF4)
    (two : Follows first second) (three : Continues third) (four : Continues fourth)
    (code : ((first.toNat % 8 * 64 + second.toNat % 64) * 64 + third.toNat % 64) * 64 +
      fourth.toNat % 64 = c.toNat) :
    piece first (second :: third :: fourth :: rest) = .char c 4 := by
  have notShort : ¬ first.toNat < 0x80 := by omega
  have notTwo : ¬ first.toNat ≤ 0xDF := by omega
  have notThree : ¬ first.toNat < 0xF0 := by omega
  have long : 0xE0 ≤ first.toNat := by omega
  obtain ⟨lower, upper⟩ := secondRange_iff.mpr two
  simp [piece, UInt8.lt_iff_toNat_lt, UInt8.le_iff_toNat_le, notShort, notTwo, notThree, long, high,
    lower, upper, isContinuation_iff.mpr three, isContinuation_iff.mpr four, codePoint, code]

end Forms

theorem toNat_ofNat_of_lt {value : Nat} (small : value < 256) :
    (UInt8.ofNat value).toNat = value := by
  simp [Nat.mod_eq_of_lt small]

/-- The bytes of a character are read as that character. -/
theorem piece_encode (c : Char) (rest : Bytes) :
    ∃ first more, String.utf8EncodeChar c = first :: more ∧
      piece first (more ++ rest) = .char c c.utf8Size := by
  have valid := toNat_char_valid c
  have value : c.val.toNat = c.toNat := rfl
  rw [← String.length_utf8EncodeChar]
  simp only [String.utf8EncodeChar, value]
  split
  case isTrue one =>
    refine ⟨_, _, rfl, piece_one c rest ?_ ?_⟩ <;>
      rw [toNat_ofNat_of_lt (by omega)]
    omega
  case isFalse notOne =>
    split
    case isTrue two =>
      refine ⟨_, _, rfl, piece_two c rest ?_ ?_ ?_ ?_⟩ <;>
        simp only [Continues, toNat_ofNat_of_lt (show c.toNat / 64 % 0x20 + 0xc0 < 256 by omega),
          toNat_ofNat_of_lt (show c.toNat % 0x40 + 0x80 < 256 by omega)] <;>
        omega
    case isFalse notTwo =>
      split
      case isTrue three =>
        refine ⟨_, _, rfl, piece_three c rest ?_ ?_ ?_ ?_ ?_⟩ <;>
          simp only [Follows, Continues,
            toNat_ofNat_of_lt (show c.toNat / 4096 % 0x10 + 0xe0 < 256 by omega),
            toNat_ofNat_of_lt (show c.toNat / 64 % 0x40 + 0x80 < 256 by omega),
            toNat_ofNat_of_lt (show c.toNat % 0x40 + 0x80 < 256 by omega)] <;>
          omega
      case isFalse notThree =>
        refine ⟨_, _, rfl, piece_four c rest ?_ ?_ ?_ ?_ ?_ ?_⟩ <;>
          simp only [Follows, Continues,
            toNat_ofNat_of_lt (show c.toNat / 262144 % 0x08 + 0xf0 < 256 by omega),
            toNat_ofNat_of_lt (show c.toNat / 4096 % 0x40 + 0x80 < 256 by omega),
            toNat_ofNat_of_lt (show c.toNat / 64 % 0x40 + 0x80 < 256 by omega),
            toNat_ofNat_of_lt (show c.toNat % 0x40 + 0x80 < 256 by omega)] <;>
          omega

/-! ## Whole texts -/

private theorem pieces_skip (index : Nat) (skipped rest : Bytes) :
    pieces skipped.length index (skipped ++ rest) = pieces 0 (index + skipped.length) rest := by
  induction skipped generalizing index with
  | nil => rfl
  | cons byte skipped ih =>
      simp only [List.length_cons, List.cons_append, pieces, Nat.add_one_sub_one]
      simp only [bne_iff_ne, ne_eq, Nat.add_one_ne_zero, not_false_eq_true, if_true]
      rw [ih, Nat.add_assoc, Nat.add_comm 1]

/-- The bytes of a character are one piece. -/
theorem pieces_encode (index : Nat) (c : Char) (rest : Bytes) :
    pieces 0 index (String.utf8EncodeChar c ++ rest) =
      (index, .char c c.utf8Size) :: pieces 0 (index + c.utf8Size) rest := by
  obtain ⟨first, more, encoded, read⟩ := piece_encode c rest
  have size : c.utf8Size = more.length + 1 := by
    rw [← String.length_utf8EncodeChar, encoded, List.length_cons]
  have skip := pieces_skip (index + 1) more rest
  simp only [encoded, List.cons_append, pieces, bne_self_eq_false, Bool.false_eq_true, if_false,
    read, size, Nat.add_one_sub_one, skip]
  rw [Nat.add_assoc, Nat.add_comm 1]

/-- The text of bytes that begin at `index`, or the first fault. -/
def toTextFrom (index : Nat) (bytes : Bytes) : Except Fault Text :=
  (pieces 0 index bytes).mapM fun
    | (_, .char value _) => .ok value
    | (index, .invalid size) => .error (.invalid size index)
    | (index, .incomplete) => .error (.incomplete index)

theorem toTextFrom_encode (index : Nat) (c : Char) (rest : Bytes) :
    toTextFrom index (String.utf8EncodeChar c ++ rest) =
      (toTextFrom (index + c.utf8Size) rest).map (c :: ·) := by
  simp only [toTextFrom, pieces_encode, List.mapM_cons]
  rfl

/-- Bytes that begin with those of no character are not read. -/
theorem toTextFrom_eq_error {index : Nat} {first : UInt8} {rest : Bytes}
    (unread : ∀ c size, piece first rest ≠ .char c size) :
    ∃ fault, toTextFrom index (first :: rest) = .error fault := by
  simp only [toTextFrom, pieces, bne_self_eq_false, Bool.false_eq_true, if_false]
  cases found : piece first rest with
  | char c size => exact (unread c size found).elim
  | invalid size => exact ⟨_, rfl⟩
  | incomplete => exact ⟨_, rfl⟩

theorem toTextFrom_toBytes (index : Nat) (text : Text) :
    toTextFrom index (Text.toBytes text) = .ok text := by
  induction text generalizing index with
  | nil => rfl
  | cons c text ih =>
      simp only [Text.toBytes, List.flatMap_cons, toTextFrom_encode]
      simp only [Text.toBytes] at ih
      rw [ih]
      rfl

theorem eq_toBytes_of_toTextFrom {index : Nat} {bytes : Bytes} {text : Text}
    (read : toTextFrom index bytes = .ok text) : bytes = Text.toBytes text := by
  cases bytes with
  | nil =>
      cases read
      rfl
  | cons first rest =>
      by_cases readable : ∃ c size, piece first rest = .char c size
      · obtain ⟨c, size, found⟩ := readable
        obtain ⟨more, split, -⟩ := encode_of_piece found
        rw [split, toTextFrom_encode] at read
        cases later : toTextFrom (index + c.utf8Size) more with
        | error fault =>
            rw [later] at read
            cases read
        | ok text' =>
            rw [later] at read
            cases read
            have shorter : more.length < (first :: rest).length := by
              have positive := c.utf8Size_pos
              rw [split, List.length_append, String.length_utf8EncodeChar]
              omega
            rw [split, eq_toBytes_of_toTextFrom later]
            rfl
      · simp only [not_exists] at readable
        obtain ⟨fault, unread⟩ := toTextFrom_eq_error readable
        rw [unread] at read
        cases read
termination_by bytes.length

/-- Bytes are read as a text exactly if they are the bytes of that text. -/
theorem toText?_eq_some_iff {bytes : Bytes} {text : Text} :
    toText? bytes = some text ↔ bytes = Text.toBytes text := by
  constructor
  · intro read
    cases found : toText bytes with
    | error fault => simp [toText?, found, Except.toOption] at read
    | ok text' =>
        simp only [toText?, found, Except.toOption, Option.some.injEq] at read
        subst read
        exact eq_toBytes_of_toTextFrom found
  · rintro rfl
    have read : toText (Text.toBytes text) = .ok text := toTextFrom_toBytes 0 text
    simp [toText?, read, Except.toOption]

theorem toBytes_injective {text text' : Text} (same : Text.toBytes text = Text.toBytes text') :
    text = text' := by
  have read : toText? (Text.toBytes text) = some text := toText?_eq_some_iff.mpr rfl
  exact Option.some.inj (read.symm.trans (toText?_eq_some_iff.mpr same))

end Marginalia.Bytes
