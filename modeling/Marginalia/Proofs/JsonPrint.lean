import Marginalia.Json.Print
import Marginalia.Proofs.Json
import Marginalia.Proofs.Utf8
import Mathlib.Data.List.Forall2

/-!
# Texts that are written as JSON

What a style writes spells the value that was meant: a text as a string, a
number by its digits, values in brackets as an array, and named values in braces
as an object.  The style of a companion writes printable ASCII only.
-/

namespace Marginalia.Json

/-! ## Strings -/

theorem hexValue?_hexDigit : ∀ value < 16, hexValue? (hexDigit value) = some value := by
  decide

theorem spelled_unitEscape (value : Nat) (small : value < 0x10000) :
    (Piece.unit value).Spelled (unitEscape value) := by
  have digit (shifted : Nat) : hexValue? (hexDigit (shifted % 16)) = some (shifted % 16) :=
    hexValue?_hexDigit _ (Nat.mod_lt _ (by decide))
  have spelled := Piece.Spelled.unit (digit (value / 4096)) (digit (value / 256))
    (digit (value / 16)) (digit value)
  have sum : ((value / 4096 % 16 * 16 + value / 256 % 16) * 16 + value / 16 % 16) * 16 +
      value % 16 = value := by omega
  rwa [sum] at spelled

/-- Pieces that spell a character in front of any others. -/
def Stand (pieces : List Piece) (c : Char) : Prop :=
  ∀ more, decode? (pieces ++ more) = (decode? more).map (c :: ·)

theorem stand_char (c : Char) : Stand [.char c] c :=
  fun _ => rfl

/-- One unit stands for a character that needs no more. -/
theorem stand_unit {c : Char} (small : c.toNat < 0x10000) : Stand [.unit c.toNat] c := by
  intro more
  have valid := Bytes.toNat_char_valid c
  have notLow : ¬ (0xDC00 ≤ c.toNat ∧ c.toNat ≤ 0xDFFF) := by omega
  have notHigh : ¬ (0xD800 ≤ c.toNat ∧ c.toNat ≤ 0xDBFF) := by omega
  rw [List.singleton_append, decode?.eq_def]
  simp only [Bool.and_eq_true, decide_eq_true_eq, if_neg notLow, if_neg notHigh, Char.ofNat_toNat]

/-- A pair of surrogates stands for a character that needs two units. -/
theorem stand_pair {c : Char} (large : ¬ c.toNat < 0x10000) :
    Stand [.unit (0xD800 + (c.toNat - 0x10000) / 0x400),
      .unit (0xDC00 + (c.toNat - 0x10000) % 0x400)] c := by
  intro more
  have valid := Bytes.toNat_char_valid c
  generalize isHigh : 0xD800 + (c.toNat - 0x10000) / 0x400 = high
  generalize isLow : 0xDC00 + (c.toNat - 0x10000) % 0x400 = low
  have notLow : ¬ (0xDC00 ≤ high ∧ high ≤ 0xDFFF) := by omega
  have highRange : 0xD800 ≤ high ∧ high ≤ 0xDBFF := by omega
  have lowRange : 0xDC00 ≤ low ∧ low ≤ 0xDFFF := by omega
  have joined : 0x10000 + (high - 0xD800) * 0x400 + (low - 0xDC00) = c.toNat := by omega
  rw [List.cons_append, List.singleton_append, decode?]
  simp only [Bool.and_eq_true, decide_eq_true_eq, if_neg notLow, if_pos highRange, if_pos lowRange,
    joined, Char.ofNat_toNat]

theorem charEscape_spelled (c : Char) :
    ∃ pieces, PiecesSpelled pieces (charEscape c) ∧ Stand pieces c := by
  have valid := Bytes.toNat_char_valid c
  unfold charEscape
  dsimp only
  split
  case isTrue small =>
    exact ⟨_, .singleton (spelled_unitEscape _ small), stand_unit small⟩
  case isFalse large =>
    have high := spelled_unitEscape (0xD800 + (c.toNat - 0x10000) / 0x400) (by omega)
    have low := spelled_unitEscape (0xDC00 + (c.toNat - 0x10000) % 0x400) (by omega)
    exact ⟨_, .append (.singleton high) (.singleton low), stand_pair large⟩

/-- Every character of a string is written in pieces that stand for it. -/
theorem char_spelled (style : Style) (c : Char) :
    ∃ pieces, PiecesSpelled pieces (style.char c) ∧ Stand pieces c := by
  have short {letter c : Char} (escapes : escaped? letter = some c) :
      ∃ pieces, PiecesSpelled pieces ['\\', letter] ∧ Stand pieces c :=
    ⟨_, .singleton (.escape escapes), stand_char c⟩
  unfold Style.char
  split
  case h_8 quote backslash _ _ _ _ _ =>
    split
    case isTrue => exact charEscape_spelled c
    case isFalse plain =>
      simp only [Bool.or_eq_true, decide_eq_true_eq, not_or] at plain
      exact ⟨_, .singleton (.char plain.1 quote backslash), stand_char c⟩
  all_goals exact short rfl

/-- Every text is written as a string that spells it. -/
theorem string_spelled (style : Style) (text : Text) :
    (Token.string (some text)).Spelled (style.string text) := by
  have body : ∃ pieces, PiecesSpelled pieces (text.flatMap style.char) ∧
      decode? pieces = some text := by
    induction text with
    | nil => exact ⟨[], .nil, rfl⟩
    | cons c rest ih =>
        obtain ⟨pieces, spelled, stand⟩ := char_spelled style c
        obtain ⟨more, later, decoded⟩ := ih
        refine ⟨pieces ++ more, spelled.append later, ?_⟩
        rw [stand, decoded, Option.map_some]
  obtain ⟨pieces, spelled, decoded⟩ := body
  have token := Token.Spelled.string spelled
  rwa [decoded] at token

/-! ## Numbers -/

theorem isDigit_of_mem_decimal {value : Nat} {c : Char} (member : c ∈ decimal value) :
    isDigit c := by
  have digit := Nat.isDigit_of_mem_toDigits (by decide) (by decide) member
  simpa [isDigit, Char.isDigit, Char.le_def] using digit

/-- Only zero begins with a zero. -/
theorem decimal_head {value : Nat} (positive : 0 < value) : (decimal value).head? ≠ some '0' := by
  have alone : ∀ digit < 10, 0 < digit → [Nat.digitChar digit].head? ≠ some '0' := by decide
  unfold decimal
  induction value using Nat.base_induction 10 (by decide) with
  | single digit small =>
      rw [Nat.toDigits_of_lt_base small]
      exact alone digit small positive
  | digit front last small nonzero ih =>
      rw [← Nat.toDigits_append_toDigits (by decide) nonzero small,
        List.head?_append_of_ne_nil _ Nat.toDigits_ne_nil]
      exact ih nonzero

/-- Digits are read up to the first character that is none. -/
theorem digits?_append {digits : Text} (all : ∀ c ∈ digits, isDigit c) (nonempty : digits ≠ [])
    {rest : Text} (stops : ∀ c ∈ rest.head?, isDigit c = false) :
    digits? (digits ++ rest) = some rest := by
  have left : (digits ++ rest).dropWhile isDigit = rest := by
    rw [List.dropWhile_append_of_pos all]
    cases rest with
    | nil => rfl
    | cons c rest => rw [List.dropWhile_cons_of_neg (by simp [stops c rfl])]
  rw [digits?, left]
  simp [nonempty]

theorem digits?_eq_some {digits : Text} (all : ∀ c ∈ digits, isDigit c) (nonempty : digits ≠ []) :
    digits? digits = some [] := by
  have ended : ∀ c ∈ ([] : Text).head?, isDigit c = false := by simp
  simpa using digits?_append all nonempty ended

/-- Digits without a needless zero are a number. -/
theorem number?_digits {digits : Text} (all : ∀ c ∈ digits, isDigit c) (nonempty : digits ≠ [])
    (head : digits.head? ≠ some '0') : number? digits = some [] := by
  have whole : whole? digits = some [] := by
    rw [whole?.eq_def]
    split
    case h_1 => exact absurd rfl head
    case h_2 => exact digits?_eq_some all nonempty
  rw [number?]
  · rw [whole]
    rfl
  · rintro rest rfl
    exact absurd (all '-' (List.mem_cons_self ..)) (by decide)

theorem decimal_spelled (value : Nat) : (Token.number (decimal value)).Spelled (decimal value) := by
  apply Token.Spelled.number
  · intro c member
    simp [isNumeric, isDigit_of_mem_decimal member]
  · rcases Nat.eq_zero_or_pos value with rfl | positive
    · rfl
    · exact number?_digits (fun c => isDigit_of_mem_decimal) Nat.toDigits_ne_nil
        (decimal_head positive)

/-! ## Values -/

theorem Spelled.behindGap {gap : Text} (blank : ∀ c ∈ gap, isSpace c) {tokens : List Token}
    {text : Text} (spelled : Spelled tokens text) : Spelled tokens (gap ++ text) := by
  have both {other : Text} (blank' : ∀ c ∈ other, isSpace c) : ∀ c ∈ gap ++ other, isSpace c :=
    List.forall_mem_append.mpr ⟨blank, blank'⟩
  cases spelled with
  | nil blank' => exact .nil (both blank')
  | cons blank' first apart more =>
      rw [← List.append_assoc]
      exact .cons (both blank') first apart more

/-- A token that is no number may stand in front of everything. -/
theorem Spelled.push {token : Token} {tokens : List Token} {text rest : Text}
    (more : Spelled tokens rest) (first : token.Spelled text)
    (sign : ∀ spelling, token ≠ .number spelling) : Spelled (token :: tokens) (text ++ rest) := by
  have apart : ∀ spelling, token = .number spelling → Delimited rest :=
    fun spelling isNumber => absurd isNumber (sign spelling)
  exact @Spelled.cons token tokens [] text rest (List.forall_mem_nil _) first apart more

/-- A text that spells tokens in front of any others that no number runs on
into. -/
def Writes (text : Text) (tokens : List Token) : Prop :=
  ∀ ⦃more : List Token⦄ ⦃rest : Text⦄, Delimited rest → Spelled more rest →
    Spelled (tokens ++ more) (text ++ rest)

theorem delimited_cons {c : Char} (ends : isNumeric c = false) (rest : Text) :
    Delimited (c :: rest) := by
  rintro _ ⟨⟩
  exact ends

theorem writes_string (style : Style) (text : Text) :
    Writes (style.string text) (Value.string (some text)).tokens := by
  intro more rest _ spelled
  rw [Value.tokens]
  exact spelled.push (string_spelled style text) (by simp)

theorem writes_decimal (value : Nat) :
    Writes (decimal value) (Value.number (decimal value)).tokens := by
  intro more rest delimited spelled
  rw [Value.tokens]
  exact @Spelled.cons _ more [] _ rest (List.forall_mem_nil _) (decimal_spelled value)
    (fun _ _ => delimited) spelled

theorem Style.isSpace_of_mem_blank (style : Style) : ∀ c ∈ style.blank, isSpace c := by
  unfold Style.blank
  split
  · exact List.forall_mem_singleton.mpr rfl
  · exact List.forall_mem_nil _

/-- Texts with commas between them spell what each of them spells. -/
theorem writes_separated (style : Style) {first : Text} {head : List Token} {texts : List Text}
    {phrases : List (List Token)} (leads : Writes first head)
    (follow : List.Forall₂ Writes texts phrases) :
    Writes ((',' :: style.blank).intercalate (first :: texts))
      (head ++ phrases.flatMap (.comma :: ·)) := by
  induction follow generalizing first head with
  | nil =>
      rw [List.intercalate_singleton, List.flatMap_nil, List.append_nil]
      exact leads
  | @cons next phrase texts phrases nextWrites _ ih =>
      intro more rest delimited spelled
      have later := (ih nextWrites delimited spelled).behindGap style.isSpace_of_mem_blank
      -- a number in front of the comma ends there, as a comma belongs to none
      have joined := leads (delimited_cons (by decide) _) (later.push .comma (by simp))
      rw [List.intercalate_cons_cons, List.flatMap_cons]
      simpa using joined

theorem elementTokens_eq (values : List Value) :
    elementTokens values = (values.map Value.tokens).flatMap (.comma :: ·) ++ [.closeBracket] := by
  induction values with
  | nil => rw [elementTokens]; rfl
  | cons next more ih => rw [elementTokens, ih]; simp

theorem writes_array (style : Style) {texts : List Text} {values : List Value}
    (written : List.Forall₂ (fun text value => Writes text value.tokens) texts values) :
    Writes (style.array texts) (Value.array values).tokens := by
  intro more rest delimited spelled
  have closed : Spelled (.closeBracket :: more) (']' :: rest) :=
    spelled.push .closeBracket (by simp)
  unfold Style.array
  cases written with
  | nil =>
      rw [Value.tokens]
      exact closed.push .openBracket (by simp)
  | cons first later =>
      have follow := List.forall₂_map_right_iff.mpr later
      have body := writes_separated style first follow (delimited_cons (by decide) _) closed
      rw [Value.tokens, elementTokens_eq]
      simpa using body.push .openBracket (by simp)

theorem writes_array_map (style : Style) {α : Type} {write : α → Text} {value : α → Value}
    (each : ∀ item, Writes (write item) (value item).tokens) (items : List α) :
    Writes (style.array (items.map write)) (Value.array (items.map value)).tokens := by
  apply writes_array
  rw [List.forall₂_map_left_iff, List.forall₂_map_right_iff]
  exact List.forall₂_same.mpr fun item _ => each item

/-- The tokens of a member. -/
def memberPhrase (member : Option Text × Value) : List Token :=
  .string member.1 :: .colon :: member.2.tokens

theorem memberTokens_eq (members : List (Option Text × Value)) :
    memberTokens members =
      (members.map memberPhrase).flatMap (.comma :: ·) ++ [.closeBrace] := by
  induction members with
  | nil => rw [memberTokens]; rfl
  | cons next more ih => rw [memberTokens, ih]; simp [memberPhrase]

theorem writes_member (style : Style) (name : Text) {text : Text} {value : Value}
    (written : Writes text value.tokens) :
    Writes (style.string name ++ ':' :: style.blank ++ text) (memberPhrase (some name, value)) := by
  intro more rest delimited spelled
  have behind := (written delimited spelled).behindGap style.isSpace_of_mem_blank
  have named := (behind.push .colon (by simp)).push (string_spelled style name) (by simp)
  simpa [memberPhrase] using named

theorem Style.object_eq (style : Style) (members : List (Text × Text)) :
    style.object members =
      '{' :: (',' :: style.blank).intercalate
        (members.map fun member => style.string member.1 ++ ':' :: style.blank ++ member.2) ++
        ['}'] :=
  rfl

theorem writes_object (style : Style) {texts : List (Text × Text)}
    {members : List (Option Text × Value)}
    (written : List.Forall₂
      (fun text member => member.1 = some text.1 ∧ Writes text.2 member.2.tokens) texts members) :
    Writes (style.object texts) (Value.object members).tokens := by
  have phrases : List.Forall₂ Writes
      (texts.map fun text => style.string text.1 ++ ':' :: style.blank ++ text.2)
      (members.map memberPhrase) := by
    rw [List.forall₂_map_left_iff, List.forall₂_map_right_iff]
    apply written.imp
    rintro ⟨name, text⟩ ⟨_, value⟩ ⟨rfl, textWritten⟩
    exact writes_member style name textWritten
  intro more rest delimited spelled
  have closed : Spelled (.closeBrace :: more) ('}' :: rest) := spelled.push .closeBrace (by simp)
  rw [Style.object_eq]
  cases written with
  | nil =>
      rw [Value.tokens]
      exact closed.push .openBrace (by simp)
  | cons first later =>
      obtain ⟨firstPhrase, follow⟩ := List.forall₂_cons.mp phrases
      have body := writes_separated style firstPhrase follow (delimited_cons (by decide) _) closed
      rw [Value.tokens, memberTokens_eq]
      simpa [memberPhrase] using body.push .openBrace (by simp)

/-- Named texts spell an object with these names. -/
theorem writes_record (style : Style) (names : List Text) {texts : List Text}
    {values : List Value}
    (written : List.Forall₂ (fun text value => Writes text value.tokens) texts values) :
    Writes (style.object (names.zip texts))
      (Value.object ((names.map some).zip values)).tokens := by
  apply writes_object
  induction written generalizing names with
  | nil => simp
  | cons first _ ih =>
      cases names with
      | nil => exact .nil
      | cons name names => exact .cons ⟨rfl, first⟩ (ih names)

/-! ## Printable text -/

/-- Only characters between the blank and the tilde. -/
def Printable (text : Text) : Prop :=
  ∀ c ∈ text, 0x20 ≤ c.toNat ∧ c.toNat ≤ 0x7E

instance (text : Text) : Decidable (Printable text) :=
  List.decidableBAll (fun c : Char => 0x20 ≤ c.toNat ∧ c.toNat ≤ 0x7E) text

theorem Printable.nil : Printable [] :=
  List.forall_mem_nil _

theorem Printable.append {front back : Text} (first : Printable front) (second : Printable back) :
    Printable (front ++ back) :=
  List.forall_mem_append.mpr ⟨first, second⟩

theorem Printable.cons {c : Char} {text : Text} (first : 0x20 ≤ c.toNat ∧ c.toNat ≤ 0x7E)
    (rest : Printable text) : Printable (c :: text) :=
  List.forall_mem_cons.mpr ⟨first, rest⟩

theorem Printable.intercalate {separator : Text} (between : Printable separator)
    {texts : List Text} (each : ∀ text ∈ texts, Printable text) :
    Printable (separator.intercalate texts) := by
  induction texts with
  | nil => exact .nil
  | cons first texts ih =>
      obtain ⟨firstPrints, each⟩ := List.forall_mem_cons.mp each
      cases texts with
      | nil => rwa [List.intercalate_singleton]
      | cons next texts =>
          rw [List.intercalate_cons_cons]
          exact (firstPrints.append between).append (ih each)

theorem hexDigit_printable : ∀ value < 16,
    0x20 ≤ (hexDigit value).toNat ∧ (hexDigit value).toNat ≤ 0x7E := by
  decide

theorem unitEscape_printable (value : Nat) : Printable (unitEscape value) := by
  have digit (shifted : Nat) := hexDigit_printable (shifted % 16) (Nat.mod_lt _ (by decide))
  exact .cons (by decide) (.cons (by decide)
    (.cons (digit _) (.cons (digit _) (.cons (digit _) (.cons (digit _) .nil)))))

theorem charEscape_printable (c : Char) : Printable (charEscape c) := by
  unfold charEscape
  dsimp only
  split
  · exact unitEscape_printable _
  · exact (unitEscape_printable _).append (unitEscape_printable _)

theorem char_printable (c : Char) : Printable (Style.companion.char c) := by
  unfold Style.char
  split
  case h_8 =>
    split
    case isTrue => exact charEscape_printable c
    case isFalse plain =>
      simp only [Style.companion, Bool.or_eq_true, Bool.true_and, decide_eq_true_eq, not_or,
        Nat.not_lt] at plain
      exact .cons plain .nil
  all_goals decide

theorem string_printable (text : Text) : Printable (Style.companion.string text) := by
  have body : Printable (text.flatMap Style.companion.char) := by
    intro c member
    obtain ⟨d, _, inside⟩ := List.mem_flatMap.mp member
    exact char_printable d c inside
  exact .append (.cons (by decide) body) (by decide)

theorem decimal_printable (value : Nat) : Printable (decimal value) := by
  intro c member
  have digit := isDigit_of_mem_decimal member
  simp only [isDigit, Bool.and_eq_true, decide_eq_true_eq, Char.le_def, UInt32.le_iff_toNat_le]
    at digit
  exact ⟨le_trans (by decide) digit.1, le_trans digit.2 (by decide)⟩

theorem array_printable {texts : List Text} (each : ∀ text ∈ texts, Printable text) :
    Printable (Style.companion.array texts) :=
  .append (.cons (by decide) (.intercalate (by decide) each)) (by decide)

theorem object_printable {members : List (Text × Text)}
    (each : ∀ member ∈ members, Printable member.2) :
    Printable (Style.companion.object members) := by
  have named : ∀ text ∈ members.map fun member =>
      Style.companion.string member.1 ++ ':' :: Style.companion.blank ++ member.2,
      Printable text := by
    rw [List.forall_mem_map]
    intro member inside
    exact ((string_printable member.1).append (by decide)).append (each member inside)
  rw [Style.object_eq]
  exact .append (.cons (by decide) (.intercalate (by decide) named)) (by decide)

end Marginalia.Json
