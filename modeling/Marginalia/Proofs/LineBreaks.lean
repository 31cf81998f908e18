import Marginalia.Proofs.ByteOffset
import Marginalia.Proofs.TokenPlace
import Marginalia.Proofs.Utf8

/-!
# Bytes and line breaks

The bytes of a text are read as characters, and its line breaks as line feeds.
Main statements: where something is sealed in what is read, it is sealed in the
text; and more line feeds are read than the text has exactly if a carriage return
stands alone in it.
-/

namespace Marginalia.Offside

/-! ## Octets -/

/-- The bytes of a text, as characters of the same numbers. -/
def octets (text : Text) : Text :=
  asChars (Text.toBytes text)

@[simp] theorem octets_nil : octets [] = [] := rfl

@[simp] theorem octets_append (front back : Text) :
    octets (front ++ back) = octets front ++ octets back := by
  simp [octets, asChars, Text.toBytes]

theorem octets_cons (c : Char) (rest : Text) : octets (c :: rest) = octets [c] ++ octets rest :=
  octets_append [c] rest

theorem mem_octets {text : Text} {octet : Char} :
    octet ∈ octets text ↔ ∃ c ∈ text, octet ∈ octets [c] := by
  induction text with
  | nil => simp
  | cons d rest ih => rw [octets_cons, List.mem_append, ih, List.exists_mem_cons_iff]

theorem encode_ascii {c : Char} (ascii : c.toNat < 0x80) :
    String.utf8EncodeChar c = [UInt8.ofNat c.toNat] := by
  have value : c.val.toNat = c.toNat := rfl
  simp only [String.utf8EncodeChar, value]
  rw [if_pos (by omega)]

theorem octets_ascii {c : Char} (ascii : c.toNat < 0x80) : octets [c] = [c] := by
  simp only [octets, asChars, Text.toBytes, List.flatMap_singleton, encode_ascii ascii,
    List.map_cons, List.map_nil, Bytes.toNat_ofNat_of_lt (show c.toNat < 256 by omega),
    Char.ofNat_toNat]

theorem wide_of_mem_encode {c : Char} (wide : 0x80 ≤ c.toNat) {byte : UInt8}
    (member : byte ∈ String.utf8EncodeChar c) : 0x80 ≤ byte.toNat := by
  have value : c.val.toNat = c.toNat := rfl
  have valid := Bytes.toNat_char_valid c
  simp only [String.utf8EncodeChar, value] at member
  rw [if_neg (by omega)] at member
  split at member
  · simp only [List.mem_cons, List.not_mem_nil, or_false] at member
    rcases member with rfl | rfl <;> rw [Bytes.toNat_ofNat_of_lt (by omega)] <;> omega
  · split at member
    · simp only [List.mem_cons, List.not_mem_nil, or_false] at member
      rcases member with rfl | rfl | rfl <;> rw [Bytes.toNat_ofNat_of_lt (by omega)] <;> omega
    · simp only [List.mem_cons, List.not_mem_nil, or_false] at member
      rcases member with rfl | rfl | rfl | rfl <;> rw [Bytes.toNat_ofNat_of_lt (by omega)] <;>
        omega

theorem toNat_asChar (byte : UInt8) : (Char.ofNat byte.toNat).toNat = byte.toNat := by
  have small := byte.toNat_lt
  exact Bytes.toNat_char_ofNat (by omega)

/-- The octets of a character beyond ASCII are beyond ASCII. -/
theorem wide_of_mem_octets {c : Char} (wide : 0x80 ≤ c.toNat) {octet : Char}
    (member : octet ∈ octets [c]) : 0x80 ≤ octet.toNat := by
  simp only [octets, asChars, Text.toBytes, List.flatMap_singleton, List.mem_map] at member
  obtain ⟨byte, inside, rfl⟩ := member
  rw [toNat_asChar]
  exact wide_of_mem_encode wide inside

theorem length_octets (text : Text) : (octets text).length = text.byteLength := by
  induction text with
  | nil => rfl
  | cons c rest ih =>
      rw [octets_cons, List.length_append, ih, Text.byteLength_cons]
      simp [octets, asChars, Text.toBytes, String.length_utf8EncodeChar]

theorem length_toBytes (text : Text) : (Text.toBytes text).length = text.byteLength := by
  rw [← length_octets, octets, asChars, List.length_map]

/-- Where an element stands for itself among lists put together, one of them is put
there. -/
theorem flatMap_split {α β : Type} {image : α → List β} {items : List α} {front back : List β}
    {element : β} (alone : ∀ item ∈ items, element ∈ image item → image item = [element])
    (whole : items.flatMap image = front ++ element :: back) :
    ∃ left item right, items = left ++ item :: right ∧ left.flatMap image = front ∧
      image item = [element] ∧ right.flatMap image = back := by
  induction items generalizing front with
  | nil => simp at whole
  | cons item items ih =>
      have later {more : List β} (inside : items.flatMap image = more ++ element :: back) :
          ∃ left other right, item :: items = left ++ other :: right ∧
            left.flatMap image = image item ++ more ∧ image other = [element] ∧
            right.flatMap image = back := by
        obtain ⟨left, other, right, rfl, rfl, same, rfl⟩ :=
          ih (fun other member => alone other (List.mem_cons_of_mem item member)) inside
        exact ⟨item :: left, other, right, rfl, rfl, same, rfl⟩
      rw [List.flatMap_cons] at whole
      rcases List.append_eq_append_iff.mp whole with ⟨more, rfl, rest⟩ | ⟨more, here, rest⟩
      · exact later rest
      · cases more with
        | nil =>
            rw [List.append_nil] at here
            have behind := later (show items.flatMap image = [] ++ element :: back from rest.symm)
            rwa [List.append_nil, here] at behind
        | cons other more =>
            obtain ⟨rfl, rfl⟩ : element = other ∧ back = more ++ items.flatMap image := by
              simpa using rest
            have single := alone item (by simp) (by simp [here])
            rw [single] at here
            obtain ⟨rfl, rfl⟩ : front = [] ∧ more = [] := by
              have size := congrArg List.length here
              simp only [List.length_append, List.length_cons, List.length_nil] at size
              exact ⟨List.length_eq_zero_iff.mp (by omega), List.length_eq_zero_iff.mp (by omega)⟩
            exact ⟨[], item, items, rfl, rfl, single, rfl⟩

theorem octets_eq_flatMap (text : Text) : octets text = text.flatMap fun c => octets [c] := by
  induction text with
  | nil => rfl
  | cons c text ih => rw [octets_cons, ih, List.flatMap_cons]

/-- An ASCII octet is the only octet of its character. -/
theorem octets_of_mem {c d : Char} (ascii : c.toNat < 0x80) (member : c ∈ octets [d]) :
    d = c := by
  have narrow : d.toNat < 0x80 := by
    by_contra wide
    have beyond := wide_of_mem_octets (Nat.le_of_not_lt wide) member
    omega
  rw [octets_ascii narrow, List.mem_singleton] at member
  exact member.symm

/-- A text has the octets that are ASCII where it has those characters. -/
theorem octets_split {text front back : Text} {c : Char} (ascii : c.toNat < 0x80)
    (whole : octets text = front ++ c :: back) :
    ∃ before behind, text = before ++ c :: behind ∧ octets before = front ∧
      octets behind = back := by
  rw [octets_eq_flatMap] at whole
  obtain ⟨before, d, behind, rfl, rfl, alone, rfl⟩ := flatMap_split
    (fun d _ member => by rw [octets_of_mem ascii member, octets_ascii ascii]) whole
  obtain rfl := octets_of_mem ascii (show c ∈ octets [d] by rw [alone]; simp)
  exact ⟨before, behind, rfl, octets_eq_flatMap before, octets_eq_flatMap behind⟩

theorem octets_eq_nil {text : Text} : octets text = [] ↔ text = [] := by
  rw [← List.length_eq_zero_iff, length_octets, Text.byteLength_eq_zero]

theorem mem_octets_iff {text : Text} {c : Char} (ascii : c.toNat < 0x80) :
    c ∈ octets text ↔ c ∈ text := by
  constructor
  · intro member
    obtain ⟨front, back, whole⟩ := List.append_of_mem member
    obtain ⟨before, behind, rfl, -, -⟩ := octets_split ascii whole
    simp
  · intro member
    obtain ⟨before, behind, rfl⟩ := List.append_of_mem member
    simp [octets_cons c behind, octets_ascii ascii]

theorem count_octets {c : Char} (ascii : c.toNat < 0x80) (text : Text) :
    (octets text).count c = text.count c := by
  induction text with
  | nil => rfl
  | cons d rest ih =>
      rw [octets_cons, List.count_append, ih, List.count_cons]
      by_cases same : d = c
      · rw [same, octets_ascii ascii]
        simp [Nat.add_comm]
      · have absent : c ∉ octets [d] := by
          rw [mem_octets_iff ascii]
          simpa [eq_comm] using same
        simp [List.count_eq_zero_of_not_mem absent, same]

theorem asChar_eq_iff {byte : UInt8} {c : Char} (small : c.toNat < 256) :
    Char.ofNat byte.toNat = c ↔ byte = UInt8.ofNat c.toNat := by
  constructor
  · rintro rfl
    simp [toNat_asChar]
  · rintro rfl
    rw [Bytes.toNat_ofNat_of_lt small, Char.ofNat_toNat]

theorem asChar_ofNat {c : Char} (small : c.toNat < 256) :
    Char.ofNat (UInt8.ofNat c.toNat).toNat = c :=
  (asChar_eq_iff small).mpr rfl

theorem count_asChars {c : Char} (small : c.toNat < 256) (bytes : Bytes) :
    (asChars bytes).count c = bytes.count (UInt8.ofNat c.toNat) := by
  induction bytes with
  | nil => rfl
  | cons byte bytes ih =>
      rw [asChars] at ih
      rw [asChars, List.map_cons, List.count_cons, List.count_cons, ih]
      simp [asChar_eq_iff small]

theorem count_toBytes (text : Text) : (Text.toBytes text).count 10 = text.count '\n' := by
  rw [← count_octets (by decide) text, octets, count_asChars (by decide)]
  rfl

theorem toBytes_append (front back : Text) :
    Text.toBytes (front ++ back) = Text.toBytes front ++ Text.toBytes back :=
  List.flatMap_append

theorem length_le_byteLength (text : Text) : text.length ≤ text.byteLength := by
  induction text with
  | nil => exact Nat.le_refl 0
  | cons c text ih =>
      have positive := c.utf8Size_pos
      rw [Text.byteLength_cons, List.length_cons]
      omega

theorem byteLength_eq_length_iff {text : Text} :
    text.byteLength = text.length ↔ ∀ c ∈ text, c.toNat < 0x80 := by
  induction text with
  | nil => simp
  | cons c text ih =>
      have one : c.utf8Size = 1 ↔ c.toNat < 0x80 := by
        rw [Char.utf8Size_eq_one_iff, UInt32.le_iff_toNat_le]
        exact Nat.lt_succ_iff.symm
      have positive := c.utf8Size_pos
      have least := length_le_byteLength text
      rw [List.forall_mem_cons, ← one, ← ih, Text.byteLength_cons, List.length_cons]
      omega

theorem ascii_octets_iff {text : Text} :
    (∀ c ∈ octets text, c.toNat < 0x80) ↔ ∀ c ∈ text, c.toNat < 0x80 := by
  constructor
  · intro ascii c member
    by_contra wide
    have some : octets [c] ≠ [] := by simp [octets_eq_nil]
    have first := List.head_mem some
    have beyond := wide_of_mem_octets (Nat.le_of_not_lt wide) first
    have within := ascii _ (mem_octets.mpr ⟨c, member, first⟩)
    omega
  · intro ascii octet member
    obtain ⟨c, inside, here⟩ := mem_octets.mp member
    rw [octets_ascii (ascii c inside), List.mem_singleton] at here
    rw [here]
    exact ascii c inside

theorem EndsLine.octets {text : Text} (ends : EndsLine '\n' text) :
    EndsLine '\n' (octets text) := by
  rcases ends.cases with rfl | ⟨front, rfl⟩
  · exact endsLine_nil _
  · rw [octets_append, octets_ascii (by decide)]
    exact endsLine_concat _ _

theorem EndsLine.toBytes {text : Text} (ends : EndsLine '\n' text) :
    EndsLine 10 (Text.toBytes text) := by
  rcases ends.cases with rfl | ⟨front, rfl⟩
  · exact endsLine_nil 10
  · rw [toBytes_append]
    exact endsLine_concat 10 _

/-- Whether a carriage return came last, given whether one came before. -/
def returned (afterReturn : Bool) (text : Text) : Bool :=
  text.foldl (fun _ c => c == '\r') afterReturn

theorem unifyBreaks_append (afterReturn : Bool) (front back : Text) :
    unifyBreaks afterReturn (front ++ back) =
      unifyBreaks afterReturn front ++ unifyBreaks (returned afterReturn front) back := by
  induction front generalizing afterReturn with
  | nil => rfl
  | cons c front ih =>
      have next : returned afterReturn (c :: front) = returned (c == '\r') front := rfl
      rw [next]
      simp only [List.cons_append, unifyBreaks]
      split
      case isTrue isReturn => rw [ih, isReturn, List.cons_append]
      case isFalse noReturn =>
        rw [Bool.not_eq_true] at noReturn
        split
        · rw [ih, noReturn]
        · rw [ih, noReturn, List.cons_append]

theorem unifyBreaks_of_not_mem {text : Text} (noReturn : '\r' ∉ text) (noFeed : '\n' ∉ text)
    (afterReturn : Bool) : unifyBreaks afterReturn text = text := by
  induction text generalizing afterReturn with
  | nil => rfl
  | cons c text ih =>
      simp only [List.mem_cons, not_or] at noReturn noFeed
      simp [unifyBreaks, Ne.symm noReturn.1, Ne.symm noFeed.1, ih noReturn.2 noFeed.2]

/-- Behind a carriage return the last line is read as ended. -/
theorem endsLine_of_returned {text : Text} (afterReturn : Bool) (last : returned false text = true) :
    ∃ front, unifyBreaks afterReturn text = front ++ ['\n'] := by
  rcases List.eq_nil_or_concat text with rfl | ⟨front, c, rfl⟩
  · cases last
  · rw [List.concat_eq_append] at last ⊢
    have isReturn : c = '\r' := by simpa [returned] using last
    refine ⟨unifyBreaks afterReturn front, ?_⟩
    rw [unifyBreaks_append, isReturn]
    rfl

/-- Every carriage return has a line feed behind it. -/
def Paired (text : Text) : Prop :=
  ∀ above below, text = above ++ '\r' :: below → below.head? = some '\n'

/-- How many carriage returns have no line feed behind them, given whether one
came before. -/
def lone : Bool → Text → Nat
  | afterReturn, [] => afterReturn.toNat
  | afterReturn, c :: rest =>
    if c == '\n' then lone false rest else afterReturn.toNat + lone (c == '\r') rest

theorem count_unifyBreaks (afterReturn : Bool) (text : Text) :
    (unifyBreaks afterReturn text).count '\n' + afterReturn.toNat =
      text.count '\n' + lone afterReturn text := by
  induction text generalizing afterReturn with
  | nil => rfl
  | cons c text ih =>
      have here := ih false
      have behindReturn := ih true
      by_cases isReturn : c = '\r'
      · subst isReturn
        simp [unifyBreaks, lone] at behindReturn ⊢
        omega
      · by_cases isFeed : c = '\n'
        · subst isFeed
          cases afterReturn
          · simp [unifyBreaks, lone] at here ⊢
            omega
          · simp [unifyBreaks, lone] at here ⊢
            omega
        · have noReturn : (c == '\r') = false := by simpa using isReturn
          simp [unifyBreaks, lone, isFeed, noReturn] at here ⊢
          omega

theorem paired_nil : Paired [] := by
  intro above below whole
  simp at whole

theorem paired_cons {c : Char} {text : Text} :
    Paired (c :: text) ↔ (c = '\r' → text.head? = some '\n') ∧ Paired text := by
  constructor
  · intro paired
    constructor
    · rintro rfl
      exact paired [] text rfl
    · intro above below whole
      exact paired (c :: above) below (by rw [whole, List.cons_append])
  · rintro ⟨first, paired⟩ above below whole
    cases above with
    | nil =>
        obtain ⟨rfl, rfl⟩ := List.cons.inj whole
        exact first rfl
    | cons d above => exact paired above below (List.cons.inj whole).2

theorem lone_eq_zero_iff (afterReturn : Bool) (text : Text) :
    lone afterReturn text = 0 ↔ (afterReturn = true → text.head? = some '\n') ∧ Paired text := by
  induction text generalizing afterReturn with
  | nil => cases afterReturn <;> simp [lone, paired_nil]
  | cons c text ih =>
      by_cases isFeed : c = '\n'
      · subst isFeed
        simp [lone, ih, paired_cons]
      · cases afterReturn <;> simp [lone, ih, paired_cons, isFeed]

end Marginalia.Offside
