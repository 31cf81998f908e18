import Marginalia.Proofs.TagLine

/-!
# What a text says about the result

A text may be read in several ways as one that describes its result: it may hold
several tags, and blanks behind a tag may belong to the gap or to the description.
Main statement: for every text, the description is that of the reading with the
tag that begins first, then with the widest gap behind the tag, and then with the
longest description.
-/

namespace Marginalia.Tag

/-! ## Greedy blanks -/

section Greedy

variable {α : Type} {next : Text → Option α} {text : Text} {found : α}

/-- Blanks that match are the most that the rest of the pattern allows. -/
theorem blanks_longest (matched : blanks next text = some found) :
    ∃ gap rest, text = gap ++ rest ∧ IsGap gap ∧ next rest = some found ∧
      ∀ gap' rest', text = gap' ++ rest' → IsGap gap' → (next rest').isSome →
        gap'.length ≤ gap.length := by
  induction text with
  | nil => cases matched
  | cons c text ih =>
      rw [blanks] at matched
      split at matched
      case isFalse => cases matched
      case isTrue blank =>
        rcases (Option.orElse_eq_some _ _ _).mp matched with longer | ⟨missed, here⟩
        · obtain ⟨gap, rest, rfl, isGap, behind, longest⟩ := ih longer
          refine ⟨c :: gap, rest, rfl, ⟨List.cons_ne_nil _ _, ?_⟩, behind, ?_⟩
          · exact List.forall_mem_cons.mpr ⟨blank, isGap.2⟩
          · intro gap' rest' split isGap' matches'
            cases gap' with
            | nil => exact Nat.zero_le _
            | cons d gap' =>
                obtain ⟨rfl, tail⟩ := List.cons.inj split
                apply Nat.succ_le_succ
                cases gap' with
                | nil => exact Nat.zero_le _
                | cons e gap' =>
                    apply longest (e :: gap') rest' tail _ matches'
                    exact ⟨List.cons_ne_nil _ _, (List.forall_mem_cons.mp isGap'.2).2⟩
        · refine ⟨[c], text, rfl, ⟨List.cons_ne_nil _ _, ?_⟩, here, ?_⟩
          · exact List.forall_mem_singleton.mpr blank
          · intro gap' rest' split isGap' matches'
            cases gap' with
            | nil => exact Nat.zero_le _
            | cons d gap' =>
                obtain ⟨-, tail⟩ := List.cons.inj split
                cases gap' with
                | nil => exact Nat.le_refl _
                | cons e gap' =>
                    -- a second blank would have matched
                    have blank' := (List.forall_mem_cons.mp isGap'.2).2
                    have matches'' := isSome_blanks_iff.mpr
                      ⟨e :: gap', rest', tail, List.cons_ne_nil _ _, blank', matches'⟩
                    rw [missed] at matches''
                    cases matches''

end Greedy

/-- The rest of a line is not empty, and no longer text of it is in one line. -/
theorem lineRest_longest {text line : Text} (matched : lineRest text = some line) :
    line ≠ [] ∧ '\n' ∉ line ∧ (∃ back, text = line ++ back) ∧
      ∀ line' back', text = line' ++ back' → '\n' ∉ line' → line'.length ≤ line.length := by
  have nonempty : line ≠ [] := by
    rintro rfl
    rw [lineRest] at matched
    split at matched
    case h_1 => cases matched
    case h_2 other => exact other (Option.some.inj matched)
  obtain rfl := lineRest_eq_some matched
  refine ⟨nonempty, Text.not_mem_upTo text '\n', ?_, ?_⟩
  · exact ⟨text.dropWhile (· != '\n'), List.takeWhile_append_dropWhile.symm⟩
  · rintro line' back' rfl unbroken
    have passed : ∀ c ∈ line', (c != '\n') = true := fun c member => by
      simpa using fun equal : c = '\n' => unbroken (equal ▸ member)
    rw [Text.upTo, List.takeWhile_append_of_pos passed, List.length_append]
    exact Nat.le_add_right _ _

/-! ## Readings -/

/-- A way to read a text as one with a tag that describes the result. -/
structure ResultReading (text : Text) where
  front : Text
  tag : Text
  gap : Text
  description : Text
  back : Text
  whole : text = front ++ (tag ++ (gap ++ (description ++ back)))
  isTag : IsResultTag tag
  isGap : IsGap gap
  nonempty : description ≠ []
  unbroken : '\n' ∉ description

/-- Of two readings, the one whose tag begins first comes first, then the one with
the wider gap behind the tag, and then the one with the longer description. -/
def ResultReading.Precedes {text : Text} (one other : ResultReading text) : Prop :=
  one.front.length < other.front.length ∨ one.front.length = other.front.length ∧
    (other.gap.length < one.gap.length ∨ one.gap.length = other.gap.length ∧
      other.description.length ≤ one.description.length)

/-- Blanks end in one place. -/
theorem IsGap.unique {gap gap' rest rest' : Text} {c c' : Char} (isGap : IsGap gap)
    (isGap' : IsGap gap') (stays : Text.isBlank c = false) (stays' : Text.isBlank c' = false)
    (same : gap ++ c :: rest = gap' ++ c' :: rest') : gap = gap' ∧ c :: rest = c' :: rest' := by
  have cut {gap rest : Text} {c : Char} (isGap : IsGap gap) (stays : Text.isBlank c = false) :
      (gap ++ c :: rest).takeWhile Text.isBlank = gap := by
    rw [List.takeWhile_append_of_pos isGap.2, List.takeWhile_cons_of_neg (by simp [stays]),
      List.append_nil]
  have equal : gap = gap' := by
    rw [← cut isGap stays, same, cut isGap' stays']
  subst equal
  exact ⟨rfl, List.append_cancel_left same⟩

/-- A tag ends in one place. -/
theorem IsResultTag.unique {tag tag' behind behind' : Text} (isTag : IsResultTag tag)
    (isTag' : IsResultTag tag') (same : tag ++ behind = tag' ++ behind') :
    tag = tag' ∧ behind = behind' := by
  obtain ⟨plural, gap, type, isPlural, isGap, closed, rfl⟩ := isTag
  obtain ⟨plural', gap', type', isPlural', isGap', closed', rfl⟩ := isTag'
  simp only [List.append_assoc, List.cons_append, List.nil_append] at same
  have rest := List.append_cancel_left same
  -- a gap does not begin with the `s` that the other tag may have
  have apart {gap rest rest' : Text} (isGap : IsGap gap) (same : gap ++ rest = 's' :: rest') :
      False := by
    cases gap with
    | nil => exact isGap.1 rfl
    | cons c gap =>
        obtain ⟨rfl, -⟩ := List.cons.inj same
        have blank := isGap.2 _ List.mem_cons_self
        simp [Text.isBlank] at blank
  have typed : plural = plural' ∧
      gap ++ '{' :: (type ++ '}' :: behind) = gap' ++ '{' :: (type' ++ '}' :: behind') := by
    rcases isPlural with rfl | rfl
    · rcases isPlural' with rfl | rfl
      · exact ⟨rfl, rest⟩
      · exact (apart isGap rest).elim
    · rcases isPlural' with rfl | rfl
      · exact (apart isGap' rest.symm).elim
      · exact ⟨rfl, List.append_cancel_left rest⟩
  obtain ⟨rfl, inside⟩ := typed
  obtain ⟨rfl, braced⟩ := isGap.unique isGap' (by decide) (by decide) inside
  have braces := (List.cons.inj braced).2
  have equal : type = type' := by
    rw [← Text.upTo_append closed behind, braces, Text.upTo_append closed' behind']
  subst equal
  exact ⟨rfl, (List.cons.inj (List.append_cancel_left braces)).2⟩

namespace ResultReading

variable {text : Text}

/-- What follows the tag of a reading. -/
def behind (reading : ResultReading text) : Text :=
  reading.gap ++ (reading.description ++ reading.back)

/-- What is found behind the gap of a reading. -/
theorem isSome_lineRest (reading : ResultReading text) :
    (lineRest (reading.description ++ reading.back)).isSome := by
  rw [isSome_lineRest_iff]
  cases shape : reading.description with
  | nil => exact (reading.nonempty shape).elim
  | cons c rest =>
      have unbroken := reading.unbroken
      rw [shape, List.mem_cons, not_or] at unbroken
      rw [List.cons_append, Text.upTo_cons (Ne.symm unbroken.1)]
      exact List.cons_ne_nil _ _

theorem tagAt (reading : ResultReading text) :
    TagAt IsResultTag text reading.front reading.behind := by
  refine ⟨isSome_blanks_lineRest_iff.mp ?_, reading.tag, reading.isTag, reading.whole⟩
  exact isSome_blanks_iff.mpr
    ⟨reading.gap, _, rfl, reading.isGap.1, reading.isGap.2, reading.isSome_lineRest⟩

/-- Readings whose tags begin in the same place have the same tag. -/
theorem eq_of_front (one other : ResultReading text)
    (same : one.front.length = other.front.length) :
    one.tag = other.tag ∧ one.behind = other.behind := by
  obtain ⟨-, rest⟩ := List.append_inj (one.whole.symm.trans other.whole) same
  exact one.isTag.unique other.isTag rest

/-- Readings that precede one another describe the result alike. -/
theorem description_eq (one other : ResultReading text) (precedes : one.Precedes other)
    (precedes' : other.Precedes one) : one.description = other.description := by
  have lengths : one.front.length = other.front.length ∧ one.gap.length = other.gap.length ∧
      one.description.length = other.description.length := by
    unfold Precedes at precedes precedes'
    omega
  obtain ⟨-, behind⟩ := one.eq_of_front other lengths.1
  obtain ⟨-, rest⟩ := List.append_inj behind lengths.2.1
  exact (List.append_inj rest lengths.2.2).1

/-- Where the first tag is described, the description belongs to the reading that
precedes all others. -/
theorem exists_best {front behind description : Text}
    (first : FirstTag IsResultTag text front behind)
    (found : blanks lineRest behind = some description) :
    ∃ best : ResultReading text, best.description = description ∧
      ∀ other, best.Precedes other := by
  obtain ⟨⟨-, tag, isTag, split⟩, earliest⟩ := first
  obtain ⟨gap, rest, rfl, isGap, line, widest⟩ := blanks_longest found
  obtain ⟨nonempty, unbroken, ⟨back, rfl⟩, longest⟩ := lineRest_longest line
  let best : ResultReading text :=
    { front, tag, gap, description, back, whole := split, isTag, isGap, nonempty, unbroken }
  refine ⟨best, rfl, fun other => ?_⟩
  rcases (earliest other.front other.behind other.tagAt).lt_or_eq with shorter | same
  · exact Or.inl shorter
  · obtain ⟨-, behind⟩ := best.eq_of_front other same
    have narrower := widest other.gap _ behind other.isGap other.isSome_lineRest
    refine Or.inr ⟨same, ?_⟩
    rcases narrower.lt_or_eq with narrower | equal
    · exact Or.inl narrower
    · obtain ⟨-, rest⟩ := List.append_inj behind equal.symm
      exact Or.inr ⟨equal.symm, longest other.description other.back rest other.unbroken⟩

end ResultReading

/-! ## Arrows -/

/-- What follows an arrow begins with a type that ends with a colon. -/
def OpensType (behind : Text) : Prop :=
  behind.head? ≠ some ':' ∧ ':' ∈ behind

/-- An arrow behind `front` that a type follows. -/
def ArrowAt (text front behind : Text) : Prop :=
  text = front ++ ("->".toList ++ behind) ∧ OpensType behind

/-- A type is what stands in front of the colon, and neither empty nor all that
follows. -/
theorem opensType_iff {behind : Text} :
    OpensType behind ↔ behind.upTo ':' ≠ [] ∧ behind.length ≠ (behind.upTo ':').length := by
  have whole (behind : Text) :
      behind.length = (behind.upTo ':').length ↔ ':' ∉ behind := by
    have begins : behind.upTo ':' <+: behind := List.takeWhile_prefix _
    constructor
    · intro same
      rw [← begins.eq_of_length same.symm]
      exact Text.not_mem_upTo behind ':'
    · intro absent
      have passed : ∀ c ∈ behind, (c != ':') = true := fun c member => by
        simpa using fun equal : c = ':' => absent (equal ▸ member)
      rw [Text.upTo, List.takeWhile_eq_self_iff.mpr passed]
  rw [OpensType, ne_eq (behind.length), whole, not_not]
  apply and_congr_left
  intro colon
  cases behind with
  | nil => cases colon
  | cons c behind =>
      by_cases equal : c = ':'
      · simp [Text.upTo, equal]
      · simp [Text.upTo_cons equal, equal]

/-- The pattern finds the type behind an arrow. -/
theorem arrow_eq_some_iff {rest type : Text} :
    result?.pattern .python rest = some type ↔
      ∃ behind, rest = "->".toList ++ behind ∧ OpensType behind ∧ type = behind.upTo ':' := by
  simp only [result?.pattern, Option.bind_eq_some_iff, Text.after?_eq_some, opensType_iff]
  refine exists_congr fun behind => and_congr_right fun _ => ?_
  by_cases empty : behind.upTo ':' = []
  · simp [empty]
  · by_cases whole : behind.length = (behind.upTo ':').length
    · simp [whole.symm]
    · simp [empty, whole, eq_comm (a := type)]

/-- For every text, the description of the result is that of the reading that
precedes all others, or the type behind the first arrow that a type and a colon
follow; it is empty where there is no reading and no such arrow. -/
theorem resultDescription_leftmost (text : Text) :
    (IsEmpty (ResultReading text) ∧ resultDescription .javaScript text = [] ∨
      ∃ best : ResultReading text, resultDescription .javaScript text = Text.trim best.description ∧
        ∀ other, best.Precedes other ∧
          (other.Precedes best → other.description = best.description)) ∧
    ((∀ front behind, ¬ ArrowAt text front behind) ∧ resultDescription .python text = [] ∨
      ∃ front behind, ArrowAt text front behind ∧
        (∀ front' behind', ArrowAt text front' behind' → front.length ≤ front'.length) ∧
        resultDescription .python text = Text.trim (behind.upTo ':')) := by
  constructor
  · rw [resultDescription]
    split
    case h_1 description matched =>
      obtain ⟨front, behind, first, found⟩ := result_reads.search_some matched
      obtain ⟨best, rfl, precedes⟩ := ResultReading.exists_best first found
      refine Or.inr ⟨best, rfl, fun other => ⟨precedes other, fun precedes' => ?_⟩⟩
      exact other.description_eq best precedes' (precedes other)
    case h_2 missed =>
      refine Or.inl ⟨⟨fun reading => ?_⟩, rfl⟩
      exact result_reads.search_none missed reading.front reading.behind reading.tagAt
  · rw [resultDescription]
    split
    case h_1 type matched =>
      obtain ⟨front, rest, rfl, there, first⟩ := search_first matched
      obtain ⟨behind, rfl, typed, rfl⟩ := arrow_eq_some_iff.mp there
      refine Or.inr ⟨front, behind, ⟨rfl, typed⟩, fun front' behind' arrow => ?_, rfl⟩
      by_contra shorter
      have matches' := arrow_eq_some_iff.mpr ⟨behind', rfl, arrow.2, rfl⟩
      rw [first front' _ arrow.1 (Nat.lt_of_not_le shorter)] at matches'
      cases matches'
    case h_2 missed =>
      refine Or.inl ⟨fun front behind arrow => ?_, rfl⟩
      have matches' := arrow_eq_some_iff.mpr ⟨behind, rfl, arrow.2, rfl⟩
      rw [search_eq_none_iff.mp missed front _ arrow.1] at matches'
      cases matches'

example : resultDescription .javaScript "@return @returns \x7bT\x7d\n  it \n".toList = "it".toList := by
  decide +kernel

end Marginalia.Tag
