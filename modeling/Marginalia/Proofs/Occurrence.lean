import Marginalia.Proofs.Text
import Mathlib.Data.List.Induction

/-!
# Where a text occurs in another

A needle is found at its first occurrence, which no earlier one overlaps.  A
needle without a line feed occurs in a text exactly if it occurs in one of its
lines.
-/

namespace Marginalia.Text

/-! ## First occurrences -/

/-- What occurs is found. -/
theorem isSome_cut?_of_occurs {text needle : Text} (occurs : needle <:+: text) :
    (text.cut? needle).isSome := by
  induction text with
  | nil =>
      rw [List.infix_nil.mp occurs]
      rfl
  | cons c rest ih =>
      rw [cut?_cons]
      split
      case h_1 => rfl
      case h_2 notHere =>
        rw [Option.isSome_map]
        apply ih
        rcases List.infix_cons_iff.mp occurs with ⟨more, here⟩ | later
        · rw [after?_eq_some.mpr here.symm] at notHere
          cases notHere
        · exact later

/-- A needle is found where it begins first. -/
theorem length_le_of_cut? {text needle before after : Text}
    (found : text.cut? needle = some (before, after)) {before' after' : Text}
    (occurs : text = before' ++ needle ++ after') : before.length ≤ before'.length := by
  induction text generalizing before before' with
  | nil =>
      rw [cut?_nil, Option.map_eq_some_iff] at found
      obtain ⟨beyond, -, split⟩ := found
      cases split
      exact Nat.zero_le _
  | cons c rest ih =>
      rw [cut?_cons] at found
      split at found
      case h_1 =>
        cases found
        exact Nat.zero_le _
      case h_2 notHere =>
        obtain ⟨⟨front, after⟩, later, split⟩ := Option.map_eq_some_iff.mp found
        cases split
        cases before' with
        | nil =>
            rw [List.nil_append] at occurs
            rw [after?_eq_some.mpr occurs] at notHere
            cases notHere
        | cons d before' =>
            rw [List.cons_append, List.cons_append, List.cons.injEq] at occurs
            exact Nat.succ_le_succ (ih later occurs.2)

/-- The first occurrence of a needle is the one behind a text that does not hold
the needle, not even together with the beginning of this occurrence. -/
theorem cut?_eq_some_iff {text needle before after : Text} (nonempty : needle ≠ []) :
    text.cut? needle = some (before, after) ↔
      text = before ++ needle ++ after ∧ ¬ needle <:+: before ++ needle.dropLast := by
  constructor
  · intro found
    refine ⟨cut?_eq_some found, ?_⟩
    rintro ⟨front, back, earlier⟩
    have lengths := congrArg List.length earlier
    simp only [List.length_append, List.length_dropLast] at lengths
    have positive := List.length_pos_of_ne_nil nonempty
    have occurs : text = front ++ needle ++ (back ++ needle.getLast nonempty :: after) := by
      calc
        text = before ++ needle.dropLast ++ needle.getLast nonempty :: after := by
          rw [cut?_eq_some found, List.append_assoc, List.append_assoc]
          congr 1
          rw [← List.singleton_append, ← List.append_assoc, List.dropLast_append_getLast]
        _ = front ++ needle ++ (back ++ needle.getLast nonempty :: after) := by
          rw [← earlier, List.append_assoc]
    have first := length_le_of_cut? found occurs
    omega
  · rintro ⟨rfl, first⟩
    have occurs : needle <:+: before ++ needle ++ after := ⟨before, after, rfl⟩
    obtain ⟨⟨front, back⟩, found⟩ := Option.isSome_iff_exists.mp (isSome_cut?_of_occurs occurs)
    have shorter := length_le_of_cut? found rfl
    have same := cut?_eq_some found
    -- an earlier occurrence would lie in front of the last character of this one
    have inFront : front.length = before.length := by
      by_contra different
      apply first
      have whole : front ++ needle <+: before ++ needle ++ after := ⟨back, same.symm⟩
      have part : before ++ needle.dropLast <+: before ++ needle ++ after :=
        ((List.prefix_append_right_inj before).mpr (List.dropLast_prefix needle)).trans
          (List.prefix_append _ after)
      have ends : front ++ needle <+: before ++ needle.dropLast := by
        apply List.prefix_of_prefix_length_le whole part
        simp only [List.length_append, List.length_dropLast]
        have positive := List.length_pos_of_ne_nil nonempty
        omega
      exact (List.suffix_append front needle).isInfix.trans ends.isInfix
    rw [List.append_assoc, List.append_assoc] at same
    obtain ⟨rfl, rest⟩ := List.append_inj same inFront.symm
    rw [found, List.append_cancel_left rest]

/-! ## Occurrences in lines -/

/-- A needle lies on one side of every character that it does not hold. -/
theorem infix_append_cons_iff {needle : Text} {c : Char} (spared : c ∉ needle)
    {front back : Text} :
    needle <:+: front ++ c :: back ↔ needle <:+: front ∨ needle <:+: back := by
  constructor
  · intro occurs
    rcases List.infix_append_iff.mp occurs with inFront | inBack | ⟨left, right, rfl, ends, begins⟩
    · exact Or.inl inFront
    · rcases List.infix_cons_iff.mp inBack with begins | inBack
      · rcases List.prefix_cons_iff.mp begins with rfl | ⟨tail, rfl, -⟩
        · exact Or.inr List.nil_infix
        · exact (spared List.mem_cons_self).elim
      · exact Or.inr inBack
    · left
      rcases List.prefix_cons_iff.mp begins with rfl | ⟨tail, rfl, -⟩
      · rw [List.append_nil]
        exact ends.isInfix
      · exact (spared (List.mem_append_right left List.mem_cons_self)).elim
  · rintro (inFront | inBack)
    · exact inFront.trans (List.prefix_append front (c :: back)).isInfix
    · exact inBack.trans ((List.suffix_cons c back).trans (List.suffix_append front _)).isInfix

/-- A needle occurs in pieces exactly if it occurs in one of them, provided that
each piece but the last one ends with a character that the needle does not hold. -/
theorem infix_flatten_iff_of_ends {needle : Text} (nonempty : needle ≠ []) {pieces : List Text}
    (ends : ∀ piece ∈ pieces.dropLast, ∃ c ∉ needle, piece.getLast? = some c) :
    needle <:+: pieces.flatten ↔ ∃ piece ∈ pieces, needle <:+: piece := by
  induction pieces with
  | nil => simp [nonempty]
  | cons piece more ih =>
      cases more with
      | nil => simp
      | cons next more =>
          rw [List.dropLast_cons_cons, List.forall_mem_cons] at ends
          obtain ⟨c, spared, last⟩ := ends.1
          obtain ⟨body, rfl⟩ := List.getLast?_eq_some_iff.mp last
          have inPiece : needle <:+: body ++ [c] ↔ needle <:+: body := by
            rw [infix_append_cons_iff spared, List.infix_nil, or_iff_left nonempty]
          rw [List.flatten_cons, List.append_assoc, List.singleton_append,
            infix_append_cons_iff spared, ih ends.2, ← inPiece]
          simp only [List.mem_cons, exists_eq_or_imp]

/-- A needle without a line feed occurs in lines exactly if it occurs in one of
them. -/
theorem infix_flatten_iff {needle : Text} (nonempty : needle ≠ []) (unbroken : '\n' ∉ needle)
    {lines : List Text} (complete : ∀ line ∈ lines.dropLast, line.getLast? = some '\n') :
    needle <:+: lines.flatten ↔ ∃ line ∈ lines, needle <:+: line :=
  infix_flatten_iff_of_ends nonempty fun line member => ⟨'\n', unbroken, complete line member⟩

/-- What occurs in a text without a line feed occurs in one of its lines. -/
theorem exists_segment_of_occurs {text needle : Text} (nonempty : needle ≠ [])
    (unbroken : '\n' ∉ needle) (occurs : needle <:+: text) :
    ∃ line ∈ segments text, needle <:+: line := by
  rw [← flatten_segments text] at occurs
  exact (infix_flatten_iff nonempty unbroken fun _ => getLast?_of_mem_dropLast).mp occurs

/-- Complete lines end with a line feed. -/
theorem getLast?_flatten {lines : List Text}
    (complete : ∀ line ∈ lines, line.getLast? = some '\n') :
    ∀ last ∈ lines.flatten.getLast?, last = '\n' := by
  induction lines with
  | nil =>
      intro last found
      cases found
  | cons line more ih =>
      rw [List.forall_mem_cons] at complete
      intro last found
      rw [List.flatten_cons, List.getLast?_append, complete.1] at found
      cases below : more.flatten.getLast? with
      | none =>
          rw [below, Option.none_or] at found
          exact (Option.some.inj found).symm
      | some c =>
          rw [below, Option.some_or] at found
          rw [← Option.some.inj found]
          exact ih complete.2 c below

/-- What begins inside of a text begins with one of its characters. -/
theorem mem_of_begins {front back before after : Text} {c : Char}
    (occurs : front ++ back = before ++ c :: after) (inside : before.length < front.length) :
    c ∈ front := by
  rcases List.append_eq_append_iff.mp occurs with ⟨more, rfl, -⟩ | ⟨middle, rfl, rest⟩
  · rw [List.length_append] at inside
    omega
  · cases middle with
    | nil =>
        rw [List.append_nil] at inside
        exact (Nat.lt_irrefl _ inside).elim
    | cons d middle =>
        rw [List.cons_append, List.cons.injEq] at rest
        rw [rest.1]
        simp

/-- A needle without a line feed ends in the complete lines that it begins in. -/
theorem occurs_of_begins {front back needle before after : Text}
    (ends : ∀ last ∈ front.getLast?, last = '\n') (unbroken : '\n' ∉ needle)
    (occurs : front ++ back = before ++ (needle ++ after)) (inside : before.length < front.length) :
    needle <:+: front := by
  rcases List.append_eq_append_iff.mp occurs with ⟨more, rfl, -⟩ | ⟨middle, rfl, rest⟩
  · rw [List.length_append] at inside
    omega
  · rcases List.append_eq_append_iff.mp rest with ⟨more, rfl, -⟩ | ⟨more, rfl, -⟩
    · exact ⟨before, more, by rw [List.append_assoc]⟩
    · -- the needle goes on behind the line feed that it would hold
      cases middle using List.reverseRecOn with
      | nil =>
          rw [List.append_nil] at inside
          exact (Nat.lt_irrefl _ inside).elim
      | append_singleton middle c =>
          obtain rfl : c = '\n' := ends c (by rw [← List.append_assoc, List.getLast?_concat]; rfl)
          exact (unbroken (by simp)).elim

/-- A needle without a line feed and without a blank in front that begins in
complete lines, or in blanks behind them, stands in these lines. -/
theorem occurs_of_begins_indented {front gap tail rest before after : Text} {c : Char}
    (ends : gap ++ tail = [] ∨ ∀ last ∈ front.getLast?, last = '\n')
    (blank : ∀ d ∈ gap, isBlank d) (visible : isBlank c = false) (unbroken : '\n' ∉ c :: rest)
    (occurs : front ++ (gap ++ tail) = before ++ (c :: rest ++ after))
    (inside : before.length < front.length + gap.length) : c :: rest <:+: front := by
  have inFront : before.length < front.length := by
    by_contra behind
    obtain ⟨more, rfl⟩ : front <+: before :=
      List.prefix_of_prefix_length_le ⟨_, occurs⟩ ⟨_, rfl⟩ (Nat.le_of_not_lt behind)
    rw [List.append_assoc] at occurs
    rw [List.length_append] at inside
    have first := mem_of_begins (List.append_cancel_left occurs) (Nat.lt_of_add_lt_add_left inside)
    rw [blank c first] at visible
    cases visible
  rcases ends with nothing | ends
  · rw [nothing, List.append_nil] at occurs
    exact ⟨before, after, by rw [occurs, List.append_assoc]⟩
  · exact occurs_of_begins ends unbroken occurs inFront

end Marginalia.Text
