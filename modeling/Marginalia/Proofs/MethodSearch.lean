import Marginalia.Proofs.MethodBody

/-!
# Looking for the body of a method

A method that occurs in the text of a class cuts it into four parts: what stands
in front of its first occurrence, the method, its body, and what is left from the
nearest method line on.  Main statement: a body is found exactly if the method
occurs, it is the one of this cut, and every method line of a class has one.
-/

namespace Marginalia.ClassBody

variable {text method front body back : Text} {methods : List Text}

/-- The text of a class cut around the body of a method. -/
structure Cut (text method : Text) (methods : List Text) (front body back : Text) : Prop where
  whole : text = front ++ method ++ body ++ back
  /-- The method does not begin earlier. -/
  first : ∀ before after, text = before ++ method ++ after → front.length ≤ before.length
  /-- No method line begins inside the body. -/
  nearest : ∀ other ∈ methods, other ≠ [] → ∀ before after,
    body ++ back = before ++ other ++ after → body.length ≤ before.length
  ends : back = [] ∨ ∃ other ∈ methods, other ≠ [] ∧ other <+: back

namespace Cut

/-- A body holds no method line. -/
theorem not_infix_body (cut : Cut text method methods front body back) {other : Text}
    (member : other ∈ methods) (nonempty : other ≠ []) : ¬ other <:+: body := by
  rintro ⟨before, after, holds⟩
  have begins : body ++ back = before ++ other ++ (after ++ back) := by
    rw [← holds, List.append_assoc (before ++ other)]
  have shorter := cut.nearest other member nonempty before (after ++ back) begins
  have lengths := congrArg List.length holds
  have positive := List.length_pos_of_ne_nil nonempty
  simp only [List.length_append] at lengths
  omega

/-- A method begins in one place only, and its body ends in one place only. -/
theorem unique {front' body' back' : Text} (cut : Cut text method methods front body back)
    (cut' : Cut text method methods front' body' back') :
    front = front' ∧ body = body' ∧ back = back' := by
  -- the end of one body is never behind that of the other
  have body_le {body body' back back' : Text} (same : body ++ back = body' ++ back')
      (nearest : ∀ other ∈ methods, other ≠ [] → ∀ before after,
        body ++ back = before ++ other ++ after → body.length ≤ before.length)
      (ends : back' = [] ∨ ∃ other ∈ methods, other ≠ [] ∧ other <+: back') :
      body.length ≤ body'.length := by
    rcases ends with rfl | ⟨other, member, nonempty, more, rfl⟩
    · rw [List.append_nil] at same
      rw [← same, List.length_append]
      exact Nat.le_add_right _ _
    · apply nearest other member nonempty body' more
      rw [same, List.append_assoc]
  have start : front.length = front'.length := by
    apply Nat.le_antisymm
    · apply cut.first front' (body' ++ back')
      rw [cut'.whole, List.append_assoc (front' ++ method)]
    · apply cut'.first front (body ++ back)
      rw [cut.whole, List.append_assoc (front ++ method)]
  have whole := cut.whole.symm.trans cut'.whole
  simp only [List.append_assoc] at whole
  obtain ⟨sameFront, behind⟩ := List.append_inj whole start
  have rest := List.append_cancel_left behind
  have stop : body.length = body'.length := by
    apply Nat.le_antisymm
    · exact body_le rest cut.nearest cut'.ends
    · exact body_le rest.symm cut'.nearest cut.ends
  obtain ⟨sameBody, sameBack⟩ := List.append_inj rest stop
  exact ⟨sameFront, sameBody, sameBack⟩

end Cut

/-- The body of a method that occurs is found by cutting the class. -/
theorem exists_cut_of_occurs (methods : List Text) (occurs : method <:+: text) :
    ∃ front body back, Cut text method methods front body back ∧
      methodBody? text method methods = some body := by
  obtain ⟨⟨front, rest⟩, found⟩ := Option.isSome_iff_exists.mp (Text.isSome_cut?_of_occurs occurs)
  obtain ⟨body, back, bodyFound, rfl, nearest, ends⟩ := methodBody?_eq_some methods found
  refine ⟨front, body, back, ⟨?_, ?_, nearest, ends⟩, bodyFound⟩
  · rw [Text.cut?_eq_some found, List.append_assoc (front ++ method)]
  · intro before after
    exact Text.length_le_of_cut? found

theorem methodBody?_eq_none_iff :
    methodBody? text method methods = none ↔ ¬ method <:+: text := by
  constructor
  · intro missing occurs
    obtain ⟨front, body, back, -, found⟩ := exists_cut_of_occurs methods occurs
    rw [missing] at found
    cases found
  · intro absent
    rw [methodBody?]
    cases found : text.cut? method with
    | none => rfl
    | some parts =>
        obtain ⟨before, after⟩ := parts
        exact (absent ⟨before, after, (Text.cut?_eq_some found).symm⟩).elim

theorem methodBody?_eq_some_iff :
    methodBody? text method methods = some body ↔
      ∃ front back, Cut text method methods front body back := by
  constructor
  · intro found
    have occurs : method <:+: text := by
      by_contra absent
      rw [methodBody?_eq_none_iff.mpr absent] at found
      cases found
    obtain ⟨front, other, back, cut, found'⟩ := exists_cut_of_occurs methods occurs
    rw [found, Option.some.injEq] at found'
    subst found'
    exact ⟨front, back, cut⟩
  · rintro ⟨front, back, cut⟩
    have occurs : method <:+: text := by
      refine ⟨front, body ++ back, ?_⟩
      rw [cut.whole, List.append_assoc (front ++ method)]
    obtain ⟨front', body', back', cut', found⟩ := exists_cut_of_occurs methods occurs
    rw [found, (cut.unique cut').2.1]

/-- A method line is trimmed from a line of the class, so it occurs there. -/
theorem infix_of_mem_methods {family : Family} (member : method ∈ ClassBody.methods family text) :
    method <:+: text := by
  obtain ⟨line, inText, -, rfl⟩ := mem_methods_iff.mp member
  have inLines := List.infix_of_mem_flatten inText
  rw [Text.flatten_segments] at inLines
  exact (Text.trim_infix line).trans inLines

theorem exists_methodBody? {family : Family} (member : method ∈ ClassBody.methods family text)
    (others : List Text) : ∃ body, methodBody? text method others = some body := by
  obtain ⟨front, body, back, -, found⟩ := exists_cut_of_occurs others (infix_of_mem_methods member)
  exact ⟨body, found⟩

/-- A method that is noted is explained by its body. -/
theorem explained_of_mem_note {family : Family} {source : Text} {record : ClassRecord}
    {entry : Text × Text} (member : entry ∈ (ClassNote.of family source record).methods) :
    ∃ body, methodBody? (source.slice record.start record.stop) entry.1
        (ClassBody.methods family (source.slice record.start record.stop)) = some body ∧
      entry.2 = Explain.functionality body := by
  obtain ⟨method, listed, rfl⟩ := List.mem_map.mp member
  obtain ⟨body, found⟩ := exists_methodBody? listed
    (ClassBody.methods family (source.slice record.start record.stop))
  refine ⟨body, found, ?_⟩
  simp only [explainMethod, found]

/-- No body is found exactly if the method does not occur in the class; a body is
found exactly if it follows the first occurrence of the method up to the nearest
method line, and it holds no method line.  Every method line of a class has a body,
and every method that a page lists is explained by it. -/
theorem methodBody?_cuts (text : Text) :
    (∀ method methods, methodBody? text method methods = none ↔ ¬ method <:+: text) ∧
    (∀ method methods body, methodBody? text method methods = some body ↔
      ∃ front back, Cut text method methods front body back ∧
        ∀ other ∈ methods, other ≠ [] → ¬ other <:+: body) ∧
    (∀ family, ∀ method ∈ ClassBody.methods family text,
      ∃ body, methodBody? text method (ClassBody.methods family text) = some body) ∧
    ∀ family source (record : ClassRecord),
      ∀ entry ∈ (ClassNote.of family source record).methods,
        ∃ body, methodBody? (source.slice record.start record.stop) entry.1
            (ClassBody.methods family (source.slice record.start record.stop)) = some body ∧
          entry.2 = Explain.functionality body := by
  refine ⟨fun method methods => methodBody?_eq_none_iff, ?_, ?_, ?_⟩
  · intro method methods body
    rw [methodBody?_eq_some_iff]
    constructor
    · rintro ⟨front, back, cut⟩
      exact ⟨front, back, cut, fun other => cut.not_infix_body⟩
    · rintro ⟨front, back, cut, -⟩
      exact ⟨front, back, cut⟩
  · intro family method member
    exact exists_methodBody? member (ClassBody.methods family text)
  · intro family source record entry member
    exact explained_of_mem_note member

theorem methodBody?_cuts_calling :
    "f(x) \x7b".toList ∈ ClassBody.methods .javaScript callingClass ∧
    ∃ body, methodBody? callingClass "f(x) \x7b".toList
        (ClassBody.methods .javaScript callingClass) = some body ∧
      ¬ "g(x) \x7b".toList <:+: body := by
  obtain ⟨-, some_iff, listed, -⟩ := methodBody?_cuts callingClass
  have member : "f(x) \x7b".toList ∈ ClassBody.methods .javaScript callingClass := by
    decide +kernel
  obtain ⟨body, found⟩ := listed .javaScript _ member
  obtain ⟨front, back, -, free⟩ := (some_iff _ _ body).mp found
  refine ⟨member, body, found, ?_⟩
  apply free
  · decide +kernel
  · decide

end Marginalia.ClassBody
