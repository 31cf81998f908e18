import Marginalia.Page
import Marginalia.Proofs.Tag

/-!
# What notes say in one line

Import lines, methods and properties are lines of the source or parts of them,
and explanations are put together from fixed sentences.  So each of them, like
the description of a parameter, fits in one line of a page.
-/

namespace Marginalia

theorem Text.not_mem_trim {text : Text} (unbroken : '\n' ∉ text) : '\n' ∉ Text.trim text :=
  fun feed => unbroken ((Text.trim_infix text).subset feed)

theorem Tag.not_mem_of_mem_imports {family : Family} {source line : Text}
    (member : line ∈ imports family source) : '\n' ∉ line :=
  Text.not_mem_of_mem_lines (List.mem_filter.mp member).1

/-! ## Explanations -/

namespace Explain

theorem not_mem_firstMeaning {c : Char} {hints : List Hint} (texts : List Text) {otherwise : Text}
    (meanings : ∀ hint ∈ hints, c ∉ hint.meaning) (spared : c ∉ otherwise) :
    c ∉ firstMeaning hints texts otherwise := by
  rw [firstMeaning]
  split
  case h_1 hint found => exact meanings hint (List.mem_of_find?_eq_some found)
  case h_2 => exact spared

theorem functionality_unbroken (text : Text) : '\n' ∉ functionality text := by
  have purpose (lines : List Text) : '\n' ∉ functionPurpose lines :=
    not_mem_firstMeaning lines (by simp [functionPurposes, Hint.of]) (by simp)
  have clauses : ∀ hint ∈ behaviours, '\n' ∉ hint.meaning := by simp [behaviours, Hint.of]
  unfold functionality
  simp only [List.mem_append, List.mem_flatMap, not_or, not_exists, not_and]
  refine ⟨⟨⟨⟨?_, ?_⟩, ?_⟩, purpose _⟩, ?_⟩
  · decide
  · intro hint member
    exact clauses hint (List.mem_filter.mp member).1
  · decide
  · decide

theorem classPurpose_unbroken (text : Text) : '\n' ∉ classPurpose text :=
  not_mem_firstMeaning [text] (by simp [classPurposes, Hint.of]) (by simp)

end Explain

/-! ## Classes -/

namespace ClassBody

theorem not_mem_of_mem_methods {family : Family} {text method : Text}
    (member : method ∈ methods family text) : '\n' ∉ method := by
  obtain ⟨line, inside, rfl⟩ := List.mem_map.mp member
  exact Text.not_mem_trim (Text.not_mem_of_mem_lines (List.mem_filter.mp inside).1)

theorem not_mem_of_mem_properties {family : Family} {text property : Text}
    (member : property ∈ properties family text) : '\n' ∉ property := by
  obtain ⟨trimmed, kept, rfl⟩ := List.mem_map.mp member
  obtain ⟨line, inside, rfl⟩ := List.mem_map.mp (List.mem_filter.mp kept).1
  apply Text.not_mem_trim
  intro feed
  have inLine := (List.takeWhile_prefix _).subset feed
  exact Text.not_mem_trim (Text.not_mem_of_mem_lines inside) inLine

theorem explainMethod_unbroken (text method : Text) (methods : List Text) :
    '\n' ∉ explainMethod text method methods := by
  rw [explainMethod]
  split
  case h_1 body found => exact Explain.functionality_unbroken body
  case h_2 => decide

theorem explainProperty_unbroken : '\n' ∉ explainProperty := by decide

theorem isDigit_of_mem_decimal {count : Nat} {c : Char} (member : c ∈ decimal count) :
    c.isDigit :=
  Nat.isDigit_of_mem_toDigits (by decide) (by decide) member

theorem not_mem_decimal {c : Char} (noDigit : c.isDigit = false) (count : Nat) :
    c ∉ decimal count := by
  intro member
  rw [isDigit_of_mem_decimal member] at noDigit
  cases noDigit

theorem explainPurpose_unbroken (text : Text) (methods properties : List Text) :
    '\n' ∉ explainPurpose text methods properties := by
  have counted (present : Bool) {before count after : Text} (front : '\n' ∉ before)
      (middle : '\n' ∉ count) (back : '\n' ∉ after) :
      '\n' ∉ if present then [] else before ++ count ++ after := by
    cases present <;> simp [front, middle, back]
  unfold explainPurpose
  simp only [List.mem_append, not_or]
  refine ⟨⟨⟨⟨⟨?_, ?_⟩, ?_⟩, ?_⟩, Explain.classPurpose_unbroken text⟩, ?_⟩
  · decide
  · exact counted _ (by simp) (not_mem_decimal rfl _) (by simp)
  · exact counted _ (by simp) (not_mem_decimal rfl _) (by simp)
  · decide
  · decide

end ClassBody

end Marginalia
