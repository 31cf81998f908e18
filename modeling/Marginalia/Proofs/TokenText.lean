import Marginalia.Offside.Token

/-!
# The texts of tokens

What is taken of a text as one token.  Main statement: strings, numbers, names and
operators do not end with a line feed, and no character of several bytes is cut at
their end.
-/

namespace Marginalia.Offside

/-! ## Plain characters -/

/-- A character of one byte that ends no line. -/
def isPlain (c : Char) : Bool :=
  c.toNat < 0x80 && c != '\n'

/-- A text that is read as one token, given what comes behind it.  It does not
end with a line feed, and no character of several bytes is cut at its end. -/
def Sealed (text rest : Text) : Prop :=
  ∃ front last, text = front ++ [last] ∧ last ≠ '\n' ∧
    (last.toNat < 0x80 ∨ ∀ next ∈ rest.head?, next.toNat < 0x80)

theorem Sealed.append_left {text rest : Text} (isSealed : Sealed text rest) (front : Text) :
    Sealed (front ++ text) rest := by
  obtain ⟨inner, last, rfl, closes⟩ := isSealed
  exact ⟨front ++ inner, last, (List.append_assoc ..).symm, closes⟩

/-! ## Strings -/

/-- A quote ends what is taken of a text, given how much was passed before. -/
def ClosesAt (quote : Char) (passed length : Nat) (text : Text) : Prop :=
  ∃ inside rest, text = inside ++ quote :: rest ∧ length = passed + inside.length + 1

theorem ClosesAt.here {quote : Char} {passed : Nat} (rest : Text) :
    ClosesAt quote passed (passed + 1) (quote :: rest) :=
  ⟨[], rest, rfl, rfl⟩

theorem ClosesAt.cons {quote : Char} {passed length : Nat} {text : Text}
    (closes : ClosesAt quote (passed + 1) length text) (c : Char) :
    ClosesAt quote passed length (c :: text) := by
  obtain ⟨inside, rest, rfl, rfl⟩ := closes
  refine ⟨c :: inside, rest, rfl, ?_⟩
  simp only [List.length_cons]
  omega

/-- Plain characters lead from one text to the other. -/
def Passes (text rest : Text) : Prop :=
  ∃ taken, text = taken ++ rest ∧ ∀ c ∈ taken, isPlain c

namespace Passes

theorem refl (text : Text) : Passes text text :=
  ⟨[], rfl, by simp⟩

theorem cons {c : Char} {text rest : Text} (plain : isPlain c) (passes : Passes text rest) :
    Passes (c :: text) rest := by
  obtain ⟨taken, rfl, all⟩ := passes
  exact ⟨c :: taken, rfl, by simpa using ⟨plain, all⟩⟩

theorem trans {text middle rest : Text} (first : Passes text middle)
    (second : Passes middle rest) : Passes text rest := by
  obtain ⟨front, rfl, allFront⟩ := first
  obtain ⟨back, rfl, allBack⟩ := second
  refine ⟨front ++ back, (List.append_assoc ..).symm, ?_⟩
  intro c member
  rcases List.mem_append.mp member with inFront | inBack
  · exact allFront c inFront
  · exact allBack c inBack

end Passes

/-- Words of plain characters. -/
def ArePlain (words : List Text) : Prop :=
  words.all (fun word => !word.isEmpty && word.all isPlain) = true

theorem ArePlain.plain {words : List Text} (plain : ArePlain words) {word : Text}
    (member : word ∈ words) : ∀ c ∈ word, isPlain c := by
  have both := List.all_eq_true.mp plain word member
  rw [Bool.and_eq_true] at both
  exact List.all_eq_true.mp both.2

end Marginalia.Offside
