import Marginalia.Proofs.Derivation
import Marginalia.Proofs.TokenPlace

/-!
# Definitions among the statements of a file

The tokens of a file are the tokens of its tree, in order.  Main statements: every
statement has a token that is not layout; a definition begins with its keyword and
ends with the last such token of its last statement; and the definitions of a file
stand in its tokens one by one.
-/

namespace Marginalia.Offside

open Grammar (Chain Derived Derives)
open Grammar.Rule (all any optional many)
open Grammar.Tree (forestTokens forestTokens_append)

/-- The trees that a rule of the grammar may give from the first tokens to the
second. -/
abbrev Reads (rule : OffsideRule) (input : List Token) (parts : List OffsideTree)
    (rest : List Token) : Prop :=
  Derives grammar Terminal.read rule input parts rest

variable {input rest : List Token} {parts : List OffsideTree}

theorem read_eq_some {terminal : Terminal} {token? : Option Token}
    (read : terminal.read input = some (token?, rest)) :
    ∃ token, token? = some token ∧ input = token :: rest ∧ terminal.accepts token := by
  cases input with
  | nil => cases read
  | cons token behind =>
      simp only [Terminal.read] at read
      split at read
      case isTrue accepted =>
        cases read
        exact ⟨token, rfl, rfl, accepted⟩
      case isFalse => cases read

theorem not_look {terminal : Terminal} : terminal.read input ≠ some (none, rest) := by
  intro read
  obtain ⟨token, found, -⟩ := read_eq_some read
  cases found

/-- A rule takes the tokens of the trees that it gives. -/
theorem Reads.tokens {rule : OffsideRule} (reads : Reads rule input parts rest) :
    input = forestTokens parts ++ rest := by
  induction reads with
  | empty => rfl
  | token found =>
      obtain ⟨token, same, taken, -⟩ := read_eq_some found
      cases same
      simpa [forestTokens, Grammar.Tree.tokens] using taken
  | look found => exact absurd found not_look
  | phrase _ ih => simpa [forestTokens, Grammar.Tree.tokens] using ih
  | seq _ _ firstIH secondIH => rw [firstIH, secondIH, forestTokens_append, List.append_assoc]
  | left _ ih => exact ih
  | right _ ih => exact ih
  | done => rfl
  | again _ _ itemIH manyIH => rw [itemIH, manyIH, forestTokens_append, List.append_assoc]
  | ahead => rfl
  | absent => rfl

theorem Reads.chain {rule : OffsideRule} (reads : Reads rule input parts rest) :
    Chain grammar Terminal.read parts input rest :=
  Derives.chain (fun found => absurd found not_look) reads

theorem reads_terminal {terminal : Terminal} (reads : Reads (.terminal terminal) input parts rest) :
    ∃ token, parts = [.leaf token] ∧ terminal.accepts token := by
  rcases Grammar.derives_terminal_iff.mp reads with ⟨-, found⟩ | ⟨token, rfl, found⟩
  · exact absurd found not_look
  · obtain ⟨_, same, -, accepted⟩ := read_eq_some found
    cases same
    exact ⟨token, rfl, accepted⟩

/-! ## What shows -/

/-- Whether a terminal reads a token that is not layout. -/
def Terminal.shows : Terminal → Bool
  | .kind wanted => !(wanted == .newline || wanted == .indent || wanted == .dedent)
  | .word _ | .name | .operator _ | .number _ => true

/-- Whether a phrase always has a token that is not layout. -/
def Phrase.shows : Phrase → Bool
  | .parameters | .bareParameters => false
  | _ => true

/-- The last statement of a definition: the last one of its block, or the
statements on the line of its colon. -/
def lastStatement? (parts : List OffsideTree) : Option OffsideTree :=
  match parts.getLast? with
  | some (.node .block inner) => (inner.filter fun tree => tree.name?.isSome).getLast?
  | _ => none

/-- A definition with these parts begins with one of the openings, and its last
token that is not layout is that of its last statement. -/
def Defines (openings : List Text) (parts : List OffsideTree) : Prop :=
  ∃ first last statement, (visible (forestTokens parts)).head? = some first ∧
    first.text ∈ openings ∧ (visible (forestTokens parts)).getLast? = some last ∧
    lastStatement? parts = some statement ∧ (visible statement.tokens).getLast? = some last

end Marginalia.Offside
