import Marginalia.Proofs.ByteOffset
import Marginalia.Proofs.Derivation
import Marginalia.Proofs.Lexeme
import Marginalia.Script.Outline

/-!
# Trees in a script

Where the trees of a script stand in its text.  Main statements: a tree that was
read at an offset has there, behind its gap, the text of its tokens; and what
stands inside such a tree was read at its own offset.
-/

namespace Marginalia.Script

open Grammar (Chain Derived Derives)
open Grammar.Tree (forestTokens forestTokens_append tokens_subset_forestTokens)

/-! ## The text of tokens -/

/-- The text of tokens with the gaps in front of them. -/
def tokensText (tokens : List Token) : Text :=
  tokens.flatMap fun token => token.gap ++ token.text

/-- The text of tokens without the gap in front of the first. -/
def ownText : List Token → Text
  | [] => []
  | token :: more => token.text ++ tokensText more

@[simp] theorem tokensText_nil : tokensText [] = [] := rfl

@[simp] theorem tokensText_cons (token : Token) (more : List Token) :
    tokensText (token :: more) = token.gap ++ token.text ++ tokensText more := by
  simp [tokensText]

@[simp] theorem tokensText_append (front back : List Token) :
    tokensText (front ++ back) = tokensText front ++ tokensText back := by
  simp [tokensText]

theorem infix_ownText {token : Token} {tokens : List Token} (member : token ∈ tokens) :
    token.text <:+: ownText tokens := by
  cases tokens with
  | nil => cases member
  | cons first more =>
      rcases List.mem_cons.mp member with rfl | behind
      · exact ⟨[], tokensText more, rfl⟩
      · obtain ⟨front, back, rfl⟩ := List.append_of_mem behind
        refine ⟨first.text ++ tokensText front ++ token.gap, tokensText back, ?_⟩
        simp [ownText]

private theorem foldl_size (tokens : List Token) (total : Nat) :
    tokens.foldl (fun total token => total + token.size) total =
      total + Text.byteLength (tokensText tokens) := by
  induction tokens generalizing total with
  | nil => rfl
  | cons token more ih =>
      rw [List.foldl_cons, ih]
      simp only [Token.size, tokensText_cons, Text.byteLength_append]
      omega

theorem treeSize_eq (tree : ScriptTree) :
    treeSize tree = Text.byteLength (tokensText tree.tokens) := by
  rw [treeSize, foldl_size, Nat.zero_add]

theorem treeSize_node (name : Phrase) (parts : List ScriptTree) :
    treeSize (.node name parts) = Text.byteLength (tokensText (forestTokens parts)) := by
  rw [treeSize_eq, Grammar.Tree.tokens]

/-! ## Reading a tree -/

/-- The trees that a rule of the grammar may give at a cursor. -/
abbrev Reads (dialect : Dialect) (rule : ScriptRule) (input : Cursor) (parts : List ScriptTree)
    (rest : Cursor) : Prop :=
  Derives (grammar dialect) Lexeme.read rule input parts rest

variable {dialect : Dialect}

theorem Reads.remaining {rule : ScriptRule} {input rest : Cursor} {parts : List ScriptTree}
    (reads : Reads dialect rule input parts rest) :
    input.remaining = tokensText (forestTokens parts) ++ rest.remaining := by
  induction reads with
  | empty => rfl
  | token found => simpa [forestTokens, Grammar.Tree.tokens] using remaining_of_read found
  | look found =>
      rw [cursor_of_look found]
      rfl
  | phrase _ ih => simpa [forestTokens, Grammar.Tree.tokens] using ih
  | seq _ _ firstIH secondIH =>
      rw [firstIH, secondIH, forestTokens_append, tokensText_append, List.append_assoc]
  | left _ ih => exact ih
  | right _ ih => exact ih
  | done => rfl
  | again _ _ itemIH manyIH =>
      rw [itemIH, manyIH, forestTokens_append, tokensText_append, List.append_assoc]
  | ahead => rfl
  | absent => rfl

theorem Reads.divides {rule : ScriptRule} {input rest : Cursor} {parts : List ScriptTree}
    (reads : Reads dialect rule input parts rest) (divides : input.Divides) : rest.Divides := by
  induction reads with
  | empty => exact divides
  | token found => exact divides_of_read found divides
  | look found => exact divides_of_read found divides
  | phrase _ ih => exact ih divides
  | seq _ _ firstIH secondIH => exact secondIH (firstIH divides)
  | left _ ih => exact ih divides
  | right _ ih => exact ih divides
  | done => exact divides
  | again _ _ itemIH manyIH => exact manyIH (itemIH divides)
  | ahead => exact divides
  | absent => exact divides

/-- A tree that the grammar reads from the first cursor to the second. -/
abbrev TreeReads (dialect : Dialect) (tree : ScriptTree) (input rest : Cursor) : Prop :=
  Derived (grammar dialect) Lexeme.read tree input rest

theorem TreeReads.remaining {tree : ScriptTree} {input rest : Cursor}
    (reads : TreeReads dialect tree input rest) :
    input.remaining = tokensText tree.tokens ++ rest.remaining := by
  cases tree with
  | leaf token =>
      obtain ⟨lexeme, found⟩ := reads
      simpa [Grammar.Tree.tokens] using remaining_of_read found
  | node name parts => exact Reads.remaining reads

theorem TreeReads.divides {tree : ScriptTree} {input rest : Cursor}
    (reads : TreeReads dialect tree input rest) (divides : input.Divides) : rest.Divides := by
  cases tree with
  | leaf token =>
      obtain ⟨lexeme, found⟩ := reads
      exact divides_of_read found divides
  | node name parts => exact Reads.divides reads divides

private theorem chain_remaining {trees : List ScriptTree} {input rest : Cursor}
    (chain : Chain (grammar dialect) Lexeme.read trees input rest) :
    input.remaining = tokensText (forestTokens trees) ++ rest.remaining := by
  induction chain with
  | nil => rfl
  | cons here _ ih =>
      rw [TreeReads.remaining here, ih, forestTokens, tokensText_append, List.append_assoc]

private theorem chain_divides {trees : List ScriptTree} {input rest : Cursor}
    (chain : Chain (grammar dialect) Lexeme.read trees input rest) (divides : input.Divides) :
    rest.Divides := by
  induction chain with
  | nil => exact divides
  | cons here _ ih => exact ih (TreeReads.divides here divides)

/-! ## Offsets of trees -/

theorem mem_located {trees : List ScriptTree} {offset place : Nat} {part : ScriptTree}
    (member : (place, part) ∈ located offset trees) :
    ∃ front back, trees = front ++ part :: back ∧
      place = offset + Text.byteLength (tokensText (forestTokens front)) := by
  induction trees generalizing offset with
  | nil => cases member
  | cons tree trees ih =>
      rcases List.mem_cons.mp member with here | behind
      · cases here
        exact ⟨[], trees, rfl, rfl⟩
      · obtain ⟨front, back, rfl, place_eq⟩ := ih behind
        refine ⟨tree :: front, back, rfl, ?_⟩
        rw [place_eq, treeSize_eq, forestTokens, tokensText_append, Text.byteLength_append]
        omega

theorem exists_mem_located {trees : List ScriptTree} {part : ScriptTree} (offset : Nat)
    (member : part ∈ trees) : ∃ place, (place, part) ∈ located offset trees := by
  induction trees generalizing offset with
  | nil => cases member
  | cons tree trees ih =>
      rcases List.mem_cons.mp member with rfl | behind
      · exact ⟨offset, List.mem_cons_self ..⟩
      · obtain ⟨place, found⟩ := ih (offset + treeSize tree) behind
        exact ⟨place, List.mem_cons_of_mem _ found⟩

theorem le_of_mem_located {trees : List ScriptTree} {offset place : Nat} {part : ScriptTree}
    (member : (place, part) ∈ located offset trees) :
    offset ≤ place ∧
      place + treeSize part ≤ offset + Text.byteLength (tokensText (forestTokens trees)) := by
  obtain ⟨front, back, rfl, rfl⟩ := mem_located member
  simp only [forestTokens_append, forestTokens, tokensText_append, Text.byteLength_append,
    treeSize_eq]
  omega

theorem located_pairwise (offset : Nat) (trees : List ScriptTree) :
    (located offset trees).Pairwise fun first second =>
      first.1 + treeSize first.2 ≤ second.1 := by
  induction trees generalizing offset with
  | nil => exact .nil
  | cons tree trees ih =>
      refine .cons ?_ (ih _)
      intro second member
      exact (le_of_mem_located member).1

/-- The trees inside a tree at an offset, each with its own offset. -/
inductive Inside (offset : Nat) (tree : ScriptTree) : Nat → ScriptTree → Prop where
  | here : Inside offset tree offset tree
  | part {outer place : Nat} {name : Phrase} {parts : List ScriptTree} {part : ScriptTree} :
      Inside offset tree outer (.node name parts) → (place, part) ∈ located outer parts →
      Inside offset tree place part

theorem Inside.only {offset outer : Nat} {tree part : ScriptTree} {name : Phrase}
    (inside : Inside offset tree outer (.node name [part])) : Inside offset tree outer part :=
  inside.part (List.mem_cons_self ..)

theorem Inside.mem {offset outer : Nat} {tree part : ScriptTree} {name : Phrase}
    {parts : List ScriptTree} (inside : Inside offset tree outer (.node name parts))
    (member : part ∈ parts) : ∃ place, Inside offset tree place part := by
  obtain ⟨place, found⟩ := exists_mem_located outer member
  exact ⟨place, inside.part found⟩

theorem Inside.bounds {offset place : Nat} {tree part : ScriptTree}
    (inside : Inside offset tree place part) :
    offset ≤ place ∧ place + treeSize part ≤ offset + treeSize tree := by
  induction inside with
  | here => exact ⟨Nat.le_refl _, Nat.le_refl _⟩
  | part _ member ih =>
      have bounds := le_of_mem_located member
      rw [treeSize_node] at ih
      omega

theorem Inside.tokens_subset {offset place : Nat} {tree part : ScriptTree}
    (inside : Inside offset tree place part) : part.tokens ⊆ tree.tokens := by
  induction inside with
  | here => exact List.Subset.refl _
  | @part _ _ _ _ part _ member ih =>
      obtain ⟨front, back, rfl, -⟩ := mem_located member
      have among : part ∈ front ++ part :: back :=
        List.mem_append_right front (List.mem_cons_self ..)
      exact List.Subset.trans (tokens_subset_forestTokens among) ih

/-- A tree that was read at an offset of the text. -/
def Stands (dialect : Dialect) (source : Text) (offset : Nat) (tree : ScriptTree) : Prop :=
  ∃ before input rest, source = before ++ Cursor.remaining input ∧
    offset = Text.byteLength before ∧ input.Divides ∧ TreeReads dialect tree input rest

/-- What stands inside a tree was read at its own offset. -/
theorem Stands.inside {source : Text} {offset place : Nat} {tree part : ScriptTree}
    (stands : Stands dialect source offset tree) (inside : Inside offset tree place part) :
    Stands dialect source place part := by
  induction inside with
  | here => exact stands
  | part _ member ih =>
      obtain ⟨before, input, rest, rfl, rfl, divides, reads⟩ := ih
      obtain ⟨front, back, rfl, rfl⟩ := mem_located member
      obtain ⟨outset, behind, inFront, reads, -⟩ := (Derives.chain cursor_of_look reads).split
      refine ⟨before ++ tokensText (forestTokens front), outset, behind, ?_, ?_,
        chain_divides inFront divides, reads⟩
      · rw [chain_remaining inFront, List.append_assoc]
      · rw [Text.byteLength_append]

/-- Behind its gap, a tree has the text of its tokens. -/
theorem Stands.text {source : Text} {offset : Nat} {tree : ScriptTree}
    (stands : Stands dialect source offset tree) :
    ∃ before after, source = before ++ ownText tree.tokens ++ after ∧
      offset + leadingGap tree = Text.byteLength before ∧
      offset + treeSize tree = Text.byteLength (before ++ ownText tree.tokens) := by
  obtain ⟨before, input, rest, rfl, rfl, -, reads⟩ := stands
  rw [reads.remaining, treeSize_eq, leadingGap]
  cases tree.tokens with
  | nil => exact ⟨before, rest.remaining, by simp [ownText], by simp, by simp [ownText]⟩
  | cons token more =>
      refine ⟨before ++ token.gap, rest.remaining, by simp [ownText], by simp, ?_⟩
      simp only [ownText, tokensText_cons, Text.byteLength_append]
      omega

end Marginalia.Script
