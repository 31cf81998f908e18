import Marginalia.Grammar.Rule

/-!
# Derivations

`Derives` says which trees a rule may give and which part of the input it takes,
without the limits of `Grammar.parse` and without the order of choices.  Main
statements: what `parse` finds is derived, and the trees of a derivation stand
one behind the other in the input, each of them derived from its own place.
-/

namespace Marginalia.Grammar

variable {ν τ κ σ : Type}

namespace Tree

@[simp] theorem forestTokens_append (front back : List (Tree ν κ)) :
    forestTokens (front ++ back) = forestTokens front ++ forestTokens back := by
  induction front with
  | nil => simp [forestTokens]
  | cons tree front ih => simp [forestTokens, ih]

theorem tokens_subset_forestTokens {tree : Tree ν κ} {trees : List (Tree ν κ)}
    (member : tree ∈ trees) : tree.tokens ⊆ forestTokens trees := by
  obtain ⟨front, back, rfl⟩ := List.append_of_mem member
  intro token inTree
  simp [forestTokens, inTree]

end Tree

/-- The trees that a rule may give, reading from the first input to the
second. -/
inductive Derives (rules : ν → Rule ν τ) (read : Reader τ κ σ) :
    Rule ν τ → σ → List (Tree ν κ) → σ → Prop where
  | empty {input : σ} : Derives rules read .empty input [] input
  | token {kind : τ} {input rest : σ} {token : κ} :
      read kind input = some (some token, rest) →
      Derives rules read (.terminal kind) input [.leaf token] rest
  | look {kind : τ} {input rest : σ} :
      read kind input = some (none, rest) → Derives rules read (.terminal kind) input [] rest
  | phrase {name : ν} {input rest : σ} {parts : List (Tree ν κ)} :
      Derives rules read (rules name) input parts rest →
      Derives rules read (.phrase name) input [.node name parts] rest
  | seq {first second : Rule ν τ} {input middle rest : σ} {front back : List (Tree ν κ)} :
      Derives rules read first input front middle →
      Derives rules read second middle back rest →
      Derives rules read (.seq first second) input (front ++ back) rest
  | left {first second : Rule ν τ} {input rest : σ} {parts : List (Tree ν κ)} :
      Derives rules read first input parts rest →
      Derives rules read (.choice first second) input parts rest
  | right {first second : Rule ν τ} {input rest : σ} {parts : List (Tree ν κ)} :
      Derives rules read second input parts rest →
      Derives rules read (.choice first second) input parts rest
  | done {item : Rule ν τ} {input : σ} : Derives rules read (.many item) input [] input
  | again {item : Rule ν τ} {input middle rest : σ} {front back : List (Tree ν κ)} :
      Derives rules read item input front middle →
      Derives rules read (.many item) middle back rest →
      Derives rules read (.many item) input (front ++ back) rest
  | ahead {item : Rule ν τ} {input : σ} : Derives rules read (.ahead item) input [] input
  | absent {item : Rule ν τ} {input : σ} : Derives rules read (.absent item) input [] input

section Soundness

variable {rules : ν → Rule ν τ} {read : Reader τ κ σ}

private theorem derives_repeated {item : Rule ν τ} {step : σ → Outcome ν κ σ}
    (sound : ∀ {input parts rest}, step input = some (parts, rest) →
      Derives rules read item input parts rest) (limit : Nat) (input : σ) :
    Derives rules read (.many item) input (repeated step limit input).1
      (repeated step limit input).2 := by
  induction limit generalizing input with
  | zero => exact .done
  | succ limit ih =>
      simp only [repeated]
      cases found : step input with
      | none => exact .done
      | some outcome => exact .again (sound found) (ih outcome.2)

/-- A rule gives what it derives, if the phrases it mentions do. -/
theorem Rule.run_derives {limit : Nat} {phraseAt : ν → σ → Option (Tree ν κ × σ)}
    (sound : ∀ {name input tree rest}, phraseAt name input = some (tree, rest) →
      ∃ parts, tree = .node name parts ∧ Derives rules read (rules name) input parts rest)
    {rule : Rule ν τ} {input : σ} {parts : List (Tree ν κ)} {rest : σ}
    (ran : rule.run read limit phraseAt input = some (parts, rest)) :
    Derives rules read rule input parts rest := by
  induction rule generalizing input parts rest with
  | empty =>
      cases ran
      exact .empty
  | never => cases ran
  | terminal kind =>
      simp only [Rule.run] at ran
      split at ran
      · cases ran
      case h_2 found =>
        cases ran
        exact .look found
      case h_3 found =>
        cases ran
        exact .token found
  | phrase name =>
      simp only [Rule.run] at ran
      split at ran
      · cases ran
      case h_2 found =>
        cases ran
        obtain ⟨parts, rfl, derived⟩ := sound found
        exact .phrase derived
  | seq first second firstIH secondIH =>
      simp only [Rule.run] at ran
      split at ran
      · cases ran
      case h_2 foundFirst =>
        split at ran
        · cases ran
        case h_2 foundSecond =>
          cases ran
          exact .seq (firstIH foundFirst) (secondIH foundSecond)
  | choice first second firstIH secondIH =>
      simp only [Rule.run] at ran
      split at ran
      case h_1 found =>
        cases ran
        exact .left (firstIH found)
      case h_2 => exact .right (secondIH ran)
  | many item ih =>
      have repetition := derives_repeated ih limit input
      simp only [Rule.run, Option.some.injEq] at ran
      rwa [ran] at repetition
  | ahead item ih =>
      simp only [Rule.run] at ran
      split at ran
      · cases ran
        exact .ahead
      · cases ran
  | absent item ih =>
      simp only [Rule.run] at ran
      split at ran
      · cases ran
      · cases ran
        exact .absent

/-- What is parsed is a phrase with the parts that its rule derives. -/
theorem derives_of_parse {limit depth : Nat} {name : ν} {input rest : σ} {tree : Tree ν κ}
    (parsed : parse rules read limit depth name input = some (tree, rest)) :
    ∃ parts, tree = .node name parts ∧ Derives rules read (rules name) input parts rest := by
  induction depth generalizing name input tree rest with
  | zero => cases parsed
  | succ depth ih =>
      simp only [parse] at parsed
      split at parsed
      · cases parsed
      case h_2 found =>
        cases parsed
        exact ⟨_, rfl, Rule.run_derives ih found⟩

/-! ## Inversion -/

theorem derives_empty_iff {input rest : σ} {parts : List (Tree ν κ)} :
    Derives rules read .empty input parts rest ↔ parts = [] ∧ rest = input := by
  constructor
  · rintro ⟨⟩
    exact ⟨rfl, rfl⟩
  · rintro ⟨rfl, rfl⟩
    exact .empty

theorem not_derives_never {input rest : σ} {parts : List (Tree ν κ)} :
    ¬ Derives rules read .never input parts rest := by
  rintro ⟨⟩

theorem derives_terminal_iff {kind : τ} {input rest : σ} {parts : List (Tree ν κ)} :
    Derives rules read (.terminal kind) input parts rest ↔
      (parts = [] ∧ read kind input = some (none, rest)) ∨
        ∃ token, parts = [.leaf token] ∧ read kind input = some (some token, rest) := by
  constructor
  · intro derived
    cases derived with
    | token found => exact Or.inr ⟨_, rfl, found⟩
    | look found => exact Or.inl ⟨rfl, found⟩
  · rintro (⟨rfl, found⟩ | ⟨token, rfl, found⟩)
    · exact .look found
    · exact .token found

theorem derives_phrase_iff {name : ν} {input rest : σ} {parts : List (Tree ν κ)} :
    Derives rules read (.phrase name) input parts rest ↔
      ∃ inner, parts = [.node name inner] ∧ Derives rules read (rules name) input inner rest := by
  constructor
  · intro derived
    cases derived with
    | phrase inner => exact ⟨_, rfl, inner⟩
  · rintro ⟨inner, rfl, derived⟩
    exact .phrase derived

theorem derives_seq_iff {first second : Rule ν τ} {input rest : σ} {parts : List (Tree ν κ)} :
    Derives rules read (.seq first second) input parts rest ↔
      ∃ front middle back, parts = front ++ back ∧ Derives rules read first input front middle ∧
        Derives rules read second middle back rest := by
  constructor
  · intro derived
    cases derived with
    | seq first second => exact ⟨_, _, _, rfl, first, second⟩
  · rintro ⟨front, middle, back, rfl, first, second⟩
    exact .seq first second

theorem derives_choice_iff {first second : Rule ν τ} {input rest : σ}
    {parts : List (Tree ν κ)} :
    Derives rules read (.choice first second) input parts rest ↔
      Derives rules read first input parts rest ∨ Derives rules read second input parts rest := by
  constructor
  · intro derived
    cases derived with
    | left first => exact Or.inl first
    | right second => exact Or.inr second
  · rintro (first | second)
    · exact .left first
    · exact .right second

theorem derives_optional_iff {item : Rule ν τ} {input rest : σ} {parts : List (Tree ν κ)} :
    Derives rules read (Rule.optional item) input parts rest ↔
      Derives rules read item input parts rest ∨ parts = [] ∧ rest = input := by
  rw [Rule.optional, derives_choice_iff, derives_empty_iff]

theorem derives_all_cons {rule : Rule ν τ} {more : List (Rule ν τ)} {input rest : σ}
    {parts : List (Tree ν κ)} :
    Derives rules read (Rule.all (rule :: more)) input parts rest ↔
      ∃ front middle back, parts = front ++ back ∧ Derives rules read rule input front middle ∧
        Derives rules read (Rule.all more) middle back rest :=
  derives_seq_iff

/-- Rules one after another are derived in two halves, wherever they are cut. -/
theorem derives_all_append {front back : List (Rule ν τ)} {input rest : σ}
    {parts : List (Tree ν κ)} :
    Derives rules read (Rule.all (front ++ back)) input parts rest ↔
      ∃ first middle second, parts = first ++ second ∧
        Derives rules read (Rule.all front) input first middle ∧
        Derives rules read (Rule.all back) middle second rest := by
  induction front generalizing input parts with
  | nil =>
      constructor
      · intro derived
        exact ⟨[], input, parts, rfl, .empty, derived⟩
      · rintro ⟨first, middle, second, rfl, nothing, derived⟩
        obtain ⟨rfl, rfl⟩ := derives_empty_iff.mp nothing
        exact derived
  | cons rule front ih =>
      constructor
      · intro derived
        obtain ⟨here, behind, more, rfl, item, others⟩ := derives_all_cons.mp derived
        obtain ⟨first, middle, second, rfl, inFront, inBack⟩ := ih.mp others
        exact ⟨here ++ first, middle, second, (List.append_assoc ..).symm, .seq item inFront,
          inBack⟩
      · rintro ⟨first, middle, second, rfl, inFront, inBack⟩
        obtain ⟨here, behind, more, rfl, item, others⟩ := derives_all_cons.mp inFront
        rw [List.append_assoc]
        exact .seq item (ih.mpr ⟨more, middle, second, rfl, others, inBack⟩)

theorem derives_all_singleton {rule : Rule ν τ} {input rest : σ} {parts : List (Tree ν κ)} :
    Derives rules read (Rule.all [rule]) input parts rest ↔
      Derives rules read rule input parts rest := by
  constructor
  · intro derived
    obtain ⟨front, middle, back, rfl, item, nothing⟩ := derives_all_cons.mp derived
    obtain ⟨rfl, rfl⟩ := derives_empty_iff.mp nothing
    rwa [List.append_nil]
  · intro derived
    have nothing : Derives rules read (Rule.all []) rest [] rest := .empty
    exact derives_all_cons.mpr ⟨parts, rest, [], (List.append_nil _).symm, derived, nothing⟩

theorem derives_any_cons {rule : Rule ν τ} {more : List (Rule ν τ)} {input rest : σ}
    {parts : List (Tree ν κ)} :
    Derives rules read (Rule.any (rule :: more)) input parts rest ↔
      Derives rules read rule input parts rest ∨
        Derives rules read (Rule.any more) input parts rest :=
  derives_choice_iff

/-! ## Trees one behind the other -/

/-- A tree that is read from the first input to the second. -/
def Derived (rules : ν → Rule ν τ) (read : Reader τ κ σ) : Tree ν κ → σ → σ → Prop
  | .leaf token, input, rest => ∃ kind, read kind input = some (some token, rest)
  | .node name parts, input, rest => Derives rules read (rules name) input parts rest

/-- Trees that are read one behind the other. -/
inductive Chain (rules : ν → Rule ν τ) (read : Reader τ κ σ) : List (Tree ν κ) → σ → σ → Prop where
  | nil {input : σ} : Chain rules read [] input input
  | cons {tree : Tree ν κ} {trees : List (Tree ν κ)} {input middle rest : σ} :
      Derived rules read tree input middle → Chain rules read trees middle rest →
      Chain rules read (tree :: trees) input rest

theorem Chain.append {front back : List (Tree ν κ)} {input middle rest : σ}
    (first : Chain rules read front input middle) (second : Chain rules read back middle rest) :
    Chain rules read (front ++ back) input rest := by
  induction first with
  | nil => exact second
  | cons tree _ ih => exact .cons tree (ih second)

/-- Every tree of a chain has its own place in the input. -/
theorem Chain.split {front back : List (Tree ν κ)} {tree : Tree ν κ} {input rest : σ}
    (chain : Chain rules read (front ++ tree :: back) input rest) :
    ∃ before after, Chain rules read front input before ∧ Derived rules read tree before after ∧
      Chain rules read back after rest := by
  induction front generalizing input with
  | nil =>
      cases chain with
      | cons here behind => exact ⟨_, _, .nil, here, behind⟩
  | cons first front ih =>
      cases chain with
      | cons here behind =>
          obtain ⟨before, after, chainFront, derived, chainBack⟩ := ih behind
          exact ⟨before, after, .cons here chainFront, derived, chainBack⟩

/-- The trees of a derivation form a chain, if what is only looked at is not
taken from the input. -/
theorem Derives.chain
    (quiet : ∀ {kind input rest}, read kind input = some (none, rest) → rest = input)
    {rule : Rule ν τ} {input rest : σ} {parts : List (Tree ν κ)}
    (derived : Derives rules read rule input parts rest) : Chain rules read parts input rest := by
  induction derived with
  | empty => exact .nil
  | token found => exact .cons ⟨_, found⟩ .nil
  | look found =>
      rw [quiet found]
      exact .nil
  | phrase derived => exact .cons derived .nil
  | seq _ _ firstIH secondIH => exact firstIH.append secondIH
  | left _ ih => exact ih
  | right _ ih => exact ih
  | done => exact .nil
  | again _ _ itemIH manyIH => exact itemIH.append manyIH
  | ahead => exact .nil
  | absent => exact .nil

end Soundness

end Marginalia.Grammar
