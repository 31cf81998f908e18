/-!
# Parsing expressions

A grammar gives a rule for every phrase.  Rules are ordered choices of
sequences of terminals and phrases, with repetition and lookahead, and are
plain data.  `parse` runs a grammar on an input of any kind, given how one
terminal is read, and returns the tree of the phrase it found.

The rules of a grammar refer to one another freely, so `parse` is given the
greatest nesting of phrases it may open; a phrase nested deeper is not found.
-/

namespace Marginalia.Grammar

/-- A rule over the phrases `ν` and the terminals `τ`. -/
inductive Rule (ν τ : Type) where
  /-- Nothing at all. -/
  | empty
  /-- No input matches. -/
  | never
  /-- One terminal. -/
  | terminal (kind : τ)
  /-- One phrase of the grammar. -/
  | phrase (name : ν)
  /-- One rule after another. -/
  | seq (first second : Rule ν τ)
  /-- The second rule where the first does not match. -/
  | choice (first second : Rule ν τ)
  /-- As many matches as possible, maybe none. -/
  | many (item : Rule ν τ)
  /-- A match is ahead; nothing is taken. -/
  | ahead (item : Rule ν τ)
  /-- No match is ahead; nothing is taken. -/
  | absent (item : Rule ν τ)

namespace Rule

variable {ν τ : Type}

/-- The rules one after another. -/
def all (rules : List (Rule ν τ)) : Rule ν τ :=
  rules.foldr seq empty

/-- The first of the rules that matches. -/
def any (rules : List (Rule ν τ)) : Rule ν τ :=
  rules.foldr choice never

/-- The rule, or nothing where it does not match. -/
def optional (item : Rule ν τ) : Rule ν τ :=
  choice item empty

/-- One or more items with a separator between neighbours. -/
def separated (item separator : Rule ν τ) : Rule ν τ :=
  seq item (many (seq separator item))

end Rule

/-- A derivation: leaves hold what was read, nodes name the phrase. -/
inductive Tree (ν κ : Type) where
  /-- What one terminal read. -/
  | leaf (token : κ)
  /-- A phrase with its parts. -/
  | node (name : ν) (parts : List (Tree ν κ))

section Run

variable {ν τ κ σ : Type}

/-- How a terminal is read from an input.  A terminal that only looks at the
input reads no token. -/
abbrev Reader (τ κ σ : Type) := τ → σ → Option (Option κ × σ)

/-- The outcome of a rule: the trees of its parts and the rest of the input. -/
abbrev Outcome (ν κ σ : Type) := Option (List (Tree ν κ) × σ)

/-- Apply `step` until it fails, at most `limit` times. -/
def repeated (step : σ → Outcome ν κ σ) : Nat → σ → List (Tree ν κ) × σ
  | 0, input => ([], input)
  | limit + 1, input =>
    match step input with
    | none => ([], input)
    | some (parts, rest) =>
      let (more, final) := repeated step limit rest
      (parts ++ more, final)

/-- Match one rule.  `phraseAt` parses the phrases that the rule mentions. -/
def Rule.run (read : Reader τ κ σ) (limit : Nat)
    (phraseAt : ν → σ → Option (Tree ν κ × σ)) : Rule ν τ → σ → Outcome ν κ σ
  | .empty, input => some ([], input)
  | .never, _ => none
  | .terminal kind, input =>
    match read kind input with
    | none => none
    | some (none, rest) => some ([], rest)
    | some (some token, rest) => some ([.leaf token], rest)
  | .phrase name, input =>
    match phraseAt name input with
    | none => none
    | some (tree, rest) => some ([tree], rest)
  | .seq first second, input =>
    match first.run read limit phraseAt input with
    | none => none
    | some (front, rest) =>
      match second.run read limit phraseAt rest with
      | none => none
      | some (back, final) => some (front ++ back, final)
  | .choice first second, input =>
    match first.run read limit phraseAt input with
    | some found => some found
    | none => second.run read limit phraseAt input
  | .many item, input => some (repeated (item.run read limit phraseAt) limit input)
  | .ahead item, input =>
    if (item.run read limit phraseAt input).isSome then some ([], input) else none
  | .absent item, input =>
    if (item.run read limit phraseAt input).isSome then none else some ([], input)

/-- Parse one phrase, opening at most `depth` phrases inside one another and
repeating a rule at most `limit` times in a row. -/
def parse (rules : ν → Rule ν τ) (read : Reader τ κ σ) (limit : Nat) :
    Nat → ν → σ → Option (Tree ν κ × σ)
  | 0, _, _ => none
  | depth + 1, name, input =>
    match (rules name).run read limit (parse rules read limit depth) input with
    | none => none
    | some (parts, rest) => some (.node name parts, rest)

end Run

namespace Tree

variable {ν κ : Type}

mutual

/-- The tokens of a tree, in order. -/
def tokens : Tree ν κ → List κ
  | .leaf token => [token]
  | .node _ parts => forestTokens parts

/-- The tokens of a list of trees, in order. -/
def forestTokens : List (Tree ν κ) → List κ
  | [] => []
  | tree :: more => tree.tokens ++ forestTokens more

end

/-- The parts of a tree; a leaf has none. -/
def parts : Tree ν κ → List (Tree ν κ)
  | .leaf _ => []
  | .node _ parts => parts

/-- The phrase of a tree, unless it is a leaf. -/
def name? : Tree ν κ → Option ν
  | .leaf _ => none
  | .node name _ => some name

end Tree

end Marginalia.Grammar
