import Marginalia.Proofs.ScriptTree

/-!
# The shape of declarations

What the rules for functions and classes say about the tokens they read.  Main
statements: a function or a class begins with a fixed word or mark and ends with
its closing brace and the remark behind it, and the names that are taken from it
are identifiers that occur in it.
-/

namespace Marginalia.Script

open Grammar
open Grammar.Rule (all any many optional)
open Grammar.Tree (forestTokens forestTokens_append)

variable {dialect : Dialect} {input rest : Cursor} {parts : List ScriptTree}

/-! ## The shapes of phrases -/

private theorem reads_terminal {lexeme : Lexeme} (IsText : Text → Prop)
    (texts : ∀ {cursor rest token?}, lexeme.read cursor = some (token?, rest) →
      ∃ token : Token, token? = some token ∧ IsText token.text)
    (reads : Reads dialect (.terminal lexeme) input parts rest) :
    ∃ token, parts = [.leaf token] ∧ IsText token.text := by
  rcases derives_terminal_iff.mp reads with ⟨-, found⟩ | ⟨token, rfl, found⟩
  · obtain ⟨token, absent, -⟩ := texts found
    cases absent
  · obtain ⟨other, same, isText⟩ := texts found
    cases same
    exact ⟨token, rfl, isText⟩

theorem reads_word {spelling : String} (reads : Reads dialect (word spelling) input parts rest) :
    ∃ token, parts = [.leaf token] ∧ token.text = spelling.toList :=
  reads_terminal (· = spelling.toList) text_of_word reads

theorem reads_sign {spelling : String} (reads : Reads dialect (sign spelling) input parts rest) :
    ∃ token, parts = [.leaf token] ∧ token.text = spelling.toList := by
  obtain ⟨token, isLeaf, listed⟩ := reads_terminal (· ∈ [spelling.toList]) text_of_operator reads
  exact ⟨token, isLeaf, List.mem_singleton.mp listed⟩

theorem reads_name {barred : List Text}
    (reads : Reads dialect (.terminal (.name barred)) input parts rest) :
    ∃ token, parts = [.leaf token] ∧ IsName token.text :=
  reads_terminal IsName text_of_name reads

theorem reads_leadingWord {endable : Bool} {spelling : String}
    (reads : Reads dialect (leadingWord endable spelling) input parts rest) :
    ∃ token, parts = [.leaf token] ∧ token.text = spelling.toList := by
  cases endable with
  | false => exact reads_word reads
  | true =>
      cases reads with
      | seq first second =>
          -- a rule that asks for something to be absent reads nothing
          cases second
          rw [List.append_nil]
          exact reads_word first

theorem reads_remark {operand : Bool} (divides : input.Divides)
    (reads : Reads dialect (.terminal (.remark operand)) input parts rest) :
    Remark rest.remaining (tokensText (forestTokens parts)) := by
  rcases derives_terminal_iff.mp reads with ⟨rfl, -⟩ | ⟨token, rfl, found⟩
  · exact .inl rfl
  · obtain ⟨adjoined, remark⟩ := text_of_remark found divides
    simpa [forestTokens, Tree.tokens, adjoined] using remark

/-- Tokens the last of which is a closing brace. -/
def Closes (tokens : List Token) : Prop :=
  ∃ front closing, tokens = front ++ [closing] ∧ closing.text = ['}']

theorem Closes.append_left {tokens : List Token} (closes : Closes tokens) (front : List Token) :
    Closes (front ++ tokens) := by
  obtain ⟨inner, closing, rfl, text⟩ := closes
  exact ⟨front ++ inner, closing, (List.append_assoc ..).symm, text⟩

private theorem closes_braced (front : List ScriptRule)
    (reads : Reads dialect (all (front ++ [closeBrace])) input parts rest) :
    Closes (forestTokens parts) := by
  obtain ⟨first, middle, second, rfl, -, closing⟩ := derives_all_append.mp reads
  obtain ⟨token, rfl, text⟩ := reads_sign (derives_all_singleton.mp closing)
  refine ⟨forestTokens first, token, by simp [forestTokens, Tree.tokens], ?_⟩
  rw [text]
  rfl

theorem closes_block (reads : Reads dialect Phrase.block.rule input parts rest) :
    Closes (forestTokens parts) := by
  obtain ⟨inner, rfl, body⟩ := derives_phrase_iff.mp reads
  simpa [forestTokens, Tree.tokens] using
    closes_braced [openBrace, markupComments, statements] body

theorem closes_classRemainder (reads : Reads dialect classRemainder input parts rest) :
    Closes (forestTokens parts) := by
  have cut : Reads dialect
      (all ([optional Phrase.typeParameters.rule, optional heritage] ++ [Phrase.classBody.rule]))
      input parts rest := reads
  obtain ⟨first, middle, second, rfl, -, last⟩ := derives_all_append.mp cut
  obtain ⟨inner, rfl, body⟩ := derives_phrase_iff.mp (derives_all_singleton.mp last)
  have closes := closes_braced [openBrace, many Phrase.member.rule] body
  simpa [forestTokens, Tree.tokens] using closes.append_left (forestTokens first)

/-- Tokens that begin with the opening and end with a closing brace and the
remark behind it. -/
def Framed (opening remark : Text) (tokens : List Token) : Prop :=
  ∃ first body tail, tokens = first :: (body ++ tail) ∧ first.text = opening ∧ Closes body ∧
    tokensText tail = remark

theorem Framed.ownText_eq {opening remark : Text} {tokens : List Token}
    (framed : Framed opening remark tokens) :
    ∃ body, ownText tokens = opening ++ (body ++ '}' :: remark) := by
  obtain ⟨first, body, tail, rfl, rfl, ⟨inner, closing, rfl, text⟩, rfl⟩ := framed
  exact ⟨tokensText inner ++ closing.gap, by simp [ownText, text]⟩

theorem Framed.append_tail {opening : Text} {tokens : List Token}
    (framed : Framed opening [] tokens) (more : List Token) :
    Framed opening (tokensText more) (tokens ++ more) := by
  obtain ⟨first, body, tail, rfl, opens, closes, nothing⟩ := framed
  exact ⟨first, body, tail ++ more, by simp, opens, closes, by simp [nothing]⟩

theorem Framed.append_head {opening remark : Text} {tokens : List Token}
    (framed : Framed opening remark tokens) (first : Token) (more : List Token) :
    Framed first.text remark (first :: more ++ tokens) := by
  obtain ⟨second, body, tail, rfl, -, closes, remains⟩ := framed
  refine ⟨first, more ++ second :: body, tail, by simp, rfl, ?_, remains⟩
  exact (closes.append_left [second]).append_left more

/-- The rule begins with a word; what follows ends with a closing brace. -/
private theorem framed_word {spelling : String} (middle : List ScriptRule) {last : ScriptRule}
    (closes : ∀ {input rest parts}, Reads dialect last input parts rest →
      Closes (forestTokens parts))
    (reads : Reads dialect (all (word spelling :: (middle ++ [last]))) input parts rest) :
    Framed spelling.toList [] (forestTokens parts) := by
  obtain ⟨front, behind, others, rfl, opening, more⟩ := derives_all_cons.mp reads
  obtain ⟨token, rfl, text⟩ := reads_word opening
  obtain ⟨inner, inside, back, rfl, -, closing⟩ := derives_all_append.mp more
  have closed := (closes (derives_all_singleton.mp closing)).append_left (forestTokens inner)
  exact ⟨token, forestTokens inner ++ forestTokens back, [], by simp [forestTokens, Tree.tokens],
    text, closed, rfl⟩

/-- The words that a function begins with. -/
def functionOpenings : List Text :=
  ["function", "async"].map String.toList

/-- A function, with or without a name, ends with its block and a remark. -/
theorem framed_function (middle : List ScriptRule) {endable operand : Bool}
    (divides : input.Divides)
    (reads : Reads dialect (all (optional (leadingWord endable "async") :: word "function" ::
      (middle ++ [Phrase.block.rule]) ++ [.terminal (.remark operand)])) input parts rest) :
    ∃ opening remark, Framed opening remark (forestTokens parts) ∧ opening ∈ functionOpenings ∧
      Remark rest.remaining remark := by
  obtain ⟨front, behind, back, rfl, body, last⟩ := derives_all_append.mp reads
  have remark := reads_remark (Reads.divides body divides) (derives_all_singleton.mp last)
  obtain ⟨async, here, others, rfl, async?, function⟩ := derives_all_cons.mp body
  have framed := framed_word middle closes_block function
  rw [forestTokens_append]
  rcases derives_optional_iff.mp async? with isAsync | ⟨rfl, rfl⟩
  · obtain ⟨token, rfl, text⟩ := reads_leadingWord isAsync
    have framed := (framed.append_head token []).append_tail (forestTokens back)
    refine ⟨token.text, _, framed, ?_, remark⟩
    rw [text]
    exact List.mem_cons_of_mem _ (List.mem_cons_self ..)
  · exact ⟨_, _, framed.append_tail (forestTokens back), List.mem_cons_self .., remark⟩

/-- The text that a decorator begins with. -/
def decoratorOpening : Text := ['@']

private theorem reads_decorators
    (reads : Reads dialect (many Phrase.decorator.rule) input parts rest) :
    forestTokens parts = [] ∨
      ∃ first more, forestTokens parts = first :: more ∧ first.text = decoratorOpening := by
  cases reads with
  | done => exact .inl rfl
  | @again _ _ _ _ front back first _ =>
      obtain ⟨inner, rfl, decorator⟩ := derives_phrase_iff.mp first
      obtain ⟨front, behind, others, rfl, opening, -⟩ := derives_all_cons.mp decorator
      obtain ⟨token, rfl, text⟩ := reads_sign opening
      exact .inr ⟨token, forestTokens others ++ forestTokens back,
        by simp [forestTokens, Tree.tokens], text⟩

/-- The texts that a class begins with. -/
def classOpenings : List Text :=
  ["class".toList, "abstract".toList, decoratorOpening]

/-- How the tokens of a class are framed in front of what stands behind it.  There
is no remark behind an abstract class. -/
def ClassFramed (behind : Text) (tokens : List Token) : Prop :=
  ∃ opening remark, Framed opening remark tokens ∧ opening ∈ classOpenings ∧
    Remark behind remark ∧ (opening = "abstract".toList → remark = [])

private theorem classFramed_decorated {decorators : List ScriptTree} {tokens : List Token}
    {behind : Text} (reads : Reads dialect (many Phrase.decorator.rule) input decorators rest)
    (framed : ClassFramed behind tokens) :
    ClassFramed behind (forestTokens decorators ++ tokens) := by
  rcases reads_decorators reads with none | ⟨first, more, some, text⟩
  · rwa [none]
  · obtain ⟨opening, remark, framed, -, isRemark, -⟩ := framed
    rw [some]
    refine ⟨first.text, remark, framed.append_head first more, ?_, isRemark, ?_⟩
    · rw [text]
      decide
    · rw [text]
      intro isAbstract
      exact absurd isAbstract (by decide)

theorem classFramed_declaration {orValue : Bool} (divides : input.Divides)
    (reads : Reads dialect (classDeclarationRule orValue) input parts rest) :
    ClassFramed rest.remaining (forestTokens parts) := by
  obtain ⟨decorators, behind, others, rfl, decorated, more⟩ := derives_all_cons.mp reads
  rw [forestTokens_append]
  apply classFramed_decorated decorated
  rcases derives_any_cons.mp (derives_all_singleton.mp more) with isAbstract | plain
  · have framed := framed_word [word "class", className] closes_classRemainder isAbstract
    exact ⟨_, [], framed, by decide, .inl rfl, fun _ => rfl⟩
  · have cut : Reads dialect (all ((word "class" :: ([className] ++ [classRemainder])) ++
        [.terminal (.remark orValue)])) behind others rest :=
      (derives_any_cons.mp plain).resolve_right not_derives_never
    obtain ⟨front, brace, back, rfl, body, last⟩ := derives_all_append.mp cut
    have framed := framed_word [className] closes_classRemainder body
    have remark := reads_remark (Reads.divides body (Reads.divides decorated divides))
      (derives_all_singleton.mp last)
    rw [forestTokens_append]
    refine ⟨_, _, framed.append_tail (forestTokens back), by decide, remark, ?_⟩
    intro isAbstract
    exact absurd isAbstract (by decide)

theorem classFramed_expression
    (reads : Reads dialect classExpressionRule input parts rest) :
    ClassFramed rest.remaining (forestTokens parts) := by
  obtain ⟨decorators, behind, others, rfl, decorated, more⟩ := derives_all_cons.mp reads
  rw [forestTokens_append]
  apply classFramed_decorated decorated
  have framed := framed_word [optional className] closes_classRemainder more
  exact ⟨_, [], framed, by decide, .inl rfl, fun _ => rfl⟩

/-! ## Names -/

private theorem isName_bindingName {token : Token}
    (reads : Reads dialect anyName input [.leaf token] rest) : IsName token.text := by
  obtain ⟨other, same, named⟩ := reads_name reads
  cases same
  exact named

/-- A pattern that is a single token is a name: three points would have another
part behind them. -/
private theorem isName_pattern {token : Token}
    (reads : Reads dialect patternRule input [.leaf token] rest) : IsName token.text := by
  obtain ⟨dots, behind, bound, split, dots?, more⟩ := derives_all_cons.mp reads
  have target := derives_all_singleton.mp more
  have single : ∃ tree, bound = [tree] ∧ ∀ token, tree = .leaf token → IsName token.text := by
    rcases derives_any_cons.mp target with object | target
    · obtain ⟨inner, rfl, -⟩ := derives_phrase_iff.mp object
      exact ⟨_, rfl, fun _ isLeaf => by cases isLeaf⟩
    rcases derives_any_cons.mp target with array | target
    · obtain ⟨inner, rfl, -⟩ := derives_phrase_iff.mp array
      exact ⟨_, rfl, fun _ isLeaf => by cases isLeaf⟩
    rcases derives_any_cons.mp target with name | nothing
    · obtain ⟨token, rfl, named⟩ := reads_name name
      refine ⟨_, rfl, fun other isLeaf => ?_⟩
      cases isLeaf
      exact named
    · exact absurd nothing not_derives_never
  obtain ⟨tree, rfl, named⟩ := single
  cases dots with
  | nil =>
      cases split
      exact named token rfl
  | cons => simp at split

theorem boundName_cases (parts : List ScriptTree) :
    boundName parts = defaultName ∨
      ∃ token, .node .bindingName [.leaf token] ∈ parts ∧ boundName parts = token.text := by
  unfold boundName
  generalize search : List.findSome? _ parts = found
  cases found with
  | none => exact .inl rfl
  | some name =>
      obtain ⟨tree, member, matched⟩ := List.exists_of_findSome?_eq_some search
      split at matched
      case h_1 token =>
        cases matched
        exact .inr ⟨token, member, rfl⟩
      case h_2 => cases matched

theorem parameterText_cases (parts : List ScriptTree) :
    parameterText parts = unnamedParameter ∨
      ∃ token, .node .pattern [.leaf token] ∈ parts ∧ parameterText parts = token.text := by
  unfold parameterText
  generalize search : List.findSome? _ parts = found
  simp only
  split
  case h_1 name _ =>
    split
    · exact .inl rfl
    · obtain ⟨tree, member, matched⟩ := List.exists_of_findSome?_eq_some search
      split at matched
      case h_1 token =>
        cases matched
        exact .inr ⟨token, member, rfl⟩
      case h_2 => cases matched
  case h_2 => exact .inl rfl

/-- The parts from which the texts of the parameters come. -/
theorem mem_parameterTexts {parts : List ScriptTree} {text : Text}
    (member : text ∈ parameterTexts parts) :
    ∃ typed signature parameters parameter,
      .node (.signature typed) signature ∈ parts ∧ .node .parameters parameters ∈ signature ∧
      .node .parameter parameter ∈ parameters ∧ text = parameterText parameter := by
  unfold parameterTexts at member
  generalize search : List.findSome? _ parts = found at member
  cases found with
  | none => cases member
  | some parameters =>
      obtain ⟨tree, inParameters, matched⟩ := List.mem_filterMap.mp member
      split at matched
      case h_1 parameter =>
        cases matched
        obtain ⟨signature, inParts, inner⟩ := List.exists_of_findSome?_eq_some search
        split at inner
        case h_1 typed signature =>
          obtain ⟨list, inSignature, same⟩ := List.exists_of_findSome?_eq_some inner
          split at same
          case h_1 =>
            cases same
            exact ⟨typed, signature, parameters, parameter, inParts, inSignature, inParameters, rfl⟩
          case h_2 => cases same
        case h_2 => cases inner
      case h_2 => cases matched

/-- A name that a phrase consists of is an identifier and occurs in the text of
the tree around it. -/
private theorem name_inside {source : Text} {offset place : Nat} {tree : ScriptTree}
    {name : Phrase} {token : Token} (stands : Stands dialect source offset tree)
    (inside : Inside offset tree place (.node name [.leaf token]))
    (named : ∀ {input rest}, Reads dialect (grammar dialect name) input [.leaf token] rest →
      IsName token.text) :
    IsName token.text ∧ token.text <:+: ownText tree.tokens := by
  obtain ⟨before, input, rest, -, -, -, reads⟩ := stands.inside inside
  exact ⟨named reads, infix_ownText (inside.tokens_subset (List.mem_cons_self ..))⟩

theorem boundName_stands {source : Text} {offset : Nat} {name : Phrase}
    (stands : Stands dialect source offset (.node name parts)) :
    boundName parts = defaultName ∨
      IsName (boundName parts) ∧ boundName parts <:+: ownText (forestTokens parts) := by
  rcases boundName_cases parts with unnamed | ⟨token, member, isText⟩
  · exact .inl unnamed
  · obtain ⟨place, inside⟩ := Inside.here.mem member
    rw [isText]
    exact .inr (name_inside stands inside isName_bindingName)

theorem parameterTexts_stands {source : Text} {offset : Nat} {name : Phrase} {text : Text}
    (stands : Stands dialect source offset (.node name parts))
    (member : text ∈ parameterTexts parts) :
    text = unnamedParameter ∨ IsName text ∧ text <:+: ownText (forestTokens parts) := by
  obtain ⟨typed, signature, parameters, parameter, inParts, inSignature, inParameters, rfl⟩ :=
    mem_parameterTexts member
  rcases parameterText_cases parameter with unnamed | ⟨token, inParameter, isText⟩
  · exact .inl unnamed
  · obtain ⟨_, inside⟩ := Inside.here.mem inParts
    obtain ⟨_, inside⟩ := inside.mem inSignature
    obtain ⟨_, inside⟩ := inside.mem inParameters
    obtain ⟨_, inside⟩ := inside.mem inParameter
    rw [isText]
    exact .inr (name_inside stands inside isName_pattern)

end Marginalia.Script
