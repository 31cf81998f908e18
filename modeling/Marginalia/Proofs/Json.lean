import Marginalia.Json.Value
import Marginalia.Proofs.Text
import Mathlib.Data.List.TakeWhile

/-!
# Spellings of JSON

The spellings of a token are given by rules of their own, apart from the reader:
a string may escape any of its characters, and a number must not run on into
another one.  Blanks may stand between tokens.  Main statement: every spelling of
the tokens of a value is read as that value.
-/

namespace Marginalia.Json

/-! ## Pieces of strings -/

/-- The spellings of a piece of a string. -/
inductive Piece.Spelled : Piece → Text → Prop where
  /-- A character may stand for itself. -/
  | char {c : Char} (printable : ¬ c.toNat < 0x20) (quote : c ≠ '"') (backslash : c ≠ '\\') :
      Spelled (.char c) [c]
  /-- A letter behind a backslash may stand for a character. -/
  | escape {letter c : Char} (escapes : escaped? letter = some c) :
      Spelled (.char c) ['\\', letter]
  /-- Four digits stand for a unit. -/
  | unit {a b c d : Char} {first second third fourth : Nat} (ha : hexValue? a = some first)
      (hb : hexValue? b = some second) (hc : hexValue? c = some third)
      (hd : hexValue? d = some fourth) :
      Spelled (.unit (((first * 16 + second) * 16 + third) * 16 + fourth))
        ['\\', 'u', a, b, c, d]

/-- The spellings of the pieces of a string, one behind the other. -/
inductive PiecesSpelled : List Piece → Text → Prop where
  | nil : PiecesSpelled [] []
  | cons {piece : Piece} {pieces : List Piece} {text rest : Text} (first : piece.Spelled text)
      (more : PiecesSpelled pieces rest) : PiecesSpelled (piece :: pieces) (text ++ rest)

theorem PiecesSpelled.append {first second : List Piece} {front back : Text}
    (front' : PiecesSpelled first front) (back' : PiecesSpelled second back) :
    PiecesSpelled (first ++ second) (front ++ back) := by
  induction front' with
  | nil => exact back'
  | cons spelled _ ih =>
      rw [List.append_assoc]
      exact .cons spelled ih

theorem PiecesSpelled.singleton {piece : Piece} {text : Text} (spelled : piece.Spelled text) :
    PiecesSpelled [piece] text := by
  simpa using PiecesSpelled.cons spelled .nil

theorem PiecesSpelled.length_le {pieces : List Piece} {text : Text}
    (spelled : PiecesSpelled pieces text) : pieces.length ≤ text.length := by
  induction spelled with
  | nil => exact Nat.le_refl 0
  | cons first _ ih =>
      cases first <;> simp only [List.length_cons, List.length_append, List.length_nil] <;> omega

/-- One piece is read in one step. -/
theorem pieces?_of_spelled {piece : Piece} {text : Text} (spelled : piece.Spelled text) (fuel : Nat)
    (rest : Text) :
    pieces? (fuel + 1) (text ++ rest) = pieces?.prepend piece (pieces? fuel rest) := by
  cases spelled with
  | char printable quote backslash => simp [pieces?, printable, quote, backslash]
  | @escape letter c escapes =>
      have notUnit : letter ≠ 'u' := by
        rintro rfl
        simp [escaped?] at escapes
      simp [pieces?, escapes]
  | unit ha hb hc hd => simp [pieces?, unit?, ha, hb, hc, hd]

theorem pieces?_eq_some {pieces : List Piece} {text : Text} (spelled : PiecesSpelled pieces text)
    (rest : Text) {fuel : Nat} (enough : pieces.length < fuel) :
    pieces? fuel (text ++ '"' :: rest) = some (pieces, rest) := by
  induction spelled generalizing fuel with
  | nil =>
      obtain ⟨fuel, rfl⟩ := Nat.exists_eq_add_of_lt enough
      simp [pieces?]
  | cons first more ih =>
      obtain ⟨fuel, rfl⟩ := Nat.exists_eq_add_one_of_ne_zero (Nat.ne_zero_of_lt enough)
      rw [List.append_assoc, pieces?_of_spelled first, ih (Nat.lt_of_succ_lt_succ enough)]
      rfl

/-! ## Tokens -/

/-- The spellings of a token. -/
inductive Token.Spelled : Token → Text → Prop where
  | openBrace : Spelled .openBrace ['{']
  | closeBrace : Spelled .closeBrace ['}']
  | openBracket : Spelled .openBracket ['[']
  | closeBracket : Spelled .closeBracket [']']
  | colon : Spelled .colon [':']
  | comma : Spelled .comma [',']
  | string {pieces : List Piece} {text : Text} (spelled : PiecesSpelled pieces text) :
      Spelled (.string (decode? pieces)) ('"' :: (text ++ ['"']))
  | number {spelling : Text} (numeric : ∀ c ∈ spelling, isNumeric c)
      (whole : number? spelling = some []) : Spelled (.number spelling) spelling
  | true : Spelled .true "true".toList
  | false : Spelled .false "false".toList
  | null : Spelled .null "null".toList

/-- A text that no number runs on into. -/
def Delimited (text : Text) : Prop :=
  ∀ c ∈ text.head?, isNumeric c = Bool.false

/-- A number begins like no other token. -/
theorem token?_numeric {c : Char} (numeric : isNumeric c) (rest : Text) :
    token? (c :: rest) =
      (number? ((c :: rest).takeWhile isNumeric)).map fun left =>
        (.number ((c :: rest).take (((c :: rest).takeWhile isNumeric).length - left.length)),
          (c :: rest).drop (((c :: rest).takeWhile isNumeric).length - left.length)) := by
  unfold token?
  dsimp only
  split
  case h_11 => rfl
  all_goals exact absurd numeric (by decide)

/-- A number is read up to where it ends. -/
theorem token?_number {spelling : Text} (numeric : ∀ c ∈ spelling, isNumeric c)
    (whole : number? spelling = some []) {rest : Text} (delimited : Delimited rest) :
    token? (spelling ++ rest) = some (.number spelling, rest) := by
  have scope : (spelling ++ rest).takeWhile isNumeric = spelling := by
    rw [List.takeWhile_append_of_pos numeric]
    cases rest with
    | nil => simp
    | cons c more =>
        have ends := delimited c rfl
        simp [ends]
  cases spelling with
  | nil => cases whole
  | cons c more =>
      have first := numeric c (List.mem_cons_self ..)
      rw [List.cons_append] at scope ⊢
      rw [token?_numeric first, scope, whole]
      simp

theorem token?_quote (rest : Text) :
    token? ('"' :: rest) = (pieces? (rest.length + 1) rest).map fun (pieces, beyond) =>
      (.string (decode? pieces), beyond) := rfl

/-- A token is read up to where it ends. -/
theorem token?_of_spelled {token : Token} {text rest : Text} (spelled : token.Spelled text)
    (apart : ∀ spelling, token = .number spelling → Delimited rest) :
    token? (text ++ rest) = some (token, rest) := by
  have word (w : Text) : Text.after? (w ++ rest) w = some rest := Text.after?_eq_some.mpr rfl
  cases spelled with
  | @string pieces text spelled =>
      have enough : pieces.length < (text ++ '"' :: rest).length + 1 := by
        have atMost := spelled.length_le
        simp only [List.length_append, List.length_cons]
        omega
      have shape : '"' :: (text ++ ['"']) ++ rest = '"' :: (text ++ '"' :: rest) := by simp
      rw [shape, token?_quote, pieces?_eq_some spelled rest enough]
      rfl
  | number numeric whole => exact token?_number numeric whole (apart _ rfl)
  | true => exact congrArg (Option.map (Prod.mk Token.true)) (word "true".toList)
  | false => exact congrArg (Option.map (Prod.mk Token.false)) (word "false".toList)
  | null => exact congrArg (Option.map (Prod.mk Token.null)) (word "null".toList)
  | openBrace | closeBrace | openBracket | closeBracket | colon | comma => rfl

theorem isSpace_of_isNumeric {c : Char} (numeric : isNumeric c) : isSpace c = false := by
  rw [Bool.eq_false_iff]
  intro space
  simp only [isSpace, Bool.or_eq_true, beq_iff_eq] at space
  rcases space with ((rfl | rfl) | rfl) | rfl <;> exact absurd numeric (by decide)

/-- No token begins with a blank. -/
theorem Token.Spelled.head {token : Token} {text : Text} (spelled : token.Spelled text) :
    ∃ c rest, text = c :: rest ∧ isSpace c = Bool.false := by
  cases spelled with
  | number numeric whole =>
      cases text with
      | nil => cases whole
      | cons c rest =>
          have first : isNumeric c := numeric c (List.mem_cons_self ..)
          exact ⟨c, rest, rfl, isSpace_of_isNumeric first⟩
  | string => exact ⟨_, _, rfl, by decide⟩
  | openBrace | closeBrace | openBracket | closeBracket | colon | comma | true | false | null =>
      exact ⟨_, _, rfl, by decide⟩

/-- The spellings of tokens, with blanks between them and around them. -/
inductive Spelled : List Token → Text → Prop where
  | nil {gap : Text} (blank : ∀ c ∈ gap, isSpace c) : Spelled [] gap
  | cons {token : Token} {tokens : List Token} {gap text rest : Text}
      (blank : ∀ c ∈ gap, isSpace c) (first : token.Spelled text)
      (apart : ∀ spelling, token = .number spelling → Delimited rest)
      (more : Spelled tokens rest) : Spelled (token :: tokens) (gap ++ (text ++ rest))

theorem Spelled.length_le {tokens : List Token} {text : Text} (spelled : Spelled tokens text) :
    tokens.length ≤ text.length := by
  induction spelled with
  | nil => exact Nat.zero_le _
  | cons _ first _ _ ih =>
      obtain ⟨c, rest, rfl, -⟩ := first.head
      simp only [List.length_cons, List.length_append]
      omega

/-- Tokens are read one behind the other. -/
theorem tokensWithin_of_spelled {tokens : List Token} {text : Text} (spelled : Spelled tokens text)
    {fuel : Nat} (enough : tokens.length < fuel) : tokensWithin fuel text = some tokens := by
  induction spelled generalizing fuel with
  | nil blank =>
      obtain ⟨fuel, rfl⟩ := Nat.exists_eq_add_one_of_ne_zero (Nat.ne_zero_of_lt enough)
      rw [tokensWithin, List.dropWhile_eq_nil_iff.mpr blank]
  | @cons token tokens gap text rest blank first apart more ih =>
      obtain ⟨fuel, rfl⟩ := Nat.exists_eq_add_one_of_ne_zero (Nat.ne_zero_of_lt enough)
      obtain ⟨c, behind, rfl, notSpace⟩ := first.head
      have skipped : (gap ++ (c :: behind ++ rest)).dropWhile isSpace = c :: behind ++ rest := by
        rw [List.dropWhile_append_of_pos blank, List.cons_append, List.dropWhile_cons, notSpace]
        rfl
      rw [tokensWithin, skipped, List.cons_append]
      dsimp only
      rw [← List.cons_append, token?_of_spelled first apart]
      dsimp only
      rw [ih (Nat.lt_of_succ_lt_succ enough)]
      rfl

theorem tokens?_of_spelled {tokens : List Token} {text : Text} (spelled : Spelled tokens text) :
    tokens? text = some tokens :=
  tokensWithin_of_spelled spelled (Nat.lt_succ_of_le spelled.length_le)

/-! ## Values -/

mutual

/-- The tokens of a value. -/
def Value.tokens : Value → List Token
  | .null => [.null]
  | .bool true => [.true]
  | .bool false => [.false]
  | .number spelling => [.number spelling]
  | .string value => [.string value]
  | .array [] => [.openBracket, .closeBracket]
  | .array (first :: more) => .openBracket :: (first.tokens ++ elementTokens more)
  | .object [] => [.openBrace, .closeBrace]
  | .object ((name, first) :: more) =>
    .openBrace :: .string name :: .colon :: (first.tokens ++ memberTokens more)

/-- The tokens behind the first element of an array. -/
def elementTokens : List Value → List Token
  | [] => [.closeBracket]
  | next :: more => .comma :: (next.tokens ++ elementTokens more)

/-- The tokens behind the first member of an object. -/
def memberTokens : List (Option Text × Value) → List Token
  | [] => [.closeBrace]
  | (name, next) :: more => .comma :: .string name :: .colon :: (next.tokens ++ memberTokens more)

end

/-- No value begins with a closing bracket. -/
theorem Value.tokens_head (value : Value) :
    ∃ token rest, value.tokens = token :: rest ∧ token ≠ .closeBracket := by
  fun_cases Value.tokens value <;> exact ⟨_, _, rfl, nofun⟩

theorem value?_openBracket (fuel : Nat) {token : Token} (rest : List Token)
    (element : token ≠ .closeBracket) :
    value? (fuel + 1) (.openBracket :: token :: rest) =
      match elements? fuel (token :: rest) with
      | some (elements, beyond) => some (.array elements, beyond)
      | none => none := by
  cases token with
  | closeBracket => exact absurd rfl element
  | _ => rfl

theorem value?_openBrace (fuel : Nat) (name : Option Text) (rest : List Token) :
    value? (fuel + 1) (.openBrace :: .string name :: rest) =
      match members? fuel (.string name :: rest) with
      | some (members, beyond) => some (.object members, beyond)
      | none => none := rfl

/-- What is read with so much fuel. -/
structure ReadsWithin (fuel : Nat) : Prop where
  value : ∀ (value : Value) (rest : List Token), value.tokens.length ≤ fuel →
    value? fuel (value.tokens ++ rest) = some (value, rest)
  elements : ∀ (first : Value) (more : List Value) (rest : List Token),
    (first.tokens ++ elementTokens more).length ≤ fuel →
    elements? fuel (first.tokens ++ elementTokens more ++ rest) = some (first :: more, rest)
  members : ∀ (name : Option Text) (first : Value) (more : List (Option Text × Value))
    (rest : List Token), (first.tokens ++ memberTokens more).length ≤ fuel →
    members? fuel (.string name :: .colon :: (first.tokens ++ memberTokens more ++ rest)) =
      some ((name, first) :: more, rest)

theorem readsWithin_zero : ReadsWithin 0 := by
  have nonempty (value : Value) (more : List Token) : ¬ (value.tokens ++ more).length ≤ 0 := by
    obtain ⟨token, rest, shape, -⟩ := value.tokens_head
    simp [shape]
  constructor
  · intro value rest enough
    exact absurd (by simpa using enough) (nonempty value [])
  · intro first more rest enough
    exact absurd enough (nonempty first _)
  · intro name first more rest enough
    exact absurd enough (nonempty first _)

/-- One step more reads values with one token more. -/
theorem ReadsWithin.succ {fuel : Nat} (reads : ReadsWithin fuel) : ReadsWithin (fuel + 1) := by
  constructor
  · intro value rest enough
    match value with
    | .null | .bool true | .bool false | .number _ | .string _ | .array [] | .object [] => rfl
    | .array (first :: more) =>
        rw [Value.tokens, List.length_cons] at enough
        have inside := reads.elements first more rest (Nat.le_of_succ_le_succ enough)
        obtain ⟨token, behind, shape, element⟩ := first.tokens_head
        rw [shape, List.cons_append, List.cons_append] at inside
        rw [Value.tokens, shape, List.cons_append, List.cons_append, List.cons_append,
          value?_openBracket fuel _ element, inside]
    | .object ((name, first) :: more) =>
        rw [Value.tokens] at enough
        simp only [List.length_cons] at enough
        have inside := reads.members name first more rest (by omega)
        rw [Value.tokens, List.cons_append, List.cons_append, List.cons_append,
          value?_openBrace, inside]
  · intro first more rest enough
    rw [List.length_append] at enough
    have found := reads.value first (elementTokens more ++ rest)
    rw [List.append_assoc, elements?]
    cases more with
    | nil =>
        simp only [elementTokens, List.length_singleton] at enough
        rw [found (by omega)]
        rfl
    | cons next more =>
        simp only [elementTokens, List.length_cons] at enough
        have later := reads.elements next more rest (by omega)
        rw [found (by omega), elementTokens, List.cons_append]
        dsimp only
        rw [later]
  · intro name first more rest enough
    rw [List.length_append] at enough
    have found := reads.value first (memberTokens more ++ rest)
    rw [List.append_assoc, members?]
    cases more with
    | nil =>
        simp only [memberTokens, List.length_singleton] at enough
        rw [found (by omega)]
        rfl
    | cons next more =>
        obtain ⟨name', next⟩ := next
        simp only [memberTokens, List.length_cons] at enough
        have later := reads.members name' next more rest (by omega)
        rw [found (by omega), memberTokens, List.cons_append]
        dsimp only [List.cons_append]
        rw [later]

theorem readsWithin (fuel : Nat) : ReadsWithin fuel := by
  induction fuel with
  | zero => exact readsWithin_zero
  | succ fuel ih => exact ih.succ

/-- Every spelling of the tokens of a value is read as that value. -/
theorem parse?_of_spelled {value : Value} {text : Text} (spelled : Spelled value.tokens text) :
    parse? text = some value := by
  have read := (readsWithin (value.tokens.length + 1)).value value [] (Nat.le_succ _)
  rw [List.append_nil] at read
  rw [parse?, tokens?_of_spelled spelled]
  dsimp only
  rw [read]

end Marginalia.Json
