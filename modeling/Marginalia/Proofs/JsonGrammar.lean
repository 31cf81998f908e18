import Marginalia.Proofs.JsonPrint
import Mathlib.Data.List.Chain

/-!
# The grammar of JSON

A text of JSON is given by rules that do not mention the reader: what a number is
made of, how the characters of a string may be escaped and what they stand for,
and blanks between the tokens of a value.  Main statement: every such text is read
as its value.
-/

namespace Marginalia.Json

/-! ## Numbers -/

/-- One digit or more. -/
structure Digits where
  text : Text
  nonempty : text ≠ []
  digits : ∀ c ∈ text, c.isDigit

/-- A sign in front of an exponent. -/
inductive Sign where
  | plus
  | minus

/-- The character of a sign. -/
def Sign.char : Sign → Char
  | .plus => '+'
  | .minus => '-'

/-- The exponent of a number. -/
structure Exponent where
  capital : Bool
  sign : Option Sign
  digits : Digits

/-- An exponent as it is written. -/
def Exponent.text (exponent : Exponent) : Text :=
  (if exponent.capital then 'E' else 'e') ::
    ((exponent.sign.map Sign.char).toList ++ exponent.digits.text)

/-- A number.  Its whole part is written without needless zeros, so it is given by
the number it stands for. -/
structure Numeral where
  negative : Bool
  whole : Nat
  fraction : Option Digits
  exponent : Option Exponent

namespace Numeral

/-- The fraction of a number as it is written, if it has one. -/
def fractionText (numeral : Numeral) : Text :=
  numeral.fraction.elim [] fun digits => '.' :: digits.text

/-- The exponent of a number as it is written, if it has one. -/
def exponentText (numeral : Numeral) : Text :=
  numeral.exponent.elim [] Exponent.text

/-- A number without its sign. -/
def unsigned (numeral : Numeral) : Text :=
  decimal numeral.whole ++ (numeral.fractionText ++ numeral.exponentText)

/-- A number as it is written. -/
def text (numeral : Numeral) : Text :=
  if numeral.negative then '-' :: numeral.unsigned else numeral.unsigned

end Numeral

theorem isDigit_iff {c : Char} : isDigit c ↔ c.isDigit := by
  simp [isDigit, Char.isDigit, Char.le_def]

theorem Digits.isDigit (digits : Digits) : ∀ c ∈ digits.text, isDigit c :=
  fun c member => isDigit_iff.mpr (digits.digits c member)

theorem decimal_ne_nil (value : Nat) : decimal value ≠ [] :=
  Nat.toDigits_ne_nil

theorem whole?_append (whole : Nat) {rest : Text} (stops : ∀ c ∈ rest.head?, isDigit c = false) :
    whole? (decimal whole ++ rest) = some rest := by
  rcases Nat.eq_zero_or_pos whole with rfl | positive
  · rfl
  · rw [whole?.eq_def]
    split
    case h_1 more shape =>
      apply absurd _ (decimal_head positive)
      rw [← List.head?_append_of_ne_nil _ (decimal_ne_nil whole), shape]
      rfl
    case h_2 => exact digits?_append (fun c => isDigit_of_mem_decimal) (decimal_ne_nil whole) stops

namespace Exponent

theorem head?_text (exponent : Exponent) :
    exponent.text.head? = some 'e' ∨ exponent.text.head? = some 'E' := by
  unfold text
  cases exponent.capital with
  | false => exact Or.inl rfl
  | true => exact Or.inr rfl

/-- An exponent is read up to its end. -/
theorem exponent?_text (exponent : Exponent) : exponent? exponent.text = some [] := by
  obtain ⟨capital, sign, digits⟩ := exponent
  have read := digits?_eq_some digits.isDigit digits.nonempty
  have small : exponent? (text ⟨capital, sign, digits⟩) =
      exponent? ('e' :: ((sign.map Sign.char).toList ++ digits.text)) := by
    cases capital <;> rfl
  rw [small]
  cases sign with
  | some sign =>
      cases sign with
      | plus => exact read
      | minus => exact read
  | none =>
      rw [Option.map_none, Option.toList_none, List.nil_append]
      obtain ⟨c, rest, shape⟩ := List.exists_cons_of_ne_nil digits.nonempty
      have first : isDigit c := digits.isDigit c (by simp [shape])
      have unsigned : ¬ (c = '+' ∨ c = '-') := by
        rintro (rfl | rfl) <;> exact absurd first (by decide)
      rw [shape] at read ⊢
      simp [exponent?, unsigned, read]

end Exponent

namespace Numeral

variable (numeral : Numeral)

theorem head?_exponentText :
    ∀ c ∈ numeral.exponentText.head?, c = 'e' ∨ c = 'E' := by
  intro c first
  unfold exponentText at first
  cases exponent : numeral.exponent with
  | none =>
      rw [exponent] at first
      cases first
  | some exponent' =>
      rw [exponent, Option.elim_some] at first
      rcases exponent'.head?_text with small | capital
      · left
        rw [small] at first
        exact (Option.some.inj first).symm
      · right
        rw [capital] at first
        exact (Option.some.inj first).symm

theorem exponent_stops : ∀ c ∈ numeral.exponentText.head?, isDigit c = false := by
  intro c first
  rcases numeral.head?_exponentText c first with rfl | rfl <;> rfl

theorem fraction?_append :
    fraction? (numeral.fractionText ++ numeral.exponentText) = some numeral.exponentText := by
  unfold fractionText
  cases numeral.fraction with
  | some digits => exact digits?_append digits.isDigit digits.nonempty numeral.exponent_stops
  | none =>
      rw [Option.elim_none, List.nil_append, fraction?.eq_def]
      split
      case h_1 rest shape =>
        rcases numeral.head?_exponentText '.' (by rw [shape]; rfl) with absurd | absurd
        · cases absurd
        · cases absurd
      case h_2 => rfl

theorem fraction_stops :
    ∀ c ∈ (numeral.fractionText ++ numeral.exponentText).head?, isDigit c = false := by
  unfold fractionText
  cases numeral.fraction with
  | some digits =>
      intro c first
      cases first
      rfl
  | none => exact numeral.exponent_stops

theorem exponent?_exponentText : exponent? numeral.exponentText = some [] := by
  unfold exponentText
  cases numeral.exponent with
  | some exponent => exact exponent.exponent?_text
  | none => rfl

/-- A number is read up to its end. -/
theorem number?_text : number? numeral.text = some [] := by
  have unsigned : ((whole? numeral.unsigned).bind fun rest => (fraction? rest).bind exponent?) =
      some [] := by
    rw [Numeral.unsigned, whole?_append _ numeral.fraction_stops, Option.bind_some,
      fraction?_append, Option.bind_some, exponent?_exponentText]
  unfold text
  cases numeral.negative with
  | true => exact unsigned
  | false =>
      obtain ⟨c, rest, shape⟩ := List.exists_cons_of_ne_nil (decimal_ne_nil numeral.whole)
      have first : isDigit c := isDigit_of_mem_decimal (by rw [shape]; exact List.mem_cons_self)
      have noSign : ∀ more, numeral.unsigned ≠ '-' :: more := by
        intro more same
        rw [Numeral.unsigned, shape] at same
        cases same
        exact absurd first (by decide)
      rw [if_neg Bool.false_ne_true, number?]
      · exact unsigned
      · exact fun more same => noSign more same

theorem isNumeric_text : ∀ c ∈ numeral.text, isNumeric c := by
  have digits (run : Digits) : ∀ c ∈ run.text, isNumeric c := by
    intro c member
    simp [isNumeric, run.isDigit c member]
  have whole : ∀ c ∈ decimal numeral.whole, isNumeric c := by
    intro c member
    simp [isNumeric, isDigit_of_mem_decimal member]
  have fraction : ∀ c ∈ numeral.fractionText, isNumeric c := by
    unfold fractionText
    cases numeral.fraction with
    | none => exact List.forall_mem_nil _
    | some run => exact List.forall_mem_cons.mpr ⟨rfl, digits run⟩
  have exponent : ∀ c ∈ numeral.exponentText, isNumeric c := by
    unfold exponentText
    cases numeral.exponent with
    | none => exact List.forall_mem_nil _
    | some exponent =>
        obtain ⟨capital, sign, run⟩ := exponent
        have mark : isNumeric (if capital then 'E' else 'e') := by cases capital <;> rfl
        have signed : ∀ c ∈ (sign.map Sign.char).toList, isNumeric c := by
          cases sign with
          | none => exact List.forall_mem_nil _
          | some sign => cases sign <;> exact List.forall_mem_singleton.mpr rfl
        exact List.forall_mem_cons.mpr ⟨mark, List.forall_mem_append.mpr ⟨signed, digits run⟩⟩
  have unsigned : ∀ c ∈ numeral.unsigned, isNumeric c :=
    List.forall_mem_append.mpr ⟨whole, List.forall_mem_append.mpr ⟨fraction, exponent⟩⟩
  unfold text
  cases numeral.negative with
  | false => exact unsigned
  | true => exact List.forall_mem_cons.mpr ⟨rfl, unsigned⟩

/-- Whether a number is written in digits alone. -/
def isPlain (numeral : Numeral) : Bool :=
  !numeral.negative && numeral.fraction.isNone && numeral.exponent.isNone

theorem text_of_isPlain {numeral : Numeral} (plain : numeral.isPlain) :
    numeral.text = decimal numeral.whole := by
  obtain ⟨negative, whole, fraction, exponent⟩ := numeral
  simp only [isPlain, Bool.and_eq_true, Bool.not_eq_true', Option.isNone_iff_eq_none] at plain
  obtain ⟨⟨rfl, rfl⟩, rfl⟩ := plain
  exact List.append_nil _

/-- What is not written in digits alone has a character that is no digit. -/
theorem exists_of_not_isPlain {numeral : Numeral} (other : numeral.isPlain = false) :
    ∃ c ∈ numeral.text, isDigit c = false := by
  obtain ⟨negative, whole, fraction, exponent⟩ := numeral
  have inText {c : Char} (inside : c ∈ unsigned ⟨negative, whole, fraction, exponent⟩) :
      c ∈ text ⟨negative, whole, fraction, exponent⟩ := by
    unfold text
    split
    · exact List.mem_cons_of_mem _ inside
    · exact inside
  cases negative with
  | true => exact ⟨'-', List.mem_cons_self, rfl⟩
  | false =>
      cases fraction with
      | some digits =>
          refine ⟨'.', inText ?_, rfl⟩
          exact List.mem_append_right _ (List.mem_append_left _ List.mem_cons_self)
      | none =>
          cases exponent with
          | none => cases other
          | some exponent =>
              refine ⟨if exponent.capital then 'E' else 'e', inText ?_, ?_⟩
              · exact List.mem_append_right _ (List.mem_append_right _ List.mem_cons_self)
              · cases exponent.capital <;> rfl

end Numeral

/-! ## Strings -/

/-- Each letter behind a backslash, with the character it stands for. -/
def escapes : List (Char × Char) :=
  [('"', '"'), ('\\', '\\'), ('/', '/'), ('b', '\x08'), ('f', '\x0c'), ('n', '\n'), ('r', '\r'),
    ('t', '\t')]

/-- A digit of base sixteen with its value, in small or capital letters. -/
def HexDigit (c : Char) (value : Nat) : Prop :=
  "0123456789abcdef".toList[value]? = some c ∨ "0123456789ABCDEF".toList[value]? = some c

/-- The ways to write a piece of a string. -/
inductive Piece.Written : Piece → Text → Prop where
  /-- A character that is no control character, quote or backslash. -/
  | char {c : Char} (printable : 0x20 ≤ c.toNat) (quote : c ≠ '"') (backslash : c ≠ '\\') :
      Written (.char c) [c]
  | escape {letter c : Char} (listed : (letter, c) ∈ escapes) : Written (.char c) ['\\', letter]
  | unit {a b c d : Char} {first second third fourth : Nat} (ha : HexDigit a first)
      (hb : HexDigit b second) (hc : HexDigit c third) (hd : HexDigit d fourth) :
      Written (.unit (((first * 16 + second) * 16 + third) * 16 + fourth)) ['\\', 'u', a, b, c, d]

/-- The ways to write the pieces of a string, one behind the other. -/
inductive PiecesWritten : List Piece → Text → Prop where
  | nil : PiecesWritten [] []
  | cons {piece : Piece} {pieces : List Piece} {text rest : Text} (first : piece.Written text)
      (more : PiecesWritten pieces rest) : PiecesWritten (piece :: pieces) (text ++ rest)

/-- The text that the pieces of a string stand for.  A unit stands for a character
alone or as one of a pair of surrogates. -/
inductive Denotes : List Piece → Text → Prop where
  | nil : Denotes [] []
  | char {pieces : List Piece} {text : Text} (c : Char) (more : Denotes pieces text) :
      Denotes (.char c :: pieces) (c :: text)
  | unit {pieces : List Piece} {text : Text} {c : Char} (small : c.toNat < 0x10000)
      (more : Denotes pieces text) : Denotes (.unit c.toNat :: pieces) (c :: text)
  | pair {pieces : List Piece} {text : Text} {c : Char} {high low : Nat}
      (isHigh : 0xD800 ≤ high ∧ high < 0xDC00) (isLow : 0xDC00 ≤ low ∧ low < 0xE000)
      (joined : c.toNat = 0x10000 + (high - 0xD800) * 0x400 + (low - 0xDC00))
      (more : Denotes pieces text) : Denotes (.unit high :: .unit low :: pieces) (c :: text)

theorem HexDigit.hexValue? {c : Char} {value : Nat} (digit : HexDigit c value) :
    Json.hexValue? c = some value := by
  have small : ∀ value < 16,
      "0123456789abcdef".toList[value]?.bind Json.hexValue? = some value := by
    decide
  have capital : ∀ value < 16,
      "0123456789ABCDEF".toList[value]?.bind Json.hexValue? = some value := by
    decide
  rcases digit with found | found
  · obtain ⟨inside, -⟩ := List.getElem?_eq_some_iff.mp found
    have read := small value inside
    rwa [found] at read
  · obtain ⟨inside, -⟩ := List.getElem?_eq_some_iff.mp found
    have read := capital value inside
    rwa [found] at read

theorem escaped?_of_mem_escapes {letter c : Char} (listed : (letter, c) ∈ escapes) :
    escaped? letter = some c := by
  simp only [escapes, List.mem_cons, Prod.mk.injEq, List.not_mem_nil, or_false] at listed
  rcases listed with ⟨rfl, rfl⟩ | ⟨rfl, rfl⟩ | ⟨rfl, rfl⟩ | ⟨rfl, rfl⟩ | ⟨rfl, rfl⟩ | ⟨rfl, rfl⟩ |
    ⟨rfl, rfl⟩ | ⟨rfl, rfl⟩ <;> rfl

theorem PiecesWritten.spelled {pieces : List Piece} {text : Text}
    (written : PiecesWritten pieces text) : PiecesSpelled pieces text := by
  induction written with
  | nil => exact .nil
  | cons first _ ih =>
      apply PiecesSpelled.cons _ ih
      cases first with
      | char printable quote backslash => exact .char (Nat.not_lt.mpr printable) quote backslash
      | escape listed => exact .escape (escaped?_of_mem_escapes listed)
      | unit ha hb hc hd => exact .unit ha.hexValue? hb.hexValue? hc.hexValue? hd.hexValue?

theorem decode?_pair {high low : Nat} (isHigh : 0xD800 ≤ high ∧ high < 0xDC00)
    (isLow : 0xDC00 ≤ low ∧ low < 0xE000) (pieces : List Piece) :
    decode? (.unit high :: .unit low :: pieces) =
      (decode? pieces).map
        (Char.ofNat (0x10000 + (high - 0xD800) * 0x400 + (low - 0xDC00)) :: ·) := by
  have notLow : ¬ (0xDC00 ≤ high ∧ high ≤ 0xDFFF) := by omega
  have highRange : 0xD800 ≤ high ∧ high ≤ 0xDBFF := by omega
  have lowRange : 0xDC00 ≤ low ∧ low ≤ 0xDFFF := by omega
  rw [decode?]
  simp only [Bool.and_eq_true, decide_eq_true_eq, if_neg notLow, if_pos highRange, if_pos lowRange]

theorem Denotes.decode? {pieces : List Piece} {text : Text} (denotes : Denotes pieces text) :
    Json.decode? pieces = some text := by
  induction denotes with
  | nil => rfl
  | char c _ ih => rw [Json.decode?, ih, Option.map_some]
  | unit small _ ih =>
      have stands := stand_unit small
      rw [← List.singleton_append, stands, ih, Option.map_some]
  | pair isHigh isLow joined _ ih =>
      rw [decode?_pair isHigh isLow, ih, ← joined, Char.ofNat_toNat, Option.map_some]

theorem PiecesWritten.unit_lt {pieces : List Piece} {text : Text}
    (written : PiecesWritten pieces text) {value : Nat} (member : .unit value ∈ pieces) :
    value < 0x10000 := by
  have bounded {c : Char} {value : Nat} (digit : HexDigit c value) : value < 16 := by
    rcases digit with found | found
    · exact (List.getElem?_eq_some_iff.mp found).1
    · exact (List.getElem?_eq_some_iff.mp found).1
  induction written with
  | nil => cases member
  | cons first _ ih =>
      rcases List.mem_cons.mp member with rfl | later
      · cases first with
        | unit ha hb hc hd =>
            have := bounded ha
            have := bounded hb
            have := bounded hc
            have := bounded hd
            omega
      · exact ih later

/-- What a string is read as is what its pieces stand for. -/
theorem denotes_of_decode? {pieces : List Piece} {text : Text}
    (small : ∀ value, .unit value ∈ pieces → value < 0x10000)
    (decoded : decode? pieces = some text) : Denotes pieces text := by
  fun_induction decode? pieces generalizing text with
  | case1 =>
      cases decoded
      exact .nil
  | case2 c rest ih =>
      obtain ⟨more, found, rfl⟩ := Option.map_eq_some_iff.mp decoded
      exact .char c (ih (fun value member => small value (List.mem_cons_of_mem _ member)) found)
  | case3 => cases decoded
  | case4 high notLow isHigh low more isLow ih =>
      simp only [Bool.and_eq_true, decide_eq_true_eq] at isHigh isLow
      obtain ⟨text, found, rfl⟩ := Option.map_eq_some_iff.mp decoded
      have later := ih (fun value member =>
        small value (List.mem_cons_of_mem _ (List.mem_cons_of_mem _ member))) found
      exact .pair (by omega) (by omega) (Bytes.toNat_char_ofNat (by omega)) later
  | case5 => cases decoded
  | case6 => cases decoded
  | case7 high rest notLow notHigh ih =>
      simp only [Bool.and_eq_true, decide_eq_true_eq] at notLow notHigh
      obtain ⟨text, found, rfl⟩ := Option.map_eq_some_iff.mp decoded
      have later := ih (fun value member => small value (List.mem_cons_of_mem _ member)) found
      have bounded : high < 0x10000 := small high List.mem_cons_self
      have same : (Char.ofNat high).toNat = high := Bytes.toNat_char_ofNat (by omega)
      have denotes := Denotes.unit (by omega : (Char.ofNat high).toNat < 0x10000) later
      rwa [same] at denotes

/-! ## Tokens -/

/-- The ways to write a token. -/
inductive Token.Written : Token → Text → Prop where
  | openBrace : Written .openBrace ['{']
  | closeBrace : Written .closeBrace ['}']
  | openBracket : Written .openBracket ['[']
  | closeBracket : Written .closeBracket [']']
  | colon : Written .colon [':']
  | comma : Written .comma [',']
  | string {pieces : List Piece} {body text : Text} (written : PiecesWritten pieces body)
      (denotes : Denotes pieces text) : Written (.string (some text)) ('"' :: (body ++ ['"']))
  /-- A string with half of a surrogate pair stands for no text. -/
  | halfPair {pieces : List Piece} {body : Text} (written : PiecesWritten pieces body)
      (nothing : ∀ text, ¬ Denotes pieces text) : Written (.string none) ('"' :: (body ++ ['"']))
  | number (numeral : Numeral) : Written (.number numeral.text) numeral.text
  | true : Written .true "true".toList
  | false : Written .false "false".toList
  | null : Written .null "null".toList

theorem Token.Written.spelled {token : Token} {text : Text} (written : token.Written text) :
    token.Spelled text := by
  cases written with
  | openBrace => exact .openBrace
  | closeBrace => exact .closeBrace
  | openBracket => exact .openBracket
  | closeBracket => exact .closeBracket
  | colon => exact .colon
  | comma => exact .comma
  | string written denotes =>
      have spelled := Token.Spelled.string written.spelled
      rwa [denotes.decode?] at spelled
  | halfPair written nothing =>
      have spelled := Token.Spelled.string written.spelled
      cases decoded : decode? _ with
      | none => rwa [decoded] at spelled
      | some text =>
          exact (nothing text (denotes_of_decode? (fun _ => written.unit_lt) decoded)).elim
  | number numeral => exact .number numeral.isNumeric_text numeral.number?_text
  | true => exact .true
  | false => exact .false
  | null => exact .null

/-- A text without control characters, quotes and backslashes may stand for itself. -/
theorem written_plain {text : Text}
    (plain : text.all fun c => 0x20 ≤ c.toNat && c != '"' && c != '\\') :
    (Token.string (some text)).Written ('"' :: (text ++ ['"'])) := by
  have pieces : PiecesWritten (text.map .char) text ∧ Denotes (text.map .char) text := by
    induction text with
    | nil => exact ⟨.nil, .nil⟩
    | cons c rest ih =>
        simp only [List.all_cons, Bool.and_eq_true, decide_eq_true_eq, bne_iff_ne] at plain
        obtain ⟨⟨⟨printable, quote⟩, backslash⟩, plain⟩ := plain
        obtain ⟨written, denotes⟩ := ih (by simpa using plain)
        exact ⟨.cons (.char printable quote backslash) written, .char c denotes⟩
  exact .string pieces.1 pieces.2

/-- The blanks that may stand between tokens. -/
def spaces : List Char :=
  [' ', '\t', '\n', '\r']

/-- Tokens with any blanks between them and around them. -/
inductive Arranged : List Token → Text → Prop where
  | nil {gap : Text} (blank : gap ⊆ spaces) : Arranged [] gap
  | cons {token : Token} {tokens : List Token} {gap text rest : Text} (blank : gap ⊆ spaces)
      (first : token.Written text) (more : Arranged tokens rest) :
      Arranged (token :: tokens) (gap ++ (text ++ rest))

theorem Arranged.next {token : Token} {tokens : List Token} {text rest : Text}
    (first : token.Written text) (more : Arranged tokens rest) :
    Arranged (token :: tokens) (text ++ rest) :=
  .cons (List.nil_subset _) first more

theorem isSpace_of_mem_spaces {c : Char} (member : c ∈ spaces) : isSpace c := by
  simp only [spaces, List.mem_cons, List.not_mem_nil, or_false] at member
  rcases member with rfl | rfl | rfl | rfl <;> rfl

/-! ## What follows a number -/

/-- The tokens that may follow a value. -/
def Token.Closes (token : Token) : Prop :=
  token = .comma ∨ token = .closeBracket ∨ token = .closeBrace

/-- Behind a number a value has come to its end. -/
def Follows (token next : Token) : Prop :=
  ∀ spelling, token = .number spelling → next.Closes

/-- Tokens in which each number is followed by the end of a value. -/
abbrev Separated (tokens : List Token) : Prop :=
  tokens.IsChain Follows

theorem separated_cons {token : Token} {rest : List Token}
    (noNumber : ∀ spelling, token ≠ .number spelling) (separated : Separated rest) :
    Separated (token :: rest) := by
  apply List.isChain_cons.mpr
  exact ⟨fun next _ spelling same => (noNumber spelling same).elim, separated⟩

/-- What may stand behind a value. -/
structure Beyond (rest : List Token) : Prop where
  closes : ∀ token ∈ rest.head?, token.Closes
  separated : Separated rest

theorem Beyond.cons {token : Token} {rest : List Token} (closes : token.Closes)
    (separated : Separated rest) : Beyond (token :: rest) := by
  constructor
  · intro first head
    cases head
    exact closes
  · apply separated_cons _ separated
    rintro spelling rfl
    rcases closes with other | other | other <;> cases other

mutual

theorem Value.separated : ∀ (value : Value) {rest : List Token}, Beyond rest →
    Separated (value.tokens ++ rest)
  | .null, _, beyond => separated_cons (by simp) beyond.separated
  | .bool true, _, beyond => separated_cons (by simp) beyond.separated
  | .bool false, _, beyond => separated_cons (by simp) beyond.separated
  | .number _, _, beyond =>
      List.isChain_cons.mpr ⟨fun next head _ _ => beyond.closes next head, beyond.separated⟩
  | .string _, _, beyond => separated_cons (by simp) beyond.separated
  | .array [], _, beyond =>
      separated_cons (by simp) (separated_cons (by simp) beyond.separated)
  | .array (first :: more), _, beyond => by
      rw [Value.tokens, List.cons_append, List.append_assoc]
      exact separated_cons (by simp) (first.separated (beyond_elements more beyond.separated))
  | .object [], _, beyond =>
      separated_cons (by simp) (separated_cons (by simp) beyond.separated)
  | .object ((name, first) :: more), _, beyond => by
      rw [Value.tokens, List.cons_append, List.cons_append, List.cons_append, List.append_assoc]
      have inside := first.separated (beyond_members more beyond.separated)
      exact separated_cons (by simp) (separated_cons (by simp) (separated_cons (by simp) inside))

theorem beyond_elements : ∀ (more : List Value) {rest : List Token}, Separated rest →
    Beyond (elementTokens more ++ rest)
  | [], _, separated => by
      rw [elementTokens]
      exact .cons (Or.inr (Or.inl rfl)) separated
  | next :: more, _, separated => by
      rw [elementTokens, List.cons_append, List.append_assoc]
      exact .cons (Or.inl rfl) (next.separated (beyond_elements more separated))

theorem beyond_members : ∀ (more : List (Option Text × Value)) {rest : List Token},
    Separated rest → Beyond (memberTokens more ++ rest)
  | [], _, separated => by
      rw [memberTokens]
      exact .cons (Or.inr (Or.inr rfl)) separated
  | (name, next) :: more, _, separated => by
      rw [memberTokens, List.cons_append, List.cons_append, List.cons_append, List.append_assoc]
      have inside := next.separated (beyond_members more separated)
      exact .cons (Or.inl rfl) (separated_cons (by simp) (separated_cons (by simp) inside))

end

/-! ## Texts -/

theorem isNumeric_of_mem_spaces {c : Char} (member : c ∈ spaces) : isNumeric c = false := by
  simp only [spaces, List.mem_cons, List.not_mem_nil, or_false] at member
  rcases member with rfl | rfl | rfl | rfl <;> rfl

theorem delimited_gap {gap rest : Text} (blank : gap ⊆ spaces) (delimited : Delimited rest) :
    Delimited (gap ++ rest) := by
  cases gap with
  | nil => exact delimited
  | cons c gap => exact delimited_cons (isNumeric_of_mem_spaces (blank List.mem_cons_self)) _

/-- No number runs on into the end of a value. -/
theorem Arranged.delimited {tokens : List Token} {text : Text} (arranged : Arranged tokens text)
    (closes : ∀ token ∈ tokens.head?, token.Closes) : Delimited text := by
  cases arranged with
  | nil blank =>
      rw [← List.append_nil text]
      exact delimited_gap blank (by simp [Delimited])
  | cons blank first more =>
      apply delimited_gap blank
      rcases closes _ rfl with rfl | rfl | rfl
      · cases first
        exact delimited_cons rfl _
      · cases first
        exact delimited_cons rfl _
      · cases first
        exact delimited_cons rfl _

theorem Arranged.spelled {tokens : List Token} {text : Text} (arranged : Arranged tokens text)
    (separated : Separated tokens) : Spelled tokens text := by
  induction arranged with
  | nil blank => exact .nil fun c member => isSpace_of_mem_spaces (blank member)
  | cons blank first more ih =>
      obtain ⟨follows, separated⟩ := List.isChain_cons.mp separated
      refine .cons (fun c member => isSpace_of_mem_spaces (blank member)) first.spelled ?_
        (ih separated)
      intro spelling isNumber
      exact more.delimited fun next head => follows next head spelling isNumber

/-- Every text of a value is read as that value. -/
theorem parse?_of_arranged {value : Value} {text : Text} (arranged : Arranged value.tokens text) :
    parse? text = some value := by
  apply parse?_of_spelled
  apply arranged.spelled
  have ended : Beyond [] := ⟨by simp, List.isChain_nil⟩
  simpa using value.separated ended

/-! ## Blanks around an object -/

theorem isBlank_of_mem_spaces {c : Char} (member : c ∈ spaces) : Text.isBlank c := by
  simp only [spaces, List.mem_cons, List.not_mem_nil, or_false] at member
  rcases member with rfl | rfl | rfl | rfl <;> rfl

/-- Behind the last brace there are only blanks. -/
theorem Arranged.closed {tokens : List Token} {text : Text}
    (arranged : Arranged (tokens ++ [.closeBrace]) text) :
    ∃ front gap, gap ⊆ spaces ∧ text = front ++ '}' :: gap ∧
      Arranged (tokens ++ [.closeBrace]) (front ++ ['}']) := by
  induction tokens generalizing text with
  | nil =>
      cases arranged with
      | @cons _ _ gap _ _ blank first more =>
          cases first
          cases more with
          | nil blankBehind =>
              refine ⟨gap, _, blankBehind, rfl, ?_⟩
              exact .cons blank .closeBrace (.nil (List.nil_subset _))
  | cons token tokens ih =>
      cases arranged with
      | @cons _ _ gap written rest blank first more =>
          obtain ⟨front, behind, blankBehind, rfl, closed⟩ := ih more
          refine ⟨gap ++ (written ++ front), behind, blankBehind, by simp, ?_⟩
          have whole := Arranged.cons blank first closed
          simpa using whole

theorem exists_object_tokens (members : List (Option Text × Value)) :
    ∃ inner, (Value.object members).tokens = .openBrace :: (inner ++ [.closeBrace]) := by
  cases members with
  | nil => exact ⟨[], by rw [Value.tokens]; rfl⟩
  | cons first more =>
      obtain ⟨name, value⟩ := first
      refine ⟨.string name :: .colon ::
        (value.tokens ++ (more.map memberPhrase).flatMap (.comma :: ·)), ?_⟩
      rw [Value.tokens, memberTokens_eq]
      simp

/-- Without the blanks around it, the text of an object is still a text of it. -/
theorem Arranged.trim {members : List (Option Text × Value)} {text : Text}
    (arranged : Arranged (Value.object members).tokens text) :
    Arranged (Value.object members).tokens (Text.trim text) := by
  obtain ⟨inner, tokens⟩ := exists_object_tokens members
  rw [tokens] at arranged ⊢
  cases arranged with
  | @cons _ _ gap _ _ blank first more =>
      cases first
      obtain ⟨front, behind, blankBehind, rfl, closed⟩ := more.closed
      have trimmed : Text.trim (gap ++ '{' :: (front ++ ['}']) ++ behind) =
          '{' :: (front ++ ['}']) :=
        Text.trim_between (fun c member => isBlank_of_mem_spaces (blank member)) rfl front rfl
          fun c member => isBlank_of_mem_spaces (blankBehind member)
      have shape : gap ++ (['{'] ++ (front ++ '}' :: behind)) =
          gap ++ '{' :: (front ++ ['}']) ++ behind := by simp
      rw [shape, trimmed]
      exact .next .openBrace closed

end Marginalia.Json
