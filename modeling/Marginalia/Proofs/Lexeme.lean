import Marginalia.Proofs.Gap

/-!
# What a lexeme takes

Reading a lexeme moves the cursor in one of four ways.  Main statements: a read
token stands, with the gap in front of it, at the beginning of what remained;
the gap of a cursor stays a gap in front of its rest; and the text of a token has the form that its
lexeme asks for.
-/

namespace Marginalia.Script

/-! ## Names -/

/-- A code point in hexadecimal: four digits, or digits in braces. -/
inductive CodePoint : Text → Prop where
  | plain {digits : Text} : digits.length = 4 → (∀ c ∈ digits, isHexDigit c) → CodePoint digits
  | braced {digits : Text} : digits ≠ [] → (∀ c ∈ digits, isHexDigit c) →
      CodePoint ('{' :: (digits ++ ['}']))

/-- Characters and escapes that a name may be continued with. -/
inductive NameTail : Text → Prop where
  | nil : NameTail []
  | part {c : Char} {rest : Text} : isNamePart c → NameTail rest → NameTail (c :: rest)
  | escape {code rest : Text} : CodePoint code → NameTail rest →
      NameTail ('\\' :: 'u' :: (code ++ rest))

/-- An identifier: it is not empty and begins with an escape or with a character
that may begin a name. -/
structure IsName (text : Text) : Prop where
  nonempty : text ≠ []
  tail : NameTail text
  head : ∀ c ∈ text.head?, isNameStart c ∨ c = '\\'

private theorem drop_takeWhile (isDigit : Char → Bool) (text : Text) :
    text.drop (text.takeWhile isDigit).length = text.dropWhile isDigit := by
  calc text.drop (text.takeWhile isDigit).length
      = (text.takeWhile isDigit ++ text.dropWhile isDigit).drop
          (text.takeWhile isDigit).length := by
        rw [List.takeWhile_append_dropWhile]
    _ = text.dropWhile isDigit := List.drop_left

private theorem codePoint?_eq_some {text : Text} {length : Nat}
    (found : codePoint? text = some length) :
    ∃ code rest, text = code ++ rest ∧ CodePoint code ∧ length = code.length := by
  unfold codePoint? at found
  split at found
  case h_1 rest =>
    simp only [bne_iff_ne, ne_eq, Bool.and_eq_true, beq_iff_eq, drop_takeWhile] at found
    split at found
    case isTrue closed =>
      cases found
      obtain ⟨someDigits, brace⟩ := closed
      obtain ⟨beyond, split⟩ := List.head?_eq_some_iff.mp brace
      refine ⟨'{' :: (rest.takeWhile isHexDigit ++ ['}']), beyond, ?_, .braced ?_ ?_, by simp⟩
      · rw [List.cons_append, List.append_assoc, List.singleton_append, ← split,
          List.takeWhile_append_dropWhile]
      · intro none
        exact someDigits (by rw [none]; rfl)
      · intro c member
        exact List.mem_takeWhile_imp member
    case isFalse => cases found
  case h_2 =>
    simp only [hexDigits?, Bool.and_eq_true, beq_iff_eq, List.all_eq_true] at found
    split at found
    case isTrue fits =>
      cases found
      exact ⟨text.take 4, text.drop 4, (List.take_append_drop ..).symm, .plain fits.1 fits.2,
        fits.1.symm⟩
    case isFalse => cases found

private theorem nameLength_skip (skipped : Text) (passed : Nat) (rest : Text) :
    nameLength.go skipped.length passed (skipped ++ rest) =
      nameLength.go 0 (passed + skipped.length) rest := by
  induction skipped generalizing passed with
  | nil => rfl
  | cons c skipped ih =>
      simp only [List.length_cons, List.cons_append, nameLength.go, bne_iff_ne, ne_eq,
        Nat.add_eq_zero_iff, Nat.one_ne_zero, and_false, not_false_eq_true, if_true,
        Nat.add_sub_cancel, ih]
      congr 1
      omega

private theorem nameLength_escape {code rest : Text} {passed : Nat}
    (found : codePoint? (code ++ rest) = some code.length) :
    nameLength.go 0 passed ('\\' :: 'u' :: (code ++ rest)) =
      nameLength.go 0 (passed + 2 + code.length) rest := by
  calc nameLength.go 0 passed ('\\' :: 'u' :: (code ++ rest))
      = nameLength.go (code.length + 1) (passed + 1) ('u' :: (code ++ rest)) := by
        rw [nameLength.go]
        simp only [bne_self_eq_false, Bool.false_eq_true, if_false, beq_self_eq_true, if_true,
          found]
    _ = nameLength.go 0 (passed + 1 + (code.length + 1)) rest :=
        nameLength_skip ('u' :: code) (passed + 1) rest
    _ = nameLength.go 0 (passed + 2 + code.length) rest := by
        congr 1
        omega

private theorem nameLength_go (text : Text) (passed : Nat) :
    ∃ name rest, text = name ++ rest ∧ NameTail name ∧
      nameLength.go 0 passed text = passed + name.length ∧
      (passed = 0 → ∀ c ∈ name.head?, isNameStart c ∨ c = '\\') := by
  cases text with
  | nil => exact ⟨[], [], rfl, .nil, rfl, by simp⟩
  | cons c text =>
      by_cases escape : c = '\\'
      · subst escape
        by_cases marked : ∃ more length, text = 'u' :: more ∧ codePoint? more = some length
        · obtain ⟨more, length, rfl, found⟩ := marked
          obtain ⟨code, beyond, rfl, isCode, rfl⟩ := codePoint?_eq_some found
          obtain ⟨name, rest, rfl, tail, length, -⟩ :=
            nameLength_go beyond (passed + 2 + code.length)
          refine ⟨'\\' :: 'u' :: (code ++ name), rest, by simp, .escape isCode tail, ?_, ?_⟩
          · rw [nameLength_escape found, length]
            simp only [List.length_cons, List.length_append]
            omega
          · intro _ c first
            cases first
            exact .inr rfl
        · refine ⟨[], _, rfl, .nil, ?_, by simp⟩
          simp only [nameLength.go, bne_self_eq_false, Bool.false_eq_true, if_false,
            beq_self_eq_true, if_true]
          split
          case h_1 more =>
            split
            case h_1 found => exact absurd ⟨more, _, rfl, found⟩ marked
            case h_2 => rfl
          case h_2 => rfl
      · by_cases goesOn : isNamePart c && (passed != 0 || isNameStart c)
        · obtain ⟨name, rest, rfl, tail, length, -⟩ := nameLength_go text (passed + 1)
          have parts := goesOn
          simp only [Bool.and_eq_true, Bool.or_eq_true, bne_iff_ne, ne_eq] at parts
          refine ⟨c :: name, rest, rfl, .part parts.1 tail, ?_, ?_⟩
          · simp only [nameLength.go, bne_self_eq_false, Bool.false_eq_true, if_false, beq_iff_eq,
              escape, goesOn, if_true, length, List.length_cons]
            omega
          · intro first d isHead
            cases isHead
            exact .inl (parts.2.resolve_left fun notFirst => notFirst first)
        · refine ⟨[], _, rfl, .nil, ?_, by simp⟩
          simp [nameLength.go, escape, goesOn]
termination_by text.length

/-- What a scan for a name passes over is a name. -/
theorem isName_take {text : Text} (nonempty : nameLength text ≠ 0) :
    IsName (text.take (nameLength text)) := by
  obtain ⟨name, rest, rfl, tail, length, head⟩ := nameLength_go text 0
  have scanned : nameLength (name ++ rest) = name.length := by
    rw [nameLength, length, Nat.zero_add]
  rw [scanned] at nonempty ⊢
  rw [List.take_left]
  exact ⟨List.ne_nil_of_length_pos (Nat.pos_of_ne_zero nonempty), tail, head rfl⟩

/-! ## Moves of the cursor -/

/-- What reading a lexeme may come to: only looking, taking characters behind
the gap or from its beginning on, or taking the gap up to where a statement ends
in it. -/
inductive Step (cursor : Cursor) : Option Token × Cursor → Prop where
  | look : Step cursor (none, cursor)
  | behind (length : Nat) :
      Step cursor (some { gap := cursor.gap, text := cursor.rest.take length },
        Cursor.at (cursor.rest.drop length))
  | within (length : Nat) :
      Step cursor (some { gap := [], text := cursor.remaining.take length },
        Cursor.at (cursor.remaining.drop length))
  | remark {operand : Bool} {length : Nat} :
      ending? operand false cursor = some (length + 1) →
      Step cursor (some { gap := [], text := cursor.gap.take (length + 1) },
        { cursor with gap := cursor.gap.drop (length + 1) })

private theorem step_advance {cursor : Cursor} {length : Nat} {outcome : Option Token × Cursor}
    (found : cursor.advance length = some outcome) : Step cursor outcome := by
  cases found
  exact .behind length

private theorem step_advanceInGap {cursor : Cursor} {length : Nat}
    {outcome : Option Token × Cursor} (found : cursor.advanceInGap length = some outcome) :
    Step cursor outcome := by
  cases found
  exact .within length

private theorem step_bind {cursor : Cursor} {length? : Option Nat} {outcome : Option Token × Cursor}
    {take : Nat → Option (Option Token × Cursor)}
    (steps : ∀ length, take length = some outcome → Step cursor outcome)
    (found : length?.bind take = some outcome) : Step cursor outcome := by
  obtain ⟨length, -, taken⟩ := Option.bind_eq_some_iff.mp found
  exact steps length taken

theorem step_of_read {lexeme : Lexeme} {cursor : Cursor} {outcome : Option Token × Cursor}
    (found : lexeme.read cursor = some outcome) : Step cursor outcome := by
  cases lexeme <;> simp only [Lexeme.read] at found
  -- Every branch of these fails or takes characters behind the gap.
  case word | name | operator | mark | privateName | interpreterLine | markupComment | tagString |
      tagName =>
    repeat' split at found
    all_goals first
      | exact step_advance found
      | cases found
  case adjoined | templateText =>
    repeat' split at found
    all_goals first
      | exact step_advanceInGap found
      | cases found
  case number => exact step_bind (fun _ => step_advance) found
  case tagText | tagReference => exact step_bind (fun _ => step_advanceInGap) found
  case string =>
    split at found
    · cases found
    · split at found
      · exact step_bind (fun _ => step_advance) found
      · cases found
  case pattern =>
    split at found
    · refine step_bind (fun length taken => ?_) found
      split at taken
      · cases taken
      · exact step_advance taken
    · cases found
  case templateEscape =>
    split at found
    · exact step_bind (fun _ => step_advanceInGap) found
    · cases found
  case ending | finish =>
    split at found
    · cases found
      exact .look
    · cases found
  case remark =>
    split at found
    case h_1 length ended =>
      cases found
      exact .remark ended
    case h_2 =>
      cases found
      exact .look

theorem cursor_of_look {lexeme : Lexeme} {cursor rest : Cursor}
    (found : lexeme.read cursor = some (none, rest)) : rest = cursor := by
  cases step_of_read found
  rfl

/-- A token stands with its gap at the beginning of what remained. -/
theorem remaining_of_read {lexeme : Lexeme} {cursor rest : Cursor} {token : Token}
    (found : lexeme.read cursor = some (some token, rest)) :
    cursor.remaining = token.gap ++ token.text ++ rest.remaining := by
  cases step_of_read found with
  | behind length =>
      simp only [remaining_cursorAt, List.append_assoc, List.take_append_drop]
      rfl
  | within length => simp
  | remark ended => simp [Cursor.remaining, ← List.append_assoc]

theorem divides_of_read {lexeme : Lexeme} {cursor rest : Cursor} {token? : Option Token}
    (found : lexeme.read cursor = some (token?, rest)) (divides : cursor.Divides) :
    rest.Divides := by
  cases step_of_read found with
  | look => exact divides
  | behind length => exact divides_cursorAt _
  | within length => exact divides_cursorAt _
  | remark ended => exact (remark_of_ending? divides ended).2

/-! ## The texts of tokens -/

private theorem text_of_advance {cursor rest : Cursor} {length : Nat} {token? : Option Token}
    (advanced : cursor.advance length = some (token?, rest)) :
    ∃ token, token? = some token ∧ token.text = cursor.rest.take length := by
  cases advanced
  exact ⟨_, rfl, rfl⟩

private theorem text_of_advance_append {cursor rest : Cursor} {token? : Option Token}
    {spelling beyond : Text} (stands : cursor.rest = spelling ++ beyond)
    (advanced : cursor.advance spelling.length = some (token?, rest)) :
    ∃ token, token? = some token ∧ token.text = spelling := by
  obtain ⟨token, isToken, text⟩ := text_of_advance advanced
  refine ⟨token, isToken, ?_⟩
  rw [text, stands, List.take_left]

theorem text_of_word {spelling : Text} {cursor rest : Cursor} {token? : Option Token}
    (found : (Lexeme.word spelling).read cursor = some (token?, rest)) :
    ∃ token, token? = some token ∧ token.text = spelling := by
  simp only [Lexeme.read] at found
  split at found
  case h_1 stands =>
    split at found
    · cases found
    · exact text_of_advance_append (Text.after?_eq_some.mp stands) found
  case h_2 stands => exact text_of_advance_append (Text.after?_eq_some.mp stands) found
  case h_3 => cases found

theorem operatorAt_prefix (text : Text) : operatorAt text <+: text := by
  unfold operatorAt
  split
  case h_1 c rest =>
    split
    · exact ⟨'.' :: c :: rest, rfl⟩
    · exact ⟨c :: rest, rfl⟩
  case h_2 =>
    cases found : longOperators.find? text.startsWith with
    | none => exact List.take_prefix 1 text
    | some spelling =>
        have starts : text.startsWith spelling := List.find?_some found
        exact List.isPrefixOf_iff_prefix.mp starts

theorem text_of_operator {spellings : List Text} {cursor rest : Cursor} {token? : Option Token}
    (found : (Lexeme.operator spellings).read cursor = some (token?, rest)) :
    ∃ token, token? = some token ∧ token.text ∈ spellings := by
  simp only [Lexeme.read] at found
  split at found
  case isTrue => cases found
  case isFalse listed =>
    obtain ⟨beyond, stands⟩ := operatorAt_prefix cursor.rest
    obtain ⟨token, isToken, text⟩ := text_of_advance_append stands.symm found
    refine ⟨token, isToken, ?_⟩
    simp only [Bool.or_eq_true, List.isEmpty_iff, Bool.not_eq_true', not_or] at listed
    rw [text]
    simpa using listed.2

theorem text_of_name {barred : List Text} {cursor rest : Cursor} {token? : Option Token}
    (found : (Lexeme.name barred).read cursor = some (token?, rest)) :
    ∃ token, token? = some token ∧ IsName token.text := by
  simp only [Lexeme.read] at found
  split at found
  case isTrue => cases found
  case isFalse named =>
    obtain ⟨token, isToken, text⟩ := text_of_advance found
    refine ⟨token, isToken, ?_⟩
    rw [text]
    exact isName_take (not_or.mp (by simpa using named)).1

theorem text_of_remark {operand : Bool} {cursor rest : Cursor} {token : Token}
    (found : (Lexeme.remark operand).read cursor = some (some token, rest))
    (divides : cursor.Divides) : token.gap = [] ∧ Remark rest.remaining token.text := by
  simp only [Lexeme.read] at found
  split at found
  case h_1 length ended =>
    cases found
    exact ⟨rfl, (remark_of_ending? divides ended).1⟩
  case h_2 => cases found

end Marginalia.Script
