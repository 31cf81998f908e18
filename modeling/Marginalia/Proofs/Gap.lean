import Marginalia.Proofs.Text
import Marginalia.Script.Lexeme
import Mathlib.Data.List.TakeWhile

/-!
# Gaps and remarks

A gap is made of blanks and comments, and a remark is the part of a gap up to the
comment behind which a semicolon is put that is not there.  Main statements: what
a cursor passes over is a gap, and where the end of a statement is found inside a
gap, what stands in front of it is a remark.
-/

namespace Marginalia.Script

/-- The mark that closes a block comment. -/
def closingMark : Text := ['*', '/']

/-- A comment in front of what stands behind it.  A line comment goes on to the end
of its line, and a block comment to the first closing mark. -/
inductive IsComment (behind : Text) : Text → Prop where
  | line {body : Text} : (∀ c ∈ body, ¬ endsLine c) → (∀ c ∈ behind.head?, endsLine c) →
      IsComment behind ('/' :: '/' :: body)
  | block {body : Text} : ¬ closingMark <:+: body →
      IsComment behind ('/' :: '*' :: (body ++ closingMark))

/-- Blanks and comments in front of what stands behind them. -/
inductive Gap (behind : Text) : Text → Prop where
  | nil : Gap behind []
  | space {c : Char} {rest : Text} : isSpace c → Gap behind rest → Gap behind (c :: rest)
  | comment {comment rest : Text} : IsComment (rest ++ behind) comment → Gap behind rest →
      Gap behind (comment ++ rest)

/-- Blanks and comments up to the comment behind which a semicolon is put.  None is
put behind an earlier one. -/
inductive Tail (operand : Bool) (behind : Text) : Text → Prop where
  | space {c : Char} {rest : Text} : isSpace c → Tail operand behind rest →
      Tail operand behind (c :: rest)
  | last {comment : Text} : IsComment behind comment → endsHere operand false behind →
      Tail operand behind comment
  | comment {comment rest : Text} : IsComment (rest ++ behind) comment →
      ¬ endsHere operand false (rest ++ behind) → Tail operand behind rest →
      Tail operand behind (comment ++ rest)

/-- What belongs to a declaration behind its closing brace: nothing, or, if no
semicolon is put directly behind the brace, the comments in front of the first
place where one is. -/
def Remark (behind remark : Text) : Prop :=
  remark = [] ∨ ∃ operand, ¬ endsHere operand false (remark ++ behind) ∧
    Tail operand behind remark

theorem isSpace_of_endsLine {c : Char} (ends : endsLine c) : isSpace c := by
  simp only [endsLine, Bool.or_eq_true, beq_iff_eq] at ends
  rcases ends with ((rfl | rfl) | rfl) | rfl <;> decide

theorem ne_slash_of_isSpace {c : Char} (space : isSpace c) : c ≠ '/' := by
  rintro rfl
  exact absurd space (by decide)

/-! ## Passing over a gap -/

private theorem gapLength_line {body : Text} (unended : ∀ c ∈ body, ¬ endsLine c)
    (passed closed : Nat) (rest : Text) :
    gapLength .lineComment passed closed (body ++ rest) =
      gapLength .lineComment (passed + body.length) closed rest := by
  induction body generalizing passed with
  | nil => rfl
  | cons c body ih =>
      have inside : endsLine c = false := by simpa using unended c (List.mem_cons_self ..)
      simp only [List.cons_append, gapLength, inside, Bool.false_eq_true, if_false,
        List.length_cons]
      rw [ih fun d member => unended d (List.mem_cons_of_mem _ member)]
      congr 1
      omega

/-- Where a scan comes to that found or missed the closing mark behind `passed`
characters. -/
private def behindMark (passed closed : Nat) : Option (Text × Text) → Nat
  | some (body, rest) =>
    gapLength .between (passed + body.length + 2) (passed + body.length + 2) rest
  | none => closed

private theorem behindMark_cons (passed closed : Nat) (c : Char) (found : Option (Text × Text)) :
    behindMark passed closed (found.map fun (body, rest) => (c :: body, rest)) =
      behindMark (passed + 1) closed found := by
  cases found with
  | none => rfl
  | some parts =>
      simp only [behindMark, Option.map_some, List.length_cons]
      congr 1 <;> omega

private theorem cut?_closingMark_cons {c : Char} {text : Text}
    (elsewhere : ¬ closingMark <+: c :: text) :
    Text.cut? (c :: text) closingMark =
      (Text.cut? text closingMark).map fun (body, rest) => (c :: body, rest) := by
  rw [Text.cut?_cons]
  cases found : Text.after? (c :: text) closingMark with
  | none => rfl
  | some beyond => exact (elsewhere ⟨beyond, (Text.after?_eq_some.mp found).symm⟩).elim

/-- A block comment is passed over up to its closing mark.  Behind a star, the
mark may have begun already. -/
private theorem gapLength_block (text : Text) (passed closed : Nat) :
    gapLength .blockComment passed closed text =
      behindMark passed closed (text.cut? closingMark) ∧
    gapLength .blockStar (passed + 1) closed text =
      behindMark passed closed (Text.cut? ('*' :: text) closingMark) := by
  induction text generalizing passed with
  | nil => exact ⟨rfl, rfl⟩
  | cons c text ih =>
      have inComment : gapLength .blockComment passed closed (c :: text) =
          behindMark passed closed (Text.cut? (c :: text) closingMark) := by
        by_cases star : c = '*'
        · subst star
          simpa [gapLength] using (ih passed).2
        · have elsewhere : ¬ closingMark <+: c :: text := by
            simp [closingMark, List.cons_prefix_cons, Ne.symm star]
          simp only [gapLength, beq_iff_eq, star, if_false]
          rw [(ih (passed + 1)).1, cut?_closingMark_cons elsewhere, behindMark_cons]
      refine ⟨inComment, ?_⟩
      by_cases slash : c = '/'
      · subst slash
        rfl
      · have elsewhere : ¬ closingMark <+: '*' :: c :: text := by
          simp [closingMark, List.cons_prefix_cons, Ne.symm slash]
        rw [cut?_closingMark_cons elsewhere, behindMark_cons]
        by_cases star : c = '*'
        · subst star
          simpa [gapLength] using (ih (passed + 1)).2
        · have elsewhere' : ¬ closingMark <+: c :: text := by
            simp [closingMark, List.cons_prefix_cons, Ne.symm star]
          rw [cut?_closingMark_cons elsewhere', behindMark_cons, ← (ih (passed + 1 + 1)).1]
          simp [gapLength, slash, star]

private theorem splitLine (text : Text) :
    ∃ body rest, text = body ++ rest ∧ (∀ c ∈ body, ¬ endsLine c) ∧
      ∀ c ∈ rest.head?, endsLine c := by
  refine ⟨text.takeWhile fun c => !endsLine c, text.dropWhile fun c => !endsLine c,
    List.takeWhile_append_dropWhile.symm, ?_, ?_⟩
  · intro c member
    simpa using List.mem_takeWhile_imp member
  · intro c first
    have stopped := List.head?_dropWhile_not (fun c => !endsLine c) text
    rw [first] at stopped
    simpa using stopped

/-- A cursor passes over a gap at the beginning of the text, however much it has
passed over before. -/
private def Passes (text : Text) : Prop :=
  ∀ passed, ∃ gap rest, text = gap ++ rest ∧ Gap rest gap ∧
    gapLength .between passed passed text = passed + gap.length

private theorem passes_nothing {text : Text}
    (stays : ∀ passed, gapLength .between passed passed text = passed) : Passes text := by
  intro passed
  exact ⟨[], text, rfl, .nil, stays passed⟩

/-- Behind a comment, the scan goes on as it began. -/
private theorem passes_comment {comment text : Text} (isComment : IsComment text comment)
    (scanned : ∀ passed, gapLength .between passed passed (comment ++ text) =
      gapLength .between (passed + comment.length) (passed + comment.length) text)
    (behind : Passes text) : Passes (comment ++ text) := by
  intro passed
  obtain ⟨gap, rest, rfl, isGap, length⟩ := behind (passed + comment.length)
  refine ⟨comment ++ gap, rest, (List.append_assoc ..).symm, .comment isComment isGap, ?_⟩
  rw [scanned, length, List.length_append, Nat.add_assoc]

private theorem passes_line {text : Text}
    (shorter : ∀ rest : Text, rest.length ≤ text.length → Passes rest) :
    Passes ('/' :: '/' :: text) := by
  obtain ⟨body, rest, rfl, unended, ended⟩ := splitLine text
  refine passes_comment (.line unended ended) ?_ (shorter rest (by simp))
  intro passed
  have scanned : gapLength .between passed passed ('/' :: '/' :: (body ++ rest)) =
      gapLength .lineComment (passed + 2 + body.length) passed rest :=
    gapLength_line unended (passed + 2) passed rest
  have length : passed + ('/' :: '/' :: body).length = passed + 2 + body.length := by
    simp only [List.length_cons]
    omega
  rw [length]
  refine scanned.trans ?_
  cases rest with
  | nil => rfl
  | cons c rest =>
      have lineEnd : endsLine c := ended c rfl
      simp [gapLength, lineEnd, isSpace_of_endsLine lineEnd]

private theorem passes_block {text : Text}
    (shorter : ∀ rest : Text, rest.length ≤ text.length → Passes rest) :
    Passes ('/' :: '*' :: text) := by
  have scanned (passed : Nat) : gapLength .between passed passed ('/' :: '*' :: text) =
      behindMark (passed + 2) passed (text.cut? closingMark) :=
    (gapLength_block text (passed + 2) passed).1
  cases found : text.cut? closingMark with
  | none =>
      intro passed
      refine ⟨[], _, rfl, .nil, ?_⟩
      rw [scanned, found]
      rfl
  | some parts =>
      obtain ⟨body, rest⟩ := parts
      obtain rfl := Text.cut?_eq_some found
      have unclosed := Text.not_infix_of_cut? (by simp [closingMark]) found
      have isComment : IsComment rest ('/' :: '*' :: (body ++ closingMark)) := .block unclosed
      refine passes_comment isComment ?_ (shorter rest ?_)
      case refine_2 =>
        rw [List.length_append]
        omega
      intro passed
      refine (scanned passed).trans ?_
      rw [found]
      simp only [behindMark, List.length_cons, List.length_append, closingMark, List.length_nil]
      congr 1 <;> omega

private theorem passes (text : Text) : Passes text := by
  cases text with
  | nil => exact passes_nothing fun _ => rfl
  | cons c text =>
      by_cases space : isSpace c
      · intro passed
        obtain ⟨gap, rest, split, isGap, length⟩ := passes text (passed + 1)
        refine ⟨c :: gap, rest, by rw [split]; rfl, .space space isGap, ?_⟩
        simp only [gapLength, space, if_true, length, List.length_cons]
        omega
      · by_cases slash : c = '/'
        · subst slash
          cases text with
          | nil => exact passes_nothing fun _ => rfl
          | cons d text =>
              by_cases line : d = '/'
              · subst line
                exact passes_line fun rest _ => passes rest
              · by_cases block : d = '*'
                · subst block
                  exact passes_block fun rest _ => passes rest
                · exact passes_nothing fun passed => by simp [gapLength, space, line, block]
        · exact passes_nothing fun passed => by simp [gapLength, space, slash]
termination_by text.length

/-- The gap of a cursor stands in front of the rest of it. -/
def Cursor.Divides (cursor : Cursor) : Prop :=
  Gap cursor.rest cursor.gap

theorem divides_cursorAt (text : Text) : (Cursor.at text).Divides := by
  obtain ⟨gap, rest, rfl, isGap, length⟩ := passes text 0
  simpa [Cursor.Divides, Cursor.at, length] using isGap

@[simp] theorem remaining_cursorAt (text : Text) : (Cursor.at text).remaining = text :=
  List.take_append_drop ..

/-! ## Remarks -/

private theorem commentEnds_line {body rest : Text} (unended : ∀ c ∈ body, ¬ endsLine c)
    (ended : ∀ c ∈ rest.head?, endsLine c) (passed : Nat) :
    commentEnds .lineComment passed (body ++ rest) =
      (passed + body.length) :: commentEnds .between (passed + body.length) rest := by
  induction body generalizing passed with
  | nil =>
      cases rest with
      | nil => rfl
      | cons c rest =>
          have lineEnd : endsLine c := ended c rfl
          have notSlash := ne_slash_of_isSpace (isSpace_of_endsLine lineEnd)
          simp [commentEnds, lineEnd, notSlash]
  | cons c body ih =>
      have inside : endsLine c = false := by simpa using unended c (List.mem_cons_self ..)
      have behind := ih (fun d member => unended d (List.mem_cons_of_mem _ member)) (passed + 1)
      have length : passed + 1 + body.length = passed + (c :: body).length := by
        simp only [List.length_cons]
        omega
      rw [length] at behind
      simpa only [List.cons_append, commentEnds, inside, Bool.false_eq_true, if_false] using behind

/-- A block comment is passed over up to its closing mark.  Behind a star, the
mark may have begun already. -/
private theorem commentEnds_block (body rest : Text) (passed : Nat) :
    (¬ closingMark <:+: body →
      commentEnds .blockComment passed (body ++ closingMark ++ rest) =
        (passed + body.length + 2) :: commentEnds .between (passed + body.length + 2) rest) ∧
    (¬ closingMark <:+: '*' :: body →
      commentEnds .blockStar passed (body ++ closingMark ++ rest) =
        (passed + body.length + 2) :: commentEnds .between (passed + body.length + 2) rest) := by
  induction body generalizing passed with
  | nil => exact ⟨fun _ => rfl, fun _ => rfl⟩
  | cons c body ih =>
      have goesOn : ∀ state, (¬ closingMark <:+: c :: body) →
          state = (if c == '*' then GapState.blockStar else .blockComment) →
          commentEnds state (passed + 1) (body ++ closingMark ++ rest) =
            (passed + (c :: body).length + 2) ::
              commentEnds .between (passed + (c :: body).length + 2) rest := by
        intro state unclosed stateIs
        have same : passed + 1 + body.length + 2 = passed + (c :: body).length + 2 := by
          simp only [List.length_cons]
          omega
        rw [← same]
        by_cases star : c = '*'
        · subst star
          rw [show state = .blockStar from stateIs]
          exact (ih (passed + 1)).2 unclosed
        · rw [show state = .blockComment by simpa [star] using stateIs]
          exact (ih (passed + 1)).1 fun inside => unclosed (List.infix_cons inside)
      refine ⟨fun unclosed => goesOn _ unclosed rfl, fun unclosed => ?_⟩
      have notSlash : c ≠ '/' := by
        rintro rfl
        exact unclosed ⟨[], body, rfl⟩
      have step : commentEnds .blockStar passed (c :: body ++ closingMark ++ rest) =
          commentEnds (if c == '*' then .blockStar else .blockComment) (passed + 1)
            (body ++ closingMark ++ rest) := by
        simp [commentEnds, notSlash]
      rw [step]
      exact goesOn _ (fun inside => unclosed (List.infix_cons inside)) rfl

/-- The first comment of a gap that begins with one ends where it does. -/
private theorem commentEnds_comment {comment rest behind : Text}
    (isComment : IsComment (rest ++ behind) comment) (passed : Nat) :
    commentEnds .between passed (comment ++ rest) =
      (passed + comment.length) :: commentEnds .between (passed + comment.length) rest := by
  cases isComment with
  | @line body unended ended =>
      have endedHere : ∀ c ∈ rest.head?, endsLine c := by
        intro c first
        apply ended
        rw [List.head?_append, Option.mem_def.mp first]
        rfl
      have scanned := commentEnds_line unended endedHere (passed + 2)
      rw [Nat.add_assoc, Nat.add_comm 2] at scanned
      exact scanned
  | @block body unclosed =>
      have scanned := (commentEnds_block body rest (passed + 2)).1 unclosed
      have length : passed + 2 + body.length + 2 =
          passed + ('/' :: '*' :: (body ++ closingMark)).length := by
        simp only [closingMark, List.length_cons, List.length_append, List.length_nil]
        omega
      rw [length] at scanned
      exact scanned

/-- If a comment of a gap is the first one behind which a semicolon is put, the gap
up to there is a tail, and what is left is a gap. -/
private theorem tail_of_commentEnds {operand : Bool} {behind gap : Text} (isGap : Gap behind gap)
    (front : Text) {stop : Nat}
    (found : (commentEnds .between front.length gap).find? (fun passed =>
      endsHere operand false ((front ++ gap ++ behind).drop passed)) = some stop) :
    ∃ tail back, gap = tail ++ back ∧ stop = front.length + tail.length ∧ Gap behind back ∧
      Tail operand (back ++ behind) tail := by
  induction isGap generalizing front with
  | nil => cases found
  | @space c rest space isGap ih =>
      have step : commentEnds .between front.length (c :: rest) =
          commentEnds .between (front ++ [c]).length rest := by
        simp [commentEnds, ne_slash_of_isSpace space]
      have same : front ++ c :: rest ++ behind = front ++ [c] ++ rest ++ behind := by simp
      rw [step, same] at found
      obtain ⟨tail, back, rfl, rfl, isGap, isTail⟩ := ih (front ++ [c]) found
      refine ⟨c :: tail, back, rfl, ?_, isGap, .space space isTail⟩
      simp only [List.length_append, List.length_cons, List.length_nil]
      omega
  | @comment comment rest isComment isGap ih =>
      have here : (front ++ (comment ++ rest) ++ behind).drop (front.length + comment.length) =
          rest ++ behind := by
        rw [← List.length_append, ← List.append_assoc, List.append_assoc (front ++ comment),
          List.drop_left]
      rw [commentEnds_comment isComment, List.find?_cons, here] at found
      by_cases ends : endsHere operand false (rest ++ behind)
      · rw [ends] at found
        cases found
        exact ⟨comment, rest, rfl, rfl, isGap, .last isComment ends⟩
      · rw [Bool.eq_false_iff.mpr ends, ← List.length_append, ← List.append_assoc] at found
        obtain ⟨tail, back, rfl, rfl, isGap, isTail⟩ := ih (front ++ comment) found
        rw [List.append_assoc] at isComment ends
        refine ⟨comment ++ tail, back, (List.append_assoc ..).symm, ?_, isGap,
          .comment isComment ends isTail⟩
        simp only [List.length_append]
        omega

/-- If the end of a statement is found inside a gap, what stands in front of it is
a remark, and what is left is a gap. -/
theorem remark_of_ending? {operand : Bool} {cursor : Cursor} (divides : cursor.Divides)
    {length : Nat} (found : ending? operand false cursor = some (length + 1)) :
    Remark (cursor.gap.drop (length + 1) ++ cursor.rest) (cursor.gap.take (length + 1)) ∧
      Gap cursor.rest (cursor.gap.drop (length + 1)) := by
  rw [ending?, List.find?_cons] at found
  split at found
  · cases found
  case h_2 notHere =>
    rw [List.drop_zero] at notHere
    obtain ⟨tail, back, split, stop, isGap, isTail⟩ :=
      tail_of_commentEnds divides [] found
    rw [List.length_nil, Nat.zero_add] at stop
    rw [stop, split, List.take_left, List.drop_left]
    refine ⟨.inr ⟨operand, ?_, isTail⟩, isGap⟩
    rw [Cursor.remaining, split, List.append_assoc] at notHere
    exact Bool.eq_false_iff.mp notHere

end Marginalia.Script
