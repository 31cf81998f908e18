import Marginalia.Proofs.LineTable
import Marginalia.Proofs.Text
import Marginalia.Proofs.TokenText

/-!
# The places of tokens

Reading passes over a text from its beginning to its end, and every token begins
and ends where it stands.  `Laid` says so with what is still to come at hand, so
that readings compose.  Main statement: the tokens of a text are laid out in it,
up to the mark of its end.
-/

namespace Marginalia.Offside

/-! ## Laying out -/

/-- The tokens that are not layout. -/
def visible (tokens : List Token) : List Token :=
  tokens.filter (!isLayout ·)

@[simp] theorem visible_nil : visible [] = [] := rfl

theorem visible_cons {token : Token} (shown : isLayout token = false) (tokens : List Token) :
    visible (token :: tokens) = token :: visible tokens := by
  simp [visible, shown]

theorem visible_cons_layout {token : Token} (layout : isLayout token = true) (tokens : List Token) :
    visible (token :: tokens) = visible tokens := by
  simp [visible, layout]

/-- Tokens that are read from a place, with a text to come, up to another place
and the rest of that text.  What stands between tokens is passed over. -/
inductive Laid : Place → Text → List Token → Place → Text → Prop where
  | done {place : Place} {rest : Text} : Laid place rest [] place rest
  | pass {place stop : Place} {rest final : Text} {tokens : List Token} (gap : Text) :
      Laid (place.after gap) rest tokens stop final → Laid place (gap ++ rest) tokens stop final
  | token (token : Token) {stop : Place} {rest final : Text} {tokens : List Token} :
      (isLayout token = false → Sealed token.text rest) →
      token.stop = token.start.after token.text →
      Laid token.stop rest tokens stop final →
      Laid token.start (token.text ++ rest) (token :: tokens) stop final

namespace Laid

theorem append {place middle stop : Place} {text rest final : Text} {front back : List Token}
    (first : Laid place text front middle rest) (second : Laid middle rest back stop final) :
    Laid place text (front ++ back) stop final := by
  induction first with
  | done => exact second
  | pass gap _ ih => exact .pass gap (ih second)
  | token token isSealed stops _ ih => exact .token token isSealed stops (ih second)

theorem split {place stop : Place} {text final : Text} {front back : List Token}
    (laid : Laid place text (front ++ back) stop final) :
    ∃ middle rest, Laid place text front middle rest ∧ Laid middle rest back stop final := by
  generalize whole : front ++ back = tokens at laid
  induction laid generalizing front with
  | done =>
      obtain ⟨rfl, rfl⟩ := List.append_eq_nil_iff.mp whole
      exact ⟨_, _, .done, .done⟩
  | pass gap _ ih =>
      obtain ⟨middle, rest, first, second⟩ := ih whole
      exact ⟨middle, rest, .pass gap first, second⟩
  | token token isSealed stops laid ih =>
      cases front with
      | nil =>
          cases whole
          exact ⟨_, _, .done, .token token isSealed stops laid⟩
      | cons first front =>
          cases whole
          obtain ⟨middle, rest, first, second⟩ := ih rfl
          exact ⟨middle, rest, .token token isSealed stops first, second⟩

/-- What is read is a part of the text, and reading ends at the place behind
it. -/
theorem passed {place stop : Place} {text final : Text} {tokens : List Token}
    (laid : Laid place text tokens stop final) :
    ∃ passed, text = passed ++ final ∧ stop = place.after passed := by
  induction laid with
  | done => exact ⟨[], rfl, rfl⟩
  | pass gap _ ih =>
      obtain ⟨passed, rfl, rfl⟩ := ih
      exact ⟨gap ++ passed, (List.append_assoc ..).symm, (Place.after_append ..).symm⟩
  | token token _ stops _ ih =>
      obtain ⟨passed, rfl, rfl⟩ := ih
      refine ⟨token.text ++ passed, (List.append_assoc ..).symm, ?_⟩
      rw [stops, Place.after_append]

/-- From the beginning of the first token that is not layout to the end of the
last one, a part of the text is read. -/
theorem spread {place stop : Place} {text final : Text} {tokens : List Token} {first last : Token}
    (laid : Laid place text tokens stop final)
    (starts : (visible tokens).head? = some first)
    (ends : (visible tokens).getLast? = some last) :
    ∃ front own rest, text = front ++ own ++ rest ∧ first.start = place.after front ∧
      first.text <+: own ∧ last.stop = place.after (front ++ own) ∧ last.text <:+ own ∧
      Sealed last.text rest := by
  induction laid generalizing first with
  | done => cases starts
  | pass gap _ ih =>
      obtain ⟨front, own, rest, rfl, atFirst, begins, atLast, closes, isSealed⟩ := ih starts ends
      refine ⟨gap ++ front, own, rest, by simp only [List.append_assoc], ?_, begins, ?_, closes,
        isSealed⟩
      · rw [atFirst, Place.after_append]
      · simp only [atLast, Place.after_append]
  | @token token stop' rest' final' tokens isSealed stops _ ih =>
      cases layout : isLayout token with
      | true =>
          rw [visible_cons_layout layout] at starts ends
          obtain ⟨front, own, rest, rfl, atFirst, begins, atLast, closes, isSealed⟩ := ih starts ends
          refine ⟨token.text ++ front, own, rest, by simp only [List.append_assoc], ?_, begins, ?_,
            closes, isSealed⟩
          · rw [atFirst, stops, Place.after_append]
          · simp only [atLast, stops, Place.after_append]
      | false =>
          rw [visible_cons layout] at starts ends
          obtain rfl : token = first := Option.some.inj starts
          cases more : visible tokens with
          | nil =>
              rw [more] at ends
              obtain rfl : token = last := Option.some.inj ends
              exact ⟨[], token.text, rest', rfl, rfl, List.prefix_refl _, stops,
                List.suffix_refl _, isSealed layout⟩
          | cons next others =>
              rw [more, List.getLast?_cons_cons, ← more] at ends
              obtain ⟨front, own, rest, rfl, -, -, atLast, closes, isSealed⟩ :=
                ih (by rw [more]; rfl) ends
              refine ⟨[], token.text ++ front ++ own, rest, by simp only [List.append_assoc,
                List.nil_append], rfl, ?_, ?_, closes.trans (List.suffix_append ..), isSealed⟩
              · rw [List.append_assoc]
                exact List.prefix_append ..
              · simp only [atLast, stops, Place.after_append, List.nil_append]

end Laid

/-! ## Layout -/

/-- Tokens without text that lay out the file at a place. -/
def LaysOut (place : Place) (tokens : List Token) : Prop :=
  ∀ token ∈ tokens, ∃ kind, token = emptyToken kind place ∧ isLayout token

theorem LaysOut.laid {place : Place} {tokens : List Token} (layout : LaysOut place tokens)
    (rest : Text) : Laid place rest tokens place rest := by
  induction tokens with
  | nil => exact .done
  | cons token tokens ih =>
      obtain ⟨kind, rfl, isLayout⟩ := layout token (by simp)
      refine .token (emptyToken kind place) ?_ rfl ?_
      · intro visible
        rw [isLayout] at visible
        cases visible
      · exact ih fun other member => layout other (List.mem_cons_of_mem _ member)

theorem LaysOut.cons {place : Place} {kind : Kind} {tokens : List Token}
    (isLayout : isLayout (emptyToken kind place)) (layout : LaysOut place tokens) :
    LaysOut place (emptyToken kind place :: tokens) := by
  intro token member
  rcases List.mem_cons.mp member with rfl | behind
  · exact ⟨kind, rfl, isLayout⟩
  · exact layout token behind

theorem LaysOut.nil (place : Place) : LaysOut place [] := by
  intro token member
  cases member

end Marginalia.Offside
