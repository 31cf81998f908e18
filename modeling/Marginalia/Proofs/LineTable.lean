import Marginalia.Offside.Outline
import Mathlib.Data.List.Induction
import Mathlib.Data.Nat.Find

/-!
# The table of lines

Where a place lies in its text, and where the table of line starts puts it.
Main statements: behind a text whose last line is known, the place counts the
lines above and the characters of that line; the table is strictly increasing, it
holds the beginning of the line of every position under the number of line feeds
before that position, and what it holds under a greater number lies further on.
-/

namespace Marginalia.Offside

/-! ## The last line -/

/-- A line begins behind these: they are none, or the last of them is the feed. -/
def EndsLine {α : Type} (feed : α) (above : List α) : Prop :=
  ∀ last ∈ above.getLast?, last = feed

theorem endsLine_nil {α : Type} (feed : α) : EndsLine feed [] := by
  intro last found
  cases found

theorem endsLine_concat {α : Type} (feed : α) (above : List α) : EndsLine feed (above ++ [feed]) := by
  intro last found
  simpa [eq_comm] using found

theorem EndsLine.cases {α : Type} {feed : α} {above : List α} (ends : EndsLine feed above) :
    above = [] ∨ ∃ front, above = front ++ [feed] := by
  rcases List.eq_nil_or_concat above with rfl | ⟨front, last, rfl⟩
  · exact Or.inl rfl
  · have same : last = feed := ends last (by simp)
    exact Or.inr ⟨front, by rw [same, List.concat_eq_append]⟩

theorem EndsLine.of_append {α : Type} {feed : α} {front back : List α}
    (ends : EndsLine feed (front ++ back)) : EndsLine feed back := by
  intro last found
  apply ends last
  rw [List.getLast?_append, Option.mem_def.mp found]
  rfl

/-- Every list has a last line, which may be empty. -/
theorem exists_lastLine {α : Type} (feed : α) (text : List α) :
    ∃ above line, text = above ++ line ∧ EndsLine feed above ∧ feed ∉ line := by
  induction text using List.reverseRecOn with
  | nil => exact ⟨[], [], rfl, endsLine_nil feed, by simp⟩
  | append_singleton text last ih =>
      obtain ⟨above, line, rfl, ends, unbroken⟩ := ih
      by_cases same : last = feed
      · subst same
        exact ⟨above ++ line ++ [last], [], by simp, endsLine_concat last _, by simp⟩
      · refine ⟨above, line ++ [last], by simp, ends, ?_⟩
        simp [unbroken, Ne.symm same]

/-! ## Places -/

namespace Place

@[simp] theorem after_nil (place : Place) : place.after [] = place := rfl

theorem after_append (place : Place) (front back : Text) :
    place.after (front ++ back) = (place.after front).after back :=
  List.foldl_append ..

theorem after_cons (place : Place) (c : Char) (rest : Text) :
    place.after (c :: rest) = (place.after [c]).after rest :=
  place.after_append [c] rest

theorem after_unbroken (place : Place) {line : Text} (unbroken : '\n' ∉ line) :
    place.after line = { place with column := place.column + line.length } := by
  induction line generalizing place with
  | nil => rfl
  | cons c line ih =>
      have other : c ≠ '\n' := fun same => unbroken (by simp [same])
      have one : place.after [c] = { place with column := place.column + 1 } := by
        simp [after, other]
      rw [after_cons, one, ih _ fun member => unbroken (List.mem_cons_of_mem c member)]
      simp only [List.length_cons, mk.injEq, true_and]
      omega

theorem line_after (place : Place) (text : Text) :
    (place.after text).line = place.line + text.count '\n' := by
  induction text generalizing place with
  | nil => rfl
  | cons c text ih =>
      rw [after_cons, ih]
      by_cases feed : c = '\n'
      · simp [after, feed]
        omega
      · simp [after, feed]

theorem column_after_concat (place : Place) (text : Text) :
    (place.after (text ++ ['\n'])).column = 0 := by
  rw [after_append]
  rfl

/-- Where reading begins. -/
def origin : Place := { line := 1, column := 0 }

/-- The place behind a text tells how many lines are above and how long the last
line is. -/
theorem after_lastLine {above line : Text} (ends : EndsLine '\n' above) (unbroken : '\n' ∉ line) :
    origin.after (above ++ line) = { line := above.count '\n' + 1, column := line.length } := by
  have column : (origin.after above).column = 0 := by
    rcases ends.cases with rfl | ⟨front, rfl⟩
    · rfl
    · exact column_after_concat origin front
  rw [after_append, after_unbroken _ unbroken, line_after, column, Nat.zero_add, origin,
    Nat.add_comm]

end Place

/-! ## Line starts -/

theorem lineStarts_go_append (behind : Nat) (front back : Bytes) :
    lineStarts.go behind (front ++ back) =
      lineStarts.go behind front ++ lineStarts.go (behind + front.length) back := by
  induction front generalizing behind with
  | nil => rfl
  | cons byte front ih =>
      rw [List.length_cons, Nat.add_comm front.length, ← Nat.add_assoc]
      by_cases feed : byte = 10
      · simp [lineStarts.go, feed, ih]
      · simp [lineStarts.go, feed, ih]

theorem length_lineStarts_go (behind : Nat) (bytes : Bytes) :
    (lineStarts.go behind bytes).length = bytes.count 10 := by
  induction bytes generalizing behind with
  | nil => rfl
  | cons byte bytes ih =>
      by_cases feed : byte = 10
      · simp [lineStarts.go, feed, ih]
      · simp [lineStarts.go, feed, ih]

theorem le_of_mem_lineStarts_go {behind start : Nat} {bytes : Bytes}
    (member : start ∈ lineStarts.go behind bytes) : behind ≤ start := by
  induction bytes generalizing behind with
  | nil => cases member
  | cons byte bytes ih =>
      by_cases feed : byte = 10
      · simp only [lineStarts.go, feed, beq_self_eq_true, if_true, List.mem_cons] at member
        rcases member with rfl | later
        · exact Nat.le_refl start
        · exact Nat.le_of_succ_le (ih later)
      · simp only [lineStarts.go, beq_iff_eq, feed, if_false] at member
        exact Nat.le_of_succ_le (ih member)

theorem pairwise_lineStarts_go (behind : Nat) (bytes : Bytes) :
    (lineStarts.go behind bytes).Pairwise (· < ·) := by
  induction bytes generalizing behind with
  | nil => exact .nil
  | cons byte bytes ih =>
      by_cases feed : byte = 10
      · simp only [lineStarts.go, feed, beq_self_eq_true, if_true]
        exact .cons (fun _ later => le_of_mem_lineStarts_go later) (ih (behind + 1))
      · simp only [lineStarts.go, beq_iff_eq, feed, if_false]
        exact ih (behind + 1)

theorem pairwise_lineStarts (bytes : Bytes) : (lineStarts bytes).Pairwise (· < ·) :=
  .cons (fun _ later => le_of_mem_lineStarts_go later) (pairwise_lineStarts_go 1 bytes)

theorem lineStarts_append (front back : Bytes) :
    lineStarts (front ++ back) = lineStarts front ++ lineStarts.go (front.length + 1) back := by
  rw [lineStarts, lineStarts_go_append, Nat.add_comm 1, lineStarts, List.cons_append]

theorem length_lineStarts (bytes : Bytes) : (lineStarts bytes).length = bytes.count 10 + 1 := by
  rw [lineStarts, List.length_cons, length_lineStarts_go]

/-- The position just behind the last line feed before a position, or 0. -/
def lineStart (bytes : Bytes) (position : Nat) : Nat :=
  -- Whatever the test says of 0, the search ends there.
  Nat.findGreatest (fun start => bytes[start - 1]? = some 10) position

theorem lineStart_succ (bytes : Bytes) (position : Nat) :
    lineStart bytes (position + 1) =
      if bytes[position]? = some 10 then position + 1 else lineStart bytes position :=
  Nat.findGreatest_succ ..

theorem lineStart_le (bytes : Bytes) (position : Nat) : lineStart bytes position ≤ position :=
  Nat.findGreatest_le position

theorem lineStarts_concat (front : Bytes) (byte : UInt8) :
    lineStarts (front ++ [byte]) =
      lineStarts front ++ if byte = 10 then [front.length + 1] else [] := by
  rw [lineStarts_append]
  simp [lineStarts.go]

/-- The table of the bytes before a position ends with the beginning of the line
of that position. -/
theorem getLast?_lineStarts_take {bytes : Bytes} {position : Nat}
    (within : position ≤ bytes.length) :
    (lineStarts (bytes.take position)).getLast? = some (lineStart bytes position) := by
  -- One more byte adds an entry to the table only if it is a line feed, and then
  -- the line of the next position begins right behind it.
  induction position with
  | zero => rfl
  | succ position ih =>
      have begun : bytes.take (position + 1) = bytes.take position ++ [bytes[position]] :=
        (List.take_append_getElem within).symm
      have length : (bytes.take position).length = position :=
        List.length_take_of_le (Nat.le_of_succ_le within)
      have next : bytes[position]? = some bytes[position] := List.getElem?_eq_getElem within
      rw [begun, lineStarts_concat, length, lineStart_succ, next]
      by_cases feed : bytes[position] = 10
      · simp [feed]
      · simpa [feed] using ih (Nat.le_of_succ_le within)

/-- The whole table holds the beginning of the line of a position under the number
of line feeds before the position. -/
theorem lineStarts_take_count {bytes : Bytes} {position : Nat}
    (within : position ≤ bytes.length) :
    (lineStarts bytes)[(bytes.take position).count 10]? = some (lineStart bytes position) := by
  have length := length_lineStarts (bytes.take position)
  calc (lineStarts bytes)[(bytes.take position).count 10]?
    _ = (lineStarts (bytes.take position ++ bytes.drop position))[
          (bytes.take position).count 10]? := by rw [List.take_append_drop]
    _ = (lineStarts (bytes.take position))[(bytes.take position).count 10]? := by
          rw [lineStarts_append, List.getElem?_append_left (by omega)]
    _ = (lineStarts (bytes.take position)).getLast? := by
          rw [List.getLast?_eq_getElem?, length, Nat.add_sub_cancel]
    _ = some (lineStart bytes position) := getLast?_lineStarts_take within

/-- The table holds the beginning of a line under the number of line feeds
above it. -/
theorem lineStarts_count {above : Bytes} (ends : EndsLine 10 above) (rest : Bytes) :
    (lineStarts (above ++ rest))[above.count 10]? = some above.length := by
  have within : above.length ≤ (above ++ rest).length := by simp
  have begins : lineStart (above ++ rest) above.length = above.length := by
    rcases ends.cases with rfl | ⟨front, rfl⟩
    · rfl
    · simp [lineStart_succ]
  simpa [begins] using lineStarts_take_count within

/-- What the table holds under more line feeds than come first lies behind
them. -/
theorem lt_of_lineStarts {front back : Bytes} {index start : Nat} (more : front.count 10 < index)
    (found : (lineStarts (front ++ back))[index]? = some start) : front.length < start := by
  have beyond : (lineStarts front).length ≤ index := by
    rw [length_lineStarts]
    exact more
  rw [lineStarts_append, List.getElem?_append_right beyond] at found
  exact le_of_mem_lineStarts_go (List.mem_of_getElem? found)

end Marginalia.Offside
