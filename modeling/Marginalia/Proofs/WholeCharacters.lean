import Marginalia.Proofs.ByteOffset
import Mathlib.Order.Bounds.Defs
import Mathlib.Order.MinMax

/-!
# Spans and the characters in them

Both ends of a span may lie inside of a character or beyond the text, and the
span may be inverted.  Main statement: the slice of a span is made of the
characters that end in it, that is, behind its start and not behind its stop.
So spans that meet have slices that join, and a slice lies between the greatest
character boundaries that are not beyond the ends of its span.
-/

namespace Marginalia.Text

/-- The characters of a text that begins at `offset`, each with the byte offset
at which it ends. -/
def withEnds : Text → Nat → List (Char × Nat)
  | [], _ => []
  | c :: rest, offset => (c, offset + c.utf8Size) :: withEnds rest (offset + c.utf8Size)

/-- The characters of a text that end behind `start` and not behind `stop`. -/
def endingIn (text : Text) (start stop : Nat) : Text :=
  ((text.withEnds 0).filter fun placed => start < placed.2 && placed.2 ≤ stop).map Prod.fst

/-! ## Where characters end -/

@[simp] theorem map_fst_withEnds (text : Text) (offset : Nat) :
    (text.withEnds offset).map Prod.fst = text := by
  induction text generalizing offset with
  | nil => rfl
  | cons c rest ih => simp [withEnds, ih]

theorem lt_of_mem_withEnds {text : Text} {offset : Nat} {placed : Char × Nat}
    (member : placed ∈ text.withEnds offset) : offset < placed.2 := by
  induction text generalizing offset with
  | nil => cases member
  | cons c rest ih =>
      have positive := c.utf8Size_pos
      rcases List.mem_cons.mp member with rfl | later
      · exact Nat.lt_add_of_pos_right positive
      · have behind := ih later
        omega

/-- The characters within the first bytes are those that end within them. -/
theorem withEnds_takeBytes (text : Text) (offset limit : Nat) :
    (text.takeBytes limit).withEnds offset =
      (text.withEnds offset).filter fun placed => placed.2 ≤ offset + limit := by
  induction text generalizing offset limit with
  | nil => simp [withEnds]
  | cons c rest ih =>
      rw [takeBytes_cons, withEnds]
      split
      case isTrue fits =>
        have room : offset + c.utf8Size + (limit - c.utf8Size) = offset + limit := by omega
        rw [withEnds, ih, room, List.filter_cons_of_pos (by simpa using fits)]
      case isFalse tooLong =>
        have noneLater : ∀ placed ∈ withEnds rest (offset + c.utf8Size),
            ¬ (decide (placed.2 ≤ offset + limit)) = true := by
          intro placed member
          have behind := lt_of_mem_withEnds member
          rw [decide_eq_true_eq]
          omega
        rw [List.filter_cons_of_neg (by simpa using tooLong), List.filter_eq_nil_iff.mpr noneLater,
          withEnds]

theorem dropBytes_cons (c : Char) (rest : Text) (offset : Nat) :
    dropBytes (c :: rest) offset =
      if c.utf8Size ≤ offset then dropBytes rest (offset - c.utf8Size) else c :: rest := by
  simp only [dropBytes, fitting_cons]
  split <;> simp

/-- The characters behind the first bytes are those that end behind them. -/
theorem dropBytes_eq_filter (text : Text) (start offset : Nat) :
    text.dropBytes start =
      ((text.withEnds offset).filter fun placed => offset + start < placed.2).map Prod.fst := by
  induction text generalizing start offset with
  | nil => simp [withEnds]
  | cons c rest ih =>
      rw [dropBytes_cons, withEnds]
      split
      case isTrue fits =>
        have room : offset + c.utf8Size + (start - c.utf8Size) = offset + start := by omega
        rw [ih _ (offset + c.utf8Size), room, List.filter_cons_of_neg (by simpa using fits)]
      case isFalse kept =>
        have allLater : ∀ placed ∈ withEnds rest (offset + c.utf8Size),
            decide (offset + start < placed.2) = true := by
          intro placed member
          have behind := lt_of_mem_withEnds member
          rw [decide_eq_true_eq]
          omega
        rw [List.filter_cons_of_pos (by simpa using kept), List.filter_eq_self.mpr allLater,
          List.map_cons, map_fst_withEnds]

/-- A slice is made of the characters that end in its span. -/
theorem slice_eq_endingIn (text : Text) (start stop : Nat) :
    text.slice start stop = text.endingIn start stop := by
  rw [slice, dropBytes_eq_filter _ _ 0, withEnds_takeBytes, List.filter_filter, endingIn]
  simp only [Nat.zero_add]

/-! ## Spans that meet -/

theorem takeBytes_append_slice_of_le (text : Text) {start stop : Nat} (ordered : start ≤ stop) :
    text.takeBytes start ++ text.slice start stop = text.takeBytes stop := by
  have front : (text.takeBytes stop).takeBytes start = text.takeBytes start := by
    rw [takeBytes_takeBytes, Nat.min_eq_right ordered]
  rw [← front, slice]
  exact takeBytes_append_dropBytes _ _

theorem slice_append_slice (text : Text) {first second third : Nat} (lower : first ≤ second)
    (upper : second ≤ third) :
    text.slice first second ++ text.slice second third = text.slice first third := by
  have joined : text.takeBytes first ++ (text.slice first second ++ text.slice second third) =
      text.takeBytes first ++ text.slice first third := by
    calc
      text.takeBytes first ++ (text.slice first second ++ text.slice second third)
        = text.takeBytes second ++ text.slice second third := by
          rw [← List.append_assoc, takeBytes_append_slice_of_le text lower]
      _ = text.takeBytes third := takeBytes_append_slice_of_le text upper
      _ = text.takeBytes first ++ text.slice first third :=
          (takeBytes_append_slice_of_le text (Nat.le_trans lower upper)).symm
  exact List.append_cancel_left joined

/-! ## The boundaries of a slice -/

theorem isGreatest_floorBoundary (text : Text) (index : Nat) :
    IsGreatest { offset | text.isBoundary offset ∧ offset ≤ min index text.byteLength }
      (text.floorBoundary index) := by
  constructor
  · refine ⟨isBoundary_floorBoundary text index, ?_⟩
    exact Nat.le_min.mpr ⟨floorBoundary_le text index, floorBoundary_le_byteLength text index⟩
  · rintro offset ⟨boundary, below⟩
    exact le_floorBoundary boundary (Nat.le_trans below (Nat.min_le_left _ _))

theorem floorBoundary_mono (text : Text) : Monotone text.floorBoundary := by
  intro lower upper ordered
  apply le_floorBoundary (isBoundary_floorBoundary text lower)
  exact Nat.le_trans (floorBoundary_le text lower) ordered

theorem floorBoundary_floorBoundary (text : Text) (index : Nat) :
    text.floorBoundary (text.floorBoundary index) = text.floorBoundary index :=
  floorBoundary_of_isBoundary (isBoundary_floorBoundary text index)

/-- A slice stands between the boundaries below the ends of its span.  The first
one is looked for in front of the second one. -/
theorem slice_between (text : Text) (start stop : Nat) :
    ∃ front back, text = front ++ text.slice start stop ++ back ∧
      front.byteLength = text.floorBoundary (min start (text.floorBoundary stop)) ∧
      (front ++ text.slice start stop).byteLength = text.floorBoundary stop := by
  have upToStop := text.takeBytes_append_slice start stop
  refine ⟨text.takeBytes (min start (text.floorBoundary stop)), text.dropBytes stop, ?_, rfl, ?_⟩
  · rw [upToStop, takeBytes_append_dropBytes]
  · rw [upToStop, floorBoundary]

/-- The slice of a span, wherever its ends lie, is made of the characters that
end behind its start and not behind its stop, and spans that meet have slices
that join.  A slice stands between the boundaries below the ends of its span:
such a boundary is the greatest one that lies neither beyond the offset nor
beyond the text, it grows with the offset, and the boundary below it is itself. -/
theorem slice_selects_characters (text : Text) :
    (∀ start stop, text.slice start stop = text.endingIn start stop) ∧
    (∀ first second third, first ≤ second → second ≤ third →
      text.slice first second ++ text.slice second third = text.slice first third) ∧
    (∀ start stop, ∃ front back, text = front ++ text.slice start stop ++ back ∧
      front.byteLength = text.floorBoundary (min start (text.floorBoundary stop)) ∧
      (front ++ text.slice start stop).byteLength = text.floorBoundary stop) ∧
    (∀ index, IsGreatest { offset | text.isBoundary offset ∧ offset ≤ min index text.byteLength }
      (text.floorBoundary index)) ∧
    Monotone text.floorBoundary ∧
    ∀ index, text.floorBoundary (text.floorBoundary index) = text.floorBoundary index := by
  refine ⟨text.slice_eq_endingIn, ?_, text.slice_between, text.isGreatest_floorBoundary,
    text.floorBoundary_mono, text.floorBoundary_floorBoundary⟩
  intro first second third lower upper
  exact text.slice_append_slice lower upper

/-- Spans that meet inside of a character and end beyond the text. -/
theorem slice_selects_characters_wide :
    (1 : Nat) ≤ 5 ∧ (5 : Nat) ≤ 99 ∧ Text.slice "é€😀".toList 1 5 = "é€".toList ∧
    Text.slice "é€😀".toList 1 5 ++ Text.slice "é€😀".toList 5 99 =
      Text.slice "é€😀".toList 1 99 ∧
    Text.slice "é€😀".toList 1 99 = Text.endingIn "é€😀".toList 1 99 := by
  obtain ⟨characters, joined, -⟩ := slice_selects_characters "é€😀".toList
  exact ⟨by decide, by decide, by decide, joined 1 5 99 (by decide) (by decide), characters 1 99⟩

end Marginalia.Text
