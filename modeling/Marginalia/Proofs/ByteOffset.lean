import Marginalia.Text.Basic

/-!
# Byte offsets and character boundaries

The first characters of a text are counted in bytes by `takeBytes` and
`dropBytes`.  This module gives both of them equations that follow the text, and
identifies the cuts at character boundaries: a boundary is the byte length of a
part that the text begins with.
-/

namespace Marginalia.Text

/-! ## Byte lengths -/

private theorem foldl_utf8Size (text : Text) (total : Nat) :
    text.foldl (fun total c => total + c.utf8Size) total =
      total + text.foldl (fun total c => total + c.utf8Size) 0 := by
  induction text generalizing total with
  | nil => simp
  | cons c rest ih =>
      simp only [List.foldl_cons]
      rw [ih (total + c.utf8Size), ih (0 + c.utf8Size)]
      omega

@[simp] theorem byteLength_nil : byteLength [] = 0 := rfl

@[simp] theorem byteLength_cons (c : Char) (rest : Text) :
    byteLength (c :: rest) = c.utf8Size + byteLength rest := by
  simp only [byteLength, List.foldl_cons]
  rw [foldl_utf8Size]
  omega

@[simp] theorem byteLength_append (front back : Text) :
    byteLength (front ++ back) = byteLength front + byteLength back := by
  induction front with
  | nil => simp
  | cons c rest ih =>
      simp only [List.cons_append, byteLength_cons, ih]
      omega

@[simp] theorem byteLength_eq_zero {text : Text} : byteLength text = 0 ↔ text = [] := by
  cases text with
  | nil => simp
  | cons c rest =>
      have positive := c.utf8Size_pos
      simp only [byteLength_cons, reduceCtorEq, iff_false]
      omega

theorem byteLength_pos {text : Text} (nonempty : text ≠ []) : 0 < byteLength text :=
  Nat.pos_of_ne_zero (mt byteLength_eq_zero.mp nonempty)

/-! ## Cutting behind so many bytes -/

private theorem fitting_go_count (room count : Nat) (text : Text) :
    fitting.go room count text = count + fitting.go room 0 text := by
  induction text generalizing room count with
  | nil => simp [fitting.go]
  | cons c rest ih =>
      simp only [fitting.go]
      split
      · rw [ih _ (count + 1), ih _ (0 + 1)]
        omega
      · simp

theorem fitting_cons (c : Char) (rest : Text) (limit : Nat) :
    fitting (c :: rest) limit =
      if c.utf8Size ≤ limit then fitting rest (limit - c.utf8Size) + 1 else 0 := by
  simp only [fitting, fitting.go]
  split
  · rw [fitting_go_count]
    omega
  · rfl

@[simp] theorem takeBytes_nil (limit : Nat) : takeBytes [] limit = [] := by
  simp [takeBytes]

@[simp] theorem dropBytes_nil (offset : Nat) : dropBytes [] offset = [] := by
  simp [dropBytes]

theorem takeBytes_cons (c : Char) (rest : Text) (limit : Nat) :
    takeBytes (c :: rest) limit =
      if c.utf8Size ≤ limit then c :: takeBytes rest (limit - c.utf8Size) else [] := by
  simp only [takeBytes, fitting_cons]
  split <;> simp

theorem takeBytes_append_dropBytes (text : Text) (offset : Nat) :
    text.takeBytes offset ++ text.dropBytes offset = text := by
  simp [takeBytes, dropBytes]

theorem byteLength_takeBytes_le (text : Text) (limit : Nat) :
    byteLength (text.takeBytes limit) ≤ limit := by
  induction text generalizing limit with
  | nil => simp
  | cons c rest ih =>
      rw [takeBytes_cons]
      split
      · have shorter := ih (limit - c.utf8Size)
        simp only [byteLength_cons]
        omega
      · simp

/-- A cut at the end of a part that the text begins with gives that part. -/
theorem takeBytes_append (before after : Text) :
    (before ++ after).takeBytes (byteLength before) = before := by
  induction before with
  | nil =>
      cases after with
      | nil => simp
      | cons c rest =>
          have positive := c.utf8Size_pos
          have tooLong : ¬ c.utf8Size ≤ 0 := by omega
          simp [takeBytes_cons, tooLong]
  | cons c rest ih => simp [takeBytes_cons, ih]

theorem dropBytes_append (before after : Text) :
    (before ++ after).dropBytes (byteLength before) = after := by
  have whole := takeBytes_append_dropBytes (before ++ after) (byteLength before)
  rw [takeBytes_append] at whole
  exact List.append_cancel_left whole

theorem takeBytes_of_byteLength_le {text : Text} {limit : Nat}
    (fits : byteLength text ≤ limit) : text.takeBytes limit = text := by
  induction text generalizing limit with
  | nil => simp
  | cons c rest ih =>
      simp only [byteLength_cons] at fits
      have first : c.utf8Size ≤ limit := by omega
      rw [takeBytes_cons, if_pos first, ih (by omega)]

/-- Two cuts from the same side are the shorter cut. -/
theorem takeBytes_takeBytes (text : Text) (first second : Nat) :
    (text.takeBytes first).takeBytes second = text.takeBytes (min first second) := by
  induction text generalizing first second with
  | nil => simp
  | cons c rest ih =>
      by_cases fitsFirst : c.utf8Size ≤ first
      · by_cases fitsSecond : c.utf8Size ≤ second
        · have fits : c.utf8Size ≤ min first second := by omega
          have rooms : min (first - c.utf8Size) (second - c.utf8Size) =
              min first second - c.utf8Size := by omega
          simp only [takeBytes_cons, if_pos fitsFirst, if_pos fitsSecond, if_pos fits, ih, rooms]
        · have tooLong : ¬ c.utf8Size ≤ min first second := by omega
          simp only [takeBytes_cons, if_pos fitsFirst, if_neg fitsSecond, if_neg tooLong]
      · have tooLong : ¬ c.utf8Size ≤ min first second := by omega
        simp only [takeBytes_cons, if_neg fitsFirst, if_neg tooLong, takeBytes_nil]

/-- What stands in front moves every cut by its length. -/
theorem takeBytes_append_left (before text : Text) (offset : Nat) :
    (before ++ text).takeBytes (byteLength before + offset) = before ++ text.takeBytes offset := by
  induction before with
  | nil => simp
  | cons c rest ih =>
      have fits : c.utf8Size ≤ c.utf8Size + byteLength rest + offset := by omega
      have room : c.utf8Size + byteLength rest + offset - c.utf8Size =
          byteLength rest + offset := by omega
      rw [List.cons_append, byteLength_cons, takeBytes_cons, if_pos fits, room, ih,
        List.cons_append]

/-- The part behind a cut is what the part in front of it leaves. -/
theorem dropBytes_eq {text front rest : Text} {offset : Nat} (split : text = front ++ rest)
    (cut : text.takeBytes offset = front) : text.dropBytes offset = rest := by
  have whole := takeBytes_append_dropBytes text offset
  rw [cut] at whole
  exact List.append_cancel_left (whole.trans split)

theorem dropBytes_append_left (before text : Text) (offset : Nat) :
    (before ++ text).dropBytes (byteLength before + offset) = text.dropBytes offset := by
  refine dropBytes_eq ?_ (takeBytes_append_left before text offset)
  rw [List.append_assoc, takeBytes_append_dropBytes]

/-- What stands behind a cut does not matter to it. -/
theorem takeBytes_append_right {text : Text} {limit : Nat} (within : limit ≤ byteLength text)
    (after : Text) : (text ++ after).takeBytes limit = text.takeBytes limit := by
  have cutTwice := takeBytes_takeBytes (text ++ after) (byteLength text) limit
  rw [takeBytes_append, Nat.min_eq_right within] at cutTwice
  exact cutTwice.symm

/-- No cut goes beyond the end of the text. -/
theorem takeBytes_min_byteLength (text : Text) (limit : Nat) :
    text.takeBytes (min limit (byteLength text)) = text.takeBytes limit := by
  rw [Nat.min_comm, ← takeBytes_takeBytes, takeBytes_of_byteLength_le (Nat.le_refl _)]

theorem dropBytes_congr {text : Text} {first second : Nat}
    (same : text.takeBytes first = text.takeBytes second) :
    text.dropBytes first = text.dropBytes second :=
  dropBytes_eq (takeBytes_append_dropBytes text second).symm same

/-! ## Boundaries -/

/-- Whether an offset lies between two characters of a text or at one of its
ends. -/
def isBoundary : Text → Nat → Bool
  | [], offset => offset == 0
  | c :: rest, offset =>
    offset == 0 || (c.utf8Size ≤ offset && isBoundary rest (offset - c.utf8Size))

/-- The boundaries of a text are the byte lengths of the parts it begins
with. -/
theorem isBoundary_iff {text : Text} {offset : Nat} :
    text.isBoundary offset ↔
      ∃ before after, text = before ++ after ∧ byteLength before = offset := by
  induction text generalizing offset with
  | nil =>
      simp only [isBoundary, beq_iff_eq]
      constructor
      · rintro rfl
        exact ⟨[], [], rfl, rfl⟩
      · rintro ⟨before, after, split, rfl⟩
        obtain ⟨rfl, rfl⟩ := List.append_eq_nil_iff.mp split.symm
        rfl
  | cons c rest ih =>
      simp only [isBoundary, Bool.or_eq_true, beq_iff_eq, Bool.and_eq_true, decide_eq_true_eq, ih]
      constructor
      · rintro (rfl | ⟨fits, before, after, rfl, length⟩)
        · exact ⟨[], c :: rest, rfl, rfl⟩
        · refine ⟨c :: before, after, rfl, ?_⟩
          simp only [byteLength_cons]
          omega
      · rintro ⟨before, after, split, rfl⟩
        cases before with
        | nil => exact Or.inl rfl
        | cons d before =>
            obtain ⟨rfl, rfl⟩ := List.cons.inj split
            right
            refine ⟨by simp, before, after, rfl, ?_⟩
            simp

theorem isBoundary_append (before after : Text) :
    (before ++ after).isBoundary (byteLength before) :=
  isBoundary_iff.mpr ⟨before, after, rfl, rfl⟩

@[simp] theorem isBoundary_zero (text : Text) : text.isBoundary 0 :=
  isBoundary_append [] text

@[simp] theorem isBoundary_byteLength (text : Text) : text.isBoundary (byteLength text) := by
  simpa using isBoundary_append text []

theorem isBoundary_le {text : Text} {offset : Nat} (boundary : text.isBoundary offset) :
    offset ≤ byteLength text := by
  obtain ⟨before, after, rfl, rfl⟩ := isBoundary_iff.mp boundary
  simp

/-- Cutting behind so many bytes cuts at a boundary. -/
theorem isBoundary_floorBoundary (text : Text) (index : Nat) :
    text.isBoundary (text.floorBoundary index) := by
  have whole := takeBytes_append_dropBytes text index
  exact isBoundary_iff.mpr ⟨_, _, whole.symm, rfl⟩

theorem floorBoundary_le (text : Text) (index : Nat) : text.floorBoundary index ≤ index :=
  byteLength_takeBytes_le text index

theorem floorBoundary_le_byteLength (text : Text) (index : Nat) :
    text.floorBoundary index ≤ byteLength text :=
  isBoundary_le (isBoundary_floorBoundary text index)

/-- A boundary is where cutting behind so many bytes cuts. -/
theorem floorBoundary_of_isBoundary {text : Text} {offset : Nat}
    (boundary : text.isBoundary offset) : text.floorBoundary offset = offset := by
  obtain ⟨before, after, rfl, rfl⟩ := isBoundary_iff.mp boundary
  rw [floorBoundary, takeBytes_append]

theorem floorBoundary_of_byteLength_le {text : Text} {index : Nat}
    (beyond : byteLength text ≤ index) : text.floorBoundary index = byteLength text := by
  rw [floorBoundary, takeBytes_of_byteLength_le beyond]

/-- No boundary lies between an offset and the boundary below it. -/
theorem le_floorBoundary {text : Text} {offset index : Nat}
    (boundary : text.isBoundary offset) (below : offset ≤ index) :
    offset ≤ text.floorBoundary index := by
  have cutTwice : (text.takeBytes index).floorBoundary offset = text.floorBoundary offset := by
    rw [floorBoundary, takeBytes_takeBytes, Nat.min_eq_right below, floorBoundary]
  rw [floorBoundary_of_isBoundary boundary] at cutTwice
  rw [← cutTwice]
  exact floorBoundary_le_byteLength _ _

/-- Cutting at an offset is cutting at the boundary below it. -/
theorem takeBytes_floorBoundary (text : Text) (index : Nat) :
    text.takeBytes (text.floorBoundary index) = text.takeBytes index := by
  have whole := takeBytes_append_dropBytes text index
  calc
    text.takeBytes (text.floorBoundary index)
      = (text.takeBytes index ++ text.dropBytes index).takeBytes
          (byteLength (text.takeBytes index)) := by rw [whole, floorBoundary]
    _ = text.takeBytes index := takeBytes_append _ _

/-! ## Slices -/

/-- The slice between the ends of two parts is what stands between them. -/
theorem slice_append (before part after : Text) :
    (before ++ part ++ after).slice (byteLength before) (byteLength (before ++ part)) = part := by
  rw [slice, takeBytes_append, dropBytes_append]

/-- A slice ends behind the boundary below its end and starts behind the
boundary below its start, or at its end where the span is inverted. -/
theorem takeBytes_append_slice (text : Text) (start stop : Nat) :
    text.takeBytes (min start (text.floorBoundary stop)) ++ text.slice start stop =
      text.takeBytes stop := by
  rw [slice, Nat.min_comm, ← takeBytes_takeBytes, takeBytes_floorBoundary]
  exact takeBytes_append_dropBytes _ _

/-- A slice is made of the characters between its ends only. -/
theorem slice_shift (before text after : Text) (start : Nat) {stop : Nat}
    (within : stop ≤ byteLength text) :
    (before ++ text ++ after).slice (byteLength before + start) (byteLength before + stop) =
      text.slice start stop := by
  rw [slice, List.append_assoc, takeBytes_append_left, takeBytes_append_right within,
    dropBytes_append_left, slice]

/-- Nothing of a slice lies beyond the end of the text. -/
theorem slice_min_byteLength (text : Text) (start stop : Nat) :
    text.slice (min start (byteLength text)) (min stop (byteLength text)) =
      text.slice start stop := by
  rw [slice, takeBytes_min_byteLength, slice]
  apply dropBytes_congr
  rw [takeBytes_takeBytes, takeBytes_takeBytes, ← Nat.min_assoc, takeBytes_min_byteLength]

end Marginalia.Text
