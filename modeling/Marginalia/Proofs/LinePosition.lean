import Marginalia.Offside.Charset
import Marginalia.Proofs.TokenPlace

/-!
# Positions by line and column

A position of a file is told by its line and its column.  Main statement: the
table of line starts leads from there back to the position, so that the span of a
tree consists of the positions whose lines and columns its tokens tell.
-/

namespace Marginalia.Offside

/-! ## Lines and columns -/

/-- The line and the column of a position: one more than the line feeds before it,
and how far it is from the beginning of its line. -/
def placeAt (bytes : Bytes) (position : Nat) : Place where
  line := 1 + (bytes.take position).count 10
  column := position - lineStart bytes position

theorem offset?_placeAt {bytes : Bytes} {position : Nat} (within : position ≤ bytes.length) :
    offset? (lineStarts bytes) (placeAt bytes position) = some position := by
  rw [offset?, placeAt, Nat.add_sub_cancel_left, lineStarts_take_count within, Option.map_some,
    Nat.add_sub_of_le (lineStart_le bytes position)]

/-! ## Spans -/

/-- Where a tree begins and ends, layout apart. -/
def extent? (tree : OffsideTree) : Option (Place × Place) :=
  (visible tree.tokens).head?.bind fun first =>
    (visible tree.tokens).getLast?.map fun last => (first.start, last.stop)

/-- The span of a tree is looked up from where it begins and ends. -/
theorem span?_eq_bind (starts : List Nat) (tree : OffsideTree) :
    span? starts tree = (extent? tree).bind fun extent =>
      (offset? starts extent.1).bind fun start =>
        (offset? starts extent.2).map fun stop => (start, stop) := by
  unfold span? extent? visible
  split
  case h_1 empty => simp [empty]
  case h_2 first rest shown =>
    simp only [shown, List.head?_cons, List.getLast?_cons, Option.bind_some, Option.map_some]
    split
    case h_1 atFirst atLast => simp [atFirst, atLast]
    case h_2 missing =>
      cases atFirst : offset? starts first.start with
      | none => rfl
      | some start =>
          cases atLast : offset? starts (rest.getLast?.getD first).stop with
          | none => rfl
          | some stop => exact absurd atLast (missing start stop atFirst)

/-- The table of line starts is strictly increasing and holds one more entry than
the file has line feeds.  The line and the column of every position lead through it
back to the position, and so does the span of a tree that begins and ends at the
lines and columns of two positions. -/
theorem span?_restores_positions (bytes : Bytes) :
    (lineStarts bytes).Pairwise (· < ·) ∧
    (lineStarts bytes).length = bytes.count 10 + 1 ∧
    (∀ position ≤ bytes.length,
      ∃ start, (lineStarts bytes)[(placeAt bytes position).line - 1]? = some start ∧
        start + (placeAt bytes position).column = position) ∧
    ∀ (start stop : Nat) (tree : OffsideTree), start ≤ stop → stop ≤ bytes.length →
      extent? tree = some (placeAt bytes start, placeAt bytes stop) →
      span? (lineStarts bytes) tree = some (start, stop) := by
  refine ⟨pairwise_lineStarts bytes, length_lineStarts bytes, ?_, ?_⟩
  · intro position within
    exact Option.map_eq_some_iff.mp (offset?_placeAt within)
  · intro start stop tree ordered within extent
    rw [span?_eq_bind, extent, Option.bind_some, offset?_placeAt (ordered.trans within),
      offset?_placeAt within]
    rfl

/-- A file with empty lines and letters of two bytes, whose last line is not ended. -/
def unendedFile : Bytes :=
  Text.toBytes "\n\n# é\ndef f(): return 'ü'".toList

theorem span?_restores_positions_unended :
    7 ≤ 27 ∧ 27 ≤ unendedFile.length ∧
    ∃ tree, (((prepare? ownCodecs unendedFile).bind tokens?).bind (parse? .file)).bind
        (·.parts.head?) = some tree ∧
      extent? tree = some (placeAt unendedFile 7, placeAt unendedFile 27) ∧
      span? (lineStarts unendedFile) tree = some (7, 27) := by
  have found : ((((prepare? ownCodecs unendedFile).bind tokens?).bind (parse? .file)).bind
      (·.parts.head?)).bind extent? = some (placeAt unendedFile 7, placeAt unendedFile 27) := by
    decide +kernel
  obtain ⟨tree, parsed, extent⟩ := Option.bind_eq_some_iff.mp found
  obtain ⟨-, -, -, restores⟩ := span?_restores_positions unendedFile
  exact ⟨by decide, by decide, tree, parsed, extent,
    restores 7 27 tree (by decide) (by decide) extent⟩

end Marginalia.Offside
