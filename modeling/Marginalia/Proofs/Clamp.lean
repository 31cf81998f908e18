import Marginalia.Proofs.Document
import Marginalia.Proofs.Section

/-!
# Spans that leave the text

A span may reach beyond its text, and it is moved back into the text more than
once on its way to a page.  Main statement: moving spans back twice is moving
them back once, into the shorter text; and the page does not depend on it, since
what is cut out of the text is the same for a span and for the span moved back,
unless the span ends before it starts.
-/

namespace Marginalia

namespace Outline

/-- No span ends before it starts. -/
def Ordered (outline : Outline) : Prop :=
  (∀ record ∈ outline.functions, record.start ≤ record.stop) ∧
    ∀ record ∈ outline.classes, record.start ≤ record.stop

theorem clampSpan_clampSpan (first second start stop : Nat) :
    clampSpan second (clampSpan first start stop).1 (clampSpan first start stop).2 =
      clampSpan (min first second) start stop := by
  simp only [clampSpan, Prod.mk.injEq]
  omega

/-- Spans moved back twice are moved back into the shorter text. -/
theorem clamped_clamped (outline : Outline) (first second : Nat) :
    (outline.clamped first).clamped second = outline.clamped (min first second) := by
  simp only [clamped, List.map_map, Function.comp_def, clampSpan_clampSpan]

/-- Moving spans back keeps the functions with their parameters, in order. -/
theorem functions_clamped (outline : Outline) (length : Nat) :
    ((outline.clamped length).functions.map fun record => (record.name, record.params)) =
      outline.functions.map fun record => (record.name, record.params) := by
  simp only [clamped, List.map_map, Function.comp_def]

/-- Moving spans back keeps the classes, in order. -/
theorem classes_clamped (outline : Outline) (length : Nat) :
    ((outline.clamped length).classes.map fun record => record.name) =
      outline.classes.map fun record => record.name := by
  simp only [clamped, List.map_map, Function.comp_def]

end Outline

/-- A span that is not inverted is cut off at the end of the text. -/
theorem clampSpan_of_le {length start stop : Nat} (ordered : start ≤ stop) :
    clampSpan length start stop = (min start length, min stop length) := by
  simp only [clampSpan, Prod.mk.injEq, and_true]
  omega

theorem Comment.leading_min_byteLength (family : Family) (source : Text) (start : Nat) :
    leading family source (min start source.byteLength) = leading family source start := by
  simp only [leading, Text.takeBytes_min_byteLength]

theorem FunctionNote.of_clamped (family : Family) (source : Text) {record : FunctionRecord}
    (ordered : record.start ≤ record.stop) :
    FunctionNote.of family source
        { record with
          start := (clampSpan source.byteLength record.start record.stop).1
          stop := (clampSpan source.byteLength record.start record.stop).2 } =
      FunctionNote.of family source record := by
  rw [clampSpan_of_le ordered]
  apply FunctionNote.of_congr
  · rfl
  · rfl
  · exact Text.slice_min_byteLength source record.start record.stop
  · exact Comment.leading_min_byteLength family source record.start

theorem ClassNote.of_clamped (family : Family) (source : Text) {record : ClassRecord}
    (ordered : record.start ≤ record.stop) :
    ClassNote.of family source
        { record with
          start := (clampSpan source.byteLength record.start record.stop).1
          stop := (clampSpan source.byteLength record.start record.stop).2 } =
      ClassNote.of family source record := by
  rw [clampSpan_of_le ordered]
  apply ClassNote.of_congr
  · rfl
  · exact Text.slice_min_byteLength source record.start record.stop
  · exact Comment.leading_min_byteLength family source record.start

/-- The page of a file is the same for spans that have been moved back. -/
theorem Page.render_clamped (fileName source : Text) (family : Family) {outline : Outline}
    (ordered : outline.Ordered) :
    render fileName source family (outline.clamped source.byteLength) =
      render fileName source family outline := by
  simp only [render, Page.of, Outline.clamped, List.map_map]
  congr 2
  · apply List.map_congr_left
    intro record member
    exact FunctionNote.of_clamped family source (ordered.1 record member)
  · apply List.map_congr_left
    intro record member
    exact ClassNote.of_clamped family source (ordered.2 record member)

namespace Generator

/-- What a companion found is moved back into the file and then into its text,
which is moving it back once. -/
theorem document_of_companion {view : View} {companion : Companion} {path source : Text}
    {found : Outline} (supported : Language.ofPath path = .ok .python)
    (stored : view.Holds path source)
    (answered : companion.outline (companion.respond (Text.toBytes source)) = .ok found) :
    document view companion path =
      Page.render (title path) source .python
        (found.clamped (min (Text.toBytes source).length source.byteLength)) := by
  have parsed : outlineOrEmpty view companion .python path =
      found.clamped (Text.toBytes source).length := by
    simp only [outlineOrEmpty, outline, stored.2, Language.family, answered]
  rw [document_eq_render companion supported stored, parsed, Outline.clamped_clamped]
  rfl

end Generator

/-- Moving spans back into a text agrees with cutting at the spans themselves.
A page is the same for an outline and for the outline moved back into the source,
unless a span ends before it starts.  For every outline, moving it back twice is
moving it back once, into the shorter text, so that this is what becomes of the
answer of a companion; and names, parameters and order are kept. -/
theorem Outline.clamped_agrees (outline : Outline) :
    (outline.Ordered → ∀ fileName source family,
      Page.render fileName source family (outline.clamped source.byteLength) =
        Page.render fileName source family outline) ∧
    (∀ first second,
      (outline.clamped first).clamped second = outline.clamped (min first second)) ∧
    (∀ length,
      ((outline.clamped length).functions.map fun record => (record.name, record.params)) =
          (outline.functions.map fun record => (record.name, record.params)) ∧
        ((outline.clamped length).classes.map fun record => record.name) =
          outline.classes.map fun record => record.name) ∧
    ∀ (view : View) (companion : Companion) (path source : Text),
      Language.ofPath path = .ok .python →
      view.Holds path source →
      companion.outline (companion.respond (Text.toBytes source)) = .ok outline →
      Generator.document view companion path =
        Page.render (Generator.title path) source .python
          (outline.clamped (min (Text.toBytes source).length source.byteLength)) := by
  refine ⟨?_, outline.clamped_clamped, ?_, ?_⟩
  · intro ordered fileName source family
    exact Page.render_clamped fileName source family ordered
  · intro length
    exact ⟨outline.functions_clamped length, outline.classes_clamped length⟩
  · intro view companion path source supported stored answered
    exact Generator.document_of_companion supported stored answered

/-- The answer of a companion with a span that begins inside a character and
ends beyond the text. -/
theorem Outline.clamped_agrees_beyond_text :
    ∃ (outline : Outline) (companion : Companion),
      outline.Ordered ∧ outline.clamped (Text.byteLength "é = 1".toList) ≠ outline ∧
        companion.outline (companion.respond (Text.toBytes "é = 1".toList)) = .ok outline ∧
        Generator.document (Generator.textView "é = 1".toList) companion "a.py".toList =
          Page.render "a.py".toList "é = 1".toList .python outline := by
  let outline : Outline :=
    { functions := [{ name := ['f'], params := [], start := 1, stop := 9 }], classes := [] }
  let answer : Bytes := Text.toBytes "[[[\"f\", [], 1, 9]], []]".toList
  let companion : Companion :=
    { program := [], script := [], respond := fun _ => .finished (.exited 0) answer [] }
  have ordered : outline.Ordered := by simp [outline, Outline.Ordered]
  have answered : companion.outline (companion.respond (Text.toBytes "é = 1".toList)) =
      .ok outline := by decide +kernel
  obtain ⟨pages, -, -, documents⟩ := Outline.clamped_agrees outline
  refine ⟨outline, companion, ordered, by decide, answered, ?_⟩
  rw [documents _ companion "a.py".toList "é = 1".toList rfl ⟨rfl, rfl⟩ answered, ← pages ordered]
  rfl

end Marginalia
