import Marginalia.Proofs.DefinitionTree
import Marginalia.Proofs.FileForm
import Marginalia.Proofs.LinePosition
import Mathlib.Data.List.Forall2

/-!
# The spans of definitions

Which part of a text the span of a definition cuts out.  Main statement: the
records of a file are those of its definitions, one by one; each end of a span is
the true byte offset exactly if what comes before it fits the form of the file, and
where both ends are, the span cuts out the definition, from its keyword to the end
of its last statement.
-/

namespace Marginalia.Offside

open Grammar.Tree (forestTokens)

/-! ## Records -/

theorem offsets_of_span? {starts : List Nat} {phrase : Phrase} {parts : List OffsideTree}
    {first last : Token} {start stop : Nat}
    (isFirst : (visible (forestTokens parts)).head? = some first)
    (isLast : (visible (forestTokens parts)).getLast? = some last)
    (spans : span? starts (.node phrase parts) = some (start, stop)) :
    offset? starts first.start = some start ∧ offset? starts last.stop = some stop := by
  have tokens : (Grammar.Tree.node phrase parts).tokens = forestTokens parts := rfl
  have extent : extent? (.node phrase parts) = some (first.start, last.stop) := by
    rw [extent?, tokens, isFirst, isLast]
    rfl
  rw [span?_eq_bind, extent, Option.bind_some] at spans
  obtain ⟨_, atFirst, found⟩ := Option.bind_eq_some_iff.mp spans
  obtain ⟨_, atLast, same⟩ := Option.map_eq_some_iff.mp found
  cases same
  exact ⟨atFirst, atLast⟩

/-- A definition with these parts is read as `own` behind `passed`: it begins with its
first word, one of the openings, and ends with the last token of its last statement. -/
structure Heard (prepared : Text) (openings : List Text) (parts : List OffsideTree)
    (passed own : Text) : Prop where
  whole : passed ++ own <+: prepared
  begins : ∃ first, (visible (forestTokens parts)).head? = some first ∧
    first.text ∈ openings ∧ first.text <+: own ∧ first.start = Place.origin.after passed
  ends : ∃ statement last, lastStatement? parts = some statement ∧
    (visible statement.tokens).getLast? = some last ∧ last.text <:+ own ∧
    last.stop = Place.origin.after (passed ++ own)

/-- What is heard as `own` behind `passed` is `content` behind `front` in the text of a
file, and begins there with the same word. -/
structure Stands (form : Form) (text : Text) (openings : List Text)
    (passed own front content : Text) : Prop where
  whole : front ++ content <+: text
  opens : ∃ word ∈ openings, word <+: own ∧ word <+: content
  hearsFront : form.hear front = some (form.mark ++ passed)
  hears : form.hear (front ++ content) = some (form.mark ++ (passed ++ own))

/-- The true offsets of what stands in a text, compared with a span. -/
structure Spans (form : Form) (text front content : Text) (start stop : Nat) : Prop where
  start_iff : start = front.byteLength ↔ form.Fits front
  stop_iff : stop = (front ++ content).byteLength ↔ form.Fits (front ++ content)
  slice : form.Fits front → form.Fits (front ++ content) → text.slice start stop = content

/-- The tokens of these parts are laid out in a text, with others around them. -/
def Placed (text : Text) (parts : List OffsideTree) : Prop :=
  ∃ before behind place, Laid .origin text (before ++ forestTokens parts ++ behind) place []

/-- What lies between the first and the last token of a laid out tree. -/
theorem Placed.spread {text : Text} {parts : List OffsideTree} {first last : Token}
    (placed : Placed text parts) (isFirst : (visible (forestTokens parts)).head? = some first)
    (isLast : (visible (forestTokens parts)).getLast? = some last) :
    ∃ front more rest, text = front ++ (first.text ++ more) ++ rest ∧
      first.start = Place.origin.after front ∧ last.text <:+ first.text ++ more ∧
      last.stop = Place.origin.after (front ++ (first.text ++ more)) ∧
      Sealed last.text rest := by
  obtain ⟨before, behind, place, laid⟩ := placed
  obtain ⟨_, _, laidFront, -⟩ := laid.split
  obtain ⟨_, _, laidBefore, laidOwn⟩ := laidFront.split
  obtain ⟨passed, rfl, rfl⟩ := laidBefore.passed
  obtain ⟨gap, read, rest, rfl, atFirst, ⟨more, rfl⟩, atLast, closes, isSealed⟩ :=
    laidOwn.spread isFirst isLast
  refine ⟨passed ++ gap, more, rest, ?_, ?_, closes, ?_, isSealed⟩
  · simp only [List.append_assoc]
  · rw [atFirst, Place.after_append]
  · simp only [atLast, Place.after_append]

/-- A definition whose tokens are laid out in a text is read there, and its span is
looked up from where it begins and ends. -/
theorem Placed.heard {prepared : Text} {openings : List Text} {phrase : Phrase}
    {parts : List OffsideTree} {starts : List Nat} {start stop : Nat}
    (placed : Placed prepared parts) (defines : Defines openings parts)
    (spans : span? starts (.node phrase parts) = some (start, stop)) :
    ∃ passed own rest, prepared = passed ++ own ++ rest ∧ Sealed own rest ∧
      Heard prepared openings parts passed own ∧
      offset? starts (Place.origin.after passed) = some start ∧
      offset? starts (Place.origin.after (passed ++ own)) = some stop := by
  obtain ⟨first, last, statement, isFirst, opening, isLast, isStatement, ends⟩ := defines
  obtain ⟨passed, more, rest, rfl, atStart, closes, atStop, isSealed⟩ :=
    placed.spread isFirst isLast
  obtain ⟨startOffset, stopOffset⟩ := offsets_of_span? isFirst isLast spans
  rw [atStart] at startOffset
  rw [atStop] at stopOffset
  refine ⟨passed, first.text ++ more, rest, rfl, ?_, ⟨List.prefix_append .., ?_, ?_⟩, startOffset,
    stopOffset⟩
  · obtain ⟨inner, same⟩ := closes
    rw [← same]
    exact isSealed.append_left inner
  · exact ⟨first, isFirst, opening, List.prefix_append .., atStart⟩
  · exact ⟨statement, last, isStatement, ends, closes, atStop⟩

/-- The places where something is heard are put at its true offsets exactly if what
comes before fits the form of the file. -/
theorem Stands.spans {form : Form} {text passed own front content : Text} {openings : List Text}
    {start stop : Nat} (stands : Stands form text openings passed own front content)
    (regular : form.Regular)
    (atStart : offset? (lineStarts (Text.toBytes text)) (Place.origin.after passed) = some start)
    (atStop : offset? (lineStarts (Text.toBytes text)) (Place.origin.after (passed ++ own)) =
      some stop) : Spans form text front content start stop := by
  obtain ⟨back, rfl⟩ := stands.whole
  have start_iff : start = front.byteLength ↔ form.Fits front := by
    rw [List.append_assoc] at atStart
    exact Form.offset_iff regular stands.hearsFront atStart
  have stop_iff : stop = (front ++ content).byteLength ↔ form.Fits (front ++ content) :=
    Form.offset_iff regular stands.hears atStop
  refine ⟨start_iff, stop_iff, ?_⟩
  intro fitsStart fitsStop
  rw [start_iff.mpr fitsStart, stop_iff.mpr fitsStop]
  exact Text.slice_append ..

/-! ## Outlines -/

/-- What is recorded of a definition describes it.  The span leads from where the
definition begins in what is read of the file to where it ends; and if the form of the
file is regular, the definition stands in the text of the file, where its ends are
compared with the span. -/
def Describes (codecs : Codecs) (text prepared : Text) (openings : List Text)
    (parts : List OffsideTree) (name : Text) (start stop : Nat) : Prop :=
  name = definedName parts ∧ ∃ passed own, Heard prepared openings parts passed own ∧
    offset? (lineStarts (Text.toBytes text)) (Place.origin.after passed) = some start ∧
    offset? (lineStarts (Text.toBytes text)) (Place.origin.after (passed ++ own)) = some stop ∧
    ((Form.ofText codecs text).Regular → ∃ front content,
      Stands (Form.ofText codecs text) text openings passed own front content ∧
      Spans (Form.ofText codecs text) text front content start stop)

end Marginalia.Offside
