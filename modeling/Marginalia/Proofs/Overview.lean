import Marginalia.Page
import Marginalia.Proofs.CommentRun
import Marginalia.Proofs.Linewise
import Marginalia.Proofs.Note

/-!
# Descriptions in the overview

The overview of a page says what all line comments of the source say.  A
declaration without documentation is described by the line comments in front of
it.  Main statement: what the overview says is what the comments above those of
the declaration say, then the description, then what the comments below say.
-/

namespace Marginalia

namespace Comment

variable {family : Family} {source : Text} {start : Nat}

/-- What line comments of one family say. -/
def lineRemarks (family : Family) (text : Text) : List Text :=
  text.lines.filterMap fun line => ((Text.trim line).after? family.marker).map Text.trim

/-- A line in front of a declaration is a line comment of its family or of none. -/
theorem lineText?_of_isLeading {line : Text} (leads : isLeading family line) :
    lineText? line = (line.after? family.marker).map Text.trim := by
  cases family with
  | javaScript =>
      simp only [isLeading, Text.startsWith, Bool.or_eq_true, List.isPrefixOf_iff_prefix] at leads
      rcases leads with (⟨rest, rfl⟩ | ⟨rest, rfl⟩) | ⟨rest, rfl⟩
      · rfl
      · rfl
      · rfl
  | python =>
      simp only [isLeading, Text.startsWith, Bool.or_eq_true, List.isPrefixOf_iff_prefix] at leads
      rcases leads with ⟨rest, rfl⟩ | ⟨rest, rfl⟩
      · rfl
      · rfl

/-- Among lines in front of a declaration both families find the same. -/
theorem remarks_eq_lineRemarks {text : Text}
    (comments : ∀ segment ∈ text.segments, isLeading family (Text.trim segment)) :
    remarks text = lineRemarks family text := by
  apply List.filterMap_congr
  intro line member
  obtain ⟨segment, inside, rfl⟩ := List.mem_map.mp member
  apply lineText?_of_isLeading
  rw [Text.trim_withoutEnding]
  exact comments segment inside

/-- The span of the comments in front of an offset.  It ends behind the last line
feed before the offset, and where there is no line feed it is empty. -/
structure LiesAt (family : Family) (source : Text) (start begins stop : Nat) : Prop where
  head : IsHeadEnd source start stop ∨ '\n' ∉ source.takeBytes start ∧ stop = 0
  length : begins + (leading family source start).byteLength = stop
  slice : source.slice begins stop = leading family source start

theorem liesAt_of_isRun {begins stop : Nat} (headEnd : IsHeadEnd source start stop)
    (run : IsRun family source begins stop) : LiesAt family source start begins stop := by
  have found := leading_of_isRun headEnd run
  refine ⟨Or.inl headEnd, ?_, found.symm⟩
  obtain ⟨front, tail, -, -, ends, head, -⟩ := headEnd.split
  have joined := source.takeBytes_append_slice_of_le run.ordered
  have above : (source.takeBytes begins).byteLength = begins :=
    Text.floorBoundary_of_isBoundary run.boundary
  calc
    begins + (leading family source start).byteLength =
        (source.takeBytes begins ++ source.slice begins stop).byteLength := by
      rw [found, Text.byteLength_append, above]
    _ = stop := by rw [joined, head, ← ends]

/-- What the comments of a source say is what those above a run say, those of the
run and those below it. -/
theorem remarks_of_isRun {begins stop : Nat} (headEnd : IsHeadEnd source start stop)
    (run : IsRun family source begins stop) :
    remarks source = remarks (source.takeBytes begins) ++
      lineRemarks family (source.slice begins stop) ++ remarks (source.dropBytes stop) := by
  obtain ⟨front, tail, -, -, -, head, -⟩ := headEnd.split
  have joined := source.takeBytes_append_slice_of_le run.ordered
  have endsAbove : (source.takeBytes begins).EndsLine := by
    rcases run.beginsLine with rfl | feed
    · exact Or.inl (Text.takeBytes_append [] source)
    · exact Or.inr feed
  have endsHead : (source.takeBytes stop).EndsLine := by
    rw [head]
    exact Or.inr (List.getLast?_concat ..)
  calc
    remarks source = remarks (source.takeBytes stop ++ source.dropBytes stop) := by
      rw [Text.takeBytes_append_dropBytes]
    _ = remarks (source.takeBytes stop) ++ remarks (source.dropBytes stop) :=
      linewise_remarks.append endsHead _
    _ = remarks (source.takeBytes begins) ++ remarks (source.slice begins stop) ++
          remarks (source.dropBytes stop) := by
      rw [← joined, linewise_remarks.append endsAbove]
    _ = _ := by rw [remarks_eq_lineRemarks run.comments]

/-- The comments in front of an offset lie somewhere, and what they say stands in
what all comments say. -/
theorem exists_liesAt (family : Family) (source : Text) (start : Nat) :
    ∃ begins stop, LiesAt family source start begins stop ∧
      remarks source = remarks (source.takeBytes begins) ++
        lineRemarks family (leading family source start) ++ remarks (source.dropBytes stop) := by
  by_cases broken : '\n' ∈ source.takeBytes start
  · have broken' := broken
    rw [← Text.takeBytes_floorBoundary] at broken'
    obtain ⟨stop, headEnd⟩ := exists_isHeadEnd broken'
    obtain ⟨begins, run⟩ := exists_isRun family headEnd
    refine ⟨begins, stop, liesAt_of_isRun headEnd run, ?_⟩
    rw [leading_of_isRun headEnd run]
    exact remarks_of_isRun headEnd run
  · have none : leading family source start = [] := leading_of_unbroken broken
    have front : source.takeBytes 0 = [] := Text.takeBytes_append [] source
    have back : source.dropBytes 0 = source := Text.dropBytes_append [] source
    refine ⟨0, 0, ⟨Or.inr ⟨broken, rfl⟩, by rw [none]; rfl, ?_⟩, ?_⟩
    · rw [none, Text.slice, front, Text.dropBytes_nil]
    · rw [none, front, back]
      rfl

/-! ## Lines of the overview -/

theorem unbroken_of_lineText? {line remark : Text} (unbroken : '\n' ∉ line)
    (reads : lineText? line = some remark) : '\n' ∉ remark := by
  have behind {head rest : Text} (begins : line.after? head = some rest) :
      '\n' ∉ Text.trim rest := by
    apply Text.not_mem_trim
    rw [Text.after?_eq_some.mp begins] at unbroken
    exact fun feed => unbroken (List.mem_append_right _ feed)
  rw [lineText?] at reads
  split at reads
  case h_1 rest begins =>
    cases reads
    exact behind begins
  case h_2 =>
    obtain ⟨rest, begins, rfl⟩ := Option.map_eq_some_iff.mp reads
    exact behind begins

theorem remarks_unbroken {text remark : Text} (member : remark ∈ remarks text) :
    '\n' ∉ remark := by
  obtain ⟨line, inside, reads⟩ := List.mem_filterMap.mp member
  exact unbroken_of_lineText? (Text.not_mem_trim (Text.not_mem_of_mem_lines inside)) reads

/-- The description is empty, or its lines stand together among the lines of a
text. -/
def StandsIn (description text : Text) : Prop :=
  description = [] ∨ description.splitOn '\n' <:+: text.splitOn '\n'

theorem standsIn_joinLines {part whole : List Text} (contiguous : part <:+: whole)
    (unbroken : ∀ line ∈ whole, '\n' ∉ line) :
    StandsIn (Text.joinLines part) (Text.joinLines whole) := by
  by_cases nonempty : part = []
  · left
    rw [nonempty]
    rfl
  · right
    have nonempty' : whole ≠ [] := by
      rintro rfl
      exact nonempty (List.infix_nil.mp contiguous)
    have unbroken' : ∀ line ∈ part, '\n' ∉ line :=
      fun line member => unbroken line (contiguous.subset member)
    rw [Text.joinLines, Text.joinLines, List.splitOn_intercalate '\n' unbroken' nonempty,
      List.splitOn_intercalate '\n' unbroken nonempty']
    exact contiguous

/-- There is no documentation in front of a declaration or inside it. -/
def Undocumented (family : Family) (leading body : Text) : Prop :=
  blockDescription family leading = [] ∧ blockDescription family body = []

theorem declarationDescription_of_undocumented {before body : Text}
    (undocumented : Undocumented family before body) :
    declarationDescription family before body = Text.joinLines (lineRemarks family before) := by
  rw [declarationDescription, undocumented.1, undocumented.2]
  rfl

/-- An undocumented declaration is described in lines of the overview. -/
theorem standsIn_fileDescription {body : Text}
    (undocumented : Undocumented family (leading family source start) body) :
    StandsIn (declarationDescription family (leading family source start) body)
      (fileDescription source) := by
  rw [declarationDescription_of_undocumented undocumented]
  obtain ⟨begins, stop, -, split⟩ := exists_liesAt family source start
  exact standsIn_joinLines ⟨_, _, split.symm⟩ fun _ => remarks_unbroken

/-- The comments in front of an offset lie in a span of the source.  What all
comments say is what the comments above the span say, what the comments in it
say, which is the description of an undocumented declaration, and what the
comments below it say.  So the description of an undocumented record is a run of
lines of the overview. -/
theorem overview_around_description (fileName source : Text) (family : Family)
    (outline : Outline) :
    let page := Page.of fileName source family outline
    page.overview = Text.joinLines (remarks source) ∧
    (∀ start, ∃ begins stop, LiesAt family source start begins stop ∧
      remarks source = remarks (source.takeBytes begins) ++
        lineRemarks family (leading family source start) ++ remarks (source.dropBytes stop)) ∧
    (∀ start body, Undocumented family (leading family source start) body →
      declarationDescription family (leading family source start) body =
        Text.joinLines (lineRemarks family (leading family source start))) ∧
    (∀ record ∈ outline.functions, Undocumented family (leading family source record.start)
      (source.slice record.start record.stop) →
      StandsIn (FunctionNote.of family source record).description page.overview) ∧
    ∀ record ∈ outline.classes, Undocumented family (leading family source record.start)
      (source.slice record.start record.stop) →
      StandsIn (ClassNote.of family source record).description page.overview := by
  intro page
  refine ⟨rfl, exists_liesAt family source, ?_, ?_, ?_⟩
  · intro start body undocumented
    exact declarationDescription_of_undocumented undocumented
  · intro record _ undocumented
    exact standsIn_fileDescription undocumented
  · intro record _ undocumented
    exact standsIn_fileDescription undocumented

/-- A decorated function with a comment, and comments of both families. -/
def decorated : Text :=
  "# a\n\n# b\n@c\ndef f(): pass\n// d\n".toList

/-- The record of the function. -/
def decoratedRecord : FunctionRecord :=
  ⟨['f'], [], 12, 25⟩

/-- The comment above the decorator describes the function and stands between the
other comments of the source. -/
theorem overview_around_description_decorated :
    Undocumented .python (leading .python decorated 12) (decorated.slice 12 25) ∧
    declarationDescription .python (leading .python decorated 12) (decorated.slice 12 25) =
      ['b'] ∧
    (Page.of "f.py".toList decorated .python ⟨[decoratedRecord], []⟩).overview =
      "a\nb\nd".toList ∧
    StandsIn (FunctionNote.of .python decorated decoratedRecord).description
      (Page.of "f.py".toList decorated .python ⟨[decoratedRecord], []⟩).overview := by
  have undocumented : Undocumented .python (leading .python decorated 12)
      (decorated.slice 12 25) :=
    ⟨by decide +kernel, by decide +kernel⟩
  obtain ⟨overview, -, described, stands, -⟩ :=
    overview_around_description "f.py".toList decorated .python ⟨[decoratedRecord], []⟩
  refine ⟨undocumented, ?_, ?_, ?_⟩
  · rw [described 12 _ undocumented]
    decide +kernel
  · rw [overview]
    decide +kernel
  · exact stands decoratedRecord (List.mem_singleton_self _) undocumented

end Comment

end Marginalia
