import Marginalia.Page
import Marginalia.Proofs.ByteOffset
import Marginalia.Proofs.Text
import Mathlib.Data.List.TakeWhile

/-!
# What a section is made from

The section of a function or class is made from the text of its span and from
the comment lines above it, and from nothing else of the source.  Main
statement: text behind a source changes no section, and neither does text in
front of it, unless a comment at the end of that text runs on into the source.
-/

namespace Marginalia

/-! ## Notes -/

/-- The note on a function looks at its span and at the comment lines above it
only. -/
theorem FunctionNote.of_congr {family : Family} {source source' : Text}
    {record record' : FunctionRecord} (names : record.name = record'.name)
    (params : record.params = record'.params)
    (bodies : source.slice record.start record.stop = source'.slice record'.start record'.stop)
    (comments : Comment.leading family source record.start =
      Comment.leading family source' record'.start) :
    FunctionNote.of family source record = FunctionNote.of family source' record' := by
  simp only [FunctionNote.of, names, params, bodies, comments]

/-- The note on a class looks at its span and at the comment lines above it
only. -/
theorem ClassNote.of_congr {family : Family} {source source' : Text}
    {record record' : ClassRecord} (names : record.name = record'.name)
    (bodies : source.slice record.start record.stop = source'.slice record'.start record'.stop)
    (comments : Comment.leading family source record.start =
      Comment.leading family source' record'.start) :
    ClassNote.of family source record = ClassNote.of family source' record' := by
  simp only [ClassNote.of, names, bodies, comments]

/-! ## Comment lines -/

namespace Comment

/-- Whether no run of comment lines goes on from a text into what follows it:
the last line of the text, if there is one, is complete and no comment line. -/
def EndsRun (family : Family) (text : Text) : Prop :=
  ∀ line ∈ text.segments.getLast?,
    line.getLast? = some '\n' ∧ isLeading family (Text.trim line) = false

instance (family : Family) (text : Text) : Decidable (EndsRun family text) :=
  inferInstanceAs (Decidable (∀ line ∈ text.segments.getLast?,
    line.getLast? = some '\n' ∧ isLeading family (Text.trim line) = false))

theorem EndsRun.getLast?_eq {family : Family} {before line : Text}
    (endsRun : EndsRun family before) (last : before.segments.getLast? = some line) :
    before.getLast? = some '\n' := by
  obtain ⟨above, split⟩ := List.getLast?_eq_some_iff.mp last
  have flat := Text.flatten_segments before
  rw [split, List.flatten_append, List.flatten_singleton] at flat
  rw [← flat, List.getLast?_append, (endsRun line last).1]
  rfl

/-- The complete lines of a text behind complete lines. -/
theorem completeLines_append {before : Text} (ends : before.getLast? = some '\n') (text : Text) :
    ((before ++ text).segments.filter fun line => line.getLast? == some '\n') =
      before.segments ++ text.segments.filter fun line => line.getLast? == some '\n' := by
  obtain ⟨front, rfl⟩ := List.getLast?_eq_some_iff.mp ends
  have complete := Text.completeLines_eq front List.not_mem_nil
  rw [Text.segments_append ends, List.filter_append, complete]

/-- Comment lines above a declaration are looked for in front of it, up to a
line that is none. -/
theorem leading_shift {family : Family} {before : Text} (endsRun : EndsRun family before)
    (source after : Text) {start : Nat} (within : start ≤ source.byteLength) :
    leading family (before ++ source ++ after) (before.byteLength + start) =
      leading family source start := by
  unfold leading
  rw [List.append_assoc, Text.takeBytes_append_left, Text.takeBytes_append_right within]
  cases last : before.segments.getLast? with
  | none =>
      have empty : before = [] := by simpa using last
      rw [empty, List.nil_append]
  | some line =>
      have notLeading := (endsRun line last).2
      obtain ⟨above, split⟩ := List.getLast?_eq_some_iff.mp last
      have ends := endsRun.getLast?_eq last
      -- the run stops at the last line in front of the source at the latest
      simp only [completeLines_append ends, split, List.reverse_append, List.reverse_singleton,
        List.singleton_append, List.takeWhile_append, List.takeWhile_cons, notLeading]
      split
      case isTrue sameLength =>
        have everyLine := (List.takeWhile_prefix _).eq_of_length sameLength
        simp only [everyLine, Bool.false_eq_true, if_false, List.append_nil]
      case isFalse => rfl

end Comment

/-! ## Sections -/

/-- The record with its span moved by so many bytes. -/
def FunctionRecord.shifted (record : FunctionRecord) (distance : Nat) : FunctionRecord :=
  { record with start := distance + record.start, stop := distance + record.stop }

/-- The record with its span moved by so many bytes. -/
def ClassRecord.shifted (record : ClassRecord) (distance : Nat) : ClassRecord :=
  { record with start := distance + record.start, stop := distance + record.stop }

theorem FunctionNote.of_shifted {family : Family} {before : Text}
    (endsRun : Comment.EndsRun family before) (source after : Text) {record : FunctionRecord}
    (ordered : record.start ≤ record.stop) (within : record.stop ≤ source.byteLength) :
    FunctionNote.of family (before ++ source ++ after) (record.shifted before.byteLength) =
      FunctionNote.of family source record := by
  apply FunctionNote.of_congr
  · rfl
  · rfl
  · exact Text.slice_shift before source after record.start within
  · exact Comment.leading_shift endsRun source after (Nat.le_trans ordered within)

theorem ClassNote.of_shifted {family : Family} {before : Text}
    (endsRun : Comment.EndsRun family before) (source after : Text) {record : ClassRecord}
    (ordered : record.start ≤ record.stop) (within : record.stop ≤ source.byteLength) :
    ClassNote.of family (before ++ source ++ after) (record.shifted before.byteLength) =
      ClassNote.of family source record := by
  apply ClassNote.of_congr
  · rfl
  · exact Text.slice_shift before source after record.start within
  · exact Comment.leading_shift endsRun source after (Nat.le_trans ordered within)

namespace Page

/-- A section is local.  Text behind the source does not change it, and neither
does text in front of the source that ends a run of comment lines, where the
span of the record moves by the length of that text. -/
theorem section_shifted {family : Family} {before : Text}
    (endsRun : Comment.EndsRun family before) (source after : Text) :
    (∀ record : FunctionRecord, record.start ≤ record.stop → record.stop ≤ source.byteLength →
      functionText (FunctionNote.of family (before ++ source ++ after)
          (record.shifted before.byteLength)) =
        functionText (FunctionNote.of family source record)) ∧
    ∀ record : ClassRecord, record.start ≤ record.stop → record.stop ≤ source.byteLength →
      classText (ClassNote.of family (before ++ source ++ after)
          (record.shifted before.byteLength)) =
        classText (ClassNote.of family source record) := by
  constructor
  · intro record ordered within
    rw [FunctionNote.of_shifted endsRun source after ordered within]
  · intro record ordered within
    rw [ClassNote.of_shifted endsRun source after ordered within]

/-- A span that begins inside a character, below a comment in the first line of
its source and a blank line above that. -/
theorem section_shifted_below_blank_line :
    Comment.EndsRun .javaScript "// é\n\n".toList ∧
    functionText (FunctionNote.of .javaScript
        ("// é\n\n".toList ++ "// ü\né function f() {}".toList ++ "\n// ö".toList)
        (FunctionRecord.shifted { name := ['f'], params := [], start := 7, stop := 24 }
          (Text.byteLength "// é\n\n".toList))) =
      functionText (FunctionNote.of .javaScript "// ü\né function f() {}".toList
        { name := ['f'], params := [], start := 7, stop := 24 }) ∧
    classText (ClassNote.of .javaScript
        ("// é\n\n".toList ++ "// ü\né function f() {}".toList ++ "\n// ö".toList)
        (ClassRecord.shifted { name := ['f'], start := 7, stop := 24 }
          (Text.byteLength "// é\n\n".toList))) =
      classText (ClassNote.of .javaScript "// ü\né function f() {}".toList
        { name := ['f'], start := 7, stop := 24 }) := by
  have endsRun : Comment.EndsRun .javaScript "// é\n\n".toList := by decide
  have sections := section_shifted endsRun "// ü\né function f() {}".toList "\n// ö".toList
  refine ⟨endsRun, ?_, ?_⟩
  · exact sections.1 { name := ['f'], params := [], start := 7, stop := 24 }
      (by decide) (by decide)
  · exact sections.2 { name := ['f'], start := 7, stop := 24 } (by decide) (by decide)

end Page

end Marginalia
