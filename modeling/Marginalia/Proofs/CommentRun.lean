import Marginalia.Proofs.DocBlock
import Marginalia.Proofs.StrictCut
import Marginalia.Proofs.WholeCharacters
import Mathlib.Data.List.DropRight

/-!
# The run of comment lines above an offset

The comments of a declaration are looked for above its line, that is, in front
of the last line feed before it.  Main statement: what is found is the maximal
run of comment lines that ends there.  It depends neither on where the
declaration stands in its line nor on anything behind that line feed.
-/

namespace Marginalia.Comment

variable {family : Family} {source : Text} {start stop : Nat}

/-- `stop` is the offset directly behind the last line feed in front of the
boundary below `start`. -/
def IsHeadEnd (source : Text) (start stop : Nat) : Prop :=
  ∃ front tail, source.takeBytes (source.floorBoundary start) = front ++ '\n' :: tail ∧
    '\n' ∉ tail ∧ stop = (front ++ ['\n']).byteLength

/-- Comment lines from `start` to `stop`, with none above them. -/
structure IsRun (family : Family) (source : Text) (start stop : Nat) : Prop where
  ordered : start ≤ stop
  boundary : source.isBoundary start
  beginsLine : start = 0 ∨ (source.takeBytes start).getLast? = some '\n'
  comments : ∀ line ∈ (source.slice start stop).segments, isLeading family (Text.trim line)
  maximal : start = 0 ∨ ∃ line, (source.takeBytes start).segments.getLast? = some line ∧
    isLeading family (Text.trim line) = false

/-! ## The lines in front of an offset -/

/-- The line feed in front of an offset ends the head of the source. -/
theorem IsHeadEnd.split (headEnd : IsHeadEnd source start stop) :
    ∃ front tail, source.takeBytes start = front ++ '\n' :: tail ∧ '\n' ∉ tail ∧
      stop = (front ++ ['\n']).byteLength ∧ source.takeBytes stop = front ++ ['\n'] ∧
      source = front ++ ['\n'] ++ (tail ++ source.dropBytes start) := by
  obtain ⟨front, tail, before, unbroken, rfl⟩ := headEnd
  rw [Text.takeBytes_floorBoundary] at before
  have whole : source = front ++ ['\n'] ++ (tail ++ source.dropBytes start) := by
    rw [← List.append_assoc, List.append_assoc front, List.singleton_append, ← before,
      Text.takeBytes_append_dropBytes]
  refine ⟨front, tail, before, unbroken, rfl, ?_, whole⟩
  rw [whole, Text.takeBytes_append]

theorem exists_isHeadEnd (broken : '\n' ∈ source.takeBytes (source.floorBoundary start)) :
    ∃ stop, IsHeadEnd source start stop := by
  cases found : Strict.lastLineFeed? (source.takeBytes (source.floorBoundary start)) with
  | none => exact (Strict.lastLineFeed?_eq_none.mp found broken).elim
  | some offset =>
      obtain ⟨front, tail, split, unbroken, -⟩ := Strict.lastLineFeed?_eq_some found
      exact ⟨_, front, tail, split, unbroken, rfl⟩

theorem leading_of_unbroken (unbroken : '\n' ∉ source.takeBytes start) :
    leading family source start = [] := by
  rw [leading, Text.completeLines_of_not_mem unbroken]
  rfl

/-- Only the lines up to the last line feed are looked at. -/
theorem leading_of_lastFeed {front tail : Text}
    (before : source.takeBytes start = front ++ '\n' :: tail) (unbroken : '\n' ∉ tail) :
    leading family source start =
      ((Text.segments (front ++ ['\n'])).rtakeWhile fun line =>
        isLeading family (Text.trim line)).flatten := by
  rw [leading, before, Text.completeLines_eq front unbroken]
  rfl

/-- What is found does not depend on where in a line it is looked for. -/
theorem leading_of_same_line {first second : Nat} (ordered : first ≤ second)
    (unbroken : '\n' ∉ source.slice first second) :
    leading family source first = leading family source second := by
  have further := source.takeBytes_append_slice_of_le ordered
  by_cases broken : '\n' ∈ source.takeBytes first
  · rw [← Text.takeBytes_floorBoundary] at broken
    obtain ⟨stop, headEnd⟩ := exists_isHeadEnd broken
    obtain ⟨front, tail, before, tailUnbroken, -⟩ := headEnd.split
    rw [before, List.append_assoc, List.cons_append] at further
    have unbroken' : '\n' ∉ tail ++ source.slice first second := by
      rw [List.mem_append, not_or]
      exact ⟨tailUnbroken, unbroken⟩
    rw [leading_of_lastFeed before tailUnbroken, leading_of_lastFeed further.symm unbroken']
  · have unbroken' : '\n' ∉ source.takeBytes second := by
      rw [← further, List.mem_append, not_or]
      exact ⟨broken, unbroken⟩
    rw [leading_of_unbroken broken, leading_of_unbroken unbroken']

/-- What is found does not depend on what stands behind the last line feed. -/
theorem leading_of_same_head {other : Text} {start' : Nat}
    (headEnd : IsHeadEnd source start stop) (headEnd' : IsHeadEnd other start' stop)
    (same : other.takeBytes stop = source.takeBytes stop) :
    leading family other start' = leading family source start := by
  obtain ⟨front, tail, before, unbroken, -, head, -⟩ := headEnd.split
  obtain ⟨front', tail', before', unbroken', -, head', -⟩ := headEnd'.split
  rw [head, head'] at same
  rw [leading_of_lastFeed before unbroken, leading_of_lastFeed before' unbroken', same]

/-! ## Runs -/

theorem complete_of_mem_segments {text line : Text}
    (ends : ∀ last ∈ text.getLast?, last = '\n') (member : line ∈ text.segments) :
    ∃ body, '\n' ∉ body ∧ line = body ++ ['\n'] := by
  cases text using List.reverseRecOn with
  | nil => cases member
  | append_singleton front last =>
      obtain rfl : last = '\n' := ends last (List.getLast?_concat ..)
      have lineEnds := Text.getLast?_of_mem_segments member
      obtain ⟨body, unbroken, rfl | complete⟩ := Text.segments_cases member
      · exact (unbroken (List.mem_of_getLast? lineEnds)).elim
      · exact ⟨body, unbroken, complete⟩

theorem segments_flatten {lines : List Text}
    (complete : ∀ line ∈ lines, ∃ body, '\n' ∉ body ∧ line = body ++ ['\n']) :
    Text.segments lines.flatten = lines := by
  simpa using Text.segments_flatten_append complete []

/-- Comment lines behind a text that ends a run are a run. -/
theorem isRun_of_endsRun {before part : Text} (endsRun : EndsRun family before)
    (comments : ∀ line ∈ part.segments, isLeading family (Text.trim line)) (rest : Text) :
    IsRun family (before ++ part ++ rest) before.byteLength (before ++ part).byteLength := by
  have cut : (before ++ part ++ rest).takeBytes before.byteLength = before := by
    rw [List.append_assoc, Text.takeBytes_append]
  constructor
  case ordered => simp
  case boundary =>
    rw [List.append_assoc]
    exact Text.isBoundary_append before (part ++ rest)
  case beginsLine =>
    rw [cut]
    cases last : before.segments.getLast? with
    | none => exact Or.inl (by simpa using last)
    | some line => exact Or.inr (endsRun.getLast?_eq last)
  case comments => rwa [Text.slice_append]
  case maximal =>
    rw [cut]
    cases last : before.segments.getLast? with
    | none => exact Or.inl (by simpa using last)
    | some line => exact Or.inr ⟨line, rfl, (endsRun line last).2⟩

theorem IsRun.endsRun (run : IsRun family source start stop) :
    EndsRun family (source.takeBytes start) := by
  intro line last
  have nonzero : start ≠ 0 := by
    rintro rfl
    have empty : source.takeBytes 0 = [] := Text.takeBytes_append [] source
    rw [empty] at last
    cases last
  constructor
  · obtain ⟨front, split⟩ := List.getLast?_eq_some_iff.mp (run.beginsLine.resolve_left nonzero)
    rw [split] at last
    exact Text.getLast?_of_mem_segments (List.mem_of_getLast? last)
  · obtain ⟨line', last', other⟩ := run.maximal.resolve_left nonzero
    rw [last] at last'
    rwa [Option.some.inj last']

/-- Lines end with the comment lines behind the last line that is none. -/
theorem exists_comments (family : Family) (lines : List Text) :
    ∃ above run, above ++ run = lines ∧
      (∀ line ∈ above.getLast?, isLeading family (Text.trim line) = false) ∧
      ∀ line ∈ run, isLeading family (Text.trim line) := by
  refine ⟨lines.rdropWhile fun line => isLeading family (Text.trim line),
    lines.rtakeWhile fun line => isLeading family (Text.trim line),
    List.rdropWhile_append_rtakeWhile, ?_, fun line => List.mem_rtakeWhile_imp⟩
  intro line last
  obtain ⟨nonempty, rfl⟩ := List.mem_getLast?_eq_getLast last
  simpa using List.rdropWhile_last_not _ lines nonempty

/-- The head of a source ends with a run. -/
theorem exists_isRun (family : Family) (headEnd : IsHeadEnd source start stop) :
    ∃ begins, IsRun family source begins stop := by
  obtain ⟨front, tail, -, -, rfl, -, whole⟩ := headEnd.split
  obtain ⟨above, run, lines, endsAbove, comments⟩ :=
    exists_comments family (Text.segments (front ++ ['\n']))
  have complete : ∀ line ∈ above ++ run, ∃ body, '\n' ∉ body ∧ line = body ++ ['\n'] := by
    rw [lines]
    intro line member
    exact complete_of_mem_segments (by simp) member
  obtain ⟨completeAbove, completeRun⟩ := List.forall_mem_append.mp complete
  have endsRun : EndsRun family above.flatten := by
    rw [EndsRun, segments_flatten completeAbove]
    intro line last
    refine ⟨?_, endsAbove line last⟩
    obtain ⟨body, -, rfl⟩ := completeAbove line (List.mem_of_getLast? last)
    exact List.getLast?_concat ..
  rw [← segments_flatten completeRun] at comments
  have isRun := isRun_of_endsRun endsRun comments (tail ++ source.dropBytes start)
  have head : above.flatten ++ run.flatten = front ++ ['\n'] := by
    rw [← List.flatten_append, lines, Text.flatten_segments]
  rw [head, ← whole] at isRun
  exact ⟨_, isRun⟩

theorem leading_floorBoundary (family : Family) (source : Text) (start : Nat) :
    leading family source (source.floorBoundary start) = leading family source start := by
  rw [leading, Text.takeBytes_floorBoundary, leading]

/-- A run that ends with the head of the source is what is found. -/
theorem leading_of_isRun (headEnd : IsHeadEnd source start stop) {begins : Nat}
    (run : IsRun family source begins stop) :
    leading family source start = source.slice begins stop := by
  obtain ⟨front, tail, before, unbroken, -, head, -⟩ := headEnd.split
  have upToStop := source.takeBytes_append_slice_of_le run.ordered
  rw [head] at upToStop
  have ends : ∀ last ∈ (source.slice begins stop).getLast?, last = '\n' := by
    intro last found
    have lasts := congrArg List.getLast? upToStop
    rw [List.getLast?_append, found, Option.some_or, List.getLast?_concat] at lasts
    exact Option.some.inj lasts
  have found := leading_flatten (fun _ => complete_of_mem_segments ends) run.comments run.endsRun
    unbroken (source.dropBytes start)
  rw [Text.flatten_segments, upToStop, List.append_assoc front, List.singleton_append, ← before,
    Text.takeBytes_append_dropBytes] at found
  rw [← leading_floorBoundary]
  exact found

/-- Comments are looked for in front of the last line feed before an offset.
There are none without such a line feed.  Otherwise they are the run of comment
lines that ends there: some run does, and every run that does is what is found.
So offsets without a line feed between them find the same, and so do sources
that agree up to the line feed. -/
theorem leading_maximal_run (family : Family) (source : Text) :
    (∀ start, '\n' ∉ source.takeBytes (source.floorBoundary start) →
      leading family source start = []) ∧
    (∀ start, '\n' ∈ source.takeBytes (source.floorBoundary start) →
      ∃ stop, IsHeadEnd source start stop) ∧
    (∀ start stop, IsHeadEnd source start stop →
      (∃ begins, IsRun family source begins stop) ∧
      ∀ begins, IsRun family source begins stop →
        leading family source start = source.slice begins stop) ∧
    (∀ first second, first ≤ second → '\n' ∉ source.slice first second →
      leading family source first = leading family source second) ∧
    ∀ start stop, IsHeadEnd source start stop → ∀ other start', IsHeadEnd other start' stop →
      other.takeBytes stop = source.takeBytes stop →
      leading family other start' = leading family source start := by
  refine ⟨?_, fun start => exists_isHeadEnd, ?_, ?_, ?_⟩
  · intro start unbroken
    rw [Text.takeBytes_floorBoundary] at unbroken
    exact leading_of_unbroken unbroken
  · intro start stop headEnd
    refine ⟨exists_isRun family headEnd, ?_⟩
    intro begins run
    exact leading_of_isRun headEnd run
  · intro first second ordered unbroken
    exact leading_of_same_line ordered unbroken
  · intro start stop headEnd other start' headEnd' same
    exact leading_of_same_head headEnd headEnd' same

/-- Comment lines with two kinds of ending above a declaration. -/
def remarked : Text :=
  "a;\n\t// é\r\n * b\nexport é".toList

/-- The comment lines are found from inside of a character, from any place in its
line, and above any other declaration. -/
theorem leading_maximal_run_remarked :
    IsHeadEnd remarked 24 16 ∧ IsRun .javaScript remarked 3 16 ∧
    leading .javaScript remarked 24 = "\t// é\r\n * b\n".toList ∧
    leading .javaScript remarked 17 = leading .javaScript remarked 24 ∧
    IsHeadEnd (remarked.takeBytes 16 ++ ['x']) 99 16 ∧
    leading .javaScript (remarked.takeBytes 16 ++ ['x']) 99 =
      leading .javaScript remarked 24 := by
  have headEnd : IsHeadEnd remarked 24 16 :=
    ⟨"a;\n\t// é\r\n * b".toList, "export ".toList, by decide, by decide, by decide⟩
  have headEnd' : IsHeadEnd (remarked.takeBytes 16 ++ ['x']) 99 16 :=
    ⟨"a;\n\t// é\r\n * b".toList, ['x'], by decide, by decide, by decide⟩
  have run : IsRun .javaScript remarked 3 16 :=
    ⟨by decide, by decide, by decide, by decide, Or.inr ⟨"a;\n".toList, by decide, by decide⟩⟩
  obtain ⟨-, -, found, sameLine, sameHead⟩ := leading_maximal_run .javaScript remarked
  refine ⟨headEnd, run, ?_, sameLine 17 24 (by decide) (by decide), headEnd',
    sameHead 24 16 headEnd _ 99 headEnd' (by decide)⟩
  rw [(found 24 16 headEnd).2 3 run]
  decide

end Marginalia.Comment
