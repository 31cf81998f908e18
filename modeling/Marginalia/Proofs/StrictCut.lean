import Marginalia.Page
import Marginalia.Proofs.ByteOffset
import Marginalia.Proofs.Text
import Mathlib.Data.List.Induction
import Mathlib.Order.MinMax

/-!
# Strict cuts

A strict cut takes byte offsets at their word: it fails unless both of them are
character boundaries of the text and in order.  `Strict.render?` makes a page by
strict cuts alone, with every offset found by searching backwards for a
boundary, by the place of a line feed, by adding up the lengths of lines, or by
the place of a needle.  Main statement: for every source and every outline, all
of these cuts succeed, and the page is the one that `Page.render` makes.
-/

namespace Marginalia.Strict

/-! ## Offsets -/

/-- Cut out what stands between two offsets.  The cut fails unless both are
character boundaries of the text, the lower one first. -/
def cut? (text : Text) (lower upper : Nat) : Option Text :=
  if lower ≤ upper ∧ upper ≤ text.byteLength ∧ text.isBoundary lower ∧ text.isBoundary upper then
    some ((text.takeBytes upper).dropBytes lower)
  else none

/-- Add to an offset.  The sum fails beyond the end of a text of `length`
bytes. -/
def sum? (length offset more : Nat) : Option Nat :=
  if offset + more ≤ length then some (offset + more) else none

/-- Step back from an offset, byte by byte, to a character boundary. -/
def stepBack (text : Text) : Nat → Nat
  | 0 => 0
  | offset + 1 => if text.isBoundary (offset + 1) then offset + 1 else stepBack text offset

/-- The character boundary at or below an offset, or the end of the text. -/
def floor (text : Text) (offset : Nat) : Nat :=
  if text.byteLength ≤ offset then text.byteLength else stepBack text offset

/-- The offset of the last line feed. -/
def lastLineFeed? : Text → Option Nat
  | [] => none
  | c :: rest =>
    match lastLineFeed? rest with
    | some offset => some (c.utf8Size + offset)
    | none => if c == '\n' then some 0 else none

/-- The offset of the first occurrence of `needle`. -/
def find? (text needle : Text) : Option Nat :=
  (text.cut? needle).map fun (before, _) => before.byteLength

/-! ## Cutting a source -/

/-- The text of a byte span. -/
def slice? (text : Text) (start stop : Nat) : Option Text :=
  let stop := floor text stop
  let start := floor text (min start stop)
  cut? text start stop

/-- Lines with the offset at which each begins, in a text of `length` bytes. -/
def placed? (length : Nat) : Nat → List Text → Option (List (Nat × Text))
  | _, [] => some []
  | offset, line :: more =>
    (sum? length offset line.byteLength).bind fun next =>
      (placed? length next more).map ((offset, line) :: ·)

/-- Where the run of comment lines begins that ends at `stop`, given the lines
in front of `stop` from the last one up. -/
def runStart (family : Family) : Nat → List (Nat × Text) → Nat
  | stop, [] => stop
  | stop, (start, line) :: above =>
    if Comment.isLeading family (Text.trim line) then runStart family start above else stop

/-- The comment lines directly above the line of the byte at `start`. -/
def leading? (family : Family) (text : Text) (start : Nat) : Option Text :=
  (cut? text 0 (floor text start)).bind fun before =>
    match lastLineFeed? before with
    | none => some []
    | some feed =>
      (sum? before.byteLength feed 1).bind fun headEnd =>
        (cut? before 0 headEnd).bind fun head =>
          (placed? head.byteLength 0 head.segments).bind fun lines =>
            cut? text (runStart family headEnd lines.reverse) headEnd

/-- The text between the first occurrence of a method line and the next method
line, if the method line occurs. -/
def methodBody? (text method : Text) (methods : List Text) : Option (Option Text) :=
  match find? text method with
  | none => some none
  | some found =>
    (sum? text.byteLength found method.byteLength).bind fun start =>
      (cut? text start text.byteLength).bind fun rest =>
        let ends := (methods.filter fun other => !other.isEmpty).filterMap (find? rest)
        (cut? rest 0 (ends.min?.getD rest.byteLength)).map some

/-- The explanation of a method. -/
def explainMethod? (text method : Text) (methods : List Text) : Option Text :=
  (methodBody? text method methods).map fun
    | some body => Explain.functionality body
    | none => "No detailed explanation available.".toList

/-! ## Pages -/

/-- The note on a function. -/
def functionNote? (family : Family) (source : Text) (record : FunctionRecord) :
    Option FunctionNote :=
  (slice? source record.start record.stop).bind fun body =>
    (leading? family source record.start).map fun leading =>
      let context := leading ++ body
      { name := record.name
        description := Comment.declarationDescription family leading body
        parameters := record.params.map fun name =>
          (name, Tag.parameterDescription family name context)
        result := Tag.resultDescription family context
        functionality := Explain.functionality body }

/-- The note on a class. -/
def classNote? (family : Family) (source : Text) (record : ClassRecord) : Option ClassNote :=
  (slice? source record.start record.stop).bind fun body =>
    (leading? family source record.start).bind fun leading =>
      let methods := ClassBody.methods family body
      let properties := ClassBody.properties family body
      (methods.mapM fun method =>
        (explainMethod? body method methods).map fun explanation => (method, explanation)).map
          fun explained =>
            { name := record.name
              description := Comment.declarationDescription family leading body
              methods := explained
              properties := properties.map fun name => (name, ClassBody.explainProperty)
              purpose := ClassBody.explainPurpose body methods properties }

/-- The page of a file as Markdown. -/
def render? (fileName source : Text) (family : Family) (outline : Outline) : Option Text :=
  (outline.functions.mapM (functionNote? family source)).bind fun functions =>
    (outline.classes.mapM (classNote? family source)).map fun classes =>
      Page.text
        { fileName
          overview := Comment.fileDescription source
          imports := Tag.imports family source
          functions
          classes }

/-! ## Cuts that succeed -/

theorem cut?_append (before part after : Text) :
    cut? (before ++ part ++ after) before.byteLength (before ++ part).byteLength = some part := by
  have lower : (before ++ part ++ after).isBoundary before.byteLength := by
    rw [List.append_assoc]
    exact Text.isBoundary_append before (part ++ after)
  have upper := Text.isBoundary_append (before ++ part) after
  have ordered : before.byteLength ≤ (before ++ part).byteLength := by simp
  rw [cut?, if_pos ⟨ordered, Text.isBoundary_le upper, lower, upper⟩]
  exact congrArg some (Text.slice_append before part after)

theorem cut?_prefix (part after : Text) : cut? (part ++ after) 0 part.byteLength = some part :=
  cut?_append [] part after

theorem cut?_suffix (before part : Text) :
    cut? (before ++ part) before.byteLength (before ++ part).byteLength = some part := by
  simpa using cut?_append before part []

theorem sum?_of_le {length offset more : Nat} (fits : offset + more ≤ length) :
    sum? length offset more = some (offset + more) :=
  if_pos fits

private theorem stepBack_eq (text : Text) (offset : Nat) :
    stepBack text offset = text.floorBoundary offset := by
  induction offset with
  | zero => exact (Nat.le_zero.mp (text.floorBoundary_le 0)).symm
  | succ offset ih =>
      rw [stepBack]
      split
      case isTrue boundary => exact (Text.floorBoundary_of_isBoundary boundary).symm
      case isFalse inside =>
        -- the boundary below `offset + 1` is not `offset + 1` itself
        have boundary := text.isBoundary_floorBoundary (offset + 1)
        have below : text.floorBoundary (offset + 1) ≤ offset := by
          have atMost := text.floorBoundary_le (offset + 1)
          have different : text.floorBoundary (offset + 1) ≠ offset + 1 := by
            intro same
            rw [same] at boundary
            exact inside boundary
          omega
        rw [ih]
        apply Nat.le_antisymm
        · exact Text.le_floorBoundary (text.isBoundary_floorBoundary offset)
            (Nat.le_succ_of_le (text.floorBoundary_le offset))
        · exact Text.le_floorBoundary boundary below

/-- Stepping back finds the boundary behind the characters that fit. -/
theorem floor_eq_floorBoundary (text : Text) (offset : Nat) :
    floor text offset = text.floorBoundary offset := by
  rw [floor]
  split
  case isTrue beyond => exact (Text.floorBoundary_of_byteLength_le beyond).symm
  case isFalse => exact stepBack_eq text offset

/-- Every span can be cut out, wherever it lies. -/
theorem slice?_eq_some (text : Text) (start stop : Nat) :
    slice? text start stop = some (text.slice start stop) := by
  have upToStop := text.takeBytes_append_slice start stop
  have whole := text.takeBytes_append_dropBytes stop
  have cut := cut?_append (text.takeBytes (min start (text.floorBoundary stop)))
    (text.slice start stop) (text.dropBytes stop)
  rw [upToStop, whole] at cut
  simpa only [slice?, floor_eq_floorBoundary, Text.floorBoundary] using cut

/-! ## Comment lines -/

theorem lastLineFeed?_eq_none {text : Text} : lastLineFeed? text = none ↔ '\n' ∉ text := by
  induction text with
  | nil => simp [lastLineFeed?]
  | cons c rest ih =>
      cases found : lastLineFeed? rest with
      | some offset =>
          have member : '\n' ∈ rest := by
            apply Classical.byContradiction
            intro absent
            rw [ih.mpr absent] at found
            cases found
          simp [lastLineFeed?, found, member]
      | none =>
          have absent := ih.mp found
          by_cases feed : c = '\n'
          · simp [lastLineFeed?, found, feed]
          · simp [lastLineFeed?, found, feed, absent, Ne.symm feed]

/-- The last line feed splits a text into whole lines and an unbroken rest. -/
theorem lastLineFeed?_eq_some {text : Text} {offset : Nat}
    (found : lastLineFeed? text = some offset) :
    ∃ front tail, text = front ++ '\n' :: tail ∧ '\n' ∉ tail ∧ front.byteLength = offset := by
  induction text generalizing offset with
  | nil => simp [lastLineFeed?] at found
  | cons c rest ih =>
      cases later : lastLineFeed? rest with
      | some inner =>
          simp only [lastLineFeed?, later, Option.some.injEq] at found
          obtain ⟨front, tail, rfl, unbroken, rfl⟩ := ih later
          exact ⟨c :: front, tail, rfl, unbroken, by simpa using found⟩
      | none =>
          simp only [lastLineFeed?, later, beq_iff_eq] at found
          split at found
          case isTrue feed =>
            cases found
            exact ⟨[], rest, by simp [feed], lastLineFeed?_eq_none.mp later, rfl⟩
          case isFalse => cases found

private theorem placed?_concat {length offset : Nat} {lines : List Text}
    {placed : List (Nat × Text)}
    (line : Text) (found : placed? length offset lines = some placed)
    (fits : offset + Text.byteLength lines.flatten + line.byteLength ≤ length) :
    placed? length offset (lines ++ [line]) =
      some (placed ++ [(offset + Text.byteLength lines.flatten, line)]) := by
  induction lines generalizing offset placed with
  | nil =>
      cases found
      have lineFits : offset + line.byteLength ≤ length := by simpa using fits
      simp [placed?, sum?_of_le lineFits]
  | cons first lines ih =>
      simp only [List.flatten_cons, Text.byteLength_append] at fits
      have firstFits : offset + first.byteLength ≤ length := by omega
      simp only [placed?, sum?_of_le firstFits, Option.bind_some, Option.map_eq_some_iff] at found
      obtain ⟨more, foundMore, rfl⟩ := found
      have concat := ih foundMore (by omega)
      simp only [List.cons_append, placed?, sum?_of_le firstFits, Option.bind_some, concat,
        Option.map_some, List.flatten_cons, Text.byteLength_append]
      simp [Nat.add_assoc]

/-- The lengths of lines that fit add up without passing the end, and the run
of comment lines begins behind the lines above it. -/
theorem runStart_placed (family : Family) {length : Nat} (lines : List Text)
    (fits : Text.byteLength lines.flatten ≤ length) :
    ∃ placed, placed? length 0 lines = some placed ∧
      runStart family (Text.byteLength lines.flatten) placed.reverse =
        Text.byteLength (lines.reverse.dropWhile fun line =>
          Comment.isLeading family (Text.trim line)).reverse.flatten := by
  induction lines using List.reverseRecOn with
  | nil => exact ⟨[], rfl, rfl⟩
  | append_singleton lines line ih =>
      simp only [List.flatten_append, List.flatten_singleton, Text.byteLength_append] at fits
      obtain ⟨placed, found, above⟩ := ih (by omega)
      have concat := placed?_concat line found (by omega)
      refine ⟨_, concat, ?_⟩
      simp only [Nat.zero_add, List.reverse_append, List.reverse_singleton, List.singleton_append,
        runStart, List.dropWhile_cons]
      split
      · exact above
      · simp

/-- The comment lines in front of any offset can be cut out. -/
theorem leading?_eq_some (family : Family) (text : Text) (start : Nat) :
    leading? family text start = some (Comment.leading family text start) := by
  have whole := text.takeBytes_append_dropBytes start
  have before := cut?_prefix (text.takeBytes start) (text.dropBytes start)
  rw [whole] at before
  rw [leading?, floor_eq_floorBoundary, Text.floorBoundary, before, Option.bind_some,
    Comment.leading]
  cases found : lastLineFeed? (text.takeBytes start) with
  | none =>
      have unbroken := lastLineFeed?_eq_none.mp found
      simp [Text.completeLines_of_not_mem unbroken]
  | some feed =>
      obtain ⟨front, tail, split, unbroken, rfl⟩ := lastLineFeed?_eq_some found
      have feedSize : (front ++ ['\n']).byteLength = front.byteLength + 1 := by
        simp only [Text.byteLength_append]
        rfl
      have splitHead : text.takeBytes start = (front ++ ['\n']) ++ tail := by simp [split]
      have headEnd : sum? (text.takeBytes start).byteLength front.byteLength 1 =
          some (front ++ ['\n']).byteLength := by
        rw [feedSize]
        apply sum?_of_le
        rw [splitHead, Text.byteLength_append, feedSize]
        omega
      have head := cut?_prefix (front ++ ['\n']) tail
      rw [← splitHead] at head
      obtain ⟨placed, placedLines, runBegins⟩ :=
        runStart_placed family (Text.segments (front ++ ['\n'])) (Nat.le_refl _)
      rw [Text.flatten_segments] at placedLines runBegins
      simp only [headEnd, head, placedLines, Option.bind_some, runBegins]
      rw [split, Text.completeLines_eq front unbroken]
      -- the lines split into those above the run and the run itself
      have lines := congrArg List.reverse (List.takeWhile_append_dropWhile
        (p := fun line => Comment.isLeading family (Text.trim line))
        (l := (Text.segments (front ++ ['\n'])).reverse))
      rw [List.reverse_append, List.reverse_reverse] at lines
      have headSplit := congrArg List.flatten lines
      rw [List.flatten_append, Text.flatten_segments] at headSplit
      have run := cut?_append
        ((Text.segments (front ++ ['\n'])).reverse.dropWhile fun line =>
          Comment.isLeading family (Text.trim line)).reverse.flatten
        ((Text.segments (front ++ ['\n'])).reverse.takeWhile fun line =>
          Comment.isLeading family (Text.trim line)).reverse.flatten
        (tail ++ text.dropBytes start)
      rwa [headSplit, ← List.append_assoc, ← splitHead, whole] at run

/-! ## Methods -/

private theorem byteLength_take_mono (text : Text) :
    Monotone fun count => Text.byteLength (text.take count) := by
  intro fewer more ordered
  obtain ⟨between, split⟩ : text.take fewer <+: text.take more :=
    List.take_prefix_take_left ordered
  have lengths := congrArg Text.byteLength split
  rw [Text.byteLength_append] at lengths
  exact Nat.le.intro lengths

private theorem min?_map {image : Nat → Nat} (monotone : Monotone image) (values : List Nat) :
    (values.map image).min? = values.min?.map image := by
  cases values with
  | nil => rfl
  | cons first rest =>
      simp only [List.map_cons, List.min?_cons', Option.map_some, Option.some.injEq, List.foldl_map]
      exact List.foldl_hom image fun least value => (monotone.map_min).symm

/-- Needles are found at the byte lengths of the characters in front of
them. -/
theorem find?_eq_map_length (rest needle : Text) :
    find? rest needle =
      ((rest.cut? needle).map fun (body, _) => body.length).map fun count =>
        Text.byteLength (rest.take count) := by
  cases found : rest.cut? needle with
  | none => simp [find?, found]
  | some parts =>
      obtain ⟨before, after⟩ := parts
      have split := Text.cut?_eq_some found
      rw [List.append_assoc] at split
      simp only [find?, found, Option.map_some, Option.some.injEq]
      rw [split, List.take_left]

private theorem ends_eq_map (rest : Text) (methods : List Text) :
    (methods.filter fun other => !other.isEmpty).filterMap (find? rest) =
      (methods.filterMap fun other =>
        if other.isEmpty then none
        else (rest.cut? other).map fun (body, _) => body.length).map fun count =>
          Text.byteLength (rest.take count) := by
  rw [List.filterMap_filter, List.map_filterMap]
  congr 1
  funext other
  cases other.isEmpty with
  | true => rfl
  | false => exact find?_eq_map_length rest other

/-- The body of every method line can be cut out. -/
theorem methodBody?_eq_some (text method : Text) (methods : List Text) :
    methodBody? text method methods = some (ClassBody.methodBody? text method methods) := by
  rw [methodBody?, ClassBody.methodBody?, find?]
  cases found : text.cut? method with
  | none => rfl
  | some parts =>
      obtain ⟨before, rest⟩ := parts
      have split := Text.cut?_eq_some found
      have start : sum? text.byteLength before.byteLength method.byteLength =
          some (before ++ method).byteLength := by
        rw [Text.byteLength_append]
        apply sum?_of_le
        rw [split, Text.byteLength_append, Text.byteLength_append]
        omega
      have beyond := cut?_suffix (before ++ method) rest
      rw [← split] at beyond
      simp only [Option.map_some, start, beyond, Option.bind_some, ends_eq_map,
        min?_map (byteLength_take_mono rest)]
      cases (methods.filterMap fun other =>
          if other.isEmpty then none
          else (rest.cut? other).map fun (body, _) => body.length).min? with
      | none =>
          have whole := cut?_prefix rest []
          rw [List.append_nil] at whole
          simp [whole]
      | some count =>
          have body := cut?_prefix (rest.take count) (rest.drop count)
          rw [List.take_append_drop] at body
          simp [body]

/-! ## Pages -/

theorem explainMethod?_eq_some (text method : Text) (methods : List Text) :
    explainMethod? text method methods = some (ClassBody.explainMethod text method methods) := by
  rw [explainMethod?, methodBody?_eq_some, ClassBody.explainMethod]
  cases ClassBody.methodBody? text method methods <;> rfl

theorem functionNote?_eq_some (family : Family) (source : Text) (record : FunctionRecord) :
    functionNote? family source record = some (FunctionNote.of family source record) := by
  simp only [functionNote?, slice?_eq_some, leading?_eq_some, Option.bind_some, Option.map_some]
  rfl

private theorem mapM_some {α β : Type} {step : α → Option β} {image : α → β}
    (succeeds : ∀ item, step item = some (image item)) (items : List α) :
    items.mapM step = some (items.map image) := by
  induction items with
  | nil => rfl
  | cons item items ih => simp [List.mapM_cons, succeeds, ih]

theorem classNote?_eq_some (family : Family) (source : Text) (record : ClassRecord) :
    classNote? family source record = some (ClassNote.of family source record) := by
  simp only [classNote?, slice?_eq_some, leading?_eq_some, Option.bind_some]
  rw [mapM_some fun method => by rw [explainMethod?_eq_some, Option.map_some]]
  rfl

/-- Every page can be made by strict cuts, whatever the source and whatever the
spans of the outline: each offset it cuts at is a character boundary of what is
cut, the offsets of each cut are in order, and no sum of offsets passes the end
of the text.  The page so made is the page of the file. -/
theorem render?_eq_some_render (fileName source : Text) (family : Family) (outline : Outline) :
    render? fileName source family outline = some (Page.render fileName source family outline) := by
  rw [render?, mapM_some (functionNote?_eq_some family source),
    mapM_some (classNote?_eq_some family source)]
  rfl

end Marginalia.Strict
