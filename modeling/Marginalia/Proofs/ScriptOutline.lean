import Marginalia.Generator
import Marginalia.Proofs.Declaration
import Mathlib.Data.List.Pairwise

/-!
# What the outline of a script describes

Main statement: the records of an outline describe separate parts of the text,
in their order, each of which begins like a function or a class and ends with
the brace that closes it, or with the comments between that brace and the place
where a semicolon is put that is not there.
-/

namespace Marginalia

open Script (IsName Remark)

/-- A part of a text that is not empty and cuts no character. -/
structure Text.IsSpan (text : Text) (start stop : Nat) : Prop where
  start_lt : start < stop
  stop_le : stop ≤ text.byteLength
  start_boundary : text.isBoundary start
  stop_boundary : text.isBoundary stop

/-- A function as the text has it between the ends of its record. -/
structure FunctionRecord.Describes (record : FunctionRecord) (source : Text) : Prop where
  span : source.IsSpan record.start record.stop
  frame : ∃ opening body remark,
    source.slice record.start record.stop = opening ++ (body ++ '}' :: remark) ∧
      opening ∈ Script.functionOpenings ∧
      Remark (source.slice record.stop source.byteLength) remark
  name : record.name = Script.defaultName ∨
    IsName record.name ∧ record.name <:+: source.slice record.start record.stop
  params : ∀ param ∈ record.params, param = Script.unnamedParameter ∨
    IsName param ∧ param <:+: source.slice record.start record.stop

/-- A class as the text has it between the ends of its record. -/
structure ClassRecord.Describes (record : ClassRecord) (source : Text) : Prop where
  span : source.IsSpan record.start record.stop
  frame : ∃ opening body remark,
    source.slice record.start record.stop = opening ++ (body ++ '}' :: remark) ∧
      opening ∈ Script.classOpenings ∧
      Remark (source.slice record.stop source.byteLength) remark ∧
      (opening = "abstract".toList → remark = [])
  name : record.name = Script.defaultName ∨
    IsName record.name ∧ record.name <:+: source.slice record.start record.stop

/-- The ends of all functions and classes that are listed. -/
def Outline.spans (outline : Outline) : List (Nat × Nat) :=
  (outline.functions.map fun record => (record.start, record.stop)) ++
    outline.classes.map fun record => (record.start, record.stop)

/-- An outline that describes parts of a text, each list in the order of the
text and no two parts with a byte in common. -/
structure Outline.Describes (outline : Outline) (source : Text) : Prop where
  functions : ∀ record ∈ outline.functions, record.Describes source
  classes : ∀ record ∈ outline.classes, record.Describes source
  functions_ordered : outline.functions.Pairwise fun first second => first.start < second.start
  classes_ordered : outline.classes.Pairwise fun first second => first.start < second.start
  disjoint : outline.spans.Pairwise fun first second =>
    first.2 ≤ second.1 ∨ second.2 ≤ first.1

private theorem clampSpan_of_isSpan {text : Text} {start stop : Nat}
    (span : text.IsSpan start stop) : clampSpan text.byteLength start stop = (start, stop) := by
  have start_lt := span.start_lt
  have stop_le := span.stop_le
  simp only [clampSpan, Prod.mk.injEq]
  omega

theorem Outline.Describes.clamped_eq {outline : Outline} {source : Text}
    (describes : outline.Describes source) : outline.clamped source.byteLength = outline := by
  rw [Outline.clamped]
  congr 1
  · apply (List.map_congr_left _).trans (List.map_id _)
    intro record member
    rw [clampSpan_of_isSpan (describes.functions record member).span]
    rfl
  · apply (List.map_congr_left _).trans (List.map_id _)
    intro record member
    rw [clampSpan_of_isSpan (describes.classes record member).span]
    rfl

namespace Script

open Grammar.Rule (optional)

/-! ## Records -/

section Records

variable {dialect : Dialect} {source : Text} {offset : Nat}

theorem Stands.slice {tree : ScriptTree} (stands : Stands dialect source offset tree) :
    source.slice (offset + leadingGap tree) (offset + treeSize tree) = ownText tree.tokens := by
  obtain ⟨before, after, rfl, start, stop⟩ := stands.text
  rw [start, stop, Text.slice_append]

theorem Stands.isSpan {tree : ScriptTree} (stands : Stands dialect source offset tree)
    (nonempty : ownText tree.tokens ≠ []) :
    source.IsSpan (offset + leadingGap tree) (offset + treeSize tree) := by
  obtain ⟨before, after, rfl, start, stop⟩ := stands.text
  rw [start, stop]
  have positive := Text.byteLength_pos nonempty
  refine ⟨?_, ?_, ?_, Text.isBoundary_append ..⟩
  · rw [Text.byteLength_append]
    omega
  · rw [Text.byteLength_append _ after]
    omega
  · rw [List.append_assoc]
    exact Text.isBoundary_append ..

/-- What stands behind a tree is what is left when it has been read. -/
theorem slice_behind {tree : ScriptTree} {input rest : Cursor}
    (reads : TreeReads dialect tree input rest) (before : Text) :
    (before ++ input.remaining).slice (before.byteLength + treeSize tree)
      (before ++ input.remaining).byteLength = rest.remaining := by
  have behind := Text.slice_append (before ++ tokensText tree.tokens) rest.remaining []
  rw [List.append_nil, List.append_assoc, Text.byteLength_append before] at behind
  rw [reads.remaining, treeSize_eq]
  exact behind

/-- The first byte of an entry. -/
def Entry.start : Entry → Nat
  | .function record => record.start
  | .class record => record.start

/-- The byte behind an entry. -/
def Entry.stop : Entry → Nat
  | .function record => record.stop
  | .class record => record.stop

/-- What an entry describes. -/
def Entry.Describes (source : Text) : Entry → Prop
  | .function record => record.Describes source
  | .class record => record.Describes source

theorem Entry.Describes.start_lt {entry : Entry} (describes : entry.Describes source) :
    entry.start < entry.stop := by
  cases entry with
  | function record => exact describes.span.start_lt
  | «class» record => exact describes.span.start_lt

private theorem describes_function {name : Phrase} {parts : List ScriptTree}
    (stands : Stands dialect source offset (.node name parts))
    (framed : ∃ opening remark, Framed opening remark (Grammar.Tree.forestTokens parts) ∧
      opening ∈ functionOpenings ∧
      Remark (source.slice (offset + treeSize (.node name parts)) source.byteLength) remark) :
    FunctionRecord.Describes
      { name := boundName parts, params := parameterTexts parts
        start := offset + leadingGap (.node name parts)
        stop := offset + treeSize (.node name parts) } source := by
  obtain ⟨opening, remark, framed, opens, isRemark⟩ := framed
  obtain ⟨body, own⟩ := framed.ownText_eq
  have slice := stands.slice
  refine ⟨stands.isSpan ?_, ⟨opening, body, remark, slice.trans own, opens, isRemark⟩, ?_, ?_⟩
  · rw [Grammar.Tree.tokens, own]
    simp
  · rw [slice]
    exact boundName_stands stands
  · intro param member
    rw [slice]
    exact parameterTexts_stands stands member

private theorem describes_class {name : Phrase} {parts : List ScriptTree}
    (stands : Stands dialect source offset (.node name parts))
    (framed : ClassFramed
      (source.slice (offset + treeSize (.node name parts)) source.byteLength)
      (Grammar.Tree.forestTokens parts)) :
    ClassRecord.Describes
      { name := boundName parts
        start := offset + leadingGap (.node name parts)
        stop := offset + treeSize (.node name parts) } source := by
  obtain ⟨opening, remark, framed, opens, isRemark, bare⟩ := framed
  obtain ⟨body, own⟩ := framed.ownText_eq
  have slice := stands.slice
  refine ⟨stands.isSpan ?_, ⟨opening, body, remark, slice.trans own, opens, isRemark, bare⟩, ?_⟩
  · rw [Grammar.Tree.tokens, own]
    simp
  · rw [slice]
    exact boundName_stands stands

/-- The entry of a declaration that stands in a text describes it. -/
theorem record?_describes {tree : ScriptTree} {entry : Entry}
    (stands : Stands dialect source offset tree) (found : record? offset tree = some entry) :
    entry.Describes source := by
  have placed := stands
  obtain ⟨before, input, rest, rfl, rfl, divides, reads⟩ := placed
  have behind := slice_behind reads before
  unfold record? at found
  split at found
  case h_1 orValue parts =>
    cases found
    apply describes_function stands
    rw [behind]
    exact framed_function
      [optional (sign "*"), Phrase.bindingName.rule, (Phrase.signature true).rule] divides reads
  case h_2 mode parts =>
    cases found
    apply describes_function stands
    rw [behind]
    exact framed_function
      [optional (sign "*"), optional Phrase.bindingName.rule, (Phrase.signature true).rule]
      divides reads
  case h_3 orValue parts =>
    cases found
    apply describes_class stands
    rw [behind]
    exact classFramed_declaration divides reads
  case h_4 parts =>
    cases found
    apply describes_class stands
    rw [behind]
    exact classFramed_expression reads
  case h_5 => cases found

/-- An entry lies within the tree that it records. -/
theorem record?_bounds {tree : ScriptTree} {entry : Entry}
    (found : record? offset tree = some entry) :
    offset ≤ entry.start ∧ entry.stop = offset + treeSize tree := by
  unfold record? at found
  split at found
  case h_5 => cases found
  all_goals
    cases found
    exact ⟨Nat.le_add_right .., rfl⟩

private theorem exported?_inside {tree part declared : ScriptTree} {place : Nat}
    {isDefault : Bool} (inside : Inside offset tree place part)
    (found : exported? isDefault part = some declared) : Inside offset tree place declared := by
  unfold exported? at found
  split at found
  · cases found
    exact inside.only
  · split at found
    · unfold exportedValue? at found
      split at found
      · cases found
        exact inside.only.only.only.only
      · cases found
    · cases found

/-- The entry of a statement is that of a declaration inside it. -/
theorem statementRecord?_inside {tree : ScriptTree} {entry : Entry}
    (found : statementRecord? offset tree = some entry) :
    ∃ place declared, Inside offset tree place declared ∧ record? place declared = some entry := by
  unfold statementRecord? at found
  split at found
  case h_1 => exact ⟨_, _, Inside.here.only.only, found⟩
  case h_2 parts =>
    obtain ⟨⟨place, part⟩, member, exported⟩ := List.exists_of_findSome?_eq_some found
    obtain ⟨declared, inPart, recorded⟩ := Option.bind_eq_some_iff.mp exported
    exact ⟨place, declared, exported?_inside (Inside.here.only.part member) inPart, recorded⟩
  case h_3 => cases found

theorem statementRecord?_bounds {tree : ScriptTree} {entry : Entry}
    (found : statementRecord? offset tree = some entry) :
    offset ≤ entry.start ∧ entry.stop ≤ offset + treeSize tree := by
  obtain ⟨place, declared, inside, recorded⟩ := statementRecord?_inside found
  have outer := inside.bounds
  have inner := record?_bounds recorded
  omega

end Records

/-! ## Entries -/

section Entries

/-- The entries of a list of statements that begin at an offset. -/
private def entries (offset : Nat) (trees : List ScriptTree) : List Entry :=
  (located offset trees).filterMap fun (place, part) => statementRecord? place part

private theorem entries_ordered (offset : Nat) (trees : List ScriptTree) :
    (entries offset trees).Pairwise fun first second => first.stop ≤ second.start := by
  apply (located_pairwise offset trees).filterMap
  intro first second behind entry found entry' found'
  have bounds := statementRecord?_bounds found
  have bounds' := statementRecord?_bounds found'
  omega

private theorem entries_describe {dialect : Dialect} {source : Text} {offset : Nat}
    {name : Phrase} {trees : List ScriptTree} {entry : Entry}
    (stands : Stands dialect source offset (.node name trees))
    (member : entry ∈ entries offset trees) : entry.Describes source := by
  obtain ⟨⟨place, part⟩, inTrees, found⟩ := List.mem_filterMap.mp member
  obtain ⟨inner, declared, inside, recorded⟩ := statementRecord?_inside found
  have standsPart := stands.inside (Inside.here.part inTrees)
  exact record?_describes (standsPart.inside inside) recorded

theorem stands_of_parse? {dialect : Dialect} {source : Text} {tree : ScriptTree}
    (parsed : parse? dialect source = some tree) :
    ∃ parts, tree = .node .program parts ∧ Stands dialect source 0 tree := by
  unfold parse? at parsed
  simp only at parsed
  split at parsed
  case h_1 found =>
    cases parsed
    obtain ⟨parts, rfl, reads⟩ := Grammar.derives_of_parse found
    exact ⟨parts, rfl, [], Cursor.at source, _, by simp, rfl, divides_cursorAt source, reads⟩
  case h_2 => cases parsed

private def function? : Entry → Option FunctionRecord
  | .function record => some record
  | .class _ => none

private def class? : Entry → Option ClassRecord
  | .class record => some record
  | .function _ => none

private theorem outlineOf_program (parts : List ScriptTree) :
    outlineOf (.node .program parts) =
      { functions := (entries 0 parts).filterMap function?
        classes := (entries 0 parts).filterMap class? } := rfl

private theorem function?_eq_some {entry : Entry} {record : FunctionRecord} :
    function? entry = some record ↔ entry = .function record := by
  cases entry <;> simp [function?]

private theorem class?_eq_some {entry : Entry} {record : ClassRecord} :
    class? entry = some record ↔ entry = .class record := by
  cases entry <;> simp [class?]

private theorem mem_functions {trees : List ScriptTree} {record : FunctionRecord} :
    record ∈ (entries 0 trees).filterMap function? ↔ .function record ∈ entries 0 trees := by
  simp [function?_eq_some]

private theorem mem_classes {trees : List ScriptTree} {record : ClassRecord} :
    record ∈ (entries 0 trees).filterMap class? ↔ .class record ∈ entries 0 trees := by
  simp [class?_eq_some]

/-- The outline of a tree describes the text that the tree was read from. -/
theorem outlineOf_describes {dialect : Dialect} {source : Text} {parts : List ScriptTree}
    (stands : Stands dialect source 0 (.node .program parts)) :
    (outlineOf (.node .program parts)).Describes source := by
  have describe {entry : Entry} (member : entry ∈ entries 0 parts) : entry.Describes source :=
    entries_describe stands member
  have ordered : (entries 0 parts).Pairwise fun first second =>
      first.start < first.stop ∧ first.stop ≤ second.start := by
    apply (entries_ordered 0 parts).imp_of_mem
    intro first second member _ behind
    exact ⟨(describe member).start_lt, behind⟩
  have apart : (entries 0 parts).Pairwise fun first second =>
      first.stop ≤ second.start ∨ second.stop ≤ first.start := by
    apply ordered.imp
    intro first second behind
    exact .inl behind.2
  rw [outlineOf_program]
  constructor
  case functions =>
    intro record member
    exact describe (mem_functions.mp member)
  case classes =>
    intro record member
    exact describe (mem_classes.mp member)
  case functions_ordered =>
    apply ordered.filterMap
    intro first second behind record found record' found'
    rw [function?_eq_some.mp found, function?_eq_some.mp found'] at behind
    exact Nat.lt_of_lt_of_le behind.1 behind.2
  case classes_ordered =>
    apply ordered.filterMap
    intro first second behind record found record' found'
    rw [class?_eq_some.mp found, class?_eq_some.mp found'] at behind
    exact Nat.lt_of_lt_of_le behind.1 behind.2
  case disjoint =>
    refine List.pairwise_append.mpr ⟨List.pairwise_map.mpr ?_, List.pairwise_map.mpr ?_, ?_⟩
    · apply apart.filterMap
      intro first second disjoint record found record' found'
      rwa [function?_eq_some.mp found, function?_eq_some.mp found'] at disjoint
    · apply apart.filterMap
      intro first second disjoint record found record' found'
      rwa [class?_eq_some.mp found, class?_eq_some.mp found'] at disjoint
    · -- A function and a class are two entries, in one order or the other.
      intro span inFunctions span' inClasses
      obtain ⟨record, member, rfl⟩ := List.mem_map.mp inFunctions
      obtain ⟨record', member', rfl⟩ := List.mem_map.mp inClasses
      have symmetric : Std.Symm fun first second : Entry =>
          first.stop ≤ second.start ∨ second.stop ≤ first.start := ⟨fun _ _ => Or.symm⟩
      exact apart.forall (mem_functions.mp member) (mem_classes.mp member') Entry.noConfusion

theorem outline?_describes {dialect : Dialect} {source : Text} {outline : Outline}
    (found : outline? dialect source = some outline) : outline.Describes source := by
  unfold outline? at found
  split at found
  case h_1 => cases found
  case h_2 parsed =>
    split at found
    · cases found
      obtain ⟨parts, rfl, stands⟩ := stands_of_parse? parsed
      exact outlineOf_describes stands
    · cases found

end Entries

end Script

namespace Language

private theorem outline_of_outline? {language : Language} {source : Text} {outline : Outline}
    (hasGrammar : language.hasGrammar)
    (found : Script.outline? language.dialect source = some outline) :
    language.outline source = .ok outline := by
  rw [Language.outline, if_pos hasGrammar, found]

/-- Whatever a script holds, its outline describes it, and no span of it has to
be moved into the text. -/
theorem outline_describes {language : Language} {source : Text} {outline : Outline}
    (found : language.outline source = .ok outline) :
    outline.Describes source ∧ outline.clamped source.byteLength = outline := by
  unfold Language.outline at found
  split at found
  · split at found
    case h_1 outlined =>
      cases found
      have describes := Script.outline?_describes outlined
      exact ⟨describes, describes.clamped_eq⟩
    case h_2 => cases found
  · cases found

/-- A decorated class, a function that is exported without a name and has a comment
behind it, and one with a comment on the next line, which a blank that is no plain
white space joins to it. -/
private def declarations : Text :=
  "@d class Aé \x7b\x7d\nexport default async function (b, c = 1) \x7b\x7d /* t */\n".toList ++
    "function g() \x7b\x7d\u00a0\n// u\n".toList

private def declarationsOutline : Outline :=
  { functions :=
      [{ name := "default".toList, params := ["b".toList, "<unnamed>".toList]
         start := 31, stop := 67 },
       { name := ['g'], params := [], start := 68, stop := 90 }]
    classes := [{ name := "Aé".toList, start := 0, stop := 15 }] }

theorem outline_describes_declarations :
    typeScript.outline declarations = .ok declarationsOutline ∧
      declarationsOutline.Describes declarations ∧
      declarationsOutline.clamped declarations.byteLength = declarationsOutline := by
  have found : typeScript.outline declarations = .ok declarationsOutline :=
    outline_of_outline? rfl (by decide +kernel)
  exact ⟨found, outline_describes found⟩

/-- A function with a comment behind its brace. -/
private def remarked : Text :=
  "function f() \x7b\x7d // t\n".toList

private def remarkedOutline : Outline :=
  { functions := [{ name := ['f'], params := [], start := 0, stop := 20 }], classes := [] }

/-- A function need not end with its brace: a comment on the line of the brace
belongs to it. -/
theorem outline_remark_behind_brace :
    javaScript.outline remarked = .ok remarkedOutline ∧
      ∃ record ∈ remarkedOutline.functions,
        ¬ ['}'] <:+ remarked.slice record.start record.stop := by
  have found : javaScript.outline remarked = .ok remarkedOutline :=
    outline_of_outline? rfl (by decide +kernel)
  exact ⟨found, _, List.mem_singleton_self _, by decide⟩

end Language

end Marginalia
