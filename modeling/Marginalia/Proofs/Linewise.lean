import Marginalia.Comment
import Marginalia.ClassBody
import Marginalia.Tag
import Marginalia.Proofs.Keyword

/-!
# What is collected line by line

Comments, imports, methods and properties are collected from the lines of a text,
each from one line and without its ending.  Main statement: what a text holds
behind a line feed is added to what it holds in front, and it makes no difference
whether a carriage return stands in front of each line feed.
-/

namespace Marginalia

/-! ## Lines -/

namespace Text

/-- The text is empty or ends with a line feed. -/
def EndsLine (text : Text) : Prop :=
  text = [] ∨ text.getLast? = some '\n'

theorem lines_append {front : Text} (ends : front.EndsLine) (back : Text) :
    lines (front ++ back) = lines front ++ lines back := by
  rcases ends with rfl | feed
  · rfl
  · rw [lines, segments_append feed, List.map_append, lines, lines]

/-- The text with a carriage return in front of each line feed. -/
def withReturns (text : Text) : Text :=
  text.flatMap fun c => if c == '\n' then ['\r', '\n'] else [c]

theorem withReturns_cons (c : Char) (rest : Text) :
    withReturns (c :: rest) = (if c == '\n' then ['\r', '\n'] else [c]) ++ withReturns rest :=
  rfl

theorem withReturns_of_not_mem {text : Text} (unbroken : '\n' ∉ text) :
    withReturns text = text := by
  induction text with
  | nil => rfl
  | cons c rest ih =>
      rw [List.mem_cons, not_or] at unbroken
      have inLine : (c == '\n') = false := by simpa using Ne.symm unbroken.1
      rw [withReturns_cons, inLine, ih unbroken.2]
      rfl

theorem segments_cons_feed (rest : Text) : segments ('\n' :: rest) = ['\n'] :: segments rest := by
  rw [segments_cons]
  cases segments rest <;> rfl

/-- Carriage returns are put into each line on its own. -/
theorem segments_withReturns (text : Text) :
    segments (withReturns text) = (segments text).map withReturns := by
  induction text with
  | nil => rfl
  | cons c rest ih =>
      rw [withReturns_cons]
      by_cases feed : c = '\n'
      · subst feed
        rw [segments_cons_feed, List.map_cons, ← ih]
        exact congrArg (segments.attach '\r') (segments_cons_feed _)
      · have inLine : (c == '\n') = false := by simpa using feed
        rw [inLine]
        change segments (c :: withReturns rest) = _
        rw [segments_cons, segments_cons, ih]
        cases segments rest with
        | nil =>
            simp [segments.attach, withReturns, feed]
        | cons line more =>
            simp [segments.attach, withReturns, feed]

theorem withoutEnding_feed {body : Text} (noReturn : '\r' ∉ body) :
    withoutEnding (body ++ ['\n']) = body := by
  rw [withoutEnding, List.reverse_append, List.reverse_singleton, List.singleton_append]
  split
  case h_1 rest shape =>
    have inside : '\r' ∈ body.reverse := by
      rw [(List.cons.inj shape).2]
      exact List.mem_cons_self
    exact (noReturn (List.mem_reverse.mp inside)).elim
  case h_2 rest notReturn shape => rw [← (List.cons.inj shape).2, List.reverse_reverse]
  case h_3 notReturn notFeed => exact absurd rfl (notFeed _)

/-- A line that ends with a carriage return and a line feed has both taken off. -/
theorem withoutEnding_returnFeed (body : Text) :
    withoutEnding (body ++ ['\r', '\n']) = body := by
  simp [withoutEnding]

theorem lines_withReturns {text : Text} (noReturn : '\r' ∉ text) :
    lines (withReturns text) = lines text := by
  rw [lines, segments_withReturns, List.map_map, lines]
  apply List.map_congr_left
  intro segment member
  have noReturn' : '\r' ∉ segment := by
    intro inside
    apply noReturn
    rw [← flatten_segments text]
    exact List.mem_flatten.mpr ⟨segment, member, inside⟩
  obtain ⟨body, unbroken, rfl | rfl⟩ := segments_cases member
  · rw [Function.comp_apply, withReturns_of_not_mem unbroken]
  · have ended : withReturns (body ++ ['\n']) = body ++ ['\r', '\n'] := by
      rw [withReturns, List.flatMap_append]
      exact congrArg (· ++ ['\r', '\n']) (withReturns_of_not_mem unbroken)
    rw [List.mem_append, not_or] at noReturn'
    rw [Function.comp_apply, ended, withoutEnding_returnFeed, withoutEnding_feed noReturn'.1]

end Text

/-! ## Collecting -/

/-- What is collected depends on each line alone. -/
def Linewise (collect : Text → List Text) : Prop :=
  ∃ found : Text → Option Text, ∀ text, collect text = text.lines.filterMap found

namespace Linewise

variable {collect : Text → List Text}

theorem append (linewise : Linewise collect) {front : Text} (ends : front.EndsLine) (back : Text) :
    collect (front ++ back) = collect front ++ collect back := by
  obtain ⟨found, collects⟩ := linewise
  rw [collects, collects, collects, Text.lines_append ends, List.filterMap_append]

theorem withReturns (linewise : Linewise collect) {text : Text} (noReturn : '\r' ∉ text) :
    collect text.withReturns = collect text := by
  obtain ⟨found, collects⟩ := linewise
  rw [collects, collects, Text.lines_withReturns noReturn]

end Linewise

/-- What the line comments of a text say, of either family. -/
def Comment.remarks (text : Text) : List Text :=
  text.lines.filterMap fun line => lineText? (Text.trim line)

theorem Comment.linewise_remarks : Linewise Comment.remarks :=
  ⟨fun line => lineText? (Text.trim line), fun _ => rfl⟩

theorem Tag.linewise_imports (family : Family) : Linewise (Tag.imports family) := by
  refine ⟨Option.guard (Tag.isImport family), ?_⟩
  intro text
  rw [Tag.imports, List.filterMap_eq_filter]

namespace ClassBody

theorem linewise_methods (family : Family) : Linewise (methods family) := by
  refine ⟨fun line => (Option.guard (isMethod family) line).map Text.trim, ?_⟩
  intro text
  rw [methods, ← List.filterMap_eq_filter, List.map_filterMap]

theorem linewise_properties (family : Family) : Linewise (properties family) := by
  refine ⟨fun line => (Option.guard (Text.startsWith · (receiver family)) (Text.trim line)).map
    fun line => Text.trim (Text.upTo line '='), ?_⟩
  intro text
  rw [properties, ← List.filterMap_eq_filter, List.map_filterMap, List.filterMap_map]
  rfl

end ClassBody

/-! ## Classes -/

namespace Explain

theorem classPurposes_solid : classPurposes.all Hint.isSolid := by decide

/-- The purpose of a class is read off its lines. -/
theorem classPurpose_of_lines {text other : Text} (same : text.lines = other.lines) :
    classPurpose text = classPurpose other := by
  rw [classPurpose, classPurpose, firstMeaning_singleton, firstMeaning_singleton]
  apply firstNamed_congr classPurposes_solid
  intro needle solid
  rw [Text.infix_iff_line solid, Text.infix_iff_line solid, same]

end Explain

theorem ClassBody.explainPurpose_of_lines {text other : Text} (same : text.lines = other.lines)
    (methods properties : List Text) :
    explainPurpose text methods properties = explainPurpose other methods properties := by
  unfold explainPurpose
  rw [Explain.classPurpose_of_lines same]

/-- What is collected from a text that goes on behind a line feed is what is
collected from its two parts, one behind the other.  Carriage returns in front of
the line feeds change nothing of what is collected, nor what is said about a
class. -/
theorem collected_linewise (family : Family) :
    (∀ text, Comment.fileDescription text = Text.joinLines (Comment.remarks text)) ∧
    (∀ front : Text, front = [] ∨ front.getLast? = some '\n' → ∀ back : Text,
      Tag.imports family (front ++ back) = Tag.imports family front ++ Tag.imports family back ∧
      ClassBody.methods family (front ++ back) =
        ClassBody.methods family front ++ ClassBody.methods family back ∧
      ClassBody.properties family (front ++ back) =
        ClassBody.properties family front ++ ClassBody.properties family back ∧
      Comment.remarks (front ++ back) = Comment.remarks front ++ Comment.remarks back) ∧
    ∀ text : Text, '\r' ∉ text →
      Comment.fileDescription text.withReturns = Comment.fileDescription text ∧
      Tag.imports family text.withReturns = Tag.imports family text ∧
      ClassBody.methods family text.withReturns = ClassBody.methods family text ∧
      ClassBody.properties family text.withReturns = ClassBody.properties family text ∧
      ClassBody.explainPurpose text.withReturns (ClassBody.methods family text.withReturns)
          (ClassBody.properties family text.withReturns) =
        ClassBody.explainPurpose text (ClassBody.methods family text)
          (ClassBody.properties family text) := by
  have imports := Tag.linewise_imports family
  have methods := ClassBody.linewise_methods family
  have properties := ClassBody.linewise_properties family
  have remarks := Comment.linewise_remarks
  refine ⟨fun _ => rfl, ?_, ?_⟩
  · intro front ends back
    exact ⟨imports.append ends back, methods.append ends back, properties.append ends back,
      remarks.append ends back⟩
  · intro text noReturn
    refine ⟨congrArg Text.joinLines (remarks.withReturns noReturn), imports.withReturns noReturn,
      methods.withReturns noReturn, properties.withReturns noReturn, ?_⟩
    rw [methods.withReturns noReturn, properties.withReturns noReturn,
      ClassBody.explainPurpose_of_lines (Text.lines_withReturns noReturn)]

/-- Lines of which something is collected, the last one with its line feed. -/
def shelf : Text :=
  "import a\n\tthis.b = c\n# d\n".toList

theorem collected_linewise_shelf :
    let back := "// e\n run() \x7b".toList
    shelf.getLast? = some '\n' ∧ '\r' ∉ shelf ∧
    Comment.remarks (shelf ++ back) = [['d'], ['e']] ∧
    ClassBody.methods .javaScript (shelf ++ back) = ["run() \x7b".toList] ∧
    Tag.imports .javaScript shelf.withReturns = ["import a".toList] ∧
    ClassBody.properties .javaScript shelf.withReturns = ["this.b".toList] := by
  intro back
  obtain ⟨-, appended, returned⟩ := collected_linewise .javaScript
  have ends : shelf.getLast? = some '\n' := by decide
  have noReturn : '\r' ∉ shelf := by decide
  obtain ⟨-, methods, -, remarks⟩ := appended shelf (Or.inr ends) back
  obtain ⟨-, imports, -, properties, -⟩ := returned shelf noReturn
  refine ⟨ends, noReturn, ?_, ?_, ?_, ?_⟩
  · rw [remarks]
    decide +kernel
  · rw [methods]
    decide +kernel
  · rw [imports]
    decide +kernel
  · rw [properties]
    decide +kernel

end Marginalia
