import Marginalia.Proofs.Note

/-!
# The headings of a page

A heading is a line that begins with two hashes and a blank.  Comments are
copied into a page as they are, and so a line of a comment may be one.  Main
statement: apart from such lines, the headings of a page are those of its
chapters, in their order, and each chapter has one exactly if it has something
to say.
-/

namespace Marginalia

/-- The lines of a text that begin like the heading of a chapter. -/
def Text.headings (text : Text) : List Text :=
  (text.splitOn '\n').filter (Text.startsWith · "## ".toList)

namespace Text

@[simp] theorem headings_nil : headings [] = [] := rfl

theorem headings_append_lineFeed (front back : Text) :
    headings (front ++ '\n' :: back) = headings front ++ headings back := by
  rw [headings, List.splitOn_append_cons_self, List.filter_append]
  rfl

/-- A text in one line has itself as its heading, or none. -/
theorem headings_of_not_mem {line : Text} (unbroken : '\n' ∉ line) :
    headings line = if line.startsWith "## ".toList then [line] else [] := by
  rw [headings, List.splitOn_eq_singleton unbroken, List.filter_cons, List.filter_nil]

end Text

/-! ## Whole lines -/

/-- A text of whole lines that brings the headings `found` into every text that
begins with it. -/
def Brings (text : Text) (found : List Text) : Prop :=
  ∀ rest : Text, (text ++ rest).headings = found ++ rest.headings

namespace Brings

theorem nil : Brings [] [] :=
  fun _ => rfl

theorem of_eq {text : Text} {first second : List Text} (brings : Brings text first)
    (same : first = second) : Brings text second :=
  same ▸ brings

theorem append {front back : Text} {first second : List Text} (front' : Brings front first)
    (back' : Brings back second) : Brings (front ++ back) (first ++ second) := by
  intro rest
  rw [List.append_assoc, front', back', List.append_assoc]

theorem flatMap {α : Type} {items : List α} (image : α → Text) (found : α → List Text)
    (each : ∀ item ∈ items, Brings (image item) (found item)) :
    Brings (items.flatMap image) (items.flatMap found) := by
  induction items with
  | nil => exact nil
  | cons item items ih =>
      rw [List.flatMap_cons, List.flatMap_cons]
      apply append
      · exact each item (List.mem_cons_self ..)
      · exact ih fun other member => each other (List.mem_cons_of_mem _ member)

theorem headings {text : Text} {found : List Text} (brings : Brings text found) :
    text.headings = found := by
  simpa using brings []

/-- A text with a line feed behind it brings its own headings. -/
theorem lines (text : Text) : Brings (text ++ ['\n']) text.headings := by
  intro rest
  rw [List.append_assoc, List.singleton_append, Text.headings_append_lineFeed]

/-- A line that does not begin like a heading brings none. -/
theorem line {text : Text} (unbroken : '\n' ∉ text)
    (plain : text.startsWith "## ".toList = false) : Brings (text ++ ['\n']) [] := by
  have own := lines text
  rwa [Text.headings_of_not_mem unbroken, plain] at own

end Brings

namespace Page

/-! ## Sections -/

theorem brings_paragraph (text : Text) : Brings (paragraph text) text.headings := by
  rw [paragraph]
  split
  case isTrue empty =>
    rw [List.isEmpty_iff.mp empty, Text.headings_nil]
    exact .nil
  case isFalse =>
    have blank := (Brings.lines text).append (Brings.lines [])
    simpa using blank

theorem brings_bullets {entries : List (Text × Text)}
    (unbroken : ∀ entry ∈ entries, '\n' ∉ entry.1 ∧ '\n' ∉ entry.2) :
    Brings (entries.flatMap bullet) [] := by
  have each : Brings (entries.flatMap bullet) (entries.flatMap fun _ => []) := by
    apply Brings.flatMap
    intro entry member
    apply Brings.line
    · simp [unbroken entry member]
    · rfl
  rwa [List.flatMap_eq_nil_iff.mpr fun _ _ => rfl] at each

theorem brings_labelled (label : String) {body : Text} {found : List Text}
    (unbroken : '\n' ∉ label.toList) (brings : Brings body found) :
    Brings (labelled label body) found := by
  have heading : Brings ("**".toList ++ label.toList ++ ":**".toList ++ ['\n']) [] := by
    apply Brings.line
    · simp [unbroken]
    · rfl
  have whole := (heading.append brings).append (Brings.lines [])
  rw [List.nil_append, Text.headings_nil, List.append_nil] at whole
  have shape : labelled label body =
      "**".toList ++ label.toList ++ ":**".toList ++ ['\n'] ++ body ++ ([] ++ ['\n']) := by
    simp [labelled]
  rwa [shape]

theorem brings_labelledList (label : String) {entries : List (Text × Text)}
    (unbroken : '\n' ∉ label.toList) (each : ∀ entry ∈ entries, '\n' ∉ entry.1 ∧ '\n' ∉ entry.2) :
    Brings (labelledList label entries) [] := by
  rw [labelledList]
  split
  case isTrue => exact .nil
  case isFalse => exact brings_labelled label unbroken (brings_bullets each)

/-- A title with an empty line below it. -/
theorem brings_title {text : Text} (unbroken : '\n' ∉ text)
    (plain : text.startsWith "## ".toList = false) : Brings (text ++ "\n\n".toList) [] := by
  have whole := (Brings.line unbroken plain).append (Brings.lines [])
  rw [Text.headings_nil, List.append_nil, List.append_assoc] at whole
  exact whole

theorem brings_sectionTitle {name : Text} (unbroken : '\n' ∉ name) :
    Brings ("### ".toList ++ name ++ "\n\n".toList) [] := by
  apply brings_title
  · simp [unbroken]
  · rfl

theorem noParameters_eq :
    noParameters = "This function does not take any parameters.".toList ++ ['\n'] := by
  decide +kernel

theorem brings_functionText {note : FunctionNote} (name : '\n' ∉ note.name)
    (parameters : ∀ entry ∈ note.parameters, '\n' ∉ entry.1 ∧ '\n' ∉ entry.2)
    (functionality : Brings (note.functionality ++ ['\n']) []) :
    Brings (functionText note) (note.description.headings ++ note.result.headings) := by
  have listed : Brings (labelled "Parameters"
      (if note.parameters.isEmpty then noParameters else note.parameters.flatMap bullet)) [] := by
    apply brings_labelled "Parameters" (by decide)
    split
    case isTrue =>
      rw [noParameters_eq]
      exact Brings.line (by decide) rfl
    case isFalse => exact brings_bullets parameters
  have result : Brings
      (if note.result.isEmpty then [] else labelled "Returns" (note.result ++ ['\n']))
      note.result.headings := by
    split
    case isTrue empty =>
      rw [List.isEmpty_iff.mp empty, Text.headings_nil]
      exact .nil
    case isFalse => exact brings_labelled "Returns" (by decide) (Brings.lines note.result)
  have whole := ((((brings_sectionTitle name).append
    (brings_paragraph note.description)).append listed).append
    result).append (brings_labelled "Functionality" (by decide) functionality)
  apply whole.of_eq
  simp only [List.nil_append, List.append_nil]

theorem brings_classText {note : ClassNote} (name : '\n' ∉ note.name)
    (methods : ∀ entry ∈ note.methods, '\n' ∉ entry.1 ∧ '\n' ∉ entry.2)
    (properties : ∀ entry ∈ note.properties, '\n' ∉ entry.1 ∧ '\n' ∉ entry.2)
    (purpose : Brings (note.purpose ++ ['\n']) []) :
    Brings (classText note) note.description.headings := by
  have whole := ((((brings_sectionTitle name).append (brings_paragraph note.description)).append
    (brings_labelledList "Methods" (by decide) methods)).append
    (brings_labelledList "Properties" (by decide) properties)).append
    (brings_labelled "Purpose" (by decide) purpose)
  apply whole.of_eq
  simp only [List.nil_append, List.append_nil]

/-! ## Chapters -/

/-- The heading of a chapter, if the chapter is there. -/
def heading (title : String) (present : Bool) : List Text :=
  if present then ["## ".toList ++ title.toList] else []

/-- The headings of the chapters of a page. -/
def chapterHeadings (source : Text) (family : Family) (outline : Outline) : List Text :=
  heading "Overview" (!(Comment.fileDescription source).isEmpty) ++
    heading "Dependencies" (!(Tag.imports family source).isEmpty) ++
    heading "Functions" (!outline.functions.isEmpty) ++
    heading "Classes" (!outline.classes.isEmpty)

theorem brings_chapter (title : String) {body : Text} {found : List Text}
    (unbroken : '\n' ∉ title.toList) (brings : Brings body found) :
    Brings (chapter title body) (heading title (!body.isEmpty) ++ found) := by
  rw [chapter, heading]
  cases empty : body.isEmpty with
  | true =>
      rw [List.isEmpty_iff.mp empty] at brings
      rw [← brings.headings]
      exact .nil
  | false =>
      have own : Text.headings ("## ".toList ++ title.toList) = ["## ".toList ++ title.toList] := by
        rw [Text.headings_of_not_mem (by simp [unbroken])]
        rfl
      have whole := ((Brings.lines ("## ".toList ++ title.toList)).append (Brings.lines [])).append
        brings
      rw [own, Text.headings_nil, List.append_nil] at whole
      have shape : "## ".toList ++ title.toList ++ "\n\n".toList =
          "## ".toList ++ title.toList ++ ['\n'] ++ ([] ++ ['\n']) := by simp
      simp only [Bool.not_false, if_true, Bool.false_eq_true, if_false, shape]
      exact whole

theorem isEmpty_paragraph (text : Text) : (paragraph text).isEmpty = text.isEmpty := by
  cases text with
  | nil => rfl
  | cons c rest => rfl

theorem isEmpty_importsText (imports : List Text) :
    (importsText imports).isEmpty = imports.isEmpty := by
  cases imports with
  | nil => rfl
  | cons line more => rfl

theorem isEmpty_functions (notes : List FunctionNote) :
    (notes.flatMap functionText).isEmpty = notes.isEmpty := by
  cases notes with
  | nil => rfl
  | cons note more => rfl

theorem isEmpty_classes (notes : List ClassNote) :
    (notes.flatMap classText).isEmpty = notes.isEmpty := by
  cases notes with
  | nil => rfl
  | cons note more => rfl

theorem brings_importsText {imports : List Text} (unbroken : ∀ line ∈ imports, '\n' ∉ line) :
    Brings (importsText imports) [] := by
  rw [importsText]
  split
  case isTrue => exact .nil
  case isFalse =>
    have lines : Brings (imports.flatMap fun line => "- ".toList ++ line ++ ['\n'])
        (imports.flatMap fun _ => []) := by
      apply Brings.flatMap
      intro line member
      apply Brings.line
      · simp [unbroken line member]
      · rfl
    have sentence : "This file relies on the following external modules:\n\n".toList =
        "This file relies on the following external modules:".toList ++ "\n\n".toList := by
      rw [← String.toList_append]
      rfl
    have introduced :
        Brings "This file relies on the following external modules:\n\n".toList [] := by
      rw [sentence]
      exact brings_title (by decide) rfl
    have whole := (introduced.append lines).append (Brings.lines [])
    rw [List.flatMap_eq_nil_iff.mpr fun _ _ => rfl] at whole
    exact whole

/-! ## Pages -/

theorem brings_function {family : Family} {source : Text} {record : FunctionRecord}
    (name : '\n' ∉ record.name) (params : ∀ param ∈ record.params, '\n' ∉ param) :
    Brings (functionText (FunctionNote.of family source record))
      ((FunctionNote.of family source record).description.headings ++
        (FunctionNote.of family source record).result.headings) := by
  apply brings_functionText
  · exact name
  · intro entry member
    obtain ⟨param, inside, rfl⟩ := List.mem_map.mp member
    exact ⟨params param inside, Tag.parameterDescription_unbroken _ _ _⟩
  · exact Brings.line (Explain.functionality_unbroken _) rfl

theorem brings_class {family : Family} {source : Text} {record : ClassRecord}
    (name : '\n' ∉ record.name) :
    Brings (classText (ClassNote.of family source record))
      (ClassNote.of family source record).description.headings := by
  apply brings_classText
  · exact name
  · intro entry member
    obtain ⟨method, inside, rfl⟩ := List.mem_map.mp member
    exact ⟨ClassBody.not_mem_of_mem_methods inside, ClassBody.explainMethod_unbroken _ _ _⟩
  · intro entry member
    obtain ⟨property, inside, rfl⟩ := List.mem_map.mp member
    refine ⟨ClassBody.not_mem_of_mem_properties inside, ?_⟩
    exact ClassBody.explainProperty_unbroken
  · exact Brings.line (ClassBody.explainPurpose_unbroken _ _ _) rfl

theorem brings_text {page : Page} (title : '\n' ∉ page.fileName)
    (imports : ∀ line ∈ page.imports, '\n' ∉ line)
    (functions : ∀ note ∈ page.functions,
      Brings (functionText note) (note.description.headings ++ note.result.headings))
    (classes : ∀ note ∈ page.classes, Brings (classText note) note.description.headings) :
    Brings page.text
      (heading "Overview" (!page.overview.isEmpty) ++ page.overview.headings ++
        heading "Dependencies" (!page.imports.isEmpty) ++
        heading "Functions" (!page.functions.isEmpty) ++
        (page.functions.flatMap fun note => note.description.headings ++ note.result.headings) ++
        heading "Classes" (!page.classes.isEmpty) ++
        page.classes.flatMap fun note => note.description.headings) := by
  have opening : Brings ("# Documentation for ".toList ++ page.fileName ++ "\n\n".toList) [] := by
    apply brings_title
    · simp [title]
    · rfl
  have overview := brings_chapter "Overview" (by decide) (brings_paragraph page.overview)
  have dependencies := brings_chapter "Dependencies" (by decide) (brings_importsText imports)
  have functionChapter := brings_chapter "Functions" (by decide)
    (Brings.flatMap functionText _ functions)
  have classChapter := brings_chapter "Classes" (by decide) (Brings.flatMap classText _ classes)
  have whole := (((opening.append overview).append dependencies).append functionChapter).append
    classChapter
  apply whole.of_eq
  simp only [isEmpty_paragraph, isEmpty_importsText, isEmpty_functions, isEmpty_classes,
    List.nil_append, List.append_nil, List.append_assoc]

theorem headings_render_eq {fileName source : Text} {family : Family} {outline : Outline}
    (title : '\n' ∉ fileName)
    (functions : ∀ record ∈ outline.functions,
      '\n' ∉ record.name ∧ ∀ param ∈ record.params, '\n' ∉ param)
    (classes : ∀ record ∈ outline.classes, '\n' ∉ record.name) :
    (render fileName source family outline).headings =
      heading "Overview" (!(Comment.fileDescription source).isEmpty) ++
        (Comment.fileDescription source).headings ++
        heading "Dependencies" (!(Tag.imports family source).isEmpty) ++
        heading "Functions" (!outline.functions.isEmpty) ++
        (outline.functions.flatMap fun record =>
          (FunctionNote.of family source record).description.headings ++
            (FunctionNote.of family source record).result.headings) ++
        heading "Classes" (!outline.classes.isEmpty) ++
        outline.classes.flatMap fun record =>
          (ClassNote.of family source record).description.headings := by
  have functionNotes : ∀ note ∈ (Page.of fileName source family outline).functions,
      Brings (functionText note) (note.description.headings ++ note.result.headings) := by
    intro note member
    obtain ⟨record, inside, rfl⟩ := List.mem_map.mp member
    exact brings_function (functions record inside).1 (functions record inside).2
  have classNotes : ∀ note ∈ (Page.of fileName source family outline).classes,
      Brings (classText note) note.description.headings := by
    intro note member
    obtain ⟨record, inside, rfl⟩ := List.mem_map.mp member
    exact brings_class (classes record inside)
  have imports : ∀ line ∈ (Page.of fileName source family outline).imports, '\n' ∉ line :=
    fun line member => Tag.not_mem_of_mem_imports member
  rw [render, (brings_text title imports functionNotes classNotes).headings]
  simp only [Page.of, List.flatMap_map, List.isEmpty_map]

/-- The headings of a page are those of its chapters, in their order and each of
them exactly if the chapter has something to say, and besides them only lines that
were copied: behind the heading of the overview the lines of the file's comments
that begin like a heading, and behind the headings of functions and classes such
lines of the descriptions and results of each of them.  Without such lines the page
has the headings of its chapters only. -/
theorem headings_render {fileName source : Text} {family : Family} {outline : Outline}
    (title : '\n' ∉ fileName)
    (functions : ∀ record ∈ outline.functions,
      '\n' ∉ record.name ∧ ∀ param ∈ record.params, '\n' ∉ param)
    (classes : ∀ record ∈ outline.classes, '\n' ∉ record.name) :
    (render fileName source family outline).headings =
        heading "Overview" (!(Comment.fileDescription source).isEmpty) ++
          (Comment.fileDescription source).headings ++
          heading "Dependencies" (!(Tag.imports family source).isEmpty) ++
          heading "Functions" (!outline.functions.isEmpty) ++
          (outline.functions.flatMap fun record =>
            (FunctionNote.of family source record).description.headings ++
              (FunctionNote.of family source record).result.headings) ++
          heading "Classes" (!outline.classes.isEmpty) ++
          (outline.classes.flatMap fun record =>
            (ClassNote.of family source record).description.headings) ∧
      ((Comment.fileDescription source).headings = [] →
        (∀ record ∈ outline.functions,
          (FunctionNote.of family source record).description.headings = [] ∧
            (FunctionNote.of family source record).result.headings = []) →
        (∀ record ∈ outline.classes,
          (ClassNote.of family source record).description.headings = []) →
        (render fileName source family outline).headings =
          chapterHeadings source family outline) := by
  refine ⟨headings_render_eq title functions classes, ?_⟩
  intro overview functionNotes classNotes
  have noneOfFunctions : (outline.functions.flatMap fun record =>
      (FunctionNote.of family source record).description.headings ++
        (FunctionNote.of family source record).result.headings) = [] := by
    rw [List.flatMap_eq_nil_iff]
    intro record member
    rw [(functionNotes record member).1, (functionNotes record member).2, List.append_nil]
  have noneOfClasses : (outline.classes.flatMap fun record =>
      (ClassNote.of family source record).description.headings) = [] :=
    List.flatMap_eq_nil_iff.mpr classNotes
  rw [headings_render_eq title functions classes, overview, noneOfFunctions, noneOfClasses]
  simp only [List.append_nil, chapterHeadings]

/-- A function below a block that says so has a heading in its section, and one
below another block has none. -/
theorem headings_render_block :
    ('\n' ∉ "a.js".toList ∧ '\n' ∉ "f".toList ∧ '\n' ∉ "a".toList) ∧
      (render "a.js".toList "/** ## é */\nfunction f(a) {}\n".toList .javaScript
          { functions := [{ name := ['f'], params := [['a']], start := 13, stop := 29 }],
            classes := [] }).headings =
        ["## Functions".toList, "## é".toList] ∧
      (render "a.js".toList "// # é\nfunction f(a) {}\n".toList .javaScript
          { functions := [{ name := ['f'], params := [['a']], start := 8, stop := 24 }],
            classes := [] }).headings =
        ["## Overview".toList, "## Functions".toList] := by
  refine ⟨by decide, ?_, ?_⟩
  · rw [(headings_render (by decide) (by decide) (by decide)).1]
    decide +kernel
  · rw [(headings_render (by decide) (by decide) (by decide)).2 (by decide +kernel)
      (by decide +kernel) (by decide)]
    decide +kernel

/-- A page with a comment that says so has a heading for functions without having
any. -/
theorem headings_render_comment :
    (render "a.js".toList "// ## Functions\n".toList .javaScript Outline.empty).headings =
        ["## Overview".toList, "## Functions".toList] ∧
      (render "a.js".toList "// ## Functions\n".toList .javaScript Outline.empty).headings ≠
        chapterHeadings "// ## Functions\n".toList .javaScript Outline.empty := by
  decide +kernel

end Page

end Marginalia
