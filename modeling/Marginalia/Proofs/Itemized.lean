import Marginalia.Proofs.Headings
import Marginalia.Proofs.Occurrence

/-!
# Lists in sections

The section of a function lists its parameters, and the section of a class its
methods and properties, each entry in a line of its own and an empty line below
them.  The purpose of a class counts its methods and properties.  Main statement:
these lists have one line for each entry, in order, whatever the source holds, and
the purpose of a class counts the lines of its lists.
-/

namespace Marginalia

/-! ## List lines -/

namespace Text

/-- The lines of a text in front of its first blank line. -/
def untilBlank (text : Text) : List Text :=
  (text.splitOn '\n').takeWhile fun line => !(Text.trim line).isEmpty

/-- The list lines of a text in front of its first blank line. -/
def items (text : Text) : List Text :=
  text.untilBlank.filter (Text.startsWith · "- ".toList)

@[simp] theorem untilBlank_lineFeed (rest : Text) : untilBlank ('\n' :: rest) = [] := by
  have blank : (Text.trim []).isEmpty = true := rfl
  have lines : List.splitOn '\n' ('\n' :: rest) = [] :: rest.splitOn '\n' :=
    List.splitOn_append_cons_self [] rest
  rw [untilBlank, lines, List.takeWhile_cons_of_neg (by simp [blank])]

theorem untilBlank_line {line : Text} (unbroken : '\n' ∉ line) (visible : Text.trim line ≠ [])
    (rest : Text) : untilBlank (line ++ '\n' :: rest) = line :: untilBlank rest := by
  rw [untilBlank, List.splitOn_append_cons_self, List.splitOn_eq_singleton unbroken,
    List.singleton_append, List.takeWhile_cons_of_pos (by simpa using visible), untilBlank]

/-- A text that begins with something visible is not blank. -/
theorem trim_cons_ne_nil {c : Char} (visible : isBlank c = false) (rest : Text) :
    Text.trim (c :: rest) ≠ [] := by
  rw [trim_cons visible]
  exact List.cons_ne_nil _ _

end Text

namespace Page

/-- The line of a list, without its ending. -/
def item (entry : Text × Text) : Text :=
  "- `".toList ++ entry.1 ++ "`: ".toList ++ entry.2

theorem bullet_eq (entry : Text × Text) : bullet entry = item entry ++ ['\n'] := rfl

/-- An entry that fits in one line. -/
def OneLine (entry : Text × Text) : Prop :=
  '\n' ∉ entry.1 ∧ '\n' ∉ entry.2

theorem item_unbroken {entry : Text × Text} (oneLine : OneLine entry) : '\n' ∉ item entry := by
  simp [item, oneLine.1, oneLine.2]

/-- Entries in one line each are the list lines above the next empty line. -/
theorem items_bullets {entries : List (Text × Text)} (oneLine : ∀ entry ∈ entries, OneLine entry)
    (rest : Text) : Text.items (entries.flatMap bullet ++ '\n' :: rest) = entries.map item := by
  rw [Text.items]
  induction entries with
  | nil => simp
  | cons entry entries ih =>
      rw [List.forall_mem_cons] at oneLine
      have begins : Text.startsWith (item entry) "- ".toList = true := rfl
      have visible : Text.trim (item entry) ≠ [] := Text.trim_cons_ne_nil (by decide) _
      rw [List.flatMap_cons, bullet_eq, List.append_assoc, List.append_assoc,
        List.singleton_append, Text.untilBlank_line (item_unbroken oneLine.1) visible,
        List.filter_cons, begins, if_pos rfl, ih oneLine.2, List.map_cons]

/-! ## Labelled lists -/

/-- A label with the list lines `items` below it, up to the next blank line. -/
def Itemizes (label : String) (items : List Text) (block : Text) : Prop :=
  ∃ body, block = "**".toList ++ label.toList ++ ":**\n".toList ++ body ∧
    ∀ below, Text.items (body ++ below) = items

/-- A labelled list that is left out exactly if it has no lines. -/
def ItemizesOptional (label : String) (items : List Text) (block : Text) : Prop :=
  (block = [] ↔ items = []) ∧ (block ≠ [] → Itemizes label items block)

theorem itemizes_labelled (label : String) {entries : List (Text × Text)}
    (oneLine : ∀ entry ∈ entries, OneLine entry) :
    Itemizes label (entries.map item) (labelled label (entries.flatMap bullet)) := by
  refine ⟨entries.flatMap bullet ++ ['\n'], ?_, fun below => ?_⟩
  · simp only [labelled, List.append_assoc]
  · rw [List.append_assoc, List.singleton_append, items_bullets oneLine]

theorem itemizesOptional_labelledList (label : String) {entries : List (Text × Text)}
    (oneLine : ∀ entry ∈ entries, OneLine entry) :
    ItemizesOptional label (entries.map item) (labelledList label entries) := by
  cases entries with
  | nil => exact ⟨⟨fun _ => rfl, fun _ => rfl⟩, fun present => (present rfl).elim⟩
  | cons entry entries =>
      refine ⟨⟨fun absent => ?_, fun absent => ?_⟩, fun _ => itemizes_labelled label oneLine⟩
      · cases absent
      · cases absent

/-- The list of parameters has no lines where there are no parameters. -/
theorem itemizes_parameters {entries : List (Text × Text)}
    (oneLine : ∀ entry ∈ entries, OneLine entry) :
    Itemizes "Parameters" (entries.map item)
      (labelled "Parameters"
        (if entries.isEmpty then noParameters else entries.flatMap bullet)) := by
  cases entries with
  | cons entry entries => exact itemizes_labelled "Parameters" oneLine
  | nil =>
      have visible : Text.trim "This function does not take any parameters.".toList ≠ [] :=
        Text.trim_cons_ne_nil (by decide) _
      refine ⟨noParameters ++ ['\n'], rfl, fun below => ?_⟩
      rw [noParameters_eq, List.append_assoc, List.append_assoc, List.singleton_append, Text.items,
        Text.untilBlank_line (by decide) visible, List.singleton_append, Text.untilBlank_lineFeed]
      rfl

end Page

/-! ## Counts -/

namespace ClassBody

/-- A number between two texts. -/
def numbered (lead trail : String) (count : Nat) : Text :=
  lead.toList ++ decimal count ++ trail.toList

/-- The sentence on the number of methods. -/
def methodSentence (count : Nat) : Text :=
  numbered "provides " " method(s) to perform various operations. " count

/-- The sentence on the number of properties. -/
def propertySentence (count : Nat) : Text :=
  numbered "It manages " " property/properties to maintain its state. " count

theorem decimal_injective {first second : Nat} (same : decimal first = decimal second) :
    first = second := by
  calc
    first = Nat.ofDigitChars 10 (decimal first) 0 := Nat.ofDigitChars_ten_toDigits.symm
    _ = Nat.ofDigitChars 10 (decimal second) 0 := by rw [same]
    _ = second := Nat.ofDigitChars_ten_toDigits

/-- A number at the end of a text begins behind the last blank. -/
theorem eq_of_decimal_behind {front front' : Text} {first second : Nat}
    (same : front ++ ' ' :: decimal first = front' ++ ' ' :: decimal second) : first = second := by
  have cut (front : Text) (count : Nat) :
      ((front ++ ' ' :: decimal count).reverse.takeWhile Char.isDigit).reverse = decimal count := by
    have digits : ∀ c ∈ (decimal count).reverse, c.isDigit :=
      fun c member => isDigit_of_mem_decimal (List.mem_reverse.mp member)
    rw [List.reverse_append, List.reverse_cons, List.append_assoc,
      List.takeWhile_append_of_pos digits, List.singleton_append,
      List.takeWhile_cons_of_neg (by decide), List.append_nil, List.reverse_reverse]
  apply decimal_injective
  rw [← cut front first, same, cut front' second]

theorem not_mem_numbered {c : Char} {lead trail : String} (inLead : c ∉ lead.toList)
    (noDigit : c.isDigit = false) (inTrail : c ∉ trail.toList) (count : Nat) :
    c ∉ numbered lead trail count := by
  rw [numbered, List.mem_append, List.mem_append]
  exact not_or.mpr ⟨not_or.mpr ⟨inLead, not_mem_decimal noDigit count⟩, inTrail⟩

/-- A character that occurs once in the text behind a number, and not elsewhere. -/
structure IsMark (mark : Char) (lead trail : String) : Prop where
  spaced : lead.toList.getLast? = some ' '
  inLead : mark ∉ lead.toList
  noDigit : mark.isDigit = false
  once : trail.toList.count mark = 1

namespace IsMark

variable {mark : Char} {lead trail : String} {front back : Text}

theorem split (isMark : IsMark mark lead trail) :
    ∃ middle tail, trail.toList = middle ++ mark :: tail ∧ mark ∉ middle ∧ mark ∉ tail := by
  have member : mark ∈ trail.toList := List.count_pos_iff.mp (by rw [isMark.once]; exact Nat.one_pos)
  obtain ⟨middle, tail, whole, inMiddle⟩ := List.eq_append_cons_of_mem member
  refine ⟨middle, tail, whole, inMiddle, ?_⟩
  have once := isMark.once
  rw [whole, List.count_append, List.count_cons_self, List.count_eq_zero.mpr inMiddle] at once
  exact List.count_eq_zero.mp (by omega)

/-- The number is found with its own value only, where the mark occurs nowhere
else. -/
theorem infix_iff (isMark : IsMark mark lead trail) (inFront : mark ∉ front) (inBack : mark ∉ back)
    (count own : Nat) :
    numbered lead trail count <:+: front ++ numbered lead trail own ++ back ↔ count = own := by
  obtain ⟨start, spaced⟩ := List.getLast?_eq_some_iff.mp isMark.spaced
  obtain ⟨middle, tail, marked, inMiddle, inTail⟩ := isMark.split
  constructor
  · rintro ⟨before, after, same⟩
    have around : front ++ (lead.toList ++ decimal own ++ middle) ++ mark :: (tail ++ back) =
        before ++ (lead.toList ++ decimal count ++ middle) ++ mark :: (tail ++ after) := by
      simpa only [numbered, marked, List.append_assoc, List.cons_append] using same.symm
    have sparedFront : mark ∉ front ++ (lead.toList ++ decimal own ++ middle) := by
      simp only [List.mem_append, not_or]
      exact ⟨inFront, ⟨isMark.inLead, not_mem_decimal isMark.noDigit own⟩, inMiddle⟩
    have sparedBack : mark ∉ tail ++ back := by
      rw [List.mem_append, not_or]
      exact ⟨inTail, inBack⟩
    have ends := ((List.append_cons_inj_of_notMem sparedFront sparedBack).mp around).1
    have behind : front ++ start ++ ' ' :: decimal own ++ middle =
        before ++ start ++ ' ' :: decimal count ++ middle := by
      simpa only [spaced, List.append_assoc, List.cons_append, List.nil_append] using ends
    exact (eq_of_decimal_behind (List.append_cancel_right behind)).symm
  · rintro rfl
    exact ⟨front, back, rfl⟩

/-- The number is not found where the mark does not occur. -/
theorem not_infix (isMark : IsMark mark lead trail) {text : Text} (spared : mark ∉ text)
    (count : Nat) : ¬ numbered lead trail count <:+: text := by
  intro holds
  obtain ⟨middle, tail, marked, -, -⟩ := isMark.split
  apply spared
  apply holds.subset
  simp [numbered, marked]

end IsMark

/-- The purpose of a class: sentences on its methods and properties, and what they
are for. -/
theorem explainPurpose_eq (text : Text) (methods properties : List Text) :
    explainPurpose text methods properties =
      "This class ".toList ++ (if methods.isEmpty then [] else methodSentence methods.length) ++
        (if properties.isEmpty then [] else propertySentence properties.length) ++
        ("It appears to ".toList ++ Explain.classPurpose text ++ ['.']) := by
  have regroup (front first second third : Text) :
      front ++ first ++ second ++ third = front ++ (first ++ second ++ third) := by
    simp only [List.append_assoc]
  unfold explainPurpose methodSentence propertySentence numbered
  exact regroup _ _ _ _

/-- What a class is for is said without the mark of a sentence on numbers. -/
theorem not_mem_ending {c : Char} (text : Text) (inLead : c ∉ "It appears to ".toList)
    (meanings : ∀ hint ∈ Explain.classPurposes, c ∉ hint.meaning)
    (otherwise : c ∉ "encapsulate related functionality and data".toList) (point : c ≠ '.') :
    c ∉ "It appears to ".toList ++ Explain.classPurpose text ++ ['.'] := by
  have purpose : c ∉ Explain.classPurpose text :=
    Explain.not_mem_firstMeaning [text] meanings otherwise
  rw [List.mem_append, List.mem_append, List.mem_singleton]
  exact not_or.mpr ⟨not_or.mpr ⟨inLead, purpose⟩, point⟩

/-- The purpose of a class gives the number of its methods, if it has any. -/
theorem methodSentence_infix_iff (text : Text) (methods properties : List Text) (count : Nat) :
    methodSentence count <:+: explainPurpose text methods properties ↔
      methods ≠ [] ∧ count = methods.length := by
  have isMark : IsMark '(' "provides " " method(s) to perform various operations. " :=
    ⟨by decide, by decide, by decide, by decide⟩
  have inBack : '(' ∉ (if properties.isEmpty then [] else propertySentence properties.length) ++
      ("It appears to ".toList ++ Explain.classPurpose text ++ ['.']) := by
    rw [List.mem_append, not_or]
    constructor
    · split
      · exact List.not_mem_nil
      · exact not_mem_numbered (by decide) (by decide) (by decide) _
    · exact not_mem_ending text (by decide) (by simp [Explain.classPurposes, Explain.Hint.of])
        (by decide) (by decide)
  rw [explainPurpose_eq, List.append_assoc ("This class ".toList ++ _)]
  cases methods with
  | nil =>
      have spared : '(' ∉ "This class ".toList ++ [] ++
          ((if properties.isEmpty then [] else propertySentence properties.length) ++
            ("It appears to ".toList ++ Explain.classPurpose text ++ ['.'])) := by
        rw [List.append_nil, List.mem_append, not_or]
        exact ⟨by decide, inBack⟩
      exact iff_of_false (isMark.not_infix spared count) fun present => present.1 rfl
  | cons method methods =>
      rw [and_iff_right (List.cons_ne_nil method methods)]
      exact isMark.infix_iff (by decide) inBack count (method :: methods).length

/-- The purpose of a class gives the number of its properties, if it has any. -/
theorem propertySentence_infix_iff (text : Text) (methods properties : List Text) (count : Nat) :
    propertySentence count <:+: explainPurpose text methods properties ↔
      properties ≠ [] ∧ count = properties.length := by
  have isMark : IsMark '/' "It manages " " property/properties to maintain its state. " :=
    ⟨by decide, by decide, by decide, by decide⟩
  have inFront : '/' ∉ "This class ".toList ++
      if methods.isEmpty then [] else methodSentence methods.length := by
    rw [List.mem_append, not_or]
    constructor
    · decide
    · split
      · exact List.not_mem_nil
      · exact not_mem_numbered (by decide) (by decide) (by decide) _
  have inBack : '/' ∉ "It appears to ".toList ++ Explain.classPurpose text ++ ['.'] :=
    not_mem_ending text (by decide) (by simp [Explain.classPurposes, Explain.Hint.of]) (by decide)
      (by decide)
  rw [explainPurpose_eq]
  cases properties with
  | nil =>
      have spared : '/' ∉ "This class ".toList ++
          (if methods.isEmpty then [] else methodSentence methods.length) ++ [] ++
          ("It appears to ".toList ++ Explain.classPurpose text ++ ['.']) := by
        rw [List.append_nil, List.mem_append, not_or]
        exact ⟨inFront, inBack⟩
      exact iff_of_false (isMark.not_infix spared count) fun present => present.1 rfl
  | cons property properties =>
      rw [and_iff_right (List.cons_ne_nil property properties)]
      exact isMark.infix_iff inFront inBack count (property :: properties).length

end ClassBody

/-! ## Sections -/

namespace Page

/-- What stands above the lists of a section. -/
def sectionHead (name description : Text) : Text :=
  "### ".toList ++ name ++ "\n\n".toList ++ paragraph description

theorem functionText_eq (note : FunctionNote) :
    functionText note = sectionHead note.name note.description ++
      labelled "Parameters"
        (if note.parameters.isEmpty then noParameters else note.parameters.flatMap bullet) ++
      ((if note.result.isEmpty then [] else labelled "Returns" (note.result ++ ['\n'])) ++
        labelled "Functionality" (note.functionality ++ ['\n'])) := by
  unfold functionText sectionHead
  exact List.append_assoc _ _ _

theorem classText_eq (note : ClassNote) :
    classText note = sectionHead note.name note.description ++
      labelledList "Methods" note.methods ++ labelledList "Properties" note.properties ++
      labelled "Purpose" (note.purpose ++ ['\n']) := rfl

theorem functionText_ne_nil (note : FunctionNote) : functionText note ≠ [] :=
  List.cons_ne_nil _ _

theorem classText_ne_nil (note : ClassNote) : classText note ≠ [] :=
  List.cons_ne_nil _ _

/-- The heading of a chapter. -/
def chapterHead (title : String) : Text :=
  "## ".toList ++ title.toList ++ "\n\n".toList

/-- A chapter holds its sections one behind the other, below its heading. -/
theorem chapter_sections {α : Type} (title : String) (image : α → Text) {item : α}
    (visible : image item ≠ []) (before after : List α) :
    chapter title ((before ++ item :: after).flatMap image) =
      chapterHead title ++ before.flatMap image ++ image item ++ after.flatMap image := by
  have present : ((before ++ item :: after).flatMap image).isEmpty = false := by
    simp [visible]
  rw [chapter, present, if_neg Bool.false_ne_true, chapterHead]
  simp only [List.flatMap_append, List.flatMap_cons, List.append_assoc]

/-- What stands in front of the chapters on functions and classes: the title, the
overview and the dependencies. -/
def opening (page : Page) : Text :=
  "# Documentation for ".toList ++ page.fileName ++ "\n\n".toList ++
    chapter "Overview" (paragraph page.overview) ++
    chapter "Dependencies" (importsText page.imports)

theorem text_eq (page : Page) :
    page.text = page.opening ++ chapter "Functions" (page.functions.flatMap functionText) ++
      chapter "Classes" (page.classes.flatMap classText) := rfl

/-- What stands in front of the section of the first function. -/
def functionsLead (page : Page) : Text :=
  page.opening ++ chapterHead "Functions"

/-- What stands in front of the section of the first class. -/
def classesLead (page : Page) : Text :=
  page.opening ++ chapter "Functions" (page.functions.flatMap functionText) ++ chapterHead "Classes"

section

variable (fileName source : Text) (family : Family) {outline : Outline}

theorem exists_functionText {before after : List FunctionRecord} {record : FunctionRecord}
    (split : outline.functions = before ++ record :: after) :
    ∃ tail, render fileName source family outline =
      (Page.of fileName source family outline).functionsLead ++
        (before.map (FunctionNote.of family source)).flatMap functionText ++
        functionText (FunctionNote.of family source record) ++ tail := by
  have notes : (Page.of fileName source family outline).functions =
      before.map (FunctionNote.of family source) ++
        FunctionNote.of family source record :: after.map (FunctionNote.of family source) := by
    simp only [Page.of, split, List.map_append, List.map_cons]
  simp only [render, text_eq, notes, chapter_sections _ _ (functionText_ne_nil _), functionsLead,
    List.append_assoc]
  exact ⟨_, rfl⟩

theorem exists_classText {before after : List ClassRecord} {record : ClassRecord}
    (split : outline.classes = before ++ record :: after) :
    ∃ tail, render fileName source family outline =
      (Page.of fileName source family outline).classesLead ++
        (before.map (ClassNote.of family source)).flatMap classText ++
        classText (ClassNote.of family source record) ++ tail := by
  have notes : (Page.of fileName source family outline).classes =
      before.map (ClassNote.of family source) ++
        ClassNote.of family source record :: after.map (ClassNote.of family source) := by
    simp only [Page.of, split, List.map_append, List.map_cons]
  simp only [render, text_eq, notes, chapter_sections _ _ (classText_ne_nil _), classesLead,
    List.append_assoc]
  exact ⟨_, rfl⟩

end

/-! ## Lists of functions and classes -/

variable {family : Family} {source : Text}

/-- The list lines for the parameters of a function. -/
def parameterItems (family : Family) (source : Text) (record : FunctionRecord) : List Text :=
  record.params.map fun param =>
    item (param, Tag.parameterDescription family param
      (Comment.leading family source record.start ++ source.slice record.start record.stop))

/-- The lists and the purpose in the section of a class with this text: one line for
each method and each property, and their numbers. -/
structure ClassLists (family : Family) (text methodBlock propertyBlock purpose : Text) : Prop where
  methods : ItemizesOptional "Methods"
    ((ClassBody.methods family text).map fun method =>
      item (method, ClassBody.explainMethod text method (ClassBody.methods family text))) methodBlock
  properties : ItemizesOptional "Properties"
    ((ClassBody.properties family text).map fun property =>
      item (property, ClassBody.explainProperty)) propertyBlock
  methodCount : ∀ count, ClassBody.methodSentence count <:+: purpose ↔
    methodBlock ≠ [] ∧ count = (ClassBody.methods family text).length
  propertyCount : ∀ count, ClassBody.propertySentence count <:+: purpose ↔
    propertyBlock ≠ [] ∧ count = (ClassBody.properties family text).length

theorem functionText_itemizes {record : FunctionRecord}
    (params : ∀ param ∈ record.params, '\n' ∉ param) :
    ∃ block tail, functionText (FunctionNote.of family source record) =
        sectionHead record.name (FunctionNote.of family source record).description ++ block ++
          tail ∧
      Itemizes "Parameters" (parameterItems family source record) block := by
  have oneLine : ∀ entry ∈ (FunctionNote.of family source record).parameters, OneLine entry := by
    intro entry member
    obtain ⟨param, inside, rfl⟩ := List.mem_map.mp member
    exact ⟨params param inside, Tag.parameterDescription_unbroken _ _ _⟩
  have listed := itemizes_parameters oneLine
  have items : (FunctionNote.of family source record).parameters.map item =
      parameterItems family source record := List.map_map
  rw [items] at listed
  exact ⟨_, _, functionText_eq _, listed⟩

theorem classText_lists (family : Family) (source : Text) (record : ClassRecord) :
    ∃ methodBlock propertyBlock, classText (ClassNote.of family source record) =
        sectionHead record.name (ClassNote.of family source record).description ++ methodBlock ++
          propertyBlock ++
          labelled "Purpose" ((ClassNote.of family source record).purpose ++ ['\n']) ∧
      ClassLists family (source.slice record.start record.stop) methodBlock propertyBlock
        (ClassNote.of family source record).purpose := by
  have methodsInLine : ∀ entry ∈ (ClassNote.of family source record).methods, OneLine entry := by
    intro entry member
    obtain ⟨method, inside, rfl⟩ := List.mem_map.mp member
    exact ⟨ClassBody.not_mem_of_mem_methods inside, ClassBody.explainMethod_unbroken _ _ _⟩
  have propertiesInLine :
      ∀ entry ∈ (ClassNote.of family source record).properties, OneLine entry := by
    intro entry member
    obtain ⟨property, inside, rfl⟩ := List.mem_map.mp member
    exact ⟨ClassBody.not_mem_of_mem_properties inside, ClassBody.explainProperty_unbroken⟩
  have methods := itemizesOptional_labelledList "Methods" methodsInLine
  have properties := itemizesOptional_labelledList "Properties" propertiesInLine
  have listed {label : String} {items : List Text} {entry : Text → Text} {block : Text}
      (itemizes : ItemizesOptional label (items.map entry) block) : block ≠ [] ↔ items ≠ [] := by
    rw [ne_eq, itemizes.1, List.map_eq_nil_iff]
  simp only [ClassNote.of, List.map_map] at methods properties
  refine ⟨_, _, classText_eq _, ⟨methods, properties, fun count => ?_, fun count => ?_⟩⟩
  · exact (ClassBody.methodSentence_infix_iff _ _ _ count).trans
      (and_congr_left' (listed methods).symm)
  · exact (ClassBody.propertySentence_infix_iff _ _ _ count).trans
      (and_congr_left' (listed properties).symm)

/-- The section of a function stands behind the sections of the functions before it
and lists its parameters below its own label, one line for each of them in order; the
section of a class lists its methods and properties in the same way, and its purpose
counts the lines of these lists. -/
theorem render_itemizes (fileName source : Text) (family : Family) (outline : Outline) :
    (∀ before record after, outline.functions = before ++ record :: after →
      (∀ param ∈ record.params, '\n' ∉ param) →
      ∃ block tail, render fileName source family outline =
          (Page.of fileName source family outline).functionsLead ++
            (before.map (FunctionNote.of family source)).flatMap functionText ++
            (sectionHead record.name (FunctionNote.of family source record).description ++
              block ++ tail) ∧
        Itemizes "Parameters" (parameterItems family source record) block) ∧
    ∀ before record after, outline.classes = before ++ record :: after →
      ∃ methodBlock propertyBlock tail, render fileName source family outline =
          (Page.of fileName source family outline).classesLead ++
            (before.map (ClassNote.of family source)).flatMap classText ++
            (sectionHead record.name (ClassNote.of family source record).description ++
              methodBlock ++ propertyBlock ++
              labelled "Purpose" ((ClassNote.of family source record).purpose ++ ['\n']) ++ tail) ∧
        ClassLists family (source.slice record.start record.stop) methodBlock propertyBlock
          (ClassNote.of family source record).purpose := by
  constructor
  · intro before record after split params
    obtain ⟨tail, page⟩ := exists_functionText fileName source family split
    obtain ⟨block, rest, section', itemizes⟩ := functionText_itemizes params
    refine ⟨block, rest ++ tail, ?_, itemizes⟩
    rw [page, section']
    simp only [List.append_assoc]
  · intro before record after split
    obtain ⟨tail, page⟩ := exists_classText fileName source family split
    obtain ⟨methodBlock, propertyBlock, section', lists⟩ := classText_lists family source record
    refine ⟨methodBlock, propertyBlock, tail, ?_, lists⟩
    rw [page, section']
    simp only [List.append_assoc]

/-- A class with a method and two properties, and a function. -/
def listedSource : Text :=
  "function f(a) \x7b\x7d\nclass A \x7b\n m() \x7b\n  this.x = 1\n  this.y=2\r\n \x7d\n\x7d".toList

/-- An outline of it, where the parameter reads like a line of a list. -/
def listedOutline : Outline :=
  { functions := [{ name := ['f'], params := ["- `a`".toList], start := 0, stop := 16 }]
    classes := [{ name := ['A'], start := 17, stop := 66 }] }

theorem render_itemizes_listed :
    ('\n' ∉ "- `a`".toList ∧
      ∃ block, block <:+: render "a.js".toList listedSource .javaScript listedOutline ∧
        Itemizes "Parameters" ["- `- `a``: No description provided".toList] block) ∧
    ∃ block, block <:+: render "a.js".toList listedSource .javaScript listedOutline ∧
      ItemizesOptional "Properties"
        ["- `this.x`: Stores data relevant to the class's functionality.".toList,
          "- `this.y`: Stores data relevant to the class's functionality.".toList] block := by
  obtain ⟨functions, classes⟩ :=
    render_itemizes "a.js".toList listedSource .javaScript listedOutline
  refine ⟨⟨by decide, ?_⟩, ?_⟩
  · obtain ⟨block, tail, page, itemizes⟩ := functions [] _ [] rfl (by decide)
    have items : parameterItems .javaScript listedSource
          { name := ['f'], params := ["- `a`".toList], start := 0, stop := 16 } =
        ["- `- `a``: No description provided".toList] := by decide +kernel
    rw [items] at itemizes
    refine ⟨block, ?_, itemizes⟩
    rw [page]
    exact (List.infix_append _ block tail).trans (List.suffix_append _ _).isInfix
  · obtain ⟨methodBlock, propertyBlock, tail, page, lists⟩ := classes [] _ [] rfl
    have items : ((ClassBody.properties .javaScript (listedSource.slice 17 66)).map fun property =>
          item (property, ClassBody.explainProperty)) =
        ["- `this.x`: Stores data relevant to the class's functionality.".toList,
          "- `this.y`: Stores data relevant to the class's functionality.".toList] := by
      decide +kernel
    have itemizes := lists.properties
    rw [items] at itemizes
    refine ⟨propertyBlock, ?_, itemizes⟩
    rw [page]
    exact ((List.infix_append _ propertyBlock _).trans (List.prefix_append _ tail).isInfix).trans
      (List.suffix_append _ _).isInfix

end Page

end Marginalia
