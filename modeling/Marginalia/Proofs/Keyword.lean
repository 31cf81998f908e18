import Marginalia.Explain
import Marginalia.Proofs.Occurrence
import Mathlib.Data.List.Find

/-!
# Keywords

A keyword holds no blank, so it never lies across the end of a line, and neither
the indentation of a line nor its ending is a part of it.  Main statement: the
explanation of a function says what the keywords in its text say, wherever they
stand.  A larger text is said to do all that a part of it does, and a text that
is indented or broken into lines in another way is explained in the same words.
-/

namespace Marginalia

namespace Text

theorem contains_iff {text needle : Text} : text.contains needle ↔ needle <:+: text := by
  rw [contains]
  constructor
  · intro found
    obtain ⟨⟨before, after⟩, cut⟩ := Option.isSome_iff_exists.mp found
    exact ⟨before, after, (cut?_eq_some cut).symm⟩
  · exact isSome_cut?_of_occurs

/-! ## Texts without blanks -/

/-- Whether a text is not empty and has no blank. -/
def isSolid (text : Text) : Bool :=
  !text.isEmpty && text.all fun c => !isBlank c

section Solid

variable {needle : Text}

theorem ne_nil_of_isSolid (solid : isSolid needle) : needle ≠ [] := by
  rintro rfl
  cases solid

theorem not_mem_of_isSolid (solid : isSolid needle) {c : Char} (blank : isBlank c) :
    c ∉ needle := by
  intro member
  have visible := List.all_eq_true.mp (Bool.and_eq_true_iff.mp solid).2 c member
  rw [blank] at visible
  cases visible

/-- What has no blank lies on one side of every gap. -/
theorem infix_gap_iff (solid : isSolid needle) (front : Text) {gap : Text}
    (blank : ∀ c ∈ gap, isBlank c) (nonempty : gap ≠ []) (back : Text) :
    needle <:+: front ++ (gap ++ back) ↔ needle <:+: front ∨ needle <:+: back := by
  induction gap generalizing front with
  | nil => exact (nonempty rfl).elim
  | cons c gap ih =>
      rw [List.forall_mem_cons] at blank
      rw [List.cons_append, infix_append_cons_iff (not_mem_of_isSolid solid blank.1)]
      cases gap with
      | nil => rw [List.nil_append]
      | cons d gap =>
          have behind := ih [] blank.2 (List.cons_ne_nil d gap)
          rw [List.nil_append, List.infix_nil] at behind
          rw [behind, or_iff_right (ne_nil_of_isSolid solid)]

theorem infix_append_blank_iff (solid : isSolid needle) (text : Text) {gap : Text}
    (blank : ∀ c ∈ gap, isBlank c) : needle <:+: text ++ gap ↔ needle <:+: text := by
  by_cases nonempty : gap = []
  · rw [nonempty, List.append_nil]
  · have apart := infix_gap_iff solid text blank nonempty []
    rwa [List.append_nil, List.infix_nil, or_iff_left (ne_nil_of_isSolid solid)] at apart

theorem infix_blank_append_iff (solid : isSolid needle) {gap : Text}
    (blank : ∀ c ∈ gap, isBlank c) (text : Text) : needle <:+: gap ++ text ↔ needle <:+: text := by
  by_cases nonempty : gap = []
  · rw [nonempty, List.nil_append]
  · have apart := infix_gap_iff solid [] blank nonempty text
    rwa [List.nil_append, List.infix_nil, or_iff_right (ne_nil_of_isSolid solid)] at apart

theorem infix_trim_iff (solid : isSolid needle) (text : Text) :
    needle <:+: trim text ↔ needle <:+: text := by
  conv => rhs; rw [← blanks_around text]
  rw [infix_blank_append_iff solid fun _ => isBlank_of_mem_blanksBefore,
    infix_append_blank_iff solid _ fun _ => isBlank_of_mem_blanksBehind]

/-- What has no blank occurs in a text exactly if it occurs in a trimmed line. -/
theorem infix_iff_line (solid : isSolid needle) (text : Text) :
    needle <:+: text ↔ ∃ line ∈ text.lines.map trim, needle <:+: line := by
  have unbroken : '\n' ∉ needle := not_mem_of_isSolid solid rfl
  conv => lhs; rw [← flatten_segments text]
  rw [infix_flatten_iff (ne_nil_of_isSolid solid) unbroken fun _ => getLast?_of_mem_dropLast]
  simp only [lines, List.mem_map, exists_exists_and_eq_and, trim_withoutEnding,
    infix_trim_iff solid]

end Solid

/-! ## Indentation and line endings -/

/-- What may end a line. -/
def lineEndings : List Text :=
  [['\n'], ['\r', '\n'], ['\r']]

/-- The same lines, each with any indentation and any ending. -/
inductive Relaid : Text → Text → Prop where
  | last {indent indent' : Text} (blank : ∀ c ∈ indent, isBlank c)
      (blank' : ∀ c ∈ indent', isBlank c) (line : Text) :
      Relaid (indent ++ line) (indent' ++ line)
  | line {indent indent' ending ending' rest rest' : Text} (blank : ∀ c ∈ indent, isBlank c)
      (blank' : ∀ c ∈ indent', isBlank c) (line : Text) (ends : ending ∈ lineEndings)
      (ends' : ending' ∈ lineEndings) (more : Relaid rest rest') :
      Relaid (indent ++ (line ++ (ending ++ rest))) (indent' ++ (line ++ (ending' ++ rest')))

theorem infix_ended_iff {needle : Text} (solid : isSolid needle) {indent ending : Text}
    (blank : ∀ c ∈ indent, isBlank c) (line : Text) (ends : ending ∈ lineEndings) (rest : Text) :
    needle <:+: indent ++ (line ++ (ending ++ rest)) ↔ needle <:+: line ∨ needle <:+: rest := by
  have gap : (∀ c ∈ ending, isBlank c) ∧ ending ≠ [] := by
    simp only [lineEndings, List.mem_cons, List.not_mem_nil, or_false] at ends
    rcases ends with rfl | rfl | rfl <;> simp [isBlank]
  rw [infix_blank_append_iff solid blank, infix_gap_iff solid line gap.1 gap.2]

theorem Relaid.infix_iff {text other : Text} (relaid : Relaid text other) {needle : Text}
    (solid : isSolid needle) : needle <:+: text ↔ needle <:+: other := by
  induction relaid with
  | last blank blank' line =>
      rw [infix_blank_append_iff solid blank, infix_blank_append_iff solid blank']
  | line blank blank' line ends ends' _ ih =>
      rw [infix_ended_iff solid blank line ends, infix_ended_iff solid blank' line ends', ih]

end Text

/-! ## Hints -/

namespace Explain

/-- One of the keywords stands somewhere in a text. -/
def Hint.Named (hint : Hint) (text : Text) : Prop :=
  ∃ keyword ∈ hint.keywords, keyword <:+: text

instance (hint : Hint) (text : Text) : Decidable (hint.Named text) :=
  inferInstanceAs (Decidable (∃ keyword ∈ hint.keywords, keyword <:+: text))

theorem Hint.occursIn_eq (hint : Hint) (text : Text) :
    hint.occursIn text = decide (hint.Named text) := by
  rw [Bool.eq_iff_iff, decide_eq_true_iff, occursIn, List.any_eq_true]
  simp only [Text.contains_iff]
  rfl

/-- Whether all keywords are without blanks. -/
def Hint.isSolid (hint : Hint) : Bool :=
  hint.keywords.all Text.isSolid

namespace Hint

variable {hint : Hint} {text other : Text}

theorem Named.mono (named : hint.Named text) (part : text <:+: other) : hint.Named other := by
  obtain ⟨keyword, member, occurs⟩ := named
  exact ⟨keyword, member, occurs.trans part⟩

theorem named_congr (solid : hint.isSolid)
    (same : ∀ needle, Text.isSolid needle → (needle <:+: text ↔ needle <:+: other)) :
    hint.Named text ↔ hint.Named other := by
  have keywords := List.all_eq_true.mp solid
  constructor
  · rintro ⟨keyword, member, occurs⟩
    exact ⟨keyword, member, (same keyword (keywords keyword member)).mp occurs⟩
  · rintro ⟨keyword, member, occurs⟩
    exact ⟨keyword, member, (same keyword (keywords keyword member)).mpr occurs⟩

/-- The trimmed lines of a text name what the text names. -/
theorem any_lines_eq (solid : hint.isSolid) (text : Text) :
    (text.lines.map Text.trim).any hint.occursIn = decide (hint.Named text) := by
  have keywords := List.all_eq_true.mp solid
  rw [Bool.eq_iff_iff, decide_eq_true_iff, List.any_eq_true]
  simp only [occursIn_eq, decide_eq_true_iff]
  constructor
  · rintro ⟨line, inside, keyword, member, occurs⟩
    exact ⟨keyword, member, (Text.infix_iff_line (keywords keyword member) text).mpr
      ⟨line, inside, occurs⟩⟩
  · rintro ⟨keyword, member, occurs⟩
    obtain ⟨line, inside, occurs⟩ :=
      (Text.infix_iff_line (keywords keyword member) text).mp occurs
    exact ⟨line, inside, keyword, member, occurs⟩

end Hint

/-- The meaning of the first hint that a text names. -/
def firstNamed (hints : List Hint) (otherwise text : Text) : Text :=
  ((hints.find? fun hint => hint.Named text).map (·.meaning)).getD otherwise

theorem firstMeaning_of_same {hints : List Hint} {texts : List Text} {text : Text}
    (same : ∀ hint ∈ hints, texts.any hint.occursIn = decide (hint.Named text)) (otherwise : Text) :
    firstMeaning hints texts otherwise = firstNamed hints otherwise text := by
  rw [firstMeaning, List.find?_congr same, firstNamed]
  cases hints.find? fun hint => hint.Named text <;> rfl

theorem firstMeaning_singleton (hints : List Hint) (text otherwise : Text) :
    firstMeaning hints [text] otherwise = firstNamed hints otherwise text := by
  apply firstMeaning_of_same
  intro hint _
  rw [List.any_cons, List.any_nil, Bool.or_false, Hint.occursIn_eq]

section Congruence

variable {hints : List Hint} {text other : Text}

/-- Which keywords of some hints occur decides which of the hints are named. -/
theorem filter_named_congr (solid : hints.all Hint.isSolid)
    (same : ∀ needle, Text.isSolid needle → (needle <:+: text ↔ needle <:+: other)) :
    (hints.filter fun hint => hint.Named text) = hints.filter fun hint => hint.Named other := by
  apply List.filter_congr
  intro hint member
  exact decide_eq_decide.mpr (Hint.named_congr (List.all_eq_true.mp solid hint member) same)

theorem firstNamed_congr (solid : hints.all Hint.isSolid)
    (same : ∀ needle, Text.isSolid needle → (needle <:+: text ↔ needle <:+: other))
    (otherwise : Text) : firstNamed hints otherwise text = firstNamed hints otherwise other := by
  rw [firstNamed, ← List.head?_filter, filter_named_congr solid same, List.head?_filter, firstNamed]

end Congruence

/-! ## Functions -/

theorem behaviours_solid : behaviours.all Hint.isSolid := by decide

theorem functionPurposes_solid : functionPurposes.all Hint.isSolid := by decide

/-- The purpose that the text of a function names. -/
def namedPurpose (text : Text) : Text :=
  firstNamed functionPurposes "process data or perform a specific task".toList text

theorem functionPurpose_lines (text : Text) :
    functionPurpose (text.lines.map Text.trim) = namedPurpose text := by
  apply firstMeaning_of_same
  intro hint member
  exact Hint.any_lines_eq (List.all_eq_true.mp functionPurposes_solid hint member) text

/-- The clauses that a text names, in the order of the list of behaviours. -/
def namedClauses (text : Text) : List Text :=
  (behaviours.filter fun hint => hint.Named text).map (·.meaning)

theorem mem_namedClauses_iff {text clause : Text} :
    clause ∈ namedClauses text ↔ ∃ hint ∈ behaviours, hint.Named text ∧ hint.meaning = clause := by
  simp [namedClauses, and_assoc]

/-- The parts of an explanation. -/
def parts (text : Text) : List Text :=
  "This function ".toList :: namedClauses text ++
    ["It appears to ".toList, namedPurpose text ++ ['.']]

theorem functionality_eq_flatten (text : Text) : functionality text = (parts text).flatten := by
  have clauses : (behaviours.filter fun hint => (text.lines.map Text.trim).any hint.occursIn) =
      behaviours.filter fun hint => hint.Named text := by
    apply List.filter_congr
    intro hint member
    exact Hint.any_lines_eq (List.all_eq_true.mp behaviours_solid hint member) text
  unfold functionality
  dsimp only
  rw [clauses, functionPurpose_lines, parts, namedClauses, List.flatMap_def]
  simp only [List.cons_append, List.flatten_cons, List.flatten_append, List.flatten_nil,
    List.append_nil, List.append_assoc]

/-- Texts in which the same keywords occur are explained in the same words. -/
theorem functionality_congr {text other : Text}
    (same : ∀ needle, Text.isSolid needle → (needle <:+: text ↔ needle <:+: other)) :
    functionality text = functionality other := by
  rw [functionality_eq_flatten, functionality_eq_flatten, parts, parts, namedClauses, namedClauses,
    namedPurpose, namedPurpose, filter_named_congr behaviours_solid same,
    firstNamed_congr functionPurposes_solid same]

/-! ## What an explanation says -/

/-- The parts that are no clauses, in any explanation. -/
def frame : List Text :=
  "This function ".toList :: "It appears to ".toList ::
    ("process data or perform a specific task".toList :: functionPurposes.map (·.meaning)).map
      (· ++ ['.'])

theorem namedPurpose_mem_frame (text : Text) : namedPurpose text ++ ['.'] ∈ frame := by
  apply List.mem_cons_of_mem
  apply List.mem_cons_of_mem
  apply List.mem_map_of_mem
  rw [namedPurpose, firstNamed]
  cases found : functionPurposes.find? fun hint => hint.Named text with
  | none => exact List.mem_cons_self
  | some hint =>
      exact List.mem_cons_of_mem _ (List.mem_map_of_mem (List.mem_of_find?_eq_some found))

/-- Whether a word tells the clause of a hint from all other parts. -/
def Hint.isSign (hint : Hint) (word : Text) : Bool :=
  word.isSolid && hint.meaning.contains word && frame.all (!·.contains word) &&
    behaviours.all fun other => other.keywords == hint.keywords || !other.meaning.contains word

theorem exists_sign : ∀ hint ∈ behaviours, ∃ word, hint.isSign word := by
  have signs : behaviours.all fun hint =>
      (["conditional", "looping", "errors", "returns", "asynchronous"].map String.toList).any
        hint.isSign := by
    decide +kernel
  intro hint member
  obtain ⟨word, -, sign⟩ := List.any_eq_true.mp (List.all_eq_true.mp signs hint member)
  exact ⟨word, sign⟩

/-- A part of an explanation is fixed or the clause of a hint that the text names. -/
theorem mem_parts {text part : Text} (member : part ∈ parts text) :
    part ∈ frame ∨ ∃ hint ∈ behaviours, hint.Named text ∧ hint.meaning = part := by
  simp only [parts, List.cons_append, List.mem_cons, List.mem_append, List.not_mem_nil, or_false,
    mem_namedClauses_iff] at member
  rcases member with rfl | clause | rfl | rfl
  · exact Or.inl List.mem_cons_self
  · exact Or.inr clause
  · exact Or.inl (List.mem_cons_of_mem _ List.mem_cons_self)
  · exact Or.inl (namedPurpose_mem_frame text)

theorem parts_end_blank (text : Text) :
    ∀ part ∈ (parts text).dropLast, part.getLast? = some ' ' := by
  have clauses : ∀ hint ∈ behaviours, hint.meaning.getLast? = some ' ' := by decide
  have front : (parts text).dropLast =
      "This function ".toList :: namedClauses text ++ ["It appears to ".toList] :=
    List.dropLast_append_cons
  rw [front]
  intro part member
  simp only [List.cons_append, List.mem_cons, List.mem_append, List.not_mem_nil, or_false,
    mem_namedClauses_iff] at member
  rcases member with rfl | ⟨hint, inside, -, rfl⟩ | rfl
  · rfl
  · exact clauses hint inside
  · rfl

/-- A clause is in the explanation exactly if the text names one of its keywords. -/
theorem meaning_infix_iff {hint : Hint} (member : hint ∈ behaviours) (text : Text) :
    hint.meaning <:+: functionality text ↔ hint.Named text := by
  rw [functionality_eq_flatten]
  constructor
  · intro said
    obtain ⟨word, sign⟩ := exists_sign hint member
    simp only [Hint.isSign, Bool.and_eq_true, List.all_eq_true, Bool.or_eq_true, beq_iff_eq,
      Bool.not_eq_true', Bool.eq_false_iff, ne_eq, Text.contains_iff] at sign
    obtain ⟨⟨⟨solid, inMeaning⟩, notFrame⟩, notOther⟩ := sign
    have occurs := inMeaning.trans said
    -- the word holds no blank, so it stands in one of the parts
    rw [Text.infix_flatten_iff_of_ends (Text.ne_nil_of_isSolid solid) fun part inside =>
      ⟨' ', Text.not_mem_of_isSolid solid rfl, parts_end_blank text part inside⟩] at occurs
    obtain ⟨part, inside, occurs⟩ := occurs
    rcases mem_parts inside with fixed | ⟨other, behaviour, named, rfl⟩
    · exact (notFrame part fixed occurs).elim
    · have same := (notOther other behaviour).resolve_right (not_not.mpr occurs)
      rwa [Hint.Named, same] at named
  · intro named
    apply List.infix_of_mem_flatten
    have clause := mem_namedClauses_iff.mpr ⟨hint, member, named, rfl⟩
    exact List.mem_append_left _ (List.mem_cons_of_mem _ clause)

/-- The explanation is read off the text by a search for keywords that takes no
notice of lines.  So a larger text is said to do all that a part of it is said to
do, and neither indentation nor line endings change what is said. -/
theorem functionality_by_search (text : Text) :
    functionality text =
      "This function ".toList ++
        (behaviours.filter fun hint => hint.Named text).flatMap (·.meaning) ++
        "It appears to ".toList ++
        ((functionPurposes.find? fun hint => hint.Named text).map (·.meaning)).getD
          "process data or perform a specific task".toList ++ ['.'] ∧
    (∀ larger, text <:+: larger → ∀ hint ∈ behaviours,
      hint.meaning <:+: functionality text → hint.meaning <:+: functionality larger) ∧
    ∀ other, Text.Relaid text other → functionality other = functionality text := by
  refine ⟨?_, ?_, ?_⟩
  · rw [functionality_eq_flatten, parts, namedClauses, namedPurpose, firstNamed, List.flatMap_def]
    simp only [List.cons_append, List.flatten_cons, List.flatten_append, List.flatten_nil,
      List.append_nil, List.append_assoc]
  · intro larger part hint member said
    rw [meaning_infix_iff member] at said ⊢
    exact said.mono part
  · intro other relaid
    apply functionality_congr
    intro needle solid
    exact (relaid.infix_iff solid).symm

/-- A function whose lines are indented by a tab or by spaces. -/
def fetching : Text :=
  "\tif (x) \x7b\r\n  return fetch(x)\r\x7d".toList

theorem functionality_by_search_fetching :
    fetching <:+: "async ".toList ++ fetching ∧
    "returns a value. ".toList <:+: functionality ("async ".toList ++ fetching) ∧
    Text.Relaid fetching "if (x) \x7b\n    return fetch(x)\n\x7d".toList ∧
    functionality "if (x) \x7b\n    return fetch(x)\n\x7d".toList =
      "This function contains conditional logic. ".toList ++ "returns a value. ".toList ++
        "It appears to interact with an external API or service.".toList := by
  obtain ⟨explained, larger, relaid⟩ := functionality_by_search fetching
  have part : fetching <:+: "async ".toList ++ fetching := (List.suffix_append _ _).isInfix
  have returns : Hint.of ["return"] "returns a value. " ∈ behaviours := by simp [behaviours]
  have said : "returns a value. ".toList <:+: functionality fetching := by
    rw [explained]
    decide +kernel
  have blank : ∀ indent ∈ [[], ['\t'], "  ".toList, "    ".toList], ∀ c ∈ indent,
      Text.isBlank c := by
    simp [Text.isBlank]
  have same : Text.Relaid fetching "if (x) \x7b\n    return fetch(x)\n\x7d".toList := by
    have feed : ['\n'] ∈ Text.lineEndings := by decide
    have carriage : ['\r'] ∈ Text.lineEndings := by decide
    have both : ['\r', '\n'] ∈ Text.lineEndings := by decide
    have close := Text.Relaid.last (blank [] (by simp)) (blank [] (by simp)) ['\x7d']
    have call := Text.Relaid.line (blank "  ".toList (by simp)) (blank "    ".toList (by simp))
      "return fetch(x)".toList carriage feed close
    exact Text.Relaid.line (blank ['\t'] (by simp)) (blank [] (by simp)) "if (x) \x7b".toList
      both feed call
  refine ⟨part, larger _ part _ returns said, same, ?_⟩
  rw [relaid _ same, explained]
  decide +kernel

end Explain

end Marginalia
