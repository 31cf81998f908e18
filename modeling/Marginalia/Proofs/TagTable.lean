import Marginalia.Proofs.Occurrence
import Marginalia.Proofs.Tag

/-!
# Tags of parameters as a table

Documentation lists parameters one below the other, each with a tag that gives
its name, perhaps its type, and its description.  Main statement: looking up a
parameter in such a list finds the description that stands behind its own name,
and no other name will do, even where names, types and descriptions hold each
other.
-/

namespace Marginalia.Tag

/-- No tag of a parameter begins in a text. -/
def Untagged (text : Text) : Prop :=
  ¬ "@param".toList <:+: text

instance (text : Text) : Decidable (Untagged text) :=
  inferInstanceAs (Decidable (¬ "@param".toList <:+: text))

/-- A name that a tag can give: it holds neither blanks nor tags, and does not
begin like a type. -/
structure IsName (name : Text) : Prop where
  nonempty : name ≠ []
  solid : ∀ c ∈ name, Text.isBlank c = false
  untagged : Untagged name
  unbraced : name.head? ≠ some '{'

/-- A tag of a parameter. -/
structure ParameterTag where
  type? : Option Text
  name : Text
  description : Text
  isName : IsName name
  closed : ∀ type ∈ type?, '}' ∉ type ∧ Untagged type
  unbroken : '\n' ∉ description
  untagged : Untagged description
  speaks : ∃ c ∈ description.head?, Text.isBlank c = false

namespace ParameterTag

/-- The type in front of the name, if there is one. -/
def typeText (tag : ParameterTag) : Text :=
  match tag.type? with
  | some type => '{' :: (type ++ ['}', ' '])
  | none => []

/-- The tag as it is written, with the end of its line. -/
def written (tag : ParameterTag) : Text :=
  "@param ".toList ++ tag.typeText ++ tag.name ++ [' '] ++ tag.description ++ ['\n']

end ParameterTag

/-- Tags as they are written, each with the text that stands behind it. -/
def table (entries : List (ParameterTag × Text)) : Text :=
  entries.flatMap fun entry => entry.1.written ++ entry.2

/-! ## Texts without tags -/

theorem untagged_append_cons_iff {c : Char} (spared : c ∉ "@param".toList) {front back : Text} :
    Untagged (front ++ c :: back) ↔ Untagged front ∧ Untagged back := by
  rw [Untagged, Text.infix_append_cons_iff spared, not_or, Untagged, Untagged]

variable {name : Text}

/-- No tag matches in front of a tag. -/
theorem pattern_eq_none {front rest : Text} {before : Option Char} (nonempty : front ≠ [])
    (untagged : Untagged front) (tagBehind : ∀ c ∈ rest.head?, c = '@') :
    parameter?.pattern .javaScript name before (front ++ rest) = none := by
  have absent : Text.after? (front ++ rest) "@param".toList = none := by
    cases found : Text.after? (front ++ rest) "@param".toList with
    | none => rfl
    | some beyond =>
        rcases List.append_eq_append_iff.mp (Text.after?_eq_some.mp found) with
          ⟨more, tag, tail⟩ | ⟨more, begins, -⟩
        · cases more with
          | nil => exact (untagged (by rw [tag, List.append_nil])).elim
          | cons c more =>
              -- the tag would go on with the `@` of the tag behind
              obtain rfl : c = '@' := tagBehind c (by rw [tail]; rfl)
              cases front with
              | nil => exact (nonempty rfl).elim
              | cons d front =>
                  have inside : '@' ∈ "@param".toList.tail := by simp [tag]
                  exact absurd inside (by decide)
        · exact (untagged ⟨[], more, begins.symm⟩).elim
  simp only [parameter?.pattern, absent, Option.bind_none]

/-- Tags are searched without looking back. -/
theorem search_parameter (before : Option Char) (text : Text) :
    search (parameter?.pattern .javaScript name) before text =
      parameter? .javaScript name text := by
  cases text with
  | nil => rfl
  | cons c rest => rfl

/-- Text without tags is passed over. -/
theorem parameter?_append {front rest : Text} (untagged : Untagged front)
    (tagBehind : ∀ c ∈ rest.head?, c = '@') :
    parameter? .javaScript name (front ++ rest) = parameter? .javaScript name rest := by
  induction front with
  | nil => rfl
  | cons c front ih =>
      have later : Untagged front := fun occurs =>
        untagged (occurs.trans (List.suffix_cons c front).isInfix)
      have missed : parameter?.pattern .javaScript name none (c :: front ++ rest) = none :=
        pattern_eq_none (List.cons_ne_nil c front) untagged tagBehind
      rw [← ih later]
      calc
        parameter? .javaScript name (c :: front ++ rest)
          = (parameter?.pattern .javaScript name none (c :: front ++ rest) <|>
              search (parameter?.pattern .javaScript name) (some c) (front ++ rest)) := rfl
        _ = search (parameter?.pattern .javaScript name) (some c) (front ++ rest) := by
            rw [missed]
            rfl
        _ = parameter? .javaScript name (front ++ rest) := search_parameter (some c) _

/-! ## One tag -/

theorem blanks_space {α : Type} {next : Text → Option α} {c : Char}
    (solid : Text.isBlank c = false) (rest : Text) :
    blanks next (' ' :: c :: rest) = next (c :: rest) := by
  have space : Text.isBlank ' ' = true := by decide
  rw [blanks, if_pos space, blanks, solid]
  rfl

theorem braced_of_ne {α : Type} {next : Text → Option α} {c : Char} (other : c ≠ '{')
    (rest : Text) : braced next (c :: rest) = none := by
  rw [braced.eq_def]
  split
  case h_1 begins => exact (other (List.cons.inj begins).1).elim
  case h_2 => rfl

theorem lineRest_append {line : Text} (nonempty : line ≠ []) (unbroken : '\n' ∉ line)
    (rest : Text) : lineRest (line ++ '\n' :: rest) = some line := by
  rw [lineRest, Text.upTo_append unbroken]
  cases line with
  | nil => exact (nonempty rfl).elim
  | cons c line => rfl

namespace IsName

theorem head (isName : IsName name) :
    ∃ c rest, name = c :: rest ∧ Text.isBlank c = false ∧ c ≠ '{' := by
  cases name with
  | nil => exact (isName.nonempty rfl).elim
  | cons c rest =>
      refine ⟨c, rest, rfl, isName.solid c List.mem_cons_self, ?_⟩
      rintro rfl
      exact isName.unbraced rfl

/-- A name is followed by a blank where the name that stands there ends. -/
theorem eq_of_append {other : Text} (isName : IsName name) (isOther : IsName other)
    {blank blank' : Char} (isBlank : Text.isBlank blank) (isBlank' : Text.isBlank blank')
    {rest rest' : Text} (same : other ++ blank :: rest = name ++ blank' :: rest') :
    other = name := by
  have upToBlank {word : Text} (solid : ∀ c ∈ word, Text.isBlank c = false) {b : Char}
      (isBlank : Text.isBlank b) (rest : Text) :
      (word ++ b :: rest).takeWhile (fun c => !Text.isBlank c) = word := by
    have passed : ∀ c ∈ word, (!Text.isBlank c) = true := fun c member => by simp [solid c member]
    rw [List.takeWhile_append_of_pos passed, List.takeWhile_cons_of_neg (by simp [isBlank]),
      List.append_nil]
  rw [← upToBlank isOther.solid isBlank rest, same, upToBlank isName.solid isBlank' rest']

end IsName

theorem described_brace (isName : IsName name) (rest : Text) :
    parameter?.described name ('{' :: rest) = none := by
  rw [parameter?.described]
  cases found : Text.after? ('{' :: rest) name with
  | none => rfl
  | some behind =>
      obtain ⟨c, more, rfl, -, other⟩ := isName.head
      have begins := Text.after?_eq_some.mp found
      exact (other (List.cons.inj begins).1.symm).elim

/-- Where a name stands, another one is not described. -/
theorem described_append {other : Text} (isName : IsName name) (isOther : IsName other)
    (rest : Text) :
    parameter?.described name (other ++ ' ' :: rest) =
      if other = name then blanks lineRest (' ' :: rest) else none := by
  rw [parameter?.described]
  split
  case isTrue same =>
    rw [same, Text.after?_eq_some.mpr rfl, Option.bind_some]
  case isFalse different =>
    cases found : Text.after? (other ++ ' ' :: rest) name with
    | none => rfl
    | some behind =>
        have split := Text.after?_eq_some.mp found
        cases behind with
        | nil => rfl
        | cons c behind =>
            cases blank : Text.isBlank c with
            | true => exact (different (isName.eq_of_append isOther rfl blank split)).elim
            | false => simp [blanks, blank]

namespace ParameterTag

variable (tag : ParameterTag)

/-- What stands behind the `@` of a tag. -/
def tail (tag : ParameterTag) : Text :=
  "param".toList ++ ' ' :: (tag.typeText ++ (tag.name ++ ' ' :: (tag.description ++ ['\n'])))

theorem written_eq_cons : tag.written = '@' :: tag.tail := by
  have begins : "@param ".toList = '@' :: ("param".toList ++ [' ']) := by decide
  unfold written tail
  simp only [begins, List.append_assoc, List.cons_append, List.nil_append]

theorem written_append (rest : Text) :
    tag.written ++ rest = "@param".toList ++ ' ' :: (tag.typeText ++
      (tag.name ++ ' ' :: (tag.description ++ '\n' :: rest))) := by
  have begins : "@param ".toList = "@param".toList ++ [' '] := by decide
  unfold written
  simp only [begins, List.append_assoc, List.cons_append, List.nil_append]

/-- The pattern reads a tag up to its name, whether or not there is a type. -/
theorem pattern_written (isName : IsName name) (before : Option Char) (rest : Text) :
    parameter?.pattern .javaScript name before (tag.written ++ rest) =
      parameter?.described name (tag.name ++ ' ' :: (tag.description ++ '\n' :: rest)) := by
  obtain ⟨c, more, named, solid, other⟩ := tag.isName.head
  have after := Text.after?_eq_some.mpr (tag.written_append rest)
  simp only [parameter?.pattern, after, Option.bind_some, named, List.cons_append]
  cases typed : tag.type? with
  | none =>
      have typeText : tag.typeText = [] := by simp only [ParameterTag.typeText, typed]
      rw [typeText, List.nil_append, blanks_space solid, braced_of_ne other]
      rfl
  | some type =>
      have typeText : tag.typeText = '{' :: (type ++ ['}', ' ']) := by
        simp only [ParameterTag.typeText, typed]
      have closed : '}' ∉ type := (tag.closed type typed).1
      rw [typeText, List.cons_append, blanks_space (by decide), List.append_assoc,
        described_brace isName]
      simp only [List.cons_append, List.nil_append, braced_append closed, blanks_space solid]
      cases parameter?.described name
          (c :: (more ++ ' ' :: (tag.description ++ '\n' :: rest))) <;> rfl

theorem blanks_description (rest : Text) :
    blanks lineRest (' ' :: (tag.description ++ '\n' :: rest)) = some tag.description := by
  obtain ⟨c, begins, solid⟩ := tag.speaks
  obtain ⟨more, spoken⟩ := List.head?_eq_some_iff.mp begins
  have nonempty : tag.description ≠ [] := by simp [spoken]
  rw [← lineRest_append nonempty tag.unbroken rest, spoken]
  exact blanks_space solid _

/-- No other tag begins in a tag or in the text behind it. -/
theorem untagged_tail {gap : Text} (untagged : Untagged gap) : Untagged (tag.tail ++ gap) := by
  have behindType : Untagged (tag.name ++ ' ' :: (tag.description ++ '\n' :: gap)) := by
    rw [untagged_append_cons_iff (by decide), untagged_append_cons_iff (by decide)]
    exact ⟨tag.isName.untagged, tag.untagged, untagged⟩
  unfold tail
  simp only [List.append_assoc, List.cons_append, List.nil_append]
  rw [untagged_append_cons_iff (by decide)]
  refine ⟨by decide, ?_⟩
  cases typed : tag.type? with
  | none =>
      have typeText : tag.typeText = [] := by simp only [ParameterTag.typeText, typed]
      rwa [typeText]
  | some type =>
      have typeText : tag.typeText = [] ++ '{' :: (type ++ '}' :: ([] ++ [' '])) := by
        simp only [ParameterTag.typeText, typed, List.nil_append]
      rw [typeText]
      simp only [List.append_assoc, List.cons_append]
      rw [untagged_append_cons_iff (by decide), untagged_append_cons_iff (by decide),
        untagged_append_cons_iff (by decide)]
      exact ⟨by decide, (tag.closed type typed).2, by decide, behindType⟩

end ParameterTag

/-! ## The table -/

/-- A tag is found by its name only. -/
theorem parameter?_written (isName : IsName name) (tag : ParameterTag) {gap rest : Text}
    (untagged : Untagged gap) (tagBehind : ∀ c ∈ rest.head?, c = '@') :
    parameter? .javaScript name (tag.written ++ gap ++ rest) =
      if tag.name = name then some tag.description else parameter? .javaScript name rest := by
  have here : parameter?.pattern .javaScript name none (tag.written ++ (gap ++ rest)) =
      if tag.name = name then some tag.description else none := by
    rw [tag.pattern_written isName, described_append isName tag.isName, tag.blanks_description]
  have passed : search (parameter?.pattern .javaScript name) (some '@')
      (tag.tail ++ (gap ++ rest)) = parameter? .javaScript name rest := by
    rw [search_parameter, ← List.append_assoc]
    exact parameter?_append (tag.untagged_tail untagged) tagBehind
  rw [List.append_assoc]
  calc
    parameter? .javaScript name (tag.written ++ (gap ++ rest))
      = (parameter?.pattern .javaScript name none (tag.written ++ (gap ++ rest)) <|>
          search (parameter?.pattern .javaScript name) (some '@')
            (tag.tail ++ (gap ++ rest))) := by
        rw [tag.written_eq_cons]
        rfl
    _ = if tag.name = name then some tag.description else parameter? .javaScript name rest := by
        rw [here, passed]
        split <;> rfl

theorem head?_table (entries : List (ParameterTag × Text)) :
    ∀ c ∈ (table entries).head?, c = '@' := by
  cases entries with
  | nil =>
      intro c begins
      cases begins
  | cons entry entries =>
      intro c begins
      rw [table, List.flatMap_cons, entry.1.written_eq_cons] at begins
      exact (Option.some.inj begins).symm

/-- Looking up a name finds the first tag with that name. -/
theorem parameter?_table (isName : IsName name) {entries : List (ParameterTag × Text)}
    (gaps : ∀ entry ∈ entries, Untagged entry.2) :
    parameter? .javaScript name (table entries) =
      (entries.find? fun entry => entry.1.name == name).map fun entry => entry.1.description := by
  induction entries with
  | nil => rfl
  | cons entry entries ih =>
      rw [List.forall_mem_cons] at gaps
      have step := parameter?_written isName entry.1 gaps.1 (head?_table entries)
      rw [ih gaps.2] at step
      rw [table, List.flatMap_cons]
      refine step.trans ?_
      by_cases named : entry.1.name = name
      · rw [if_pos named, List.find?_cons_of_pos (by simpa using named)]
        rfl
      · rw [if_neg named, List.find?_cons_of_neg (by simpa using named)]

theorem find?_of_distinct {entries : List (ParameterTag × Text)}
    (distinct : (entries.map fun entry => entry.1.name).Nodup) {entry : ParameterTag × Text}
    (member : entry ∈ entries) :
    (entries.find? fun other => other.1.name == entry.1.name) = some entry := by
  obtain ⟨above, below, rfl⟩ := List.append_of_mem member
  rw [List.find?_eq_some_iff_append]
  refine ⟨beq_self_eq_true _, above, below, rfl, ?_⟩
  intro other inAbove
  rw [List.map_append, List.nodup_append] at distinct
  have different := distinct.2.2 other.1.name (List.mem_map_of_mem inAbove) entry.1.name
    (by rw [List.map_cons]; exact List.mem_cons_self)
  simpa using different

/-- In a list of tags with different names, with other text between them, every
parameter has the description that stands behind its name, without the blanks at
its end.  No other name has a description. -/
theorem parameterDescription_table {lead : Text} {entries : List (ParameterTag × Text)}
    (untagged : Untagged lead) (gaps : ∀ entry ∈ entries, Untagged entry.2)
    (distinct : (entries.map fun entry => entry.1.name).Nodup) :
    (∀ entry ∈ entries, parameterDescription .javaScript entry.1.name (lead ++ table entries) =
      Text.trimEnd entry.1.description) ∧
    ∀ name, IsName name → (∀ entry ∈ entries, entry.1.name ≠ name) →
      parameterDescription .javaScript name (lead ++ table entries) =
        "No description provided".toList := by
  have lookup {name : Text} (isName : IsName name) :
      parameter? .javaScript name (lead ++ table entries) =
        (entries.find? fun entry => entry.1.name == name).map fun entry => entry.1.description :=
    (parameter?_append untagged (head?_table entries)).trans (parameter?_table isName gaps)
  constructor
  · intro entry member
    rw [parameterDescription, lookup entry.1.isName, find?_of_distinct distinct member]
    rfl
  · intro name isName absent
    have missing : (entries.find? fun entry => entry.1.name == name) = none :=
      List.find?_eq_none.mpr fun entry member => by simpa using absent entry member
    rw [parameterDescription, lookup isName, missing]
    rfl

/-- A tag with a type that holds the name of another tag. -/
def dottedTag : ParameterTag where
  type? := some ['b', ' ', 'a']
  name := ['a', '.', 'b']
  description := "a or b ".toList
  isName := ⟨by decide, by simp [Text.isBlank], by decide, by decide⟩
  closed := by
    rintro _ ⟨⟩
    decide
  unbroken := by decide
  untagged := by decide
  speaks := ⟨'a', by decide, by decide⟩

/-- A tag whose name begins the name of another tag. -/
def plainTag : ParameterTag where
  type? := none
  name := ['a']
  description := "a.b + 1".toList
  isName := ⟨by decide, by simp [Text.isBlank], by decide, by decide⟩
  closed := by
    rintro _ ⟨⟩
  unbroken := by decide
  untagged := by decide
  speaks := ⟨'a', by decide, by decide⟩

theorem parameterDescription_table_dotted :
    let text := "/** @param \x7bb a\x7d a.b a or b \n * @param a a.b + 1\n */".toList
    "/** ".toList ++ table [(dottedTag, " * ".toList), (plainTag, " */".toList)] = text ∧
    parameterDescription .javaScript ['a', '.', 'b'] text = "a or b".toList ∧
    parameterDescription .javaScript ['a'] text = "a.b + 1".toList ∧
    parameterDescription .javaScript ['b'] text = "No description provided".toList := by
  intro text
  have written : "/** ".toList ++ table [(dottedTag, " * ".toList), (plainTag, " */".toList)] =
      text := by decide +kernel
  have untagged : Untagged "/** ".toList := by decide
  have gaps : ∀ entry ∈ [(dottedTag, " * ".toList), (plainTag, " */".toList)],
      Untagged entry.2 := by
    rw [List.forall_mem_cons, List.forall_mem_singleton]
    decide
  obtain ⟨listed, others⟩ := parameterDescription_table untagged gaps (by decide)
  rw [written] at listed others
  refine ⟨written, ?_, ?_, ?_⟩
  · exact listed (dottedTag, " * ".toList) (by simp)
  · exact listed (plainTag, " */".toList) (by simp)
  · exact others ['b'] ⟨by decide, by simp [Text.isBlank], by decide, by decide⟩ (by
      simp [dottedTag, plainTag])

end Marginalia.Tag
