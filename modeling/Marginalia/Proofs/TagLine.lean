import Marginalia.Proofs.Occurrence
import Marginalia.Proofs.Tag

/-!
# The line that a tag takes its description from

Blanks between a tag and its description may be line feeds.  A tag is therefore
described by the first line behind it that is not blank: its own line, where that
says something, and else a later one.  The first tag of a text that is followed by
anything but line feeds decides.  Main statement: for every text, which line the
descriptions of a parameter and of the result come from, and when it is the line
of their tag.
-/

namespace Marginalia.Tag

/-- What stands on the first line of a text that is not blank. -/
def firstSaid (behind : Text) : Text :=
  Text.trim ((Text.trimStart behind).upTo '\n')

/-- A blank stands behind a tag, and behind it not only line feeds. -/
def IsFollowed (behind : Text) : Prop :=
  ∃ blank rest, behind = blank :: rest ∧ Text.isBlank blank ∧ ∃ c ∈ rest, c ≠ '\n'

/-- A description that stands in the line that goes on with `behind`, after
blanks. -/
def OnOwnLine (behind description : Text) : Prop :=
  description ≠ [] ∧ ∃ gap rest, behind = gap ++ (description ++ rest) ∧
    gap ≠ [] ∧ (∀ c ∈ gap, Text.isBlank c) ∧ '\n' ∉ gap ++ description

/-! ## Behind a tag -/

theorem isSome_blanks_lineRest_iff {behind : Text} :
    (blanks lineRest behind).isSome ↔ IsFollowed behind := by
  rw [isSome_blanks_iff]
  constructor
  · rintro ⟨gap, rest, rfl, nonempty, blank, found⟩
    rw [isSome_lineRest_iff] at found
    obtain ⟨c, member⟩ := List.exists_mem_of_ne_nil _ found
    have other : c ≠ '\n' := fun equal => Text.not_mem_upTo rest '\n' (equal ▸ member)
    have inRest : c ∈ rest := (List.takeWhile_subset _) member
    cases gap with
    | nil => exact absurd rfl nonempty
    | cons b gap =>
        refine ⟨b, gap ++ rest, rfl, blank b List.mem_cons_self, c, ?_, other⟩
        exact List.mem_append_right gap inRest
  · rintro ⟨b, rest, rfl, blank, c, member, other⟩
    -- The gap is the blank with the line feeds behind it.
    have parts := List.takeWhile_append_dropWhile (p := (· == '\n')) (l := rest)
    refine ⟨b :: rest.takeWhile (· == '\n'), rest.dropWhile (· == '\n'), ?_,
      List.cons_ne_nil _ _, ?_, ?_⟩
    · rw [List.cons_append, parts]
    · refine List.forall_mem_cons.mpr ⟨blank, fun d feed => ?_⟩
      have equal : d = '\n' := by simpa using List.mem_takeWhile_imp feed
      subst equal
      decide
    · rw [isSome_lineRest_iff]
      cases shape : rest.dropWhile (· == '\n') with
      | nil =>
          have feeds := List.dropWhile_eq_nil_iff.mp shape c member
          exact absurd (by simpa using feeds) other
      | cons d beyond =>
          have stopped := List.head_dropWhile_not (p := (· == '\n')) (l := rest) (by simp [shape])
          have kept : d ≠ '\n' := by simpa [shape] using stopped
          simp [Text.upTo, kept]

theorem firstSaid_blank {c : Char} (blank : Text.isBlank c) (rest : Text) :
    firstSaid (c :: rest) = firstSaid rest := by
  rw [firstSaid, Text.trimStart, List.dropWhile_cons_of_pos blank, firstSaid, Text.trimStart]

theorem firstSaid_cons {c : Char} (stays : Text.isBlank c = false) (rest : Text) :
    firstSaid (c :: rest) = Text.trim (Text.upTo (c :: rest) '\n') := by
  rw [firstSaid, Text.trimStart, List.dropWhile_cons_of_neg (by simp [stays])]

theorem firstSaid_eq_nil {behind : Text} (blank : ∀ c ∈ behind, Text.isBlank c) :
    firstSaid behind = [] := by
  rw [firstSaid, Text.trimStart, List.dropWhile_eq_nil_iff.mpr blank]
  rfl

/-- Where a description is found behind blanks, it is what the first line says. -/
theorem trim_of_blanks_lineRest {behind description : Text}
    (matched : blanks lineRest behind = some description) :
    Text.trimEnd description = firstSaid behind ∧ Text.trim description = firstSaid behind := by
  induction behind with
  | nil => cases matched
  | cons c rest ih =>
      rw [blanks] at matched
      split at matched
      case isFalse => cases matched
      case isTrue blank =>
        rw [firstSaid_blank blank]
        rcases (Option.orElse_eq_some _ _ _).mp matched with longer | ⟨missed, here⟩
        · exact ih longer
        · have line := lineRest_eq_some here
          cases rest with
          | nil => cases here
          | cons d rest =>
              cases blankNext : Text.isBlank d with
              | false =>
                  have kept : d ≠ '\n' := fun equal => by simp [equal, Text.isBlank] at blankNext
                  rw [firstSaid_cons blankNext, line, Text.upTo_cons kept,
                    Text.trim_cons blankNext, Text.trimEnd_cons blankNext]
                  exact ⟨rfl, rfl⟩
              | true =>
                  -- One more blank would have matched, unless only line feeds are left.
                  have feeds : ∀ e ∈ rest, e = '\n' := by
                    intro e member
                    by_contra other
                    have followed := isSome_blanks_lineRest_iff.mpr
                      ⟨d, rest, rfl, blankNext, e, member, other⟩
                    rw [missed] at followed
                    cases followed
                  have allBlank : ∀ e ∈ d :: rest, Text.isBlank e :=
                    List.forall_mem_cons.mpr ⟨blankNext, fun e member => by
                      simp [feeds e member, Text.isBlank]⟩
                  have descriptionBlank : ∀ e ∈ description, Text.isBlank e :=
                    fun e member => allBlank e (List.takeWhile_subset _ (line ▸ member))
                  have shortened := Text.trimEnd_append_blank [] descriptionBlank
                  rw [firstSaid_eq_nil allBlank]
                  exact ⟨shortened, Text.trim_eq_nil_iff.mpr descriptionBlank⟩

/-- A line that says something is described by itself. -/
theorem firstSaid_of_own {behind : Text} (own : ∃ c ∈ behind.upTo '\n', Text.isBlank c = false) :
    firstSaid behind = Text.trim (behind.upTo '\n') := by
  induction behind with
  | nil =>
      obtain ⟨c, member, -⟩ := own
      cases member
  | cons b rest ih =>
      cases blank : Text.isBlank b with
      | false => exact firstSaid_cons blank rest
      | true =>
          have kept : b ≠ '\n' := by
            rintro rfl
            obtain ⟨c, member, -⟩ := own
            simp [Text.upTo] at member
          have line : Text.upTo (b :: rest) '\n' = [b] ++ Text.upTo rest '\n' :=
            Text.upTo_cons kept rest
          have blankFront : ∀ c ∈ [b], Text.isBlank c := List.forall_mem_singleton.mpr blank
          rw [firstSaid_blank blank, line, Text.trim_blank_append blankFront]
          apply ih
          obtain ⟨c, member, stays⟩ := own
          rw [line, List.singleton_append, List.mem_cons] at member
          rcases member with rfl | member
          · rw [blank] at stays
            cases stays
          · exact ⟨c, member, stays⟩

/-- The first line said stands on the own line exactly if that is not blank. -/
theorem onOwnLine_firstSaid_iff {behind : Text} (followed : IsFollowed behind) :
    OnOwnLine behind (firstSaid behind) ↔ ∃ c ∈ behind.upTo '\n', Text.isBlank c = false := by
  constructor
  · rintro ⟨nonempty, gap, rest, split, -, -, unbroken⟩
    cases said : firstSaid behind with
    | nil => exact absurd said nonempty
    | cons c more =>
        refine ⟨c, ?_, Text.isBlank_of_trim_eq_cons said⟩
        rw [said] at split unbroken
        have line : behind = (gap ++ c :: more) ++ rest := by rw [split, List.append_assoc]
        have passed : ∀ d ∈ gap ++ c :: more, (d != '\n') = true := fun d member => by
          simpa using fun equal : d = '\n' => unbroken (equal ▸ member)
        rw [line, Text.upTo, List.takeWhile_append_of_pos passed]
        simp
  · intro own
    rw [firstSaid_of_own own]
    have around := Text.blanks_around (behind.upTo '\n')
    have whole := List.takeWhile_append_dropWhile (p := (· != '\n')) (l := behind)
    refine ⟨?_, Text.blanksBefore (behind.upTo '\n'),
      Text.blanksBehind (behind.upTo '\n') ++ behind.dropWhile (· != '\n'), ?_, ?_,
      fun c => Text.isBlank_of_mem_blanksBefore, ?_⟩
    · intro empty
      obtain ⟨c, member, stays⟩ := own
      rw [Text.trim_eq_nil_iff.mp empty c member] at stays
      cases stays
    · rw [← List.append_assoc (Text.trim _), ← List.append_assoc, around]
      exact whole.symm
    · obtain ⟨b, rest, rfl, blank, -⟩ := followed
      have kept : b ≠ '\n' := by
        rintro rfl
        obtain ⟨c, member, -⟩ := own
        simp [Text.upTo] at member
      simp [Text.upTo, Text.blanksBefore, kept, blank]
    · intro feed
      refine Text.not_mem_upTo behind '\n' ?_
      rw [← around, ← List.append_assoc]
      exact List.mem_append_left _ feed

/-- A character in front of a description on its own line is on that line too. -/
theorem not_onOwnLine {text front behind description : Text} {c d : Char}
    (split : text = front ++ c :: behind) (other : c ≠ '\n') (member : d ∈ description)
    (apart : ∀ line ∈ Text.segments text, c ∈ line → d ∉ line) :
    ¬ OnOwnLine behind description := by
  rintro ⟨-, gap, rest, rfl, -, -, unbroken⟩
  have occurs : c :: (gap ++ description) <:+: text :=
    ⟨front, rest, by simp only [split, List.append_assoc, List.cons_append]⟩
  have unbroken' : '\n' ∉ c :: (gap ++ description) :=
    fun feed => (List.mem_cons.mp feed).elim (fun equal => other equal.symm) unbroken
  obtain ⟨line, inText, onLine⟩ :=
    Text.exists_segment_of_occurs (List.cons_ne_nil _ _) unbroken' occurs
  refine apart line inText (onLine.subset List.mem_cons_self) (onLine.subset ?_)
  exact List.mem_cons_of_mem _ (List.mem_append_right _ member)

/-! ## The tag that decides -/

/-- A tag stands behind `front`, with `behind` following it. -/
def TagAt (IsTag : Text → Prop) (text front behind : Text) : Prop :=
  IsFollowed behind ∧ ∃ tag, IsTag tag ∧ text = front ++ (tag ++ behind)

/-- The first tag that is followed by something. -/
def FirstTag (IsTag : Text → Prop) (text front behind : Text) : Prop :=
  TagAt IsTag text front behind ∧
    ∀ front' behind', TagAt IsTag text front' behind' → front.length ≤ front'.length

/-- The pattern matches the tags of a form, each with the description behind
it. -/
structure Reads (pattern : Text → Option Text) (IsTag : Text → Prop) : Prop where
  sound : ∀ {rest description}, pattern rest = some description →
    ∃ tag behind, rest = tag ++ behind ∧ IsTag tag ∧ blanks lineRest behind = some description
  complete : ∀ {tag behind}, IsTag tag → IsFollowed behind → (pattern (tag ++ behind)).isSome

namespace Reads

variable {pattern : Text → Option Text} {IsTag : Text → Prop} {text : Text}

theorem tagAt_of_eq_some (reads : Reads pattern IsTag) {front rest description : Text}
    (split : text = front ++ rest) (matched : pattern rest = some description) :
    ∃ behind, TagAt IsTag text front behind ∧ blanks lineRest behind = some description := by
  obtain ⟨tag, behind, rfl, isTag, found⟩ := reads.sound matched
  have followed := isSome_blanks_lineRest_iff.mp (Option.isSome_iff_exists.mpr ⟨_, found⟩)
  exact ⟨behind, ⟨followed, tag, isTag, split⟩, found⟩

theorem search_none (reads : Reads pattern IsTag)
    (missed : search (fun _ => pattern) none text = none) (front behind : Text) :
    ¬ TagAt IsTag text front behind := by
  rintro ⟨followed, tag, isTag, split⟩
  have matches' := reads.complete isTag followed
  rw [search_eq_none_iff.mp missed front (tag ++ behind) split] at matches'
  cases matches'

theorem search_some (reads : Reads pattern IsTag) {description : Text}
    (matched : search (fun _ => pattern) none text = some description) :
    ∃ front behind, FirstTag IsTag text front behind ∧
      blanks lineRest behind = some description := by
  obtain ⟨front, rest, split, there, first⟩ := search_first matched
  obtain ⟨behind, tagAt, found⟩ := reads.tagAt_of_eq_some split there
  refine ⟨front, behind, ⟨tagAt, fun front' behind' earlier => ?_⟩, found⟩
  obtain ⟨followed, tag, isTag, split'⟩ := earlier
  by_contra shorter
  have matches' := reads.complete isTag followed
  rw [first front' (tag ++ behind') split' (Nat.lt_of_not_le shorter)] at matches'
  cases matches'

end Reads

/-! ## Tags of parameters -/

/-- One blank or more. -/
def IsGap (gap : Text) : Prop :=
  gap ≠ [] ∧ ∀ c ∈ gap, Text.isBlank c

/-- A tag with the name of a parameter, with or without a type in front of the
name. -/
def IsParameterTag (name tag : Text) : Prop :=
  ∃ gap, IsGap gap ∧ (tag = "@param".toList ++ (gap ++ name) ∨
    ∃ type gap', '}' ∉ type ∧ IsGap gap' ∧
      tag = "@param".toList ++ (gap ++ '{' :: (type ++ '}' :: (gap' ++ name))))

theorem described_eq_some {name rest description : Text}
    (matched : parameter?.described name rest = some description) :
    ∃ behind, rest = name ++ behind ∧ blanks lineRest behind = some description := by
  obtain ⟨behind, after, matched⟩ := Option.bind_eq_some_iff.mp matched
  exact ⟨behind, Text.after?_eq_some.mp after, matched⟩

theorem isSome_described (name : Text) {behind : Text} (followed : IsFollowed behind) :
    (parameter?.described name (name ++ behind)).isSome := by
  have after : (name ++ behind).after? name = some behind := Text.after?_eq_some.mpr rfl
  rw [parameter?.described, after]
  exact isSome_blanks_lineRest_iff.mpr followed

theorem parameter_sound {name rest description : Text} {before : Option Char}
    (matched : parameter?.pattern .javaScript name before rest = some description) :
    ∃ tag behind, rest = tag ++ behind ∧ IsParameterTag name tag ∧
      blanks lineRest behind = some description := by
  obtain ⟨beyond, after, spaced⟩ := Option.bind_eq_some_iff.mp matched
  rw [Text.after?_eq_some] at after
  obtain ⟨gap, inside, rfl, nonempty, blank, named⟩ := blanks_eq_some spaced
  rcases (Option.orElse_eq_some _ _ _).mp named with typed | ⟨-, untyped⟩
  · obtain ⟨type, beyond, rfl, closed, spaced⟩ := braced_eq_some typed
    obtain ⟨gap', inside, rfl, nonempty', blank', named⟩ := blanks_eq_some spaced
    obtain ⟨behind, rfl, found⟩ := described_eq_some named
    refine ⟨_, behind, ?_, ⟨gap, ⟨nonempty, blank⟩, Or.inr ⟨type, gap', closed,
      ⟨nonempty', blank'⟩, rfl⟩⟩, found⟩
    simp only [after, List.append_assoc, List.cons_append]
  · obtain ⟨behind, rfl, found⟩ := described_eq_some untyped
    refine ⟨_, behind, ?_, ⟨gap, ⟨nonempty, blank⟩, Or.inl rfl⟩, found⟩
    simp only [after, List.append_assoc]

theorem isSome_orElse {first second : Option Text} (either : first.isSome ∨ second.isSome) :
    (first <|> second).isSome := by
  cases first with
  | some found => rfl
  | none => simpa using either

theorem parameter_complete {name tag behind : Text} (before : Option Char)
    (isTag : IsParameterTag name tag) (followed : IsFollowed behind) :
    (parameter?.pattern .javaScript name before (tag ++ behind)).isSome := by
  have described := isSome_described name followed
  obtain ⟨gap, ⟨nonempty, blank⟩, rfl | ⟨type, gap', closed, ⟨nonempty', blank'⟩, rfl⟩⟩ := isTag
  · have after : Text.after? ("@param".toList ++ (gap ++ name) ++ behind) "@param".toList =
        some (gap ++ (name ++ behind)) :=
      Text.after?_eq_some.mpr (by simp only [List.append_assoc])
    simp only [parameter?.pattern, after, Option.bind_some, isSome_blanks_iff]
    refine ⟨gap, name ++ behind, rfl, nonempty, blank, ?_⟩
    exact isSome_orElse (Or.inr described)
  · have after : Text.after? ("@param".toList ++
          (gap ++ '{' :: (type ++ '}' :: (gap' ++ name))) ++ behind) "@param".toList =
        some (gap ++ '{' :: (type ++ '}' :: (gap' ++ (name ++ behind)))) :=
      Text.after?_eq_some.mpr (by simp only [List.append_assoc, List.cons_append])
    simp only [parameter?.pattern, after, Option.bind_some, isSome_blanks_iff]
    refine ⟨gap, _, rfl, nonempty, blank, ?_⟩
    have spaced : (blanks (parameter?.described name) (gap' ++ (name ++ behind))).isSome :=
      isSome_blanks_iff.mpr ⟨gap', name ++ behind, rfl, nonempty', blank', described⟩
    have typed := isSome_braced closed spaced
    exact isSome_orElse (Or.inl typed)

theorem parameter_reads (name : Text) :
    Reads (parameter?.pattern .javaScript name none) (IsParameterTag name) where
  sound := parameter_sound
  complete := parameter_complete none

/-! ## Tags of results -/

/-- A tag with the type of the result. -/
def IsResultTag (tag : Text) : Prop :=
  ∃ plural gap type, (plural = [] ∨ plural = ['s']) ∧ IsGap gap ∧ '}' ∉ type ∧
    tag = "@return".toList ++ (plural ++ (gap ++ '{' :: (type ++ ['}'])))

theorem result_reads : Reads (result?.pattern .javaScript) IsResultTag where
  sound := by
    intro rest description matched
    obtain ⟨beyond, after, spaced⟩ := Option.bind_eq_some_iff.mp matched
    rw [Text.after?_eq_some] at after
    obtain ⟨gap, inside, split, nonempty, blank, typed⟩ := blanks_eq_some spaced
    obtain ⟨type, behind, rfl, closed, found⟩ := braced_eq_some typed
    have plural : ∃ plural, (plural = [] ∨ plural = ['s']) ∧
        beyond = plural ++ (Text.after? beyond ['s']).getD beyond := by
      cases ending : Text.after? beyond ['s'] with
      | none => exact ⟨[], Or.inl rfl, rfl⟩
      | some more => exact ⟨['s'], Or.inr rfl, Text.after?_eq_some.mp ending⟩
    obtain ⟨plural, isPlural, ending⟩ := plural
    rw [split] at ending
    refine ⟨_, behind, ?_, ⟨plural, gap, type, isPlural, ⟨nonempty, blank⟩, closed, rfl⟩, found⟩
    simp only [after, ending, List.append_assoc, List.cons_append, List.nil_append]
  complete := by
    intro tag behind isTag followed
    obtain ⟨plural, gap, type, isPlural, ⟨nonempty, blank⟩, closed, rfl⟩ := isTag
    have after : Text.after? ("@return".toList ++
          (plural ++ (gap ++ '{' :: (type ++ ['}']))) ++ behind) "@return".toList =
        some (plural ++ (gap ++ '{' :: (type ++ '}' :: behind))) :=
      Text.after?_eq_some.mpr (by
        simp only [List.append_assoc, List.cons_append, List.nil_append])
    have ending : (Text.after? (plural ++ (gap ++ '{' :: (type ++ '}' :: behind))) ['s']).getD
          (plural ++ (gap ++ '{' :: (type ++ '}' :: behind))) =
        gap ++ '{' :: (type ++ '}' :: behind) := by
      rcases isPlural with rfl | rfl
      · -- The first blank is no `s`.
        cases found : Text.after? ([] ++ (gap ++ '{' :: (type ++ '}' :: behind))) ['s'] with
        | none => rfl
        | some more =>
            cases gap with
            | nil => exact absurd rfl nonempty
            | cons b gap =>
                have equal : b = 's' := (List.cons.inj (Text.after?_eq_some.mp found)).1
                have blankHere := blank b List.mem_cons_self
                simp [equal, Text.isBlank] at blankHere
      · rw [Text.after?_eq_some.mpr rfl]
        rfl
    simp only [result?.pattern, after, Option.bind_some, ending, isSome_blanks_iff]
    refine ⟨gap, _, rfl, nonempty, blank, ?_⟩
    exact isSome_braced closed (isSome_blanks_lineRest_iff.mpr followed)

/-! ## Descriptions -/

/-- What the tags of a form say in a text: the fallback, where no tag is followed
by anything, and else the first line said behind the first tag that is.  It stands
on the line of the tag exactly if that line is not blank behind the tag. -/
def Describes (IsTag : Text → Prop) (text fallback description : Text) : Prop :=
  (description = fallback ∧ ∀ front behind, ¬ TagAt IsTag text front behind) ∨
  ∃ front behind, FirstTag IsTag text front behind ∧ description = firstSaid behind ∧
    (OnOwnLine behind description ↔ ∃ c ∈ behind.upTo '\n', Text.isBlank c = false)

namespace Reads

variable {pattern : Text → Option Text} {IsTag : Text → Prop} {text : Text}

theorem describes_fallback (reads : Reads pattern IsTag) (fallback : Text)
    (missed : search (fun _ => pattern) none text = none) :
    Describes IsTag text fallback fallback :=
  Or.inl ⟨rfl, reads.search_none missed⟩

theorem describes_found (reads : Reads pattern IsTag) (fallback : Text) {found description : Text}
    (matched : search (fun _ => pattern) none text = some found)
    (shortened : ∀ behind, blanks lineRest behind = some found → description = firstSaid behind) :
    Describes IsTag text fallback description := by
  obtain ⟨front, behind, first, rest⟩ := reads.search_some matched
  have said := shortened behind rest
  refine Or.inr ⟨front, behind, first, said, ?_⟩
  rw [said]
  exact onOwnLine_firstSaid_iff first.1.1

end Reads

/-- Descriptions of parameters and of the result come from the line of their tag
exactly where that line goes on behind the tag. -/
theorem descriptions_on_own_line_iff (name text : Text) :
    Describes (IsParameterTag name) text "No description provided".toList
      (parameterDescription .javaScript name text) ∧
    Describes IsResultTag text [] (resultDescription .javaScript text) := by
  constructor
  · rw [parameterDescription]
    split
    case h_1 found matched =>
      apply (parameter_reads name).describes_found _ matched
      intro behind rest
      exact (trim_of_blanks_lineRest rest).1
    case h_2 missed => exact (parameter_reads name).describes_fallback _ missed
  · rw [resultDescription]
    split
    case h_1 found matched =>
      apply result_reads.describes_found _ matched
      intro behind rest
      exact (trim_of_blanks_lineRest rest).2
    case h_2 missed => exact result_reads.describes_fallback _ missed

/-- A block with two tags that say nothing. -/
def bareTags : Text :=
  "/**\n * @param x\n * @returns \x7bT\x7d\n */".toList

/-- Tags that say nothing take what the next line says. -/
theorem descriptions_borrowed :
    parameterDescription .javaScript ['x'] bareTags = "* @returns \x7bT\x7d".toList ∧
    (∀ front tag behind, IsParameterTag ['x'] tag → bareTags = front ++ (tag ++ behind) →
      ¬ OnOwnLine behind (parameterDescription .javaScript ['x'] bareTags)) ∧
    resultDescription .javaScript bareTags = "*/".toList ∧
    ∀ front tag behind, IsResultTag tag → bareTags = front ++ (tag ++ behind) →
      ¬ OnOwnLine behind (resultDescription .javaScript bareTags) := by
  have ofParameter : parameterDescription .javaScript ['x'] bareTags =
      "* @returns \x7bT\x7d".toList := by decide +kernel
  have ofResult : resultDescription .javaScript bareTags = "*/".toList := by decide +kernel
  refine ⟨ofParameter, ?_, ofResult, ?_⟩
  · intro front tag behind isTag split
    obtain ⟨begins, rfl⟩ : ∃ begins, tag = begins ++ ['x'] := by
      obtain ⟨gap, -, rfl | ⟨type, gap', -, -, rfl⟩⟩ := isTag
      · exact ⟨"@param".toList ++ gap, by simp only [List.append_assoc]⟩
      · exact ⟨"@param".toList ++ (gap ++ '{' :: (type ++ '}' :: gap')), by
          simp only [List.append_assoc, List.cons_append]⟩
    rw [ofParameter]
    have split' : bareTags = (front ++ begins) ++ 'x' :: behind := by
      simp only [split, List.append_assoc, List.cons_append, List.nil_append]
    exact not_onOwnLine (d := 'T') split' (by decide) (by decide) (by decide +kernel)
  · intro front tag behind isTag split
    obtain ⟨plural, gap, type, -, -, -, rfl⟩ := isTag
    rw [ofResult]
    have split' : bareTags =
        (front ++ ("@return".toList ++ (plural ++ (gap ++ '{' :: type)))) ++ '}' :: behind := by
      simp only [split, List.append_assoc, List.cons_append, List.nil_append]
    exact not_onOwnLine (d := '/') split' (by decide) (by decide) (by decide +kernel)

end Marginalia.Tag
