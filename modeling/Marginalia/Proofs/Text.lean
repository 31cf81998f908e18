import Marginalia.Text.Lines
import Mathlib.Data.List.Infix
import Mathlib.Data.List.TakeWhile

/-!
# Searching texts and cutting them into lines

The first occurrence of a needle splits a text around it.  The lines of a text
concatenate to the text, a text may be cut into lines behind any line feed, and
of the lines of a text only the last one may lack its line feed.
-/

namespace Marginalia.Text

/-! ## Searching -/

theorem after?_eq_some {text head rest : Text} :
    text.after? head = some rest ↔ text = head ++ rest := by
  rw [after?, List.isPrefixOf?_eq_some_iff_append_eq]
  exact eq_comm

private theorem cut?_go_seen (needle seen rest : Text) :
    cut?.go needle seen rest =
      (cut?.go needle [] rest).map fun (before, after) => (seen.reverse ++ before, after) := by
  induction rest generalizing seen with
  | nil =>
      simp only [cut?.go]
      cases after? [] needle <;> simp
  | cons c rest ih =>
      simp only [cut?.go]
      cases after? (c :: rest) needle with
      | some beyond => simp
      | none =>
          rw [ih (c :: seen), ih [c]]
          cases cut?.go needle [] rest <;> simp

/-- A needle is found at once or behind the first character. -/
theorem cut?_cons (c : Char) (rest needle : Text) :
    cut? (c :: rest) needle =
      match after? (c :: rest) needle with
      | some beyond => some ([], beyond)
      | none => (cut? rest needle).map fun (before, after) => (c :: before, after) := by
  simp only [cut?]
  rw [cut?.go]
  cases after? (c :: rest) needle with
  | some beyond => rfl
  | none => exact cut?_go_seen needle [c] rest

theorem cut?_nil (needle : Text) :
    cut? [] needle = (after? [] needle).map fun beyond => ([], beyond) := by
  simp only [cut?]
  rw [cut?.go]
  cases after? [] needle <;> rfl

/-- What is found stands between what comes before and after it. -/
theorem cut?_eq_some {text needle before after : Text}
    (found : text.cut? needle = some (before, after)) : text = before ++ needle ++ after := by
  induction text generalizing before with
  | nil =>
      rw [cut?_nil, Option.map_eq_some_iff] at found
      obtain ⟨beyond, atOnce, split⟩ := found
      cases split
      exact after?_eq_some.mp atOnce
  | cons c rest ih =>
      rw [cut?_cons] at found
      split at found
      case h_1 beyond atOnce =>
        cases found
        exact after?_eq_some.mp atOnce
      case h_2 =>
        obtain ⟨⟨before', after'⟩, later, split⟩ := Option.map_eq_some_iff.mp found
        cases split
        rw [ih later]
        rfl

/-- What is found does not occur in front of where it is found. -/
theorem not_infix_of_cut? {text needle before after : Text} (nonempty : needle ≠ [])
    (found : text.cut? needle = some (before, after)) : ¬ needle <:+: before := by
  induction text generalizing before with
  | nil =>
      rw [cut?_nil, Option.map_eq_some_iff] at found
      obtain ⟨beyond, -, split⟩ := found
      cases split
      exact fun occurs => nonempty (List.infix_nil.mp occurs)
  | cons c rest ih =>
      have whole := cut?_eq_some found
      rw [cut?_cons] at found
      split at found
      case h_1 =>
        cases found
        exact fun occurs => nonempty (List.infix_nil.mp occurs)
      case h_2 notHere =>
        obtain ⟨⟨before', after'⟩, later, split⟩ := Option.map_eq_some_iff.mp found
        cases split
        intro occurs
        rcases List.infix_cons_iff.mp occurs with ⟨more, here⟩ | later'
        · -- an occurrence at the beginning would have been found at once
          rw [← here, List.append_assoc, List.append_assoc] at whole
          rw [after?_eq_some.mpr whole] at notHere
          cases notHere
        · exact ih later later'

/-! ## Trimming -/

/-- Trimming keeps a part of the text. -/
theorem trim_infix (text : Text) : trim text <:+: text := by
  have front : trimEnd (trimStart text) <+: trimStart text := by
    rw [← List.reverse_suffix, trimEnd, List.reverse_reverse]
    exact List.dropWhile_suffix _
  have back : trimStart text <:+ text := List.dropWhile_suffix _
  exact front.isInfix.trans back.isInfix

/-- Blanks are trimmed up to the first character that is none, on both sides. -/
theorem trim_between {front back : Text} {first last : Char} (blankFront : ∀ c ∈ front, isBlank c)
    (firstStays : isBlank first = false) (inner : Text) (lastStays : isBlank last = false)
    (blankBack : ∀ c ∈ back, isBlank c) :
    trim (front ++ first :: (inner ++ [last]) ++ back) = first :: (inner ++ [last]) := by
  have start : trimStart (front ++ first :: (inner ++ [last]) ++ back) =
      first :: (inner ++ [last]) ++ back := by
    rw [trimStart, List.append_assoc, List.dropWhile_append_of_pos blankFront, List.cons_append,
      List.dropWhile_cons_of_neg (by simp [firstStays])]
  have blankReversed : ∀ c ∈ back.reverse, isBlank c :=
    fun c member => blankBack c (List.mem_reverse.mp member)
  have backwards : (first :: (inner ++ [last])).reverse = last :: (first :: inner).reverse := by
    simp
  rw [trim, start, trimEnd, List.reverse_append, List.dropWhile_append_of_pos blankReversed,
    backwards, List.dropWhile_cons_of_neg (by simp [lastStays]), ← backwards, List.reverse_reverse]

theorem trimEnd_append_blank (text : Text) {back : Text} (blank : ∀ c ∈ back, isBlank c) :
    trimEnd (text ++ back) = trimEnd text := by
  have blankReversed : ∀ c ∈ back.reverse, isBlank c :=
    fun c member => blank c (List.mem_reverse.mp member)
  rw [trimEnd, List.reverse_append, List.dropWhile_append_of_pos blankReversed, trimEnd]

theorem trimEnd_cons {c : Char} (stays : isBlank c = false) (text : Text) :
    trimEnd (c :: text) = c :: trimEnd text := by
  rw [trimEnd, List.reverse_cons, List.dropWhile_append]
  split
  case isTrue allBlank =>
    rw [List.isEmpty_iff] at allBlank
    rw [List.dropWhile_cons_of_neg (by simp [stays]), trimEnd, allBlank]
    rfl
  case isFalse =>
    rw [List.reverse_append, List.reverse_singleton, List.singleton_append, trimEnd]

theorem trim_append_blank (text : Text) {back : Text} (blank : ∀ c ∈ back, isBlank c) :
    trim (text ++ back) = trim text := by
  rw [trim, trimStart, List.dropWhile_append]
  split
  case isTrue allBlank =>
    rw [List.isEmpty_iff] at allBlank
    rw [List.dropWhile_eq_nil_iff.mpr blank, trim, trimStart, allBlank]
  case isFalse => exact trimEnd_append_blank _ blank

theorem trim_blank_append {front : Text} (blank : ∀ c ∈ front, isBlank c) (text : Text) :
    trim (front ++ text) = trim text := by
  rw [trim, trimStart, List.dropWhile_append_of_pos blank, trim, trimStart]

theorem trim_cons {c : Char} (stays : isBlank c = false) (text : Text) :
    trim (c :: text) = c :: trimEnd text := by
  rw [trim, trimStart, List.dropWhile_cons_of_neg (by simp [stays]), trimEnd_cons stays]

/-- The blanks in front of the trimmed text. -/
def blanksBefore (text : Text) : Text :=
  text.takeWhile isBlank

/-- The blanks behind the trimmed text. -/
def blanksBehind (text : Text) : Text :=
  (text.trimStart.reverse.takeWhile isBlank).reverse

theorem isBlank_of_mem_blanksBefore {text : Text} {c : Char} (member : c ∈ blanksBefore text) :
    isBlank c :=
  List.mem_takeWhile_imp member

theorem isBlank_of_mem_blanksBehind {text : Text} {c : Char} (member : c ∈ blanksBehind text) :
    isBlank c :=
  List.mem_takeWhile_imp (List.mem_reverse.mp member)

/-- A text is its trimmed text between blanks. -/
theorem blanks_around (text : Text) :
    blanksBefore text ++ (trim text ++ blanksBehind text) = text := by
  have behind : trim text ++ blanksBehind text = trimStart text := by
    rw [trim, trimEnd, blanksBehind, ← List.reverse_append, List.takeWhile_append_dropWhile,
      List.reverse_reverse]
  rw [behind, blanksBefore, trimStart, List.takeWhile_append_dropWhile]

theorem trim_eq_nil_iff {text : Text} : trim text = [] ↔ ∀ c ∈ text, isBlank c := by
  constructor
  · intro empty c member
    rw [← blanks_around text, empty, List.nil_append, List.mem_append] at member
    rcases member with before | behind
    · exact isBlank_of_mem_blanksBefore before
    · exact isBlank_of_mem_blanksBehind behind
  · intro blank
    rw [trim, trimStart, List.dropWhile_eq_nil_iff.mpr blank]
    rfl

/-- A text that is trimmed begins with no blank. -/
theorem isBlank_of_trim_eq_cons {text rest : Text} {c : Char} (trimmed : trim text = c :: rest) :
    isBlank c = false := by
  rw [trim] at trimmed
  cases start : trimStart text with
  | nil =>
      rw [start] at trimmed
      cases trimmed
  | cons d more =>
      have stays : isBlank d = false := by
        have stopped := List.head_dropWhile_not (p := isBlank) (l := text)
        simp only [trimStart] at start
        simpa [start] using stopped (by simp [start])
      rw [start, trimEnd_cons stays] at trimmed
      cases trimmed
      exact stays

theorem trimEnd_subset (text : Text) : trimEnd text ⊆ text := by
  intro c member
  rw [trimEnd, List.mem_reverse] at member
  exact List.mem_reverse.mp ((List.dropWhile_suffix _).subset member)

theorem not_mem_upTo (text : Text) (c : Char) : c ∉ text.upTo c := by
  intro member
  simpa using List.mem_takeWhile_imp member

theorem upTo_cons {c stop : Char} (other : c ≠ stop) (rest : Text) :
    upTo (c :: rest) stop = c :: upTo rest stop :=
  List.takeWhile_cons_of_pos (by simpa using other)

theorem upTo_append {line : Text} {stop : Char} (absent : stop ∉ line) (rest : Text) :
    upTo (line ++ stop :: rest) stop = line := by
  have passed : ∀ c ∈ line, (c != stop) = true := fun c member => by
    simpa using fun equal : c = stop => absent (equal ▸ member)
  rw [upTo, List.takeWhile_append_of_pos passed, List.takeWhile_cons_of_neg (by simp),
    List.append_nil]

/-! ## Lines -/

@[simp] theorem segments_nil : segments [] = [] := rfl

theorem segments_cons (c : Char) (rest : Text) :
    segments (c :: rest) = segments.attach c (segments rest) := rfl

@[simp] theorem segments_eq_nil {text : Text} : segments text = [] ↔ text = [] := by
  cases text with
  | nil => simp
  | cons c rest =>
      simp only [segments_cons, reduceCtorEq, iff_false]
      cases segments rest with
      | nil => simp [segments.attach]
      | cons line more =>
          simp only [segments.attach]
          split <;> simp

private theorem flatten_attach (c : Char) (lines : List Text) :
    (segments.attach c lines).flatten = c :: lines.flatten := by
  cases lines with
  | nil => rfl
  | cons line more =>
      simp only [segments.attach]
      split <;> simp

/-- No character is lost between the lines. -/
@[simp] theorem flatten_segments (text : Text) : (segments text).flatten = text := by
  induction text with
  | nil => rfl
  | cons c rest ih => rw [segments_cons, flatten_attach, ih]

private theorem attach_append (c : Char) {lines : List Text} (nonempty : lines ≠ [])
    (more : List Text) :
    segments.attach c (lines ++ more) = segments.attach c lines ++ more := by
  cases lines with
  | nil => exact (nonempty rfl).elim
  | cons line lines =>
      simp only [List.cons_append, segments.attach]
      split <;> rfl

/-- Lines may be cut apart behind a line feed. -/
theorem segments_append_lineFeed (front back : Text) :
    segments (front ++ '\n' :: back) = segments (front ++ ['\n']) ++ segments back := by
  induction front with
  | nil =>
      simp only [List.nil_append, segments_cons]
      cases segments back with
      | nil => rfl
      | cons line more => simp [segments.attach]
  | cons c front ih =>
      simp only [List.cons_append, segments_cons, ih]
      apply attach_append
      simp

/-- Lines may be cut apart behind a text that ends with a line feed. -/
theorem segments_append {front : Text} (ends : front.getLast? = some '\n') (back : Text) :
    segments (front ++ back) = segments front ++ segments back := by
  obtain ⟨start, rfl⟩ := List.getLast?_eq_some_iff.mp ends
  rw [List.append_assoc, List.singleton_append, segments_append_lineFeed]

theorem segments_line {body : Text} (unbroken : '\n' ∉ body) :
    segments (body ++ ['\n']) = [body ++ ['\n']] := by
  induction body with
  | nil => rfl
  | cons c body ih =>
      rw [List.mem_cons, not_or] at unbroken
      have inLine : (c == '\n') = false := by simpa using Ne.symm unbroken.1
      rw [List.cons_append, segments_cons, ih unbroken.2, segments.attach, inLine]
      rfl

/-- Lines that are put together are cut apart again. -/
theorem segments_flatten_append {lines : List Text}
    (complete : ∀ line ∈ lines, ∃ body, '\n' ∉ body ∧ line = body ++ ['\n']) (text : Text) :
    segments (lines.flatten ++ text) = lines ++ segments text := by
  induction lines with
  | nil => rfl
  | cons line more ih =>
      rw [List.forall_mem_cons] at complete
      obtain ⟨body, unbroken, rfl⟩ := complete.1
      rw [List.flatten_cons, List.append_assoc, List.append_assoc, List.singleton_append,
        segments_append_lineFeed, segments_line unbroken, ih complete.2, List.singleton_append,
        List.cons_append]

/-- Every line of a text that ends with a line feed ends with one. -/
theorem getLast?_of_mem_segments {front line : Text}
    (member : line ∈ segments (front ++ ['\n'])) : line.getLast? = some '\n' := by
  induction front generalizing line with
  | nil =>
      rw [List.mem_singleton.mp member]
      rfl
  | cons c front ih =>
      rw [List.cons_append, segments_cons] at member
      cases found : segments (front ++ ['\n']) with
      | nil => simp at found
      | cons first more =>
          rw [found] at ih member
          simp only [segments.attach] at member
          split at member
          case isTrue isFeed =>
            rcases List.mem_cons.mp member with rfl | member
            · simpa using isFeed
            · exact ih member
          case isFalse =>
            rcases List.mem_cons.mp member with rfl | member
            · have firstEnds := ih (List.mem_cons_self ..)
              rw [List.getLast?_cons, firstEnds]
              rfl
            · exact ih (List.mem_cons_of_mem _ member)

/-- Every line of a text but the last one ends with a line feed. -/
theorem getLast?_of_mem_dropLast {text line : Text} (member : line ∈ (segments text).dropLast) :
    line.getLast? = some '\n' := by
  induction text generalizing line with
  | nil => cases member
  | cons c rest ih =>
      rw [segments_cons] at member
      cases found : segments rest with
      | nil =>
          rw [found] at member
          cases member
      | cons first more =>
          rw [found] at ih member
          simp only [segments.attach] at member
          split at member
          case isTrue feed =>
            rw [List.dropLast_cons_cons] at member
            rcases List.mem_cons.mp member with rfl | later
            · rw [beq_iff_eq.mp feed]
              rfl
            · exact ih later
          case isFalse =>
            cases more with
            | nil => cases member
            | cons second more =>
                rw [List.dropLast_cons_cons] at member ih
                rcases List.mem_cons.mp member with rfl | later
                · rw [List.getLast?_cons, ih List.mem_cons_self]
                  rfl
                · exact ih (List.mem_cons_of_mem _ later)

/-- The only line feed of a line is the one it ends with. -/
theorem segments_cases {text line : Text} (member : line ∈ segments text) :
    ∃ body, '\n' ∉ body ∧ (line = body ∨ line = body ++ ['\n']) := by
  induction text generalizing line with
  | nil => simp at member
  | cons c rest ih =>
      rw [segments_cons] at member
      have alone : ∃ body : Text, '\n' ∉ body ∧ ([c] = body ∨ [c] = body ++ ['\n']) := by
        by_cases feed : c = '\n'
        · exact ⟨[], List.not_mem_nil, Or.inr (by rw [feed, List.nil_append])⟩
        · exact ⟨[c], by simpa using Ne.symm feed, Or.inl rfl⟩
      cases found : segments rest with
      | nil =>
          rw [found, segments.attach, List.mem_singleton] at member
          rw [member]
          exact alone
      | cons first more =>
          rw [found] at ih member
          simp only [segments.attach] at member
          split at member
          case isTrue =>
            rcases List.mem_cons.mp member with rfl | later
            · exact alone
            · exact ih later
          case isFalse notFeed =>
            rcases List.mem_cons.mp member with rfl | later
            · obtain ⟨body, unbroken, shape⟩ := ih (List.mem_cons_self ..)
              refine ⟨c :: body, ?_, ?_⟩
              · simpa [unbroken] using Ne.symm (by simpa using notFeed)
              · rcases shape with rfl | rfl
                · exact Or.inl rfl
                · exact Or.inr rfl
            · exact ih (List.mem_cons_of_mem _ later)

theorem withoutEnding_of_not_mem {body : Text} (unbroken : '\n' ∉ body) :
    withoutEnding body = body := by
  rw [← List.mem_reverse] at unbroken
  rw [withoutEnding]
  split
  case h_1 rest shape => simp [shape] at unbroken
  case h_2 rest notReturn shape => simp [shape] at unbroken
  case h_3 => rfl

/-- The ending of a line is its line feed, with at most a carriage return. -/
theorem withoutEnding_lineFeed (body : Text) : withoutEnding (body ++ ['\n']) <+: body := by
  rw [withoutEnding, List.reverse_append, List.reverse_singleton, List.singleton_append]
  split
  case h_1 rest shape =>
    rw [← List.reverse_suffix, List.reverse_reverse, (List.cons.inj shape).2]
    exact List.suffix_cons _ _
  case h_2 rest notReturn shape =>
    rw [← (List.cons.inj shape).2, List.reverse_reverse]
  case h_3 notReturn notFeed => exact absurd rfl (notFeed _)

/-- The ending of a line is blank. -/
theorem withoutEnding_append (segment : Text) :
    ∃ ending, segment = withoutEnding segment ++ ending ∧ ∀ c ∈ ending, isBlank c := by
  rw [withoutEnding]
  split
  case h_1 body shape =>
    refine ⟨['\r', '\n'], ?_, by simp [isBlank]⟩
    rw [← List.reverse_reverse segment, shape]
    simp
  case h_2 body notReturn shape =>
    refine ⟨['\n'], ?_, by simp [isBlank]⟩
    rw [← List.reverse_reverse segment, shape]
    simp
  case h_3 => exact ⟨[], (List.append_nil _).symm, List.forall_mem_nil _⟩

theorem trim_withoutEnding (segment : Text) : trim (withoutEnding segment) = trim segment := by
  obtain ⟨ending, split, blank⟩ := withoutEnding_append segment
  rw [← trim_append_blank (withoutEnding segment) blank, ← split]

/-- No line holds a line feed. -/
theorem not_mem_of_mem_lines {text line : Text} (member : line ∈ lines text) : '\n' ∉ line := by
  obtain ⟨segment, inside, rfl⟩ := List.mem_map.mp member
  obtain ⟨body, unbroken, shape⟩ := segments_cases inside
  rcases shape with rfl | rfl
  · rwa [withoutEnding_of_not_mem unbroken]
  · exact fun feed => unbroken ((withoutEnding_lineFeed body).subset feed)

theorem completeLines_of_not_mem {text : Text} (unbroken : '\n' ∉ text) :
    ((segments text).filter fun line => line.getLast? == some '\n') = [] := by
  rw [List.filter_eq_nil_iff]
  intro line member ends
  apply unbroken
  rw [← flatten_segments text, List.mem_flatten]
  exact ⟨line, member, List.mem_of_getLast? (beq_iff_eq.mp ends)⟩

/-- The complete lines of a text are those up to its last line feed. -/
theorem completeLines_eq (front : Text) {tail : Text} (unbroken : '\n' ∉ tail) :
    ((segments (front ++ '\n' :: tail)).filter fun line => line.getLast? == some '\n') =
      segments (front ++ ['\n']) := by
  rw [segments_append_lineFeed, List.filter_append]
  have complete : ((segments (front ++ ['\n'])).filter fun line => line.getLast? == some '\n') =
      segments (front ++ ['\n']) := by
    rw [List.filter_eq_self]
    intro line member
    rw [getLast?_of_mem_segments member]
    rfl
  rw [complete, completeLines_of_not_mem unbroken, List.append_nil]

end Marginalia.Text
