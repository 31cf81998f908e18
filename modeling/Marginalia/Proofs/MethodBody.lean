import Marginalia.Proofs.Note
import Marginalia.Proofs.Occurrence

/-!
# The bodies of methods

The body of a method is looked for by the text of its line: it begins behind the
first occurrence of that text in the class and ends in front of the next
occurrence of any method line.  The own body of a method lies between its line
and the next method line.  Main statement: a method is explained from its own
body exactly if no line above it holds the text of its line, and no line of its
body holds that of any method line.
-/

namespace Marginalia.ClassBody

open Text (trim withoutEnding blanksBefore blanksBehind)

variable {family : Family} {text : Text}

/-! ## Method lines -/

/-- Whether a line with its ending begins a method. -/
def beginsMethod (family : Family) (line : Text) : Bool :=
  isMethod family (withoutEnding line)

theorem trim_ne_nil_of_isMethod {line : Text} (begins : isMethod family line) :
    trim line ≠ [] := by
  have starts {head : Text} (nonempty : head ≠ []) (start : (trim line).startsWith head) :
      trim line ≠ [] := by
    intro empty
    rw [empty, Text.startsWith, List.isPrefixOf_iff_prefix, List.prefix_nil] at start
    exact nonempty start
  cases family with
  | python => exact starts (by decide) begins
  | javaScript =>
      simp only [isMethod, Bool.or_eq_true] at begins
      rcases begins with word | named
      · exact starts (by decide) word
      · intro empty
        have blank := List.dropWhile_eq_nil_iff.mpr (Text.trim_eq_nil_iff.mp empty)
        simp [looksLikeMethod, blank] at named

theorem mem_methods_iff {method : Text} :
    method ∈ methods family text ↔
      ∃ line ∈ text.segments, beginsMethod family line ∧ trim line = method := by
  simp only [methods, Text.lines, List.filter_map, List.map_map, List.mem_map, List.mem_filter,
    Function.comp_apply, Text.trim_withoutEnding, and_assoc, beginsMethod]

/-- The text of a method line is visible from its first character on. -/
theorem head_of_mem_methods {method : Text} (member : method ∈ methods family text) :
    ∃ c rest, method = c :: rest ∧ Text.isBlank c = false := by
  obtain ⟨line, -, begins, rfl⟩ := mem_methods_iff.mp member
  cases trimmed : trim line with
  | nil =>
      rw [← Text.trim_withoutEnding] at trimmed
      exact (trim_ne_nil_of_isMethod begins trimmed).elim
  | cons c rest => exact ⟨c, rest, rfl, Text.isBlank_of_trim_eq_cons trimmed⟩

/-! ## Where a body begins and ends -/

/-- How many characters stand in front of each method line that occurs in a
text. -/
def distances (methods : List Text) (text : Text) : List Nat :=
  methods.filterMap fun other =>
    if other.isEmpty then none else (text.cut? other).map (·.1.length)

theorem methodBody?_of_cut? {method front rest : Text} (methods : List Text)
    (found : text.cut? method = some (front, rest)) :
    methodBody? text method methods =
      some ((distances methods rest).min?.elim rest (rest.take ·)) := by
  rw [methodBody?, found]
  dsimp only
  split
  case h_1 length least =>
    have nearest : (distances methods rest).min? = some length := least
    rw [nearest, Option.elim_some]
  case h_2 least =>
    have nearest : (distances methods rest).min? = none := least
    rw [nearest, Option.elim_none]

theorem mem_distances_iff {methods : List Text} {length : Nat} :
    length ∈ distances methods text ↔ ∃ other ∈ methods, other ≠ [] ∧
      ∃ before after, text.cut? other = some (before, after) ∧ before.length = length := by
  rw [distances, List.mem_filterMap]
  refine exists_congr fun other => and_congr_right fun _ => ?_
  by_cases empty : other = []
  · simp [empty]
  · simp [empty]

/-- No method line occurs in front of the shortest distance. -/
theorem exists_distance_le {methods : List Text} {other before after : Text}
    (member : other ∈ methods) (nonempty : other ≠ []) (occurs : text = before ++ other ++ after) :
    ∃ length ∈ distances methods text, length ≤ before.length := by
  obtain ⟨⟨first, beyond⟩, cut⟩ := Option.isSome_iff_exists.mp
    (Text.isSome_cut?_of_occurs ⟨before, after, occurs.symm⟩)
  refine ⟨first.length, ?_, Text.length_le_of_cut? cut occurs⟩
  exact mem_distances_iff.mpr ⟨other, member, nonempty, first, beyond, cut, rfl⟩

/-- The body of a method follows the first occurrence of its line.  No method
line begins inside of it, and what follows it, if anything, begins with one. -/
theorem methodBody?_eq_some {method front rest : Text} (methods : List Text)
    (found : text.cut? method = some (front, rest)) :
    ∃ body back, methodBody? text method methods = some body ∧ rest = body ++ back ∧
      (∀ other ∈ methods, other ≠ [] → ∀ before after, rest = before ++ other ++ after →
        body.length ≤ before.length) ∧
      (back = [] ∨ ∃ other ∈ methods, other ≠ [] ∧ other <+: back) := by
  rw [methodBody?_of_cut? methods found]
  cases least : (distances methods rest).min? with
  | none =>
      refine ⟨rest, [], rfl, (List.append_nil rest).symm, ?_, Or.inl rfl⟩
      intro other member nonempty before after occurs
      obtain ⟨length, listed, -⟩ := exists_distance_le member nonempty occurs
      rw [List.min?_eq_none_iff.mp least] at listed
      cases listed
  | some length =>
      obtain ⟨listed, minimal⟩ := List.min?_eq_some_iff.mp least
      obtain ⟨next, member, nonempty, body, beyond, cut, rfl⟩ := mem_distances_iff.mp listed
      have split := Text.cut?_eq_some cut
      rw [List.append_assoc] at split
      refine ⟨body, next ++ beyond, ?_, split, ?_, Or.inr ⟨next, member, nonempty, ?_⟩⟩
      · rw [Option.elim_some, split, List.take_left]
      · intro other otherMember otherNonempty before after occurs
        obtain ⟨length, listed, le⟩ := exists_distance_le otherMember otherNonempty occurs
        exact (minimal length listed).trans le
      · exact List.prefix_append next beyond

/-! ## Own bodies -/

/-- The lines between a method line and the next one. -/
def bodyLines (family : Family) (below : List Text) : List Text :=
  below.takeWhile fun line => !beginsMethod family line

/-- The blanks in front of the next method line, if there is one. -/
def nextIndent (family : Family) (below : List Text) : Text :=
  (below.find? (beginsMethod family)).elim [] blanksBefore

/-- What stands between the text of a method line and that of the next one, or
the end of the class. -/
def ownBody (family : Family) (line : Text) (below : List Text) : Text :=
  (blanksBehind line :: bodyLines family below).flatten ++ nextIndent family below

theorem isBlank_of_mem_nextIndent {below : List Text} {c : Char}
    (member : c ∈ nextIndent family below) : Text.isBlank c := by
  rw [nextIndent] at member
  cases found : below.find? (beginsMethod family) with
  | none =>
      rw [found] at member
      cases member
  | some next =>
      rw [found] at member
      exact Text.isBlank_of_mem_blanksBefore member

/-- The lines below a method line are those of its body, and then the next method
line and what follows it. -/
theorem below_cases (family : Family) (below : List Text) :
    (below.find? (beginsMethod family) = none ∧ bodyLines family below = below) ∨
      ∃ next lower, below.find? (beginsMethod family) = some next ∧ beginsMethod family next ∧
        below = bodyLines family below ++ next :: lower := by
  induction below with
  | nil => exact Or.inl ⟨rfl, rfl⟩
  | cons line below ih =>
      cases begins : beginsMethod family line with
      | true =>
          right
          refine ⟨line, below, ?_, begins, ?_⟩
          · rw [List.find?_cons_of_pos begins]
          · rw [bodyLines, List.takeWhile_cons_of_neg (by simp [begins]), List.nil_append]
      | false =>
          have kept : bodyLines family (line :: below) = line :: bodyLines family below :=
            List.takeWhile_cons_of_pos (by simp [begins])
          rw [kept, List.find?_cons_of_neg (by simp [begins])]
          rcases ih with ⟨none', whole⟩ | ⟨next, lower, found, nextBegins, split⟩
          · exact Or.inl ⟨none', by rw [whole]⟩
          · exact Or.inr ⟨next, lower, found, nextBegins, congrArg (line :: ·) split⟩

/-- A line of a class that begins a method, with the lines above and below it. -/
structure MethodLine (family : Family) (text : Text) (above : List Text) (line : Text)
    (below : List Text) : Prop where
  split : text.segments = above ++ line :: below
  begins : beginsMethod family line

namespace MethodLine

variable {above below : List Text} {line : Text}

theorem mem_methods (stands : MethodLine family text above line below) :
    trim line ∈ methods family text :=
  mem_methods_iff.mpr ⟨line, by rw [stands.split]; simp, stands.begins, rfl⟩

theorem text_eq (stands : MethodLine family text above line below) :
    text = above.flatten ++ blanksBefore line ++ trim line ++
      (blanksBehind line ++ below.flatten) := by
  have whole := Text.flatten_segments text
  rw [stands.split, List.flatten_append, List.flatten_cons] at whole
  rw [← whole]
  nth_rewrite 1 [← Text.blanks_around line]
  simp only [List.append_assoc]

/-- Every line ends with a line feed, but for the last line of the class. -/
theorem complete (stands : MethodLine family text above line below) :
    (∀ earlier ∈ above, earlier.getLast? = some '\n') ∧
      ∀ later ∈ (line :: below).dropLast, later.getLast? = some '\n' := by
  have everyLine : ∀ other ∈ text.segments.dropLast, other.getLast? = some '\n' :=
    fun other member => Text.getLast?_of_mem_dropLast member
  rw [stands.split, List.dropLast_append_of_ne_nil (List.cons_ne_nil line below),
    List.forall_mem_append] at everyLine
  exact everyLine

/-- The line feed of a method line is among the blanks behind its text. -/
theorem getLast?_blanksBehind (stands : MethodLine family text above line below)
    (ends : line.getLast? = some '\n') : (blanksBehind line).getLast? = some '\n' := by
  obtain ⟨c, rest, trimmed, -⟩ := head_of_mem_methods stands.mem_methods
  rw [← Text.blanks_around line, List.getLast?_append, List.getLast?_append] at ends
  cases behind : (blanksBehind line).getLast? with
  | some last =>
      rw [behind] at ends
      exact ends
  | none =>
      have last := List.getLast?_eq_some_getLast (List.cons_ne_nil c rest)
      rw [behind, Option.none_or, trimmed, last, Option.some_or, ← last, ← trimmed] at ends
      exact (not_mem_of_mem_methods stands.mem_methods (List.mem_of_getLast? ends)).elim

/-- The lines of an own body are complete, but for the last line of the class. -/
theorem bodyLines_complete (stands : MethodLine family text above line below) :
    (∀ inner ∈ (blanksBehind line :: bodyLines family below).dropLast,
      inner.getLast? = some '\n') ∧
    (bodyLines family below ≠ below →
      ∀ inner ∈ blanksBehind line :: bodyLines family below, inner.getLast? = some '\n') := by
  obtain ⟨-, later⟩ := stands.complete
  rcases below_cases family below with ⟨-, whole⟩ | ⟨next, lower, -, -, parts⟩
  · refine ⟨?_, fun proper => (proper whole).elim⟩
    rw [whole]
    cases below with
    | nil => exact List.forall_mem_nil _
    | cons next lower =>
        rw [List.dropLast_cons_cons, List.forall_mem_cons] at later ⊢
        exact ⟨stands.getLast?_blanksBehind later.1, later.2⟩
  · have everyLine : ∀ inner ∈ blanksBehind line :: bodyLines family below,
        inner.getLast? = some '\n' := by
      rw [parts, ← List.cons_append, List.dropLast_append_of_ne_nil (List.cons_ne_nil next lower),
        List.forall_mem_append, List.forall_mem_cons] at later
      rw [List.forall_mem_cons]
      exact ⟨stands.getLast?_blanksBehind later.1.1, later.1.2⟩
    exact ⟨fun inner member => everyLine inner (List.dropLast_subset _ member), fun _ => everyLine⟩

/-- Behind the own body of a method the class ends or the next method line
begins. -/
theorem ownBody_append (stands : MethodLine family text above line below) :
    ∃ tail, blanksBehind line ++ below.flatten = ownBody family line below ++ tail ∧
      (nextIndent family below ++ tail = [] ∨
        bodyLines family below ≠ below ∧ ∃ next ∈ methods family text, next <+: tail) := by
  rw [ownBody, nextIndent, List.flatten_cons]
  rcases below_cases family below with ⟨none', whole⟩ | ⟨next, lower, found, begins, parts⟩
  · refine ⟨[], ?_, Or.inl ?_⟩
    · rw [none', whole, Option.elim_none, List.append_nil, List.append_nil]
    · rw [none', Option.elim_none, List.append_nil]
  · refine ⟨trim next ++ (blanksBehind next ++ lower.flatten), ?_, Or.inr ⟨?_, trim next, ?_, ?_⟩⟩
    · nth_rewrite 1 [parts]
      nth_rewrite 1 [← Text.blanks_around next]
      rw [found, Option.elim_some, List.flatten_append, List.flatten_cons]
      simp only [List.append_assoc]
    · intro whole
      rw [whole] at parts
      simp at parts
    · refine mem_methods_iff.mpr ⟨next, ?_, begins, rfl⟩
      rw [stands.split, parts]
      simp
    · exact List.prefix_append _ _

/-- A method line that begins in the own body of a method stands in one of its
lines. -/
theorem exists_bodyLine (stands : MethodLine family text above line below)
    {other before after : Text} (member : other ∈ methods family text)
    (occurs : blanksBehind line ++ below.flatten = before ++ (other ++ after))
    (inside : before.length < (ownBody family line below).length) :
    ∃ inner ∈ bodyLines family below, other <:+: inner := by
  obtain ⟨c, rest, rfl, visible⟩ := head_of_mem_methods member
  have unbroken := not_mem_of_mem_methods member
  obtain ⟨complete, completeAll⟩ := stands.bodyLines_complete
  obtain ⟨tail, whole, behind⟩ := stands.ownBody_append
  have ends : nextIndent family below ++ tail = [] ∨
      ∀ last ∈ (blanksBehind line :: bodyLines family below).flatten.getLast?, last = '\n' := by
    rcases behind with nothing | ⟨proper, -⟩
    · exact Or.inl nothing
    · exact Or.inr (Text.getLast?_flatten (completeAll proper))
  rw [occurs, ownBody, List.append_assoc] at whole
  rw [ownBody, List.length_append] at inside
  have inLines := Text.occurs_of_begins_indented ends (fun d => isBlank_of_mem_nextIndent) visible
    unbroken whole.symm inside
  rw [Text.infix_flatten_iff (List.cons_ne_nil c rest) unbroken complete] at inLines
  obtain ⟨inner, listed, holds⟩ := inLines
  rcases List.mem_cons.mp listed with rfl | listed
  · -- nothing visible stands between blanks
    have blank := Text.isBlank_of_mem_blanksBehind (holds.subset List.mem_cons_self)
    rw [visible] at blank
    cases blank
  · exact ⟨inner, listed, holds⟩

/-- The text of a method line is found in its own place exactly if no line above
holds it. -/
theorem cut?_eq_iff (stands : MethodLine family text above line below) :
    text.cut? (trim line) =
        some (above.flatten ++ blanksBefore line, blanksBehind line ++ below.flatten) ↔
      ∀ earlier ∈ above, ¬ trim line <:+: earlier := by
  obtain ⟨c, rest, trimmed, visible⟩ := head_of_mem_methods stands.mem_methods
  have nonempty : trim line ≠ [] := by
    rw [trimmed]
    exact List.cons_ne_nil c rest
  have unbroken := not_mem_of_mem_methods stands.mem_methods
  have occursAbove : trim line <:+: above.flatten ↔ ∃ earlier ∈ above, trim line <:+: earlier :=
    Text.infix_flatten_iff nonempty unbroken fun earlier member =>
      stands.complete.1 earlier (List.dropLast_subset _ member)
  rw [Text.cut?_eq_some_iff nonempty]
  constructor
  · rintro ⟨-, first⟩ earlier member holds
    apply first
    have above' := occursAbove.mpr ⟨earlier, member, holds⟩
    rw [List.append_assoc]
    exact above'.trans (List.prefix_append _ _).isInfix
  · intro spared
    refine ⟨stands.text_eq, ?_⟩
    rintro ⟨before, after, occurs⟩
    have lengths := congrArg List.length occurs
    simp only [List.length_append, List.length_dropLast] at lengths
    have positive := List.length_pos_of_ne_nil nonempty
    have inside : before.length < above.flatten.length + (blanksBefore line).length := by omega
    rw [List.append_assoc, List.append_assoc] at occurs
    rw [trimmed] at occurs unbroken
    have holds := Text.occurs_of_begins_indented
      (Or.inr (Text.getLast?_flatten stands.complete.1))
      (fun d => Text.isBlank_of_mem_blanksBefore) visible unbroken occurs.symm inside
    obtain ⟨earlier, member, holds⟩ := occursAbove.mp (trimmed ▸ holds)
    exact spared earlier member holds

/-- Where the text of a method line is found in its own place, the own body is
found exactly if none of its lines holds the text of a method line. -/
theorem body_eq_iff (stands : MethodLine family text above line below) {body back : Text}
    (rest : blanksBehind line ++ below.flatten = body ++ back)
    (within : ∀ other ∈ methods family text, other ≠ [] → ∀ before after,
      blanksBehind line ++ below.flatten = before ++ other ++ after → body.length ≤ before.length)
    (ends : back = [] ∨ ∃ other ∈ methods family text, other ≠ [] ∧ other <+: back) :
    body = ownBody family line below ↔
      ∀ inner ∈ bodyLines family below, ∀ other ∈ methods family text, ¬ other <:+: inner := by
  have nonempty {other : Text} (member : other ∈ methods family text) : other ≠ [] := by
    obtain ⟨c, more, rfl, -⟩ := head_of_mem_methods member
    exact List.cons_ne_nil c more
  obtain ⟨tail, whole, behind⟩ := stands.ownBody_append
  constructor
  · rintro rfl inner listed other member holds
    -- the body would end in front of the method line that it holds
    have inBody : other <:+: ownBody family line below := by
      have inLines := List.infix_of_mem_flatten (List.mem_cons_of_mem (blanksBehind line) listed)
      exact (holds.trans inLines).trans (List.prefix_append _ _).isInfix
    obtain ⟨before, after, occurs⟩ := inBody
    have shorter := within other member (nonempty member) before (after ++ back)
      (by rw [rest, ← occurs, List.append_assoc])
    have positive := List.length_pos_of_ne_nil (nonempty member)
    rw [← occurs, List.length_append, List.length_append] at shorter
    omega
  · intro spared
    have notShorter : (ownBody family line below).length ≤ body.length := by
      by_contra shorter
      rw [Nat.not_le] at shorter
      rcases ends with rfl | ⟨other, member, -, ⟨more, rfl⟩⟩
      · rw [List.append_nil] at rest
        rw [← rest, whole, List.length_append] at shorter
        omega
      · obtain ⟨inner, listed, holds⟩ := stands.exists_bodyLine member rest shorter
        exact spared inner listed other member holds
    have notLonger : body.length ≤ (ownBody family line below).length := by
      rcases behind with nothing | ⟨-, next, member, ⟨more, rfl⟩⟩
      · rw [(List.append_eq_nil_iff.mp nothing).2, List.append_nil] at whole
        rw [← whole, rest, List.length_append]
        omega
      · exact within next member (nonempty member) _ more (by rw [whole, List.append_assoc])
    exact (List.append_inj (rest.symm.trans whole) (Nat.le_antisymm notLonger notShorter)).1

end MethodLine

/-- The body that is found for a method line follows the first occurrence of its
text in the class, and the method is explained from it.  It is the own body of the
method exactly if no line above holds the text of the method line, and no line
of the own body holds that of any method line. -/
theorem methodBody?_own_iff {above below : List Text} {line : Text}
    (stands : MethodLine family text above line below) :
    ∃ front body back, text = front ++ trim line ++ (body ++ back) ∧
      (∀ before after, text = before ++ trim line ++ after → front.length ≤ before.length) ∧
      methodBody? text (trim line) (methods family text) = some body ∧
      explainMethod text (trim line) (methods family text) = Explain.functionality body ∧
      (front = above.flatten ++ blanksBefore line ∧ body = ownBody family line below ↔
        (∀ earlier ∈ above, ¬ trim line <:+: earlier) ∧
          ∀ inner ∈ bodyLines family below, ∀ other ∈ methods family text,
            ¬ other <:+: inner) := by
  have occurs : trim line <:+: text := ⟨_, _, stands.text_eq.symm⟩
  obtain ⟨⟨front, rest⟩, found⟩ :=
    Option.isSome_iff_exists.mp (Text.isSome_cut?_of_occurs occurs)
  obtain ⟨body, back, bodyFound, rfl, within, ends⟩ :=
    methodBody?_eq_some (methods family text) found
  refine ⟨front, body, back, Text.cut?_eq_some found, ?_, bodyFound, ?_, ?_⟩
  · intro before after
    exact Text.length_le_of_cut? found
  · rw [explainMethod, bodyFound]
  · rw [← stands.cut?_eq_iff, found, Option.some.injEq, Prod.mk.injEq]
    have same (rest : body ++ back = blanksBehind line ++ below.flatten) :
        body = ownBody family line below ↔ ∀ inner ∈ bodyLines family below,
          ∀ other ∈ methods family text, ¬ other <:+: inner := by
      rw [rest] at within
      exact stands.body_eq_iff rest.symm within ends
    constructor
    · rintro ⟨rfl, own⟩
      have rest := List.append_cancel_left ((Text.cut?_eq_some found).symm.trans stands.text_eq)
      exact ⟨⟨rfl, rest⟩, (same rest).mp own⟩
    · rintro ⟨⟨rfl, rest⟩, spared⟩
      exact ⟨rfl, (same rest).mpr spared⟩

/-- The lines below the first method of a class, which names the second one. -/
def callingBelow : List Text :=
  ["    return g(x)\r\n".toList, "  \x7d\r\n".toList, "\tg(x) \x7b\r\n".toList,
    "    f\r\n".toList, "  \x7d\r\n".toList, "\x7d".toList]

def callingClass : Text :=
  "class A \x7b\r\n  f(x) \x7b\r\n".toList ++ callingBelow.flatten

theorem methodBody?_own_iff_calling :
    MethodLine .javaScript callingClass ["class A \x7b\r\n".toList] "  f(x) \x7b\r\n".toList
      callingBelow ∧
    methodBody? callingClass "f(x) \x7b".toList (methods .javaScript callingClass) =
      some "\r\n    return g(x)\r\n  \x7d\r\n\t".toList := by
  have stands : MethodLine .javaScript callingClass ["class A \x7b\r\n".toList]
      "  f(x) \x7b\r\n".toList callingBelow :=
    ⟨by decide +kernel, by decide +kernel⟩
  obtain ⟨front, body, back, -, -, found, -, own⟩ := methodBody?_own_iff stands
  have body_eq := (own.mpr ⟨by decide +kernel, by decide +kernel⟩).2
  refine ⟨stands, ?_⟩
  rw [body_eq] at found
  exact found

/-- The lines above a method whose name ends that of the method above it. -/
def namesakeAbove : List Text :=
  ["class A \x7b\n".toList, "  prerun() \x7b\n".toList, "    return 1;\n".toList,
    "  \x7d\n".toList]

def namesakeBelow : List Text :=
  ["    await x;\n".toList, "  \x7d\n".toList, "\x7d".toList]

def namesakeClass : Text :=
  namesakeAbove.flatten ++ "  run() \x7b\n".toList ++ namesakeBelow.flatten

/-- The second method is explained from the body of the first one. -/
theorem methodBody?_namesake :
    MethodLine .javaScript namesakeClass namesakeAbove "  run() \x7b\n".toList namesakeBelow ∧
    methodBody? namesakeClass "run() \x7b".toList (methods .javaScript namesakeClass) =
      some "\n    return 1;\n  \x7d\n  ".toList ∧
    ownBody .javaScript "  run() \x7b\n".toList namesakeBelow =
      "\n    await x;\n  \x7d\n\x7d".toList ∧
    explainMethod namesakeClass "run() \x7b".toList (methods .javaScript namesakeClass) ≠
      Explain.functionality "\n    await x;\n  \x7d\n\x7d".toList := by
  refine ⟨⟨?_, ?_⟩, ?_, ?_, ?_⟩
  · decide +kernel
  · decide +kernel
  · decide +kernel
  · decide +kernel
  · decide +kernel

end Marginalia.ClassBody
