import Marginalia.Tag
import Marginalia.Proofs.Text
import Mathlib.Data.Option.Basic

/-!
# What the patterns of tags find

Each part of a pattern hands the text behind it on to the next part.  The lemmas
here tell, for every part, which text it passed over when the pattern matched.
What a pattern finds in the end is the rest of a line.
-/

namespace Marginalia.Tag

variable {α : Type} {next : Text → Option α} {text : Text} {found : α}

/-- Blanks that matched stand in front of what the rest of the pattern found. -/
theorem blanks_eq_some (matched : blanks next text = some found) :
    ∃ gap rest, text = gap ++ rest ∧ gap ≠ [] ∧ (∀ c ∈ gap, Text.isBlank c) ∧
      next rest = some found := by
  induction text with
  | nil => simp [blanks] at matched
  | cons c rest ih =>
      rw [blanks] at matched
      split at matched
      case isFalse => cases matched
      case isTrue blank =>
        rcases (Option.orElse_eq_some _ _ _).mp matched with longer | ⟨-, here⟩
        · obtain ⟨gap, beyond, rfl, -, blanks, behind⟩ := ih longer
          refine ⟨c :: gap, beyond, rfl, List.cons_ne_nil _ _, ?_, behind⟩
          exact List.forall_mem_cons.mpr ⟨blank, blanks⟩
        · refine ⟨[c], rest, rfl, List.cons_ne_nil _ _, ?_, here⟩
          exact List.forall_mem_singleton.mpr blank

theorem maybeBlanks_eq_some (matched : maybeBlanks next text = some found) :
    ∃ gap rest, text = gap ++ rest ∧ (∀ c ∈ gap, Text.isBlank c) ∧ next rest = some found := by
  rcases (Option.orElse_eq_some _ _ _).mp matched with some' | ⟨-, none'⟩
  · obtain ⟨gap, rest, split, -, blanks, behind⟩ := blanks_eq_some some'
    exact ⟨gap, rest, split, blanks, behind⟩
  · exact ⟨[], text, rfl, by simp, none'⟩

/-- A type that matched stands in braces, in front of what the rest of the
pattern found. -/
theorem braced_eq_some (matched : braced next text = some found) :
    ∃ type rest, text = '{' :: (type ++ '}' :: rest) ∧ '}' ∉ type ∧ next rest = some found := by
  rw [braced.eq_def] at matched
  split at matched
  case h_2 => cases matched
  case h_1 inside =>
    split at matched
    case h_2 => cases matched
    case h_1 brace rest shape =>
      have whole := List.takeWhile_append_dropWhile (p := (· != '}')) (l := inside)
      rw [shape] at whole
      have closing : brace = '}' := by
        have stopped := List.head_dropWhile_not (p := (· != '}')) (l := inside) (by simp [shape])
        simpa [shape] using stopped
      subst closing
      refine ⟨inside.takeWhile (· != '}'), rest, by rw [whole], ?_, matched⟩
      exact Text.not_mem_upTo inside '}'

theorem lineRest_eq_some {line : Text} (matched : lineRest text = some line) :
    line = text.upTo '\n' := by
  rw [lineRest] at matched
  split at matched
  case h_1 => cases matched
  case h_2 => exact (Option.some.inj matched).symm

/-! ## Where a pattern matches

A pattern tries every number of blanks, so it misses no way to match. -/

theorem isSome_blanks_iff : (blanks next text).isSome ↔
    ∃ gap rest, text = gap ++ rest ∧ gap ≠ [] ∧ (∀ c ∈ gap, Text.isBlank c) ∧
      (next rest).isSome := by
  constructor
  · intro matches'
    obtain ⟨found, matched⟩ := Option.isSome_iff_exists.mp matches'
    obtain ⟨gap, rest, split, nonempty, blank, behind⟩ := blanks_eq_some matched
    exact ⟨gap, rest, split, nonempty, blank, Option.isSome_iff_exists.mpr ⟨found, behind⟩⟩
  · rintro ⟨gap, rest, rfl, nonempty, blank, behind⟩
    induction gap with
    | nil => exact absurd rfl nonempty
    | cons c gap ih =>
        obtain ⟨blankHere, blank⟩ := List.forall_mem_cons.mp blank
        rw [List.cons_append, blanks, if_pos blankHere]
        cases gap with
        | nil =>
            cases blanks next ([] ++ rest) with
            | none => exact behind
            | some found => rfl
        | cons d gap =>
            have longer := ih (List.cons_ne_nil d gap) blank
            obtain ⟨found, matched⟩ := Option.isSome_iff_exists.mp longer
            rw [matched]
            rfl

theorem braced_append {type : Text} (closed : '}' ∉ type) (rest : Text) :
    braced next ('{' :: (type ++ '}' :: rest)) = next rest := by
  have passed : (type ++ '}' :: rest).dropWhile (· != '}') = '}' :: rest := by
    rw [List.dropWhile_append_of_pos fun c member => by
      simpa using fun equal : c = '}' => closed (equal ▸ member)]
    exact List.dropWhile_cons_of_neg (by simp)
  simp only [braced, passed]

theorem isSome_braced {type rest : Text} (closed : '}' ∉ type) (behind : (next rest).isSome) :
    (braced next ('{' :: (type ++ '}' :: rest))).isSome := by
  rwa [braced_append closed]

theorem isSome_lineRest_iff : (lineRest text).isSome ↔ text.upTo '\n' ≠ [] := by
  rw [lineRest]
  split
  case h_1 empty => simp [empty]
  case h_2 nonempty => simpa using nonempty

variable {pattern : Option Char → Text → Option α} {before : Option Char}

/-- The character in front of a place, one character further into the text. -/
private theorem before_cons (before : Option Char) (c : Char) (front : Text) :
    (c :: front).getLast?.or before = front.getLast?.or (some c) := by
  rw [List.getLast?_cons]
  cases front.getLast? <;> rfl

theorem search_eq_none_iff : search pattern before text = none ↔
    ∀ front rest, text = front ++ rest → pattern (front.getLast?.or before) rest = none := by
  induction text generalizing before with
  | nil =>
      rw [search]
      constructor
      · intro unmatched front rest split
        obtain ⟨rfl, rfl⟩ := List.append_eq_nil_iff.mp split.symm
        exact unmatched
      · exact fun unmatched => unmatched [] [] rfl
  | cons c text ih =>
      rw [search, Option.orElse_eq_none, ih]
      constructor
      · rintro ⟨here, later⟩ front rest split
        cases front with
        | nil =>
            rw [List.nil_append] at split
            exact split ▸ here
        | cons d front =>
            obtain ⟨rfl, tail⟩ := List.cons.inj split
            rw [before_cons]
            exact later front rest tail
      · intro unmatched
        refine ⟨unmatched [] _ rfl, fun front rest split => ?_⟩
        rw [← before_cons before]
        exact unmatched (c :: front) rest (by rw [split, List.cons_append])

/-- A search finds what the pattern finds at the first place where it matches. -/
theorem search_first (matched : search pattern before text = some found) :
    ∃ front rest, text = front ++ rest ∧
      pattern (front.getLast?.or before) rest = some found ∧
      ∀ front' rest', text = front' ++ rest' → front'.length < front.length →
        pattern (front'.getLast?.or before) rest' = none := by
  induction text generalizing before with
  | nil => exact ⟨[], [], rfl, matched, by simp⟩
  | cons c text ih =>
      rw [search] at matched
      rcases (Option.orElse_eq_some _ _ _).mp matched with here | ⟨missed, later⟩
      · exact ⟨[], c :: text, rfl, here, by simp⟩
      · obtain ⟨front, rest, rfl, there, first⟩ := ih later
        refine ⟨c :: front, rest, rfl, by rwa [before_cons], fun front' rest' split shorter => ?_⟩
        cases front' with
        | nil =>
            rw [List.nil_append] at split
            exact split ▸ missed
        | cons d front' =>
            obtain ⟨rfl, tail⟩ := List.cons.inj split
            rw [before_cons]
            exact first front' rest' tail (Nat.lt_of_succ_lt_succ shorter)

/-- A search finds what the pattern finds somewhere in the text. -/
theorem search_eq_some (matched : search pattern before text = some found) :
    ∃ front rest before', text = front ++ rest ∧ pattern before' rest = some found := by
  obtain ⟨front, rest, split, there, -⟩ := search_first matched
  exact ⟨front, rest, _, split, there⟩

/-! ## Parameters -/

theorem described_unbroken {name description : Text}
    (matched : parameter?.described name text = some description) : '\n' ∉ description := by
  obtain ⟨behind, -, matched⟩ := Option.bind_eq_some_iff.mp matched
  obtain ⟨gap, rest, -, -, -, found⟩ := blanks_eq_some matched
  rw [lineRest_eq_some found]
  exact Text.not_mem_upTo rest '\n'

/-- What a text says about a parameter stands in one line. -/
theorem parameter?_unbroken {family : Family} {name description : Text}
    (matched : parameter? family name text = some description) : '\n' ∉ description := by
  obtain ⟨front, rest, before, -, matched⟩ := search_eq_some matched
  cases family with
  | javaScript =>
      obtain ⟨behind, -, matched⟩ := Option.bind_eq_some_iff.mp matched
      obtain ⟨gap, beyond, -, -, -, matched⟩ := blanks_eq_some matched
      rcases (Option.orElse_eq_some _ _ _).mp matched with typed | ⟨-, untyped⟩
      · obtain ⟨type, behind, -, -, matched⟩ := braced_eq_some typed
        obtain ⟨gap, beyond, -, -, -, matched⟩ := blanks_eq_some matched
        exact described_unbroken matched
      · exact described_unbroken untyped
  | python =>
      simp only [parameter?.pattern] at matched
      split at matched
      case isFalse => cases matched
      case isTrue =>
        obtain ⟨behind, -, matched⟩ := Option.bind_eq_some_iff.mp matched
        obtain ⟨gap, beyond, -, -, matched⟩ := maybeBlanks_eq_some matched
        split at matched
        case h_2 => cases matched
        case h_1 behind =>
          obtain ⟨gap, beyond, -, -, found⟩ := maybeBlanks_eq_some matched
          rw [lineRest_eq_some found]
          exact Text.not_mem_upTo beyond '\n'

theorem parameterDescription_unbroken (family : Family) (name text : Text) :
    '\n' ∉ parameterDescription family name text := by
  rw [parameterDescription]
  split
  case h_1 description matched =>
    exact fun feed => parameter?_unbroken matched (Text.trimEnd_subset _ feed)
  case h_2 => decide

end Marginalia.Tag
