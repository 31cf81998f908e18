import Marginalia.FileTree
import Marginalia.Language
import Mathlib.Data.List.Basic
import Mathlib.Data.List.Induction

/-!
# Where paths lead

A path that leads to a file ends with the file's name in a directory that is
there (`FileTree.Leads`).  A tree is annotated with documents when it differs
from another one only in files whose names end like those of documents
(`FileTree.Annotated`).  Main statement: a path with the extension of a language
finds the same in both trees.
-/

namespace Marginalia

namespace Path

/-! ## Pieces of a path -/

/-- A piece that names an entry of a directory. -/
def Proper (piece : Text) : Prop :=
  piece ≠ [] ∧ piece ≠ ['.'] ∧ piece ≠ ['.', '.']

theorem pieces_of_not_mem {path : Text} (unslashed : '/' ∉ path) : pieces path = [path] := by
  induction path with
  | nil => rfl
  | cons c rest ih =>
      have notSlash : c ≠ '/' := by
        rintro rfl
        exact unslashed (List.mem_cons_self ..)
      have restUnslashed : '/' ∉ rest := fun member => unslashed (List.mem_cons_of_mem _ member)
      change pieces.split c (pieces rest) = _
      rw [ih restUnslashed]
      simp [pieces.split, notSlash]

/-- What is put behind a path without a slash goes to its last piece. -/
theorem pieces_append (ending : Text) (unslashed : '/' ∉ ending) (path : Text) :
    ∃ front last, pieces path = front ++ [last] ∧
      pieces (path ++ ending) = front ++ [last ++ ending] := by
  induction path with
  | nil => exact ⟨[], [], rfl, pieces_of_not_mem unslashed⟩
  | cons c rest ih =>
      obtain ⟨front, last, split, splitMore⟩ := ih
      have unfolded : pieces (c :: rest) = pieces.split c (front ++ [last]) := by
        rw [← split]
        rfl
      have unfoldedMore :
          pieces (c :: rest ++ ending) = pieces.split c (front ++ [last ++ ending]) := by
        rw [← splitMore]
        rfl
      rw [unfolded, unfoldedMore]
      cases front with
      | nil =>
          by_cases slash : c = '/'
          · exact ⟨[[]], last, by simp [pieces.split, slash], by simp [pieces.split, slash]⟩
          · exact ⟨[], c :: last, by simp [pieces.split, slash], by simp [pieces.split, slash]⟩
      | cons first front =>
          by_cases slash : c = '/'
          · exact ⟨[] :: first :: front, last, by simp [pieces.split, slash],
              by simp [pieces.split, slash]⟩
          · exact ⟨(c :: first) :: front, last, by simp [pieces.split, slash],
              by simp [pieces.split, slash]⟩

theorem fileName?_of_pieces {path last : Text} {front : List Text}
    (split : pieces path = front ++ [last]) (proper : Proper last) :
    fileName? path = some last := by
  have kept : (components path).getLast? = some last := by
    obtain ⟨nonempty, notPoint, -⟩ := proper
    simp [components, split, nonempty, notPoint]
  have notParent : (last == ['.', '.']) = false := by
    simpa using proper.2.2
  simp [fileName?, kept, notParent]

/-- A path to what stands above has no file name. -/
theorem fileName?_of_above {path : Text} {front : List Text}
    (split : pieces path = front ++ [['.', '.']]) : fileName? path = none := by
  simp [fileName?, components, split]

/-! ## Extensions -/

/-- The end of the name of every document. -/
def documentEnding : Text := ".md".toList

theorem output_eq (path : Text) : output path = path ++ documentEnding := rfl

/-- The name of a document has no other extension than that of documents. -/
theorem extension?_of_document {path name : Text}
    (named : fileName? path = some (name ++ documentEnding)) :
    extension? path = none ∨ extension? path = some "md".toList := by
  have tail : ((name ++ documentEnding).reverse.takeWhile (· != '.')).reverse = "md".toList := by
    rw [List.reverse_append]
    rfl
  simp only [extension?, named]
  split
  · exact Or.inl rfl
  · exact Or.inr (congrArg some tail)

end Path

/-- A path whose extension is that of a language. -/
def Language.Supports (path : Text) : Prop :=
  ∃ language, Language.ofPath path = .ok language

theorem Language.not_supports_of_fileName {path : Text} (unnamed : Path.fileName? path = none) :
    ¬ Language.Supports path := by
  rintro ⟨language, supported⟩
  simp [Language.ofPath, Path.extension?, unnamed] at supported

/-- No document has the extension of a language. -/
theorem Language.not_supports_document {path name : Text}
    (named : Path.fileName? path = some (name ++ Path.documentEnding)) :
    ¬ Language.Supports path := by
  rintro ⟨language, supported⟩
  rcases Path.extension?_of_document named with missing | markdown
  · simp [Language.ofPath, missing] at supported
  · rw [Language.ofPath, markdown] at supported
    cases supported

/-- Contents either fit into a file, or only their first part does. -/
theorem Limits.fill_cases (limits : Limits) (names : List Text)
    (contents : Bytes) :
    limits.fill names contents = (contents, .ok ()) ∨
      ∃ room reason, limits.room? names = some (room, reason) ∧ room < contents.length ∧
        limits.fill names contents = (contents.take room, .error reason) := by
  unfold Limits.fill
  split
  case h_1 room reason limited =>
    split
    case isTrue short => exact Or.inr ⟨room, reason, limited, short, rfl⟩
    case isFalse => exact Or.inl rfl
  case h_2 => exact Or.inl rfl

namespace FileTree

/-! ## Entries -/

private theorem lookup_put (names other : List Text) (entry : Entry)
    (entries : List (List Text × Entry)) :
    (put names entry entries).lookup other =
      if other = names then some entry else entries.lookup other := by
  induction entries with
  | nil =>
      by_cases same : other = names
      · simp [put, same]
      · have unequal : (other == names) = false := by simpa using same
        simp [put, List.lookup_cons, same, unequal]
  | cons first rest ih =>
      obtain ⟨found, old⟩ := first
      by_cases replaced : found = names
      · subst replaced
        by_cases same : other = found
        · simp [put, same]
        · have unequal : (other == found) = false := by simpa using same
          simp [put, List.lookup_cons, same, unequal]
      · by_cases same : other = found
        · subst same
          simp [put, replaced]
        · have unequal : (other == found) = false := by simpa using same
          simp [put, replaced, List.lookup_cons, unequal, ih]

@[simp] theorem get?_nil (tree : FileTree) : tree.get? [] = some .directory := rfl

/-- Setting an entry changes no other. -/
theorem get?_set {names : List Text} (below : names ≠ []) (tree : FileTree) (entry : Entry)
    (other : List Text) :
    (tree.set names entry).get? other = if other = names then some entry else tree.get? other := by
  cases other with
  | nil => simp [below.symm]
  | cons name other => simp [get?, set, lookup_put]

/-! ## Steps -/

/-- What a step can do: stay in a directory, go to the one above, or enter what
stands in it. -/
theorem step_cases {tree : FileTree} {names next : List Text} {piece : Text}
    (stepped : tree.step names piece = some next) :
    tree.get? names = some .directory ∧
      (next = names ∨ piece = ['.', '.'] ∧ next = names.dropLast ∨
        Path.Proper piece ∧ next = names ++ [piece] ∧ (tree.get? (names ++ [piece])).isSome) := by
  simp only [step] at stepped
  split at stepped
  case h_2 => cases stepped
  case h_1 directory =>
    refine ⟨directory, ?_⟩
    split at stepped
    case isTrue => exact Or.inl (Option.some.inj stepped).symm
    case isFalse named =>
      split at stepped
      case isTrue above =>
        exact Or.inr (Or.inl ⟨by simpa using above, (Option.some.inj stepped).symm⟩)
      case isFalse notAbove =>
        obtain ⟨entry, entered, rfl⟩ := Option.map_eq_some_iff.mp stepped
        simp only [Bool.or_eq_true, List.isEmpty_iff, beq_iff_eq, not_or] at named notAbove
        exact Or.inr (Or.inr ⟨⟨named.1, named.2, notAbove⟩, rfl, by simp [entered]⟩)

/-- Nothing is entered from where no directory stands. -/
theorem step_eq_none {tree : FileTree} {names : List Text} (piece : Text)
    (noDirectory : tree.get? names ≠ some .directory) : tree.step names piece = none := by
  simp only [step]

theorem step_proper {tree : FileTree} {names : List Text} {piece : Text}
    (directory : tree.get? names = some .directory) (proper : Path.Proper piece) :
    tree.step names piece = (tree.get? (names ++ [piece])).map fun _ => names ++ [piece] := by
  obtain ⟨nonempty, notPoint, notAbove⟩ := proper
  simp [step, directory, nonempty, notPoint, notAbove]

theorem follow_concat (tree : FileTree) (names front : List Text) (last : Text) :
    tree.follow names (front ++ [last]) = (tree.follow names front).bind (tree.step · last) := by
  simp [follow, List.foldlM_append]

/-! ## Paths to entries -/

/-- A path leads through a directory that is there to a name in it. -/
structure Leads (tree : FileTree) (path : Text) (parent : List Text) (last : Text) : Prop where
  nonempty : path ≠ []
  walk : tree.follow (tree.start path) (Path.pieces path).dropLast = some parent
  ends : (Path.pieces path).getLast? = some last
  directory : tree.get? parent = some .directory
  proper : Path.Proper last

/-- Where a path starts is told by its first character. -/
theorem start_append (tree : FileTree) {path : Text} (nonempty : path ≠ []) (ending : Text) :
    tree.start (path ++ ending) = tree.start path := by
  rw [start, start, List.head?_append_of_ne_nil _ nonempty]

theorem spot?_of_followed {tree : FileTree} {path : Text} (nonempty : path ≠ [])
    (followed : tree.limits.path? path = none) :
    tree.spot? path = tree.follow (tree.start path) (Path.pieces path) := by
  simp [spot?, nonempty, followed]

/-- Only a path that is followed leads somewhere. -/
theorem followed_of_spot? {tree : FileTree} {path : Text} {names : List Text}
    (spotted : tree.spot? path = some names) :
    path ≠ [] ∧ tree.limits.path? path = none := by
  simp only [spot?] at spotted
  split at spotted
  · cases spotted
  case isFalse followed =>
    simpa [not_or] using followed

namespace Leads

variable {tree : FileTree} {path : Text} {parent : List Text} {last : Text}

theorem pieces_eq (leads : tree.Leads path parent last) :
    Path.pieces path = (Path.pieces path).dropLast ++ [last] :=
  (List.dropLast_append_getLast? last leads.ends).symm

theorem spot?_eq (leads : tree.Leads path parent last)
    (followed : tree.limits.path? path = none) :
    tree.spot? path = (tree.get? (parent ++ [last])).map fun _ => parent ++ [last] := by
  rw [spot?_of_followed leads.nonempty followed, leads.pieces_eq, follow_concat, leads.walk,
    Option.bind_some, step_proper leads.directory leads.proper]

/-- A path that leads to a name finds what has that name. -/
theorem lookup_eq (leads : tree.Leads path parent last)
    (followed : tree.limits.path? path = none) :
    tree.lookup path = tree.get? (parent ++ [last]) := by
  rw [lookup, leads.spot?_eq followed]
  cases found : tree.get? (parent ++ [last]) with
  | none => rfl
  | some entry => exact found

theorem fileName?_eq (leads : tree.Leads path parent last) :
    Path.fileName? path = some last :=
  Path.fileName?_of_pieces leads.pieces_eq leads.proper

/-- A path leads to one name only. -/
theorem unique (leads : tree.Leads path parent last) {parent' : List Text} {last' : Text}
    (leads' : tree.Leads path parent' last') : parent = parent' ∧ last = last' := by
  have parents := leads.walk.symm.trans leads'.walk
  have names := leads.ends.symm.trans leads'.ends
  exact ⟨Option.some.inj parents, Option.some.inj names⟩

/-- The document of a file belongs into the directory of the file. -/
theorem output (leads : tree.Leads path parent last) :
    tree.Leads (Path.output path) parent (last ++ Path.documentEnding) := by
  obtain ⟨front, last', split, splitMore⟩ :=
    Path.pieces_append Path.documentEnding (by decide) path
  have same : last' = last := by
    have ends := leads.ends
    rw [split] at ends
    simpa using ends
  subst same
  have walk := leads.walk
  rw [split] at walk
  rw [Path.output_eq]
  exact {
    nonempty := by simp [leads.nonempty]
    walk := by simpa [splitMore, tree.start_append leads.nonempty] using walk
    ends := by simp [splitMore]
    directory := leads.directory
    proper := by
      have longer : 3 ≤ (last' ++ Path.documentEnding).length := by
        rw [List.length_append]
        exact Nat.le_add_left _ _
      refine ⟨?_, ?_, ?_⟩ <;>
        intro short <;>
        simp [short] at longer }

/-- A path opens the name that it leads to, unless the path is not followed, the
name is that of a directory, or nothing may be written there. -/
theorem open?_eq (leads : tree.Leads path parent last) :
    tree.open? path =
      (tree.limits.path? path).elim
        (if tree.get? (parent ++ [last]) = some .directory then
          .error Entry.isDirectory
        else (tree.limits.writing? (parent ++ [last])).elim (.ok (parent ++ [last])) .error)
        .error := by
  cases followed : tree.limits.path? path with
  | some reason => simp [open?, followed]
  | none =>
      simp only [open?, followed, leads.walk, leads.ends, leads.directory,
        leads.lookup_eq followed, Option.elim_none]
      cases tree.limits.writing? (parent ++ [last]) <;>
        cases tree.get? (parent ++ [last]) with
        | none => simp
        | some entry => cases entry <;> simp

theorem open?_eq_ok_iff (leads : tree.Leads path parent last) {names : List Text} :
    tree.open? path = .ok names ↔
      names = parent ++ [last] ∧ tree.limits.path? path = none ∧
        tree.get? names ≠ some .directory ∧ tree.limits.writing? names = none := by
  rw [leads.open?_eq]
  cases tree.limits.path? path with
  | some reason => simp
  | none =>
      by_cases taken : tree.get? (parent ++ [last]) = some .directory
      · simp only [Option.elim_none, taken, if_true]
        constructor
        · intro opened
          cases opened
        · rintro ⟨rfl, -, free, -⟩
          exact (free taken).elim
      · simp only [Option.elim_none, taken, if_false]
        cases refused : tree.limits.writing? (parent ++ [last]) with
        | some reason =>
            simp only [Option.elim_some]
            constructor
            · intro opened
              cases opened
            · rintro ⟨rfl, -, -, allowed⟩
              rw [refused] at allowed
              cases allowed
        | none =>
            simp only [Option.elim_none, Except.ok.injEq]
            constructor
            · rintro rfl
              exact ⟨rfl, trivial, taken, refused⟩
            · rintro ⟨rfl, -⟩
              rfl

end Leads

/-! ## Writing -/

section

variable {tree : FileTree} {path : Text} {names : List Text} {reason : Text}

theorem write_of_error (refused : tree.open? path = .error reason) (contents : Bytes) :
    tree.write path contents = (.error reason, tree) := by
  simp only [write, refused]

theorem write_of_ok (opened : tree.open? path = .ok names) (contents : Bytes) :
    tree.write path contents =
      ((tree.limits.fill names contents).2,
        tree.set names (.file (tree.limits.fill names contents).1)) := by
  simp only [write, opened]

end

/-- A path with the extension of a language that finds a file leads to its
name. -/
theorem leads_of_lookup_file {tree : FileTree} {path : Text} {contents : Bytes}
    (supported : Language.Supports path) (found : tree.lookup path = some (.file contents)) :
    tree.limits.path? path = none ∧ ∃ parent last, tree.Leads path parent last ∧
      tree.get? (parent ++ [last]) = some (.file contents) := by
  obtain ⟨spot, spotted, stored⟩ := Option.bind_eq_some_iff.mp found
  obtain ⟨nonempty, followed⟩ := followed_of_spot? spotted
  obtain ⟨front, last, split, -⟩ := Path.pieces_append [] (by simp) path
  rw [spot?_of_followed nonempty followed, split, follow_concat,
    Option.bind_eq_some_iff] at spotted
  obtain ⟨parent, walked, stepped⟩ := spotted
  obtain ⟨directory, moved⟩ := step_cases stepped
  refine ⟨followed, parent, last, ?_⟩
  rcases moved with rfl | ⟨rfl, -⟩ | ⟨proper, rfl, -⟩
  · cases directory.symm.trans stored
  · exact (Language.not_supports_of_fileName (Path.fileName?_of_above split) supported).elim
  · refine ⟨?_, stored⟩
    exact {
      nonempty
      walk := by simpa [split] using walked
      ends := by simp [split]
      directory
      proper }

/-! ## Trees with documents added -/

/-- Names that end with the name of a document. -/
def IsDocument (names : List Text) : Prop :=
  ∃ front name, names = front ++ [name ++ Path.documentEnding]

/-- The second tree differs from the first one only in documents: it has the
same directories, and it holds a file wherever it differs. -/
structure Annotated (tree now : FileTree) : Prop where
  directories : ∀ names, now.get? names = some .directory ↔ tree.get? names = some .directory
  others : ∀ names, ¬ IsDocument names → now.get? names = tree.get? names
  kept : ∀ names, (tree.get? names).isSome → (now.get? names).isSome
  workingDirectory : now.workingDirectory = tree.workingDirectory
  limits : now.limits = tree.limits

namespace Annotated

variable {tree now : FileTree}

theorem refl (tree : FileTree) : Annotated tree tree where
  directories _ := Iff.rfl
  others _ _ := rfl
  kept _ present := present
  workingDirectory := rfl
  limits := rfl

/-- Setting a document where no directory stands adds an annotation. -/
theorem set (annotated : Annotated tree now) {names : List Text} (document : IsDocument names)
    (free : tree.get? names ≠ some .directory) (contents : Bytes) :
    Annotated tree (now.set names (.file contents)) := by
  have below : names ≠ [] := by
    obtain ⟨front, name, rfl⟩ := document
    simp
  refine ⟨?_, ?_, ?_, annotated.workingDirectory, annotated.limits⟩
  · intro other
    rw [get?_set below]
    split
    case isTrue same => simp [same, free]
    case isFalse => exact annotated.directories other
  · intro other notDocument
    have different : other ≠ names := by
      rintro rfl
      exact notDocument document
    rw [get?_set below, if_neg different]
    exact annotated.others other notDocument
  · intro other present
    rw [get?_set below]
    split
    · rfl
    · exact annotated.kept other present

theorem start_eq (annotated : Annotated tree now) (path : Text) :
    now.start path = tree.start path := by
  rw [start, start, annotated.workingDirectory]

/-- A step differs only by entering a document that was not there. -/
theorem step_eq_or (annotated : Annotated tree now) (names : List Text) (piece : Text) :
    now.step names piece = tree.step names piece ∨
      tree.step names piece = none ∧ ∃ next, now.step names piece = some next ∧
        tree.get? next = none ∧ (now.get? next).isSome := by
  by_cases directory : tree.get? names = some .directory
  · have nowDirectory := (annotated.directories names).mpr directory
    by_cases proper : Path.Proper piece
    · rw [step_proper directory proper, step_proper nowDirectory proper]
      cases before : tree.get? (names ++ [piece]) with
      | some entry =>
          obtain ⟨later, after⟩ := Option.isSome_iff_exists.mp
            (annotated.kept (names ++ [piece]) (by simp [before]))
          exact Or.inl (by rw [after]; rfl)
      | none =>
          cases after : now.get? (names ++ [piece]) with
          | none => exact Or.inl rfl
          | some entry => exact Or.inr ⟨rfl, names ++ [piece], rfl, before, by simp [after]⟩
    · -- such a piece never looks into the directory
      left
      simp only [step, directory, nowDirectory]
      simp only [Path.Proper, not_and, ne_eq, Decidable.not_not] at proper
      split
      case isTrue => rfl
      case isFalse named =>
        simp only [Bool.or_eq_true, List.isEmpty_iff, beq_iff_eq, not_or] at named
        rw [proper named.1 named.2]
        rfl
  · have nowOther : now.get? names ≠ some .directory :=
      mt (annotated.directories names).mp directory
    exact Or.inl ((step_eq_none piece nowOther).trans (step_eq_none piece directory).symm)

/-- A path differs only by ending at a document that was not there. -/
theorem follow_eq_or (annotated : Annotated tree now) (names pieces : List Text) :
    now.follow names pieces = tree.follow names pieces ∨
      tree.follow names pieces = none ∧ ∃ final, now.follow names pieces = some final ∧
        tree.get? final = none ∧ (now.get? final).isSome := by
  induction pieces generalizing names with
  | nil => exact Or.inl rfl
  | cons piece pieces ih =>
      simp only [follow, List.foldlM_cons, Option.bind_eq_bind]
      rcases annotated.step_eq_or names piece with same | ⟨noStep, next, newStep, absent, present⟩
      · rw [same]
        cases tree.step names piece with
        | none => exact Or.inl rfl
        | some next => exact ih next
      · rw [noStep, newStep]
        cases pieces with
        | nil => exact Or.inr ⟨rfl, next, rfl, absent, present⟩
        | cons piece pieces =>
            have noDirectory : now.get? next ≠ some .directory := by
              rw [ne_eq, annotated.directories, absent]
              simp
            simp [List.foldlM_cons, step_eq_none piece noDirectory]

theorem spot?_eq_or (annotated : Annotated tree now) (path : Text) :
    now.spot? path = tree.spot? path ∨
      tree.spot? path = none ∧ ∃ names, now.spot? path = some names ∧
        tree.get? names = none ∧ (now.get? names).isSome := by
  simp only [spot?, annotated.limits, annotated.start_eq]
  split
  · exact Or.inl rfl
  · exact annotated.follow_eq_or _ _

/-- Documents change nothing about which directories paths lead to. -/
theorem leads_iff (annotated : Annotated tree now) {path : Text} {parent : List Text}
    {last : Text} : now.Leads path parent last ↔ tree.Leads path parent last := by
  have walks := annotated.follow_eq_or (tree.start path) (Path.pieces path).dropLast
  rw [← annotated.start_eq] at walks
  constructor
  · intro leads
    have directory := (annotated.directories parent).mp leads.directory
    rcases walks with same | ⟨-, names, walked, absent, -⟩
    · exact { leads with walk := annotated.start_eq path ▸ same ▸ leads.walk, directory }
    · rw [leads.walk] at walked
      cases walked
      rw [directory] at absent
      cases absent
  · intro leads
    have directory := (annotated.directories parent).mpr leads.directory
    rcases walks with same | ⟨nowhere, -⟩
    · have walk := same.trans (annotated.start_eq path ▸ leads.walk)
      exact { leads with walk, directory }
    · rw [annotated.start_eq, leads.walk] at nowhere
      cases nowhere

/-- Documents take nothing away. -/
theorem lookup_kept (annotated : Annotated tree now) {path : Text}
    (present : (tree.lookup path).isSome) : (now.lookup path).isSome := by
  simp only [lookup] at present ⊢
  rcases annotated.spot?_eq_or path with same | ⟨nowhere, -⟩
  · rw [same]
    cases spotted : tree.spot? path with
    | none => simp [spotted] at present
    | some names =>
        simp only [spotted, Option.bind_some] at present ⊢
        exact annotated.kept names present
  · simp [nowhere] at present

theorem lookup_directory (annotated : Annotated tree now) {path : Text}
    (found : now.lookup path = some .directory) : tree.lookup path = some .directory := by
  simp only [lookup, Option.bind_eq_some_iff] at found ⊢
  obtain ⟨names, spotted, directory⟩ := found
  have before := (annotated.directories names).mp directory
  rcases annotated.spot?_eq_or path with same | ⟨-, names', spotted', absent, -⟩
  · exact ⟨names, same ▸ spotted, before⟩
  · cases spotted.symm.trans spotted'
    rw [before] at absent
    cases absent

/-- Documents change nothing about what a path finds that has the extension of
a language. -/
theorem lookup_eq (annotated : Annotated tree now) {path : Text}
    (supported : Language.Supports path) : now.lookup path = tree.lookup path := by
  cases found : now.lookup path with
  | none =>
      cases before : tree.lookup path with
      | none => rfl
      | some entry =>
          have present : (now.lookup path).isSome := annotated.lookup_kept (by simp [before])
          simp [found] at present
  | some entry =>
      cases entry with
      | directory => exact (annotated.lookup_directory found).symm
      | file contents =>
          obtain ⟨followed, parent, last, leads, file⟩ := leads_of_lookup_file supported found
          have other : ¬ IsDocument (parent ++ [last]) := by
            rintro ⟨front, name, same⟩
            have named := (List.append_inj' same rfl).2
            rw [List.singleton_inj] at named
            exact Language.not_supports_document (named ▸ leads.fileName?_eq) supported
          rw [annotated.others _ other] at file
          rw [(annotated.leads_iff.mp leads).lookup_eq (annotated.limits ▸ followed), file]

/-- Documents change nothing about where a path opens a file. -/
theorem open?_eq (annotated : Annotated tree now) {path : Text} {parent : List Text}
    {last : Text} (leads : tree.Leads path parent last) : now.open? path = tree.open? path := by
  rw [leads.open?_eq, (annotated.leads_iff.mpr leads).open?_eq, annotated.limits]
  simp only [annotated.directories]

end Annotated

end FileTree

end Marginalia
