import Marginalia.Program
import Marginalia.Proofs.CommandLine
import Marginalia.Proofs.Requests
import Mathlib.Data.List.Basic

/-!
# Exit codes and the two ways to give a page

A run either prints the page of a file or writes it.  No failure to parse shows in
the exit code: all that can fail a run is the writing of a page, which may fail
because a directory stands in its place, because the place may not be written, or
because there is not enough room.  Main statement: what a run prints is what the
same command line without the option to print writes.
-/

namespace Marginalia

/-- A file that can be read as text, with the extension of a language. -/
def FileTree.Documentable (tree : FileTree) (file : Text) : Prop :=
  Language.Supports file ∧ ∃ source, tree.view.Holds file source

theorem FileTree.Documentable.isSome_lookup {tree : FileTree} {file : Text}
    (documentable : tree.Documentable file) : (tree.lookup file).isSome := by
  obtain ⟨-, source, -, stored⟩ := documentable
  exact Option.isSome_iff_exists.mpr ⟨_, stored⟩

theorem Generator.document_ne_nil_iff {companion : Companion} {tree : FileTree} {file : Text} :
    document tree.view companion file ≠ [] ↔ tree.Documentable file := by
  rw [ne_eq, document_eq_nil_iff, FileTree.Documentable]
  simp only [not_or, not_not, not_forall]

/-! ## Writing the document of a file -/

namespace FileTree

variable {tree : FileTree} {file : Text}

/-- The document of a file is not written where a directory stands. -/
theorem Documentable.write_directory (documentable : tree.Documentable file)
    (taken : tree.lookup (Path.output file) = some .directory) (contents : Bytes) :
    ∃ reason, tree.write (Path.output file) contents = (.error reason, tree) := by
  obtain ⟨supported, source, -, found⟩ := documentable
  obtain ⟨-, parent, last, leads, -⟩ := leads_of_lookup_file supported found
  obtain ⟨spot, spotted, -⟩ := Option.bind_eq_some_iff.mp taken
  obtain ⟨-, followed⟩ := followed_of_spot? spotted
  rw [leads.output.lookup_eq followed] at taken
  refine ⟨Entry.isDirectory, write_of_error ?_ contents⟩
  rw [leads.output.open?_eq, followed, taken]
  rfl

/-- Writing the document of a file touches nothing but the place of the document,
and where it succeeds the document is there. -/
theorem Documentable.write_output (documentable : tree.Documentable file) (contents : Bytes) :
    let written := tree.write (Path.output file) contents
    (∀ names, written.2.spot? (Path.output file) ≠ some names →
        written.2.get? names = tree.get? names) ∧
      (written.1 = .ok () → written.2.lookup (Path.output file) = some (.file contents)) := by
  intro written
  obtain ⟨supported, source, -, found⟩ := documentable
  obtain ⟨-, parent, last, leads, -⟩ := leads_of_lookup_file supported found
  cases opened : tree.open? (Path.output file) with
  | error reason =>
      rw [show written = _ from write_of_error opened contents]
      refine ⟨fun names _ => rfl, fun done => ?_⟩
      cases done
  | ok names =>
      rw [show written = _ from write_of_ok opened contents]
      obtain ⟨rfl, followed, free, -⟩ := leads.output.open?_eq_ok_iff.mp opened
      have below : parent ++ [last ++ Path.documentEnding] ≠ [] := by simp
      have annotated := (Annotated.refl tree).set ⟨parent, last, rfl⟩ free
        (tree.limits.fill (parent ++ [last ++ Path.documentEnding]) contents).1
      have leadsNow := (annotated.leads_iff.mpr leads).output
      constructor
      · intro names elsewhere
        rw [get?_set below]
        split
        case isTrue same =>
          rw [leadsNow.spot?_eq followed, get?_set below, if_pos rfl] at elsewhere
          exact (elsewhere (congrArg some same.symm)).elim
        case isFalse => rfl
      · intro done
        rw [leadsNow.lookup_eq followed, get?_set below, if_pos rfl]
        rcases tree.limits.fill_cases (parent ++ [last ++ Path.documentEnding]) contents with
          whole | ⟨room, reason, -, -, short⟩
        · rw [whole]
        · rw [short] at done
          cases done

end FileTree

namespace Program

variable {surroundings : Surroundings} {words : List Text} {invocation : CommandLine.Invocation}

/-- The page that an invocation is about. -/
def page (surroundings : Surroundings) (invocation : CommandLine.Invocation) : Text :=
  Generator.document surroundings.tree.view
    (surroundings.companion surroundings.tree.view invocation.program invocation.script)
    invocation.request.file

theorem page_ne_nil_iff :
    page surroundings invocation ≠ [] ↔ surroundings.tree.Documentable invocation.request.file :=
  Generator.document_ne_nil_iff

/-- The page does not depend on what is done with it. -/
theorem page_writing : page surroundings invocation.writing = page surroundings invocation := rfl

/-- What comes of writing the page of an invocation. -/
def writing (surroundings : Surroundings) (invocation : CommandLine.Invocation) :
    Except Text Unit × FileTree :=
  surroundings.tree.write (Path.output invocation.request.file)
    (Text.toBytes (page surroundings invocation))

/-! ## One run -/

/-- How a run of a command line that was read ends. -/
theorem run_ends (accepted : CommandLine.parse surroundings.environment words = .ok invocation)
    {result : Except Failure Generator.Outcome} {now : FileTree}
    (ran : Generator.run (surroundings.companion surroundings.tree.view invocation.program
      invocation.script) surroundings.tree invocation.request = (result, now)) :
    (run surroundings words).tree = now ∧
    (∀ outcome, result = .ok outcome → (run surroundings words).exitCode = 0 ∧
      (run surroundings words).stdout = announce invocation.request outcome) ∧
    ∀ failure, result = .error failure → (run surroundings words).exitCode = failure.exitCode := by
  have performed : perform Generator.store surroundings.logging surroundings.tree.view
      (surroundings.companion surroundings.tree.view invocation.program invocation.script)
      invocation surroundings.tree =
        (output (Log.Filter.choose surroundings.logging invocation.verbose) invocation.request
          (Generator.planEvents surroundings.tree.view
            (surroundings.companion surroundings.tree.view invocation.program invocation.script)
            invocation.request) result, now) := by
    unfold Generator.run at ran
    simp only [perform, bind, StateT.bind, ran]
    rfl
  simp only [run, accepted, performed, true_and]
  constructor
  · rintro outcome rfl
    exact ⟨rfl, rfl⟩
  · rintro failure rfl
    rfl

theorem run_of_undocumented
    (accepted : CommandLine.parse surroundings.environment words = .ok invocation)
    (undocumented : page surroundings invocation = []) :
    (run surroundings words).exitCode = 0 ∧ (run surroundings words).tree = surroundings.tree := by
  rcases Generator.run_undocumented undocumented with ran | ran
  · obtain ⟨kept, ended, -⟩ := run_ends accepted ran
    exact ⟨(ended _ rfl).1, kept⟩
  · obtain ⟨kept, ended, -⟩ := run_ends accepted ran
    exact ⟨(ended _ rfl).1, kept⟩

theorem run_of_printing
    (accepted : CommandLine.parse surroundings.environment words = .ok invocation)
    (documented : page surroundings invocation ≠ []) (printing : invocation.request.stdout = true) :
    (run surroundings words).exitCode = 0 ∧
      (run surroundings words).stdout = page surroundings invocation ∧
      (run surroundings words).tree = surroundings.tree := by
  obtain ⟨kept, ended, -⟩ := run_ends accepted (Generator.run_printed documented printing)
  obtain ⟨exited, printed⟩ := ended _ rfl
  exact ⟨exited, printed, kept⟩

/-- A run that is to write a page ends as the writing does. -/
theorem run_of_writing
    (accepted : CommandLine.parse surroundings.environment words = .ok invocation)
    (documented : page surroundings invocation ≠ [])
    (asked : invocation.request.stdout = false) :
    (run surroundings words).tree = (writing surroundings invocation).2 ∧
      ((∃ reason, (writing surroundings invocation).1 = .error reason) ∧
        (run surroundings words).exitCode = 5 ∨
      (writing surroundings invocation).1 = .ok () ∧ (run surroundings words).exitCode = 0) := by
  obtain ⟨left, succeeded, failed⟩ := run_ends accepted (Generator.run_writing documented asked)
  refine ⟨left, ?_⟩
  cases written : (writing surroundings invocation).1 with
  | error reason => exact Or.inl ⟨⟨reason, rfl⟩, failed _ (congrArg _ written)⟩
  | ok done => exact Or.inr ⟨rfl, (succeeded _ (congrArg _ written)).1⟩

/-- A run that has nothing to write succeeds and changes nothing. -/
theorem run_of_nothing_to_write
    (accepted : CommandLine.parse surroundings.environment words = .ok invocation)
    (nothing : page surroundings invocation = [] ∨ invocation.request.stdout = true) :
    (run surroundings words).exitCode = 0 ∧ (run surroundings words).tree = surroundings.tree := by
  by_cases undocumented : page surroundings invocation = []
  · exact run_of_undocumented accepted undocumented
  · have printing := nothing.resolve_left undocumented
    obtain ⟨exited, -, kept⟩ := run_of_printing accepted undocumented printing
    exact ⟨exited, kept⟩

/-- A run fails exactly if a page is to be written and cannot be, and any other
one succeeds. -/
theorem exitCode_cases
    (accepted : CommandLine.parse surroundings.environment words = .ok invocation) :
    ((run surroundings words).exitCode = 5 ↔
      invocation.request.stdout = false ∧ page surroundings invocation ≠ [] ∧
      ∃ reason, (writing surroundings invocation).1 = .error reason) ∧
    ((run surroundings words).exitCode = 5 ∨ (run surroundings words).exitCode = 0) := by
  by_cases nothing : page surroundings invocation = [] ∨ invocation.request.stdout = true
  · have exited := (run_of_nothing_to_write accepted nothing).1
    refine ⟨⟨fun five => ?_, ?_⟩, Or.inr exited⟩
    · rw [exited] at five
      cases five
    · rintro ⟨asked, documented, -⟩
      rcases nothing with undocumented | printing
      · exact (documented undocumented).elim
      · rw [asked] at printing
        cases printing
  · rw [not_or, Bool.not_eq_true] at nothing
    obtain ⟨documented, asked⟩ := nothing
    rcases (run_of_writing accepted documented asked).2 with ⟨failed, five⟩ | ⟨done, exited⟩
    · exact ⟨⟨fun _ => ⟨asked, documented, failed⟩, fun _ => five⟩, Or.inl five⟩
    · refine ⟨⟨fun five => ?_, ?_⟩, Or.inr exited⟩
      · rw [exited] at five
        cases five
      · rintro ⟨-, -, reason, failed⟩
        cases done.symm.trans failed

/-- A run leaves everything alone but the place of the document, and all of the
tree where a directory stands in that place. -/
theorem run_frame
    (accepted : CommandLine.parse surroundings.environment words = .ok invocation) :
    let report := run surroundings words
    (surroundings.tree.lookup (Path.output invocation.request.file) = some .directory →
      report.tree = surroundings.tree) ∧
    ∀ names, report.tree.spot? (Path.output invocation.request.file) ≠ some names →
      report.tree.get? names = surroundings.tree.get? names := by
  intro report
  by_cases nothing : page surroundings invocation = [] ∨ invocation.request.stdout = true
  · have kept : report.tree = surroundings.tree := (run_of_nothing_to_write accepted nothing).2
    exact ⟨fun _ => kept, fun names _ => by rw [kept]⟩
  · rw [not_or, Bool.not_eq_true] at nothing
    obtain ⟨documented, asked⟩ := nothing
    have documentable := page_ne_nil_iff.mp documented
    have left : report.tree = (writing surroundings invocation).2 :=
      (run_of_writing accepted documented asked).1
    rw [left]
    constructor
    · intro taken
      obtain ⟨reason, failed⟩ := documentable.write_directory taken
        (Text.toBytes (page surroundings invocation))
      exact congrArg Prod.snd failed
    · exact (documentable.write_output (Text.toBytes (page surroundings invocation))).1

/-! ## Two runs -/

/-- What a run prints is what the run without the option writes. -/
theorem printed_eq_written
    (accepted : CommandLine.parse surroundings.environment words = .ok invocation)
    (documented : page surroundings invocation ≠ [])
    (printing : invocation.request.stdout = true) :
    ∃ front back, words = front ++ CommandLine.stdoutOption :: back ∧
      CommandLine.parse surroundings.environment (front ++ back) = .ok invocation.writing ∧
      (run surroundings (front ++ back)).tree =
        (surroundings.tree.write (Path.output invocation.request.file)
          (Text.toBytes (run surroundings words).stdout)).2 ∧
      ((run surroundings (front ++ back)).exitCode = 5 ∧
        (∃ reason, (surroundings.tree.write (Path.output invocation.request.file)
          (Text.toBytes (run surroundings words).stdout)).1 = .error reason) ∨
      (run surroundings (front ++ back)).exitCode = 0 ∧
        (run surroundings (front ++ back)).tree.lookup (Path.output invocation.request.file) =
          some (.file (Text.toBytes (run surroundings words).stdout))) := by
  obtain ⟨-, printed, -⟩ := run_of_printing accepted documented printing
  obtain ⟨front, back, split, accepted'⟩ := CommandLine.parse_without accepted printing
  obtain ⟨left, ended⟩ := run_of_writing accepted' documented rfl
  refine ⟨front, back, split, accepted', ?_, ?_⟩
  · rw [left, printed, ← page_writing]
    rfl
  · rw [left, printed, ← page_writing]
    rcases ended with ⟨failed, five⟩ | ⟨done, exited⟩
    · exact Or.inl ⟨five, failed⟩
    · have documentable := page_ne_nil_iff.mp documented
      exact Or.inr ⟨exited, (documentable.write_output _).2 done⟩

/-- A run fails exactly if a page that is to be written cannot be.  It leaves the
tree alone where a directory stands in the place of the document, and everything
but that place otherwise.  What a run prints of a documentable file is what the
same command line without the option writes. -/
theorem run_modes_agree
    (accepted : CommandLine.parse surroundings.environment words = .ok invocation) :
    let tree := surroundings.tree
    let file := invocation.request.file
    let report := run surroundings words
    (report.exitCode = 5 ↔ invocation.request.stdout = false ∧ (tree.lookup file).isSome ∧
      page surroundings invocation ≠ [] ∧
      ∃ reason, (tree.write (Path.output file)
        (Text.toBytes (page surroundings invocation))).1 = .error reason) ∧
    (report.exitCode = 5 ∨ report.exitCode = 0) ∧
    (tree.lookup (Path.output file) = some .directory → report.tree = tree) ∧
    (∀ names, report.tree.spot? (Path.output file) ≠ some names →
      report.tree.get? names = tree.get? names) ∧
    (invocation.request.stdout = true → tree.Documentable file →
      report.tree = tree ∧
      ∃ front back, words = front ++ CommandLine.stdoutOption :: back ∧
        CommandLine.parse surroundings.environment (front ++ back) = .ok invocation.writing ∧
        let written := run surroundings (front ++ back)
        let attempt := tree.write (Path.output file) (Text.toBytes report.stdout)
        written.tree = attempt.2 ∧
        (written.exitCode = 5 ∧ (∃ reason, attempt.1 = .error reason) ∨
          written.exitCode = 0 ∧
          written.tree.lookup (Path.output file) = some (.file (Text.toBytes report.stdout)))) ∧
    (¬ tree.Documentable file → report.tree = tree) := by
  intro tree file report
  obtain ⟨failing, codes⟩ := exitCode_cases accepted
  obtain ⟨untouched, elsewhere⟩ := run_frame accepted
  refine ⟨failing.trans ?_, codes, untouched, elsewhere, ?_, ?_⟩
  · constructor
    · rintro ⟨asked, documented, failed⟩
      have documentable := page_ne_nil_iff.mp documented
      exact ⟨asked, documentable.isSome_lookup, documented, failed⟩
    · rintro ⟨asked, -, documented, failed⟩
      exact ⟨asked, documented, failed⟩
  · intro printing documentable
    have documented := page_ne_nil_iff.mpr documentable
    exact ⟨(run_of_nothing_to_write accepted (Or.inr printing)).2,
      printed_eq_written accepted documented printing⟩
  · intro undocumentable
    have undocumented := not_not.mp (mt page_ne_nil_iff.mp undocumentable)
    exact (run_of_undocumented accepted undocumented).2

/-- A working directory with a file in it, and a directory where its document
belongs. -/
def blockedTree : FileTree :=
  { Generator.oneFileTree with
    entries := (["d".toList, "a.py.md".toList], .directory) :: Generator.oneFileTree.entries }

/-- A tree in which no file can be opened for writing. -/
def guardedTree : FileTree :=
  { Generator.oneFileTree with
    limits := { Limits.none with
      writing? := fun _ => some "File name too long (os error 36)".toList } }

/-- A run without settings and without a script. -/
def plainly (tree : FileTree) : Surroundings :=
  { environment := .empty
    logging := none
    tree
    companion := fun _ _ _ => Generator.scriptlessCompanion }

/-- What a command line for the file of these trees is read as. -/
def invocationFor (stdout verbose : Bool) : CommandLine.Invocation :=
  { request := { file := "/d/a.py".toList, format := Generator.standardFormat, stdout }
    verbose
    program := Companion.standardProgram
    script := Companion.standardScript }

/-- Two runs that cannot write, one of them because of a directory, and one that
prints what the run without the option, which stands between the name of the file
and another option, writes. -/
theorem run_modes_agree_one_file :
    CommandLine.parse .empty ["generate-docs".toList, "/d/a.py".toList] =
      .ok (invocationFor false false) ∧
    (run (plainly guardedTree) ["generate-docs".toList, "/d/a.py".toList]).exitCode = 5 ∧
    (run (plainly blockedTree) ["generate-docs".toList, "/d/a.py".toList]).tree = blockedTree ∧
    CommandLine.parse .empty
        ["generate-docs".toList, "/d/a.py".toList, "--stdout".toList, "-v".toList] =
      .ok (invocationFor true true) ∧
    (run (plainly Generator.oneFileTree)
        ["generate-docs".toList, "/d/a.py".toList, "-v".toList]).tree.lookup "a.py.md".toList =
      some (.file (Text.toBytes (run (plainly Generator.oneFileTree)
        ["generate-docs".toList, "/d/a.py".toList, "--stdout".toList, "-v".toList]).stdout)) := by
  have writing : CommandLine.parse .empty ["generate-docs".toList, "/d/a.py".toList] =
      .ok (invocationFor false false) := rfl
  have printing : CommandLine.parse .empty
      ["generate-docs".toList, "/d/a.py".toList, "--stdout".toList, "-v".toList] =
      .ok (invocationFor true true) := rfl
  refine ⟨writing, ?_, ?_, printing, ?_⟩
  · have documentable : guardedTree.Documentable "/d/a.py".toList :=
      ⟨⟨.python, rfl⟩, [], rfl, rfl⟩
    have guarded : ∀ contents, ∃ reason,
        (guardedTree.write "/d/a.py.md".toList contents).1 = .error reason := fun _ => ⟨_, rfl⟩
    have agree := @run_modes_agree (plainly guardedTree) _ _ writing
    exact agree.1.mpr ⟨rfl, rfl, page_ne_nil_iff.mpr documentable, guarded _⟩
  · have agree := @run_modes_agree (plainly blockedTree) _ _ writing
    exact agree.2.2.1 rfl
  · have documentable : Generator.oneFileTree.Documentable "/d/a.py".toList :=
      ⟨⟨.python, rfl⟩, [], rfl, rfl⟩
    have agree := @run_modes_agree (plainly Generator.oneFileTree) _ _ printing
    obtain ⟨-, front, back, split, -, left, ⟨-, reason, failed⟩ | ⟨-, stored⟩⟩ :=
      agree.2.2.2.2.1 rfl documentable
    · cases failed
    · have parts : ["generate-docs".toList, "/d/a.py".toList] ++ "--stdout".toList ::
          ["-v".toList] = front ++ CommandLine.stdoutOption :: back := split
      obtain ⟨rfl, -, rfl⟩ := (List.append_cons_inj_of_notMem (by decide) (by decide)).mp parts
      rw [← stored, left]
      rfl

end Program

end Marginalia
