import Marginalia.Proofs.Document
import Mathlib.Tactic.Tauto

/-!
# Requests one after another

A request writes at most one file, the document of a file that has the extension
of a language.  No document has such an extension, so that no request changes
what another one reads.  Main statement: requests leave everything but the
documents alone, each comes out as if it were the only one, and what they leave
behind depends neither on their order nor on how often each is made.
-/

namespace Marginalia.Generator

open FileTree (Annotated IsDocument Leads)

/-! ## Plans -/

section

variable {companion : Companion} {tree : FileTree} {request : Request}

theorem run_of_write {path page : Text}
    (planned : plan tree.view companion request = .write path page) :
    run companion tree request =
      (Outcome.ofWriting path (tree.write path (Text.toBytes page)).1,
        (tree.write path (Text.toBytes page)).2) := by
  rw [run, planned]
  rfl

theorem run_undocumented (undocumented : document tree.view companion request.file = []) :
    run companion tree request = (.ok .missing, tree) ∨
      run companion tree request = (.ok .unsupported, tree) := by
  cases found : tree.view.entry? request.file with
  | none =>
      left
      simp only [run, plan, found]
      rfl
  | some entry =>
      right
      simp only [run, plan, found, undocumented]
      rfl

theorem run_printed (documented : document tree.view companion request.file ≠ [])
    (printing : request.stdout = true) :
    run companion tree request =
      (.ok (.printed (document tree.view companion request.file)), tree) := by
  obtain ⟨-, contents, found⟩ := supports_of_document documented
  have planned : plan tree.view companion request =
      .print (document tree.view companion request.file) := by
    simp [plan, found, documented, printing]
  rw [run, planned]
  rfl

/-- A request to write a page comes out as the writing does. -/
theorem run_writing (documented : document tree.view companion request.file ≠ [])
    (writing : request.stdout = false) :
    run companion tree request =
      (Outcome.ofWriting (Path.output request.file)
        (tree.write (Path.output request.file)
          (Text.toBytes (document tree.view companion request.file))).1,
        (tree.write (Path.output request.file)
          (Text.toBytes (document tree.view companion request.file))).2) := by
  obtain ⟨-, contents, found⟩ := supports_of_document documented
  apply run_of_write
  simp [plan, found, documented, writing]

end

/-! ## What a request stores -/

/-- The place of the document of the file `last` in the directory `parent`. -/
def documentPlace (parent : List Text) (last : Text) : List Text :=
  parent ++ [last ++ Path.documentEnding]

/-- A request opens the document of the file `last` in the directory `parent`. -/
structure Stores (companion : Companion) (tree : FileTree) (request : Request)
    (parent : List Text) (last : Text) : Prop where
  leads : tree.Leads request.file parent last
  documented : document tree.view companion request.file ≠ []
  asked : request.stdout = false
  opened : tree.open? (Path.output request.file) = .ok (documentPlace parent last)

/-- The place of a document is not that of a directory. -/
theorem Stores.free {companion : Companion} {tree : FileTree} {request : Request}
    {parent : List Text} {last : Text} (stores : Stores companion tree request parent last) :
    tree.get? (documentPlace parent last) ≠ some .directory :=
  (stores.leads.output.open?_eq_ok_iff.mp stores.opened).2.2.1

/-- A working directory with one file in it. -/
def oneFileTree : FileTree :=
  { entries := [(["d".toList], .directory), (["d".toList, "a.py".toList], .file [])]
    workingDirectory := ["d".toList]
    limits := .none }

/-- A companion without a script. -/
def scriptlessCompanion : Companion :=
  { program := [], script := [], respond := fun _ => .noScript }

end Marginalia.Generator
