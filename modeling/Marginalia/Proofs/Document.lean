import Marginalia.Generator
import Marginalia.Proofs.FileTree
import Marginalia.Proofs.Utf8

/-!
# What is documented, and what a failed parse takes away

A file is documented exactly if its path has the extension of a language and a
text can be read there.  Main statement: every failure to parse such a file
costs its functions and classes only; the page without them is what the page of
the file begins with.
-/

namespace Marginalia

namespace Page

/-- Every page has a title. -/
theorem render_ne_nil (fileName source : Text) (family : Family) (outline : Outline) :
    render fileName source family outline ≠ [] := by
  unfold render text
  intro empty
  simp only [List.append_eq_nil_iff] at empty
  obtain ⟨⟨⟨⟨⟨⟨heading, -⟩, -⟩, -⟩, -⟩, -⟩, -⟩ := empty
  exact absurd heading (by decide)

@[simp] theorem chapter_nil (title : String) : chapter title [] = [] := by
  rw [chapter, List.isEmpty_nil, if_pos rfl]

/-- Functions and classes come behind everything else. -/
theorem render_empty_prefix (fileName source : Text) (family : Family) (outline : Outline) :
    render fileName source family Outline.empty <+: render fileName source family outline := by
  unfold render text Page.of Outline.empty
  simp only [List.map_nil, List.flatMap_nil, chapter_nil, List.append_nil]
  rw [List.append_assoc _ (chapter "Functions" _)]
  exact List.prefix_append _ _

end Page

/-- A file that can be read holds the bytes of a text. -/
def View.Holds (view : View) (path source : Text) : Prop :=
  view.barrier? path = none ∧ view.entry? path = some (.file (Text.toBytes source))

/-- A text is read exactly from a file that can be read, with the bytes of that
text. -/
theorem View.read_eq_ok_iff {view : View} {path source : Text} :
    view.read path = .ok source ↔ view.Holds path source := by
  simp only [View.read, View.Holds]
  cases view.barrier? path with
  | some reason => simp
  | none =>
      cases view.entry? path with
      | none => simp
      | some entry =>
          cases entry with
          | directory => simp
          | file contents =>
              simp only [Option.some.injEq, Entry.file.injEq, ← Bytes.toText?_eq_some_iff]
              cases Bytes.toText? contents <;> simp

namespace Generator

/-- The title of a page is the name of its file. -/
theorem fileName?_of_supports {path : Text} (supported : Language.Supports path) :
    Path.fileName? path = some (title path) := by
  obtain ⟨language, supported⟩ := supported
  cases named : Path.fileName? path with
  | none => simp [Language.ofPath, Path.extension?, named] at supported
  | some name => simp [title, named]

/-- The page of a file that is documented. -/
theorem document_eq_render {view : View} (companion : Companion) {path source : Text}
    {language : Language} (supported : Language.ofPath path = .ok language)
    (stored : view.Holds path source) :
    document view companion path =
      Page.render (title path) source language.family
        ((outlineOrEmpty view companion language path).clamped source.byteLength) := by
  simp only [document, supported, View.read_eq_ok_iff.mpr stored]

/-- A file has no page exactly if its path has no extension of a language or no
text can be read there. -/
theorem document_eq_nil_iff {view : View} {companion : Companion} {path : Text} :
    document view companion path = [] ↔
      ¬ Language.Supports path ∨ ∀ source, ¬ view.Holds path source := by
  constructor
  · intro empty
    by_cases supported : Language.Supports path
    · right
      intro source stored
      obtain ⟨language, supported⟩ := supported
      rw [document_eq_render companion supported stored] at empty
      exact Page.render_ne_nil _ _ _ _ empty
    · exact Or.inl supported
  · intro undocumented
    simp only [document]
    cases supported : Language.ofPath path with
    | error failure => rfl
    | ok language =>
        cases stored : view.read path with
        | error reason => rfl
        | ok source =>
            rcases undocumented with unsupported | unreadable
            · exact (unsupported ⟨language, supported⟩).elim
            · exact (unreadable source (View.read_eq_ok_iff.mp stored)).elim

/-- Only a file with the extension of a language has a page. -/
theorem supports_of_document {view : View} {companion : Companion} {path : Text}
    (documented : document view companion path ≠ []) :
    Language.Supports path ∧ ∃ contents, view.entry? path = some (.file contents) := by
  rw [ne_eq, document_eq_nil_iff] at documented
  simp only [not_or, not_not, not_forall] at documented
  obtain ⟨supported, source, -, stored⟩ := documented
  exact ⟨supported, _, stored⟩

theorem clamped_empty (length : Nat) : Outline.empty.clamped length = Outline.empty := rfl

/-- A file has no page exactly if its path has no extension of a language or no
text can be read there.  Every other file has the page of its outline, or
the page of an empty outline where parsing failed, whatever the failure; the
latter is what the former begins with.  Whatever the format, the page is what a
request for the file delivers. -/
theorem document_total (view : View) (companion : Companion) (path : Text) :
    (document view companion path = [] ↔
      ¬ Language.Supports path ∨ ∀ source, ¬ view.Holds path source) ∧
    ∀ language source, Language.ofPath path = .ok language →
      view.Holds path source →
      ∃ name, Path.fileName? path = some name ∧
        (∀ found, outline view companion language path = .ok found →
          document view companion path =
            Page.render name source language.family (found.clamped source.byteLength)) ∧
        (∀ failure, outline view companion language path = .error failure →
          document view companion path =
            Page.render name source language.family Outline.empty) ∧
        Page.render name source language.family Outline.empty <+:
          document view companion path ∧
        ∀ format stdout, plan view companion { file := path, format, stdout } =
          if stdout then .print (document view companion path)
          else .write (Path.output path) (document view companion path) := by
  refine ⟨document_eq_nil_iff, ?_⟩
  intro language source supported stored
  have page := document_eq_render companion supported stored
  refine ⟨title path, fileName?_of_supports ⟨language, supported⟩, ?_, ?_, ?_, ?_⟩
  · intro found parsed
    rw [page, outlineOrEmpty, parsed]
  · intro failure failed
    rw [page, outlineOrEmpty, failed]
    exact congrArg _ (clamped_empty _)
  · rw [page]
    exact Page.render_empty_prefix _ _ _ _
  · intro format stdout
    have documented : document view companion path ≠ [] := by
      rw [page]
      exact Page.render_ne_nil _ _ _ _
    simp [plan, stored.2, documented]

/-- A view that finds the same text everywhere. -/
def textView (source : Text) : View :=
  { entry? := fun _ => some (.file (Text.toBytes source)), barrier? := fun _ => none }

/-- A file whose companion was killed. -/
theorem document_total_killed :
    Language.ofPath "d/a.py".toList = .ok .python ∧
    document (textView "# é\n".toList)
        { program := [], script := [], respond := fun _ => .finished (.killed 9) [] [] }
        "d/a.py".toList =
      Page.render "a.py".toList "# é\n".toList .python Outline.empty := by
  refine ⟨rfl, ?_⟩
  obtain ⟨name, named, -, failed, -⟩ := (document_total (textView "# é\n".toList)
    { program := [], script := [], respond := fun _ => .finished (.killed 9) [] [] }
    "d/a.py".toList).2 .python "# é\n".toList rfl ⟨rfl, rfl⟩
  obtain rfl : "a.py".toList = name := Option.some.inj named
  exact failed _ rfl

end Generator

end Marginalia
