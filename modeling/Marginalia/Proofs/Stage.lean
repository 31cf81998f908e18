import Marginalia.Host
import Marginalia.Proofs.Clamp
import Marginalia.Proofs.Utf8
import Mathlib.Order.WellFounded

/-!
# The stages of a companion

Asking a companion about a file goes through stages, and each of them can fail
whatever comes of the others: a process may fail and have written an outline, and
what is no text may be written by a process that ends well.  Main statement: the
first stage that fails decides, and its failure tells which one it was.  If none
fails, the outline is the decoded one with its spans moved back into the file.
-/

namespace Marginalia

/-! ## Spans in a file -/

namespace Outline

/-- The spans lie in a file of a length, and none ends before it starts. -/
def Within (outline : Outline) (length : Nat) : Prop :=
  (∀ record ∈ outline.functions, record.start ≤ record.stop ∧ record.stop ≤ length) ∧
    ∀ record ∈ outline.classes, record.start ≤ record.stop ∧ record.stop ≤ length

theorem clampSpan_within (length start stop : Nat) :
    (clampSpan length start stop).1 ≤ (clampSpan length start stop).2 ∧
      (clampSpan length start stop).2 ≤ length :=
  ⟨Nat.min_le_right _ _, Nat.min_le_right _ _⟩

theorem clamped_within (outline : Outline) (length : Nat) :
    (outline.clamped length).Within length := by
  constructor
  · intro record member
    obtain ⟨source, -, rfl⟩ := List.mem_map.mp member
    exact clampSpan_within length source.start source.stop
  · intro record member
    obtain ⟨source, -, rfl⟩ := List.mem_map.mp member
    exact clampSpan_within length source.start source.stop

end Outline

namespace Companion

/-! ## Stages and their failures -/

/-- The stages of asking a companion about a file. -/
inductive Stage where
  | file
  | script
  | program
  | launch
  | status
  | encoding
  | decoding
  deriving DecidableEq

namespace Stage

/-- The place of a stage in their order. -/
def rank : Stage → Nat
  | .file => 0
  | .script => 1
  | .program => 2
  | .launch => 3
  | .status => 4
  | .encoding => 5
  | .decoding => 6

/-- A stage fails.  No stage asks what came of another one, except that a program
has to be started on something, and to end, before it can have written anything. -/
def Fails (view : View) (host : Host) (program script path : Text) : Stage → Prop
  | .file => ¬ ∃ contents, view.entry? path = some (.file contents)
  | .script => ¬ ∃ code, host.view.entry? script = some (.file code)
  | .program => host.resolves program = false
  | .launch => ∃ contents reason, view.entry? path = some (.file contents) ∧
      host.start program script contents = .error reason
  | .status => ∃ contents ending, view.entry? path = some (.file contents) ∧
      host.start program script contents = .ok ending ∧ ending.status ≠ .exited 0
  | .encoding => ∃ contents ending, view.entry? path = some (.file contents) ∧
      host.start program script contents = .ok ending ∧ ∀ text, ending.output ≠ Text.toBytes text
  | .decoding => ∃ contents ending text, view.entry? path = some (.file contents) ∧
      host.start program script contents = .ok ending ∧ ending.output = Text.toBytes text ∧
      Outline.ofJson? (Text.trim text) = none

/-- A stage fails and those in front of it do not. -/
def FailsFirst (view : View) (host : Host) (program script path : Text) (stage : Stage) : Prop :=
  stage.Fails view host program script path ∧
    ∀ earlier : Stage, earlier.rank < stage.rank → ¬ earlier.Fails view host program script path

/-- A failure is of the kind of a stage. -/
def Kind (path : Text) (failure : Failure) : Stage → Prop
  | .file => failure = .fileNotFound path
  | .script | .program => ∃ detail, failure = .companionNotFound detail
  | .launch | .status | .encoding | .decoding => ∃ detail, failure = .companionFailure detail

/-- How the message of a stage begins. -/
def heading : Stage → Text
  | .file => "File not found: ".toList
  | .script => Failure.message (.companionNotFound "Python script not found at ".toList)
  | .program => Failure.message (.companionNotFound "interpreter '".toList)
  | .launch => Failure.message (.companionFailure "Python process error: ".toList)
  | .status => Failure.message (.companionFailure "Python process exited with ".toList)
  | .encoding =>
    Failure.message (.companionFailure "Python process wrote non UTF-8 output: ".toList)
  | .decoding => Failure.message (.companionFailure "Malformed parser output".toList)

/-- A failure is that of a stage: it is of its kind, and its message says so. -/
def Reports (path : Text) (stage : Stage) (failure : Failure) : Prop :=
  stage.Kind path failure ∧ stage.heading <+: failure.message

theorem Kind.exitCode {path : Text} {failure : Failure} {stage : Stage}
    (kind : stage.Kind path failure) : failure.exitCode = if stage = .file then 2 else 4 := by
  cases stage with
  | file =>
      obtain rfl := kind
      rfl
  | _ =>
      obtain ⟨detail, rfl⟩ := kind
      rfl

theorem eq_of_heading_begins {first second : Stage} (begins : first.heading <+: second.heading) :
    first = second := by
  revert begins
  cases first <;> cases second <;> decide

/-- A failure tells of which stage it is. -/
theorem Reports.unique {path : Text} {failure : Failure} {first second : Stage}
    (one : first.Reports path failure) (other : second.Reports path failure) :
    first = second := by
  rcases List.prefix_or_prefix_of_prefix one.2 other.2 with shorter | shorter
  · exact eq_of_heading_begins shorter
  · exact (eq_of_heading_begins shorter).symm

/-- A failure whose report goes on behind that of a stage is that of the stage. -/
theorem reports_append (failure : Text → Failure) {lead report path : Text} {stage : Stage}
    (message : ∀ text, (failure text).message = lead ++ text)
    (begins : stage.heading = (failure report).message) (detail : Text)
    (kind : stage.Kind path (failure (report ++ detail))) :
    stage.Reports path (failure (report ++ detail)) := by
  refine ⟨kind, detail, ?_⟩
  rw [begins, message, message, List.append_assoc]

end Stage

end Companion

/-! ## What each stage hands on -/

section

variable {view : View} {host : Host} {program script path : Text} {contents code : Bytes}

theorem Generator.outline_of_file (companion : Companion)
    (stored : view.entry? path = some (.file contents)) :
    outline view companion .python path =
      (companion.outline (companion.respond contents)).map (·.clamped contents.length) := by
  simp only [outline, stored, Language.family]
  cases companion.outline (companion.respond contents) <;> rfl

theorem Generator.outline_of_no_file (companion : Companion) (language : Language)
    (missing : ¬ ∃ contents, view.entry? path = some (.file contents)) :
    outline view companion language path = .error (.fileNotFound path) := by
  rw [outline]
  split
  case h_1 contents stored => exact (missing ⟨contents, stored⟩).elim
  case h_2 => rfl

theorem Generator.outlineOrEmpty_of_ok {companion : Companion} {language : Language}
    {found : Outline} (succeeded : outline view companion language path = .ok found) :
    outlineOrEmpty view companion language path = found := by
  rw [outlineOrEmpty, succeeded]

theorem Generator.outlineOrEmpty_of_error {companion : Companion} {language : Language}
    {failure : Failure} (failed : outline view companion language path = .error failure) :
    outlineOrEmpty view companion language path = Outline.empty := by
  rw [outlineOrEmpty, failed]

namespace Host

theorem companion_respond :
    (host.companion program script).respond contents = host.respond program script contents :=
  rfl

theorem respond_of_no_script (missing : ¬ ∃ code, host.view.entry? script = some (.file code)) :
    (host.companion program script).respond contents = .noScript := by
  rw [companion_respond, respond]
  split
  case h_1 code found => exact (missing ⟨code, found⟩).elim
  case h_2 => rfl

theorem respond_of_script (found : host.view.entry? script = some (.file code)) :
    (host.companion program script).respond contents =
      if host.resolves program then .ofLaunch (host.start program script contents)
      else .noProgram := by
  rw [companion_respond, respond, found]

end Host

namespace Companion

theorem outline_of_status (companion : Companion) {ending : Ending}
    (failed : ending.status ≠ .exited 0) :
    ∃ detail, companion.outline (.ofLaunch (.ok ending)) =
      .error (.companionFailure ("Python process exited with ".toList ++ detail)) := by
  simp only [Response.ofLaunch, outline, bne_iff_ne, ne_eq, failed, not_false_eq_true, if_true,
    List.append_assoc]
  exact ⟨_, rfl⟩

theorem outline_of_no_text (companion : Companion) {ending : Ending}
    (succeeded : ending.status = .exited 0) (unread : ∀ text, ending.output ≠ Text.toBytes text) :
    ∃ detail, companion.outline (.ofLaunch (.ok ending)) =
      .error (.companionFailure
        ("Python process wrote non UTF-8 output: ".toList ++ detail)) := by
  cases found : Bytes.toText ending.output with
  | ok text => exact (unread text (Bytes.eq_toBytes_of_toTextFrom found)).elim
  | error fault =>
      refine ⟨fault.message, ?_⟩
      simp [Response.ofLaunch, outline, succeeded, found]

theorem outline_of_text (companion : Companion) {ending : Ending} {text : Text}
    (succeeded : ending.status = .exited 0) (written : ending.output = Text.toBytes text) :
    companion.outline (.ofLaunch (.ok ending)) = decode text := by
  have read : Bytes.toText (Text.toBytes text) = .ok text := Bytes.toTextFrom_toBytes 0 text
  simp [Response.ofLaunch, outline, succeeded, written, read]

namespace Stage

/-- Behind the first three stages, the outline is made of what came of starting
the program. -/
theorem outline_of_launch (scripted : ¬ Fails view host program script path .script)
    (resolved : ¬ Fails view host program script path .program)
    (stored : view.entry? path = some (.file contents)) :
    Generator.outline view (host.companion program script) .python path =
      ((host.companion program script).outline
        (.ofLaunch (host.start program script contents))).map (·.clamped contents.length) := by
  obtain ⟨code, found⟩ := not_not.mp scripted
  have known : host.resolves program = true := eq_true_of_ne_false resolved
  rw [Generator.outline_of_file _ stored, Host.respond_of_script found, if_pos known]

theorem status_of_passed {ending : Ending} (passed : ¬ Fails view host program script path .status)
    (stored : view.entry? path = some (.file contents))
    (ended : host.start program script contents = .ok ending) : ending.status = .exited 0 :=
  not_not.mp fun failed => passed ⟨contents, ending, stored, ended, failed⟩

/-- The stage that fails first decides on the failure. -/
theorem FailsFirst.reports {stage : Stage}
    (first : stage.FailsFirst view host program script path) :
    ∃ failure, Generator.outline view (host.companion program script) .python path =
      .error failure ∧ stage.Reports path failure := by
  obtain ⟨fails, passed⟩ := first
  cases stage with
  | file =>
      exact ⟨_, Generator.outline_of_no_file _ _ fails, rfl, path, rfl⟩
  | script =>
      obtain ⟨contents, stored⟩ := not_not.mp (passed .file (by decide))
      refine ⟨_, ?_, reports_append .companionNotFound (fun _ => rfl) rfl script ⟨_, rfl⟩⟩
      rw [Generator.outline_of_file _ stored, Host.respond_of_no_script fails]
      rfl
  | program =>
      obtain ⟨contents, stored⟩ := not_not.mp (passed .file (by decide))
      obtain ⟨code, found⟩ := not_not.mp (passed .script (by decide))
      refine ⟨_, ?_, reports_append .companionNotFound (fun _ => rfl) rfl
        (program ++ "' not found: cannot find binary path".toList) ⟨_, rfl⟩⟩
      rw [Generator.outline_of_file _ stored, Host.respond_of_script found,
        if_neg (Bool.eq_false_iff.mp fails)]
      simp only [Companion.outline, List.append_assoc]
      rfl
  | launch =>
      obtain ⟨contents, reason, stored, refused⟩ := fails
      refine ⟨_, ?_, reports_append .companionFailure (fun _ => rfl) rfl reason ⟨_, rfl⟩⟩
      rw [outline_of_launch (passed .script (by decide)) (passed .program (by decide)) stored,
        refused]
      rfl
  | status =>
      obtain ⟨contents, ending, stored, ended, failed⟩ := fails
      obtain ⟨detail, failure⟩ := outline_of_status (host.companion program script) failed
      refine ⟨_, ?_, reports_append .companionFailure (fun _ => rfl) rfl detail ⟨_, rfl⟩⟩
      rw [outline_of_launch (passed .script (by decide)) (passed .program (by decide)) stored,
        ended, failure]
      rfl
  | encoding =>
      obtain ⟨contents, ending, stored, ended, unread⟩ := fails
      have succeeded := status_of_passed (passed .status (by decide)) stored ended
      obtain ⟨detail, failure⟩ :=
        outline_of_no_text (host.companion program script) succeeded unread
      refine ⟨_, ?_, reports_append .companionFailure (fun _ => rfl) rfl detail ⟨_, rfl⟩⟩
      rw [outline_of_launch (passed .script (by decide)) (passed .program (by decide)) stored,
        ended, failure]
      rfl
  | decoding =>
      obtain ⟨contents, ending, text, stored, ended, written, malformed⟩ := fails
      have succeeded := status_of_passed (passed .status (by decide)) stored ended
      refine ⟨_, ?_, ⟨_, rfl⟩, List.prefix_rfl⟩
      rw [outline_of_launch (passed .script (by decide)) (passed .program (by decide)) stored,
        ended, outline_of_text _ succeeded written, decode, malformed]
      rfl

/-- Among stages that fail one fails first. -/
theorem exists_failsFirst {stage : Stage} (fails : stage.Fails view host program script path) :
    ∃ first : Stage, first.FailsFirst view host program script path := by
  obtain ⟨first, failsFirst, least⟩ := (measure rank).wf.has_min
    {stage : Stage | stage.Fails view host program script path} ⟨stage, fails⟩
  exact ⟨first, failsFirst, fun earlier before fails => least earlier fails before⟩

/-- If no stage fails, the outline is the decoded one. -/
theorem outline_of_passed
    (passed : ∀ stage : Stage, ¬ stage.Fails view host program script path) :
    ∃ contents ending text decoded, view.entry? path = some (.file contents) ∧
      host.start program script contents = .ok ending ∧ ending.status = .exited 0 ∧
      ending.output = Text.toBytes text ∧ Outline.ofJson? (Text.trim text) = some decoded ∧
      Generator.outline view (host.companion program script) .python path =
        .ok (decoded.clamped contents.length) := by
  obtain ⟨contents, stored⟩ := not_not.mp (passed .file)
  cases launched : host.start program script contents with
  | error reason => exact (passed .launch ⟨contents, reason, stored, launched⟩).elim
  | ok ending =>
      have succeeded := status_of_passed (passed .status) stored launched
      obtain ⟨text, written⟩ : ∃ text, ending.output = Text.toBytes text := by
        by_contra unread
        exact passed .encoding ⟨contents, ending, stored, launched, not_exists.mp unread⟩
      cases read : Outline.ofJson? (Text.trim text) with
      | none =>
          exact (passed .decoding ⟨contents, ending, text, stored, launched, written, read⟩).elim
      | some decoded =>
          refine ⟨contents, ending, text, decoded, stored, launched, succeeded, written, read, ?_⟩
          rw [outline_of_launch (passed .script) (passed .program) stored, launched,
            outline_of_text _ succeeded written, decode, read]
          rfl

/-- Every failure is that of the stage that fails first. -/
theorem failsFirst_of_error {failure : Failure}
    (failed : Generator.outline view (host.companion program script) .python path =
      .error failure) :
    ∃ first : Stage, first.FailsFirst view host program script path ∧
      first.Reports path failure := by
  by_cases fails : ∃ stage : Stage, stage.Fails view host program script path
  · obtain ⟨stage, fails⟩ := fails
    obtain ⟨first, failsFirst⟩ := exists_failsFirst fails
    obtain ⟨failure', failed', reports⟩ := failsFirst.reports
    cases failed.symm.trans failed'
    exact ⟨first, failsFirst, reports⟩
  · obtain ⟨contents, ending, text, decoded, -, -, -, -, -, succeeded⟩ :=
      outline_of_passed (not_exists.mp fails)
    cases failed.symm.trans succeeded

end Stage

end Companion

end

namespace Companion

/-- What comes of a Python file is decided by the first stage that fails, and the
failure tells which one it is.  Without any, the outline is the decoded one, and
its spans lie in the file.  The view that holds the file may be that of the host. -/
theorem outline_by_first_failure (view : View) (host : Host) (program script path : Text) :
    let companion := host.companion program script
    let result := Generator.outline view companion .python path
    let shown := Generator.outlineOrEmpty view companion .python path
    (∀ stage : Stage, stage.FailsFirst view host program script path ↔
      ∃ failure, result = .error failure ∧ stage.Reports path failure) ∧
    (∀ failure, result = .error failure → shown = Outline.empty ∧
      ∃ stage : Stage, stage.FailsFirst view host program script path ∧
        failure.exitCode = if stage = .file then 2 else 4) ∧
    ((∀ stage : Stage, ¬ stage.Fails view host program script path) →
      ∃ contents ending text decoded, view.entry? path = some (.file contents) ∧
        host.start program script contents = .ok ending ∧ ending.status = .exited 0 ∧
        ending.output = Text.toBytes text ∧ Outline.ofJson? (Text.trim text) = some decoded ∧
        ∃ outline, result = .ok outline ∧ shown = outline ∧
          outline = decoded.clamped contents.length ∧
          (outline.functions.map fun record => (record.name, record.params)) =
            (decoded.functions.map fun record => (record.name, record.params)) ∧
          (outline.classes.map fun record => record.name) =
            (decoded.classes.map fun record => record.name) ∧
          outline.Within contents.length) := by
  intro companion result shown
  refine ⟨fun stage => ⟨Stage.FailsFirst.reports, ?_⟩, ?_, ?_⟩
  · rintro ⟨failure, failed, reports⟩
    obtain ⟨first, failsFirst, reports'⟩ := Stage.failsFirst_of_error failed
    rwa [reports.unique reports']
  · intro failure failed
    obtain ⟨first, failsFirst, reports⟩ := Stage.failsFirst_of_error failed
    refine ⟨?_, first, failsFirst, reports.1.exitCode⟩
    exact Generator.outlineOrEmpty_of_error failed
  · intro passed
    obtain ⟨contents, ending, text, decoded, stored, ended, status, written, read, succeeded⟩ :=
      Stage.outline_of_passed passed
    exact ⟨contents, ending, text, decoded, stored, ended, status, written, read,
      decoded.clamped contents.length, succeeded, Generator.outlineOrEmpty_of_ok succeeded, rfl,
      decoded.functions_clamped _, decoded.classes_clamped _, decoded.clamped_within _⟩

/-- An outline with a function that goes on behind the end of its file. -/
def boast : Text :=
  " \x7b\"functions\":[\x7b\"name\":\"f\",\"params\":[],\"start\":1,\"end\":9\x7d],".toList ++
    "\"classes\":[]\x7d".toList

/-- A host whose programs write this outline, whatever their status is. -/
def boastful (status : Status) : Host :=
  { view := { entry? := fun path => some (.file path.toBytes), barrier? := fun _ => none }
    resolves := fun _ => true
    start := fun _ _ _ => .ok { status, output := Text.toBytes boast, errors := [] } }

theorem outline_by_first_failure_boastful :
    let result (status : Status) := Generator.outline (boastful status).view
      ((boastful status).companion "python3".toList "parser".toList) .python "m.py".toList
    (∃ failure, result (.exited 3) = .error failure ∧
      Stage.Reports "m.py".toList .status failure) ∧
    result (.exited 0) = .ok { functions := [⟨['f'], [], 1, 4⟩], classes := [] } := by
  have read {text : Text} (written : Text.toBytes boast = Text.toBytes text) :
      Outline.ofJson? (Text.trim text) =
        some { functions := [⟨['f'], [], 1, 9⟩], classes := [] } := by
    rw [← Bytes.toBytes_injective written]
    decide +kernel
  constructor
  · apply ((outline_by_first_failure _ (boastful (.exited 3)) _ _ _).1 .status).mp
    refine ⟨⟨_, _, rfl, rfl, by decide⟩, fun earlier before => ?_⟩
    cases earlier with
    | file => exact not_not.mpr ⟨_, rfl⟩
    | script => exact not_not.mpr ⟨_, rfl⟩
    | program => exact Bool.noConfusion
    | launch =>
        rintro ⟨contents, reason, -, refused⟩
        cases refused
    | _ => exact absurd before (by decide)
  · have passed (stage : Stage) :
        ¬ stage.Fails (boastful (.exited 0)).view (boastful (.exited 0)) "python3".toList
          "parser".toList "m.py".toList := by
      cases stage with
      | file => exact not_not.mpr ⟨_, rfl⟩
      | script => exact not_not.mpr ⟨_, rfl⟩
      | program => exact Bool.noConfusion
      | launch =>
          rintro ⟨contents, reason, -, refused⟩
          cases refused
      | status =>
          rintro ⟨contents, ending, -, ended, failed⟩
          cases ended
          exact failed rfl
      | encoding =>
          rintro ⟨contents, ending, -, ended, unread⟩
          cases ended
          exact unread boast rfl
      | decoding =>
          rintro ⟨contents, ending, text, -, ended, written, malformed⟩
          cases ended
          cases (read written).symm.trans malformed
    obtain ⟨contents, ending, text, decoded, stored, ended, -, written, decodes, outline, succeeded,
      -, rfl, -⟩ := (outline_by_first_failure _ _ _ _ _).2.2 passed
    cases stored
    cases ended
    cases (read written).symm.trans decodes
    exact succeeded

end Companion

end Marginalia
