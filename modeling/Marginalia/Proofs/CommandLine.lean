import Marginalia.CommandLine
import Marginalia.Proofs.Text

/-!
# A command line without one of its options

One option decides between printing a page and writing it.  A value in front of the
option is complete as soon as the option is read, and without the option only where
the next word is read.  So the two command lines do not pass through the same
readings, and the ones without the option trail behind the others until the next
word.  Main statement: a command line that asks for printing holds the option, and
without the option it is read as before and asks for writing.
-/

namespace Marginalia.CommandLine

theorem bind_eq_ok {α β : Type} {first : Except Refusal α} {next : α → Except Refusal β}
    {result : β} :
    (first >>= next) = .ok result ↔ ∃ value, first = .ok value ∧ next value = .ok result := by
  cases first <;> simp [bind, Except.bind]

namespace Reading

/-! ## Where printing is noted -/

theorem set_fields (reading : Reading) (slot : Slot) (value : Text) :
    (reading.set slot value).stdout = reading.stdout ∧
      (reading.set slot value).pending = reading.pending := by
  cases slot <;> exact ⟨rfl, rfl⟩

theorem accept_eq_ok {reading final : Reading} {slot : Slot} {value : Text} :
    reading.accept slot value = .ok final ↔
      reading.get? slot = none ∧ fits slot value = true ∧ final = reading.set slot value := by
  rw [accept]
  cases reading.get? slot <;> cases fits slot value <;> simp [eq_comm]

/-- A value is taken up unless the next word is to be it. -/
theorem settle_eq_ok {reading final : Reading} :
    reading.settle = .ok final ↔
      reading.pending = none ∧ final = reading ∨
      ∃ slot value, reading.pending = some (slot, some value) ∧
        Reading.accept { reading with pending := none } slot value = .ok final := by
  rw [settle]
  split
  case h_1 nothing => simp [nothing, eq_comm]
  case h_2 awaiting => simp [awaiting]
  case h_3 waiting => simp [waiting]

theorem settle_fields {reading final : Reading} (settled : reading.settle = .ok final) :
    final.stdout = reading.stdout ∧ final.pending = none := by
  rcases settle_eq_ok.mp settled with ⟨nothing, rfl⟩ | ⟨slot, value, -, accepted⟩
  · exact ⟨rfl, nothing⟩
  · obtain ⟨-, -, rfl⟩ := accept_eq_ok.mp accepted
    exact set_fields _ slot value

theorem give_stdout {reading final : Reading} {slot : Slot} {value : Text}
    (given : reading.give slot value = .ok final) : final.stdout = reading.stdout := by
  obtain ⟨settled, first, accepted⟩ := bind_eq_ok.mp given
  obtain ⟨-, -, rfl⟩ := accept_eq_ok.mp accepted
  rw [(set_fields settled slot value).1, (settle_fields first).1]

theorem turn_stdout {reading final : Reading} {switch : Switch} (other : switch ≠ .stdout)
    (turned : reading.turn switch = .ok final) : final.stdout = reading.stdout := by
  obtain ⟨settled, first, turned⟩ := bind_eq_ok.mp turned
  rw [← (settle_fields first).1]
  cases switch with
  | help => cases turned
  | version => cases turned
  | stdout => exact absurd rfl other
  | value slot =>
      cases turned
      rfl
  | verbose =>
      simp only at turned
      split at turned
      · cases turned
      · cases turned
        rfl

theorem readFile_stdout {reading final : Reading} {word : Text}
    (read : reading.readFile word = .ok final) : final.stdout = reading.stdout := by
  rw [readFile] at read
  split at read
  · cases read
  · obtain ⟨settled, first, rest⟩ := bind_eq_ok.mp read
    cases rest
    exact (settle_fields first).1

end Reading

theorem Level.short?_ne_stdout (level : Level) (letter : Char) :
    level.short? letter ≠ some .stdout := by
  unfold Level.short?
  split <;> simp

theorem Level.long?_eq_stdout {level : Level} {name : Text}
    (known : level.long? name = some .stdout) : name = "stdout".toList := by
  unfold Level.long? at known
  split at known
  case h_7 _ spelled =>
    have back : (String.ofList name).toList = name := String.toList_ofList
    rw [← back, spelled]
  all_goals simp at known

namespace Reading

/-- A word with no value attached is all name. -/
theorem eq_upTo_of_unattached {word : Text}
    (unattached : Text.after? (word.drop (word.upTo '=').length) ['='] = none) :
    word = word.upTo '=' := by
  have whole : word.upTo '=' ++ word.dropWhile (· != '=') = word :=
    List.takeWhile_append_dropWhile
  have cut := congrArg (List.drop (word.upTo '=').length) whole
  rw [← cut, List.drop_left] at unattached
  cases rest : word.dropWhile (· != '=') with
  | nil =>
      rw [rest, List.append_nil] at whole
      exact whole.symm
  | cons c more =>
      have stopped := List.head_dropWhile_not (p := (· != '=')) (l := word) (by simp [rest])
      have equals : c = '=' := by simpa [rest] using stopped
      have attached : Text.after? ('=' :: more) ['='] = some more := Text.after?_eq_some.mpr rfl
      rw [rest, equals, attached] at unattached
      cases unattached

/-- What a long option does to a reading. -/
theorem readLong_cases (level : Level) (word : Text) :
    (∃ refusal, ∀ reading, readLong level reading word = .error refusal) ∨
    (∃ slot value, ∀ reading, readLong level reading word = reading.give slot value) ∨
    ∃ switch, (switch = .stdout → word = "stdout".toList) ∧
      ∀ reading, readLong level reading word = reading.turn switch := by
  simp only [readLong]
  cases known : level.long? (word.upTo '=') with
  | none => exact Or.inl ⟨.unknownArgument, fun _ => rfl⟩
  | some switch =>
      cases attached : Text.after? (word.drop (word.upTo '=').length) ['='] with
      | none =>
          refine Or.inr (Or.inr ⟨switch, ?_, fun _ => by cases switch <;> rfl⟩)
          rintro rfl
          exact (eq_upTo_of_unattached attached).trans (Level.long?_eq_stdout known)
      | some value =>
          cases switch with
          | value slot => exact Or.inr (Or.inl ⟨slot, value, fun _ => rfl⟩)
          | help | version | verbose | stdout => exact Or.inl ⟨.surplusValue, fun _ => rfl⟩

/-- What the first letter behind a dash does to a reading. -/
theorem readShort_cases (level : Level) (letter : Char) (rest : Text) :
    (∃ refusal, ∀ reading, readShort level reading (letter :: rest) = .error refusal) ∨
    (∃ slot value, ∀ reading,
      readShort level reading (letter :: rest) = reading.give slot value) ∨
    ∃ switch, switch ≠ .stdout ∧ ∀ reading, readShort level reading (letter :: rest) =
      (reading.turn switch >>= fun next => readShort level next rest) := by
  cases known : level.short? letter with
  | none =>
      refine Or.inl ⟨.unknownArgument, fun reading => ?_⟩
      simp [readShort.eq_def, known]
  | some switch =>
      have other : switch ≠ .stdout := by
        rintro rfl
        exact level.short?_ne_stdout letter known
      have turning : (∀ slot, switch ≠ .value slot) ∨ rest = [] → ∀ reading,
          readShort level reading (letter :: rest) =
            (reading.turn switch >>= fun next => readShort level next rest) := by
        intro alone reading
        rw [readShort.eq_def]
        simp only
        split
        case h_1 unknown =>
          rw [known] at unknown
          cases unknown
        case h_2 found =>
          cases known.symm.trans found
          simp at alone
        case h_3 found =>
          cases known.symm.trans found
          simp at alone
        case h_4 found _ _ =>
          cases known.symm.trans found
          cases reading.turn switch <;> rfl
      cases switch with
      | help | version | verbose | stdout =>
          exact Or.inr (Or.inr ⟨_, other, turning (Or.inl (by simp))⟩)
      | value slot =>
          cases rest with
          | nil => exact Or.inr (Or.inr ⟨_, other, turning (Or.inr rfl)⟩)
          | cons first more =>
              by_cases equals : first = '='
              · refine Or.inr (Or.inl ⟨slot, more, fun reading => ?_⟩)
                simp [readShort.eq_def, known, equals]
              · refine Or.inr (Or.inl ⟨slot, first :: more, fun reading => ?_⟩)
                simp [readShort.eq_def, known]

theorem readShort_stdout {level : Level} {reading final : Reading} {letters : Text}
    (read : reading.readShort level letters = .ok final) : final.stdout = reading.stdout := by
  induction letters generalizing reading with
  | nil =>
      cases read
      rfl
  | cons letter rest ih =>
      rcases readShort_cases level letter rest with
        ⟨refusal, refused⟩ | ⟨slot, value, given⟩ | ⟨switch, other, turned⟩
      · rw [refused] at read
        cases read
      · rw [given] at read
        exact give_stdout read
      · rw [turned] at read
        obtain ⟨next, first, read⟩ := bind_eq_ok.mp read
        rw [ih read, turn_stdout other first]

end Reading

/-! ## Words of the command -/

namespace Reading

/-- Read a word that is no option: the value that is awaited, or else the name of
a file. -/
def readPlain (reading : Reading) (word : Text) : Except Refusal Reading :=
  match reading.pending with
  | some (slot, none) => .ok { reading with pending := some (slot, some word) }
  | _ => reading.readFile word

theorem readPlain_of_ready {reading : Reading} (ready : reading.awaits = false) (word : Text) :
    reading.readPlain word = reading.readFile word := by
  rw [readPlain]
  split
  case h_1 waiting => simp [awaits, waiting] at ready
  case h_2 => rfl

/-- Read one word of the command that is no divider. -/
def readWord (reading : Reading) (word : Text) : Except Refusal Reading :=
  match Word.of word with
  | .divider => .ok reading
  | .long name => reading.readLong .command name
  | .short letters => reading.readShort .command letters
  | .plain => reading.readPlain word

end Reading

theorem readCommand_cons {word : Text} (undivided : Word.of word ≠ .divider) (reading : Reading)
    (rest : List Text) :
    readCommand reading (word :: rest) =
      (reading.readWord word >>= fun next => readCommand next rest) := by
  rw [readCommand.eq_def, Reading.readWord]
  cases form : Word.of word with
  | divider => exact absurd form undivided
  | long name => simp only [form]
  | short letters => simp only [form]
  | plain =>
      simp only [form, Reading.readPlain]
      cases waiting : reading.pending with
      | none => rfl
      | some pending =>
          obtain ⟨slot, value⟩ := pending
          cases value <;> rfl

theorem readCommand_divider {word : Text} (divider : Word.of word = .divider) (reading : Reading)
    (rest : List Text) : readCommand reading (word :: rest) = readFiles reading rest := by
  rw [readCommand.eq_def]
  simp only [divider]

theorem readFiles_stdout {reading final : Reading} {words : List Text}
    (read : readFiles reading words = .ok final) : final.stdout = reading.stdout := by
  induction words generalizing reading with
  | nil =>
      cases read
      rfl
  | cons word rest ih =>
      obtain ⟨next, first, rest⟩ := bind_eq_ok.mp read
      rw [ih rest, Reading.readFile_stdout first]

/-! ## Readings without the option -/

namespace Reading

/-- The reading with nothing to print. -/
def unprinted (reading : Reading) : Reading :=
  { reading with stdout := false }

theorem get?_unprinted (reading : Reading) (slot : Slot) :
    reading.unprinted.get? slot = reading.get? slot := by
  cases slot <;> rfl

theorem set_unprinted (reading : Reading) (slot : Slot) (value : Text) :
    reading.unprinted.set slot value = (reading.set slot value).unprinted := by
  cases slot <;> rfl

theorem accept_unprinted {reading final : Reading} {slot : Slot} {value : Text}
    (accepted : reading.accept slot value = .ok final) :
    reading.unprinted.accept slot value = .ok final.unprinted := by
  obtain ⟨free, fit, rfl⟩ := accept_eq_ok.mp accepted
  rw [accept_eq_ok, get?_unprinted, set_unprinted]
  exact ⟨free, fit, rfl⟩

theorem settle_unprinted {reading final : Reading} (settled : reading.settle = .ok final) :
    reading.unprinted.settle = .ok final.unprinted := by
  rw [settle_eq_ok] at settled ⊢
  rcases settled with ⟨nothing, rfl⟩ | ⟨slot, value, waiting, accepted⟩
  · exact Or.inl ⟨nothing, rfl⟩
  · exact Or.inr ⟨slot, value, waiting, accept_unprinted accepted⟩

/-- `other` was read like `reading`, where the option to print was left out: all
else is the same, at the latest when a pending value is taken up. -/
structure Trails (other reading : Reading) : Prop where
  printed : reading.stdout = true
  same : other = reading.unprinted ∨
    reading.pending = none ∧ other.settle = .ok reading.unprinted

/-- What is read without the option trails what is read with it. -/
def Follows (others readings : Except Refusal Reading) : Prop :=
  ∀ reading, readings = .ok reading → ∃ other, others = .ok other ∧ other.Trails reading

theorem Follows.bind {others readings : Except Refusal Reading}
    {next : Reading → Except Refusal Reading} (follows : Follows others readings)
    (goOn : ∀ other reading, other.Trails reading → Follows (next other) (next reading)) :
    Follows (others >>= next) (readings >>= next) := by
  intro final read
  obtain ⟨reading, first, rest⟩ := bind_eq_ok.mp read
  obtain ⟨other, first', trails⟩ := follows reading first
  obtain ⟨final', rest', trails'⟩ := goOn other reading trails final rest
  exact ⟨final', bind_eq_ok.mpr ⟨other, first', rest'⟩, trails'⟩

theorem Follows.refused {others : Except Refusal Reading} (refusal : Refusal) :
    Follows others (.error refusal) := by
  intro final read
  cases read

namespace Trails

variable {other reading : Reading}

theorem follows (trails : other.Trails reading) : Follows (.ok other) (.ok reading) := by
  rintro _ ⟨⟩
  exact ⟨other, rfl, trails⟩

/-- Taking up a pending value, the readings meet. -/
theorem settle (trails : other.Trails reading) {final : Reading}
    (settled : reading.settle = .ok final) :
    final.stdout = true ∧ other.settle = .ok final.unprinted := by
  refine ⟨(settle_fields settled).1.trans trails.printed, ?_⟩
  rcases trails.same with rfl | ⟨nothing, met⟩
  · exact settle_unprinted settled
  · rcases settle_eq_ok.mp settled with ⟨-, rfl⟩ | ⟨slot, value, waiting, -⟩
    · exact met
    · rw [nothing] at waiting
      cases waiting

theorem hasFile_eq (trails : other.Trails reading) : other.hasFile = reading.hasFile := by
  rcases trails.same with rfl | ⟨nothing, met⟩
  · rfl
  · have file_eq : reading.unprinted.file = reading.file := rfl
    rcases settle_eq_ok.mp met with ⟨nothing', same⟩ | ⟨slot, value, waiting, accepted⟩
    · rw [hasFile, hasFile, nothing, nothing', ← file_eq, same]
    · obtain ⟨-, -, same⟩ := accept_eq_ok.mp accepted
      rw [hasFile, hasFile, nothing, waiting, ← file_eq, same]
      cases slot <;> simp [set]

/-- Only readings that have met await a value. -/
theorem awaits_cases (trails : other.Trails reading) :
    (∃ slot, reading.pending = some (slot, none) ∧ other = reading.unprinted) ∨
      reading.awaits = false ∧ other.awaits = false := by
  rcases trails.same with rfl | ⟨nothing, met⟩
  · cases waiting : reading.pending with
    | none => exact Or.inr ⟨by simp [awaits, waiting], by simp [awaits, unprinted, waiting]⟩
    | some value =>
        obtain ⟨slot, value⟩ := value
        cases value with
        | none => exact Or.inl ⟨slot, rfl, rfl⟩
        | some word =>
            exact Or.inr ⟨by simp [awaits, waiting], by simp [awaits, unprinted, waiting]⟩
  · refine Or.inr ⟨by simp [awaits, nothing], ?_⟩
    rcases settle_eq_ok.mp met with ⟨nothing', -⟩ | ⟨slot, value, waiting, -⟩
    · simp [awaits, nothing']
    · simp [awaits, waiting]

theorem turn (trails : other.Trails reading) (switch : Switch) :
    Follows (other.turn switch) (reading.turn switch) := by
  intro final turned
  obtain ⟨settled, first, turned⟩ := bind_eq_ok.mp turned
  obtain ⟨printed, met⟩ := trails.settle first
  cases switch with
  | help => cases turned
  | version => cases turned
  | stdout => simp [printed] at turned
  | value slot =>
      cases turned
      exact ⟨_, bind_eq_ok.mpr ⟨_, met, rfl⟩, printed, Or.inl rfl⟩
  | verbose =>
      simp only at turned
      split at turned
      · cases turned
      case isFalse first =>
        cases turned
        exact ⟨_, bind_eq_ok.mpr ⟨_, met, if_neg first⟩, printed, Or.inl rfl⟩

theorem give (trails : other.Trails reading) (slot : Slot) (value : Text) :
    Follows (other.give slot value) (reading.give slot value) := by
  intro final given
  have kept := give_stdout given
  obtain ⟨settled, first, accepted⟩ := bind_eq_ok.mp given
  obtain ⟨-, met⟩ := trails.settle first
  refine ⟨_, bind_eq_ok.mpr ⟨_, met, accept_unprinted accepted⟩, ?_, Or.inl rfl⟩
  rw [kept, trails.printed]

theorem readFile (trails : other.Trails reading) (word : Text) :
    Follows (other.readFile word) (reading.readFile word) := by
  rw [Reading.readFile, Reading.readFile, trails.hasFile_eq]
  intro final read
  split at read
  · cases read
  case isFalse unnamed =>
    obtain ⟨settled, first, rest⟩ := bind_eq_ok.mp read
    cases rest
    obtain ⟨printed, met⟩ := trails.settle first
    rw [if_neg unnamed]
    exact ⟨_, bind_eq_ok.mpr ⟨_, met, rfl⟩, printed, Or.inl rfl⟩

theorem readLong (trails : other.Trails reading) (level : Level) (word : Text) :
    Follows (other.readLong level word) (reading.readLong level word) := by
  rcases readLong_cases level word with
    ⟨refusal, refused⟩ | ⟨slot, value, given⟩ | ⟨switch, -, turned⟩
  · rw [refused, refused]
    exact Follows.refused refusal
  · rw [given, given]
    exact trails.give slot value
  · rw [turned, turned]
    exact trails.turn switch

theorem readShort (trails : other.Trails reading) (level : Level) (letters : Text) :
    Follows (other.readShort level letters) (reading.readShort level letters) := by
  induction letters generalizing other reading with
  | nil => exact trails.follows
  | cons letter rest ih =>
      rcases readShort_cases level letter rest with
        ⟨refusal, refused⟩ | ⟨slot, value, given⟩ | ⟨switch, -, turned⟩
      · rw [refused, refused]
        exact Follows.refused refusal
      · rw [given, given]
        exact trails.give slot value
      · rw [turned, turned]
        exact (trails.turn switch).bind fun _ _ trails => ih trails

theorem readWord (trails : other.Trails reading) (word : Text) :
    Follows (other.readWord word) (reading.readWord word) := by
  rw [Reading.readWord, Reading.readWord]
  cases Word.of word with
  | divider => exact trails.follows
  | long name => exact trails.readLong .command name
  | short letters => exact trails.readShort .command letters
  | plain =>
      rcases trails.awaits_cases with ⟨slot, waiting, rfl⟩ | ⟨ready, ready'⟩
      · have waiting' : reading.unprinted.pending = some (slot, none) := waiting
        simp only [readPlain, waiting, waiting']
        exact Trails.follows ⟨trails.printed, Or.inl rfl⟩
      · simp only [readPlain_of_ready ready, readPlain_of_ready ready']
        exact trails.readFile word

theorem readFiles (trails : other.Trails reading) (words : List Text) :
    Follows (CommandLine.readFiles other words) (CommandLine.readFiles reading words) := by
  induction words generalizing other reading with
  | nil => exact trails.follows
  | cons word rest ih => exact (trails.readFile word).bind fun _ _ trails => ih trails

theorem readCommand (trails : other.Trails reading) (words : List Text) :
    Follows (CommandLine.readCommand other words) (CommandLine.readCommand reading words) := by
  induction words generalizing other reading with
  | nil => exact trails.follows
  | cons word rest ih =>
      by_cases divider : Word.of word = .divider
      · rw [readCommand_divider divider, readCommand_divider divider]
        exact trails.readFiles rest
      · rw [readCommand_cons divider, readCommand_cons divider]
        exact (trails.readWord word).bind fun _ _ trails => ih trails

end Trails

/-- Before the option, a reading is the one that leaves the option out. -/
theorem trails_of_turn {reading final : Reading} (unasked : reading.stdout = false)
    (turned : reading.turn .stdout = .ok final) : reading.Trails final := by
  obtain ⟨settled, first, turned⟩ := bind_eq_ok.mp turned
  obtain ⟨kept, nothing⟩ := settle_fields first
  simp only at turned
  split at turned
  · cases turned
  · cases turned
    refine ⟨rfl, Or.inr ⟨nothing, ?_⟩⟩
    have same : { settled with stdout := false } = settled := by rw [← unasked, ← kept]
    rw [first]
    exact congrArg Except.ok same.symm

end Reading

/-! ## Command lines without the option -/

/-- The option that asks for printing. -/
def stdoutOption : Text :=
  "--stdout".toList

theorem Word.eq_of_long {word name : Text} (form : Word.of word = .long name) :
    word = '-' :: '-' :: name := by
  unfold Word.of at form
  split at form
  case h_2 =>
    cases form
    rfl
  all_goals cases form

theorem readPlain_stdout {reading final : Reading} {word : Text}
    (read : reading.readPlain word = .ok final) : final.stdout = reading.stdout := by
  rw [Reading.readPlain] at read
  split at read
  case h_1 =>
    cases read
    rfl
  case h_2 => exact Reading.readFile_stdout read

theorem readLong_stdout {reading final : Reading} {level : Level} {name : Text}
    (read : reading.readLong level name = .ok final) :
    final.stdout = reading.stdout ∨
      name = "stdout".toList ∧ reading.turn .stdout = .ok final := by
  rcases Reading.readLong_cases level name with
    ⟨refusal, refused⟩ | ⟨slot, value, given⟩ | ⟨switch, spelled, turned⟩
  · rw [refused] at read
    cases read
  · rw [given] at read
    exact Or.inl (Reading.give_stdout read)
  · rw [turned] at read
    by_cases asks : switch = .stdout
    · exact Or.inr ⟨spelled asks, asks ▸ read⟩
    · exact Or.inl (Reading.turn_stdout asks read)

theorem readWord_stdout {reading final : Reading} {word : Text}
    (read : reading.readWord word = .ok final) :
    final.stdout = reading.stdout ∨
      word = stdoutOption ∧ reading.turn .stdout = .ok final := by
  rw [Reading.readWord] at read
  cases form : Word.of word with
  | divider =>
      rw [form] at read
      cases read
      exact Or.inl rfl
  | long name =>
      rw [form] at read
      rcases readLong_stdout read with kept | ⟨rfl, turned⟩
      · exact Or.inl kept
      · exact Or.inr ⟨Word.eq_of_long form, turned⟩
  | short letters =>
      rw [form] at read
      exact Or.inl (Reading.readShort_stdout read)
  | plain =>
      rw [form] at read
      exact Or.inl (readPlain_stdout read)

/-- A command that asks for printing holds the option, and is read without it. -/
theorem readCommand_without {reading final : Reading} {words : List Text}
    (read : readCommand reading words = .ok final) (unasked : reading.stdout = false)
    (printed : final.stdout = true) :
    ∃ front back, words = front ++ stdoutOption :: back ∧
      ∃ other, readCommand reading (front ++ back) = .ok other ∧ other.Trails final := by
  induction words generalizing reading with
  | nil =>
      cases read
      rw [unasked] at printed
      cases printed
  | cons word rest ih =>
      by_cases divider : Word.of word = .divider
      · rw [readCommand_divider divider] at read
        rw [readFiles_stdout read, unasked] at printed
        cases printed
      · rw [readCommand_cons divider] at read
        obtain ⟨next, first, later⟩ := bind_eq_ok.mp read
        rcases readWord_stdout first with kept | ⟨rfl, turned⟩
        · obtain ⟨front, back, rfl, other, later', trails⟩ := ih later (kept.trans unasked)
          refine ⟨word :: front, back, rfl, other, ?_, trails⟩
          rw [List.cons_append, readCommand_cons divider]
          exact bind_eq_ok.mpr ⟨next, first, later'⟩
        · have trails := Reading.trails_of_turn unasked turned
          exact ⟨[], rest, rfl, trails.readCommand rest final later⟩

theorem finish_unprinted {environment : Environment} {other reading final : Reading}
    (trails : other.Trails reading) (finished : reading.finish environment = .ok final) :
    other.finish environment = .ok final.unprinted := by
  obtain ⟨settled, first, allowed⟩ := bind_eq_ok.mp finished
  obtain ⟨-, met⟩ := trails.settle first
  split at allowed
  case isFalse => cases allowed
  case isTrue allowed' =>
    cases allowed
    refine bind_eq_ok.mpr ⟨_, met, if_pos ?_⟩
    simpa only [Reading.allows, Reading.get?_unprinted] using allowed'

theorem command_without {environment : Environment} {asked : Reading} {words : List Text}
    (read : command environment words = .ok asked) (printed : asked.stdout = true) :
    ∃ front back, words = front ++ stdoutOption :: back ∧
      command environment (front ++ back) = .ok asked.unprinted := by
  obtain ⟨reading, first, rest⟩ := bind_eq_ok.mp read
  obtain ⟨final, finished, named⟩ := bind_eq_ok.mp rest
  split at named
  case isTrue => cases named
  case isFalse hasFile =>
    cases named
    have kept : reading.stdout = true := by
      obtain ⟨settled, settling, allowed⟩ := bind_eq_ok.mp finished
      split at allowed
      · cases allowed
        rw [← (Reading.settle_fields settling).1, printed]
      · cases allowed
    obtain ⟨front, back, rfl, other, read', trails⟩ := readCommand_without first rfl kept
    have finished' := finish_unprinted trails finished
    refine ⟨front, back, rfl, ?_⟩
    exact bind_eq_ok.mpr ⟨other, read', bind_eq_ok.mpr ⟨_, finished', if_neg hasFile⟩⟩

/-- What a word in front of the command does: it refuses, or ends the words, or
begins the command, or changes what was read, whatever words follow. -/
theorem readProgram_cons (environment : Environment) (reading : Reading) (word : Text) :
    (∀ rest found, readProgram environment reading (word :: rest) = .ok found →
      found.2 = none) ∨
    (∀ rest, readProgram environment reading (word :: rest) =
      (command environment rest >>= fun asked => .ok (reading, some asked))) ∨
    ∃ next : Except Refusal Reading, ∀ rest, readProgram environment reading (word :: rest) =
      (next >>= fun reading => readProgram environment reading rest) := by
  by_cases help : (!reading.awaits && word == helpCommand) = true
  · refine Or.inl fun rest found read => ?_
    rw [readProgram.eq_def] at read
    simp only [help, if_true] at read
    cases read
  by_cases document : (!reading.awaits && word == documentCommand) = true
  · refine Or.inr (Or.inl fun rest => ?_)
    rw [readProgram.eq_def]
    simp only [help, document, if_true, if_false, Bool.false_eq_true]
  cases form : Word.of word with
  | divider =>
      refine Or.inl fun rest found read => ?_
      rw [readProgram.eq_def] at read
      simp only [help, document, form, if_false, Bool.false_eq_true] at read
      split at read
      · cases read
        rfl
      · split at read <;> cases read
  | long name =>
      refine Or.inr (Or.inr ⟨reading.readLong .program name, fun rest => ?_⟩)
      rw [readProgram.eq_def]
      simp only [help, document, form, if_false, Bool.false_eq_true]
  | short letters =>
      refine Or.inr (Or.inr ⟨reading.readShort .program letters, fun rest => ?_⟩)
      rw [readProgram.eq_def]
      simp only [help, document, form, if_false, Bool.false_eq_true]
  | plain =>
      cases awaiting : reading.awaits with
      | true =>
          obtain ⟨slot, waiting⟩ : ∃ slot, reading.pending = some (slot, none) := by
            rw [Reading.awaits] at awaiting
            split at awaiting
            case h_1 slot waiting => exact ⟨slot, waiting⟩
            case h_2 => cases awaiting
          refine Or.inr (Or.inr ⟨.ok { reading with pending := some (slot, some word) },
            fun rest => ?_⟩)
          rw [readProgram.eq_def]
          simp only [help, document, form, waiting, if_false, Bool.false_eq_true]
          rfl
      | false =>
          refine Or.inl fun rest found read => ?_
          rw [readProgram.eq_def] at read
          simp only [help, document, form, if_false, Bool.false_eq_true] at read
          split at read
          case h_1 waiting => simp [Reading.awaits, waiting] at awaiting
          case h_2 => cases read

theorem readProgram_without {environment : Environment} {reading whole asked : Reading}
    {words : List Text}
    (read : readProgram environment reading words = .ok (whole, some asked))
    (printed : asked.stdout = true) :
    ∃ front back, words = front ++ stdoutOption :: back ∧
      readProgram environment reading (front ++ back) = .ok (whole, some asked.unprinted) := by
  induction words generalizing reading with
  | nil => cases read
  | cons word rest ih =>
      rcases readProgram_cons environment reading word with ended | begins | ⟨next, goesOn⟩
      · cases ended rest _ read
      · rw [begins] at read
        obtain ⟨found, first, pair⟩ := bind_eq_ok.mp read
        cases pair
        obtain ⟨front, back, rfl, first'⟩ := command_without first printed
        refine ⟨word :: front, back, rfl, ?_⟩
        rw [List.cons_append, begins]
        exact bind_eq_ok.mpr ⟨_, first', rfl⟩
      · rw [goesOn] at read
        obtain ⟨reading', first, later⟩ := bind_eq_ok.mp read
        obtain ⟨front, back, rfl, later'⟩ := ih later
        refine ⟨word :: front, back, rfl, ?_⟩
        rw [List.cons_append, goesOn]
        exact bind_eq_ok.mpr ⟨reading', first, later'⟩

/-- The invocation that writes the page. -/
def Invocation.writing (invocation : Invocation) : Invocation :=
  { invocation with request := { invocation.request with stdout := false } }

/-- A command line that asks for printing holds the option, and is read without
the option as the same invocation that writes. -/
theorem parse_without {environment : Environment} {words : List Text} {invocation : Invocation}
    (accepted : parse environment words = .ok invocation)
    (printed : invocation.request.stdout = true) :
    ∃ front back, words = front ++ stdoutOption :: back ∧
      parse environment (front ++ back) = .ok invocation.writing := by
  obtain ⟨⟨whole, asked⟩, first, rest⟩ := bind_eq_ok.mp accepted
  obtain ⟨final, finished, chosen⟩ := bind_eq_ok.mp rest
  cases asked with
  | none => cases chosen
  | some asked =>
      cases chosen
      obtain ⟨front, back, rfl, first'⟩ := readProgram_without first printed
      refine ⟨front, back, rfl, ?_⟩
      exact bind_eq_ok.mpr ⟨_, first', bind_eq_ok.mpr ⟨final, finished, rfl⟩⟩

end Marginalia.CommandLine
