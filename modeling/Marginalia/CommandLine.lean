import Marginalia.Companion
import Marginalia.Generator

/-!
# The command line

A command line has two levels: words for the program as a whole, and behind
the name of the command words for the command.  Options that name the program
and script of the companion are known at both levels, and the environment
stands in for them.  A value is taken up only when the next option, the next
file or the end of its level shows that it is complete, so that of several
faults the one found first is reported.
-/

namespace Marginalia.CommandLine

/-- Why a command line is not carried out. -/
inductive Refusal where
  /-- Help was asked for. -/
  | help
  /-- The version was asked for. -/
  | version
  /-- Nothing was asked for. -/
  | nothingAsked
  | missingCommand
  | unknownCommand
  | missingFile
  | unknownArgument
  | invalidValue
  | surplusValue
  | repeated
  deriving DecidableEq

/-- The exit code that stands for a refusal. -/
def Refusal.exitCode : Refusal → Nat
  | .help | .version => 0
  | _ => 2

/-- Settings that the environment gives. -/
structure Environment where
  program : Option Text
  script : Option Text

/-- The environment without any settings. -/
def Environment.empty : Environment :=
  { program := none, script := none }

/-- A command line that can be carried out. -/
structure Invocation where
  request : Generator.Request
  verbose : Bool
  program : Text
  script : Text

/-! ## Options -/

/-- A part of the command line. -/
inductive Level where
  | program
  | command
  deriving DecidableEq

/-- What a value is for. -/
inductive Slot where
  | program
  | script
  | format
  | file
  deriving DecidableEq

/-- What an option does. -/
inductive Switch where
  | help
  | version
  | verbose
  | stdout
  | value (slot : Slot)

/-- The option with a long name. -/
def Level.long? (level : Level) (name : Text) : Option Switch :=
  match level, String.ofList name with
  | _, "help" => some .help
  | _, "verbose" => some .verbose
  | _, "python" => some (.value .program)
  | _, "python-script" => some (.value .script)
  | .program, "version" => some .version
  | .command, "format" => some (.value .format)
  | .command, "stdout" => some .stdout
  | _, _ => none

/-- The option with a letter. -/
def Level.short? (level : Level) (letter : Char) : Option Switch :=
  match level, letter with
  | _, 'h' => some .help
  | _, 'v' => some .verbose
  | .program, 'V' => some .version
  | .command, 'f' => some (.value .format)
  | _, _ => none

/-! ## One level -/

/-- What was read at a level. -/
structure Reading where
  verbose : Bool
  stdout : Bool
  program : Option Text
  script : Option Text
  format : Option Text
  file : Option Text
  /-- A value that is not taken up yet, or is still to come. -/
  pending : Option (Slot × Option Text)

namespace Reading

/-- Nothing was read. -/
def empty : Reading :=
  { verbose := false, stdout := false, program := none, script := none, format := none,
    file := none, pending := none }

/-- The value for a slot. -/
def get? (reading : Reading) : Slot → Option Text
  | .program => reading.program
  | .script => reading.script
  | .format => reading.format
  | .file => reading.file

/-- Take up the value of a slot. -/
def set (reading : Reading) (slot : Slot) (value : Text) : Reading :=
  match slot with
  | .program => { reading with program := some value }
  | .script => { reading with script := some value }
  | .format => { reading with format := some value }
  | .file => { reading with file := some value }

/-- Whether a value can stand in a slot.  Paths are not empty. -/
def fits (slot : Slot) (value : Text) : Bool :=
  match slot with
  | .script | .file => !value.isEmpty
  | .program | .format => true

/-- Take up a value that is complete. -/
def accept (reading : Reading) (slot : Slot) (value : Text) : Except Refusal Reading :=
  if (reading.get? slot).isSome then .error .repeated
  else if fits slot value then .ok (reading.set slot value)
  else .error .invalidValue

/-- Take up the value that is pending. -/
def settle (reading : Reading) : Except Refusal Reading :=
  match reading.pending with
  | none => .ok reading
  | some (_, none) => .error .invalidValue
  | some (slot, some value) => { reading with pending := none }.accept slot value

/-- Whether the next word is the value of an option. -/
def awaits (reading : Reading) : Bool :=
  match reading.pending with
  | some (_, none) => true
  | _ => false

/-- Whether a file was named. -/
def hasFile (reading : Reading) : Bool :=
  reading.file.isSome ||
    match reading.pending with
    | some (.file, _) => true
    | _ => false

/-- Carry out an option without a value. -/
def turn (reading : Reading) (switch : Switch) : Except Refusal Reading := do
  let reading ← reading.settle
  match switch with
  | .help => .error .help
  | .version => .error .version
  | .verbose => if reading.verbose then .error .repeated else .ok { reading with verbose := true }
  | .stdout => if reading.stdout then .error .repeated else .ok { reading with stdout := true }
  | .value slot => .ok { reading with pending := some (slot, none) }

/-- Carry out an option with a value. -/
def give (reading : Reading) (slot : Slot) (value : Text) : Except Refusal Reading := do
  let reading ← reading.settle
  reading.accept slot value

/-- Read a long option, given what follows its dashes. -/
def readLong (level : Level) (reading : Reading) (word : Text) : Except Refusal Reading :=
  let name := word.upTo '='
  let attached := Text.after? (word.drop name.length) ['=']
  match level.long? name, attached with
  | none, _ => .error .unknownArgument
  | some (.value slot), some value => reading.give slot value
  | some _, some _ => .error .surplusValue
  | some switch, none => reading.turn switch

/-- Read letters behind a single dash. -/
def readShort (level : Level) (reading : Reading) : Text → Except Refusal Reading
  | [] => .ok reading
  | letter :: rest =>
    match level.short? letter, rest with
    | none, _ => .error .unknownArgument
    | some (.value slot), '=' :: value => reading.give slot value
    | some (.value slot), first :: more => reading.give slot (first :: more)
    | some switch, rest =>
      match reading.turn switch with
      | .error refusal => .error refusal
      | .ok reading => readShort level reading rest

/-- Read the name of a file. -/
def readFile (reading : Reading) (word : Text) : Except Refusal Reading :=
  if reading.hasFile then .error .unknownArgument
  else do
    let reading ← reading.settle
    .ok { reading with pending := some (.file, some word) }

/-- Whether the environment's value for a slot can stand in when the slot has
none. -/
def allows (reading : Reading) (slot : Slot) (setting : Option Text) : Bool :=
  (reading.get? slot).isSome || setting.all (fits slot)

/-- What was read at a level, at its end.  A bad value in the environment is
refused where the level does without an option of its own. -/
def finish (environment : Environment) (reading : Reading) : Except Refusal Reading := do
  let reading ← reading.settle
  if reading.allows .program environment.program && reading.allows .script environment.script then
    .ok reading
  else .error .invalidValue

end Reading

/-- A word by its form. -/
inductive Word where
  /-- Two dashes: all further words are no options. -/
  | divider
  | long (word : Text)
  | short (letters : Text)
  | plain

/-- The form of a word.  A single dash is plain. -/
def Word.of : Text → Word
  | ['-', '-'] => .divider
  | '-' :: '-' :: word => .long word
  | '-' :: letter :: letters => .short (letter :: letters)
  | _ => .plain

/-! ## The command -/

/-- Read words that are no options. -/
def readFiles (reading : Reading) : List Text → Except Refusal Reading
  | [] => .ok reading
  | word :: rest => do
    let reading ← reading.readFile word
    readFiles reading rest

/-- Read the words of the command. -/
def readCommand (reading : Reading) : List Text → Except Refusal Reading
  | [] => .ok reading
  | word :: rest =>
    match Word.of word with
    | .divider => readFiles reading rest
    | .long name => do
      let reading ← reading.readLong .command name
      readCommand reading rest
    | .short letters => do
      let reading ← reading.readShort .command letters
      readCommand reading rest
    | .plain =>
      match reading.pending with
      | some (slot, none) =>
        readCommand { reading with pending := some (slot, some word) } rest
      | _ => do
        let reading ← reading.readFile word
        readCommand reading rest

/-- What the words of the command and the environment ask for. -/
def command (environment : Environment) (words : List Text) : Except Refusal Reading := do
  let reading ← readCommand Reading.empty words
  let reading ← reading.finish environment
  if reading.file.isNone then .error .missingFile else .ok reading

/-! ## The program -/

/-- The name of the command that documents a file. -/
def documentCommand : Text :=
  "generate-docs".toList

/-- The name of the command that shows help. -/
def helpCommand : Text :=
  "help".toList

/-- Whether a word names a command. -/
def isCommand (word : Text) : Bool :=
  word == documentCommand || word == helpCommand

/-- The answer to a call for help on commands. -/
def helpOn : List Text → Refusal
  | [] => .help
  | [word] => if isCommand word then .help else .unknownCommand
  | _ => .unknownCommand

/-- The words of the program as a whole, and behind them what the command asks
for. -/
def readProgram (environment : Environment) (reading : Reading) :
    List Text → Except Refusal (Reading × Option Reading)
  | [] => .ok (reading, none)
  | word :: rest =>
    if !reading.awaits && word == helpCommand then .error (helpOn rest)
    else if !reading.awaits && word == documentCommand then do
      let asked ← command environment rest
      .ok (reading, some asked)
    else
      match Word.of word with
      | .divider =>
        match rest with
        | [] => .ok (reading, none)
        | next :: _ =>
          if isCommand next then .error .unknownArgument else .error .unknownCommand
      | .long name => do
        let reading ← reading.readLong .program name
        readProgram environment reading rest
      | .short letters => do
        let reading ← reading.readShort .program letters
        readProgram environment reading rest
      | .plain =>
        match reading.pending with
        | some (slot, none) =>
          readProgram environment { reading with pending := some (slot, some word) } rest
        | _ => .error .unknownCommand

/-- The value of an option that is known at both levels.  The command's own
words come first, then the program's, then the environment. -/
def chosen (slot : Slot) (asked whole : Reading) (setting : Option Text) (standard : Text) : Text :=
  ((asked.get? slot).or ((whole.get? slot).or setting)).getD standard

/-- Whether anything at all is set. -/
def anySet (environment : Environment) (whole : Reading) : Bool :=
  whole.verbose || whole.program.isSome || whole.script.isSome ||
    environment.program.isSome || environment.script.isSome

/-- Read a command line. -/
def parse (environment : Environment) (words : List Text) : Except Refusal Invocation := do
  let (whole, asked) ← readProgram environment Reading.empty words
  let whole ← whole.finish environment
  match asked with
  | none => .error (if anySet environment whole then .missingCommand else .nothingAsked)
  | some asked =>
    .ok
      { request :=
          { file := asked.file.getD []
            format := asked.format.getD Generator.standardFormat
            stdout := asked.stdout }
        verbose := asked.verbose || whole.verbose
        program := chosen .program asked whole environment.program Companion.standardProgram
        script := chosen .script asked whole environment.script Companion.standardScript }

end Marginalia.CommandLine
