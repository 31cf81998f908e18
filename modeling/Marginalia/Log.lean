import Marginalia.Text.Basic
import Marginalia.Text.Word

/-!
# Logs

Events tell what the program does.  A filter decides which of them are shown:
its directives limit the events of the parts whose name begins with a target.
Of several directives the one with the longest target counts.
-/

namespace Marginalia.Log

/-- How much is shown, or how much an event matters. -/
inductive Level where
  | off
  | error
  | warn
  | info
  | debug
  | trace
  deriving DecidableEq

namespace Level

/-- More detailed levels have higher ranks. -/
def rank : Level → Nat
  | .off => 0
  | .error => 1
  | .warn => 2
  | .info => 3
  | .debug => 4
  | .trace => 5

/-- The name of a level. -/
def name : Level → Text
  | .off => "OFF".toList
  | .error => "ERROR".toList
  | .warn => "WARN".toList
  | .info => "INFO".toList
  | .debug => "DEBUG".toList
  | .trace => "TRACE".toList

/-- All levels. -/
def all : List Level :=
  [.off, .error, .warn, .info, .debug, .trace]

/-- The number that a text writes in decimal, maybe behind a plus sign. -/
def number? (text : Text) : Option Nat :=
  let digits := match text with
    | '+' :: digits => digits
    | digits => digits
  if digits.isEmpty || digits.any (fun c => !c.isDigit) then none
  else some (digits.foldl (fun value c => 10 * value + (c.toNat - '0'.toNat)) 0)

/-- The level that a text names, in any letter case, or by its rank. -/
def ofText? (text : Text) : Option Level :=
  match number? text with
  | some number => all.find? (·.rank == number)
  | none => all.find? (·.name == text.map Char.toUpper)

end Level

/-- The part of the program that an event comes from. -/
inductive Origin where
  | generator
  | parser
  | companion
  | command
  deriving DecidableEq

/-- The name by which filters know a part of the program. -/
def Origin.name : Origin → Text
  | .generator => "srcdoc::render".toList
  | .parser => "srcdoc::parsers".toList
  | .companion => "srcdoc::parsers::python".toList
  | .command => "srcdoc::commands::generate".toList

/-- Something that the program did or found. -/
structure Event where
  level : Level
  origin : Origin
  message : Text
  deriving DecidableEq

/-- The line that shows an event. -/
def Event.line (event : Event) : Text :=
  event.level.name ++ ' ' :: event.message

/-- A limit for the events of all parts whose name begins with the target. -/
structure Directive where
  target : Text
  limit : Level
  deriving DecidableEq

/-- Limits in the order in which they were given. -/
abbrev Filter := List Directive

namespace Filter

/-- Whether a directive can begin with the character. -/
def isOpening (c : Char) : Bool :=
  c == '-' || c == ':' || c == '[' || Text.isWord c

/-- The limit behind a target.  Without a level everything is shown. -/
def limited (target level : Text) : Option Filter :=
  if level.isEmpty then some [{ target, limit := .trace }]
  else (Level.ofText? level).map fun limit => [{ target, limit }]

/-- Read one directive: a level, a target, or a target with a level.  One that
asks for a named stretch of work in brackets never applies.  Blanks around a
directive are passed over in the search for its signs and belong to its parts
all the same, so that no level and no part of the program has such a name. -/
def directive? (text : Text) : Option Filter :=
  let trimmed := Text.trim text
  if text.isEmpty then some []
  else if !trimmed.head?.any isOpening then none
  else
    let length := (trimmed.takeWhile fun c => c != '=' && c != '[').length
    match trimmed.drop length with
    | [] =>
      match Level.ofText? text with
      | some limit => some [{ target := [], limit }]
      | none => some [{ target := text, limit := .trace }]
    | '=' :: _ => limited (text.take length) (text.drop (length + 1))
    | bracket =>
      match (bracket.dropWhile (· != ']')).drop 1 with
      | [] => if bracket.contains ']' then some [] else none
      | '=' :: level => (limited [] level).map fun _ => []
      | _ => none

/-- The pieces of a text between its commas. -/
def pieces (text : Text) : List Text :=
  text.foldr
    (fun c pieces =>
      match pieces with
      | [] => [[c]]
      | piece :: more => if c == ',' then [] :: piece :: more else (c :: piece) :: more)
    [[]]

/-- Read directives with commas between them. -/
def parse? (text : Text) : Option Filter :=
  ((pieces text).mapM directive?).map List.flatten

/-- The filter of a run without any setting. -/
def standard (verbose : Bool) : Filter :=
  [{ target := [], limit := if verbose then .debug else .info }]

/-- The filter of a run.  A setting counts when it can be read. -/
def choose (setting : Option Text) (verbose : Bool) : Filter :=
  (setting.bind parse?).getD (standard verbose)

/-- The limit for a part of the program.  Of targets of one length the later
counts, and without any target nothing is shown. -/
def limit (filter : Filter) (origin : Origin) : Level :=
  (filter.foldl
    (fun best directive =>
      if directive.target.isPrefixOf origin.name && best.target.length ≤ directive.target.length
      then directive else best)
    { target := [], limit := .off }).limit

/-- Whether an event is shown. -/
def shows (filter : Filter) (event : Event) : Bool :=
  event.level.rank ≤ (filter.limit event.origin).rank

/-- The lines that are shown. -/
def lines (filter : Filter) (events : List Event) : List Text :=
  (events.filter filter.shows).map Event.line

end Filter

end Marginalia.Log
