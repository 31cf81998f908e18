import Marginalia.Proofs.JsonGrammar
import Marginalia.Proofs.OutlineJson

/-!
# Outlines in any layout

A companion may write an outline with the members of its objects in any order,
among members of its own, and with any blanks.  Main statement: every such text is
read as the outline.  A text in which a record or the whole object lacks a member,
repeats one or has something else than an offset in the place of an offset is
refused.
-/

namespace Marginalia

namespace Outline

open Json (Value Numeral)

/-! ## Fields -/

/-- A field is missing or given twice, or a member has no name. -/
inductive FlawedFields (names : List Text) (members : Members) : Prop where
  | lacks {name : Text} (known : name ∈ names) (absent : ∀ value, (some name, value) ∉ members)
  | repeats {name : Text} (known : name ∈ names)
      (twice : 2 ≤ members.countP fun member => member.1 == some name)
  | unnamed {value : Value} (member : (none, value) ∈ members)

/-- Fields that are read are given once each, and every member has a name. -/
theorem fields?_eq_some {names : List Text} {members : Members} {values : List Value}
    (read : fields? names (.object members) = some values) :
    (∀ member ∈ members, member.1 ≠ none) ∧
      List.Forall₂ (fun name value =>
        members.filter (fun member => member.1 == some name) = [(some name, value)])
        names values := by
  rw [fields?] at read
  split at read
  case isTrue => cases read
  case isFalse named =>
    constructor
    · intro member inside unnamed
      apply named
      exact List.any_eq_true.mpr ⟨member, inside, by rw [unnamed]; rfl⟩
    · apply (mapM_eq_some_iff.mp read).imp
      intro name value found
      split at found
      case h_1 name' value' alone =>
        cases found
        have inside : (name', value) ∈ members.filter fun member => member.1 == some name := by
          rw [alone]
          exact List.mem_singleton_self _
        have isName : name' = some name := by simpa using (List.mem_filter.mp inside).2
        rw [alone, isName]
      case h_2 => cases found

theorem exists_of_forall₂ {α β : Type} {related : α → β → Prop} {items : List α}
    {results : List β} (each : List.Forall₂ related items results) {item : α}
    (member : item ∈ items) : ∃ result, related item result := by
  induction each with
  | nil => cases member
  | cons first _ ih =>
      rcases List.mem_cons.mp member with rfl | later
      · exact ⟨_, first⟩
      · exact ih later

theorem fields?_of_flawed {names : List Text} {members : Members}
    (flawed : FlawedFields names members) : fields? names (.object members) = none := by
  apply Option.eq_none_iff_forall_ne_some.mpr
  intro values read
  obtain ⟨named, once⟩ := fields?_eq_some read
  cases flawed with
  | lacks known absent =>
      obtain ⟨value, alone⟩ := exists_of_forall₂ once known
      apply absent value
      exact List.mem_of_mem_filter (alone ▸ List.mem_singleton_self _)
  | repeats known twice =>
      obtain ⟨value, alone⟩ := exists_of_forall₂ once known
      rw [List.countP_eq_length_filter, alone] at twice
      exact Nat.lt_irrefl 1 twice
  | unnamed member => exact named _ member rfl

/-! ## Offsets -/

/-- A value that is no offset: no number, or a number with a sign, a fraction or an
exponent, or one beyond the limit. -/
inductive BadOffset : Value → Prop where
  | noNumber {value : Value} (other : ∀ spelling, value ≠ .number spelling) : BadOffset value
  | negative {numeral : Numeral} (sign : numeral.negative) : BadOffset (.number numeral.text)
  | fractional {numeral : Numeral} (fraction : numeral.fraction.isSome) :
      BadOffset (.number numeral.text)
  | exponential {numeral : Numeral} (exponent : numeral.exponent.isSome) :
      BadOffset (.number numeral.text)
  | tooLarge {numeral : Numeral} (large : offsetLimit ≤ numeral.whole) :
      BadOffset (.number numeral.text)

theorem offset?_of_bad {value : Value} (bad : BadOffset value) : offset? value = none := by
  have unplain {numeral : Numeral} (other : numeral.isPlain = false) :
      offset? (.number numeral.text) = none := by
    obtain ⟨c, inside, noDigit⟩ := Numeral.exists_of_not_isPlain other
    have notAll : numeral.text.all Json.isDigit = false :=
      List.all_eq_false.mpr ⟨c, inside, by simp [noDigit]⟩
    simp [offset?, notAll]
  cases bad with
  | noNumber other =>
      cases value with
      | number spelling => exact (other spelling rfl).elim
      | null | bool _ | string _ | array _ | object _ => rfl
  | negative sign => exact unplain (by simp [Numeral.isPlain, sign])
  | fractional fraction =>
      exact unplain (by simp [Numeral.isPlain, Option.isSome_iff_ne_none.mp fraction])
  | exponential exponent =>
      exact unplain (by simp [Numeral.isPlain, exponent])
  | @tooLarge numeral large =>
      cases plain : numeral.isPlain with
      | false => exact unplain plain
      | true =>
          rw [Numeral.text_of_isPlain plain]
          simp [offset?, digitsValue_decimal, Nat.not_lt.mpr large]

/-! ## Records -/

/-- The fields that are offsets. -/
def offsetFields : List Text :=
  ["start", "end"].map String.toList

/-- A record with a flaw in its fields or in one of its offsets. -/
inductive FlawedRecord (names : List Text) (members : Members) : Prop where
  | fields (flawed : FlawedFields names members)
  | offset {name : Text} {value : Value} (known : name ∈ offsetFields)
      (member : (some name, value) ∈ members) (bad : BadOffset value)

theorem function?_eq_some {value : Value} {record : FunctionRecord}
    (read : function? value = some record) :
    ∃ name params start stop, fields? functionFields value = some [name, params, start, stop] ∧
      text? name = some record.name ∧ list? text? params = some record.params ∧
      offset? start = some record.start ∧ offset? stop = some record.stop := by
  rw [function?] at read
  split at read
  case h_1 name params start stop given =>
    split at read
    case h_1 isName isParams isStart isStop =>
      cases read
      exact ⟨name, params, start, stop, given, isName, isParams, isStart, isStop⟩
    case h_2 => cases read
  case h_2 => cases read

theorem class?_eq_some {value : Value} {record : ClassRecord} (read : class? value = some record) :
    ∃ name start stop, fields? classFields value = some [name, start, stop] ∧
      text? name = some record.name ∧
      offset? start = some record.start ∧ offset? stop = some record.stop := by
  rw [class?] at read
  split at read
  case h_1 name start stop given =>
    split at read
    case h_1 isName isStart isStop =>
      cases read
      exact ⟨name, start, stop, given, isName, isStart, isStop⟩
    case h_2 => cases read
  case h_2 => cases read

/-- The value of a field that is given once is the value of any member with its
name. -/
theorem eq_of_mem {members : Members} {name : Text} {value found : Value}
    (once : members.filter (fun member => member.1 == some name) = [(some name, found)])
    (member : (some name, value) ∈ members) : value = found := by
  have inside : (some name, value) ∈ members.filter fun member => member.1 == some name :=
    List.mem_filter.mpr ⟨member, beq_self_eq_true _⟩
  rw [once, List.mem_singleton] at inside
  exact (Prod.mk.inj inside).2

/-- Where both offsets of a record are read, neither of them is bad. -/
theorem not_bad {members : Members} {start stop : Value} {first last : Nat}
    (isStart : members.filter (fun member => member.1 == some "start".toList) =
      [(some "start".toList, start)])
    (isStop : members.filter (fun member => member.1 == some "end".toList) =
      [(some "end".toList, stop)])
    (readStart : offset? start = some first) (readStop : offset? stop = some last) {name : Text}
    {value : Value} (known : name ∈ offsetFields) (member : (some name, value) ∈ members) :
    ¬ BadOffset value := by
  intro bad
  have refused := offset?_of_bad bad
  simp only [offsetFields, List.map_cons, List.map_nil, List.mem_cons, List.not_mem_nil,
    or_false] at known
  rcases known with rfl | rfl
  · rw [eq_of_mem isStart member, readStart] at refused
    cases refused
  · rw [eq_of_mem isStop member, readStop] at refused
    cases refused

theorem function?_of_flawed {members : Members} (flawed : FlawedRecord functionFields members) :
    function? (.object members) = none := by
  apply Option.eq_none_iff_forall_ne_some.mpr
  intro record read
  obtain ⟨name, params, start, stop, given, -, -, readStart, readStop⟩ := function?_eq_some read
  cases flawed with
  | fields flawed =>
      rw [fields?_of_flawed flawed] at given
      cases given
  | offset known member bad =>
      obtain ⟨-, once⟩ := fields?_eq_some given
      simp only [functionFields, List.map_cons, List.map_nil, List.forall₂_cons] at once
      obtain ⟨-, -, isStart, isStop, -⟩ := once
      exact not_bad isStart isStop readStart readStop known member bad

theorem class?_of_flawed {members : Members} (flawed : FlawedRecord classFields members) :
    class? (.object members) = none := by
  apply Option.eq_none_iff_forall_ne_some.mpr
  intro record read
  obtain ⟨name, start, stop, given, -, readStart, readStop⟩ := class?_eq_some read
  cases flawed with
  | fields flawed =>
      rw [fields?_of_flawed flawed] at given
      cases given
  | offset known member bad =>
      obtain ⟨-, once⟩ := fields?_eq_some given
      simp only [classFields, List.map_cons, List.map_nil, List.forall₂_cons] at once
      obtain ⟨-, isStart, isStop, -⟩ := once
      exact not_bad isStart isStop readStart readStop known member bad

/-- A function record as an object with its fields in any order. -/
def WritesFunction (record : FunctionRecord) (value : Value) : Prop :=
  ∃ members, value = .object members ∧ Holds functionFields
    [.string (some record.name), .array (record.params.map (.string ∘ some)),
      .number (Json.decimal record.start), .number (Json.decimal record.stop)] members

/-- A class record as an object with its fields in any order. -/
def WritesClass (record : ClassRecord) (value : Value) : Prop :=
  ∃ members, value = .object members ∧ Holds classFields
    [.string (some record.name), .number (Json.decimal record.start),
      .number (Json.decimal record.stop)] members

theorem function?_of_writes {record : FunctionRecord} {value : Value}
    (bounded : record.start < offsetLimit ∧ record.stop < offsetLimit)
    (writes : WritesFunction record value) : function? value = some record := by
  obtain ⟨members, rfl, holds⟩ := writes
  have params : list? text? (.array (record.params.map (.string ∘ some))) = some record.params :=
    list?_array fun _ _ => rfl
  rw [function?, fields?_of_holds (by decide) rfl holds]
  simp only [text?, params, offset?_decimal bounded.1, offset?_decimal bounded.2]

theorem class?_of_writes {record : ClassRecord} {value : Value}
    (bounded : record.start < offsetLimit ∧ record.stop < offsetLimit)
    (writes : WritesClass record value) : class? value = some record := by
  obtain ⟨members, rfl, holds⟩ := writes
  rw [class?, fields?_of_holds (by decide) rfl holds]
  simp only [text?, offset?_decimal bounded.1, offset?_decimal bounded.2]

/-! ## Outlines -/

/-- An outline as the members of an object, in any order and among others. -/
def Writes (outline : Outline) (members : Members) : Prop :=
  ∃ functions classes, Holds outlineFields [.array functions, .array classes] members ∧
    List.Forall₂ WritesFunction outline.functions functions ∧
    List.Forall₂ WritesClass outline.classes classes

/-- An outline with a flaw in its fields or in one of its records. -/
inductive Flawed (members : Members) : Prop where
  | fields (flawed : FlawedFields outlineFields members)
  | functionRecord {records : List Value} {record : Members}
      (list : (some "functions".toList, .array records) ∈ members)
      (inside : .object record ∈ records) (flawed : FlawedRecord functionFields record)
  | classRecord {records : List Value} {record : Members}
      (list : (some "classes".toList, .array records) ∈ members)
      (inside : .object record ∈ records) (flawed : FlawedRecord classFields record)

theorem list?_of_writes {α : Type} {writes : α → Value → Prop} {items : List α}
    {values : List Value} (written : List.Forall₂ writes items values) {fits : α → Prop}
    (fit : ∀ item ∈ items, fits item) {read : Value → Option α}
    (reads : ∀ item value, fits item → writes item value → read value = some item) :
    list? read (.array values) = some items := by
  apply mapM_eq_some_iff.mpr
  apply List.Forall₂.flip
  apply ((List.forall₂_and_left items values).mpr ⟨fit, written⟩).imp
  intro item value both
  exact reads item value both.1 both.2

theorem ofValue?_of_writes {outline : Outline} (bounded : outline.Bounded) {members : Members}
    (writes : outline.Writes members) : ofValue? (.object members) = some outline := by
  obtain ⟨functions, classes, holds, isFunctions, isClasses⟩ := writes
  have readFunctions := list?_of_writes isFunctions bounded.1 fun _ _ => function?_of_writes
  have readClasses := list?_of_writes isClasses bounded.2 fun _ _ => class?_of_writes
  rw [ofValue?, fields?_of_holds (by decide) rfl holds]
  simp only [readFunctions, readClasses]

theorem ofValue?_eq_some {value : Value} {outline : Outline}
    (read : ofValue? value = some outline) :
    ∃ functions classes, fields? outlineFields value = some [functions, classes] ∧
      list? function? functions = some outline.functions ∧
      list? class? classes = some outline.classes := by
  rw [ofValue?] at read
  split at read
  case h_1 functions classes given =>
    split at read
    case h_1 isFunctions isClasses =>
      cases read
      exact ⟨functions, classes, given, isFunctions, isClasses⟩
    case h_2 => cases read
  case h_2 => cases read

/-- A list with an element that is refused is refused. -/
theorem list?_of_mem {α : Type} {read : Value → Option α} {values : List Value} {value : Value}
    (member : value ∈ values) (refused : read value = none) :
    list? read (.array values) = none := by
  apply Option.eq_none_iff_forall_ne_some.mpr
  intro items mapped
  obtain ⟨item, found⟩ := exists_of_forall₂ (mapM_eq_some_iff.mp mapped) member
  rw [refused] at found
  cases found

theorem ofValue?_of_flawed {members : Members} (flawed : Flawed members) :
    ofValue? (.object members) = none := by
  apply Option.eq_none_iff_forall_ne_some.mpr
  intro outline read
  obtain ⟨functions, classes, given, readFunctions, readClasses⟩ := ofValue?_eq_some read
  cases flawed with
  | fields flawed =>
      rw [fields?_of_flawed flawed] at given
      cases given
  | functionRecord list inside flawed =>
      obtain ⟨-, once⟩ := fields?_eq_some given
      simp only [outlineFields, List.map_cons, List.map_nil, List.forall₂_cons] at once
      rw [← eq_of_mem once.1 list, list?_of_mem inside (function?_of_flawed flawed)]
        at readFunctions
      cases readFunctions
  | classRecord list inside flawed =>
      obtain ⟨-, once⟩ := fields?_eq_some given
      simp only [outlineFields, List.map_cons, List.map_nil, List.forall₂_cons] at once
      rw [← eq_of_mem once.2.1 list, list?_of_mem inside (class?_of_flawed flawed)] at readClasses
      cases readClasses

end Outline

namespace Companion

open Json (Value)
open Outline (Members)

/-- The text of an object is read as the outline that the object is read as. -/
theorem decode_of_arranged {members : Members} {text : Text}
    (arranged : Json.Arranged (Value.object members).tokens text) :
    decode text = (Outline.ofValue? (.object members)).elim
      (.error (.companionFailure "Malformed parser output".toList)) .ok := by
  rw [decode, Outline.ofJson?, Json.parse?_of_arranged arranged.trim, Option.bind_some]
  cases Outline.ofValue? (.object members) <;> rfl

/-- A text that writes an outline as objects is read as that outline, in whatever
order the members stand, whatever other members stand among them and whatever
blanks stand between the tokens.  A text with a flaw is refused: with a record or
the whole object that lacks a field, repeats one or has a member whose name stands
for no text, or with a bad offset in a record. -/
theorem decode_any_layout {members : Members} {text : Text}
    (arranged : Json.Arranged (Value.object members).tokens text) :
    (∀ outline : Outline, outline.Bounded → outline.Writes members → decode text = .ok outline) ∧
    (Outline.Flawed members → ∃ message, decode text = .error (.companionFailure message)) := by
  rw [decode_of_arranged arranged]
  constructor
  · intro outline bounded writes
    rw [Outline.ofValue?_of_writes bounded writes, Option.elim_some]
  · intro flawed
    rw [Outline.ofValue?_of_flawed flawed, Option.elim_none]
    exact ⟨_, rfl⟩

/-- An object with a class, whose end is given by a number. -/
def classMembers (stop : Json.Numeral) : Members :=
  [(some "classes".toList, .array [.object [(some "end".toList, .number stop.text),
      (some ['x'], .null), (some "name".toList, .string (some ['C'])),
      (some "start".toList, .number ['0'])]]),
    (some "functions".toList, .array [])]

/-- A text of that object. -/
def classText (stop : Json.Numeral) : Text :=
  "\x7b\"classes\":[ \x7b\"end\":".toList ++ (stop.text ++
    (",\"x\":null,\"name\":\"C\",\"start\":0\x7d],\n".toList ++
      "\"functions\":[]\x7d\r\n".toList))

open Json.Token.Written Json.Arranged in
theorem arranged_classText (stop : Json.Numeral) :
    Json.Arranged (Value.object (classMembers stop)).tokens (classText stop) := by
  have named (name : Text) := @Json.written_plain name
  have space : [' '] ⊆ Json.spaces := by decide
  have feed : ['\n'] ⊆ Json.spaces := by decide
  have ended : ['\r', '\n'] ⊆ Json.spaces := by decide
  have functions := next colon <| next openBracket <| next closeBracket <| next closeBrace <|
    nil ended
  have start := next (number ⟨false, 0, none, none⟩) <| next closeBrace <| next closeBracket <|
    next comma <| cons feed (named "functions".toList (by decide)) functions
  have name := next (named ['C'] (by decide)) <| next comma <|
    next (named "start".toList (by decide)) <| next colon start
  have other := next null <| next comma <| next (named "name".toList (by decide)) <|
    next colon name
  have record := next (named "end".toList (by decide)) <| next colon <| next (number stop) <|
    next comma <| next (named ['x'] (by decide)) <| next colon other
  have whole := next openBrace <| next (named "classes".toList (by decide)) <| next colon <|
    next openBracket <| cons space openBrace record
  exact whole

theorem writes_classMembers :
    Outline.Writes ⟨[], [⟨['C'], 0, 9⟩]⟩ (classMembers ⟨false, 9, none, none⟩) := by
  refine ⟨[], _, ⟨[], List.forall_mem_nil _, List.Perm.swap _ _ _⟩, .nil, .cons ?_ .nil⟩
  refine ⟨_, rfl, [(some ['x'], .null)], ?_, @List.perm_append_comm _ [_, _] [_, _]⟩
  intro other member
  rw [List.mem_singleton.mp member]
  exact ⟨['x'], by decide, rfl⟩

theorem decode_any_layout_class :
    decode (classText ⟨false, 9, none, none⟩) = .ok ⟨[], [⟨['C'], 0, 9⟩]⟩ ∧
      ∃ message, decode (classText ⟨true, 9, none, none⟩) = .error (.companionFailure message) := by
  constructor
  · exact (decode_any_layout (arranged_classText _)).1 _ (by decide) writes_classMembers
  · apply (decode_any_layout (arranged_classText _)).2
    have known : "end".toList ∈ Outline.offsetFields := by decide
    have signed : Outline.BadOffset (.number (Json.Numeral.text ⟨true, 9, none, none⟩)) :=
      .negative rfl
    exact .classRecord List.mem_cons_self List.mem_cons_self
      (.offset known List.mem_cons_self signed)

/-- The text of an object with a member whose name is half of a surrogate pair. -/
def halfNamedText : Text :=
  "\x7b\"\\ud800\":0,\"functions\":[],\"classes\":[]\x7d".toList

open Json.Token.Written Json.Arranged in
/-- A member that is none of the fields is not ignored if its name stands for no
text. -/
theorem decode_half_named :
    Json.Arranged (Value.object ((none, .number ['0']) ::
        (Outline.outlineFields.map some).zip [.array [], .array []])).tokens halfNamedText ∧
      none ∉ Outline.outlineFields.map some ∧
      decode halfNamedText = .error (.companionFailure "Malformed parser output".toList) := by
  refine ⟨?_, by decide, by decide +kernel⟩
  have named (name : Text) := @Json.written_plain name
  have digit (c : Char) (value : Nat)
      (found : "0123456789abcdef".toList[value]? = some c) : Json.HexDigit c value :=
    Or.inl found
  have nothing : ∀ text, ¬ Json.Denotes [.unit 0xD800] text := by
    intro text denotes
    have decoded := denotes.decode?
    cases decoded
  have half := halfPair (.cons (.unit (digit 'd' 13 rfl) (digit '8' 8 rfl) (digit '0' 0 rfl)
    (digit '0' 0 rfl)) .nil) nothing
  have classes := next (named "classes".toList (by decide)) <| next colon <| next openBracket <|
    next closeBracket <| next closeBrace <| nil (List.nil_subset _)
  have functions := next (named "functions".toList (by decide)) <| next colon <|
    next openBracket <| next closeBracket <| next comma classes
  have whole := next openBrace <| next half <| next colon <|
    next (number ⟨false, 0, none, none⟩) <| next comma functions
  exact whole

end Companion

end Marginalia
