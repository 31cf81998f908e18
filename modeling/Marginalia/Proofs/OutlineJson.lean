import Marginalia.Companion
import Marginalia.Proofs.JsonPrint
import Marginalia.Proofs.Text

/-!
# Outlines that are written and read back

An outline is written as a JSON value in one of several styles.  Main statement:
whatever the names and parameters are, and whatever offsets below the limit the
spans have, the outline that is read back is the one that was written, in the
style of a companion and in the compact one, with any blanks around it.
-/

namespace Marginalia

namespace Outline

open Json (Value Style Writes)

/-! ## Reading back -/

theorem digitsValue_decimal (value : Nat) : digitsValue (Json.decimal value) = value := by
  have same : (fun (value : Nat) (c : Char) => value * 10 + (c.toNat - '0'.toNat)) =
      fun value c => 10 * value + (c.toNat - '0'.toNat) := by
    funext value c
    rw [Nat.mul_comm]
  rw [digitsValue, same]
  exact Nat.ofDigitChars_ten_toDigits

theorem offset?_decimal {value : Nat} (bounded : value < offsetLimit) :
    offset? (.number (Json.decimal value)) = some value := by
  have digits : (Json.decimal value).all Json.isDigit :=
    List.all_eq_true.mpr fun _ => Json.isDigit_of_mem_decimal
  simp [offset?, digits, digitsValue_decimal, bounded]

/-- A list is read if each of its items is. -/
theorem mapM_eq_some_iff {α β : Type} {read : α → Option β} {items : List α} {results : List β} :
    items.mapM read = some results ↔
      List.Forall₂ (fun item result => read item = some result) items results := by
  constructor
  · intro mapped
    induction items generalizing results with
    | nil =>
        cases mapped
        exact .nil
    | cons item items ih =>
        rw [List.mapM_cons] at mapped
        obtain ⟨first, found, mapped⟩ := Option.bind_eq_some_iff.mp mapped
        obtain ⟨more, later, same⟩ := Option.bind_eq_some_iff.mp mapped
        cases same
        exact .cons found (ih later)
  · intro each
    induction each with
    | nil => rfl
    | cons first _ ih => simp [List.mapM_cons, first, ih]

theorem list?_array {α : Type} {read : Value → Option α} {write : α → Value} {items : List α}
    (each : ∀ item ∈ items, read (write item) = some item) :
    list? read (.array (items.map write)) = some items :=
  mapM_eq_some_iff.mpr (List.forall₂_map_left_iff.mpr (List.forall₂_same.mpr each))

/-- Among members with different names, each name finds its own. -/
theorem filter_members {names : List Text} (distinct : names.Nodup) {values : List Value}
    (paired : names.length = values.length) :
    List.Forall₂ (fun name value =>
      ((names.map some).zip values).filter (fun member => member.1 == some name) =
        [(some name, value)]) names values := by
  induction names generalizing values with
  | nil =>
      obtain rfl := List.length_eq_zero_iff.mp paired.symm
      exact .nil
  | cons name names ih =>
      obtain ⟨value, values, rfl⟩ := List.exists_cons_of_length_eq_add_one paired.symm
      obtain ⟨fresh, distinct⟩ := List.nodup_cons.mp distinct
      have among {other : Option Text} {found : Value}
          (member : (other, found) ∈ (names.map some).zip values) : other ≠ some name := by
        rintro rfl
        obtain ⟨_, same, ⟨⟩⟩ := List.mem_map.mp (List.of_mem_zip member).1
        exact fresh same
      rw [List.map_cons, List.zip_cons_cons]
      constructor
      · have others : ((names.map some).zip values).filter (fun member => member.1 == some name) =
            [] := by
          apply List.filter_eq_nil_iff.mpr
          intro member inside
          simpa using among inside
        rw [List.filter_cons_of_pos (by simp), others]
      · apply (ih distinct (Nat.succ.inj paired)).imp
        intro other found alone
        -- what was found among the others does not have the first name
        have inside : (some other, found) ∈ (names.map some).zip values :=
          List.mem_of_mem_filter (alone ▸ List.mem_singleton_self _)
        rw [List.filter_cons_of_neg (by simpa using (among inside).symm), alone]

/-- The members of an object.  A name that stands for no text is `none`. -/
abbrev Members : Type :=
  List (Option Text × Value)

/-- The named fields with their values, in any order and among other members. -/
def Holds (names : List Text) (values : List Value) (members : Members) : Prop :=
  ∃ others : Members, (∀ other ∈ others, ∃ name ∉ names, other.1 = some name) ∧
    members.Perm ((names.map some).zip values ++ others)

theorem fields?_of_holds {names : List Text} (distinct : names.Nodup) {values : List Value}
    (paired : names.length = values.length) {members : Members}
    (holds : Holds names values members) : fields? names (.object members) = some values := by
  obtain ⟨others, foreign, permuted⟩ := holds
  have named : members.any (·.1.isNone) = false := by
    apply List.any_eq_false.mpr
    intro member inside
    rcases List.mem_append.mp (permuted.mem_iff.mp inside) with known | other
    · obtain ⟨name, -, same⟩ := List.mem_map.mp (List.of_mem_zip known).1
      simp [← same]
    · obtain ⟨name, -, same⟩ := foreign member other
      simp [same]
  rw [fields?, named]
  apply mapM_eq_some_iff.mpr
  apply (filter_members distinct paired).imp
  intro name value alone
  have known : name ∈ names := by
    have inside : (some name, value) ∈ (names.map some).zip values :=
      List.mem_of_mem_filter (alone ▸ List.mem_singleton_self _)
    simpa using (List.of_mem_zip inside).1
  have noOther : others.filter (fun member => member.1 == some name) = [] := by
    apply List.filter_eq_nil_iff.mpr
    intro other inside same
    obtain ⟨name', unknown, isName⟩ := foreign other inside
    rw [isName, beq_iff_eq, Option.some.injEq] at same
    exact unknown (same ▸ known)
  have found := permuted.filter fun member => member.1 == some name
  rw [List.filter_append, alone, noOther, List.append_nil, List.perm_singleton] at found
  rw [found]

/-- An object with the named members, in order, has their values. -/
theorem fields?_object {names : List Text} (distinct : names.Nodup) {values : List Value}
    (paired : names.length = values.length) :
    fields? names (.object ((names.map some).zip values)) = some values := by
  apply fields?_of_holds distinct paired
  exact ⟨[], List.forall_mem_nil _, by rw [List.append_nil]⟩

/-! ## Records -/

/-- A function record as a value. -/
def functionValue (record : FunctionRecord) : Value :=
  .object ((functionFields.map some).zip
    [.string (some record.name), .array (record.params.map (.string ∘ some)),
      .number (Json.decimal record.start), .number (Json.decimal record.stop)])

/-- A class record as a value. -/
def classValue (record : ClassRecord) : Value :=
  .object ((classFields.map some).zip
    [.string (some record.name), .number (Json.decimal record.start),
      .number (Json.decimal record.stop)])

/-- An outline as a value. -/
def toValue (outline : Outline) : Value :=
  .object ((outlineFields.map some).zip
    [.array (outline.functions.map functionValue), .array (outline.classes.map classValue)])

theorem writes_functionJson (style : Style) (record : FunctionRecord) :
    Writes (functionJson style record) (functionValue record).tokens := by
  apply Json.writes_record
  have params := Json.writes_array_map style (Json.writes_string style) record.params
  exact .cons (Json.writes_string style _) (.cons params
    (.cons (Json.writes_decimal _) (.cons (Json.writes_decimal _) .nil)))

theorem writes_classJson (style : Style) (record : ClassRecord) :
    Writes (classJson style record) (classValue record).tokens := by
  apply Json.writes_record
  exact .cons (Json.writes_string style _)
    (.cons (Json.writes_decimal _) (.cons (Json.writes_decimal _) .nil))

theorem writes_toJson (style : Style) (outline : Outline) :
    Writes (toJson style outline) outline.toValue.tokens := by
  apply Json.writes_record
  have functions := Json.writes_array_map style (writes_functionJson style) outline.functions
  have classes := Json.writes_array_map style (writes_classJson style) outline.classes
  exact .cons functions (.cons classes .nil)

theorem parse?_toJson (style : Style) (outline : Outline) :
    Json.parse? (toJson style outline) = some outline.toValue := by
  apply Json.parse?_of_spelled
  have delimited : Json.Delimited [] := by simp [Json.Delimited]
  have ended : Json.Spelled [] [] := .nil (List.forall_mem_nil _)
  have spelled := writes_toJson style outline delimited ended
  rwa [List.append_nil, List.append_nil] at spelled

/-- All offsets lie below the limit. -/
def Bounded (outline : Outline) : Prop :=
  (∀ record ∈ outline.functions, record.start < offsetLimit ∧ record.stop < offsetLimit) ∧
    ∀ record ∈ outline.classes, record.start < offsetLimit ∧ record.stop < offsetLimit

instance (outline : Outline) : Decidable outline.Bounded :=
  inferInstanceAs (Decidable (_ ∧ _))

theorem function?_functionValue {record : FunctionRecord} (start : record.start < offsetLimit)
    (stop : record.stop < offsetLimit) : function? (functionValue record) = some record := by
  have params : list? text? (.array (record.params.map (.string ∘ some))) = some record.params :=
    list?_array fun _ _ => rfl
  rw [function?, functionValue, fields?_object (by decide) rfl]
  simp only [text?, params, offset?_decimal start, offset?_decimal stop]

theorem class?_classValue {record : ClassRecord} (start : record.start < offsetLimit)
    (stop : record.stop < offsetLimit) : class? (classValue record) = some record := by
  rw [class?, classValue, fields?_object (by decide) rfl]
  simp only [text?, offset?_decimal start, offset?_decimal stop]

theorem ofValue?_toValue {outline : Outline} (bounded : outline.Bounded) :
    ofValue? outline.toValue = some outline := by
  have functions := list?_array fun record member =>
    function?_functionValue (bounded.1 record member).1 (bounded.1 record member).2
  have classes := list?_array fun record member =>
    class?_classValue (bounded.2 record member).1 (bounded.2 record member).2
  rw [ofValue?, toValue, fields?_object (by decide) rfl]
  simp only [functions, classes]

theorem ofJson?_toJson (style : Style) {outline : Outline} (bounded : outline.Bounded) :
    ofJson? (toJson style outline) = some outline := by
  rw [ofJson?, parse?_toJson, Option.bind_some, ofValue?_toValue bounded]

/-! ## The text of an outline -/

/-- The text of an outline stands in braces. -/
theorem toJson_braced (style : Style) (outline : Outline) :
    ∃ inner, toJson style outline = '{' :: (inner ++ ['}']) :=
  ⟨_, rfl⟩

theorem toJson_printable (outline : Outline) :
    Json.Printable (toJson Style.companion outline) := by
  have record {names texts : List Text} (each : ∀ text ∈ texts, Json.Printable text) :
      Json.Printable (Style.companion.object (names.zip texts)) :=
    Json.object_printable fun _ member => each _ (List.of_mem_zip member).2
  have list {α : Type} {write : α → Text} (each : ∀ item, Json.Printable (write item))
      (items : List α) : Json.Printable (Style.companion.array (items.map write)) :=
    Json.array_printable (List.forall_mem_map.mpr fun item _ => each item)
  have functions (entry : FunctionRecord) :
      Json.Printable (functionJson Style.companion entry) := by
    apply record
    simp [Json.string_printable, Json.decimal_printable, list Json.string_printable]
  have classes (entry : ClassRecord) : Json.Printable (classJson Style.companion entry) := by
    apply record
    simp [Json.string_printable, Json.decimal_printable]
  apply record
  simp [list functions, list classes]

end Outline

namespace Companion

theorem decode_blanks (style : Json.Style) {outline : Outline} (bounded : outline.Bounded)
    {front back : Text} (blankFront : ∀ c ∈ front, Text.isBlank c)
    (blankBack : ∀ c ∈ back, Text.isBlank c) :
    decode (front ++ Outline.toJson style outline ++ back) = .ok outline := by
  obtain ⟨inner, braced⟩ := Outline.toJson_braced style outline
  have trimmed : Text.trim (front ++ Outline.toJson style outline ++ back) =
      Outline.toJson style outline := by
    rw [braced]
    exact Text.trim_between blankFront (by decide) inner (by decide) blankBack
  rw [decode, trimmed, Outline.ofJson?_toJson style bounded]

/-- What a companion prints for an outline is read back as that outline: its
line with any blanks around it, the line as the bytes of a finished run, and
also the compact form.  The line is printable ASCII, whatever the names and
parameters are. -/
theorem decode_toJson (outline : Outline) (bounded : outline.Bounded) :
    let line := Outline.toJson Json.Style.companion outline ++ ['\n']
    (∀ front back : Text, (∀ c ∈ front, Text.isBlank c) → (∀ c ∈ back, Text.isBlank c) →
      decode (front ++ line ++ back) = .ok outline) ∧
    (∀ (companion : Companion) (errors : Bytes),
      companion.outline (.finished (.exited 0) (Text.toBytes line) errors) = .ok outline) ∧
    Json.Printable (Outline.toJson Json.Style.companion outline) ∧
    decode (Outline.toJson Json.Style.compact outline) = .ok outline := by
  intro line
  have read (front back : Text) (blankFront : ∀ c ∈ front, Text.isBlank c)
      (blankBack : ∀ c ∈ back, Text.isBlank c) : decode (front ++ line ++ back) = .ok outline := by
    have ending : ∀ c ∈ '\n' :: back, Text.isBlank c :=
      List.forall_mem_cons.mpr ⟨by decide, blankBack⟩
    have decoded := decode_blanks Json.Style.companion bounded blankFront ending
    simpa [line] using decoded
  refine ⟨read, ?_, Outline.toJson_printable outline, ?_⟩
  · intro companion errors
    have decoded := read [] [] (List.forall_mem_nil _) (List.forall_mem_nil _)
    rw [List.nil_append, List.append_nil] at decoded
    have text : Bytes.toText (Text.toBytes line) = .ok line := Bytes.toTextFrom_toBytes 0 line
    simp [Companion.outline, text, decoded]
  · have decoded := @decode_blanks Json.Style.compact outline bounded [] []
      (List.forall_mem_nil _) (List.forall_mem_nil _)
    rwa [List.nil_append, List.append_nil] at decoded

theorem decode_toJson_escaped_name :
    let outline : Outline :=
      { functions := [⟨['"', '\\', '\x01', Char.ofNat 0x1F600], [['é']], 9, 0xFFFFFFFFFFFFFFFF⟩]
        classes := [] }
    let line := "\x7b\"functions\": [\x7b\"name\": ".toList ++
      "\"\\\"\\\\\\u0001\\ud83d\\ude00\", \"params\": ".toList ++
      "[\"\\u00e9\"], \"start\": 9, \"end\": ".toList ++
      "18446744073709551615\x7d], \"classes\": []\x7d\n".toList
    outline.Bounded ∧ decode (' ' :: line ++ ['\r', '\n']) = .ok outline := by
  intro outline line
  have bounded : outline.Bounded := by decide
  have printed : Outline.toJson Json.Style.companion outline ++ ['\n'] = line := by
    decide +kernel
  have blankFront : ∀ c ∈ [' '], Text.isBlank c := List.forall_mem_singleton.mpr rfl
  have blankBack : ∀ c ∈ ['\r', '\n'], Text.isBlank c :=
    List.forall_mem_cons.mpr ⟨rfl, List.forall_mem_singleton.mpr rfl⟩
  refine ⟨bounded, ?_⟩
  rw [← printed]
  exact (decode_toJson outline bounded).1 [' '] ['\r', '\n'] blankFront blankBack

end Companion

end Marginalia
