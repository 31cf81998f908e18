import Marginalia.Json.Print
import Marginalia.Outline

/-!
# Outlines as JSON

The form in which a companion reports an outline.  A record is an object with
the members listed here, in any order and among others, or an array of just
these values in this order.
-/

namespace Marginalia.Outline

open Json (Value Style)

/-! ## Reading -/

/-- The values of the named fields of a record.  Each must be given exactly
once. -/
def fields? (names : List Text) : Value → Option (List Value)
  | .array elements => if elements.length == names.length then some elements else none
  | .object members =>
    if members.any (·.1.isNone) then none
    else names.mapM fun name =>
      match members.filter fun member => member.1 == some name with
      | [(_, value)] => some value
      | _ => none
  | _ => none

/-- A text. -/
def text? : Value → Option Text
  | .string value => value
  | _ => none

/-- A list of values read one by one. -/
def list? {α : Type} (read : Value → Option α) : Value → Option (List α)
  | .array elements => elements.mapM read
  | _ => none

/-- The number that digits stand for. -/
def digitsValue (digits : Text) : Nat :=
  digits.foldl (fun value c => value * 10 + (c.toNat - '0'.toNat)) 0

/-- Offsets lie below the sixty-fourth power of two. -/
def offsetLimit : Nat := 0x10000000000000000

/-- An offset, which is written in digits only. -/
def offset? : Value → Option Nat
  | .number spelling =>
    if spelling.all Json.isDigit && digitsValue spelling < offsetLimit then
      some (digitsValue spelling)
    else none
  | _ => none

/-- The members of a function record. -/
def functionFields : List Text :=
  ["name", "params", "start", "end"].map String.toList

/-- The members of a class record. -/
def classFields : List Text :=
  ["name", "start", "end"].map String.toList

/-- The members of an outline. -/
def outlineFields : List Text :=
  ["functions", "classes"].map String.toList

/-- A function record. -/
def function? (value : Value) : Option FunctionRecord :=
  match fields? functionFields value with
  | some [name, params, start, stop] =>
    match text? name, list? text? params, offset? start, offset? stop with
    | some name, some params, some start, some stop => some { name, params, start, stop }
    | _, _, _, _ => none
  | _ => none

/-- A class record. -/
def class? (value : Value) : Option ClassRecord :=
  match fields? classFields value with
  | some [name, start, stop] =>
    match text? name, offset? start, offset? stop with
    | some name, some start, some stop => some { name, start, stop }
    | _, _, _ => none
  | _ => none

/-- An outline. -/
def ofValue? (value : Value) : Option Outline :=
  match fields? outlineFields value with
  | some [functions, classes] =>
    match list? function? functions, list? class? classes with
    | some functions, some classes => some { functions, classes }
    | _, _ => none
  | _ => none

/-- The outline that a JSON text spells. -/
def ofJson? (text : Text) : Option Outline :=
  (Json.parse? text).bind ofValue?

/-! ## Writing -/

/-- A function record. -/
def functionJson (style : Style) (record : FunctionRecord) : Text :=
  style.object (functionFields.zip
    [style.string record.name, style.array (record.params.map style.string),
      Json.decimal record.start, Json.decimal record.stop])

/-- A class record. -/
def classJson (style : Style) (record : ClassRecord) : Text :=
  style.object (classFields.zip
    [style.string record.name, Json.decimal record.start, Json.decimal record.stop])

/-- An outline. -/
def toJson (style : Style) (outline : Outline) : Text :=
  style.object (outlineFields.zip
    [style.array (outline.functions.map (functionJson style)),
      style.array (outline.classes.map (classJson style))])

end Marginalia.Outline
