import Marginalia.Explain
import Marginalia.Language
import Marginalia.Text.Word

/-!
# Class bodies

The methods and properties of a class are found line by line in its text.  The
body of a method is what follows its line, up to the next method line of the
class.
-/

namespace Marginalia.ClassBody

/-- A name with a parameter list and an opening brace. -/
def looksLikeMethod (line : Text) : Bool :=
  let named := line.dropWhile Text.isBlank
  let beyond := named.dropWhile Text.isWord
  if named.length == beyond.length then false
  else
    match beyond.dropWhile Text.isBlank with
    | '(' :: inside =>
      match inside.dropWhile (· != ')') with
      | _ :: rest => (rest.dropWhile Text.isBlank).head? == some '{'
      | [] => false
    | _ => false

/-- Whether a line begins a method. -/
def isMethod (family : Family) (line : Text) : Bool :=
  match family with
  | .javaScript => (Text.trim line).startsWith "function".toList || looksLikeMethod line
  | .python => (Text.trim line).startsWith "def ".toList

/-- The lines that begin a method, trimmed. -/
def methods (family : Family) (text : Text) : List Text :=
  (text.lines.filter (isMethod family)).map Text.trim

/-- What a property is reached through. -/
def receiver : Family → Text
  | .javaScript => "this.".toList
  | .python => "self.".toList

/-- The properties that a line of the class begins with. -/
def properties (family : Family) (text : Text) : List Text :=
  ((text.lines.map Text.trim).filter (Text.startsWith · (receiver family))).map fun line =>
    Text.trim (Text.upTo line '=')

/-- The text between the first occurrence of a method line and the next method
line. -/
def methodBody? (text method : Text) (methods : List Text) : Option Text :=
  match text.cut? method with
  | none => none
  | some (_, rest) =>
    let next := methods.filterMap fun other =>
      if other.isEmpty then none else (Text.cut? rest other).map fun (body, _) => body.length
    match next.min? with
    | some length => some (rest.take length)
    | none => some rest

/-- The explanation of a method. -/
def explainMethod (text method : Text) (methods : List Text) : Text :=
  match methodBody? text method methods with
  | some body => Explain.functionality body
  | none => "No detailed explanation available.".toList

/-- The explanation of every property. -/
def explainProperty : Text :=
  "Stores data relevant to the class's functionality.".toList

/-- A count in decimal digits. -/
def decimal (count : Nat) : Text :=
  Nat.toDigits 10 count

/-- The explanation of a class with so many methods and properties. -/
def explainPurpose (text : Text) (methods properties : List Text) : Text :=
  "This class ".toList ++
    (if methods.isEmpty then []
      else "provides ".toList ++ decimal methods.length ++
        " method(s) to perform various operations. ".toList) ++
    (if properties.isEmpty then []
      else "It manages ".toList ++ decimal properties.length ++
        " property/properties to maintain its state. ".toList) ++
    "It appears to ".toList ++ Explain.classPurpose text ++ ['.']

end Marginalia.ClassBody
