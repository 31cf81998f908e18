import Marginalia.Text.Lines

/-!
# Explanations by keyword

A function is explained by the keywords that occur in its lines, and a class by
those that occur in its text.  Each keyword stands for a clause of the sentence
or for the purpose it ends with; of several purposes the first one counts.
-/

namespace Marginalia.Explain

/-- Keywords with what any of them stands for. -/
structure Hint where
  keywords : List Text
  meaning : Text

/-- A hint written as strings. -/
def Hint.of (keywords : List String) (meaning : String) : Hint :=
  { keywords := keywords.map String.toList, meaning := meaning.toList }

/-- Whether one of the keywords occurs in a text. -/
def Hint.occursIn (hint : Hint) (text : Text) : Bool :=
  hint.keywords.any text.contains

/-- What keywords say about the behaviour of a function. -/
def behaviours : List Hint :=
  [.of ["if", "else"] "contains conditional logic. ",
    .of ["for", "while"] "includes looping or iteration. ",
    .of ["try", "catch"] "handles errors or exceptions. ",
    .of ["return"] "returns a value. ",
    .of ["await", "async"] "performs asynchronous operations. "]

/-- What keywords say about the purpose of a function. -/
def functionPurposes : List Hint :=
  [.of ["fetch", "http"] "interact with an external API or service",
    .of ["fs", "readFile", "writeFile"] "perform file system operations",
    .of ["Math", "calculate"] "perform mathematical calculations"]

/-- What keywords say about the purpose of a class. -/
def classPurposes : List Hint :=
  [.of ["render", "component"] "be a UI component or view",
    .of ["model", "schema"] "represent a data model or structure",
    .of ["service", "api"] "provide a service or API interface"]

/-- The meaning of the first hint that occurs in one of the texts. -/
def firstMeaning (hints : List Hint) (texts : List Text) (otherwise : Text) : Text :=
  match hints.find? fun hint => texts.any hint.occursIn with
  | some hint => hint.meaning
  | none => otherwise

/-- The purpose of a function with these lines. -/
def functionPurpose (lines : List Text) : Text :=
  firstMeaning functionPurposes lines "process data or perform a specific task".toList

/-- The purpose of a class with this text. -/
def classPurpose (text : Text) : Text :=
  firstMeaning classPurposes [text] "encapsulate related functionality and data".toList

/-- The explanation of a function with this text. -/
def functionality (text : Text) : Text :=
  let lines := text.lines.map Text.trim
  let clauses := behaviours.filter fun hint => lines.any hint.occursIn
  "This function ".toList ++ clauses.flatMap (·.meaning) ++ "It appears to ".toList ++
    functionPurpose lines ++ ['.']

end Marginalia.Explain
