import Marginalia.Grammar.Rule
import Marginalia.Script.Lexeme

/-!
# Phrases of scripts

The phrases that the script grammar is written in, and the small rules that its
parts share.  Braces, which open blocks as well as objects, have names of their
own here.
-/

namespace Marginalia.Script

open Grammar (Rule)

/-- The two dialects: in one an angle bracket in front of an operand casts, in
the other it opens a tag. -/
inductive Dialect where
  | casting
  | tagged

/-- Where an expression stands. -/
structure Mode where
  /-- A line break may end the statement here. -/
  endable : Bool
  /-- An arrow function may state its result type. -/
  typedArrow : Bool

/-- An expression inside brackets. -/
def Mode.bracketed : Mode :=
  { endable := false, typedArrow := true }

/-- An expression that a statement ends with. -/
def Mode.trailing : Mode :=
  { endable := true, typedArrow := true }

/-- The same place inside brackets, with the same arrow functions. -/
def Mode.inner (mode : Mode) : Mode :=
  { mode with endable := false }

/-- The phrases of a script. -/
inductive Phrase where
  -- statements
  | program
  | statement
  | block
  | condition
  | declaration (orValue : Bool)
  | exportation
  | functionDeclaration (orValue : Bool)
  | classDeclaration (orValue : Bool)
  | loopTarget
  | switchCase
  -- names and parameters
  | bindingName
  | signature (typed : Bool)
  | parameters
  | parameter
  | defaultValue
  | pattern
  | objectPattern
  | arrayPattern
  -- classes
  | classBody
  | member
  | decorator
  -- expressions
  | expressions (mode : Mode)
  | expression (mode : Mode)
  | operand (mode : Mode)
  | arrow (mode : Mode)
  | chain (mode : Mode)
  | assignment (mode : Mode)
  | primary (mode : Mode)
  | access (mode : Mode)
  | invocation (mode : Mode)
  | arguments
  | arrayLiteral
  | objectLiteral
  | pair
  | method
  | shorthand
  | coverValue
  | spread
  | propertyName
  | functionExpression (mode : Mode)
  | classExpression
  | construction (mode : Mode)
  | template
  | element
  -- types
  | type
  | union
  | typeUnit
  | typeArguments
  | typeParameters
  | objectType
  | typeMember
  | tupleMember

/-- A rule of the script grammar. -/
abbrev ScriptRule := Rule Phrase Lexeme

/-- A phrase as a rule. -/
def Phrase.rule (phrase : Phrase) : ScriptRule :=
  .phrase phrase

open Grammar.Rule

/-- A word. -/
def word (spelling : String) : ScriptRule :=
  .terminal (.word spelling.toList)

/-- One of several words. -/
def words (spellings : List String) : ScriptRule :=
  any (spellings.map word)

/-- An operator. -/
def sign (spelling : String) : ScriptRule :=
  .terminal (.operator [spelling.toList])

/-- One of several operators. -/
def signs (spellings : List String) : ScriptRule :=
  .terminal (.operator (spellings.map String.toList))

/-- Characters that need not be a whole operator. -/
def mark (spelling : String) : ScriptRule :=
  .terminal (.mark spelling.toList)

/-- Any name. -/
def anyName : ScriptRule :=
  .terminal (.name [])

/-- The words that begin an operand, and so are no names there. -/
def operandWords : List Text :=
  ["function", "class", "new", "typeof", "void", "delete", "await", "yield", "import"].map
    String.toList

/-- A name where an operand may stand. -/
def operandName : ScriptRule :=
  .terminal (.name operandWords)

/-- An opening brace. -/
def openBrace : ScriptRule :=
  sign "\x7b"

/-- A closing brace. -/
def closeBrace : ScriptRule :=
  sign "\x7d"

/-- A comma. -/
def comma : ScriptRule :=
  sign ","

/-- Items with commas between them, and maybe one at the end. -/
def commaList (item : ScriptRule) : ScriptRule :=
  optional (all [separated item comma, optional comma])

/-- Items with commas between them, any of which may be left out. -/
def sparseList (item : ScriptRule) : ScriptRule :=
  separated (optional item) comma

/-- Comments in the manner of markup where nothing else has begun. -/
def markupComments : ScriptRule :=
  many (.terminal (.markupComment true))

/-- A semicolon, with the markup comments that may follow it. -/
def semicolon : ScriptRule :=
  all [sign ";", markupComments]

/-- The end of a statement whose last part is no expression. -/
def ending : ScriptRule :=
  any [.terminal (.ending false false), semicolon]

/-- The end of a statement whose last part may be an expression. -/
def endingExpression : ScriptRule :=
  any [.terminal (.ending true false), semicolon, .terminal (.ending false false)]

/-- A word that something begins with.  Where the word may also be a name that a
statement ends with, it does not begin anything if the statement ends behind it. -/
def leadingWord (endable : Bool) (spelling : String) : ScriptRule :=
  if endable then .seq (word spelling) (.absent (.terminal (.ending true false)))
  else word spelling

/-- The rule, unless the statement could end in front of it. -/
def unended (mode : Mode) (item : ScriptRule) : ScriptRule :=
  if mode.endable then .seq (.absent (.terminal (.ending true false))) item else item

end Marginalia.Script
