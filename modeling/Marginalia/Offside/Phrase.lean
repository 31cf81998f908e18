import Marginalia.Grammar.Rule
import Marginalia.Offside.Token

/-!
# Phrases of the offside language

The phrases that the grammar is written in, the terminals that it reads, and
the small rules that its parts share.
-/

namespace Marginalia.Offside

open Grammar (Rule)

/-- What the grammar asks for at the next token. -/
inductive Terminal where
  /-- A word with this spelling. -/
  | word (spelling : Text)
  /-- A name that is no reserved word. -/
  | name
  /-- One of these operators. -/
  | operator (spellings : List Text)
  /-- A number, imaginary or not. -/
  | number (imaginary : Bool)
  /-- A token of a kind. -/
  | kind (kind : Kind)

/-- The reserved words. -/
def reservedWords : List Text :=
  ["False", "None", "True", "and", "as", "assert", "async", "await", "break", "class", "continue",
    "def", "del", "elif", "else", "except", "finally", "for", "from", "global", "if", "import",
    "in", "is", "lambda", "nonlocal", "not", "or", "pass", "raise", "return", "try", "while",
    "with", "yield"].map String.toList

/-- Whether a token is what a terminal asks for. -/
def Terminal.accepts (terminal : Terminal) (token : Token) : Bool :=
  match terminal with
  | .word spelling => token.kind == .name && token.text == spelling
  | .name => token.kind == .name && !reservedWords.contains token.text
  | .operator spellings => token.kind == .operator && spellings.contains token.text
  | .number imaginary =>
    token.kind == .number &&
      imaginary == (token.text.getLast? == some 'j' || token.text.getLast? == some 'J')
  | .kind wanted => token.kind == wanted

/-- Read a terminal. -/
def Terminal.read (terminal : Terminal) : List Token → Option (Option Token × List Token)
  | [] => none
  | token :: rest => if terminal.accepts token then some (some token, rest) else none

/-- The phrases of a file. -/
inductive Phrase where
  -- statements
  | file
  | statement
  | simpleStatements
  | block
  | decorator
  | functionDefinition
  | classDefinition
  | parameters
  | parameter
  /-- The parameters of a function without a name, which have no types. -/
  | bareParameters
  | bareParameter
  | typeHint
  | defaultValue
  | expressionStatement
  | assigning
  | typing
  | changing
  | deletion
  | handler
  | groupHandler
  | withItem
  -- targets
  | targets
  | target
  -- patterns
  | case
  | pattern
  | closedPattern
  -- expressions
  | yielding
  | starExpressions
  | starred
  | named
  | expression
  | lambda
  | disjunction
  | conjunction
  | inversion
  | comparison
  | arithmetic
  | factor
  | power
  | awaited
  | primary
  | atom
  | attribute
  | subscript
  | call
  | arguments
  | callArguments
  | slice
  | parenthesis
  | list
  | brace
  | comprehension
  /-- The expression of a formatted string. -/
  | embedded

/-- A rule of the grammar. -/
abbrev OffsideRule := Rule Phrase Terminal

/-- A phrase as a rule. -/
def Phrase.rule (phrase : Phrase) : OffsideRule :=
  .phrase phrase

open Grammar.Rule

/-- A word. -/
def word (spelling : String) : OffsideRule :=
  .terminal (.word spelling.toList)

/-- An operator. -/
def sign (spelling : String) : OffsideRule :=
  .terminal (.operator [spelling.toList])

/-- One of several operators. -/
def signs (spellings : List String) : OffsideRule :=
  .terminal (.operator (spellings.map String.toList))

/-- A name. -/
def aName : OffsideRule :=
  .terminal .name

/-- A token of a kind. -/
def aToken (kind : Kind) : OffsideRule :=
  .terminal (.kind kind)

/-- A comma. -/
def comma : OffsideRule :=
  sign ","

/-- One match or more. -/
def some1 (item : OffsideRule) : OffsideRule :=
  .seq item (many item)

/-- One item or more with commas between them, and maybe one at the end. -/
def commaList (item : OffsideRule) : OffsideRule :=
  .seq (separated item comma) (optional comma)

end Marginalia.Offside
