import Marginalia.Script.Types

/-!
# Expressions in scripts

The rules for expressions.  An expression is an operand followed by operators
with further operands; precedence does not change what is accepted and is left
out.  An operand is an arrow function, an operator in front of an operand, or a
chain: a primary with accesses and calls, maybe assigned to.  The grammar takes
any chain as the target of an assignment; `Script.Target` tells which are.
-/

namespace Marginalia.Script

open Grammar (Rule)
open Grammar.Rule

/-- Expressions with commas between them. -/
def expressionsRule (mode : Mode) : ScriptRule :=
  separated (Phrase.expression mode).rule comma

/-- The expressions of a bracket. -/
def bracketed : ScriptRule :=
  (Phrase.expressions .bracketed).rule

/-- One expression inside brackets. -/
def enclosed : ScriptRule :=
  (Phrase.expression .bracketed).rule

/-- The operators between two operands. -/
def binaryOperators : List String :=
  ["&&", "||", ">>", ">>>", "<<", "&", "^", "|", "+", "-", "*", "/", "%", "**", "<", "<=", "==",
    "===", "!=", "!==", ">=", ">", "??"]

/-- The operators that assign. -/
def assignmentOperators : List String :=
  ["=", "+=", "-=", "*=", "/=", "%=", "^=", "&=", "|=", ">>=", ">>>=", "<<=", "**=", "&&=", "||=",
    "??="]

/-- A choice between two expressions.  Where the first of them swallowed the
colon as the result type of an arrow function, such types are not allowed. -/
def conditional (mode : Mode) : ScriptRule :=
  let between (typedArrow : Bool) :=
    all [sign "?", (Phrase.expression { endable := false, typedArrow }).rule, sign ":",
      (Phrase.expression mode).rule]
  any [between true, between false]

/-- An operand with the operators and operands behind it. -/
def expressionRule (mode : Mode) : ScriptRule :=
  all [(Phrase.operand mode).rule,
    many (unended mode (any [
      all [any [signs binaryOperators, words ["instanceof", "in"]], (Phrase.operand mode).rule],
      all [word "as", any [word "const", Phrase.type.rule]],
      all [word "satisfies", Phrase.type.rule],
      conditional mode]))]

/-- The parameters of an arrow function: one name, or a signature. -/
def arrowHead (mode : Mode) : ScriptRule :=
  any [all [operandName, .ahead (sign "=>")],
    all [.ahead (any [sign "(", mark "<"]), (Phrase.signature mode.typedArrow).rule]]

/-- An arrow function. -/
def arrowRule (mode : Mode) : ScriptRule :=
  all [
    any [all [leadingWord mode.endable "async", arrowHead mode], arrowHead mode],
    sign "=>",
    any [
      all [Phrase.block.rule,
        many (any [(Phrase.access mode).rule, (Phrase.invocation mode).rule])],
      (Phrase.expression mode).rule]]

/-- An operand. -/
def operandRule (dialect : Dialect) (mode : Mode) : ScriptRule :=
  any [
    (Phrase.arrow mode).rule,
    all [word "yield",
      any [all [sign "*", (Phrase.expression mode).rule],
        unended mode (Phrase.expression mode).rule, .empty]],
    all [any [signs ["!", "~", "-", "+", "++", "--"], words ["typeof", "void", "delete", "await"]],
      (Phrase.operand mode).rule],
    match dialect with
    | .casting => all [Phrase.typeArguments.rule, (Phrase.operand mode).rule]
    | .tagged => Phrase.element.rule,
    all [word "using", operandName, (Phrase.assignment mode).rule],
    all [.terminal .privateName, .ahead (word "in")],
    (Phrase.chain mode).rule]

/-- An assignment behind its target. -/
def assignmentRule (mode : Mode) : ScriptRule :=
  all [signs assignmentOperators, (Phrase.expression mode).rule]

/-- A primary with what is done to it. -/
def chainRule (mode : Mode) : ScriptRule :=
  all [(Phrase.primary mode).rule,
    many (any [(Phrase.access mode).rule, (Phrase.invocation mode).rule]),
    optional (any [(Phrase.assignment mode).rule, unended mode (signs ["++", "--"])])]

/-- The name of a member. -/
def memberName : ScriptRule :=
  any [anyName, .terminal .privateName]

/-- A part of a value that can be assigned to. -/
def accessRule (mode : Mode) : ScriptRule :=
  unended mode (any [
    all [sign ".", memberName],
    all [sign "[", bracketed, sign "]"],
    all [sign "?.", any [memberName, all [sign "[", bracketed, sign "]"]]],
    sign "!"])

/-- The beginning of an operand that no call, operator or heritage begins
with. -/
def operandAhead : ScriptRule :=
  any [all [.absent (words ["as", "satisfies", "in", "instanceof", "implements"]), anyName],
    .terminal .number, .terminal .string]

/-- A call. -/
def invocationRule (mode : Mode) : ScriptRule :=
  unended mode (any [
    Phrase.arguments.rule,
    Phrase.template.rule,
    all [sign "?.", optional Phrase.typeArguments.rule, Phrase.arguments.rule],
    all [.absent (mark "<<"), Phrase.typeArguments.rule,
      any [Phrase.arguments.rule, Phrase.template.rule, .absent operandAhead]]])

/-- The arguments of a call. -/
def argumentsRule : ScriptRule :=
  all [sign "(", sparseList (any [Phrase.spread.rule, enclosed]), sign ")"]

/-- All members of a value. -/
def spreadRule : ScriptRule :=
  all [sign "...", enclosed]

/-- A value with no operator around it. -/
def primaryRule (mode : Mode) : ScriptRule :=
  any [
    (Phrase.functionExpression mode).rule,
    Phrase.classExpression.rule,
    Phrase.arrayLiteral.rule,
    Phrase.objectLiteral.rule,
    all [sign "(", bracketed, optional typeNote, sign ")"],
    .terminal .string,
    .terminal .number,
    Phrase.template.rule,
    .terminal .pattern,
    (Phrase.construction mode).rule,
    all [word "import", .ahead (signs ["(", "."])],
    operandName]

/-- A value made by a constructor. -/
def constructionRule (mode : Mode) : ScriptRule :=
  all [word "new",
    any [
      all [sign ".", word "target"],
      all [any [(Phrase.construction mode).rule,
          all [.absent (word "new"), (Phrase.primary mode).rule, many (Phrase.access mode).rule]],
        optional Phrase.typeArguments.rule, optional Phrase.arguments.rule]]]

/-- An array. -/
def arrayLiteralRule : ScriptRule :=
  all [sign "[", sparseList (any [Phrase.spread.rule, enclosed]), sign "]"]

/-- An object.  A short property may carry a value, which only a target uses. -/
def objectLiteralRule : ScriptRule :=
  all [openBrace,
    sparseList (any [Phrase.spread.rule, Phrase.method.rule, Phrase.pair.rule,
      Phrase.shorthand.rule]),
    closeBrace]

/-- A property with its value. -/
def pairRule : ScriptRule :=
  all [Phrase.propertyName.rule, sign ":", enclosed]

/-- A method of an object. -/
def methodRule : ScriptRule :=
  all [
    many (all [words (usageWords ++ ["async", "get", "set"]),
      .absent (signs ["(", ",", "\x7d", ":", "=", "<", "?"])]),
    optional (sign "*"), Phrase.propertyName.rule, optional (mark "?"),
    (Phrase.signature true).rule, Phrase.block.rule]

/-- A property named like its value. -/
def shorthandRule : ScriptRule :=
  all [anyName, optional Phrase.coverValue.rule]

/-- The value of a short property. -/
def coverValueRule : ScriptRule :=
  all [sign "=", enclosed]

/-- The name of a property. -/
def propertyNameRule : ScriptRule :=
  any [anyName, .terminal .privateName, .terminal .string, .terminal .number,
    all [sign "[", enclosed, sign "]"]]

/-- A function as a value, with the comments in front of the end of its block. -/
def functionExpressionRule (mode : Mode) : ScriptRule :=
  all [optional (leadingWord mode.endable "async"), word "function", optional (sign "*"),
    optional Phrase.bindingName.rule, (Phrase.signature true).rule, Phrase.block.rule,
    .terminal (.remark true)]

/-- A template text with its substitutions. -/
def templateRule : ScriptRule :=
  all [mark "`",
    many (any [.terminal .templateText, .terminal .templateEscape,
      all [.terminal (.adjoined "$\x7b".toList), bracketed, closeBrace]]),
    .terminal (.adjoined "`".toList)]

/-- The name of a tag. -/
def tagName : ScriptRule :=
  all [.terminal .tagName,
    any [all [sign ":", .terminal .tagName], many (all [sign ".", .terminal .tagName])]]

/-- A value in braces between tags. -/
def tagHole : ScriptRule :=
  all [openBrace, optional (any [Phrase.spread.rule, bracketed]), closeBrace]

/-- A tag with its content. -/
def elementRule : ScriptRule :=
  let property := any [
    tagHole,
    all [.terminal .tagName, optional (all [sign ":", .terminal .tagName]),
      optional (all [sign "=", any [.terminal .tagString, tagHole, Phrase.element.rule]])]]
  let content := many (any [.terminal .tagText, .terminal .tagReference, tagHole,
    Phrase.element.rule])
  all [mark "<",
    any [
      all [mark ">", content, mark "</", mark ">"],
      all [tagName, optional Phrase.typeArguments.rule, many property,
        any [mark "/>", all [mark ">", content, mark "</", optional tagName, mark ">"]]]]]

end Marginalia.Script
