import Marginalia.Offside.Expressions

/-!
# Statements of the offside language

The rules for statements, parameters and the patterns of a match.
-/

namespace Marginalia.Offside

open Grammar (Rule)
open Grammar.Rule

/-- A block behind a colon. -/
def aBlock : OffsideRule :=
  all [sign ":", Phrase.block.rule]

/-- The whole file. -/
def fileRule : OffsideRule :=
  all [many Phrase.statement.rule, aToken .finish]

/-- Indented statements, or statements on the same line. -/
def blockRule : OffsideRule :=
  any [
    all [aToken .newline, aToken .indent, some1 Phrase.statement.rule, aToken .dedent],
    Phrase.simpleStatements.rule]

/-! ## Definitions -/

/-- A decorator. -/
def decoratorRule : OffsideRule :=
  all [sign "@", Phrase.named.rule, aToken .newline]

/-- A function. -/
def functionDefinitionRule : OffsideRule :=
  all [optional (word "async"), word "def", aName, sign "(", Phrase.parameters.rule, sign ")",
    optional (all [sign "->", anExpression]), aBlock]

/-- A class. -/
def classDefinitionRule : OffsideRule :=
  all [word "class", aName,
    optional (all [sign "(", optional Phrase.arguments.rule, sign ")"]), aBlock]

/-- The parameters of a function. -/
def parametersRule : OffsideRule :=
  optional (commaList Phrase.parameter.rule)

/-- One parameter, or a mark between parameters. -/
def parameterRule : OffsideRule :=
  any [
    sign "/",
    all [sign "**", aName, optional Phrase.typeHint.rule],
    all [sign "*", optional (all [aName, optional Phrase.typeHint.rule])],
    all [aName, optional Phrase.typeHint.rule, optional Phrase.defaultValue.rule]]

/-- The parameters of a function without a name. -/
def bareParametersRule : OffsideRule :=
  optional (commaList Phrase.bareParameter.rule)

/-- One parameter without a type, or a mark between parameters. -/
def bareParameterRule : OffsideRule :=
  any [
    sign "/",
    all [sign "**", aName],
    all [sign "*", optional aName],
    all [aName, optional Phrase.defaultValue.rule]]

/-- The type of a parameter. -/
def typeHintRule : OffsideRule :=
  all [sign ":", any [Phrase.starred.rule, anExpression]]

/-- The value of a parameter that is given none. -/
def defaultValueRule : OffsideRule :=
  all [sign "=", anExpression]

/-! ## Simple statements -/

/-- The value that a statement assigns. -/
def assigned : OffsideRule :=
  any [Phrase.yielding.rule, Phrase.starExpressions.rule]

/-- Values behind equals signs.  All but the last are targets themselves. -/
def assigningRule : OffsideRule :=
  some1 (all [sign "=", assigned])

/-- The type of a target behind a colon, and maybe a value. -/
def typingRule : OffsideRule :=
  all [sign ":", anExpression, optional (all [sign "=", assigned])]

/-- An operator that changes a target, and the other operand. -/
def changingRule : OffsideRule :=
  all [signs ["+=", "-=", "*=", "@=", "/=", "%=", "&=", "|=", "^=", "<<=", ">>=", "**=", "//="],
    assigned]

/-- An expression, which may be the target of what follows it. -/
def expressionStatementRule : OffsideRule :=
  all [Phrase.starExpressions.rule,
    optional (any [Phrase.assigning.rule, Phrase.typing.rule, Phrase.changing.rule])]

/-- What a statement deletes. -/
def deletionRule : OffsideRule :=
  all [word "del", commaList Phrase.arithmetic.rule]

/-- A name with parts. -/
def dottedName : OffsideRule :=
  separated aName (sign ".")

/-- Maybe another name. -/
def otherName : OffsideRule :=
  optional (all [word "as", aName])

/-- An import. -/
def importStatement : OffsideRule :=
  let dots := signs [".", "..."]
  let item := all [aName, otherName]
  any [
    all [word "import", separated (all [dottedName, otherName]) comma],
    all [word "from", any [all [many dots, dottedName], some1 dots], word "import",
      any [sign "*", all [sign "(", commaList item, sign ")"], separated item comma]]]

/-- A statement on one line. -/
def simpleStatement : OffsideRule :=
  any [
    word "pass",
    word "break",
    word "continue",
    all [word "return", optional Phrase.starExpressions.rule],
    importStatement,
    all [word "raise", optional (all [anExpression, optional (all [word "from", anExpression])])],
    Phrase.deletion.rule,
    all [word "assert", anExpression, optional (all [comma, anExpression])],
    all [any [word "global", word "nonlocal"], separated aName comma],
    Phrase.yielding.rule,
    Phrase.expressionStatement.rule]

/-- Statements on one line. -/
def simpleStatementsRule : OffsideRule :=
  all [separated simpleStatement (sign ";"), optional (sign ";"), aToken .newline]

/-! ## Compound statements -/

/-- What is done when a loop or attempt came to its end. -/
def otherwise : OffsideRule :=
  optional (all [word "else", aBlock])

/-- An attempt. -/
def attempt : OffsideRule :=
  let closing := all [word "finally", aBlock]
  all [word "try", aBlock,
    any [
      closing,
      all [any [some1 Phrase.groupHandler.rule, some1 Phrase.handler.rule], otherwise,
        optional closing]]]

/-- What handles a failure. -/
def handlerRule : OffsideRule :=
  all [word "except", optional (all [anExpression, otherName]), aBlock]

/-- What handles a group of failures. -/
def groupHandlerRule : OffsideRule :=
  all [word "except", sign "*", anExpression, otherName, aBlock]

/-- A context. -/
def withItemRule : OffsideRule :=
  all [anExpression, optional (all [word "as", Phrase.target.rule])]

/-- A match. -/
def matchStatement : OffsideRule :=
  all [word "match",
    any [all [Phrase.starred.rule, comma, optional (commaList element)],
      all [Phrase.named.rule, optional (all [comma, optional (commaList element)])]],
    sign ":", aToken .newline, aToken .indent, some1 Phrase.case.rule, aToken .dedent]

/-- A statement. -/
def statementRule : OffsideRule :=
  any [
    all [many Phrase.decorator.rule,
      any [Phrase.functionDefinition.rule, Phrase.classDefinition.rule]],
    all [word "if", Phrase.named.rule, aBlock,
      many (all [word "elif", Phrase.named.rule, aBlock]), otherwise],
    all [word "while", Phrase.named.rule, aBlock, otherwise],
    all [optional (word "async"), word "for", Phrase.targets.rule, word "in",
      Phrase.starExpressions.rule, aBlock, otherwise],
    all [optional (word "async"), word "with",
      any [
        all [sign "(", commaList Phrase.withItem.rule, sign ")", .ahead (sign ":")],
        separated Phrase.withItem.rule comma],
      aBlock],
    attempt,
    matchStatement,
    Phrase.simpleStatements.rule]

/-! ## Patterns -/

/-- A name for what matches. -/
def capture : OffsideRule :=
  all [.absent (word "_"), aName, .absent (signs [".", "(", "="])]

/-- The rest of a sequence. -/
def restPattern : OffsideRule :=
  all [sign "*", aName]

/-- A pattern, or the rest of a sequence of them. -/
def sequenceItem : OffsideRule :=
  any [restPattern, Phrase.pattern.rule]

/-- A pattern, or a sequence of them.  A sequence has a comma. -/
def openPattern : OffsideRule :=
  let further := all [comma, optional (commaList sequenceItem)]
  any [all [restPattern, further], all [Phrase.pattern.rule, optional further]]

/-- One case of a match. -/
def caseRule : OffsideRule :=
  all [word "case", openPattern, optional (all [word "if", Phrase.named.rule]), aBlock]

/-- Alternative patterns, and maybe a name for what matches. -/
def patternRule : OffsideRule :=
  all [separated Phrase.closedPattern.rule (sign "|"), optional (all [word "as", capture])]

/-- A constant in a pattern. -/
def literalPattern : OffsideRule :=
  let plusMinus := signs ["+", "-"]
  any [
    all [optional (sign "-"), .terminal (.number false), plusMinus, .terminal (.number true)],
    all [optional (sign "-"), aToken .number, .absent plusMinus],
    some1 (aToken .string), word "None", word "True", word "False"]

/-- A name with parts, which has at least one point. -/
def valuePattern : OffsideRule :=
  all [aName, some1 (all [sign ".", aName]), .absent (signs [".", "(", "="])]

/-- A pattern for dictionaries. -/
def mappingPattern : OffsideRule :=
  let key := any [literalPattern, all [aName, some1 (all [sign ".", aName])]]
  let item := all [key, sign ":", Phrase.pattern.rule]
  let rest := all [sign "**", capture]
  all [sign "\x7b",
    any [
      all [separated item comma, optional (all [comma, rest]), optional comma],
      all [rest, optional comma],
      .empty],
    sign "\x7d"]

/-- A pattern for the instances of a class.  Named parts come last. -/
def classPattern : OffsideRule :=
  let namedParts := separated (all [aName, sign "=", Phrase.pattern.rule]) comma
  all [dottedName, sign "(",
    any [
      all [separated Phrase.pattern.rule comma, optional (all [comma, namedParts]),
        optional comma],
      all [namedParts, optional comma],
      .empty],
    sign ")"]

/-- A pattern with no operator around it. -/
def closedPatternRule : OffsideRule :=
  any [
    literalPattern,
    capture,
    word "_",
    valuePattern,
    all [sign "(", optional openPattern, sign ")"],
    all [sign "[", optional (commaList sequenceItem), sign "]"],
    mappingPattern,
    classPattern]

end Marginalia.Offside
