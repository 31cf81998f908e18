import Marginalia.Script.Expressions

/-!
# Statements in scripts

The rules for statements and declarations, from blocks and loops to classes,
exports and the declarations that only carry types.
-/

namespace Marginalia.Script

open Grammar (Rule)
open Grammar.Rule

/-- A statement. -/
def aStatement : ScriptRule :=
  Phrase.statement.rule

/-- The expressions that a statement ends with. -/
def trailing : ScriptRule :=
  (Phrase.expressions .trailing).rule

/-- Statements, with the markup comments on lines between them. -/
def statements : ScriptRule :=
  many (any [all [.terminal (.markupComment false), markupComments], aStatement])

/-- The whole script. -/
def programRule : ScriptRule :=
  all [optional (.terminal .interpreterLine), markupComments, statements, .terminal .finish]

/-- Statements in braces. -/
def blockRule : ScriptRule :=
  all [openBrace, markupComments, statements, closeBrace]

/-- An expression in parentheses. -/
def conditionRule : ScriptRule :=
  all [sign "(", bracketed, optional typeNote, sign ")"]

/-! ## Names, patterns, parameters -/

/-- A pattern or name that is bound. -/
def bindingTarget : ScriptRule :=
  any [Phrase.objectPattern.rule, Phrase.arrayPattern.rule, Phrase.bindingName.rule]

/-- A name that a parameter may have. -/
def parameterName : ScriptRule :=
  .terminal (.name (operandWords ++ ["super", "null", "true", "false"].map String.toList))

/-- A bound pattern or name, or the rest of a list of them. -/
def patternRule : ScriptRule :=
  all [optional (sign "..."),
    any [Phrase.objectPattern.rule, Phrase.arrayPattern.rule, parameterName]]

/-- The value of a parameter or pattern that is given none. -/
def defaultValueRule : ScriptRule :=
  all [sign "=", enclosed]

/-- A pattern for an object. -/
def objectPatternRule : ScriptRule :=
  let withDefault := all [Phrase.pattern.rule, optional Phrase.defaultValue.rule]
  all [openBrace,
    sparseList (any [all [Phrase.propertyName.rule, sign ":", withDefault], withDefault,
      all [anyName, optional Phrase.defaultValue.rule]]),
    closeBrace]

/-- A pattern for a list. -/
def arrayPatternRule : ScriptRule :=
  all [sign "[", sparseList (all [Phrase.pattern.rule, optional Phrase.defaultValue.rule]),
    sign "]"]

/-- A parameter. -/
def parameterRule : ScriptRule :=
  let usage := all [words ["public", "private", "protected", "override", "readonly"],
    .ahead (any [anyName, openBrace, sign "[", sign "..."])]
  all [many Phrase.decorator.rule, many usage, Phrase.pattern.rule, optional (mark "?"),
    optional typeNote, optional Phrase.defaultValue.rule]

/-- Parameters in parentheses. -/
def parametersRule : ScriptRule :=
  all [sign "(", commaList Phrase.parameter.rule, sign ")"]

/-- Type variables, parameters and the type of the result. -/
def signatureRule (typed : Bool) : ScriptRule :=
  all [optional Phrase.typeParameters.rule, Phrase.parameters.rule,
    if typed then optional resultNote else .empty]

/-! ## Variables -/

/-- A variable with its value. -/
def declarator (mode : Mode) : ScriptRule :=
  any [
    all [anyName, sign "!", typeNote],
    all [bindingTarget, optional typeNote,
      optional (all [sign "=", (Phrase.expression mode).rule])]]

/-- A declaration of variables up to its end.  `orValue` says that a value could
stand in its place. -/
def variableList (orValue : Bool) (mode : Mode) : ScriptRule :=
  all [any [leadingWord orValue "let", words ["const", "var"]], separated (declarator mode) comma]

/-! ## Functions and classes -/

/-- A function with a body, and the comments in front of its end.  `orValue` says
that a value could stand in its place. -/
def functionDeclarationRule (orValue : Bool) : ScriptRule :=
  all [optional (leadingWord orValue "async"), word "function", optional (sign "*"), Phrase.bindingName.rule,
    (Phrase.signature true).rule, Phrase.block.rule, .terminal (.remark orValue)]

/-- A function without a body. -/
def functionHeading (orValue : Bool) : ScriptRule :=
  all [optional (leadingWord orValue "async"), word "function", Phrase.bindingName.rule,
    (Phrase.signature true).rule, any [.terminal (.ending false true), sign ";"]]

/-- A decorator. -/
def decoratorRule : ScriptRule :=
  all [sign "@",
    any [all [sign "(", bracketed, sign ")"],
      all [anyName, many (all [sign ".", anyName]),
        optional (all [optional Phrase.typeArguments.rule, Phrase.arguments.rule])]]]

/-- The name of a class. -/
def className : ScriptRule :=
  all [.absent (words ["extends", "implements"]), Phrase.bindingName.rule]

/-- What a class extends and implements. -/
def heritage : ScriptRule :=
  let implemented := all [word "implements", separated Phrase.type.rule comma]
  let extended := all [word "extends",
    separated (all [enclosed, optional Phrase.typeArguments.rule]) comma]
  any [all [extended, optional implemented], implemented]

/-- A class behind its name. -/
def classRemainder : ScriptRule :=
  all [optional Phrase.typeParameters.rule, optional heritage, Phrase.classBody.rule]

/-- A class with a name.  Unless it is abstract, the comments in front of its end
belong to it. -/
def classDeclarationRule (orValue : Bool) : ScriptRule :=
  all [many Phrase.decorator.rule,
    any [all [word "abstract", word "class", className, classRemainder],
      all [word "class", className, classRemainder, .terminal (.remark orValue)]]]

/-- A class as a value. -/
def classExpressionRule : ScriptRule :=
  all [many Phrase.decorator.rule, word "class", optional className, classRemainder]

/-- The members of a class. -/
def classBodyRule : ScriptRule :=
  all [openBrace, many Phrase.member.rule, closeBrace]

/-- A member of a class. -/
def memberRule : ScriptRule :=
  let field := all [many Phrase.decorator.rule, modifiers usageWords, Phrase.propertyName.rule,
    optional (any [mark "?", sign "!"]), optional typeNote,
    optional (all [sign "=", (Phrase.expression .trailing).rule])]
  any [
    sign ";",
    all [word "static", Phrase.block.rule],
    all [many Phrase.decorator.rule, methodMember, Phrase.block.rule, optional endingExpression],
    all [any [indexMember, all [methodMember, .terminal (.ending false true)], methodMember, field],
      any [endingExpression, comma]]]

/-! ## Modules and types -/

/-- A name by which a module offers something. -/
def offeredName : ScriptRule :=
  any [anyName, .terminal .string]

/-- The module that is meant. -/
def source : ScriptRule :=
  all [word "from", .terminal .string]

/-- A name with parts. -/
def nestedName : ScriptRule :=
  separated anyName (sign ".")

/-- The names that an import binds. -/
def importClause : ScriptRule :=
  let kind := words ["type", "typeof"]
  let item := any [
    all [kind, offeredName, word "as", anyName],
    all [kind, anyName, .ahead (any [comma, closeBrace])],
    all [offeredName, word "as", anyName],
    anyName]
  let namespaceImport := all [sign "*", word "as", anyName]
  let namedImports := all [openBrace, commaList item, closeBrace]
  any [namespaceImport, namedImports,
    all [anyName, optional (all [comma, any [namespaceImport, namedImports]])]]

/-- An import. -/
def importStatement : ScriptRule :=
  let kind := words ["type", "typeof"]
  all [word "import",
    any [
      all [kind, importClause, source],
      all [importClause, source],
      all [optional kind, anyName, sign "=", word "require", sign "(", .terminal .string, sign ")"],
      .terminal .string],
    optional (all [word "with", Phrase.objectLiteral.rule]),
    ending]

/-- An export. -/
def exportationRule : ScriptRule :=
  let item := all [
    any [
      all [words ["type", "typeof"], offeredName, word "as", offeredName],
      all [words ["type", "typeof"], offeredName, .ahead (any [comma, closeBrace])],
      all [offeredName, optional (all [word "as", offeredName])]]]
  let named := all [openBrace, commaList item, closeBrace]
  let offered := any [
    all [word "default",
      any [(Phrase.declaration true).rule,
        all [(Phrase.expression .trailing).rule, endingExpression]]],
    (Phrase.declaration false).rule]
  any [
    all [leadingWord true "export",
      any [
        all [sign "*", optional (all [word "as", offeredName]), source, ending],
        all [optional (word "type"), named, optional source, ending],
        all [word "import", anyName, sign "=", nestedName, ending],
        all [sign "=", (Phrase.expression .trailing).rule, endingExpression],
        all [word "as", word "namespace", anyName, ending],
        offered]],
    all [Phrase.decorator.rule, many Phrase.decorator.rule, word "export", offered]]

/-- An enumeration. -/
def enumeration : ScriptRule :=
  let item := all [Phrase.propertyName.rule, optional Phrase.defaultValue.rule]
  all [optional (word "const"), word "enum", anyName, openBrace, commaList item, closeBrace]

/-- An interface. -/
def interface : ScriptRule :=
  all [word "interface", anyName, optional Phrase.typeParameters.rule,
    optional (all [word "extends", separated typeName comma]), Phrase.objectType.rule]

/-- A declaration. -/
def declarationRule (orValue : Bool) : ScriptRule :=
  any [
    (Phrase.functionDeclaration orValue).rule,
    functionHeading orValue,
    (Phrase.classDeclaration orValue).rule,
    enumeration,
    all [variableList orValue .trailing, endingExpression],
    all [leadingWord orValue "type", anyName, optional Phrase.typeParameters.rule, sign "=", Phrase.type.rule,
      ending],
    interface,
    all [any [leadingWord orValue "module", leadingWord orValue "namespace"], any [.terminal .string, nestedName],
      optional Phrase.block.rule],
    all [word "import", anyName, sign "=", .absent (word "require"), nestedName, ending],
    all [leadingWord orValue "declare",
      any [(Phrase.declaration false).rule, all [word "global", Phrase.block.rule],
        all [word "module", sign ".", anyName, typeNote, ending]]]]

/-! ## Control flow -/

/-- What a loop over a collection assigns to. -/
def loopTargetRule : ScriptRule :=
  (Phrase.chain .bracketed).rule

/-- A loop. -/
def forLoop : ScriptRule :=
  let iteration := all [word "for", optional (word "await"), sign "(",
    any [
      all [word "var", bindingTarget, optional Phrase.defaultValue.rule,
        .ahead (words ["in", "of"])],
      all [words ["let", "const", "using"], bindingTarget, .ahead (words ["in", "of"])],
      Phrase.loopTarget.rule],
    words ["in", "of"], bracketed, sign ")", aStatement]
  let counting := all [word "for", sign "(",
    any [all [variableList false .bracketed, sign ";"], all [bracketed, sign ";"], sign ";"],
    any [all [bracketed, sign ";"], sign ";"],
    optional bracketed, sign ")", aStatement]
  any [iteration, counting]

/-- One case of a switch. -/
def switchCaseRule : ScriptRule :=
  all [any [all [word "case", bracketed], word "default"], sign ":", markupComments, statements]

/-- A block that is tried, with what handles its failure. -/
def attempt : ScriptRule :=
  all [word "try", Phrase.block.rule,
    optional (all [word "catch",
      optional (all [sign "(", bindingTarget, optional typeNote, sign ")"]), Phrase.block.rule]),
    optional (all [word "finally", Phrase.block.rule])]

/-- The words that begin a statement, and so are no names there. -/
def statementWords : List String :=
  ["if", "for", "while", "do", "switch", "try", "with", "break", "continue", "return", "throw",
    "debugger", "var", "const", "case", "default", "abstract", "interface", "enum"]

/-- A statement. -/
def statementRule : ScriptRule :=
  any [
    semicolon,
    Phrase.block.rule,
    all [word "if", Phrase.condition.rule, aStatement, optional (all [word "else", aStatement])],
    forLoop,
    all [word "while", Phrase.condition.rule, aStatement],
    all [word "do", aStatement, word "while", Phrase.condition.rule, optional endingExpression],
    all [word "switch", Phrase.condition.rule, openBrace, many Phrase.switchCase.rule, closeBrace],
    attempt,
    all [word "with", Phrase.condition.rule, aStatement],
    all [words ["break", "continue"], any [ending, all [anyName, ending]]],
    all [word "return", any [ending, all [trailing, endingExpression]]],
    all [word "throw", trailing, endingExpression],
    all [word "debugger", ending],
    all [.absent (all [word "import", signs ["(", "."]]), importStatement],
    Phrase.exportation.rule,
    (Phrase.declaration true).rule,
    all [.absent (words statementWords), operandName, sign ":", aStatement],
    all [.absent (words statementWords), trailing, endingExpression]]

end Marginalia.Script
