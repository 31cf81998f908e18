import Marginalia.Script.Statements

/-!
# The grammar of scripts

The rule of every phrase, and the parser that follows from them.
-/

namespace Marginalia.Script

open Grammar (Rule Tree)

/-- The rule of a phrase. -/
def grammar (dialect : Dialect) : Phrase → ScriptRule
  | .program => programRule
  | .statement => statementRule
  | .block => blockRule
  | .condition => conditionRule
  | .declaration orValue => declarationRule orValue
  | .exportation => exportationRule
  | .functionDeclaration orValue => functionDeclarationRule orValue
  | .classDeclaration orValue => classDeclarationRule orValue
  | .loopTarget => loopTargetRule
  | .switchCase => switchCaseRule
  | .bindingName => anyName
  | .signature typed => signatureRule typed
  | .parameters => parametersRule
  | .parameter => parameterRule
  | .defaultValue => defaultValueRule
  | .pattern => patternRule
  | .objectPattern => objectPatternRule
  | .arrayPattern => arrayPatternRule
  | .classBody => classBodyRule
  | .member => memberRule
  | .decorator => decoratorRule
  | .expressions mode => expressionsRule mode
  | .expression mode => expressionRule mode
  | .operand mode => operandRule dialect mode
  | .arrow mode => arrowRule mode
  | .chain mode => chainRule mode
  | .assignment mode => assignmentRule mode
  | .primary mode => primaryRule mode
  | .access mode => accessRule mode
  | .invocation mode => invocationRule mode
  | .arguments => argumentsRule
  | .arrayLiteral => arrayLiteralRule
  | .objectLiteral => objectLiteralRule
  | .pair => pairRule
  | .method => methodRule
  | .shorthand => shorthandRule
  | .coverValue => coverValueRule
  | .spread => spreadRule
  | .propertyName => propertyNameRule
  | .functionExpression mode => functionExpressionRule mode
  | .classExpression => classExpressionRule
  | .construction mode => constructionRule mode
  | .template => templateRule
  | .element => elementRule
  | .type => typeRule
  | .union => unionRule
  | .typeUnit => typeUnitRule
  | .typeArguments => typeArgumentsRule
  | .typeParameters => typeParametersRule
  | .objectType => objectTypeRule
  | .typeMember => typeMemberRule
  | .tupleMember => tupleMemberRule

/-- The tree of a script. -/
abbrev ScriptTree := Tree Phrase Token

/-- Phrases nest at most this deep without reading a character. -/
def nestingPerCharacter : Nat := 100

/-- Parse a whole script. -/
def parse? (dialect : Dialect) (text : Text) : Option ScriptTree :=
  let size := text.length + 1
  match Grammar.parse (grammar dialect) Lexeme.read size (nestingPerCharacter * size) .program
      (Cursor.at text) with
  | some (tree, _) => some tree
  | none => none

end Marginalia.Script
