import Marginalia.Offside.Statements

/-!
# The grammar of the offside language

The rule of every phrase, and the parser that follows from them.
-/

namespace Marginalia.Offside

open Grammar (Tree)

/-- The rule of a phrase. -/
def grammar : Phrase → OffsideRule
  | .file => fileRule
  | .statement => statementRule
  | .simpleStatements => simpleStatementsRule
  | .block => blockRule
  | .decorator => decoratorRule
  | .functionDefinition => functionDefinitionRule
  | .classDefinition => classDefinitionRule
  | .parameters => parametersRule
  | .parameter => parameterRule
  | .bareParameters => bareParametersRule
  | .bareParameter => bareParameterRule
  | .typeHint => typeHintRule
  | .defaultValue => defaultValueRule
  | .expressionStatement => expressionStatementRule
  | .assigning => assigningRule
  | .typing => typingRule
  | .changing => changingRule
  | .deletion => deletionRule
  | .handler => handlerRule
  | .groupHandler => groupHandlerRule
  | .withItem => withItemRule
  | .targets => targetsRule
  | .target => targetRule
  | .case => caseRule
  | .pattern => patternRule
  | .closedPattern => closedPatternRule
  | .yielding => yieldingRule
  | .starExpressions => starExpressionsRule
  | .starred => starredRule
  | .named => namedRule
  | .expression => expressionRule
  | .lambda => lambdaRule
  | .disjunction => disjunctionRule
  | .conjunction => conjunctionRule
  | .inversion => inversionRule
  | .comparison => comparisonRule
  | .arithmetic => arithmeticRule
  | .factor => factorRule
  | .power => powerRule
  | .awaited => awaitedRule
  | .primary => primaryRule
  | .atom => atomRule
  | .attribute => attributeRule
  | .subscript => subscriptRule
  | .call => callRule
  | .arguments => argumentsRule
  | .callArguments => callArgumentsRule
  | .slice => sliceRule
  | .parenthesis => parenthesisRule
  | .list => listRule
  | .brace => braceRule
  | .comprehension => comprehensionRule
  | .embedded => embeddedRule

/-- The tree of a file or expression. -/
abbrev OffsideTree := Tree Phrase Token

/-- Phrases nest at most this deep without reading a token. -/
def nestingPerToken : Nat := 100

/-- Parse all tokens as one phrase. -/
def parse? (phrase : Phrase) (tokens : List Token) : Option OffsideTree :=
  let size := tokens.length + 1
  match Grammar.parse grammar Terminal.read size (nestingPerToken * size) phrase tokens with
  | some (tree, []) => some tree
  | _ => none

end Marginalia.Offside
