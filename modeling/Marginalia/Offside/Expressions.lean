import Marginalia.Offside.Phrase

/-!
# Expressions of the offside language

The rules for expressions.  Arithmetic operators all share one rule, since
their precedence does not change what is accepted; the rules for comparisons
and for the words `not`, `and`, `or` stay apart, since `not` may not stand
inside arithmetic.
-/

namespace Marginalia.Offside

open Grammar (Rule)
open Grammar.Rule

/-- An expression. -/
def anExpression : OffsideRule :=
  Phrase.expression.rule

/-- An assignment inside an expression. -/
def walrus : OffsideRule :=
  all [aName, sign ":=", anExpression]

/-- An expression, or an assignment inside one. -/
def namedRule : OffsideRule :=
  any [walrus, all [anExpression, .absent (sign ":=")]]

/-- All elements of a value. -/
def starredRule : OffsideRule :=
  all [sign "*", Phrase.arithmetic.rule]

/-- An element of a list or tuple. -/
def element : OffsideRule :=
  any [Phrase.starred.rule, Phrase.named.rule]

/-- The elements behind the first one. -/
def furtherElements : OffsideRule :=
  all [many (all [comma, element]), optional comma]

/-- Expressions with commas between them. -/
def starExpressionsRule : OffsideRule :=
  commaList (any [Phrase.starred.rule, anExpression])

/-- What a generator hands out. -/
def yieldingRule : OffsideRule :=
  all [word "yield",
    any [all [word "from", anExpression], optional Phrase.starExpressions.rule]]

/-- An expression. -/
def expressionRule : OffsideRule :=
  any [Phrase.lambda.rule,
    all [Phrase.disjunction.rule,
      optional (all [word "if", Phrase.disjunction.rule, word "else", anExpression])]]

/-- A function without a name. -/
def lambdaRule : OffsideRule :=
  all [word "lambda", Phrase.bareParameters.rule, sign ":", anExpression]

/-- Alternatives. -/
def disjunctionRule : OffsideRule :=
  separated Phrase.conjunction.rule (word "or")

/-- Conditions that all have to hold. -/
def conjunctionRule : OffsideRule :=
  separated Phrase.inversion.rule (word "and")

/-- A condition or its opposite. -/
def inversionRule : OffsideRule :=
  any [all [word "not", Phrase.inversion.rule], Phrase.comparison.rule]

/-- Values compared with one another. -/
def comparisonRule : OffsideRule :=
  let comparer := any [signs ["==", "!=", "<=", "<", ">=", ">"], word "in",
    all [word "not", word "in"], all [word "is", optional (word "not")]]
  separated Phrase.arithmetic.rule comparer

/-- Values joined by arithmetic operators. -/
def arithmeticRule : OffsideRule :=
  separated Phrase.factor.rule
    (signs ["|", "^", "&", "<<", ">>", "+", "-", "*", "/", "//", "%", "@"])

/-- A value with a sign. -/
def factorRule : OffsideRule :=
  any [all [signs ["+", "-", "~"], Phrase.factor.rule], Phrase.power.rule]

/-- A power. -/
def powerRule : OffsideRule :=
  all [Phrase.awaited.rule, optional (all [sign "**", Phrase.factor.rule])]

/-- A value that may be waited for. -/
def awaitedRule : OffsideRule :=
  all [optional (word "await"), Phrase.primary.rule]

/-- An atom with what is done to it. -/
def primaryRule : OffsideRule :=
  all [Phrase.atom.rule,
    many (any [Phrase.attribute.rule, Phrase.subscript.rule, Phrase.call.rule])]

/-- A value with no operator around it. -/
def atomRule : OffsideRule :=
  any [aName, word "True", word "False", word "None", aToken .number, some1 (aToken .string),
    Phrase.parenthesis.rule, Phrase.list.rule, Phrase.brace.rule, sign "..."]

/-- A part by name. -/
def attributeRule : OffsideRule :=
  all [sign ".", aName]

/-- A part by index. -/
def subscriptRule : OffsideRule :=
  all [sign "[", commaList (any [all [sign "*", anExpression], Phrase.slice.rule]), sign "]"]

/-- An index or a range of indices. -/
def sliceRule : OffsideRule :=
  let range := all [sign ":", optional anExpression,
    optional (all [sign ":", optional anExpression])]
  any [range, walrus, all [anExpression, optional range]]

/-- A call. -/
def callRule : OffsideRule :=
  all [sign "(", optional Phrase.callArguments.rule, sign ")"]

/-- Arguments.  Plain ones come first, then named ones with starred ones among
them, then named ones with double-starred ones among them.  The first plain
one may be all there is, and `sole` be what follows it then. -/
def argumentsWith (sole : OffsideRule) : OffsideRule :=
  let plain := any [walrus, all [anExpression, .absent (sign "="), .absent (sign ":=")]]
  let starred := all [sign "*", anExpression]
  let keyword := all [aName, sign "=", anExpression]
  let doubleStarred := all [sign "**", anExpression]
  let keywords := any [
    all [separated (any [keyword, starred]) comma,
      many (all [comma, separated (any [keyword, doubleStarred]) comma])],
    separated (any [keyword, doubleStarred]) comma]
  let further := all [many (all [comma, any [starred, plain]]), optional (all [comma, keywords]),
    optional comma]
  any [
    all [plain, any [sole, further]],
    all [starred, further],
    all [keywords, optional comma]]

/-- The arguments of a class. -/
def argumentsRule : OffsideRule :=
  argumentsWith .never

/-- The arguments of a call, or a generator. -/
def callArgumentsRule : OffsideRule :=
  argumentsWith Phrase.comprehension.rule

/-- A group, a tuple or a generator. -/
def parenthesisRule : OffsideRule :=
  all [sign "(",
    any [
      Phrase.yielding.rule,
      all [Phrase.starred.rule, comma, optional (commaList element)],
      all [Phrase.named.rule,
        any [Phrase.comprehension.rule, all [comma, optional (commaList element)], .empty]],
      .empty],
    sign ")"]

/-- A list. -/
def listRule : OffsideRule :=
  all [sign "[",
    any [
      all [Phrase.named.rule, any [Phrase.comprehension.rule, furtherElements]],
      all [Phrase.starred.rule, furtherElements],
      .empty],
    sign "]"]

/-- A dictionary or a set. -/
def braceRule : OffsideRule :=
  let item := any [all [sign "**", Phrase.arithmetic.rule],
    all [anExpression, sign ":", anExpression]]
  let furtherItems := all [many (all [comma, item]), optional comma]
  all [sign "\x7b",
    any [
      all [sign "**", Phrase.arithmetic.rule, furtherItems],
      all [Phrase.starred.rule, furtherElements],
      all [walrus, any [Phrase.comprehension.rule, furtherElements]],
      all [anExpression,
        any [
          all [sign ":", anExpression, any [Phrase.comprehension.rule, furtherItems]],
          Phrase.comprehension.rule,
          furtherElements]],
      .empty],
    sign "\x7d"]

/-- The loops and conditions of a comprehension. -/
def comprehensionRule : OffsideRule :=
  some1 (all [optional (word "async"), word "for", Phrase.targets.rule, word "in",
    Phrase.disjunction.rule, many (all [word "if", Phrase.disjunction.rule])])

/-- Targets of a loop. -/
def targetsRule : OffsideRule :=
  commaList Phrase.target.rule

/-- One target. -/
def targetRule : OffsideRule :=
  any [Phrase.starred.rule, Phrase.arithmetic.rule]

/-- The expression of a formatted string, with the line that it makes up. -/
def embeddedRule : OffsideRule :=
  all [Phrase.starExpressions.rule, aToken .newline, aToken .finish]

end Marginalia.Offside
