import Marginalia.Script.Phrase

/-!
# Types in scripts

The rules for type expressions: unions of units, function and constructor
types, object types with their members, tuples, and the notes that attach a
type to a name or to a function's result.
-/

namespace Marginalia.Script

open Grammar (Rule)
open Grammar.Rule

/-- A type behind a colon. -/
def typeNote : ScriptRule :=
  all [sign ":", Phrase.type.rule]

/-- The statement that a name has a type. -/
def predicate : ScriptRule :=
  all [anyName, word "is", Phrase.type.rule]

/-- What a function says about its result. -/
def resultClaim : ScriptRule :=
  any [all [word "asserts", any [predicate, anyName]], predicate, Phrase.type.rule]

/-- The type of a result behind a colon. -/
def resultNote : ScriptRule :=
  all [sign ":", resultClaim]

/-- Union or intersection of units, with an operator allowed in front. -/
def unionRule : ScriptRule :=
  let joint := any [sign "|", sign "&"]
  all [optional joint, Phrase.typeUnit.rule,
    many (all [joint, optional joint, Phrase.typeUnit.rule])]

/-- A type: a union, or a choice by whether one type extends another. -/
def typeRule : ScriptRule :=
  all [Phrase.union.rule,
    optional (all [.absent (.terminal (.ending false false)), word "extends", Phrase.union.rule,
      mark "?", Phrase.type.rule, sign ":", Phrase.type.rule])]

/-- The types of a generic application. -/
def typeArgumentsRule : ScriptRule :=
  all [mark "<", separated Phrase.type.rule comma, optional comma, mark ">"]

/-- The type variables of a declaration. -/
def typeParametersRule : ScriptRule :=
  let parameter := all [optional (all [word "const", .ahead anyName]), anyName,
    optional (all [any [word "extends", sign ":"], Phrase.type.rule]),
    optional (all [sign "=", Phrase.type.rule])]
  all [mark "<", separated parameter comma, optional comma, mark ">"]

/-- A name with parts, applied to types. -/
def typeName : ScriptRule :=
  all [.terminal (.name (["typeof", "keyof", "new"].map String.toList)),
    many (all [sign ".", anyName]), optional Phrase.typeArguments.rule]

/-- The type of a template text. -/
def templateType : ScriptRule :=
  all [mark "`",
    many (any [.terminal .templateText, .terminal .templateEscape,
      all [.terminal (.adjoined "$\x7b".toList), Phrase.type.rule, closeBrace]]),
    .terminal (.adjoined "`".toList)]

/-- A type without operators in front of it or brackets behind it. -/
def typePrimary : ScriptRule :=
  any [
    all [sign "(", Phrase.type.rule, sign ")"],
    Phrase.objectType.rule,
    all [sign "[", commaList Phrase.tupleMember.rule, sign "]"],
    templateType,
    .terminal .string,
    .terminal .number,
    all [signs ["-", "+"], .terminal .number],
    all [mark "?", Phrase.typeUnit.rule],
    sign "*",
    all [word "unique", word "symbol"],
    all [word "import", Phrase.arguments.rule, many (all [sign ".", anyName]),
      optional Phrase.typeArguments.rule],
    typeName]

/-- The value whose type is asked for. -/
def typeQuery : ScriptRule :=
  all [word "typeof",
    any [all [word "import", Phrase.arguments.rule], anyName],
    many (all [sign ".", any [anyName, .terminal .privateName]]),
    optional Phrase.typeArguments.rule]

/-- One member of a union. -/
def typeUnitRule : ScriptRule :=
  let indices := many (all [.absent (.terminal (.ending false false)), sign "[",
    optional Phrase.type.rule, sign "]"])
  any [
    all [optional Phrase.typeParameters.rule, Phrase.parameters.rule, sign "=>", resultClaim],
    all [optional (word "abstract"), word "new", optional Phrase.typeParameters.rule,
      Phrase.parameters.rule, sign "=>", Phrase.type.rule],
    all [word "readonly", Phrase.type.rule],
    all [word "infer", anyName,
      optional (all [word "extends", Phrase.union.rule, .absent (mark "?")])],
    all [word "keyof", Phrase.typeUnit.rule],
    all [typeQuery, indices],
    all [typePrimary, indices]]

/-- One place of a tuple. -/
def tupleMemberRule : ScriptRule :=
  any [
    all [sign "...", any [all [anyName, typeNote], Phrase.type.rule]],
    all [anyName, optional (mark "?"), typeNote],
    all [Phrase.type.rule, optional (mark "?")]]

/-- Words in front of a member's name.  Each of them may be the name itself. -/
def modifiers (spellings : List String) : ScriptRule :=
  many (all [words spellings, .absent (.terminal (.ending false false)),
    .absent (any [signs ["(", "=", ";", ",", "\x7d", "?", "!", ":", "<"], .terminal .finish])])

/-- Words that say how a member may be used. -/
def usageWords : List String :=
  ["public", "private", "protected", "static", "override", "readonly", "abstract", "declare",
    "accessor"]

/-- A member that stands for any key, or for each key of a type. -/
def indexMember : ScriptRule :=
  all [
    optional (all [optional (signs ["+", "-"]), word "readonly"]),
    sign "[",
    anyName,
    any [typeNote, all [word "in", Phrase.type.rule, optional (all [word "as", Phrase.type.rule])]],
    sign "]",
    any [all [optional (signs ["+", "-"]), mark "?", typeNote], typeNote]]

/-- A method without a body. -/
def methodMember : ScriptRule :=
  all [modifiers (usageWords ++ ["async", "get", "set"]), optional (sign "*"),
    Phrase.propertyName.rule, optional (mark "?"), .absent (.terminal (.ending false false)),
    (Phrase.signature true).rule]

/-- One member of an object type. -/
def typeMemberRule : ScriptRule :=
  any [
    (Phrase.signature true).rule,
    all [optional (word "abstract"), word "new", optional Phrase.typeParameters.rule,
      Phrase.parameters.rule, optional typeNote],
    indexMember,
    methodMember,
    all [modifiers usageWords, Phrase.propertyName.rule, optional (mark "?"), optional typeNote]]

/-- An object type. -/
def objectTypeRule : ScriptRule :=
  let separator := any [comma, ending]
  all [openBrace,
    optional (all [optional (signs [",", ";"]), separated Phrase.typeMember.rule separator,
      optional separator]),
    closeBrace]

end Marginalia.Script
