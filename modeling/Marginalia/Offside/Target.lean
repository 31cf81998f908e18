import Marginalia.Offside.Tree

/-!
# Targets and parameters

The grammar reads the left side of an assignment as an expression, and lets
parameters stand in any order.  This module goes through a finished tree from
the leaves up and tells whether targets and parameters are as they have to be.
-/

namespace Marginalia.Offside

/-- What is known about a part of a tree. -/
structure Review where
  /-- No target or parameter inside is out of place. -/
  sound : Bool
  /-- It is a name, attribute or subscript, maybe in parentheses. -/
  single : Bool
  /-- It can be assigned to. -/
  target : Bool
  /-- It can be assigned to, with a star in front. -/
  starred : Bool
  /-- It can be deleted. -/
  deletable : Bool

/-- A part with nothing to object to and nothing to assign to. -/
def Review.plain (sound : Bool) : Review :=
  { sound, single := false, target := false, starred := false, deletable := false }

/-- A name, attribute or subscript. -/
def Review.place (sound : Bool) : Review :=
  { sound, single := true, target := true, starred := false, deletable := true }

/-- A value made of parts. -/
def Review.closed (reviews : List Review) : Review :=
  Review.plain (reviews.all (·.sound))

/-- A sequence of elements, which can be assigned to when each of them can. -/
def Review.sequence (elements : List Review) : Review :=
  { sound := elements.all (·.sound)
    single := false
    target := elements.all fun element => element.target || element.starred
    starred := false
    deletable := elements.all (·.deletable) }

/-- The reviews of those parts that are no leaves. -/
def innerReviews (parts : List OffsideTree) (reviews : List Review) : List Review :=
  (parts.zip reviews).filterMap fun
    | (.leaf _, _) => none
    | (.node .., review) => some review

/-- Whether a leaf with this text is among the parts. -/
def hasLeaf (text : String) (parts : List OffsideTree) : Bool :=
  parts.any fun
    | .leaf token => token.text == text.toList
    | .node .. => false

/-- Whether a comprehension or what a generator hands out is among the parts. -/
def hasComprehension (parts : List OffsideTree) : Bool :=
  parts.any fun
    | .node .comprehension _ | .node .yielding _ => true
    | _ => false

/-! ## Parameters -/

/-- A parameter by its form. -/
inductive ParameterForm where
  /-- The mark behind parameters that have no name for the caller. -/
  | slash
  /-- The mark in front of parameters that need their name. -/
  | star
  /-- A parameter for all further values. -/
  | collector
  /-- A parameter for all further named values. -/
  | namedCollector
  | plain (hasDefault : Bool)

/-- The form of a parameter. -/
def parameterForm (parts : List OffsideTree) : ParameterForm :=
  match parts with
  | .leaf first :: rest =>
    if first.text == ['/'] then .slash
    else if first.text == ['*'] then if rest.isEmpty then .star else .collector
    else if first.text == ['*', '*'] then .namedCollector
    else .plain (rest.any fun
      | .node .defaultValue _ => true
      | _ => false)
  | _ => .plain false

/-- Whether a type with a star stands anywhere but behind a collector. -/
def starredHint (parts : List OffsideTree) : Bool :=
  !hasLeaf "*" parts && parts.any fun
    | .node .typeHint [_, .node .starred _] => true
    | _ => false

/-- Whether parameters stand in order.  `opening` says that no parameter came
so far, `slashed` that the slash came, `defaulted` that a default came. -/
def orderly (opening slashed defaulted : Bool) : List ParameterForm → Bool
  | [] => true
  | .slash :: rest => !opening && !slashed && orderly false true defaulted rest
  | .plain hasDefault :: rest =>
    (hasDefault || !defaulted) && orderly false slashed hasDefault rest
  | .star :: rest =>
    match rest with
    | .plain _ :: _ => orderlyNamed rest
    | _ => false
  | .collector :: rest => orderlyNamed rest
  | .namedCollector :: rest => rest.isEmpty
where
  /-- Whether the parameters behind a star stand in order. -/
  orderlyNamed : List ParameterForm → Bool
    | [] => true
    | .plain _ :: rest => orderlyNamed rest
    | .namedCollector :: rest => rest.isEmpty
    | _ => false

/-- The forms of a list of parameters. -/
def parameterForms (parts : List OffsideTree) : List ParameterForm :=
  parts.filterMap fun
    | .node .parameter inner | .node .bareParameter inner => some (parameterForm inner)
    | _ => none

/-! ## Phrases -/

/-- The last part of a primary, which decides whether it can be assigned to. -/
def endsWithPlace (parts : List OffsideTree) : Bool :=
  match parts.getLast? with
  | some (.node .attribute _) | some (.node .subscript _) => true
  | _ => false

/-- A group or tuple, given the reviews of its elements. -/
def reviewParenthesis (parts : List OffsideTree) (reviews : List Review) : Review :=
  let elements := innerReviews parts reviews
  if hasComprehension parts then Review.closed elements
  else if hasLeaf "," parts then Review.sequence elements
  else
    match elements with
    | [] => Review.sequence []
    | [element] => { element with starred := false }
    | _ => Review.closed elements

/-- The review of a phrase, given those of its parts. -/
def reviewPhrase (name : Phrase) (parts : List OffsideTree) (reviews : List Review) : Review :=
  match name, parts, reviews with
  | .atom, [.leaf token], _ =>
    if token.kind == .name && !reservedWords.contains token.text then Review.place true
    else Review.plain true
  | .primary, _ :: _ :: _, _ =>
    let closed := Review.closed reviews
    if endsWithPlace parts then Review.place closed.sound else closed
  | .parenthesis, _, _ => reviewParenthesis parts reviews
  | .list, _, _ =>
    let elements := innerReviews parts reviews
    if hasComprehension parts then Review.closed elements else Review.sequence elements
  | .starred, _, [_, review] =>
    { Review.plain review.sound with starred := review.target }
  | .starExpressions, _, _ =>
    if hasLeaf "," parts then Review.sequence (innerReviews parts reviews)
    else match reviews with
      | [review] => review
      | _ => Review.closed reviews
  | .targets, _, _ =>
    let elements := innerReviews parts reviews
    Review.plain (elements.all fun element => element.sound && (element.target || element.starred))
  | .withItem, _, [expression, _, target] =>
    Review.plain (expression.sound && target.sound && (target.target || target.starred))
  | .deletion, _, _ =>
    let elements := innerReviews parts reviews
    Review.plain (elements.all fun element => element.sound && element.deletable)
  | .assigning, _, _ =>
    let values := innerReviews parts reviews
    Review.plain (values.all (·.sound) &&
      values.dropLast.all fun value => value.target || value.starred)
  | .expressionStatement, [_, .node .assigning _], [target, tail] =>
    Review.plain (target.sound && tail.sound && (target.target || target.starred))
  | .expressionStatement, [_, _], [target, tail] =>
    Review.plain (target.sound && tail.sound && target.single)
  | .parameters, _, _ | .bareParameters, _, _ =>
    Review.plain ((Review.closed reviews).sound && orderly true false false (parameterForms parts))
  | .parameter, _, _ => Review.plain ((Review.closed reviews).sound && !starredHint parts)
  | _, [_], [review] => review
  | _, _, _ => Review.closed reviews

mutual

/-- The review of a tree. -/
def review : OffsideTree → Review
  | .leaf _ => Review.plain true
  | .node name parts => reviewPhrase name parts (reviewAll parts)

/-- The reviews of a list of trees. -/
def reviewAll : List OffsideTree → List Review
  | [] => []
  | tree :: more => review tree :: reviewAll more

end

end Marginalia.Offside
