import Marginalia.Script.Tree

/-!
# Assignment targets

The grammar reads the left side of an assignment as an expression, and lets a
short property carry a value, since what it reads may turn out to be a pattern.
This module goes through a finished tree from the leaves up and tells whether
every assignment has a target on its left, and whether every such value stands
in a target.
-/

namespace Marginalia.Script

/-- What can be done with an expression. -/
inductive Role where
  /-- It is only a value. -/
  | value
  /-- It is a name, a member or a parenthesis, and can be assigned to. -/
  | place
  /-- It is an array or object of targets, and can be assigned to. -/
  | pattern
  /-- It is an assignment, and so a target with a default inside a pattern. -/
  | defaulted

/-- It can be assigned to. -/
def Role.isTarget : Role → Bool
  | .place | .pattern => true
  | .value | .defaulted => false

/-- It can stand inside a pattern. -/
def Role.isElement : Role → Bool
  | .value => false
  | .place | .pattern | .defaulted => true

/-- What is known about a part of a tree. -/
structure Review where
  /-- No assignment inside lacks a target. -/
  sound : Bool
  role : Role
  /-- It holds a short property with a value, and so has to become a target. -/
  pending : Bool

/-- A part with nothing to object to and nothing to assign to. -/
def Review.plain : Review :=
  { sound := true, role := .value, pending := false }

/-- A value whose parts must stand by themselves. -/
def Review.closed (reviews : List Review) : Review :=
  { sound := reviews.all fun review => review.sound && !review.pending
    role := .value, pending := false }

/-- Words that name a value which cannot be assigned to. -/
def fixedWords : List Text :=
  ["this", "super", "null", "true", "false", "import"].map String.toList

/-- A leaf that is a whole operand. -/
def reviewLeaf (text : Text) : Review :=
  { Review.plain with
    role := if nameLength text != 0 && !fixedWords.contains text then .place else .value }

/-- An array or object, given the reviews of its elements. -/
def reviewLiteral (elements : List Review) : Review :=
  { sound := elements.all (·.sound)
    role := if elements.all (·.role.isElement) then .pattern else .value
    pending := elements.any (·.pending) }

/-- The reviews of those parts that are no leaves. -/
def inner (parts : List ScriptTree) (reviews : List Review) : List Review :=
  (parts.zip reviews).filterMap fun
    | (.leaf _, _) => none
    | (.node .., review) => some review

/-- The operator of an assignment, if the tree is one. -/
def assigns? : ScriptTree → Option Text
  | .node (.assignment _) (.leaf operator :: _) => some operator.text
  | _ => none

/-- What an access or call makes of the value in front of it. -/
def suffixRole : ScriptTree → Role
  | .node (.access _) _ => .place
  | _ => .value

/-- A chain, given its primary and the reviews of its other parts. -/
def reviewChain (primary : Review) (others : List ScriptTree) (reviews : List Review) : Review :=
  let suffixes := others.filter fun part => (assigns? part).isNone
  let base : Review :=
    match suffixes.getLast? with
    | none => primary
    | some last =>
      { sound := (Review.closed (primary :: reviews)).sound, role := suffixRole last
        pending := false }
  match others.findSome? assigns? with
  | none => base
  | some operator =>
    let fits := if operator == ['='] then base.role.isTarget else
      match base.role with
      | .place => true
      | _ => false
    { sound := base.sound && fits && (Review.closed reviews).sound
      role := if operator == ['='] then .defaulted else .value
      pending := false }

/-- The review of a phrase, given those of its parts. -/
def reviewPhrase (name : Phrase) (parts : List ScriptTree) (reviews : List Review) : Review :=
  match name, parts, reviews with
  | .primary _, [.leaf token], _ => reviewLeaf token.text
  | .primary _, [_], [review] => review
  | .primary _, _, _ => { Review.closed reviews with role := .place }
  | .expression _, [_], [review] => review
  | .operand _, [_], [review] => review
  | .chain _, _ :: others, primary :: rest => reviewChain primary others rest
  | .loopTarget, [_], [review] =>
    { Review.plain with sound := review.sound && review.role.isTarget }
  | .arrayLiteral, _, _ => reviewLiteral (inner parts reviews)
  | .objectLiteral, _, _ => reviewLiteral (inner parts reviews)
  | .spread, _, [_, review] =>
    { review with role := if review.role.isTarget then review.role else .value }
  | .pair, _, [key, _, review] => { review with sound := review.sound && key.sound && !key.pending }
  | .shorthand, [_, _], [_, review] =>
    { sound := review.sound, role := .defaulted, pending := true }
  | .shorthand, _, _ => { Review.plain with role := .place }
  | _, _, _ => Review.closed reviews

mutual

/-- The review of a tree. -/
def review : ScriptTree → Review
  | .leaf _ => Review.plain
  | .node name parts => reviewPhrase name parts (reviewAll parts)

/-- The reviews of a list of trees. -/
def reviewAll : List ScriptTree → List Review
  | [] => []
  | tree :: more => review tree :: reviewAll more

end

end Marginalia.Script
