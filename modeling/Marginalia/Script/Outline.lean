import Marginalia.Outline
import Marginalia.Script.Target

/-!
# Outlines of scripts

The outline of a script lists the functions and classes among its direct
statements, and those that an export declares.
-/

namespace Marginalia.Script

open Grammar (Tree)

/-- The name of a declaration that an export leaves unnamed. -/
def defaultName : Text := "default".toList

/-- The name of a parameter that is no plain name. -/
def unnamedParameter : Text := "<unnamed>".toList

/-- The bytes of a token with the gap in front of it. -/
def Token.size (token : Token) : Nat :=
  Text.byteLength token.gap + Text.byteLength token.text

/-- The bytes of a tree with the gap in front of it. -/
def treeSize (tree : ScriptTree) : Nat :=
  tree.tokens.foldl (fun total token => total + token.size) 0

/-- The bytes of the gap in front of a tree. -/
def leadingGap (tree : ScriptTree) : Nat :=
  match tree.tokens with
  | [] => 0
  | token :: _ => Text.byteLength token.gap

/-- The name that a declaration binds. -/
def boundName (parts : List ScriptTree) : Text :=
  (parts.findSome? fun
    | .node .bindingName [.leaf token] => some token.text
    | _ => none).getD defaultName

/-- The name of one parameter. -/
def parameterText (parts : List ScriptTree) : Text :=
  let hasDefault := parts.any fun
    | .node .defaultValue _ => true
    | _ => false
  let name? := parts.findSome? fun
    | .node .pattern [.leaf token] => some token.text
    | _ => none
  match hasDefault, name? with
  | false, some name =>
    if name == "this".toList || name == "undefined".toList then unnamedParameter else name
  | _, _ => unnamedParameter

/-- The names of a function's parameters. -/
def parameterTexts (parts : List ScriptTree) : List Text :=
  let parameters := parts.findSome? fun
    | .node (.signature _) inner => inner.findSome? fun
      | .node .parameters list => some list
      | _ => none
    | _ => none
  (parameters.getD []).filterMap fun
    | .node .parameter inner => some (parameterText inner)
    | _ => none

/-- An entry of an outline. -/
inductive Entry where
  | function (record : FunctionRecord)
  | class (record : ClassRecord)

/-- The entry of a declaration that begins, gap included, at `offset`. -/
def record? (offset : Nat) (tree : ScriptTree) : Option Entry :=
  let start := offset + leadingGap tree
  let stop := offset + treeSize tree
  match tree with
  | .node (.functionDeclaration _) parts | .node (.functionExpression _) parts =>
    some (.function { name := boundName parts, params := parameterTexts parts, start, stop })
  | .node (.classDeclaration _) parts | .node .classExpression parts =>
    some (.class { name := boundName parts, start, stop })
  | _ => none

/-- The function or class that an exported value consists of. -/
def exportedValue? : ScriptTree → Option ScriptTree
  | .node (.expression _) [.node (.operand _) [.node (.chain _) [.node (.primary _) [value]]]] =>
    some value
  | _ => none

/-- Trees with the offset at which each begins. -/
def located (offset : Nat) : List ScriptTree → List (Nat × ScriptTree)
  | [] => []
  | tree :: more => (offset, tree) :: located (offset + treeSize tree) more

/-- Whether an export names its value the default of the module.  A value that
is assigned to the module as a whole declares nothing. -/
def isDefaultExport (parts : List ScriptTree) : Bool :=
  parts.any fun
    | .leaf token => token.text == defaultName
    | .node .. => false

/-- The function or class that a part of an export declares. -/
def exported? (isDefault : Bool) : ScriptTree → Option ScriptTree
  | .node (.declaration _) [declared] => some declared
  | part => if isDefault then exportedValue? part else none

/-- The entry of one statement. -/
def statementRecord? (offset : Nat) : ScriptTree → Option Entry
  | .node .statement [.node (.declaration _) [declared]] => record? offset declared
  | .node .statement [.node .exportation parts] =>
    (located offset parts).findSome? fun (place, part) =>
      (exported? (isDefaultExport parts) part).bind (record? place)
  | _ => none

/-- The outline of a script's tree. -/
def outlineOf (tree : ScriptTree) : Outline :=
  let entries := (located 0 tree.parts).filterMap fun (offset, part) => statementRecord? offset part
  { functions := entries.filterMap fun
      | .function record => some record
      | .class _ => none
    classes := entries.filterMap fun
      | .class record => some record
      | .function _ => none }

/-- The outline of a script, unless it is malformed. -/
def outline? (dialect : Dialect) (text : Text) : Option Outline :=
  match parse? dialect text with
  | none => none
  | some tree => if (review tree).sound then some (outlineOf tree) else none

end Marginalia.Script
