import Marginalia.Companion
import Marginalia.FileTree
import Marginalia.Language
import Marginalia.Log
import Marginalia.Page
import Marginalia.Script.Outline

/-!
# The documentation of a file

The language of a file decides who parses it.  A file that cannot be parsed is
documented without functions and classes, and one that cannot be read is not
documented at all.  The functions here look files up in a view, which tells
what stands at a path.
-/

namespace Marginalia

/-- What stands at each path, and what prevents reading there. -/
structure View where
  entry? : Text → Option Entry
  barrier? : Text → Option Text

/-- The view of a file tree. -/
def FileTree.view (tree : FileTree) : View :=
  { entry? := tree.lookup, barrier? := tree.barrier? }

namespace View

/-- The text of a file, or what prevents reading it. -/
def read (view : View) (path : Text) : Except Text Text :=
  match view.barrier? path, view.entry? path with
  | some reason, _ => .error reason
  | none, none => .error Entry.missing
  | none, some .directory => .error Entry.isDirectory
  | none, some (.file contents) =>
    match Bytes.toText? contents with
    | none => .error "stream did not contain valid UTF-8".toList
    | some text => .ok text

end View

/-! ## Parsing -/

/-- The dialect in which the files of a language are written. -/
def Language.dialect : Language → Script.Dialect
  | .typeScript => .casting
  | _ => .tagged

/-- The outline of a source text. -/
def Language.outline (language : Language) (source : Text) : Except Failure Outline :=
  if language.hasGrammar then
    match Script.outline? language.dialect source with
    | some outline => .ok outline
    | none => .error (.parseFailure "Syntax error".toList)
  else .error (.parseFailure ("No grammar available for ".toList ++ language.name))

namespace Generator

/-- The outline of a file, or why there is none. -/
def outline (view : View) (companion : Companion) (language : Language) (path : Text) :
    Except Failure Outline :=
  match view.entry? path with
  | some (.file contents) =>
    match language.family with
    | .javaScript =>
      match view.read path with
      | .error reason => .error (.system reason)
      | .ok source => language.outline source
    | .python =>
      match companion.outline (companion.respond contents) with
      | .error failure => .error failure
      | .ok outline => .ok (outline.clamped contents.length)
  | _ => .error (.fileNotFound path)

/-- The outline of a file, which is empty if there is none. -/
def outlineOrEmpty (view : View) (companion : Companion) (language : Language) (path : Text) :
    Outline :=
  match outline view companion language path with
  | .ok outline => outline
  | .error _ => Outline.empty

/-! ## Documents -/

/-- The name of a file in the title of its page. -/
def title (path : Text) : Text :=
  (Path.fileName? path).getD path

/-- The page of a file.  It is empty for a file that is not documented. -/
def document (view : View) (companion : Companion) (path : Text) : Text :=
  match Language.ofPath path with
  | .error _ => []
  | .ok language =>
    match view.read path with
    | .error _ => []
    | .ok source =>
      let outline := outlineOrEmpty view companion language path
      Page.render (title path) source language.family (outline.clamped source.byteLength)

/-! ## Requests -/

/-- What is asked of the program. -/
structure Request where
  file : Text
  format : Text
  /-- Print the page instead of writing it. -/
  stdout : Bool

/-- What follows from a request. -/
inductive Plan where
  | write (path page : Text)
  | print (page : Text)
  | missing
  | unsupported

/-- What follows from a request.  The format makes no difference. -/
def plan (view : View) (companion : Companion) (request : Request) : Plan :=
  if (view.entry? request.file).isNone then .missing
  else
    let page := document view companion request.file
    if page.isEmpty then .unsupported
    else if request.stdout then .print page
    else .write (Path.output request.file) page

/-- What came of a request. -/
inductive Outcome where
  | written (path : Text)
  | printed (page : Text)
  | missing
  | unsupported
  deriving DecidableEq

/-- What comes of writing a page. -/
def Outcome.ofWriting (path : Text) : Except Text Unit → Except Failure Outcome
  | .ok () => .ok (.written path)
  | .error reason => .error (.system reason)

/-- Carry out what follows from a request, where a file is written by `write`. -/
def carryOut {m : Type → Type} [Monad m] (write : Text → Bytes → m (Except Text Unit)) :
    Plan → m (Except Failure Outcome)
  | .missing => return .ok .missing
  | .unsupported => return .ok .unsupported
  | .print page => return .ok (.printed page)
  | .write path page => return Outcome.ofWriting path (← write path (Text.toBytes page))

/-- Write a file into the tree that is at hand. -/
def store (path : Text) (contents : Bytes) : StateM FileTree (Except Text Unit) :=
  fun tree => tree.write path contents

/-- Carry out a request on a file tree. -/
def run (companion : Companion) (tree : FileTree) (request : Request) :
    Except Failure Outcome × FileTree :=
  carryOut store (plan tree.view companion request) tree

/-! ## Events -/

/-- The format that needs no remark. -/
def standardFormat : Text :=
  "markdown".toList

/-- The events of parsing a file. -/
def outlineEvents (view : View) (companion : Companion) (language : Language) (path : Text) :
    List Log.Event :=
  let family := language.family.title
  let asking := match language.family, view.entry? path with
    | .python, some (.file _) =>
      [{ level := .debug, origin := .companion,
         message := "Using Python script at: ".toList ++ companion.script }]
    | _, _ => []
  let finding : Log.Event := match outline view companion language path with
    | .ok outline =>
      { level := .info, origin := .parser,
        message := "Parsed ".toList ++ (Nat.repr outline.functions.length).toList ++
          " functions and ".toList ++ (Nat.repr outline.classes.length).toList ++
          " classes".toList }
    | .error failure =>
      { level := .warn, origin := .parser,
        message := "Error parsing ".toList ++ family ++ " file ".toList ++ path ++ ": ".toList ++
          failure.message }
  { level := .info, origin := .parser,
    message := "Parsing ".toList ++ family ++ " file: ".toList ++ path } :: asking ++ [finding]

/-- The events of documenting a file. -/
def documentEvents (view : View) (companion : Companion) (path format : Text) : List Log.Event :=
  let beginning : Log.Event :=
    { level := .info, origin := .generator,
      message := "Generating documentation for: ".toList ++ path }
  let remark : List Log.Event :=
    if format == standardFormat then []
    else
      [{ level := .debug, origin := .generator,
         message := "Format '".toList ++ format ++
          "' is not implemented, rendering Markdown".toList }]
  let work : List Log.Event := match Language.ofPath path with
    | .error failure => [{ level := .warn, origin := .generator, message := failure.message }]
    | .ok language =>
      outlineEvents view companion language path ++
        match view.read path with
        | .ok _ => []
        | .error reason =>
          [{ level := .warn, origin := .generator,
             message := "Failed to read ".toList ++ path ++ ": ".toList ++ reason }]
  beginning :: remark ++ work

/-- The events of planning a request. -/
def planEvents (view : View) (companion : Companion) (request : Request) : List Log.Event :=
  if (view.entry? request.file).isNone then
    [{ level := .warn, origin := .command,
       message := "File not found: ".toList ++ request.file }]
  else documentEvents view companion request.file request.format

/-- The events of an outcome. -/
def outcomeEvents : Except Failure Outcome → List Log.Event
  | .ok (.written path) =>
    [{ level := .debug, origin := .command, message := "Wrote ".toList ++ path }]
  | _ => []

end Generator

end Marginalia
