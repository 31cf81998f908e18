import Marginalia.ClassBody
import Marginalia.Comment
import Marginalia.Outline
import Marginalia.Tag

/-!
# Pages

The page of a file says what the file's comments say, what it imports, and
something about every function and class of its outline.  `Page.of` collects
these notes, `Page.text` lays them out as Markdown.
-/

namespace Marginalia

/-- What a page says about a function. -/
structure FunctionNote where
  name : Text
  description : Text
  /-- Each parameter with its description. -/
  parameters : List (Text × Text)
  result : Text
  functionality : Text

/-- What a page says about a class. -/
structure ClassNote where
  name : Text
  description : Text
  /-- Each method with its explanation. -/
  methods : List (Text × Text)
  /-- Each property with its explanation. -/
  properties : List (Text × Text)
  purpose : Text

/-- What a page says. -/
structure Page where
  fileName : Text
  overview : Text
  imports : List Text
  functions : List FunctionNote
  classes : List ClassNote

/-! ## Collecting -/

/-- The note on a function.  Tags above the declaration count like tags inside
it. -/
def FunctionNote.of (family : Family) (source : Text) (record : FunctionRecord) : FunctionNote :=
  let body := source.slice record.start record.stop
  let leading := Comment.leading family source record.start
  let context := leading ++ body
  { name := record.name
    description := Comment.declarationDescription family leading body
    parameters := record.params.map fun name =>
      (name, Tag.parameterDescription family name context)
    result := Tag.resultDescription family context
    functionality := Explain.functionality body }

/-- The note on a class. -/
def ClassNote.of (family : Family) (source : Text) (record : ClassRecord) : ClassNote :=
  let body := source.slice record.start record.stop
  let leading := Comment.leading family source record.start
  let methods := ClassBody.methods family body
  let properties := ClassBody.properties family body
  { name := record.name
    description := Comment.declarationDescription family leading body
    methods := methods.map fun method => (method, ClassBody.explainMethod body method methods)
    properties := properties.map fun name => (name, ClassBody.explainProperty)
    purpose := ClassBody.explainPurpose body methods properties }

/-- The page of a file. -/
def Page.of (fileName source : Text) (family : Family) (outline : Outline) : Page :=
  { fileName
    overview := Comment.fileDescription source
    imports := Tag.imports family source
    functions := outline.functions.map (FunctionNote.of family source)
    classes := outline.classes.map (ClassNote.of family source) }

/-! ## Layout -/

namespace Page

/-- A paragraph, left out when it is empty. -/
def paragraph (text : Text) : Text :=
  if text.isEmpty then [] else text ++ "\n\n".toList

/-- A list line: code with its explanation. -/
def bullet (entry : Text × Text) : Text :=
  "- `".toList ++ entry.1 ++ "`: ".toList ++ entry.2 ++ ['\n']

/-- A bold label with its lines and an empty line below them. -/
def labelled (label : String) (body : Text) : Text :=
  "**".toList ++ label.toList ++ ":**\n".toList ++ body ++ ['\n']

/-- A list below a bold label, left out when it is empty. -/
def labelledList (label : String) (entries : List (Text × Text)) : Text :=
  if entries.isEmpty then [] else labelled label (entries.flatMap bullet)

/-- What stands in place of an empty list of parameters. -/
def noParameters : Text :=
  "This function does not take any parameters.\n".toList

/-- The section of a function. -/
def functionText (note : FunctionNote) : Text :=
  "### ".toList ++ note.name ++ "\n\n".toList ++ paragraph note.description ++
    labelled "Parameters"
      (if note.parameters.isEmpty then noParameters else note.parameters.flatMap bullet) ++
    (if note.result.isEmpty then [] else labelled "Returns" (note.result ++ ['\n'])) ++
    labelled "Functionality" (note.functionality ++ ['\n'])

/-- The section of a class. -/
def classText (note : ClassNote) : Text :=
  "### ".toList ++ note.name ++ "\n\n".toList ++ paragraph note.description ++
    labelledList "Methods" note.methods ++ labelledList "Properties" note.properties ++
    labelled "Purpose" (note.purpose ++ ['\n'])

/-- A chapter with its heading, left out when it is empty. -/
def chapter (title : String) (body : Text) : Text :=
  if body.isEmpty then [] else "## ".toList ++ title.toList ++ "\n\n".toList ++ body

/-- The list of imports with the sentence that introduces it. -/
def importsText (imports : List Text) : Text :=
  if imports.isEmpty then []
  else
    "This file relies on the following external modules:\n\n".toList ++
      imports.flatMap (fun line => "- ".toList ++ line ++ ['\n']) ++ ['\n']

/-- The page as Markdown. -/
def text (page : Page) : Text :=
  "# Documentation for ".toList ++ page.fileName ++ "\n\n".toList ++
    chapter "Overview" (paragraph page.overview) ++
    chapter "Dependencies" (importsText page.imports) ++
    chapter "Functions" (page.functions.flatMap functionText) ++
    chapter "Classes" (page.classes.flatMap classText)

/-- The page of a file as Markdown. -/
def render (fileName source : Text) (family : Family) (outline : Outline) : Text :=
  (Page.of fileName source family outline).text

end Page

end Marginalia
