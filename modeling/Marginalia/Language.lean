import Marginalia.Failure
import Marginalia.Path

/-!
# Languages

The languages that can be documented, and how a file's name tells its language.
Languages that are documented by the same rules form a family.
-/

namespace Marginalia

/-- A group of languages with the same comments and keywords. -/
inductive Family where
  | javaScript
  | python
  deriving DecidableEq

/-- What begins a line comment. -/
def Family.marker : Family → Text
  | .javaScript => "//".toList
  | .python => "#".toList

/-- The name of the family as log messages give it. -/
def Family.title : Family → Text
  | .javaScript => "JavaScript".toList
  | .python => "Python".toList

/-- A language of source files. -/
inductive Language where
  | javaScript
  | jsx
  | typeScript
  | tsx
  | python
  deriving DecidableEq

namespace Language

/-- The family of a language. -/
def family : Language → Family
  | .python => .python
  | _ => .javaScript

/-- The name of a language. -/
def name : Language → Text
  | .javaScript => "javascript".toList
  | .jsx => "jsx".toList
  | .typeScript => "typescript".toList
  | .tsx => "tsx".toList
  | .python => "python".toList

/-- Whether files of the language are parsed without a companion. -/
def hasGrammar (language : Language) : Bool :=
  language != .python

/-- The language of a file extension, whatever its letter case.  No letter
outside ASCII has one of the letters of these extensions as its lower case. -/
def ofExtension (extension : Text) : Except Failure Language :=
  match String.ofList (extension.map Char.toLower) with
  | "js" | "mjs" | "cjs" => .ok .javaScript
  | "jsx" => .ok .jsx
  | "ts" => .ok .typeScript
  | "tsx" => .ok .tsx
  | "py" => .ok .python
  | _ => .error (.unsupportedLanguage ('.' :: extension))

/-- The language of the file at a path. -/
def ofPath (path : Text) : Except Failure Language :=
  match Path.extension? path with
  | some extension => ofExtension extension
  | none => .error (.unsupportedLanguage "none".toList)

end Language

end Marginalia
