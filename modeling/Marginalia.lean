import Marginalia.ClassBody
import Marginalia.CommandLine
import Marginalia.Comment
import Marginalia.Companion
import Marginalia.Explain
import Marginalia.Failure
import Marginalia.FileTree
import Marginalia.Generator
import Marginalia.Grammar.Rule
import Marginalia.Host
import Marginalia.Json.Print
import Marginalia.Json.Token
import Marginalia.Json.Value
import Marginalia.Language
import Marginalia.Log
import Marginalia.Main
import Marginalia.Offside.Charset
import Marginalia.Offside.Expressions
import Marginalia.Offside.Literal
import Marginalia.Offside.Outline
import Marginalia.Offside.Phrase
import Marginalia.Offside.Source
import Marginalia.Offside.Statements
import Marginalia.Offside.Target
import Marginalia.Offside.Token
import Marginalia.Offside.Tree
import Marginalia.Outline
import Marginalia.Outline.Json
import Marginalia.Page
import Marginalia.Path
import Marginalia.Program
import Marginalia.Proofs.ByteOffset
import Marginalia.Proofs.Clamp
import Marginalia.Proofs.CommandLine
import Marginalia.Proofs.CommentRun
import Marginalia.Proofs.Declaration
import Marginalia.Proofs.Derivation
import Marginalia.Proofs.DocBlock
import Marginalia.Proofs.Document
import Marginalia.Proofs.FileTree
import Marginalia.Proofs.Gap
import Marginalia.Proofs.Headings
import Marginalia.Proofs.Json
import Marginalia.Proofs.Lexeme
import Marginalia.Proofs.MethodBody
import Marginalia.Proofs.Note
import Marginalia.Proofs.Occurrence
import Marginalia.Proofs.OutlineJson
import Marginalia.Proofs.Program
import Marginalia.Proofs.Requests
import Marginalia.Proofs.ScriptOutline
import Marginalia.Proofs.ScriptTree
import Marginalia.Proofs.Section
import Marginalia.Proofs.Stage
import Marginalia.Proofs.StrictCut
import Marginalia.Proofs.Tag
import Marginalia.Proofs.TagLine
import Marginalia.Proofs.TagTable
import Marginalia.Proofs.Text
import Marginalia.Proofs.Utf8
import Marginalia.Proofs.WholeCharacters
import Marginalia.Script.Expressions
import Marginalia.Script.Lexeme
import Marginalia.Script.Outline
import Marginalia.Script.Phrase
import Marginalia.Script.Statements
import Marginalia.Script.Target
import Marginalia.Script.Tree
import Marginalia.Script.Types
import Marginalia.Tag
import Marginalia.Text.Basic
import Marginalia.Text.Bytes
import Marginalia.Text.Combining
import Marginalia.Text.Composite
import Marginalia.Text.Letter
import Marginalia.Text.Lines
import Marginalia.Text.Normal
import Marginalia.Text.Variant
import Marginalia.Text.Word
import Marginalia.Proofs.Itemized
import Marginalia.Proofs.MethodSearch
import Marginalia.Proofs.ResultTag
import Marginalia.Proofs.LineTable
import Marginalia.Proofs.LinePosition
import Marginalia.Proofs.TokenPlace
import Marginalia.Proofs.FileForm
import Marginalia.Proofs.DefinitionTree
import Marginalia.Proofs.DefinitionSpan
import Marginalia.Proofs.Keyword
import Marginalia.Proofs.Linewise
import Marginalia.Proofs.Overview
import Marginalia.Proofs.JsonGrammar
import Marginalia.Proofs.OutlineText
