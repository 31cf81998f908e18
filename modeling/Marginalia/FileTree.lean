import Marginalia.Path
import Marginalia.Text.Bytes

/-!
# File trees

A file tree holds files and directories, each found by the names that lead to it
from the root.  A path is followed one piece after the other, from the root if it
begins with a slash and from the working directory otherwise.  What the holder of
a tree does not let its users do stands in the tree's limits.
-/

namespace Marginalia

/-- What stands in a file tree. -/
inductive Entry where
  | file (contents : Bytes)
  | directory
  deriving DecidableEq

/-- What is said where nothing stands. -/
def Entry.missing : Text :=
  "No such file or directory (os error 2)".toList

/-- What is said where a directory has to stand and does not. -/
def Entry.noDirectory : Text :=
  "Not a directory (os error 20)".toList

/-- What is said where a file has to stand and a directory does. -/
def Entry.isDirectory : Text :=
  "Is a directory (os error 21)".toList

/-- What the holder of a tree refuses, each with the reason that is given. -/
structure Limits where
  /-- Paths that are not followed, such as those that are too long. -/
  path? : Text → Option Text
  /-- Names of what may not be read. -/
  reading? : List Text → Option Text
  /-- Names under which no file can be opened for writing. -/
  writing? : List Text → Option Text
  /-- How many bytes fit into a file. -/
  room? : List Text → Option (Nat × Text)

namespace Limits

/-- Nothing is refused. -/
def none : Limits :=
  { path? := fun _ => .none, reading? := fun _ => .none, writing? := fun _ => .none,
    room? := fun _ => .none }

/-- What a file holds after contents were written to it, and whether all of them
fitted. -/
def fill (limits : Limits) (names : List Text) (contents : Bytes) : Bytes × Except Text Unit :=
  match limits.room? names with
  | some (room, reason) =>
    if room < contents.length then (contents.take room, .error reason) else (contents, .ok ())
  | .none => (contents, .ok ())

end Limits

/-- Files and directories by the names that lead to them. -/
structure FileTree where
  entries : List (List Text × Entry)
  /-- The names that lead to the directory from which paths are followed. -/
  workingDirectory : List Text
  limits : Limits

namespace FileTree

/-- The tree with nothing but its root, which is the working directory. -/
def empty : FileTree :=
  { entries := [], workingDirectory := [], limits := .none }

/-- What the names lead to.  No names lead to the root. -/
def get? (tree : FileTree) (names : List Text) : Option Entry :=
  if names.isEmpty then some .directory else tree.entries.lookup names

/-- Entries with one of them replaced or added. -/
def put (names : List Text) (entry : Entry) : List (List Text × Entry) → List (List Text × Entry)
  | [] => [(names, entry)]
  | (found, old) :: rest =>
    if found == names then (found, entry) :: rest else (found, old) :: put names entry rest

/-- The tree with an entry replaced or added. -/
def set (tree : FileTree) (names : List Text) (entry : Entry) : FileTree :=
  { tree with entries := put names entry tree.entries }

/-! ## Following paths -/

/-- Follow one piece of a path.  Above the root there is the root again. -/
def step (tree : FileTree) (names : List Text) (piece : Text) : Option (List Text) :=
  match tree.get? names with
  | some .directory =>
    if piece.isEmpty || piece == ['.'] then some names
    else if piece == ['.', '.'] then some names.dropLast
    else (tree.get? (names ++ [piece])).map fun _ => names ++ [piece]
  | _ => none

/-- Follow the pieces of a path. -/
def follow (tree : FileTree) (names : List Text) (pieces : List Text) : Option (List Text) :=
  pieces.foldlM tree.step names

/-- Where a path starts. -/
def start (tree : FileTree) (path : Text) : List Text :=
  if path.head? == some '/' then [] else tree.workingDirectory

/-- Where a path leads.  The empty path leads nowhere. -/
def spot? (tree : FileTree) (path : Text) : Option (List Text) :=
  if path.isEmpty || (tree.limits.path? path).isSome then none
  else tree.follow (tree.start path) (Path.pieces path)

/-- What stands at a path. -/
def lookup (tree : FileTree) (path : Text) : Option Entry :=
  (tree.spot? path).bind tree.get?

/-- What prevents reading at a path. -/
def barrier? (tree : FileTree) (path : Text) : Option Text :=
  (tree.limits.path? path).or ((tree.spot? path).bind tree.limits.reading?)

/-! ## Changes -/

/-- The names under which a path opens a file for writing, or what prevents it. -/
def open? (tree : FileTree) (path : Text) : Except Text (List Text) :=
  match tree.limits.path? path with
  | some reason => .error reason
  | none =>
    match tree.follow (tree.start path) (Path.pieces path).dropLast,
      (Path.pieces path).getLast? with
    | some above, some name =>
      match tree.get? above, tree.lookup path with
      | some .directory, some .directory => .error Entry.isDirectory
      | some .directory, _ =>
        match tree.limits.writing? (above ++ [name]) with
        | some reason => .error reason
        | none => .ok (above ++ [name])
      | _, _ => .error Entry.noDirectory
    | _, _ => .error Entry.missing

/-- Write a file into a directory that is there.  Where the contents do not fit,
the file is left with their first part. -/
def write (tree : FileTree) (path : Text) (contents : Bytes) : Except Text Unit × FileTree :=
  match tree.open? path with
  | .error reason => (.error reason, tree)
  | .ok names =>
    let (stored, result) := tree.limits.fill names contents
    (result, tree.set names (.file stored))

/-- The names that a path spells, whether something stands there or not. -/
def spelled (tree : FileTree) (path : Text) : List Text :=
  tree.start path ++ Path.components path

/-- The tree with a directory added, and all directories above it. -/
def addDirectory (tree : FileTree) (path : Text) : FileTree :=
  let names := tree.spelled path
  (List.range names.length).foldl
    (fun tree index =>
      let above := names.take (index + 1)
      if (tree.get? above).isSome then tree else tree.set above .directory)
    tree

/-- The tree with a file added, and all directories above it. -/
def addFile (tree : FileTree) (path : Text) (contents : Bytes) : FileTree :=
  let names := tree.spelled path
  let above := '/' :: names.dropLast.flatMap (· ++ ['/'])
  (tree.addDirectory above).set names (.file contents)

/-- The tree without what stands at a path, if anything does. -/
def remove? (tree : FileTree) (path : Text) : Option FileTree :=
  (tree.spot? path).map fun names =>
    { tree with entries := tree.entries.filter fun entry => !names.isPrefixOf entry.1 }

/-! ## Listing -/

/-- The entries below the working directory, by the names that lead from there
to them. -/
def below (tree : FileTree) : List (List Text × Entry) :=
  tree.entries.filterMap fun (names, entry) =>
    match tree.workingDirectory.isPrefixOf names, names.drop tree.workingDirectory.length with
    | true, name :: more => some (name :: more, entry)
    | _, _ => none

/-- The path of an entry.  Directories end with a slash. -/
def entryPath (entry : List Text × Entry) : Text :=
  let path := List.intercalate ['/'] entry.1
  match entry.2 with
  | .file _ => path
  | .directory => path ++ ['/']

/-- The paths of all entries below the working directory, in the order of their
characters. -/
def paths (tree : FileTree) : List Text :=
  (tree.below.map entryPath).mergeSort fun first second => !decide (second < first)

/-- The files below the working directory whose path ends with `ending`, with what
they hold. -/
def filesEnding (tree : FileTree) (ending : Text) : List (Text × Bytes) :=
  tree.below.filterMap fun
    | (names, .file contents) =>
      let path := List.intercalate ['/'] names
      if ending.isSuffixOf path then some (path, contents) else none
    | (_, .directory) => none

end FileTree

end Marginalia
