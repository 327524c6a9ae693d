import FieldInjection.Configuration.Load

/-!
# Files

The command line works on a tree of files without links.  A path is a sequence of steps, each of
which can only be taken from a directory.  Empty steps and single points stay where they are, and
two points lead back.

## Main Definitions

* `FileContent`, `File`, `FileTree`: files with their contents.
* `pathSteps`: the steps of a path.
* `FileTree.walk`, `FileTree.lookup`: the file that a path leads to.
* `FileTree.read`: the text of a file.
* `FileTree.put`, `FileTree.write`: the tree with something else in a file.
* `FileTree.sources`: the C# files at or below a path.
* `FileTree.changes`: the texts that have to be written to get from one tree to another.
-/

namespace FieldInjection.CommandLine

/-- What a file holds. -/
inductive FileContent where
  /-- A text. -/
  | text (content : Text)
  /-- Bytes that may or may not be a text. -/
  | bytes (content : List UInt8)
  deriving DecidableEq, Repr

/-- The text that a file holds. -/
def FileContent.read : FileContent → Except ReadFailure Text
  | text content => .ok content
  | bytes content =>
    match decodeUtf8? content with
    | some decoded => .ok decoded
    | none => .error .notText

/-- A file. -/
structure File where
  /-- Where the file is. -/
  path : Text
  /-- What it holds. -/
  content : FileContent
  deriving DecidableEq, Repr

/-- Files, and directories besides those that hold files. -/
structure FileTree where
  /-- The files. -/
  files : List File
  /-- Further directories. -/
  directories : List Text
  deriving DecidableEq, Repr

/-! ### Paths -/

/-- One step along a path from a place, which is given by the steps to it, the last one first. -/
def pathStep (place : List Text) (step : Text) : List Text :=
  if step = [] || step = ['.'] then place
  else if step = ['.', '.'] then
    match place with
    | [] => [step]
    | last :: rest =>
      if last = ['.', '.'] then step :: place else if last = ['/'] then place else rest
  else step :: place

/-- Where a path begins: at the root for an absolute path, else in the current directory. -/
def pathStart (path : Text) : List Text :=
  if path.head? = some '/' then [['/']] else []

/-- The steps to the place that a path leads to if all its steps can be taken. -/
def pathSteps (path : Text) : List Text :=
  ((path.splitOn '/').foldl pathStep (pathStart path)).reverse

/-- A path below another one. -/
def joinPath (path : Text) (steps : List Text) : Text :=
  let below := ['/'].intercalate steps
  if path.getLast? = some '/' then path ++ below else path ++ '/' :: below

/-- What follows the last point of a file's name, if a point stands behind its first character. -/
def extension? (name : Text) : Option Text :=
  match name.cutLast? '.' with
  | some (stem, ending) => if stem.isEmpty then none else some ending
  | none => none

/-- Whether a path leads to a C# file, by the name of the file. -/
def isSourcePath (steps : List Text) : Bool :=
  (steps.getLast?.bind extension?) = some ['c', 's']

/-- The order of texts by their characters. -/
def textLe : Text → Text → Bool
  | [], _ => true
  | _ :: _, [] => false
  | a :: as, b :: bs => if a = b then textLe as bs else a.toNat < b.toNat

namespace FileTree

/-! ### Looking up -/

/-- The file at some steps. -/
def file? (tree : FileTree) (steps : List Text) : Option File :=
  tree.files.find? fun file => pathSteps file.path = steps

/-- Whether some steps lead to a directory.  The root, the current directory and those around it are
always there. -/
def isDirectory (tree : FileTree) (steps : List Text) : Bool :=
  steps.all (fun step => step = ['/'] || step = ['.', '.']) ||
    tree.directories.any (fun path => steps.isPrefixOf (pathSteps path)) ||
    tree.files.any fun file =>
      steps.isPrefixOf (pathSteps file.path) && steps.length < (pathSteps file.path).length

/-- Takes some steps from a place.  A step can be taken from a directory only. -/
def walk (tree : FileTree) : List Text → List Text → Except ReadFailure (List Text)
  | place, [] => .ok place
  | place, step :: steps =>
    if tree.isDirectory place.reverse then tree.walk (pathStep place step) steps
    else if (tree.file? place.reverse).isSome then .error .notDirectory
    else .error .missing

/-- The file that a path leads to. -/
def lookup (tree : FileTree) (path : Text) : Except ReadFailure File :=
  if path.isEmpty then .error .missing
  else
    match tree.walk (pathStart path) (path.splitOn '/') with
    | .error failure => .error failure
    | .ok place =>
      match tree.file? place.reverse with
      | some file => .ok file
      | none => .error (if tree.isDirectory place.reverse then .isDirectory else .missing)

/-- The text of the file that a path leads to. -/
def read (tree : FileTree) (path : Text) : Except ReadFailure Text := do
  (← tree.lookup path).content.read

/-- Whether a path leads anywhere. -/
def pathExists (tree : FileTree) (path : Text) : Bool :=
  match tree.lookup path with
  | .ok _ | .error .isDirectory => true
  | .error _ => false

/-- The C# files at or below a path, under the names by which they are reached from it, in order. -/
def sources (tree : FileTree) (path : Text) : List (Text × File) :=
  match tree.lookup path with
  | .ok file => if isSourcePath (pathSteps path) then [(path, file)] else []
  | .error _ =>
    let steps := pathSteps path
    let below := tree.files.filterMap fun file =>
      let fileSteps := pathSteps file.path
      if steps.isPrefixOf fileSteps && isSourcePath fileSteps then
        some (joinPath path (fileSteps.drop steps.length), file)
      else none
    below.mergeSort fun a b => textLe a.1 b.1

/-! ### Writing -/

/-- The tree with something else in the file that a path leads to. -/
def put (tree : FileTree) (path : Text) (content : FileContent) : FileTree :=
  { tree with files := tree.files.map fun file =>
      if pathSteps file.path = pathSteps path then { file with content } else file }

/-- The tree with another text in the file that a path leads to. -/
def write (tree : FileTree) (path text : Text) : FileTree :=
  tree.put path (.text text)

/-- The paths and texts of the files that are different in a tree that came from this one by
writing. -/
def changes (before after : FileTree) : List (Text × Text) :=
  (before.files.zip after.files).filterMap fun (old, new) =>
    match new.content with
    | .text text => if old.content = new.content then none else some (old.path, text)
    | .bytes _ => none

end FileTree
end FieldInjection.CommandLine
