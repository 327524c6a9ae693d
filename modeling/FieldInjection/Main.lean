import FieldInjection.CommandLine.Run

/-!
# The program

The program looks at the files that its arguments name, lets `CommandLine.System.run` decide what
happens to them, and then writes and prints what the report says.

## Main Definitions

* `CommandLine.observe`, `CommandLine.walkDisk`: a path as it is on disk, and all that is below it.
* `CommandLine.systemFor`: what a run on disk relies on.
* `main`: the program.
-/

namespace FieldInjection.CommandLine

/-- The files and directories of two trees. -/
def FileTree.append (tree other : FileTree) : FileTree :=
  ⟨tree.files ++ other.files, tree.directories ++ other.directories⟩

/-- The file or the directory at a path, without what the directory holds. -/
def observe (path : Text) : IO FileTree :=
  try
    let place ← IO.FS.realPath path.asString
    if ← place.isDir then return ⟨[], [path]⟩
    else return ⟨[⟨path, .bytes (← IO.FS.readBinFile path.asString).toList⟩], []⟩
  catch _ => return ⟨[], []⟩

/-- The directories on the way to what a path leads to. -/
def observeWay (path : Text) : IO FileTree := do
  let mut way : FileTree := ⟨[], []⟩
  let steps := path.splitOn '/'
  for count in List.range steps.length do
    let place := ['/'].intercalate (steps.take count)
    unless place.isEmpty do
      way := way.append ⟨[], (← observe place).directories⟩
  return way

/-- All that is at a path or below it; links on the way are not followed. -/
partial def walkDisk (path : Text) : IO FileTree := do
  let mut tree ← observe path
  if tree.directories.isEmpty then return tree
  for entry in ← (← IO.FS.realPath path.asString).readDir do
    let link := (← entry.path.symlinkMetadata).type matches .symlink
    unless link do
      tree := tree.append (← walkDisk (joinPath path [entry.fileName.toList]))
  return tree

/-- The part of the disk that an invocation is about. -/
def Invocation.surroundings (invocation : Invocation) : IO FileTree := do
  let config ← match invocation.config with
    | some path => pure ((← observeWay path).append (← observe path))
    | none => pure ⟨[], []⟩
  let subject ← match invocation.command with
    | .check path _ | .apply path _ _ _ => pure ((← observeWay path).append (← observe path))
    | .scan path _ => pure ((← observeWay path).append (← walkDisk path))
  return config.append subject

/-- Why a file cannot be opened to be written, if it cannot. -/
def writeFailure? (path : Text) : IO (Option WriteFailure) :=
  try
    let _ ← IO.FS.Handle.mk path.asString .readWrite
    return none
  catch failure => return some ⟨toString failure, none⟩

/-- The system that a command line is run on. -/
def systemFor (arguments : List Text) : IO System := do
  match Reading.ofArguments arguments with
  | .command ⟨_, _, .apply path _ true _⟩ =>
    let failure ← writeFailure? path
    return { System.standard with
      writeFailure? := fun other => if other = path then failure else none }
  | _ => return .standard

/-- Runs a command line on the disk; the answer is the exit code. -/
def execute (arguments : List Text) : IO UInt32 := do
  let level ← match ← IO.getEnv "RUST_LOG" with
    | some name => pure (LogLevel.ofName name.toList)
    | none => pure LogLevel.warn
  let system ← systemFor arguments
  let tree ← match system.readArguments arguments with
    | .command invocation => invocation.surroundings
    | .answered .. => pure ⟨[], []⟩
  let report := system.run arguments level tree
  for (path, text) in tree.changes report.tree do
    IO.FS.writeFile path.asString text.asString
  IO.print report.out
  IO.eprint report.err
  return report.code.toUInt32

end FieldInjection.CommandLine

/-- The program: one command on the files that it names. -/
def main (arguments : List String) : IO UInt32 :=
  FieldInjection.CommandLine.execute (arguments.map String.toList)
