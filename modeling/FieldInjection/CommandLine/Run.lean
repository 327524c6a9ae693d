import FieldInjection.CommandLine.Arguments
import FieldInjection.CommandLine.FileTree
import FieldInjection.Session

/-!
# Running a command

A run takes a tree of files and a command line, and ends in an exit code, two printed texts and the
tree as it is afterwards.  Only `apply` with its option to write changes a file.

## Main Definitions

* `LogLevel`: how much is logged.
* `Report`: how a run ends.
* `System`: what a run relies on.
* `OpenFile`: a file as an editor.
* `runCheck`, `runApply`, `runScan`: the commands.
* `System.run`: a whole command line.
-/

namespace FieldInjection.CommandLine

/-! ### Logging -/

/-- How much is logged. -/
inductive LogLevel where
  /-- Nothing. -/
  | off
  /-- Errors, of which there are none. -/
  | error
  /-- Files that are passed over. -/
  | warn
  /-- The same. -/
  | info
  /-- Also every injection. -/
  | debug
  /-- The same. -/
  | trace
  deriving DecidableEq, Repr

namespace LogLevel

/-- How much a level lets through. -/
def rank : LogLevel → Nat
  | off => 0
  | error => 1
  | warn => 2
  | info => 3
  | debug => 4
  | trace => 5

/-- The level of a given name, or that of warnings. -/
def ofName (name : Text) : LogLevel :=
  let lower := name.map Char.toLower
  if lower = "off".toList then off
  else if lower = "error".toList then error
  else if lower = "info".toList then info
  else if lower = "debug".toList then debug
  else if lower = "trace".toList then trace
  else warn

/-- A line that is logged at the given level, if the level in force lets it through. -/
def line (inForce level : LogLevel) (text : String) : String :=
  if level.rank ≤ inForce.rank then text ++ "\n" else ""

end LogLevel

/-- The line that is logged about an injection. -/
def injectionLog (backend : Backend) (text field : Text) (outcome : Outcome) : String :=
  "DEBUG inject field=" ++ field.quoted.asString ++
    " backend=" ++ (Text.quoted backend.name.toList).asString ++
    " decision=" ++ outcome.plan.text ++
    " lines_in=" ++ toString (Snapshot.ofText text).size ++
    " lines_out=" ++ toString (outcome.text.splitOn '\n').length

/-- The line that is logged about a file that is passed over. -/
def skippedLog (path : Text) (failure : ReadFailure) : String :=
  "WARN skipping unreadable file path=" ++ path.asString ++ " error=" ++ failure.message

/-! ### Reports -/

/-- How a run ends. -/
structure Report where
  /-- The exit code. -/
  code : Nat
  /-- What is printed as the result. -/
  out : String
  /-- What is printed besides. -/
  err : String
  /-- The files afterwards. -/
  tree : FileTree
  deriving DecidableEq, Repr

/-- A run that fails with a diagnostic. -/
def failed (tree : FileTree) (diagnostic : Diagnostic) (source path : Text) : Report :=
  ⟨1, "", diagnostic.render source path.asString, tree⟩

/-- A line that says that something was done. -/
def doneLine (message : String) : String :=
  "  ✓ " ++ message ++ "\n"

/-! ### What a run relies on -/

/-- Why a text cannot be written to a file. -/
structure WriteFailure where
  /-- The failure in words. -/
  message : String
  /-- What the file holds afterwards, if something was written before the failure. -/
  remains : Option FileContent
  deriving DecidableEq, Repr

/-- What is said about a file that cannot be written. -/
def WriteFailure.diagnostic (failure : WriteFailure) : Diagnostic :=
  ⟨.inputOutput, failure.message, none, none⟩

/-- What a run relies on. -/
structure System where
  /-- What becomes of a command line. -/
  readArguments : List Text → Reading
  /-- The parser for C#. -/
  parser : CSharp.SyntaxParser
  /-- Why the file at a path cannot be written, if it cannot. -/
  writeFailure? : Text → Option WriteFailure

/-- A system with the readers of this library, in which every file can be written. -/
def System.standard : System := ⟨Reading.ofArguments, CSharp.parse, fun _ => none⟩

/-! ### Open files -/

/-- A file as an editor.  Its transactions are written only if that is asked for. -/
structure OpenFile where
  /-- Where the file is. -/
  path : Text
  /-- The text that was read from it. -/
  text : Text
  /-- The field that is meant. -/
  field : Option Text
  /-- Whether transactions are written. -/
  write : Bool
  /-- Why the file cannot be written, if it cannot. -/
  failure : Option WriteFailure
  /-- The text of the last transaction. -/
  committed : Option Text
  /-- All files. -/
  tree : FileTree

/-- Replaces the text in one transaction, unless it has to be written and cannot. -/
def OpenFile.commit (file : OpenFile) (text : Text) : Except Diagnostic Unit × OpenFile :=
  if !file.write then (.ok (), { file with committed := some text })
  else
    match file.failure with
    | none =>
      (.ok (), { file with committed := some text, tree := file.tree.write file.path text })
    | some failure =>
      (.error failure.diagnostic,
        { file with tree := (failure.remains.map (file.tree.put file.path)).getD file.tree })

instance : Editor OpenFile := ⟨OpenFile.text, OpenFile.field, OpenFile.commit⟩

/-- A file that has just been opened, with the field that is meant. -/
def System.opened (system : System) (tree : FileTree) (path text field : Text) (write : Bool) :
    OpenFile :=
  ⟨path, text, some field, write, system.writeFailure? path, none, tree⟩

/-! ### The field that is meant -/

/-- The text of a file and the field that is meant in it, or the report of the failure. -/
def openTarget (tree : FileTree) (path : Text) (target : Target) : Except Report (Text × Text) :=
  match tree.read path with
  | .error failure =>
    .error (failed tree
      { failure.diagnostic with help := some ("could not read " ++ path.asString) } [] path)
  | .ok text =>
    match target.field with
    | some field => .ok (text, field)
    | none =>
      let index := target.line.bind fun line => if line = 0 then none else some (line - 1)
      match index.bind (fieldAtLine? text) with
      | some field => .ok (text, field)
      | none =>
        .error (failed tree
          ⟨.fieldNotFound, "no private field declared on that line", some (target.line.getD 1 - 1),
            none⟩ text path)

/-! ### Commands -/

/-- Says whether a field can be injected. -/
def runCheck (injector : Injector) (tree : FileTree) (path : Text) (target : Target) : Report :=
  match openTarget tree path target with
  | .error report => report
  | .ok (text, field) =>
    let plan := injector.plan text field
    ⟨if plan.isAvailable then 0 else 1, field.asString ++ ": " ++ plan.text ++ "\n", "", tree⟩

/-- A plan in JSON. -/
def planJson : Plan → Text
  | .create => JsonText.object [("state", JsonText.string "would_create".toList)]
  | .update => JsonText.object [("state", JsonText.string "would_update".toList)]
  | .unavailable reason =>
    let word := match reason with
      | .emptyFieldName => "empty_field_name"
      | .fieldNotFound => "field_not_found"
      | .noEligibleClass => "no_eligible_class"
      | .malformed => "malformed"
      | .alreadyInjected => "already_injected"
    JsonText.object
      [("reason", JsonText.string word.toList), ("state", JsonText.string "unavailable".toList)]

/-- A summary in JSON. -/
def summaryJson (summary : Summary) : Text :=
  let action := match summary.change with
    | .created => "created"
    | .updated => "updated"
  JsonText.object
    [("action", JsonText.string action.toList), ("field", JsonText.string summary.field),
      ("field_type", JsonText.string summary.fieldType),
      ("parameter", JsonText.string summary.parameter)]

/-- Injects a field, and writes or prints the result. -/
def runApply (system : System) (injector : Injector) (level : LogLevel) (tree : FileTree)
    (path : Text) (target : Target) (write json : Bool) : Report :=
  match openTarget tree path target with
  | .error report => report
  | .ok (text, field) =>
    let plan := injector.plan text field
    let log := level.line .debug
      (injectionLog injector.backend text field (injector.inject text field))
    match (⟨injector⟩ : InjectAction).run (system.opened tree path text field write) with
    | (.ok none, after) =>
      ⟨1, "", log ++ path.asString ++ ": cannot inject '" ++ field.asString ++ "': " ++ plan.text ++
        "\n", after.tree⟩
    | (.error diagnostic, after) =>
      ⟨1, "", log ++ diagnostic.render text path.asString, after.tree⟩
    | (.ok (some summary), after) =>
      let result := after.committed.getD after.text
      if json then
        let report := JsonText.object
          [("plan", planJson plan), ("summary", summaryJson summary),
            ("text", JsonText.string result)]
        ⟨0, report.asString ++ "\n", log, after.tree⟩
      else if write then
        ⟨0, "", log ++ doneLine (path.asString ++ ": " ++ String.intercalate "; " summary.lines),
          after.tree⟩
      else ⟨0, result.asString, log ++ summary.text ++ "\n", after.tree⟩

/-- A finding in JSON. -/
def findingJson (finding : Finding) : Text :=
  JsonText.object
    [("field", JsonText.string finding.field), ("field_type", JsonText.string finding.fieldType),
      ("line", JsonText.number finding.line)]

/-- The findings in a file in JSON. -/
def fileJson (entry : Text × List Finding) : Text :=
  JsonText.object
    [("file", JsonText.string entry.1), ("findings", JsonText.array (entry.2.map findingJson))]

/-- The findings in a file in words. -/
def fileLines (entry : Text × List Finding) : String :=
  String.join (entry.2.map fun finding =>
    entry.1.asString ++ ":" ++ toString (finding.line + 1) ++ ": " ++ finding.message ++ "\n")

/-- Lists the fields that can be injected in the C# files at or below a path. -/
def runScan (injector : Injector) (level : LogLevel) (tree : FileTree) (path : Text) (json : Bool) :
    Report :=
  if !tree.pathExists path then
    ⟨1, "", "Error: " ++ path.asString ++ " does not exist\n", tree⟩
  else
    let sources := tree.sources path
    let log := String.join (sources.filterMap fun (name, file) =>
      match file.content.read with
      | .error failure => some (level.line .warn (skippedLog name failure))
      | .ok _ => none)
    let entries := (sources.filterMap fun (name, file) =>
      match file.content.read with
      | .error _ => none
      | .ok text => some (name, injector.inspect text)).filter fun entry => !entry.2.isEmpty
    if json then
      ⟨0, (JsonText.array (entries.map fileJson)).asString ++ "\n", log, tree⟩
    else
      let count := (entries.flatMap fun entry => entry.2).length
      let word := if count = 1 then "field" else "fields"
      ⟨0, String.join (entries.map fileLines),
        log ++ doneLine (toString count ++ " injectable " ++ word), tree⟩

/-- The configuration that an invocation asks for, or the report of the failure. -/
def loadConfiguration (tree : FileTree) : Option Text → Except Report Configuration
  | none => .ok .standard
  | some path =>
    match Configuration.load (tree.read path) with
    | .ok config => .ok config
    | .error fault => .error (failed tree (fault.fileDiagnostic path.asString) [] path)

/-- The injector that an invocation asks for, with the given configuration. -/
def System.injector (system : System) (config : Configuration)
    (invocation : Invocation) : Injector :=
  ⟨config, invocation.backend.backend system.parser⟩

/-- What an invocation does to a tree of files. -/
def System.runInvocation (system : System) (invocation : Invocation) (level : LogLevel)
    (tree : FileTree) : Report :=
  match loadConfiguration tree invocation.config with
  | .error report => report
  | .ok config =>
    let injector := system.injector config invocation
    match invocation.command with
    | .check file target => runCheck injector tree file target
    | .apply file target write json => runApply system injector level tree file target write json
    | .scan path json => runScan injector level tree path json

/-- What a command line does to a tree of files. -/
def System.run (system : System) (arguments : List Text) (level : LogLevel) (tree : FileTree) :
    Report :=
  match system.readArguments arguments with
  | .command invocation => system.runInvocation invocation level tree
  | .answered code out err => ⟨code, out, err, tree⟩

/-- What a command line does to a tree of files in which every file can be written. -/
def run (arguments : List Text) (level : LogLevel) (tree : FileTree) : Report :=
  System.standard.run arguments level tree

end FieldInjection.CommandLine
