import FieldInjection.Backend

/-!
# Arguments

The command line is a command with its file or directory and some options.  Two of the options may
also stand before the command; where both places give one, that behind the command counts.

## Main Definitions

* `OptionName`, `BackendName`, `Command`, `Invocation`: what can be asked for.
* `takeArgument`: one argument, with its value if it is an option that takes one.
* `Invocation.ofArguments`: the whole command line.
* `Reading`, `Reading.ofArguments`: what becomes of a command line that may also ask for help.
-/

namespace FieldInjection.CommandLine

/-- The options. -/
inductive OptionName where
  /-- The configuration file. -/
  | config
  /-- The way to locate fields. -/
  | backend
  /-- The name of a field. -/
  | field
  /-- The line of a field, counted from one. -/
  | line
  /-- Write the result back. -/
  | write
  /-- Report in JSON. -/
  | json
  deriving DecidableEq, Repr

namespace OptionName

/-- How an option is written. -/
def text : OptionName → String
  | config => "--config"
  | backend => "--backend"
  | field => "--field"
  | line => "--line"
  | write => "--write"
  | json => "--json"

/-- Whether an option takes a value. -/
def takesValue : OptionName → Bool
  | config | backend | field | line => true
  | write | json => false

/-- The options that may stand anywhere. -/
def everywhere : List OptionName := [config, backend]

end OptionName

/-- Which field is meant: by its name or by the line of its declaration. -/
structure Target where
  /-- The name of the field. -/
  field : Option Text
  /-- The line of its declaration, counted from one. -/
  line : Option Nat
  deriving DecidableEq, Repr

/-- The commands. -/
inductive Command where
  /-- Say whether a field can be injected. -/
  | check (file : Text) (target : Target)
  /-- Inject a field. -/
  | apply (file : Text) (target : Target) (write json : Bool)
  /-- List the fields that can be injected. -/
  | scan (path : Text) (json : Bool)
  deriving DecidableEq, Repr

/-- The names by which the ways to locate fields are chosen. -/
inductive BackendName where
  /-- By the lines. -/
  | text
  /-- By the syntax tree. -/
  | tree
  deriving DecidableEq, Repr

/-- The backend of a name, where the syntax tree is made by the given parser. -/
def BackendName.backend (parser : CSharp.SyntaxParser) : BackendName → Backend
  | text => .lines
  | tree => .parsed parser

/-- A command with the options that hold for every command. -/
structure Invocation where
  /-- The configuration file. -/
  config : Option Text
  /-- The way to locate fields. -/
  backend : BackendName
  /-- The command. -/
  command : Command
  deriving DecidableEq, Repr

/-! ### Single arguments -/

/-- What an argument is. -/
inductive Argument where
  /-- An option with its value, empty for an option that takes none. -/
  | option (name : OptionName) (value : Text)
  /-- Something else than an option. -/
  | plain (value : Text)
  deriving DecidableEq, Repr

/-- Whether an argument is written like an option. -/
def isOptionLike (argument : Text) : Bool :=
  argument.head? = some '-' && 1 < argument.length

/-- The next argument and those behind it; an option takes its value from behind an equals sign or
from the argument after it. -/
def takeArgument (allowed : List OptionName) : List Text → Option (Argument × List Text)
  | [] => none
  | first :: rest =>
    if !isOptionLike first then some (.plain first, rest)
    else
      let (name, attached) := match first.cutFirst? '=' with
        | some (before, after) => (before, some after)
        | none => (first, none)
      match allowed.find? fun option => option.text.toList = name with
      | none => none
      | some option =>
        match option.takesValue, attached, rest with
        | true, some value, _ => some (.option option value, rest)
        | true, none, value :: behind =>
          if isOptionLike value then none else some (.option option value, behind)
        | false, none, _ => some (.option option [], rest)
        | _, _, _ => none

/-! ### Argument lists -/

/-- What a list of arguments holds. -/
structure Collected where
  /-- The options with their values. -/
  options : List (OptionName × Text)
  /-- The other arguments. -/
  plain : List Text
  deriving DecidableEq, Repr

/-- All arguments; no option may come twice, and behind two hyphens there are no options. -/
def collect (allowed : List OptionName) : Nat → Collected → List Text → Option Collected
  | _, collected, [] => some collected
  | 0, _, _ :: _ => none
  | bound + 1, collected, first :: rest =>
    if first = ['-', '-'] then some { collected with plain := collected.plain ++ rest }
    else
      match takeArgument allowed (first :: rest) with
      | none => none
      | some (.plain value, behind) =>
        collect allowed bound { collected with plain := collected.plain ++ [value] } behind
      | some (.option name value, behind) =>
        if collected.options.any (·.1 = name) then none
        else collect allowed bound
          { collected with options := collected.options ++ [(name, value)] } behind

/-- The options before the command, the command's name, and the arguments behind it. -/
def splitCommand : Nat → List (OptionName × Text) → List Text →
    Option (List (OptionName × Text) × Text × List Text)
  | 0, _, _ => none
  | bound + 1, options, arguments =>
    if arguments.head? = some ['-', '-'] then none
    else
      match takeArgument OptionName.everywhere arguments with
      | none => none
      | some (.plain name, behind) => some (options, name, behind)
      | some (.option name value, behind) =>
        if options.any (·.1 = name) then none
        else splitCommand bound (options ++ [(name, value)]) behind

/-- The value of an option. -/
def valueOf (options : List (OptionName × Text)) (name : OptionName) : Option Text :=
  (options.find? (·.1 = name)).map (·.2)

/-! ### Values -/

/-- A number of at most 64 bits, which may have a plus sign. -/
def number? (text : Text) : Option Nat :=
  let digits := if text.head? = some '+' then text.drop 1 else text
  if digits.isEmpty || !digits.all Char.isDigit then none
  else
    let value := digits.foldl (fun value c => value * 10 + (c.toNat - 48)) 0
    if value < UInt64.size then some value else none

/-- The name of a backend. -/
def backend? (text : Text) : Option BackendName :=
  if text = "text".toList then some .text
  else if text = "tree".toList then some .tree
  else none

/-- A path, which must not be empty. -/
def path? (text : Text) : Option Text :=
  if text.isEmpty then none else some text

/-- An option that may be left out, with its value read in the given way. -/
def read? {α : Type} (options : List (OptionName × Text)) (name : OptionName)
    (value? : Text → Option α) : Option (Option α) :=
  match valueOf options name with
  | none => some none
  | some value => (value? value).map some

/-- The field that is meant; one of its two options must be there. -/
def target? (options : List (OptionName × Text)) : Option Target := do
  let field ← read? options .field some
  let line ← read? options .line number?
  if field.isNone && line.isNone then none else return ⟨field, line⟩

/-- The command of a given name with its arguments. -/
def command? (name : Text) (arguments : List Text) :
    Option (Command × List (OptionName × Text)) := do
  let gather (allowed : List OptionName) : Option Collected :=
    collect (OptionName.everywhere ++ allowed) arguments.length ⟨[], []⟩ arguments
  let single (collected : Collected) : Option Text :=
    match collected.plain with
    | [path] => path? path
    | _ => none
  if name = "check".toList then
    let collected ← gather [.field, .line]
    return (.check (← single collected) (← target? collected.options), collected.options)
  else if name = "apply".toList then
    let collected ← gather [.field, .line, .write, .json]
    let options := collected.options
    return (.apply (← single collected) (← target? options) (valueOf options .write).isSome
      (valueOf options .json).isSome, options)
  else if name = "scan".toList then
    let collected ← gather [.json]
    return (.scan (← single collected) (valueOf collected.options .json).isSome, collected.options)
  else none

/-- What a command line asks for, if it is well-formed. -/
def Invocation.ofArguments (arguments : List Text) : Option Invocation := do
  let (before, name, behind) ← splitCommand (arguments.length + 1) [] arguments
  let (command, options) ← command? name behind
  let configBefore ← read? before .config path?
  let configBehind ← read? options .config path?
  let backendBefore ← read? before .backend backend?
  let backendBehind ← read? options .backend backend?
  return ⟨configBehind.or configBefore, (backendBehind.or backendBefore).getD .text, command⟩

/-! ### Readings -/

/-- What becomes of a command line. -/
inductive Reading where
  /-- It is a command. -/
  | command (invocation : Invocation)
  /-- It is answered at once, with an exit code and what is printed. -/
  | answered (code : Nat) (out err : String)
  deriving DecidableEq, Repr

/-- Whether an argument is the option that asks for help. -/
def isHelpOption (argument : Text) : Bool :=
  argument = "--help".toList || argument = "-h".toList

/-- Whether an argument is the name of a command. -/
def isCommandName (argument : Text) : Bool :=
  argument = "check".toList || argument = "apply".toList || argument = "scan".toList

/-- Whether a command line asks for help, as a command or by an option before or behind a
command. -/
def asksForHelp : List Text → Bool
  | [] => false
  | first :: rest =>
    isHelpOption first || (first = "help".toList && rest.all isCommandName && rest.length < 2) ||
      (isCommandName first && rest.head?.any isHelpOption)

/-- The reading of a command line: a command if it is well-formed, help if it asks for it, and else
an answer with code 2. -/
def Reading.ofArguments (arguments : List Text) : Reading :=
  match Invocation.ofArguments arguments with
  | some invocation => .command invocation
  | none => if asksForHelp arguments then .answered 0 "usage" "" else .answered 2 "" "usage"

end FieldInjection.CommandLine
