import FieldInjection.Fault
import FieldInjection.Json
import FieldInjection.Text.Utf8

/-!
# Reading configurations

A configuration is read from a JSON object, whose members may be left out, or from a JSON array that
gives the values in order.  Members with other keys are passed over; a key that is known may occur
once and must hold a text.

## Main Definitions

* `Configuration.ofJson?`: the configuration that a JSON value describes.
* `Configuration.read`: reading and checking a configuration.
* `ReadFailure`: why a file cannot be read as text.
* `Configuration.load`: reading a configuration file.
-/

namespace FieldInjection

/-- Why a file cannot be read as text. -/
inductive ReadFailure where
  /-- There is no such file. -/
  | missing
  /-- Something on the way to the file is no directory. -/
  | notDirectory
  /-- It is a directory. -/
  | isDirectory
  /-- Its bytes are no text. -/
  | notText
  deriving DecidableEq, Repr

/-- The failure in words. -/
def ReadFailure.message : ReadFailure → String
  | missing => "No such file or directory (os error 2)"
  | notDirectory => "Not a directory (os error 20)"
  | isDirectory => "Is a directory (os error 21)"
  | notText => "stream did not contain valid UTF-8"

/-- What is said about a file that cannot be read. -/
def ReadFailure.diagnostic (failure : ReadFailure) : Diagnostic :=
  ⟨.inputOutput, failure.message, none, none⟩

namespace Configuration

/-- The keys of a configuration, in the order of an array. -/
inductive Key where
  /-- The key of the marker. -/
  | marker
  /-- The key of the method name. -/
  | methodName
  /-- The key of the base type. -/
  | baseType
  /-- The key of the indent unit. -/
  | indentUnit
  deriving DecidableEq, Repr

/-- All keys, in order. -/
def Key.all : List Key := [marker, methodName, baseType, indentUnit]

/-- How a key is written. -/
def Key.text : Key → String
  | marker => "marker"
  | methodName => "method_name"
  | baseType => "base_type"
  | indentUnit => "indent_unit"

/-- The configuration with another value for a key. -/
def set (config : Configuration) (key : Key) (value : Text) : Configuration :=
  match key with
  | .marker => { config with marker := value }
  | .methodName => { config with methodName := value }
  | .baseType => { config with baseType := value }
  | .indentUnit => { config with indentUnit := value }

/-- The configuration with the values of an array, which must be texts and not too many. -/
def ofItems? (config : Configuration) : List Key → List Json → Option Configuration
  | _, [] => some config
  | key :: keys, .string (some value) :: items => ofItems? (config.set key value) keys items
  | _, _ :: _ => none

/-- The configuration with the values of an object, where the keys in `seen` must not come again. -/
def ofMembers? (config : Configuration) (seen : List Key) :
    List (Option Text × Json) → Option Configuration
  | [] => some config
  | (none, _) :: _ => none
  | (some name, value) :: rest =>
    match Key.all.find? fun key => key.text.toList = name with
    | none => ofMembers? config seen rest
    | some key =>
      match value with
      | .string (some text) =>
        if seen.contains key then none else ofMembers? (config.set key text) (key :: seen) rest
      | _ => none

/-- The configuration that a JSON value describes; what is left out has its standard value. -/
def ofJson? : Json → Option Configuration
  | .array items => ofItems? .standard Key.all items
  | .object members => ofMembers? .standard [] members
  | .string _ | .atom => none

/-- Why there is no configuration. -/
inductive LoadFault where
  /-- The file cannot be read. -/
  | unread (failure : ReadFailure)
  /-- The text is no JSON that describes a configuration. -/
  | unreadable
  /-- The configuration cannot be used. -/
  | flawed (flaw : Flaw)
  deriving DecidableEq, Repr

/-- A configuration that can be used. -/
def checked (config : Configuration) : Except LoadFault Configuration :=
  match config.flaw? with
  | some flaw => .error (.flawed flaw)
  | none => .ok config

/-- The configuration that a text describes. -/
def read (text : Text) : Except LoadFault Configuration :=
  match (Json.parse? text).bind ofJson? with
  | none => .error .unreadable
  | some config => config.checked

/-- The configuration that a file describes. -/
def load (content : Except ReadFailure Text) : Except LoadFault Configuration :=
  match content with
  | .error failure => .error (.unread failure)
  | .ok text => read text

/-- What is said about a text that describes no usable configuration. -/
def LoadFault.diagnostic : LoadFault → Diagnostic
  | unread failure => failure.diagnostic
  | unreadable => ⟨.invalidConfiguration, "unreadable JSON", none, none⟩
  | flawed flaw => flaw.diagnostic

/-- What is said about a file that holds no usable configuration: the message names the file, and
the help is left out. -/
def LoadFault.fileDiagnostic (fault : LoadFault) (path : String) : Diagnostic :=
  match fault with
  | unread failure => failure.diagnostic
  | unreadable | flawed _ =>
    ⟨.invalidConfiguration, path ++ ": " ++ fault.diagnostic.message, none, none⟩

end Configuration
end FieldInjection
