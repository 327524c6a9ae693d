import FieldInjection.Backend
import FieldInjection.Merge
import FieldInjection.Synthesis

/-!
# Planning and making injections

An injector decides for one field of a document whether an injection method is to be created,
extended or left alone, and makes the edit.  The decision and the edit come from one computation,
`Injector.prepare`, so a plan is never offered that the edit would not carry out.

## Main Definitions

* `Reason`, `Plan`: why nothing can be done, and what would be done.
* `Change`, `Summary`, `Outcome`: what was done, and the text that results.
* `Injector.plan`, `Injector.inject`: the decision and the edit.
-/

namespace FieldInjection

/-- Why an injection is not offered. -/
inductive Reason where
  /-- The field's name is blank. -/
  | emptyFieldName
  /-- The field is not declared. -/
  | fieldNotFound
  /-- No eligible class declares the field. -/
  | noEligibleClass
  /-- The document has no usable shape. -/
  | malformed
  /-- The field is injected already. -/
  | alreadyInjected
  deriving DecidableEq, Repr

namespace Reason

/-- The reason in words. -/
def text : Reason → String
  | emptyFieldName => "empty field name"
  | fieldNotFound => "field not found"
  | noEligibleClass => "no eligible class"
  | malformed => "malformed source"
  | alreadyInjected => "already injected"

/-- The reason that a diagnostic of the given kind amounts to. -/
def ofKind : DiagnosticKind → Reason
  | .fieldNotFound => fieldNotFound
  | .classNotFound => noEligibleClass
  | .malformed | .invalidConfiguration | .inputOutput => malformed

/-- The reason that a fault amounts to. -/
def ofFault (fault : Fault) : Reason :=
  ofKind fault.diagnostic.kind

end Reason

/-- What would be done for a field. -/
inductive Plan where
  /-- Nothing, for the given reason. -/
  | unavailable (reason : Reason)
  /-- A new injection method would be written. -/
  | create
  /-- The injection method would be extended. -/
  | update
  deriving DecidableEq, Repr

namespace Plan

/-- Whether something would be done. -/
def isAvailable : Plan → Bool
  | unavailable _ => false
  | create | update => true

/-- The plan in words. -/
def text : Plan → String
  | unavailable reason => "unavailable (" ++ reason.text ++ ")"
  | create => "create"
  | update => "update"

end Plan

/-- What was done to the injection method. -/
inductive Change where
  /-- It was written. -/
  | created
  /-- It was extended. -/
  | updated
  deriving DecidableEq, Repr

/-- What an injection has changed. -/
structure Summary where
  /-- The name of the field. -/
  field : Text
  /-- The type of the field. -/
  fieldType : Text
  /-- The parameter that it is received as. -/
  parameter : Text
  /-- What was done to the injection method. -/
  change : Change
  deriving DecidableEq, Repr

/-- The lines of a summary in words. -/
def Summary.lines (summary : Summary) : List String :=
  let verb := match summary.change with
    | .created => "Created"
    | .updated => "Updated"
  [verb ++ " injection method for '" ++ summary.field.asString ++ "'",
    "  field: " ++ summary.field.asString,
    "  type: " ++ summary.fieldType.asString,
    "  parameter: " ++ summary.parameter.asString]

/-- The summary in words, on four lines. -/
def Summary.text (summary : Summary) : String :=
  String.intercalate "\n" summary.lines

/-- The result of an injection: the plan, the text after it, and what was changed, if anything
was. -/
structure Outcome where
  /-- The decision. -/
  plan : Plan
  /-- The document after the injection. -/
  text : Text
  /-- What was changed. -/
  summary : Option Summary
  deriving DecidableEq, Repr

/-- Makes injections by one configuration, with one way of locating fields. -/
structure Injector where
  /-- The names and texts to recognise and write. -/
  config : Configuration
  /-- How fields, classes and methods are located. -/
  backend : Backend

namespace Injector

/-- The injector that is used when nothing else is said. -/
def standard : Injector := ⟨.standard, .lines⟩

/-- An edit that is ready to be made. -/
structure Edit where
  /-- The decision. -/
  plan : Plan
  /-- The snapshot after the edit. -/
  snapshot : Snapshot
  /-- What is changed. -/
  summary : Summary
  deriving DecidableEq, Repr

/-- The location of a field, or the reason why there is nothing to do. -/
def analyze (injector : Injector) (snapshot : Snapshot) (field : Text) : Except Reason Location :=
  if field.trim.isEmpty then .error .emptyFieldName
  else
    match injector.backend.locate snapshot field.trim injector.config with
    | .error fault => .error (.ofFault fault)
    | .ok location =>
      match location.method with
      | none => .ok location
      | some method =>
        if method.hasParameter (parameterName location.field.name)
            && hasAssignment snapshot method location.field.name then .error .alreadyInjected
        else .ok location

/-- The edit at a location. -/
def editAt (injector : Injector) (snapshot : Snapshot) (location : Location) : Except Reason Edit :=
  let field := location.field
  let summary : Change → Summary := fun change =>
    ⟨field.name, field.declaredType, parameterName field.name, change⟩
  match location.method with
  | none =>
    .ok ⟨.create, createMethod snapshot field location.span injector.config, summary .created⟩
  | some method =>
    match merge snapshot method field injector.config with
    | .error fault => .error (.ofFault fault)
    | .ok merged => .ok ⟨.update, merged.snapshot, summary .updated⟩

/-- The edit that injects a field, or the reason why there is none. -/
def prepare (injector : Injector) (snapshot : Snapshot) (field : Text) : Except Reason Edit := do
  let location ← injector.analyze snapshot field
  injector.editAt snapshot location

/-- What would be done for a field of a document. -/
def plan (injector : Injector) (text field : Text) : Plan :=
  match injector.prepare (.ofText text) field with
  | .ok edit => edit.plan
  | .error reason => .unavailable reason

/-- Whether something would be done for a field of a document. -/
def isAvailable (injector : Injector) (text field : Text) : Bool :=
  (injector.plan text field).isAvailable

/-- The document with the field injected; where that is not possible, the document as it is. -/
def inject (injector : Injector) (text field : Text) : Outcome :=
  match injector.prepare (.ofText text) field with
  | .ok edit => ⟨edit.plan, edit.snapshot.toText, some edit.summary⟩
  | .error reason => ⟨.unavailable reason, text, none⟩

/-- The outcomes of injecting each field into the text that the one before it has left. -/
def injectInTurn (injector : Injector) (text : Text) : List Text → List Outcome
  | [] => []
  | field :: rest =>
    let outcome := injector.inject text field
    outcome :: injector.injectInTurn outcome.text rest

end Injector
end FieldInjection
