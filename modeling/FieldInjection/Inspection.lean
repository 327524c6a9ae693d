import FieldInjection.Injector

/-!
# Inspection

Inspecting a document lists the fields that are named like dependencies and that could be injected.

## Main Definitions

* `Finding`: a field that could be injected.
* `Injector.inspect`: all of them, in the order of their declarations.
-/

namespace FieldInjection

/-- A private field that could be injected. -/
structure Finding where
  /-- The name of the field. -/
  field : Text
  /-- The type of the field. -/
  fieldType : Text
  /-- The line of its declaration. -/
  line : Nat
  deriving DecidableEq, Repr

/-- The finding in words. -/
def Finding.message (finding : Finding) : String :=
  "Field '" ++ finding.field.asString ++ "' can be injected as dependency"

/-- The names of a list without those that are repeated, each kept where it comes first. -/
def firstOccurrences (seen : List Text) : List Text → List Text
  | [] => []
  | name :: rest =>
    if seen.contains name then firstOccurrences seen rest
    else name :: firstOccurrences (name :: seen) rest

/-- The dependency names that the lines of a document declare, each once. -/
def dependencyNames (snapshot : Snapshot) : List Text :=
  firstOccurrences [] ((snapshot.lines.flatMap declaredFieldNames).filter isDependencyName)

/-- The fields of a document that are named like dependencies and could be injected. -/
def Injector.inspect (injector : Injector) (text : Text) : List Finding :=
  let snapshot := Snapshot.ofText text
  (((dependencyNames snapshot).filter (injector.isAvailable text)).filterMap
    (locateField snapshot)).map fun field => ⟨field.name, field.declaredType, field.line⟩

end FieldInjection
