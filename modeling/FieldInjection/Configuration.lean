import FieldInjection.Identifier

/-!
# Configuration

The names and texts by which an injection method is recognised and written.  They are given once and
never read off the document.

## Main Definitions

* `Configuration`: marker, method name, base type and indent unit.
* `Configuration.standard`: the values taken when nothing else is said.
* `Configuration.markerName?`: the attribute name between the brackets of the marker.
* `Configuration.Flaw`, `Configuration.flaw?`: what can be wrong, and the first thing that is.
-/

namespace FieldInjection

/-- The names and texts by which an injection method is recognised and written. -/
structure Configuration where
  /-- The attribute line directly above the injection method. -/
  marker : Text
  /-- The reserved name of the injection method. -/
  methodName : Text
  /-- The type that a class has to derive from. -/
  baseType : Text
  /-- One step of indentation, where none can be read off the document. -/
  indentUnit : Text
  deriving DecidableEq, Repr

namespace Configuration

/-- The values taken when nothing else is said. -/
def standard : Configuration where
  marker := "[Inject]".toList
  methodName := "InjectDependencies".toList
  baseType := "MonoBehaviour".toList
  indentUnit := "    ".toList

/-- The attribute name between the brackets of the marker. -/
def markerName? (config : Configuration) : Option Text := do
  let opened ← Text.dropStart? ['['] config.marker.trim
  let (inner, behind) ← Text.cutLast? ']' opened
  if behind.isEmpty && isIdentifier inner.trim then some inner.trim else none

/-- What can be wrong with a configuration. -/
inductive Flaw where
  /-- The marker is no identifier between square brackets. -/
  | marker (text : Text)
  /-- The method name is no identifier. -/
  | methodName (text : Text)
  /-- The base type is no identifier. -/
  | baseType (text : Text)
  /-- The indent unit is empty or holds something besides spaces and tabs. -/
  | indentUnit
  deriving DecidableEq, Repr

/-- The first thing that is wrong with a configuration. -/
def flaw? (config : Configuration) : Option Flaw :=
  if config.markerName?.isNone then some (.marker config.marker)
  else if !isIdentifier config.methodName then some (.methodName config.methodName)
  else if !isIdentifier config.baseType then some (.baseType config.baseType)
  else if config.indentUnit.isEmpty || !config.indentUnit.all (fun c => c == ' ' || c == '\t') then
    some .indentUnit
  else none

end Configuration
end FieldInjection
