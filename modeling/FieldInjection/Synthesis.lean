import FieldInjection.InjectionMethod
import FieldInjection.Naming

/-!
# Writing a new injection method

## Main Definitions

* `memberIndent`: the indentation for a new member of a class.
* `methodLines`: the lines of a new injection method.
* `createMethod`: a snapshot with the new method as the last member of a class.
-/

namespace FieldInjection

/-- The words by which a line is taken for a member of a class. -/
def visibilityWords : List Text :=
  ["private".toList, "public".toList, "protected".toList, "internal".toList]

/-- The indentation for a new member: that of the given line, else that of the first line that
begins like a member, else one unit. -/
def memberIndent (snapshot : Snapshot) (line : Option Nat) (unit : Text) : Text :=
  match line.bind snapshot.line? with
  | some given => given.indentation
  | none =>
    match snapshot.lines.find? fun line => visibilityWords.any line.trimStart.startsWith with
    | some member => member.indentation
    | none => unit

/-- The lines of a new injection method: a blank line, the marker, the signature, and the body with
its one assignment. -/
def methodLines (field : FieldReference) (indent : Text) (config : Configuration) : List Text :=
  let parameter := parameterName field.name
  [[],
    indent ++ config.marker.trim,
    indent ++ "private void ".toList ++ config.methodName ++ ['('] ++ field.declaredType ++ [' '] ++
      parameter ++ [')'],
    indent ++ [openBrace],
    indent ++ config.indentUnit ++ assignment field.name parameter,
    indent ++ [closeBrace]]

/-- The snapshot with a new injection method as the last member of the class. -/
def createMethod (snapshot : Snapshot) (field : FieldReference) (span : ClassSpan)
    (config : Configuration) : Snapshot :=
  snapshot.insertLines span.endLine
    (methodLines field (memberIndent snapshot (some field.line) config.indentUnit) config)

end FieldInjection
