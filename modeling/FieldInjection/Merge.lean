import FieldInjection.InjectionMethod
import FieldInjection.Naming

/-!
# Extending an injection method

A field is added to an existing injection method by two edits: a parameter at the end of the
signature's list, and an assignment before the closing brace.  Each is left out when it is there
already.

## Main Definitions

* `hasAssignment`: whether the body assigns a field.
* `appendParameter?`: a signature with one more parameter.
* `Merged`: the edited snapshot and which edits were made.
* `merge`: both edits.
-/

namespace FieldInjection

/-- Whether a line of the method's body assigns to `field`. -/
def hasAssignment (snapshot : Snapshot) (method : InjectionMethod) (field : Text) : Bool :=
  ((snapshot.lines.take method.bodyEndLine).drop method.bodyStartLine).any (assignsToken · field)

/-- The signature with one more parameter at the end of its list. -/
def appendParameter? (signature declaredType name : Text) : Option Text := do
  let (before, inside, behind) ← parenthesized? signature
  let parameter := declaredType ++ [' '] ++ name
  let list := if inside.trim.isEmpty then parameter else inside.trim ++ [',', ' '] ++ parameter
  return before ++ ['('] ++ list ++ [')'] ++ behind

/-- The indentation of the body's first statement; in an empty body, that of the signature and one
unit. -/
def statementIndent (snapshot : Snapshot) (method : InjectionMethod) (unit : Text) : Text :=
  match ((snapshot.lines.take method.bodyCloseLine).drop (method.bodyStartLine + 1)).find?
      (!·.isAllBlank) with
  | some statement => statement.indentation
  | none => ((snapshot.line? method.signatureLine).getD []).indentation ++ unit

/-- An edited snapshot, and which of the two edits were made. -/
structure Merged where
  /-- The snapshot after the edits. -/
  snapshot : Snapshot
  /-- Whether a parameter was added. -/
  parameterAdded : Bool
  /-- Whether an assignment was added. -/
  assignmentAdded : Bool
  deriving DecidableEq, Repr

/-- Whether nothing had to be added. -/
def Merged.isUnchanged (merged : Merged) : Bool :=
  !merged.parameterAdded && !merged.assignmentAdded

/-- The snapshot with the field's parameter in the signature. -/
def addParameter (snapshot : Snapshot) (method : InjectionMethod) (field : FieldReference)
    (config : Configuration) : Except Fault Snapshot :=
  match snapshot.line? method.signatureLine with
  | none => .error (.noSignature method.signatureLine)
  | some signature =>
    match appendParameter? signature field.declaredType (parameterName field.name) with
    | none => .error (.noParameterList config.methodName method.signatureLine)
    | some updated => .ok (snapshot.replaceLine method.signatureLine updated)

/-- The field's assignment on a line of its own, indented like the statements of the method. -/
def assignmentLine (snapshot : Snapshot) (method : InjectionMethod) (field : FieldReference)
    (config : Configuration) : Text :=
  statementIndent snapshot method config.indentUnit ++
    assignment field.name (parameterName field.name)

/-- The snapshot with the field's parameter and assignment in the method.  Both edits are placed by
the lines of the given snapshot: the first changes a line in place, so it moves no other. -/
def merge (snapshot : Snapshot) (method : InjectionMethod) (field : FieldReference)
    (config : Configuration) : Except Fault Merged := do
  let hasParameter := method.hasParameter (parameterName field.name)
  let assigned := hasAssignment snapshot method field.name
  let signed ← if hasParameter then .ok snapshot else addParameter snapshot method field config
  if assigned then return ⟨signed, !hasParameter, false⟩
  let close := method.bodyCloseLine
  if close ≤ method.bodyStartLine || snapshot.size ≤ close then
    .error (.oneLineBody config.methodName method.bodyStartLine)
  else
    return ⟨signed.insertLines close [assignmentLine snapshot method field config], !hasParameter,
      true⟩

end FieldInjection
