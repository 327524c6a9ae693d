import FieldInjection.InjectionMethod

/-!
# Locations

A location is everything that has to be known before a document is edited: the field, the body of
the class around it, and the injection method of that class, if it has one.

## Main Definitions

* `Location`: field, class body and injection method.
* `locateInLines`: the location found by looking at the lines of the document.
-/

namespace FieldInjection

/-- Everything that has to be known before a document is edited. -/
structure Location where
  /-- The field to inject. -/
  field : FieldReference
  /-- The body of the class that declares it. -/
  span : ClassSpan
  /-- The injection method of that class, if there is one. -/
  method : Option InjectionMethod
  deriving DecidableEq, Repr

/-- The location of a field, found by recognising its line and counting braces. -/
def locateInLines (snapshot : Snapshot) (field : Text) (config : Configuration) :
    Except Fault Location :=
  match locateField snapshot field with
  | none => .error (.undeclared field)
  | some reference => do
    let span ← findClassSpan snapshot reference.line config.baseType
    let method ← findInjectionMethodIn snapshot span config
    return ⟨reference, span, method⟩

end FieldInjection
