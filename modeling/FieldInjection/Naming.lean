import FieldInjection.Text.Basic
import FieldInjection.Text.Lowercase

/-!
# Names of injected parameters

A field `_foo` or `m_foo` is received as the parameter `foo`; a field without such a beginning is
received under its own name with a small first letter.

## Main Definitions

* `fieldStem`: a field's name without its customary beginning.
* `parameterName`: the parameter that a field is received as.
* `isDependencyName`: whether a field is named like a dependency.
* `assignment`: the statement that stores a parameter into a field.
-/

namespace FieldInjection

/-- What follows the customary beginning of a field's name, if it has one. -/
def fieldStem? (field : Text) : Option Text :=
  (Text.dropStart? ['_'] field).or (Text.dropStart? ['m', '_'] field)

/-- A field's name without its customary beginning. -/
def fieldStem (field : Text) : Text :=
  (fieldStem? field).getD field

/-- A text with its first character in lower case. -/
def lowercaseFirst : Text → Text
  | [] => []
  | c :: rest => lowercase c ++ rest

/-- The parameter that a field is received as. -/
def parameterName (field : Text) : Text :=
  lowercaseFirst (fieldStem field)

/-- Whether a field is named like a dependency: a customary beginning and something after it. -/
def isDependencyName (field : Text) : Bool :=
  (fieldStem? field).any (!·.isEmpty)

/-- The statement that stores a parameter into a field.  Where both names coincide, the field is
qualified, since the bare name would mean the parameter. -/
def assignment (field parameter : Text) : Text :=
  let target := if field = parameter then "this.".toList ++ field else field
  target ++ " = ".toList ++ parameter ++ [';']

end FieldInjection
