import FieldInjection.CSharp.Declaration
import FieldInjection.CSharp.Parser

/-!
# The recursive rules of the grammar

The rules of C# refer to each other in circles: an expression may hold a statement, a type holds
types.  Every circle goes through one of the rules collected here.  A rule is written against the
`Rules` that it may refer to, and `Rules` of one more level are built from those of the level below.
Whoever enters a rule of the level below has taken a token before, so as many levels as there are
tokens are enough.

## Main Definitions

* `Rules`: the rules that others refer to in circles.
* `Rules.none`: rules that accept nothing.
-/

namespace FieldInjection.CSharp

/-- The rules that others refer to in circles. -/
structure Rules where
  /-- A type. -/
  type : Parser Unit
  /-- An operand with its prefix and postfix operators. -/
  operand : Parser Unit
  /-- An expression. -/
  expression : Parser Unit
  /-- A pattern that a value is compared with. -/
  pattern : Parser Unit
  /-- An initializer between braces. -/
  initializer : Parser Unit
  /-- A statement. -/
  statement : Parser Unit
  /-- A member of a type or a namespace. -/
  member : Parser Declaration
  /-- Something that stands at the top of a document. -/
  item : Parser Declaration

/-- Rules that accept nothing. -/
def Rules.none : Rules where
  type := failure
  operand := failure
  expression := failure
  pattern := failure
  initializer := failure
  statement := failure
  member := failure
  item := failure

end FieldInjection.CSharp
