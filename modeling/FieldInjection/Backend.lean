import FieldInjection.CSharp.Grammar.Member
import FieldInjection.CSharp.Locate

/-!
# Backends

There are two ways to locate a field: by the lines of the document, or by the syntax tree that a
parser makes of it.  Both answer with the same kind of location.

## Main Definitions

* `Backend`: the two ways.
* `Backend.tree`: the second way, with the parser of this library.
* `Backend.locate`: the location of a field.
-/

namespace FieldInjection

/-- The ways to locate a field. -/
inductive Backend where
  /-- By recognising lines and counting braces. -/
  | lines
  /-- By the syntax tree that the given parser makes. -/
  | parsed (parser : CSharp.SyntaxParser)

namespace Backend

/-- By the syntax tree that the parser of this library makes. -/
def tree : Backend := parsed CSharp.parse

/-- The name by which a backend is chosen. -/
def name : Backend → String
  | lines => "text"
  | parsed _ => "tree"

/-- The location of a field. -/
def locate : Backend → Snapshot → Text → Configuration → Except Fault Location
  | lines => locateInLines
  | parsed parser => CSharp.locateInTree parser

end Backend
end FieldInjection
