/-!
# Sets of code points

A property of characters that a standard lists by tables is kept here as a list of closed ranges of
code points.  Every table covers the code points from 128 on; below that the properties are stated
by the formulas that everybody knows, so that a statement about plain letters never opens a table.

The tables of `Text.Letter`, `Text.Lowercase`, `Text.Numeral`, `Text.Word`, `Text.Printable` and
`CSharp.Name` are those of version 15.0 of the Unicode standard.  Characters that a later version
added are unassigned in them.

## Main Definitions

* `CodePoint.within`: membership of a code point in a list of closed ranges.
* `CodePoint.classify`: a property given by a formula below 128 and by a table from there on.
-/

namespace FieldInjection
namespace CodePoint

/-- Whether `code` lies in one of the closed ranges. -/
def within (ranges : List (Nat × Nat)) (code : Nat) : Bool :=
  ranges.any fun range => range.1 ≤ code && code ≤ range.2

/-- A property of characters: `plain` decides the first 128 code points, `ranges` all others. -/
def classify (plain : Char → Bool) (ranges : List (Nat × Nat)) (c : Char) : Bool :=
  if c.toNat < 128 then plain c else within ranges c.toNat

end CodePoint
end FieldInjection
