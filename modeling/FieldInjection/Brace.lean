import FieldInjection.Snapshot
import FieldInjection.Text.Blank

/-!
# Braces and blocks

Blocks are found by counting braces line by line.  Every brace counts, also one inside a comment or
a string.

## Main Definitions

* `braceDelta`: opening minus closing braces of a line.
* `totalDelta`, `Snapshot.balance`: the sum over several lines, and over a range of lines.
* `closingLine`, `matchingLine`: where a running depth comes down to zero.
* `Snapshot.blockEnd`: the end of the block that opens on a line.
* `Snapshot.enclosingBlockEnd`: the end of the block that a line sits in.
-/

namespace FieldInjection

/-- The opening brace. -/
def openBrace : Char := Char.ofNat 0x7B

/-- The closing brace. -/
def closeBrace : Char := Char.ofNat 0x7D

/-- How one character changes the brace depth. -/
def braceStep (c : Char) : Int :=
  if c = openBrace then 1 else if c = closeBrace then -1 else 0

/-- How a line changes the brace depth: its opening braces minus its closing ones. -/
def braceDelta (line : Text) : Int :=
  line.foldr (fun c depth => braceStep c + depth) 0

/-- Opening minus closing braces of several lines. -/
def totalDelta (lines : List Text) : Int :=
  lines.foldr (fun line depth => braceDelta line + depth) 0

/-- The first line at which the depth comes down to zero.  A depth below zero ends the search. -/
def closingLine (depth : Int) (index : Nat) : List Text → Option Nat
  | [] => none
  | line :: rest =>
    let next := depth + braceDelta line
    if next = 0 then some index
    else if next < 0 then none
    else closingLine next (index + 1) rest

/-- The first line at which the depth is zero after it has been positive, where `opened` says
whether it has been already.  A depth below zero ends the search. -/
def matchingLine (depth : Int) (opened : Bool) (index : Nat) : List Text → Option Nat
  | [] => none
  | line :: rest =>
    let next := depth + braceDelta line
    let opened := opened || 0 < next
    if next < 0 then none
    else if opened && next = 0 then some index
    else matchingLine next opened (index + 1) rest

namespace Snapshot

/-- Opening minus closing braces of the lines from `start` to `stop`, both included; the line
`start` counts even if `stop` comes before it. -/
def balance (snapshot : Snapshot) (start stop : Nat) : Int :=
  totalDelta ((snapshot.lines.drop start).take (stop - start + 1))

/-- The line that closes the block opened on line `start` or after it. -/
def blockEnd (snapshot : Snapshot) (start : Nat) : Option Nat :=
  matchingLine 0 false start (snapshot.lines.drop start)

/-- Whether a line holds an opening brace and nothing else. -/
def isOpeningLine (line : Text) : Bool :=
  line.trim == [openBrace]

/-- The line that closes the block in which line `start` sits.  Some line up to `start` has to be an
opening brace alone; the depth is taken to be one behind line `start`. -/
def enclosingBlockEnd (snapshot : Snapshot) (start : Nat) : Option Nat :=
  if start < snapshot.size && (snapshot.lines.take (start + 1)).any isOpeningLine then
    closingLine 1 (start + 1) (snapshot.lines.drop (start + 1))
  else none

end Snapshot
end FieldInjection
