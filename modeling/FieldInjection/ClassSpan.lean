import FieldInjection.Brace
import FieldInjection.Fault
import FieldInjection.Field

/-!
# Classes that may receive injections

A class is eligible when its header names the configured base type behind a colon.  The header may
run over several lines, up to the opening brace of the class.  `findClassSpan` finds the body of the
eligible class that directly holds a line.

## Main Definitions

* `ClassSpan`: the lines of the braces around a class body.
* `ClassPattern.header`: the pattern of an eligible header.
* `isEligibleHeader`, `isEligibleAt`: the test on one text, and on the lines of a document.
* `findClassSpan`: the body that directly contains a line.
-/

namespace FieldInjection

/-- The body of a class, given by the lines of its braces. -/
structure ClassSpan where
  /-- The line of the opening brace. -/
  startLine : Nat
  /-- The line of the closing brace. -/
  endLine : Nat
  deriving DecidableEq, Repr

/-- Whether a line lies strictly between the braces. -/
def ClassSpan.contains (span : ClassSpan) (line : Nat) : Bool :=
  span.startLine < line && line < span.endLine

namespace ClassPattern

open Pattern

/-- The keyword with the name of a class. -/
def declaration : Pattern :=
  boundary ++ literal "class".toList ++ someBlanks ++ name

/-- A class header that names `baseType` behind a colon. -/
def header (baseType : Text) : Pattern :=
  declaration ++ maybe (char '<' ++ many (one (· != '>')) ++ char '>') ++ blanks ++ char ':' ++
    many (one (· != openBrace)) ++ FieldPattern.wholeWord baseType

end ClassPattern

/-- Whether a complete header declares a class that derives from `baseType`. -/
def isEligibleHeader (baseType header : Text) : Bool :=
  !isCommentLine header.trim && (ClassPattern.header baseType).occursIn header.trim

/-- Lines joined by blanks, each trimmed, up to the first opening brace. -/
def headerText : List Text → Text
  | [] => []
  | line :: rest =>
    match line.trim.cutFirst? openBrace with
    | some (before, _) => before
    | none => line.trim ++ ' ' :: headerText rest

/-- Whether an eligible class is declared from `line` on.  Its header may go on over further lines,
but not past line `limit`. -/
def isEligibleAt (baseType : Text) (lines : List Text) (line limit : Nat) : Bool :=
  match lines[line]? with
  | none => false
  | some first =>
    !isCommentLine first.trim && ClassPattern.declaration.occursIn first.trim &&
      isEligibleHeader baseType (headerText ((lines.take (limit + 1)).drop line))

/-- The last line up to `line` that has a property. -/
def lastUpTo (holds : Nat → Bool) : Nat → Option Nat
  | 0 => if holds 0 then some 0 else none
  | line + 1 => if holds (line + 1) then some (line + 1) else lastUpTo holds line

/-- The body of the eligible class that directly contains `fieldLine`: the nearest eligible header
upwards counts, its first brace opens the body, and the depth just before the line has to be one. -/
def findClassSpan (snapshot : Snapshot) (fieldLine : Nat) (baseType : Text) :
    Except Fault ClassSpan :=
  let notFound : Except Fault ClassSpan := .error (.noEligibleClass baseType fieldLine)
  if snapshot.size ≤ fieldLine then notFound
  else
    match lastUpTo (isEligibleAt baseType snapshot.lines · fieldLine) fieldLine with
    | none => notFound
    | some declaration =>
      match ((snapshot.lines.take fieldLine).drop declaration).findIdx? (·.contains openBrace) with
      | none => notFound
      | some offset =>
        let start := declaration + offset
        match snapshot.blockEnd start with
        | none => .error (.unbalancedClass start)
        | some stop =>
          let span : ClassSpan := ⟨start, stop⟩
          if span.contains fieldLine && snapshot.balance start (fieldLine - 1) == 1 then .ok span
          else notFound

end FieldInjection
