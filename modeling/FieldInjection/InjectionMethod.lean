import FieldInjection.ClassSpan

/-!
# Injection methods

An injection method stands directly below its marker line and carries the reserved name.  Its body
opens at the end of the signature's line or with a brace alone on the next line that is not blank.

## Main Definitions

* `InjectionMethod`: where the parts of an injection method are, and its parameters.
* `parenthesized?`: what lies before, inside and behind the parentheses of a signature.
* `parameterNames`: the names declared in a signature.
* `findInjectionMethod`, `findInjectionMethodIn`: the search in a document and in a class.
-/

namespace FieldInjection

/-- Where the parts of an injection method are, and its parameters. -/
structure InjectionMethod where
  /-- The line with the method's name and parameter list. -/
  signatureLine : Nat
  /-- The line of the body's opening brace. -/
  bodyStartLine : Nat
  /-- The line after the one with the body's closing brace. -/
  bodyEndLine : Nat
  /-- The parameters, in the order of their declaration. -/
  parameters : List Text
  deriving DecidableEq, Repr

namespace InjectionMethod

/-- Whether the method has a parameter of the given name. -/
def hasParameter (method : InjectionMethod) (name : Text) : Bool :=
  method.parameters.contains name

/-- The line with the body's closing brace. -/
def bodyCloseLine (method : InjectionMethod) : Nat :=
  method.bodyEndLine - 1

end InjectionMethod

/-- A signature cut at its first opening and its last closing parenthesis. -/
def parenthesized? (signature : Text) : Option (Text × Text × Text) := do
  let (before, opened) ← signature.cutFirst? '('
  let (inside, behind) ← opened.cutLast? ')'
  return (before, inside, behind)

/-- The name that an entry of a parameter list declares: the last word in front of a default
value. -/
def parameterEntryName? (entry : Text) : Option Text :=
  Text.lastWord? (entry.takeWhile (· != '='))

/-- The names declared in the parameter list of a signature. -/
def parameterNames (signature : Text) : List Text :=
  match parenthesized? signature with
  | none => []
  | some (_, inside, _) => (splitTopLevel inside).filterMap parameterEntryName?

/-- The first line from `start` on, but before `stop`, that is not blank. -/
def firstFilledLine? (lines : List Text) (start stop : Nat) : Option Nat :=
  (((lines.take stop).drop start).findIdx? (!·.isAllBlank)).map (start + ·)

/-- The method whose signature is on the given line, where the body has to open before line
`stop`. -/
def readMethod (snapshot : Snapshot) (methodName : Text) (signatureLine : Nat) (signature : Text)
    (stop : Nat) : Except Fault InjectionMethod := do
  let closed (bodyStart : Nat) (close? : Option Nat) : Except Fault InjectionMethod :=
    match close? with
    | none => .error (.unbalancedBody methodName bodyStart)
    | some close => .ok ⟨signatureLine, bodyStart, close + 1, parameterNames signature⟩
  if signature.trimEnd.getLast? = some openBrace then
    closed signatureLine (snapshot.blockEnd signatureLine)
  else
    match firstFilledLine? snapshot.lines (signatureLine + 1) stop with
    | none => .error (.noOpeningBrace methodName signatureLine)
    | some bodyStart =>
      if (snapshot.lines[bodyStart]?).any Snapshot.isOpeningLine then
        closed bodyStart (snapshot.enclosingBlockEnd bodyStart)
      else .error (.noOpeningBrace methodName signatureLine)

/-- The first of the given lines, numbered from `index`, that is the marker and has the reserved
name on the line after it; the answer is the number and the text of that next line.  Only the first
`count` lines may be the marker. -/
def findSignature? (marker methodName : Text) (index : Nat) : Nat → List Text → Option (Nat × Text)
  | count + 1, line :: next :: rest =>
    if line.trim == marker && containsToken next methodName then some (index + 1, next)
    else findSignature? marker methodName (index + 1) count (next :: rest)
  | _, _ => none

/-- The injection method whose marker is one of the lines from `start` to before `stop`. -/
def findInjectionMethodBetween (snapshot : Snapshot) (start stop : Nat) (config : Configuration) :
    Except Fault (Option InjectionMethod) :=
  let last := min stop snapshot.size
  match findSignature? config.marker.trim config.methodName start (last - start)
      (snapshot.lines.drop start) with
  | none => .ok none
  | some (signatureLine, signature) =>
    (readMethod snapshot config.methodName signatureLine signature last).map some

/-- The first injection method of a document. -/
def findInjectionMethod (snapshot : Snapshot) (config : Configuration) :
    Except Fault (Option InjectionMethod) :=
  findInjectionMethodBetween snapshot 0 snapshot.size config

/-- The first injection method whose marker lies between the braces of a class. -/
def findInjectionMethodIn (snapshot : Snapshot) (span : ClassSpan) (config : Configuration) :
    Except Fault (Option InjectionMethod) :=
  findInjectionMethodBetween snapshot (span.startLine + 1) span.endLine config

end FieldInjection
