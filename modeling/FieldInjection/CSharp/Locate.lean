import FieldInjection.CSharp.Node
import FieldInjection.Location

/-!
# Locations in the syntax tree

The location of a field, found in the syntax tree of the document instead of on its lines.  The
rules are the same: a private declaration, directly in a class whose base types name the configured
one, and a method that carries the marker on the line above its name.

## Main Definitions

* `findField`: the first private declaration of a name, below a node.
* `containingClass`: the class whose body directly holds a declaration.
* `findMethod`: the injection method in the body of a class.
* `locateInTree`: the location of a field, in the tree that a parser makes.
-/

namespace FieldInjection.CSharp

/-! ### Fields -/

namespace Node

/-- Whether `private` is among the modifiers of a declaration. -/
def isPrivate (node : Node) : Bool :=
  node.children.any fun child => child.kind = .modifier && child.text = "private".toList

/-- The node of the name that a declarator declares. -/
def declaredName? (declarator : Node) : Option Node :=
  (declarator.child? .name).or (declarator.children.find? (·.kind = .identifier))

/-- Whether a node is the declarator of a name. -/
def declares (name : Text) (node : Node) : Bool :=
  node.kind = .variableDeclarator && node.declaredName?.any (·.text = name)

end Node

/-- A field found in the tree. -/
structure FieldSite where
  /-- The node of the declared name. -/
  declarator : Node
  /-- The declared type, exactly as written. -/
  declaredType : Text
  /-- The type is not blank. -/
  filled : declaredType.isAllBlank = false
  /-- The nodes around the declaration, the innermost first. -/
  around : List Node

/-- The field of a name in a declaration of fields, where `around` are the nodes around this one. -/
def fieldSite? (name : Text) (around : List Node) (declaration : Node) : Option FieldSite := do
  let declared ← declaration.children.find? (·.kind = .variableDeclaration)
  match htype : declared.child? .type with
  | none => none
  | some type =>
    let declarator ← declared.children.find? (Node.declares name)
    return ⟨declarator, type.text, type.filled (by simpa using List.find?_some htype), around⟩

mutual

/-- The first private declaration of a name at or below a node, where `around` are the nodes around
it.  A private declaration of other fields is not looked into. -/
def findField (name : Text) (around : List Node) : Node → Option FieldSite
  | ⟨kind, role, text, filled, firstRow, lastRow, children⟩ =>
    let node : Node := ⟨kind, role, text, filled, firstRow, lastRow, children⟩
    if kind = .fieldDeclaration && node.isPrivate then fieldSite? name around node
    else findFieldAmong name (node :: around) children

/-- The first private declaration of a name at or below some nodes. -/
def findFieldAmong (name : Text) (around : List Node) : List Node → Option FieldSite
  | [] => none
  | first :: rest => (findField name around first).or (findFieldAmong name around rest)

end

/-! ### Classes -/

/-- The class whose body directly holds a declaration, given the nodes around the declaration. -/
def containingClass : List Node → Option Node
  | body :: owner :: _ =>
    if body.kind = .declarationList && owner.kind = .classDeclaration then some owner else none
  | _ => none

/-- Whether the base types of a class name `baseType`. -/
def Node.derivesFrom (baseType : Text) (owner : Node) : Bool :=
  (owner.childrenOf .baseList).any fun list => (identifierPieces list.text).contains baseType

/-! ### Methods -/

/-- Whether a method carries the marker: alone on the line above its name, and as the beginning of
one of its attribute lists. -/
def hasMarkerLine (lines : List Text) (marker : Text) (nameRow : Nat) (method : Node) : Bool :=
  match nameRow with
  | 0 => false
  | row + 1 =>
    (lines[row]?).any (·.trim = marker) &&
      method.children.any fun child => child.kind = .attributeList && child.firstRow = row

/-- The row of the name of a method, if it has the given name and carries the marker. -/
def markedRow? (lines : List Text) (config : Configuration) (member : Node) : Option Nat := do
  if member.kind = .methodDeclaration then
    let name ← member.child? .name
    if name.text = config.methodName &&
        hasMarkerLine lines config.marker.trim name.firstRow member then
      return name.firstRow
  none

/-- Whether the body opens where it can be extended: at the end of the signature's line, or alone on
a line with nothing but blank lines before it. -/
def opensUsably (lines : List Text) (signatureLine bodyStart : Nat) : Bool :=
  (bodyStart = signatureLine
      && (lines[signatureLine]?).any fun line => line.trimEnd.getLast? = some openBrace) ||
    (signatureLine < bodyStart && (lines[bodyStart]?).any Snapshot.isOpeningLine
      && ((lines.take bodyStart).drop (signatureLine + 1)).all Text.isAllBlank)

/-- The names of the parameters of a method. -/
def Node.parameterNames (method : Node) : List Text :=
  match method.child? .parameters with
  | none => []
  | some list => (list.childrenOf .parameter).filterMap fun parameter =>
      (parameter.child? .name).map (·.text)

/-- A method with its name on the given row, as an injection method. -/
def asInjectionMethod (lines : List Text) (config : Configuration) (method : Node)
    (signatureLine : Nat) :
    Except Fault InjectionMethod :=
  match method.child? .body with
  | none => .error (.noBody config.methodName signatureLine)
  | some body =>
    if !opensUsably lines signatureLine body.firstRow then
      .error (.noOpeningBrace config.methodName signatureLine)
    else if body.lastRow ≤ body.firstRow then
      .error (.oneLineBody config.methodName body.firstRow)
    else .ok ⟨signatureLine, body.firstRow, body.lastRow + 1, method.parameterNames⟩

/-- The injection method in the body of a class, if it has one. -/
def findMethod (lines : List Text) (config : Configuration) (body : Node) :
    Except Fault (Option InjectionMethod) :=
  match body.children.findSome? fun member => (markedRow? lines config member).map (member, ·) with
  | none => .ok none
  | some (method, signatureLine) => (asInjectionMethod lines config method signatureLine).map some

/-! ### Locations -/

/-- The location of a field below the root of a tree of the given lines. -/
def locateBelow (root : Node) (lines : List Text) (field : Text) (config : Configuration) :
    Except Fault Location :=
  match findField field [] root with
  | none => .error (.undeclared field)
  | some site =>
    let row := site.declarator.firstRow
    match (containingClass site.around).filter (Node.derivesFrom config.baseType) with
    | none => .error (.noEligibleClass config.baseType row)
    | some owner =>
      match owner.child? .body with
      | none => .error (.noClassBody row)
      | some body => do
        let method ← findMethod lines config body
        return ⟨⟨field, site.declaredType, row⟩, ⟨body.firstRow, body.lastRow⟩, method⟩

/-- The fault that a failure of the parser amounts to. -/
def ParserFailure.fault : ParserFailure → Fault
  | noGrammar reason => .noGrammar reason
  | noTree => .noTree

/-- The location of a field, found in the tree that a parser makes of the document. -/
def locateInTree (parser : SyntaxParser) (snapshot : Snapshot) (field : Text)
    (config : Configuration) : Except Fault Location :=
  match parser snapshot.toText with
  | .error failure => .error failure.fault
  | .ok tree =>
    if tree.hasError then .error .brokenTree
    else locateBelow tree.root snapshot.lines field config

end FieldInjection.CSharp
