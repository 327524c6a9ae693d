import FieldInjection.CSharp.Node
import FieldInjection.CSharp.Token

/-!
# Declarations

The grammar of this library keeps the declarations of a C# document: which types it declares, which
members they have and on which rows these stand.  Statements and expressions are read to see that
they are well-formed, and are not kept.  The syntax tree of a document is made of its declarations.

## Main Definitions

* `Declarator`, `FieldDeclaration`, `MethodDeclaration`: the members that are kept.
* `TypeHeader`: what is kept of a type besides its members.
* `Declaration`: the declarations, one inside the other.
* `Declaration.node`: the node of a declaration in the syntax tree.
-/

namespace FieldInjection.CSharp

/-- One name that a field declaration declares. -/
structure Declarator where
  /-- The declared name. -/
  name : Text
  /-- The row of the name. -/
  row : Nat
  deriving DecidableEq, Repr

/-- The rows of the first and the last character of a stretch of the document. -/
structure RowSpan where
  /-- The row of the first character. -/
  first : Nat
  /-- The row of the last character. -/
  last : Nat
  deriving DecidableEq, Repr

/-- A field declaration. -/
@[ext] structure FieldDeclaration where
  /-- Its modifiers. -/
  modifiers : List Text
  /-- The type, exactly as written. -/
  declaredType : Text
  /-- The type is not blank. -/
  filled : declaredType.isAllBlank = false
  /-- The declared names. -/
  declarators : List Declarator
  deriving Repr

instance : DecidableEq FieldDeclaration :=
  fun _ _ => decidable_of_iff' _ FieldDeclaration.ext_iff

/-- A method declaration. -/
structure MethodDeclaration where
  /-- The rows on which its attribute lists begin. -/
  attributeRows : List Nat
  /-- The name of the method. -/
  name : Text
  /-- The row of the name. -/
  nameRow : Nat
  /-- The names of its parameters; one that takes all further arguments is not among them. -/
  parameters : List Text
  /-- The rows of its body, if it has one. -/
  body : Option RowSpan
  deriving DecidableEq, Repr

/-- The kinds of types that have members. -/
inductive TypeKind where
  /-- A class. -/
  | classType
  /-- A structure, an interface or a record. -/
  | otherType
  deriving DecidableEq, Repr

/-- What is known of a type besides its members. -/
structure TypeHeader where
  /-- The kind of the type. -/
  kind : TypeKind
  /-- The list of base types with the colon before it, exactly as written. -/
  bases : Option Text
  /-- The rows of the braces around the members, if there are any. -/
  body : Option RowSpan
  deriving DecidableEq, Repr

/-- A declaration of a C# document. -/
inductive Declaration where
  /-- A field. -/
  | field (declaration : FieldDeclaration)
  /-- A method. -/
  | method (declaration : MethodDeclaration)
  /-- A type with its members. -/
  | type (header : TypeHeader) (members : List Declaration)
  /-- The declarations of a namespace or of a conditional section. -/
  | group (members : List Declaration)
  /-- Anything else. -/
  | other

/-! ### Nodes

The node of a declaration has the nodes below it that the grammar keeps.  A text and rows stand in
it where the grammar keeps them, and are left out elsewhere. -/

/-- A node that is known for the nodes below it alone. -/
def Node.inner (kind : NodeKind) (children : List Node) : Node :=
  ⟨kind, none, [], nofun, 0, 0, children⟩

/-- A node of a text on one row, with no nodes below it. -/
def Node.leaf (kind : NodeKind) (text : Text) (row : Nat) : Node :=
  ⟨kind, none, text, nofun, row, row, []⟩

/-- The node of a name. -/
def Node.ofName (text : Text) (row : Nat) : Node :=
  ⟨.identifier, some .name, text, nofun, row, row, []⟩

/-- The node of a declared name. -/
def Declarator.node (declarator : Declarator) : Node :=
  ⟨.variableDeclarator, none, declarator.name, nofun, declarator.row, declarator.row,
    [.ofName declarator.name declarator.row]⟩

/-- The node of a field declaration. -/
def FieldDeclaration.node (declaration : FieldDeclaration) : Node :=
  .inner .fieldDeclaration (declaration.modifiers.map (Node.leaf .modifier · 0) ++
    [.inner .variableDeclaration
      (⟨.other, some .type, declaration.declaredType, fun _ => declaration.filled, 0, 0, []⟩ ::
        declaration.declarators.map Declarator.node)])

/-- The node of the body of a declaration. -/
def RowSpan.node (rows : RowSpan) (kind : NodeKind) (children : List Node) : Node :=
  ⟨kind, some .body, [], nofun, rows.first, rows.last, children⟩

/-- The node of a list of parameters. -/
def parametersNode (names : List Text) : Node :=
  ⟨.other, some .parameters, [], nofun, 0, 0,
    names.map fun name => .inner .parameter [.ofName name 0]⟩

/-- The node of a method declaration. -/
def MethodDeclaration.node (declaration : MethodDeclaration) : Node :=
  .inner .methodDeclaration (declaration.attributeRows.map (Node.leaf .attributeList []) ++
    [.ofName declaration.name declaration.nameRow, parametersNode declaration.parameters] ++
    declaration.body.toList.map (·.node .other []))

/-- The kind of the node of a type. -/
def TypeKind.nodeKind : TypeKind → NodeKind
  | classType => .classDeclaration
  | otherType => .other

/-- The node of a type whose members have the given nodes. -/
def TypeHeader.node (header : TypeHeader) (members : List Node) : Node :=
  .inner header.kind.nodeKind (header.bases.toList.map (Node.leaf .baseList · 0) ++
    header.body.toList.map (·.node .declarationList members))

mutual

/-- The node of a declaration. -/
def Declaration.node : Declaration → Node
  | .field declaration => declaration.node
  | .method declaration => declaration.node
  | .type header members => header.node (nodesOf members)
  | .group members => .inner .other (nodesOf members)
  | .other => .inner .other []

/-- The nodes of some declarations. -/
def nodesOf : List Declaration → List Node
  | [] => []
  | first :: rest => first.node :: nodesOf rest

end

theorem nodesOf_eq_map (declarations : List Declaration) :
    nodesOf declarations = declarations.map Declaration.node := by
  induction declarations with
  | nil => rfl
  | cons first rest ih => rw [nodesOf, ih, List.map_cons]

end FieldInjection.CSharp
