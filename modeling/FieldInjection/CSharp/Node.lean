import FieldInjection.Text.Blank

/-!
# Syntax trees

A parser for C# turns a text into a tree of nodes.  A node has a kind, a part that it plays in the
node around it, the text that it stands for, the rows of that text, and the nodes below it.  Which
parser makes the tree is left open: whoever locates a field in a tree is given the parser.

## Main Definitions

* `NodeKind`, `NodeRole`, `Node`: the nodes.
* `Node.child?`, `Node.childrenOf`: the nodes below a node, by role and by kind.
* `SyntaxTree`: a tree, and whether the text has faults.
* `ParserFailure`, `SyntaxParser`: the parsers.

## Design Notes

That a type is not blank goes into the node, so whoever reads the type of a declaration off a tree
need not ask for it.  A parser that puts in what it finds missing leaves such a node out, or gives it
no part to play; the tree has a fault then, and no field is located in it.
-/

namespace FieldInjection.CSharp

/-- The kinds of nodes.  Only the kinds that are looked for are told apart. -/
inductive NodeKind where
  /-- A class. -/
  | classDeclaration
  /-- The members of a type or a namespace between braces. -/
  | declarationList
  /-- The base types of a type, with the colon before them. -/
  | baseList
  /-- A field. -/
  | fieldDeclaration
  /-- A modifier of a declaration. -/
  | modifier
  /-- The type of a declaration with the names that are declared. -/
  | variableDeclaration
  /-- One declared name with its initializer. -/
  | variableDeclarator
  /-- A method. -/
  | methodDeclaration
  /-- Attributes between square brackets. -/
  | attributeList
  /-- A parameter. -/
  | parameter
  /-- A name. -/
  | identifier
  /-- Anything else. -/
  | other
  deriving DecidableEq, Repr

/-- The parts that a node may play in the node around it. -/
inductive NodeRole where
  /-- The name of a declaration. -/
  | name
  /-- The type of a declaration. -/
  | type
  /-- The parameters of a declaration. -/
  | parameters
  /-- The body of a declaration. -/
  | body
  deriving DecidableEq, Repr

/-- A node of a syntax tree. -/
structure Node where
  /-- The kind of the node. -/
  kind : NodeKind
  /-- The part that it plays in the node around it, if it has one. -/
  role : Option NodeRole
  /-- The text that it stands for. -/
  text : Text
  /-- The type of a declaration is not blank. -/
  filled : role = some .type → text.isAllBlank = false
  /-- The row on which the text begins. -/
  firstRow : Nat
  /-- The row on which the text ends. -/
  lastRow : Nat
  /-- The nodes below it, in the order of the text. -/
  children : List Node

namespace Node

/-- The first node below a node that plays the given part in it. -/
def child? (node : Node) (role : NodeRole) : Option Node :=
  node.children.find? (·.role = some role)

/-- The nodes of the given kind below a node. -/
def childrenOf (node : Node) (kind : NodeKind) : List Node :=
  node.children.filter (·.kind = kind)

end Node

/-- What a parser makes of a text. -/
structure SyntaxTree where
  /-- Whether the text has faults, so that nodes are missing or left over. -/
  hasError : Bool
  /-- The node of the whole text. -/
  root : Node

/-- Why a parser may make no tree. -/
inductive ParserFailure where
  /-- The grammar cannot be used, for the given reason. -/
  | noGrammar (reason : Text)
  /-- The parser gave up. -/
  | noTree
  deriving DecidableEq, Repr

/-- A parser for C#. -/
abbrev SyntaxParser := Text → Except ParserFailure SyntaxTree

end FieldInjection.CSharp
