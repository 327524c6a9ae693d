import FieldInjection.CSharp.Grammar.Statement
import FieldInjection.CSharp.Scan

/-!
# Members, types and documents

## Main Definitions

* `memberRule`: a member of a type or a namespace.
* `typeDeclaration`: a type with its members.
* `itemRule`: something that stands at the top of a document.
* `Rules.level`, `Rules.atDepth`: the rules of the grammar, nested as deeply as needed.
* `declarations?`: the declarations of a document.
* `parse`: the syntax tree of a document.
-/

namespace FieldInjection.CSharp

open FieldInjection.CSharp.Parser

/-! ### Types -/

/-- The base types of a type with the colon before them; the answer is their text. -/
def baseList (rules : Rules) : Parser Text := do
  let base : Parser Unit := do
    typeRule rules
    skipOptional (argumentList rules)
  let tokens ← consumed (do let _ ← symbol ":"; sepBy1 base)
  return Token.textOf tokens

/-- The members of a type or a namespace between braces. -/
def memberBlock (rules : Rules) : Parser (RowSpan × List Declaration) := do
  let start ← braceOpen
  let members ← many rules.member
  let stop ← braceClose
  return (⟨start.row, stop.row⟩, members)

/-- The keyword of a type that has members. -/
def typeKeyword : Parser TypeKind :=
  firstOf
    [do
        let _ ← keyword "class"
        return .classType,
      do
        let _ ← keywordOf ["struct", "interface"]
        return .otherType,
      do
        let _ ← keyword "ref"
        let _ ← keyword "struct"
        return .otherType,
      do
        let _ ← keyword "record"
        skipOptional (keywordOf ["class", "struct"])
        ahead anyName
        return .otherType]

/-- A type with members, after its attributes and modifiers. -/
def memberedType (rules : Rules) : Parser Declaration := do
  let kind ← typeKeyword
  let _ ← anyName
  skipOptional (typeParameters rules)
  skipOptional (parameterList rules)
  let bases ← maybe (baseList rules)
  constraints rules
  firstOf
    [do
        let (rows, members) ← memberBlock rules
        skipOptional (symbol ";")
        return .type ⟨kind, bases, some rows⟩ members,
      do
        let _ ← symbol ";"
        return .type ⟨kind, bases, none⟩ []]

/-- An enumeration, after its attributes and modifiers. -/
def enumeration (rules : Rules) : Parser Declaration := do
  let enumerator : Parser Unit := do
    skipMany (attributeList rules)
    let _ ← identifier
    skipOptional (do let _ ← symbol "="; rules.expression)
  let _ ← keyword "enum"
  let _ ← identifier
  skipOptional (baseList rules)
  let _ ← braceOpen
  let _ ← sepBy enumerator
  skipOptional (symbol ",")
  let _ ← braceClose
  skipOptional (symbol ";")
  return .other

/-- A delegate type, after its attributes and modifiers. -/
def delegateType (rules : Rules) : Parser Declaration := do
  let _ ← keyword "delegate"
  let _ ← typedName rules
  skipOptional (typeParameters rules)
  let _ ← parameterList rules
  constraints rules
  let _ ← symbol ";"
  return .other

/-- A type, after its attributes and modifiers. -/
def typeAfterModifiers (rules : Rules) : Parser Declaration :=
  firstOf [memberedType rules, enumeration rules, delegateType rules]

/-- A type with its attributes and modifiers. -/
def typeDeclaration (rules : Rules) : Parser Declaration := do
  skipMany (attributeList rules)
  skipMany modifier
  typeAfterModifiers rules

/-! ### Members -/

/-- The interface that a member belongs to, with the point behind it. -/
def interfaceQualifier (rules : Rules) : Parser Unit := do
  skipMany (do
    let _ ← identifier
    skipOptional (typeArguments rules)
    symbolOf [".", "::"])

/-- The accessors of a property or an event. -/
def accessors (rules : Rules) : Parser Unit := do
  let accessor : Parser Unit := do
    skipMany (attributeList rules)
    skipMany modifier
    let _ ← identifier
    let _ ← functionTail rules
  let _ ← braceOpen
  skipMany accessor
  let _ ← braceClose

/-- An arrow with an expression and a semicolon. -/
def arrowTail (rules : Rules) : Parser Unit := do
  let _ ← symbol "=>"
  rules.expression
  let _ ← symbol ";"

/-- A field, after its attributes and modifiers. -/
def fieldAfterModifiers (rules : Rules) (modifiers : List Text) : Parser Declaration := do
  let (first, rest) ← consumedSome (typeRule rules)
  let declarators ← variableDeclarators rules memberName
  let _ ← symbol ";"
  return .field
    ⟨modifiers, Token.textOf (first :: rest), Token.isAllBlank_textOf first rest, declarators⟩

/-- A method, after its attributes and modifiers. -/
def methodAfterModifiers (rules : Rules) (attributeRows : List Nat) : Parser Declaration := do
  typeRule rules
  interfaceQualifier rules
  let name ← memberName
  skipOptional (typeParameters rules)
  let parameters ← parameterList rules
  constraints rules
  let body ← functionTail rules
  return .method ⟨attributeRows, name.lexeme, name.row, parameters, body⟩

/-- A property, after its attributes and modifiers. -/
def propertyAfterModifiers (rules : Rules) : Parser Declaration := do
  typeRule rules
  interfaceQualifier rules
  let _ ← memberName
  firstOf
    [do
        accessors rules
        skipOptional (do
          let _ ← symbol "="
          rules.initializer <|> rules.expression
          symbol ";"),
      arrowTail rules]
  return .other

/-- An indexer, after its attributes and modifiers. -/
def indexerAfterModifiers (rules : Rules) : Parser Declaration := do
  typeRule rules
  interfaceQualifier rules
  let _ ← keyword "this"
  let _ ← symbol "["
  let _ ← sepBy1 (parameter rules)
  let _ ← symbol "]"
  accessors rules <|> arrowTail rules
  return .other

/-- An event, after its attributes and modifiers. -/
def eventAfterModifiers (rules : Rules) : Parser Declaration := do
  let _ ← keyword "event"
  typeRule rules
  firstOf
    [do
        let _ ← variableDeclarators rules memberName
        let _ ← symbol ";",
      do
        interfaceQualifier rules
        let _ ← identifier
        accessors rules]
  return .other

/-- A constructor or a finalizer, after its attributes and modifiers. -/
def constructorAfterModifiers (rules : Rules) : Parser Declaration := do
  skipOptional (symbol "~")
  let _ ← identifier
  let _ ← parameterList rules
  skipOptional (do
    let _ ← symbol ":"
    let _ ← keywordOf ["base", "this"]
    argumentList rules)
  let _ ← functionTail rules
  return .other

/-- The operators that a type may define. -/
def definableOperator : Parser Unit := do
  firstOf
    [do let _ ← keywordOf ["true", "false"],
      do
        let _ ← symbol ">"
        skipMany (symbolOf [">"]),
      do
        let _ ← symbolOf ["!", "~", "++", "--", "+", "-", "*", "/", "%", "^", "|", "&", "<<", "==",
          "!=", "<", "<=", ">="]]

/-- An operator or a conversion, after its attributes and modifiers. -/
def operatorAfterModifiers (rules : Rules) : Parser Declaration := do
  firstOf
    [do
        let _ ← keywordOf ["implicit", "explicit"]
        let _ ← keyword "operator"
        skipOptional (keyword "checked")
        typeRule rules,
      do
        typeRule rules
        let _ ← keyword "operator"
        skipOptional (keyword "checked")
        definableOperator]
  let _ ← parameterList rules
  let _ ← functionTail rules
  return .other

/-- A namespace with its declarations. -/
def namespaceBlock (rules : Rules) : Parser Declaration := do
  let _ ← keyword "namespace"
  typeName rules
  let (_, members) ← memberBlock rules
  skipOptional (symbol ";")
  return .group members

/-- A directive that makes names of another namespace usable. -/
def usingDirective (rules : Rules) : Parser Declaration := do
  skipOptional (keyword "global")
  let _ ← keyword "using"
  firstOf
    [do
        skipOptional (keyword "unsafe")
        let _ ← identifier
        let _ ← symbol "="
        rules.type,
      do
        skipOptional (keyword "static")
        skipOptional (keyword "unsafe")
        typeName rules]
  let _ ← symbol ";"
  return .other

/-- A member of a type or a namespace. -/
def memberRule (rules : Rules) : Parser Declaration :=
  firstOf
    [do return .group (← conditionalSection rules.member),
      namespaceBlock rules,
      usingDirective rules,
      do
        let attributeRows ← many (attributeList rules)
        let modifiers ← many modifier
        firstOf
          [typeAfterModifiers rules,
            eventAfterModifiers rules,
            fieldAfterModifiers rules (modifiers.map (·.lexeme)),
            methodAfterModifiers rules attributeRows,
            propertyAfterModifiers rules,
            indexerAfterModifiers rules,
            constructorAfterModifiers rules,
            operatorAfterModifiers rules]]

/-! ### Documents -/

/-- Something that stands at the top of a document. -/
def itemRule (rules : Rules) : Parser Declaration :=
  firstOf
    [do
        let _ ← keyword "extern"
        let _ ← keyword "alias"
        let _ ← identifier
        let _ ← symbol ";"
        return .other,
      usingDirective rules,
      do
        let _ ← symbol "["
        let _ ← keywordOf ["assembly", "module"]
        let _ ← symbol ":"
        let _ ← sepBy1 (do
          typeName rules
          skipOptional (argumentList rules))
        skipOptional (symbol ",")
        let _ ← symbol "]"
        return .other,
      do
        let _ ← keyword "namespace"
        typeName rules
        let _ ← symbol ";"
        return .other,
      namespaceBlock rules,
      do return .group (← conditionalSection rules.item),
      typeDeclaration rules,
      do
        statementRule rules
        return .other]

/-- The rules one level above the given ones. -/
def Rules.level (rules : Rules) : Rules where
  type := typeRule rules
  operand := operandRule rules
  expression := expressionRule rules
  pattern := patternRule rules
  initializer := initializerRule rules
  statement := statementRule rules
  member := memberRule rules
  item := itemRule rules

/-- The rules that may be nested `depth` times. -/
def Rules.atDepth : Nat → Rules
  | 0 => .none
  | depth + 1 => (atDepth depth).level

/-- The declarations that some tokens make up, if they are a well-formed document. -/
def parseTokens (tokens : List Token) : Option (List Declaration) :=
  match many (Rules.atDepth (tokens.length + 1)).item tokens with
  | some (declarations, []) => some declarations
  | _ => none

/-- The declarations of a text, if it is a well-formed document. -/
def declarations? (text : Text) : Option (List Declaration) :=
  (scan text).bind parseTokens

/-- The parser of this library: the tree of the declarations of a text, or a tree with nothing in it
but a fault if the text is not well-formed. -/
def parse : SyntaxParser := fun text =>
  match declarations? text with
  | none => .ok ⟨true, .inner .other []⟩
  | some declarations => .ok ⟨false, .inner .other (nodesOf declarations)⟩

end FieldInjection.CSharp
