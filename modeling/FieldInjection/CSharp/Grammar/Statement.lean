import FieldInjection.CSharp.Grammar.Expression

/-!
# Statements

## Main Definitions

* `statementRule`: a statement.
* `variableDeclarators`: the names of a declaration with their initializers.
* `typeParameters`, `constraints`: the parts of a generic declaration.
* `functionTail`: the body of a function.
-/

namespace FieldInjection.CSharp

open FieldInjection.CSharp.Parser

/-! ### Parts of declarations -/

/-- The words that may stand before a declaration. -/
def modifierWords : List String :=
  ["abstract", "async", "const", "extern", "file", "fixed", "internal", "new", "override",
    "partial", "private", "protected", "public", "readonly", "required", "sealed", "static",
    "unsafe", "virtual", "volatile"]

/-- Whether a token may follow a modifier. -/
def followsModifier (t : Token) : Bool :=
  t.kind = .word || t.kind = .escapedWord || (t.kind = .symbol && t.lexeme = ['(']) ||
    (t.kind = .symbol && t.lexeme = ['~'])

/-- A modifier. -/
def modifier : Parser Token := do
  let word ← keywordOf modifierWords
  ahead (token followsModifier)
  return word

/-- A declared name with its initializer, where `nameRule` says what may be a name. -/
def variableDeclarator (rules : Rules) (nameRule : Parser Token) : Parser Declarator := do
  let name ← nameRule
  skipOptional (elementArguments rules)
  skipOptional (do
    let _ ← symbol "="
    rules.initializer <|> rules.expression)
  return ⟨name.lexeme, name.row⟩

/-- The names of a declaration with their initializers. -/
def variableDeclarators (rules : Rules) (nameRule : Parser Token) : Parser (List Declarator) :=
  sepBy1 (variableDeclarator rules nameRule)

/-- The type parameters of a declaration. -/
def typeParameters (rules : Rules) : Parser Unit := do
  let typeParameter : Parser Unit := do
    skipMany (attributeList rules)
    skipOptional (keywordOf ["in", "out"])
    let _ ← identifier
  let _ ← symbol "<"
  let _ ← sepBy1 typeParameter
  let _ ← symbol ">"

/-- What is asked of the type parameters of a declaration. -/
def constraints (rules : Rules) : Parser Unit := do
  let constraint : Parser Unit := firstOf
    [do let _ ← keyword "class"; skipOptional (symbol "?"),
      do let _ ← keywordOf ["struct", "default"],
      do
        let _ ← keyword "new"
        let _ ← symbol "("
        let _ ← symbol ")",
      rules.type]
  skipMany (do
    let _ ← keyword "where"
    let _ ← identifier
    let _ ← symbol ":"
    sepBy1 constraint)

/-- The body of a function: a block, an arrow with an expression, or nothing.  The answer is the
rows of the body, without the semicolon behind an expression. -/
def functionTail (rules : Rules) : Parser (Option RowSpan) :=
  firstOf
    [do return some (← block rules),
      do
        let arrow ← symbol "=>"
        let value ← consumed rules.expression
        let _ ← symbol ";"
        return some ⟨arrow.row, (value.getLast?.map Token.endRow).getD arrow.row⟩,
      do
        let _ ← symbol ";"
        return none]

/-! ### Statements -/

/-- A declaration of variables without its semicolon. -/
def localVariables (rules : Rules) : Parser Unit := do
  skipMany modifier
  typeRule rules
  let _ ← variableDeclarators rules identifier

/-- A declaration of variables as a statement. -/
def localDeclaration (rules : Rules) : Parser Unit := do
  skipOptional (keyword "await")
  skipOptional (keyword "using")
  localVariables rules
  let _ ← symbol ";"

/-- A function inside a function. -/
def localFunction (rules : Rules) : Parser Unit := do
  skipMany (attributeList rules)
  skipMany modifier
  let _ ← typedName rules
  skipOptional (typeParameters rules)
  let _ ← parameterList rules
  constraints rules
  let _ ← functionTail rules

/-- An expression in parentheses. -/
def condition (rules : Rules) : Parser Unit := do
  let _ ← symbol "("
  rules.expression
  let _ ← symbol ")"

/-- A loop. -/
def loop (rules : Rules) : Parser Unit :=
  firstOf
    [do
        let _ ← keyword "while"
        condition rules
        rules.statement,
      do
        let _ ← keyword "do"
        rules.statement
        let _ ← keyword "while"
        condition rules
        let _ ← symbol ";",
      do
        let _ ← keyword "for"
        let _ ← symbol "("
        skipOptional (firstOf
          [do localVariables rules; ahead (symbol ";"),
            do let _ ← sepBy1 rules.expression])
        let _ ← symbol ";"
        skipOptional rules.expression
        let _ ← symbol ";"
        let _ ← sepBy rules.expression
        let _ ← symbol ")"
        rules.statement,
      do
        skipOptional (keyword "await")
        let _ ← keyword "foreach"
        let _ ← symbol "("
        firstOf
          [do
              let _ ← typedName rules
              ahead (keyword "in"),
            rules.operand]
        let _ ← keyword "in"
        rules.expression
        let _ ← symbol ")"
        rules.statement]

/-- A choice between statements. -/
def choice (rules : Rules) : Parser Unit := do
  let caseLabel : Parser Unit := firstOf
    [do
        let _ ← keyword "case"
        rules.pattern
        skipOptional (do let _ ← keyword "when"; rules.expression)
        let _ ← symbol ":",
      do
        let _ ← keyword "default"
        let _ ← symbol ":"]
  firstOf
    [do
        let _ ← keyword "if"
        condition rules
        rules.statement
        skipOptional (do let _ ← keyword "else"; rules.statement),
      do
        let _ ← keyword "switch"
        group rules
        let _ ← braceOpen
        skipMany (do
          caseLabel
          skipMany caseLabel
          skipMany rules.statement)
        let _ ← braceClose]

/-- A statement that leaves what surrounds it. -/
def jump (rules : Rules) : Parser Unit :=
  firstOf
    [do
        let _ ← keywordOf ["return", "throw"]
        skipOptional rules.expression
        let _ ← symbol ";",
      do
        let _ ← keywordOf ["break", "continue"]
        let _ ← symbol ";",
      do
        let _ ← keyword "yield"
        firstOf
          [do let _ ← keyword "return"; rules.expression,
            do let _ ← keyword "break"]
        let _ ← symbol ";",
      do
        let _ ← keyword "goto"
        firstOf
          [do let _ ← identifier,
            do let _ ← keyword "case"; rules.expression,
            do let _ ← keyword "default"]
        let _ ← symbol ";"]

/-- A statement that guards others. -/
def guarded (rules : Rules) : Parser Unit := do
  let handler : Parser Unit := do
    let _ ← keyword "catch"
    skipOptional (do
      let _ ← symbol "("
      rules.type
      skipOptional identifier
      symbol ")")
    skipOptional (do let _ ← keyword "when"; condition rules)
    let _ ← block rules
  firstOf
    [do
        let _ ← keyword "try"
        let _ ← block rules
        skipMany handler
        skipOptional (do let _ ← keyword "finally"; block rules),
      do
        let _ ← keyword "lock"
        condition rules
        rules.statement,
      do
        skipOptional (keyword "await")
        let _ ← keywordOf ["using", "fixed"]
        let _ ← symbol "("
        firstOf
          [do localVariables rules; ahead (symbol ")"),
            rules.expression]
        let _ ← symbol ")"
        rules.statement,
      do
        let _ ← keywordOf ["checked", "unchecked", "unsafe"]
        let _ ← block rules]

/-- A conditional section: its parts, each a sequence of what `part` accepts. -/
def conditionalSection {α : Type} (part : Parser α) : Parser (List α) := do
  let _ ← ofKind .sectionStart
  let first ← many part
  let further ← many (do let _ ← ofKind .sectionNext; many part)
  let otherwise ← maybe (do let _ ← ofKind .sectionOtherwise; many part)
  let _ ← ofKind .sectionEnd
  return first ++ further.flatten ++ otherwise.getD []

/-- The keywords that begin something else than an expression where a statement may stand. -/
def statementKeywords : List String :=
  ["break", "case", "catch", "class", "const", "continue", "default", "delegate", "do", "else",
    "enum", "event", "extern", "finally", "fixed", "for", "foreach", "goto", "if", "interface",
    "internal", "lock", "namespace", "override", "private", "protected", "public", "readonly",
    "return", "sealed", "static", "struct", "switch", "throw", "try", "unsafe", "using",
    "virtual", "volatile", "while"]

/-- An expression as a statement. -/
def expressionStatement (rules : Rules) : Parser Unit := do
  ahead (token fun t =>
    !(t.kind = .word && statementKeywords.any fun word => t.lexeme = word.toList))
  statementExpression rules
  let _ ← symbol ";"

/-- A statement. -/
def statementRule (rules : Rules) : Parser Unit :=
  firstOf
    [do let _ ← block rules,
      do let _ ← symbol ";",
      loop rules,
      choice rules,
      jump rules,
      guarded rules,
      do let _ ← conditionalSection rules.statement,
      do label; rules.statement,
      localDeclaration rules,
      localFunction rules,
      expressionStatement rules]

end FieldInjection.CSharp
