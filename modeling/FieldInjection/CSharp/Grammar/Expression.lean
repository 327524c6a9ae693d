import FieldInjection.CSharp.Grammar.Type

/-!
# Expressions

Expressions are read to see that they are well-formed, not for their structure, so operators are
taken from left to right without regard to how tightly they bind.

## Main Definitions

* `expressionRule`: an expression.
* `operandRule`: an operand with its prefix and postfix operators.
* `statementExpression`: an expression that may stand as a statement.
* `patternRule`: a pattern that a value is compared with.
* `initializerRule`: an initializer between braces.
* `argumentList`, `parameterList`: what stands between the parentheses of a call and of a
  declaration.
-/

namespace FieldInjection.CSharp

open FieldInjection.CSharp.Parser

/-! ### Arguments and parameters -/

/-- A name with a colon after it. -/
def label : Parser Unit := do
  let _ ← identifier
  let _ ← symbol ":"

/-- An argument: an expression or the declaration of a variable that receives a value. -/
def argument (rules : Rules) : Parser Unit := do
  skipOptional label
  skipOptional (keywordOf ["ref", "out", "in"])
  firstOf
    [do
        let _ ← typedName rules
        ahead (symbolOf [",", ")"]),
      rules.expression]

/-- The arguments of a call. -/
def argumentList (rules : Rules) : Parser Unit := do
  let _ ← enclosed "(" (argument rules) ")"

/-- The arguments of an element access. -/
def elementArguments (rules : Rules) : Parser Unit := do
  let _ ← symbol "["
  let _ ← sepBy1 (argument rules)
  let _ ← symbol "]"

/-- One list of attributes; the answer is the row of its opening bracket. -/
def attributeList (rules : Rules) : Parser Nat := do
  let attributeArgument : Parser Unit := do
    skipOptional label
    rules.expression
  let entry : Parser Unit := do
    typeName rules
    skipOptional (enclosed "(" attributeArgument ")")
  let start ← symbol "["
  skipOptional (do
    let _ ← keywordOf ["field", "event", "method", "param", "property", "return", "type"]
    symbol ":")
  let _ ← sepBy1 entry
  skipOptional (symbol ",")
  let _ ← symbol "]"
  return start.row

/-- A parameter; the answer is its name, unless it takes all further arguments. -/
def parameter (rules : Rules) : Parser (Option Text) := do
  skipMany (attributeList rules)
  firstOf
    [do
        let _ ← keyword "params"
        let _ ← typedParameter rules
        return none,
      do
        skipMany (keywordOf ["this", "ref", "out", "in", "readonly"])
        let name ← typedParameter rules
        skipOptional (do let _ ← symbol "="; rules.expression)
        return some name.lexeme]

/-- The parameters of a declaration; the answer is their names. -/
def parameterList (rules : Rules) : Parser (List Text) := do
  let names ← enclosed "(" (parameter rules) ")"
  return names.filterMap id

/-! ### Blocks and initializers -/

/-- A block; the answer is the rows of its braces. -/
def block (rules : Rules) : Parser RowSpan := do
  let start ← braceOpen
  skipMany rules.statement
  let stop ← braceClose
  return ⟨start.row, stop.row⟩

/-- An initializer between braces. -/
def initializerRule (rules : Rules) : Parser Unit := do
  let target : Parser Unit := (do let _ ← identifier) <|> elementArguments rules
  let element : Parser Unit := firstOf
    [rules.initializer,
      do
        target
        let _ ← symbol "="
        rules.initializer <|> rules.expression,
      rules.expression]
  let _ ← braceOpen
  let _ ← sepBy element
  skipOptional (symbol ",")
  let _ ← braceClose

/-! ### Operands -/

/-- What must follow a list of type arguments for it to be one. -/
def behindTypeArguments : List String :=
  ["(", ")", "]", "\x7b", "\x7d", ":", ";", ",", ".", "?", "==", "!=", "|",
    "^", "&&", "||", "&", "["]

/-- The keywords that can begin an operand. -/
def operandKeywords : List String :=
  predefinedTypes ++
    ["async", "await", "base", "checked", "default", "delegate", "false", "new", "null", "ref",
      "sizeof", "stackalloc", "static", "this", "throw", "true", "typeof", "unchecked"]

/-- Type arguments behind a name in an expression, if what follows them allows it. -/
def nameArguments (rules : Rules) : Parser Unit :=
  skipOptional (do
    typeArguments rules
    ahead (symbolOf behindTypeArguments))

/-- A name as an operand: every word that cannot begin another operand. -/
def nameOperand (rules : Rules) : Parser Unit := do
  let _ ← token fun t => t.kind = .escapedWord ||
    (t.kind = .word && !operandKeywords.any fun word => t.lexeme = word.toList)
  nameArguments rules

/-- The name of a member behind a point. -/
def memberAccess (rules : Rules) : Parser Unit := do
  let _ ← anyName
  nameArguments rules

/-- The tokens behind the parenthesis that closes `depth` open ones. -/
def behindGroup : Nat → List Token → Option (List Token)
  | _, [] => none
  | depth, t :: rest =>
    if t.kind = .symbol && t.lexeme = ['('] then behindGroup (depth + 1) rest
    else if t.kind = .symbol && t.lexeme = [')'] then
      match depth with
      | 0 => none
      | 1 => some rest
      | deeper + 1 => behindGroup deeper rest
    else behindGroup depth rest

/-- Succeeds in front of a parenthesised group with an arrow behind it. -/
def groupBeforeArrow : Parser Unit := fun tokens =>
  match behindGroup 0 tokens with
  | some (t :: _) => if t.kind = .symbol && t.lexeme = ['=', '>'] then some ((), tokens) else none
  | _ => none

/-- The body of an anonymous function. -/
def functionBody (rules : Rules) : Parser Unit :=
  (do let _ ← block rules) <|> rules.expression

/-- An anonymous function. -/
def lambda (rules : Rules) : Parser Unit := do
  let untyped : Parser Unit := do
    skipMany (keywordOf ["ref", "out", "in"])
    firstOf
      [do
          let _ ← typedParameter rules
          skipOptional (do let _ ← symbol "="; rules.expression),
        do let _ ← identifier]
  skipMany (keywordOf ["async", "static"])
  firstOf
    [do let _ ← identifier; ahead (symbol "=>"),
      do
        groupBeforeArrow
        let _ ← enclosed "(" untyped ")"]
  let _ ← symbol "=>"
  functionBody rules

/-- An anonymous function that is introduced by a keyword. -/
def anonymousMethod (rules : Rules) : Parser Unit := do
  skipMany (keywordOf ["async", "static"])
  let _ ← keyword "delegate"
  skipOptional (parameterList rules)
  let _ ← block rules

/-- Whether a token may begin the operand of a cast. -/
def startsCastOperand (t : Token) : Bool :=
  match t.kind with
  | .word =>
    !(["is", "as", "switch", "with", "and", "or", "when", "in", "where", "select", "orderby",
      "join", "let", "group", "into", "on", "equals", "by", "ascending",
      "descending"].any fun word => t.lexeme = word.toList)
  | .escapedWord | .number | .string | .character | .interpolationStart => true
  | .symbol => ["(", "!", "~"].any fun text => t.lexeme = text.toList
  | _ => false

/-- A cast: a type in parentheses before an operand. -/
def cast (rules : Rules) : Parser Unit := do
  let _ ← symbol "("
  let signed ← maybe (do
    let _ ← keywordOf predefinedTypes
    skipMany (firstOf [do let _ ← symbolOf ["?", "*"], arrayRank])
    let _ ← symbol ")")
  match signed with
  | some () => rules.operand
  | none =>
    typeRule rules
    let _ ← symbol ")"
    ahead (token startsCastOperand)
    rules.operand

/-- An expression in parentheses, or a tuple. -/
def group (rules : Rules) : Parser Unit := do
  let _ ← symbol "("
  let _ ← sepBy1 (argument rules)
  let _ ← symbol ")"

/-- The creation of an object or an array. -/
def creation (rules : Rules) : Parser Unit := do
  let sized : Parser Unit := do
    let _ ← symbol "["
    let _ ← sepBy1 rules.expression
    let _ ← symbol "]"
  let _ ← keywordOf ["new", "stackalloc"]
  firstOf
    [do
        simpleType rules
        skipOptional (symbol "?")
        firstOf
          [do
              argumentList rules
              skipOptional (initializerRule rules),
            do
              skipMany sized
              skipMany arrayRank
              initializerRule rules,
            do
              sized
              skipMany (sized <|> arrayRank)],
      do
        argumentList rules
        skipOptional (initializerRule rules),
      do
        arrayRank
        initializerRule rules,
      initializerRule rules]

/-- An interpolated string. -/
def interpolation (rules : Rules) : Parser Unit := do
  let hole : Parser Unit := do
    let _ ← ofKind .holeStart
    rules.expression
    skipOptional (do let _ ← symbol ","; rules.expression)
    skipOptional (ofKind .holeFormat)
    let _ ← ofKind .holeEnd
  let _ ← ofKind .interpolationStart
  skipMany hole
  let _ ← ofKind .interpolationEnd

/-- A query. -/
def query (rules : Rules) : Parser Unit := do
  let source : Parser Unit := do
    firstOf
      [do
          let _ ← identifier
          ahead (keyword "in"),
        do let _ ← typedName rules]
    let _ ← keyword "in"
    rules.expression
  let ordering : Parser Unit := do
    rules.expression
    skipOptional (keywordOf ["ascending", "descending"])
  let clause : Parser Unit := firstOf
    [do let _ ← keyword "from"; source,
      do
        let _ ← keyword "let"
        let _ ← identifier
        let _ ← symbol "="
        rules.expression,
      do let _ ← keyword "where"; rules.expression,
      do
        let _ ← keyword "join"
        source
        let _ ← keyword "on"
        rules.expression
        let _ ← keyword "equals"
        rules.expression
        skipOptional (do let _ ← keyword "into"; identifier),
      do
        let _ ← keyword "orderby"
        let _ ← sepBy1 ordering]
  let final : Parser Unit := firstOf
    [do let _ ← keyword "select"; rules.expression,
      do
        let _ ← keyword "group"
        rules.expression
        let _ ← keyword "by"
        rules.expression]
  let _ ← keyword "from"
  source
  skipMany clause
  final
  skipMany (do
    let _ ← keyword "into"
    let _ ← identifier
    skipMany clause
    final)

/-- An operand without operators. -/
def primary (rules : Rules) : Parser Unit :=
  firstOf
    [do let _ ← token fun t => t.kind = .number || t.kind = .string || t.kind = .character,
      interpolation rules,
      lambda rules,
      anonymousMethod rules,
      query rules,
      do let _ ← keywordOf ["true", "false", "null", "this", "base"],
      do
        let _ ← keyword "default"
        skipOptional (do
          let _ ← symbol "("
          rules.type
          symbol ")"),
      do
        let _ ← keywordOf ["typeof", "sizeof"]
        let _ ← symbol "("
        rules.type
        let _ ← symbol ")",
      do
        let _ ← keywordOf ["checked", "unchecked"]
        let _ ← symbol "("
        rules.expression
        let _ ← symbol ")",
      creation rules,
      cast rules,
      group rules,
      nameOperand rules,
      do
        let _ ← keywordOf predefinedTypes
        ahead (symbol ".")]

/-- One arm of a choice by patterns. -/
def switchArm (rules : Rules) : Parser Unit := do
  rules.pattern
  skipOptional (do let _ ← keyword "when"; rules.expression)
  let _ ← symbol "=>"
  rules.expression

/-- A postfix operator. -/
def postfixOperator (rules : Rules) : Parser Unit :=
  firstOf
    [do let _ ← symbolOf [".", "->", "::"]; memberAccess rules,
      argumentList rules,
      elementArguments rules,
      do let _ ← symbol "?"; let _ ← symbol "."; memberAccess rules,
      do let _ ← symbol "?"; elementArguments rules,
      do let _ ← symbolOf ["++", "--", "!"],
      do
        let _ ← keyword "switch"
        let _ ← braceOpen
        let _ ← sepBy (switchArm rules)
        skipOptional (symbol ",")
        let _ ← braceClose,
      do let _ ← keyword "with"; initializerRule rules]

/-- An operand with its prefix and postfix operators. -/
def operandRule (rules : Rules) : Parser Unit :=
  firstOf
    [do
        let _ ← symbolOf ["+", "-", "!", "~", "++", "--", "&", "*", "^"]
        rules.operand,
      do
        let _ ← keywordOf ["await", "throw", "ref"]
        rules.operand,
      do
        let _ ← symbol ".."
        skipOptional rules.operand,
      do
        primary rules
        skipMany (postfixOperator rules)]

/-! ### Operators between operands -/

/-- The operators that assign, but for the shift to the right. -/
def assignmentOperators : List String :=
  ["=", "+=", "-=", "*=", "/=", "%=", "&=", "|=", "^=", "<<=", "??="]

/-- The operators between two operands, but for those that begin with a closing angle. -/
def binaryOperators : List String :=
  assignmentOperators ++
    ["*", "/", "%", "+", "-", "<<", "<", "<=", ">=", "==", "!=", "&", "^", "|", "&&", "||", "??"]

/-- A symbol that stands directly behind the token before it. -/
def adjoining (text : String) : Parser Token :=
  token fun t => t.kind = .symbol && t.leading.isEmpty && t.lexeme = text.toList

/-- An operator between two operands; closing angles that stand together are one operator. -/
def binaryOperator : Parser Unit :=
  firstOf
    [do let _ ← symbolOf binaryOperators,
      do
        let _ ← symbol ">"
        skipOptional (adjoining ">")
        skipOptional (adjoining ">")
        skipOptional (adjoining ">=")]

/-- An operator that assigns. -/
def assignmentOperator : Parser Unit :=
  firstOf
    [do let _ ← symbolOf assignmentOperators,
      do
        let _ ← symbol ">"
        skipOptional (adjoining ">")
        let _ ← adjoining ">="]

/-- An operator and what stands right of it. -/
def operatorTail (rules : Rules) : Parser Unit :=
  firstOf
    [do binaryOperator; rules.initializer <|> operandRule rules,
      do let _ ← keyword "is"; rules.pattern,
      do let _ ← keyword "as"; testedType rules,
      do let _ ← symbol ".."; skipOptional (operandRule rules),
      do
        let _ ← symbol "?"
        rules.expression
        let _ ← symbol ":"
        rules.expression]

/-- An expression. -/
def expressionRule (rules : Rules) : Parser Unit := do
  operandRule rules
  skipMany (operatorTail rules)

/-- Whether the tokens of an operand are those of a call, a creation, a change of a variable or an
expression in parentheses, which may stand as a statement. -/
def isAction (tokens : List Token) : Bool :=
  (tokens.getLast?.any fun t => t.kind = .symbol &&
      [")", "++", "--"].any fun text => t.lexeme = text.toList) ||
    tokens.head?.any fun t =>
      (t.kind = .word && ["await", "new"].any fun text => t.lexeme = text.toList) ||
        (t.kind = .symbol && ["+", "-", "!", "~", "++", "--", "&", "*", "^"].any
          fun text => t.lexeme = text.toList)

/-- An expression that may stand as a statement: an assignment or an action. -/
def statementExpression (rules : Rules) : Parser Unit :=
  firstOf
    [do
        operandRule rules
        assignmentOperator
        rules.initializer <|> rules.expression,
      do
        let tokens ← consumed (operandRule rules)
        if isAction tokens then pure () else failure]

/-! ### Patterns -/

/-- A constant in a pattern. -/
def constantPattern (rules : Rules) : Parser Unit := do
  operandRule rules
  skipMany (do
    let _ ← symbolOf ["*", "/", "%", "+", "-", "<<", "&", "|", "^"]
    operandRule rules)

/-- The name that a pattern gives to a value. -/
def designation : Parser Unit := do
  let _ ← token fun t =>
    isName t && !(["when", "and", "or"].any fun word => t.lexeme = word.toList)

/-- The part of a pattern that looks into a value. -/
def propertyPattern (rules : Rules) : Parser Unit := do
  let subpattern : Parser Unit := do
    skipOptional (do typeName rules; symbol ":")
    rules.pattern
  let _ ← braceOpen
  let _ ← sepBy subpattern
  skipOptional (symbol ",")
  let _ ← braceClose

/-- The part of a pattern that takes a value apart. -/
def positionalPattern (rules : Rules) : Parser Unit := do
  let subpattern : Parser Unit := do
    skipOptional label
    rules.pattern
  let _ ← enclosed "(" subpattern ")"

/-- A pattern without connectives. -/
def simplePattern (rules : Rules) : Parser Unit :=
  firstOf
    [do let _ ← keyword "not"; rules.pattern,
      do
        let _ ← symbolOf ["<", "<=", ">", ">=", "==", "!="]
        constantPattern rules,
      do
        propertyPattern rules
        skipOptional designation,
      do
        testedType rules
        skipOptional (positionalPattern rules)
        skipOptional (propertyPattern rules)
        skipOptional designation
        ahead (do
          let next ← maybe (symbolOf ["+", "-", "*", "/", "%", "<<", "|", "^", ".", "(", "["])
          if next.isSome then failure),
      do
        positionalPattern rules
        skipOptional (propertyPattern rules)
        skipOptional designation,
      constantPattern rules]

/-- A pattern that a value is compared with. -/
def patternRule (rules : Rules) : Parser Unit := do
  simplePattern rules
  skipMany (do
    let _ ← keywordOf ["and", "or"]
    simplePattern rules)

end FieldInjection.CSharp
