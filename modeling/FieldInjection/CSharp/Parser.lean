import FieldInjection.CSharp.Token

/-!
# Parsers over tokens

A parser takes a beginning of a list of tokens and returns what it made of it with the tokens that
are left, or fails.  An alternative is tried from where the failed one began.

## Main Definitions

* `Parser`: parsers, a monad with alternatives.
* `Parser.many`, `Parser.sepBy1`, `Parser.sepBy`: repetition.
* `Parser.consumed`, `Parser.consumedSome`: the tokens that a parser takes.
* `Parser.symbol`, `Parser.keyword`, `Parser.identifier`: single tokens.

## Design Notes

A keyword is one only where a keyword can stand.  Behind the type of a parameter or behind a point
there can be none, so any word is a name there (`Parser.anyName`).
-/

namespace FieldInjection.CSharp

/-- A parser over a list of tokens. -/
abbrev Parser := StateT (List Token) Option

namespace Parser

variable {α : Type}

/-- At most `bound` repetitions, as many as succeed one after the other. -/
def repeated (parser : Parser α) : Nat → List Token → List α × List Token
  | 0, tokens => ([], tokens)
  | bound + 1, tokens =>
    match parser tokens with
    | none => ([], tokens)
    | some (value, rest) =>
      let (values, behind) := repeated parser bound rest
      (value :: values, behind)

/-- As many repetitions as succeed one after the other. -/
def many (parser : Parser α) : Parser (List α) := fun tokens =>
  some (repeated parser tokens.length tokens)

/-- As many repetitions as succeed, without their values. -/
def skipMany (parser : Parser α) : Parser Unit := do
  let _ ← many parser

/-- A parser that may also be left out. -/
def maybe (parser : Parser α) : Parser (Option α) := fun tokens =>
  match parser tokens with
  | none => some (none, tokens)
  | some (value, rest) => some (some value, rest)

/-- A parser that may also be left out, without its value. -/
def skipOptional (parser : Parser α) : Parser Unit := do
  let _ ← maybe parser

/-- The first of some parsers that succeeds. -/
def firstOf : List (Parser α) → Parser α
  | [] => failure
  | parser :: rest => parser <|> firstOf rest

/-- Succeeds where the parser would, and takes nothing. -/
def ahead (parser : Parser α) : Parser Unit := fun tokens =>
  match parser tokens with
  | none => none
  | some _ => some ((), tokens)

/-- The tokens that a parser takes. -/
def consumed (parser : Parser α) : Parser (List Token) := fun tokens =>
  match parser tokens with
  | none => none
  | some (_, rest) => some (tokens.take (tokens.length - rest.length), rest)

/-- The tokens that a parser takes, the first one apart; it fails where the parser takes none. -/
def consumedSome (parser : Parser α) : Parser (Token × List Token) := do
  match ← consumed parser with
  | [] => failure
  | first :: rest => return (first, rest)

/-- One token with a property. -/
def token (holds : Token → Bool) : Parser Token := fun tokens =>
  match tokens with
  | first :: rest => if holds first then some (first, rest) else none
  | [] => none

/-- One token of a kind. -/
def ofKind (kind : TokenKind) : Parser Token :=
  token (·.kind = kind)

/-- A given operator or delimiter. -/
def symbol (text : String) : Parser Token :=
  token fun t => t.kind = .symbol && t.lexeme = text.toList

/-- One of some operators or delimiters. -/
def symbolOf (texts : List String) : Parser Token :=
  token fun t => t.kind = .symbol && texts.any fun text => t.lexeme = text.toList

/-- The opening brace. -/
def braceOpen : Parser Token := symbol "\x7b"

/-- The closing brace. -/
def braceClose : Parser Token := symbol "\x7d"

/-- A given keyword. -/
def keyword (text : String) : Parser Token :=
  token fun t => t.kind = .word && t.lexeme = text.toList

/-- One of some keywords. -/
def keywordOf (texts : List String) : Parser Token :=
  token fun t => t.kind = .word && texts.any fun text => t.lexeme = text.toList

/-- The words that cannot be names. -/
def reservedWords : List String :=
  ["abstract", "as", "base", "bool", "break", "byte", "case", "catch", "char", "checked", "class",
    "const", "continue", "decimal", "default", "delegate", "do", "double", "else", "enum", "event",
    "explicit", "extern", "false", "finally", "fixed", "float", "for", "foreach", "goto", "if",
    "implicit", "in", "int", "interface", "internal", "is", "lock", "long", "namespace", "new",
    "null", "object", "operator", "out", "override", "params", "private", "protected", "public",
    "readonly", "ref", "return", "sbyte", "sealed", "short", "sizeof", "stackalloc", "static",
    "string", "struct", "switch", "this", "throw", "true", "try", "typeof", "uint", "ulong",
    "unchecked", "unsafe", "ushort", "using", "virtual", "void", "volatile", "while"]

/-- Whether a token is a name. -/
def isName (t : Token) : Bool :=
  t.kind = .escapedWord || (t.kind = .word && !reservedWords.any fun word => t.lexeme = word.toList)

/-- A name. -/
def identifier : Parser Token :=
  token isName

/-- A name where no keyword can stand, so that every word is a name. -/
def anyName : Parser Token :=
  token fun t => t.kind = .escapedWord || t.kind = .word

/-- The name of a member behind its type, where only two keywords can stand. -/
def memberName : Parser Token :=
  token fun t => t.kind = .escapedWord ||
    (t.kind = .word && t.lexeme ≠ "this".toList && t.lexeme ≠ "operator".toList)

/-- At least one item, with a comma between two of them. -/
def sepBy1 (parser : Parser α) : Parser (List α) := do
  let first ← parser
  let rest ← many (do let _ ← symbol ","; parser)
  return first :: rest

/-- Any number of items, with a comma between two of them. -/
def sepBy (parser : Parser α) : Parser (List α) :=
  sepBy1 parser <|> pure []

/-- Any number of items between two delimiters. -/
def enclosed (start : String) (parser : Parser α) (stop : String) : Parser (List α) := do
  let _ ← symbol start
  let items ← sepBy parser
  let _ ← symbol stop
  return items

end Parser
end FieldInjection.CSharp
