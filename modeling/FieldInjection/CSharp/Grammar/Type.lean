import FieldInjection.CSharp.Grammar.Rules

/-!
# Types

## Main Definitions

* `typeRule`: a type with its question marks, stars and array ranks.
* `simpleType`: a type without them.
* `typeArguments`: a list of type arguments, which may be empty but for commas.
* `testedType`: a type where a question mark may as well begin a choice.
-/

namespace FieldInjection.CSharp

open FieldInjection.CSharp.Parser

/-- The names of the types that are keywords. -/
def predefinedTypes : List String :=
  ["bool", "byte", "char", "decimal", "double", "float", "int", "long", "object", "sbyte", "short",
    "string", "uint", "ulong", "ushort", "void"]

/-- A list of type arguments. -/
def typeArguments (rules : Rules) : Parser Unit := do
  let _ ← symbol "<"
  let _ ← (do let _ ← sepBy1 rules.type; pure ()) <|> skipMany (symbol ",")
  let _ ← symbol ">"

/-- A dotted name with type arguments. -/
def typeName (rules : Rules) : Parser Unit := do
  let segment : Parser Unit := do
    let _ ← identifier
    skipOptional (typeArguments rules)
  segment
  skipMany (do let _ ← symbolOf [".", "::"]; segment)

/-- A tuple of at least two types, which may be named. -/
def tupleType (rules : Rules) : Parser Unit := do
  let element : Parser Unit := do
    rules.type
    skipOptional identifier
  let _ ← symbol "("
  element
  let _ ← symbol ","
  let _ ← sepBy1 element
  let _ ← symbol ")"

/-- A type without question marks, stars and array ranks. -/
def simpleType (rules : Rules) : Parser Unit :=
  firstOf
    [do let _ ← keywordOf predefinedTypes,
      do
        let _ ← keyword "ref"
        skipOptional (keyword "readonly")
        rules.type,
      tupleType rules,
      typeName rules]

/-- The rank of an array. -/
def arrayRank : Parser Unit := do
  let _ ← symbol "["
  skipMany (symbol ",")
  let _ ← symbol "]"

/-- A type. -/
def typeRule (rules : Rules) : Parser Unit := do
  simpleType rules
  skipMany (firstOf [do let _ ← symbolOf ["?", "*"], arrayRank])

/-- A type where a question mark may as well begin a choice: it belongs to the type only if nothing
follows that could be chosen. -/
def testedType (rules : Rules) : Parser Unit := do
  let nullable : Parser Unit := do
    let _ ← symbol "?"
    ahead (symbolOf [")", "]", "\x7d", ",", ";", ":", "=", "==", "!=", "&&", "||", "??", "=>"])
  simpleType rules
  skipMany (firstOf [nullable, arrayRank])

/-- A type followed by a name. -/
def typedName (rules : Rules) : Parser Token := do
  typeRule rules
  identifier

/-- The type of a parameter followed by its name. -/
def typedParameter (rules : Rules) : Parser Token := do
  typeRule rules
  anyName

end FieldInjection.CSharp
