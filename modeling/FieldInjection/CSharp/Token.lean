import FieldInjection.Text.Blank

/-!
# Tokens of a C# document

A document is a sequence of tokens with blanks and comments between them.  Each token keeps what
stands before it, so the text of any stretch of tokens can be given back exactly.

An interpolated string is no single token: its holes contain expressions, so it is a start, for each
hole the tokens of the expression between two marks, and an end.  Conditional sections of the
document show as tokens of their own.

## Main Definitions

* `TokenKind`, `Token`: the tokens.
* `Token.endRow`: the row on which a token ends.
* `Token.textOf`: the text from the first to the last of some tokens.

## Design Notes

That a token is not blank goes into its type, so the text of a stretch of the document that begins
with a token is known not to be blank wherever it is kept.
-/

namespace FieldInjection.CSharp

/-- The kinds of tokens. -/
inductive TokenKind where
  /-- A name or a keyword. -/
  | word
  /-- A name with a commercial at before it, which is never a keyword. -/
  | escapedWord
  /-- A number. -/
  | number
  /-- A string without holes. -/
  | string
  /-- A character. -/
  | character
  /-- An operator or a delimiter. -/
  | symbol
  /-- The start of a string with holes. -/
  | interpolationStart
  /-- The end of a string with holes. -/
  | interpolationEnd
  /-- The start of a hole. -/
  | holeStart
  /-- The format at the end of a hole. -/
  | holeFormat
  /-- The end of a hole. -/
  | holeEnd
  /-- The condition that starts a conditional section. -/
  | sectionStart
  /-- A further condition. -/
  | sectionNext
  /-- The start of the part for all other cases. -/
  | sectionOtherwise
  /-- The end of a conditional section. -/
  | sectionEnd
  deriving DecidableEq, Repr

/-- A token with the blanks and comments before it. -/
structure Token where
  /-- The kind of the token. -/
  kind : TokenKind
  /-- What stands between the token before and this one. -/
  leading : Text
  /-- The text of the token. -/
  lexeme : Text
  /-- The row on which the token begins, counted from zero. -/
  row : Nat
  /-- Blanks alone make no token. -/
  filled : lexeme.isAllBlank = false
  deriving DecidableEq, Repr

/-- How many line feeds a text holds. -/
def lineFeeds (text : Text) : Nat :=
  text.count '\n'

namespace Token

/-- The row on which a token ends. -/
def endRow (token : Token) : Nat :=
  token.row + lineFeeds token.lexeme

/-- The text from the first to the last of some tokens. -/
def textOf : List Token → Text
  | [] => []
  | first :: rest => first.lexeme ++ rest.flatMap fun token => token.leading ++ token.lexeme

/-- The text of some tokens is not blank. -/
theorem isAllBlank_textOf (first : Token) (rest : List Token) :
    (textOf (first :: rest)).isAllBlank = false := by
  have hfirst : first.lexeme.all isBlank = false := first.filled
  simp only [Text.isAllBlank, textOf, List.all_append, hfirst, Bool.false_and]

end Token
end FieldInjection.CSharp
