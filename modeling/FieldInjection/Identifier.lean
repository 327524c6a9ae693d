import FieldInjection.Text.Basic
import FieldInjection.Text.Blank
import FieldInjection.Text.Letter
import FieldInjection.Text.Numeral

/-!
# Identifiers and whole-token search

An identifier is a letter or low line followed by letters, numerals and low lines.  A token occurs
in a line when it stands there with no identifier character directly before or after it.

## Main Definitions

* `isIdentifierChar`, `isIdentifier`: what names are made of.
* `identifierPieces`: the maximal runs of identifier characters, with empty ones between separators.
* `tokenEnds`: what follows each whole-token occurrence.
* `containsToken`, `assignsToken`: whether a token occurs at all, and whether it is assigned to.
-/

namespace FieldInjection

/-- Whether a character may stand inside an identifier. -/
def isIdentifierChar (c : Char) : Bool :=
  isLetter c || isNumeral c || c == '_'

/-- Whether a text is an identifier. -/
def isIdentifier : Text → Bool
  | [] => false
  | c :: rest => (isLetter c || c == '_') && rest.all isIdentifierChar

/-- A text cut at every character that cannot stand in an identifier. -/
def identifierPieces (text : Text) : List Text :=
  text.splitOnP fun c => !isIdentifierChar c

/-- The occurrences of `token` from left to right, none overlapping the one before it: the character
before each one and the text after it.  The first `skip` characters belong to the occurrence found
last. -/
def occurrences (token : Text) (skip : Nat) (before : Option Char) :
    Text → List (Option Char × Text)
  | [] => []
  | c :: rest =>
    match skip with
    | remaining + 1 => occurrences token remaining (some c) rest
    | 0 =>
      match Text.dropStart? token (c :: rest) with
      | some after => (before, after) :: occurrences token (token.length - 1) (some c) rest
      | none => occurrences token 0 (some c) rest

/-- What follows each occurrence of `token` that has no identifier character at either side. -/
def tokenEnds (line token : Text) : List Text :=
  if token.isEmpty then []
  else ((occurrences token 0 none line).filter fun occurrence =>
    !occurrence.1.any isIdentifierChar && !occurrence.2.head?.any isIdentifierChar).map (·.2)

/-- Whether `token` occurs in a line as a whole. -/
def containsToken (line token : Text) : Bool :=
  !(tokenEnds line token).isEmpty

/-- Whether what follows a token makes it the target of an assignment: an equals sign that begins
neither a comparison nor an arrow. -/
def startsAssignment (rest : Text) : Bool :=
  match rest.trimStart with
  | '=' :: next :: _ => next != '=' && next != '>'
  | ['='] => true
  | _ => false

/-- Whether a line assigns to `token`. -/
def assignsToken (line token : Text) : Bool :=
  (tokenEnds line token).any startsAssignment

end FieldInjection
