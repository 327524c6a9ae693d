import FieldInjection.CommaList
import FieldInjection.Identifier
import FieldInjection.Pattern
import FieldInjection.Snapshot

/-!
# Private field declarations

A private field is recognised on the single line that declares it.  There are two readings of such a
line: `declaredFieldNames` lists the names that it declares, and `locateField` asks for one name and
answers with the type in front of it.

## Main Definitions

* `FieldReference`: a field, its declared type and its line.
* `declaredFieldNames`, `declaredFieldName?`: the names declared on a line.
* `declaredTypeOn?`: the type with which a line declares a name.
* `locateField`: the first line of a snapshot that declares a name.
-/

namespace FieldInjection

/-- A private field declaration that was found in a document. -/
structure FieldReference where
  /-- The name of the field. -/
  name : Text
  /-- The declared type, exactly as written. -/
  declaredType : Text
  /-- The line of the declaration. -/
  line : Nat
  deriving DecidableEq, Repr

namespace FieldPattern

open Pattern

/-- A type: a dotted name, type arguments, a question mark, array ranks. -/
def declaredType : Pattern :=
  one (fun c => c.isAlpha || c == '_') ++ many (one fun c => isWord c || c == '.') ++
    maybe (char '<' ++
      many (one fun c => isWord c || isBlank c || ",.<>[]?".toList.contains c) ++ char '>') ++
    maybe (char '?') ++
    many (char '[' ++ many (one fun c => isBlank c || c == ',') ++ char ']')

/-- Modifiers that may stand between `private` and the type. -/
def modifiers : Pattern :=
  many (either (literal "readonly".toList) (either (literal "static".toList)
    (either (literal "volatile".toList) (literal "new".toList))) ++ someBlanks)

/-- The beginning of a private declaration, up to its type. -/
def start : Pattern :=
  boundary ++ literal "private".toList ++ someBlanks ++ modifiers

/-- A declarator that comes before the wanted one, with the comma behind it. -/
def leadingDeclarator : Pattern :=
  name ++ blanks ++ maybe (char '=' ++ many (one fun c => c != ',' && c != ';')) ++ char ',' ++
    blanks

/-- What shows that a declarator's name is complete: the end of the declaration, the next
declarator, or an initializer, but no arrow. -/
def declaratorEnd : Pattern :=
  blanks ++ either (one fun c => c == ';' || c == ',')
    (char '=' ++ either (one (· != '>')) atEnd)

/-- What follows the type in a declaration of `field`. -/
def declaratorsUpTo (field : Text) : Pattern :=
  someBlanks ++ many leadingDeclarator ++ literal field ++ declaratorEnd

/-- A text as a whole word. -/
def wholeWord (text : Text) : Pattern :=
  boundary ++ literal text ++ boundary

end FieldPattern

/-- Whether a trimmed line is a comment. -/
def isCommentLine (trimmed : Text) : Bool :=
  trimmed.startsWith ['/', '/']

/-- The type with which a trimmed line declares `field` as a private field. -/
def declaredTypeOn? (field trimmed : Text) : Option Text :=
  if isCommentLine trimmed then none
  else if !(FieldPattern.wholeWord "private".toList).occursIn trimmed
      || !(FieldPattern.wholeWord field).occursIn trimmed
      || !(trimmed.contains ';' || trimmed.contains '=') then none
  else FieldPattern.start.search
    (fun typeStart => FieldPattern.declaredType.run
      (fun typeEnd => (FieldPattern.declaratorsUpTo field).run
        (fun _ => some (typeStart.upTo typeEnd).trim) typeEnd) typeStart) trimmed

/-- The first of the lines that declares `field`, where `index` is the number of the first line. -/
def locateFieldFrom (field : Text) (index : Nat) : List Text → Option FieldReference
  | [] => none
  | line :: rest =>
    match declaredTypeOn? field line.trim with
    | some declaredType => some ⟨field, declaredType, index⟩
    | none => locateFieldFrom field (index + 1) rest

/-- The first declaration of `field` as a private field; the empty name is declared nowhere. -/
def locateField (snapshot : Snapshot) (field : Text) : Option FieldReference :=
  if field.isEmpty then none else locateFieldFrom field 0 snapshot.lines

/-- The name that one entry of a declarator list declares: an identifier, and after it nothing or an
initializer. -/
def declaratorName? (entry : Text) : Option Text :=
  match entry.cutFirst? '=' with
  | none => if isIdentifier entry.trim then some entry.trim else none
  | some (name, initializer) =>
    if isIdentifier name.trim && initializer.head? != some '>' then some name.trim else none

/-- The text behind the type of the first private declaration on a trimmed line. -/
def declaratorList? (trimmed : Text) : Option Text :=
  (FieldPattern.start ++ FieldPattern.declaredType ++ Pattern.someBlanks).search
    (fun place => some place.rest) trimmed

/-- The private fields that a line declares, in order.  One entry that is no declarator makes the
line declare nothing. -/
def declaredFieldNames (line : Text) : List Text :=
  let trimmed := line.trim
  if isCommentLine trimmed then []
  else
    match (declaratorList? trimmed).bind (Text.cutFirst? ';') with
    | none => []
    | some (declarators, _) => ((splitTopLevel declarators).mapM declaratorName?).getD []

/-- The first private field that a line declares. -/
def declaredFieldName? (line : Text) : Option Text :=
  (declaredFieldNames line).head?

end FieldInjection
