import FieldInjection.Text.Quoted
import FieldInjection.Brace

/-!
# JSON

A reader for configurations and a writer for reports.

A string may escape half of a surrogate pair.  Such a string is well-formed JSON, but no text; it is
read as a string without content, so that it can be passed over where nobody asks for it.

## Main Definitions

* `Json`: what a configuration can hold.
* `Json.parse?`: reading a document.
* `JsonText.string`, `JsonText.array`, `JsonText.object`: writing.
-/

namespace FieldInjection

/-- A JSON value, as far as a configuration needs it. -/
inductive Json where
  /-- A string, with its content if that is a text. -/
  | string (content : Option Text)
  /-- A number, a truth value or null. -/
  | atom
  /-- An array. -/
  | array (items : List Json)
  /-- An object with its members in order. -/
  | object (members : List (Option Text × Json))

namespace Json

/-! ### Strings -/

/-- The value of a hexadecimal digit. -/
def hexValue? (c : Char) : Option Nat :=
  if '0' ≤ c && c ≤ '9' then some (c.toNat - 48)
  else if 'a' ≤ c && c ≤ 'f' then some (c.toNat - 87)
  else if 'A' ≤ c && c ≤ 'F' then some (c.toNat - 55)
  else none

/-- The value of four hexadecimal digits. -/
def hexUnit? (a b c d : Char) : Option Nat := do
  return (((← hexValue? a) * 16 + (← hexValue? b)) * 16 + (← hexValue? c)) * 16 + (← hexValue? d)

/-- The character that a short escape stands for. -/
def shortEscape? (c : Char) : Option Nat :=
  if c = Quoted.mark || c = Quoted.backslash || c = '/' then some c.toNat
  else if c = 'b' then some 8
  else if c = 'f' then some 12
  else if c = 'n' then some 10
  else if c = 'r' then some 13
  else if c = 't' then some 9
  else none

/-- The code points and halves of surrogate pairs of a string, up to its closing quote. -/
def readUnits : Text → Option (List Nat × Text)
  | [] => none
  | c :: rest =>
    if c = Quoted.mark then some ([], rest)
    else if c.toNat < 32 then none
    else if c = Quoted.backslash then
      match rest with
      | 'u' :: a :: b :: d :: e :: behind => do
        let unit ← hexUnit? a b d e
        let (units, last) ← readUnits behind
        return (unit :: units, last)
      | d :: behind => do
        let unit ← shortEscape? d
        let (units, last) ← readUnits behind
        return (unit :: units, last)
      | [] => none
    else (readUnits rest).map fun parts => (c.toNat :: parts.1, parts.2)

/-- Whether a unit is the first half of a surrogate pair. -/
def isHighHalf (unit : Nat) : Bool := 0xD800 ≤ unit && unit ≤ 0xDBFF

/-- Whether a unit is the second half of a surrogate pair. -/
def isLowHalf (unit : Nat) : Bool := 0xDC00 ≤ unit && unit ≤ 0xDFFF

/-- The text that some units make up, if no half of a pair stands alone. -/
def textOfUnits : List Nat → Option Text
  | [] => some []
  | high :: low :: rest =>
    if isHighHalf high then
      if isLowHalf low then
        (textOfUnits rest).map
          (Char.ofNat (0x10000 + (high - 0xD800) * 0x400 + (low - 0xDC00)) :: ·)
      else none
    else if isLowHalf high then none
    else (textOfUnits (low :: rest)).map (Char.ofNat high :: ·)
  | [unit] => if isHighHalf unit || isLowHalf unit then none else some [Char.ofNat unit]

/-- The content of a string and what follows its closing quote. -/
def readString (text : Text) : Option (Option Text × Text) :=
  (readUnits text).map fun parts => (textOfUnits parts.1, parts.2)

/-! ### Other values -/

/-- The text without leading blanks. -/
def skipBlanks (text : Text) : Text :=
  text.dropWhile fun c => c == ' ' || c == '\n' || c == '\t' || c == '\r'

/-- At least one digit, and what follows. -/
def readDigits (text : Text) : Option Text :=
  if text.head?.any Char.isDigit then some (text.dropWhile Char.isDigit) else none

/-- What follows the whole part of a number; it has no superfluous zero. -/
def readWhole (text : Text) : Option Text :=
  match text with
  | '0' :: rest => if rest.head?.any Char.isDigit then none else some rest
  | _ => readDigits text

/-- What follows a number. -/
def readNumber (text : Text) : Option Text := do
  let whole ← readWhole (if text.head? = some '-' then text.drop 1 else text)
  let fraction ← if whole.head? = some '.' then readDigits (whole.drop 1) else some whole
  if fraction.head?.any (fun c => c == 'e' || c == 'E') then
    let exponent := fraction.drop 1
    readDigits (if exponent.head?.any (fun c => c == '+' || c == '-') then exponent.drop 1
      else exponent)
  else return fraction

/-- What follows a number, a truth value or null. -/
def readAtom (text : Text) : Option Text :=
  (Text.dropStart? "true".toList text).or
    ((Text.dropStart? "false".toList text).or
      ((Text.dropStart? "null".toList text).or (readNumber text)))

/-- At least one item, with commas between them, up to the closing mark. -/
def readItems {α : Type} (item : Text → Option (α × Text)) (close : Char) :
    Nat → Text → Option (List α × Text)
  | 0, _ => none
  | bound + 1, text => do
    let (first, behind) ← item text
    match skipBlanks behind with
    | c :: rest =>
      if c = close then return ([first], rest)
      else if c = ',' then
        let (items, last) ← readItems item close bound rest
        return (first :: items, last)
      else none
    | [] => none

/-- Any number of items, with commas between them, up to the closing mark. -/
def readList {α : Type} (item : Text → Option (α × Text)) (close : Char) (bound : Nat)
    (text : Text) : Option (List α × Text) :=
  match skipBlanks text with
  | c :: rest => if c = close then some ([], rest) else readItems item close bound (c :: rest)
  | [] => none

/-- A value that is nested at most `bound` deep, and what follows it. -/
def readValue : Nat → Text → Option (Json × Text)
  | 0, _ => none
  | bound + 1, text =>
    let member (text : Text) : Option ((Option Text × Json) × Text) :=
      match skipBlanks text with
      | c :: rest =>
        if c = Quoted.mark then do
          let (key, behind) ← readString rest
          match skipBlanks behind with
          | ':' :: more =>
            let (value, last) ← readValue bound more
            return ((key, value), last)
          | _ => none
        else none
      | [] => none
    match skipBlanks text with
    | [] => none
    | c :: rest =>
      if c = Quoted.mark then
        (readString rest).map fun parts => (string parts.1, parts.2)
      else if c = '[' then
        (readList (readValue bound) ']' rest.length rest).map fun parts => (array parts.1, parts.2)
      else if c = openBrace then
        (readList member closeBrace rest.length rest).map fun parts => (object parts.1, parts.2)
      else (readAtom (c :: rest)).map fun behind => (atom, behind)

/-- The value of a document that holds nothing else. -/
def parse? (text : Text) : Option Json :=
  match readValue (text.length + 1) text with
  | some (value, rest) => if (skipBlanks rest).isEmpty then some value else none
  | none => none

end Json

/-! ### Writing -/

namespace JsonText

/-- How a character is written inside a string. -/
def escape (c : Char) : Text :=
  if c = Quoted.mark || c = Quoted.backslash then [Quoted.backslash, c]
  else if c = '\n' then [Quoted.backslash, 'n']
  else if c = '\r' then [Quoted.backslash, 'r']
  else if c = '\t' then [Quoted.backslash, 't']
  else if c.toNat = 8 then [Quoted.backslash, 'b']
  else if c.toNat = 12 then [Quoted.backslash, 'f']
  else if c.toNat < 16 then [Quoted.backslash, 'u', '0', '0', '0'] ++ Nat.toDigits 16 c.toNat
  else if c.toNat < 32 then [Quoted.backslash, 'u', '0', '0'] ++ Nat.toDigits 16 c.toNat
  else [c]

/-- A text as a JSON string. -/
def string (text : Text) : Text :=
  Quoted.mark :: (text.flatMap escape ++ [Quoted.mark])

/-- A number as JSON. -/
def number (n : Nat) : Text := Nat.toDigits 10 n

/-- Written values as a JSON array. -/
def array (items : List Text) : Text :=
  '[' :: ([','].intercalate items ++ [']'])

/-- Written values under their keys as a JSON object. -/
def object (members : List (String × Text)) : Text :=
  openBrace :: ([','].intercalate (members.map fun member =>
    string member.1.toList ++ ':' :: member.2) ++ [closeBrace])

end JsonText
end FieldInjection
