import FieldInjection.Text.Basic

/-!
# Blank characters and trimming

The blanks are the characters with the property White_Space: the ASCII control blanks and the space,
next line, the no-break spaces and the spaces of typography.  The zero-width space and the byte
order mark are not blanks.  All trimming in this library is trimming of blanks.

## Main Definitions

* `isBlank`: the property itself.
* `Text.trimStart`, `Text.trimEnd`, `Text.trim`: a text without its outer blanks.
* `Text.indentation`: the leading blanks of a text.
* `Text.isAllBlank`: whether nothing but blanks is there.
* `Text.lastWord?`: the last of the parts between the blanks.
-/

namespace FieldInjection

/-- Whether a character is white space. -/
def isBlank (c : Char) : Bool :=
  (9 ≤ c.toNat && c.toNat ≤ 13) || c.toNat == 32 || c.toNat == 0x85 || c.toNat == 0xA0 ||
    c.toNat == 0x1680 || (0x2000 ≤ c.toNat && c.toNat ≤ 0x200A) || c.toNat == 0x2028 ||
    c.toNat == 0x2029 || c.toNat == 0x202F || c.toNat == 0x205F || c.toNat == 0x3000

namespace Text

/-- The text without its leading blanks. -/
def trimStart (text : Text) : Text :=
  text.dropWhile isBlank

/-- The text without its trailing blanks. -/
def trimEnd (text : Text) : Text :=
  (text.reverse.dropWhile isBlank).reverse

/-- The text without its outer blanks. -/
def trim (text : Text) : Text :=
  text.trimStart.trimEnd

/-- The leading blanks of a text. -/
def indentation (text : Text) : Text :=
  text.takeWhile isBlank

/-- Whether a text holds nothing but blanks. -/
def isAllBlank (text : Text) : Bool :=
  text.all isBlank

/-- The last of the parts between the blanks, if there is any part. -/
def lastWord? (text : Text) : Option Text :=
  match text.trimEnd.reverse.takeWhile (! isBlank ·) with
  | [] => none
  | word => some word.reverse

end Text
end FieldInjection
