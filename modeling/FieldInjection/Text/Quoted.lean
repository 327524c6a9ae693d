import FieldInjection.Text.Basic
import FieldInjection.Text.Printable

/-!
# Quoted text

Messages and log lines show a text between double quotes, with every character that would not show
by itself written as an escape: the usual short ones for tab, line feed, carriage return and NUL, a
backslash before the double quote and the backslash, and the hexadecimal code point for the rest.

## Main Definitions

* `Quoted.escape`: how one character is written between the quotes.
* `Text.quoted`: a text between double quotes.
-/

namespace FieldInjection
namespace Quoted

/-- The double quote. -/
def mark : Char := Char.ofNat 34

/-- The backslash. -/
def backslash : Char := Char.ofNat 92

/-- A code point as an escape with hexadecimal digits between braces. -/
def hexEscape (code : Nat) : Text :=
  backslash :: 'u' :: Char.ofNat 0x7B :: (Nat.toDigits 16 code ++ [Char.ofNat 0x7D])

/-- How one character is written between the quotes. -/
def escape (c : Char) : Text :=
  if c = '\n' then [backslash, 'n']
  else if c = '\t' then [backslash, 't']
  else if c = '\r' then [backslash, 'r']
  else if c = Char.ofNat 0 then [backslash, '0']
  else if c = mark || c = backslash then [backslash, c]
  else if isCombining c || !isPrintable c then hexEscape c.toNat
  else [c]

end Quoted

/-- A text between double quotes. -/
def Text.quoted (text : Text) : Text :=
  Quoted.mark :: (text.flatMap Quoted.escape ++ [Quoted.mark])

end FieldInjection
