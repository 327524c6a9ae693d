import FieldInjection.Text.Basic
import FieldInjection.Text.Blank
import FieldInjection.Text.Word

/-!
# Text patterns with ordered choice

A pattern describes pieces of text together with an order of preference among the ways to match: the
first alternative before the second, one more repetition before none.  Looking for a pattern in a
text takes the leftmost place where it matches at all, and there the most preferred way.

Matching is backtracking with a continuation: `Pattern.run p k place` goes through the ways in which
`p` matches at `place`, in order of preference, and returns what `k` makes of the first end on which
`k` succeeds.  Sequencing is then composition of continuations, and a text between two places of a
match can be picked up by the continuation, so that patterns need no groups of their own.

## Main Definitions

* `Pattern`: the patterns.
* `Pattern.Place`: a place in a text, with the character before it.
* `Pattern.run`: matching at a place.
* `Pattern.search`: matching at the leftmost possible place.
* `Pattern.occursIn`: whether a pattern matches somewhere in a text.

## Design Notes

A repetition is bounded by the length of the text that is left.  Every repeated pattern of this
library takes at least one character a turn, so the bound never cuts a repetition short.
-/

namespace FieldInjection

/-- A pattern of text with an order of preference among the ways to match. -/
inductive Pattern where
  /-- The empty text. -/
  | nothing
  /-- One character of a class. -/
  | one (holds : Char → Bool)
  /-- One pattern after the other. -/
  | seq (first second : Pattern)
  /-- The first pattern, or else the second. -/
  | either (first second : Pattern)
  /-- Any number of repetitions, the more the better. -/
  | many (body : Pattern)
  /-- A place between a word character and something else. -/
  | boundary
  /-- The end of the text. -/
  | atEnd

namespace Pattern

/-- A place in a text. -/
structure Place where
  /-- The character before the place, if there is one. -/
  before : Option Char
  /-- The text from the place on. -/
  rest : Text

/-- The text between a place and a later one. -/
def Place.upTo (start stop : Place) : Text :=
  start.rest.take (start.rest.length - stop.rest.length)

/-- Whether exactly one side of a place is a word character. -/
def Place.isBoundary (place : Place) : Bool :=
  place.before.any isWord != place.rest.head?.any isWord

/-- At most `bound` repetitions of `step`, as many as the continuation allows. -/
def repeated {β : Type} (step : (Place → Option β) → Place → Option β) (next : Place → Option β) :
    Nat → Place → Option β
  | 0, place => next place
  | bound + 1, place => (step (repeated step next bound) place).or (next place)

/-- Goes through the ways to match at a place, in order of preference, and returns the first success
of the continuation. -/
def run {β : Type} : Pattern → (Place → Option β) → Place → Option β
  | nothing, next, place => next place
  | one holds, next, place =>
    match place.rest with
    | [] => none
    | c :: rest => if holds c then next ⟨some c, rest⟩ else none
  | seq first second, next, place => first.run (fun middle => second.run next middle) place
  | either first second, next, place => (first.run next place).or (second.run next place)
  | many body, next, place =>
    repeated (fun again => body.run again) next place.rest.length place
  | boundary, next, place => if place.isBoundary then next place else none
  | atEnd, next, place => if place.rest.isEmpty then next place else none

/-- Matching at the leftmost place from which the continuation succeeds. -/
def searchFrom {β : Type} (pattern : Pattern) (next : Place → Option β) (before : Option Char) :
    Text → Option β
  | [] => pattern.run next ⟨before, []⟩
  | c :: rest =>
    (pattern.run next ⟨before, c :: rest⟩).or (searchFrom pattern next (some c) rest)

/-- Matching at the leftmost place of a whole text. -/
def search {β : Type} (pattern : Pattern) (next : Place → Option β) (text : Text) : Option β :=
  searchFrom pattern next none text

/-- Whether a pattern matches somewhere in a text. -/
def occursIn (pattern : Pattern) (text : Text) : Bool :=
  (pattern.search some text).isSome

instance : Append Pattern := ⟨seq⟩

/-! ### Common patterns -/

/-- One given character. -/
def char (c : Char) : Pattern := one (· == c)

/-- A given text. -/
def literal : Text → Pattern
  | [] => nothing
  | c :: rest => char c ++ literal rest

/-- A pattern that may also be left out. -/
def maybe (body : Pattern) : Pattern := either body nothing

/-- Any number of blanks. -/
def blanks : Pattern := many (one isBlank)

/-- At least one blank. -/
def someBlanks : Pattern := one isBlank ++ blanks

/-- A name that begins with an ASCII letter or the low line and goes on with word characters. -/
def name : Pattern := one (fun c => c.isAlpha || c == '_') ++ many (one isWord)

end Pattern
end FieldInjection
