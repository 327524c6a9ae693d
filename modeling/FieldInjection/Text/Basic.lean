/-!
# Text

A text is a list of characters.  This module has the few cuts and joins that the rest of the library
needs besides those of lists.

## Main Definitions

* `Text`: a list of characters.
* `Text.startsWith`, `Text.dropStart?`: testing for a given start and cutting it off.
* `Text.cutFirst?`, `Text.cutLast?`: the parts around the first or the last occurrence of a
  character.
* `Text.asString`: a text as a string, for messages.
-/

namespace FieldInjection

/-- A text: a list of characters. -/
abbrev Text := List Char

namespace Text

/-- A text as a string, for messages. -/
def asString (text : Text) : String :=
  String.ofList text

/-- Whether a text begins with `start`. -/
def startsWith (text start : Text) : Bool :=
  start.isPrefixOf text

/-- What follows `start`, when the text begins with it. -/
def dropStart? (start : Text) (text : Text) : Option Text :=
  match start, text with
  | [], rest => some rest
  | _ :: _, [] => none
  | a :: as, b :: bs => if a = b then dropStart? as bs else none

/-- The parts before and after the first occurrence of `mark`. -/
def cutFirst? (mark : Char) (text : Text) : Option (Text × Text) :=
  match text with
  | [] => none
  | c :: rest =>
    if c = mark then some ([], rest)
    else (cutFirst? mark rest).map fun parts => (c :: parts.1, parts.2)

/-- The parts before and after the last occurrence of `mark`. -/
def cutLast? (mark : Char) (text : Text) : Option (Text × Text) :=
  (cutFirst? mark text.reverse).map fun parts => (parts.2.reverse, parts.1.reverse)

/-- The parts and the mark between them make up the text. -/
theorem eq_of_cutFirst? {mark : Char} {text before after : Text}
    (h : cutFirst? mark text = some (before, after)) : text = before ++ mark :: after := by
  induction text generalizing before with
  | nil => simp [cutFirst?] at h
  | cons c rest ih =>
    unfold cutFirst? at h
    split at h
    · next hc =>
      simp only [Option.some.injEq, Prod.mk.injEq] at h
      simp [← h.1, ← h.2, hc]
    · obtain ⟨parts, hparts, heq⟩ := Option.map_eq_some_iff.1 h
      simp only [Prod.mk.injEq] at heq
      rw [@ih parts.1 (by rw [hparts, ← heq.2])]
      simp [← heq.1]

end Text
end FieldInjection
