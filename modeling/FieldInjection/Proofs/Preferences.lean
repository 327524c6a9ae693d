import FieldInjection.Proofs.Patterns

/-!
# The preferred way to match

A pattern that can match in several ways tries them in order.  `Prefers pattern before matched rest`
says that the way over `matched` comes first at that place: a continuation that accepts the end of
`matched` is not asked about anything else, so whatever it makes of that end is the result.  Where
`Matches` says which ends are possible, this says which one is taken.

The preferred ways of the parts of a pattern are the preferred way of the whole.  One case is not of
that form.  A repetition between two brackets runs over its closing bracket and on as far as it can,
and has to come back.  It comes back to the last closing bracket of the run, and that is the wanted
one exactly if no other is within reach (`prefers_bracketed`).

## Main Definitions

* `Pattern.Prefers`: the first way to match at a place.

## Main Statements

* `Pattern.run_many`: a repetition gives the result of the furthest end that is accepted.
* `Pattern.Prefers.many`: a repetition goes on as long as it can.
* `Pattern.prefers_bracketed`: a repetition between brackets.
* `Pattern.search_of_prefers`: a search that succeeds at the beginning of a text.
-/

namespace FieldInjection
namespace Pattern

/-- The first way in which the pattern matches in front of the two texts is over the first of
them. -/
def Prefers (pattern : Pattern) (before : Option Char) (matched rest : Text) : Prop :=
  ∀ (β : Type) (next : Place → Option β) (result : β),
    next ⟨matched.getLast?.or before, rest⟩ = some result →
      pattern.run next ⟨before, matched ++ rest⟩ = some result

variable {before : Option Char} {matched left right rest : Text}

/-- The preferred way to match is one of the ways. -/
theorem Prefers.matches {pattern : Pattern} (h : pattern.Prefers before matched rest) :
    pattern.Matches before matched rest := by
  have hrun := h Unit (fun place => if place.rest = rest then some () else none) () (if_pos rfl)
  obtain ⟨matched', rest', htext, hmatch, hnext⟩ := exists_of_run_eq_some pattern hrun
  obtain rfl : rest' = rest := by
    by_contra hne
    simp [hne] at hnext
  rwa [List.append_cancel_right htext]

/-! ## Single characters and sequences -/

/-- A single character is matched in one way only. -/
theorem prefers_one {holds : Char → Bool} {c : Char} (hc : holds c = true) :
    Prefers (one holds) before [c] rest := by
  intro β next result hnext
  exact (if_pos hc).trans hnext

theorem prefers_char (c : Char) : Prefers (char c) before [c] rest :=
  prefers_one (beq_self_eq_true c)

theorem prefers_boundary (hplace : Place.isBoundary ⟨before, rest⟩ = true) :
    Prefers boundary before [] rest := by
  intro β next result hnext
  rw [List.nil_append, run, if_pos hplace]
  exact hnext

/-- What is preferred by two patterns is preferred by the one followed by the other. -/
theorem Prefers.append {first second : Pattern} (hfirst : first.Prefers before left (right ++ rest))
    (hsecond : second.Prefers (left.getLast?.or before) right rest) :
    (first ++ second).Prefers before (left ++ right) rest := by
  intro β next result hnext
  rw [List.getLast?_append, Option.or_assoc] at hnext
  rw [List.append_assoc]
  exact hfirst β _ result (hsecond β next result hnext)

/-- A text is matched in one way only. -/
theorem prefers_literal (text : Text) : Prefers (literal text) before text rest := by
  induction text generalizing before with
  | nil => exact fun _ _ _ hnext => hnext
  | cons c text ih => exact (prefers_char c).append ih

/-! ## Alternatives -/

/-- A pattern that matches no beginning of a text fails on it, whatever would follow. -/
theorem run_eq_none {β : Type} {pattern : Pattern} {next : Place → Option β} {text : Text}
    (h : ∀ matched rest, text = matched ++ rest → ¬ pattern.Matches before matched rest) :
    pattern.run next ⟨before, text⟩ = none := by
  cases hrun : pattern.run next ⟨before, text⟩ with
  | none => rfl
  | some result =>
    obtain ⟨matched, rest, htext, hmatch, -⟩ := exists_of_run_eq_some pattern hrun
    exact absurd hmatch (h matched rest htext)

/-- The first alternative is preferred where it matches. -/
theorem Prefers.either_left {first second : Pattern} (h : first.Prefers before matched rest) :
    (either first second).Prefers before matched rest := by
  intro β next result hnext
  rw [run, h β next result hnext, Option.some_or]

/-- The second alternative is taken where the first one has no match at all. -/
theorem Prefers.either_right {first second : Pattern}
    (hfirst : ∀ matched' rest', matched ++ rest = matched' ++ rest' →
      ¬ first.Matches before matched' rest') (h : second.Prefers before matched rest) :
    (either first second).Prefers before matched rest := by
  intro β next result hnext
  rw [run, run_eq_none hfirst, Option.none_or]
  exact h β next result hnext

/-- A text is not taken for a literal that begins with another character. -/
theorem Prefers.either_literal {second : Pattern} {text : Text} (hhead : text.head? ≠ matched.head?)
    (htext : text ≠ []) (hmatched : matched ≠ []) (h : second.Prefers before matched rest) :
    (either (literal text) second).Prefers before matched rest := by
  refine .either_right (fun found rest' heq hmatch => hhead ?_) h
  obtain rfl := matches_literal.mp hmatch
  obtain ⟨c, matched, rfl⟩ := List.exists_cons_of_ne_nil hmatched
  obtain ⟨d, found, rfl⟩ := List.exists_cons_of_ne_nil htext
  exact congrArg some (List.cons.inj heq).1.symm

/-- What cannot be matched is left out. -/
theorem prefers_maybe_none {body : Pattern}
    (hbody : ∀ matched' rest', rest = matched' ++ rest' → ¬ body.Matches before matched' rest') :
    (maybe body).Prefers before [] rest :=
  .either_right hbody fun _ _ _ hnext => hnext

/-! ## Repetition -/

/-- Turns that are preferred one after another lead to the result of their end if the continuation
accepts no end that further turns lead to. -/
theorem run_many {β : Type} {body : Pattern} {next : Place → Option β} {result : β}
    (hturns : Repeats body.Prefers before matched rest)
    (hend : ∀ further rest', rest = further ++ rest' → further ≠ [] →
      Repeats body.Matches (matched.getLast?.or before) further rest' →
        next ⟨further.getLast?.or (matched.getLast?.or before), rest'⟩ = none)
    (hnext : next ⟨matched.getLast?.or before, rest⟩ = some result) :
    (many body).run next ⟨before, matched ++ rest⟩ = some result := by
  have hrepeated : ∀ bound, matched.length ≤ bound →
      repeated (fun again => body.run again) next bound ⟨before, matched ++ rest⟩ =
      some result := by
    induction hturns with
    | nil before rest =>
      intro bound _
      cases bound with
      | zero => exact hnext
      | succ bound =>
        -- whatever the repetition gives comes from an accepted end, and there is only this one
        obtain ⟨found, hfound⟩ : ∃ found, repeated (fun again => body.run again) next (bound + 1)
            ⟨before, [] ++ rest⟩ = some found := by
          rw [← Option.isSome_iff_exists, repeated, Option.isSome_or, Bool.or_eq_true]
          exact Or.inr (Option.isSome_iff_exists.mpr ⟨result, hnext⟩)
        obtain ⟨further, rest', htext, hfurther, haccepted⟩ :=
          exists_of_repeated_eq_some (fun _ _ _ hrun => exists_of_run_eq_some body hrun) hfound
        by_cases hnil : further = []
        · subst hnil
          obtain rfl : rest = rest' := htext
          exact hfound.trans (haccepted.symm.trans hnext)
        · have hnone := hend further rest' htext hnil hfurther
          exact absurd (hnone.symm.trans haccepted) (by simp)
    | @cons before first others rest hfirst hturn _ ih =>
      intro bound hbound
      have hlength : 0 < first.length := List.length_pos_iff.mpr hfirst
      rw [List.length_append] at hbound
      obtain ⟨remaining, rfl⟩ : ∃ remaining, bound = remaining + 1 := ⟨bound - 1, by omega⟩
      rw [List.getLast?_append, Option.or_assoc] at hend hnext
      have hagain := ih hend hnext remaining (by omega)
      rw [repeated, List.append_assoc, hturn β _ result hagain, Option.some_or]
  exact hrepeated _ (by simp)

/-- A repetition goes on as long as there is another turn. -/
theorem Prefers.many {body : Pattern} (hturns : Repeats body.Prefers before matched rest)
    (hend : ∀ further rest', rest = further ++ rest' → further ≠ [] →
      ¬ body.Matches (matched.getLast?.or before) further rest') :
    (many body).Prefers before matched rest := by
  intro β next result hnext
  refine run_many hturns (fun further rest' htext hne hfurther => ?_) hnext
  cases hfurther with
  | nil => exact absurd rfl hne
  | cons hfirst hturn _ => exact absurd hturn (hend _ _ (by rw [htext, List.append_assoc]) hfirst)

/-- Characters with the property are matched one by one. -/
theorem repeats_one {holds : Char → Bool} (h : ∀ c ∈ matched, holds c = true) :
    Repeats (Prefers (one holds)) before matched rest := by
  induction matched generalizing before with
  | nil => exact .nil before rest
  | cons c matched ih =>
    have hturn : Prefers (one holds) before [c] (matched ++ rest) := prefers_one (h c (by simp))
    exact Repeats.cons (by simp) hturn (ih fun d hd => h d (by simp [hd]))

/-- As many characters are taken as have the property. -/
theorem prefers_many_one {holds : Char → Bool} (h : ∀ c ∈ matched, holds c = true)
    (hrest : rest.head?.any holds = false) :
    Prefers (Pattern.many (one holds)) before matched rest := by
  refine .many (repeats_one h) ?_
  rintro _ rest' rfl - ⟨c, rfl, hc⟩
  simp [hc] at hrest

/-- All blanks are taken. -/
theorem prefers_someBlanks (hne : matched ≠ []) (h : ∀ c ∈ matched, isBlank c = true)
    (hrest : rest.head?.any isBlank = false) : Prefers someBlanks before matched rest := by
  obtain ⟨c, matched, rfl⟩ := List.exists_cons_of_ne_nil hne
  exact (prefers_one (h c (by simp))).append
    (prefers_many_one (fun d hd => h d (by simp [hd])) hrest)

/-- A repetition between brackets ends at the last closing bracket that it can run up to. -/
theorem prefers_bracketed {opening closing : Char} {holds : Char → Bool} {inside : Text}
    (hinside : ∀ c ∈ inside, holds c = true) (hrest : closing ∉ rest.takeWhile holds) :
    Prefers (char opening ++ Pattern.many (one holds) ++ char closing) before
      (opening :: (inside ++ [closing])) rest := by
  intro β next result hnext
  have hlast : (opening :: (inside ++ [closing])).getLast? = some closing := by
    rw [← List.cons_append, List.getLast?_concat]
  rw [hlast] at hnext
  rw [List.cons_append, List.append_assoc]
  have hopening : Prefers (char opening) before [opening] (inside ++ ([closing] ++ rest)) :=
    prefers_char opening
  refine hopening β _ result ?_
  refine run_many (repeats_one hinside) (fun further rest' htext hne hfurther => ?_)
    (prefers_char closing β next result hnext)
  -- a closing bracket further on would be in the run behind this one
  refine run_eq_none fun _ after hafter hclosing => hrest ?_
  obtain rfl := matches_char.mp hclosing
  obtain ⟨d, further, rfl⟩ := List.exists_cons_of_ne_nil hne
  obtain ⟨rfl, htail⟩ := List.cons.inj htext
  have hall := matches_many_one.mp
    (show (Pattern.many (one holds)).Matches _ (closing :: further) rest' from hfurther)
  rw [show rest = further ++ rest' from htail, hafter,
    List.takeWhile_append_of_pos fun c hc => hall c (by simp [hc]), List.singleton_append,
    List.takeWhile_cons_of_pos (hall closing (by simp))]
  simp

/-! ## Searching -/

/-- A search takes the way that is preferred at the beginning of the text. -/
theorem search_of_prefers {β : Type} {pattern : Pattern} {next : Place → Option β} {result : β}
    (h : pattern.Prefers none matched rest) (hnext : next ⟨matched.getLast?, rest⟩ = some result) :
    pattern.search next (matched ++ rest) = some result := by
  have hrun := h β next result (by simpa using hnext)
  rw [search]
  cases htext : matched ++ rest with
  | nil => rwa [searchFrom, ← htext]
  | cons c text => rw [searchFrom, ← htext, hrun, Option.some_or]

end Pattern
end FieldInjection
