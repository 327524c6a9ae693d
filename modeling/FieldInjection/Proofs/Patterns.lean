import FieldInjection.Pattern
import FieldInjection.Proofs.Cutting

/-!
# What patterns match

`Pattern.run` looks for a match by backtracking.  This module says what a match is, without the
order of preference: `Pattern.Matches p before matched rest` holds when `p` matches the text
`matched` between the character `before` and the text `rest`.  Backtracking finds a match that its
continuation accepts exactly when there is one.  Where all matches agree on what is picked up, the
order of preference need not be looked at again.

A repetition leaves out its empty turns.  They change nothing, and without them the bound of
`repeated` is never too small.

## Main Definitions

* `Pattern.Matches`: the texts that a pattern matches.
* `Pattern.allows`, `Pattern.mayEndIn`: the characters that a pattern can match, and can match last.

## Main Statements

* `Pattern.exists_of_run_eq_some`, `Pattern.isSome_run`: backtracking is sound and complete.
* `Pattern.exists_of_searchFrom_eq_some`, `Pattern.isSome_searchFrom`: the same for a search.
* `Pattern.exists_first_of_searchFrom_eq_some`: a search stops at the leftmost match.
* `Pattern.Matches.allows`, `Pattern.Matches.mayEndIn`: the characters of a match.
-/

namespace FieldInjection
namespace Pattern

/-- Any number of turns, none of them empty. -/
inductive Repeats (turn : Option Char → Text → Text → Prop) : Option Char → Text → Text → Prop where
  /-- No turn at all. -/
  | nil (before : Option Char) (rest : Text) : Repeats turn before [] rest
  /-- One turn, and then the others. -/
  | cons {before : Option Char} {first others rest : Text} (hfirst : first ≠ [])
      (hturn : turn before first (others ++ rest))
      (hothers : Repeats turn (first.getLast?.or before) others rest) :
      Repeats turn before (first ++ others) rest

/-- The pattern matches the second text, between the character and the last text. -/
def Matches : Pattern → Option Char → Text → Text → Prop
  | nothing, _, matched, _ => matched = []
  | one holds, _, matched, _ => ∃ c, matched = [c] ∧ holds c = true
  | seq first second, before, matched, rest =>
    ∃ left right, matched = left ++ right ∧ first.Matches before left (right ++ rest) ∧
      second.Matches (left.getLast?.or before) right rest
  | either first second, before, matched, rest =>
    first.Matches before matched rest ∨ second.Matches before matched rest
  | many body, before, matched, rest => Repeats body.Matches before matched rest
  | boundary, before, matched, rest => matched = [] ∧ Place.isBoundary ⟨before, rest⟩ = true
  | atEnd, _, matched, rest => matched = [] ∧ rest = []

/-! ## Backtracking finds what matches -/

section Run

variable {β : Type}

/-- What a bounded repetition returns comes from a text that repeats. -/
theorem exists_of_repeated_eq_some {body : Pattern} {next : Place → Option β} {result : β}
    (hbody : ∀ (again : Place → Option β) (before : Option Char) (text : Text),
      body.run again ⟨before, text⟩ = some result →
        ∃ matched rest, text = matched ++ rest ∧ body.Matches before matched rest ∧
          again ⟨matched.getLast?.or before, rest⟩ = some result)
    {bound : Nat} {before : Option Char} {text : Text}
    (h : repeated (fun again => body.run again) next bound ⟨before, text⟩ = some result) :
    ∃ matched rest, text = matched ++ rest ∧ Repeats body.Matches before matched rest ∧
      next ⟨matched.getLast?.or before, rest⟩ = some result := by
  induction bound generalizing before text with
  | zero => exact ⟨[], text, rfl, .nil before text, h⟩
  | succ bound ih =>
    rw [repeated, Option.or_eq_some_iff] at h
    rcases h with hturn | ⟨-, hstop⟩
    · obtain ⟨first, tail, rfl, hfirst, hagain⟩ := hbody _ before text hturn
      obtain ⟨others, rest, rfl, hothers, hnext⟩ := ih hagain
      by_cases hempty : first = []
      · subst hempty
        exact ⟨others, rest, rfl, by simpa using hothers, by simpa using hnext⟩
      · refine ⟨first ++ others, rest, by simp, .cons hempty hfirst hothers, ?_⟩
        rw [List.getLast?_append, Option.or_assoc]
        exact hnext
    · exact ⟨[], text, rfl, .nil before text, hstop⟩

/-- What backtracking returns comes from a match. -/
theorem exists_of_run_eq_some (pattern : Pattern) {next : Place → Option β} {result : β}
    {before : Option Char} {text : Text} (h : pattern.run next ⟨before, text⟩ = some result) :
    ∃ matched rest, text = matched ++ rest ∧ pattern.Matches before matched rest ∧
      next ⟨matched.getLast?.or before, rest⟩ = some result := by
  induction pattern generalizing next before text with
  | nothing => exact ⟨[], text, rfl, rfl, h⟩
  | one holds =>
    cases text with
    | nil => simp [run] at h
    | cons c rest =>
      simp only [run] at h
      split at h
      · next hc => exact ⟨[c], rest, rfl, ⟨c, rfl, hc⟩, h⟩
      · simp at h
  | seq first second ihfirst ihsecond =>
    obtain ⟨left, tail, rfl, hleft, htail⟩ := ihfirst h
    obtain ⟨right, rest, rfl, hright, hnext⟩ := ihsecond htail
    refine ⟨left ++ right, rest, by simp, ⟨left, right, rfl, hleft, hright⟩, ?_⟩
    rw [List.getLast?_append, Option.or_assoc]
    exact hnext
  | either first second ihfirst ihsecond =>
    rw [run, Option.or_eq_some_iff] at h
    rcases h with hfirst | ⟨-, hsecond⟩
    · obtain ⟨matched, rest, htext, hmatch, hnext⟩ := ihfirst hfirst
      exact ⟨matched, rest, htext, Or.inl hmatch, hnext⟩
    · obtain ⟨matched, rest, htext, hmatch, hnext⟩ := ihsecond hsecond
      exact ⟨matched, rest, htext, Or.inr hmatch, hnext⟩
  | many body ih => exact exists_of_repeated_eq_some (fun _ _ _ hrun => ih hrun) h
  | boundary =>
    rw [run] at h
    split at h
    · next hplace => exact ⟨[], text, rfl, ⟨rfl, hplace⟩, h⟩
    · simp at h
  | atEnd =>
    rw [run] at h
    split at h
    · next hempty => exact ⟨[], text, rfl, ⟨rfl, by simpa using hempty⟩, h⟩
    · simp at h

/-- A text that repeats is found within its length. -/
theorem isSome_repeated {body : Pattern} {next : Place → Option β}
    (hbody : ∀ (again : Place → Option β) (before : Option Char) (matched rest : Text),
      body.Matches before matched rest → (again ⟨matched.getLast?.or before, rest⟩).isSome = true →
        (body.run again ⟨before, matched ++ rest⟩).isSome = true)
    {bound : Nat} {before : Option Char} {matched rest : Text} (hbound : matched.length ≤ bound)
    (hmatch : Repeats body.Matches before matched rest)
    (hnext : (next ⟨matched.getLast?.or before, rest⟩).isSome = true) :
    (repeated (fun again => body.run again) next bound ⟨before, matched ++ rest⟩).isSome =
      true := by
  induction hmatch generalizing bound with
  | nil before rest =>
    cases bound with
    | zero => exact hnext
    | succ bound => simpa [repeated, Option.isSome_or] using Or.inr hnext
  | @cons before first others rest hfirst hturn hothers ih =>
    have hlength : 0 < first.length := List.length_pos_iff.mpr hfirst
    rw [List.length_append] at hbound
    obtain ⟨remaining, rfl⟩ : ∃ remaining, bound = remaining + 1 := ⟨bound - 1, by omega⟩
    rw [List.getLast?_append, Option.or_assoc] at hnext
    have hfits : others.length ≤ remaining := by omega
    have hagain := ih hfits hnext
    rw [repeated, Option.isSome_or, Bool.or_eq_true, List.append_assoc]
    exact Or.inl (hbody _ before first (others ++ rest) hturn hagain)

/-- Where there is a match that the continuation accepts, backtracking finds one. -/
theorem isSome_run (pattern : Pattern) {next : Place → Option β} {before : Option Char}
    {matched rest : Text} (hmatch : pattern.Matches before matched rest)
    (hnext : (next ⟨matched.getLast?.or before, rest⟩).isSome = true) :
    (pattern.run next ⟨before, matched ++ rest⟩).isSome = true := by
  induction pattern generalizing next before matched rest with
  | nothing =>
    obtain rfl : matched = [] := hmatch
    exact hnext
  | one holds =>
    obtain ⟨c, rfl, hc⟩ := hmatch
    simpa [run, hc] using hnext
  | seq first second ihfirst ihsecond =>
    obtain ⟨left, right, rfl, hleft, hright⟩ := hmatch
    rw [List.getLast?_append, Option.or_assoc] at hnext
    rw [run, List.append_assoc]
    exact ihfirst hleft (ihsecond hright hnext)
  | either first second ihfirst ihsecond =>
    rw [run, Option.isSome_or, Bool.or_eq_true]
    rcases hmatch with hfirst | hsecond
    · exact Or.inl (ihfirst hfirst hnext)
    · exact Or.inr (ihsecond hsecond hnext)
  | many body ih =>
    exact isSome_repeated (fun _ _ _ _ hbody hagain => ih hbody hagain) (by simp) hmatch hnext
  | boundary =>
    obtain ⟨rfl, hplace⟩ := hmatch
    simpa [run, hplace] using hnext
  | atEnd =>
    obtain ⟨rfl, rfl⟩ := hmatch
    simpa [run] using hnext

/-- A continuation that does not look at the place gives its value wherever there is a match. -/
theorem run_of_matches {pattern : Pattern} {before : Option Char} {matched rest : Text}
    (hmatch : pattern.Matches before matched rest) (value : β) :
    pattern.run (fun _ => some value) ⟨before, matched ++ rest⟩ = some value := by
  have hsome : (pattern.run (fun _ => some value) ⟨before, matched ++ rest⟩).isSome = true :=
    isSome_run pattern hmatch rfl
  obtain ⟨found, hfound⟩ := Option.isSome_iff_exists.mp hsome
  obtain ⟨-, -, -, -, hsame⟩ := exists_of_run_eq_some pattern hfound
  exact hfound.trans hsame.symm

/-- What a search returns comes from a match somewhere in the text. -/
theorem exists_of_searchFrom_eq_some {pattern : Pattern} {next : Place → Option β} {result : β}
    {before : Option Char} {text : Text} (h : pattern.searchFrom next before text = some result) :
    ∃ skipped matched rest, text = skipped ++ (matched ++ rest) ∧
      pattern.Matches (skipped.getLast?.or before) matched rest ∧
      next ⟨matched.getLast?.or (skipped.getLast?.or before), rest⟩ = some result := by
  induction text generalizing before with
  | nil =>
    obtain ⟨matched, rest, htext, hmatch, hnext⟩ := exists_of_run_eq_some pattern h
    exact ⟨[], matched, rest, htext, hmatch, hnext⟩
  | cons c text ih =>
    rw [searchFrom, Option.or_eq_some_iff] at h
    rcases h with hrun | ⟨-, hlater⟩
    · obtain ⟨matched, rest, htext, hmatch, hnext⟩ := exists_of_run_eq_some pattern hrun
      exact ⟨[], matched, rest, htext, hmatch, hnext⟩
    · obtain ⟨skipped, matched, rest, rfl, hmatch, hnext⟩ := ih hlater
      refine ⟨c :: skipped, matched, rest, rfl, ?_, ?_⟩
      · rwa [Text.getLast?_cons_or]
      · rwa [Text.getLast?_cons_or]

/-- Where every match will do, what a search returns comes from a match that no other one starts
before. -/
theorem exists_first_of_searchFrom_eq_some {pattern : Pattern} {next : Place → Option β}
    {result : β} {before : Option Char} {text : Text} (hnext : ∀ place, (next place).isSome = true)
    (h : pattern.searchFrom next before text = some result) :
    ∃ skipped matched rest, text = skipped ++ (matched ++ rest) ∧
      pattern.Matches (skipped.getLast?.or before) matched rest ∧
      next ⟨matched.getLast?.or (skipped.getLast?.or before), rest⟩ = some result ∧
      ∀ skipped' matched' rest', text = skipped' ++ (matched' ++ rest') →
        pattern.Matches (skipped'.getLast?.or before) matched' rest' →
          skipped.length ≤ skipped'.length := by
  induction text generalizing before with
  | nil =>
    obtain ⟨matched, rest, htext, hmatch, hresult⟩ := exists_of_run_eq_some pattern h
    exact ⟨[], matched, rest, htext, hmatch, hresult, by simp⟩
  | cons c text ih =>
    rw [searchFrom, Option.or_eq_some_iff] at h
    rcases h with hrun | ⟨hnone, hlater⟩
    · obtain ⟨matched, rest, htext, hmatch, hresult⟩ := exists_of_run_eq_some pattern hrun
      exact ⟨[], matched, rest, htext, hmatch, hresult, by simp⟩
    · obtain ⟨skipped, matched, rest, rfl, hmatch, hresult, hfirst⟩ := ih hlater
      refine ⟨c :: skipped, matched, rest, rfl, ?_, ?_,
        fun skipped' matched' rest' htext hmatch' => ?_⟩
      · rwa [Text.getLast?_cons_or]
      · rwa [Text.getLast?_cons_or]
      · cases skipped' with
        | nil =>
          have hsome := isSome_run pattern hmatch' (hnext _)
          rw [← List.nil_append (matched' ++ rest'), ← htext] at hsome
          simp only [List.getLast?_nil, Option.none_or, hnone, Option.isSome_none,
            Bool.false_eq_true] at hsome
        | cons d skipped' =>
          obtain ⟨rfl, htail⟩ := List.cons.inj htext
          rw [Text.getLast?_cons_or] at hmatch'
          exact Nat.succ_le_succ (hfirst skipped' matched' rest' htail hmatch')

/-- Where there is a match somewhere that the continuation accepts, a search succeeds. -/
theorem isSome_searchFrom {pattern : Pattern} {next : Place → Option β} {before : Option Char}
    {skipped matched rest : Text}
    (hmatch : pattern.Matches (skipped.getLast?.or before) matched rest)
    (hnext : (next ⟨matched.getLast?.or (skipped.getLast?.or before), rest⟩).isSome = true) :
    (pattern.searchFrom next before (skipped ++ (matched ++ rest))).isSome = true := by
  induction skipped generalizing before with
  | nil =>
    have hrun := isSome_run pattern hmatch hnext
    cases htext : matched ++ rest with
    | nil => simpa [searchFrom, htext] using hrun
    | cons c text =>
      rw [htext] at hrun
      simpa [searchFrom, Option.isSome_or] using Or.inl hrun
  | cons c skipped ih =>
    rw [Text.getLast?_cons_or] at hmatch hnext
    rw [List.cons_append, searchFrom, Option.isSome_or, Bool.or_eq_true]
    exact Or.inr (ih hmatch hnext)

end Run

/-- A pattern occurs in a text exactly when it matches a part of it. -/
theorem occursIn_iff {pattern : Pattern} {text : Text} :
    pattern.occursIn text = true ↔
      ∃ skipped matched rest, text = skipped ++ (matched ++ rest) ∧
        pattern.Matches skipped.getLast? matched rest := by
  rw [occursIn, search]
  constructor
  · intro h
    obtain ⟨place, hplace⟩ := Option.isSome_iff_exists.mp h
    obtain ⟨skipped, matched, rest, htext, hmatch, -⟩ := exists_of_searchFrom_eq_some hplace
    exact ⟨skipped, matched, rest, htext, by simpa using hmatch⟩
  · rintro ⟨skipped, matched, rest, rfl, hmatch⟩
    exact isSome_searchFrom (by simpa using hmatch) rfl

/-! ## Matches of the common patterns -/

@[simp] theorem matches_append {first second : Pattern} {before : Option Char}
    {matched rest : Text} :
    (first ++ second).Matches before matched rest ↔
      ∃ left right, matched = left ++ right ∧ first.Matches before left (right ++ rest) ∧
        second.Matches (left.getLast?.or before) right rest :=
  Iff.rfl

@[simp] theorem matches_char {c : Char} {before : Option Char} {matched rest : Text} :
    (char c).Matches before matched rest ↔ matched = [c] := by
  simp [char, Matches]

theorem matches_literal {text : Text} {before : Option Char} {matched rest : Text} :
    (literal text).Matches before matched rest ↔ matched = text := by
  induction text generalizing before matched with
  | nil => rfl
  | cons c text ih =>
    rw [literal, matches_append]
    simp only [matches_char, ih]
    constructor
    · rintro ⟨left, right, rfl, rfl, rfl⟩
      rfl
    · rintro rfl
      exact ⟨[c], text, rfl, rfl, rfl⟩

theorem matches_maybe {body : Pattern} {before : Option Char} {matched rest : Text} :
    (maybe body).Matches before matched rest ↔ body.Matches before matched rest ∨ matched = [] :=
  Iff.rfl

/-- Repeating one character of a class matches the texts of such characters. -/
theorem matches_many_one {holds : Char → Bool} {before : Option Char} {matched rest : Text} :
    (many (one holds)).Matches before matched rest ↔ ∀ c ∈ matched, holds c = true := by
  constructor
  · intro h
    induction h with
    | nil => simp
    | cons _ hturn _ ih =>
      obtain ⟨c, rfl, hc⟩ := hturn
      simpa [hc] using ih
  · intro h
    induction matched generalizing before with
    | nil => exact .nil before rest
    | cons c matched ih =>
      have hc : (one holds).Matches before [c] (matched ++ rest) := ⟨c, rfl, h c (by simp)⟩
      exact Repeats.cons (by simp) hc (ih fun d hd => h d (by simp [hd]))

theorem matches_someBlanks {before : Option Char} {matched rest : Text} :
    someBlanks.Matches before matched rest ↔ matched ≠ [] ∧ ∀ c ∈ matched, isBlank c = true := by
  rw [someBlanks, matches_append]
  simp only [blanks, matches_many_one]
  constructor
  · rintro ⟨left, right, rfl, ⟨c, rfl, hc⟩, hright⟩
    simpa [hc] using hright
  · rintro ⟨hne, hall⟩
    obtain ⟨c, right, rfl⟩ := List.exists_cons_of_ne_nil hne
    exact ⟨[c], right, rfl, ⟨c, rfl, hall c (by simp)⟩, fun d hd => hall d (by simp [hd])⟩

/-! ## Characters of a match -/

/-- Whether a pattern can match a text with the given character in it. -/
def allows (c : Char) : Pattern → Bool
  | nothing => false
  | one holds => holds c
  | seq first second => allows c first || allows c second
  | either first second => allows c first || allows c second
  | many body => allows c body
  | boundary => false
  | atEnd => false

/-- Matched texts consist of characters that the pattern allows. -/
theorem Matches.allows {pattern : Pattern} {before : Option Char} {matched rest : Text}
    (h : pattern.Matches before matched rest) {c : Char} (hc : c ∈ matched) :
    pattern.allows c = true := by
  induction pattern generalizing before matched rest with
  | nothing =>
    obtain rfl : matched = [] := h
    simp at hc
  | one holds =>
    obtain ⟨d, rfl, hd⟩ := h
    rw [List.mem_singleton.mp hc]
    exact hd
  | seq first second ihfirst ihsecond =>
    obtain ⟨left, right, rfl, hleft, hright⟩ := h
    rw [Pattern.allows, Bool.or_eq_true]
    rcases List.mem_append.mp hc with hc | hc
    · exact Or.inl (ihfirst hleft hc)
    · exact Or.inr (ihsecond hright hc)
  | either first second ihfirst ihsecond =>
    rw [Pattern.allows, Bool.or_eq_true]
    rcases h with hfirst | hsecond
    · exact Or.inl (ihfirst hfirst hc)
    · exact Or.inr (ihsecond hsecond hc)
  | many body ih =>
    rw [Pattern.allows]
    have hrepeats : Repeats body.Matches before matched rest := h
    clear h
    induction hrepeats with
    | nil => simp at hc
    | cons _ hturn _ ihothers =>
      rcases List.mem_append.mp hc with hc | hc
      · exact ih hturn hc
      · exact ihothers hc
  | boundary =>
    obtain ⟨rfl, -⟩ := h
    simp at hc
  | atEnd =>
    obtain ⟨rfl, -⟩ := h
    simp at hc

/-! ## The last character of a match -/

/-- Whether a pattern can match the empty text. -/
def mayBeEmpty : Pattern → Bool
  | nothing => true
  | one _ => false
  | seq first second => mayBeEmpty first && mayBeEmpty second
  | either first second => mayBeEmpty first || mayBeEmpty second
  | many _ => true
  | boundary => true
  | atEnd => true

/-- Whether a pattern can match a text that ends in the given character. -/
def mayEndIn (c : Char) : Pattern → Bool
  | nothing => false
  | one holds => holds c
  | seq first second => mayEndIn c second || (mayBeEmpty second && mayEndIn c first)
  | either first second => mayEndIn c first || mayEndIn c second
  | many body => mayEndIn c body
  | boundary => false
  | atEnd => false

@[simp] theorem mayEndIn_append (c : Char) (first second : Pattern) :
    (first ++ second).mayEndIn c = (second.mayEndIn c || (second.mayBeEmpty && first.mayEndIn c)) :=
      rfl

theorem Matches.mayBeEmpty {pattern : Pattern} {before : Option Char} {rest : Text}
    (h : pattern.Matches before [] rest) : pattern.mayBeEmpty = true := by
  induction pattern generalizing before rest with
  | nothing => rfl
  | one holds =>
    obtain ⟨c, hc, -⟩ := h
    simp at hc
  | seq first second ihfirst ihsecond =>
    obtain ⟨left, right, hnil, hleft, hright⟩ := h
    obtain ⟨rfl, rfl⟩ := List.append_eq_nil_iff.mp hnil.symm
    rw [Pattern.mayBeEmpty, ihfirst hleft, ihsecond hright, Bool.and_self]
  | either first second ihfirst ihsecond =>
    rw [Pattern.mayBeEmpty, Bool.or_eq_true]
    exact h.imp ihfirst ihsecond
  | many body => rfl
  | boundary => rfl
  | atEnd => rfl

/-- Matched texts end in a character in which the pattern can end. -/
theorem Matches.mayEndIn {pattern : Pattern} {before : Option Char} {matched rest : Text} {c : Char}
    (h : pattern.Matches before matched rest) (hlast : matched.getLast? = some c) :
    pattern.mayEndIn c = true := by
  induction pattern generalizing before matched rest with
  | nothing =>
    obtain rfl : matched = [] := h
    simp at hlast
  | one holds =>
    obtain ⟨d, rfl, hd⟩ := h
    obtain rfl : d = c := by simpa using hlast
    exact hd
  | seq first second ihfirst ihsecond =>
    obtain ⟨left, right, rfl, hleft, hright⟩ := h
    rw [Pattern.mayEndIn, Bool.or_eq_true, Bool.and_eq_true]
    cases hend : right.getLast? with
    | none =>
      obtain rfl := List.getLast?_eq_none_iff.mp hend
      exact Or.inr ⟨hright.mayBeEmpty, ihfirst hleft (by simpa using hlast)⟩
    | some d =>
      rw [List.getLast?_append, hend, Option.some_or] at hlast
      exact Or.inl (ihsecond hright (hend.trans hlast))
  | either first second ihfirst ihsecond =>
    rw [Pattern.mayEndIn, Bool.or_eq_true]
    exact h.imp (ihfirst · hlast) (ihsecond · hlast)
  | many body ih =>
    rw [Pattern.mayEndIn]
    have hrepeats : Repeats body.Matches before matched rest := h
    clear h
    induction hrepeats with
    | nil => simp at hlast
    | @cons _ first others _ _ hturn _ ihothers =>
      cases hend : others.getLast? with
      | none =>
        obtain rfl := List.getLast?_eq_none_iff.mp hend
        exact ih hturn (by simpa using hlast)
      | some d =>
        rw [List.getLast?_append, hend, Option.some_or] at hlast
        exact ihothers (hend.trans hlast)
  | boundary =>
    obtain ⟨rfl, -⟩ := h
    simp at hlast
  | atEnd =>
    obtain ⟨rfl, -⟩ := h
    simp at hlast

end Pattern
end FieldInjection
