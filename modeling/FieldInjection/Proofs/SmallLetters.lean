import FieldInjection.Proofs.Characters

/-!
# Letters and their small letters

A letter has one small letter, which is a letter again; and what is no letter stays as it is in
lower case.  The one exception is the capital I with a dot above: it becomes two characters, the
second of which is a combining mark.

Both facts are read off the tables by intervals: the capitals of a run are an interval, and so is
the range of their small letters.

## Main Definitions

* `CodePoint.covers`: whether a table holds all code points of an interval.

## Main Statements

* `exists_lowercase_of_isLetter`: the small letter of a letter.
* `lowercase_of_not_isLetter`: nothing else has a lower-case form of its own.
* `isIdentifier_lowercase_append_iff`: when a name with a small first letter is an identifier.
-/

set_option maxRecDepth 4000

namespace FieldInjection

/-! ## Intervals of letters -/

namespace CodePoint

/-- Whether one of the ranges holds all code points from `first` to `last`. -/
def covers (first last : Nat) (ranges : List (Nat × Nat)) : Bool :=
  ranges.any fun range => Nat.ble last range.2 && Nat.ble range.1 first

theorem within_of_covers {ranges : List (Nat × Nat)} {first last code : Nat}
    (h : covers first last ranges = true) (hfirst : first ≤ code) (hlast : code ≤ last) :
    within ranges code = true := by
  simp only [covers, List.any_eq_true, Bool.and_eq_true, Nat.ble_eq] at h
  obtain ⟨range, hrange, hhigh, hlow⟩ := h
  simp only [within, List.any_eq_true, Bool.and_eq_true, decide_eq_true_eq]
  exact ⟨range, hrange, by omega, by omega⟩

end CodePoint

theorem isLetter_of_ge {c : Char} (h : 128 ≤ c.toNat) :
    isLetter c = CodePoint.within Letter.ranges c.toNat := by
  rw [isLetter, CodePoint.classify, if_neg (by omega)]

/-- No code point of a letter is a surrogate. -/
theorem letterRanges_valid :
    ∀ range ∈ Letter.ranges, range.2 < 0xD800 ∨ 0xDFFF < range.1 ∧ range.2 < 0x110000 := by
  decide +kernel

/-- The code points of the letter table are those of letters. -/
theorem isLetter_ofNat {code : Nat} (hge : 128 ≤ code)
    (hwithin : CodePoint.within Letter.ranges code = true) : isLetter (Char.ofNat code) = true := by
  have hvalid : code.isValidChar := by
    simp only [CodePoint.within, List.any_eq_true, Bool.and_eq_true, decide_eq_true_eq] at hwithin
    obtain ⟨range, hrange, hlow, hhigh⟩ := hwithin
    rcases letterRanges_valid range hrange with hsmall | ⟨hlarge, hbound⟩
    · exact Or.inl (by omega)
    · exact Or.inr ⟨by omega, by omega⟩
  have hcode : (Char.ofNat code).toNat = code := by
    rw [Char.ofNat, dif_pos hvalid]
    rfl
  rw [isLetter_of_ge (by omega), hcode]
  exact hwithin

/-! ## Letters and their small letters -/

/-- Below code point 128 a letter has a small letter, and nothing else has a lower-case form. -/
theorem toLower_ofNat : ∀ n < 128,
    (isLetter (Char.ofNat n) = true → isLetter (Char.ofNat n).toLower = true) ∧
      (isLetter (Char.ofNat n) = false → (Char.ofNat n).toLower = Char.ofNat n) := by
  decide +kernel

/-- The small letters of a run are letters; one run has its small letter below code point 128.  The
capitals of a run are letters as well, and nearly always so is what lies between them. -/
theorem lowercaseRuns_letters :
    ∀ run ∈ Lowercase.runs,
      (run.target = 0x6B ∧ run.last = run.first ∨ 128 ≤ run.target ∧
        CodePoint.covers run.target (run.target + (run.last - run.first)) Letter.ranges = true) ∧
      (CodePoint.covers run.first run.last Letter.ranges = true ∨
        ∀ distance < run.last - run.first + 1, distance % run.step = 0 →
          CodePoint.within Letter.ranges (run.first + distance) = true) := by
  decide +kernel

/-- A letter has one small letter, except for the capital I with a dot above. -/
theorem exists_lowercase_of_isLetter {c : Char} (hc : isLetter c = true) (hdot : c.toNat ≠ 0x130) :
    ∃ d, lowercase c = [d] ∧ isLetter d = true := by
  rw [lowercase]
  by_cases hlt : c.toNat < 128
  · obtain ⟨n, hn, rfl⟩ := exists_ofNat_of_lt hlt
    exact ⟨_, if_pos hlt, (toLower_ofNat n hn).1 hc⟩
  · rw [if_neg hlt, if_neg hdot]
    refine ⟨_, rfl, ?_⟩
    unfold Lowercase.codePoint
    split
    · next run hrun =>
      have hholds := List.find?_some hrun
      simp only [Lowercase.Run.holds, Bool.and_eq_true, decide_eq_true_eq] at hholds
      rcases (lowercaseRuns_letters run (List.mem_of_find?_eq_some hrun)).1 with
        ⟨htarget, hone⟩ | ⟨hlarge, hcovers⟩
      · have hkelvin : run.target + (c.toNat - run.first) = 0x6B := by omega
        rw [hkelvin]
        decide
      · exact isLetter_ofNat (by omega) (CodePoint.within_of_covers hcovers (by omega) (by omega))
    · rwa [show Char.ofNat c.toNat = c from Char.ofNat_toNat c]

/-- The capitals of a run are letters. -/
theorem within_of_holds {run : Lowercase.Run} (hrun : run ∈ Lowercase.runs) {code : Nat}
    (hholds : run.holds code = true) : CodePoint.within Letter.ranges code = true := by
  simp only [Lowercase.Run.holds, Bool.and_eq_true, decide_eq_true_eq, beq_iff_eq] at hholds
  obtain ⟨⟨hfirst, hlast⟩, hstep⟩ := hholds
  rcases (lowercaseRuns_letters run hrun).2 with hcovers | hcapitals
  · exact CodePoint.within_of_covers hcovers hfirst hlast
  · have hcapital := hcapitals (code - run.first) (by omega) hstep
    rwa [Nat.add_sub_cancel' hfirst] at hcapital

/-- What is no letter stays as it is. -/
theorem lowercase_of_not_isLetter {c : Char} (hletter : isLetter c = false) :
    lowercase c = [c] := by
  rw [lowercase]
  by_cases hlt : c.toNat < 128
  · obtain ⟨n, hn, rfl⟩ := exists_ofNat_of_lt hlt
    rw [if_pos hlt, (toLower_ofNat n hn).2 hletter]
  · rw [isLetter_of_ge (by omega)] at hletter
    have hdot : c.toNat ≠ 0x130 := by
      intro heq
      rw [heq] at hletter
      exact absurd hletter (by decide)
    have hnone : Lowercase.runs.find? (·.holds c.toNat) = none :=
      List.find?_eq_none.mpr fun run hrun hholds =>
        absurd (within_of_holds hrun hholds) (by simp [hletter])
    rw [if_neg hlt, if_neg hdot, Lowercase.codePoint, hnone]
    exact congrArg (fun d => [d]) (Char.ofNat_toNat c)

/-! ## Names in lower case -/

/-- The dot above is a combining mark, and none of the characters of an identifier. -/
theorem isIdentifierChar_dotAbove : isIdentifierChar (Char.ofNat 0x307) = false := by decide +kernel

/-- A name that goes on with identifier characters is an identifier in lower case, if its first
character is a letter other than the capital I with a dot above, or a low line. -/
theorem isIdentifier_lowercase_append_iff {first : Char} {rest : Text}
    (hrest : ∀ c ∈ rest, isIdentifierChar c = true) :
    isIdentifier (lowercase first ++ rest) = true ↔
      (isLetter first = true ∨ first = '_') ∧ first.toNat ≠ 0x130 := by
  have hone : ∀ c : Char, isIdentifier ([c] ++ rest) = true ↔ isLetter c = true ∨ c = '_' := by
    intro c
    simp [isIdentifier, List.all_eq_true.mpr hrest]
  by_cases hdot : first.toNat = 0x130
  · -- the second character of its lower-case form is a combining mark
    have hforms : lowercase first = ['i', Char.ofNat 0x307] := by
      rw [lowercase, hdot]
      rfl
    simp [hforms, isIdentifier, isIdentifierChar_dotAbove, hdot]
  · cases hletter : isLetter first with
    | true =>
      obtain ⟨small, hsmall, hsmallLetter⟩ := exists_lowercase_of_isLetter hletter hdot
      rw [hsmall, hone]
      simp [hsmallLetter, hdot]
    | false =>
      rw [lowercase_of_not_isLetter hletter, hone]
      simp [hletter, hdot]

end FieldInjection
