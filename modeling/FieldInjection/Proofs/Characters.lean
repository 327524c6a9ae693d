import FieldInjection.Brace
import FieldInjection.Identifier
import FieldInjection.Naming
import FieldInjection.Text.Word
import Mathlib.Data.List.Basic

/-!
# Which characters can meet

The readers of this library cut texts at blanks and at a few marks.  Names are made of other
characters, and this module says so once: no blank and no mark is a letter, a numeral or a word
character, and the lower-case form of a letter is none of them either.

The character tables are compared as lists of ranges.  Two tables that pass `CodePoint.disjoint`
have no code point in common, so one check settles all code points of a range at once.

## Main Definitions

* `isPlain`: neither a blank nor one of the marks that the readers react to.
* `CodePoint.disjoint`: two tables without a common code point.

## Main Statements

* `isPlain_of_isIdentifierChar`: names are plain.
* `isPlain_of_mem_parameterName`: so are the parameters made of them.
-/

set_option maxRecDepth 4000

namespace FieldInjection

/-! ## Tables without common code points -/

namespace CodePoint

/-- Whether two lists of ranges have no code point in common. -/
def disjoint (ranges others : List (Nat × Nat)) : Bool :=
  ranges.all fun range => others.all fun other =>
    Nat.blt range.2 other.1 || Nat.blt other.2 range.1

/-- A code point of one table is in no table without common code points. -/
theorem within_eq_false_of_disjoint {ranges others : List (Nat × Nat)} {code : Nat}
    (hdisjoint : disjoint ranges others = true) (hcode : within ranges code = true) :
    within others code = false := by
  simp only [within, List.any_eq_true, Bool.and_eq_true, decide_eq_true_eq] at hcode
  obtain ⟨range, hrange, hlow, hhigh⟩ := hcode
  simp only [disjoint, List.all_eq_true, Bool.or_eq_true, Nat.blt_eq] at hdisjoint
  simp only [within, List.any_eq_false, Bool.and_eq_true, decide_eq_true_eq]
  intro other hother
  have hapart := hdisjoint range hrange other hother
  omega

end CodePoint

/-- The first 128 characters, by their numbers. -/
theorem exists_ofNat_of_lt {c : Char} (h : c.toNat < 128) : ∃ n < 128, c = Char.ofNat n :=
  ⟨c.toNat, h, (Char.ofNat_toNat c).symm⟩

/-! ## Blanks -/

/-- The blanks from code point 128 on. -/
def Blank.ranges : List (Nat × Nat) :=
  [(0x85, 0x85), (0xA0, 0xA0), (0x1680, 0x1680), (0x2000, 0x200A), (0x2028, 0x2029),
    (0x202F, 0x202F), (0x205F, 0x205F), (0x3000, 0x3000)]

/-- From 128 on the blanks are given by a table like the other properties. -/
theorem isBlank_of_ge {c : Char} (h : 128 ≤ c.toNat) :
    isBlank c = CodePoint.within Blank.ranges c.toNat := by
  rw [Bool.eq_iff_iff]
  simp only [isBlank, Bool.or_eq_true, Bool.and_eq_true, decide_eq_true_eq, beq_iff_eq,
    CodePoint.within, Blank.ranges, List.any_cons, List.any_nil, Bool.or_false]
  omega

/-- A property that no ASCII blank has, and whose table has no blank either, holds of no blank. -/
theorem classify_eq_false_of_isBlank {plain : Char → Bool} {ranges : List (Nat × Nat)}
    (hplain : ∀ n < 128, isBlank (Char.ofNat n) = true → plain (Char.ofNat n) = false)
    (hranges : CodePoint.disjoint Blank.ranges ranges = true) {c : Char} (hc : isBlank c = true) :
    CodePoint.classify plain ranges c = false := by
  unfold CodePoint.classify
  split
  · next hlt =>
    obtain ⟨n, hn, rfl⟩ := exists_ofNat_of_lt hlt
    exact hplain n hn hc
  · next hge =>
    rw [isBlank_of_ge (by omega)] at hc
    exact CodePoint.within_eq_false_of_disjoint hranges hc

/-- No blank is a letter, of whatever script. -/
theorem isLetter_eq_false_of_isBlank {c : Char} (hc : isBlank c = true) : isLetter c = false :=
  classify_eq_false_of_isBlank (by decide) (by decide +kernel) hc

theorem isNumeral_eq_false_of_isBlank {c : Char} (hc : isBlank c = true) : isNumeral c = false :=
  classify_eq_false_of_isBlank (by decide) (by decide +kernel) hc

/-- No blank is part of a word. -/
theorem isWord_eq_false_of_isBlank {c : Char} (hc : isBlank c = true) : isWord c = false := by
  have hother : CodePoint.classify (fun d => d.isDigit || d == '_') Word.ranges c = false :=
    classify_eq_false_of_isBlank (by decide) (by decide +kernel) hc
  rw [isWord, isLetter_eq_false_of_isBlank hc, hother, Bool.or_false]

/-- No blank stands in an identifier. -/
theorem isIdentifierChar_eq_false_of_isBlank {c : Char} (hc : isBlank c = true) :
    isIdentifierChar c = false := by
  have hline : c ≠ '_' := by
    rintro rfl
    exact absurd hc (by decide)
  simp [isIdentifierChar, isLetter_eq_false_of_isBlank hc, isNumeral_eq_false_of_isBlank hc, hline]

theorem isBlank_eq_false_of_isAlpha {c : Char} (h : c.isAlpha = true) : isBlank c = false := by
  have hlt : c.toNat < 128 := by
    unfold Char.isAlpha Char.isUpper Char.isLower at h
    simp only [ge_iff_le, Bool.or_eq_true, Bool.and_eq_true, decide_eq_true_eq,
      UInt32.le_iff_toNat_le] at h
    have hcode : c.val.toNat ≤ 122 := by
      rcases h with ⟨-, h⟩ | ⟨-, h⟩
      · exact Nat.le_trans h (by decide)
      · exact h
    exact Nat.lt_of_le_of_lt hcode (by decide)
  obtain ⟨n, hn, rfl⟩ := exists_ofNat_of_lt hlt
  have hall : ∀ n < 128, (Char.ofNat n).isAlpha = true → isBlank (Char.ofNat n) = false := by decide
  exact hall n hn h

/-! ## Plain characters -/

/-- What is said of the characters of a text is decided by going through the text, and not through
every character there is. -/
instance Text.decidableForallMem {chars : Text} {holds : Char → Prop} [DecidablePred holds] :
    Decidable (∀ c ∈ chars, holds c) :=
  List.decidableBAll holds chars

/-- The marks that the readers of this library cut texts at. -/
def marks : Text :=
  ['(', ')', '[', ']', '<', '>', ',', ';', '=', '.', '/', openBrace, closeBrace]

/-- Whether a character is neither a blank nor a mark. -/
def isPlain (c : Char) : Bool :=
  !isBlank c && !marks.contains c

theorem isBlank_eq_false_of_isPlain {c : Char} (h : isPlain c = true) : isBlank c = false := by
  simp only [isPlain, Bool.and_eq_true, Bool.not_eq_true'] at h
  exact h.1

/-- A plain character is none of the marks that structure a document. -/
theorem ne_of_isPlain {c mark : Char} (h : isPlain c = true) (hmark : mark ∈ marks) : c ≠ mark := by
  rintro rfl
  simp [isPlain, hmark] at h

/-- There is no mark in a text of blanks and plain characters. -/
theorem not_mem_of_blank_or_plain {text : Text} {mark : Char}
    (h : ∀ c ∈ text, isBlank c = true ∨ isPlain c = true) (hmark : mark ∈ marks) : mark ∉ text := by
  have hmarks : ∀ c ∈ marks, isBlank c = false := by decide
  intro hmem
  rcases h mark hmem with hblank | hplain
  · rw [hmarks mark hmark] at hblank
    exact Bool.noConfusion hblank
  · exact ne_of_isPlain hplain hmark rfl

/-- Names are plain. -/
theorem isPlain_of_isIdentifierChar {c : Char} (h : isIdentifierChar c = true) :
    isPlain c = true := by
  have hblank : isBlank c = false := by
    by_contra hblank
    rw [isIdentifierChar_eq_false_of_isBlank (by simpa using hblank)] at h
    exact Bool.false_ne_true h
  have hmarks : ∀ mark ∈ marks, isIdentifierChar mark = false := by decide
  have hmem : c ∉ marks := by
    intro hmem
    rw [hmarks c hmem] at h
    exact Bool.false_ne_true h
  simp [isPlain, hblank, hmem]

/-! ## Lower case -/

/-- No run of small letters from code point 128 on meets a blank; the only small letter below that
belongs to the sign for kelvin. -/
theorem lowercaseRuns_not_blank :
    ∀ run ∈ Lowercase.runs, run.target = 0x6B ∧ run.last = run.first ∨
      128 ≤ run.target ∧
        CodePoint.disjoint [(run.target, run.target + (run.last - run.first))] Blank.ranges =
          true := by
  decide +kernel

/-- A code point from 128 on that is no blank. -/
theorem isPlain_of_ge {c : Char} (hge : 128 ≤ c.toNat) (hblank : isBlank c = false) :
    isPlain c = true := by
  have hsmall : ∀ mark ∈ marks, mark.toNat < 128 := by decide
  have hmem : c ∉ marks := fun hmem => absurd (hsmall c hmem) (by omega)
  simp [isPlain, hblank, hmem]

/-- A table without blanks has plain characters only, since all marks are below 128. -/
theorem isPlain_ofNat_of_within {ranges : List (Nat × Nat)} {code : Nat} (hge : 128 ≤ code)
    (hin : CodePoint.within ranges code = true)
    (hdisjoint : CodePoint.disjoint ranges Blank.ranges = true) :
    isPlain (Char.ofNat code) = true := by
  by_cases hvalid : code.isValidChar
  · have hcode : (Char.ofNat code).toNat = code := by
      rw [Char.ofNat, dif_pos hvalid]
      rfl
    refine isPlain_of_ge (by omega) ?_
    rw [isBlank_of_ge (by omega), hcode]
    exact CodePoint.within_eq_false_of_disjoint hdisjoint hin
  · have hzero : Char.ofNat code = Char.ofNat 0 := by
      rw [Char.ofNat, dif_neg hvalid]
      rfl
    rw [hzero]
    decide

/-- The lower-case form of a plain character is plain. -/
theorem isPlain_of_mem_lowercase {c d : Char} (hc : isIdentifierChar c = true)
    (hd : d ∈ lowercase c) : isPlain d = true := by
  unfold lowercase at hd
  split at hd
  · next hlt =>
    have hsmall : ∀ n < 128, isIdentifierChar (Char.ofNat n) = true →
        isPlain (Char.ofNat n).toLower = true := by decide +kernel
    obtain ⟨n, hn, rfl⟩ := exists_ofNat_of_lt hlt
    rw [List.mem_singleton.mp hd]
    exact hsmall n hn hc
  split at hd
  · rcases List.mem_cons.mp hd with rfl | hd
    · decide
    · rw [List.mem_singleton.mp hd]
      decide
  · rw [List.mem_singleton.mp hd]
    unfold Lowercase.codePoint
    split
    · next run hrun =>
      have hmem := List.mem_of_find?_eq_some hrun
      have hholds := List.find?_some hrun
      simp only [Lowercase.Run.holds, Bool.and_eq_true, decide_eq_true_eq] at hholds
      rcases lowercaseRuns_not_blank run hmem with ⟨htarget, hone⟩ | ⟨hge, hdisjoint⟩
      · have hkelvin : run.target + (c.toNat - run.first) = 0x6B := by omega
        rw [hkelvin]
        decide
      · refine isPlain_ofNat_of_within (by omega) ?_ hdisjoint
        simp only [CodePoint.within, List.any_cons, List.any_nil, Bool.or_false, Bool.and_eq_true,
          decide_eq_true_eq]
        omega
    · rw [show Char.ofNat c.toNat = c from Char.ofNat_toNat c]
      exact isPlain_of_isIdentifierChar hc

/-- Only the line feed has a line feed in its lower-case form. -/
theorem feed_not_mem_lowercase {c : Char} (hc : c ≠ '\n') : '\n' ∉ lowercase c := by
  have hlarge : ∀ code, 0x6B ≤ code → Char.ofNat code ≠ '\n' := by
    intro code hge heq
    by_cases hvalid : code.isValidChar
    · have hcode : (Char.ofNat code).toNat = code := by
        rw [Char.ofNat, dif_pos hvalid]
        rfl
      have hfeed : code = 10 := hcode.symm.trans (congrArg Char.toNat heq)
      omega
    · rw [Char.ofNat, dif_neg hvalid] at heq
      exact absurd heq (by decide)
  unfold lowercase
  split
  · next hlt =>
    have hsmall : ∀ n < 128, Char.ofNat n ≠ '\n' → (Char.ofNat n).toLower ≠ '\n' := by decide
    obtain ⟨n, hn, rfl⟩ := exists_ofNat_of_lt hlt
    simpa using (hsmall n hn hc).symm
  split
  · decide
  · rw [List.mem_singleton]
    unfold Lowercase.codePoint
    split
    · next run hrun =>
      rcases lowercaseRuns_not_blank run (List.mem_of_find?_eq_some hrun) with
        ⟨htarget, -⟩ | ⟨hge, -⟩ <;> exact (hlarge _ (by omega)).symm
    · rw [show Char.ofNat c.toNat = c from Char.ofNat_toNat c]
      exact hc.symm

/-! ## Identifiers and parameters -/

theorem isIdentifierChar_of_mem {name : Text} (h : isIdentifier name = true) {c : Char}
    (hc : c ∈ name) : isIdentifierChar c = true := by
  cases name with
  | nil => simp at hc
  | cons first rest =>
    simp only [isIdentifier, Bool.and_eq_true, Bool.or_eq_true, List.all_eq_true] at h
    rcases List.mem_cons.mp hc with rfl | hrest
    · rcases h.1 with hletter | hline
      · simp [isIdentifierChar, hletter]
      · simp [isIdentifierChar, hline]
    · exact h.2 c hrest

/-- The characters of identifiers are plain. -/
theorem isPlain_of_mem_identifier {name : Text} (h : isIdentifier name = true) {c : Char}
    (hc : c ∈ name) : isPlain c = true :=
  isPlain_of_isIdentifierChar (isIdentifierChar_of_mem h hc)

theorem ne_nil_of_isIdentifier {name : Text} (h : isIdentifier name = true) : name ≠ [] := by
  rintro rfl
  simp [isIdentifier] at h

theorem mem_of_dropStart? {start text rest : Text} (h : Text.dropStart? start text = some rest)
    {c : Char} (hc : c ∈ rest) : c ∈ text := by
  fun_induction Text.dropStart? start text with
  | case1 text => simpa [Option.some.inj h] using hc
  | case2 => simp at h
  | case3 a as bs ih => exact List.mem_cons_of_mem _ (ih h)
  | case4 => simp at h

/-- Taking off the customary beginning brings in no characters. -/
theorem mem_of_mem_fieldStem {field : Text} {c : Char} (hc : c ∈ fieldStem field) : c ∈ field := by
  unfold fieldStem fieldStem? at hc
  cases hline : Text.dropStart? ['_'] field with
  | some rest =>
    rw [hline] at hc
    exact mem_of_dropStart? hline hc
  | none =>
    cases hmember : Text.dropStart? ['m', '_'] field with
    | some rest =>
      rw [hline, hmember] at hc
      exact mem_of_dropStart? hmember hc
    | none => simpa [hline, hmember] using hc

/-- Parameters are plain. -/
theorem isPlain_of_mem_parameterName {field : Text} (h : isIdentifier field = true) {c : Char}
    (hc : c ∈ parameterName field) : isPlain c = true := by
  unfold parameterName at hc
  have hstem : ∀ d ∈ fieldStem field, isIdentifierChar d = true := fun d hd =>
    isIdentifierChar_of_mem h (mem_of_mem_fieldStem hd)
  cases hfirst : fieldStem field with
  | nil => simp [hfirst, lowercaseFirst] at hc
  | cons first rest =>
    rw [hfirst, lowercaseFirst, List.mem_append] at hc
    rw [hfirst] at hstem
    rcases hc with hlower | hrest
    · exact isPlain_of_mem_lowercase (hstem first (by simp)) hlower
    · exact isPlain_of_isIdentifierChar (hstem c (by simp [hrest]))

/-- A parameter name has no line feed if the field's has none. -/
theorem feed_not_mem_parameterName {field : Text} (h : '\n' ∉ field) :
    '\n' ∉ parameterName field := by
  have hstem : '\n' ∉ fieldStem field := fun hc => h (mem_of_mem_fieldStem hc)
  unfold parameterName
  cases hfirst : fieldStem field with
  | nil => simp [lowercaseFirst]
  | cons first rest =>
    rw [hfirst, List.mem_cons, not_or] at hstem
    rw [lowercaseFirst, List.mem_append, not_or]
    exact ⟨feed_not_mem_lowercase (Ne.symm hstem.1), hstem.2⟩

end FieldInjection
