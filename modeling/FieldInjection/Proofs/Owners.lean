import FieldInjection.Proofs.Methods
import FieldInjection.Proofs.Spans

/-!
# The class that a field sits in

A field sits directly in an eligible class when the first brace behind the header of the class opens
a block around the field, and the field is at depth one of that block.  The search for the class
looks only at the last eligible header up to the field.  If that one belongs to a class inside,
which has ended before the field, the class around the field is not found.

What the search misses is told by the eligible headers between the class and the field
(`exists_findClassSpan_iff_of_sitsIn`): it answers exactly when the field sits directly in the class
of each of them.  Two such classes can only follow each other when the upper one has ended on the
line of its first brace, so apart from this a single eligible header between the brace of the class
and the field is enough to hide the class.

## Main Definitions

* `HoldsBrace`: a line with an opening brace.
* `SitsIn`: a field directly in an eligible class.

## Main Statements

* `findClassSpan_eq_ok_iff_sitsIn`: the search answers with the class of the last eligible header.
* `SitsIn.exists_of_between`: a header between two classes that the field sits in belongs to a
  third one.
* `exists_findClassSpan_iff_of_sitsIn`: when the class of a field is found.
-/

namespace FieldInjection

/-- The line has an opening brace. -/
def HoldsBrace (snapshot : Snapshot) (line : Nat) : Prop :=
  ∃ text, snapshot.lines[line]? = some text ∧ openBrace ∈ text

/-- The line sits directly in the eligible class that is declared from line `declaration` on. -/
structure SitsIn (snapshot : Snapshot) (baseType : Text) (line declaration opening closing : Nat) :
    Prop where
  /-- The header is eligible, as far as it is read up to the line. -/
  eligible : isEligibleAt baseType snapshot.lines declaration line = true
  /-- The body does not open before the header. -/
  declaration_le : declaration ≤ opening
  /-- The body opens before the line. -/
  opening_lt : opening < line
  /-- The body opens with a brace. -/
  holdsBrace : HoldsBrace snapshot opening
  /-- That brace is the first one from the header on. -/
  first : ∀ other, declaration ≤ other → other < opening → ¬ HoldsBrace snapshot other
  /-- The block of that brace ends with the body. -/
  blockEnd_eq : snapshot.blockEnd opening = some closing
  /-- The body ends behind the line. -/
  lt_closing : line < closing
  /-- The line is in the body itself and in no block inside it. -/
  depth : snapshot.balance opening (line - 1) = 1

/-! ## The header that is taken -/

/-- If a line has a property, some line from there on is the last one with it. -/
theorem exists_lastUpTo_eq_some (holds : Nat → Bool) {line found : Nat} (hle : found ≤ line)
    (hfound : holds found = true) : ∃ last, found ≤ last ∧ lastUpTo holds line = some last := by
  induction line with
  | zero =>
    obtain rfl : found = 0 := by omega
    exact ⟨0, le_rfl, by rw [lastUpTo, if_pos hfound]⟩
  | succ line ih =>
    rw [lastUpTo]
    by_cases hlast : holds (line + 1) = true
    · exact ⟨line + 1, hle, if_pos hlast⟩
    · have hne : found ≠ line + 1 := by
        rintro rfl
        exact hlast hfound
      obtain ⟨last, hbehind, hsearch⟩ := ih (by omega)
      exact ⟨last, hbehind, by rw [if_neg hlast, hsearch]⟩

section Search

variable {snapshot : Snapshot} {baseType : Text} {line : Nat}

/-- The header that the search takes, with the first brace behind it. -/
theorem headerAt_iff {declaration offset : Nat} :
    HeaderAt snapshot line baseType declaration offset ↔
      (declaration ≤ line ∧ isEligibleAt baseType snapshot.lines declaration line = true ∧
        ∀ other, declaration < other → other ≤ line →
          isEligibleAt baseType snapshot.lines other line = false) ∧
      declaration + offset < line ∧ HoldsBrace snapshot (declaration + offset) ∧
        ∀ other, declaration ≤ other → other < declaration + offset →
          ¬ HoldsBrace snapshot other := by
  rw [HeaderAt, lastUpTo_eq_some_iff, findIdx?_range_eq_some_iff]
  have hswap : (∀ other text, declaration ≤ other → other < declaration + offset →
        snapshot.lines[other]? = some text → text.contains openBrace = false) ↔
      ∀ other, declaration ≤ other → other < declaration + offset →
      ¬ HoldsBrace snapshot other := by
    constructor
    · rintro hnone other hstart hother ⟨text, htext, hbrace⟩
      have hfalse := hnone other text hstart hother htext
      rw [List.contains_iff_mem.mpr hbrace] at hfalse
      exact Bool.noConfusion hfalse
    · intro hnone other text hstart hother htext
      by_contra hbrace
      exact hnone other hstart hother ⟨text, htext, by simpa using hbrace⟩
  rw [hswap]
  simp only [HoldsBrace, List.contains_iff_mem]

/-- The class of the last eligible header is found, if the line sits directly in it. -/
theorem findClassSpan_eq_ok_iff_sitsIn {opening closing : Nat} :
    findClassSpan snapshot line baseType = .ok ⟨opening, closing⟩ ↔
      ∃ declaration, SitsIn snapshot baseType line declaration opening closing ∧
        ∀ other, declaration < other → other ≤ line →
          isEligibleAt baseType snapshot.lines other line = false := by
  simp only [findClassSpan_eq_ok_iff, ClassSpan.contains_iff, headerAt_iff]
  constructor
  · rintro ⟨-, ⟨declaration, offset, ⟨⟨-, heligible, hlast⟩, hlt, hbrace, hfirst⟩, rfl⟩, hend,
      hinside, hdepth⟩
    exact ⟨declaration, ⟨heligible, Nat.le_add_right _ _, hlt, hbrace, hfirst, hend, hinside.2,
      hdepth⟩, hlast⟩
  · rintro ⟨declaration, hsits, hlast⟩
    obtain ⟨offset, rfl⟩ := Nat.exists_eq_add_of_le hsits.declaration_le
    have hlt := hsits.opening_lt
    refine ⟨Nat.lt_trans hsits.lt_closing (lt_size_of_blockEnd hsits.blockEnd_eq),
      ⟨declaration, offset, ⟨⟨by omega, hsits.eligible, hlast⟩, hlt, hsits.holdsBrace, hsits.first⟩,
        rfl⟩,
      hsits.blockEnd_eq, ⟨hlt, hsits.lt_closing⟩, hsits.depth⟩

end Search

/-! ## Several headers of one field -/

namespace SitsIn

variable {snapshot : Snapshot} {baseType : Text} {line declaration opening closing : Nat}
    (h : SitsIn snapshot baseType line declaration opening closing)

include h

/-- Every eligible header up to the first brace leads to the same body. -/
theorem of_le_opening {other : Nat} (hdeclaration : declaration ≤ other)
    (hopening : other ≤ opening)
    (heligible : isEligibleAt baseType snapshot.lines other line = true) :
    SitsIn snapshot baseType line other opening closing :=
  ⟨heligible, hopening, h.opening_lt, h.holdsBrace,
    fun earlier hother hearlier => h.first earlier (hdeclaration.trans hother) hearlier,
    h.blockEnd_eq,
    h.lt_closing, h.depth⟩

variable {declaration' opening' closing' : Nat}
    (h' : SitsIn snapshot baseType line declaration' opening' closing')

include h'

theorem opening_eq (hdeclaration : declaration ≤ declaration') (hopening : declaration' ≤ opening) :
    opening' = opening := by
  rcases Nat.lt_trichotomy opening' opening with hlt | heq | hgt
  · exact absurd h'.holdsBrace (h.first opening' (hdeclaration.trans h'.declaration_le) hlt)
  · exact heq
  · exact absurd h.holdsBrace (h'.first opening hopening hgt)

/-- Two bodies around one field that begin with different braces: the first line of the upper one up
to the brace of the lower one opens nothing that is left open. -/
theorem opening_le_first {first : Nat} (hlt : opening < opening')
    (hopens : OpensOn snapshot opening closing first) : opening' ≤ first := by
  have hline := h'.opening_lt
  have hclosing := h.lt_closing
  obtain ⟨before, rfl⟩ : ∃ before, opening' = before + 1 := ⟨opening' - 1, by omega⟩
  -- both depths of the field are one, so nothing is open between the two braces
  have hsum : snapshot.balance opening (line - 1) = _ :=
    balance_eq_add (by omega : opening ≤ before) (by omega : before < line - 1)
  rw [h.depth, h'.depth] at hsum
  by_contra hlate
  have hpos := hopens.opened before (by omega) (by omega)
  omega

/-- An eligible header between those of two classes that the field sits in belongs to a third
one. -/
theorem exists_of_between {other : Nat} (hdeclaration : declaration ≤ other)
    (hother : other ≤ declaration')
    (heligible : isEligibleAt baseType snapshot.lines other line = true) :
    ∃ brace, SitsIn snapshot baseType line other brace closing := by
  rcases Nat.lt_or_ge opening other with hgt | hle
  swap
  · exact ⟨opening, h.of_le_opening hdeclaration hle heligible⟩
  · have hdeclaration' := h'.declaration_le
    have hline := h'.opening_lt
    obtain ⟨first, hopens⟩ := blockEnd_eq_some_iff.mp h.blockEnd_eq
    have hfirst := h.opening_le_first h' (by omega) hopens
    -- the first brace from the header on comes no later than that of the lower class
    classical
    have hexists : ∃ brace, other ≤ brace ∧ HoldsBrace snapshot brace :=
      ⟨opening', by omega, h'.holdsBrace⟩
    obtain ⟨hbrace, hholds⟩ := Nat.find_spec hexists
    have hle : Nat.find hexists ≤ opening' := Nat.find_min' hexists ⟨by omega, h'.holdsBrace⟩
    refine ⟨Nat.find hexists, heligible, hbrace, by omega, hholds,
      fun earlier hearlier hlt hholds' => ?_, (hopens.of_le (by omega) (by omega)).blockEnd_eq,
      h.lt_closing, ?_⟩
    · exact Nat.find_min hexists hlt ⟨hearlier, hholds'⟩
    · rw [hopens.balance_eq (by omega) (by omega) (by omega), h.depth]

/-- Where the first line of a body leaves something open, no other class has the field directly in
it. -/
theorem opening_eq_of_opens {text : Text} (hdeclaration : declaration ≤ declaration')
    (htext : snapshot.lines[opening]? = some text) (hopens : 0 < braceDelta text) :
    opening' = opening := by
  rcases Nat.lt_or_ge opening declaration' with hgt | hle
  swap
  · exact h.opening_eq h' hdeclaration hle
  · have hdeclaration' := h'.declaration_le
    obtain ⟨first, hblock⟩ := blockEnd_eq_some_iff.mp h.blockEnd_eq
    have hfirst := h.opening_le_first h' (by omega) hblock
    have hflat := hblock.flat opening le_rfl (by omega)
    rw [balance_self htext] at hflat
    omega

end SitsIn

/-! ## When the class of a field is found -/

/-- Let a field sit directly in an eligible class.  A class is found for it exactly when the field
sits directly in the class of each eligible header between the header of that class and the field,
and it is that class itself exactly when there is no eligible header between its first brace and the
field.  If the line of this brace opens more than it closes, no other class can be found. -/
theorem exists_findClassSpan_iff_of_sitsIn {snapshot : Snapshot} {baseType : Text}
    {line declaration opening closing : Nat}
    (h : SitsIn snapshot baseType line declaration opening closing) :
    ((∃ span, findClassSpan snapshot line baseType = .ok span) ↔
      ∀ other, declaration < other → other ≤ line →
        isEligibleAt baseType snapshot.lines other line = true →
          ∃ brace, SitsIn snapshot baseType line other brace closing) ∧
    (findClassSpan snapshot line baseType = .ok ⟨opening, closing⟩ ↔
      ∀ other, opening < other → other ≤ line →
        isEligibleAt baseType snapshot.lines other line = false) ∧
    ((∃ text, snapshot.lines[opening]? = some text ∧ 0 < braceDelta text) →
      ∀ span, findClassSpan snapshot line baseType = .ok span → span = ⟨opening, closing⟩) := by
  have hdeclaration := h.declaration_le
  have hline := h.opening_lt
  -- what is found belongs to a header that is not above that of the class
  have hfound : ∀ {opening' closing'}, findClassSpan snapshot line baseType =
      .ok ⟨opening', closing'⟩ →
      ∃ last, declaration ≤ last ∧ SitsIn snapshot baseType line last opening' closing' ∧
        ∀ other, last < other → other ≤ line →
          isEligibleAt baseType snapshot.lines other line = false := by
    intro opening' closing' hspan
    obtain ⟨last, hsits, hnone⟩ := findClassSpan_eq_ok_iff_sitsIn.mp hspan
    refine ⟨last, ?_, hsits, hnone⟩
    by_contra hlt
    have heligible := h.eligible
    rw [hnone declaration (by omega) (by omega)] at heligible
    exact Bool.noConfusion heligible
  obtain ⟨last, hle, hlast⟩ := exists_lastUpTo_eq_some
    (isEligibleAt baseType snapshot.lines · line) (by omega : declaration ≤ line) h.eligible
  obtain ⟨hlastLine, hlastEligible, hnone⟩ := lastUpTo_eq_some_iff.mp hlast
  refine ⟨⟨?_, ?_⟩, ⟨?_, ?_⟩, ?_⟩
  · rintro ⟨⟨opening', closing'⟩, hspan⟩ other hlt hother heligible
    obtain ⟨last, -, hsits, hnone⟩ := hfound hspan
    have hbetween : other ≤ last := by
      by_contra hlate
      rw [hnone other (by omega) hother] at heligible
      exact Bool.noConfusion heligible
    exact h.exists_of_between hsits (Nat.le_of_lt hlt) hbetween heligible
  · intro hall
    rcases Nat.eq_or_lt_of_le hle with rfl | hlt
    · exact ⟨_, findClassSpan_eq_ok_iff_sitsIn.mpr ⟨_, h, hnone⟩⟩
    · obtain ⟨brace, hsits⟩ := hall last hlt hlastLine hlastEligible
      exact ⟨_, findClassSpan_eq_ok_iff_sitsIn.mpr ⟨last, hsits, hnone⟩⟩
  · intro hspan other hlt hother
    obtain ⟨last, -, hsits, hnone⟩ := hfound hspan
    exact hnone other (Nat.lt_of_le_of_lt hsits.declaration_le hlt) hother
  · intro hall
    have hbefore : last ≤ opening := by
      by_contra hlate
      rw [hall last (by omega) hlastLine] at hlastEligible
      exact Bool.noConfusion hlastEligible
    exact findClassSpan_eq_ok_iff_sitsIn.mpr
      ⟨last, h.of_le_opening hle hbefore hlastEligible, hnone⟩
  · rintro ⟨text, htext, hopens⟩ ⟨opening', closing'⟩ hspan
    obtain ⟨last, hle, hsits, -⟩ := hfound hspan
    obtain rfl := h.opening_eq_of_opens hsits hle htext hopens
    rw [Option.some.inj (hsits.blockEnd_eq.symm.trans h.blockEnd_eq)]

/-- A class of components with a class inside that is no component, in front of a field. -/
def innerClassDocument : Snapshot :=
  .ofLines ["class A".toList,
    "    : MonoBehaviour".toList,
    "\x7b".toList,
    "    class B".toList,
    "    \x7b".toList,
    "    \x7d".toList,
    "    private IFoo _foo;".toList,
    "\x7d".toList]

theorem innerClassDocument_found :
    SitsIn innerClassDocument "MonoBehaviour".toList 6 0 2 7 ∧
      findClassSpan innerClassDocument 6 "MonoBehaviour".toList = .ok ⟨2, 7⟩ := by
  have hsits : SitsIn innerClassDocument "MonoBehaviour".toList 6 0 2 7 := by
    refine ⟨by rfl, by decide, by decide, ⟨_, rfl, by decide⟩, ?_, by rfl, by decide, by rfl⟩
    rintro other - hother ⟨text, htext, hbrace⟩
    obtain rfl | rfl : other = 0 ∨ other = 1 := by omega
    · cases htext
      exact absurd hbrace (by decide)
    · cases htext
      exact absurd hbrace (by decide)
  refine ⟨hsits, (exists_findClassSpan_iff_of_sitsIn hsits).2.1.mpr fun other hopening hother => ?_⟩
  obtain rfl | rfl | rfl | rfl : other = 3 ∨ other = 4 ∨ other = 5 ∨ other = 6 := by omega
  all_goals rfl

/-- The same class, where the class inside is a component too. -/
def innerComponentDocument : Snapshot :=
  .ofLines ["class A : MonoBehaviour".toList,
    "\x7b".toList,
    "    class B : MonoBehaviour".toList,
    "    \x7b".toList,
    "    \x7d".toList,
    "    private IFoo _foo;".toList,
    "\x7d".toList]

/-- The class that a field sits in need not be found: here the last eligible header up to the field
is that of a class which has ended. -/
theorem innerComponentDocument_not_found :
    SitsIn innerComponentDocument "MonoBehaviour".toList 5 0 1 6 ∧
      findClassSpan innerComponentDocument 5 "MonoBehaviour".toList =
        .error (.noEligibleClass "MonoBehaviour".toList 5) := by
  refine ⟨⟨by rfl, by decide, by decide, ⟨_, rfl, by decide⟩, ?_, by rfl, by decide, by rfl⟩,
    by rfl⟩
  rintro other - hother ⟨text, htext, hbrace⟩
  obtain rfl : other = 0 := by omega
  cases htext
  exact absurd hbrace (by decide)

end FieldInjection
