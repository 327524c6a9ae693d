import FieldInjection.Backend
import FieldInjection.Location
import FieldInjection.Proofs.Declarations

/-!
# What a location says

A location is found in three searches, one for the field, one for the class body around it and one
for the injection method of that body.  The first two look at no line behind the field, but for the
end of the class body.

## Main Statements

* `locateInLines_eq_ok_iff`, `findClassSpan_eq_ok_iff`: the searches taken apart.
* `field_of_locate`: neither backend answers with another name or with a blank type.
* `locateField_of_take_eq`, `findClassSpan_of_take_eq`: field and class body are found again in
  another document with the same lines up to the field.
-/

namespace FieldInjection

/-- A location consists of the answers of the three searches. -/
theorem locateInLines_eq_ok_iff {snapshot : Snapshot} {field : Text} {config : Configuration}
    {location : Location} :
    locateInLines snapshot field config = .ok location ↔
      locateField snapshot field = some location.field ∧
        findClassSpan snapshot location.field.line config.baseType = .ok location.span ∧
        findInjectionMethodIn snapshot location.span config = .ok location.method := by
  obtain ⟨reference, span, method⟩ := location
  rw [locateInLines]
  cases hfield : locateField snapshot field with
  | none => simp
  | some found =>
    simp only [Option.some.injEq]
    cases hspan : findClassSpan snapshot found.line config.baseType with
    | error fault =>
      simp only [bind, Except.bind, reduceCtorEq, false_iff]
      rintro ⟨rfl, h, -⟩
      simp [hspan] at h
    | ok around =>
      simp only [bind, Except.bind]
      cases hmethod : findInjectionMethodIn snapshot around config with
      | error fault =>
        simp only [reduceCtorEq, false_iff]
        rintro ⟨rfl, h, h'⟩
        obtain rfl : around = span := by simpa [hspan] using h
        simp [hmethod] at h'
      | ok answer =>
        simp only [pure, Except.pure, Except.ok.injEq, Location.mk.injEq]
        constructor
        · rintro ⟨rfl, rfl, rfl⟩
          exact ⟨rfl, hspan, hmethod⟩
        · rintro ⟨rfl, h, h'⟩
          obtain rfl : around = span := by simpa [hspan] using h
          exact ⟨rfl, rfl, by simpa [hmethod] using h'⟩

/-! ## The field -/

/-- The type that is read off a line begins with a letter or the low line. -/
theorem isAllBlank_of_declaredTypeOn? {name trimmed declaredType : Text}
    (h : declaredTypeOn? name trimmed = some declaredType) : declaredType.isAllBlank = false := by
  obtain ⟨_, _, type, _, _, -, -, htype, -, rfl⟩ := declaredTypeOn?_eq_some h
  obtain ⟨c, hmem, hblank⟩ : ∃ c ∈ type, isBlank c = false := by
    obtain ⟨_, ranks, rfl, ⟨_, mark, rfl, ⟨_, arguments, rfl, ⟨_, more, rfl, hfirst, -⟩, -⟩, -⟩,
        -⟩ :=
      htype
    obtain ⟨c, rfl, hc⟩ := hfirst
    refine ⟨c, by simp, ?_⟩
    rcases Bool.or_eq_true _ _ |>.mp hc with halpha | hline
    · exact isBlank_eq_false_of_isAlpha halpha
    · rw [beq_iff_eq.mp hline]
      decide
  exact List.all_eq_false.mpr ⟨c, Text.mem_trim_of_mem hmem hblank, by simp [hblank]⟩

/-- A location in a tree has the name that was asked for and a type that is not blank. -/
theorem field_of_locateBelow {root : CSharp.Node} {lines : List Text} {name : Text}
    {config : Configuration} {location : Location}
    (h : CSharp.locateBelow root lines name config = .ok location) :
    location.field.name = name ∧ location.field.declaredType.isAllBlank = false := by
  rw [CSharp.locateBelow] at h
  split at h
  · simp at h
  · next site hsite =>
    simp only at h
    split at h
    · simp at h
    · split at h
      · simp at h
      · next body hbody =>
        cases hmethod : CSharp.findMethod lines config body with
        | error fault => simp [hmethod, bind, Except.bind] at h
        | ok method =>
          simp only [hmethod, bind, Except.bind, pure, Except.pure, Except.ok.injEq] at h
          rw [← h]
          exact ⟨rfl, site.filled⟩

/-- Either backend answers with the name that it was asked for and with a type that is not blank. -/
theorem field_of_locate {backend : Backend} {snapshot : Snapshot} {name : Text}
    {config : Configuration} {location : Location}
    (h : backend.locate snapshot name config = .ok location) :
    location.field.name = name ∧ location.field.declaredType.isAllBlank = false := by
  cases backend with
  | lines =>
    obtain ⟨hfield, -, -⟩ := locateInLines_eq_ok_iff.mp h
    obtain ⟨-, _, _, _, -, -, htype, hname, -⟩ := locateField_eq_some_iff.mp hfield
    exact ⟨hname, isAllBlank_of_declaredTypeOn? htype⟩
  | parsed parser =>
    simp only [Backend.locate, CSharp.locateInTree] at h
    split at h
    · simp at h
    · split at h
      · simp at h
      · exact field_of_locateBelow h

/-- The type of a located field is not blank, whichever backend located it. -/
theorem isAllBlank_declaredType {backend : Backend} {snapshot : Snapshot} {name : Text}
    {config : Configuration} {location : Location}
    (h : backend.locate snapshot name config = .ok location) :
    location.field.declaredType.isAllBlank = false :=
  (field_of_locate h).2

/-! ## The class body -/

/-- A class body contains the lines strictly between those of its braces. -/
theorem ClassSpan.contains_iff {span : ClassSpan} {line : Nat} :
    span.contains line = true ↔ span.startLine < line ∧ line < span.endLine := by
  simp only [ClassSpan.contains, Bool.and_eq_true, decide_eq_true_eq]

/-- The line from which the eligible class around a line is declared, and the distance of its first
brace. -/
def HeaderAt (snapshot : Snapshot) (fieldLine : Nat) (baseType : Text) (declaration offset : Nat) :
    Prop :=
  lastUpTo (isEligibleAt baseType snapshot.lines · fieldLine) fieldLine = some declaration ∧
    ((snapshot.lines.take fieldLine).drop declaration).findIdx? (·.contains openBrace) = some offset

/-- A class body is found below the nearest eligible header in front of the field, if it closes
behind the field and the field is directly in it. -/
theorem findClassSpan_eq_ok_iff {snapshot : Snapshot} {fieldLine : Nat} {baseType : Text}
    {span : ClassSpan} :
    findClassSpan snapshot fieldLine baseType = .ok span ↔
      fieldLine < snapshot.size ∧
        (∃ declaration offset, HeaderAt snapshot fieldLine baseType declaration offset ∧
          span.startLine = declaration + offset) ∧
        snapshot.blockEnd span.startLine = some span.endLine ∧
        span.contains fieldLine = true ∧ snapshot.balance span.startLine (fieldLine - 1) = 1 := by
  obtain ⟨start, stop⟩ := span
  by_cases hsize : snapshot.size ≤ fieldLine
  · simp [findClassSpan, hsize, Nat.not_lt.mpr hsize]
  · simp only [findClassSpan, hsize, if_false, Nat.lt_of_not_le hsize, true_and, HeaderAt]
    cases hdeclaration : lastUpTo (isEligibleAt baseType snapshot.lines · fieldLine) fieldLine with
    | none => simp
    | some declaration =>
      simp only [Option.some.injEq]
      cases hoffset : ((snapshot.lines.take fieldLine).drop declaration).findIdx?
        (·.contains openBrace) with
      | none =>
        simp only [reduceCtorEq, false_iff]
        rintro ⟨⟨_, _, ⟨rfl, h⟩, -⟩, -⟩
        exact absurd (hoffset.symm.trans h) (by simp)
      | some offset =>
        simp only
        constructor
        · intro h
          cases hend : snapshot.blockEnd (declaration + offset) with
          | none => simp [hend] at h
          | some found =>
            simp only [hend] at h
            split at h
            · next hinside =>
              simp only [Except.ok.injEq, ClassSpan.mk.injEq] at h
              obtain ⟨rfl, rfl⟩ := h
              simp only [Bool.and_eq_true, beq_iff_eq] at hinside
              exact ⟨⟨declaration, offset, ⟨rfl, hoffset⟩, rfl⟩, hend, hinside⟩
            · simp at h
        · rintro ⟨⟨_, distance, ⟨rfl, h⟩, rfl⟩, hend, hinside⟩
          obtain rfl : offset = distance := Option.some.inj (hoffset.symm.trans h)
          simp [hend, hinside]

/-- The last line with a property has it, and no later one does. -/
theorem lastUpTo_eq_some_iff {holds : Nat → Bool} {line found : Nat} :
    lastUpTo holds line = some found ↔
      found ≤ line ∧ holds found = true ∧ ∀ other, found < other → other ≤ line →
        holds other = false := by
  induction line with
  | zero =>
    rw [lastUpTo]
    constructor
    · intro h
      split at h
      · next hzero =>
        obtain rfl := Option.some.inj h
        exact ⟨le_rfl, hzero, fun other hlt hle => by omega⟩
      · simp at h
    · rintro ⟨hle, hfound, -⟩
      obtain rfl : found = 0 := by omega
      rw [if_pos hfound]
  | succ line ih =>
    rw [lastUpTo]
    by_cases hlast : holds (line + 1) = true
    · rw [if_pos hlast, Option.some.injEq]
      constructor
      · rintro rfl
        exact ⟨le_rfl, hlast, fun other hlt hle => by omega⟩
      · rintro ⟨hle, -, hlater⟩
        by_contra hne
        rw [hlater (line + 1) (by omega) le_rfl] at hlast
        exact Bool.false_ne_true hlast
    · rw [if_neg hlast, ih]
      constructor
      · rintro ⟨hle, hfound, hlater⟩
        refine ⟨by omega, hfound, fun other hlt hother => ?_⟩
        by_cases heq : other = line + 1
        · rw [heq]
          exact Bool.eq_false_iff.mpr hlast
        · exact hlater other hlt (by omega)
      · rintro ⟨hle, hfound, hlater⟩
        have hne : found ≠ line + 1 := by
          rintro rfl
          exact hlast hfound
        exact ⟨by omega, hfound, fun other hlt hother => hlater other hlt (by omega)⟩

/-- A search backwards depends only on the lines that it can reach. -/
theorem lastUpTo_congr {holds holds' : Nat → Bool} {line : Nat}
    (h : ∀ other ≤ line, holds' other = holds other) :
    lastUpTo holds' line = lastUpTo holds line := by
  induction line with
  | zero => simp [lastUpTo, h 0 (Nat.le_refl 0)]
  | succ line ih =>
    rw [lastUpTo, lastUpTo, h (line + 1) (Nat.le_refl _), ih fun other hother => h other (by omega)]

section Prefix

variable {snapshot other : Snapshot} {fieldLine : Nat}
    (hlines : other.lines.take (fieldLine + 1) = snapshot.lines.take (fieldLine + 1))

include hlines

/-- The lines up to the field are the same one by one. -/
theorem getElem?_eq_of_take_eq {line : Nat} (hline : line ≤ fieldLine) :
    other.lines[line]? = snapshot.lines[line]? := by
  rw [← List.getElem?_take_of_lt (l := other.lines) (Nat.lt_succ_of_le hline), hlines,
    List.getElem?_take_of_lt (Nat.lt_succ_of_le hline)]

/-- So is any number of them from the top. -/
theorem take_eq_of_take_eq {count : Nat} (hcount : count ≤ fieldLine + 1) :
    other.lines.take count = snapshot.lines.take count := by
  have h := congrArg (List.take count) hlines
  rwa [List.take_take, List.take_take, Nat.min_eq_left hcount] at h

/-- A field is located on the same line, whatever comes behind it. -/
theorem locateField_of_take_eq {name : Text} {field : FieldReference}
    (h : locateField snapshot name = some field) (hfield : field.line = fieldLine) :
    locateField other name = some field := by
  obtain ⟨hname, front, line, after, hsplit, hfront, htype, hself, hline⟩ :=
    locateField_eq_some_iff.mp h
  refine locateField_eq_some_iff.mpr
    ⟨hname, front, line, other.lines.drop (fieldLine + 1), ?_, hfront, htype, hself, hline⟩
  have htake : snapshot.lines.take (fieldLine + 1) = front ++ [line] := by
    rw [hsplit, ← hfield, hline, List.append_cons]
    exact List.take_left' (by simp)
  rw [← List.singleton_append, ← List.append_assoc, ← htake, ← hlines, List.take_append_drop]

/-- Eligibility of a header in front of a line is a matter of the lines up to it. -/
theorem isEligibleAt_of_take_eq {baseType : Text} {line : Nat} (hline : line ≤ fieldLine) :
    isEligibleAt baseType other.lines line fieldLine =
      isEligibleAt baseType snapshot.lines line fieldLine := by
  rw [isEligibleAt, isEligibleAt, getElem?_eq_of_take_eq hlines hline, hlines]

/-- A header in front of the field is one in the other document. -/
theorem headerAt_of_take_eq {baseType : Text} {declaration offset : Nat}
    (h : HeaderAt snapshot fieldLine baseType declaration offset) :
    HeaderAt other fieldLine baseType declaration offset := by
  refine ⟨?_, ?_⟩
  · rw [← h.1]
    exact lastUpTo_congr fun line hline => isEligibleAt_of_take_eq hlines hline
  · rw [take_eq_of_take_eq hlines (Nat.le_succ fieldLine), h.2]

/-- Up to the field the balances are the same. -/
theorem balance_of_take_eq {start stop : Nat} (hstart : start ≤ stop) (hstop : stop ≤ fieldLine) :
    other.balance start stop = snapshot.balance start stop := by
  have hrange : ∀ lines : List Text, (lines.drop start).take (stop - start + 1) =
      (lines.take (stop + 1)).drop start := by
    intro lines
    rw [List.drop_take]
    congr 1
    omega
  rw [Snapshot.balance, Snapshot.balance, hrange, hrange,
    take_eq_of_take_eq hlines (Nat.succ_le_succ hstop)]

/-- A class body is found again in a document with the same lines up to the field, where only its
end may be another. -/
theorem findClassSpan_of_take_eq {baseType : Text} {span : ClassSpan} {stop : Nat}
    (h : findClassSpan snapshot fieldLine baseType = .ok span) (hsize : fieldLine < other.size)
    (hend : other.blockEnd span.startLine = some stop) (hstop : fieldLine < stop) :
    findClassSpan other fieldLine baseType = .ok ⟨span.startLine, stop⟩ := by
  obtain ⟨-, ⟨declaration, offset, hheader, hstart⟩, -, hcontains, hbalance⟩ :=
    findClassSpan_eq_ok_iff.mp h
  have hinside : span.startLine < fieldLine := by
    rw [ClassSpan.contains_iff] at hcontains
    exact hcontains.1
  refine findClassSpan_eq_ok_iff.mpr ⟨hsize,
    ⟨declaration, offset, headerAt_of_take_eq hlines hheader, hstart⟩, hend, ?_, ?_⟩
  · simp [ClassSpan.contains, hinside, hstop]
  · rw [← hbalance]
    exact balance_of_take_eq hlines (Nat.le_sub_one_of_lt hinside) (Nat.sub_le _ _)

end Prefix

end FieldInjection
