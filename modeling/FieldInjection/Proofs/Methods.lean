import FieldInjection.Merge
import FieldInjection.Proofs.Cutting
import Mathlib.Data.Nat.Find

/-!
# Where an injection method is found

The search goes through the lines in order and stops at the first line that is the marker and has
the reserved name on the line after it.  The body opens at the end of the signature's line or on the
next line that is not blank.

## Main Definitions

* `Annotated`: a marker line with the reserved name on the line after it.

## Main Statements

* `findInjectionMethodBetween_eq_of_first`: the search reads the method below the first such line.
* `exists_of_findInjectionMethodBetween`, `not_annotated_of_findInjectionMethodBetween`: what its
  answers say.
* `readMethod_eq_ok_iff`: where the parts of a method are.
* `hasAssignment_eq_true_iff`: when the body of a method assigns a field.
-/

namespace FieldInjection

/-- The line is the marker, and the reserved name stands on the line after it. -/
def Annotated (marker methodName : Text) (lines : List Text) (index : Nat) : Prop :=
  ∃ line signature, lines[index]? = some line ∧ lines[index + 1]? = some signature ∧
    line.trim = marker ∧ containsToken signature methodName = true

section Signature

variable {marker methodName : Text}

theorem annotated_drop {lines : List Text} {start index : Nat} :
    Annotated marker methodName (lines.drop start) index ↔
      Annotated marker methodName lines (start + index) := by
  simp [Annotated, List.getElem?_drop, Nat.add_assoc]

/-- The search for a signature stops at the first annotated line. -/
theorem findSignature?_eq_of_first {lines : List Text} {index count offset : Nat} {signature : Text}
    (hcount : offset < count) (hfound : Annotated marker methodName lines offset)
    (hsignature : lines[offset + 1]? = some signature)
    (hfirst : ∀ other < offset, ¬ Annotated marker methodName lines other) :
    findSignature? marker methodName index count lines = some (index + offset + 1, signature) := by
  obtain ⟨line, sig, hline, hsig, hmarker, htoken⟩ := hfound
  induction offset generalizing lines index count with
  | zero =>
    obtain ⟨remaining, rfl⟩ : ∃ remaining, count = remaining + 1 := ⟨count - 1, by omega⟩
    match lines, hline, hsig, hsignature with
    | first :: second :: rest, hline, hsig, hsignature =>
      simp only [List.getElem?_cons_zero, Option.some.injEq, Nat.zero_add,
        List.getElem?_cons_succ] at hline hsig hsignature
      subst hline hsig hsignature
      simp [findSignature?, hmarker, htoken]
  | succ offset ih =>
    obtain ⟨remaining, rfl⟩ : ∃ remaining, count = remaining + 1 := ⟨count - 1, by omega⟩
    match lines, hline, hsig, hsignature, hfirst with
    | first :: second :: rest, hline, hsig, hsignature, hfirst =>
      have hno : ¬ ((first.trim == marker && containsToken second methodName) = true) := by
        intro h
        simp only [Bool.and_eq_true, beq_iff_eq] at h
        exact hfirst 0 (by omega) ⟨first, second, rfl, rfl, h⟩
      rw [findSignature?, if_neg hno, ih (by omega) hsignature
        (fun other hother => fun hin => hfirst (other + 1) (by omega) hin) hline hsig]
      congr 2
      omega
    | [_], hline, _, _, _ => simp at hline

theorem findSignature?_eq_none {lines : List Text} {index count : Nat}
    (h : ∀ offset < count, ¬ Annotated marker methodName lines offset) :
    findSignature? marker methodName index count lines = none := by
  induction count generalizing lines index with
  | zero => simp [findSignature?]
  | succ count ih =>
    match lines, h with
    | [], _ => simp [findSignature?]
    | [_], _ => simp [findSignature?]
    | first :: second :: rest, h =>
      have hno : ¬ ((first.trim == marker && containsToken second methodName) = true) := by
        intro hfirst
        simp only [Bool.and_eq_true, beq_iff_eq] at hfirst
        exact h 0 (by omega) ⟨first, second, rfl, rfl, hfirst⟩
      rw [findSignature?, if_neg hno]
      exact ih fun offset hoffset hin => h (offset + 1) (by omega) hin

end Signature

/-! ## The search between two lines -/

section Search

variable {snapshot : Snapshot} {start stop : Nat} {config : Configuration}

/-- The search reads the method below the first annotated line. -/
theorem findInjectionMethodBetween_eq_of_first {index : Nat} {signature : Text}
    (hstart : start ≤ index) (hstop : index < min stop snapshot.size)
    (hfound : Annotated config.marker.trim config.methodName snapshot.lines index)
    (hsignature : snapshot.lines[index + 1]? = some signature)
    (hfirst : ∀ other, start ≤ other → other < index →
      ¬ Annotated config.marker.trim config.methodName snapshot.lines other) :
    findInjectionMethodBetween snapshot start stop config =
      (readMethod snapshot config.methodName (index + 1) signature (min stop snapshot.size)).map
        some := by
  obtain ⟨offset, rfl⟩ := Nat.exists_eq_add_of_le hstart
  have hsearch : findSignature? config.marker.trim config.methodName start
      (min stop snapshot.size - start) (snapshot.lines.drop start) =
        some (start + offset + 1, signature) := by
    refine findSignature?_eq_of_first (by omega) (annotated_drop.mpr hfound) ?_ ?_
    · rw [List.getElem?_drop, ← hsignature]
      congr 1
    · intro other hother hin
      exact hfirst (start + other) (by omega) (by omega) (annotated_drop.mp hin)
  rw [findInjectionMethodBetween]
  simp only [hsearch]

theorem findInjectionMethodBetween_eq_ok_none
    (h : ∀ index, start ≤ index → index < min stop snapshot.size →
      ¬ Annotated config.marker.trim config.methodName snapshot.lines index) :
    findInjectionMethodBetween snapshot start stop config = .ok none := by
  have hsearch : findSignature? config.marker.trim config.methodName start
      (min stop snapshot.size - start) (snapshot.lines.drop start) = none := by
    refine findSignature?_eq_none fun offset hoffset hin => ?_
    exact h (start + offset) (by omega) (by omega) (annotated_drop.mp hin)
  rw [findInjectionMethodBetween]
  simp only [hsearch]

/-- Either no line is annotated, or there is a first one. -/
theorem exists_first_annotated (marker methodName : Text) (lines : List Text) (start stop : Nat) :
    (∀ index, start ≤ index → index < stop → ¬ Annotated marker methodName lines index) ∨
      ∃ index, start ≤ index ∧ index < stop ∧ Annotated marker methodName lines index ∧
        ∀ other, start ≤ other → other < index → ¬ Annotated marker methodName lines other := by
  classical
  by_cases h : ∃ index, start ≤ index ∧ index < stop ∧ Annotated marker methodName lines index
  · refine Or.inr ⟨Nat.find h, (Nat.find_spec h).1, (Nat.find_spec h).2.1,
      (Nat.find_spec h).2.2, ?_⟩
    intro other hstart hother hin
    exact Nat.find_min h hother ⟨hstart, hother.trans (Nat.find_spec h).2.1, hin⟩
  · refine Or.inl fun index hstart hstop hin => h ⟨index, hstart, hstop, hin⟩

/-- A method that is found stands below the first annotated line. -/
theorem exists_of_findInjectionMethodBetween {method : InjectionMethod}
    (h : findInjectionMethodBetween snapshot start stop config = .ok (some method)) :
    ∃ index signature, start ≤ index ∧ index < min stop snapshot.size ∧
      Annotated config.marker.trim config.methodName snapshot.lines index ∧
      snapshot.lines[index + 1]? = some signature ∧
      (∀ other, start ≤ other → other < index →
        ¬ Annotated config.marker.trim config.methodName snapshot.lines other) ∧
      readMethod snapshot config.methodName (index + 1) signature (min stop snapshot.size) =
        .ok method := by
  rcases exists_first_annotated config.marker.trim config.methodName snapshot.lines start
    (min stop snapshot.size) with hnone | ⟨index, hstart, hstop, hfound, hfirst⟩
  · rw [findInjectionMethodBetween_eq_ok_none hnone] at h
    simp at h
  · obtain ⟨line, signature, hline, hsignature, hmarker⟩ := id hfound
    rw [findInjectionMethodBetween_eq_of_first hstart hstop hfound hsignature hfirst] at h
    refine ⟨index, signature, hstart, hstop, hfound, hsignature, hfirst, ?_⟩
    cases hread : readMethod snapshot config.methodName (index + 1) signature
      (min stop snapshot.size) with
    | error fault => simp [hread, Except.map] at h
    | ok found =>
      simp only [hread, Except.map, Except.ok.injEq, Option.some.injEq] at h
      rw [h]

theorem not_annotated_of_findInjectionMethodBetween
    (h : findInjectionMethodBetween snapshot start stop config = .ok none) {index : Nat}
    (hstart : start ≤ index) (hstop : index < min stop snapshot.size) :
    ¬ Annotated config.marker.trim config.methodName snapshot.lines index := by
  rcases exists_first_annotated config.marker.trim config.methodName snapshot.lines start
    (min stop snapshot.size) with hnone | ⟨first, hstart', hstop', hfound, hfirst⟩
  · exact hnone index hstart hstop
  · obtain ⟨line, signature, hline, hsignature, hmarker⟩ := id hfound
    rw [findInjectionMethodBetween_eq_of_first hstart' hstop' hfound hsignature hfirst] at h
    cases hread : readMethod snapshot config.methodName (first + 1) signature
      (min stop snapshot.size) <;> simp [hread, Except.map] at h

end Search

/-! ## The parts of a method -/

/-- The first line of a range that has a property, by its distance from the first line of the
range. -/
theorem findIdx?_range_eq_some_iff {holds : Text → Bool} {lines : List Text}
    {start stop offset : Nat} :
    ((lines.take stop).drop start).findIdx? holds = some offset ↔
      start + offset < stop ∧ (∃ line, lines[start + offset]? = some line ∧ holds line = true) ∧
        ∀ other line, start ≤ other → other < start + offset → lines[other]? = some line →
          holds line = false := by
  have hget : ∀ offset, start + offset < stop →
      ((lines.take stop).drop start)[offset]? = lines[start + offset]? := by
    intro offset hoffset
    rw [List.getElem?_drop, List.getElem?_take_of_lt hoffset]
  rw [List.findIdx?_eq_some_iff_getElem]
  constructor
  · rintro ⟨hlt, hholds, hfirst⟩
    have hbound : start + offset < stop := by
      rw [List.length_drop, List.length_take] at hlt
      omega
    refine ⟨hbound, ⟨((lines.take stop).drop start)[offset], ?_, hholds⟩, ?_⟩
    · exact (hget offset hbound).symm.trans (List.getElem?_eq_getElem hlt)
    · intro other line hstart hother hline
      obtain ⟨earlier, rfl⟩ := Nat.exists_eq_add_of_le hstart
      have hnone := hfirst earlier (by omega)
      rw [← hget earlier (by omega), List.getElem?_eq_getElem (by omega),
        Option.some.injEq] at hline
      simpa [hline] using hnone
  · rintro ⟨hstop, ⟨line, hline, hholds⟩, hfirst⟩
    rw [← hget offset hstop, List.getElem?_eq_some_iff] at hline
    obtain ⟨hlt, hline⟩ := hline
    refine ⟨hlt, by rwa [hline], ?_⟩
    intro earlier hearlier
    have hnone := hfirst (start + earlier) _ (by omega) (by omega)
      ((hget earlier (by omega)).symm.trans (List.getElem?_eq_getElem (by omega)))
    simpa using hnone

/-- The first line of a range that is not blank. -/
theorem firstFilledLine?_eq_some_iff {lines : List Text} {start stop index : Nat} :
    firstFilledLine? lines start stop = some index ↔
      start ≤ index ∧ index < stop ∧
        (∃ line, lines[index]? = some line ∧ line.isAllBlank = false) ∧
        ∀ other line, start ≤ other → other < index → lines[other]? = some line →
          line.isAllBlank = true := by
  simp only [firstFilledLine?, Option.map_eq_some_iff, findIdx?_range_eq_some_iff,
    Bool.not_eq_true', Bool.not_eq_false']
  constructor
  · rintro ⟨offset, hfound, rfl⟩
    exact ⟨Nat.le_add_right start offset, hfound⟩
  · rintro ⟨hstart, hfound⟩
    obtain ⟨offset, rfl⟩ := Nat.exists_eq_add_of_le hstart
    exact ⟨offset, hfound, rfl⟩

/-- The body of a method opens at the end of its signature, or on the next line that is not
blank. -/
theorem readMethod_eq_ok_iff {snapshot : Snapshot} {methodName signature : Text}
    {signatureLine stop : Nat} {method : InjectionMethod} :
    readMethod snapshot methodName signatureLine signature stop = .ok method ↔
      (signature.trimEnd.getLast? = some openBrace ∧
        ∃ close, snapshot.blockEnd signatureLine = some close ∧
          method = ⟨signatureLine, signatureLine, close + 1, parameterNames signature⟩) ∨
      (signature.trimEnd.getLast? ≠ some openBrace ∧
        ∃ bodyStart line close, firstFilledLine? snapshot.lines (signatureLine + 1) stop =
            some bodyStart ∧ snapshot.lines[bodyStart]? = some line ∧
          Snapshot.isOpeningLine line = true ∧ snapshot.enclosingBlockEnd bodyStart = some close ∧
          method = ⟨signatureLine, bodyStart, close + 1, parameterNames signature⟩) := by
  by_cases hbrace : signature.trimEnd.getLast? = some openBrace
  · simp only [readMethod, hbrace, if_true, true_and, ne_eq, not_true_eq_false, false_and, or_false]
    cases snapshot.blockEnd signatureLine with
    | none => simp
    | some close =>
      simp only [Except.ok.injEq, Option.some.injEq, exists_eq_left']
      exact eq_comm
  · simp only [readMethod, hbrace, if_false, false_and, false_or, ne_eq, not_false_eq_true,
      true_and]
    cases hfilled : firstFilledLine? snapshot.lines (signatureLine + 1) stop with
    | none => simp
    | some bodyStart =>
      cases hline : snapshot.lines[bodyStart]? with
      | none => simp [hline]
      | some line =>
        by_cases hopen : Snapshot.isOpeningLine line = true
        · cases hclose : snapshot.enclosingBlockEnd bodyStart with
          | none => simp [hline, hopen, hclose]
          | some close =>
            simp only [Option.any_some, hopen, if_true, Except.ok.injEq, Option.some.injEq,
              exists_and_left, exists_eq_left', hline, hclose, true_and]
            exact eq_comm
        · simp [hline, hopen]

theorem signatureLine_of_readMethod {snapshot : Snapshot} {methodName signature : Text}
    {signatureLine stop : Nat} {method : InjectionMethod}
    (h : readMethod snapshot methodName signatureLine signature stop = .ok method) :
    method.signatureLine = signatureLine := by
  rcases readMethod_eq_ok_iff.mp h with ⟨-, _, -, rfl⟩ | ⟨-, _, _, _, -, -, -, -, rfl⟩ <;> rfl

/-- A field is assigned when one of the lines from the opening to the closing brace does it. -/
theorem hasAssignment_eq_true_iff {snapshot : Snapshot} {method : InjectionMethod} {field : Text} :
    hasAssignment snapshot method field = true ↔
      ∃ index line, method.bodyStartLine ≤ index ∧ index < method.bodyEndLine ∧
        snapshot.lines[index]? = some line ∧ assignsToken line field = true := by
  rw [hasAssignment, List.any_eq_true]
  constructor
  · rintro ⟨line, hline, hassigns⟩
    obtain ⟨offset, hoffset⟩ := List.mem_iff_getElem?.mp hline
    rw [List.getElem?_drop] at hoffset
    have hlt : method.bodyStartLine + offset < method.bodyEndLine := by
      obtain ⟨hbound, -⟩ := List.getElem?_eq_some_iff.mp hoffset
      rw [List.length_take] at hbound
      omega
    rw [List.getElem?_take_of_lt hlt] at hoffset
    exact ⟨_, line, Nat.le_add_right _ _, hlt, hoffset, hassigns⟩
  · rintro ⟨index, line, hstart, hstop, hline, hassigns⟩
    obtain ⟨offset, rfl⟩ := Nat.exists_eq_add_of_le hstart
    refine ⟨line, List.mem_iff_getElem?.mpr ⟨offset, ?_⟩, hassigns⟩
    rw [List.getElem?_drop, List.getElem?_take_of_lt hstop, hline]

end FieldInjection
