import FieldInjection.Configuration
import FieldInjection.Proofs.Blocks
import FieldInjection.Proofs.Cutting
import FieldInjection.Proofs.Tokens

/-!
# Configurations without a flaw

## Main Definitions

* `Configuration.IsSound`: what a configuration without a flaw looks like.

## Main Statements

* `Configuration.flaw?_eq_none_iff`: the test for flaws accepts these configurations and no others.
-/

namespace FieldInjection.Configuration

/-- A marker between square brackets, names that are identifiers, and an indent unit of spaces and
tabs. -/
structure IsSound (config : Configuration) : Prop where
  /-- The marker is an identifier between square brackets, with blanks around it or not. -/
  marker : ∃ inner : Text, config.marker.trim = '[' :: (inner ++ [']']) ∧
    isIdentifier inner.trim = true
  /-- The method name is an identifier. -/
  methodName : isIdentifier config.methodName = true
  /-- The base type is an identifier. -/
  baseType : isIdentifier config.baseType = true
  /-- The indent unit is not empty. -/
  indentUnit_ne_nil : config.indentUnit ≠ []
  /-- The indent unit has spaces and tabs only. -/
  indentUnit : ∀ c ∈ config.indentUnit, c = ' ' ∨ c = '\t'

/-- A marker has a name if an identifier stands between its brackets, perhaps with blanks around
it. -/
theorem isSome_markerName?_iff {config : Configuration} :
    config.markerName?.isSome = true ↔
      ∃ inner : Text, config.marker.trim = '[' :: (inner ++ [']']) ∧
        isIdentifier inner.trim = true := by
  rw [Option.isSome_iff_exists]
  constructor
  · rintro ⟨name, h⟩
    simp only [markerName?, Option.bind_eq_bind, Option.bind_eq_some_iff] at h
    obtain ⟨opened, hopened, ⟨inner, behind⟩, hinner, h⟩ := h
    rw [dropStart?_eq_some_iff] at hopened
    obtain ⟨rfl, -⟩ := Text.cutLast?_eq_some_iff.mp hinner
    split at h
    · next hname =>
      simp only [Bool.and_eq_true, List.isEmpty_iff] at hname
      obtain ⟨rfl, hname⟩ := hname
      exact ⟨inner, by simpa using hopened, hname⟩
    · simp at h
  · rintro ⟨inner, hmarker, hname⟩
    refine ⟨Text.trim inner, ?_⟩
    have hopened : Text.dropStart? ['['] config.marker.trim = some (inner ++ [']']) :=
      dropStart?_eq_some_iff.mpr hmarker
    have hinner : Text.cutLast? ']' (inner ++ [']']) = some (inner, []) :=
      Text.cutLast?_eq_some_iff.mpr ⟨rfl, by simp⟩
    simp [markerName?, hopened, hinner, hname]

/-- The test for flaws accepts the sound configurations and no others. -/
theorem flaw?_eq_none_iff {config : Configuration} : config.flaw? = none ↔ config.IsSound := by
  rw [flaw?]
  split
  · next hmarker =>
    refine ⟨fun h => by simp at h, fun h => ?_⟩
    have := isSome_markerName?_iff.mpr h.marker
    simp [Option.isNone_iff_eq_none.mp hmarker] at this
  · next hmarker =>
    have hmarker := isSome_markerName?_iff.mp
      (Option.isSome_iff_ne_none.mpr (by simpa using hmarker))
    split
    · next hname => exact ⟨fun h => by simp at h, fun h => by simp [h.methodName] at hname⟩
    · next hname =>
      split
      · next htype => exact ⟨fun h => by simp at h, fun h => by simp [h.baseType] at htype⟩
      · next htype =>
        split
        · next hunit =>
          refine ⟨fun h => by simp at h, fun h => ?_⟩
          simp only [Bool.or_eq_true, List.isEmpty_iff, h.indentUnit_ne_nil, false_or,
            Bool.not_eq_true', List.all_eq_false, beq_iff_eq] at hunit
          obtain ⟨c, hc, hother⟩ := hunit
          exact absurd (h.indentUnit c hc) hother
        · next hunit =>
          simp only [Bool.or_eq_true, List.isEmpty_iff, Bool.not_eq_true', not_or,
            Bool.not_eq_false, List.all_eq_true, beq_iff_eq] at hunit
          exact ⟨fun _ => ⟨hmarker, by simpa using hname, by simpa using htype, hunit.1, hunit.2⟩,
            fun _ => rfl⟩

namespace IsSound

variable {config : Configuration} (h : config.IsSound)

include h

/-- A sound marker is not blank. -/
theorem marker_trim_ne_nil : config.marker.trim ≠ [] := by
  obtain ⟨inner, hmarker, -⟩ := h.marker
  simp [hmarker]

/-- A sound marker ends with its bracket. -/
theorem getLast?_marker_trim : config.marker.trim.getLast? = some ']' := by
  obtain ⟨inner, hmarker, -⟩ := h.marker
  rw [hmarker, ← List.cons_append, List.getLast?_concat]

/-- A sound step of indentation has only blanks. -/
theorem isBlank_of_mem_indentUnit {c : Char} (hc : c ∈ config.indentUnit) : isBlank c = true := by
  rcases h.indentUnit c hc with rfl | rfl <;> decide

/-- Between its brackets, a marker has blanks and identifier characters. -/
theorem of_mem_marker_trim {c : Char} (hc : c ∈ config.marker.trim) :
    c = '[' ∨ c = ']' ∨ isBlank c = true ∨ isIdentifierChar c = true := by
  obtain ⟨inner, hmarker, hname⟩ := h.marker
  rw [hmarker] at hc
  simp only [List.mem_cons, List.mem_append, List.not_mem_nil, or_false] at hc
  rcases hc with hc | hc | hc
  · exact Or.inl hc
  · obtain ⟨left, right, hleft, hright, heq⟩ := Text.exists_blank_append_trim inner
    rw [heq] at hc
    simp only [List.mem_append] at hc
    rcases hc with (hc | hc) | hc
    · exact Or.inr (Or.inr (Or.inl (hleft c hc)))
    · exact Or.inr (Or.inr (Or.inr (isIdentifierChar_of_mem hname hc)))
    · exact Or.inr (Or.inr (Or.inl (hright c hc)))
  · exact Or.inr (Or.inl hc)

theorem braceDelta_marker_trim : braceDelta config.marker.trim = 0 := by
  refine braceDelta_eq_zero (fun hc => ?_) (fun hc => ?_) <;>
    exact absurd (h.of_mem_marker_trim hc) (by decide)

end IsSound

end FieldInjection.Configuration
