import FieldInjection.Proofs.Canonical.FieldLines
import FieldInjection.Proofs.Hosting

/-!
# Dependencies of a canonical class

A dependency is a field with a type as it is written in declarations.  Its name is a customary
beginning, some small letters and the word `Service`; the parameter is the name without the
beginning.  A field that is declared for a dependency can be injected along with others.

## Main Definitions

* `Dependency`: a field of a canonical class.

## Main Statements

* `Dependency.parameterName_name`: the parameter for a dependency.
* `Dependency.isRegular`: a field that is declared for a dependency is regular.
-/

namespace FieldInjection

open Pattern

/-- A field of a canonical class. -/
structure Dependency where
  /-- The type of the field. -/
  type : Text
  /-- The type is written as types are. -/
  isType : IsTypeText type
  /-- Whether the name begins with a letter in front of the low line. -/
  lettered : Bool
  /-- The letters between the customary beginning and the last word of the name. -/
  stem : Text
  /-- There are such letters. -/
  stem_ne_nil : stem ≠ []
  /-- They are small. -/
  isLower_of_mem : ∀ c ∈ stem, c.isLower = true
  /-- Whether the field is injected from the beginning. -/
  injected : Bool

namespace Dependency

variable (dependency : Dependency)

/-- The parameter that a dependency is received as. -/
def parameter : Text :=
  dependency.stem ++ "Service".toList

/-- The name of the field. -/
def name : Text :=
  (if dependency.lettered then ['m', '_'] else ['_']) ++ dependency.parameter

theorem isAsciiName_parameter : isAsciiName dependency.parameter = true := by
  obtain ⟨first, others, hstem⟩ := List.exists_cons_of_ne_nil dependency.stem_ne_nil
  have hlower := dependency.isLower_of_mem
  rw [hstem] at hlower
  have hothers : ∀ c ∈ others ++ "Service".toList, (c.isAlphanum || c == '_') = true := by
    intro c hc
    rcases List.mem_append.mp hc with hc | hc
    · simp [isAlphanum_of_isAlpha (isAlpha_of_isLower (hlower c (by simp [hc])))]
    · have hword : ∀ d ∈ "Service".toList, (d.isAlphanum || d == '_') = true := by decide
      exact hword c hc
  rw [parameter, hstem, List.cons_append, isAsciiName, Bool.and_eq_true, List.all_eq_true]
  exact ⟨by simp [isNameStart, isAlpha_of_isLower (hlower first (by simp))], hothers⟩

/-- The field of a dependency has an ASCII name. -/
theorem isAsciiName_name : isAsciiName dependency.name = true := by
  have hparameter : ∀ c ∈ dependency.parameter, (c.isAlphanum || c == '_') = true := fun c =>
    isAlphanum_of_mem_asciiName dependency.isAsciiName_parameter
  rw [name]
  split
  · rw [List.cons_append, List.cons_append, List.nil_append, isAsciiName, Bool.and_eq_true,
      List.all_eq_true]
    refine ⟨by decide, fun c hc => ?_⟩
    rcases List.mem_cons.mp hc with rfl | hc
    · decide
    · exact hparameter c hc
  · rw [List.cons_append, List.nil_append, isAsciiName, Bool.and_eq_true, List.all_eq_true]
    exact ⟨by decide, hparameter⟩

/-- The customary beginning of the name can be taken off. -/
theorem fieldStem?_name : fieldStem? dependency.name = some dependency.parameter := by
  rw [fieldStem?, name]
  split <;> simp [Text.dropStart?]

/-- A dependency is received under its name without the customary beginning. -/
@[simp] theorem parameterName_name : parameterName dependency.name = dependency.parameter := by
  have hlower := dependency.isLower_of_mem
  obtain ⟨first, others, hstem⟩ := List.exists_cons_of_ne_nil dependency.stem_ne_nil
  rw [hstem] at hlower
  have hfirst : lowercase first = [first] := by
    have hsmall := hlower first (by simp)
    have hall : ∀ n < 128, (Char.ofNat n).isLower = true →
        lowercase (Char.ofNat n) = [Char.ofNat n] := by decide
    have halpha : first.isAlphanum = true := isAlphanum_of_isAlpha (isAlpha_of_isLower hsmall)
    obtain ⟨n, hn, rfl⟩ := exists_ofNat_of_lt (toNat_lt_of_isAlphanum halpha)
    exact hall n hn hsmall
  rw [parameterName, fieldStem, fieldStem?_name, Option.getD_some, parameter, hstem,
    List.cons_append, lowercaseFirst, hfirst, List.singleton_append]

/-- Field and parameter never have one name. -/
theorem name_ne_parameter : dependency.name ≠ dependency.parameter := by
  intro heq
  have hlength := congrArg List.length heq
  rw [name, List.length_append] at hlength
  split at hlength <;> simp at hlength

/-- The field of a dependency looks like one. -/
theorem isDependencyName_name : isDependencyName dependency.name = true := by
  rw [isDependencyName, fieldStem?_name]
  simp [parameter, dependency.stem_ne_nil]

theorem assignment_eq : assignment dependency.name dependency.parameter =
    dependency.name ++ ' ' :: (['='] ++ ' ' :: (dependency.parameter ++ [';'])) := by
  simp [assignment, dependency.name_ne_parameter]

/-- The keyword of a declaration does not stand in front of a blank of an assignment. -/
theorem assignment_ne (left right : Text) {blank : Char} (hblank : isBlank blank = true) :
    assignment dependency.name dependency.parameter ≠ left ++ "private".toList ++
      blank :: right := by
  intro heq
  have hfree : ∀ name : Text, isAsciiName name = true → ∀ c ∈ name, isBlank c = false :=
    fun name h c =>
    isBlank_eq_false_of_mem_asciiName h
  have hkeyword : ∀ mark : Char, mark ≠ 'e' → (left ++ "private".toList).getLast? ≠ some mark := by
    intro mark hmark hlast
    rw [List.getLast?_append] at hlast
    exact hmark (Option.some.inj hlast).symm
  rw [assignment_eq] at heq
  rcases cut_at_blank (Tight.of_not_blank (hfree _ dependency.isAsciiName_name)) heq hblank
    (hkeyword ',' (by decide)) with ⟨hname, -⟩ | ⟨more, hmore, hrest⟩
  · -- the name ends in another word
    have hlength : "private".toList.length = "Service".toList.length := by decide
    have hwords : "private".toList ≠ "Service".toList := by decide
    rw [name, parameter, ← List.append_assoc] at hname
    exact hwords (List.append_inj_right' hname hlength)
  · rcases cut_at_blank (Tight.of_not_blank (by decide)) hrest hblank
      (getLast?_append_cons_ne (hmore ▸ hkeyword ',' (by decide))) with ⟨rfl, -⟩ | ⟨tail, -, htail⟩
    · refine hkeyword '=' (by decide) ?_
      rw [hmore, List.getLast?_append]
      rfl
    · have hmem : blank ∈ dependency.parameter ++ [';'] := by simp [htail]
      rcases List.mem_append.mp hmem with hmem | hmem
      · rw [hfree _ dependency.isAsciiName_parameter blank hmem] at hblank
        exact Bool.false_ne_true hblank
      · rw [List.mem_singleton.mp hmem] at hblank
        exact absurd hblank (by decide)

/-- An assignment is not taken for a declaration. -/
theorem declaredFieldNames_assignment {indent : Text} (hindent : ∀ c ∈ indent, isBlank c = true) :
    declaredFieldNames (indent ++ assignment dependency.name dependency.parameter) = [] := by
  have htrim : (assignment dependency.name dependency.parameter).trim =
      assignment dependency.name dependency.parameter := by
    refine Text.trim_eq_self ?_ ?_
    · obtain ⟨first, others, hname, hstart, -⟩ := isAsciiName_cons dependency.isAsciiName_name
      rw [assignment_eq, hname]
      exact isBlank_eq_false_of_isNameStart hstart
    · rw [assignment, List.getLast?_concat]
      decide
  have hnone : declaratorList? (assignment dependency.name dependency.parameter) = none := by
    cases hlist : declaratorList? (assignment dependency.name dependency.parameter) with
    | none => rfl
    | some found =>
      obtain ⟨skipped, matched, rest, heq, ⟨_, gap, rfl, ⟨start, type, rfl, hstart, -⟩, -⟩, -⟩ :=
        exists_of_searchFrom_eq_some hlist
      obtain ⟨-, blank, blanks, modifiers, rfl, hblank, -, -⟩ := exists_of_start_matches hstart
      refine absurd ?_
        (dependency.assignment_ne skipped (blanks ++ modifiers ++ type ++ gap ++ rest) hblank)
      rw [heq]
      simp only [List.append_assoc, List.cons_append]
  rw [declaredFieldNames]
  simp only [Text.trim_blank_append hindent, htrim, hnone, Option.bind_none]
  split <;> rfl

/-- A field that is declared for a dependency can be injected along with others. -/
theorem isRegular {field : FieldReference} (hname : field.name = dependency.name)
    (htype : field.declaredType = dependency.type) : field.IsRegular where
  name := hname ▸ isIdentifier_of_isAsciiName dependency.isAsciiName_name
  parameter_ne_nil := by simp [hname, parameter]
  allows_of_mem := by
    have hmatches : FieldPattern.declaredType.Matches none dependency.type [] :=
      dependency.isType.declaredType_matches
    intro c hc
    exact hmatches.allows (htype ▸ hc)
  unsplit := htype ▸ dependency.isType.unsplit le_rfl
  type_ne_nil := by
    obtain ⟨c, rest, hcons, -⟩ := dependency.isType.exists_cons
    simp [htype, hcons]
  head_not_blank := htype ▸ dependency.isType.head?_not_blank
  name_ne := by
    rw [hname, parameterName_name]
    exact dependency.name_ne_parameter
  feed_not_mem := htype ▸ dependency.isType.not_mem (by decide)
  dependency := hname ▸ dependency.isDependencyName_name
  declares_nothing := by
    intro indent hindent
    rw [hname, parameterName_name]
    exact dependency.declaredFieldNames_assignment hindent

end Dependency

end FieldInjection
