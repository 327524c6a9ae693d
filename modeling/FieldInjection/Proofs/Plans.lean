import FieldInjection.Injector
import FieldInjection.Proofs.Characters
import FieldInjection.Proofs.Cutting

/-!
# Plans and their edits

What an injector does to a document follows from where the field is located in its lines: without an
injection method one is created, with one it is extended, unless the field is there already.

## Main Statements

* `Injector.exists_of_prepare`: where an edit comes from, with either backend.
* `Injector.inject_of_no_method`, `Injector.inject_of_merge`, `Injector.inject_of_injected`: the
  three outcomes for a field that is located.
* `Injector.exists_of_inject_plan_create`: where a creation comes from.
-/

namespace FieldInjection

theorem trim_identifier {name : Text} (h : isIdentifier name = true) : name.trim = name :=
  Text.trim_of_not_blank fun _ hc => isBlank_eq_false_of_isPlain (isPlain_of_mem_identifier h hc)

namespace Injector

variable {injector : Injector} {text name : Text}

/-- Plan and injection come to the same decision. -/
theorem plan_eq_inject_plan : injector.plan text name = (injector.inject text name).plan := by
  rw [plan, inject]
  split <;> rfl

/-- An edit is made for a field that is located: a new method for a class without one, or an
extended method where the field is not injected yet. -/
theorem exists_of_prepare {snapshot : Snapshot} {edit : Edit}
    (h : injector.prepare snapshot name = .ok edit) :
    ∃ location, injector.backend.locate snapshot name.trim injector.config = .ok location ∧
      ((location.method = none ∧
          edit = ⟨.create, createMethod snapshot location.field location.span injector.config,
            ⟨location.field.name, location.field.declaredType, parameterName location.field.name,
              .created⟩⟩) ∨
        ∃ method merged, location.method = some method ∧
          (method.hasParameter (parameterName location.field.name) &&
            hasAssignment snapshot method location.field.name) = false ∧
          merge snapshot method location.field injector.config = .ok merged ∧
          edit = ⟨.update, merged.snapshot,
            ⟨location.field.name, location.field.declaredType, parameterName location.field.name,
              .updated⟩⟩) := by
  rw [prepare, analyze] at h
  split at h
  · simp [bind, Except.bind] at h
  · cases hlocate : injector.backend.locate snapshot name.trim injector.config with
    | error fault => simp [hlocate, bind, Except.bind] at h
    | ok location =>
      refine ⟨location, rfl, ?_⟩
      simp only [hlocate] at h
      cases hmethod : location.method with
      | none =>
        simp only [hmethod, bind, Except.bind, editAt, Except.ok.injEq] at h
        exact Or.inl ⟨rfl, h.symm⟩
      | some method =>
        simp only [hmethod] at h
        split at h
        · simp [bind, Except.bind] at h
        · next hnew =>
          simp only [bind, Except.bind, editAt, hmethod] at h
          cases hmerge : merge snapshot method location.field injector.config with
          | error fault => simp [hmerge] at h
          | ok merged =>
            simp only [hmerge, Except.ok.injEq] at h
            exact Or.inr ⟨method, merged, rfl, by simpa using hnew, hmerge, h.symm⟩

/-- Something is done for a field exactly when there is an edit for it. -/
theorem isAvailable_plan_iff :
    (injector.plan text name).isAvailable = true ↔
      ∃ edit, injector.prepare (.ofText text) name = .ok edit := by
  rw [plan]
  cases hprepare : injector.prepare (.ofText text) name with
  | error reason => simp [Plan.isAvailable]
  | ok edit =>
    obtain ⟨location, -, ⟨-, rfl⟩ | ⟨method, merged, -, -, -, rfl⟩⟩ :=
      exists_of_prepare hprepare <;> simp [Plan.isAvailable]

theorem inject_of_prepare {edit : Edit} (h : injector.prepare (.ofText text) name = .ok edit) :
    injector.inject text name = ⟨edit.plan, edit.snapshot.toText, some edit.summary⟩ := by
  rw [inject, h]

section Located

variable (hbackend : injector.backend = .lines) (hname : isIdentifier name = true)

include hbackend hname

theorem analyze_eq {snapshot : Snapshot} :
    injector.analyze snapshot name =
      match locateInLines snapshot name injector.config with
      | .error fault => .error (.ofFault fault)
      | .ok location =>
        match location.method with
        | none => .ok location
        | some method =>
          if method.hasParameter (parameterName location.field.name)
              && hasAssignment snapshot method location.field.name then .error .alreadyInjected
          else .ok location := by
  have hne : ¬ name.trim.isEmpty = true := by
    rw [trim_identifier hname, List.isEmpty_iff]
    exact ne_nil_of_isIdentifier hname
  rw [analyze, if_neg hne, trim_identifier hname, hbackend]
  rfl

/-- Where the class has no injection method, one is created. -/
theorem inject_of_no_method {field : FieldReference} {span : ClassSpan}
    (hlocated : locateInLines (.ofText text) name injector.config = .ok ⟨field, span, none⟩) :
    injector.inject text name =
      ⟨.create, (createMethod (.ofText text) field span injector.config).toText,
        some ⟨field.name, field.declaredType, parameterName field.name, .created⟩⟩ := by
  have hanalyze : injector.analyze (.ofText text) name = .ok ⟨field, span, none⟩ := by
    rw [analyze_eq hbackend hname, hlocated]
  simp [inject, prepare, hanalyze, editAt, bind, Except.bind]

/-- Where the field is not injected yet, the method of its class is extended. -/
theorem inject_of_merge {field : FieldReference} {span : ClassSpan} {method : InjectionMethod}
    {merged : Merged}
    (hlocated : locateInLines (.ofText text) name injector.config = .ok ⟨field, span, some method⟩)
    (hnew : (method.hasParameter (parameterName field.name) &&
      hasAssignment (.ofText text) method field.name) = false)
    (hmerge : merge (.ofText text) method field injector.config = .ok merged) :
    injector.inject text name =
      ⟨.update, merged.snapshot.toText,
        some ⟨field.name, field.declaredType, parameterName field.name, .updated⟩⟩ := by
  have hanalyze : injector.analyze (.ofText text) name = .ok ⟨field, span, some method⟩ := by
    rw [analyze_eq hbackend hname, hlocated]
    simp [hnew]
  simp [inject, prepare, hanalyze, editAt, hmerge, bind, Except.bind]

/-- Where the field has its parameter and its assignment, nothing is done. -/
theorem inject_of_injected {field : FieldReference} {span : ClassSpan} {method : InjectionMethod}
    (hlocated : locateInLines (.ofText text) name injector.config = .ok ⟨field, span, some method⟩)
    (hparameter : method.hasParameter (parameterName field.name) = true)
    (hassigned : hasAssignment (.ofText text) method field.name = true) :
    injector.inject text name = ⟨.unavailable .alreadyInjected, text, none⟩ := by
  have hanalyze : injector.analyze (.ofText text) name = .error .alreadyInjected := by
    rw [analyze_eq hbackend hname, hlocated]
    simp [hparameter, hassigned]
  simp [inject, prepare, hanalyze, bind, Except.bind]

/-- A method is created only for a field that is located in a class without one. -/
theorem exists_of_inject_plan_create (hplan : (injector.inject text name).plan = .create) :
    ∃ field span,
      locateInLines (.ofText text) name injector.config = .ok ⟨field, span, none⟩ := by
  cases hlocated : locateInLines (.ofText text) name injector.config with
  | error fault =>
    simp [inject, prepare, analyze_eq hbackend hname, hlocated, bind, Except.bind] at hplan
  | ok location =>
    obtain ⟨field, span, _ | method⟩ := location
    · exact ⟨field, span, rfl⟩
    · by_cases hinjected : (method.hasParameter (parameterName field.name) &&
        hasAssignment (.ofText text) method field.name) = true
      · simp [inject, prepare, analyze_eq hbackend hname, hlocated, hinjected, bind,
          Except.bind] at hplan
      · cases hmerge : merge (.ofText text) method field injector.config <;>
          simp [inject, prepare, analyze_eq hbackend hname, hlocated, hinjected, editAt, hmerge,
            bind, Except.bind] at hplan

end Located

end Injector

end FieldInjection
