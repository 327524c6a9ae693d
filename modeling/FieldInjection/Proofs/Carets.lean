import FieldInjection.Proofs.DeclaredNames
import FieldInjection.Proofs.Locations
import FieldInjection.Proofs.Snapshots
import FieldInjection.Session

/-!
# The field at the caret

An editor tells the line that the caret is on, and what is handed on is the name of the first field
that this line declares.  The injection looks for the name again, from the first line of the
document on, so it serves the first line that declares the name, which may be a line above the caret
in another class.

A name of word characters is found on the line of the caret at the latest, because it is the first
one there and no declarator has to be passed over.  So the line of the caret is served whenever no
line above it declares the name, and otherwise it is in the edited class exactly as far as that
class reaches.

## Main Definitions

* `UndeclaredBefore`: no line above a given one declares a name.

## Main Statements

* `isSome_declaredTypeOn?_of_fieldAtLine?`: the line of the caret declares the field at the caret.
* `exists_location_of_fieldAtLine?`: which class is edited for a caret.
-/

namespace FieldInjection

/-- No line above the given one declares the name. -/
def UndeclaredBefore (snapshot : Snapshot) (name : Text) (line : Nat) : Prop :=
  ∀ other < line, ∀ text, snapshot.lines[other]? = some text → declaredTypeOn? name text.trim = none

/-- No line above a located field declares its name, and its own line does. -/
theorem undeclaredBefore_of_locateField {snapshot : Snapshot} {name : Text} {field : FieldReference}
    (h : locateField snapshot name = some field) :
    UndeclaredBefore snapshot name field.line ∧
      ∃ text, snapshot.lines[field.line]? = some text ∧
        declaredTypeOn? name text.trim = some field.declaredType := by
  refine ⟨fun other hother text htext => declaredTypeOn?_of_mem_take h le_rfl ?_, ?_⟩
  · rw [← List.getElem?_take_of_lt hother] at htext
    exact List.mem_of_getElem? htext
  · obtain ⟨-, front, text, after, hlines, -, htype, -, hline⟩ := locateField_eq_some_iff.mp h
    exact ⟨text, by simp [hlines, hline], htype⟩

section Caret

variable {text name : Text} {line : Nat} (h : fieldAtLine? text line = some name)

include h

/-- The field at a line is the first one declared on it. -/
theorem exists_line_of_fieldAtLine? :
    ∃ raw, (Snapshot.ofText text).lines[line]? = some (dropReturn raw) ∧
      (declaredFieldNames raw).head? = some name := by
  rw [fieldAtLine?, Option.bind_eq_some_iff] at h
  obtain ⟨raw, hraw, hname⟩ := h
  exact ⟨raw, by simp [Snapshot.ofText, hraw], hname⟩

theorem isIdentifier_of_fieldAtLine? : isIdentifier name = true := by
  obtain ⟨raw, -, hname⟩ := exists_line_of_fieldAtLine? h
  exact isIdentifier_of_mem_declaredFieldNames (List.mem_of_head? hname)

/-- The line of the caret declares the field at the caret. -/
theorem isSome_declaredTypeOn?_of_fieldAtLine? (hword : ∀ c ∈ name, isWord c = true) :
    ∃ found, (Snapshot.ofText text).lines[line]? = some found ∧
      (declaredTypeOn? name found.trim).isSome = true := by
  obtain ⟨raw, hline, hname⟩ := exists_line_of_fieldAtLine? h
  have hmem := List.mem_of_head? hname
  obtain ⟨-, declarators, behind, hlist, -, -⟩ :=
    exists_of_declaredFieldNames (List.ne_nil_of_mem hmem)
  refine ⟨_, hline, ?_⟩
  rw [trim_dropReturn]
  exact isSome_declaredTypeOn?_of_mem hmem hword hlist
    (reaches_of_head?_declaredFieldNames hname hlist)

/-- When something is done for the field at the caret, the edited class is the one around the first
line that declares its name.  If the name is made of word characters, this line is not below the
caret: it is the line of the caret where no line above declares the name, and in any case the class
reaches to the caret unless it ends above. -/
theorem exists_location_of_fieldAtLine? {injector : Injector} (hbackend : injector.backend = .lines)
    (havailable : injector.isAvailable text name = true) :
    ∃ location, locateInLines (.ofText text) name injector.config = .ok location ∧
      UndeclaredBefore (.ofText text) name location.field.line ∧
      location.span.contains location.field.line = true ∧
      ((∀ c ∈ name, isWord c = true) →
        location.field.line ≤ line ∧
        (location.span.contains line = true ↔ line < location.span.endLine) ∧
        (UndeclaredBefore (.ofText text) name line →
          location.field.line = line ∧ location.span.contains line = true)) := by
  have hidentifier := isIdentifier_of_fieldAtLine? h
  obtain ⟨edit, hedit⟩ := Injector.isAvailable_plan_iff.mp havailable
  obtain ⟨location, hlocate, -⟩ := Injector.exists_of_prepare hedit
  rw [hbackend, trim_identifier hidentifier] at hlocate
  have hfound : locateInLines (.ofText text) name injector.config = .ok location := hlocate
  obtain ⟨hfield, hspan, -⟩ := locateInLines_eq_ok_iff.mp hfound
  obtain ⟨hbefore, served, hserved, htype⟩ := undeclaredBefore_of_locateField hfield
  obtain ⟨-, -, -, hcontains, -⟩ := findClassSpan_eq_ok_iff.mp hspan
  refine ⟨location, hfound, hbefore, hcontains, fun hword => ?_⟩
  obtain ⟨found, hline, hsome⟩ := isSome_declaredTypeOn?_of_fieldAtLine? h hword
  rw [ClassSpan.contains_iff] at hcontains
  have hle : location.field.line ≤ line := by
    by_contra hlate
    rw [hbefore line (by omega) found hline] at hsome
    exact Bool.noConfusion hsome
  refine ⟨hle, ?_, fun hnone => ?_⟩
  · rw [ClassSpan.contains_iff]
    omega
  · have hsame : location.field.line = line := by
      by_contra hne
      rw [hnone location.field.line (by omega) served hserved] at htype
      simp at htype
    rw [← hsame, ClassSpan.contains_iff]
    exact ⟨rfl, hcontains⟩

end Caret

/-- Two classes with a field of the same name. -/
def twinText : Text :=
  "class A : MonoBehaviour\n\x7b\n    private IFoo _foo;\n\x7d\n".toList ++
    "class B : MonoBehaviour\n\x7b\n    private IBar _foo;\n\x7d".toList

/-- The first of two declarations of one name is served at its own line. -/
theorem twinText_upper_served :
    fieldAtLine? twinText 2 = some "_foo".toList ∧
      Injector.standard.isAvailable twinText "_foo".toList = true ∧
      ∃ location, locateInLines (.ofText twinText) "_foo".toList .standard = .ok location ∧
        location.field.line = 2 ∧ location.span.contains 2 = true := by
  have hcaret : fieldAtLine? twinText 2 = some "_foo".toList := by rfl
  have havailable : Injector.standard.isAvailable twinText "_foo".toList = true := by rfl
  obtain ⟨location, hlocate, -, -, hword⟩ := exists_location_of_fieldAtLine? hcaret rfl havailable
  have hbefore : UndeclaredBefore (.ofText twinText) "_foo".toList 2 := by
    intro other hother text htext
    obtain rfl | rfl : other = 0 ∨ other = 1 := by omega
    · cases htext
      rfl
    · cases htext
      rfl
  exact ⟨hcaret, havailable, location, hlocate, (hword (by decide)).2.2 hbefore⟩

/-- The line of the caret need not be served: here the class above is edited. -/
theorem twinText_lower_not_served :
    fieldAtLine? twinText 6 = some "_foo".toList ∧
      Injector.standard.isAvailable twinText "_foo".toList = true ∧
      ∃ location, locateInLines (.ofText twinText) "_foo".toList .standard = .ok location ∧
        location.span.contains 6 = false :=
  ⟨by rfl, by rfl, _, by rfl, by rfl⟩

end FieldInjection
