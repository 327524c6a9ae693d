import FieldInjection.Inspection
import FieldInjection.Proofs.DeclaredNames
import FieldInjection.Proofs.Locations
import FieldInjection.Proofs.NewMethods
import FieldInjection.Proofs.Plans
import FieldInjection.Proofs.SmallLetters

/-!
# Which fields have usable parameters

A field that is named like a dependency is received under the rest of its name, with a small first
letter.  The name of the field is an identifier, but the rest need not be one: a digit may stand
behind the low line and cannot begin a name, and the capital I with a dot above becomes two
characters, the second of which is a combining mark and no letter.  There is no third way, since
every other letter has a small letter.

## Main Definitions

* `HasUsableStem`: what the name of a field has to go on with.

## Main Statements

* `of_mem_inspect`: what is known of the fields that an inspection lists.
* `isIdentifier_parameterName_iff`: which parameters are identifiers, and where they are written.
-/

set_option maxRecDepth 4000

namespace FieldInjection

/-! ## The parameter of a field -/

/-- A field's name goes on, behind its customary beginning, with a letter other than the capital I
with a dot above, or with a low line. -/
def HasUsableStem (name : Text) : Prop :=
  ∃ first rest, fieldStem name = first :: rest ∧
    (isLetter first = true ∨ first = '_') ∧ first.toNat ≠ 0x130

/-- A name looks like that of a dependency if something follows the customary beginning. -/
theorem isDependencyName_iff {name : Text} :
    isDependencyName name = true ↔ ∃ first rest, fieldStem? name = some (first :: rest) := by
  rw [isDependencyName]
  cases fieldStem? name with
  | none => simp
  | some stem => cases stem <;> simp

/-- The parameter of a field that is named like a dependency is an identifier exactly when the rest
of the field's name can begin one. -/
theorem isIdentifier_parameterName {name : Text} (hname : isIdentifier name = true)
    (hdependency : isDependencyName name = true) :
    isIdentifier (parameterName name) = true ↔ HasUsableStem name := by
  obtain ⟨first, rest, hstem⟩ := isDependencyName_iff.mp hdependency
  have hsplit : fieldStem name = first :: rest := by rw [fieldStem, hstem, Option.getD_some]
  have hrest : ∀ c ∈ rest, isIdentifierChar c = true := fun c hc =>
    isIdentifierChar_of_mem hname (mem_of_mem_fieldStem (hsplit ▸ List.mem_cons_of_mem first hc))
  rw [parameterName, hsplit, lowercaseFirst, isIdentifier_lowercase_append_iff hrest]
  simp [HasUsableStem, hsplit]

/-! ## The fields of an inspection -/

/-- Dropping repetitions brings in no names. -/
theorem mem_of_mem_firstOccurrences {seen names : List Text} {name : Text}
    (h : name ∈ firstOccurrences seen names) : name ∈ names := by
  induction names generalizing seen with
  | nil => simp [firstOccurrences] at h
  | cons first names ih =>
    rw [firstOccurrences] at h
    split at h
    · exact List.mem_cons_of_mem first (ih h)
    · rcases List.mem_cons.mp h with rfl | h
      · exact List.mem_cons_self
      · exact List.mem_cons_of_mem first (ih h)

/-- A field that an inspection lists is an identifier, is named like a dependency and can be
injected. -/
theorem of_mem_inspect {injector : Injector} {text : Text} {finding : Finding}
    (h : finding ∈ injector.inspect text) :
    isIdentifier finding.field = true ∧ isDependencyName finding.field = true ∧
      ∃ edit, injector.prepare (.ofText text) finding.field = .ok edit := by
  simp only [Injector.inspect, List.mem_map, List.mem_filterMap, List.mem_filter] at h
  obtain ⟨field, ⟨name, ⟨hname, havailable⟩, hfield⟩, rfl⟩ := h
  obtain ⟨hmem, hdependency⟩ := List.mem_filter.mp (mem_of_mem_firstOccurrences hname)
  obtain ⟨line, -, hdeclared⟩ := List.mem_flatMap.mp hmem
  rw [name_of_locateField hfield]
  exact ⟨isIdentifier_of_mem_declaredFieldNames hdeclared, hdependency,
    Injector.isAvailable_plan_iff.mp havailable⟩

/-- A created method has its signature on a line of its own. -/
theorem exists_newSignature_mem_createMethod (snapshot : Snapshot) (field : FieldReference)
    (span : ClassSpan) (config : Configuration) :
    ∃ indent, newSignature field indent config ∈
      (createMethod snapshot field span config).lines := by
  refine ⟨memberIndent snapshot (some field.line) config.indentUnit, ?_⟩
  rw [createMethod, Snapshot.insertLines, methodLines_eq]
  simp

/-- The parameter of a field that is named like a dependency is an identifier exactly when the rest
of the field's name begins with a letter other than the capital I with a dot above, or with a low
line.  All fields that an inspection lists are named so and can be injected; they are received under
this parameter, and a method that is created for one of them declares it. -/
theorem isIdentifier_parameterName_iff (injector : Injector) (text : Text) :
    (∀ name, isIdentifier name = true → isDependencyName name = true →
      (isIdentifier (parameterName name) = true ↔ HasUsableStem name)) ∧
    ∀ finding ∈ injector.inspect text,
      isIdentifier finding.field = true ∧ isDependencyName finding.field = true ∧
        ∃ edit, injector.prepare (.ofText text) finding.field = .ok edit ∧
          edit.summary.parameter = parameterName finding.field ∧
          (edit.plan = .create → ∃ field indent, field.name = finding.field ∧
            newSignature field indent injector.config ∈ edit.snapshot.lines) := by
  refine ⟨fun name => isIdentifier_parameterName, fun finding hfinding => ?_⟩
  obtain ⟨hname, hdependency, edit, hprepare⟩ := of_mem_inspect hfinding
  refine ⟨hname, hdependency, edit, hprepare, ?_⟩
  obtain ⟨location, hlocated, ⟨-, rfl⟩ | ⟨method, merged, -, -, -, rfl⟩⟩ :=
    Injector.exists_of_prepare hprepare
  all_goals
    have hfield := (field_of_locate hlocated).1
    rw [trim_identifier hname] at hfield
  · obtain ⟨indent, hsignature⟩ :=
      exists_newSignature_mem_createMethod (.ofText text) location.field location.span
        injector.config
    exact ⟨congrArg parameterName hfield,
      fun _ => ⟨location.field, indent, hfield, hsignature⟩⟩
  · exact ⟨congrArg parameterName hfield, fun hplan => Plan.noConfusion hplan⟩

/-- A class with a field behind whose low line a capital letter stands that is no ASCII letter. -/
def umlautDocument : Text :=
  ['\n'].intercalate ["class A : MonoBehaviour \x7b".toList,
    "private IFoo _Über;".toList, "\x7d".toList]

/-- A capital letter outside of ASCII is lowered in the parameter as well. -/
theorem umlautDocument_parameter :
    isIdentifier "_Über".toList = true ∧ isDependencyName "_Über".toList = true ∧
      isIdentifier (parameterName "_Über".toList) = true ∧
      ⟨"_Über".toList, "IFoo".toList, 1⟩ ∈ Injector.standard.inspect umlautDocument ∧
      ∃ edit, Injector.standard.prepare (.ofText umlautDocument) "_Über".toList = .ok edit ∧
        edit.summary.parameter = "über".toList := by
  have hname : isIdentifier "_Über".toList = true := by decide +kernel
  have hdependency : isDependencyName "_Über".toList = true := by decide
  have hfinding : ⟨"_Über".toList, "IFoo".toList, 1⟩ ∈
      Injector.standard.inspect umlautDocument := by
    decide +kernel
  obtain ⟨hparameter, hfindings⟩ := isIdentifier_parameterName_iff .standard umlautDocument
  obtain ⟨-, -, edit, hprepare, hsummary, -⟩ := hfindings _ hfinding
  refine ⟨hname, hdependency, (hparameter _ hname hdependency).mpr ?_, hfinding, edit, hprepare, ?_⟩
  · exact ⟨'Ü', "ber".toList, by decide, by decide +kernel, by decide⟩
  · rw [hsummary]
    decide +kernel

/-- A class with a field behind whose low line a digit stands. -/
def digitDocument : Text :=
  ['\n'].intercalate ["class A : MonoBehaviour \x7b".toList,
    "private IFoo _1;".toList, "\x7d".toList]

/-- The document with a method that takes the digit for the name of a parameter. -/
def injectedDigitDocument : Text :=
  ['\n'].intercalate ["class A : MonoBehaviour \x7b".toList, "private IFoo _1;".toList, [],
    "[Inject]".toList, "private void InjectDependencies(IFoo 1)".toList, "\x7b".toList,
    "    _1 = 1;".toList, "\x7d".toList, "\x7d".toList]

/-- The parameter of a field that an inspection lists need not be an identifier: here it is a
number, the method that is created declares and assigns that number. -/
theorem digitDocument_parameter_not_identifier :
    isIdentifier "_1".toList = true ∧ isDependencyName "_1".toList = true ∧
      isIdentifier (parameterName "_1".toList) = false ∧
      Injector.standard.inspect digitDocument = [⟨"_1".toList, "IFoo".toList, 1⟩] ∧
      (Injector.standard.inject digitDocument "_1".toList).text = injectedDigitDocument :=
  ⟨by decide, by decide, by decide, by decide +kernel, by decide +kernel⟩

end FieldInjection
