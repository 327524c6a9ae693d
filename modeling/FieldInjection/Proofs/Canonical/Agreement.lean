import FieldInjection.Proofs.Canonical.Parses
import FieldInjection.Proofs.Plans

/-!
# Backends agree on canonical classes

The two backends locate a field of a canonical class in the same place, one by its lines and the
other by its tree.  An injector reads nothing else from its backend, so the injectors with the two
backends plan and do the same.

## Main Statements

* `Injector.inject_eq_of_locate_eq`: injectors do the same where they locate a field alike.
* `locateInTree_markedSnapshot`: where a field of a canonical class is located in its tree.
* `isCSharpType_of_mem_customaryTypes`: customary types are well-formed.
* `inject_backends_agree`: both backends do the same for each field of a canonical class.
-/

namespace FieldInjection

/-! ## What an injector reads from its backend -/

namespace Injector

variable {config : Configuration} {first second : Backend} {text name : Text}
    (h : first.locate (.ofText text) name.trim config =
      second.locate (.ofText text) name.trim config)

include h

/-- The location of the field decides about the edit. -/
theorem prepare_eq_of_locate_eq :
    (⟨config, first⟩ : Injector).prepare (.ofText text) name =
      (⟨config, second⟩ : Injector).prepare (.ofText text) name := by
  have hanalyze : (⟨config, first⟩ : Injector).analyze (.ofText text) name =
      (⟨config, second⟩ : Injector).analyze (.ofText text) name := by
    rw [analyze, analyze, h]
  rw [prepare, prepare, hanalyze]
  rfl

/-- Injectors do the same where they locate a field alike. -/
theorem inject_eq_of_locate_eq :
    (⟨config, first⟩ : Injector).inject text name =
      (⟨config, second⟩ : Injector).inject text name := by
  rw [inject, inject, prepare_eq_of_locate_eq h]

end Injector

/-! ## Canonical classes -/

section Class

variable {layout : Layout} {place : MarkerPlace} {dependencies : List Dependency}

/-- A parser that reads the class leads to each field of it, with the method if its marker
counts. -/
theorem locateInTree_markedSnapshot (hdistinct : (dependencies.map (parameterName ·.name)).Nodup)
    {parser : CSharp.SyntaxParser} (hparser : ReadsClass layout place dependencies parser)
    {field : FieldReference} (hfield : field ∈ classFields layout dependencies) :
    CSharp.locateInTree parser (markedSnapshot layout place dependencies) field.name .standard =
      .ok ⟨field, markedSpan layout place dependencies,
        markedMethod? layout place dependencies⟩ := by
  obtain ⟨root, hparse, htree⟩ := hparser
  have hsource : parser (markedSnapshot layout place dependencies).toText = .ok ⟨false, root⟩ :=
    hparse
  rw [CSharp.locateInTree, hsource]
  exact locateBelow_of_isClassTree hdistinct htree hfield

end Class

/-- The types that dependencies customarily have. -/
def customaryTypes : List Text :=
  ["IFooService".toList, "Camera".toList, "int".toList, "float[]".toList, "List<IEnemy>".toList,
    "Dictionary<string, int>".toList]

theorem isCSharpType_of_mem_customaryTypes {type : Text} (h : type ∈ customaryTypes) :
    CSharp.IsCSharpType type := by
  have hplain : ∀ name ∈ ["IFooService".toList, "Camera".toList, "IEnemy".toList, "List".toList,
      "Dictionary".toList], CSharp.isPlainName name = true := fun name hname =>
    CSharp.isPlainName_of_capital (by revert name; decide) (by revert name; decide)
  have hnamed : ∀ name ∈ ["IFooService".toList, "Camera".toList, "IEnemy".toList],
      CSharp.IsCSharpType name := fun name hname =>
    CSharp.isCSharpType_of_isPlainName (hplain name (List.mem_append_left ["List".toList, _] hname))
  have hword : ∀ name ∈ ["int".toList, "string".toList], CSharp.IsCSharpType name :=
    fun name hname =>
    CSharp.isCSharpType_of_predefined (by revert name; decide)
  simp only [customaryTypes, List.mem_cons, List.not_mem_nil, or_false] at h
  rcases h with rfl | rfl | rfl | rfl | rfl | rfl
  · exact hnamed _ (by decide)
  · exact hnamed _ (by decide)
  · exact hword _ (by decide)
  · exact @CSharp.IsCSharpType.predefined "float".toList [0] (by decide)
  · exact @CSharp.IsCSharpType.named "List".toList [] ["IEnemy".toList] [] (hplain _ (by decide))
      (by decide) (List.forall_mem_singleton.mpr (hnamed _ (by decide)))
  · exact @CSharp.IsCSharpType.named "Dictionary".toList [' '] ["string".toList, "int".toList] []
      (hplain _ (by decide)) (by decide) fun name hname => hword name (by revert name; decide)

/-- If a parser reads a canonical class as the tree of such a class, both backends locate each of
its fields in the same place, and give the same plan, the same text and the same summary for it,
wherever the marker of the injection method stands. -/
theorem inject_backends_agree (layout : Layout) (place : MarkerPlace)
    {dependencies : List Dependency} (hdistinct : (dependencies.map (parameterName ·.name)).Nodup)
    {parser : CSharp.SyntaxParser} (hparser : ReadsClass layout place dependencies parser)
    {dependency : Dependency} (hmem : dependency ∈ dependencies) :
    (∃ location : Location, location.field.name = dependency.name ∧
      location.field.declaredType = dependency.type ∧
      ∀ backend ∈ [Backend.lines, .parsed parser],
        backend.locate (.ofText (markedSource layout place dependencies))
          dependency.name .standard =
          .ok location) ∧
      (⟨.standard, .lines⟩ : Injector).plan
        (markedSource layout place dependencies) dependency.name =
        (⟨.standard, .parsed parser⟩ : Injector).plan (markedSource layout place dependencies)
          dependency.name ∧
      (⟨.standard, .lines⟩ : Injector).inject (markedSource layout place dependencies)
          dependency.name =
        (⟨.standard, .parsed parser⟩ : Injector).inject (markedSource layout place dependencies)
          dependency.name := by
  obtain ⟨field, hfield, hname, htype⟩ := @exists_field layout _ _ hmem
  have hlines : Backend.lines.locate (.ofText (markedSource layout place dependencies))
      dependency.name .standard = .ok ⟨field, markedSpan layout place dependencies,
        markedMethod? layout place dependencies⟩ := by
    rw [ofText_markedSource, ← hname]
    exact locateInLines_markedSnapshot hdistinct hfield
  have hparsed : (Backend.parsed parser).locate (.ofText (markedSource layout place dependencies))
      dependency.name .standard = .ok ⟨field, markedSpan layout place dependencies,
        markedMethod? layout place dependencies⟩ := by
    rw [ofText_markedSource, ← hname]
    exact locateInTree_markedSnapshot hdistinct hparser hfield
  -- an injector looks for the trimmed name
  have htrim : dependency.name.trim = dependency.name :=
    trim_identifier (isIdentifier_of_isAsciiName dependency.isAsciiName_name)
  have hinject := @Injector.inject_eq_of_locate_eq .standard .lines (.parsed parser)
    (markedSource layout place dependencies) dependency.name (by rw [htrim, hlines, hparsed])
  refine ⟨⟨_, hname, htype, List.forall_mem_cons.mpr
    ⟨hlines, List.forall_mem_singleton.mpr hparsed⟩⟩, ?_, hinject⟩
  rw [Injector.plan_eq_inject_plan, Injector.plan_eq_inject_plan, hinject]

theorem sampleDependencies_agree :
    (sampleDependencies.map (parameterName ·.name)).Nodup ∧
      ReadsClass ⟨true, true, true⟩ .stacked sampleDependencies CSharp.parse ∧
      mapDependency ∈ sampleDependencies ∧
      (⟨.standard, .tree⟩ : Injector).plan
        (markedSource ⟨true, true, true⟩ .stacked sampleDependencies)
        mapDependency.name = .create := by
  have hdistinct : (sampleDependencies.map (parameterName ·.name)).Nodup := by decide +kernel
  have hparser : ReadsClass ⟨true, true, true⟩ .stacked sampleDependencies CSharp.parse := by
    have hcustomary : ∀ dependency ∈ sampleDependencies, dependency.type ∈ customaryTypes := by
      decide
    exact readsClass_parse fun dependency hmem =>
      isCSharpType_of_mem_customaryTypes (hcustomary dependency hmem)
  have hmem : mapDependency ∈ sampleDependencies := by simp [sampleDependencies]
  have hplan : (⟨.standard, .lines⟩ : Injector).plan
      (markedSource ⟨true, true, true⟩ .stacked sampleDependencies) mapDependency.name =
      .create := by
    decide +kernel
  exact ⟨hdistinct, hparser, hmem,
    (inject_backends_agree ⟨true, true, true⟩ .stacked hdistinct hparser hmem).2.1 ▸ hplan⟩

end FieldInjection
