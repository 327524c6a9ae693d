import FieldInjection.Proofs.Canonical.MethodParts
import Mathlib.Tactic.Choose

/-!
# Injection sessions on canonical classes

A canonical class hosts its dependencies.  Injecting those that are not injected from the beginning,
one after another and in any order, therefore goes through: the first injection creates the method
if there is none, all others extend it, and what is injected stays injected.

## Main Definitions

* `classFields`: the fields of a canonical class.

## Main Statements

* `hosts_classSnapshot`: a canonical class hosts its dependencies.
* `session_classSource`: all sessions on canonical classes.
-/

namespace FieldInjection

/-- The document with a canonical class. -/
def classSnapshot (layout : Layout) (dependencies : List Dependency) : Snapshot :=
  Snapshot.ofLines (layout.classLines dependencies)

/-- The fields of a canonical class. -/
def classFields (layout : Layout) (dependencies : List Dependency) : List FieldReference :=
  declaredFields layout.classStart.length (layout.groups dependencies)

/-- The body of a canonical class. -/
def classSpan (layout : Layout) (dependencies : List Dependency) : ClassSpan :=
  ⟨layout.classStart.length - 1, layout.classStart.length + (layout.groups dependencies).length +
    (layout.methodPart (injectedFirst dependencies) ++ layout.updatePart).length⟩

/-- The injection method of a canonical class, if it has one. -/
def classMethod? (layout : Layout) (dependencies : List Dependency) : Option InjectionMethod :=
  if injectedFirst dependencies = [] then none
  else some (classMethod layout (layout.groups dependencies) (injectedFirst dependencies))

section Hosts

variable {layout : Layout} {dependencies : List Dependency}

theorem lines_classSnapshot : (classSnapshot layout dependencies).lines =
    layout.classStart ++ ((layout.groups dependencies).map fieldLine ++
      (layout.methodPart (injectedFirst dependencies) ++ layout.updatePart ++
        [closeBrace] :: [[]])) :=
  rfl

/-- The fields of a class are its dependencies, perhaps in another order. -/
theorem perm_classFields (layout : Layout) (dependencies : List Dependency) :
    ((classFields layout dependencies).map fun field => (field.declaredType, field.name)).Perm
      (dependencies.map fun dependency => (dependency.type, dependency.name)) := by
  rw [classFields, map_declaredFields]
  exact perm_entries_groups layout dependencies

/-- Each field is declared for a dependency. -/
theorem exists_dependency {field : FieldReference}
    (hfield : field ∈ classFields layout dependencies) :
    ∃ dependency ∈ dependencies, field.name = dependency.name ∧ field.declaredType =
      dependency.type := by
  have hmem := (perm_classFields layout dependencies).mem_iff.mp (List.mem_map_of_mem hfield)
  obtain ⟨dependency, hdependency, heq⟩ := List.mem_map.mp hmem
  obtain ⟨htype, hname⟩ := Prod.mk.inj heq
  exact ⟨dependency, hdependency, hname.symm, htype.symm⟩

/-- Each dependency has a field. -/
theorem exists_field {dependency : Dependency} (hmem : dependency ∈ dependencies) :
    ∃ field ∈ classFields layout dependencies,
      field.name = dependency.name ∧ field.declaredType = dependency.type := by
  have hpair := (perm_classFields layout dependencies).mem_iff.mpr (List.mem_map_of_mem hmem)
  obtain ⟨field, hfield, heq⟩ := List.mem_map.mp hpair
  obtain ⟨htype, hname⟩ := Prod.mk.inj heq
  exact ⟨field, hfield, hname, htype⟩

/-- The fields of a class have different parameters. -/
theorem nodup_classFields (hdistinct : (dependencies.map (parameterName ·.name)).Nodup) :
    ((classFields layout dependencies).map (parameterName ·.name)).Nodup := by
  have hperm := (perm_classFields layout dependencies).map fun entry => parameterName entry.2
  rw [List.map_map, List.map_map] at hperm
  exact hperm.nodup_iff.mpr hdistinct

theorem nodup_names_groups (hdistinct : (dependencies.map (parameterName ·.name)).Nodup) :
    ((layout.groups dependencies).flatMap (·.2)).Nodup := by
  have hparameters : (((classFields layout dependencies).map (·.name)).map
      parameterName).Nodup := by
    rw [List.map_map]
    exact nodup_classFields hdistinct
  rw [classFields, map_name_declaredFields] at hparameters
  exact hparameters.of_map

/-- What the lines of a canonical class are. -/
theorem of_mem_lines_classSnapshot {line : Text}
    (h : line ∈ (classSnapshot layout dependencies).lines) :
    IsQuietLine line ∨ ∃ group ∈ layout.groups dependencies, line = fieldLine group := by
  have hclose : ∀ text ∈ [[closeBrace], []], IsQuietLine text := by decide
  rw [lines_classSnapshot] at h
  simp only [List.mem_append] at h
  rcases h with h | h | (h | h) | h
  · exact Or.inl (isQuietLine_classStart h)
  · obtain ⟨group, hgroup, rfl⟩ := List.mem_map.mp h
    exact Or.inr ⟨group, hgroup, rfl⟩
  · exact Or.inl (isQuietLine_methodPart h)
  · exact Or.inl (of_mem_updatePart h).1
  · exact Or.inl (hclose line h)

/-- The lines of a canonical class declare its fields. -/
theorem flatMap_declaredFieldNames_classSnapshot :
    (classSnapshot layout dependencies).lines.flatMap declaredFieldNames =
      (classFields layout dependencies).map (·.name) := by
  have hquiet : ∀ lines : List Text, (∀ line ∈ lines, IsQuietLine line) →
      lines.flatMap declaredFieldNames = [] := fun lines hlines =>
    List.flatMap_eq_nil_iff.mpr fun line hline => (hlines line hline).2
  have hfields : ((layout.groups dependencies).map fieldLine).flatMap declaredFieldNames =
      (layout.groups dependencies).flatMap (·.2) := by
    rw [List.flatMap_map]
    exact List.flatMap_congr fun group hgroup =>
      declaredFieldNames_fieldLine (isGroup_of_mem_groups hgroup)
  rw [lines_classSnapshot, List.flatMap_append, List.flatMap_append, List.flatMap_append,
    List.flatMap_append, hfields, hquiet _ fun _ => isQuietLine_classStart,
    hquiet _ fun _ => isQuietLine_methodPart, hquiet _ fun _ hline => (of_mem_updatePart hline).1,
    hquiet _ (by decide), classFields, map_name_declaredFields]
  simp

/-- On the lines of a class the injection method is the one that was written, if any. -/
theorem findInjectionMethodIn_classSnapshot :
    findInjectionMethodIn (classSnapshot layout dependencies)
      (classSpan layout dependencies) .standard =
      .ok (classMethod? layout dependencies) := by
  obtain ⟨front, opening, hstart, -⟩ := classStart_spec layout
  have hline : (classSpan layout dependencies).startLine + 1 = layout.classStart.length := by
    simp [classSpan, hstart]
  rw [findInjectionMethodIn, hline, classMethod?]
  split
  · next hnil => exact findInjectionMethodBetween_classLines_nil lines_classSnapshot hnil
  · next hne => exact findInjectionMethodBetween_classLines lines_classSnapshot hne

/-- Each field is located in the class, with its method. -/
theorem locateInLines_classSnapshot (hdistinct : (dependencies.map (parameterName ·.name)).Nodup)
    {field : FieldReference} (hfield : field ∈ classFields layout dependencies) :
    locateInLines (classSnapshot layout dependencies) field.name .standard =
      .ok ⟨field, classSpan layout dependencies, classMethod? layout dependencies⟩ := by
  have hgroups : ∀ group ∈ layout.groups dependencies, IsGroup group :=
    fun _ => isGroup_of_mem_groups
  obtain ⟨before, group, after, hsplit, -, -, hline⟩ := exists_of_mem_declaredFields hfield
  refine locateInLines_eq_ok_iff.mpr ⟨?_, ?_, findInjectionMethodIn_classSnapshot⟩
  · exact locateField_classLines hgroups lines_classSnapshot (nodup_names_groups hdistinct) hfield
  · simp only [hline]
    refine findClassSpan_classLines hgroups lines_classSnapshot
      ((isClosed_methodPart layout).append (isClosed_updatePart layout)) ?_
    rw [hsplit, List.length_append, List.length_cons]
    omega

/-- The written method injects its dependencies. -/
theorem injects_classMethod (hdistinct : (dependencies.map (parameterName ·.name)).Nodup)
    (hne : injectedFirst dependencies ≠ []) {reference : Dependency → FieldReference}
    (hreference : ∀ dependency ∈ dependencies,
      reference dependency ∈ classFields layout dependencies ∧
        (reference dependency).name = dependency.name ∧
        (reference dependency).declaredType = dependency.type) :
    Injects (classSnapshot layout dependencies) (classFields layout dependencies)
      ((injectedFirst dependencies).map reference) (classSpan layout dependencies)
      (classMethod layout (layout.groups dependencies) (injectedFirst dependencies)) := by
  have hinjected : ∀ dependency ∈ injectedFirst dependencies, dependency ∈ dependencies := fun _ =>
    List.mem_of_mem_filter
  refine ⟨by simpa using hne, ⟨indentStep ++ "private void InjectDependencies".toList,
    layout.braceBehind, ?_, ?_⟩, ?_, bodyEndLine_le hne, ?_⟩
  · rw [getElem?_signatureLine lines_classSnapshot hne, methodSignature_eq fun dependency hmem =>
      (hreference dependency (hinjected dependency hmem)).2]
    simp only [signatureWith, List.append_assoc, List.cons_append, List.nil_append]
  · rcases layout with ⟨_ | _, _ | _, _ | _⟩ <;> decide
  · intro field hfield
    obtain ⟨before, group, after, hsplit, -, -, hline⟩ := exists_of_mem_declaredFields hfield
    rw [hline, classMethod, hsplit, List.length_append, List.length_cons]
    simp only
    omega
  · intro field hfield
    obtain ⟨dependency, -, hname, htype⟩ := exists_dependency hfield
    have hnodup : ((injectedFirst dependencies).map (·.name)).Nodup := by
      have hparameters : ((dependencies.map (·.name)).map parameterName).Nodup := by
        rw [List.map_map]
        exact hdistinct
      exact hparameters.of_map.sublist (List.filter_sublist.map _)
    rw [assignmentCount_classMethod lines_classSnapshot hne hnodup
      (dependency.isRegular hname htype).name]
    refine if_congr ?_ rfl rfl
    rw [List.mem_map, List.mem_map]
    refine exists_congr fun other => and_congr_right fun hother => ?_
    obtain ⟨hmem, hsame, -⟩ := hreference other (hinjected other hother)
    constructor
    · intro heq
      exact List.inj_on_of_nodup_map (nodup_classFields hdistinct) hmem hfield (by rw [hsame, heq])
    · rintro rfl
      exact hsame.symm

/-- A canonical class hosts its dependencies. -/
theorem hosts_classSnapshot (hdistinct : (dependencies.map (parameterName ·.name)).Nodup)
    {reference : Dependency → FieldReference}
    (hreference : ∀ dependency ∈ dependencies,
      reference dependency ∈ classFields layout dependencies ∧
        (reference dependency).name = dependency.name ∧
        (reference dependency).declaredType = dependency.type) :
    Hosts (classSnapshot layout dependencies) (classFields layout dependencies)
      ((injectedFirst dependencies).map reference) (classSpan layout dependencies)
      (classMethod? layout dependencies) where
  clean := by
    intro line hline
    rcases of_mem_lines_classSnapshot hline with hquiet | ⟨group, hgroup, rfl⟩
    · exact hquiet.1
    · exact isCleanLine_fieldLine (isGroup_of_mem_groups hgroup)
  regular := by
    intro field hfield
    obtain ⟨dependency, -, hname, htype⟩ := exists_dependency hfield
    exact dependency.isRegular hname htype
  distinct := nodup_classFields hdistinct
  mem_of_mem_injected := by
    intro field hfield
    obtain ⟨dependency, hmem, rfl⟩ := List.mem_map.mp hfield
    exact (hreference dependency (List.mem_of_mem_filter hmem)).1
  located := fun field hfield => locateInLines_classSnapshot hdistinct hfield
  names := flatMap_declaredFieldNames_classSnapshot
  injects := by
    intro method hmethod
    rw [classMethod?] at hmethod
    split at hmethod
    · simp at hmethod
    · next hne =>
      obtain rfl := Option.some.inj hmethod
      exact injects_classMethod hdistinct hne hreference
  injected_eq_nil := by
    intro hnone
    rw [classMethod?] at hnone
    split at hnone
    · next hnil => rw [hnil, List.map_nil]
    · simp at hnone

end Hosts

/-! ## Sessions -/

/-- The text of a canonical class after some of its dependencies were injected one after another. -/
def sessionText (layout : Layout) (dependencies done : List Dependency) : Text :=
  Injector.standard.textAfter (classSource layout dependencies) (done.map (·.name))

/-- Each dependency has a field of the class. -/
theorem exists_reference (layout : Layout) (dependencies : List Dependency) :
    ∃ reference : Dependency → FieldReference, ∀ dependency ∈ dependencies,
      reference dependency ∈ classFields layout dependencies ∧
        (reference dependency).name = dependency.name ∧
        (reference dependency).declaredType = dependency.type := by
  have : Nonempty FieldReference := ⟨⟨[], [], 0⟩⟩
  have hfields : ∀ dependency ∈ dependencies, ∃ field, field ∈ classFields layout dependencies ∧
      field.name = dependency.name ∧ field.declaredType = dependency.type := fun _ => exists_field
  choose! reference hreference using hfields
  exact ⟨reference, hreference⟩

section Session

variable {layout : Layout} {dependencies done : List Dependency}
    (hdistinct : (dependencies.map (parameterName ·.name)).Nodup)
    {reference : Dependency → FieldReference}
    (hreference : ∀ dependency ∈ dependencies,
      reference dependency ∈ classFields layout dependencies ∧
        (reference dependency).name = dependency.name ∧
        (reference dependency).declaredType = dependency.type)

include hdistinct hreference

/-- Different dependencies have different fields. -/
theorem reference_injOn {first second : Dependency} (hfirst : first ∈ dependencies)
    (hsecond : second ∈ dependencies) (heq : reference first = reference second) :
    first = second := by
  refine List.inj_on_of_nodup_map hdistinct hfirst hsecond ?_
  rw [← (hreference first hfirst).2.1, ← (hreference second hsecond).2.1, heq]

/-- A dependency was injected exactly if its field was. -/
theorem reference_mem_map_iff (hdone : ∀ dependency ∈ done, dependency ∈ dependencies)
    {dependency : Dependency} (hmem : dependency ∈ dependencies) :
    reference dependency ∈ done.map reference ↔ dependency ∈ done := by
  rw [List.mem_map]
  constructor
  · rintro ⟨other, hother, heq⟩
    rwa [← reference_injOn hdistinct hreference (hdone other hother) hmem heq]
  · exact fun hin => ⟨dependency, hin, rfl⟩

/-- Every field is the one for a dependency. -/
theorem exists_eq_reference {field : FieldReference}
    (hfield : field ∈ classFields layout dependencies) :
    ∃ dependency ∈ dependencies, field = reference dependency := by
  obtain ⟨dependency, hmem, hname, -⟩ := exists_dependency hfield
  obtain ⟨hin, hsame, -⟩ := hreference dependency hmem
  refine ⟨dependency, hmem, List.inj_on_of_nodup_map (nodup_classFields hdistinct) hfield hin ?_⟩
  rw [hname, hsame]

/-- After some injections, the document hosts the dependencies, and those are injected. -/
theorem exists_hosts_sessionText (hdone : ∀ dependency ∈ done, dependency ∈ dependencies)
    (hnodup : (injectedFirst dependencies ++ done).Nodup) :
    ∃ snapshot span method, sessionText layout dependencies done = snapshot.toText ∧
      Hosts snapshot (classFields layout dependencies)
        ((injectedFirst dependencies ++ done).map reference) span method := by
  have hall : ∀ dependency ∈ injectedFirst dependencies ++ done, dependency ∈ dependencies := by
    intro dependency hmem
    exact (List.mem_append.mp hmem).elim List.mem_of_mem_filter (hdone dependency)
  have hnames : (done.map reference).map (·.name) = done.map (·.name) := by
    rw [List.map_map]
    exact List.map_congr_left fun dependency hmem =>
      (hreference dependency (hdone dependency hmem)).2.1
  have hreferences : ((injectedFirst dependencies).map reference ++ done.map reference).Nodup := by
    rw [← List.map_append]
    exact hnodup.map_on fun first hfirst second hsecond heq =>
      reference_injOn hdistinct hreference (hall first hfirst) (hall second hsecond) heq
  obtain ⟨snapshot, span, method, htext, hhosts⟩ :=
    (hosts_classSnapshot hdistinct hreference).exists_textAfter
      (by simpa using fun dependency hmem => (hreference dependency (hdone dependency hmem)).1)
      hreferences
  rw [hnames] at htext
  exact ⟨snapshot, span, method, htext, by rwa [List.map_append]⟩

end Session

section Steps

variable (layout : Layout) {dependencies done : List Dependency} (hne : dependencies ≠ [])
    (hdistinct : (dependencies.map (parameterName ·.name)).Nodup)
    (hdone : ∀ dependency ∈ done, dependency ∈ dependencies)
    (hnodup : (injectedFirst dependencies ++ done).Nodup)

include hdone

/-- Nothing but dependencies of the class is injected in a session. -/
theorem mem_of_mem_session {dependency : Dependency}
    (hmem : dependency ∈ injectedFirst dependencies ++ done) : dependency ∈ dependencies :=
  (List.mem_append.mp hmem).elim List.mem_of_mem_filter (hdone dependency)

include hdistinct hnodup

/-- A dependency that is not injected yet is injected. -/
theorem plan_inject_sessionText {dependency : Dependency} (hmem : dependency ∈ dependencies)
    (hnew : dependency ∉ injectedFirst dependencies ++ done) :
    (Injector.standard.inject (sessionText layout dependencies done) dependency.name).plan =
      if injectedFirst dependencies ++ done = [] then .create else .update := by
  obtain ⟨reference, hreference⟩ := exists_reference layout dependencies
  obtain ⟨snapshot, span, method, htext, hhosts⟩ :=
    exists_hosts_sessionText hdistinct hreference hdone hnodup
  obtain ⟨hfield, hname, -⟩ := hreference dependency hmem
  have hfresh : reference dependency ∉ (injectedFirst dependencies ++ done).map reference := by
    rwa [reference_mem_map_iff hdistinct hreference
      (fun _ => mem_of_mem_session hdone) hmem]
  obtain ⟨_, _, _, hinject, -⟩ := hhosts.inject_step hfield hfresh
  rw [htext, ← hname, hinject]
  simp only [List.map_eq_nil_iff]

/-- A dependency that was injected is injected. -/
theorem plan_sessionText {dependency : Dependency}
    (hmem : dependency ∈ injectedFirst dependencies ++ done) :
    Injector.standard.plan (sessionText layout dependencies done) dependency.name =
      .unavailable .alreadyInjected := by
  obtain ⟨reference, hreference⟩ := exists_reference layout dependencies
  obtain ⟨snapshot, span, method, htext, hhosts⟩ :=
    exists_hosts_sessionText hdistinct hreference hdone hnodup
  obtain ⟨-, hname, -⟩ :=
    hreference dependency (mem_of_mem_session hdone hmem)
  rw [Injector.plan_eq_inject_plan, htext, ← hname,
    hhosts.inject_of_mem_injected (List.mem_map_of_mem hmem)]

include hne

/-- An inspection lists the dependencies that are not injected yet. -/
theorem mem_inspect_sessionText_iff {name : Text} :
    name ∈ (Injector.standard.inspect (sessionText layout dependencies done)).map (·.field) ↔
      ∃ dependency ∈ dependencies, dependency ∉ injectedFirst dependencies ++ done ∧
        dependency.name = name := by
  obtain ⟨reference, hreference⟩ := exists_reference layout dependencies
  obtain ⟨snapshot, span, method, htext, hhosts⟩ :=
    exists_hosts_sessionText hdistinct hreference hdone hnodup
  have hfresh : ∀ dependency ∈ dependencies,
      (reference dependency ∉ (injectedFirst dependencies ++ done).map reference ↔
        dependency ∉ injectedFirst dependencies ++ done) := fun dependency hmem =>
    not_congr (reference_mem_map_iff hdistinct hreference (fun _ => mem_of_mem_session hdone) hmem)
  obtain ⟨first, hfirst⟩ := List.exists_mem_of_ne_nil dependencies hne
  rw [htext, hhosts.inspect_eq (List.ne_nil_of_mem (hreference first hfirst).1), List.map_map,
    List.mem_map]
  constructor
  · rintro ⟨field, hfield, rfl⟩
    obtain ⟨hin, hnew⟩ := List.mem_filter.mp hfield
    obtain ⟨dependency, hmem, rfl⟩ := exists_eq_reference hdistinct hreference hin
    exact ⟨dependency, hmem, (hfresh dependency hmem).mp (by simpa using hnew),
      (hreference dependency hmem).2.1.symm⟩
  · rintro ⟨dependency, hmem, hnew, rfl⟩
    obtain ⟨hin, hname, -⟩ := hreference dependency hmem
    exact ⟨reference dependency, List.mem_filter.mpr
      ⟨hin, by simpa using (hfresh dependency hmem).mpr hnew⟩, hname⟩

/-- When all dependencies are injected, one method has all of them. -/
theorem exists_method_sessionText
    (hall : ∀ dependency ∈ dependencies, dependency ∈ injectedFirst dependencies ++ done) :
    ∃ method,
      (∀ dependency ∈ dependencies, ∃ field span,
        locateInLines (.ofText (sessionText layout dependencies done)) dependency.name .standard =
          .ok ⟨field, span, some method⟩) ∧
      method.parameters = (injectedFirst dependencies ++ done).map (parameterName ·.name) ∧
      ∀ dependency ∈ dependencies, assignmentCount (.ofText (sessionText layout dependencies done))
        method dependency.name = 1 := by
  obtain ⟨reference, hreference⟩ := exists_reference layout dependencies
  obtain ⟨snapshot, span, found, htext, hhosts⟩ :=
    exists_hosts_sessionText hdistinct hreference hdone hnodup
  obtain ⟨first, hfirst⟩ := List.exists_mem_of_ne_nil dependencies hne
  have hfield := (hreference first hfirst).1
  cases found with
  | none =>
    have hnil := List.map_eq_nil_iff.mp (hhosts.injected_eq_nil rfl)
    exact absurd (hall first hfirst) (by simp [hnil])
  | some method =>
    rw [htext, hhosts.ofText_toText hfield]
    refine ⟨method, fun dependency hmem => ?_, ?_, fun dependency hmem => ?_⟩
    · obtain ⟨hin, hname, -⟩ := hreference dependency hmem
      exact ⟨reference dependency, span, hname ▸ hhosts.located _ hin⟩
    · rw [hhosts.parameters_eq hfield, List.map_map]
      refine List.map_congr_left fun dependency hmem => ?_
      rw [Function.comp_apply, (hreference dependency (mem_of_mem_session hdone hmem)).2.1]
    · obtain ⟨hin, hname, -⟩ := hreference dependency hmem
      rw [← hname, (hhosts.injects method rfl).assigned _ hin,
        if_pos (List.mem_map_of_mem (hall dependency hmem))]

end Steps

/-- Whole sessions on canonical classes.  The fields that are not injected yet are injected in any
order: the first injection creates the method when nothing was injected before, every other one
extends it; at any time exactly the fields that were injected so far are injected, and exactly the
others are listed by an inspection.  In the end the parameters are those from the beginning and the
new ones in their order, each field is assigned on one line, and nothing is left to inject. -/
theorem session_classSource (layout : Layout) {dependencies order : List Dependency}
    (hne : dependencies ≠ []) (hdistinct : (dependencies.map (parameterName ·.name)).Nodup)
    (horder : order.Perm (dependencies.filter (!·.injected))) :
    (∀ index, (Injector.standard.injectInTurn (classSource layout dependencies)
        (order.map (·.name)))[index]?.map (·.plan) =
      order[index]?.map fun _ =>
        if injectedFirst dependencies = [] ∧ index = 0 then Plan.create else Plan.update) ∧
    (∀ done rest, order = done ++ rest →
      (∀ dependency ∈ injectedFirst dependencies ++ done,
        Injector.standard.plan (sessionText layout dependencies done) dependency.name =
          .unavailable .alreadyInjected) ∧
      ∀ name, name ∈ (Injector.standard.inspect (sessionText layout dependencies done)).map
        (·.field) ↔
        name ∈ rest.map (·.name)) ∧
    ∃ method,
      (∀ dependency ∈ dependencies, ∃ field span,
        locateInLines (.ofText (sessionText layout dependencies order)) dependency.name .standard =
          .ok ⟨field, span, some method⟩) ∧
      method.parameters = (injectedFirst dependencies ++ order).map (parameterName ·.name) ∧
      (∀ dependency ∈ dependencies, assignmentCount
        (.ofText (sessionText layout dependencies order))
        method dependency.name = 1) ∧
      Injector.standard.inspect (sessionText layout dependencies order) = [] := by
  have hperm : (injectedFirst dependencies ++ order).Perm dependencies :=
    (horder.append_left _).trans (List.filter_append_perm _ _)
  have hnodup : (injectedFirst dependencies ++ order).Nodup := hperm.nodup_iff.mpr hdistinct.of_map
  have hpart : ∀ done rest, order = done ++ rest →
      (∀ dependency ∈ done, dependency ∈ dependencies) ∧
      (injectedFirst dependencies ++ done).Nodup ∧
        ∀ dependency ∈ dependencies,
          (dependency ∉ injectedFirst dependencies ++ done ↔ dependency ∈ rest) := by
    rintro done rest rfl
    rw [← List.append_assoc] at hperm hnodup
    obtain ⟨hbefore, -, hdisjoint⟩ := List.nodup_append.mp hnodup
    refine ⟨fun dependency hmem => hperm.mem_iff.mp (by simp [hmem]), hbefore,
      fun dependency hmem => ?_⟩
    constructor
    · exact (List.mem_append.mp (hperm.mem_iff.mpr hmem)).resolve_left
    · exact fun hrest hin => hdisjoint dependency hin dependency hrest rfl
  have hlisted : ∀ done rest, order = done ++ rest → ∀ name,
      name ∈ (Injector.standard.inspect (sessionText layout dependencies done)).map (·.field) ↔
        name ∈ rest.map (·.name) := by
    intro done rest hsplit name
    obtain ⟨hdone, hbefore, hrest⟩ := hpart done rest hsplit
    rw [mem_inspect_sessionText_iff layout hne hdistinct hdone hbefore, List.mem_map]
    constructor
    · rintro ⟨dependency, hmem, hnew, hname⟩
      exact ⟨dependency, (hrest dependency hmem).mp hnew, hname⟩
    · rintro ⟨dependency, hmem, hname⟩
      have hin : dependency ∈ dependencies := hperm.mem_iff.mp (by simp [hsplit, hmem])
      exact ⟨dependency, hin, (hrest dependency hin).mpr hmem, hname⟩
  refine ⟨fun index => ?_, fun done rest hsplit => ⟨?_, hlisted done rest hsplit⟩, ?_⟩
  · rw [Injector.getElem?_injectInTurn, List.getElem?_map, ← List.map_take]
    cases hget : order[index]? with
    | none => rfl
    | some dependency =>
      obtain ⟨hindex, hvalue⟩ := List.getElem?_eq_some_iff.mp hget
      have hsplit : order = order.take index ++ dependency :: order.drop (index + 1) := by
        rw [← hvalue, ← List.drop_eq_getElem_cons hindex, List.take_append_drop]
      obtain ⟨hdone, hbefore, hrest⟩ := hpart _ _ hsplit
      have hmem : dependency ∈ dependencies := hperm.mem_iff.mp (by rw [hsplit]; simp)
      have hplan := plan_inject_sessionText layout hdistinct hdone hbefore hmem
        ((hrest dependency hmem).mpr (by simp))
      rw [Option.map_some, Option.map_some, Option.map_some, ← sessionText, hplan]
      have hfilled : order ≠ [] := List.ne_nil_of_mem (List.mem_of_getElem? hget)
      refine congrArg some (if_congr ?_ rfl rfl)
      rw [List.append_eq_nil_iff, List.take_eq_nil_iff, or_iff_left hfilled]
  · obtain ⟨hdone, hbefore, -⟩ := hpart done rest hsplit
    exact fun dependency hmem => plan_sessionText layout hdistinct hdone hbefore hmem
  · obtain ⟨hdone, hbefore, hrest⟩ := hpart order [] (by simp)
    obtain ⟨method, hlocated, hparameters, hassigned⟩ :=
    exists_method_sessionText layout hne hdistinct hdone hbefore fun dependency hmem =>
      hperm.mem_iff.mpr hmem
    refine ⟨method, hlocated, hparameters, hassigned, List.eq_nil_iff_forall_not_mem.mpr ?_⟩
    intro finding hfinding
    have hnone := (hlisted order [] (by simp) finding.field).mp (List.mem_map_of_mem hfinding)
    simp at hnone

/-- A map that is injected from the beginning. -/
def mapDependency : Dependency where
  type := "Dictionary<string, int>".toList
  isType := @IsTypeText.mk "Dictionary".toList [',', ' '] ["string".toList, "int".toList] []
    (by decide) (by simp) fun argument hargument =>
      isTypeText_of_isAsciiName (by revert argument; decide)
  lettered := false
  stem := "map".toList
  stem_ne_nil := by decide
  isLower_of_mem := by decide
  injected := true

/-- An array with a given name, injected later. -/
def arrayDependency (lettered : Bool) (stem : Text) (hne : stem ≠ [])
    (hlower : ∀ c ∈ stem, c.isLower = true) : Dependency where
  type := "float[]".toList
  isType := @IsTypeText.mk "float".toList [','] [] [0] (by decide) (by simp) (by simp)
  lettered := lettered
  stem := stem
  stem_ne_nil := hne
  isLower_of_mem := hlower
  injected := false

/-- Two arrays and a map. -/
def sampleDependencies : List Dependency :=
  [arrayDependency true "count".toList (by decide) (by decide), mapDependency,
    arrayDependency false "rate".toList (by decide) (by decide)]

/-- The second array is injected before the first one. -/
def sampleOrder : List Dependency :=
  [arrayDependency false "rate".toList (by decide) (by decide),
    arrayDependency true "count".toList (by decide) (by decide)]

theorem sampleDependencies_session :
    sampleDependencies ≠ [] ∧ (sampleDependencies.map (parameterName ·.name)).Nodup ∧
      sampleOrder.Perm (sampleDependencies.filter (!·.injected)) ∧
      ∃ method : InjectionMethod,
        method.parameters = ["mapService".toList, "rateService".toList, "countService".toList] ∧
        Injector.standard.inspect (sessionText ⟨true, true, true⟩ sampleDependencies sampleOrder) =
          [] := by
  have hne : sampleDependencies ≠ [] := by simp [sampleDependencies]
  have hdistinct : (sampleDependencies.map (parameterName ·.name)).Nodup := by decide +kernel
  have horder : sampleOrder.Perm (sampleDependencies.filter (!·.injected)) := List.Perm.swap _ _ _
  obtain ⟨-, -, method, -, hparameters, -, hinspect⟩ :=
    session_classSource ⟨true, true, true⟩ hne hdistinct horder
  refine ⟨hne, hdistinct, horder, method, hparameters.trans ?_, hinspect⟩
  decide +kernel

end FieldInjection
