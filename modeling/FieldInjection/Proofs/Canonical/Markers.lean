import FieldInjection.Proofs.Canonical.Sessions

/-!
# Places of the marker

The marker of an injection method counts only alone on the line above the signature.  A canonical
class may have it elsewhere, on the line of the signature or above a further marker, and then the
method is not found: such a class is one without an injection method, whatever it says.

## Main Definitions

* `MarkerPlace`: where the marker stands.
* `markedSource`: the text of a canonical class with its marker in some place.
* `markedMethod?`: the injection method that is found in it.

## Main Statements

* `not_annotated_of_ne_ownLine`: a marker that does not stand alone above the signature does not
  count.
* `locateInLines_markedSnapshot`: the location of a field of the class.
-/

namespace FieldInjection

/-- Where the marker of an injection method stands. -/
inductive MarkerPlace where
  /-- Alone on the line above the signature. -/
  | ownLine
  /-- On the line of the signature. -/
  | inline
  /-- Alone on its line, but with another marker between it and the signature. -/
  | stacked
  deriving DecidableEq, Repr

namespace MarkerPlace

/-- The lines from the blank one behind the fields up to the signature. -/
def linesAbove : MarkerPlace → List Text
  | ownLine => [[], "    [Inject]".toList]
  | inline => [[]]
  | stacked => [[], "    [Inject]".toList, "    [Preserve]".toList]

/-- What stands in front of the signature on its line. -/
def lead : MarkerPlace → Text
  | inline => "    [Inject] ".toList
  | ownLine | stacked => indentStep

end MarkerPlace

/-- The signature of the injection method without its indentation. -/
def bareSignature (injected : List Dependency) : Text :=
  "private void InjectDependencies".toList ++ '(' ::
    ([',', ' '].intercalate (injected.map fun dependency =>
      dependency.type ++ ' ' :: dependency.parameter) ++ [')'])

/-- The injection method from the line of its signature on. -/
def Layout.markedBlock (layout : Layout) (place : MarkerPlace)
    (injected : List Dependency) : List Text :=
  layout.opened indentStep (place.lead ++ bareSignature injected) ++ injected.map assignmentOf ++
    ["    \x7d".toList]

/-- The injection method for some dependencies, if there are any, with its marker in some place. -/
def Layout.markedPart (layout : Layout) (place : MarkerPlace)
    (injected : List Dependency) : List Text :=
  if injected.isEmpty then [] else place.linesAbove ++ layout.markedBlock place injected

/-- The lines of a canonical class with its marker in some place. -/
def Layout.markedLines (layout : Layout) (place : MarkerPlace) (dependencies : List Dependency) :
    List Text :=
  layout.classStart ++ ((layout.groups dependencies).map fieldLine ++
    (layout.markedPart place (injectedFirst dependencies) ++ layout.updatePart ++
      ["\x7d".toList, []]))

/-- The document with a canonical class. -/
def markedSnapshot (layout : Layout) (place : MarkerPlace)
    (dependencies : List Dependency) : Snapshot :=
  Snapshot.ofLines (layout.markedLines place dependencies)

/-- The text of a canonical class with its marker in some place. -/
def markedSource (layout : Layout) (place : MarkerPlace) (dependencies : List Dependency) : Text :=
  (markedSnapshot layout place dependencies).toText

/-- The body of the class. -/
def markedSpan (layout : Layout) (place : MarkerPlace)
    (dependencies : List Dependency) : ClassSpan :=
  ⟨layout.classStart.length - 1, layout.classStart.length + (layout.groups dependencies).length +
    (layout.markedPart place (injectedFirst dependencies) ++ layout.updatePart).length⟩

/-- The injection method that is found in the class. -/
def markedMethod? (layout : Layout) (place : MarkerPlace) (dependencies : List Dependency) :
    Option InjectionMethod :=
  if place = .ownLine then classMethod? layout dependencies else none

/-! ## The marker on its own line -/

theorem methodSignature_eq_append (injected : List Dependency) :
    methodSignature injected = indentStep ++ bareSignature injected :=
  List.append_assoc indentStep _ _

/-- With the marker on a line of its own the method is that of the other canonical classes. -/
theorem markedPart_ownLine (layout : Layout) (injected : List Dependency) :
    layout.markedPart .ownLine injected = layout.methodPart injected := by
  rw [Layout.markedPart, Layout.methodPart, methodSignature_eq_append]
  rfl

/-! ## The lines of the method -/

section Method

variable {layout : Layout} {place : MarkerPlace} {injected : List Dependency}

/-- What is in no type, is no parenthesis and does not stand in front of the signature is not in
the header. -/
theorem not_mem_header {c : Char} (hlead : c ∉ place.lead) (hc : isTypeChar c = false)
    (hmarks : c ≠ '(' ∧ c ≠ ')') : c ∉ place.lead ++ bareSignature injected := by
  intro hmem
  rcases List.mem_append.mp hmem with hmem | hmem
  · exact hlead hmem
  · have hsignature : c ∈ methodSignature injected := by
      rw [methodSignature_eq_append]
      exact List.mem_append_right _ hmem
    exact not_mem_methodSignature hc hmarks hsignature

/-- The header of the method has no braces of its own. -/
theorem braceDelta_header : braceDelta (place.lead ++ bareSignature injected) = 0 := by
  have hlead : openBrace ∉ place.lead ∧ closeBrace ∉ place.lead := by cases place <;> decide
  exact braceDelta_eq_zero (not_mem_header hlead.1 (by decide) (by decide))
    (not_mem_header hlead.2 (by decide) (by decide))

/-- The method closes what it opens, wherever its marker stands. -/
theorem isClosed_markedPart (layout : Layout) (place : MarkerPlace) (injected : List Dependency) :
    IsClosed (layout.markedPart place injected) := by
  rw [Layout.markedPart]
  split
  · exact isClosed_of_flat (by simp)
  · have habove : IsClosed place.linesAbove := isClosed_of_flat (by cases place <;> decide)
    exact habove.append (isClosed_block layout (by decide) braceDelta_header isClosed_assignments
      (by decide))

/-- The lines of the method have no line ends inside. -/
theorem isCleanLine_markedPart {line : Text} (h : line ∈ layout.markedPart place injected) :
    IsCleanLine line := by
  have hlead : '\n' ∉ place.lead ∧ '\r' ∉ place.lead := by cases place <;> decide
  have hbehind : '\n' ∉ layout.braceBehind ∧ '\r' ∉ layout.braceBehind := by
    rcases layout with ⟨_ | _, _ | _, _ | _⟩ <;> decide
  have hbrace : ∀ text ∈ layout.braceLines indentStep, IsCleanLine text := by
    rcases layout with ⟨_ | _, _ | _, _ | _⟩ <;> decide
  have habove : ∀ text ∈ place.linesAbove, IsCleanLine text := by cases place <;> decide
  rw [Layout.markedPart] at h
  split at h
  · simp at h
  · simp only [Layout.markedBlock, Layout.opened, List.mem_append, List.mem_cons, List.not_mem_nil,
      or_false, List.mem_map] at h
    rcases h with h | ((rfl | h) | ⟨dependency, -, rfl⟩) | rfl
    · exact habove line h
    · refine isCleanLine_of_not_mem ?_ ?_
      · exact List.not_mem_append (not_mem_header hlead.1 (by decide) (by decide)) hbehind.1
      · exact List.not_mem_append (not_mem_header hlead.2 (by decide) (by decide)) hbehind.2
    · exact hbrace line h
    · exact isCleanLine_assignmentOf dependency
    · decide

/-- A line with a character that is neither blank nor in the marker is not the marker. -/
theorem trim_ne_marker {line : Text} {c : Char} (hc : c ∈ line) (hblank : isBlank c = false)
    (hmarker : c ∉ Configuration.standard.marker.trim) :
    line.trim ≠ Configuration.standard.marker.trim := by
  intro heq
  exact hmarker (heq ▸ Text.mem_trim_of_mem hc hblank)

/-- From the signature on, no line of the method is the marker. -/
theorem trim_ne_of_mem_markedBlock {line : Text} (h : line ∈ layout.markedBlock place injected) :
    line.trim ≠ Configuration.standard.marker.trim := by
  have hbrace : ∀ text ∈ layout.braceLines indentStep,
      text.trim ≠ Configuration.standard.marker.trim := by
    rcases layout with ⟨_ | _, _ | _, _ | _⟩ <;> decide
  simp only [Layout.markedBlock, Layout.opened, List.mem_append, List.mem_cons, List.not_mem_nil,
    or_false, List.mem_map] at h
  rcases h with ((rfl | h) | ⟨dependency, -, rfl⟩) | rfl
  · have hround : '(' ∈ bareSignature injected := List.mem_append_right _ List.mem_cons_self
    exact trim_ne_marker (List.mem_append_left _ (List.mem_append_right _ hround))
      (by decide) (by decide)
  · exact hbrace line h
  · refine trim_ne_marker (c := '=') ?_ (by decide) (by decide)
    simp [assignmentOf]
  · decide

end Method

/-! ## Where the marker does not count -/

/-- Lines none of which is the marker are not annotated, whatever stands behind them. -/
theorem not_annotated_append {marker methodName : Text} {lines rest : List Text} {index : Nat}
    (h : ∀ line ∈ lines, line.trim ≠ marker) (hindex : index < lines.length) :
    ¬ Annotated marker methodName (lines ++ rest) index := by
  rintro ⟨line, signature, hline, -, htrim, -⟩
  rw [List.getElem?_append_left hindex] at hline
  exact h line (List.mem_of_getElem? hline) htrim

section Search

variable {layout : Layout} {place : MarkerPlace} {groups : List (Text × List Text)}
    {injected : List Dependency} {rest : List Text}

/-- No field line is a marker. -/
theorem trim_ne_of_mem_fieldLines {line : Text} (h : line ∈ groups.map fieldLine) :
    line.trim ≠ Configuration.standard.marker.trim := by
  obtain ⟨group, -, rfl⟩ := List.mem_map.mp h
  exact trim_fieldLine_ne

/-- A marker with another one below it is not annotated, and no other line is the marker. -/
theorem not_annotated_stacked {before behind : List Text} {index : Nat}
    (hbefore : ∀ line ∈ before, line.trim ≠ Configuration.standard.marker.trim)
    (hbehind : ∀ line ∈ behind, line.trim ≠ Configuration.standard.marker.trim)
    (hindex : index < (before ++ "    [Inject]".toList :: "    [Preserve]".toList ::
      behind).length) :
    ¬ Annotated Configuration.standard.marker.trim Configuration.standard.methodName
      (before ++ "    [Inject]".toList :: "    [Preserve]".toList :: behind ++ rest) index := by
  rw [List.append_assoc, List.cons_append]
  rcases Nat.lt_trichotomy index before.length with hlt | rfl | hgt
  · exact not_annotated_append hbefore hlt
  · rintro ⟨line, signature, -, hsignature, -, htoken⟩
    rw [List.getElem?_append_right (by omega), Nat.add_sub_cancel_left] at hsignature
    obtain rfl := Option.some.inj hsignature
    exact absurd htoken (by decide)
  · obtain ⟨offset, rfl⟩ := Nat.exists_eq_add_of_le hgt
    rw [← annotated_drop, Nat.succ_eq_add_one, List.drop_length_add_append,
      List.drop_one, List.tail_cons]
    refine not_annotated_append ?_ ?_
    · exact List.forall_mem_cons.mpr ⟨by decide, hbehind⟩
    · simp only [List.length_append, List.length_cons] at hindex ⊢
      omega

/-- A marker that does not stand alone above the signature does not count. -/
theorem not_annotated_of_ne_ownLine (hplace : place ≠ .ownLine) {index : Nat}
    (hindex : index < (groups.map fieldLine ++ (layout.markedPart place injected ++
      layout.updatePart)).length) :
    ¬ Annotated Configuration.standard.marker.trim Configuration.standard.methodName
      (groups.map fieldLine ++ (layout.markedPart place injected ++ layout.updatePart) ++
        rest) index := by
  have hfields : ∀ line ∈ groups.map fieldLine, line.trim ≠ Configuration.standard.marker.trim :=
    fun _ => trim_ne_of_mem_fieldLines
  have hupdate : ∀ line ∈ layout.updatePart, line.trim ≠ Configuration.standard.marker.trim :=
    fun _ hline => (of_mem_updatePart hline).2
  have hblank : ∀ line ∈ ([[]] : List Text), line.trim ≠ Configuration.standard.marker.trim := by
    decide
  rw [Layout.markedPart] at hindex ⊢
  by_cases hinjected : injected.isEmpty = true
  · rw [if_pos hinjected] at hindex ⊢
    exact not_annotated_append (List.forall_mem_append.mpr ⟨hfields, hupdate⟩) hindex
  · rw [if_neg hinjected] at hindex ⊢
    have hblock : ∀ line ∈ layout.markedBlock place injected ++ layout.updatePart,
        line.trim ≠ Configuration.standard.marker.trim :=
      List.forall_mem_append.mpr ⟨fun _ => trim_ne_of_mem_markedBlock, hupdate⟩
    cases place with
    | ownLine => exact absurd rfl hplace
    | inline =>
      refine not_annotated_append ?_ hindex
      rw [MarkerPlace.linesAbove, List.append_assoc, List.forall_mem_append, List.forall_mem_append]
      exact ⟨hfields, hblank, hblock⟩
    | stacked =>
      rw [MarkerPlace.linesAbove, List.cons_append, List.cons_append, List.append_cons,
        List.append_assoc [_, _]] at hindex ⊢
      exact not_annotated_stacked (List.forall_mem_append.mpr ⟨hfields, hblank⟩) hblock hindex

end Search

/-! ## Locations -/

section Location

variable {layout : Layout} {place : MarkerPlace} {dependencies : List Dependency}

theorem lines_markedSnapshot : (markedSnapshot layout place dependencies).lines =
    layout.classStart ++ ((layout.groups dependencies).map fieldLine ++
      (layout.markedPart place (injectedFirst dependencies) ++ layout.updatePart ++
        [closeBrace] :: [[]])) :=
  rfl

/-- With the marker on a line of its own this is the snapshot of the other canonical classes. -/
theorem markedSnapshot_ownLine : markedSnapshot layout .ownLine dependencies =
    classSnapshot layout dependencies := by
  rw [markedSnapshot, classSnapshot, Layout.markedLines, Layout.classLines, markedPart_ownLine]

/-- The text of the class is read back as it is written. -/
theorem ofText_markedSource : Snapshot.ofText (markedSource layout place dependencies) =
    markedSnapshot layout place dependencies := by
  have hclose : ∀ text ∈ [[closeBrace], []], IsCleanLine text := by decide
  refine ofText_toText_of_clean (fun line hline => ?_) ?_
  · rw [lines_markedSnapshot] at hline
    simp only [List.mem_append] at hline
    rcases hline with hline | hline | (hline | hline) | hline
    · exact (isQuietLine_classStart hline).1
    · obtain ⟨group, hgroup, rfl⟩ := List.mem_map.mp hline
      exact isCleanLine_fieldLine (isGroup_of_mem_groups hgroup)
    · exact isCleanLine_markedPart hline
    · exact (of_mem_updatePart hline).1.1
    · exact hclose line hline
  · rw [Snapshot.size, lines_markedSnapshot]
    simp only [List.length_append, List.length_cons]
    omega

/-- On its lines the method is found exactly if its marker stands alone above it. -/
theorem findInjectionMethodIn_markedSnapshot :
    findInjectionMethodIn (markedSnapshot layout place dependencies)
      (markedSpan layout place dependencies) .standard =
      .ok (markedMethod? layout place dependencies) := by
  by_cases hplace : place = .ownLine
  · rw [markedMethod?, if_pos hplace, hplace, markedSnapshot_ownLine, markedSpan,
      markedPart_ownLine]
    exact findInjectionMethodIn_classSnapshot
  · rw [markedMethod?, if_neg hplace]
    refine findInjectionMethodBetween_eq_ok_none fun index hstart hstop => ?_
    obtain ⟨front, opening, hopening, -⟩ := classStart_spec layout
    have hfirst : (markedSpan layout place dependencies).startLine + 1 =
        layout.classStart.length := by
      simp [markedSpan, hopening]
    obtain ⟨offset, rfl⟩ := Nat.exists_eq_add_of_le (hfirst ▸ hstart)
    rw [← annotated_drop, lines_markedSnapshot, List.drop_left, ← List.append_assoc]
    refine not_annotated_of_ne_ownLine hplace ?_
    simp only [markedSpan, List.length_append, List.length_map] at hstop ⊢
    omega

/-- Each field is located in the class, with the method if its marker counts. -/
theorem locateInLines_markedSnapshot (hdistinct : (dependencies.map (parameterName ·.name)).Nodup)
    {field : FieldReference} (hfield : field ∈ classFields layout dependencies) :
    locateInLines (markedSnapshot layout place dependencies) field.name .standard =
      .ok ⟨field, markedSpan layout place dependencies,
        markedMethod? layout place dependencies⟩ := by
  have hgroups : ∀ group ∈ layout.groups dependencies, IsGroup group :=
    fun _ => isGroup_of_mem_groups
  obtain ⟨before, group, after, hsplit, -, -, hline⟩ := exists_of_mem_declaredFields hfield
  refine locateInLines_eq_ok_iff.mpr ⟨?_, ?_, findInjectionMethodIn_markedSnapshot⟩
  · exact locateField_classLines hgroups lines_markedSnapshot (nodup_names_groups hdistinct) hfield
  · simp only [hline]
    refine findClassSpan_classLines hgroups lines_markedSnapshot
      ((isClosed_markedPart layout place _).append (isClosed_updatePart layout)) ?_
    rw [hsplit, List.length_append, List.length_cons]
    omega

end Location

end FieldInjection
