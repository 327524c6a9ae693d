import FieldInjection.Proofs.Canonical.Dependencies
import Mathlib.Data.List.Perm.Basic

/-!
# Canonical classes

A canonical class derives from the base type, declares its dependencies, has an injection method
with those that are injected from the beginning, if there are any, and a further method behind it.
Its layout says where the braces stand, whether the header takes two lines, and whether fields of
one type are declared together.

## Main Definitions

* `Layout`: how a canonical class is laid out.
* `classSource`: the text of a canonical class.
* `declaredFields`: the fields that it declares, with their lines.

## Main Statements

* `perm_entries_groups`: the declarations declare the dependencies.
* `exists_of_mem_declaredFields`: what the fields are.
-/

namespace FieldInjection

/-- How a canonical class is laid out. -/
structure Layout where
  /-- Whether a brace stands behind the header of its block, and not on a line of its own. -/
  bracesBehind : Bool
  /-- Whether the base type of the class stands on a line of its own. -/
  splitHeader : Bool
  /-- Whether fields of one type are declared together. -/
  grouped : Bool
  deriving DecidableEq, Repr

/-- What stands behind the header of a block. -/
def Layout.braceBehind (layout : Layout) : Text :=
  if layout.bracesBehind then [' ', openBrace] else []

/-- The line with the brace of a block, if it has one. -/
def Layout.braceLines (layout : Layout) (indent : Text) : List Text :=
  if layout.bracesBehind then [] else [indent ++ [openBrace]]

/-- The header of a block and its opening brace. -/
def Layout.opened (layout : Layout) (indent header : Text) : List Text :=
  (header ++ layout.braceBehind) :: layout.braceLines indent

/-- The lines up to the opening brace of the class. -/
def Layout.classStart (layout : Layout) : List Text :=
  ["using UnityEngine;".toList, []] ++
    if layout.splitHeader then
      "public class Subject".toList :: layout.opened [] "    : MonoBehaviour".toList
    else layout.opened [] "public class Subject : MonoBehaviour".toList

/-- A name is put to the others of its type, or else behind all of them. -/
def addToGroups (type name : Text) : List (Text × List Text) → List (Text × List Text)
  | [] => [(type, [name])]
  | group :: groups =>
    if group.1 = type then (group.1, group.2 ++ [name]) :: groups
    else group :: addToGroups type name groups

/-- The declarations of a class: their types, each with its names. -/
def Layout.groups (layout : Layout) (dependencies : List Dependency) : List (Text × List Text) :=
  if layout.grouped then
    dependencies.foldl (fun groups dependency =>
      addToGroups dependency.type dependency.name groups) []
  else dependencies.map fun dependency => (dependency.type, [dependency.name])

/-- One step of indentation. -/
def indentStep : Text := "    ".toList

/-- The line that declares the names of a group. -/
def fieldLine (group : Text × List Text) : Text :=
  indentStep ++ declaration group.1 group.2

/-- The dependencies that are injected from the beginning. -/
def injectedFirst (dependencies : List Dependency) : List Dependency :=
  dependencies.filter (·.injected)

/-- The signature of the injection method. -/
def methodSignature (injected : List Dependency) : Text :=
  indentStep ++ "private void InjectDependencies".toList ++ '(' ::
    ([',', ' '].intercalate (injected.map fun dependency =>
      dependency.type ++ ' ' :: dependency.parameter) ++ [')'])

/-- The line that assigns a dependency. -/
def assignmentOf (dependency : Dependency) : Text :=
  indentStep ++ indentStep ++ (dependency.name ++ " = ".toList ++ dependency.parameter ++ [';'])

/-- The injection method for some dependencies, if there are any. -/
def Layout.methodPart (layout : Layout) (injected : List Dependency) : List Text :=
  if injected.isEmpty then []
  else [[], "    [Inject]".toList] ++ (layout.opened indentStep (methodSignature injected) ++
    injected.map assignmentOf ++ ["    \x7d".toList])

/-- The method behind it. -/
def Layout.updatePart (layout : Layout) : List Text :=
  [[]] ++ (layout.opened indentStep "    private void Update()".toList ++
    ["        if (enabled) \x7b return; \x7d".toList] ++ ["    \x7d".toList])

/-- The lines of a canonical class. -/
def Layout.classLines (layout : Layout) (dependencies : List Dependency) : List Text :=
  layout.classStart ++ ((layout.groups dependencies).map fieldLine ++
    (layout.methodPart (injectedFirst dependencies) ++ layout.updatePart ++ ["\x7d".toList, []]))

/-- The text of a canonical class. -/
def classSource (layout : Layout) (dependencies : List Dependency) : Text :=
  (Snapshot.ofLines (layout.classLines dependencies)).toText

/-! ## What is declared -/

/-- The names of a group, each with its type. -/
def entries (groups : List (Text × List Text)) : List (Text × Text) :=
  groups.flatMap fun group => group.2.map (group.1, ·)

theorem entries_cons (group : Text × List Text) (groups : List (Text × List Text)) :
    entries (group :: groups) = group.2.map (group.1, ·) ++ entries groups :=
  List.flatMap_cons ..

/-- Wherever a name is put, the groups declare it in addition to what they declared before. -/
theorem perm_entries_addToGroups (type name : Text) (groups : List (Text × List Text)) :
    (entries (addToGroups type name groups)).Perm ((type, name) :: entries groups) := by
  induction groups with
  | nil => exact List.Perm.refl _
  | cons group groups ih =>
    rw [addToGroups]
    split
    · next heq =>
      simp only [entries_cons, List.map_append, List.map_singleton, heq, List.append_assoc]
      exact List.perm_middle
    · exact (ih.append_left _).trans List.perm_middle

/-- Putting dependencies into groups one by one loses none and adds no other. -/
theorem perm_entries_foldl (dependencies : List Dependency) (groups : List (Text × List Text)) :
    (entries (dependencies.foldl
      (fun groups dependency => addToGroups dependency.type dependency.name groups) groups)).Perm
        (dependencies.map (fun dependency => (dependency.type, dependency.name)) ++
          entries groups) := by
  induction dependencies generalizing groups with
  | nil => exact List.Perm.refl _
  | cons dependency dependencies ih =>
    refine (ih _).trans ?_
    rw [List.map_cons, List.cons_append]
    exact ((perm_entries_addToGroups _ _ _).append_left _).trans List.perm_middle

/-- The declarations declare the dependencies, perhaps in another order. -/
theorem perm_entries_groups (layout : Layout) (dependencies : List Dependency) :
    (entries (layout.groups dependencies)).Perm
      (dependencies.map fun dependency => (dependency.type, dependency.name)) := by
  rw [Layout.groups]
  split
  · refine (perm_entries_foldl dependencies []).trans ?_
    rw [entries, List.flatMap_nil, List.append_nil]
  · rw [entries, List.flatMap_map, List.map_eq_flatMap]
    exact List.Perm.refl _

/-- The fields that some declarations declare, where the first of them stands on the given line. -/
def declaredFields (line : Nat) : List (Text × List Text) → List FieldReference
  | [] => []
  | group :: groups => group.2.map (⟨·, group.1, line⟩) ++ declaredFields (line + 1) groups

/-- The fields of some declarations are their entries, in order. -/
theorem map_declaredFields (line : Nat) (groups : List (Text × List Text)) :
    (declaredFields line groups).map (fun field => (field.declaredType, field.name)) =
      entries groups := by
  induction groups generalizing line with
  | nil => rfl
  | cons group groups ih =>
    rw [declaredFields, List.map_append, ih, entries_cons, List.map_map]
    rfl

theorem map_name_declaredFields (line : Nat) (groups : List (Text × List Text)) :
    (declaredFields line groups).map (·.name) = groups.flatMap (·.2) := by
  induction groups generalizing line with
  | nil => rfl
  | cons group groups ih =>
    rw [declaredFields, List.map_append, ih, List.flatMap_cons, List.map_map]
    exact congrArg (· ++ _) (List.map_id _)

/-- A field stands on the line of its group. -/
theorem exists_of_mem_declaredFields {line : Nat} {groups : List (Text × List Text)}
    {field : FieldReference} (h : field ∈ declaredFields line groups) :
    ∃ before group after, groups = before ++ group :: after ∧ field.name ∈ group.2 ∧
      field.declaredType = group.1 ∧ field.line = line + before.length := by
  induction groups generalizing line with
  | nil => simp [declaredFields] at h
  | cons group groups ih =>
    rw [declaredFields, List.mem_append] at h
    rcases h with h | h
    · obtain ⟨name, hname, rfl⟩ := List.mem_map.mp h
      exact ⟨[], group, groups, rfl, hname, rfl, rfl⟩
    · obtain ⟨before, other, after, rfl, hname, htype, hline⟩ := ih h
      refine ⟨group :: before, other, after, rfl, hname, htype, ?_⟩
      rw [hline, List.length_cons]
      omega

/-- The type of a declaration and its names, as they are written in canonical classes. -/
structure IsGroup (group : Text × List Text) : Prop where
  /-- The type is written as types are. -/
  type : IsTypeText group.1
  /-- The names are ASCII names. -/
  names : ∀ name ∈ group.2, isAsciiName name = true
  /-- Some name is declared. -/
  ne_nil : group.2 ≠ []

/-- A group stays well-formed when a dependency is put to it. -/
theorem isGroup_addToGroups (dependency : Dependency) {groups : List (Text × List Text)}
    (h : ∀ group ∈ groups, IsGroup group) :
    ∀ group ∈ addToGroups dependency.type dependency.name groups, IsGroup group := by
  have hname := dependency.isAsciiName_name
  induction groups with
  | nil =>
    intro group hgroup
    rw [List.mem_singleton.mp hgroup]
    exact ⟨dependency.isType, by simpa using hname, by simp⟩
  | cons first groups ih =>
    rw [addToGroups]
    have hfirst := h first (by simp)
    have hrest : ∀ group ∈ groups, IsGroup group := fun group hgroup => h group (by simp [hgroup])
    split
    · refine List.forall_mem_cons.mpr ⟨⟨hfirst.type, ?_, by simp⟩, hrest⟩
      intro name hmem
      rcases List.mem_append.mp hmem with hmem | hmem
      · exact hfirst.names name hmem
      · rwa [List.mem_singleton.mp hmem]
    · exact List.forall_mem_cons.mpr ⟨hfirst, ih hrest⟩

theorem isGroup_foldl (dependencies : List Dependency) {groups : List (Text × List Text)}
    (h : ∀ group ∈ groups, IsGroup group) :
    ∀ group ∈ dependencies.foldl
      (fun groups dependency => addToGroups dependency.type dependency.name groups) groups,
      IsGroup group := by
  induction dependencies generalizing groups with
  | nil => exact h
  | cons dependency dependencies ih => exact ih (isGroup_addToGroups dependency h)

/-- Whether fields of one type share a declaration or not, the groups of a layout are well-formed.
-/
theorem isGroup_of_mem_groups {layout : Layout} {dependencies : List Dependency}
    {group : Text × List Text} (h : group ∈ layout.groups dependencies) : IsGroup group := by
  rw [Layout.groups] at h
  split at h
  · exact isGroup_foldl dependencies (by simp) group h
  · obtain ⟨dependency, -, rfl⟩ := List.mem_map.mp h
    exact ⟨dependency.isType, by simpa using dependency.isAsciiName_name, by simp⟩

end FieldInjection
