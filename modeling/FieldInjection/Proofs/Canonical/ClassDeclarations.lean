import FieldInjection.CSharp.Declaration
import FieldInjection.Proofs.Canonical.Trees

/-!
# Declarations of canonical classes

The grammar of this library keeps the declarations of a document.  Those of a canonical class are
listed here, and their nodes are the tree of such a class.

## Main Definitions

* `classDeclarations`: the declarations of a document with a canonical class.

## Main Statements

* `isFieldDeclaration_groupDeclaration`, `isMethodDeclaration_declaration`: the nodes of the
  members.
* `isClassTree_classDeclarations`: the nodes are the tree of the class.
-/

namespace FieldInjection

open FieldInjection.CSharp

/-- The declaration of a group of fields on the given row. -/
def groupDeclaration (row : Nat) (group : Text × List Text) : Declaration :=
  if filled : group.1.isAllBlank = false then
    .field ⟨["private".toList], group.1, filled, group.2.map (⟨·, row⟩)⟩
  else .other

/-- The declarations of some groups, where the first of them stands on the given row. -/
def groupDeclarations (row : Nat) (groups : List (Text × List Text)) : List Declaration :=
  (groups.zipIdx row).map fun entry => groupDeclaration entry.2 entry.1

/-- The declaration of a method that is known in outline. -/
def MethodOutline.declaration (outline : MethodOutline) : MethodDeclaration :=
  ⟨outline.attributeRows, outline.name, outline.nameRow, outline.parameters,
    some ⟨outline.bodyStart, outline.bodyEnd⟩⟩

section Class

variable (layout : Layout) (place : MarkerPlace) (dependencies : List Dependency)

/-- The members of a canonical class. -/
def classMembers : List Declaration :=
  groupDeclarations layout.classStart.length (layout.groups dependencies) ++
    (methodOutlines layout place (layout.classStart.length + (layout.groups dependencies).length)
      (injectedFirst dependencies)).map fun outline => .method outline.declaration

/-- What is known of a canonical class besides its members. -/
def classHeader : TypeHeader :=
  ⟨.classType, some ": MonoBehaviour".toList,
    some ⟨(markedSpan layout place dependencies).startLine,
      (markedSpan layout place dependencies).endLine⟩⟩

/-- The declarations of a document with a canonical class. -/
def classDeclarations : List Declaration :=
  [.other, .type (classHeader layout place dependencies) (classMembers layout place dependencies)]

end Class

/-! ## Nodes of members -/

/-- The type of a group is not blank. -/
theorem isAllBlank_of_isGroup {group : Text × List Text} (h : IsGroup group) :
    group.1.isAllBlank = false := by
  obtain ⟨c, rest, htype, hstart⟩ := h.type.exists_cons
  simp [htype, Text.isAllBlank, isBlank_eq_false_of_isNameStart hstart]

/-- The node of a declarator has the name below it. -/
theorem isDeclarator_node (name : Text) (row : Nat) :
    IsDeclarator row name (Declarator.node ⟨name, row⟩) :=
  ⟨rfl, Node.ofName name row, Or.inl rfl, rfl⟩

/-- The node of a group is a declaration of its names. -/
theorem isFieldDeclaration_groupDeclaration {group : Text × List Text} (hgroup : IsGroup group)
    (row : Nat) : (groupDeclaration row group).node.kind = .fieldDeclaration ∧
      IsFieldDeclaration row group (groupDeclaration row group).node := by
  have hfilled := isAllBlank_of_isGroup hgroup
  have hnames : List.Forall₂ (IsDeclarator row) group.2
      ((group.2.map (⟨·, row⟩)).map Declarator.node) := by
    rw [List.map_map, List.forall₂_map_right_iff]
    exact List.forall₂_same.mpr fun name _ => isDeclarator_node name row
  rw [groupDeclaration, dif_pos hfilled]
  refine ⟨rfl, ⟨Node.leaf .modifier "private".toList 0, by simp [Declaration.node,
    FieldDeclaration.node, Node.inner, Node.childrenOf, Node.leaf], rfl⟩, ?_⟩
  refine ⟨_, _, rfl, rfl, rfl, ?_⟩
  -- the type comes first, and the declarators are all that follows
  have hall := filter_kind (List.forall_mem_map.mpr fun _ _ => rfl : ∀ node ∈
    (group.2.map fun name => (⟨name, row⟩ : Declarator)).map Declarator.node,
    node.kind = .variableDeclarator) .variableDeclarator
  rw [if_pos rfl] at hall
  rwa [← hall] at hnames

/-- The node of an outlined method is that method. -/
theorem isMethodDeclaration_declaration (outline : MethodOutline) :
    IsMethodDeclaration outline outline.declaration.node := by
  obtain ⟨attributeRows, name, nameRow, parameters, bodyStart, bodyEnd⟩ := outline
  have hattributes := filter_kind (List.forall_mem_map.mpr fun _ _ => rfl : ∀ node ∈
    attributeRows.map (Node.leaf .attributeList []), node.kind = .attributeList) .attributeList
  -- the attribute lists stand in front and play no part
  have hroles : ∀ role, (attributeRows.map (Node.leaf .attributeList [])).find?
      (·.role = some role) = none := by
    intro role
    rw [List.find?_eq_none]
    intro node hnode
    obtain ⟨row, -, rfl⟩ := List.mem_map.mp hnode
    simp [Node.leaf]
  have hparameters : List.Forall₂ IsParameter parameters
      (parameters.map fun name => Node.inner .parameter [.ofName name 0]) :=
    List.forall₂_map_right_iff.mpr (List.forall₂_same.mpr fun name _ =>
      ⟨Node.ofName name 0, rfl, rfl⟩)
  have hall := filter_kind (List.forall_mem_map.mpr fun _ _ => rfl : ∀ node ∈
    parameters.map fun name => Node.inner .parameter [.ofName name 0],
    node.kind = .parameter) .parameter
  rw [if_pos rfl] at hall
  rw [← hall] at hparameters
  refine ⟨?_, ⟨Node.ofName name nameRow, ?_, rfl, rfl⟩,
    ⟨parametersNode parameters, ?_, hparameters⟩,
    ⟨RowSpan.node ⟨bodyStart, bodyEnd⟩ .other [], ?_, rfl, rfl⟩⟩
  · rw [Node.childrenOf, MethodDeclaration.node, Node.inner, List.filter_append, List.filter_append]
    simp only [MethodOutline.declaration]
    rw [hattributes, if_pos rfl]
    have hothers : List.filter (·.kind = .attributeList) [Node.ofName name nameRow,
        parametersNode parameters] = [] := rfl
    have hbody : List.filter (·.kind = .attributeList)
        ((some (⟨bodyStart, bodyEnd⟩ : RowSpan)).toList.map (·.node .other [])) = [] := rfl
    rw [hothers, hbody, List.append_nil, List.append_nil, List.map_map]
    exact List.map_id attributeRows
  all_goals
    rw [Node.child?, MethodDeclaration.node, Node.inner, List.append_assoc, List.find?_append]
    simp only [MethodOutline.declaration, hroles, Option.none_or]
    rfl

/-! ## The class -/

section Class

variable {layout : Layout} {place : MarkerPlace} {dependencies : List Dependency}

theorem node_type (header : TypeHeader) (members : List Declaration) :
    (Declaration.type header members).node = header.node (members.map Declaration.node) := by
  rw [Declaration.node, nodesOf_eq_map]

/-- What the grammar keeps nothing of declares no field. -/
theorem fieldFree_other : (Declaration.node .other).FieldFree :=
  fieldFree_of_children_eq_nil (by simp [Declaration.node, Node.inner]) rfl

theorem fieldFree_ofName (name : Text) (row : Nat) : (Node.ofName name row).FieldFree :=
  fieldFree_of_children_eq_nil (by simp [Node.ofName]) rfl

/-- Parameters are no fields. -/
theorem fieldFree_parametersNode (names : List Text) : (parametersNode names).FieldFree := by
  refine .intro (by simp [parametersNode]) fun child hchild => ?_
  obtain ⟨name, -, rfl⟩ := List.mem_map.mp hchild
  exact .intro (by simp [Node.inner]) (List.forall_mem_singleton.mpr (fieldFree_ofName name 0))

/-- A method declares no field. -/
theorem fieldFree_method (declaration : MethodDeclaration) : declaration.node.FieldFree := by
  refine .intro (by simp [MethodDeclaration.node, Node.inner]) fun child hchild => ?_
  simp only [MethodDeclaration.node, Node.inner, List.mem_append, List.mem_map, List.mem_cons,
    List.not_mem_nil, or_false] at hchild
  rcases hchild with (⟨row, -, rfl⟩ | rfl | rfl) | ⟨rows, -, rfl⟩
  · exact fieldFree_of_children_eq_nil (by simp [Node.leaf]) rfl
  · exact fieldFree_ofName _ _
  · exact fieldFree_parametersNode _
  · exact fieldFree_of_children_eq_nil (by simp [RowSpan.node]) rfl

/-- The nodes of the groups are in their order, and the methods follow. -/
theorem map_node_classMembers : (classMembers layout place dependencies).map Declaration.node =
    ((layout.groups dependencies).zipIdx layout.classStart.length).map
        (fun entry => (groupDeclaration entry.2 entry.1).node) ++
      (methodOutlines layout place (layout.classStart.length + (layout.groups dependencies).length)
        (injectedFirst dependencies)).map fun outline => outline.declaration.node := by
  rw [classMembers, groupDeclarations, List.map_append, List.map_map, List.map_map]
  rfl

/-- The body of a canonical class. -/
theorem isClassBody_classMembers : IsClassBody layout place dependencies
    (RowSpan.node ⟨(markedSpan layout place dependencies).startLine,
      (markedSpan layout place dependencies).endLine⟩ .declarationList
        ((classMembers layout place dependencies).map Declaration.node)) := by
  have hgroup : ∀ entry ∈ (layout.groups dependencies).zipIdx layout.classStart.length,
      (groupDeclaration entry.2 entry.1).node.kind = .fieldDeclaration ∧
        IsFieldDeclaration entry.2 entry.1 (groupDeclaration entry.2 entry.1).node :=
    fun entry hentry => isFieldDeclaration_groupDeclaration
      (isGroup_of_mem_groups (List.fst_mem_of_mem_zipIdx hentry)) entry.2
  have hfields : ∀ node ∈ ((layout.groups dependencies).zipIdx layout.classStart.length).map
      fun entry => (groupDeclaration entry.2 entry.1).node, node.kind = .fieldDeclaration :=
    List.forall_mem_map.mpr fun entry hentry => (hgroup entry hentry).1
  have hmethods : ∀ node ∈ (methodOutlines layout place (layout.classStart.length +
      (layout.groups dependencies).length) (injectedFirst dependencies)).map
        fun outline => outline.declaration.node, node.kind = .methodDeclaration :=
    List.forall_mem_map.mpr fun _ _ => rfl
  rw [map_node_classMembers]
  refine ⟨rfl, rfl, rfl, ?_, ?_, ?_⟩
  · rw [Node.childrenOf, RowSpan.node, List.filter_append, filter_kind hfields,
      filter_kind hmethods, if_pos rfl, if_neg (by decide), List.append_nil,
      List.forall₂_map_right_iff]
    exact List.forall₂_same.mpr fun entry hentry => (hgroup entry hentry).2
  · rw [Node.childrenOf, RowSpan.node, List.filter_append, filter_kind hfields,
      filter_kind hmethods, if_neg (by decide), if_pos rfl, List.nil_append,
      List.forall₂_map_right_iff]
    exact List.forall₂_same.mpr fun outline _ => isMethodDeclaration_declaration outline
  · intro child hchild hkind
    rcases List.mem_append.mp hchild with hchild | hchild
    · exact absurd (hfields child hchild) hkind
    · obtain ⟨outline, -, rfl⟩ := List.mem_map.mp hchild
      exact fieldFree_method outline.declaration

/-- The nodes of the declarations of a canonical class are its tree. -/
theorem isClassTree_classDeclarations :
    IsClassTree layout place dependencies
      (.inner .other (nodesOf (classDeclarations layout place dependencies))) := by
  have hclass : IsClassDeclaration layout place dependencies
      ((classHeader layout place dependencies).node
        ((classMembers layout place dependencies).map Declaration.node)) := by
    refine ⟨⟨Node.leaf .baseList ": MonoBehaviour".toList 0, List.mem_singleton_self _, rfl⟩,
      ⟨_, rfl, isClassBody_classMembers⟩, ?_⟩
    refine List.forall_mem_cons.mpr
      ⟨fun _ => fieldFree_of_children_eq_nil (by simp [Node.leaf]) rfl,
        List.forall_mem_singleton.mpr fun hrole => absurd rfl hrole⟩
  rw [classDeclarations, nodesOf_eq_map, List.map_cons, List.map_singleton, node_type]
  refine ⟨by simp [Node.inner], ⟨_, rfl, hclass⟩, ?_⟩
  exact List.forall_mem_cons.mpr ⟨fun _ => fieldFree_other,
    List.forall_mem_singleton.mpr fun hkind => absurd rfl hkind⟩

end Class

end FieldInjection
