import FieldInjection.CSharp.Locate

/-!
# Searches in syntax trees

A declaration is searched among the nodes of a tree from the root downwards and from left to right.
What is at or below a node decides the search only if a field is declared there, so nodes between
the ones that matter, whatever they are, can be passed over.

## Main Definitions

* `CSharp.Node.FieldFree`: no field is declared at or below a node.

## Main Statements

* `findField_eq`: the search at a node, by the searches at the nodes below it.
* `findField_of_fieldFree`: nothing is found where no field is declared.
* `findSome?_of_filter`: a search may be restricted to the nodes of one kind.
-/

namespace FieldInjection

open CSharp

/-! ## Searches along a list -/

section Lists

variable {α β : Type} {items : List α} {p : α → Bool} {f : α → Option β}

/-- A search may be restricted to the items that can answer it. -/
theorem findSome?_of_filter (h : ∀ item ∈ items, p item = false → f item = none) :
    items.findSome? f = (items.filter p).findSome? f := by
  induction items with
  | nil => rfl
  | cons item items ih =>
    have hrest := ih fun other hother => h other (List.mem_cons_of_mem _ hother)
    cases hitem : p item with
    | true => rw [List.filter_cons_of_pos hitem, List.findSome?_cons, List.findSome?_cons, hrest]
    | false =>
      rw [List.filter_cons_of_neg (by simp [hitem]), List.findSome?_cons,
        h item List.mem_cons_self hitem, hrest]

/-- If only the items of one kind can answer, and the first of these does, that is the answer. -/
theorem findSome?_of_find? {item : α} {value : β} (hfind : items.find? p = some item)
    (hvalue : f item = some value) (h : ∀ other ∈ items, p other = false → f other = none) :
    items.findSome? f = some value := by
  obtain ⟨rest, hrest⟩ : ∃ rest, items.filter p = item :: rest := by
    rw [← List.head?_filter] at hfind
    exact List.head?_eq_some_iff.mp hfind
  rw [findSome?_of_filter h, hrest, List.findSome?_cons, hvalue]

end Lists

namespace CSharp

theorem Node.kind_of_mem_childrenOf {node child : Node} {kind : NodeKind}
    (h : child ∈ node.childrenOf kind) : child.kind = kind :=
  of_decide_eq_true (List.mem_filter.mp h).2

theorem Node.find?_kind (node : Node) (kind : NodeKind) :
    node.children.find? (·.kind = kind) = (node.childrenOf kind).head? :=
  List.head?_filter.symm

/-- Among nodes of one kind, all or none are of a given kind. -/
theorem filter_kind {nodes : List Node} {kind : NodeKind} (h : ∀ node ∈ nodes, node.kind = kind)
    (wanted : NodeKind) :
    nodes.filter (·.kind = wanted) = if kind = wanted then nodes else [] := by
  split
  · next heq => exact List.filter_eq_self.mpr fun node hnode => by simp [h node hnode, heq]
  · next hne => exact List.filter_eq_nil_iff.mpr fun node hnode => by simp [h node hnode, hne]

/-! ## Fields -/

/-- Nodes side by side are searched in their order. -/
theorem findFieldAmong_eq (name : Text) (around nodes : List Node) :
    findFieldAmong name around nodes = nodes.findSome? (findField name around) := by
  induction nodes with
  | nil => rfl
  | cons node nodes ih =>
    rw [findFieldAmong, ih, List.findSome?_cons]
    cases findField name around node <;> rfl

/-- A private declaration of fields answers the search itself, and any other node leaves it to the
nodes below it. -/
theorem findField_eq (name : Text) (around : List Node) (node : Node) :
    findField name around node =
      if node.kind = .fieldDeclaration && node.isPrivate then fieldSite? name around node
      else node.children.findSome? (findField name (node :: around)) := by
  rw [← findFieldAmong_eq]
  obtain ⟨kind, role, text, filled, firstRow, lastRow, children⟩ := node
  rw [findField]

/-- A node that is no declaration of fields leaves the search to the nodes below it. -/
theorem findField_of_ne {node : Node} (h : node.kind ≠ .fieldDeclaration) (name : Text)
    (around : List Node) :
    findField name around node = node.children.findSome? (findField name (node :: around)) := by
  rw [findField_eq, if_neg (by simp [h])]

/-- No field is declared at or below a node. -/
inductive Node.FieldFree : Node → Prop
  /-- The node declares no field, and neither does a node below it. -/
  | intro {node : Node} (kind : node.kind ≠ .fieldDeclaration)
      (children : ∀ child ∈ node.children, child.FieldFree) : node.FieldFree

/-- Nothing is found where no field is declared. -/
theorem findField_of_fieldFree {node : Node} (h : node.FieldFree) (name : Text)
    (around : List Node) : findField name around node = none := by
  induction h generalizing around with
  | @intro node kind children ih =>
    rw [findField_of_ne kind, List.findSome?_eq_none_iff]
    exact fun child hchild => ih child hchild _

/-- A node without nodes below it declares no field, unless it is a field. -/
theorem fieldFree_of_children_eq_nil {node : Node} (hkind : node.kind ≠ .fieldDeclaration)
    (h : node.children = []) : node.FieldFree :=
  .intro hkind (by simp [h])

/-! ## Attributes -/

/-- Whether an attribute list begins on a row is read off the rows of all attribute lists. -/
theorem any_attributeList (method : Node) (row : Nat) :
    (method.children.any fun child => child.kind = .attributeList && child.firstRow = row) =
      ((method.childrenOf .attributeList).map (·.firstRow)).contains row := by
  rw [Bool.eq_iff_iff, List.any_eq_true, List.contains_iff_mem, List.mem_map]
  simp only [Bool.and_eq_true, decide_eq_true_eq, Node.childrenOf, List.mem_filter, and_assoc]

end CSharp

end FieldInjection
