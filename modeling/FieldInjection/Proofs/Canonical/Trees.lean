import FieldInjection.Proofs.Canonical.Markers
import FieldInjection.Proofs.SyntaxTrees

/-!
# Syntax trees of canonical classes

The syntax tree of a canonical class has a node for the class, with its base types and its body, and
in the body a node for each declaration of fields and one for each method, on the rows on which
these were written.  Whatever else the tree holds, a field is located in it as it is on the lines.

## Main Definitions

* `IsFieldDeclaration`, `IsMethodDeclaration`: the nodes of the members.
* `IsClassTree`: the tree of a canonical class.
* `ReadsClass`: a parser makes this tree of a canonical class.

## Main Statements

* `exists_findField_fields`: a field is found where it is declared.
* `findMethod_of_isClassBody`: the method is found if its marker counts.
* `locateBelow_of_isClassTree`: the location of a field in the tree.
-/

namespace FieldInjection

open FieldInjection.CSharp

/-! ## Nodes of members -/

/-- The declarator of a name, on the given row. -/
structure IsDeclarator (row : Nat) (name : Text) (node : Node) : Prop where
  /-- The declarator begins on the row. -/
  firstRow : node.firstRow = row
  /-- The name is below it, as its name or, if none of its nodes is marked as such, as its first
  identifier. -/
  name : ∃ inner, (node.child? .name = some inner ∨
    node.child? .name = none ∧ node.children.find? (·.kind = .identifier) = some inner) ∧
      inner.text = name

/-- A declaration of private fields of one type, on the given row. -/
structure IsFieldDeclaration (row : Nat) (group : Text × List Text) (node : Node) : Prop where
  /-- `private` is one of its modifiers. -/
  isPrivate : ∃ modifier ∈ node.childrenOf .modifier, modifier.text = "private".toList
  /-- The type and the names are below a node of their own. -/
  declared : ∃ declared type, node.childrenOf .variableDeclaration = [declared] ∧
    declared.child? .type = some type ∧ type.text = group.1 ∧
      List.Forall₂ (IsDeclarator row) group.2 (declared.childrenOf .variableDeclarator)

/-- What is known of a method. -/
structure MethodOutline where
  /-- The rows on which its attribute lists begin. -/
  attributeRows : List Nat
  /-- Its name. -/
  name : Text
  /-- The row of its name. -/
  nameRow : Nat
  /-- The names of its parameters. -/
  parameters : List Text
  /-- The row on which its body begins. -/
  bodyStart : Nat
  /-- The row on which its body ends. -/
  bodyEnd : Nat

/-- A parameter of the given name. -/
def IsParameter (name : Text) (node : Node) : Prop :=
  ∃ inner, node.child? .name = some inner ∧ inner.text = name

/-- A method as it is outlined. -/
structure IsMethodDeclaration (outline : MethodOutline) (node : Node) : Prop where
  /-- The attribute lists are among the nodes below it. -/
  attributes : (node.childrenOf .attributeList).map (·.firstRow) = outline.attributeRows
  /-- So is the name. -/
  name : ∃ inner, node.child? .name = some inner ∧ inner.text = outline.name ∧
    inner.firstRow = outline.nameRow
  /-- The parameters are below a node of their own. -/
  parameters : ∃ list, node.child? .parameters = some list ∧
    List.Forall₂ IsParameter outline.parameters (list.childrenOf .parameter)
  /-- The body is among the nodes below it. -/
  body : ∃ inner, node.child? .body = some inner ∧ inner.firstRow = outline.bodyStart ∧
    inner.lastRow = outline.bodyEnd

/-! ## The tree of a class -/

/-- The rows of the markers behind a blank line on the given row. -/
def MarkerPlace.attributeRows (row : Nat) : MarkerPlace → List Nat
  | .ownLine | .inline => [row + 1]
  | .stacked => [row + 1, row + 2]

/-- The injection method behind a blank line on the given row. -/
def methodOutline (layout : Layout) (place : MarkerPlace) (row : Nat) (injected : List Dependency) :
    MethodOutline :=
  let nameRow := row + place.linesAbove.length
  let bodyRow := nameRow + (layout.braceLines indentStep).length
  ⟨place.attributeRows row, "InjectDependencies".toList, nameRow, injected.map (·.parameter),
    bodyRow, bodyRow + injected.length + 1⟩

/-- The method behind it, with a blank line on the given row before it. -/
def updateOutline (layout : Layout) (row : Nat) : MethodOutline :=
  let bodyRow := row + 1 + (layout.braceLines indentStep).length
  ⟨[], "Update".toList, row + 1, [], bodyRow, bodyRow + 2⟩

/-- The methods behind the fields, where these end on the given row. -/
def methodOutlines (layout : Layout) (place : MarkerPlace) (row : Nat)
    (injected : List Dependency) :
    List MethodOutline :=
  (if injected.isEmpty then [] else [methodOutline layout place row injected]) ++
    [updateOutline layout (row + (layout.markedPart place injected).length)]

section Predicates

variable (layout : Layout) (place : MarkerPlace) (dependencies : List Dependency)

/-- The body of a canonical class. -/
structure IsClassBody (body : Node) : Prop where
  /-- It is a list of declarations. -/
  kind : body.kind = .declarationList
  /-- It begins on the row of the opening brace. -/
  firstRow : body.firstRow = (markedSpan layout place dependencies).startLine
  /-- It ends on the row of the closing brace. -/
  lastRow : body.lastRow = (markedSpan layout place dependencies).endLine
  /-- The fields are declared on a row each. -/
  fields : List.Forall₂ (fun entry => IsFieldDeclaration entry.2 entry.1)
    ((layout.groups dependencies).zipIdx layout.classStart.length)
      (body.childrenOf .fieldDeclaration)
  /-- The methods follow on the rows behind them. -/
  methods : List.Forall₂ IsMethodDeclaration
    (methodOutlines layout place (layout.classStart.length + (layout.groups dependencies).length)
      (injectedFirst dependencies)) (body.childrenOf .methodDeclaration)
  /-- Nothing else in the body declares a field. -/
  others : ∀ child ∈ body.children, child.kind ≠ .fieldDeclaration → child.FieldFree

/-- A canonical class. -/
structure IsClassDeclaration (owner : Node) : Prop where
  /-- The class derives from the base type. -/
  bases : ∃ list ∈ owner.childrenOf .baseList, list.text = ": MonoBehaviour".toList
  /-- The members are in the body. -/
  body : ∃ body, owner.child? .body = some body ∧ IsClassBody layout place dependencies body
  /-- No field is declared outside the body. -/
  others : ∀ child ∈ owner.children, child.role ≠ some .body → child.FieldFree

/-- The tree of a document with a canonical class. -/
structure IsClassTree (root : Node) : Prop where
  /-- The root declares no field itself. -/
  kind : root.kind ≠ .fieldDeclaration
  /-- There is one class. -/
  owner : ∃ owner, root.childrenOf .classDeclaration = [owner] ∧
    IsClassDeclaration layout place dependencies owner
  /-- No field is declared outside the class. -/
  others : ∀ child ∈ root.children, child.kind ≠ .classDeclaration → child.FieldFree

/-- A parser reads a document with a canonical class without a fault, as the tree of such a
document. -/
def ReadsClass (parser : SyntaxParser) : Prop :=
  ∃ root, parser (markedSource layout place dependencies) = .ok ⟨false, root⟩ ∧
    IsClassTree layout place dependencies root

end Predicates

/-! ## Fields -/

theorem IsDeclarator.declaredName {row : Nat} {name : Text} {node : Node}
    (h : IsDeclarator row name node) : node.declaredName?.map (·.text) = some name := by
  obtain ⟨inner, hinner | ⟨hnone, hinner⟩, rfl⟩ := h.name
  · rw [Node.declaredName?, hinner]
    rfl
  · rw [Node.declaredName?, hnone, hinner]
    rfl

theorem IsDeclarator.any_declaredName {row : Nat} {name other : Text} {node : Node}
    (h : IsDeclarator row name node) :
    node.declaredName?.any (·.text = other) = decide (name = other) := by
  obtain ⟨inner, hinner, rfl⟩ := Option.map_eq_some_iff.mp h.declaredName
  rw [hinner, Option.any_some]

/-- Among declarators on one row, the one of a name is found. -/
theorem find?_declarators {row : Nat} {names : List Text} {nodes : List Node}
    (h : List.Forall₂ (IsDeclarator row) names nodes) (name : Text) :
    (nodes.find? fun node => node.declaredName?.any (·.text = name)).map (·.firstRow) =
      if name ∈ names then some row else none := by
  induction h with
  | nil => rfl
  | @cons first node names nodes hfirst _ ih =>
    rw [List.find?_cons, hfirst.any_declaredName]
    by_cases heq : first = name
    · simp [heq, hfirst.firstRow]
    · simp [heq, ih, Ne.symm heq]

/-- Among the nodes of a declaration, the declarator of a name is found. -/
theorem find?_declares {row : Nat} {names : List Text} {declared : Node}
    (h : List.Forall₂ (IsDeclarator row) names (declared.childrenOf .variableDeclarator))
    (name : Text) :
    (declared.children.find? (Node.declares name)).map (·.firstRow) =
      if name ∈ names then some row else none := by
  have hsame : Node.declares name = fun node =>
      decide (decide (node.kind = .variableDeclarator) = true ∧
        node.declaredName?.any (·.text = name) = true) := by
    funext node
    rw [Node.declares, Bool.decide_and, Bool.decide_eq_true, Bool.decide_eq_true]
  have hfound := find?_declarators h name
  rwa [Node.childrenOf, List.find?_filter, ← hsame] at hfound

section Declaration

variable {row : Nat} {group : Text × List Text} {node : Node}
    (h : IsFieldDeclaration row group node)

include h

theorem IsFieldDeclaration.isPrivate_eq : node.isPrivate = true := by
  obtain ⟨modifier, hmem, htext⟩ := h.isPrivate
  exact List.any_eq_true.mpr ⟨modifier, (List.mem_filter.mp hmem).1,
    by simp [Node.kind_of_mem_childrenOf hmem, htext]⟩

/-- The site of a name in a declaration of fields. -/
theorem IsFieldDeclaration.fieldSite (name : Text) (around : List Node) :
    (fieldSite? name around node).map (fun site =>
      (site.declarator.firstRow, site.declaredType, site.around)) =
      if name ∈ group.2 then some (row, group.1, around) else none := by
  obtain ⟨declared, type, hdeclared, htype, htext, hnames⟩ := h.declared
  have hfirst : node.children.find? (·.kind = .variableDeclaration) = some declared := by
    rw [Node.find?_kind, hdeclared, List.head?_cons]
  have hdeclares := find?_declares hnames name
  rw [fieldSite?, hfirst]
  simp only [Option.bind_eq_bind, Option.bind_some]
  split
  · next hnone => simp [htype] at hnone
  · next other hother =>
    obtain rfl : type = other := Option.some.inj (htype.symm.trans hother)
    cases hsearch : declared.children.find? (Node.declares name) with
    | none =>
      rw [hsearch, Option.map_none] at hdeclares
      rw [Option.bind_none, Option.map_none]
      split
      · next hmem => simp [hmem] at hdeclares
      · rfl
    | some declarator =>
      rw [hsearch, Option.map_some] at hdeclares
      split at hdeclares
      · next hmem =>
        rw [if_pos hmem, ← Option.some.inj hdeclares, ← htext]
        rfl
      · simp at hdeclares

end Declaration

/-- A field is found where it is declared. -/
theorem exists_findField_fields {groups : List (Text × List Text)} {row : Nat} {nodes : List Node}
    (hnodup : (groups.flatMap (·.2)).Nodup)
    (h : List.Forall₂ (fun entry => IsFieldDeclaration entry.2 entry.1) (groups.zipIdx row) nodes)
    (hkind : ∀ node ∈ nodes, node.kind = .fieldDeclaration) {field : FieldReference}
    (hfield : field ∈ declaredFields row groups) (around : List Node) :
    ∃ site, nodes.findSome? (findField field.name around) = some site ∧
      site.declarator.firstRow = field.line ∧ site.declaredType = field.declaredType ∧
        site.around = around := by
  induction groups generalizing row nodes with
  | nil => simp [declaredFields] at hfield
  | cons group groups ih =>
    rw [List.zipIdx_cons, List.forall₂_cons_left_iff] at h
    obtain ⟨node, nodes, hnode, hrest, rfl⟩ := h
    rw [List.flatMap_cons, List.nodup_append] at hnodup
    have hsite := hnode.fieldSite field.name around
    rw [List.findSome?_cons, findField_eq, if_pos (by simp [hkind node, hnode.isPrivate_eq])]
    rw [declaredFields, List.mem_append] at hfield
    rcases hfield with hfield | hfield
    · obtain ⟨name, hname, rfl⟩ := List.mem_map.mp hfield
      rw [if_pos hname] at hsite
      obtain ⟨site, hfound, heq⟩ := Option.map_eq_some_iff.mp hsite
      simp only [Prod.mk.injEq] at heq
      exact ⟨site, by rw [hfound], heq⟩
    · -- a name is declared once, so the declarations before that of the field do not have it
      have hlater : field.name ∈ groups.flatMap (·.2) := by
        rw [← map_name_declaredFields (row + 1)]
        exact List.mem_map_of_mem hfield
      rw [if_neg fun hmem => hnodup.2.2 _ hmem _ hlater rfl] at hsite
      rw [Option.map_eq_none_iff.mp hsite]
      exact ih hnodup.2.1 hrest (fun other hother => hkind other
        (List.mem_cons_of_mem _ hother)) hfield

/-! ## The method -/

/-- Whether an outlined method carries the marker: alone on the line above its name, and as the
beginning of one of its attribute lists. -/
def MethodOutline.isMarked (lines : List Text) (marker : Text) (outline : MethodOutline) : Bool :=
  match outline.nameRow with
  | 0 => false
  | row + 1 => (lines[row]?).any (·.trim = marker) && outline.attributeRows.contains row

/-- The parameters of the written method are read off its signature. -/
theorem parameterNames_methodSignature (layout : Layout) (injected : List Dependency) :
    parameterNames (methodSignature injected ++ layout.braceBehind) =
      injected.map (·.parameter) := by
  -- the line of a field does not matter for its parameter
  have hsignature : methodSignature injected ++ layout.braceBehind = signatureWith
      (indentStep ++ "private void InjectDependencies".toList)
      (injected.map fun dependency => ⟨dependency.name, dependency.type, 0⟩)
        layout.braceBehind := by
    rw [@methodSignature_eq injected (fun dependency => ⟨dependency.name, dependency.type, 0⟩)
      fun _ _ => ⟨rfl, rfl⟩]
    simp only [signatureWith, List.append_assoc, List.cons_append, List.nil_append]
  have hfree : ∀ c ∈ indentStep ++ "private void InjectDependencies".toList ++ layout.braceBehind,
      c ∉ ['(', ')', '=', ';'] := by
    rcases layout with ⟨_ | _, _ | _, _ | _⟩ <;> decide
  rw [hsignature, parameterNames_of_parenthesized (parenthesized?_signatureWith hfree),
    listedNames_parameterText, List.map_map]
  · exact List.map_congr_left fun dependency _ => dependency.parameterName_name
  · intro field hfield
    obtain ⟨dependency, -, rfl⟩ := List.mem_map.mp hfield
    exact (dependency.isRegular rfl rfl).toIsListable

section Method

variable {layout : Layout} {place : MarkerPlace} {groups : List (Text × List Text)}
    {injected : List Dependency} {after : List Text} {snapshot : Snapshot} (hne : injected ≠ [])

include hne

/-- The lines above the signature. -/
theorem getElem?_linesAbove (hlines : snapshot.lines = layout.classStart ++ (groups.map fieldLine ++
      (layout.markedPart place injected ++ layout.updatePart ++ [closeBrace] :: after)))
    {index : Nat} (hindex : index < place.linesAbove.length) :
    snapshot.lines[layout.classStart.length + groups.length + index]? =
      place.linesAbove[index]? := by
  have hfields : (groups.map fieldLine).length = groups.length := List.length_map _
  rw [hlines, Nat.add_assoc, List.getElem?_append_right (Nat.le_add_right _ _),
    Nat.add_sub_cancel_left, List.getElem?_append_right (by omega), hfields,
    Nat.add_sub_cancel_left, Layout.markedPart, if_neg (by simpa using hne), List.append_assoc,
    List.append_assoc, List.getElem?_append_left hindex]

/-- The method carries the marker exactly if this stands alone on the line above. -/
theorem isMarked_methodOutline
    (hlines : snapshot.lines = layout.classStart ++ (groups.map fieldLine ++
      (layout.markedPart place injected ++ layout.updatePart ++ [closeBrace] :: after))) :
    (methodOutline layout place (layout.classStart.length + groups.length) injected).isMarked
      snapshot.lines Configuration.standard.marker.trim = decide (place = .ownLine) := by
  -- only the line right above the signature counts, so the places differ in what stands there
  have habove : ∀ index, place.linesAbove.length = index + 1 →
      (methodOutline layout place (layout.classStart.length + groups.length) injected).isMarked
        snapshot.lines Configuration.standard.marker.trim =
        ((place.linesAbove[index]?).any (·.trim = Configuration.standard.marker.trim) &&
          (place.attributeRows (layout.classStart.length + groups.length)).contains
            (layout.classStart.length + groups.length + index)) := by
    intro index hlength
    have hrow : (methodOutline layout place (layout.classStart.length + groups.length)
        injected).nameRow = layout.classStart.length + groups.length + index + 1 := by
      simp only [methodOutline, hlength, Nat.add_assoc]
    rw [MethodOutline.isMarked, hrow, ← getElem?_linesAbove hne hlines (show index < _ by omega)]
    rfl
  cases place with
  | ownLine => rw [habove 1 rfl, MarkerPlace.attributeRows, List.contains_cons, BEq.rfl]; rfl
  | inline => rw [habove 0 rfl]; rfl
  | stacked => rw [habove 2 rfl]; rfl

/-- The body of the method opens where it can be extended. -/
theorem opensUsably_classMethod
    (hlines : snapshot.lines = layout.classStart ++ (groups.map fieldLine ++
      (layout.methodPart injected ++ layout.updatePart ++ [closeBrace] :: after))) :
    opensUsably snapshot.lines (classMethod layout groups injected).signatureLine
      (classMethod layout groups injected).bodyStartLine = true := by
  have hsignature := getElem?_signatureLine hlines hne
  have hstart : (classMethod layout groups injected).bodyStartLine =
      (classMethod layout groups injected).signatureLine + (layout.braceLines indentStep).length :=
      rfl
  rw [opensUsably, hstart]
  by_cases hbehind : layout.bracesBehind = true
  · -- the brace ends the line of the signature
    have hlast : (methodSignature injected ++ layout.braceBehind).trimEnd.getLast? =
        some openBrace := by
      rw [Layout.braceBehind, if_pos hbehind, ← List.singleton_append, ← List.append_assoc,
        Text.trimEnd_append_singleton (by decide), List.getLast?_concat]
    rw [Layout.braceLines, if_pos hbehind, hsignature]
    simp [hlast]
  · -- the brace stands alone on the next line
    have hbrace : snapshot.lines[(classMethod layout groups injected).signatureLine + 1]? =
        some (indentStep ++ [openBrace]) := by
      rw [lines_eq_of_ne_nil hlines hne, ← length_lines_before layout groups injected,
        List.getElem?_append_right (by omega), Nat.add_sub_cancel_left, Layout.opened,
        Layout.braceLines, if_neg hbehind]
      rfl
    have hopening : Snapshot.isOpeningLine (indentStep ++ [openBrace]) = true := by decide
    rw [Layout.braceLines, if_neg hbehind, List.length_singleton, hbrace, Option.any_some, hopening]
    simp

end Method

/-- The names of some parameters. -/
theorem filterMap_parameters {names : List Text} {nodes : List Node}
    (h : List.Forall₂ IsParameter names nodes) :
    (nodes.filterMap fun node => (node.child? .name).map (·.text)) = names := by
  induction h with
  | nil => rfl
  | cons hfirst _ ih =>
    obtain ⟨inner, hinner, rfl⟩ := hfirst
    rw [List.filterMap_cons, hinner, Option.map_some]
    exact congrArg (inner.text :: ·) ih

section Declaration

variable {outline : MethodOutline} {node : Node} (h : IsMethodDeclaration outline node)

include h

theorem IsMethodDeclaration.hasMarkerLine_eq (lines : List Text) (marker : Text) :
    hasMarkerLine lines marker outline.nameRow node = outline.isMarked lines marker := by
  rw [MethodOutline.isMarked]
  cases outline.nameRow with
  | zero => rfl
  | succ row => simp only [hasMarkerLine, any_attributeList, h.attributes]

/-- A method is taken for the injection method by its name and its marker. -/
theorem IsMethodDeclaration.markedRow (hkind : node.kind = .methodDeclaration) (lines : List Text)
    (config : Configuration) :
    markedRow? lines config node =
      if outline.name = config.methodName ∧ outline.isMarked lines config.marker.trim = true then
        some outline.nameRow
      else none := by
  obtain ⟨inner, hinner, hname, hrow⟩ := h.name
  rw [markedRow?, if_pos hkind, hinner]
  simp only [Option.bind_eq_bind, Option.bind_some, hname, hrow, h.hasMarkerLine_eq,
    Bool.and_eq_true, decide_eq_true_eq]
  rfl

/-- A method without the reserved name or without a marker is passed over. -/
theorem IsMethodDeclaration.markedRow_eq_none (hkind : node.kind = .methodDeclaration)
    (lines : List Text) {config : Configuration}
    (hunmarked : ¬ (outline.name = config.methodName ∧
      outline.isMarked lines config.marker.trim = true)) : markedRow? lines config node = none := by
  rw [h.markedRow hkind, if_neg hunmarked]

/-- The parameters of a method are read off the list of its parameters. -/
theorem IsMethodDeclaration.parameterNames_eq : node.parameterNames = outline.parameters := by
  obtain ⟨list, hlist, hparameters⟩ := h.parameters
  rw [Node.parameterNames, hlist]
  exact filterMap_parameters hparameters

/-- A method whose body opens where it can be extended is an injection method. -/
theorem IsMethodDeclaration.asInjectionMethod_eq {lines : List Text} (config : Configuration)
    (hopens : opensUsably lines outline.nameRow outline.bodyStart = true)
    (hrows : outline.bodyStart < outline.bodyEnd) :
    asInjectionMethod lines config node outline.nameRow =
      .ok ⟨outline.nameRow, outline.bodyStart, outline.bodyEnd + 1, outline.parameters⟩ := by
  obtain ⟨inner, hinner, hstart, hend⟩ := h.body
  rw [asInjectionMethod, hinner]
  simp only [hstart, hend, hopens, h.parameterNames_eq, Bool.not_true, Bool.false_eq_true, if_false,
    if_neg (Nat.not_le.mpr hrows)]

end Declaration

section Class

variable {layout : Layout} {place : MarkerPlace} {dependencies : List Dependency}

/-- The injection method is looked for among the methods of the class. -/
theorem findSome?_markedRow (lines : List Text) (config : Configuration) (body : Node) :
    (body.children.findSome? fun member => (markedRow? lines config member).map (member, ·)) =
      (body.childrenOf .methodDeclaration).findSome? fun member =>
        (markedRow? lines config member).map (member, ·) := by
  refine findSome?_of_filter fun member _ hkind => ?_
  rw [markedRow?, if_neg (by simpa using hkind)]
  rfl

/-- The method is found if its marker counts. -/
theorem findMethod_of_isClassBody {body : Node} (h : IsClassBody layout place dependencies body) :
    findMethod (markedSnapshot layout place dependencies).lines .standard body =
      .ok (markedMethod? layout place dependencies) := by
  have hkind : ∀ node ∈ body.childrenOf .methodDeclaration, node.kind = .methodDeclaration :=
    fun _ => Node.kind_of_mem_childrenOf
  have hother : "Update".toList ≠ Configuration.standard.methodName := by decide
  have hmethods := h.methods
  rw [methodOutlines] at hmethods
  rw [findMethod, findSome?_markedRow, markedMethod?, classMethod?]
  generalize body.childrenOf .methodDeclaration = methods at hkind hmethods
  by_cases hinjected : injectedFirst dependencies = []
  · rw [if_pos (by simpa using hinjected), List.nil_append, List.forall₂_cons_left_iff] at hmethods
    obtain ⟨update, _, hupdate, hnil, rfl⟩ := hmethods
    obtain rfl := List.forall₂_nil_left_iff.mp hnil
    rw [List.findSome?_singleton,
      hupdate.markedRow_eq_none (hkind _ (by simp)) _ fun hmarked => hother hmarked.1]
    simp [hinjected]
  · rw [if_neg (by simpa using hinjected), List.singleton_append, List.forall₂_cons_left_iff]
      at hmethods
    obtain ⟨method, _, hmethod, hrest, rfl⟩ := hmethods
    rw [List.forall₂_cons_left_iff] at hrest
    obtain ⟨update, _, hupdate, hnil, rfl⟩ := hrest
    obtain rfl := List.forall₂_nil_left_iff.mp hnil
    have hrow := hmethod.markedRow (hkind _ (by simp))
      (markedSnapshot layout place dependencies).lines .standard
    rw [isMarked_methodOutline hinjected lines_markedSnapshot] at hrow
    rw [List.findSome?_cons, List.findSome?_singleton, hrow, if_neg hinjected,
      hupdate.markedRow_eq_none (hkind _ (by simp)) _ fun hmarked => hother hmarked.1]
    by_cases hplace : place = .ownLine
    · subst hplace
      have hopens := opensUsably_classMethod hinjected
        (lines_classSnapshot : (classSnapshot layout dependencies).lines = _)
      have hread := hmethod.asInjectionMethod_eq .standard (markedSnapshot_ownLine ▸ hopens)
        (by simp only [methodOutline]; omega)
      rw [if_pos ⟨rfl, decide_eq_true rfl⟩, Option.map_some, if_pos rfl]
      simp only
      rw [hread, classMethod, parameterNames_methodSignature]
      rfl
    · rw [if_neg fun hmarked => hplace (of_decide_eq_true hmarked.2), if_neg hplace]
      rfl

/-- A field is found in the body of the class, with the nodes around it. -/
theorem exists_findField_root (hdistinct : (dependencies.map (parameterName ·.name)).Nodup)
    {root owner body : Node} (hroot : IsClassTree layout place dependencies root)
    (howners : root.childrenOf .classDeclaration = [owner])
    (howner : IsClassDeclaration layout place dependencies owner)
    (hbody : owner.child? .body = some body) (hclass : IsClassBody layout place dependencies body)
    {field : FieldReference} (hfield : field ∈ classFields layout dependencies) :
    ∃ site, findField field.name [] root = some site ∧ site.declarator.firstRow = field.line ∧
      site.declaredType = field.declaredType ∧ site.around = [body, owner, root] := by
  have hkind : owner.kind = .classDeclaration :=
    Node.kind_of_mem_childrenOf (howners ▸ List.mem_singleton_self owner)
  obtain ⟨site, hfound, hsite⟩ := exists_findField_fields (nodup_names_groups hdistinct)
    hclass.fields (fun _ => Node.kind_of_mem_childrenOf) hfield [body, owner, root]
  -- from the body outwards, only the node on the way to the field can answer
  have hinBody : findField field.name [owner, root] body = some site := by
    rw [findField_of_ne (by simp [hclass.kind]), ← hfound]
    exact findSome?_of_filter fun child hchild hother =>
      findField_of_fieldFree (hclass.others child hchild (by simpa using hother)) _ _
  have hinOwner : findField field.name [root] owner = some site := by
    rw [findField_of_ne (by simp [hkind])]
    exact findSome?_of_find? hbody hinBody fun child hchild hother =>
      findField_of_fieldFree (howner.others child hchild (by simpa using hother)) _ _
  refine ⟨site, ?_, hsite⟩
  rw [findField_of_ne hroot.kind]
  have hfirst : root.children.find? (·.kind = .classDeclaration) = some owner := by
    rw [Node.find?_kind, howners, List.head?_cons]
  exact findSome?_of_find? hfirst hinOwner fun child hchild hother =>
    findField_of_fieldFree (hroot.others child hchild (by simpa using hother)) _ _

/-- A field is located in the tree as it is on the lines. -/
theorem locateBelow_of_isClassTree (hdistinct : (dependencies.map (parameterName ·.name)).Nodup)
    {root : Node} (h : IsClassTree layout place dependencies root) {field : FieldReference}
    (hfield : field ∈ classFields layout dependencies) :
    locateBelow root (markedSnapshot layout place dependencies).lines field.name .standard =
      .ok ⟨field, markedSpan layout place dependencies,
        markedMethod? layout place dependencies⟩ := by
  obtain ⟨owner, howners, howner⟩ := h.owner
  obtain ⟨body, hbody, hclass⟩ := howner.body
  obtain ⟨site, hsite, hrow, htype, haround⟩ :=
    exists_findField_root hdistinct h howners howner hbody hclass hfield
  have hkind : owner.kind = .classDeclaration :=
    Node.kind_of_mem_childrenOf (howners ▸ List.mem_singleton_self owner)
  have hcontains : containingClass site.around = some owner := by
    rw [haround, containingClass, if_pos (by simp [hclass.kind, hkind])]
  have hderives : owner.derivesFrom Configuration.standard.baseType = true := by
    obtain ⟨list, hlist, htext⟩ := howner.bases
    exact List.any_eq_true.mpr ⟨list, hlist, by rw [htext]; decide⟩
  rw [locateBelow, hsite]
  simp only [hcontains, Option.filter_some, hderives, if_true, hbody,
    findMethod_of_isClassBody hclass, hrow, htype, hclass.firstRow, hclass.lastRow]
  rfl

end Class

end FieldInjection
