import FieldInjection.Proofs.CSharp.Documents
import FieldInjection.Proofs.Canonical.ClassDeclarations
import FieldInjection.Proofs.Canonical.Pieces

/-!
# Reading canonical classes

The tokens of a canonical class are read as its tree.  Members and assignments take a line each,
apart from the methods, so the rows in the tree are counted along with the lines.

## Main Statements

* `memberRule_fieldPieces`, `memberRule_methodPieces`, `memberRule_updatePieces`: the members of a
  canonical class are read.
* `readsClass_parse`: a canonical class is read as its tree.
-/

namespace FieldInjection

open FieldInjection.CSharp FieldInjection.CSharp.Parser

/-! ## Names -/

theorem Dependency.any_isUpper_parameter (dependency : Dependency) :
    dependency.parameter.any Char.isUpper = true := by
  have hword : "Service".toList.any Char.isUpper = true := by decide
  rw [parameter, List.any_append, hword, Bool.or_true]

/-- Its capital letter tells a parameter from all keywords. -/
theorem Dependency.isPlainName_parameter (dependency : Dependency) :
    isPlainName dependency.parameter = true :=
  isPlainName_of_capital dependency.isAsciiName_parameter dependency.any_isUpper_parameter

/-- The name of a field has the same capital letter. -/
theorem Dependency.isPlainName_name (dependency : Dependency) :
    isPlainName dependency.name = true := by
  refine isPlainName_of_capital dependency.isAsciiName_name ?_
  rw [name, List.any_append, dependency.any_isUpper_parameter, Bool.or_true]

/-! ## Rows -/

@[simp] theorem lineFeeds_nextLine : lineFeeds nextLine = 1 := by decide

@[simp] theorem lineFeeds_nextPart : lineFeeds nextPart = 2 := by decide

@[simp] theorem lineFeeds_nextStatement : lineFeeds nextStatement = 1 := by decide

/-- Items with a line each are taken one by one, and their rows are counted on. -/
theorem repeats_lines {ι α : Type} {parser : Parser α} {items : List ι} {pieces : ι → List Piece}
    {rest last : List Token} {values : List α} (valueOf : Nat → ι → α)
    (htaken : ∀ item ∈ items, ∀ row behind,
      parser (tokensFrom row (pieces item) ++ behind) = some (valueOf (row + 1) item, behind))
    (hrows : ∀ item ∈ items, rowsOf (pieces item) = 1) (hrest : Repeats parser rest values last)
    (row : Nat) :
    Repeats parser (tokensFrom row (items.flatMap pieces) ++ rest)
      ((items.zipIdx (row + 1)).map (fun entry => valueOf entry.2 entry.1) ++ values) last := by
  induction items generalizing row with
  | nil => exact hrest
  | cons item items ih =>
    -- an item goes down a row, so it has a token that is taken
    have hlines := hrows item (by simp)
    have hfilled : pieces item ≠ [] := by
      intro hnil
      simp [hnil, rowsOf] at hlines
    have hothers := ih (fun other hother => htaken other (by simp [hother]))
      (fun other hother => hrows other (by simp [hother])) (row + 1)
    rw [List.flatMap_cons, tokensFrom_append, hlines, List.append_assoc, List.zipIdx_cons,
      List.map_cons, List.cons_append]
    refine .step (htaken item (by simp) row _) ?_ ?_
    · have hlength := List.length_pos_iff.mpr hfilled
      simp only [List.length_append, length_tokensFrom]
      omega
    · exact hothers

/-! ## Fields -/

section Fields

variable {shape : Text → Text × List Piece} {depth : Nat}

/-- A declaration of fields is a member. -/
theorem memberRule_fieldPieces {group : Text × List Text} (hgroup : IsGroup group)
    (hplain : ∀ name ∈ group.2, isPlainName name = true)
    (h : TypeShape group.1 (shape group.1).1 (shape group.1).2)
    (hdepth : (shape group.1).2.length ≤ depth) (row : Nat) (behind : List Token) :
    memberRule (.atDepth depth) (tokensFrom row (fieldPieces shape group) ++ behind) =
      some (groupDeclaration (row + 1) group, behind) := by
  have haccess : IsWord ((Piece.word nextLine "private".toList).token (row + 1)) "private".toList :=
    isWord_token (by decide) _
  have hstop : IsMark ((Piece.mark [] ';').token (row + 1)) ';' := isMark_token (by decide) _
  have hfilled := isAllBlank_of_isGroup hgroup
  rw [fieldPieces, tokensFrom, Piece.leading_word, lineFeeds_nextLine,
    tokensFrom_of_isLevel (isLevel_fieldTail h), List.map_append, List.map_append, List.cons_append,
    List.append_assoc, List.append_assoc, groupDeclaration, dif_pos hfilled]
  exact memberRule_field h hdepth hgroup.ne_nil hplain haccess hstop hfilled [' '] (row + 1) behind

end Fields

/-! ## Methods -/

/-- The assignment of a dependency is a statement. -/
theorem statementRule_assignmentPieces (rules : Rules) (dependency : Dependency) (row : Nat)
    (behind : List Token) :
    statementRule rules.level (tokensFrom row (assignmentPieces dependency) ++ behind) =
      some ((), behind) := by
  rw [assignmentPieces]
  simp only [tokensFrom, List.cons_append, List.nil_append]
  exact statementRule_assignment rules (isWord_token dependency.isAsciiName_name _)
    dependency.isPlainName_name (isMark_token (by decide) _)
    (isWord_token dependency.isAsciiName_parameter _) dependency.isPlainName_parameter
    (isMark_token (by decide) _)

/-- The body of the injection method is a block. -/
theorem block_assignments (rules : Rules) {start : Token} (hstart : IsMark start openBrace)
    (injected : List Dependency) (behind : List Token) :
    block rules.level.level (start :: (tokensFrom start.row (injected.flatMap assignmentPieces ++
      [.mark nextLine closeBrace]) ++ behind)) =
      some (⟨start.row, start.row + injected.length + 1⟩, behind) := by
  have hrows : rowsOf (injected.flatMap assignmentPieces) = injected.length := by
    rw [(WritesLines.flatMap fun dependency (_ : dependency ∈ injected) =>
      writesLines_assignmentPieces dependency).rows, List.length_map]
  have hclose : IsMark ((Piece.mark nextLine closeBrace).token (start.row + injected.length + 1))
      closeBrace := isMark_token (by decide) _
  have hstatements := repeats_lines (fun _ _ => ())
    (fun dependency (_ : dependency ∈ injected) row behind =>
      statementRule_assignmentPieces rules dependency row behind)
    (fun dependency _ => (writesLines_assignmentPieces dependency).rows)
    (.done (statementRule_closeBrace rules.level hclose : statementRule rules.level (_ :: behind) =
      none))
    start.row
  rw [tokensFrom_append, hrows, List.append_assoc, tokensFrom, Piece.leading_mark,
    lineFeeds_nextLine, tokensFrom, List.singleton_append]
  exact block_of_repeats hstart hclose hstatements

/-- A marker is read with the row on which it begins. -/
theorem attributeList_attributePieces (rules : Rules) (leading : Text) {name : Text}
    (hname : name ∈ ["Inject".toList, "Preserve".toList]) (row : Nat) (behind : List Token) :
    attributeList rules (tokensFrom row (attributePieces leading name) ++ behind) =
      some (row + lineFeeds leading, behind) := by
  have hnames : ∀ text ∈ ["Inject".toList, "Preserve".toList],
      isAsciiName text = true ∧ text.any Char.isUpper = true ∧
      attributeTargets.lacksWord text = true := by
    decide +kernel
  obtain ⟨hascii, hcapital, htarget⟩ := hnames name hname
  have hplain := isPlainName_of_capital hascii hcapital
  simp only [attributePieces, tokensFrom, Piece.leading_mark, List.cons_append, List.nil_append]
  exact attributeList_of_name rules (isMark_token (by decide) _)
    (isWord_token hascii _) hplain htarget (isMark_token (by decide) _)

/-- The markers are read off the lines above the signature. -/
theorem many_attributeList (rules : Rules) (place : MarkerPlace) (row : Nat) (behind : List Token) :
    many (attributeList rules) (tokensFrom row place.startPieces ++ behind) =
      some (place.attributeRows (row + 1), [Piece.word place.accessGap "private".toList,
        .word [' '] "void".toList, .word [' '] "InjectDependencies".toList].map
          (·.token (row + 1 + place.linesAbove.length)) ++ behind) := by
  have hrows : row + rowsOf place.pieces + lineFeeds place.accessGap =
      row + 1 + place.linesAbove.length := by
    have hfeeds : rowsOf place.pieces + lineFeeds place.accessGap =
        1 + place.linesAbove.length := by
      cases place <;> decide +kernel
    omega
  have haccess : IsWord ((Piece.word place.accessGap "private".toList).token
      (row + 1 + place.linesAbove.length)) "private".toList := isWord_token (by decide) _
  rw [MarkerPlace.startPieces, tokensFrom_append, List.append_assoc]
  simp only [tokensFrom, Piece.leading_word, lineFeeds_blank, Nat.add_zero, hrows, List.map_cons,
    List.map_nil, List.cons_append, List.nil_append]
  have hdone := Repeats.done ((beginsWith_attributeList rules).reject_word haccess (by decide) :
    attributeList rules (_ :: (Piece.word [' '] "void".toList).token
      (row + 1 + place.linesAbove.length) :: (Piece.word [' '] "InjectDependencies".toList).token
        (row + 1 + place.linesAbove.length) :: behind) =
        none)
  have hinject := attributeList_attributePieces rules nextPart
    (by decide : "Inject".toList ∈ ["Inject".toList, "Preserve".toList]) row
  have hpreserve := attributeList_attributePieces rules nextLine
    (by decide : "Preserve".toList ∈ ["Inject".toList, "Preserve".toList]) (row + 2)
  -- the places differ in the markers that are read before the keyword is reached
  refine many_of_repeats ?_
  cases place with
  | ownLine =>
    exact .step (hinject _) (by simp [attributePieces, tokensFrom, MarkerPlace.pieces]) hdone
  | inline =>
    exact .step (hinject _) (by simp [attributePieces, tokensFrom, MarkerPlace.pieces]) hdone
  | stacked =>
    rw [MarkerPlace.pieces, tokensFrom_append, List.append_assoc]
    refine .step (hinject _) ?_ (.step (hpreserve _) ?_ hdone)
    · simp [attributePieces, tokensFrom]
    · simp [attributePieces, tokensFrom]

section Method

variable {layout : Layout} {place : MarkerPlace} {shape : Text → Text × List Piece} {depth : Nat}
    {injected : List Dependency}

/-- The tokens of the injection method, with their rows. -/
theorem tokensFrom_methodPieces (h : HasShapes shape injected) (hne : injected ≠ [])
    {row nameRow bodyRow : Nat} (hname : nameRow = row + 1 + place.linesAbove.length)
    (hbody : bodyRow = nameRow + (layout.braceLines indentStep).length) (behind : List Token) :
    tokensFrom row (methodPieces layout place shape injected) ++ behind =
      tokensFrom row place.startPieces ++ (Piece.mark [] '(').token nameRow ::
        ((parametersPieces shape injected).map (·.token nameRow) ++
          (Piece.mark [] ')').token nameRow ::
          (Piece.mark (layout.braceGap indentStep) openBrace).token bodyRow ::
            (tokensFrom bodyRow (injected.flatMap assignmentPieces ++
              [.mark nextLine closeBrace]) ++
              behind)) := by
  have hfilled : ¬ injected.isEmpty = true := by simpa using hne
  have hpieces : methodPieces layout place shape injected = place.startPieces ++ (.mark [] '(' ::
      (parametersPieces shape injected ++
        (.mark [] ')' :: .mark (layout.braceGap indentStep) openBrace ::
          (injected.flatMap assignmentPieces ++ [.mark nextLine closeBrace])))) := by
    rw [methodPieces, if_neg hfilled, signaturePieces]
    simp only [List.append_assoc, List.cons_append, List.nil_append]
  have hrow : row + rowsOf place.startPieces = nameRow := by
    rw [rowsOf_startPieces]
    omega
  have hlevel := isLevel_parameters h
  rw [hpieces, tokensFrom_append, hrow, List.append_assoc]
  simp only [tokensFrom, Piece.leading_mark, lineFeeds_nil, Nat.add_zero, List.cons_append]
  rw [tokensFrom_append, rowsOf_of_isLevel hlevel, tokensFrom_of_isLevel hlevel]
  simp only [tokensFrom, Piece.leading_mark, lineFeeds_nil, lineFeeds_braceGap, Nat.add_zero,
    ← hbody, List.cons_append, List.append_assoc]

/-- The injection method is a member. -/
theorem memberRule_methodPieces (h : HasShapes shape injected)
    (hdepth : ∀ dependency ∈ injected, (shape dependency.type).2.length ≤ depth + 2)
    (hne : injected ≠ []) (row : Nat) (behind : List Token) :
    memberRule (.atDepth (depth + 2))
      (tokensFrom row (methodPieces layout place shape injected) ++ behind) =
        some (.method (methodOutline layout place (row + 1) injected).declaration, behind) := by
  obtain ⟨nameRow, hnameRow⟩ : ∃ nameRow, nameRow = row + 1 + place.linesAbove.length := ⟨_, rfl⟩
  obtain ⟨bodyRow, hbodyRow⟩ : ∃ bodyRow, bodyRow =
      nameRow + (layout.braceLines indentStep).length :=
    ⟨_, rfl⟩
  -- whatever the place of the marker, the first token is a bracket
  obtain ⟨tail, htail⟩ : ∃ tail, place.startPieces = .mark nextPart '[' :: tail := by
    cases place <;> exact ⟨_, rfl⟩
  have hfirst : IsMark ((Piece.mark nextPart '[').token (row + 2)) '[' := isMark_token (by decide) _
  have hopening : IsMark ((Piece.mark [] '(').token nameRow) '(' := isMark_token (by decide) _
  have hclosing : IsMark ((Piece.mark [] ')').token nameRow) ')' := isMark_token (by decide) _
  have hstart : IsMark ((Piece.mark (layout.braceGap indentStep) openBrace).token bodyRow)
      openBrace :=
    isMark_token (by decide) _
  have hbody := block_assignments (.atDepth depth) hstart injected behind
  have hparameters := @parameterList_listed _ _ hopening hclosing shape
    (injected.map Dependency.entry) (by simpa using hne) (List.forall_mem_map.mpr h) (depth + 2)
      (List.forall_mem_map.mpr hdepth)
        (List.forall_mem_map.mpr fun dependency _ => dependency.isAsciiName_parameter) nameRow
  have hnode : (methodOutline layout place (row + 1) injected).declaration =
      ⟨place.attributeRows (row + 1), "InjectDependencies".toList, nameRow,
        (injected.map Dependency.entry).map (·.2),
        some ⟨bodyRow, bodyRow + injected.length + 1⟩⟩ := by
    rw [MethodOutline.declaration, methodOutline, hbodyRow, hnameRow, List.map_map]
    rfl
  have hattributes := many_attributeList (.atDepth (depth + 2)) place row
  rw [← hnameRow] at hattributes
  rw [tokensFrom_methodPieces h hne hnameRow hbodyRow, hnode]
  rw [htail, tokensFrom, Piece.leading_mark, lineFeeds_nextPart] at hattributes ⊢
  exact memberRule_method (isWord_token (by decide) _) (isWord_token (by decide) _)
    (isPlainName_of_capital (by decide) (by decide)) hopening (isWord_token (by decide) _)
    (admits_directiveHeads_mark hfirst) (hattributes _) (hparameters _) hstart hbody

end Method

/-- The method behind it is a member. -/
theorem memberRule_updatePieces (rules : Rules) (layout : Layout) (row : Nat)
    (behind : List Token) :
    memberRule rules.level.level.level.level (tokensFrom row (updatePieces layout) ++ behind) =
      some (.method (updateOutline layout (row + 1)).declaration, behind) := by
  obtain ⟨bodyRow, hbodyRow⟩ : ∃ bodyRow, bodyRow =
      row + 2 + (layout.braceLines indentStep).length :=
    ⟨_, rfl⟩
  have hnode : (updateOutline layout (row + 1)).declaration = ⟨[], "Update".toList, row + 2, [],
      some ⟨bodyRow, bodyRow + 2⟩⟩ := by
    rw [MethodOutline.declaration, updateOutline, hbodyRow]
  have haccess : IsWord ((Piece.word nextPart "private".toList).token (row + 2)) "private".toList :=
    isWord_token (by decide) _
  have hopening : IsMark ((Piece.mark [] '(').token (row + 2)) '(' := isMark_token (by decide) _
  have hclosing : IsMark ((Piece.mark [] ')').token (row + 2)) ')' := isMark_token (by decide) _
  have hstart : IsMark ((Piece.mark (layout.braceGap indentStep) openBrace).token bodyRow)
      openBrace :=
    isMark_token (by decide) _
  have hclose : IsMark ((Piece.mark nextLine closeBrace).token (bodyRow + 1 + 1)) closeBrace :=
    isMark_token (by decide) _
  rw [updatePieces, hnode]
  simp only [tokensFrom, Piece.leading_word, Piece.leading_mark, lineFeeds_nextPart,
    lineFeeds_nextLine, lineFeeds_nextStatement, lineFeeds_blank, lineFeeds_nil, lineFeeds_braceGap,
    Nat.add_zero, ← hbodyRow, List.cons_append, List.nil_append]
  refine memberRule_method (isWord_token (by decide) _) (isWord_token (by decide) _)
    (isPlainName_of_capital (by decide) (by decide)) hopening haccess
    (admits_directiveHeads_private haccess)
    (many_of_none ((beginsWith_attributeList _).reject_word haccess (by decide)))
    (parameterList_empty hopening hclosing _ _) hstart ?_
  refine block_of_repeats hstart hclose
    (.step (statementRule_condition rules (isWord_token (by decide) _) (isMark_token (by decide) _)
      (isWord_token (by decide) _) (by decide +kernel) (isMark_token (by decide) _)
        (isMark_token (by decide) _) (isWord_token (by decide) _) (isMark_token (by decide) _)
          (isMark_token (by decide) _) hclose) ?_ (.done (statementRule_closeBrace _ hclose)))
  simp only [List.length_cons]
  omega

/-! ## The class -/

section Class

variable {layout : Layout} {place : MarkerPlace} {shape : Text → Text × List Piece}
    {dependencies : List Dependency} {depth : Nat} {stop : Token} {rest : List Token}
    (hstop : IsMark stop closeBrace)

include hstop

/-- The method behind the injection method is the last member. -/
theorem repeats_update (row : Nat) :
    Repeats (memberRule (.atDepth (depth + 4)))
      (tokensFrom row (updatePieces layout) ++ stop :: rest)
      [.method (updateOutline layout (row + 1)).declaration] (stop :: rest) := by
  have hdone : memberRule (.atDepth (depth + 4)) (stop :: rest) = none :=
    (beginsWith_memberRule _).reject_mark hstop (by decide)
  -- a body, the block in it and the statement in that one are each read one level further down
  refine .step (memberRule_updatePieces (.atDepth depth) layout row _) ?_ (.done hdone)
  rw [List.length_append, length_tokensFrom, updatePieces]
  simp only [List.length_cons]
  omega

/-- The injection method, if there is one, and the method behind it are read one by one. -/
theorem repeats_methods {injected : List Dependency} (h : HasShapes shape injected)
    (hdepth : ∀ dependency ∈ injected, (shape dependency.type).2.length ≤ depth + 4) (row : Nat) :
    Repeats (memberRule (.atDepth (depth + 4)))
      (tokensFrom row (methodPieces layout place shape injected ++ updatePieces layout) ++
        stop :: rest)
      ((methodOutlines layout place (row + 1) injected).map fun outline =>
        .method outline.declaration)
      (stop :: rest) := by
  have hrows : row + rowsOf (methodPieces layout place shape injected) + 1 =
      row + 1 + (layout.markedPart place injected).length := by
    rw [(writesLines_methodPieces h).rows]
    omega
  have hupdate := @repeats_update layout depth stop rest hstop
    (row + rowsOf (methodPieces layout place shape injected))
  rw [hrows] at hupdate
  rw [tokensFrom_append, List.append_assoc, methodOutlines]
  by_cases hinjected : injected.isEmpty = true
  · have hnone : methodPieces layout place shape injected = [] := if_pos hinjected
    rw [if_pos hinjected]
    rw [hnone] at hupdate ⊢
    exact hupdate
  · have hne : injected ≠ [] := by simpa using hinjected
    rw [if_neg hinjected]
    refine .step (memberRule_methodPieces h hdepth hne row _) ?_ hupdate
    rw [methodPieces, if_neg hinjected]
    simp only [List.length_append, length_tokensFrom, List.length_cons]
    omega

/-- The members of a canonical class are read one by one. -/
theorem repeats_members (h : HasShapes shape dependencies)
    (hdepth : ∀ dependency ∈ dependencies, (shape dependency.type).2.length ≤ depth + 4)
    {row : Nat} (hrow : row + 1 = layout.classStart.length) :
    Repeats (memberRule (.atDepth (depth + 4)))
      (tokensFrom row (memberPieces layout place shape dependencies) ++ stop :: rest)
      (classMembers layout place dependencies) (stop :: rest) := by
  have hrows : row + rowsOf ((layout.groups dependencies).flatMap (fieldPieces shape)) + 1 =
      layout.classStart.length + (layout.groups dependencies).length := by
    rw [(writesLines_fields h).rows, List.length_map]
    omega
  have hmethods := @repeats_methods layout place shape depth stop rest hstop _
    (hasShapes_injectedFirst h) (fun dependency hmem => hdepth dependency
      (List.mem_of_mem_filter hmem))
        (row + rowsOf ((layout.groups dependencies).flatMap (fieldPieces shape)))
  rw [hrows] at hmethods
  rw [memberPieces, tokensFrom_append, List.append_assoc, classMembers, groupDeclarations, ← hrow]
  refine repeats_lines groupDeclaration (fun group hgroup row behind => ?_) (fun group hgroup =>
    (writesLines_fieldPieces (isGroup_of_mem_groups hgroup)
      (typeShape_of_mem_groups h hgroup)).rows)
    (hrow ▸ hmethods) row
  have hnames : ∀ name ∈ group.2, isPlainName name = true := by
    intro name hname
    obtain ⟨dependency, -, -, rfl⟩ := exists_of_mem_groups hgroup hname
    exact dependency.isPlainName_name
  obtain ⟨name, hname⟩ := List.exists_mem_of_ne_nil _ (isGroup_of_mem_groups hgroup).ne_nil
  obtain ⟨dependency, hmem, htype, -⟩ := exists_of_mem_groups hgroup hname
  exact memberRule_fieldPieces (isGroup_of_mem_groups hgroup) hnames
    (typeShape_of_mem_groups h hgroup) (htype ▸ hdepth dependency hmem) row behind

omit hstop

/-- A class with the header of a canonical class is an item. -/
theorem itemRule_headerPieces {rules : Rules} {body : List Token} {members : List Declaration}
    (hstop : IsMark stop closeBrace) (hmembers : Repeats rules.member body members [stop]) :
    itemRule rules (tokensFrom 0 (headerPieces layout) ++ body) =
      some (.type ⟨.classType, some ": MonoBehaviour".toList,
        some ⟨layout.classStart.length - 1, stop.row⟩⟩ members, []) := by
  have hrow : 2 + lineFeeds layout.colonGap + lineFeeds (layout.braceGap []) =
      layout.classStart.length - 1 := by
    rcases layout with ⟨_ | _, _ | _, _ | _⟩ <;> rfl
  have hfeeds : lineFeeds ['\n', '\n'] = 2 := by decide
  rw [headerPieces]
  simp only [tokensFrom, Piece.leading_word, Piece.leading_mark, lineFeeds_blank, hfeeds,
    Nat.add_zero, Nat.zero_add, hrow, List.cons_append, List.nil_append]
  exact itemRule_class (isWord_token (by decide) _) (isWord_token (by decide) _)
    (isWord_token (by decide) _) (isMark_token (by decide) _) (isWord_token (by decide) _)
    (isPlainName_of_capital (by decide) (by decide)) (isMark_token (by decide) _) hstop hmembers rfl

theorem itemRule_usingPieces (rules : Rules) (behind : List Token) :
    itemRule rules (tokensFrom 0 usingPieces ++ behind) = some (.other, behind) :=
  itemRule_using rules (isWord_token (by decide) _) (isWord_token (by decide) _)
    (isPlainName_of_capital (by decide) (by decide)) (isMark_token (by decide) _)

/-- The pieces of a type are fewer than those of the members. -/
theorem length_shape_le {dependency : Dependency} (hmem : dependency ∈ dependencies) :
    (shape dependency.type).2.length ≤ (memberPieces layout place shape dependencies).length := by
  have hentry : (dependency.type, dependency.name) ∈ entries (layout.groups dependencies) :=
    (perm_entries_groups layout dependencies).mem_iff.mpr (List.mem_map_of_mem hmem)
  obtain ⟨group, hgroup, hname⟩ := List.mem_flatMap.mp hentry
  obtain ⟨name, -, heq⟩ := List.mem_map.mp hname
  have htype : group.1 = dependency.type := congrArg Prod.fst heq
  obtain ⟨before, after, hgroups⟩ := List.append_of_mem hgroup
  rw [← htype, memberPieces, hgroups, List.flatMap_append, List.flatMap_cons, fieldPieces,
    typePieces]
  simp only [List.length_append, List.length_cons]
  omega

/-- The tokens of a canonical class, part by part. -/
theorem tokensFrom_classPieces (h : HasShapes shape dependencies) :
    tokensFrom 0 (classPieces layout place shape dependencies) = tokensFrom 0 usingPieces ++
      (tokensFrom 0 (headerPieces layout) ++ (tokensFrom (layout.classStart.length - 1)
        (memberPieces layout place shape dependencies) ++
          [(Piece.mark ['\n'] closeBrace).token
            (markedSpan layout place dependencies).endLine])) := by
  have husing : rowsOf usingPieces = 0 := by decide +kernel
  have hheader : rowsOf (headerPieces layout) = layout.classStart.length - 1 := by
    rw [(writesLines_headerPieces layout).rows, List.length_drop]
  have hend : layout.classStart.length - 1 + rowsOf
      (memberPieces layout place shape dependencies) + 1 =
      (markedSpan layout place dependencies).endLine := by
    have hstart : layout.classStart.length = (layout.classStart.drop 1).length + 1 := rfl
    rw [(writesLines_memberPieces h).rows, markedSpan]
    simp only [List.length_append, List.length_map]
    omega
  have hfeed : lineFeeds ['\n'] = 1 := by decide
  rw [classPieces, tokensFrom_append, husing, tokensFrom_append, hheader, tokensFrom_append]
  simp only [tokensFrom, Piece.leading_mark, hfeed, Nat.zero_add, hend]

/-- The declarations of a canonical class are read. -/
theorem declarations?_markedSource (h : ∀ dependency ∈ dependencies, IsCSharpType dependency.type) :
    declarations? (markedSource layout place dependencies) =
      some (classDeclarations layout place dependencies) := by
  obtain ⟨shape, hshape⟩ := exists_hasShapes h
  have hlength : (tokensFrom 0 (classPieces layout place shape dependencies)).length =
      (memberPieces layout place shape dependencies).length + 5 + 5 := by
    rw [length_tokensFrom, classPieces, usingPieces, headerPieces]
    simp only [List.length_append, List.length_cons, List.length_nil]
    omega
  have hstop : IsMark ((Piece.mark ['\n'] closeBrace).token
      (markedSpan layout place dependencies).endLine) closeBrace := isMark_token (by decide) _
  have hrow : layout.classStart.length - 1 + 1 = layout.classStart.length := rfl
  have hdepth : ∀ dependency ∈ dependencies, (shape dependency.type).2.length ≤
      (memberPieces layout place shape dependencies).length + 5 + 4 := fun dependency hmem =>
    (length_shape_le hmem).trans (Nat.le_add_right _ 9)
  have hmembers := @repeats_members layout place shape dependencies _ _ []
    hstop hshape hdepth _ hrow
  have hclass : itemRule (.atDepth ((memberPieces layout place shape dependencies).length + 5 + 5))
      (tokensFrom 0 (headerPieces layout) ++ _) = some (_, []) :=
    itemRule_headerPieces hstop hmembers
  rw [declarations?, scan_markedSource hshape, Option.bind_some]
  refine parseTokens_of_items ?_ (by rw [hlength]; exact hclass) ?_ (by simp)
  · rw [tokensFrom_classPieces hshape]
    exact itemRule_usingPieces _ _
  · have husing : 0 < (tokensFrom 0 usingPieces).length := by decide +kernel
    rw [tokensFrom_classPieces hshape]
    exact (Nat.lt_add_of_pos_left husing).trans_eq List.length_append.symm

/-- The parser of this library reads a canonical class. -/
theorem readsClass_parse (h : ∀ dependency ∈ dependencies, IsCSharpType dependency.type) :
    ReadsClass layout place dependencies parse :=
  ⟨_, by rw [parse, declarations?_markedSource h], isClassTree_classDeclarations⟩

end Class

end FieldInjection
