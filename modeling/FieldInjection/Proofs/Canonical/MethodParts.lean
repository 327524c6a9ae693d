import FieldInjection.Proofs.Canonical.ClassBodies

/-!
# Methods of canonical classes

The methods of a canonical class are blocks that close what they open.  The injection method is read
off the lines that were written for it: its parameters are those of its dependencies, and each of
them is assigned on one line of its body.

## Main Definitions

* `IsQuietLine`: a line that declares nothing and is read back as it is written.
* `classMethod`: where the injection method of a canonical class is.

## Main Statements

* `readMethod_opened`: a method is read off the lines of its block.
* `findInjectionMethodBetween_classLines`: the method of a canonical class is found.
* `assignmentCount_classMethod`: the method assigns each of its dependencies on one line.
-/

namespace FieldInjection

/-! ## Blocks -/

section Block

variable (layout : Layout) {indent header : Text} {body : List Text}
    (hindent : ∀ c ∈ indent, isBlank c = true) (hheader : braceDelta header = 0)

include hindent hheader

/-- A header with its brace opens one level, on one line or on two. -/
theorem totalDelta_opened : totalDelta (layout.opened indent header) = 1 := by
  have hbrace : braceDelta [' ', openBrace] = 1 := by decide
  have hline : braceDelta [openBrace] = 1 := by decide
  rw [Layout.opened, Layout.braceBehind, Layout.braceLines]
  split <;> simp [braceDelta_append, braceDelta_of_blank hindent, hheader, hbrace, hline]

/-- Inside a block a header and its brace close nothing. -/
theorem staysOpen_opened {depth : Int} (hdepth : 0 < depth) :
    StaysOpen depth (layout.opened indent header) := by
  have htotal := totalDelta_opened layout hindent hheader
  rw [Layout.opened, Layout.braceBehind, Layout.braceLines] at htotal ⊢
  split at htotal
  · next hbehind =>
    rw [totalDelta_cons, totalDelta_nil, add_zero] at htotal
    rw [if_pos hbehind, if_pos hbehind]
    exact ⟨by omega, trivial⟩
  · next hbehind =>
    rw [List.append_nil, totalDelta_cons, totalDelta_cons, totalDelta_nil, hheader] at htotal
    rw [if_neg hbehind, if_neg hbehind, List.append_nil]
    exact ⟨by omega, by omega, trivial⟩

/-- A block with a closed body is closed. -/
theorem isClosed_block (hbody : IsClosed body) {close : Text} (hclose : braceDelta close = -1) :
    IsClosed (layout.opened indent header ++ body ++ [close]) := by
  have htotal := totalDelta_opened layout hindent hheader
  refine ⟨?_, fun depth hdepth => ?_⟩
  · rw [totalDelta_append, totalDelta_append, htotal, hbody.1, totalDelta_cons, hclose,
      totalDelta_nil]
    decide
  · rw [staysOpen_append, staysOpen_append, totalDelta_append, htotal, hbody.1]
    refine ⟨⟨staysOpen_opened layout hindent hheader hdepth, hbody.2 _ (by omega)⟩, ?_, trivial⟩
    omega

/-- A method is read off the lines of its block. -/
theorem readMethod_opened (methodName : Text) {snapshot : Snapshot} {close : Text}
    {front rest : List Text} {stop : Nat}
    (hlines : snapshot.lines = front ++ (layout.opened indent header ++
      (body ++ close :: rest))) (hend : header.trimEnd.getLast? ≠ some openBrace)
    (hbody : IsClosed body) (hclose : braceDelta close = -1) (hstop : front.length + 1 < stop) :
    readMethod snapshot methodName front.length (header ++ layout.braceBehind) stop =
      .ok ⟨front.length, front.length + (layout.braceLines indent).length,
        front.length + (layout.braceLines indent).length + body.length + 2,
        parameterNames (header ++ layout.braceBehind)⟩ := by
  have hdelta := totalDelta_opened layout hindent hheader
  rw [readMethod_eq_ok_iff]
  simp only [Layout.opened, Layout.braceBehind, Layout.braceLines] at *
  by_cases hbehind : layout.bracesBehind = true
  · simp only [hbehind, if_true, List.length_nil, Nat.add_zero] at *
    rw [totalDelta_cons, totalDelta_nil, add_zero] at hdelta
    refine Or.inl ⟨?_, front.length + body.length + 1, ?_, rfl⟩
    · rw [← List.singleton_append, ← List.append_assoc, Text.trimEnd_append_singleton (by decide),
        List.getLast?_concat]
    · rw [Snapshot.blockEnd_eq_firstBlockEnd, hlines, List.drop_left]
      refine firstBlockEnd_eq_some_iff.mpr ⟨[], header ++ [' ', openBrace], body, close, rest, rfl,
        by simp, by omega, hbody.2 _ (by omega), ?_, ?_⟩
      · rw [hbody.1, hdelta, hclose]
        decide
      · rw [List.length_nil]
        omega
  · simp only [hbehind, Bool.false_eq_true, if_false, List.length_singleton, List.append_nil] at *
    have hline : snapshot.lines[front.length + 1]? = some (indent ++ [openBrace]) := by
      rw [hlines, List.getElem?_append_right (Nat.le_add_right _ _), Nat.add_sub_cancel_left]
      rfl
    have hopening := isOpeningLine_blank_append hindent
    refine Or.inr ⟨hend, front.length + 1, indent ++ [openBrace],
      front.length + body.length + 2, ?_, hline, hopening, ?_,
      by simp only [InjectionMethod.mk.injEq, and_true, true_and]; omega⟩
    · exact firstFilledLine?_eq_some_iff.mpr ⟨le_rfl, hstop,
        ⟨_, hline, isAllBlank_of_isOpeningLine hopening⟩,
        fun other line hstart hother _ => by omega⟩
    · rw [enclosingBlockEnd_of_isOpeningLine hline hopening]
      refine closingLine_eq_some_iff.mpr ⟨body, close, rest, ?_, hbody.2 1 (by decide), ?_, ?_⟩
      · rw [hlines, Nat.add_assoc, List.drop_length_add_append]
        rfl
      · rw [hbody.1, hclose]
        decide
      · omega

end Block

/-! ## The method that was written -/

/-- A line that declares no field and is read back as it is written. -/
def IsQuietLine (line : Text) : Prop :=
  IsCleanLine line ∧ declaredFieldNames line = []

instance (line : Text) : Decidable (IsQuietLine line) :=
  inferInstanceAs (Decidable (_ ∧ _))

theorem assignmentOf_eq (dependency : Dependency) : assignmentOf dependency =
    indentStep ++ indentStep ++ assignment dependency.name (parameterName dependency.name) := by
  rw [assignmentOf, assignment, dependency.parameterName_name, if_neg dependency.name_ne_parameter]

section Method

variable {injected : List Dependency}

/-- Besides the characters of types a signature has only its parentheses. -/
theorem isTypeChar_of_mem_methodSignature {c : Char} (hc : c ∈ methodSignature injected) :
    isTypeChar c = true ∨ c = '(' ∨ c = ')' := by
  have hstart : ∀ d ∈ indentStep ++ "private void InjectDependencies".toList,
      isTypeChar d = true := by
    decide
  have hcommas : ∀ d ∈ [',', ' '], isTypeChar d = true := by decide
  simp only [methodSignature, List.mem_append, List.mem_cons, List.not_mem_nil, or_false] at hc
  rcases hc with hc | hc | hc | hc
  · exact Or.inl (hstart c (List.mem_append.mpr hc))
  · exact Or.inr (Or.inl hc)
  · rcases of_mem_intercalate hc with hc | ⟨entry, hentry, hc⟩
    · exact Or.inl (hcommas c hc)
    · obtain ⟨dependency, -, rfl⟩ := List.mem_map.mp hentry
      rw [List.mem_append, List.mem_cons] at hc
      rcases hc with hc | rfl | hc
      · exact Or.inl (dependency.isType.isTypeChar_of_mem hc)
      · exact Or.inl (by decide)
      · exact Or.inl (isTypeChar_of_mem_asciiName dependency.isAsciiName_parameter hc)
  · exact Or.inr (Or.inr hc)

/-- Any other character is missing in a signature. -/
theorem not_mem_methodSignature {c : Char} (hc : isTypeChar c = false)
    (hmarks : c ≠ '(' ∧ c ≠ ')') :
    c ∉ methodSignature injected := by
  intro hmem
  rcases isTypeChar_of_mem_methodSignature hmem with hchar | hchar | hchar
  · rw [hc] at hchar
    exact Bool.false_ne_true hchar
  · exact hmarks.1 hchar
  · exact hmarks.2 hchar

/-- A signature has no braces. -/
theorem braceDelta_methodSignature : braceDelta (methodSignature injected) = 0 :=
  braceDelta_eq_zero (not_mem_methodSignature (by decide) (by decide))
    (not_mem_methodSignature (by decide) (by decide))

/-- The parameters of the method are written like those of fields. -/
theorem methodSignature_eq {reference : Dependency → FieldReference}
    (hreference : ∀ dependency ∈ injected, (reference dependency).name = dependency.name ∧
      (reference dependency).declaredType = dependency.type) :
    methodSignature injected =
      signatureWith (indentStep ++ "private void InjectDependencies".toList)
        (injected.map reference) [] := by
  have hentries : injected.map (fun dependency => dependency.type ++ ' ' :: dependency.parameter) =
      (injected.map reference).map parameterEntry := by
    rw [List.map_map]
    refine List.map_congr_left fun dependency hmem => ?_
    obtain ⟨hname, htype⟩ := hreference dependency hmem
    simp [parameterEntry, hname, htype]
  rw [methodSignature, hentries, signatureWith, parameterText]

/-- The reserved name stands in the signature. -/
theorem containsToken_methodSignature (behind : Text) :
    containsToken (methodSignature injected ++ behind) Configuration.standard.methodName =
      true := by
  have hsplit : "private void InjectDependencies".toList =
      "private void ".toList ++ Configuration.standard.methodName := by decide
  refine (containsToken_iff (by decide) (by decide)).mpr
    ⟨indentStep ++ "private void ".toList,
      '(' :: ([',', ' '].intercalate (injected.map fun dependency =>
      dependency.type ++ ' ' :: dependency.parameter) ++ [')']) ++ behind, ?_, by decide,
      (by decide : isIdentifierChar '(' = false)⟩
  simp only [methodSignature, hsplit, List.append_assoc]

theorem braceDelta_assignmentOf (dependency : Dependency) :
    braceDelta (assignmentOf dependency) = 0 := by
  have hname := isIdentifier_of_isAsciiName dependency.isAsciiName_name
  rw [assignmentOf_eq, braceDelta_append, braceDelta_of_blank (by decide),
    braceDelta_assignment (fun c hc => isPlain_of_mem_identifier hname hc)
      (fun c hc => isPlain_of_mem_parameterName hname hc), add_zero]

/-- A line without line feeds and carriage returns is clean. -/
theorem isCleanLine_of_not_mem {line : Text} (hfeed : '\n' ∉ line) (hreturn : '\r' ∉ line) :
    IsCleanLine line :=
  ⟨hfeed, fun hlast => hreturn (List.mem_of_getLast? hlast)⟩

theorem isCleanLine_assignmentOf (dependency : Dependency) :
    IsCleanLine (assignmentOf dependency) := by
  have hfree : ∀ name : Text, isAsciiName name = true → '\n' ∉ name ∧ '\r' ∉ name := fun name h =>
    ⟨fun hc => absurd (isTypeChar_of_mem_asciiName h hc) (by decide),
      fun hc => absurd (isTypeChar_of_mem_asciiName h hc) (by decide)⟩
  obtain ⟨hname, hname'⟩ := hfree _ dependency.isAsciiName_name
  obtain ⟨hparameter, hparameter'⟩ := hfree _ dependency.isAsciiName_parameter
  refine isCleanLine_of_not_mem ?_ ?_ <;>
    simp [assignmentOf, indentStep, hname, hname', hparameter, hparameter']

/-- The lines of the method declare no field and are read back as they are written. -/
theorem isQuietLine_methodPart {layout : Layout} {line : Text}
    (h : line ∈ layout.methodPart injected) :
    IsQuietLine line := by
  have hbehind : '\n' ∉ layout.braceBehind ∧ '\r' ∉ layout.braceBehind ∧
      ';' ∉ layout.braceBehind := by
    rcases layout with ⟨_ | _, _ | _, _ | _⟩ <;> decide
  have hbrace : ∀ text ∈ layout.braceLines indentStep, IsQuietLine text := by
    rcases layout with ⟨_ | _, _ | _, _ | _⟩ <;> decide
  have hothers : ∀ text ∈ [[], "    [Inject]".toList, "    \x7d".toList], IsQuietLine text := by
    decide
  rw [Layout.methodPart] at h
  split at h
  · simp at h
  · rw [List.mem_append, List.mem_append, List.mem_append] at h
    rcases h with h | (h | h) | h
    · exact hothers line (List.mem_append_left [_] h)
    · rcases List.mem_cons.mp h with rfl | h
      · refine ⟨isCleanLine_of_not_mem ?_ ?_, declaredFieldNames_eq_nil ?_⟩
        · simpa [hbehind] using not_mem_methodSignature (by decide) (by decide)
        · simpa [hbehind] using not_mem_methodSignature (by decide) (by decide)
        · simpa [hbehind] using not_mem_methodSignature (by decide) (by decide)
      · exact hbrace line h
    · obtain ⟨dependency, -, rfl⟩ := List.mem_map.mp h
      refine ⟨isCleanLine_assignmentOf dependency, ?_⟩
      rw [assignmentOf_eq, dependency.parameterName_name]
      exact dependency.declaredFieldNames_assignment (by decide)
    · exact hothers line (by simp [List.mem_singleton.mp h])

/-- Assignments open and close nothing. -/
theorem isClosed_assignments : IsClosed (injected.map assignmentOf) := by
  refine isClosed_of_flat fun line hline => ?_
  obtain ⟨dependency, -, rfl⟩ := List.mem_map.mp hline
  exact braceDelta_assignmentOf dependency

/-- The injection method closes what it opens. -/
theorem isClosed_methodPart (layout : Layout) : IsClosed (layout.methodPart injected) := by
  rw [Layout.methodPart]
  split
  · exact isClosed_of_flat (by simp)
  · have hmarker : IsClosed [[], "    [Inject]".toList] := isClosed_of_flat (by decide)
    exact hmarker.append (isClosed_block layout (by decide) braceDelta_methodSignature
      isClosed_assignments (by decide))

end Method

/-- So does the method behind it. -/
theorem isClosed_updatePart (layout : Layout) : IsClosed layout.updatePart := by
  have hbody : IsClosed ["        if (enabled) \x7b return; \x7d".toList] :=
    isClosed_singleton (by decide)
  have hgap : IsClosed [[]] := isClosed_singleton rfl
  exact hgap.append (isClosed_block layout (by decide) (by decide) hbody (by decide))

theorem of_mem_updatePart {layout : Layout} {line : Text} (h : line ∈ layout.updatePart) :
    IsQuietLine line ∧ line.trim ≠ Configuration.standard.marker.trim := by
  revert line
  rcases layout with ⟨_ | _, _ | _, _ | _⟩ <;> decide

/-- So do the lines up to the opening brace of the class. -/
theorem isQuietLine_classStart {layout : Layout} {line : Text} (h : line ∈ layout.classStart) :
    IsQuietLine line := by
  revert line
  rcases layout with ⟨_ | _, _ | _, _ | _⟩ <;> decide

/-! ## Where the method is found -/

/-- The injection method of a canonical class. -/
def classMethod (layout : Layout) (groups : List (Text × List Text)) (injected : List Dependency) :
    InjectionMethod :=
  let line := layout.classStart.length + groups.length + 2
  ⟨line, line + (layout.braceLines indentStep).length,
    line + (layout.braceLines indentStep).length + injected.length + 2,
    parameterNames (methodSignature injected ++ layout.braceBehind)⟩

/-- The lines in front of the method. -/
theorem length_lines_before (layout : Layout) (groups : List (Text × List Text))
    (injected : List Dependency) :
    (layout.classStart ++ (groups.map fieldLine ++ [[], "    [Inject]".toList])).length =
      (classMethod layout groups injected).signatureLine := by
  simp only [classMethod, List.length_append, List.length_map, List.length_cons, List.length_nil]
  omega

section Search

variable {layout : Layout} {groups : List (Text × List Text)} {injected : List Dependency}
    {after : List Text} {snapshot : Snapshot}
    (hlines : snapshot.lines = layout.classStart ++ (groups.map fieldLine ++
      (layout.methodPart injected ++ layout.updatePart ++ [closeBrace] :: after)))

include hlines

/-- Without injected dependencies there is no marker in the class. -/
theorem findInjectionMethodBetween_classLines_nil (hnil : injected = []) :
    findInjectionMethodBetween snapshot layout.classStart.length
      (layout.classStart.length + groups.length +
        (layout.methodPart injected ++ layout.updatePart).length) .standard = .ok none := by
  have hpart : layout.methodPart injected = [] := by simp [Layout.methodPart, hnil]
  rw [hpart, List.nil_append] at hlines ⊢
  refine findInjectionMethodBetween_eq_ok_none fun index hstart hstop => ?_
  rintro ⟨line, signature, hline, -, hmarker, -⟩
  obtain ⟨offset, rfl⟩ := Nat.exists_eq_add_of_le hstart
  rw [hlines, List.getElem?_append_right hstart, Nat.add_sub_cancel_left, ← List.append_assoc,
    List.getElem?_append_left (by simp only [List.length_append, List.length_map]; omega)] at hline
  rcases List.mem_append.mp (List.mem_of_getElem? hline) with hmem | hmem
  · obtain ⟨group, -, rfl⟩ := List.mem_map.mp hmem
    exact trim_fieldLine_ne hmarker
  · exact (of_mem_updatePart hmem).2 hmarker

section Some

variable (hne : injected ≠ [])

include hne

/-- The lines of the class, cut at the signature of its method. -/
theorem lines_eq_of_ne_nil : snapshot.lines =
    (layout.classStart ++ (groups.map fieldLine ++ [[], "    [Inject]".toList])) ++
      (layout.opened indentStep (methodSignature injected) ++ (injected.map assignmentOf ++
        "    \x7d".toList :: (layout.updatePart ++ [closeBrace] :: after))) := by
  rw [hlines, Layout.methodPart, if_neg (by simpa using hne)]
  simp only [List.append_assoc, List.cons_append, List.nil_append]

/-- The signature is on the line that the method gives for it. -/
theorem getElem?_signatureLine :
    snapshot.lines[(classMethod layout groups injected).signatureLine]? =
    some (methodSignature injected ++ layout.braceBehind) := by
  rw [lines_eq_of_ne_nil hlines hne, ← length_lines_before layout groups injected]
  exact getElem?_append_cons_length

omit hlines in
/-- The method ends before the class. -/
theorem bodyEndLine_le : (classMethod layout groups injected).bodyEndLine ≤
    layout.classStart.length + groups.length +
      (layout.methodPart injected ++ layout.updatePart).length := by
  rw [Layout.methodPart, if_neg (by simpa using hne)]
  simp only [classMethod, Layout.opened, List.length_append, List.length_cons, List.length_map,
    List.length_nil]
  omega

/-- Up to the marker, no line is a marker. -/
theorem not_annotated_before {index : Nat} (hstart : layout.classStart.length ≤ index)
    (hindex : index < layout.classStart.length + groups.length + 1) :
    ¬ Annotated Configuration.standard.marker.trim Configuration.standard.methodName snapshot.lines
      index := by
  rintro ⟨line, signature, hline, -, htrim, -⟩
  obtain ⟨offset, rfl⟩ := Nat.exists_eq_add_of_le hstart
  rw [lines_eq_of_ne_nil hlines hne, List.append_assoc, List.getElem?_append_right hstart,
    Nat.add_sub_cancel_left, List.append_assoc, List.cons_append, List.append_cons,
    List.getElem?_append_left (by simp; omega)] at hline
  rcases List.mem_append.mp (List.mem_of_getElem? hline) with hmem | hmem
  · obtain ⟨group, -, rfl⟩ := List.mem_map.mp hmem
    exact trim_fieldLine_ne htrim
  · rw [List.mem_singleton.mp hmem] at htrim
    exact absurd htrim (by decide)

/-- The marker is on the line behind the blank one that follows the fields. -/
theorem getElem?_markerLine : snapshot.lines[layout.classStart.length + groups.length + 1]? =
    some "    [Inject]".toList := by
  have hindex : layout.classStart.length + groups.length + 1 - layout.classStart.length -
      groups.length = 1 := by omega
  rw [lines_eq_of_ne_nil hlines hne, List.append_assoc, List.getElem?_append_right (by omega),
    List.append_assoc, List.getElem?_append_right (by rw [List.length_map]; omega), List.length_map,
    hindex]
  rfl

/-- With some of them, the method that was written is found. -/
theorem findInjectionMethodBetween_classLines :
    findInjectionMethodBetween snapshot layout.classStart.length
      (layout.classStart.length + groups.length +
        (layout.methodPart injected ++ layout.updatePart).length) .standard =
      .ok (some (classMethod layout groups injected)) := by
  have hsignature := getElem?_signatureLine hlines hne
  have hend : (methodSignature injected).trimEnd.getLast? ≠ some openBrace := by
    rw [methodSignature, ← List.cons_append, ← List.append_assoc,
      Text.trimEnd_append_singleton (by decide), List.getLast?_concat]
    decide
  have hstop : (classMethod layout groups injected).signatureLine + 1 <
      min (layout.classStart.length + groups.length +
        (layout.methodPart injected ++ layout.updatePart).length) snapshot.size := by
    have hsize := congrArg List.length hlines
    have hbody : (classMethod layout groups injected).bodyEndLine ≤ _ := bodyEndLine_le hne
    simp only [List.length_append, List.length_cons, List.length_map, classMethod,
      Snapshot.size] at hsize hbody ⊢
    omega
  have hread := readMethod_opened layout (by decide) braceDelta_methodSignature
    Configuration.standard.methodName (lines_eq_of_ne_nil hlines hne) hend isClosed_assignments
    (by decide) (length_lines_before layout groups injected ▸ hstop)
  rw [length_lines_before layout groups injected, List.length_map] at hread
  rw [findInjectionMethodBetween_eq_of_first (by omega)
    (Nat.lt_of_succ_lt (Nat.lt_of_succ_lt hstop)) ⟨_, _, getElem?_markerLine hlines hne, hsignature,
      by decide, containsToken_methodSignature _⟩ hsignature
    fun other hstart hother => not_annotated_before hlines hne hstart hother]
  exact congrArg (Except.map some) hread

/-- The body of the method. -/
theorem bodyLines_classMethod : bodyLines snapshot (classMethod layout groups injected) =
    (layout.opened indentStep (methodSignature injected)).drop
    (layout.braceLines indentStep).length ++
      (injected.map assignmentOf ++ ["    \x7d".toList]) := by
  have hsplit : snapshot.lines =
      (layout.classStart ++ (groups.map fieldLine ++ [[], "    [Inject]".toList])) ++
        ((layout.opened indentStep (methodSignature injected) ++ (injected.map assignmentOf ++
          ["    \x7d".toList])) ++ (layout.updatePart ++ [closeBrace] :: after)) := by
    rw [lines_eq_of_ne_nil hlines hne]
    simp only [List.append_assoc, List.cons_append, List.nil_append]
  have hend : (classMethod layout groups injected).bodyEndLine =
      (classMethod layout groups injected).signatureLine +
        (layout.opened indentStep (methodSignature injected) ++ (injected.map assignmentOf ++
          ["    \x7d".toList])).length := by
    simp only [classMethod, Layout.opened, List.length_append, List.length_cons, List.length_map,
      List.length_nil]
    omega
  have hstart : (classMethod layout groups injected).bodyStartLine =
      (classMethod layout groups injected).signatureLine + (layout.braceLines indentStep).length :=
      rfl
  rw [bodyLines, hend, hstart, ← length_lines_before layout groups injected, hsplit,
    List.take_length_add_append, List.take_left, List.drop_length_add_append,
    List.drop_append_of_le_length]
  rw [Layout.opened, List.length_cons]
  omega

/-- The method assigns each of its dependencies on one line, and nothing else. -/
theorem assignmentCount_classMethod (hnodup : (injected.map (·.name)).Nodup) {name : Text}
    (hname : isIdentifier name = true) :
    assignmentCount snapshot (classMethod layout groups injected) name =
      if name ∈ injected.map (·.name) then 1 else 0 := by
  have hopened : ((layout.opened indentStep (methodSignature injected)).drop
      (layout.braceLines indentStep).length).countP (assignsToken · name) = 0 := by
    have hbehind : '=' ∉ layout.braceBehind ∧
        ∀ line ∈ layout.braceLines indentStep, '=' ∉ line := by
      rcases layout with ⟨_ | _, _ | _, _ | _⟩ <;> decide
    refine List.countP_eq_zero.mpr fun line hline => ?_
    rw [Bool.not_eq_true]
    refine assignsToken_eq_false ?_
    rcases List.mem_cons.mp (List.mem_of_mem_drop hline) with rfl | hline
    · simpa [hbehind.1] using not_mem_methodSignature (by decide) (by decide)
    · exact hbehind.2 line hline
  have hassigns : ∀ dependency ∈ injected,
      (assignsToken (assignmentOf dependency) name = true ↔ (dependency.name == name) = true) := by
    intro dependency _
    have hidentifier := isIdentifier_of_isAsciiName dependency.isAsciiName_name
    rw [assignmentOf_eq, assignsToken_assignment_iff hidentifier
      (fun c hc => isPlain_of_mem_parameterName hidentifier hc) ?_ hname (by decide), beq_iff_eq]
    · exact eq_comm
    · rw [dependency.parameterName_name]
      exact dependency.name_ne_parameter
  have hclose : assignsToken "    \x7d".toList name = false := assignsToken_eq_false (by decide)
  rw [assignmentCount, bodyLines_classMethod hlines hne, List.countP_append, hopened,
    List.countP_append, List.countP_singleton, hclose, List.countP_map, ← hnodup.count,
    List.count, List.countP_map]
  simp only [Bool.false_eq_true, if_false, Nat.add_zero, Nat.zero_add]
  exact List.countP_congr hassigns

end Some

end Search

end FieldInjection
