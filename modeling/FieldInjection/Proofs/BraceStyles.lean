import FieldInjection.Proofs.Frames

/-!
# Assignments and the place of the opening brace

The body of a method opens at the end of the signature's line or with a brace on a line of its own.
A field counts as assigned when some line of the method assigns to it, from the line of that brace
on.  A brace on its own line assigns nothing, but a signature may look as if it did: a parameter
with a default value has a name in front of an equals sign.  So where the brace stands on the line
of the signature, a default value is taken for an assignment in the body.

## Main Definitions

* `AssignedBelow`: an assignment behind the line of the opening brace.
* `AssignedBeside`: a signature with the opening brace on its line that looks like an assignment.
* `LowersBrace`: a document, and the same with the brace of a line moved to a line of its own.

## Main Statements

* `hasAssignment_located_iff`: which fields count as assigned, and how that depends on the place of
  the brace.
* `defaultDocument_assigned`: a document in which a field counts as assigned and is not.
-/

namespace FieldInjection

/-- A line of the body behind the one with its opening brace assigns to the field. -/
def AssignedBelow (snapshot : Snapshot) (method : InjectionMethod) (field : Text) : Prop :=
  ∃ index line, method.bodyStartLine < index ∧ index < method.bodyEndLine ∧
    snapshot.lines[index]? = some line ∧ assignsToken line field = true

/-- The body opens on the line of the signature, and that line looks like an assignment to the
field. -/
def AssignedBeside (snapshot : Snapshot) (method : InjectionMethod) (field : Text) : Prop :=
  method.bodyStartLine = method.signatureLine ∧
    ∃ signature, snapshot.lines[method.signatureLine]? = some signature ∧
      assignsToken signature field = true

/-! ## Which fields count as assigned -/

section OpeningLine

variable {opening : Text} (h : Snapshot.isOpeningLine opening = true)

include h

/-- An opening line has a brace and blanks only. -/
theorem not_mem_of_isOpeningLine {mark : Char} (hblank : isBlank mark = false)
    (hmark : mark ≠ openBrace) :
    mark ∉ opening := by
  intro hmem
  have htrim := Text.mem_trim_of_mem hmem hblank
  rw [eq_of_beq h] at htrim
  exact hmark (List.mem_singleton.mp htrim)

/-- An opening line assigns nothing. -/
theorem assignsToken_of_isOpeningLine {field : Text} : assignsToken opening field = false :=
  assignsToken_eq_false (not_mem_of_isOpeningLine h (by decide) (by decide))

/-- Blanks around an opening brace are all there is. -/
theorem exists_blanks_of_isOpeningLine :
    ∃ left right : Text, (∀ c ∈ left, isBlank c = true) ∧ (∀ c ∈ right, isBlank c = true) ∧
      opening = left ++ openBrace :: right := by
  obtain ⟨left, right, hleft, hright, htext⟩ := Text.exists_blank_append_trim opening
  rw [eq_of_beq h, ← List.append_cons] at htext
  exact ⟨left, right, hleft, hright, htext⟩

theorem getLast?_trimEnd_append_opening (front : Text) :
    (front ++ opening).trimEnd.getLast? = some openBrace := by
  obtain ⟨left, right, -, hright, rfl⟩ := exists_blanks_of_isOpeningLine h
  rw [List.append_cons, ← List.append_assoc, Text.trimEnd_append_blank hright, ← List.append_assoc,
    Text.trimEnd_append_singleton (by decide), List.getLast?_concat]

/-- An opening brace has no part in an identifier in front of it. -/
theorem containsToken_append_opening {front token : Text} (htoken : isIdentifier token = true) :
    containsToken (front ++ opening) token = true ↔ containsToken front token = true := by
  have hne := ne_nil_of_isIdentifier htoken
  have hname : ∀ c ∈ token, isIdentifierChar c = true := fun c => isIdentifierChar_of_mem htoken
  obtain ⟨left, right, hleft, hright, rfl⟩ := exists_blanks_of_isOpeningLine h
  rw [← List.append_assoc, containsToken_append_cons_iff hne hname (by decide),
    containsToken_append_blank hne hname hleft, or_iff_left]
  rw [← List.append_nil right, containsToken_blank_append hne hname hright,
    containsToken_nil hne hname]
  exact Bool.false_ne_true

end OpeningLine

/-- A field counts as assigned for a line behind the opening brace, or for the signature beside
it. -/
theorem hasAssignment_iff_of_readMethod {snapshot : Snapshot} {methodName signature field : Text}
    {signatureLine stop : Nat} {method : InjectionMethod}
    (h : readMethod snapshot methodName signatureLine signature stop = .ok method)
    (hsignature : snapshot.lines[signatureLine]? = some signature) :
    hasAssignment snapshot method field = true ↔
      AssignedBelow snapshot method field ∨ AssignedBeside snapshot method field := by
  obtain ⟨before, body, close, after, hcut⟩ := exists_methodLines_of_readMethod h hsignature
  rw [hasAssignment_eq_true_iff]
  constructor
  · rintro ⟨index, line, hstart, hstop, hline, hassigns⟩
    rcases Nat.eq_or_lt_of_le hstart with rfl | hlt
    · -- the first of the lines has the opening brace: it is the signature or nothing but the brace
      refine Or.inr ?_
      rcases readMethod_eq_ok_iff.mp h with
        ⟨-, _, -, rfl⟩ | ⟨-, _, _, _, -, hopen, hopening, -, rfl⟩
      · exact ⟨rfl, line, hline, hassigns⟩
      · obtain rfl := Option.some.inj (hopen.symm.trans hline)
        rw [assignsToken_of_isOpeningLine hopening] at hassigns
        exact absurd hassigns Bool.false_ne_true
    · exact Or.inl ⟨index, line, hlt, hstop, hline, hassigns⟩
  · rintro (⟨index, line, hlt, hstop, hline, hassigns⟩ | ⟨hstart, line, hline, hassigns⟩)
    · exact ⟨index, line, Nat.le_of_lt hlt, hstop, hline, hassigns⟩
    · have hopens := hcut.bodyStart_lt
      have hend := hcut.bodyEndLine
      exact ⟨method.signatureLine, line, Nat.le_of_eq hstart, by omega, hline, hassigns⟩

/-! ## The brace on a line of its own -/

/-- A document, and the same with the brace at the end of one line, the only brace of that line,
moved to a line of its own. -/
structure LowersBrace (lines lowered before : List Text) (front opening brace : Text)
    (rest : List Text) :
    Prop where
  /-- The line ends in the brace. -/
  lines_eq : lines = before ++ (front ++ opening) :: rest
  /-- Nothing but blanks is around the brace. -/
  isOpening : Snapshot.isOpeningLine opening = true
  /-- There is no other opening brace on the line. -/
  openBrace_not_mem : openBrace ∉ front
  /-- There is no closing brace on the line. -/
  closeBrace_not_mem : closeBrace ∉ front
  /-- The rest of the line is followed by the line of the brace. -/
  lowered_eq : lowered = before ++ front :: brace :: rest
  /-- That line has nothing but the brace. -/
  isOpeningLine : Snapshot.isOpeningLine brace = true

section Lowered

variable {snapshot lowered : Snapshot} {before rest : List Text} {front opening brace : Text}
    (h : LowersBrace snapshot.lines lowered.lines before front opening brace rest)

include h

namespace LowersBrace

/-- The lines before the brace stay where they are. -/
theorem getElem?_of_lt {index : Nat} (hlt : index < before.length) :
    lowered.lines[index]? = snapshot.lines[index]? := by
  rw [h.lowered_eq, h.lines_eq, List.getElem?_append_left hlt, List.getElem?_append_left hlt]

/-- The lines behind the brace go down by one. -/
theorem getElem?_succ_of_gt {index : Nat} (hlt : before.length < index) :
    lowered.lines[index + 1]? = snapshot.lines[index]? := by
  obtain ⟨gap, rfl⟩ := Nat.exists_eq_add_of_lt hlt
  rw [h.lowered_eq, h.lines_eq, List.getElem?_append_right (by omega),
    List.getElem?_append_right (by omega),
    show before.length + gap + 1 + 1 - before.length = gap + 2 by omega,
    show before.length + gap + 1 - before.length = gap + 1 by omega]
  rfl

/-- The line that ends with the brace. -/
theorem getElem?_line : snapshot.lines[before.length]? = some (front ++ opening) := by
  rw [h.lines_eq]
  exact getElem?_append_cons_length

/-- What remains of it when the brace has a line of its own. -/
theorem getElem?_length : lowered.lines[before.length]? = some front := by
  rw [h.lowered_eq]
  exact getElem?_append_cons_length

theorem getElem?_length_succ : lowered.lines[before.length + 1]? = some brace := by
  rw [h.lowered_eq, List.getElem?_append_right (Nat.le_add_right _ _), Nat.add_sub_cancel_left]
  rfl

/-- The line goes one level down, by its last brace. -/
theorem braceDelta_line : braceDelta (front ++ opening) = 1 := by
  rw [braceDelta_append, braceDelta_of_isOpeningLine h.isOpening,
    braceDelta_eq_zero h.openBrace_not_mem h.closeBrace_not_mem, zero_add]

/-- Read from the line that ends in the brace, a method has its body open there. -/
theorem bodyStartLine_eq {methodName : Text} {stop : Nat} {method : InjectionMethod}
    (hread : readMethod snapshot methodName before.length (front ++ opening) stop = .ok method) :
    method.bodyStartLine = before.length := by
  rcases readMethod_eq_ok_iff.mp hread with ⟨-, _, -, rfl⟩ | ⟨hother, -⟩
  · rfl
  · exact absurd (getLast?_trimEnd_append_opening h.isOpening front) hother

/-- Read with the brace on a line of its own, the method is the same, with the body one line further
down. -/
theorem readMethod_eq {methodName : Text} {stop stop' : Nat} {method : InjectionMethod}
    (hread : readMethod snapshot methodName before.length (front ++ opening) stop = .ok method)
    (hstop : before.length + 1 < stop') :
    readMethod lowered methodName before.length front stop' =
      .ok ⟨before.length, before.length + 1, method.bodyEndLine + 1, method.parameters⟩ := by
  rcases readMethod_eq_ok_iff.mp hread with ⟨-, close, hend, rfl⟩ | ⟨hother, -⟩
  · have hfront : front.trimEnd.getLast? ≠ some openBrace := by
      intro hbrace
      obtain ⟨tail, -, hfront⟩ := Text.exists_trimEnd_append_blank front
      refine h.openBrace_not_mem ?_
      rw [hfront]
      exact List.mem_append_left _ (List.mem_of_getLast? hbrace)
    have hclosing : closingLine 1 (before.length + 1) rest = some close := by
      rw [Snapshot.blockEnd_eq_firstBlockEnd, h.lines_eq, List.drop_left] at hend
      simpa [firstBlockEnd, h.braceDelta_line] using hend
    refine readMethod_eq_ok_iff.mpr (Or.inr ⟨hfront, before.length + 1, brace, close + 1, ?_,
      h.getElem?_length_succ, h.isOpeningLine, ?_, ?_⟩)
    · exact firstFilledLine?_eq_some_iff.mpr ⟨le_rfl, hstop,
        ⟨brace, h.getElem?_length_succ, isAllBlank_of_isOpeningLine h.isOpeningLine⟩,
        fun other _ hge hlt => absurd hlt (by omega)⟩
    · have hdrop : lowered.lines.drop (before.length + 1 + 1) = rest := by
        rw [h.lowered_eq, Nat.add_assoc, List.drop_length_add_append]
        rfl
      rw [enclosingBlockEnd_of_isOpeningLine h.getElem?_length_succ h.isOpeningLine, hdrop,
        closingLine_succ, hclosing]
      rfl
    · rw [parameterNames_append (not_mem_of_isOpeningLine h.isOpening (by decide) (by decide))]
  · exact absurd (getLast?_trimEnd_append_opening h.isOpening front) hother

/-- It is found where it was, in a class that is one line longer. -/
theorem findInjectionMethodIn_eq {span : ClassSpan} {config : Configuration}
    {method : InjectionMethod} (hmethod : isIdentifier config.methodName = true)
    (hfound : findInjectionMethodIn snapshot span config = .ok (some method))
    (hline : method.signatureLine = before.length) (hinside : before.length < span.endLine) :
    findInjectionMethodIn lowered ⟨span.startLine, span.endLine + 1⟩ config =
      .ok (some ⟨before.length, before.length + 1, method.bodyEndLine + 1, method.parameters⟩) := by
  obtain ⟨index, signature, hstart, hbound, ⟨marker, _, hmarkerLine, hsame, hmarker, htoken⟩,
      hsignature, hfirst, hread⟩ := exists_of_findInjectionMethodBetween hfound
  have hindex : index + 1 = before.length := (signatureLine_of_readMethod hread).symm.trans hline
  obtain rfl := Option.some.inj (hsignature.symm.trans hsame)
  obtain rfl := Option.some.inj ((hindex ▸ hsignature).symm.trans h.getElem?_line)
  rw [containsToken_append_opening h.isOpening hmethod] at htoken
  have hannotated : Annotated config.marker.trim config.methodName lowered.lines index :=
    ⟨marker, front, (h.getElem?_of_lt (by omega)).trans hmarkerLine, hindex ▸ h.getElem?_length,
      hmarker, htoken⟩
  have hfirst' : ∀ other, span.startLine + 1 ≤ other → other < index →
      ¬ Annotated config.marker.trim config.methodName lowered.lines other := by
    rintro other hge hlt ⟨line, next, hother, hnext, htext⟩
    rw [h.getElem?_of_lt (by omega)] at hother hnext
    exact hfirst other hge hlt ⟨line, next, hother, hnext, htext⟩
  have hsize : before.length + 1 < lowered.size :=
    (List.getElem?_eq_some_iff.mp h.getElem?_length_succ).1
  have hroom : before.length + 1 < min (span.endLine + 1) lowered.size :=
    Nat.lt_min.mpr ⟨Nat.succ_lt_succ hinside, hsize⟩
  have hplace : index < min (span.endLine + 1) lowered.size := Nat.lt_trans (by omega) hroom
  rw [hindex] at hread
  rw [findInjectionMethodIn, findInjectionMethodBetween_eq_of_first hstart hplace hannotated
    (hindex ▸ h.getElem?_length) hfirst', hindex, h.readMethod_eq hread hroom]
  rfl

/-- A line behind the brace is one behind it before and after. -/
theorem assignedBelow_iff {method : InjectionMethod} {field : Text}
    (hstart : method.bodyStartLine = before.length) :
    AssignedBelow lowered ⟨before.length, before.length + 1, method.bodyEndLine + 1,
      method.parameters⟩ field ↔
      AssignedBelow snapshot method field := by
  constructor
  · rintro ⟨index, line, hlt, hstop, hline, hassigns⟩
    obtain ⟨above, rfl⟩ : ∃ above, index = above + 1 := ⟨index - 1, by simp only at hlt; omega⟩
    simp only [Nat.add_lt_add_iff_right] at hlt hstop
    rw [h.getElem?_succ_of_gt hlt] at hline
    exact ⟨above, line, hstart ▸ hlt, hstop, hline, hassigns⟩
  · rintro ⟨index, line, hlt, hstop, hline, hassigns⟩
    rw [hstart] at hlt
    exact ⟨index + 1, line, Nat.succ_lt_succ hlt, Nat.succ_lt_succ hstop,
      (h.getElem?_succ_of_gt hlt).trans hline, hassigns⟩

end LowersBrace

end Lowered

/-- For the method that is located with a field, the field counts as assigned exactly when a line
behind the opening brace assigns to it, or the brace stands on the line of the signature and that
line looks like an assignment.  With that brace moved to a line of its own the same method is found,
and only the lines behind the brace count. -/
theorem hasAssignment_located_iff {snapshot : Snapshot} {field : Text} {config : Configuration}
    {location : Location} {method : InjectionMethod}
    (hlocated : locateInLines snapshot field config = .ok location)
    (hmethod : location.method = some method) :
    (hasAssignment snapshot method field = true ↔
      AssignedBelow snapshot method field ∨ AssignedBeside snapshot method field) ∧
    ∀ (lowered : Snapshot) (before rest : List Text) (front opening brace : Text),
      LowersBrace snapshot.lines lowered.lines before front opening brace rest →
      before.length = method.signatureLine → isIdentifier config.methodName = true →
      ∃ method', findInjectionMethodIn lowered ⟨location.span.startLine,
        location.span.endLine + 1⟩ config =
          .ok (some method') ∧
        method'.signatureLine = method.signatureLine ∧
        method'.bodyStartLine = method.signatureLine + 1 ∧
        (hasAssignment lowered method' field = true ↔ AssignedBelow snapshot method field) := by
  obtain ⟨-, hspan, hfound⟩ := locateInLines_eq_ok_iff.mp hlocated
  obtain ⟨-, -, hend, -, -⟩ := findClassSpan_eq_ok_iff.mp hspan
  rw [hmethod] at hfound
  obtain ⟨index, signature, -, -, -, hsignature, -, hread⟩ :=
    exists_of_findInjectionMethodBetween hfound
  refine ⟨hasAssignment_iff_of_readMethod hread hsignature, ?_⟩
  intro lowered before rest front opening brace h hline hname
  obtain ⟨front', _, body, _, _, hcut, -, hclose⟩ :=
    exists_methodLines_of_findInjectionMethodIn hend hfound
  have hinside : before.length < location.span.endLine := by
    have hsame := hcut.signatureLine
    omega
  have hlowered := h.findInjectionMethodIn_eq hname hfound hline.symm hinside
  refine ⟨_, hlowered, hline, congrArg (· + 1) hline, ?_⟩
  have hindex := signatureLine_of_readMethod hread
  rw [← hindex, ← hline] at hread hsignature
  obtain rfl := Option.some.inj (hsignature.symm.trans h.getElem?_line)
  obtain ⟨_, signature', -, -, -, hsignature', -, hread'⟩ :=
    exists_of_findInjectionMethodBetween hlowered
  rw [hasAssignment_iff_of_readMethod hread' hsignature',
    h.assignedBelow_iff (h.bodyStartLine_eq hread), or_iff_left]
  exact fun hbeside => absurd hbeside.1 (Nat.succ_ne_self _)

/-- A method whose parameter has a default value, with the opening brace on the line of its
signature. -/
def defaultDocument : Snapshot :=
  .ofLines ["class A : MonoBehaviour".toList,
    "\x7b".toList,
    "    private int level;".toList,
    "    [Inject]".toList,
    "    private void InjectDependencies(int level = 1) \x7b".toList,
    "    \x7d".toList,
    "\x7d".toList]

/-- The same with the brace on a line of its own. -/
def loweredDefaultDocument : Snapshot :=
  .ofLines ["class A : MonoBehaviour".toList,
    "\x7b".toList,
    "    private int level;".toList,
    "    [Inject]".toList,
    "    private void InjectDependencies(int level = 1)".toList,
    "    \x7b".toList,
    "    \x7d".toList,
    "\x7d".toList]

theorem locateInLines_defaultDocument :
    locateInLines defaultDocument "level".toList .standard =
      .ok ⟨⟨"level".toList, "int".toList, 2⟩, ⟨1, 6⟩, some ⟨4, 4, 6, ["level".toList]⟩⟩ := by rfl

/-- The default value in the signature is taken for an assignment, and with its brace lowered the
method is found again. -/
theorem defaultDocument_lowered :
    locateInLines defaultDocument "level".toList .standard =
        .ok ⟨⟨"level".toList, "int".toList, 2⟩, ⟨1, 6⟩, some ⟨4, 4, 6, ["level".toList]⟩⟩ ∧
      AssignedBeside defaultDocument ⟨4, 4, 6, ["level".toList]⟩ "level".toList ∧
      hasAssignment defaultDocument ⟨4, 4, 6, ["level".toList]⟩ "level".toList = true ∧
      ∃ method, findInjectionMethodIn loweredDefaultDocument ⟨1, 7⟩ .standard = .ok (some method) ∧
        method.signatureLine = 4 ∧ method.bodyStartLine = 5 := by
  have hbeside : AssignedBeside defaultDocument ⟨4, 4, 6, ["level".toList]⟩ "level".toList :=
    ⟨rfl, _, rfl, by rfl⟩
  have hlower : LowersBrace defaultDocument.lines loweredDefaultDocument.lines
      (defaultDocument.lines.take 4) "    private void InjectDependencies(int level = 1)".toList
      " \x7b".toList "    \x7b".toList (defaultDocument.lines.drop 5) :=
    ⟨by rfl, by rfl, by decide, by decide, by rfl, by rfl⟩
  obtain ⟨hassigned, hlowered⟩ := hasAssignment_located_iff locateInLines_defaultDocument rfl
  obtain ⟨method, hfound, hsignature, hstart, -⟩ :=
    hlowered loweredDefaultDocument _ _ _ _ _ hlower rfl (by rfl)
  exact ⟨locateInLines_defaultDocument, hbeside, hassigned.mpr (Or.inr hbeside), method, hfound,
    hsignature, hstart⟩

/-- A default value is taken for an assignment: no line of the body assigns to the field, and with
the brace on a line of its own the field does not count as assigned. -/
theorem defaultDocument_assigned :
    locateInLines defaultDocument "level".toList .standard =
        .ok ⟨⟨"level".toList, "int".toList, 2⟩, ⟨1, 6⟩, some ⟨4, 4, 6, ["level".toList]⟩⟩ ∧
      hasAssignment defaultDocument ⟨4, 4, 6, ["level".toList]⟩ "level".toList = true ∧
      ¬ AssignedBelow defaultDocument ⟨4, 4, 6, ["level".toList]⟩ "level".toList ∧
      locateInLines loweredDefaultDocument "level".toList .standard =
        .ok ⟨⟨"level".toList, "int".toList, 2⟩, ⟨1, 7⟩, some ⟨4, 5, 7, ["level".toList]⟩⟩ ∧
      hasAssignment loweredDefaultDocument ⟨4, 5, 7, ["level".toList]⟩ "level".toList = false := by
  refine ⟨locateInLines_defaultDocument, by rfl, ?_, by rfl, by rfl⟩
  rintro ⟨index, line, hstart, hstop, hline, hassigns⟩
  obtain rfl : index = 5 := by
    simp only at hstart hstop
    omega
  obtain rfl : "    \x7d".toList = line := Option.some.inj hline
  exact absurd hassigns (by decide)

end FieldInjection
