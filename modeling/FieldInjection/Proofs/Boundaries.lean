import FieldInjection.Proofs.Frames

/-!
# The boundaries of a method in its class

An injection method is found by its marker, which lies between the braces of the class.  Its
signature may still be the closing line of the class, its body may open on a line that closes other
blocks, and the end of the body is searched to the end of the document.  All the same a method that
is found lies in its class, with its parts in order: the search for the end of the body is never
deeper than the class, so it has decided by the time the class ends.

So a merge has little to go wrong.  The line of the signature exists, the body opens and closes on
different lines, and only a signature without a parameter list keeps a parameter from being added.
What the merge leaves behind is the same method at the same place.

## Main Statements

* `merge_eq_error_iff`: why a merge into a method fails.
* `bounds_of_findInjectionMethodIn`: the order of the parts of a method, and that no other failure
  of a merge is left.
* `findInjectionMethodIn_merged`: the method that a merge leaves behind.
-/

namespace FieldInjection

/-! ## What keeps a merge from being made -/

/-- A merge fails when the parameter is missing and there is no list to put it in, and for no other
reason. -/
theorem merge_eq_error_iff {snapshot : Snapshot} {method : InjectionMethod} {field : FieldReference}
    {config : Configuration} {before body after : List Text} {signature close : Text}
    (hcut : MethodLines snapshot.lines method before signature body close after) {fault : Fault} :
    merge snapshot method field config = .error fault ↔
      fault = .noParameterList config.methodName method.signatureLine ∧
        method.hasParameter (parameterName field.name) = false ∧
        appendParameter? signature field.declaredType (parameterName field.name) = none := by
  rw [merge_eq hcut, updatedSignature?]
  by_cases hparameter : method.hasParameter (parameterName field.name) = true
  · simp [hparameter]
  · rw [if_neg hparameter]
    cases happend : appendParameter? signature field.declaredType (parameterName field.name) with
    | none => simp [hparameter, eq_comm]
    | some updated => simp

/-- An injection method that is found in a class has its signature behind the opening line of the
class, its body opens on the signature's line or behind it and closes on a later line, and that line
is not behind the closing line of the class.  So a merge of whatever field never misses the
signature and never meets a body on one line; it fails exactly when the parameter is missing and the
signature has no list for it. -/
theorem bounds_of_findInjectionMethodIn {snapshot : Snapshot} {fieldLine : Nat}
    {config : Configuration} {span : ClassSpan} {method : InjectionMethod}
    (hspan : findClassSpan snapshot fieldLine config.baseType = .ok span)
    (hfound : findInjectionMethodIn snapshot span config = .ok (some method)) :
    (span.startLine < method.signatureLine ∧ method.signatureLine ≤ method.bodyStartLine ∧
      method.bodyStartLine < method.bodyCloseLine ∧ method.bodyCloseLine ≤ span.endLine ∧
      span.endLine < snapshot.size) ∧
    ∀ field : FieldReference,
      (∀ line, merge snapshot method field config ≠ .error (.noSignature line)) ∧
      (∀ name line, merge snapshot method field config ≠ .error (.oneLineBody name line)) ∧
      ((∃ fault, merge snapshot method field config = .error fault) ↔
        method.hasParameter (parameterName field.name) = false ∧
          ∃ signature, snapshot.line? method.signatureLine = some signature ∧
            appendParameter? signature field.declaredType (parameterName field.name) = none) := by
  obtain ⟨-, -, hend, -, -⟩ := findClassSpan_eq_ok_iff.mp hspan
  obtain ⟨before, signature, body, close, after, hcut, hstart, hclose⟩ :=
    exists_methodLines_of_findInjectionMethodIn hend hfound
  have hcloseLine : method.bodyCloseLine = before.length + 1 + body.length := by
    rw [InjectionMethod.bodyCloseLine, hcut.bodyEndLine, Nat.add_sub_cancel]
  refine ⟨?_, fun field => ⟨fun line h => ?_, fun name line h => ?_, ?_⟩⟩
  · rw [hcloseLine, hcut.signatureLine]
    exact ⟨hstart, hcut.bodyStartLine, hcut.bodyStart_lt, hclose, lt_size_of_blockEnd hend⟩
  · exact absurd ((merge_eq_error_iff hcut).mp h).1 (by simp)
  · exact absurd ((merge_eq_error_iff hcut).mp h).1 (by simp)
  · simp only [merge_eq_error_iff hcut, exists_eq_left, hcut.line?_signatureLine, Option.some.injEq,
      exists_eq_left']

/-- A class whose body ends on the line of its header, and a method below it that ends where the
class is taken to end.  The method has no parameter list. -/
def sharedBraceDocument : Snapshot :=
  .ofLines ["class A : MonoBehaviour \x7b \x7d".toList,
    "[Inject]".toList,
    "object InjectDependencies \x7b".toList,
    "    private IFoo _foo;".toList,
    "\x7d".toList]

theorem sharedBraceDocument_bounds :
    findClassSpan sharedBraceDocument 3 "MonoBehaviour".toList = .ok ⟨0, 4⟩ ∧
      findInjectionMethodIn sharedBraceDocument ⟨0, 4⟩ .standard = .ok (some ⟨2, 2, 5, []⟩) ∧
      InjectionMethod.bodyCloseLine ⟨2, 2, 5, []⟩ ≤ 4 ∧ 4 < sharedBraceDocument.size ∧
      ∃ fault, merge sharedBraceDocument ⟨2, 2, 5, []⟩ ⟨"_foo".toList, "IFoo".toList, 3⟩ .standard =
        .error fault := by
  have hspan : findClassSpan sharedBraceDocument 3 Configuration.standard.baseType =
      .ok ⟨0, 4⟩ := by rfl
  have hfound : findInjectionMethodIn sharedBraceDocument ⟨0, 4⟩ .standard =
      .ok (some ⟨2, 2, 5, []⟩) := by rfl
  obtain ⟨⟨-, -, -, hclose, hsize⟩, hmerge⟩ :=
    bounds_of_findInjectionMethodIn hspan hfound
  exact ⟨hspan, hfound, hclose, hsize,
    (hmerge ⟨"_foo".toList, "IFoo".toList, 3⟩).2.2.mpr ⟨rfl, _, rfl, rfl⟩⟩

/-! ## The method that a merge leaves behind -/

/-- After a merge, the class of the method ends later by the assignment that was put in, if one was,
and the method is found in it again: the signature is on the same line, the body opens on the same
line and ends later by the assignment.  That one stands where the body closed before, and it is
recognised as an assignment to the field. -/
theorem findInjectionMethodIn_merged {snapshot : Snapshot} {fieldLine : Nat}
    {config : Configuration} {span : ClassSpan} {method : InjectionMethod} {field : FieldReference}
    {merged : Merged} (hflaw : config.flaw? = none) (hname : isIdentifier field.name = true)
    (htype : openBrace ∉ field.declaredType ∧ closeBrace ∉ field.declaredType)
    (hspan : findClassSpan snapshot fieldLine config.baseType = .ok span)
    (hfound : findInjectionMethodIn snapshot span config = .ok (some method))
    (hmerge : merge snapshot method field config = .ok merged) :
    merged.snapshot.blockEnd span.startLine = some (span.endLine + merged.assignmentAdded.toNat) ∧
      (∃ parameters, findInjectionMethodIn merged.snapshot
        ⟨span.startLine, span.endLine + merged.assignmentAdded.toNat⟩ config =
          .ok (some ⟨method.signatureLine, method.bodyStartLine,
            method.bodyEndLine + merged.assignmentAdded.toNat, parameters⟩)) ∧
      (merged.assignmentAdded = true →
        merged.snapshot.line? method.bodyCloseLine =
            some (assignmentLine snapshot method field config) ∧
          assignsToken (assignmentLine snapshot method field config) field.name = true) := by
  have hconfig := Configuration.flaw?_eq_none_iff.mp hflaw
  obtain ⟨-, -, hend, -, -⟩ := findClassSpan_eq_ok_iff.mp hspan
  obtain ⟨before, signature, body, close, after, hcut, hstart, hclose⟩ :=
    exists_methodLines_of_findInjectionMethodIn hend hfound
  rw [merge_eq hcut] at hmerge
  cases hupdated : updatedSignature? method field signature with
  | none => simp [hupdated] at hmerge
  | some updated =>
    simp only [hupdated, Except.ok.injEq] at hmerge
    have hlines : merged.snapshot.lines = before ++ updated ::
        (body ++ (addedLines snapshot method field config ++ close :: after)) := by rw [← hmerge]
    have hadds : merged.assignmentAdded = !hasAssignment snapshot method field.name := by
      rw [← hmerge]
    have hcount : merged.assignmentAdded.toNat =
        (addedLines snapshot method field config).length := by
      rw [hadds, addedLines]
      cases hasAssignment snapshot method field.name <;> rfl
    have hkeeps := keepsSignature_updatedSignature? hconfig hname
      (braceDelta_eq_zero htype.1 htype.2) hupdated
    have hadded : IsClosed (addedLines snapshot method field config) :=
      isClosed_addedLines_of_isIdentifier hconfig hname
    refine ⟨?_, ⟨parameterNames updated, ?_⟩, fun hnew => ⟨?_, ?_⟩⟩
    · rw [hcount]
      exact blockEnd_edited hcut hlines hconfig hname hkeeps.braces (Nat.le_of_lt hstart)
        (by rw [hcut.bodyEndLine]; omega) hend
    · rw [hcount, hcut.signatureLine]
      exact findInjectionMethodBetween_edited hcut hlines hkeeps hadded rfl hfound
        (Nat.le_add_right _ _)
    · exact line?_bodyCloseLine_edited hcut hlines (by simpa [hadds] using hnew)
    · exact assignsToken_assignment hname fun c hc =>
        isBlank_of_mem_statementIndent (fun c hc => hconfig.isBlank_of_mem_indentUnit hc) hc

/-- A class with an injection method that has a blank line in front of its body. -/
def spacedDocument : Snapshot :=
  .ofLines ["class A : MonoBehaviour".toList,
    "\x7b".toList,
    "    private IFoo _foo;".toList,
    "    [Inject]".toList,
    "    private void InjectDependencies(int level = 1)".toList,
    [],
    "    \x7b".toList,
    "    \x7d".toList,
    "\x7d".toList]

theorem spacedDocument_merged :
    ∃ merged, merge spacedDocument ⟨4, 6, 8, ["level".toList]⟩ ⟨"_foo".toList, "IFoo".toList, 2⟩
        .standard = .ok merged ∧ merged.assignmentAdded = true ∧
      merged.snapshot.blockEnd 1 = some 9 ∧
      (∃ parameters, findInjectionMethodIn merged.snapshot ⟨1, 9⟩ .standard =
        .ok (some ⟨4, 6, 9, parameters⟩)) ∧
      merged.snapshot.line? 7 = some "        _foo = foo;".toList := by
  have hspan : findClassSpan spacedDocument 2 Configuration.standard.baseType = .ok ⟨1, 8⟩ := by rfl
  have hfound : findInjectionMethodIn spacedDocument ⟨1, 8⟩ .standard =
      .ok (some ⟨4, 6, 8, ["level".toList]⟩) := by rfl
  obtain ⟨merged, hmerge, hadds⟩ : ∃ merged, merge spacedDocument ⟨4, 6, 8, ["level".toList]⟩
      ⟨"_foo".toList, "IFoo".toList, 2⟩ .standard = .ok merged ∧ merged.assignmentAdded = true :=
    ⟨_, rfl, by decide +kernel⟩
  obtain ⟨hend, hagain, hline⟩ :=
    findInjectionMethodIn_merged (by decide +kernel) (by decide +kernel)
      (by decide) hspan hfound hmerge
  rw [hadds] at hend hagain
  refine ⟨merged, hmerge, hadds, hend, hagain, (hline hadds).1.trans ?_⟩
  rfl

end FieldInjection
