import FieldInjection.Proofs.Locations
import FieldInjection.Proofs.Methods
import FieldInjection.Proofs.Nesting

/-!
# What is behind a class is not looked at

A field, its class and the injection method of the class are located by the lines up to the closing
brace of the class.  The search for the method goes by blocks and could run on behind the class, but
blocks inside the class end inside it.

## Main Statements

* `readMethod_of_take_eq`, `findInjectionMethodIn_of_take_eq`: the method of a class in two
  documents with the same lines up to the end of the class.
* `findInjectionMethodIn_truncate`: the method of a class in the document cut off behind the class.
* `locateInLines_eq_of_take_eq`: the whole location, or the reason why there is none.
-/

namespace FieldInjection

section Prefix

variable {snapshot other : Snapshot} {span : ClassSpan} {config : Configuration}
    (hlines : other.lines.take (span.endLine + 1) = snapshot.lines.take (span.endLine + 1))
    (hend : snapshot.blockEnd span.startLine = some span.endLine)

include hlines

/-- Searches inside the class body do not look behind it. -/
theorem firstFilledLine?_of_take_eq {start : Nat} :
    firstFilledLine? other.lines start span.endLine =
      firstFilledLine? snapshot.lines start span.endLine := by
  rw [firstFilledLine?, firstFilledLine?, take_eq_of_take_eq hlines (Nat.le_succ _)]

/-- Neither do annotations in the class body. -/
theorem annotated_of_take_eq {marker methodName : Text} {line : Nat} (hline : line < span.endLine) :
    Annotated marker methodName other.lines line ↔
      Annotated marker methodName snapshot.lines line := by
  rw [Annotated, Annotated, getElem?_eq_of_take_eq hlines (Nat.le_of_lt hline),
    getElem?_eq_of_take_eq hlines (Nat.succ_le_of_lt hline)]

include hend

/-- The other document has the lines of the class body as well. -/
theorem lt_size_of_take_eq : span.endLine < other.size := by
  have hsize : span.endLine < snapshot.lines.length := lt_size_of_blockEnd hend
  have hlength := congrArg List.length hlines
  simp only [List.length_take] at hlength
  rw [Snapshot.size]
  omega

/-- A method is read from a signature inside a class by the lines up to the end of the class. -/
theorem readMethod_of_take_eq {methodName signature : Text} {line : Nat}
    (hstart : span.startLine ≤ line) (hline : line ≤ span.endLine) :
    readMethod other methodName line signature span.endLine =
      readMethod snapshot methodName line signature span.endLine := by
  by_cases hbrace : signature.trimEnd.getLast? = some openBrace
  · simp only [readMethod, hbrace, if_true, blockEnd_of_take_eq hlines hend hstart hline]
  · simp only [readMethod, hbrace, if_false, firstFilledLine?_of_take_eq hlines]
    cases hfilled : firstFilledLine? snapshot.lines (line + 1) span.endLine with
    | none => rfl
    | some bodyStart =>
      obtain ⟨hafter, hbefore, -, -⟩ := firstFilledLine?_eq_some_iff.mp hfilled
      simp only [getElem?_eq_of_take_eq hlines (Nat.le_of_lt hbefore)]
      cases htext : snapshot.lines[bodyStart]? with
      | none => rfl
      | some text =>
        by_cases hopening : Snapshot.isOpeningLine text = true
        · rw [enclosingBlockEnd_of_take_eq hlines hend (by omega) hbefore htext hopening]
        · simp only [Option.any_some, hopening, Bool.false_eq_true, if_false]

/-- The method of a class is found by the lines up to the end of the class. -/
theorem findInjectionMethodIn_of_take_eq :
    findInjectionMethodIn other span config = findInjectionMethodIn snapshot span config := by
  have hstop : min span.endLine snapshot.size = span.endLine :=
    Nat.min_eq_left (Nat.le_of_lt (lt_size_of_blockEnd hend))
  have hstop' : min span.endLine other.size = span.endLine :=
    Nat.min_eq_left (Nat.le_of_lt (lt_size_of_take_eq hlines hend))
  rw [findInjectionMethodIn, findInjectionMethodIn]
  -- the first annotated line of the class is the same in both documents, or there is none in either
  rcases exists_first_annotated config.marker.trim config.methodName snapshot.lines
    (span.startLine + 1) span.endLine with hnone | ⟨line, hstart, hline, hfound, hfirst⟩
  · have hnone' : ∀ line, span.startLine + 1 ≤ line → line < span.endLine →
        ¬ Annotated config.marker.trim config.methodName other.lines line := by
      intro line hstart hline
      rw [annotated_of_take_eq hlines hline]
      exact hnone line hstart hline
    rw [← hstop] at hnone
    rw [← hstop'] at hnone'
    exact (findInjectionMethodBetween_eq_ok_none hnone').trans
      (findInjectionMethodBetween_eq_ok_none hnone).symm
  · obtain ⟨_, signature, -, hsignature, -⟩ := id hfound
    have hsignature' : other.lines[line + 1]? = some signature :=
      (getElem?_eq_of_take_eq hlines hline).trans hsignature
    have hfirst' : ∀ earlier, span.startLine + 1 ≤ earlier → earlier < line →
        ¬ Annotated config.marker.trim config.methodName other.lines earlier := by
      intro earlier hearlier hlt
      rw [annotated_of_take_eq hlines (by omega)]
      exact hfirst earlier hearlier hlt
    rw [findInjectionMethodBetween_eq_of_first hstart (by rwa [hstop]) hfound hsignature hfirst,
      findInjectionMethodBetween_eq_of_first hstart (by rwa [hstop'])
        ((annotated_of_take_eq hlines hline).mpr hfound) hsignature' hfirst', hstop, hstop',
      readMethod_of_take_eq hlines hend (by omega) hline]

omit hend in
/-- A field and its class are found by the lines up to the end of the class. -/
theorem field_and_class_of_take_eq {name : Text} {field : FieldReference}
    (hfield : locateField snapshot name = some field)
    (hspan : findClassSpan snapshot field.line config.baseType = .ok span) :
    locateField other name = some field ∧
      findClassSpan other field.line config.baseType = .ok span := by
  obtain ⟨-, -, hend, hcontains, -⟩ := findClassSpan_eq_ok_iff.mp hspan
  rw [ClassSpan.contains_iff] at hcontains
  have hbefore : other.lines.take (field.line + 1) = snapshot.lines.take (field.line + 1) :=
    take_eq_of_take_eq hlines (by omega)
  have hsize := lt_size_of_take_eq hlines hend
  have hend' : other.blockEnd span.startLine = some span.endLine :=
    (blockEnd_of_take_eq hlines hend le_rfl (by omega)).trans hend
  exact ⟨locateField_of_take_eq hbefore hfield rfl,
    findClassSpan_of_take_eq hbefore hspan (by omega) hend' hcontains.2⟩

end Prefix

/-- A document without what is behind a class. -/
def Snapshot.truncate (snapshot : Snapshot) (span : ClassSpan) : Snapshot :=
  { snapshot with lines := snapshot.lines.take (span.endLine + 1) }

/-- The method of a class is found as well when the document ends with the class. -/
theorem findInjectionMethodIn_truncate {snapshot : Snapshot} {span : ClassSpan}
    {config : Configuration} (hend : snapshot.blockEnd span.startLine = some span.endLine) :
    findInjectionMethodIn (snapshot.truncate span) span config =
      findInjectionMethodIn snapshot span config :=
  findInjectionMethodIn_of_take_eq (by rw [Snapshot.truncate, List.take_take, Nat.min_self]) hend

/-- What is behind a class has no influence on where the fields of the class are located, nor on why
one of them is not: two documents with the same lines up to the closing brace give the same
answer. -/
theorem locateInLines_eq_of_take_eq {snapshot other : Snapshot} {name : Text}
    {config : Configuration} {field : FieldReference} {span : ClassSpan}
    (hfield : locateField snapshot name = some field)
    (hspan : findClassSpan snapshot field.line config.baseType = .ok span)
    (hlines : other.lines.take (span.endLine + 1) = snapshot.lines.take (span.endLine + 1)) :
    locateInLines other name config = locateInLines snapshot name config := by
  obtain ⟨-, -, hend, -, -⟩ := findClassSpan_eq_ok_iff.mp hspan
  obtain ⟨hfield', hspan'⟩ := field_and_class_of_take_eq hlines hfield hspan
  simp only [locateInLines, hfield, hfield', hspan, hspan', bind, Except.bind,
    findInjectionMethodIn_of_take_eq hlines hend]

/-- A class with an injection method, and behind it a class with another one. -/
def followedDocument : Snapshot :=
  .ofLines ["public class A : MonoBehaviour \x7b".toList,
    "    private IFoo _foo;".toList,
    "    [Inject]".toList,
    "    private void InjectDependencies(IBar bar)".toList,
    "    \x7b".toList,
    "    \x7d\x7d".toList,
    "public class B : MonoBehaviour \x7b".toList,
    "    private IFoo _foo;".toList,
    "\x7d".toList]

/-- The same class, where something else is behind it, with braces that never balance. -/
def otherwiseFollowedDocument : Snapshot :=
  .ofLines (followedDocument.lines.take 6 ++ ["\x7b\x7b".toList, "    [Inject]".toList])

theorem followedDocument_located_alike :
    locateInLines followedDocument "_foo".toList .standard =
        .error (.unbalancedBody "InjectDependencies".toList 4) ∧
      locateInLines otherwiseFollowedDocument "_foo".toList .standard =
        locateInLines followedDocument "_foo".toList .standard := by
  have hfield : locateField followedDocument "_foo".toList =
      some ⟨"_foo".toList, "IFoo".toList, 1⟩ := by rfl
  have hspan : findClassSpan followedDocument 1 Configuration.standard.baseType = .ok ⟨0, 5⟩ := by
    rfl
  exact ⟨rfl, locateInLines_eq_of_take_eq hfield hspan (by rfl)⟩

end FieldInjection
