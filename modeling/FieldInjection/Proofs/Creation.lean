import FieldInjection.Proofs.Locations
import FieldInjection.Proofs.NewMethods
import FieldInjection.Proofs.Plans
import FieldInjection.Proofs.Snapshots

/-!
# A created method is found again

A new injection method is written before the closing brace of the class.  Read again, the document
has the field and the class where they were, a class body that is six lines longer, and the new
method as the injection method of the class.

## Main Statements

* `locateInLines_created`: what is located in a class after a method was written into it.
* `inject_create_located_again`: a created method is found by the next run, which has nothing to do.
-/

namespace FieldInjection

/-! ## Reading the edited document -/

theorem braceDelta_dropReturn (line : Text) : braceDelta (dropReturn line) = braceDelta line := by
  rw [dropReturn]
  split
  · next hlast =>
    obtain ⟨front, rfl⟩ := List.getLast?_eq_some_iff.mp hlast
    rw [List.dropLast_concat, braceDelta_append]
    exact (add_zero _).symm
  · rfl

/-! ## The new method in its class -/

section Created

variable {snapshot created : Snapshot} {config : Configuration} {field : FieldReference}
    {span : ClassSpan} {indent : Text} {rest : List Text}
    (hconfig : config.IsSound) (hfield : field.IsInjectable)
    (hindent : ∀ c ∈ indent, isBlank c = true)
    (hlines : created.lines =
      snapshot.lines.take span.endLine ++ (methodLines field indent config ++ rest))

/-- The method that is written into a class. -/
def createdMethod (field : FieldReference) (span : ClassSpan) (indent : Text)
    (config : Configuration) : InjectionMethod :=
  ⟨span.endLine + 2, span.endLine + 3, span.endLine + 6,
    parameterNames (newSignature field indent config)⟩

include hconfig hfield hindent hlines

/-- The end of the class moves by the lines of the method. -/
theorem blockEnd_created
    (hrest : rest.map braceDelta = (snapshot.lines.drop span.endLine).map braceDelta)
    (hend : snapshot.blockEnd span.startLine = some span.endLine) :
    created.blockEnd span.startLine = some (span.endLine + 6) := by
  obtain ⟨front, close, after, hsplit, hstop, -⟩ := exists_of_blockEnd hend
  rw [Snapshot.blockEnd_eq_firstBlockEnd, hsplit, hstop] at hend
  have hdrop : snapshot.lines.drop span.endLine = close :: after := by
    rw [hstop, ← List.drop_drop, hsplit, List.drop_left]
  rw [hdrop, List.map_cons] at hrest
  obtain ⟨close', after', rfl, hclose, -⟩ := List.map_eq_cons_iff.mp hrest
  have hstart : span.startLine ≤ (snapshot.lines.take span.endLine).length := by
    have hlength := congrArg List.length hsplit
    simp only [List.length_drop, List.length_append, List.length_cons] at hlength
    rw [List.length_take]
    omega
  have hfront : (snapshot.lines.take span.endLine).drop span.startLine = front := by
    rw [hstop, List.take_add, List.drop_append_of_le_length (by simp at hstart ⊢; omega)]
    have hnil : (snapshot.lines.take span.startLine).drop span.startLine = [] := by simp
    rw [hnil, hsplit, List.nil_append, List.take_left]
  rw [Snapshot.blockEnd_eq_firstBlockEnd, hlines, List.drop_append_of_le_length hstart, hfront,
    firstBlockEnd_insert hend rfl (isClosed_methodLines hconfig hfield hindent) hclose, ← hstop,
    methodLines_eq]
  rfl

omit hfield hindent in
/-- No line in front of the new method is annotated: the old ones are not, and the empty line before
the marker keeps them apart from it. -/
theorem not_annotated_before_created (hsize : span.endLine < snapshot.size)
    (hnone : findInjectionMethodIn snapshot span config = .ok none) {line : Nat}
    (hstart : span.startLine + 1 ≤ line) (hline : line < span.endLine + 1) :
    ¬ Annotated config.marker.trim config.methodName created.lines line := by
  have hlength : (snapshot.lines.take span.endLine).length = span.endLine :=
    List.length_take_of_le (Nat.le_of_lt hsize)
  have hold : ∀ index < span.endLine, created.lines[index]? = snapshot.lines[index]? := by
    intro index hindex
    rw [hlines, List.getElem?_append_left (by omega), List.getElem?_take_of_lt hindex]
  have hempty : created.lines[span.endLine]? = some [] := by
    rw [hlines, List.getElem?_append_right (by omega), hlength, Nat.sub_self, methodLines_eq]
    rfl
  rintro ⟨marker, signature, hmarker, hsignature, htrim, htoken⟩
  rcases Nat.lt_or_ge (line + 1) span.endLine with hlt | hge
  · rw [hold line (by omega)] at hmarker
    rw [hold (line + 1) hlt] at hsignature
    refine not_annotated_of_findInjectionMethodBetween hnone hstart ?_
      ⟨marker, signature, hmarker, hsignature, htrim, htoken⟩
    rw [min_eq_left (Nat.le_of_lt hsize)]
    omega
  · rcases Nat.lt_or_ge line span.endLine with hlt | hge'
    · obtain rfl : [] = signature := by
        rw [show line + 1 = span.endLine by omega, hempty] at hsignature
        exact Option.some.inj hsignature
      rw [containsToken_nil (ne_nil_of_isIdentifier hconfig.methodName)
        (fun c hc => isIdentifierChar_of_mem hconfig.methodName hc)] at htoken
      exact Bool.false_ne_true htoken
    · obtain rfl : [] = marker := by
        rw [show line = span.endLine by omega, hempty] at hmarker
        exact Option.some.inj hmarker
      exact hconfig.marker_trim_ne_nil htrim.symm

/-- The new method is the injection method of its class. -/
theorem findInjectionMethodIn_created (hsize : span.endLine < snapshot.size)
    (hspan : span.startLine < span.endLine)
    (hnone : findInjectionMethodIn snapshot span config = .ok none) :
    findInjectionMethodIn created ⟨span.startLine, span.endLine + 6⟩ config =
      .ok (some (createdMethod field span indent config)) := by
  have hlength : (snapshot.lines.take span.endLine).length = span.endLine :=
    List.length_take_of_le (Nat.le_of_lt hsize)
  have hstop : min (span.endLine + 6) created.size = span.endLine + 6 := by
    rw [Snapshot.size, hlines, List.length_append, hlength, List.length_append, methodLines_eq]
    simp
  have hannotated := annotated_methodLines hconfig hindent hlines
  have hsignature : created.lines[span.endLine + 2]? = some (newSignature field indent config) := by
    rw [hlines, List.getElem?_append_right (by omega), hlength, Nat.add_sub_cancel_left,
      methodLines_eq]
    rfl
  have hread := readMethod_methodLines hconfig hfield hindent hlines
    (show (snapshot.lines.take span.endLine).length + 6 ≤ span.endLine + 6 by omega)
  rw [hlength] at hannotated hread
  have hfirst := fun other (hstart : span.startLine + 1 ≤ other)
    (hother : other < span.endLine + 1) =>
    not_annotated_before_created hconfig hlines hsize hnone hstart hother
  rw [findInjectionMethodIn, findInjectionMethodBetween_eq_of_first (by omega)
    (show span.endLine + 1 < min (span.endLine + 6) created.size by omega) hannotated hsignature
    hfirst, hstop, hread]
  rfl

/-- After a method was written into a class, every field of the class is located on its line, in the
longer class, with the new method. -/
theorem locateInLines_created {name : Text} {other : FieldReference}
    (hrest : rest.map braceDelta = (snapshot.lines.drop span.endLine).map braceDelta)
    (hlocated : locateInLines snapshot name config = .ok ⟨other, span, none⟩) :
    locateInLines created name config =
      .ok ⟨other, ⟨span.startLine, span.endLine + 6⟩,
        some (createdMethod field span indent config)⟩ := by
  obtain ⟨hother, hspan, hnone⟩ := locateInLines_eq_ok_iff.mp hlocated
  obtain ⟨hin, -, hend, hcontains, -⟩ := findClassSpan_eq_ok_iff.mp hspan
  simp only [ClassSpan.contains_iff] at hcontains hin hother hend
  have hsize := lt_size_of_blockEnd hend
  have hlength : (snapshot.lines.take span.endLine).length = span.endLine :=
    List.length_take_of_le (Nat.le_of_lt hsize)
  have htake : created.lines.take (other.line + 1) = snapshot.lines.take (other.line + 1) := by
    rw [hlines, List.take_append_of_le_length (by omega), List.take_take,
      min_eq_left (by omega)]
  refine locateInLines_eq_ok_iff.mpr ⟨locateField_of_take_eq htake hother rfl, ?_, ?_⟩
  · refine findClassSpan_of_take_eq htake hspan ?_
      (blockEnd_created hconfig hfield hindent hlines hrest hend) (by omega)
    rw [Snapshot.size, hlines, List.length_append, hlength]
    omega
  · exact findInjectionMethodIn_created hconfig hfield hindent hlines hsize (by omega) hnone

/-- The new method assigns its field. -/
theorem hasAssignment_created (hsize : span.endLine < snapshot.size) :
    hasAssignment created (createdMethod field span indent config) field.name = true := by
  have hlength : (snapshot.lines.take span.endLine).length = span.endLine :=
    List.length_take_of_le (Nat.le_of_lt hsize)
  have hbody : span.endLine + 3 ≤ span.endLine + 4 ∧ span.endLine + 4 < span.endLine + 6 := by omega
  have hline : created.lines[span.endLine + 4]? = some (indent ++ config.indentUnit ++
      assignment field.name (parameterName field.name)) := by
    rw [hlines, List.getElem?_append_right (by omega), hlength, Nat.add_sub_cancel_left,
      methodLines_eq]
    rfl
  have hblank : ∀ c ∈ indent ++ config.indentUnit, isBlank c = true := by
    intro c hc
    rcases List.mem_append.mp hc with hc | hc
    · exact hindent c hc
    · exact hconfig.isBlank_of_mem_indentUnit hc
  exact hasAssignment_eq_true_iff.mpr
    ⟨_, _, hbody.1, hbody.2, hline, assignsToken_assignment hfield.name hblank⟩

end Created

/-! ## Creating and running again -/

theorem memberIndent_eq_indentation {snapshot : Snapshot} {line : Nat} {text unit : Text}
    (h : snapshot.lines[line]? = some text) :
    memberIndent snapshot (some line) unit = text.indentation := by
  simp [memberIndent, Snapshot.line?, h]

/-- The method that is created for a located field is indented by blanks. -/
theorem isBlank_of_mem_memberIndent {snapshot : Snapshot} {name unit : Text}
    {field : FieldReference} (hlocated : locateField snapshot name = some field) {c : Char}
    (hc : c ∈ memberIndent snapshot (some field.line) unit) : isBlank c = true := by
  obtain ⟨line, hline, -⟩ := exists_line_of_locateField hlocated
  rw [memberIndent_eq_indentation hline] at hc
  exact Text.isBlank_of_mem_indentation hc

/-- The method that is created for a located field is read back line by line. -/
theorem ofText_toText_createMethod {text name : Text} {config : Configuration}
    {field : FieldReference} {span : ClassSpan} (hconfig : config.IsSound)
    (hmarker : '\n' ∉ config.marker.trim) (hsize : span.endLine < (Snapshot.ofText text).size)
    (hlocated : locateField (.ofText text) name = some field) :
    Snapshot.ofText (createMethod (.ofText text) field span config).toText =
      (Snapshot.ofText text).reread.insertLines span.endLine
        (methodLines field (memberIndent (.ofText text) (some field.line) config.indentUnit)
          config) := by
  have hfaithful := Snapshot.isFaithful_ofText text
  obtain ⟨line, hline, hname, htype⟩ := exists_line_of_locateField hlocated
  have hfeed : '\n' ∉ line := hfaithful.no_feed line (List.mem_of_getElem? hline)
  have hfree : '\n' ∉ memberIndent (.ofText text) (some field.line) config.indentUnit := by
    rw [memberIndent_eq_indentation hline]
    exact fun hc => hfeed (List.takeWhile_subset _ hc)
  refine Snapshot.ofText_toText_insertLines hfaithful hsize (by simp [methodLines_eq]) ?_
  intro added hadded
  exact not_mem_feed_of_mem_methodLines hconfig hmarker (fun hc => hfeed (hname _ hc))
    (fun hc => hfeed (htype _ hc)) hfree hadded

/-- The lines of the document after a method was created for a located field. -/
theorem exists_lines_createMethod {text name : Text} {config : Configuration}
    {field : FieldReference} {span : ClassSpan} (hconfig : config.IsSound)
    (hmarker : '\n' ∉ config.marker.trim) (hsize : span.endLine < (Snapshot.ofText text).size)
    (hlocated : locateField (.ofText text) name = some field) :
    ∃ indent rest, (∀ c ∈ indent, isBlank c = true) ∧
      (Snapshot.ofText (createMethod (.ofText text) field span config).toText).lines =
        (Snapshot.ofText text).lines.take span.endLine ++
          (methodLines field indent config ++ rest) ∧
      rest.map braceDelta = ((Snapshot.ofText text).lines.drop span.endLine).map braceDelta := by
  refine ⟨memberIndent (.ofText text) (some field.line) config.indentUnit,
    (Snapshot.ofText text).reread.lines.drop span.endLine,
    fun c => isBlank_of_mem_memberIndent hlocated, ?_, ?_⟩
  · rw [ofText_toText_createMethod hconfig hmarker hsize hlocated, Snapshot.insertLines,
      Snapshot.take_lines_reread hsize, List.append_assoc]
  · rw [List.map_drop, List.map_drop, Snapshot.map_lines_reread braceDelta_dropReturn]

/-- After a method was created for a field, the field is located on the same line with the same type
in a class that is six lines longer, with the method that was written.  The field is its parameter
and is assigned in its body, so the next run has nothing to do. -/
theorem inject_create_located_again {injector : Injector} {text name : Text}
    (hbackend : injector.backend = .lines) (hflaw : injector.config.flaw? = none)
    (hmarker : '\n' ∉ injector.config.marker) (hname : isIdentifier name = true)
    (hparameter : parameterName name ≠ [])
    (hplan : (injector.inject text name).plan = .create) :
    ∃ field span method,
      locateInLines (.ofText text) name injector.config = .ok ⟨field, span, none⟩ ∧
      locateInLines (.ofText (injector.inject text name).text) name injector.config =
        .ok ⟨field, ⟨span.startLine, span.endLine + 6⟩, some method⟩ ∧
      method.signatureLine = span.endLine + 2 ∧ method.bodyStartLine = span.endLine + 3 ∧
      method.bodyEndLine = span.endLine + 6 ∧ parameterName name ∈ method.parameters ∧
      hasAssignment (.ofText (injector.inject text name).text) method name = true ∧
      injector.plan (injector.inject text name).text name = .unavailable .alreadyInjected ∧
      injector.inject (injector.inject text name).text name =
        ⟨.unavailable .alreadyInjected, (injector.inject text name).text, none⟩ := by
  have hconfig := Configuration.flaw?_eq_none_iff.mp hflaw
  obtain ⟨field, span, hlocated⟩ :=
    Injector.exists_of_inject_plan_create hbackend hname hplan
  obtain ⟨hfound, hspan, -⟩ := locateInLines_eq_ok_iff.mp hlocated
  obtain ⟨-, -, hend, -, -⟩ := findClassSpan_eq_ok_iff.mp hspan
  have hsize := lt_size_of_blockEnd hend
  have hfield := isInjectable_of_locateField hfound hname hparameter
  obtain rfl : field.name = name := by
    obtain ⟨-, _, _, _, -, -, -, hself, -⟩ := locateField_eq_some_iff.mp hfound
    exact hself
  obtain ⟨indent, rest, hindent, hlines, hrest⟩ :=
    exists_lines_createMethod hconfig (fun hc => hmarker (Text.mem_of_mem_trim hc)) hsize hfound
  rw [Injector.inject_of_no_method hbackend hname hlocated]
  have hagain := locateInLines_created hconfig hfield hindent hlines hrest hlocated
  have hlisted := mem_parameterNames_newSignature hconfig hfield hindent
  have hassigned := hasAssignment_created hconfig hfield hindent hlines hsize
  have hinject := Injector.inject_of_injected hbackend hname hagain
    (List.contains_iff_mem.mpr hlisted) hassigned
  refine ⟨field, span, createdMethod field span indent injector.config, hlocated, hagain, rfl, rfl,
    rfl, hlisted, hassigned, ?_, hinject⟩
  rw [Injector.plan_eq_inject_plan, hinject]

/-- A class with line endings of two characters and a carriage return at the very end. -/
def returnDocument : Text :=
  "public class A : MonoBehaviour\r\n\x7b\r\n\tprivate List<IFoo>[] m_foo;\r\n\x7d\r".toList

theorem returnDocument_located_again :
    (Injector.standard.inject returnDocument "m_foo".toList).plan = .create ∧
      Injector.standard.inject (Injector.standard.inject returnDocument "m_foo".toList).text
          "m_foo".toList =
        ⟨.unavailable .alreadyInjected,
          (Injector.standard.inject returnDocument "m_foo".toList).text, none⟩ := by
  have hplan : (Injector.standard.inject returnDocument "m_foo".toList).plan = .create := by
    decide +kernel
  obtain ⟨_, _, _, -, -, -, -, -, -, -, -, hagain⟩ := inject_create_located_again rfl
    (by decide +kernel) (by decide +kernel) (by decide +kernel) (by decide +kernel) hplan
  exact ⟨hplan, hagain⟩

end FieldInjection
