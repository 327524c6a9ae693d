import FieldInjection.Proofs.Creation
import FieldInjection.Proofs.Merging
import Mathlib.Algebra.GroupWithZero.Nat

/-!
# Edited documents keep their lines

A snapshot is read back with the lines it was written from when none of them has a line feed.  The
lines of a document that was read have none, nor have the texts that a field and a configuration put
into new lines, with one exception: the marker may have any blanks between its brackets, a line feed
too, and is then written on several lines.  Apart from it, whatever is created or merged is one line
of the document.

How many lines are read back is counted by the line feeds: those between the lines of the snapshot,
and those inside them (`size_ofText_toText`).

## Main Statements

* `Snapshot.size_ofText_toText`: how many lines a snapshot is read back with.
* `feed_not_mem_of_locateField`: the name and the type of a located field.
* `isFaithful_merged`: what a merge writes is read back line by line.
* `lines_of_edited`: the lines of edited documents.
-/

namespace FieldInjection

/-! ## Counting lines -/

/-- A text has one line more than line feeds. -/
theorem length_splitOn (mark : Char) (text : Text) :
    (text.splitOn mark).length = text.count mark + 1 := by
  induction text with
  | nil => simp
  | cons c text ih =>
    rw [List.splitOn_cons_eq_if_modifyHead, List.count_cons]
    by_cases hc : c = mark
    · simp [hc, ih]
    · simp [hc, ih]

theorem count_intercalate {separator : Text} {mark : Char} (hcount : separator.count mark = 1)
    {entries : List Text} (hne : entries ≠ []) :
    (separator.intercalate entries).count mark + 1 =
      entries.length + (entries.map (·.count mark)).sum := by
  induction entries with
  | nil => exact absurd rfl hne
  | cons first others ih =>
    cases others with
    | nil => simp [Nat.add_comm]
    | cons second others =>
      have hothers := ih (by simp)
      rw [List.intercalate_cons_cons, List.count_append, List.count_append, hcount, List.map_cons,
        List.sum_cons, List.length_cons]
      omega

theorem sum_count_eq_zero_iff {lines : List Text} :
    (lines.map (·.count '\n')).sum = 0 ↔ ∀ line ∈ lines, '\n' ∉ line := by
  induction lines with
  | nil => simp
  | cons line lines ih =>
    rw [List.map_cons, List.sum_cons, Nat.add_eq_zero_iff, ih, List.count_eq_zero,
      List.forall_mem_cons]

namespace Snapshot

variable {snapshot : Snapshot}

/-- As many lines are read back as there are, and one more for each line feed inside them. -/
theorem size_ofText_toText (hne : snapshot.lines ≠ []) :
    (ofText snapshot.toText).size = snapshot.size + (snapshot.lines.map (·.count '\n')).sum := by
  have hending : snapshot.ending.text.count '\n' = 1 := by
    cases snapshot.ending <;> rfl
  rw [size, ofText, List.length_map, length_splitOn, toText, count_intercalate hending hne, size]

/-- A faithful snapshot is read back as it was, up to a carriage return at its very end. -/
theorem IsFaithful.ofText_toText_eq (h : snapshot.IsFaithful) (hsize : 1 < snapshot.size) :
    ofText snapshot.toText = snapshot.reread := by
  obtain ⟨front, last, hlines⟩ := exists_lines_eq h
  have hfront : front ≠ [] := by
    rintro rfl
    simp [size, hlines] at hsize
  rw [ofText_toText h hlines hfront, ← lines_reread_concat hlines]
  rfl

/-- All lines but the last are read back as they were. -/
theorem line?_reread {index : Nat} (hindex : index + 1 < snapshot.size) :
    snapshot.reread.line? index = snapshot.line? index := by
  have htake := congrArg (·[index]?) (take_lines_reread hindex)
  simpa [line?] using htake

end Snapshot

/-! ## What goes into new lines -/

section Located

variable {text name : Text} {config : Configuration} {field : FieldReference}
    (hconfig : config.IsSound) (hlocated : locateField (.ofText text) name = some field)

include hlocated

/-- A located field stands on one line, with its name and its type. -/
theorem feed_not_mem_of_locateField : '\n' ∉ field.name ∧ '\n' ∉ field.declaredType := by
  obtain ⟨line, hline, hname, htype⟩ := exists_line_of_locateField hlocated
  have hfeed := (Snapshot.isFaithful_ofText text).no_feed line (List.mem_of_getElem? hline)
  exact ⟨fun hc => hfeed (hname _ hc), fun hc => hfeed (htype _ hc)⟩

theorem feed_not_mem_memberIndent (unit : Text) :
    '\n' ∉ memberIndent (.ofText text) (some field.line) unit := by
  obtain ⟨line, hline, -⟩ := exists_line_of_locateField hlocated
  have hfeed := (Snapshot.isFaithful_ofText text).no_feed line (List.mem_of_getElem? hline)
  rw [memberIndent_eq_indentation hline]
  exact fun hc => hfeed (List.takeWhile_subset _ hc)

include hconfig

/-- The lines of a new method have the line feeds of the marker. -/
theorem sum_count_methodLines :
    ((methodLines field (memberIndent (.ofText text) (some field.line) config.indentUnit)
      config).map
      (·.count '\n')).sum = config.marker.trim.count '\n' := by
  obtain ⟨hname, htype⟩ := feed_not_mem_of_locateField hlocated
  have hindent := List.count_eq_zero.mpr (feed_not_mem_memberIndent hlocated config.indentUnit)
  have hunit : config.indentUnit.count '\n' = 0 :=
    List.count_eq_zero.mpr fun hc => absurd (hconfig.indentUnit _ hc) (by decide)
  have hmethod : config.methodName.count '\n' = 0 := List.count_eq_zero.mpr fun hc =>
    absurd (isPlain_of_mem_identifier hconfig.methodName hc) (by decide)
  have hparameter := feed_not_mem_parameterName hname
  have hassignment := List.count_eq_zero.mpr (feed_not_mem_assignment hname hparameter)
  have hmarks : ∀ text ∈ ["private void ".toList, ['('], [' '], [')'], [openBrace], [closeBrace]],
      text.count '\n' = 0 := by decide
  simp only [List.mem_cons, List.not_mem_nil, or_false, forall_eq_or_imp, forall_eq] at hmarks
  obtain ⟨hvoid, hopen, hspace, hclose, hopening, hclosing⟩ := hmarks
  simp only [methodLines, List.map_cons, List.map_nil, List.sum_cons, List.sum_nil,
    List.count_append, List.count_nil, hindent, hunit, hmethod, hassignment, hvoid, hopen, hspace,
    hclose, hopening, hclosing, List.count_eq_zero.mpr hparameter, List.count_eq_zero.mpr htype,
    Nat.zero_add, Nat.add_zero]

/-- So have the lines of a document in which the method was put. -/
theorem sum_count_createMethod (span : ClassSpan) :
    ((createMethod (.ofText text) field span config).lines.map (·.count '\n')).sum =
      config.marker.trim.count '\n' := by
  have hfeed := (Snapshot.isFaithful_ofText text).no_feed
  have htake := sum_count_eq_zero_iff.mpr fun line (hline : line ∈ (Snapshot.ofText text).lines.take
    span.endLine) => hfeed line (List.mem_of_mem_take hline)
  have hdrop := sum_count_eq_zero_iff.mpr fun line (hline : line ∈ (Snapshot.ofText text).lines.drop
    span.endLine) => hfeed line (List.mem_of_mem_drop hline)
  rw [createMethod, Snapshot.insertLines, List.map_append, List.map_append, List.sum_append,
    List.sum_append, htake, hdrop, sum_count_methodLines hconfig hlocated,
    Nat.zero_add, Nat.add_zero]

/-- Behind the lines of the class, the six lines of the new method are read back. -/
theorem take_lines_reread_createMethod {span : ClassSpan} (hmarker : '\n' ∉ config.marker.trim)
    (hsize : span.endLine < (Snapshot.ofText text).size) :
    ((Snapshot.ofText (createMethod (.ofText text) field span config).toText).lines.drop
        span.endLine).take 6 =
      methodLines field (memberIndent (.ofText text) (some field.line) config.indentUnit)
        config := by
  have hlength : ((Snapshot.ofText text).reread.lines.take span.endLine).length = span.endLine := by
    rw [Snapshot.take_lines_reread hsize]
    exact List.length_take_of_le (Nat.le_of_lt hsize)
  rw [ofText_toText_createMethod hconfig hmarker hsize hlocated, Snapshot.insertLines,
    List.append_assoc, List.drop_left' hlength]
  exact List.take_left' rfl

end Located

/-! ## What a merge writes -/

section Merged

variable {text name : Text} {config : Configuration} {field : FieldReference}
    {method : InjectionMethod}

/-- A signature with one more parameter ends as it did. -/
theorem line_updatedSignature? {signature updated : Text} (hname : '\n' ∉ field.name)
    (htype : '\n' ∉ field.declaredType) (hsignature : '\n' ∉ signature)
    (h : updatedSignature? method field signature = some updated) :
    '\n' ∉ updated ∧ updated.getLast? = signature.getLast? := by
  rw [updatedSignature?] at h
  split at h
  · obtain rfl := Option.some.inj h
    exact ⟨hsignature, rfl⟩
  · cases hparts : parenthesized? signature with
    | none => simp [appendParameter?, hparts] at h
    | some parts =>
      obtain ⟨before, inside, behind⟩ := parts
      rw [appendParameter?_eq _ _ hparts, Option.some.injEq] at h
      obtain ⟨rfl, -, -⟩ := parenthesized?_eq_some_iff.mp hparts
      simp only [List.mem_append, List.mem_cons, not_or] at hsignature
      have hlist : '\n' ∉ extendedList inside field.declaredType (parameterName field.name) := by
        have hparameter := feed_not_mem_parameterName hname
        have htrim : '\n' ∉ inside.trim := fun hc => hsignature.2.2.1 (Text.mem_of_mem_trim hc)
        rw [extendedList]
        split <;> simp [htype, hparameter, htrim]
      subst h
      refine ⟨?_, ?_⟩
      · simp [hsignature, hlist]
      · simp [List.getLast?_append, List.getLast?_cons]

/-- Another line in the place of one that is not the last, and further ones between the lines, keep
a snapshot faithful if they can be lines of it. -/
theorem Snapshot.IsFaithful.edited {ending : LineEnding} {before body added rest : List Text}
    {signature updated last : Text}
    (h : IsFaithful ⟨before ++ signature :: (body ++ (rest ++ [last])), ending⟩)
    (hupdated : '\n' ∉ updated ∧ updated.getLast? = signature.getLast?)
    (hadded : ∀ line ∈ added, '\n' ∉ line ∧ line.getLast? ≠ some '\r') :
    IsFaithful ⟨before ++ updated :: (body ++ (added ++ (rest ++ [last]))), ending⟩ := by
  have hdropLast : ∀ inner : List Text, ∀ line : Text,
      (before ++ line :: (inner ++ (rest ++ [last]))).dropLast =
      before ++ line :: (inner ++ rest) := by
    intro inner line
    have hconcat : before ++ line :: (inner ++ (rest ++ [last])) =
        (before ++ line :: (inner ++ rest)) ++ [last] := by simp
    rw [hconcat, List.dropLast_concat]
  have hfeed := h.no_feed
  have hreturn := h.no_return
  rw [hdropLast] at hreturn
  simp only [List.forall_mem_append, List.forall_mem_cons] at hfeed hreturn
  refine ⟨by simp, ?_, fun hending => ?_⟩
  · simp only [List.forall_mem_append, List.forall_mem_cons]
    exact ⟨hfeed.1, hupdated.1, hfeed.2.2.1, fun line hline => (hadded line hline).1, hfeed.2.2.2⟩
  · obtain ⟨hbefore, hsignature, hbody, hrest⟩ := hreturn hending
    simp only [← List.append_assoc body added] at *
    rw [hdropLast]
    simp only [List.forall_mem_append, List.forall_mem_cons]
    exact ⟨hbefore, hupdated.2 ▸ hsignature,
      ⟨hbody, fun line hline => (hadded line hline).2⟩, hrest⟩

/-- An assignment is one line. -/
theorem line_of_mem_addedLines (hconfig : config.IsSound) (hname : '\n' ∉ field.name) {line : Text}
    (hline : line ∈ addedLines (.ofText text) method field config) :
    '\n' ∉ line ∧ line.getLast? ≠ some '\r' := by
  have hunit : '\n' ∉ config.indentUnit := fun hc => absurd (hconfig.indentUnit _ hc) (by decide)
  have hindent : '\n' ∉ statementIndent (.ofText text) method config.indentUnit :=
    feed_not_mem_statementIndent (Snapshot.isFaithful_ofText text).no_feed hunit
  rw [addedLines] at hline
  split at hline
  · simp at hline
  · obtain rfl := List.mem_singleton.mp hline
    exact line_append_assignment hindent hname

/-- A merge into a method that was found replaces its signature, and adds a line before its closing
brace. -/
theorem exists_methodLines_of_merge {snapshot : Snapshot} {start stop : Nat} {merged : Merged}
    (hfound : findInjectionMethodBetween snapshot start stop config = .ok (some method))
    (hmerge : merge snapshot method field config = .ok merged) :
    ∃ before signature updated body close after,
      MethodLines snapshot.lines method before signature body close after ∧
      updatedSignature? method field signature = some updated ∧
      merged = ⟨⟨before ++ updated ::
        (body ++ (addedLines snapshot method field config ++ close :: after)),
        snapshot.ending⟩, !method.hasParameter (parameterName field.name),
        !hasAssignment snapshot method field.name⟩ := by
  obtain ⟨before, signature, body, close, after, hcut⟩ :=
    exists_methodLines_of_findInjectionMethodBetween hfound
  obtain ⟨updated, hupdated, hmerged⟩ := exists_updated_of_merge hcut hmerge
  exact ⟨before, signature, updated, body, close, after, hcut, hupdated, hmerged⟩

/-- What a merge into a method of a document writes is read back line by line. -/
theorem isFaithful_merged {start stop : Nat} {merged : Merged} (hconfig : config.IsSound)
    (hlocated : locateField (.ofText text) name = some field)
    (hfound : findInjectionMethodBetween (.ofText text) start stop config = .ok (some method))
    (hmerge : merge (.ofText text) method field config = .ok merged) :
    merged.snapshot.IsFaithful := by
  obtain ⟨before, signature, updated, body, close, after, hcut, hupdated, rfl⟩ :=
    exists_methodLines_of_merge hfound hmerge
  obtain ⟨hname, htype⟩ := feed_not_mem_of_locateField hlocated
  have hfaithful := Snapshot.isFaithful_ofText text
  have hsignature : '\n' ∉ signature := hfaithful.no_feed signature (by simp [hcut.lines_eq])
  obtain ⟨rest, last, hrest⟩ : ∃ rest last, close :: after = rest ++ [last] :=
    ⟨_, _, (List.dropLast_concat_getLast (List.cons_ne_nil close after)).symm⟩
  have hlines : Snapshot.ofText text =
      ⟨before ++ signature :: (body ++ (rest ++ [last])), (Snapshot.ofText text).ending⟩ := by
    rw [← hrest, ← hcut.lines_eq]
  rw [hlines] at hfaithful
  rw [hrest]
  exact hfaithful.edited (line_updatedSignature? hname htype hsignature hupdated)
    fun line => line_of_mem_addedLines hconfig hname

section Reread

variable {snapshot edited : Snapshot} {before body after : List Text}
    {signature updated close : Text}
    (hcut : MethodLines snapshot.lines method before signature body close after)
    (hlines : edited.lines =
      before ++ updated :: (body ++ (addedLines snapshot method field config ++ close :: after)))
    (hfaithful : edited.IsFaithful)

include hlines

/-- The length of a document with a method that was merged into. -/
theorem size_edited : edited.size = before.length + 1 + body.length +
    (addedLines snapshot method field config).length + 1 + after.length := by
  rw [Snapshot.size, hlines]
  simp only [List.length_append, List.length_cons]
  omega

include hfaithful

theorem ofText_toText_edited : Snapshot.ofText edited.toText = edited.reread := by
  have hsize := size_edited hlines
  exact hfaithful.ofText_toText_eq (by omega)

include hcut

/-- The signature of the method is read back where it was. -/
theorem line?_signatureLine_reread :
    (Snapshot.ofText edited.toText).line? method.signatureLine = some updated := by
  have hsize := size_edited hlines
  have hbehind : method.signatureLine + 1 < edited.size := by
    rw [hcut.signatureLine]
    omega
  rw [ofText_toText_edited hlines hfaithful, Snapshot.line?_reread hbehind, Snapshot.line?, hlines,
    hcut.signatureLine]
  exact getElem?_append_cons_length

/-- A new assignment is read back where the body closed. -/
theorem line?_bodyCloseLine_reread (hassigned : hasAssignment snapshot method field.name = false) :
    (Snapshot.ofText edited.toText).line? method.bodyCloseLine =
      some (assignmentLine snapshot method field config) := by
  have hsize := size_edited hlines
  have hadded : (addedLines snapshot method field config).length = 1 := by
    simp [addedLines, hassigned]
  have hbehind : method.bodyCloseLine + 1 < edited.size := by
    rw [InjectionMethod.bodyCloseLine, hcut.bodyEndLine]
    omega
  rw [ofText_toText_edited hlines hfaithful, Snapshot.line?_reread hbehind,
    line?_bodyCloseLine_edited hcut hlines hassigned]

end Reread

end Merged

/-! ## The lines of edited documents -/

/-- A new method is on lines of its own, and the document is read back with as many lines as it was
written from, exactly when the marker has no line feed.  Each line feed of the marker is one more
line.  The line of a signature with a new parameter and that of a new assignment are read back in
any case, and so are as many lines as there are after a merge. -/
theorem lines_of_edited {text name : Text} {config : Configuration} {field : FieldReference}
    (hflaw : config.flaw? = none) (hlocated : locateField (.ofText text) name = some field) :
    (∀ line span, findClassSpan (.ofText text) line config.baseType = .ok span →
      ((∀ line ∈ (createMethod (.ofText text) field span config).lines, '\n' ∉ line) ↔
        '\n' ∉ config.marker.trim) ∧
      (Snapshot.ofText (createMethod (.ofText text) field span config).toText).size =
        (createMethod (.ofText text) field span config).size + config.marker.trim.count '\n' ∧
      ('\n' ∉ config.marker.trim →
        ((Snapshot.ofText (createMethod (.ofText text) field span config).toText).lines.drop
            span.endLine).take 6 =
          methodLines field (memberIndent (.ofText text) (some field.line) config.indentUnit)
            config)) ∧
    ∀ start stop method merged,
      findInjectionMethodBetween (.ofText text) start stop config = .ok (some method) →
      merge (.ofText text) method field config = .ok merged →
      (∀ line ∈ merged.snapshot.lines, '\n' ∉ line) ∧
      (Snapshot.ofText merged.snapshot.toText).size = merged.snapshot.size ∧
      (merged.parameterAdded = true → ∃ signature updated,
        (Snapshot.ofText text).line? method.signatureLine = some signature ∧
        appendParameter? signature field.declaredType (parameterName field.name) = some updated ∧
        (Snapshot.ofText merged.snapshot.toText).line? method.signatureLine = some updated) ∧
      (merged.assignmentAdded = true →
        (Snapshot.ofText merged.snapshot.toText).line? method.bodyCloseLine =
          some (assignmentLine (.ofText text) method field config)) := by
  have hconfig := Configuration.flaw?_eq_none_iff.mp hflaw
  refine ⟨fun line span hspan => ?_, fun start stop method merged hfound hmerge => ?_⟩
  · have hsum := sum_count_createMethod hconfig hlocated span
    obtain ⟨-, -, hend, -, -⟩ := findClassSpan_eq_ok_iff.mp hspan
    have hsize := lt_size_of_blockEnd hend
    refine ⟨?_, ?_, fun hmarker => ?_⟩
    · rw [← sum_count_eq_zero_iff, hsum, List.count_eq_zero]
    · rw [Snapshot.size_ofText_toText, hsum]
      simp [createMethod, Snapshot.insertLines, methodLines]
    · exact take_lines_reread_createMethod hconfig hlocated hmarker hsize
  · obtain ⟨before, signature, updated, body, close, after, hcut, hupdated, hmerged⟩ :=
      exists_methodLines_of_merge hfound hmerge
    have hfaithful := isFaithful_merged hconfig hlocated hfound hmerge
    have hlines : merged.snapshot.lines = before ++ updated ::
        (body ++ (addedLines (.ofText text) method field config ++ close :: after)) := by
      rw [hmerged]
    refine ⟨hfaithful.no_feed, by rw [ofText_toText_edited hlines hfaithful, Snapshot.size_reread],
      fun hadded => ?_, fun hadded => ?_⟩
    · have hnew : method.hasParameter (parameterName field.name) = false := by
        simpa [hmerged] using hadded
      rw [updatedSignature?, hnew, if_neg (by decide)] at hupdated
      exact ⟨signature, updated, hcut.line?_signatureLine, hupdated,
        line?_signatureLine_reread hcut hlines hfaithful⟩
    · have hnew : hasAssignment (.ofText text) method field.name = false := by
        simpa [hmerged] using hadded
      exact line?_bodyCloseLine_reread hcut hlines hfaithful hnew

/-- A class with an injection method for another field. -/
def receivingDocument : Snapshot :=
  .ofLines ["class A : MonoBehaviour".toList,
    "\x7b".toList,
    "    private IFoo _foo;".toList,
    "    [Inject]".toList,
    "    private void InjectDependencies(IBar bar)".toList,
    "    \x7b".toList,
    "    \x7d".toList,
    "\x7d".toList]

/-- The injection method of that class. -/
def receivingMethod : InjectionMethod := ⟨4, 5, 7, ["bar".toList]⟩

/-- The field that the method does not receive yet. -/
def receivedField : FieldReference := ⟨"_foo".toList, "IFoo".toList, 2⟩

/-- A second method is written on six lines, and the first one gets its assignment on one line. -/
theorem receivingDocument_lines :
    ((Snapshot.ofText
        (createMethod receivingDocument receivedField ⟨1, 7⟩ .standard).toText).lines.drop 7).take
          6 =
        methodLines receivedField "    ".toList .standard ∧
      ∃ merged, merge receivingDocument receivingMethod receivedField .standard = .ok merged ∧
        (Snapshot.ofText merged.snapshot.toText).size = merged.snapshot.size ∧
        (Snapshot.ofText merged.snapshot.toText).line? 6 = some "        _foo = foo;".toList := by
  have hread : Snapshot.ofText receivingDocument.toText = receivingDocument := by decide +kernel
  have hflaw : Configuration.standard.flaw? = none := by decide +kernel
  have hlocated : locateField (.ofText receivingDocument.toText) "_foo".toList =
      some receivedField := by
    decide +kernel
  have hlines := lines_of_edited hflaw hlocated
  rw [hread] at hlines
  obtain ⟨hcreated, hmerged⟩ := hlines
  obtain ⟨-, -, hlines⟩ := hcreated 2 ⟨1, 7⟩ rfl
  obtain ⟨merged, hmerge, hadded⟩ : ∃ merged,
      merge receivingDocument receivingMethod receivedField .standard = .ok merged ∧
        merged.assignmentAdded = true := ⟨_, rfl, by decide +kernel⟩
  obtain ⟨-, hsize, -, hassignment⟩ := hmerged 2 7 receivingMethod merged rfl hmerge
  exact ⟨hlines (by decide +kernel), merged, hmerge, hsize, hassignment hadded⟩

/-- The marker with its name on a line of its own. -/
def spreadMarker : Configuration := { Configuration.standard with marker := "[\nInject\n]".toList }

/-- A class without an injection method. -/
def lonelyText : Text := "class A : MonoBehaviour\n\x7b\n    private IFoo _foo;\n\x7d\n".toList

/-- A marker that passes for one attribute is written on three lines, which are not read as one
again. -/
theorem lonelyText_marker_spread :
    spreadMarker.flaw? = none ∧
      locateInLines (.ofText lonelyText) "_foo".toList spreadMarker =
        .ok ⟨receivedField, ⟨1, 3⟩, none⟩ ∧
      (createMethod (.ofText lonelyText) receivedField ⟨1, 3⟩ spreadMarker).size = 11 ∧
      (Snapshot.ofText
        (createMethod (.ofText lonelyText) receivedField ⟨1, 3⟩ spreadMarker).toText).size = 13 ∧
      ∃ line ∈ (createMethod (.ofText lonelyText) receivedField ⟨1, 3⟩ spreadMarker).lines,
        '\n' ∈ line :=
  ⟨by decide +kernel, by rfl, by decide +kernel, by decide +kernel, by decide +kernel⟩

end FieldInjection
