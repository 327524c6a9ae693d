import FieldInjection.Proofs.Configurations
import FieldInjection.Proofs.Declarations
import FieldInjection.Proofs.Methods
import FieldInjection.Proofs.Signatures

/-!
# Merging a field into a method again

A merge changes the signature in place and puts at most one line before the closing brace of the
body.  So the edited document has the same method at the same place, with a body that may be a line
longer, and the field is assigned in it.  Whether the field is also found among the parameters again
depends on the parameters that were there: a default value with an unbalanced angle bracket keeps
the commas behind it from being seen.

## Main Definitions

* `MethodLines`: a document cut at the signature and at the closing brace of a method.
* `parameterList?`: what stands between the parentheses of a method.

## Main Statements

* `findInjectionMethodBetween_edited`: the method is found again in an edited document.
* `merge_again`: the second merge of a field.
* `shiftDocument_merged_twice`: a document in which it adds the parameter again.
-/

namespace FieldInjection

/-! ## A method in its document -/

/-- The line behind some others. -/
theorem getElem?_append_cons_length {before rest : List Text} {line : Text} :
    (before ++ line :: rest)[before.length]? = some line := by
  rw [List.getElem?_append_right le_rfl, Nat.sub_self, List.getElem?_cons_zero]

/-- The lines of a document, cut at the signature and at the closing brace of a method. -/
structure MethodLines (lines : List Text) (method : InjectionMethod) (before : List Text)
    (signature : Text) (body : List Text) (close : Text) (after : List Text) : Prop where
  /-- The parts make up the document. -/
  lines_eq : lines = before ++ signature :: (body ++ close :: after)
  /-- The signature is where the method says. -/
  signatureLine : method.signatureLine = before.length
  /-- The body opens on the signature's line or after it. -/
  bodyStartLine : before.length ≤ method.bodyStartLine
  /-- The body opens before it closes. -/
  bodyStart_lt : method.bodyStartLine < before.length + 1 + body.length
  /-- The body closes where the method says. -/
  bodyEndLine : method.bodyEndLine = before.length + 1 + body.length + 1
  /-- The parameters are those of the signature. -/
  parameters : method.parameters = parameterNames signature

/-- The signature of a method in its document. -/
theorem MethodLines.line?_signatureLine {snapshot : Snapshot} {method : InjectionMethod}
    {before body after : List Text} {signature close : Text}
    (hcut : MethodLines snapshot.lines method before signature body close after) :
    snapshot.line? method.signatureLine = some signature := by
  rw [Snapshot.line?, hcut.lines_eq, hcut.signatureLine]
  exact getElem?_append_cons_length

/-- The lines from the opening brace of a method to its closing one. -/
theorem MethodLines.bodyLines_eq {lines before body after : List Text} {method : InjectionMethod}
    {signature close : Text} (hcut : MethodLines lines method before signature body close after) :
    (lines.take method.bodyEndLine).drop method.bodyStartLine =
      (signature :: body).drop (method.bodyStartLine - before.length) ++ [close] := by
  have hstart := hcut.bodyStart_lt
  obtain ⟨skip, hskip⟩ := Nat.exists_eq_add_of_le hcut.bodyStartLine
  have hend : method.bodyEndLine = before.length + (signature :: body ++ [close]).length := by
    rw [hcut.bodyEndLine, List.length_append, List.length_cons, List.length_singleton]
    omega
  have hsplit : lines = before ++ ((signature :: body ++ [close]) ++ after) := by
    simp [hcut.lines_eq]
  rw [hend, hskip, hsplit, List.take_length_add_append, List.drop_length_add_append, List.take_left,
    Nat.add_sub_cancel_left, List.drop_append_of_le_length]
  rw [List.length_cons]
  omega

/-- Lines cut at two places. -/
theorem exists_cut_twice {lines : List Text} {first second : Nat} {line : Text}
    (hfirst : lines[first]? = some line) (hlt : first < second) (hsecond : second < lines.length) :
    ∃ before body close after, lines = before ++ line :: (body ++ close :: after) ∧
      before.length = first ∧ first + 1 + body.length = second := by
  obtain ⟨hbound, rfl⟩ := List.getElem?_eq_some_iff.mp hfirst
  obtain ⟨gap, rfl⟩ := Nat.exists_eq_add_of_lt hlt
  refine ⟨lines.take first, (lines.drop (first + 1)).take gap, lines[first + gap + 1],
    lines.drop (first + gap + 1 + 1), ?_, List.length_take_of_le (Nat.le_of_lt hbound), ?_⟩
  · have hrest : (lines.drop (first + 1)).drop gap =
        lines[first + gap + 1] :: lines.drop (first + gap + 1 + 1) := by
      rw [List.drop_drop, show first + 1 + gap = first + gap + 1 by omega,
        List.drop_eq_getElem_cons hsecond]
    rw [← hrest, List.take_append_drop, ← List.drop_eq_getElem_cons hbound, List.take_append_drop]
  · rw [List.length_take_of_le (by rw [List.length_drop]; omega)]
    omega

/-- A method that was read is cut out of its document. -/
theorem exists_methodLines_of_readMethod {snapshot : Snapshot} {methodName signature : Text}
    {signatureLine stop : Nat} {method : InjectionMethod}
    (h : readMethod snapshot methodName signatureLine signature stop = .ok method)
    (hsignature : snapshot.lines[signatureLine]? = some signature) :
    ∃ before body close after,
      MethodLines snapshot.lines method before signature body close after := by
  rcases readMethod_eq_ok_iff.mp h with ⟨-, close, hend, rfl⟩ |
    ⟨-, bodyStart, line, close, hfilled, hline, hopening, hend, rfl⟩
  · obtain ⟨front, -, -, -, hstop, hne⟩ := exists_of_blockEnd hend
    have hpos := List.length_pos_iff.mpr hne
    obtain ⟨before, body, closing, after, hlines, hbefore, hbody⟩ :=
      exists_cut_twice hsignature (by omega) (lt_size_of_blockEnd hend)
    refine ⟨before, body, closing, after, hlines, hbefore.symm, ?_, ?_, ?_, rfl⟩ <;>
      simp only <;> omega
  · obtain ⟨hstart, -, -, -⟩ := firstFilledLine?_eq_some_iff.mp hfilled
    have hlt : bodyStart < close ∧ close < snapshot.lines.length := by
      rw [enclosingBlockEnd_of_isOpeningLine hline hopening] at hend
      obtain ⟨front, closing, after, hlines, -, -, rfl⟩ := closingLine_eq_some_iff.mp hend
      have hlength := congrArg List.length hlines
      simp only [List.length_drop, List.length_append, List.length_cons] at hlength
      omega
    obtain ⟨before, body, closing, after, hlines, hbefore, hbody⟩ :=
      exists_cut_twice hsignature (by omega) hlt.2
    refine ⟨before, body, closing, after, hlines, hbefore.symm, ?_, ?_, ?_, rfl⟩ <;>
      simp only <;> omega

/-- A method that was found is cut out of its document. -/
theorem exists_methodLines_of_findInjectionMethodBetween {snapshot : Snapshot} {start stop : Nat}
    {config : Configuration} {method : InjectionMethod}
    (h : findInjectionMethodBetween snapshot start stop config = .ok (some method)) :
    ∃ before signature body close after,
      MethodLines snapshot.lines method before signature body close after := by
  obtain ⟨index, signature, -, -, -, hsignature, -, hread⟩ := exists_of_findInjectionMethodBetween h
  obtain ⟨before, body, close, after, hcut⟩ := exists_methodLines_of_readMethod hread hsignature
  exact ⟨before, signature, body, close, after, hcut⟩

/-! ## The same method in an edited document -/

section Edited

variable {snapshot edited : Snapshot} {method : InjectionMethod}
    {methodName signature updated : Text}
    {before body added after : List Text} {close : Text} {stop stop' : Nat}
    (hcut : MethodLines snapshot.lines method before signature body close after)
    (hlines : edited.lines = before ++ updated :: (body ++ (added ++ close :: after)))
    (hkeeps : KeepsSignature methodName signature updated) (hadded : IsClosed added)

include hcut hlines

/-- Up to the closing brace, only the signature is another. -/
theorem getElem?_edited {index : Nat} (hne : index ≠ before.length)
    (hlt : index < before.length + 1 + body.length) :
    edited.lines[index]? = snapshot.lines[index]? := by
  rw [hlines, hcut.lines_eq]
  rcases Nat.lt_or_ge index before.length with hfront | hback
  · rw [List.getElem?_append_left hfront, List.getElem?_append_left hfront]
  · obtain ⟨offset, rfl⟩ := Nat.exists_eq_add_of_le hback
    obtain ⟨inner, rfl⟩ : ∃ inner, offset = inner + 1 := ⟨offset - 1, by omega⟩
    rw [List.getElem?_append_right hback, List.getElem?_append_right hback, Nat.add_sub_cancel_left,
      List.getElem?_cons_succ, List.getElem?_cons_succ, List.getElem?_append_left (by omega),
      List.getElem?_append_left (by omega)]

/-- The method of the edited document, cut out of it. -/
theorem methodLines_edited :
    MethodLines edited.lines ⟨before.length, method.bodyStartLine,
      method.bodyEndLine + added.length,
      parameterNames updated⟩ before updated (body ++ added) close after := by
  have hstart := hcut.bodyStart_lt
  have hend := hcut.bodyEndLine
  refine ⟨by simp [hlines], rfl, hcut.bodyStartLine, ?_, ?_, rfl⟩ <;>
    simp only [List.length_append] <;> omega

/-- The document is longer by what is put in. -/
theorem size_eq_add : edited.size = snapshot.size + added.length := by
  rw [Snapshot.size, Snapshot.size, hlines, hcut.lines_eq]
  simp only [List.length_append, List.length_cons]
  omega

/-- The body has the lines that are put in before its closing brace. -/
theorem bodyLines_edited :
    (edited.lines.take (method.bodyEndLine + added.length)).drop method.bodyStartLine =
      (updated :: body).drop (method.bodyStartLine - before.length) ++ (added ++ [close]) := by
  have hopens : method.bodyStartLine - before.length ≤ (updated :: body).length := by
    have hstart := hcut.bodyStart_lt
    rw [List.length_cons]
    omega
  have hbody := (methodLines_edited hcut hlines).bodyLines_eq
  rwa [← List.cons_append, List.drop_append_of_le_length hopens, List.append_assoc] at hbody

include hadded

/-- A block that opens on a line of the body closes later by what is put in. -/
theorem enclosingBlockEnd_body_edited {opening stopLine : Nat} {line : Text}
    (hge : before.length < opening) (hlt : opening < stopLine)
    (hstop : stopLine = before.length + 1 + body.length)
    (hline : snapshot.lines[opening]? = some line) (hopening : Snapshot.isOpeningLine line = true)
    (hclose : snapshot.enclosingBlockEnd opening = some stopLine) :
    edited.enclosingBlockEnd opening = some (stopLine + added.length) := by
  have hline' : edited.lines[opening]? = some line :=
    (getElem?_edited hcut hlines (by omega) (by omega)).trans hline
  obtain ⟨gap, rfl⟩ := Nat.exists_eq_add_of_le (Nat.succ_le_of_lt hge)
  have hdrop : ∀ rest signature', (before ++ signature' :: (body ++ rest)).drop
      (before.length + 1 + gap + 1) = body.drop (gap + 1) ++ rest := by
    intro rest signature'
    rw [show before.length + 1 + gap + 1 = before.length + (gap + 1 + 1) by omega,
      List.drop_length_add_append, List.drop_succ_cons, List.drop_append_of_le_length (by omega)]
  have hlast : stopLine = before.length + 1 + gap + 1 + (body.drop (gap + 1)).length := by
    rw [List.length_drop]
    omega
  rw [enclosingBlockEnd_of_isOpeningLine hline hopening, hcut.lines_eq, Nat.succ_eq_add_one, hdrop,
    hlast] at hclose
  rw [enclosingBlockEnd_of_isOpeningLine hline' hopening, hlines, Nat.succ_eq_add_one, hdrop, hlast]
  exact closingLine_insert (by decide) hclose rfl hadded rfl

include hkeeps

/-- A block that opens on the signature closes later by what is put in. -/
theorem blockEnd_signature_edited {stopLine : Nat}
    (hstop : stopLine = before.length + 1 + body.length)
    (hclose : snapshot.blockEnd before.length = some stopLine) :
    edited.blockEnd before.length = some (stopLine + added.length) := by
  have hdrop : snapshot.lines.drop before.length = (signature :: body) ++ close :: after := by
    rw [hcut.lines_eq, List.drop_left]
    rfl
  have hlast : stopLine = before.length + (signature :: body).length := by
    rw [List.length_cons]
    omega
  have hfront : (updated :: body).map braceDelta = (signature :: body).map braceDelta := by
    simp [hkeeps.braces]
  rw [Snapshot.blockEnd_eq_firstBlockEnd, hdrop, hlast] at hclose
  rw [Snapshot.blockEnd_eq_firstBlockEnd, hlines, List.drop_left, hlast]
  exact firstBlockEnd_insert hclose hfront hadded rfl

/-- The method is read at the same place, with a body that is longer by what was put in. -/
theorem readMethod_edited
    (h : readMethod snapshot methodName before.length signature stop = .ok method)
    (hstop : stop ≤ stop') :
    readMethod edited methodName before.length updated stop' =
      .ok ⟨before.length, method.bodyStartLine, method.bodyEndLine + added.length,
        parameterNames updated⟩ := by
  have hend := hcut.bodyEndLine
  rcases readMethod_eq_ok_iff.mp h with ⟨hbrace, stopLine, hclose, rfl⟩ |
    ⟨hbrace, bodyStart, line, stopLine, hfilled, hline, hopening, hclose, rfl⟩
  · simp only at hend
    exact readMethod_eq_ok_iff.mpr (Or.inl ⟨hkeeps.opens.trans hbrace, stopLine + added.length,
      blockEnd_signature_edited hcut hlines hkeeps hadded (by omega) hclose, by simp; omega⟩)
  · obtain ⟨hstart, hbound, ⟨_, hline', hblank⟩, hfirst⟩ := firstFilledLine?_eq_some_iff.mp hfilled
    obtain rfl : line = _ := Option.some.inj (hline.symm.trans hline')
    have hopens := hcut.bodyStart_lt
    simp only at hend hopens
    have hsame : ∀ index, before.length + 1 ≤ index → index ≤ bodyStart →
        edited.lines[index]? = snapshot.lines[index]? := fun index hge hle =>
      getElem?_edited hcut hlines (by omega) (by omega)
    have hopening' : edited.lines[bodyStart]? = some line := (hsame _ hstart le_rfl).trans hline
    refine readMethod_eq_ok_iff.mpr (Or.inr ⟨fun h => hbrace (hkeeps.opens.symm.trans h), bodyStart,
      line, stopLine + added.length, ?_, hopening', hopening,
      enclosingBlockEnd_body_edited hcut hlines hadded hstart (by omega) (by omega)
        hline hopening hclose,
      by simp; omega⟩)
    refine firstFilledLine?_eq_some_iff.mpr
      ⟨hstart, by omega, ⟨line, hopening', hblank⟩, fun other text hge hlt htext => ?_⟩
    exact hfirst other text hge hlt ((hsame other hge (by omega)).symm.trans htext)

/-- The method is found again in the edited document. -/
theorem findInjectionMethodBetween_edited {config : Configuration} {start : Nat}
    (hname : config.methodName = methodName)
    (h : findInjectionMethodBetween snapshot start stop config = .ok (some method))
    (hstop : stop ≤ stop') :
    findInjectionMethodBetween edited start stop' config =
      .ok (some ⟨before.length, method.bodyStartLine, method.bodyEndLine + added.length,
        parameterNames updated⟩) := by
  obtain ⟨index, text, hstart, hbound, hfound, htext, hfirst, hread⟩ :=
    exists_of_findInjectionMethodBetween h
  have hindex : index + 1 = before.length := by
    rw [← hcut.signatureLine]
    exact (signatureLine_of_readMethod hread).symm
  obtain rfl : text = signature := by
    rw [hindex, hcut.lines_eq, getElem?_append_cons_length] at htext
    exact (Option.some.inj htext).symm
  have hsame : ∀ other ≤ index, edited.lines[other]? = snapshot.lines[other]? := fun other hle =>
    getElem?_edited hcut hlines (by omega) (by omega)
  have hupdated : edited.lines[index + 1]? = some updated := by
    rw [hindex, hlines]
    exact getElem?_append_cons_length
  have hannotated : Annotated config.marker.trim config.methodName edited.lines index := by
    obtain ⟨line, _, hline, hsignature, hmarker, htoken⟩ := hfound
    obtain rfl := Option.some.inj (htext.symm.trans hsignature)
    exact ⟨line, updated, (hsame index le_rfl).trans hline, hupdated, hmarker,
      hname ▸ hkeeps.token (hname ▸ htoken)⟩
  have hfirst' : ∀ other, start ≤ other → other < index →
      ¬ Annotated config.marker.trim config.methodName edited.lines other := by
    rintro other hge hlt ⟨line, next, hline, hnext, hmarker⟩
    rw [hsame other (by omega)] at hline
    rw [hsame (other + 1) (by omega)] at hnext
    exact hfirst other hge hlt ⟨line, next, hline, hnext, hmarker⟩
  have hsize := size_eq_add hcut hlines
  have hmin : min stop snapshot.size ≤ min stop' edited.size := by omega
  rw [hname, hindex] at hread
  rw [findInjectionMethodBetween_eq_of_first hstart (by omega) hannotated hupdated hfirst', hindex,
    hname, readMethod_edited hcut hlines hkeeps hadded hread hmin]
  rfl

end Edited

/-! ## What a merge does -/

/-- A merge signs the method first, and then goes on with the signed document. -/
theorem merge_eq_match (snapshot : Snapshot) (method : InjectionMethod) (field : FieldReference)
    (config : Configuration) :
    merge snapshot method field config =
      match (if method.hasParameter (parameterName field.name) then .ok snapshot
        else addParameter snapshot method field config) with
      | .error fault => .error fault
      | .ok signed =>
        if hasAssignment snapshot method field.name then
          .ok ⟨signed, !method.hasParameter (parameterName field.name), false⟩
        else if method.bodyCloseLine ≤ method.bodyStartLine ||
          snapshot.size ≤ method.bodyCloseLine then
          .error (.oneLineBody config.methodName method.bodyStartLine)
        else .ok ⟨signed.insertLines method.bodyCloseLine
          [assignmentLine snapshot method field config],
          !method.hasParameter (parameterName field.name), true⟩ := by
  by_cases hparameter : method.hasParameter (parameterName field.name) = true
  · simp only [merge, if_pos hparameter]
    rfl
  · simp only [merge, if_neg hparameter]
    cases addParameter snapshot method field config <;> rfl

/-- A merge adds a parameter where there is none, and an assignment where there is none. -/
theorem exists_of_merge {snapshot : Snapshot} {method : InjectionMethod} {field : FieldReference}
    {config : Configuration} {merged : Merged}
    (h : merge snapshot method field config = .ok merged) :
    ∃ signed,
      (if method.hasParameter (parameterName field.name) then .ok snapshot
        else addParameter snapshot method field config) = .ok signed ∧
      merged.snapshot = if hasAssignment snapshot method field.name then signed
        else signed.insertLines method.bodyCloseLine
          [assignmentLine snapshot method field config] := by
  rw [merge_eq_match] at h
  split at h
  · simp at h
  · next signed hsigned =>
    refine ⟨signed, hsigned, ?_⟩
    split at h
    · next hassigned => rw [if_pos hassigned, ← Except.ok.inj h]
    · next hassigned =>
      split at h
      · simp at h
      · rw [if_neg hassigned, ← Except.ok.inj h]

/-- Where the parameter is there already, a merge puts in the assignment and nothing else. -/
theorem snapshot_eq_of_merge {snapshot : Snapshot} {method : InjectionMethod}
    {field : FieldReference} {config : Configuration} {merged : Merged}
    (hparameter : method.hasParameter (parameterName field.name) = true)
    (hassigned : hasAssignment snapshot method field.name = false)
    (h : merge snapshot method field config = .ok merged) :
    merged.snapshot =
      snapshot.insertLines method.bodyCloseLine [assignmentLine snapshot method field config] := by
  obtain ⟨signed, hsigned, hmerged⟩ := exists_of_merge h
  rw [if_pos hparameter] at hsigned
  rw [hmerged, if_neg (by simp [hassigned]), Except.ok.inj hsigned]

/-- The signature after a merge, if there is one. -/
def updatedSignature? (method : InjectionMethod) (field : FieldReference) (signature : Text) :
    Option Text :=
  if method.hasParameter (parameterName field.name) then some signature
  else appendParameter? signature field.declaredType (parameterName field.name)

/-- The lines that a merge puts before the closing brace. -/
def addedLines (snapshot : Snapshot) (method : InjectionMethod) (field : FieldReference)
    (config : Configuration) : List Text :=
  if hasAssignment snapshot method field.name then []
  else [assignmentLine snapshot method field config]

section Merge

variable {snapshot : Snapshot} {method : InjectionMethod} {field : FieldReference}
    {config : Configuration} {before body after : List Text} {signature close : Text}
    (hcut : MethodLines snapshot.lines method before signature body close after)

include hcut

theorem insertLines_edited {updated : Text} {added : List Text} :
    (⟨before ++ updated :: (body ++ close :: after), snapshot.ending⟩ : Snapshot).insertLines
        method.bodyCloseLine added =
      ⟨before ++ updated :: (body ++ (added ++ close :: after)), snapshot.ending⟩ := by
  have hclose : method.bodyCloseLine = (before ++ updated :: body).length := by
    rw [InjectionMethod.bodyCloseLine, hcut.bodyEndLine, List.length_append, List.length_cons]
    omega
  have hsplit : before ++ updated :: (body ++ close :: after) =
      (before ++ updated :: body) ++ close :: after := by simp
  rw [Snapshot.insertLines, hclose, hsplit, List.take_left, List.drop_left]
  simp

omit hcut in
/-- A field that is injected is merged without an edit. -/
theorem merge_of_injected (hparameter : method.hasParameter (parameterName field.name) = true)
    (hassigned : hasAssignment snapshot method field.name = true) :
    merge snapshot method field config = .ok ⟨snapshot, false, false⟩ := by
  simp [merge, hparameter, hassigned, bind, Except.bind, pure, Except.pure]

/-- The first step of a merge puts the signature in its place, if there is one. -/
theorem signed_eq :
    (if method.hasParameter (parameterName field.name) then .ok snapshot
        else addParameter snapshot method field config : Except Fault Snapshot) =
      match updatedSignature? method field signature with
      | none => .error (.noParameterList config.methodName method.signatureLine)
      | some updated => .ok ⟨before ++ updated :: (body ++ close :: after), snapshot.ending⟩ := by
  have hreplace : ∀ updated, snapshot.replaceLine method.signatureLine updated =
      ⟨before ++ updated :: (body ++ close :: after), snapshot.ending⟩ := by
    intro updated
    rw [Snapshot.replaceLine, hcut.lines_eq, hcut.signatureLine,
      List.set_append_right _ _ le_rfl, Nat.sub_self]
    rfl
  rw [updatedSignature?]
  split
  · simp only
    rw [← hcut.lines_eq]
  · simp only [addParameter, hcut.line?_signatureLine]
    cases appendParameter? signature field.declaredType (parameterName field.name) <;>
      simp only [hreplace]

/-- The body of a method that was read opens and closes on different lines of the document. -/
theorem isOneLineBody_eq_false :
    (decide (method.bodyCloseLine ≤ method.bodyStartLine) ||
      decide (snapshot.size ≤ method.bodyCloseLine)) = false := by
  have hopens := hcut.bodyStart_lt
  have hend := hcut.bodyEndLine
  have hsize : snapshot.size = before.length + 1 + body.length + 1 + after.length := by
    rw [Snapshot.size, hcut.lines_eq]
    simp only [List.length_append, List.length_cons]
    omega
  rw [InjectionMethod.bodyCloseLine, Bool.or_eq_false_iff, decide_eq_false_iff_not,
    decide_eq_false_iff_not]
  omega

/-- A merge of a method that was read fails only for want of a parameter list. -/
theorem merge_eq :
    merge snapshot method field config =
      match updatedSignature? method field signature with
      | none => .error (.noParameterList config.methodName method.signatureLine)
      | some updated => .ok ⟨⟨before ++ updated ::
            (body ++ (addedLines snapshot method field config ++ close :: after)), snapshot.ending⟩,
          !method.hasParameter (parameterName field.name),
          !hasAssignment snapshot method field.name⟩ := by
  rw [merge_eq_match, signed_eq hcut]
  cases updatedSignature? method field signature with
  | none => rfl
  | some updated =>
    by_cases hassigned : hasAssignment snapshot method field.name = true
    · simp [hassigned, addedLines]
    · simp only [hassigned, isOneLineBody_eq_false hcut, insertLines_edited hcut, addedLines]
      rfl

/-- What a merge that goes through leaves behind. -/
theorem exists_updated_of_merge {merged : Merged}
    (hmerge : merge snapshot method field config = .ok merged) :
    ∃ updated, updatedSignature? method field signature = some updated ∧
      merged = ⟨⟨before ++ updated ::
          (body ++ (addedLines snapshot method field config ++ close :: after)), snapshot.ending⟩,
        !method.hasParameter (parameterName field.name),
        !hasAssignment snapshot method field.name⟩ := by
  rw [merge_eq hcut] at hmerge
  cases hupdated : updatedSignature? method field signature with
  | none => simp [hupdated] at hmerge
  | some updated =>
    simp only [hupdated, Except.ok.injEq] at hmerge
    exact ⟨updated, rfl, hmerge.symm⟩

end Merge

/-! ## What a merge leaves as it was -/

theorem isBlank_of_mem_statementIndent {snapshot : Snapshot} {method : InjectionMethod}
    {unit : Text} (hunit : ∀ c ∈ unit, isBlank c = true) {c : Char}
    (hc : c ∈ statementIndent snapshot method unit) :
    isBlank c = true := by
  rw [statementIndent] at hc
  split at hc
  · exact Text.isBlank_of_mem_indentation hc
  · rcases List.mem_append.mp hc with hc | hc
    · exact Text.isBlank_of_mem_indentation hc
    · exact hunit c hc

theorem feed_not_mem_statementIndent {snapshot : Snapshot} {method : InjectionMethod} {unit : Text}
    (hfeed : ∀ line ∈ snapshot.lines, '\n' ∉ line) (hunit : '\n' ∉ unit) :
    '\n' ∉ statementIndent snapshot method unit := by
  rw [statementIndent]
  split
  · next statement hfind =>
    have hmem := List.mem_of_find?_eq_some hfind
    exact fun hc => hfeed statement (List.mem_of_mem_take (List.mem_of_mem_drop hmem))
      (List.takeWhile_subset _ hc)
  · rw [List.mem_append, not_or]
    refine ⟨fun hc => ?_, hunit⟩
    cases hline : snapshot.line? method.signatureLine with
    | none => simp [hline, Text.indentation] at hc
    | some line =>
      rw [hline] at hc
      exact hfeed line (List.mem_of_getElem? hline) (List.takeWhile_subset _ hc)

/-- The assignment to an identifier closes and opens nothing. -/
theorem isClosed_addedLines_of_isIdentifier {snapshot : Snapshot} {method : InjectionMethod}
    {field : FieldReference} {config : Configuration} (hconfig : config.IsSound)
    (hname : isIdentifier field.name = true) :
    IsClosed (addedLines snapshot method field config) := by
  rw [addedLines]
  split
  · exact ⟨rfl, fun _ _ => trivial⟩
  · refine isClosed_singleton ?_
    rw [assignmentLine, braceDelta_append,
      braceDelta_assignment (fun c hc => isPlain_of_mem_identifier hname hc)
        (fun c hc => isPlain_of_mem_parameterName hname hc),
      braceDelta_of_blank fun c hc =>
        isBlank_of_mem_statementIndent (fun c hc => hconfig.isBlank_of_mem_indentUnit hc) hc]
    rfl

/-! ## The lines after a merge -/

section Merged

variable {snapshot edited : Snapshot} {method : InjectionMethod} {field : FieldReference}
    {config : Configuration} {span : ClassSpan} {before body after : List Text}
    {signature updated close : Text}
    (hcut : MethodLines snapshot.lines method before signature body close after)
    (hlines : edited.lines = before ++ updated ::
      (body ++ (addedLines snapshot method field config ++ close :: after)))

include hcut hlines

/-- The assignment stands where the body closed before. -/
theorem line?_bodyCloseLine_edited (hassigned : hasAssignment snapshot method field.name = false) :
    edited.line? method.bodyCloseLine = some (assignmentLine snapshot method field config) := by
  have hcloseLine : method.bodyCloseLine = (before ++ updated :: body).length + 0 := by
    rw [InjectionMethod.bodyCloseLine, hcut.bodyEndLine, List.length_append, List.length_cons]
    omega
  have hsplit : edited.lines = (before ++ updated :: body) ++
      assignmentLine snapshot method field config :: (close :: after) := by
    simp [hlines, addedLines, hassigned]
  rw [Snapshot.line?, hsplit, hcloseLine, List.getElem?_append_right (Nat.le_add_right _ _),
    Nat.add_sub_cancel_left, List.getElem?_cons_zero]

/-- The class around the method ends later by the lines that are put in. -/
theorem blockEnd_edited (hconfig : config.IsSound) (hname : isIdentifier field.name = true)
    (hbraces : braceDelta updated = braceDelta signature) (hstart : span.startLine ≤ before.length)
    (hclose : method.bodyEndLine ≤ span.endLine + 1)
    (hend : snapshot.blockEnd span.startLine = some span.endLine) :
    edited.blockEnd span.startLine =
      some (span.endLine + (addedLines snapshot method field config).length) := by
  have hdrop : ∀ text rest, (before ++ text :: (body ++ rest)).drop span.startLine =
      (before.drop span.startLine ++ text :: body) ++ rest := by
    intro text rest
    rw [List.drop_append_of_le_length hstart]
    simp
  rw [Snapshot.blockEnd_eq_firstBlockEnd, hcut.lines_eq, hdrop] at hend
  rw [Snapshot.blockEnd_eq_firstBlockEnd, hlines, hdrop]
  rw [hcut.bodyEndLine] at hclose
  by_cases hassigned : hasAssignment snapshot method field.name = true
  · rw [addedLines, if_pos hassigned, List.nil_append, List.length_nil, Nat.add_zero, ← hend]
    exact firstBlockEnd_congr (by simp [hbraces])
  · have hadded : addedLines snapshot method field config =
        [assignmentLine snapshot method field config] := if_neg hassigned
    have hclosed : IsClosed (addedLines snapshot method field config) :=
      isClosed_addedLines_of_isIdentifier hconfig hname
    rw [hadded] at hclosed ⊢
    refine firstBlockEnd_insert_flat (by simpa using hclosed.1) hend ?_ (by simp [hbraces]) rfl
    simp only [List.length_append, List.length_drop, List.length_cons]
    omega

end Merged

/-- A parameter with a balanced type and an identifier for a name keeps what is looked for in a
signature. -/
theorem keepsSignature_updatedSignature? {method : InjectionMethod} {field : FieldReference}
    {config : Configuration} {signature updated : Text} (hconfig : config.IsSound)
    (hname : isIdentifier field.name = true) (htype : braceDelta field.declaredType = 0)
    (h : updatedSignature? method field signature = some updated) :
    KeepsSignature config.methodName signature updated := by
  rw [updatedSignature?] at h
  split at h
  · obtain rfl := Option.some.inj h
    exact KeepsSignature.refl _ _
  · cases hparts : parenthesized? signature with
    | none => simp [appendParameter?, hparts] at h
    | some parts =>
      obtain ⟨before, inside, behind⟩ := parts
      rw [appendParameter?_eq _ _ hparts] at h
      obtain rfl := Option.some.inj h
      exact keepsSignature_extended hconfig.methodName hparts htype
        (braceDelta_of_plain fun c hc => isPlain_of_mem_parameterName hname hc)

section Kept

variable {snapshot : Snapshot} {method : InjectionMethod} {field : FieldReference}
    {config : Configuration} (hconfig : config.IsSound) (hfield : field.IsInjectable)

include hconfig hfield

/-- A merge keeps what is looked for in a signature. -/
theorem keepsSignature_updated {signature updated : Text}
    (h : updatedSignature? method field signature = some updated) :
    KeepsSignature config.methodName signature updated :=
  keepsSignature_updatedSignature? hconfig hfield.name hfield.braceDelta_declaredType h

/-- The assignment that a merge puts in closes and opens nothing. -/
theorem isClosed_addedLines : IsClosed (addedLines snapshot method field config) :=
  isClosed_addedLines_of_isIdentifier hconfig hfield.name

/-- After a merge the field is assigned. -/
theorem hasAssignment_merged {edited : Snapshot} {before body after : List Text}
    {signature updated close : Text}
    (hcut : MethodLines snapshot.lines method before signature body close after)
    (hupdated : updatedSignature? method field signature = some updated)
    (hlines : edited.lines = before ++ updated ::
      (body ++ (addedLines snapshot method field config ++ close :: after))) (names : List Text) :
    hasAssignment edited ⟨before.length, method.bodyStartLine,
      method.bodyEndLine + (addedLines snapshot method field config).length, names⟩ field.name =
        true := by
  rw [hasAssignment, bodyLines_edited hcut hlines, List.any_append, List.any_append,
    Bool.or_eq_true, Bool.or_eq_true]
  by_cases hassigned : hasAssignment snapshot method field.name = true
  · -- a line that assigns stays; if it is the signature, the new one assigns as well
    have hkept : ∀ skip, ((signature :: body).drop skip).any (assignsToken · field.name) = true →
        ((updated :: body).drop skip).any (assignsToken · field.name) = true := by
      rintro (_ | skip) h
      · rw [List.drop_zero, List.any_cons, Bool.or_eq_true] at h ⊢
        exact h.imp_left ((keepsSignature_updated hconfig hfield hupdated).assigns _ hfield.name)
      · exact h
    rw [hasAssignment, hcut.bodyLines_eq, List.any_append, Bool.or_eq_true] at hassigned
    exact hassigned.imp (hkept _) Or.inr
  · refine Or.inr (Or.inl ?_)
    rw [addedLines, if_neg hassigned, List.any_cons, List.any_nil, Bool.or_false]
    exact assignsToken_assignment hfield.name fun c hc =>
      isBlank_of_mem_statementIndent (fun c hc => hconfig.isBlank_of_mem_indentUnit hc) hc

end Kept

/-! ## Merging twice -/

/-- What stands between the parentheses of a method. -/
def parameterList? (snapshot : Snapshot) (method : InjectionMethod) : Option Text := do
  let signature ← snapshot.line? method.signatureLine
  let (_, inside, _) ← parenthesized? signature
  return inside

/-- Whether a default value in front of it hides the parameter that a merge adds for a field. -/
def hidesParameter (snapshot : Snapshot) (method : InjectionMethod)
    (field : FieldReference) : Bool :=
  (parameterList? snapshot method).any (defaultSwallows · field.declaredType)

/-- The field is among the parameters after a merge, unless the merge has added it behind a default
value that hides it. -/
theorem mem_parameterNames_updated_iff {snapshot : Snapshot} {method : InjectionMethod}
    {field : FieldReference} {before body after : List Text} {signature updated close : Text}
    (hfield : field.IsInjectable)
    (hcut : MethodLines snapshot.lines method before signature body close after)
    (hupdated : updatedSignature? method field signature = some updated) :
    parameterName field.name ∈ parameterNames updated ↔
      ¬ (method.hasParameter (parameterName field.name) = false ∧
        hidesParameter snapshot method field = true) := by
  have hline := hcut.line?_signatureLine
  rw [updatedSignature?] at hupdated
  split at hupdated
  · next hparameter =>
    obtain rfl := Option.some.inj hupdated
    rw [InjectionMethod.hasParameter, hcut.parameters, List.contains_iff_mem] at hparameter
    refine iff_of_true hparameter (fun h => ?_)
    rw [InjectionMethod.hasParameter, hcut.parameters, ← Bool.not_eq_true,
      List.contains_iff_mem] at h
    exact h.1 hparameter
  · next hparameter =>
    cases hparts : parenthesized? signature with
    | none => simp [appendParameter?, hparts] at hupdated
    | some parts =>
      obtain ⟨front, inside, behind⟩ := parts
      rw [appendParameter?_eq _ _ hparts] at hupdated
      obtain rfl := Option.some.inj hupdated
      have hnew : parameterName field.name ∉ listedNames inside := by
        rw [← parameterNames_of_parenthesized hparts, ← hcut.parameters]
        simpa [InjectionMethod.hasParameter] using hparameter
      have hhides : hidesParameter snapshot method field =
          defaultSwallows inside field.declaredType := by
        simp [hidesParameter, parameterList?, hline, hparts]
      rw [parameterNames_of_parenthesized (parenthesized?_extended _ _ hparts),
        mem_listedNames_extendedList_iff hfield.parameter_ne_nil
          (fun c hc => hfield.isPlain_of_mem_parameter hc) hfield.equals_not_mem_declaredType hnew,
        hhides]
      simp [hparameter]

/-- A signature to which a parameter was added has a parameter list. -/
theorem exists_parenthesized?_updated {method : InjectionMethod} {field : FieldReference}
    {signature updated : Text} (h : updatedSignature? method field signature = some updated)
    (hparameter : method.hasParameter (parameterName field.name) = false) :
    ∃ before inside behind, parenthesized? updated = some (before, inside, behind) := by
  rw [updatedSignature?, hparameter, if_neg Bool.false_ne_true] at h
  cases hparts : parenthesized? signature with
  | none => simp [appendParameter?, hparts] at h
  | some parts =>
    obtain ⟨before, inside, behind⟩ := parts
    rw [appendParameter?_eq _ _ hparts] at h
    obtain rfl := Option.some.inj h
    exact ⟨_, _, _, parenthesized?_extended _ _ hparts⟩

/-- After a merge the method is found again, and a second merge of the same field adds no
assignment.  It changes nothing at all exactly when no default value hides the parameter that the
first merge has added; otherwise the parameter is added once more. -/
theorem merge_again {snapshot : Snapshot} {config : Configuration} {name : Text}
    {field : FieldReference} {method : InjectionMethod} {merged : Merged}
    (hflaw : config.flaw? = none) (hlocated : locateField snapshot name = some field)
    (hname : isIdentifier name = true) (hparameter : parameterName name ≠ [])
    (hfound : findInjectionMethod snapshot config = .ok (some method))
    (hmerge : merge snapshot method field config = .ok merged) :
    ∃ method' again,
      findInjectionMethod merged.snapshot config = .ok (some method') ∧
      merge merged.snapshot method' field config = .ok again ∧
      again.assignmentAdded = false ∧
      (again = ⟨merged.snapshot, false, false⟩ ↔
        ¬ (merged.parameterAdded = true ∧ hidesParameter snapshot method field = true)) := by
  have hconfig := Configuration.flaw?_eq_none_iff.mp hflaw
  have hfield := isInjectable_of_locateField hlocated hname hparameter
  obtain ⟨index, signature, -, -, -, hsignature, -, hread⟩ :=
    exists_of_findInjectionMethodBetween hfound
  obtain ⟨before, body, close, after, hcut⟩ := exists_methodLines_of_readMethod hread hsignature
  rw [merge_eq hcut] at hmerge
  cases hupdated : updatedSignature? method field signature with
  | none => simp [hupdated] at hmerge
  | some updated =>
    simp only [hupdated, Except.ok.injEq] at hmerge
    have hlines : merged.snapshot.lines = before ++ updated ::
        (body ++ (addedLines snapshot method field config ++ close :: after)) := by rw [← hmerge]
    have hflag : merged.parameterAdded = true ↔
        method.hasParameter (parameterName field.name) = false := by rw [← hmerge]; simp
    have hadded : IsClosed (addedLines snapshot method field config) :=
      isClosed_addedLines hconfig hfield
    have hsize : snapshot.size ≤ merged.snapshot.size := by
      rw [Snapshot.size, Snapshot.size, hlines, hcut.lines_eq]
      simp
    have hagain := findInjectionMethodBetween_edited hcut hlines
      (keepsSignature_updated hconfig hfield hupdated) hadded rfl hfound hsize
    have hcut' := methodLines_edited hcut hlines
    have hassigned := hasAssignment_merged hconfig hfield hcut hupdated hlines
      (parameterNames updated)
    have hmem := mem_parameterNames_updated_iff hfield hcut hupdated
    rw [← hflag, ← List.contains_iff_mem] at hmem
    by_cases hlisted : (parameterNames updated).contains (parameterName field.name) = true
    · exact ⟨_, _, hagain, merge_of_injected hlisted hassigned, rfl,
        iff_of_true rfl (hmem.mp hlisted)⟩
    · -- the parameter was added and is hidden, so it is added again
      obtain ⟨front, inside, behind, hparts⟩ := exists_parenthesized?_updated hupdated
        (hflag.mp (Decidable.not_not.mp (mt hmem.mpr hlisted)).1)
      have hsigned : updatedSignature? ⟨before.length, method.bodyStartLine,
          method.bodyEndLine + (addedLines snapshot method field config).length,
          parameterNames updated⟩ field updated = some _ :=
        (if_neg hlisted).trans (appendParameter?_eq _ _ hparts)
      have hmerged : merge merged.snapshot _ field config = _ := merge_eq hcut'
      rw [hsigned] at hmerged
      refine ⟨_, _, hagain, hmerged, ?_, iff_of_false ?_ (mt hmem.mpr hlisted)⟩
      · simp [hassigned]
      · intro h
        have hadds : (!(parameterNames updated).contains (parameterName field.name)) = false :=
          congrArg Merged.parameterAdded h
        exact hlisted (by simpa using hadds)

/-- A class whose injection method has a default value with angle brackets that do not balance. -/
def shiftDocument : Snapshot :=
  .ofLines ["public class A : MonoBehaviour".toList,
    "\x7b".toList,
    "    private IFoo _foo;".toList,
    "    [Inject]".toList,
    "    private void InjectDependencies(int level = 1 << 4)".toList,
    "    \x7b".toList,
    "    \x7d".toList,
    "\x7d".toList]

/-- The injection method of that class. -/
def shiftMethod : InjectionMethod := ⟨4, 5, 7, ["level".toList]⟩

/-- The field of that class. -/
def shiftField : FieldReference := ⟨"_foo".toList, "IFoo".toList, 2⟩

theorem shiftDocument_merge_again :
    ∃ merged, merge shiftDocument shiftMethod shiftField .standard = .ok merged ∧
      hidesParameter shiftDocument shiftMethod shiftField = true ∧
      ∃ method' again, findInjectionMethod merged.snapshot .standard = .ok (some method') ∧
        merge merged.snapshot method' shiftField .standard = .ok again ∧
        again ≠ ⟨merged.snapshot, false, false⟩ := by
  have hlocated : locateField shiftDocument "_foo".toList = some shiftField := by decide +kernel
  have hfound : findInjectionMethod shiftDocument .standard = .ok (some shiftMethod) := by rfl
  have hhides : hidesParameter shiftDocument shiftMethod shiftField = true := by decide +kernel
  obtain ⟨merged, hmerge, hadded⟩ : ∃ merged,
      merge shiftDocument shiftMethod shiftField .standard = .ok merged ∧
        merged.parameterAdded = true := ⟨_, rfl, by decide +kernel⟩
  obtain ⟨method', again, hagain, hmerged, -, hiff⟩ := merge_again (by decide +kernel) hlocated
    (by decide +kernel) (by decide +kernel) hfound hmerge
  exact ⟨merged, hmerge, hhides, method', again, hagain, hmerged, fun h =>
    hiff.mp h ⟨hadded, hhides⟩⟩

/-- The second merge of the field adds its parameter a second time. -/
theorem shiftDocument_merged_twice :
    ∃ merged method' again,
      findInjectionMethod shiftDocument .standard = .ok (some shiftMethod) ∧
      merge shiftDocument shiftMethod shiftField .standard = .ok merged ∧
      findInjectionMethod merged.snapshot .standard = .ok (some method') ∧
      merge merged.snapshot method' shiftField .standard = .ok again ∧
      again.parameterAdded = true ∧
      again.snapshot.line? 4 =
        some "    private void InjectDependencies(int level = 1 << 4, IFoo foo, IFoo foo)".toList :=
  ⟨_, _, _, rfl, rfl, rfl, rfl, by decide +kernel, by decide +kernel⟩

end FieldInjection
