import FieldInjection.Proofs.Ink
import FieldInjection.Proofs.Locality
import FieldInjection.Proofs.Merging

/-!
# What an injection leaves alone

An injection changes one class.  A new method goes in front of the closing brace; an existing method
gets another signature, a line before its closing brace, or both.  The brace matcher that finds the
end of a method knows nothing of the class, so the frame rests on two facts: the method is found as
well in the document cut off behind the class, and a merge edits the lines of the method only.

## Main Definitions

* `SameOutsideList`: two signatures that are alike outside their parameter lists.
* `MethodEdit`: a document before and after the extension of a method in a class.
* `ClassFrame`: two documents that are alike outside a class.

## Main Statements

* `exists_methodLines_of_findInjectionMethodIn`: the method of a class lies between its braces.
* `exists_methodEdit_of_merge`: what a merge does to the lines of a document.
* `inject_frame`: what an injection does to them.
-/

namespace FieldInjection

/-! ## Frames of edits -/

/-- Two signatures that are alike up to the first opening parenthesis and from the last closing one
on. -/
def SameOutsideList (signature updated : Text) : Prop :=
  ∃ before inside inside' behind, '(' ∉ before ∧ ')' ∉ behind ∧
    signature = before ++ '(' :: (inside ++ ')' :: behind) ∧
    updated = before ++ '(' :: (inside' ++ ')' :: behind)

/-- The lines of a document before and after a method of a class was extended: the line behind
`before` may be replaced, and a line may be put in between `body` and `rest`. -/
structure MethodEdit (span : ClassSpan) (lines edited before : List Text) (signature updated : Text)
    (body added rest : List Text) : Prop where
  /-- The document before the edit. -/
  lines_eq : lines = before ++ signature :: (body ++ rest)
  /-- The document after it. -/
  edited_eq : edited = before ++ updated :: (body ++ (added ++ rest))
  /-- The signature is behind the opening line of the class. -/
  start_lt : span.startLine < before.length
  /-- The signature is before the closing line of the class. -/
  lt_end : before.length < span.endLine
  /-- What is put in comes before the closing line of the class. -/
  insertion_le : before.length + 1 + body.length ≤ span.endLine
  /-- At most one line is put in. -/
  added_length : added.length ≤ 1
  /-- Only the parameter list of the signature is another. -/
  signature_eq : updated = signature ∨ SameOutsideList signature updated
  /-- Something is edited. -/
  edits : updated ≠ signature ∨ added ≠ []

/-- Two documents that are alike outside a class: the second has `count` more lines in it. -/
structure ClassFrame (span : ClassSpan) (count : Nat) (lines edited : List Text) : Prop where
  /-- The second is longer. -/
  length_eq : edited.length = lines.length + count
  /-- The lines up to the opening one of the class are the same. -/
  upToOpening : edited.take (span.startLine + 1) = lines.take (span.startLine + 1)
  /-- The lines from the closing one on are the same. -/
  fromClosing : edited.drop (span.endLine + count) = lines.drop span.endLine

/-- Lines that are replaced inside a class by more of them leave the rest of the document alone. -/
theorem classFrame_of_cut {span : ClassSpan} {count : Nat} {lines edited before rest : List Text}
    (inner inner' : List Text) (hlines : lines = before ++ (inner ++ rest))
    (hedited : edited = before ++ (inner' ++ rest)) (hstart : span.startLine < before.length)
    (hend : before.length + inner.length ≤ span.endLine)
    (hcount : inner'.length = inner.length + count) : ClassFrame span count lines edited := by
  obtain ⟨gap, hgap⟩ := Nat.exists_eq_add_of_le hend
  have hdrop : ∀ middle : List Text,
      (before ++ (middle ++ rest)).drop (before.length + middle.length + gap) = rest.drop gap := by
    intro middle
    rw [← List.append_assoc, ← List.drop_drop, ← List.length_append, List.drop_left]
  refine ⟨?_, ?_, ?_⟩
  · rw [hlines, hedited]
    simp only [List.length_append, hcount]
    omega
  · rw [hlines, hedited, List.take_append_of_le_length hstart, List.take_append_of_le_length hstart]
  · rw [hlines, hedited, hgap, hdrop inner,
      show before.length + inner.length + gap + count =
      before.length + inner'.length + gap by omega,
      hdrop inner']

theorem MethodEdit.classFrame {span : ClassSpan} {lines edited before : List Text}
    {signature updated : Text} {body added rest : List Text}
    (h : MethodEdit span lines edited before signature updated body added rest) :
    ClassFrame span added.length lines edited := by
  refine classFrame_of_cut (signature :: body) (updated :: (body ++ added))
    h.lines_eq ?_ h.start_lt ?_ ?_
  · simp [h.edited_eq]
  · have hle := h.insertion_le
    simp only [List.length_cons]
    omega
  · simp only [List.length_cons, List.length_append]
    omega

/-! ## The method in its class -/

/-- The injection method of a class has its signature and its closing brace between the braces of
the class. -/
theorem exists_methodLines_of_findInjectionMethodIn {snapshot : Snapshot} {span : ClassSpan}
    {config : Configuration} {method : InjectionMethod}
    (hend : snapshot.blockEnd span.startLine = some span.endLine)
    (hfound : findInjectionMethodIn snapshot span config = .ok (some method)) :
    ∃ before signature body close after,
      MethodLines snapshot.lines method before signature body close after ∧
        span.startLine < before.length ∧ before.length + 1 + body.length ≤ span.endLine := by
  -- cut off behind the class, the document has room for the method inside the class only
  rw [← findInjectionMethodIn_truncate hend] at hfound
  obtain ⟨index, signature, hstart, -, -, hsignature, -, hread⟩ :=
    exists_of_findInjectionMethodBetween hfound
  obtain ⟨before, body, close, after, hcut⟩ := exists_methodLines_of_readMethod hread hsignature
  have hlines : snapshot.lines.take (span.endLine + 1) =
      before ++ signature :: (body ++ close :: after) := hcut.lines_eq
  have hindex : index + 1 = before.length := by
    rw [← hcut.signatureLine]
    exact (signatureLine_of_readMethod hread).symm
  have hlength := congrArg List.length hlines
  simp only [List.length_take, List.length_append, List.length_cons] at hlength
  refine ⟨before, signature, body, close, after ++ snapshot.lines.drop (span.endLine + 1),
    { hcut with lines_eq := ?_ }, by omega, by omega⟩
  calc snapshot.lines
      = snapshot.lines.take (span.endLine + 1) ++ snapshot.lines.drop (span.endLine + 1) :=
        (List.take_append_drop _ _).symm
    _ = before ++ signature :: (body ++
      close :: (after ++ snapshot.lines.drop (span.endLine + 1))) := by
        rw [hlines]
        simp

/-! ## What a merge does to the lines -/

/-- A parameter list is all that is another in a signature after a merge. -/
theorem sameOutsideList_of_updatedSignature? {method : InjectionMethod} {field : FieldReference}
    {signature updated : Text} (h : updatedSignature? method field signature = some updated) :
    updated = signature ∨ SameOutsideList signature updated := by
  rw [updatedSignature?] at h
  split at h
  · exact Or.inl (Option.some.inj h).symm
  · cases hparts : parenthesized? signature with
    | none => simp [appendParameter?, hparts] at h
    | some parts =>
      obtain ⟨before, inside, behind⟩ := parts
      rw [appendParameter?_eq _ _ hparts] at h
      obtain ⟨hsignature, hbefore, hbehind⟩ := parenthesized?_eq_some_iff.mp hparts
      exact Or.inr ⟨before, inside, _, behind, hbefore, hbehind, hsignature,
        (Option.some.inj h).symm⟩

/-- A field that is not injected yet makes the merge edit the signature or the body. -/
theorem edits_of_updatedSignature? {snapshot : Snapshot} {method : InjectionMethod}
    {field : FieldReference} {config : Configuration} {signature updated : Text}
    (htype : field.declaredType.isAllBlank = false)
    (hnew : (method.hasParameter (parameterName field.name) &&
      hasAssignment snapshot method field.name) = false)
    (h : updatedSignature? method field signature = some updated) :
    updated ≠ signature ∨ addedLines snapshot method field config ≠ [] := by
  rw [updatedSignature?] at h
  split at h
  · next hparameter =>
    rw [hparameter, Bool.true_and] at hnew
    exact Or.inr (by simp [addedLines, hnew])
  · refine Or.inl fun heq => ?_
    have hink := ink_lt_of_appendParameter? htype h
    rw [heq] at hink
    exact Nat.lt_irrefl _ hink

/-- A merge of a field into the method of its class edits lines of the class only. -/
theorem exists_methodEdit_of_merge {snapshot : Snapshot} {span : ClassSpan} {config : Configuration}
    {method : InjectionMethod} {field : FieldReference} {merged : Merged}
    (htype : field.declaredType.isAllBlank = false)
    (hend : snapshot.blockEnd span.startLine = some span.endLine)
    (hfound : findInjectionMethodIn snapshot span config = .ok (some method))
    (hnew : (method.hasParameter (parameterName field.name) &&
      hasAssignment snapshot method field.name) = false)
    (hmerge : merge snapshot method field config = .ok merged) :
    ∃ before signature updated body added rest,
      MethodEdit span snapshot.lines merged.snapshot.lines before signature
        updated body added rest := by
  obtain ⟨before, signature, body, close, after, hcut, hstart, hclose⟩ :=
    exists_methodLines_of_findInjectionMethodIn hend hfound
  obtain ⟨updated, hupdated, heq⟩ := exists_updated_of_merge hcut hmerge
  refine ⟨before, signature, updated, body, addedLines snapshot method field config, close :: after,
    hcut.lines_eq, by rw [heq], hstart, by omega, hclose, ?_,
    sameOutsideList_of_updatedSignature? hupdated, edits_of_updatedSignature? htype hnew hupdated⟩
  rw [addedLines]
  split <;> simp

/-! ## What an injection does to the lines -/

/-- An injection that is available has located the field in a class.  Created, the six lines of the
method are put before the closing line of the class; updated, one line of the class may be another
inside its parentheses and one may be new.  All lines up to the opening one of the class and all
lines from the closing one on stay as they are. -/
theorem inject_frame {injector : Injector} {text name : Text} (hbackend : injector.backend = .lines)
    (havailable : (injector.plan text name).isAvailable = true) :
    ∃ location edit,
      locateInLines (.ofText text) name.trim injector.config = .ok location ∧
      injector.prepare (.ofText text) name = .ok edit ∧
      injector.inject text name = ⟨edit.plan, edit.snapshot.toText, some edit.summary⟩ ∧
      ((edit.plan = .create ∧ edit.summary.change = .created ∧
          edit.snapshot.lines =
            (Snapshot.ofText text).lines.take location.span.endLine ++
              methodLines location.field (memberIndent (.ofText text) (some location.field.line)
                injector.config.indentUnit) injector.config ++
              (Snapshot.ofText text).lines.drop location.span.endLine ∧
          ClassFrame location.span 6 (Snapshot.ofText text).lines edit.snapshot.lines) ∨
        (edit.plan = .update ∧ edit.summary.change = .updated ∧
          ∃ before signature updated body added rest,
            MethodEdit location.span (Snapshot.ofText text).lines
              edit.snapshot.lines before signature
              updated body added rest ∧
            ClassFrame location.span added.length (Snapshot.ofText text).lines
              edit.snapshot.lines)) := by
  obtain ⟨edit, hprepare⟩ := Injector.isAvailable_plan_iff.mp havailable
  obtain ⟨location, hlocated, hedit⟩ := Injector.exists_of_prepare hprepare
  have htype := isAllBlank_declaredType hlocated
  rw [hbackend] at hlocated
  obtain ⟨-, hspan, hfound⟩ := locateInLines_eq_ok_iff.mp hlocated
  obtain ⟨-, -, hend, hcontains, -⟩ := findClassSpan_eq_ok_iff.mp hspan
  rw [ClassSpan.contains_iff] at hcontains
  refine ⟨location, edit, hlocated, hprepare, Injector.inject_of_prepare hprepare, ?_⟩
  rcases hedit with ⟨-, rfl⟩ | ⟨method, merged, hmethod, hnew, hmerge, rfl⟩
  · -- nothing is taken out where the new method is put in
    refine Or.inl ⟨rfl, rfl, rfl, ?_⟩
    have hsize := lt_size_of_blockEnd hend
    have hlength : ((Snapshot.ofText text).lines.take location.span.endLine).length =
        location.span.endLine := List.length_take_of_le (Nat.le_of_lt hsize)
    refine classFrame_of_cut [] _ (List.take_append_drop location.span.endLine _).symm
      (List.append_assoc _ _ _) ?_ ?_ rfl
    · omega
    · simp only [List.length_nil]
      omega
  · rw [hmethod] at hfound
    obtain ⟨before, signature, updated, body, added, rest, hcut⟩ :=
      exists_methodEdit_of_merge htype hend hfound hnew hmerge
    exact Or.inr ⟨rfl, rfl, before, signature, updated, body, added, rest, hcut, hcut.classFrame⟩

/-- A class with an injection method, line endings of two kinds, and a class behind it. -/
def twoClassDocument : Text :=
  ("class A : MonoBehaviour\x7b\r\nprivate IFoo _foo;\n[Inject]\n" ++
    "void InjectDependencies(int i)\x7b\n\x7d\n\x7d\nclass B\x7b\x7d").toList

theorem twoClassDocument_frame :
    Injector.standard.plan twoClassDocument "_foo".toList = .update ∧
      ∃ edit before signature updated body added rest,
        Injector.standard.prepare (.ofText twoClassDocument) "_foo".toList = .ok edit ∧
        MethodEdit ⟨0, 5⟩ (Snapshot.ofText twoClassDocument).lines edit.snapshot.lines before
          signature updated body added rest := by
  have hlocated : locateInLines (.ofText twoClassDocument) "_foo".toList Injector.standard.config =
      .ok ⟨⟨"_foo".toList, "IFoo".toList, 1⟩, ⟨0, 5⟩, some ⟨3, 3, 5, ["i".toList]⟩⟩ := by rfl
  obtain ⟨merged, hmerge⟩ : ∃ merged, merge (.ofText twoClassDocument) ⟨3, 3, 5, ["i".toList]⟩
      ⟨"_foo".toList, "IFoo".toList, 1⟩ Injector.standard.config = .ok merged := ⟨_, rfl⟩
  have hplan : Injector.standard.plan twoClassDocument "_foo".toList = .update := by
    rw [Injector.plan_eq_inject_plan,
      Injector.inject_of_merge rfl (by rfl) hlocated (by rfl) hmerge]
  obtain ⟨location, edit, hlocated', hprepare, hinject, ⟨hcreate, -⟩ |
    ⟨-, -, before, signature, updated, body, added, rest, hedit, -⟩⟩ :=
      inject_frame rfl (hplan ▸ rfl : (Injector.standard.plan twoClassDocument
        "_foo".toList).isAvailable = true)
  · rw [Injector.plan_eq_inject_plan, hinject, hcreate] at hplan
    cases hplan
  · rw [trim_identifier (by rfl), hlocated] at hlocated'
    obtain rfl := Except.ok.inj hlocated'
    exact ⟨hplan, edit, before, signature, updated, body, added, rest, hprepare, hedit⟩

end FieldInjection
