import FieldInjection.Proofs.Blocks
import FieldInjection.Proofs.CommaLists
import FieldInjection.Proofs.NewMethods
import FieldInjection.Proofs.Tokens

/-!
# Signatures with one more parameter

A parameter is added inside the parentheses of a signature.  What the recognisers look for in the
line stays as it was: the method's name, the braces, an opening brace at the end, and assignments.

## Main Definitions

* `KeepsSignature`: one line can take the place of another as the signature of a method.

## Main Statements

* `keepsSignature_extended`: a signature with one more parameter can.
-/

namespace FieldInjection

/-- The second line can take the place of the first as the signature of a method. -/
structure KeepsSignature (methodName signature updated : Text) : Prop where
  /-- The method's name is still there. -/
  token : containsToken signature methodName = true → containsToken updated methodName = true
  /-- The braces are the same. -/
  braces : braceDelta updated = braceDelta signature
  /-- The body opens at the end of the line if it did before. -/
  opens : updated.trimEnd.getLast? = signature.trimEnd.getLast?
  /-- What was assigned on the line is still assigned. -/
  assigns : ∀ field, isIdentifier field = true → assignsToken signature field = true →
    assignsToken updated field = true

theorem KeepsSignature.refl (methodName signature : Text) :
    KeepsSignature methodName signature signature :=
  ⟨id, rfl, rfl, fun _ _ h => h⟩

/-- One more parameter without braces leaves the balance of the line as it is. -/
theorem braceDelta_extendedList {list declaredType name : Text}
    (htype : braceDelta declaredType = 0) (hname : braceDelta name = 0) :
    braceDelta (extendedList list declaredType name) = braceDelta list := by
  have hcomma : braceDelta [',', ' '] = 0 := by decide
  have hspace : braceDelta [' '] = 0 := by decide
  rw [extendedList, ← braceDelta_trim list]
  split
  · next hempty =>
    rw [List.isEmpty_iff.mp hempty, braceDelta_append, braceDelta_append, htype, hname, hspace]
    rfl
  · simp only [braceDelta_append, htype, hname, hspace, hcomma, add_zero]

/-- A text that is found in a list is still found when a parameter is added. -/
theorem containsToken_extendedList {list declaredType name token : Text}
    (htoken : isIdentifier token = true) (h : containsToken list token = true) :
    containsToken (extendedList list declaredType name) token = true := by
  have hne := ne_nil_of_isIdentifier htoken
  have hchars : ∀ c ∈ token, isIdentifierChar c = true := fun c => isIdentifierChar_of_mem htoken
  rw [← containsToken_trim hne hchars] at h
  have hlist : ¬ list.trim.isEmpty = true := by
    intro hempty
    rw [List.isEmpty_iff.mp hempty, containsToken_nil hne hchars] at h
    exact Bool.false_ne_true h
  rw [extendedList, if_neg hlist, List.append_assoc]
  exact (containsToken_append_cons_iff hne hchars (by decide)).mpr (Or.inl h)

/-- One more parameter does not undo an assignment in the list. -/
theorem assignsToken_extendedList {list declaredType name token : Text}
    (htoken : isIdentifier token = true) (h : assignsToken list token = true) :
    assignsToken (extendedList list declaredType name) token = true := by
  have hne := ne_nil_of_isIdentifier htoken
  have hchars : ∀ c ∈ token, isIdentifierChar c = true := fun c => isIdentifierChar_of_mem htoken
  rw [← assignsToken_trim hne hchars] at h
  have hlist : ¬ list.trim.isEmpty = true := by
    intro hempty
    rw [List.isEmpty_iff.mp hempty, assignsToken_nil hne hchars] at h
    exact Bool.false_ne_true h
  rw [extendedList, if_neg hlist, List.append_assoc]
  exact (assignsToken_append_cons_iff hne hchars (by decide) (by decide) (by decide)
    (by decide)).mpr (Or.inl h)

/-- A signature with one more parameter can take the place of the signature. -/
theorem keepsSignature_extended {methodName signature before inside behind declaredType name : Text}
    (hmethod : isIdentifier methodName = true)
    (hparts : parenthesized? signature = some (before, inside, behind))
    (htype : braceDelta declaredType = 0) (hname : braceDelta name = 0) :
    KeepsSignature methodName signature
      (before ++ '(' :: (extendedList inside declaredType name ++ ')' :: behind)) := by
  obtain ⟨rfl, -, -⟩ := parenthesized?_eq_some_iff.mp hparts
  refine ⟨fun h => ?_, ?_, ?_, fun field hfield h => ?_⟩
  · have hne := ne_nil_of_isIdentifier hmethod
    have hchars : ∀ c ∈ methodName, isIdentifierChar c = true :=
      fun c => isIdentifierChar_of_mem hmethod
    have hround : isIdentifierChar '(' = false ∧ isIdentifierChar ')' = false := by decide
    rw [containsToken_append_cons_iff hne hchars hround.1,
      containsToken_append_cons_iff hne hchars hround.2] at h ⊢
    exact h.imp_right (Or.imp_left (containsToken_extendedList hmethod))
  · have hround : ∀ text, braceDelta ('(' :: text) = braceDelta text :=
      braceDelta_cons (by decide) (by decide)
    simp only [braceDelta_append, hround, braceDelta_extendedList htype hname]
  · rw [← List.cons_append, ← List.append_assoc, ← List.cons_append, ← List.append_assoc,
      Text.getLast?_trimEnd_append_cons (by decide), Text.getLast?_trimEnd_append_cons (by decide)]
  · have hne := ne_nil_of_isIdentifier hfield
    have hchars : ∀ c ∈ field, isIdentifierChar c = true := fun c => isIdentifierChar_of_mem hfield
    have hround : ∀ mark ∈ ['(', ')'], isIdentifierChar mark = false ∧ isBlank mark = false ∧
        mark ≠ '=' ∧ mark ≠ '>' := by decide
    obtain ⟨hopen, hopen', hopen'', hopen'''⟩ := hround '(' (by simp)
    obtain ⟨hclose, hclose', hclose'', hclose'''⟩ := hround ')' (by simp)
    rw [assignsToken_append_cons_iff hne hchars hopen hopen' hopen'' hopen''',
      assignsToken_append_cons_iff hne hchars hclose hclose' hclose'' hclose'''] at h ⊢
    exact h.imp_right (Or.imp_left (assignsToken_extendedList hfield))

end FieldInjection
