import FieldInjection.Proofs.Configurations
import FieldInjection.Proofs.CommaLists
import FieldInjection.Proofs.Declarations
import FieldInjection.Proofs.Methods
import FieldInjection.Synthesis

/-!
# How a new injection method is read

The lines of a new method close what they open, can be written out and read back, and are recognised
as a method with the field as its parameter and its one assignment.

## Main Definitions

* `newSignature`: the signature of a new method.

## Main Statements

* `isClosed_methodLines`: no brace of a new method is left open.
* `declaredTypeOn?_of_mem_methodLines`: no line of a new method declares a field.
* `readMethod_methodLines`: the signature of a new method is read as that method.
* `mem_parameterNames_newSignature`: the field's parameter is among the parameters.
-/

namespace FieldInjection

/-- The signature of a new method. -/
def newSignature (field : FieldReference) (indent : Text) (config : Configuration) : Text :=
  (indent ++ "private void ".toList ++ config.methodName) ++
    '(' :: ((field.declaredType ++ ' ' :: parameterName field.name) ++ [')'])

theorem methodLines_eq (field : FieldReference) (indent : Text) (config : Configuration) :
    methodLines field indent config =
      [[], indent ++ config.marker.trim, newSignature field indent config, indent ++ [openBrace],
        indent ++ config.indentUnit ++ assignment field.name (parameterName field.name),
        indent ++ [closeBrace]] := by
  simp [methodLines, newSignature]

theorem braceDelta_assignment {field parameter : Text} (hfield : ∀ c ∈ field, isPlain c = true)
    (hparameter : ∀ c ∈ parameter, isPlain c = true) :
    braceDelta (assignment field parameter) = 0 := by
  have hthis : braceDelta "this.".toList = 0 := by decide
  have hsign : braceDelta " = ".toList = 0 := by decide
  have hend : braceDelta [';'] = 0 := by decide
  rw [assignment]
  split <;>
    simp only [braceDelta_append, hthis, hsign, hend, braceDelta_of_plain hfield,
      braceDelta_of_plain hparameter, add_zero]

theorem feed_not_mem_assignment {field parameter : Text} (hfield : '\n' ∉ field)
    (hparameter : '\n' ∉ parameter) : '\n' ∉ assignment field parameter := by
  rw [assignment]
  split <;> simp [hfield, hparameter]

/-- An assignment is one line. -/
theorem line_append_assignment {field indent : Text} (hindent : '\n' ∉ indent)
    (hfield : '\n' ∉ field) :
    '\n' ∉ indent ++ assignment field (parameterName field) ∧
      (indent ++ assignment field (parameterName field)).getLast? ≠ some '\r' := by
  have hassignment := feed_not_mem_assignment hfield (feed_not_mem_parameterName hfield)
  refine ⟨by simp [hindent, hassignment], ?_⟩
  rw [assignment, ← List.append_assoc, List.getLast?_concat]
  decide

/-- An assignment is a target and a value without blanks, with a blank on each side of the sign. -/
theorem exists_target_of_assignment {field : Text} (hfield : ∀ c ∈ field, isPlain c = true)
    (parameter : Text) :
    ∃ target : Text, assignment field parameter =
      target ++ ' ' :: '=' :: ' ' :: (parameter ++ [';']) ∧
      ∀ c ∈ target, isBlank c = false := by
  refine ⟨if field = parameter then "this.".toList ++ field else field, ?_, ?_⟩
  · rw [assignment, List.append_assoc, List.append_assoc]
    rfl
  · have hplain := fun c (hc : c ∈ field) => isBlank_eq_false_of_isPlain (hfield c hc)
    have hthis : ∀ c ∈ "this.".toList, isBlank c = false := by decide
    intro c hc
    split at hc
    · exact (List.mem_append.mp hc).elim (hthis c) (hplain c)
    · exact hplain c hc

/-- Two blanks of such a text have the sign between them, as it has no others. -/
theorem equals_mem_of_blanks {target value left inside right : Text} {first second : Char}
    (htarget : ∀ c ∈ target, isBlank c = false) (hvalue : ∀ c ∈ value, isBlank c = false)
    (h : target ++ ' ' :: '=' :: ' ' :: value = left ++ first :: (inside ++ second :: right))
    (hfirst : isBlank first = true) (hsecond : isBlank second = true) : '=' ∈ inside := by
  induction target generalizing left with
  | nil =>
    rcases left with _ | ⟨_, _ | ⟨_, left⟩⟩
    · -- the first blank stands before the sign, so the second one stands behind it
      have hsign := (List.cons.inj h).2
      cases inside with
      | nil =>
        obtain ⟨rfl, -⟩ := List.cons.inj hsign
        exact absurd hsecond (by decide)
      | cons c inside =>
        obtain ⟨rfl, -⟩ := List.cons.inj hsign
        exact List.mem_cons_self
    · obtain ⟨rfl, -⟩ := List.cons.inj (List.cons.inj h).2
      exact absurd hfirst (by decide)
    · have htail : ' ' :: value = left ++ first :: (inside ++ second :: right) :=
        (List.cons.inj (List.cons.inj h).2).2
      have hmem : second ∈ value := by
        have hvalue := congrArg List.tail htail
        rw [List.tail_cons] at hvalue
        rw [hvalue]
        cases left <;> simp
      rw [hvalue second hmem] at hsecond
      exact absurd hsecond Bool.false_ne_true
  | cons c target ih =>
    cases left with
    | nil =>
      obtain ⟨rfl, -⟩ := List.cons.inj h
      rw [htarget c List.mem_cons_self] at hfirst
      exact absurd hfirst Bool.false_ne_true
    | cons d left =>
      exact ih (fun c hc => htarget c (List.mem_cons_of_mem _ hc)) (List.cons.inj h).2

/-- The only two blanks of an assignment stand around its equals sign. -/
theorem equals_mem_assignment {field parameter : Text} (hfield : ∀ c ∈ field, isPlain c = true)
    (hparameter : ∀ c ∈ parameter, isPlain c = true) {left inside right : Text}
    {first second : Char}
    (h : assignment field parameter = left ++ first :: (inside ++ second :: right))
    (hfirst : isBlank first = true) (hsecond : isBlank second = true) : '=' ∈ inside := by
  obtain ⟨target, hassignment, htarget⟩ := exists_target_of_assignment hfield parameter
  have hvalue : ∀ c ∈ parameter ++ [';'], isBlank c = false := by
    simp only [List.forall_mem_append, List.forall_mem_singleton]
    exact ⟨fun c hc => isBlank_eq_false_of_isPlain (hparameter c hc), by decide⟩
  exact equals_mem_of_blanks htarget hvalue (hassignment.symm.trans h) hfirst hsecond

section Lines

variable {field : FieldReference} {indent : Text} {config : Configuration}
    (hconfig : config.IsSound) (hfield : field.IsInjectable)
    (hindent : ∀ c ∈ indent, isBlank c = true)

include hconfig

theorem containsToken_newSignature :
    containsToken (newSignature field indent config) config.methodName = true := by
  refine (containsToken_iff (ne_nil_of_isIdentifier hconfig.methodName)
    (fun c hc => isIdentifierChar_of_mem hconfig.methodName hc)).mpr
      ⟨indent ++ "private void ".toList, _, rfl, ?_, ?_⟩
  · simpa using (by decide : isIdentifierChar ' ' = false)
  · simpa using (by decide : isIdentifierChar '(' = false)

include hindent

theorem parenthesized?_newSignature :
    parenthesized? (newSignature field indent config) =
      some (indent ++ "private void ".toList ++ config.methodName,
        field.declaredType ++ ' ' :: parameterName field.name, []) := by
  refine parenthesized?_eq_some_iff.mpr ⟨rfl, ?_, by simp⟩
  simp only [List.mem_append, not_or]
  refine ⟨⟨Text.not_mem_of_blank hindent (by decide), by decide⟩, fun hc => ?_⟩
  exact ne_of_isPlain (isPlain_of_mem_identifier hconfig.methodName hc) (by decide) rfl

theorem annotated_methodLines {lines front rest : List Text}
    (hlines : lines = front ++ (methodLines field indent config ++ rest)) :
    Annotated config.marker.trim config.methodName lines (front.length + 1) := by
  rw [methodLines_eq] at hlines
  refine ⟨indent ++ config.marker.trim, newSignature field indent config, ?_, ?_, ?_,
    containsToken_newSignature hconfig⟩
  · simp [hlines]
  · change lines[front.length + 2]? = _
    simp [hlines]
  · rw [Text.trim_blank_append hindent, Text.trim_trim]

section Braces

variable (hname : isIdentifier field.name = true) (htype : braceDelta field.declaredType = 0)

include hname htype

theorem braceDelta_newSignature : braceDelta (newSignature field indent config) = 0 := by
  have hopen : braceDelta "private void ".toList = 0 := by decide
  have hround : ∀ text, braceDelta ('(' :: text) = braceDelta text :=
    braceDelta_cons (by decide) (by decide)
  have hspace : ∀ text, braceDelta (' ' :: text) = braceDelta text :=
    braceDelta_cons (by decide) (by decide)
  have hclose : braceDelta [')'] = 0 := by decide
  have hmethod : braceDelta config.methodName = 0 :=
    braceDelta_of_plain fun c hc => isPlain_of_mem_identifier hconfig.methodName hc
  simp only [newSignature, braceDelta_append, hround, hspace, hopen, hclose, hmethod, htype,
    braceDelta_of_blank hindent, braceDelta_of_plain fun c hc =>
    isPlain_of_mem_parameterName hname hc,
    add_zero]

/-- A new method for a field without braces in its type closes what it opens. -/
theorem isClosed_methodLines_of_braceDelta : IsClosed (methodLines field indent config) := by
  have hopen : braceDelta [openBrace] = 1 := by decide
  have hclose : braceDelta [closeBrace] = -1 := by decide
  have hnil : braceDelta [] = 0 := rfl
  have hunit : braceDelta config.indentUnit = 0 :=
    braceDelta_of_blank fun c hc => hconfig.isBlank_of_mem_indentUnit hc
  have hassignment : braceDelta (assignment field.name (parameterName field.name)) = 0 :=
    braceDelta_assignment (fun c hc => isPlain_of_mem_identifier hname hc)
      (fun c hc => isPlain_of_mem_parameterName hname hc)
  have hsignature := braceDelta_newSignature hconfig hindent hname htype
  rw [methodLines_eq]
  refine ⟨?_, fun depth hdepth => ?_⟩
  · simp only [totalDelta_cons, totalDelta_nil, braceDelta_append, braceDelta_of_blank hindent,
      hconfig.braceDelta_marker_trim, hsignature, hopen, hclose, hunit, hassignment, hnil]
    rfl
  · simp only [StaysOpen, braceDelta_append, braceDelta_of_blank hindent,
      hconfig.braceDelta_marker_trim, hsignature, hopen, hclose, hunit, hassignment, hnil, and_true]
    omega

end Braces

include hfield

/-- The parameter of a new method is the one for its field. -/
theorem mem_parameterNames_newSignature :
    parameterName field.name ∈ parameterNames (newSignature field indent config) := by
  rw [parameterNames_of_parenthesized (parenthesized?_newSignature hconfig hindent)]
  exact mem_listedNames_of_no_equals hfield.parameter_ne_nil
    (fun c hc => hfield.isPlain_of_mem_parameter hc) hfield.equals_not_mem_declaredType

/-- A new method closes what it opens. -/
theorem isClosed_methodLines : IsClosed (methodLines field indent config) :=
  isClosed_methodLines_of_braceDelta hconfig hindent hfield.name hfield.braceDelta_declaredType

omit hfield hindent in
/-- A new method can be written out and read back, if nothing that goes into it has a line feed. -/
theorem not_mem_feed_of_mem_methodLines (hmarker : '\n' ∉ config.marker.trim)
    (hname : '\n' ∉ field.name) (htype : '\n' ∉ field.declaredType) (hfeed : '\n' ∉ indent)
    {line : Text} (hline : line ∈ methodLines field indent config) :
    '\n' ∉ line ∧ line.getLast? ≠ some '\r' := by
  have hmethod : '\n' ∉ config.methodName := fun hc =>
    absurd (isPlain_of_mem_identifier hconfig.methodName hc) (by decide)
  have hunit : '\n' ∉ config.indentUnit := fun hc => absurd (hconfig.indentUnit _ hc) (by decide)
  have hparameter := feed_not_mem_parameterName hname
  rw [methodLines_eq] at hline
  simp only [List.mem_cons, List.not_mem_nil, or_false] at hline
  rcases hline with rfl | rfl | rfl | rfl | rfl | rfl
  · simp
  · refine ⟨by simp [hfeed, hmarker], ?_⟩
    rw [List.getLast?_append, hconfig.getLast?_marker_trim, Option.some_or]
    decide
  · refine ⟨by simp [newSignature, hfeed, hmethod, htype, hparameter], ?_⟩
    rw [newSignature, ← List.cons_append, ← List.append_assoc, List.getLast?_concat]
    decide
  · exact ⟨by simpa [hfeed] using (by decide : ¬ '\n' = openBrace),
      by rw [List.getLast?_concat]; decide⟩
  · exact line_append_assignment (by simp [hfeed, hunit]) hname
  · exact ⟨by simpa [hfeed] using (by decide : ¬ '\n' = closeBrace),
      by rw [List.getLast?_concat]; decide⟩

/-- No line of a new method declares a field.  All but the assignment lack the marks of a
declaration; the assignment has the equals sign between its blanks. -/
theorem declaredTypeOn?_of_mem_methodLines {name line : Text}
    (hline : line ∈ methodLines field indent config) : declaredTypeOn? name line.trim = none := by
  have hmarks : ∀ mark ∈ [';', '='], isBlank mark = false ∧ isIdentifierChar mark = false ∧
      mark ∈ marks ∧ mark ∉ "private void ".toList ∧ mark ≠ '(' ∧ mark ≠ ')' ∧ mark ≠ '[' ∧
      mark ≠ ']' ∧ mark ≠ ' ' ∧ mark ≠ openBrace ∧ mark ≠ closeBrace ∧
      FieldPattern.declaredType.allows mark = false := by decide
  have hplain : ∀ text : Text, (∀ c ∈ text, isPlain c = true) → ∀ mark ∈ [';', '='], mark ∉ text :=
    fun text htext mark hmark hmem => ne_of_isPlain (htext mark hmem) (hmarks mark hmark).2.2.1 rfl
  have hmethod := hplain _ fun c hc => isPlain_of_mem_identifier hconfig.methodName hc
  have hparameter := hplain _ fun c hc => hfield.isPlain_of_mem_parameter hc
  have hnone : (∀ mark ∈ [';', '='], mark ∉ line) → declaredTypeOn? name line.trim = none :=
    fun h =>
    declaredTypeOn?_eq_none (h ';' (by simp)) (h '=' (by simp))
  rw [methodLines_eq] at hline
  simp only [List.mem_cons, List.not_mem_nil, or_false] at hline
  rcases hline with rfl | rfl | rfl | rfl | rfl | rfl
  · exact hnone fun mark _ => List.not_mem_nil
  · refine hnone fun mark hmark hmem => ?_
    obtain ⟨hblank, hchar, -, -, -, -, hopen, hclose, -⟩ := hmarks mark hmark
    rcases List.mem_append.mp hmem with hmem | hmem
    · exact Text.not_mem_of_blank hindent hblank hmem
    · rcases hconfig.of_mem_marker_trim hmem with h | h | h | h
      · exact hopen h
      · exact hclose h
      · exact absurd (hblank.symm.trans h) Bool.false_ne_true
      · exact absurd (hchar.symm.trans h) Bool.false_ne_true
  · refine hnone fun mark hmark => ?_
    obtain ⟨hblank, -, -, hwords, hopen, hclose, -, -, hspace, -, -, hallows⟩ := hmarks mark hmark
    simp only [newSignature, List.mem_append, List.mem_cons, List.not_mem_nil, or_false, not_or]
    exact ⟨⟨⟨Text.not_mem_of_blank hindent hblank, hwords⟩, hmethod mark hmark⟩, hopen,
      ⟨hfield.not_mem_declaredType hallows, hspace, hparameter mark hmark⟩, hclose⟩
  · refine hnone fun mark hmark => ?_
    obtain ⟨hblank, -, -, -, -, -, -, -, -, hbrace, -, -⟩ := hmarks mark hmark
    simpa using ⟨Text.not_mem_of_blank hindent hblank, hbrace⟩
  · have hblank : ∀ c ∈ indent ++ config.indentUnit, isBlank c = true := by
      intro c hc
      exact (List.mem_append.mp hc).elim (hindent c) hconfig.isBlank_of_mem_indentUnit
    rw [Text.trim_blank_append hblank]
    refine declaredTypeOn?_eq_none_of_equals fun left first inside second right heq => ?_
    exact equals_mem_assignment (fun c hc => isPlain_of_mem_identifier hfield.name hc)
      (fun c hc => hfield.isPlain_of_mem_parameter hc) heq
  · refine hnone fun mark hmark => ?_
    obtain ⟨hblank, -, -, -, -, -, -, -, -, -, hbrace, -⟩ := hmarks mark hmark
    simpa using ⟨Text.not_mem_of_blank hindent hblank, hbrace⟩

/-- A new method is read from its signature on. -/
theorem readMethod_methodLines {snapshot : Snapshot} {front rest : List Text} {stop : Nat}
    (hlines : snapshot.lines = front ++ (methodLines field indent config ++ rest))
    (hstop : front.length + 6 ≤ stop) :
    readMethod snapshot config.methodName (front.length + 2)
      (newSignature field indent config) stop =
      .ok ⟨front.length + 2, front.length + 3, front.length + 6,
        parameterNames (newSignature field indent config)⟩ := by
  rw [methodLines_eq] at hlines
  have hopening : snapshot.lines[front.length + 3]? = some (indent ++ [openBrace]) := by
    simp [hlines]
  have hbrace := isOpeningLine_blank_append hindent
  refine readMethod_eq_ok_iff.mpr (Or.inr ⟨?_, front.length + 3, _, front.length + 5, ?_, hopening,
    hbrace, ?_, rfl⟩)
  · rw [newSignature, ← List.cons_append, ← List.append_assoc,
      Text.trimEnd_append_singleton (by decide), List.getLast?_concat]
    decide
  · exact firstFilledLine?_eq_some_iff.mpr
      ⟨le_rfl, by omega, ⟨_, hopening, isAllBlank_of_isOpeningLine hbrace⟩, by omega⟩
  · have hassignment : braceDelta (indent ++ config.indentUnit ++
        assignment field.name (parameterName field.name)) = 0 := by
      rw [braceDelta_append, braceDelta_append, braceDelta_of_blank hindent,
        braceDelta_of_blank fun c hc => hconfig.isBlank_of_mem_indentUnit hc,
        braceDelta_assignment (fun c hc => isPlain_of_mem_identifier hfield.name hc)
          (fun c hc => hfield.isPlain_of_mem_parameter hc)]
      rfl
    have hclose : braceDelta (indent ++ [closeBrace]) = -1 := by
      rw [braceDelta_append, braceDelta_of_blank hindent]
      rfl
    have hdrop : snapshot.lines.drop (front.length + 3 + 1) =
        (indent ++ config.indentUnit ++ assignment field.name (parameterName field.name)) ::
          (indent ++ [closeBrace]) :: rest := by
      rw [hlines]
      exact List.drop_length_add_append 4
    rw [enclosingBlockEnd_of_isOpeningLine hopening hbrace, hdrop, closingLine, hassignment]
    simp [closingLine, hclose]

end Lines

end FieldInjection
