import FieldInjection.Inspection
import FieldInjection.Proofs.Creation
import FieldInjection.Proofs.Merging
import FieldInjection.Proofs.ParameterLists
import Mathlib.Data.List.Nodup

/-!
# Classes that take in their fields one after another

A document hosts some fields when all of them are located in one class, with one injection method or
none, and exactly some of them are injected there.  An injection of one of the others goes through
and leaves a document that hosts the same fields, with one more of them injected.

## Main Definitions

* `Hosts`: the document, the fields of the class, and those that are injected.

## Main Statements

* `Hosts.inject_create`, `Hosts.inject_update`: one injection.
* `Hosts.inject_injected`, `Hosts.inspect_eq`: what is said of injected fields, and what is listed.
-/

namespace FieldInjection

/-! ## Documents that are read back as they are written -/

/-- A line that is read back as it is written. -/
def IsCleanLine (line : Text) : Prop :=
  '\n' ∉ line ∧ line.getLast? ≠ some '\r'

instance (line : Text) : Decidable (IsCleanLine line) :=
  inferInstanceAs (Decidable (_ ∧ _))

/-- Two or more clean lines are read back as they were written. -/
theorem ofText_toText_of_clean {snapshot : Snapshot}
    (hclean : ∀ line ∈ snapshot.lines, IsCleanLine line) (hsize : 2 ≤ snapshot.size) :
    Snapshot.ofText snapshot.toText = snapshot := by
  have hne : snapshot.lines ≠ [] := by
    intro hnil
    simp [Snapshot.size, hnil] at hsize
  have hfaithful : snapshot.IsFaithful :=
    ⟨hne, fun line hline => (hclean line hline).1, fun _ line hline =>
      (hclean line (List.dropLast_subset _ hline)).2⟩
  obtain ⟨front, last, hlines⟩ := Snapshot.exists_lines_eq hfaithful
  have hfront : front ≠ [] := by
    rintro rfl
    simp [Snapshot.size, hlines] at hsize
  have hlast : dropReturn last = last := dropReturn_eq_self (hclean last (by simp [hlines])).2
  rw [Snapshot.ofText_toText hfaithful hlines hfront, hlast, ← hlines]

/-! ## The invariant -/

/-- The lines of a method's body, with those of its braces. -/
def bodyLines (snapshot : Snapshot) (method : InjectionMethod) : List Text :=
  (snapshot.lines.take method.bodyEndLine).drop method.bodyStartLine

/-- How many lines of a method's body assign to a field. -/
def assignmentCount (snapshot : Snapshot) (method : InjectionMethod) (field : Text) : Nat :=
  (bodyLines snapshot method).countP (assignsToken · field)

/-- A field that can be injected along with others, under another name, and whose assignment is not
taken for a declaration. -/
structure FieldReference.IsRegular (field : FieldReference) : Prop extends field.IsListable where
  /-- The parameter has another name than the field. -/
  name_ne : field.name ≠ parameterName field.name
  /-- The type stands on one line. -/
  feed_not_mem : '\n' ∉ field.declaredType
  /-- The field is named like a dependency. -/
  dependency : isDependencyName field.name = true
  /-- The assignment declares no field. -/
  declares_nothing : ∀ indent : Text, (∀ c ∈ indent, isBlank c = true) →
    declaredFieldNames (indent ++ assignment field.name (parameterName field.name)) = []

/-- A signature with the parameters for some fields. -/
def signatureWith (before : Text) (listed : List FieldReference) (behind : Text) : Text :=
  before ++ '(' :: (parameterText listed ++ ')' :: behind)

/-- A method in which exactly some of the fields of a class are injected. -/
structure Injects (snapshot : Snapshot) (fields injected : List FieldReference) (span : ClassSpan)
    (method : InjectionMethod) : Prop where
  /-- Some field is injected. -/
  injected_ne_nil : injected ≠ []
  /-- The signature lists the injected fields. -/
  signature : ∃ before behind,
    snapshot.lines[method.signatureLine]? = some (signatureWith before injected behind) ∧
    ∀ c ∈ before ++ behind, c ∉ ['(', ')', '=', ';']
  /-- The method comes after the fields. -/
  line_lt : ∀ field ∈ fields, field.line < method.signatureLine
  /-- The method ends before the class. -/
  bodyEndLine_le : method.bodyEndLine ≤ span.endLine
  /-- Each injected field is assigned on one line, and no other field is. -/
  assigned : ∀ field ∈ fields,
    assignmentCount snapshot method field.name = if field ∈ injected then 1 else 0

/-- A document with a class that declares the given fields, where exactly the injected ones are
injected in its method; without a method, none is. -/
structure Hosts (snapshot : Snapshot) (fields injected : List FieldReference) (span : ClassSpan)
    (method : Option InjectionMethod) : Prop where
  /-- The lines are read back as they are written. -/
  clean : ∀ line ∈ snapshot.lines, IsCleanLine line
  /-- The fields can be injected one after another. -/
  regular : ∀ field ∈ fields, field.IsRegular
  /-- Their parameters have different names. -/
  distinct : (fields.map (parameterName ·.name)).Nodup
  /-- The injected fields are among them. -/
  mem_of_mem_injected : ∀ field ∈ injected, field ∈ fields
  /-- All of them are located in the class. -/
  located : ∀ field ∈ fields,
    locateInLines snapshot field.name .standard = .ok ⟨field, span, method⟩
  /-- The document declares no other field. -/
  names : snapshot.lines.flatMap declaredFieldNames = fields.map (·.name)
  /-- The method of the class. -/
  injects : ∀ found, method = some found → Injects snapshot fields injected span found
  /-- Without a method, no field is injected. -/
  injected_eq_nil : method = none → injected = []

/-- The parameters are what stands between the parentheses of the signature. -/
theorem parenthesized?_signatureWith {before behind : Text} {listed : List FieldReference}
    (hfree : ∀ c ∈ before ++ behind, c ∉ ['(', ')', '=', ';']) :
    parenthesized? (signatureWith before listed behind) =
      some (before, parameterText listed, behind) := by
  refine parenthesized?_eq_some_iff.mpr ⟨rfl, fun hc => ?_, fun hc => ?_⟩
  · exact hfree _ (List.mem_append_left _ hc) (by simp)
  · exact hfree _ (List.mem_append_right _ hc) (by simp)

/-! ## What is said of a document that hosts some fields -/

namespace Hosts

variable {snapshot : Snapshot} {fields injected : List FieldReference} {span : ClassSpan}
    {method : Option InjectionMethod} {field other : FieldReference}
    (h : Hosts snapshot fields injected span method)

include h

/-- Fields of the class are told apart by their parameters. -/
theorem eq_of_parameterName_eq (hfield : field ∈ fields) (hother : other ∈ fields)
    (heq : parameterName field.name = parameterName other.name) : field = other :=
  List.inj_on_of_nodup_map h.distinct hfield hother heq

/-- They are told apart by their names all the more. -/
theorem eq_of_name_eq (hfield : field ∈ fields) (hother : other ∈ fields)
    (heq : field.name = other.name) : field = other :=
  h.eq_of_parameterName_eq hfield hother (by rw [heq])

/-- After one more injection the injected fields are fields of the class still. -/
theorem mem_of_mem_concat (hfield : field ∈ fields) :
    ∀ other ∈ injected ++ [field], other ∈ fields := by
  intro other hother
  rcases List.mem_append.mp hother with hother | hother
  · exact h.mem_of_mem_injected other hother
  · rwa [List.mem_singleton.mp hother]

theorem listable_of_mem_injected (hfield : field ∈ injected) : field.IsListable :=
  (h.regular field (h.mem_of_mem_injected field hfield)).toIsListable

theorem ofText_toText (hfield : field ∈ fields) : Snapshot.ofText snapshot.toText = snapshot := by
  obtain ⟨-, hspan, -⟩ := locateInLines_eq_ok_iff.mp (h.located field hfield)
  obtain ⟨hline, -, -, hcontains, -⟩ := findClassSpan_eq_ok_iff.mp hspan
  simp only [ClassSpan.contains_iff] at hcontains
  refine ofText_toText_of_clean h.clean ?_
  simp only at hline
  omega

end Hosts

namespace Hosts

variable {snapshot : Snapshot} {fields injected : List FieldReference} {span : ClassSpan}
    {method : InjectionMethod} {field : FieldReference}
    (h : Hosts snapshot fields injected span (some method))

include h

/-- The document, cut at the signature and at the closing brace of the method. -/
theorem exists_methodLines (hfield : field ∈ fields) :
    ∃ before behind front body close after,
      (∀ c ∈ before ++ behind, c ∉ ['(', ')', '=', ';']) ∧
      MethodLines snapshot.lines method front (signatureWith before injected behind) body close
        after := by
  obtain ⟨before, behind, hline, hfree⟩ := (h.injects method rfl).signature
  obtain ⟨-, -, hfound⟩ := locateInLines_eq_ok_iff.mp (h.located field hfield)
  obtain ⟨front, signature, body, close, after, hcut⟩ :=
    exists_methodLines_of_findInjectionMethodBetween hfound
  obtain rfl : signature = signatureWith before injected behind :=
    Option.some.inj (hcut.line?_signatureLine.symm.trans hline)
  exact ⟨before, behind, front, body, close, after, hfree, hcut⟩

/-- The parameters of the method are those of the injected fields, in order. -/
theorem parameters_eq (hfield : field ∈ fields) :
    method.parameters = injected.map (parameterName ·.name) := by
  obtain ⟨before, behind, front, body, close, after, hfree, hcut⟩ := h.exists_methodLines hfield
  rw [hcut.parameters, parameterNames_of_parenthesized (parenthesized?_signatureWith hfree),
    listedNames_parameterText fun field hfield => h.listable_of_mem_injected hfield]

/-- The method receives the injected fields and no others. -/
theorem hasParameter_iff (hfield : field ∈ fields) :
    method.hasParameter (parameterName field.name) = true ↔ field ∈ injected := by
  rw [InjectionMethod.hasParameter, h.parameters_eq hfield, List.contains_iff_mem, List.mem_map]
  constructor
  · rintro ⟨other, hother, heq⟩
    rwa [← h.eq_of_parameterName_eq (h.mem_of_mem_injected other hother) hfield heq]
  · exact fun hin => ⟨field, hin, rfl⟩

/-- The method assigns the injected fields and no others. -/
theorem hasAssignment_iff (hfield : field ∈ fields) :
    hasAssignment snapshot method field.name = true ↔ field ∈ injected := by
  have hcount := (h.injects method rfl).assigned field hfield
  rw [hasAssignment, ← bodyLines, List.any_eq_true, ← List.countP_pos_iff,
    ← assignmentCount, hcount]
  split <;> simp_all

/-- A field that is injected is not injected again. -/
theorem inject_injected (hfield : field ∈ injected) :
    Injector.standard.inject snapshot.toText field.name =
      ⟨.unavailable .alreadyInjected, snapshot.toText, none⟩ := by
  have hmem := h.mem_of_mem_injected field hfield
  refine Injector.inject_of_injected rfl (h.regular field hmem).name
    (h.ofText_toText hmem ▸ h.located field hmem) ((h.hasParameter_iff hmem).mpr hfield) ?_
  rw [h.ofText_toText hmem]
  exact (h.hasAssignment_iff hmem).mpr hfield

end Hosts

/-! ## The first injection -/

theorem isSound_standard : Configuration.standard.IsSound :=
  Configuration.flaw?_eq_none_iff.mp (by decide)

section Created

variable {field : FieldReference} {indent : Text} (hfield : field.IsRegular)
    (hindent : ∀ c ∈ indent, isBlank c = true)

include hfield hindent

/-- A new method declares no field. -/
theorem flatMap_declaredFieldNames_methodLines :
    (methodLines field indent .standard).flatMap declaredFieldNames = [] := by
  have hblank : ';' ∉ indent := Text.not_mem_of_blank hindent (by decide)
  have hmarker : ';' ∉ indent ++ Configuration.standard.marker.trim := by
    simpa [hblank] using (by decide : ';' ∉ Configuration.standard.marker.trim)
  have hsignature : ';' ∉ newSignature field indent .standard := by
    have hmethod : ';' ∉ Configuration.standard.methodName := by decide
    have hparameter : ';' ∉ parameterName field.name := fun hc =>
      ne_of_isPlain (hfield.isPlain_of_mem_parameter hc) (by decide) rfl
    have htype : ';' ∉ field.declaredType := hfield.not_mem_declaredType (by decide)
    simp [newSignature, hblank, hmethod, hparameter, htype]
  have hopen : ';' ∉ indent ++ [openBrace] := by
    simpa [hblank] using (by decide : ¬ ';' = openBrace)
  have hclose : ';' ∉ indent ++ [closeBrace] := by
    simpa [hblank] using (by decide : ¬ ';' = closeBrace)
  have hassignment := hfield.declares_nothing (indent ++ Configuration.standard.indentUnit)
    fun c hc => (List.mem_append.mp hc).elim (hindent c)
      (isSound_standard.isBlank_of_mem_indentUnit)
  simp only [methodLines_eq, List.flatMap_cons, List.flatMap_nil, hassignment,
    declaredFieldNames_eq_nil hmarker, declaredFieldNames_eq_nil hsignature,
    declaredFieldNames_eq_nil hopen, declaredFieldNames_eq_nil hclose,
    declaredFieldNames_eq_nil List.not_mem_nil, List.append_nil]

/-- A new method assigns its field on one line, and nothing else. -/
theorem assignmentCount_created {created : Snapshot} {span : ClassSpan} {front rest : List Text}
    {token : Text} (hlength : front.length = span.endLine) (htoken : isIdentifier token = true)
    (hlines : created.lines = front ++ (methodLines field indent .standard ++ rest)) :
    assignmentCount created (createdMethod field span indent .standard) token =
      if token = field.name then 1 else 0 := by
  have hbody : bodyLines created (createdMethod field span indent .standard) =
      [indent ++ [openBrace], indent ++ Configuration.standard.indentUnit ++
        assignment field.name (parameterName field.name), indent ++ [closeBrace]] := by
    simp only [bodyLines, createdMethod, ← hlength, hlines, List.take_length_add_append,
      List.drop_length_add_append, methodLines_eq]
    rfl
  have hblank : '=' ∉ indent := Text.not_mem_of_blank hindent (by decide)
  have hopen : assignsToken (indent ++ [openBrace]) token = false :=
    assignsToken_eq_false (by simpa [hblank] using (by decide : ¬ '=' = openBrace))
  have hclose : assignsToken (indent ++ [closeBrace]) token = false :=
    assignsToken_eq_false (by simpa [hblank] using (by decide : ¬ '=' = closeBrace))
  have hassigns := assignsToken_assignment_iff hfield.name
    (fun c hc => hfield.isPlain_of_mem_parameter hc) hfield.name_ne htoken
    (fun c hc => (List.mem_append.mp hc).elim (hindent c)
      isSound_standard.isBlank_of_mem_indentUnit)
  rw [assignmentCount, hbody]
  simp only [List.countP_cons, List.countP_nil, hopen, hclose, hassigns, Bool.false_eq_true,
    if_false, Nat.zero_add, Nat.add_zero]

end Created

/-- The new method injects its field. -/
theorem injects_created {snapshot created : Snapshot} {fields injected : List FieldReference}
    {span : ClassSpan} {field : FieldReference} {indent : Text} {front rest : List Text}
    (h : Hosts snapshot fields injected span none) (hmem : field ∈ fields)
    (hindent : ∀ c ∈ indent, isBlank c = true) (hlength : front.length = span.endLine)
    (hlines : created.lines = front ++ (methodLines field indent .standard ++ rest)) :
    Injects created fields [field] ⟨span.startLine, span.endLine + 6⟩
      (createdMethod field span indent .standard) := by
  have hfield := h.regular field hmem
  refine ⟨by simp, ⟨indent ++ "private void ".toList ++ Configuration.standard.methodName,
    [], ?_, ?_⟩, ?_, le_rfl, ?_⟩
  · rw [createdMethod, ← hlength, hlines, methodLines_eq, newSignature, signatureWith]
    simp [parameterText, parameterEntry]
  · intro c hc
    rw [List.append_nil, List.append_assoc, List.mem_append] at hc
    rcases hc with hc | hc
    · have hmarks : ∀ mark ∈ ['(', ')', '=', ';'], isBlank mark = false := by decide
      exact fun hmark => Text.ne_of_isBlank (hindent c hc) (hmarks c hmark) rfl
    · revert c
      decide
  · intro other hother
    obtain ⟨-, hspan, -⟩ := locateInLines_eq_ok_iff.mp (h.located other hother)
    obtain ⟨-, -, -, hcontains, -⟩ := findClassSpan_eq_ok_iff.mp hspan
    simp only [ClassSpan.contains_iff] at hcontains
    simp only [createdMethod]
    omega
  · intro other hother
    rw [assignmentCount_created hfield hindent hlength (h.regular other hother).name hlines]
    refine if_congr ?_ rfl rfl
    rw [List.mem_singleton]
    exact ⟨h.eq_of_name_eq hother hmem, fun heq => by rw [heq]⟩

/-- Where no field is injected, an injection creates a method with the one field. -/
theorem Hosts.inject_create {snapshot : Snapshot} {fields injected : List FieldReference}
    {span : ClassSpan} {field : FieldReference} (h : Hosts snapshot fields injected span none)
    (hmem : field ∈ fields) :
    ∃ snapshot' span' method,
      Injector.standard.inject snapshot.toText field.name =
        ⟨.create, snapshot'.toText,
          some ⟨field.name, field.declaredType, parameterName field.name, .created⟩⟩ ∧
      Hosts snapshot' fields [field] span' (some method) := by
  have hlocated := h.located field hmem
  have hfield := h.regular field hmem
  obtain ⟨hfound, hspan, -⟩ := locateInLines_eq_ok_iff.mp hlocated
  obtain ⟨-, -, hend, -, -⟩ := findClassSpan_eq_ok_iff.mp hspan
  obtain ⟨line, hline, -⟩ := exists_line_of_locateField hfound
  have hindent : ∀ c ∈ line.indentation, isBlank c = true :=
    fun c => Text.isBlank_of_mem_indentation
  have hfeed : '\n' ∉ line.indentation := fun hc =>
    (h.clean line (List.mem_of_getElem? hline)).1 (List.takeWhile_subset _ hc)
  have hlength : (snapshot.lines.take span.endLine).length = span.endLine :=
    List.length_take_of_le (Nat.le_of_lt (lt_size_of_blockEnd hend))
  have hlines : (createMethod snapshot field span .standard).lines =
      snapshot.lines.take span.endLine ++
        (methodLines field line.indentation .standard ++ snapshot.lines.drop span.endLine) := by
    simp only at hline
    simp [createMethod, Snapshot.insertLines, memberIndent, Snapshot.line?, hline]
  have hinject : Injector.standard.inject snapshot.toText field.name = _ :=
    Injector.inject_of_no_method rfl hfield.name (h.ofText_toText hmem ▸ hlocated)
  rw [h.ofText_toText hmem] at hinject
  refine ⟨createMethod snapshot field span .standard, ⟨span.startLine, span.endLine + 6⟩,
    createdMethod field span line.indentation .standard, hinject, ?_, h.regular, h.distinct,
    by simpa using hmem, ?_, ?_, ?_, by simp⟩
  · intro text htext
    rw [hlines, List.mem_append, List.mem_append] at htext
    rcases htext with hold | hnew | hold
    · exact h.clean text (List.mem_of_mem_take hold)
    · exact not_mem_feed_of_mem_methodLines isSound_standard (by decide)
        (fun hc => absurd (isPlain_of_mem_identifier hfield.name hc) (by decide))
          hfield.feed_not_mem
        hfeed hnew
    · exact h.clean text (List.mem_of_mem_drop hold)
  · intro other hother
    exact locateInLines_created isSound_standard hfield.toIsInjectable hindent hlines rfl
      (h.located other hother)
  · rw [hlines, List.flatMap_append, List.flatMap_append,
      flatMap_declaredFieldNames_methodLines hfield hindent, List.nil_append, ← List.flatMap_append,
      List.take_append_drop, h.names]
  · rintro _ ⟨rfl⟩
    exact injects_created h hmem hindent hlength hlines

/-! ## Further injections -/

section Merged

variable {snapshot : Snapshot} {fields injected : List FieldReference} {span : ClassSpan}
    {method : InjectionMethod} {field : FieldReference}
    (h : Hosts snapshot fields injected span (some method)) (hmem : field ∈ fields)

include h

/-- The characters of a parameter list for fields of the class. -/
theorem not_mem_parameterText {listed : List FieldReference}
    (hlisted : ∀ other ∈ listed, other ∈ fields) {c : Char}
    (htype : ∀ other ∈ fields, c ∉ other.declaredType) (hplain : isPlain c = false)
    (hmark : c ≠ ',' ∧ c ≠ ' ') : c ∉ parameterText listed := by
  intro hc
  rcases of_mem_parameterText hc with hc | hc | ⟨other, hother, hc | hc⟩
  · exact hmark.1 hc
  · exact hmark.2 hc
  · exact htype other (hlisted other hother) hc
  · have hcontra := (h.regular other (hlisted other hother)).isPlain_of_mem_parameter hc
    rw [hplain] at hcontra
    exact Bool.false_ne_true hcontra

/-- Nothing is assigned in a signature, and no declaration ends there. -/
theorem not_mem_signatureWith {before behind : Text} {listed : List FieldReference}
    (hfree : ∀ c ∈ before ++ behind, c ∉ ['(', ')', '=', ';'])
    (hlisted : ∀ other ∈ listed, other ∈ fields) {c : Char} (hc : c ∈ ['=', ';']) :
    c ∉ signatureWith before listed behind := by
  have hmarks : ∀ mark ∈ ['=', ';'], isPlain mark = false ∧ mark ≠ ',' ∧ mark ≠ ' ' ∧ mark ≠ '(' ∧
      mark ≠ ')' ∧ mark ∈ ['(', ')', '=', ';'] ∧ FieldPattern.declaredType.allows mark = false := by
    decide
  obtain ⟨hplain, hcomma, hspace, hopen, hclose, hmark, hallows⟩ := hmarks c hc
  have hlist := not_mem_parameterText h hlisted
    (fun other hother => (h.regular other hother).not_mem_declaredType hallows)
      hplain ⟨hcomma, hspace⟩
  simp only [signatureWith, List.mem_append, List.mem_cons, not_or]
  exact ⟨fun hin => hfree c (List.mem_append_left _ hin) hmark, hopen, hlist, hclose,
    fun hin => hfree c (List.mem_append_right _ hin) hmark⟩

include hmem in
/-- The line that is put in assigns its field and no other of the class. -/
theorem assignsToken_assignmentLine {other : FieldReference} (hother : other ∈ fields) :
    assignsToken (assignmentLine snapshot method field .standard) other.name = true ↔
      other = field := by
  have hfield := h.regular field hmem
  rw [assignmentLine, assignsToken_assignment_iff hfield.name
    (fun c hc => hfield.isPlain_of_mem_parameter hc) hfield.name_ne
      (h.regular other hother).name fun c hc =>
      isBlank_of_mem_statementIndent (fun c hc => isSound_standard.isBlank_of_mem_indentUnit hc) hc]
  exact ⟨h.eq_of_name_eq hother hmem, fun heq => by rw [heq]⟩

section Edited

variable {before behind : Text} {front body after : List Text} {close : Text} {edited : Snapshot}
    (hfree : ∀ c ∈ before ++ behind, c ∉ ['(', ')', '=', ';'])
    (hcut : MethodLines snapshot.lines method front
      (signatureWith before injected behind) body close
      after)
    (hlines : edited.lines = front ++ signatureWith before (injected ++ [field]) behind ::
      (body ++ ([assignmentLine snapshot method field .standard] ++ close :: after)))
    (hnew : field ∉ injected)

include hmem hnew

/-- A field that was not injected has one line added to the body, its assignment. -/
theorem addedLines_eq :
    addedLines snapshot method field .standard =
      [assignmentLine snapshot method field .standard] := by
  rw [addedLines, if_neg]
  rw [h.hasAssignment_iff hmem]
  exact hnew

include hfree

/-- The signature receives the field behind the others. -/
theorem updatedSignature?_eq :
    updatedSignature? method field (signatureWith before injected behind) =
      some (signatureWith before (injected ++ [field]) behind) := by
  have hparameter : ¬ method.hasParameter (parameterName field.name) = true := by
    rw [h.hasParameter_iff hmem]
    exact hnew
  rw [updatedSignature?, if_neg hparameter,
    appendParameter?_eq _ _ (parenthesized?_signatureWith hfree),
    extendedList_parameterText (fun other hother => h.listable_of_mem_injected hother)
      (h.injects method rfl).injected_ne_nil, signatureWith]

include hcut hlines

/-- The end of the class moves by the one line that is put in. -/
theorem blockEnd_merged (hstart : span.startLine ≤ front.length)
    (hend : snapshot.blockEnd span.startLine = some span.endLine) :
    edited.blockEnd span.startLine = some (span.endLine + 1) := by
  have hfield := (h.regular field hmem).toIsInjectable
  have hkeeps := keepsSignature_updated isSound_standard hfield
    (updatedSignature?_eq h hmem hfree hnew)
  have hinside : method.bodyEndLine ≤ span.endLine := (h.injects method rfl).bodyEndLine_le
  have hadded := addedLines_eq h hmem hnew
  rw [← hadded] at hlines
  rw [blockEnd_edited hcut hlines isSound_standard hfield.name hkeeps.braces hstart (by omega) hend,
    hadded]
  rfl

/-- All fields are located on their lines, in the longer class, with the longer method. -/
theorem locateInLines_merged {other : FieldReference} (hother : other ∈ fields) :
    locateInLines edited other.name .standard =
      .ok ⟨other, ⟨span.startLine, span.endLine + 1⟩,
        some ⟨front.length, method.bodyStartLine, method.bodyEndLine + 1,
          parameterNames (signatureWith before (injected ++ [field]) behind)⟩⟩ := by
  obtain ⟨hfound, hspan, hmethod⟩ := locateInLines_eq_ok_iff.mp (h.located other hother)
  obtain ⟨hline, -, hend, hcontains, -⟩ := findClassSpan_eq_ok_iff.mp hspan
  simp only [ClassSpan.contains_iff] at hcontains
  have hbefore : other.line < front.length := by
    rw [← hcut.signatureLine]
    exact (h.injects method rfl).line_lt other hother
  have htake : edited.lines.take (other.line + 1) = snapshot.lines.take (other.line + 1) := by
    rw [hlines, hcut.lines_eq, List.take_append_of_le_length hbefore,
      List.take_append_of_le_length hbefore]
  have hadded : IsClosed (addedLines snapshot method field .standard) :=
    isClosed_addedLines isSound_standard (h.regular field hmem).toIsInjectable
  rw [addedLines_eq h hmem hnew] at hadded
  refine locateInLines_eq_ok_iff.mpr ⟨locateField_of_take_eq htake hfound rfl, ?_, ?_⟩
  · refine findClassSpan_of_take_eq htake hspan ?_
      (blockEnd_merged h hmem hfree hcut hlines hnew (by omega) hend) (by omega)
    rw [Snapshot.size, hlines, List.length_append]
    omega
  · exact findInjectionMethodBetween_edited hcut hlines
      (keepsSignature_updated isSound_standard (h.regular field hmem).toIsInjectable
        (updatedSignature?_eq h hmem hfree hnew)) hadded rfl hmethod (Nat.le_succ _)

omit hnew in
/-- The line that is put in is the only difference between the assignments of the two methods. -/
theorem assignmentCount_merged {other : FieldReference} (hother : other ∈ fields) :
    assignmentCount edited ⟨front.length, method.bodyStartLine, method.bodyEndLine + 1,
        parameterNames (signatureWith before (injected ++ [field]) behind)⟩ other.name =
      assignmentCount snapshot method other.name + if other = field then 1 else 0 := by
  have hassigns := assignsToken_assignmentLine h hmem hother
  -- neither signature assigns anything, whether it belongs to the body or not
  have hsame : ∀ skip, ((signatureWith before (injected ++ [field]) behind :: body).drop
      skip).countP (assignsToken · other.name) =
        ((signatureWith before injected behind :: body).drop skip).countP
          (assignsToken · other.name) := by
    have hold : assignsToken (signatureWith before injected behind) other.name = false :=
      assignsToken_eq_false (not_mem_signatureWith h hfree
        (fun _ => h.mem_of_mem_injected _) (by simp))
    have hnew : assignsToken (signatureWith before (injected ++ [field]) behind) other.name =
        false :=
      assignsToken_eq_false (not_mem_signatureWith h hfree (h.mem_of_mem_concat hmem) (by simp))
    rintro (_ | skip)
    · simp [hold, hnew]
    · rfl
  have hbody : bodyLines edited ⟨front.length, method.bodyStartLine, method.bodyEndLine + 1,
      parameterNames (signatureWith before (injected ++ [field]) behind)⟩ = _ :=
    bodyLines_edited hcut hlines
  rw [assignmentCount, hbody, assignmentCount, bodyLines, hcut.bodyLines_eq, List.countP_append,
    List.countP_append, List.countP_append, hsame]
  simp only [List.countP_singleton, hassigns]
  omega

/-- The longer method injects one field more. -/
theorem injects_merged :
    Injects edited fields (injected ++ [field]) ⟨span.startLine, span.endLine + 1⟩
      ⟨front.length, method.bodyStartLine, method.bodyEndLine + 1,
        parameterNames (signatureWith before (injected ++ [field]) behind)⟩ := by
  have hold := h.injects method rfl
  refine ⟨by simp, ⟨before, behind, ?_, hfree⟩, ?_, Nat.succ_le_succ hold.bodyEndLine_le, ?_⟩
  · rw [hlines]
    exact getElem?_append_cons_length
  · intro other hother
    rw [← hcut.signatureLine]
    exact hold.line_lt other hother
  · intro other hother
    rw [assignmentCount_merged h hmem hfree hcut hlines hother, hold.assigned other hother]
    by_cases heq : other = field
    · simp [heq, hnew]
    · simp [heq]

omit hfree hnew in
/-- The lines of the edited document are read back as they are written. -/
theorem isCleanLine_merged {line : Text} (hline : line ∈ edited.lines) : IsCleanLine line := by
  have hclean := h.clean
  have hfield := h.regular field hmem
  rw [hcut.lines_eq] at hclean
  rw [hlines] at hline
  simp only [List.mem_append, List.mem_cons, List.not_mem_nil, or_false] at hline hclean
  rcases hline with hline | rfl | hline | rfl | hline
  · exact hclean line (Or.inl hline)
  · obtain ⟨hfeed, hlast⟩ := hclean _ (Or.inr (Or.inl rfl))
    refine ⟨?_, ?_⟩
    · have hlist : '\n' ∉ parameterText (injected ++ [field]) :=
        not_mem_parameterText h (h.mem_of_mem_concat hmem)
          (fun other hother => (h.regular other hother).feed_not_mem) (by decide) (by decide)
      simp only [signatureWith, List.mem_append, List.mem_cons, not_or] at hfeed ⊢
      exact ⟨hfeed.1, hfeed.2.1, hlist, hfeed.2.2.2⟩
    · -- the last character is the same as before
      have hend : ∀ listed, (signatureWith before listed behind).getLast? =
          (')' :: behind).getLast? := by
        intro listed
        rw [signatureWith, ← List.cons_append, ← List.append_assoc, List.getLast?_append,
          List.getLast?_cons, Option.some_or]
      rwa [hend] at hlast ⊢
  · exact hclean line (Or.inr (Or.inr (Or.inl hline)))
  · have hname : '\n' ∉ field.name := fun hc =>
      absurd (isPlain_of_mem_identifier hfield.name hc) (by decide)
    exact line_append_assignment
      (feed_not_mem_statementIndent (fun line hline => (h.clean line hline).1) (by decide)) hname
  · exact hclean line (Or.inr (Or.inr (Or.inr hline)))

omit hnew in
/-- The edited document declares the same fields. -/
theorem flatMap_declaredFieldNames_merged :
    edited.lines.flatMap declaredFieldNames = fields.map (·.name) := by
  have hlisted := h.mem_of_mem_concat hmem
  have hfirst := declaredFieldNames_eq_nil
    (not_mem_signatureWith h hfree (fun _ => h.mem_of_mem_injected _) (by simp : ';' ∈ ['=', ';']))
  have hsecond := declaredFieldNames_eq_nil
    (not_mem_signatureWith h hfree hlisted (by simp : ';' ∈ ['=', ';']))
  have hadded := (h.regular field hmem).declares_nothing
    (statementIndent snapshot method Configuration.standard.indentUnit) fun c hc =>
      isBlank_of_mem_statementIndent (fun c hc => isSound_standard.isBlank_of_mem_indentUnit hc) hc
  rw [← assignmentLine] at hadded
  rw [← h.names, hlines, hcut.lines_eq]
  simp only [List.flatMap_append, List.flatMap_cons, List.flatMap_nil, hfirst, hsecond, hadded,
    List.nil_append, List.append_nil]

end Edited

end Merged

/-- Where some field is injected, an injection of another one extends the method. -/
theorem Hosts.inject_update {snapshot : Snapshot} {fields injected : List FieldReference}
    {span : ClassSpan} {method : InjectionMethod} {field : FieldReference}
    (h : Hosts snapshot fields injected span (some method)) (hmem : field ∈ fields)
    (hnew : field ∉ injected) :
    ∃ snapshot' span' method',
      Injector.standard.inject snapshot.toText field.name =
        ⟨.update, snapshot'.toText,
          some ⟨field.name, field.declaredType, parameterName field.name, .updated⟩⟩ ∧
      Hosts snapshot' fields (injected ++ [field]) span' (some method') := by
  have hread := h.ofText_toText hmem
  obtain ⟨before, behind, front, body, close, after, hfree, hcut⟩ := h.exists_methodLines hmem
  obtain ⟨merged, hmerge, hlines⟩ : ∃ merged, merge snapshot method field .standard = .ok merged ∧
      merged.snapshot.lines = front ++ signatureWith before (injected ++ [field]) behind ::
        (body ++ ([assignmentLine snapshot method field .standard] ++ close :: after)) := by
    rw [merge_eq hcut, updatedSignature?_eq h hmem hfree hnew, addedLines_eq h hmem hnew]
    exact ⟨_, rfl, rfl⟩
  have hfresh : (method.hasParameter (parameterName field.name) &&
      hasAssignment snapshot method field.name) = false := by
    rw [Bool.and_eq_false_iff, ← Bool.not_eq_true, h.hasParameter_iff hmem]
    exact Or.inl hnew
  have hinject : Injector.standard.inject snapshot.toText field.name = _ :=
    Injector.inject_of_merge rfl (h.regular field hmem).name (hread.symm ▸ h.located field hmem)
      (hread.symm ▸ hfresh) (hread.symm ▸ hmerge)
  refine ⟨merged.snapshot, _, _, hinject,
    fun line hline => isCleanLine_merged h hmem hcut hlines hline, h.regular, h.distinct,
    h.mem_of_mem_concat hmem, fun other hother =>
    locateInLines_merged h hmem hfree hcut hlines hnew hother,
    flatMap_declaredFieldNames_merged h hmem hfree hcut hlines, ?_, by simp⟩
  rintro _ ⟨rfl⟩
  exact injects_merged h hmem hfree hcut hlines hnew

/-! ## Inspections and runs -/

/-- Names without repetitions stay as they are. -/
theorem firstOccurrences_eq_self {seen names : List Text} (hnodup : names.Nodup)
    (hseen : ∀ name ∈ names, name ∉ seen) : firstOccurrences seen names = names := by
  induction names generalizing seen with
  | nil => rfl
  | cons name names ih =>
    obtain ⟨hfirst, hrest⟩ := List.nodup_cons.mp hnodup
    have hnew : ¬ seen.contains name = true := by simpa using hseen name (by simp)
    rw [firstOccurrences, if_neg hnew, ih hrest]
    intro other hother
    rw [List.mem_cons, not_or]
    exact ⟨fun heq => hfirst (heq ▸ hother), hseen other (by simp [hother])⟩

namespace Hosts

variable {snapshot : Snapshot} {fields injected : List FieldReference} {span : ClassSpan}
    {method : Option InjectionMethod} (h : Hosts snapshot fields injected span method)

include h

/-- One injection: the first one creates the method, the others extend it. -/
theorem inject_step {field : FieldReference} (hmem : field ∈ fields) (hnew : field ∉ injected) :
    ∃ snapshot' span' method',
      Injector.standard.inject snapshot.toText field.name =
        ⟨if injected = [] then .create else .update, snapshot'.toText,
          some ⟨field.name, field.declaredType, parameterName field.name,
            if injected = [] then .created else .updated⟩⟩ ∧
      Hosts snapshot' fields (injected ++ [field]) span' (some method') := by
  cases method with
  | none =>
    obtain rfl := h.injected_eq_nil rfl
    exact h.inject_create hmem
  | some method =>
    rw [if_neg (h.injects method rfl).injected_ne_nil,
      if_neg (h.injects method rfl).injected_ne_nil]
    exact h.inject_update hmem hnew

/-- Injecting a field again changes nothing. -/
theorem inject_of_mem_injected {field : FieldReference} (hfield : field ∈ injected) :
    Injector.standard.inject snapshot.toText field.name =
      ⟨.unavailable .alreadyInjected, snapshot.toText, none⟩ := by
  cases method with
  | none => simp [h.injected_eq_nil rfl] at hfield
  | some method => exact h.inject_injected hfield

/-- What can be injected is what was not injected before. -/
theorem isAvailable_eq {field : FieldReference} (hmem : field ∈ fields) :
    Injector.standard.isAvailable snapshot.toText field.name = decide (field ∉ injected) := by
  rw [Injector.isAvailable, Injector.plan_eq_inject_plan]
  by_cases hfield : field ∈ injected
  · rw [h.inject_of_mem_injected hfield]
    simp [hfield, Plan.isAvailable]
  · obtain ⟨_, _, _, hinject, -⟩ := h.inject_step hmem hfield
    rw [hinject, decide_eq_true hfield]
    split <;> rfl

/-- The document names the fields of the class as dependencies, in their order. -/
theorem dependencyNames_eq : dependencyNames snapshot = fields.map (·.name) := by
  have hnodup : (fields.map (·.name)).Nodup := by
    have hdistinct : ((fields.map (·.name)).map parameterName).Nodup := by
      rw [List.map_map]
      exact h.distinct
    exact hdistinct.of_map
  have hall : (fields.map (·.name)).filter isDependencyName = fields.map (·.name) := by
    rw [List.filter_eq_self]
    intro name hname
    obtain ⟨field, hfield, rfl⟩ := List.mem_map.mp hname
    exact (h.regular field hfield).dependency
  rw [dependencyNames, h.names, hall]
  exact firstOccurrences_eq_self hnodup (by simp)

/-- An inspection lists the fields that are not injected, in the order of their declarations. -/
theorem inspect_eq (hne : fields ≠ []) :
    Injector.standard.inspect snapshot.toText =
      (fields.filter (· ∉ injected)).map fun field =>
        ⟨field.name, field.declaredType, field.line⟩ := by
  obtain ⟨first, hfirst⟩ := List.exists_mem_of_ne_nil fields hne
  have hfilter : (fields.map (·.name)).filter (Injector.standard.isAvailable snapshot.toText) =
      (fields.filter (· ∉ injected)).map (·.name) := by
    rw [List.filter_map]
    congr 1
    exact List.filter_congr fun field hfield => h.isAvailable_eq hfield
  have hlocate : ((fields.filter (· ∉ injected)).map (·.name)).filterMap (locateField snapshot) =
      fields.filter (· ∉ injected) := by
    rw [List.filterMap_map]
    refine (List.filterMap_congr fun field hfield => ?_).trans List.filterMap_some
    exact (locateInLines_eq_ok_iff.mp (h.located field (List.mem_of_mem_filter hfield))).1
  rw [Injector.inspect]
  simp only [h.ofText_toText hfirst, h.dependencyNames_eq, hfilter, hlocate]

end Hosts

/-- The text after some fields were injected one after another. -/
def Injector.textAfter (injector : Injector) (text : Text) : List Text → Text
  | [] => text
  | name :: names => injector.textAfter (injector.inject text name).text names

/-- Each outcome of injections made in turn is that of one injection into what the ones before it
have left. -/
theorem Injector.getElem?_injectInTurn {injector : Injector} {text : Text} {names : List Text}
    {index : Nat} :
    (injector.injectInTurn text names)[index]? = names[index]?.map fun name =>
      injector.inject (injector.textAfter text (names.take index)) name := by
  induction names generalizing text index with
  | nil => rfl
  | cons name names ih =>
    cases index with
    | zero => rfl
    | succ index => simp [injectInTurn, textAfter, ih]

/-- Injecting fields one after another leaves a document that hosts the same fields, with the new
ones injected behind the old ones. -/
theorem Hosts.exists_textAfter {snapshot : Snapshot} {fields injected order : List FieldReference}
    {span : ClassSpan} {method : Option InjectionMethod}
    (h : Hosts snapshot fields injected span method) (hmem : ∀ field ∈ order, field ∈ fields)
    (hnodup : (injected ++ order).Nodup) :
    ∃ snapshot' span' method',
      Injector.standard.textAfter snapshot.toText (order.map (·.name)) = snapshot'.toText ∧
      Hosts snapshot' fields (injected ++ order) span' method' := by
  induction order generalizing snapshot injected span method with
  | nil => exact ⟨snapshot, span, method, rfl, by rwa [List.append_nil]⟩
  | cons field order ih =>
    have hnew : field ∉ injected := fun hin =>
      (List.nodup_append.mp hnodup).2.2 field hin field (by simp) rfl
    obtain ⟨next, span', method', hinject, hnext⟩ := h.inject_step (hmem field (by simp)) hnew
    obtain ⟨last, span'', method'', htext, hlast⟩ := ih hnext
      (fun other hother => hmem other (by simp [hother])) (by simpa using hnodup)
    refine ⟨last, span'', method'', ?_, by simpa using hlast⟩
    rw [List.map_cons, Injector.textAfter, hinject]
    exact htext

end FieldInjection
