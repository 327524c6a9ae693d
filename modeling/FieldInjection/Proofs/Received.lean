import FieldInjection.Proofs.Creation
import FieldInjection.Proofs.Merging

/-!
# The type with which a field is received

An injected field is received as a parameter.  Where the parameter is written by the injection, it
stands at the end of the list with the declared type in front of it.  Where the method has a
parameter of that name already, the signature is left alone, whatever type the parameter has:
parameters are told apart by their names, and two fields such as `_x` and `m_x` have the same one.

The list of a signature goes from its first opening parenthesis to the one that closes it.  An
injection writes in front of the last closing parenthesis of the line, so the two have to be the
same for the parameter to come to stand in the list.

## Main Definitions

* `upToClosing?`: a text up to the parenthesis that closes it.
* `receives`: whether a signature has a parameter of a given type and name.
* `isExtensible`: signatures to which a parameter can be written.

## Main Statements

* `receives_extended`: a parameter that is written to a signature is received.
* `inject_receives`: what an injection does to the signature of a method.
* `sharedDocument_not_received`: a document in which a parameter of another type is taken for the
  field's.
* `commentedSignature_not_received`, `splitType_not_received`: documents in which the parameter
  does not come to stand in the list as one entry.
-/

namespace FieldInjection

/-! ## Parentheses that close -/

/-- The text in front of the parenthesis that closes it, with `depth` further ones to be closed
first. -/
def upToClosing? : Nat → Text → Option Text
  | _, [] => none
  | 0, ')' :: _ => some []
  | depth + 1, ')' :: rest => (upToClosing? depth rest).map (')' :: ·)
  | depth, '(' :: rest => (upToClosing? (depth + 1) rest).map ('(' :: ·)
  | depth, c :: rest => (upToClosing? depth rest).map (c :: ·)

/-- The open parentheses behind a text, unless it closes one that was not opened. -/
def openRounds? : Nat → Text → Option Nat
  | depth, [] => some depth
  | 0, ')' :: _ => none
  | depth + 1, ')' :: rest => openRounds? depth rest
  | depth, '(' :: rest => openRounds? (depth + 1) rest
  | depth, _ :: rest => openRounds? depth rest

theorem openRounds?_append (depth : Nat) (left right : Text) :
    openRounds? depth (left ++ right) = (openRounds? depth left).bind (openRounds? · right) := by
  fun_induction openRounds? depth left <;> simp_all [openRounds?]

theorem openRounds?_eq_self {depth : Nat} {text : Text} (hopen : '(' ∉ text) (hclose : ')' ∉ text) :
    openRounds? depth text = some depth := by
  fun_induction openRounds? depth text <;> simp_all

theorem openRounds?_of_upToClosing? {depth : Nat} {text list : Text}
    (h : upToClosing? depth text = some list) : openRounds? depth list = some 0 := by
  fun_induction upToClosing? depth text generalizing list with
  | case1 => simp at h
  | case2 =>
    obtain rfl := Option.some.inj h
    rfl
  | case3 depth rest ih | case4 depth rest ih | case5 depth c rest _ _ _ ih =>
    obtain ⟨list, hlist, rfl⟩ := Option.map_eq_some_iff.mp h
    simpa [openRounds?] using ih hlist

theorem upToClosing?_append_cons {depth : Nat} {list rest : Text}
    (h : openRounds? depth list = some 0) :
    upToClosing? depth (list ++ ')' :: rest) = some list := by
  fun_induction openRounds? depth list <;> simp_all [upToClosing?]

/-! ## What a signature receives -/

/-- The parameter list of a signature: what stands between its first opening parenthesis and the one
that closes it. -/
def receivedList? (signature : Text) : Option Text :=
  (signature.cutFirst? '(').bind fun (_, opened) => upToClosing? 0 opened

/-- Whether an entry of the list of a signature, without its default value, ends in the type and the
name. -/
def receives (signature declaredType name : Text) : Bool :=
  (receivedList? signature).any fun list => (splitTopLevel list).any fun entry =>
    (declaredType ++ ' ' :: name).isSuffixOf (Text.trim (entry.takeWhile (· != '=')))

/-- Whether a parameter can be written to a signature: its last closing parenthesis is the one that
closes the list, and as many brackets are closed as are opened in the list. -/
def isExtensible (signature : Text) : Bool :=
  (parenthesized? signature).any fun (_, inside, _) =>
    receivedList? signature == some inside && nesting inside == 0

/-- A class with a field of the given type and an injection method with the given signature and
body. -/
def signatureDocument (type signature : String) (body : List Text) : Text :=
  ['\n'].intercalate (["class A : MonoBehaviour \x7b".toList,
    ("private " ++ type ++ " _foo;").toList, "[Inject]".toList, signature.toList, "\x7b".toList] ++
    body ++ ["\x7d".toList, "\x7d".toList])

/-- A parenthesis in a comment behind the signature is the last one of the line.  The parameter is
written into the comment, and the method does not receive the field. -/
theorem commentedSignature_not_received :
    isExtensible "void InjectDependencies(IBar bar) // by Zenject (once)".toList = false ∧
      (Injector.standard.inject (signatureDocument "IFoo"
        "void InjectDependencies(IBar bar) // by Zenject (once)" []) "_foo".toList).text =
          signatureDocument "IFoo"
            "void InjectDependencies(IBar bar) // by Zenject (once, IFoo foo)"
            ["    _foo = foo;".toList] ∧
      receives "void InjectDependencies(IBar bar) // by Zenject (once, IFoo foo)".toList
        "IFoo".toList
        "foo".toList = false :=
  ⟨by decide +kernel, by decide +kernel, by decide +kernel⟩

/-- A type that closes a bracket too many has a comma outside brackets.  What is written for it
makes up two entries of the list, neither of which has the whole type. -/
theorem splitType_not_received :
    isExtensible "void InjectDependencies()".toList = true ∧
      splitTopLevel "Map<A>, B>".toList = ["Map<A>".toList, " B>".toList] ∧
      (Injector.standard.inject (signatureDocument "Map<A>, B>" "void InjectDependencies()" [])
        "_foo".toList).text =
          signatureDocument "Map<A>, B>" "void InjectDependencies(Map<A>, B> foo)"
            ["    _foo = foo;".toList] ∧
      receives "void InjectDependencies(Map<A>, B> foo)".toList "Map<A>, B>".toList "foo".toList =
        false :=
  ⟨by decide +kernel, by decide +kernel, by decide +kernel, by decide +kernel⟩

theorem receivedList?_of_openRounds? {before list behind : Text} (hbefore : '(' ∉ before)
    (h : openRounds? 0 list = some 0) :
    receivedList? (before ++ '(' :: (list ++ ')' :: behind)) = some list := by
  rw [receivedList?, Text.cutFirst?_append_cons hbefore]
  exact upToClosing?_append_cons h

section Extension

variable {list declaredType name : Text}

/-- A list is closed after an addition without parentheses if it was before. -/
theorem openRounds?_extendedList (h : openRounds? 0 list = some 0)
    (htype : '(' ∉ declaredType ∧ ')' ∉ declaredType) (hname : '(' ∉ name ∧ ')' ∉ name) :
    openRounds? 0 (extendedList list declaredType name) = some 0 := by
  obtain ⟨left, right, hleft, hright, hlist⟩ := Text.exists_blank_append_trim list
  have hround : ∀ blanks : Text, (∀ c ∈ blanks, isBlank c = true) →
      ∀ depth, openRounds? depth blanks = some depth := fun blanks hblanks depth =>
    openRounds?_eq_self (Text.not_mem_of_blank hblanks (by decide))
      (Text.not_mem_of_blank hblanks (by decide))
  have hcore : openRounds? 0 list.trim = some 0 := by
    rw [hlist, List.append_assoc, openRounds?_append, hround left hleft, Option.bind_some,
      openRounds?_append] at h
    obtain ⟨depth, hdepth, hrest⟩ := Option.bind_eq_some_iff.mp h
    rw [hdepth, ← hround right hright, hrest]
  have hparameter : ∀ depth, openRounds? depth (declaredType ++ [' '] ++ name) = some depth :=
    fun depth => openRounds?_eq_self (by simp [htype, hname]) (by simp [htype, hname])
  rw [extendedList]
  split
  · exact hparameter 0
  · rw [openRounds?_append, openRounds?_append, hcore]
    exact hparameter 0

/-- The type and the name that are added to a list make up its last entry. -/
theorem exists_splitTopLevel_extendedList (hnesting : nesting list = 0)
    (htype : splitTopLevel declaredType = [declaredType]) (hname : ',' ∉ name) :
    ∃ front blanks, (∀ c ∈ blanks, isBlank c = true) ∧
      splitTopLevel (extendedList list declaredType name) =
        front ++ [blanks ++ (declaredType ++ ' ' :: name)] := by
  rw [splitTopLevel_extendedList hnesting htype hname]
  split
  · exact ⟨[], [], by simp, rfl⟩
  · exact ⟨splitTopLevel list.trim, [' '], by decide, rfl⟩

/-- What is written to a signature is received. -/
theorem receives_extended {signature before inside behind : Text}
    (hparts : parenthesized? signature = some (before, inside, behind))
    (hrounds : openRounds? 0 inside = some 0) (hnesting : nesting inside = 0)
    (htype : splitTopLevel declaredType = [declaredType])
    (hmarks : ∀ mark ∈ ['(', ')', '='], mark ∉ declaredType) (hfilled : declaredType ≠ [])
    (htrim : declaredType.trim = declaredType) (hname : name ≠ [])
    (hplain : ∀ c ∈ name, isPlain c = true) :
    receives (before ++ '(' :: (extendedList inside declaredType name ++ ')' :: behind))
      declaredType
      name = true := by
  obtain ⟨-, hbefore, -⟩ := parenthesized?_eq_some_iff.mp hparts
  have hfree : ∀ mark ∈ marks, mark ∉ name := fun mark hmark hmem =>
    ne_of_isPlain (hplain mark hmem) hmark rfl
  obtain ⟨front, blanks, hblanks, hsplit⟩ := exists_splitTopLevel_extendedList hnesting htype
    (hfree ',' (by decide))
  have hlist := openRounds?_extendedList hrounds ⟨hmarks '(' (by simp), hmarks ')' (by simp)⟩
    ⟨hfree '(' (by decide), hfree ')' (by decide)⟩
  have hequals : (blanks ++ (declaredType ++ ' ' :: name)).takeWhile (· != '=') =
      blanks ++ (declaredType ++ ' ' :: name) := by
    have hblank : '=' ∉ blanks := Text.not_mem_of_blank hblanks (by decide)
    have hnone : '=' ∉ blanks ++ (declaredType ++ ' ' :: name) := by
      simp [hblank, hmarks '=' (by simp), hfree '=' (by decide)]
    refine List.takeWhile_eq_self_iff.mpr fun c hc => ?_
    have hne : c ≠ '=' := fun heq => hnone (heq ▸ hc)
    simpa using hne
  have hentry : (declaredType ++ ' ' :: name).trim = declaredType ++ ' ' :: name := by
    refine Text.trim_eq_self ?_ ?_
    · rw [List.head?_append_of_ne_nil _ hfilled, ← htrim]
      exact Text.head?_trim_not_blank _
    · obtain ⟨start, last, rfl⟩ := (List.eq_nil_or_concat name).resolve_left hname
      have hlast : (declaredType ++ ' ' :: start.concat last).getLast? = some last := by
        rw [List.concat_eq_append, ← List.cons_append, ← List.append_assoc, List.getLast?_concat]
      rw [hlast]
      exact isBlank_eq_false_of_isPlain (hplain last (by simp))
  rw [receives, receivedList?_of_openRounds? hbefore hlist, Option.any_some, List.any_eq_true]
  refine ⟨blanks ++ (declaredType ++ ' ' :: name), by simp [hsplit], ?_⟩
  rw [hequals, Text.trim_blank_append hblanks, hentry]
  exact List.isSuffixOf_iff_suffix.mpr (List.suffix_refl _)

end Extension

/-! ## What an injection does to a signature -/

/-- The type of a located field begins and ends with something else than a blank. -/
theorem trim_declaredType_of_locateField {snapshot : Snapshot} {name : Text}
    {field : FieldReference} (h : locateField snapshot name = some field) :
    field.declaredType.trim = field.declaredType ∧ field.declaredType ≠ [] := by
  obtain ⟨-, _, line, _, -, -, htype, -, -⟩ := locateField_eq_some_iff.mp h
  obtain ⟨_, _, type, _, _, -, -, hmatch, -, heq⟩ := declaredTypeOn?_eq_some htype
  refine ⟨by rw [heq, Text.trim_trim], ?_⟩
  -- the first character of a type is a letter or a low line
  obtain ⟨_, _, rfl, ⟨_, _, rfl, ⟨_, _, rfl, ⟨_, _, rfl, ⟨c, rfl, hc⟩, -⟩, -⟩, -⟩, -⟩ := hmatch
  have hblank : isBlank c = false := by
    rcases Bool.or_eq_true_iff.mp hc with hletter | hline
    · exact isBlank_eq_false_of_isAlpha hletter
    · obtain rfl := eq_of_beq hline
      decide
  rw [heq]
  exact List.ne_nil_of_mem (Text.mem_trim_of_mem (List.mem_append_left _ (by simp)) hblank)

/-- A signature that is read as extensible has a list that closes what it opens. -/
theorem openRounds?_of_isExtensible {signature before inside behind : Text}
    (hparts : parenthesized? signature = some (before, inside, behind))
    (h : isExtensible signature = true) : openRounds? 0 inside = some 0 ∧ nesting inside = 0 := by
  simp only [isExtensible, hparts, Option.any_some, Bool.and_eq_true, beq_iff_eq] at h
  obtain ⟨⟨_, opened⟩, -, hlist⟩ := Option.bind_eq_some_iff.mp h.1
  exact ⟨openRounds?_of_upToClosing? hlist, h.2⟩

section Located

variable {snapshot : Snapshot} {name : Text} {field : FieldReference} {config : Configuration}
    (hlocated : locateField snapshot name = some field) (hfield : field.IsInjectable)
    (htype : splitTopLevel field.declaredType = [field.declaredType])

include hlocated hfield htype

/-- The signature of a new method receives the field. -/
theorem receives_newSignature {indent : Text} (hconfig : config.IsSound)
    (hindent : ∀ c ∈ indent, isBlank c = true) :
    receives (newSignature field indent config) field.declaredType (parameterName field.name) =
      true := by
  obtain ⟨htrim, hfilled⟩ := trim_declaredType_of_locateField hlocated
  have hempty : parenthesized? (indent ++ "private void ".toList ++
      config.methodName ++ ['(', ')']) =
      some (indent ++ "private void ".toList ++ config.methodName, [], []) := by
    have hnew : parenthesized? (newSignature field indent config) = _ :=
      parenthesized?_newSignature hconfig hindent
    obtain ⟨-, hbefore, -⟩ := parenthesized?_eq_some_iff.mp hnew
    exact parenthesized?_eq_some_iff.mpr ⟨rfl, hbefore, by simp⟩
  -- a new signature is an empty list with one parameter added
  have hreceives := receives_extended hempty rfl rfl htype
    (fun mark hmark => hfield.not_mem_declaredType (by revert mark; decide)) hfilled htrim
    hfield.parameter_ne_nil fun c hc => hfield.isPlain_of_mem_parameter hc
  have hlist : extendedList [] field.declaredType (parameterName field.name) =
      field.declaredType ++ ' ' :: parameterName field.name := by
    rw [extendedList, if_pos (by decide), List.append_assoc, List.singleton_append]
  rwa [hlist] at hreceives

/-- A signature that was extended for a field receives it. -/
theorem receives_of_appendParameter? {signature updated : Text}
    (hextensible : isExtensible signature = true)
    (h : appendParameter? signature field.declaredType (parameterName field.name) = some updated) :
    receives updated field.declaredType (parameterName field.name) = true := by
  obtain ⟨htrim, hfilled⟩ := trim_declaredType_of_locateField hlocated
  cases hparts : parenthesized? signature with
  | none => simp [appendParameter?, hparts] at h
  | some parts =>
    obtain ⟨before, inside, behind⟩ := parts
    obtain ⟨hrounds, hnesting⟩ := openRounds?_of_isExtensible hparts hextensible
    rw [appendParameter?_eq _ _ hparts] at h
    obtain rfl := Option.some.inj h
    exact receives_extended hparts hrounds hnesting htype
      (fun mark hmark => hfield.not_mem_declaredType (by revert mark; decide)) hfilled htrim
      hfield.parameter_ne_nil fun c hc => hfield.isPlain_of_mem_parameter hc

end Located

/-- What an edit at a location says about the signature of the method that is then found in the
class. -/
structure Received (snapshot : Snapshot) (location : Location) (config : Configuration)
    (edited : Snapshot) (method : InjectionMethod) (signature : Text) : Prop where
  /-- The method is found in the class, which may have become longer. -/
  found : findInjectionMethodIn edited
    ⟨location.span.startLine, location.span.endLine + (edited.size - snapshot.size)⟩ config =
      .ok (some method)
  /-- The signature stands where the method says. -/
  line : edited.line? method.signatureLine = some signature
  /-- The method assigns the field. -/
  assigned : hasAssignment edited method location.field.name = true
  /-- A parameter of the same name is taken for the field's, whatever its type: the signature stays,
  and only the assignment is put in. -/
  shared : ∀ old, location.method = some old →
    old.hasParameter (parameterName location.field.name) = true →
      snapshot.line? old.signatureLine = some signature ∧
        edited = snapshot.insertLines old.bodyCloseLine
          [assignmentLine snapshot old location.field config]
  /-- A parameter that is written has the type of the field, where the old signature is extensible
  and no comma of the type stands outside brackets. -/
  own : (∀ old, location.method = some old →
      old.hasParameter (parameterName location.field.name) = false ∧
        (snapshot.line? old.signatureLine).any isExtensible = true) →
    splitTopLevel location.field.declaredType = [location.field.declaredType] →
      receives signature location.field.declaredType (parameterName location.field.name) = true

section Edits

variable {snapshot : Snapshot} {config : Configuration} {field : FieldReference} {span : ClassSpan}
    (hconfig : config.IsSound) (hfield : field.IsInjectable)
    (hlocated : locateField snapshot field.name = some field)

include hconfig hfield hlocated

/-- A new method receives the field. -/
theorem received_createMethod (hsize : span.endLine < snapshot.size)
    (hspan : span.startLine < span.endLine)
    (hnone : findInjectionMethodIn snapshot span config = .ok none) :
    ∃ method signature, Received snapshot ⟨field, span, none⟩ config
      (createMethod snapshot field span config) method signature := by
  have hindent : ∀ c ∈ memberIndent snapshot (some field.line) config.indentUnit,
      isBlank c = true :=
    fun c hc => isBlank_of_mem_memberIndent hlocated hc
  have hlines : (createMethod snapshot field span config).lines =
      snapshot.lines.take span.endLine ++
      (methodLines field (memberIndent snapshot (some field.line) config.indentUnit) config ++
        snapshot.lines.drop span.endLine) := List.append_assoc _ _ _
  have hlength : (snapshot.lines.take span.endLine).length = span.endLine :=
    List.length_take_of_le (Nat.le_of_lt hsize)
  have hgrown : (createMethod snapshot field span config).size - snapshot.size = 6 := by
    rw [Snapshot.size] at hsize
    rw [Snapshot.size, Snapshot.size, hlines, methodLines_eq, List.length_append,
      List.length_append, List.length_drop, hlength]
    simp only [List.length_cons, List.length_nil]
    omega
  refine ⟨_, newSignature field _ config, ?_, ?_,
    hasAssignment_created hconfig hfield hindent hlines hsize, by simp,
    fun _ htype => receives_newSignature hlocated hfield htype hconfig hindent⟩
  · simp only [hgrown]
    exact findInjectionMethodIn_created hconfig hfield hindent hlines hsize hspan hnone
  · rw [Snapshot.line?, createdMethod, hlines, List.getElem?_append_right (by simp only; omega),
      hlength, Nat.add_sub_cancel_left, methodLines_eq]
    rfl

/-- A method that is extended receives the field, with the type of a parameter that it had under the
name or with the field's own. -/
theorem received_merge {method : InjectionMethod} {merged : Merged}
    (hfound : findInjectionMethodIn snapshot span config = .ok (some method))
    (hnew : (method.hasParameter (parameterName field.name) &&
      hasAssignment snapshot method field.name) = false)
    (hmerge : merge snapshot method field config = .ok merged) :
    ∃ method' signature, Received snapshot ⟨field, span, some method⟩ config merged.snapshot method'
      signature := by
  obtain ⟨before, signature, body, close, after, hcut⟩ :=
    exists_methodLines_of_findInjectionMethodBetween hfound
  have hold := hcut.line?_signatureLine
  obtain ⟨updated, hupdated, heq⟩ := exists_updated_of_merge hcut hmerge
  have hlines : merged.snapshot.lines = before ++ updated ::
      (body ++ (addedLines snapshot method field config ++ close :: after)) := by rw [heq]
  refine ⟨_, updated, ?_, ?_,
    hasAssignment_merged hconfig hfield hcut hupdated hlines (parameterNames updated), ?_, ?_⟩
  · rw [size_eq_add hcut hlines, Nat.add_sub_cancel_left]
    exact findInjectionMethodBetween_edited hcut hlines
      (keepsSignature_updated hconfig hfield hupdated) (isClosed_addedLines hconfig hfield) rfl
      hfound (Nat.le_add_right _ _)
  · rw [Snapshot.line?, hlines]
    exact getElem?_append_cons_length
  · rintro old hsome hshared
    obtain rfl := Option.some.inj hsome
    have hparameter : method.hasParameter (parameterName field.name) = true := hshared
    rw [hparameter, Bool.true_and] at hnew
    rw [updatedSignature?, if_pos hparameter] at hupdated
    exact ⟨hold.trans hupdated, snapshot_eq_of_merge hparameter hnew hmerge⟩
  · intro hextensible htype
    obtain ⟨hfresh, hsignature⟩ := hextensible _ rfl
    rw [hold, Option.any_some] at hsignature
    rw [updatedSignature?, if_neg (by simpa using hfresh)] at hupdated
    exact receives_of_appendParameter? hlocated hfield htype hsignature hupdated

end Edits

/-- What an injection does to the signature of the method that receives the field.  If the method
has a parameter with the name of the field's, the signature stays as it is, and the assignment is
all that is put in.  If it has none, or is a new one, its list has an entry with the field's own
type, given that the old list is closed by the last parenthesis of its line with all brackets in it
closed, and that no comma of the type stands outside brackets.  In both cases the method assigns the
field. -/
theorem inject_receives {injector : Injector} {text name : Text}
    (hbackend : injector.backend = .lines) (hflaw : injector.config.flaw? = none)
    (hname : isIdentifier name = true) (hparameter : parameterName name ≠ [])
    (havailable : (injector.plan text name).isAvailable = true) :
    ∃ edit location method signature,
      injector.prepare (.ofText text) name = .ok edit ∧
      injector.inject text name = ⟨edit.plan, edit.snapshot.toText, some edit.summary⟩ ∧
      locateInLines (.ofText text) name injector.config = .ok location ∧
      location.field.name = name ∧ edit.summary.fieldType = location.field.declaredType ∧
      edit.summary.parameter = parameterName name ∧
      Received (.ofText text) location injector.config edit.snapshot method signature := by
  have hconfig := Configuration.flaw?_eq_none_iff.mp hflaw
  obtain ⟨edit, hprepare⟩ := Injector.isAvailable_plan_iff.mp havailable
  obtain ⟨location, hlocated, hedit⟩ := Injector.exists_of_prepare hprepare
  rw [hbackend, trim_identifier hname] at hlocated
  have hlocated : locateInLines (.ofText text) name injector.config = .ok location := hlocated
  obtain ⟨field, span, found⟩ := location
  obtain ⟨hfield, hspan, hfound⟩ := locateInLines_eq_ok_iff.mp hlocated
  obtain rfl := name_of_locateField hfield
  have hinjectable := isInjectable_of_locateField hfield hname hparameter
  have hinject := Injector.inject_of_prepare hprepare
  rcases hedit with ⟨rfl, rfl⟩ | ⟨old, merged, rfl, hnew, hmerge, rfl⟩
  · obtain ⟨-, -, hend, hcontains, -⟩ := findClassSpan_eq_ok_iff.mp hspan
    rw [ClassSpan.contains_iff] at hcontains
    obtain ⟨method, signature, hreceived⟩ := received_createMethod hconfig hinjectable hfield
      (lt_size_of_blockEnd hend) (hcontains.1.trans hcontains.2) hfound
    exact ⟨_, _, method, signature, hprepare, hinject, hlocated, rfl, rfl, rfl, hreceived⟩
  · obtain ⟨method, signature, hreceived⟩ :=
      received_merge hconfig hinjectable hfield hfound hnew hmerge
    exact ⟨_, _, method, signature, hprepare, hinject, hlocated, rfl, rfl, rfl, hreceived⟩

/-- A class with an injection method whose list has brackets. -/
def genericDocument : Text :=
  ['\n'].intercalate ["class A : MonoBehaviour \x7b".toList, "private List<IFoo> _foos;".toList,
    "[Inject]".toList, "void InjectDependencies(Dictionary<string, int> map) \x7b".toList,
    "\x7d".toList, "\x7d".toList]

theorem genericDocument_received :
    Configuration.standard.flaw? = none ∧ isIdentifier "_foos".toList = true ∧
      parameterName "_foos".toList = "foos".toList ∧
      ∃ edit signature, ∃ method : InjectionMethod,
        Injector.standard.prepare (.ofText genericDocument) "_foos".toList = .ok edit ∧
        edit.snapshot.line? method.signatureLine = some signature ∧
        receives signature "List<IFoo>".toList "foos".toList = true := by
  have hflaw : Configuration.standard.flaw? = none := by decide +kernel
  have hname : isIdentifier "_foos".toList = true := by decide +kernel
  have hparameter : parameterName "_foos".toList = "foos".toList := by decide +kernel
  obtain ⟨edit, location, method, signature, hprepare, -, hlocated, -, -, -, hreceived⟩ :=
    inject_receives rfl hflaw hname (hparameter ▸ by decide)
      (show (Injector.standard.plan genericDocument "_foos".toList).isAvailable =
        true by decide +kernel)
  have hlocation : locateInLines (.ofText genericDocument) "_foos".toList .standard =
      .ok ⟨⟨"_foos".toList, "List<IFoo>".toList, 1⟩, ⟨0, 5⟩, some ⟨3, 3, 5, ["map".toList]⟩⟩ := by
    decide +kernel
  obtain rfl := Except.ok.inj (hlocation.symm.trans hlocated)
  refine ⟨hflaw, hname, hparameter, edit, signature, method, hprepare, hreceived.line, ?_⟩
  refine hparameter ▸ hreceived.own (fun old hold => ?_) (by decide +kernel)
  obtain rfl := Option.some.inj hold
  decide +kernel

/-- A class with two fields that have the same parameter name, and the lines given in the body of
its injection method. -/
def sharedDocument (body : List Text) : Text :=
  ['\n'].intercalate (["class A : MonoBehaviour \x7b".toList, "private IFoo _x;".toList,
    "private IBar m_x;".toList, "[Inject]".toList, "void InjectDependencies(IBar x) \x7b".toList] ++
    body ++ ["\x7d".toList, "\x7d".toList])

/-- The parameter of one field is taken for that of the other, which is of another type. -/
theorem sharedDocument_not_received :
    Configuration.standard.flaw? = none ∧ isIdentifier "_x".toList = true ∧
      Injector.standard.inject (sharedDocument ["m_x = x;".toList]) "_x".toList =
        ⟨.update, sharedDocument ["m_x = x;".toList, "_x = x;".toList],
          some ⟨"_x".toList, "IFoo".toList, "x".toList, .updated⟩⟩ ∧
      findInjectionMethod (.ofText (sharedDocument ["m_x = x;".toList, "_x = x;".toList]))
        .standard =
        .ok (some ⟨4, 4, 8, ["x".toList]⟩) ∧
      (Snapshot.ofText (sharedDocument ["m_x = x;".toList, "_x = x;".toList])).line? 4 =
        some "void InjectDependencies(IBar x) \x7b".toList ∧
      receives "void InjectDependencies(IBar x) \x7b".toList "IFoo".toList "x".toList = false :=
  ⟨by decide +kernel, by decide +kernel, by decide +kernel, by decide +kernel, by decide +kernel,
    by decide +kernel⟩

end FieldInjection
