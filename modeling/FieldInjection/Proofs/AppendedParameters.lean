import FieldInjection.Proofs.CommaLists

/-!
# Reading back an appended parameter

A parameter that is appended to a signature is read back as the last of its parameters, behind those
that were there before.  The comma in front of it has to split the list, so the list must close as
many brackets as it opens.  The type must hold no comma that splits, and no equals sign, behind
which a default value would begin.  Nothing is asked of the brackets of the type and of the name: no
comma comes behind them.

## Main Definitions

* `IsOneEntry`: a text in which no comma splits.

## Main Statements

* `appendParameter?_eq_none_iff`: the signatures to which nothing can be appended.
* `listedNames_extendedList`: the names in a list with one more parameter.
* `parameterNames_appendParameter?`: what is appended is read back.
-/

namespace FieldInjection

/-- Each comma of the text has brackets open around it, or more closed than opened in front of
it. -/
def IsOneEntry (text : Text) : Prop :=
  ∀ front behind, text = front ++ ',' :: behind → nesting front ≠ 0

/-- A text is not split when no comma of it has depth zero. -/
theorem splitTopLevelFrom_eq_singleton_iff {depth : Int} {previous : Option Char} {text : Text} :
    splitTopLevelFrom depth previous text = [text] ↔
      ∀ front behind, text = front ++ ',' :: behind → nestingFrom depth previous front ≠ 0 := by
  constructor
  · rintro h front behind rfl hzero
    rw [splitTopLevelFrom_append_comma hzero] at h
    have hfront := List.length_pos_of_ne_nil (splitTopLevelFrom_ne_nil depth previous front)
    have hbehind := List.length_pos_of_ne_nil (splitTopLevelFrom_ne_nil 0 none behind)
    have hlength := congrArg List.length h
    simp only [splitTopLevel, List.length_append, List.length_singleton] at hlength
    omega
  · intro h
    induction text generalizing depth previous with
    | nil => rfl
    | cons c rest ih =>
      have hcomma : ¬ (decide (c = ',') && decide (depth = 0)) = true := by
        simp only [Bool.and_eq_true, decide_eq_true_eq, not_and]
        rintro rfl
        exact h [] rest rfl
      have hrest : splitTopLevelFrom (depth + nestingStep previous c) (some c) rest = [rest] :=
        ih fun front behind heq => h (c :: front) behind (by rw [heq, List.cons_append])
      rw [splitTopLevelFrom, if_neg hcomma, hrest, List.modifyHead_cons]

theorem isOneEntry_iff {text : Text} : IsOneEntry text ↔ splitTopLevel text = [text] :=
  splitTopLevelFrom_eq_singleton_iff.symm

/-! ## Signatures without a list -/

/-- A signature has no list when its last closing parenthesis has no opening one in front of it. -/
theorem parenthesized?_eq_none_iff {signature : Text} :
    parenthesized? signature = none ↔
      ∀ front behind, signature = front ++ ')' :: behind → ')' ∉ behind → '(' ∉ front := by
  constructor
  · intro h front behind heq hbehind hopen
    obtain ⟨⟨before, inside⟩, hcut⟩ := Option.ne_none_iff_exists'.mp
      (mt Text.cutFirst?_eq_none_iff.mp (not_not.mpr hopen))
    obtain ⟨rfl, hbefore⟩ := Text.cutFirst?_eq_some_iff.mp hcut
    have hparts : parenthesized? signature = some (before, inside, behind) :=
      parenthesized?_eq_some_iff.mpr ⟨by rw [heq]; simp, hbefore, hbehind⟩
    simp [h] at hparts
  · intro h
    cases hparts : parenthesized? signature with
    | none => rfl
    | some parts =>
      obtain ⟨before, inside, behind⟩ := parts
      obtain ⟨rfl, -, hbehind⟩ := parenthesized?_eq_some_iff.mp hparts
      exact absurd (by simp) (h (before ++ '(' :: inside) behind (by simp) hbehind)

theorem appendParameter?_eq_none_iff {signature declaredType name : Text} :
    appendParameter? signature declaredType name = none ↔
      ∀ front behind, signature = front ++ ')' :: behind → ')' ∉ behind → '(' ∉ front := by
  rw [← parenthesized?_eq_none_iff]
  cases hparts : parenthesized? signature with
  | none => simp [appendParameter?, hparts]
  | some parts => simp [appendParameter?_eq declaredType name hparts]

/-! ## The names in a longer list -/

/-- The name of a parameter that is added to a list comes behind the names in the list. -/
theorem listedNames_extendedList {list declaredType name : Text} (hnesting : nesting list = 0)
    (htype : IsOneEntry declaredType) (hequals : '=' ∉ declaredType) (hne : name ≠ [])
    (hname : ∀ c ∈ name, isBlank c = false ∧ c ≠ ',' ∧ c ≠ '=') :
    listedNames (extendedList list declaredType name) = listedNames list ++ [name] := by
  have hmark : ',' ∉ name ∧ '=' ∉ name :=
    ⟨fun hmem => (hname _ hmem).2.1 rfl, fun hmem => (hname _ hmem).2.2 rfl⟩
  have hentry : parameterEntryName? (declaredType ++ ' ' :: name) = some name :=
    parameterEntryName?_append_word hequals hne (fun c hc => (hname c hc).1) hmark.2
  have hbehind : parameterEntryName? (' ' :: (declaredType ++ ' ' :: name)) = some name :=
    (parameterEntryName?_blank_append (by decide : ∀ c ∈ [' '], isBlank c = true)).trans hentry
  rw [listedNames, splitTopLevel_extendedList hnesting (isOneEntry_iff.mp htype) hmark.1,
    ← listedNames_trim list]
  split
  · next hempty =>
    rw [List.isEmpty_iff.mp hempty, List.filterMap_cons_some hentry]
    rfl
  · rw [List.filterMap_append, List.filterMap_cons_some hbehind]
    rfl

/-- A parameter can be appended exactly when an opening parenthesis stands in front of the last
closing one.  What stands around the list is kept, and the new parameter is read back behind the
others. -/
theorem parameterNames_appendParameter? (signature declaredType name : Text) :
    (appendParameter? signature declaredType name = none ↔
      ∀ front behind, signature = front ++ ')' :: behind → ')' ∉ behind → '(' ∉ front) ∧
    ∀ before inside behind, signature = before ++ '(' :: (inside ++ ')' :: behind) →
      '(' ∉ before → ')' ∉ behind → nesting inside = 0 →
      IsOneEntry declaredType → '=' ∉ declaredType → name ≠ [] →
      (∀ c ∈ name, isBlank c = false ∧ c ≠ ',' ∧ c ≠ '=') →
      ∃ list, appendParameter? signature declaredType name =
          some (before ++ '(' :: (list ++ ')' :: behind)) ∧
        parameterNames (before ++ '(' :: (list ++ ')' :: behind)) =
          parameterNames signature ++ [name] := by
  refine ⟨appendParameter?_eq_none_iff, ?_⟩
  intro before inside behind hsignature hbefore hbehind hnesting htype hequals hne hname
  have hparts : parenthesized? signature = some (before, inside, behind) :=
    parenthesized?_eq_some_iff.mpr ⟨hsignature, hbefore, hbehind⟩
  refine ⟨extendedList inside declaredType name, appendParameter?_eq declaredType name hparts, ?_⟩
  rw [parameterNames_of_parenthesized (parenthesized?_extended declaredType name hparts),
    parameterNames_of_parenthesized hparts,
    listedNames_extendedList hnesting htype hequals hne hname]

/-- A signature with a default value, behind which a parameter of a type with commas is appended. -/
theorem parameterNames_appendParameter?_defaultValue :
    ∃ list, appendParameter? "void F( Pair<A, B> pair, int level = Max(1, 2) ) \x7b".toList
          "Map<Key, Value[,]>".toList "map".toList =
        some ("void F".toList ++ '(' :: (list ++ ')' :: " \x7b".toList)) ∧
      parameterNames ("void F".toList ++ '(' :: (list ++ ')' :: " \x7b".toList)) =
        parameterNames "void F( Pair<A, B> pair, int level = Max(1, 2) ) \x7b".toList ++
          ["map".toList] := by
  have htype : IsOneEntry "Map<Key, Value[,]>".toList := isOneEntry_iff.mpr (by decide)
  exact (parameterNames_appendParameter? _ "Map<Key, Value[,]>".toList "map".toList).2 _
    " Pair<A, B> pair, int level = Max(1, 2) ".toList _ (by rfl) (by decide)
      (by decide) (by decide) htype
    (by decide) (by decide) (by decide)

end FieldInjection
