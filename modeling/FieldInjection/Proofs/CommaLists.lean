import FieldInjection.Merge
import FieldInjection.Proofs.Characters
import FieldInjection.Proofs.Cutting
import FieldInjection.Proofs.Joining

/-!
# Splitting lists, and lists with one more parameter

Splitting a text that was put together continues with the last entry of its first part: the depth
and the character before the cut are all that the rest depends on.  From this one equation follows
what a signature says after a parameter was written behind its list.  The new parameter is read back
unless the last entry of the list, with the new type behind it, holds an equals sign.  Then the
whole addition is taken for a part of that entry's default value, and the names are read as they
were before.

## Main Definitions

* `defaultSwallows`: whether an addition to a list would be read as part of a default value.

## Main Statements

* `natAbs_nesting_le`: how far the depth can go.
* `splitTopLevelFrom_append`: splitting a text that was put together.
* `splitTopLevelFrom_append_comma`: a comma of depth zero separates.
* `intercalate_splitTopLevelFrom`: the entries make up the list.
* `splitTopLevel_extendedList`: a list with one more parameter is split into one more entry.
* `mem_listedNames_extendedList_iff`: when a new parameter is read back.
-/

namespace FieldInjection

/-! ## Splitting a text that was put together -/

/-- Even an empty list has an entry. -/
theorem splitTopLevelFrom_ne_nil (depth : Int) (previous : Option Char) (text : Text) :
    splitTopLevelFrom depth previous text ≠ [] := by
  induction text generalizing depth previous with
  | nil => simp [splitTopLevelFrom]
  | cons c rest ih =>
    rw [splitTopLevelFrom]
    split
    · simp
    · have hrest := ih (depth + nestingStep previous c) (some c)
      simpa [List.modifyHead_eq_nil_iff] using hrest

theorem exists_splitTopLevelFrom_eq (depth : Int) (previous : Option Char) (text : Text) :
    ∃ front last, splitTopLevelFrom depth previous text = front ++ [last] := by
  rcases List.eq_nil_or_concat (splitTopLevelFrom depth previous text) with h | ⟨front, last, h⟩
  · exact absurd h (splitTopLevelFrom_ne_nil depth previous text)
  · exact ⟨front, last, by rw [h, List.concat_eq_append]⟩

/-- Only an equals sign before a text can change its depth. -/
theorem splitTopLevelFrom_eq_of_ne_equals {depth : Int} {previous : Option Char} (text : Text)
    (h : previous ≠ some '=') :
    splitTopLevelFrom depth previous text = splitTopLevelFrom depth none text := by
  cases text with
  | nil => rfl
  | cons c rest =>
    have hstep : nestingStep previous c = nestingStep none c := by
      simp [nestingStep, h]
    rw [splitTopLevelFrom, splitTopLevelFrom, hstep]

/-- The depth behind the second part is counted on from the first. -/
theorem nestingFrom_append (depth : Int) (previous : Option Char) (left right : Text) :
    nestingFrom depth previous (left ++ right) =
      nestingFrom (nestingFrom depth previous left) (left.getLast?.or previous) right := by
  induction left generalizing depth previous with
  | nil => rfl
  | cons c left ih =>
    rw [List.cons_append, nestingFrom, nestingFrom, ih, Text.getLast?_cons_or]

theorem natAbs_nestingStep_le_one (before : Option Char) (c : Char) :
    (nestingStep before c).natAbs ≤ 1 := by
  unfold nestingStep
  split_ifs <;> decide

theorem natAbs_nestingFrom_le (depth : Int) (before : Option Char) (text : Text) :
    (nestingFrom depth before text).natAbs ≤ depth.natAbs + text.length := by
  induction text generalizing depth before with
  | nil => simp [nestingFrom]
  | cons c rest ih =>
    have hstep := natAbs_nestingStep_le_one before c
    have hrest := ih (depth + nestingStep before c) (some c)
    rw [nestingFrom, List.length_cons]
    omega

/-- The depth never leaves the range of the length, so a counter of that range does not overflow. -/
theorem natAbs_nesting_le (text : Text) : (nesting text).natAbs ≤ text.length := by
  simpa [nesting] using natAbs_nestingFrom_le 0 none text

/-- The entries of the first part, and how its last entry goes on. -/
theorem exists_splitTopLevelFrom_append (depth : Int) (previous : Option Char) (left right : Text) :
    ∃ front last, splitTopLevelFrom depth previous left = front ++ [last] ∧
      splitTopLevelFrom depth previous (left ++ right) =
        front ++ (splitTopLevelFrom (nestingFrom depth previous left) (left.getLast?.or previous)
          right).modifyHead (last ++ ·) := by
  induction left generalizing depth previous with
  | nil =>
    refine ⟨[], [], rfl, ?_⟩
    cases hright : splitTopLevelFrom depth previous right <;> simp [nestingFrom, hright]
  | cons c left ih =>
    obtain ⟨front, last, hleft, hboth⟩ := ih (depth + nestingStep previous c) (some c)
    rw [splitTopLevelFrom, List.cons_append, splitTopLevelFrom, Text.getLast?_cons_or, nestingFrom]
    by_cases hcomma : (decide (c = ',') && decide (depth = 0)) = true
    · -- the comma starts a new entry, and it changes no depth
      have hdepth : depth + nestingStep previous c = depth := by
        simp only [Bool.and_eq_true, decide_eq_true_eq] at hcomma
        rw [hcomma.1]
        simp [nestingStep]
      rw [hdepth] at hleft hboth ⊢
      rw [if_pos hcomma, if_pos hcomma, hleft, hboth]
      exact ⟨[] :: front, last, rfl, rfl⟩
    · rw [if_neg hcomma, if_neg hcomma, hleft, hboth]
      cases front with
      | nil =>
        refine ⟨[], c :: last, rfl, ?_⟩
        rw [List.nil_append, List.nil_append, List.modifyHead_modifyHead]
        rfl
      | cons entry front => exact ⟨(c :: entry) :: front, last, rfl, rfl⟩

/-- Splitting goes on with the last entry of the first part. -/
theorem splitTopLevelFrom_append {depth : Int} {previous : Option Char} {left right last : Text}
    {front : List Text} (h : splitTopLevelFrom depth previous left = front ++ [last]) :
    splitTopLevelFrom depth previous (left ++ right) =
      front ++ (splitTopLevelFrom (nestingFrom depth previous left) (left.getLast?.or previous)
        right).modifyHead (last ++ ·) := by
  obtain ⟨front', last', hleft, hboth⟩ := exists_splitTopLevelFrom_append depth previous left right
  obtain ⟨rfl, hlast⟩ := List.append_inj' (h.symm.trans hleft) rfl
  obtain rfl := List.singleton_inj.mp hlast
  exact hboth

/-- A comma behind a text of depth zero separates, and the list is read afresh behind it. -/
theorem splitTopLevelFrom_append_comma {depth : Int} {previous : Option Char} {left : Text}
    (h : nestingFrom depth previous left = 0) (right : Text) :
    splitTopLevelFrom depth previous (left ++ ',' :: right) =
      splitTopLevelFrom depth previous left ++ splitTopLevel right := by
  obtain ⟨front, last, hleft⟩ := exists_splitTopLevelFrom_eq depth previous left
  have hright : splitTopLevelFrom 0 (some ',') right = splitTopLevel right :=
    splitTopLevelFrom_eq_of_ne_equals right (by decide)
  rw [splitTopLevelFrom_append hleft, h, splitTopLevelFrom, if_pos (by decide), hright, hleft]
  simp

/-! ## Joining the entries -/

/-- The entries with commas between them are the list again. -/
theorem intercalate_splitTopLevelFrom (depth : Int) (previous : Option Char) (list : Text) :
    [','].intercalate (splitTopLevelFrom depth previous list) = list := by
  induction list generalizing depth previous with
  | nil => rfl
  | cons c rest ih =>
    rw [splitTopLevelFrom]
    split
    · next hcomma =>
      simp only [Bool.and_eq_true, decide_eq_true_eq] at hcomma
      rw [List.intercalate_cons_of_ne_nil (splitTopLevelFrom_ne_nil _ _ _), ih, hcomma.1]
      rfl
    · obtain ⟨entry, others, hrest⟩ := List.exists_cons_of_ne_nil
        (splitTopLevelFrom_ne_nil (depth + nestingStep previous c) (some c) rest)
      rw [hrest, List.modifyHead_cons, List.intercalate_cons_cons_left, ← hrest, ih]

/-- Splitting brings in no characters. -/
theorem mem_of_mem_splitTopLevelFrom {depth : Int} {previous : Option Char} {text entry : Text}
    (hentry : entry ∈ splitTopLevelFrom depth previous text) {c : Char} (hc : c ∈ entry) :
    c ∈ text := by
  rw [← intercalate_splitTopLevelFrom depth previous text]
  exact mem_intercalate_of_mem hentry hc

/-- Without a comma there is one entry. -/
theorem splitTopLevelFrom_eq_singleton {depth : Int} {previous : Option Char} {text : Text}
    (h : ',' ∉ text) : splitTopLevelFrom depth previous text = [text] := by
  induction text generalizing depth previous with
  | nil => rfl
  | cons c rest ih =>
    simp only [List.mem_cons, not_or] at h
    rw [splitTopLevelFrom, if_neg (by simp [Ne.symm h.1]), ih h.2]
    rfl

/-- A text without a comma goes to the last entry. -/
theorem splitTopLevelFrom_append_of_no_comma {depth : Int} {previous : Option Char}
    {left right last : Text} {front : List Text} (hright : ',' ∉ right)
    (h : splitTopLevelFrom depth previous left = front ++ [last]) :
    splitTopLevelFrom depth previous (left ++ right) = front ++ [last ++ right] := by
  rw [splitTopLevelFrom_append h, splitTopLevelFrom_eq_singleton hright]
  rfl

/-! ## The names in a list -/

/-- The names that the entries of a list declare. -/
def listedNames (list : Text) : List Text :=
  (splitTopLevel list).filterMap parameterEntryName?

/-- The parameters of a signature are those of the list between its parentheses. -/
theorem parameterNames_of_parenthesized {signature before inside behind : Text}
    (h : parenthesized? signature = some (before, inside, behind)) :
    parameterNames signature = listedNames inside := by
  rw [parameterNames, h]
  rfl

/-- Behind an equals sign nothing changes the name of an entry. -/
theorem parameterEntryName?_append_of_mem {entry more : Text} (h : '=' ∈ entry) :
    parameterEntryName? (entry ++ more) = parameterEntryName? entry := by
  rw [parameterEntryName?, Text.takeWhile_append_of_stop (Or.inl ⟨'=', h, by decide⟩),
    parameterEntryName?]

/-- The last word in front of an equals sign is the name. -/
theorem parameterEntryName?_append_word {entry word : Text} (hentry : '=' ∉ entry)
    (hword : word ≠ []) (hblank : ∀ c ∈ word, isBlank c = false) (hequals : '=' ∉ word) :
    parameterEntryName? (entry ++ ' ' :: word) = some word := by
  have hall : (entry ++ ' ' :: word).takeWhile (· != '=') = (entry ++ [' ']) ++ word := by
    rw [List.takeWhile_eq_self_iff.mpr]
    · simp
    · intro c hc
      have hne : c ≠ '=' := by
        rintro rfl
        simp [hentry, hequals] at hc
      simpa using hne
  rw [parameterEntryName?, hall]
  refine Text.lastWord?_append_word hword hblank ?_
  simp [isBlank]

theorem parameterEntryName?_blank_append {blanks entry : Text}
    (h : ∀ c ∈ blanks, isBlank c = true) :
    parameterEntryName? (blanks ++ entry) = parameterEntryName? entry := by
  have hnot : ∀ c ∈ blanks, (c != '=') = true := by
    intro c hc
    simpa using Text.ne_of_isBlank (h c hc) (by decide)
  rw [parameterEntryName?, List.takeWhile_append_of_pos hnot, Text.lastWord?_blank_append h,
    parameterEntryName?]

/-- Blanks around an entry do not change its name. -/
theorem parameterEntryName?_append_blank {entry blanks : Text}
    (h : ∀ c ∈ blanks, isBlank c = true) :
    parameterEntryName? (entry ++ blanks) = parameterEntryName? entry := by
  by_cases hentry : '=' ∈ entry
  · exact parameterEntryName?_append_of_mem hentry
  · have hall : ∀ text : Text, '=' ∉ text → text.takeWhile (· != '=') = text := by
      intro text htext
      refine List.takeWhile_eq_self_iff.mpr fun c hc => ?_
      have hne : c ≠ '=' := fun heq => htext (heq ▸ hc)
      simpa using hne
    have hblanks : '=' ∉ blanks := Text.not_mem_of_blank h (by decide)
    rw [parameterEntryName?, hall _ (by simp [hentry, hblanks]), Text.lastWord?_append_blank h,
      parameterEntryName?, hall _ hentry]

/-- Blanks do not change the depth. -/
theorem nestingFrom_of_blank {depth : Int} {previous : Option Char} {blanks : Text}
    (h : ∀ c ∈ blanks, isBlank c = true) : nestingFrom depth previous blanks = depth := by
  induction blanks generalizing depth previous with
  | nil => rfl
  | cons b blanks ih =>
    have hne : ∀ mark, isBlank mark = false → b ≠ mark := fun mark =>
      Text.ne_of_isBlank (h b (by simp))
    have hstep : nestingStep previous b = 0 := by
      simp [nestingStep, hne '<' (by decide), hne '(' (by decide), hne '[' (by decide),
        hne ')' (by decide), hne ']' (by decide), hne '>' (by decide)]
    rw [nestingFrom, hstep, Int.add_zero]
    exact ih fun c hc => h c (by simp [hc])

theorem nestingFrom_eq_of_ne_equals {depth : Int} {previous : Option Char} (text : Text)
    (h : previous ≠ some '=') : nestingFrom depth previous text = nestingFrom depth none text := by
  cases text with
  | nil => rfl
  | cons c rest => simp [nestingFrom, nestingStep, h]

/-- Blanks around a list do not change its depth. -/
theorem nesting_trim (list : Text) : nesting list.trim = nesting list := by
  obtain ⟨left, right, hleft, hright, hlist⟩ := Text.exists_blank_append_trim list
  have hprevious : left.getLast?.or none ≠ some '=' := by
    rw [Option.or_none]
    exact fun hlast => Text.not_mem_of_blank hleft (by decide) (List.mem_of_getLast? hlast)
  conv_rhs => rw [hlist]
  rw [nesting, nesting, nestingFrom_append, nestingFrom_append, nestingFrom_of_blank hright,
    nestingFrom_of_blank hleft, nestingFrom_eq_of_ne_equals _ hprevious]

/-- Blanks around a list do not change the names in it. -/
theorem listedNames_trim (list : Text) : listedNames list.trim = listedNames list := by
  obtain ⟨left, right, hleft, hright, hlist⟩ := Text.exists_blank_append_trim list
  have hcomma : ∀ blanks : Text, (∀ c ∈ blanks, isBlank c = true) → ',' ∉ blanks :=
    fun blanks h => Text.not_mem_of_blank h (by decide)
  obtain ⟨front, last, hcore⟩ := exists_splitTopLevelFrom_eq 0 none list.trim
  have hprevious : left.getLast?.or none ≠ some '=' := by
    rw [Option.or_none]
    exact fun hlast => Text.not_mem_of_blank hleft (by decide) (List.mem_of_getLast? hlast)
  have hsplit : splitTopLevel list =
      (front ++ [last ++ right]).modifyHead (left ++ ·) := by
    rw [splitTopLevel, hlist, List.append_assoc, splitTopLevelFrom_append
      (show splitTopLevelFrom 0 none left = [] ++ [left] from
        splitTopLevelFrom_eq_singleton (hcomma left hleft)), nestingFrom_of_blank hleft,
      splitTopLevelFrom_eq_of_ne_equals _ hprevious,
      splitTopLevelFrom_append_of_no_comma (hcomma right hright) hcore]
    rfl
  unfold listedNames
  rw [hsplit, splitTopLevel, hcore]
  cases front with
  | nil =>
    simp [List.filterMap_cons, parameterEntryName?_blank_append hleft,
      parameterEntryName?_append_blank hright]
  | cons entry front =>
    simp [List.filterMap_cons, List.filterMap_append, parameterEntryName?_blank_append hleft,
      parameterEntryName?_append_blank hright]

/-! ## One more parameter -/

/-- A list with one more parameter at its end. -/
def extendedList (list declaredType name : Text) : Text :=
  if list.trim.isEmpty then declaredType ++ [' '] ++ name
  else list.trim ++ [',', ' '] ++ (declaredType ++ [' '] ++ name)

/-- Whether a parameter that is written behind a list would be read as part of a default value: the
last entry of the list, with the new type behind it, holds an equals sign. -/
def defaultSwallows (list declaredType : Text) : Bool :=
  (splitTopLevel (list.trim ++ [',', ' '] ++ declaredType)).getLast?.any (·.contains '=')

/-- A parameter is written behind the list, inside its parentheses. -/
theorem appendParameter?_eq {signature before inside behind : Text} (declaredType name : Text)
    (h : parenthesized? signature = some (before, inside, behind)) :
    appendParameter? signature declaredType name =
      some (before ++ '(' :: (extendedList inside declaredType name ++ ')' :: behind)) := by
  simp [appendParameter?, h, extendedList]

/-- The longer list stands between the same parentheses. -/
theorem parenthesized?_extended {signature before inside behind : Text} (declaredType name : Text)
    (h : parenthesized? signature = some (before, inside, behind)) :
    parenthesized? (before ++ '(' :: (extendedList inside declaredType name ++ ')' :: behind)) =
      some (before, extendedList inside declaredType name, behind) := by
  obtain ⟨-, hbefore, hbehind⟩ := parenthesized?_eq_some_iff.mp h
  exact parenthesized?_eq_some_iff.mpr ⟨rfl, hbefore, hbehind⟩

/-- The type and the name that are added to a list make up an entry of their own. -/
theorem splitTopLevel_extendedList {list declaredType name : Text} (hnesting : nesting list = 0)
    (htype : splitTopLevel declaredType = [declaredType]) (hname : ',' ∉ name) :
    splitTopLevel (extendedList list declaredType name) =
      if list.trim.isEmpty then [declaredType ++ ' ' :: name]
      else splitTopLevel list.trim ++ [' ' :: (declaredType ++ ' ' :: name)] := by
  have hcomma : ',' ∉ ' ' :: name := by simp [hname]
  have hentry : ∀ previous, previous ≠ some '=' →
      splitTopLevelFrom 0 previous (declaredType ++ ' ' :: name) =
        [] ++ [declaredType ++ ' ' :: name] := fun previous hprevious =>
    splitTopLevelFrom_append_of_no_comma hcomma
      ((splitTopLevelFrom_eq_of_ne_equals _ hprevious).trans htype)
  rw [extendedList]
  split
  · simpa [splitTopLevel] using hentry none (by decide)
  · have hdepth : nestingFrom 0 none list.trim = 0 := (nesting_trim list).trans hnesting
    have hafter : splitTopLevel (' ' :: (declaredType ++ ' ' :: name)) =
        [' ' :: (declaredType ++ ' ' :: name)] := by
      have hentry := hentry (some ' ') (by decide)
      simp only [List.nil_append] at hentry
      simp [splitTopLevel, splitTopLevelFrom, nestingStep, hentry]
    -- behind the old list, the comma has depth zero and starts the new entry
    have hlist : list.trim ++ [',', ' '] ++ (declaredType ++ [' '] ++ name) =
        list.trim ++ ',' :: (' ' :: (declaredType ++ ' ' :: name)) := by simp
    rw [hlist, splitTopLevel, splitTopLevelFrom_append_comma hdepth, hafter, splitTopLevel]

/-- What is added behind a default value and not split off leaves the names as they are. -/
theorem listedNames_append_of_swallowed {left added last : Text} {front : List Text}
    (hadded : '=' ∉ added) (h : splitTopLevel (left ++ added) = front ++ [last])
    (hlast : '=' ∈ last) :
    listedNames (left ++ added) = listedNames left := by
  obtain ⟨entries, entry, hleft⟩ := exists_splitTopLevelFrom_eq 0 none left
  obtain ⟨first, others, hmore⟩ := List.exists_cons_of_ne_nil
    (splitTopLevelFrom_ne_nil (nestingFrom 0 none left) (left.getLast?.or none) added)
  have hnot : ∀ piece ∈ first :: others, '=' ∉ piece := fun piece hpiece hmem =>
    hadded (mem_of_mem_splitTopLevelFrom (hmore ▸ hpiece) hmem)
  have hsplit : splitTopLevel (left ++ added) = entries ++ (entry ++ first) :: others := by
    rw [splitTopLevel, splitTopLevelFrom_append hleft, hmore]
    rfl
  rw [hsplit] at h
  rcases List.eq_nil_or_concat others with rfl | ⟨middle, piece, rfl⟩
  · obtain rfl : entry ++ first = last := List.singleton_inj.mp (List.append_inj' h rfl).2
    have hentry : '=' ∈ entry := (List.mem_append.mp hlast).resolve_right (hnot first (by simp))
    rw [listedNames, listedNames, hsplit, splitTopLevel, hleft, List.filterMap_append,
      List.filterMap_append, List.filterMap_cons, List.filterMap_cons,
      parameterEntryName?_append_of_mem hentry]
  · -- the last entry would be all of the addition
    have hconcat : (entries ++ (entry ++ first) :: middle) ++ [piece] = front ++ [last] := by
      rw [← h, List.concat_eq_append]
      simp
    obtain rfl : piece = last := List.singleton_inj.mp (List.append_inj' hconcat rfl).2
    exact absurd hlast (hnot piece (by simp))

section Addition

variable {name : Text} (hname : name ≠ []) (hplain : ∀ c ∈ name, isPlain c = true)

include hname hplain

/-- The names in a list that ends in a name after a blank. -/
theorem listedNames_append_word {text last : Text} {front : List Text}
    (h : splitTopLevel text = front ++ [last]) :
    listedNames (text ++ ' ' :: name) =
      front.filterMap parameterEntryName? ++
        (if '=' ∈ last then parameterEntryName? last else some name).toList := by
  have hcomma : ',' ∉ ' ' :: name := by
    simp only [List.mem_cons, not_or]
    exact ⟨by decide, fun hmem => ne_of_isPlain (hplain _ hmem) (by decide) rfl⟩
  rw [listedNames, splitTopLevel, splitTopLevelFrom_append_of_no_comma hcomma h,
    List.filterMap_append]
  by_cases hequals : '=' ∈ last
  · rw [if_pos hequals]
    cases hentry : parameterEntryName? last <;>
      simp [parameterEntryName?_append_of_mem hequals, hentry]
  · rw [if_neg hequals]
    simp [parameterEntryName?_append_word hequals hname
      (fun c hc => isBlank_eq_false_of_isPlain (hplain c hc))
      fun hmem => ne_of_isPlain (hplain _ hmem) (by decide) rfl]

/-- A parameter that stands alone in a list is read back. -/
theorem mem_listedNames_of_no_equals {text : Text} (h : '=' ∉ text) :
    name ∈ listedNames (text ++ ' ' :: name) := by
  obtain ⟨front, last, hsplit⟩ := exists_splitTopLevelFrom_eq 0 none text
  have hlast : '=' ∉ last := fun hmem =>
    h (mem_of_mem_splitTopLevelFrom (by rw [hsplit]; simp) hmem)
  rw [listedNames_append_word hname hplain hsplit, if_neg hlast]
  simp

/-- A new parameter is read back exactly when no default value swallows it. -/
theorem mem_listedNames_extendedList_iff {list declaredType : Text} (htype : '=' ∉ declaredType)
    (hnew : name ∉ listedNames list) :
    name ∈ listedNames (extendedList list declaredType name) ↔
      defaultSwallows list declaredType = false := by
  obtain ⟨front, last, hsplit⟩ := exists_splitTopLevelFrom_eq 0 none
    (list.trim ++ ([',', ' '] ++ declaredType))
  have hswallows : defaultSwallows list declaredType = last.contains '=' := by
    rw [defaultSwallows, List.append_assoc, splitTopLevel, hsplit,
      List.getLast?_concat, Option.any_some]
  have hadded : '=' ∉ [',', ' '] ++ declaredType := by simp [htype]
  by_cases hempty : list.trim = []
  · -- alone in its list, the parameter cannot be swallowed
    have hlast : '=' ∉ last := fun hmem => by
      have hin := mem_of_mem_splitTopLevelFrom (hsplit ▸ List.mem_concat_self) hmem
      rw [hempty, List.nil_append] at hin
      exact hadded hin
    rw [hswallows, extendedList, if_pos (by simp [hempty]), List.append_assoc,
      List.singleton_append]
    exact iff_of_true (mem_listedNames_of_no_equals hname hplain htype) (by simpa using hlast)
  · have hlist : extendedList list declaredType name =
        list.trim ++ ([',', ' '] ++ declaredType) ++ ' ' :: name := by
      simp [extendedList, hempty]
    rw [hswallows, hlist, listedNames_append_word hname hplain hsplit]
    by_cases hlast : '=' ∈ last
    · have hnames : front.filterMap parameterEntryName? ++ (parameterEntryName? last).toList =
          listedNames list := by
        rw [← listedNames_trim list, ← listedNames_append_of_swallowed hadded hsplit hlast,
          listedNames, splitTopLevel, hsplit, List.filterMap_append]
        cases hentry : parameterEntryName? last <;> simp [hentry]
      rw [if_pos hlast, hnames]
      exact iff_of_false hnew (by simpa using hlast)
    · rw [if_neg hlast]
      exact iff_of_true (by simp) (by simpa using hlast)

end Addition

end FieldInjection
