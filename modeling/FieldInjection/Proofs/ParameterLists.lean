import FieldInjection.Proofs.CommaLists
import FieldInjection.Proofs.Declarations

/-!
# Lists of balanced entries

An entry whose brackets balance, and whose commas all lie inside brackets, is not split.  A list of
such entries with commas between them is split back into the entries, so the parameters that are
written into a signature one after another are read back in that order.

## Main Definitions

* `Unsplit`: a text that is not split, and how it changes the depth.
* `parameterText`: the parameter list for some fields.

## Main Statements

* `splitTopLevelFrom_intercalate`: a joined list is split into its entries.
* `listedNames_parameterText`: the names in the parameter list for some fields.
* `extendedList_parameterText`: a further field is put at the end of the list.
-/

namespace FieldInjection

/-! ## Texts that are not split -/

/-- Counted from the first depth, the text is not split and ends at the second depth. -/
def Unsplit (depth depth' : Int) (text : Text) : Prop :=
  ∀ previous : Option Char, previous ≠ some '=' →
    splitTopLevelFrom depth previous text = [text] ∧ nestingFrom depth previous text = depth'

/-- A character that neither splits a list nor opens or closes a bracket, nor makes an arrow. -/
def isListPlain (c : Char) : Bool :=
  !(['<', '(', '[', ')', ']', '>', ',', '='].contains c)

/-- Blanks and plain characters have no part in the structure of a list. -/
theorem isListPlain_of_blank_or_plain {c : Char} (h : isBlank c = true ∨ isPlain c = true) :
    isListPlain c = true := by
  have hmarks : ∀ mark ∈ ['<', '(', '[', ')', ']', '>', ',', '='], mark ∈ marks := by decide
  have hnot : ∀ mark ∈ ['<', '(', '[', ')', ']', '>', ',', '='], mark ∉ [c] := fun mark hmark =>
    not_mem_of_blank_or_plain (by simpa using h) (hmarks mark hmark)
  simp only [isListPlain, Bool.not_eq_true', List.contains_eq_mem, decide_eq_false_iff_not]
  exact fun hmem => hnot c hmem (by simp)

namespace Unsplit

variable {depth depth' depth'' : Int} {left right text : Text}

/-- Unsplit parts make up an unsplit text, if the first one has no equals sign for the second to
go on with. -/
theorem append (hleft : Unsplit depth depth' left) (hright : Unsplit depth' depth'' right)
    (hequals : '=' ∉ left) : Unsplit depth depth'' (left ++ right) := by
  intro previous hprevious
  have hlast : left.getLast?.or previous ≠ some '=' := by
    cases hget : left.getLast? with
    | none => simpa using hprevious
    | some c =>
      rintro heq
      obtain rfl : c = '=' := by simpa using heq
      exact hequals (List.mem_of_getLast? hget)
  obtain ⟨hsplit, hdepth⟩ := hleft previous hprevious
  obtain ⟨hsplit', hdepth'⟩ := hright _ hlast
  rw [← List.nil_append [left]] at hsplit
  constructor
  · rw [splitTopLevelFrom_append hsplit, hdepth, hsplit']
    rfl
  · rw [nestingFrom_append, hdepth, hdepth']

/-- One character, where it does not split the list. -/
theorem singleton {c : Char}
    (hstep : ∀ previous, previous ≠ some '=' → nestingStep previous c = depth')
    (hcomma : c = ',' → depth ≠ 0) : Unsplit depth (depth + depth') [c] := by
  intro previous hprevious
  have hsplit : ¬ (decide (c = ',') && decide (depth = 0)) = true := by
    simpa using hcomma
  exact ⟨by rw [splitTopLevelFrom, if_neg hsplit]; rfl, by
    rw [nestingFrom, nestingFrom, hstep previous hprevious]⟩

theorem nil : Unsplit depth depth [] := fun _ _ => ⟨rfl, rfl⟩

/-- A text without brackets and commas is not split. -/
theorem of_listPlain (h : ∀ c ∈ text, isListPlain c = true) : Unsplit depth depth text := by
  induction text with
  | nil => exact nil
  | cons c text ih =>
    have hc := h c (by simp)
    have hplain : ∀ mark ∈ ['<', '(', '[', ')', ']', '>', ',', '='], c ≠ mark := by
      rintro mark hmark rfl
      simp [isListPlain, hmark] at hc
    have hstep : ∀ previous, previous ≠ some '=' → nestingStep previous c = 0 := by
      intro previous _
      simp [nestingStep, hplain]
    have hfirst : Unsplit depth (depth + 0) [c] :=
      singleton hstep fun heq => absurd heq (hplain ',' (by simp))
    rw [add_zero] at hfirst
    exact hfirst.append (ih fun d hd => h d (by simp [hd]))
      (by simpa using (hplain '=' (by simp)).symm)

end Unsplit

/-! ## Joined lists -/

/-- Entries that are not split, with a comma between them, are split at these commas. -/
theorem splitTopLevelFrom_intercalate {first : Text} {others : List Text} {previous : Option Char}
    (hprevious : previous ≠ some '=') (h : ∀ entry ∈ first :: others, Unsplit 0 0 entry) :
    splitTopLevelFrom 0 previous ([','].intercalate (first :: others)) = first :: others := by
  induction others generalizing first previous with
  | nil =>
    rw [List.intercalate_singleton]
    exact (h first (by simp) previous hprevious).1
  | cons second others ih =>
    obtain ⟨hsplit, hdepth⟩ := h first (by simp) previous hprevious
    have hrest : splitTopLevel ([','].intercalate (second :: others)) = second :: others :=
      ih (by decide) fun entry hentry => h entry (List.mem_cons_of_mem _ hentry)
    rw [List.intercalate_cons_cons, List.append_assoc, List.singleton_append,
      splitTopLevelFrom_append_comma hdepth, hsplit, hrest, List.singleton_append]

theorem intercalate_comma_blank (first : Text) (others : List Text) :
    [',', ' '].intercalate (first :: others) =
      [','].intercalate (first :: others.map ([' '] ++ ·)) := by
  induction others generalizing first with
  | nil => simp
  | cons second others ih =>
    rw [List.intercalate_cons_cons, ih, List.map_cons, List.intercalate_cons_cons,
      intercalate_append_cons]
    simp

/-- The same with a blank behind each comma, which then begins the next entry. -/
theorem splitTopLevelFrom_intercalate_blank {first : Text} {others : List Text}
    {previous : Option Char} (hprevious : previous ≠ some '=')
    (h : ∀ entry ∈ first :: others, Unsplit 0 0 entry) :
    splitTopLevelFrom 0 previous ([',', ' '].intercalate (first :: others)) =
      first :: others.map (' ' :: ·) := by
  have hblank : Unsplit 0 0 [' '] := Unsplit.of_listPlain (by decide)
  rw [intercalate_comma_blank]
  refine splitTopLevelFrom_intercalate hprevious fun entry hentry => ?_
  rcases List.mem_cons.mp hentry with rfl | hentry
  · exact h entry (by simp)
  · obtain ⟨other, hother, rfl⟩ := List.mem_map.mp hentry
    exact hblank.append (h other (List.mem_cons_of_mem _ hother)) (by decide)

/-! ## Parameter lists -/

/-- A field whose parameter can stand in a list with others and is read back from it. -/
structure FieldReference.IsListable (field : FieldReference) : Prop extends field.IsInjectable where
  /-- The type is one entry of a list. -/
  unsplit : Unsplit 0 0 field.declaredType
  /-- The type begins with something. -/
  type_ne_nil : field.declaredType ≠ []
  /-- The type does not begin with a blank. -/
  head_not_blank : field.declaredType.head?.any isBlank = false

/-- The parameter for a field. -/
def parameterEntry (field : FieldReference) : Text :=
  field.declaredType ++ ' ' :: parameterName field.name

/-- The parameter list for some fields. -/
def parameterText (fields : List FieldReference) : Text :=
  [',', ' '].intercalate (fields.map parameterEntry)

namespace FieldReference.IsListable

variable {field : FieldReference} (h : field.IsListable)

include h

/-- A type and a name are one entry of a list. -/
theorem unsplit_parameterEntry : Unsplit 0 0 (parameterEntry field) := by
  refine h.unsplit.append (Unsplit.of_listPlain fun c hc => ?_)
    h.equals_not_mem_declaredType
  rcases List.mem_cons.mp hc with rfl | hc
  · decide
  · exact isListPlain_of_blank_or_plain (Or.inr (h.isPlain_of_mem_parameter hc))

theorem parameterEntryName?_parameterEntry :
    parameterEntryName? (parameterEntry field) = some (parameterName field.name) :=
  parameterEntryName?_append_word h.equals_not_mem_declaredType h.parameter_ne_nil
    (fun _ hc => isBlank_eq_false_of_isPlain (h.isPlain_of_mem_parameter hc))
    fun hc => ne_of_isPlain (h.isPlain_of_mem_parameter hc) (by decide) rfl

end FieldReference.IsListable

/-- The names in the parameter list for some fields are the parameters of the fields, in order. -/
theorem listedNames_parameterText {fields : List FieldReference}
    (h : ∀ field ∈ fields, field.IsListable) :
    listedNames (parameterText fields) = fields.map (parameterName ·.name) := by
  cases fields with
  | nil => rfl
  | cons first others =>
    have hentries : ∀ entry ∈ parameterEntry first :: others.map parameterEntry,
        Unsplit 0 0 entry := by
      intro entry hentry
      obtain ⟨field, hfield, rfl⟩ := List.mem_map.mp (List.map_cons ▸ hentry)
      exact (h field hfield).unsplit_parameterEntry
    have hothers : ((others.map parameterEntry).map (' ' :: ·)).filterMap parameterEntryName? =
        others.map (parameterName ·.name) := by
      rw [List.map_map, List.filterMap_map, ← List.filterMap_eq_map]
      refine List.filterMap_congr fun field hfield => ?_
      have hblank : parameterEntryName? ([' '] ++ parameterEntry field) =
          parameterEntryName? (parameterEntry field) :=
        parameterEntryName?_blank_append (by decide)
      exact hblank.trans (h field (by simp [hfield])).parameterEntryName?_parameterEntry
    rw [parameterText, List.map_cons, listedNames, splitTopLevel,
      splitTopLevelFrom_intercalate_blank (by decide) hentries, List.filterMap_cons,
      (h first (by simp)).parameterEntryName?_parameterEntry, hothers, List.map_cons]

/-- One more field is written behind the others. -/
theorem parameterText_concat {fields : List FieldReference} {field : FieldReference}
    (hne : fields ≠ []) :
    parameterText (fields ++ [field]) = parameterText fields ++ [',', ' '] ++
      parameterEntry field := by
  rw [parameterText, List.map_append, List.map_singleton, intercalate_concat (by simpa using hne),
    parameterText]

/-- What stands in a parameter list. -/
theorem of_mem_parameterText {fields : List FieldReference} {c : Char}
    (hc : c ∈ parameterText fields) :
    c = ',' ∨ c = ' ' ∨ ∃ field ∈ fields, c ∈ field.declaredType ∨
      c ∈ parameterName field.name := by
  rcases of_mem_intercalate hc with hc | ⟨entry, hentry, hc⟩
  · simp only [List.mem_cons, List.not_mem_nil, or_false] at hc
    exact hc.imp_right Or.inl
  · obtain ⟨field, hfield, rfl⟩ := List.mem_map.mp hentry
    simp only [parameterEntry, List.mem_append, List.mem_cons] at hc
    rcases hc with hc | hc | hc
    · exact Or.inr (Or.inr ⟨field, hfield, Or.inl hc⟩)
    · exact Or.inr (Or.inl hc)
    · exact Or.inr (Or.inr ⟨field, hfield, Or.inr hc⟩)

/-- A list of parameters has no outer blanks. -/
theorem trim_parameterText {fields : List FieldReference}
    (h : ∀ field ∈ fields, field.IsListable) :
    (parameterText fields).trim = parameterText fields := by
  refine Text.trim_eq_self ?_ ?_
  · cases fields with
    | nil => rfl
    | cons first others =>
      obtain ⟨c, rest, hfirst⟩ := List.exists_cons_of_ne_nil (h first (by simp)).type_ne_nil
      have hblank := (h first (by simp)).head_not_blank
      cases others <;>
        simpa [parameterText, parameterEntry, List.intercalate_cons_cons, hfirst] using hblank
  · rcases List.eq_nil_or_concat fields with rfl | ⟨front, last, rfl⟩
    · rfl
    · rw [List.concat_eq_append] at h ⊢
      have hlast := h last (by simp)
      obtain ⟨start, heq⟩ : ∃ start, parameterText (front ++ [last]) =
          start ++ parameterName last.name := by
        by_cases hne : front = []
        · exact ⟨last.declaredType ++ [' '], by simp [hne, parameterText, parameterEntry]⟩
        · exact ⟨parameterText front ++ [',', ' '] ++ last.declaredType ++ [' '],
            by simp [parameterText_concat hne, parameterEntry]⟩
      cases hget : (parameterName last.name).getLast? with
      | none => exact absurd (List.getLast?_eq_none_iff.mp hget) hlast.parameter_ne_nil
      | some c =>
        rw [heq, List.getLast?_append, hget]
        exact isBlank_eq_false_of_isPlain
          (hlast.isPlain_of_mem_parameter (List.mem_of_getLast? hget))

/-- A further field comes to stand at the end of the list. -/
theorem extendedList_parameterText {fields : List FieldReference} {field : FieldReference}
    (h : ∀ other ∈ fields, other.IsListable) (hne : fields ≠ []) :
    extendedList (parameterText fields) field.declaredType (parameterName field.name) =
      parameterText (fields ++ [field]) := by
  have hfilled : ¬ (parameterText fields).trim.isEmpty = true := by
    rw [trim_parameterText h, List.isEmpty_iff]
    intro hnil
    have hnames := listedNames_parameterText h
    rw [hnil] at hnames
    exact hne (List.map_eq_nil_iff.mp hnames.symm)
  rw [extendedList, if_neg hfilled, trim_parameterText h, parameterText_concat hne, parameterEntry]
  simp

end FieldInjection
