import FieldInjection.Injector
import FieldInjection.Proofs.CommaLists
import FieldInjection.Proofs.Declarations
import FieldInjection.Proofs.Locations
import FieldInjection.Proofs.Merging
import FieldInjection.Proofs.Plans
import FieldInjection.Proofs.Snapshots
import Mathlib.Algebra.GroupWithZero.Nat

/-!
# Every edit adds visible characters

The ink of a text is the number of its characters that are not blanks.  Line endings are blanks, so
reading a document and writing it out changes no ink, whatever endings its lines have; nor does
trimming a parameter list.  An edit only ever puts characters in.  So the ink of a document grows
with every edit that is made, and the text after it is another one than the text before.

## Main Definitions

* `Text.ink`, `inkOf`: the visible characters of a text and of some lines.

## Main Statements

* `ink_toText`, `inkOf_ofText`: line endings have no ink.
* `ink_lt_of_appendParameter?`, `inkOf_lt_of_merge`: what is added to a method has.
* `Injector.inkOf_lt_of_prepare`: the ink grows with every edit.
-/

namespace FieldInjection

/-- How many characters of a text are not blanks. -/
def Text.ink (text : Text) : Nat :=
  text.countP fun c => !isBlank c

/-- How many characters of some lines are not blanks. -/
def inkOf (lines : List Text) : Nat :=
  (lines.map Text.ink).sum

namespace Text

/-- The ink of two texts adds up. -/
@[simp] theorem ink_append (left right : Text) : ink (left ++ right) = ink left + ink right :=
  List.countP_append

@[simp] theorem ink_cons (c : Char) (text : Text) :
    ink (c :: text) = ink text + if isBlank c then 0 else 1 := by
  rw [ink, ink, List.countP_cons]
  cases isBlank c <;> rfl

/-- Blanks take no ink. -/
theorem ink_of_blank {blanks : Text} (h : ∀ c ∈ blanks, isBlank c = true) : ink blanks = 0 :=
  List.countP_eq_zero.mpr fun c hc => by simp [h c hc]

/-- Any other character takes some. -/
theorem ink_pos_of_mem {text : Text} {c : Char} (hc : c ∈ text) (hblank : isBlank c = false) :
    0 < ink text :=
  List.countP_pos_iff.mpr ⟨c, hc, by simp [hblank]⟩

theorem ink_pos_of_isAllBlank {text : Text} (h : text.isAllBlank = false) : 0 < ink text := by
  obtain ⟨c, hc, hblank⟩ := List.all_eq_false.mp h
  exact ink_pos_of_mem hc (by simpa using hblank)

/-- Trimming takes off no ink. -/
theorem ink_trim (text : Text) : ink text.trim = ink text := by
  obtain ⟨left, right, hleft, hright, heq⟩ := exists_blank_append_trim text
  have hink := congrArg ink heq
  rw [ink_append, ink_append, ink_of_blank hleft, ink_of_blank hright] at hink
  omega

/-- A carriage return has no ink. -/
theorem ink_dropReturn (line : Text) : ink (dropReturn line) = ink line := by
  rw [dropReturn]
  split
  · next hlast =>
    obtain ⟨front, rfl⟩ := List.getLast?_eq_some_iff.mp hlast
    rw [List.dropLast_concat, ink_append]
    rfl
  · rfl

end Text

/-! ## Lines and their endings -/

@[simp] theorem inkOf_append (left right : List Text) :
    inkOf (left ++ right) = inkOf left + inkOf right := by
  simp [inkOf]

@[simp] theorem inkOf_cons (line : Text) (lines : List Text) :
    inkOf (line :: lines) = line.ink + inkOf lines := by
  simp [inkOf]

/-- Blanks between lines have no ink. -/
theorem ink_intercalate {separator : Text} (h : ∀ c ∈ separator, isBlank c = true)
    (lines : List Text) : Text.ink (separator.intercalate lines) = inkOf lines := by
  induction lines with
  | nil => rfl
  | cons line lines ih =>
    cases lines with
    | nil => simp [inkOf]
    | cons next lines =>
      rw [List.intercalate_cons_of_ne_nil (by simp), Text.ink_append, Text.ink_append,
        Text.ink_of_blank h, ih, inkOf_cons line]
      omega

/-- Line endings are blanks, so how lines are joined costs no ink. -/
theorem isBlank_of_mem_lineEnding {ending : LineEnding} {c : Char} (hc : c ∈ ending.text) :
    isBlank c = true := by
  have hall : ∀ d ∈ ending.text, isBlank d = true := by cases ending <;> decide
  exact hall c hc

/-- What is written has the ink of its lines. -/
theorem ink_toText (snapshot : Snapshot) : snapshot.toText.ink = inkOf snapshot.lines :=
  ink_intercalate (fun _ => isBlank_of_mem_lineEnding) snapshot.lines

/-- What is read has its ink on its lines, however they end. -/
theorem inkOf_ofText (text : Text) : inkOf (Snapshot.ofText text).lines = text.ink := by
  have hlines : inkOf (Snapshot.ofText text).lines = inkOf (text.splitOn '\n') := by
    simp only [inkOf, Snapshot.ofText, List.map_map]
    congr 1
    exact List.map_congr_left fun line _ => Text.ink_dropReturn line
  have htext := ink_intercalate (by decide : ∀ c ∈ ['\n'], isBlank c = true) (text.splitOn '\n')
  rw [hlines, ← htext, List.intercalate_splitOn]

/-! ## Edits of lines -/

/-- Inserted lines add their ink. -/
theorem inkOf_insertLines (snapshot : Snapshot) (index : Nat) (added : List Text) :
    inkOf (snapshot.insertLines index added).lines = inkOf snapshot.lines + inkOf added := by
  have hparts : inkOf snapshot.lines =
      inkOf (snapshot.lines.take index) + inkOf (snapshot.lines.drop index) := by
    rw [← inkOf_append, List.take_append_drop]
  simp only [Snapshot.insertLines, inkOf_append, hparts]
  omega

/-- A line replaced by one with more ink adds some. -/
theorem inkOf_replaceLine {snapshot : Snapshot} {index : Nat} {old new : Text}
    (hold : snapshot.line? index = some old) (hlt : old.ink < new.ink) :
    inkOf snapshot.lines < inkOf (snapshot.replaceLine index new).lines := by
  obtain ⟨hindex, hget⟩ := List.getElem?_eq_some_iff.mp hold
  have hparts : snapshot.lines =
      snapshot.lines.take index ++ old :: snapshot.lines.drop (index + 1) := by
    rw [← hget, List.getElem_cons_drop, List.take_append_drop]
  have hnew : (snapshot.replaceLine index new).lines =
      snapshot.lines.take index ++ new :: snapshot.lines.drop (index + 1) := by
    rw [Snapshot.replaceLine, List.set_eq_take_append_cons_drop, if_pos hindex]
  rw [hnew, hparts, inkOf_append, inkOf_append, inkOf_cons, inkOf_cons, ← hparts]
  omega

/-! ## What is added to a method -/

/-- A list with one more parameter has more ink, if the parameter's type is not blank. -/
theorem ink_lt_extendedList {list declaredType : Text} (name : Text)
    (htype : declaredType.isAllBlank = false) :
    list.ink < (extendedList list declaredType name).ink := by
  have hpos := Text.ink_pos_of_isAllBlank htype
  have htrim := Text.ink_trim list
  rw [extendedList]
  split
  · next hempty =>
    rw [List.isEmpty_iff.mp hempty] at htrim
    simp only [Text.ink_append, ← htrim]
    exact Nat.lt_of_lt_of_le hpos (by omega)
  · -- the old list is trimmed, and that takes no ink away
    simp only [Text.ink_append, htrim]
    omega

/-- A parameter that is added to a signature has ink. -/
theorem ink_lt_of_appendParameter? {signature declaredType name updated : Text}
    (htype : declaredType.isAllBlank = false)
    (h : appendParameter? signature declaredType name = some updated) :
    signature.ink < updated.ink := by
  cases hparts : parenthesized? signature with
  | none => simp [appendParameter?, hparts] at h
  | some parts =>
    obtain ⟨before, inside, behind⟩ := parts
    rw [appendParameter?_eq _ _ hparts] at h
    obtain rfl := Option.some.inj h
    obtain ⟨rfl, -, -⟩ := parenthesized?_eq_some_iff.mp hparts
    have hlist : inside.ink < (extendedList inside declaredType name).ink :=
      ink_lt_extendedList name htype
    simp only [Text.ink_append, Text.ink_cons]
    omega

/-- A parameter that is added to a signature adds ink. -/
theorem inkOf_lt_of_addParameter {snapshot signed : Snapshot} {method : InjectionMethod}
    {field : FieldReference} {config : Configuration}
    (htype : field.declaredType.isAllBlank = false)
    (h : addParameter snapshot method field config = .ok signed) :
    inkOf snapshot.lines < inkOf signed.lines := by
  rw [addParameter] at h
  split at h
  · simp at h
  · next signature hsignature =>
    split at h
    · simp at h
    · next updated hupdated =>
      rw [← Except.ok.inj h]
      exact inkOf_replaceLine hsignature (ink_lt_of_appendParameter? htype hupdated)

/-- An assignment has ink. -/
theorem ink_assignmentLine_pos (snapshot : Snapshot) (method : InjectionMethod)
    (field : FieldReference) (config : Configuration) :
    0 < (assignmentLine snapshot method field config).ink := by
  have hmem : ';' ∈ assignment field.name (parameterName field.name) :=
    List.mem_append_right _ (List.mem_singleton_self ';')
  exact Text.ink_pos_of_mem (List.mem_append_right _ hmem) (by decide)

/-- A merge that has something to add adds ink. -/
theorem inkOf_lt_of_merge {snapshot : Snapshot} {method : InjectionMethod} {field : FieldReference}
    {config : Configuration} {merged : Merged} (htype : field.declaredType.isAllBlank = false)
    (hnew : (method.hasParameter (parameterName field.name) &&
      hasAssignment snapshot method field.name) = false)
    (h : merge snapshot method field config = .ok merged) :
    inkOf snapshot.lines < inkOf merged.snapshot.lines := by
  obtain ⟨signed, hsigned, hmerged⟩ := exists_of_merge h
  have hadded := inkOf_insertLines signed method.bodyCloseLine
    [assignmentLine snapshot method field config]
  have hline := ink_assignmentLine_pos snapshot method field config
  rw [inkOf_cons] at hadded
  rw [hmerged]
  -- one of the two parts is missing: the assignment if the parameter is there, else the parameter
  split at hsigned
  · next hparameter =>
    obtain rfl := Except.ok.inj hsigned
    rw [hparameter, Bool.true_and] at hnew
    rw [hnew, if_neg Bool.false_ne_true]
    omega
  · have hlt := inkOf_lt_of_addParameter htype hsigned
    split <;> omega

/-! ## Edits -/

/-- A new method has ink: its braces at least. -/
theorem inkOf_methodLines_pos (field : FieldReference) (indent : Text) (config : Configuration) :
    0 < inkOf (methodLines field indent config) := by
  have hbrace : 0 < Text.ink (indent ++ [openBrace]) :=
    Text.ink_pos_of_mem (List.mem_append_right indent (List.mem_singleton_self openBrace))
      (by decide)
  simp only [methodLines, inkOf_cons]
  omega

/-- An edit adds ink to the document, whichever backend has located the field. -/
theorem Injector.inkOf_lt_of_prepare {injector : Injector} {snapshot : Snapshot} {name : Text}
    {edit : Edit} (h : injector.prepare snapshot name = .ok edit) :
    inkOf snapshot.lines < inkOf edit.snapshot.lines := by
  obtain ⟨location, hlocated, ⟨-, rfl⟩ | ⟨method, merged, -, hnew, hmerge, rfl⟩⟩ :=
    exists_of_prepare h
  · have hadded := inkOf_insertLines snapshot location.span.endLine (methodLines location.field
      (memberIndent snapshot (some location.field.line) injector.config.indentUnit) injector.config)
    have hlines := inkOf_methodLines_pos location.field
      (memberIndent snapshot (some location.field.line) injector.config.indentUnit) injector.config
    simp only [createMethod]
    omega
  · exact inkOf_lt_of_merge (isAllBlank_declaredType hlocated) hnew hmerge

end FieldInjection
