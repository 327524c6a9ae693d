import FieldInjection.Proofs.CommaLists

/-!
# The commas that separate entries

Nothing of a list is lost when it is split: the entries with commas between them are the list again.
Which commas separate is decided by what stands before them alone.  A comma behind as many closed
brackets as open ones separates, and both sides are then read as lists of their own.  Any other
comma is inside an entry, whether brackets are open before it or too many were closed.

The depth is a plain count: opening brackets less closing ones, where the angle of an arrow is not
counted.  It says nothing of whether the brackets match in kind or in order.

## Main Definitions

* `arrowCount`: the number of arrows in a text.
* `IsInsideEntry`: a comma that does not separate.

## Main Statements

* `nesting_eq_count`: the depth as a count of brackets.
* `isInsideEntry_of_nesting_ne_zero`: a comma at another depth than zero is inside an entry.
* `separates_iff_nesting_eq_zero`: what splitting does with a list, and with each of its commas.
-/

namespace FieldInjection

/-! ## The depth as a count -/

/-- A bracket that opens.  An angle is one wherever it stands, in a comparison or a shift, too. -/
def opensBracket (c : Char) : Bool := ['<', '(', '['].contains c

/-- A bracket that closes, the angle of an arrow included. -/
def closesBracket (c : Char) : Bool := ['>', ')', ']'].contains c

/-- The number of closing angles that stand directly behind an equals sign. -/
def arrowCount (text : Text) : Nat := (text.zip text.tail).count ('=', '>')

/-- Two texts with a character in common: no arrow is on both sides of it. -/
theorem arrowCount_append_cons (before : Option Char) (c : Char) (rest : Text) :
    arrowCount (before.toList ++ c :: rest) =
      arrowCount (before.toList ++ [c]) + arrowCount (c :: rest) := by
  cases before with
  | none => simp [arrowCount]
  | some before => simp [arrowCount, List.count_cons, Nat.add_comm]

/-- One character changes the depth by what it adds to the counts. -/
theorem nestingStep_eq_count (before : Option Char) (c : Char) :
    nestingStep before c =
      [c].countP opensBracket - [c].countP closesBracket + arrowCount (before.toList ++ [c]) := by
  by_cases hangle : c = '>'
  · cases before with
    | none => simp [nestingStep, opensBracket, closesBracket, arrowCount, hangle]
    | some before =>
      by_cases hequals : before = '=' <;>
        simp [nestingStep, opensBracket, closesBracket, arrowCount, hangle, hequals]
  have harrow : arrowCount (before.toList ++ [c]) = 0 := by
    cases before <;> simp [arrowCount, hangle]
  rw [harrow]
  by_cases hopens : c = '<' ∨ c = '(' ∨ c = '['
  · rcases hopens with rfl | rfl | rfl <;> simp [nestingStep, opensBracket, closesBracket]
  by_cases hcloses : c = ')' ∨ c = ']'
  · rcases hcloses with rfl | rfl <;> simp [nestingStep, opensBracket, closesBracket]
  simp only [not_or] at hopens hcloses
  simp [nestingStep, opensBracket, closesBracket, hangle, hopens, hcloses]

theorem nestingFrom_eq_count (depth : Int) (before : Option Char) (text : Text) :
    nestingFrom depth before text =
      depth + text.countP opensBracket - text.countP closesBracket + arrowCount
        (before.toList ++ text) := by
  induction text generalizing depth before with
  | nil => cases before <;> simp [nestingFrom, arrowCount]
  | cons c rest ih =>
    have hcount : ∀ holds : Char → Bool, (c :: rest).countP holds =
        [c].countP holds + rest.countP holds := by
      intro holds
      rw [← List.countP_append, List.singleton_append]
    have harrows : arrowCount ((some c).toList ++ rest) = arrowCount (c :: rest) := rfl
    rw [nestingFrom, ih, nestingStep_eq_count, arrowCount_append_cons before c rest,
      harrows, hcount, hcount]
    omega

/-- The depth of a text is the number of its opening brackets less that of its closing ones, the
angles of arrows left out. -/
theorem nesting_eq_count (text : Text) :
    nesting text = text.countP opensBracket - text.countP closesBracket + arrowCount text := by
  rw [nesting, nestingFrom_eq_count, Option.toList_none, List.nil_append, Int.zero_add]

/-! ## A comma in a list -/

/-- The comma between two texts is inside an entry of the list they make up: the last entry of the
first text goes on behind it, and what follows makes up the second text. -/
def IsInsideEntry (left right : Text) : Prop :=
  ∃ front before behind others,
    splitTopLevel left = front ++ [before] ∧
      splitTopLevel (left ++ ',' :: right) = front ++ (before ++ ',' :: behind) :: others ∧
        [','].intercalate (behind :: others) = right

theorem isInsideEntry_of_nesting_ne_zero {left : Text} (h : nesting left ≠ 0) (right : Text) :
    IsInsideEntry left right := by
  obtain ⟨front, before, hleft⟩ := exists_splitTopLevelFrom_eq 0 none left
  -- the comma is passed over, and the rest is read at the depth that it found
  obtain ⟨behind, others, hright⟩ := List.exists_cons_of_ne_nil
    (splitTopLevelFrom_ne_nil (nesting left) (some ',') right)
  have hcomma : splitTopLevelFrom (nesting left) (left.getLast?.or none) (',' :: right) =
      (',' :: behind) :: others := by
    have hstep : nestingStep (left.getLast?.or none) ',' = 0 := by simp [nestingStep]
    rw [splitTopLevelFrom, if_neg (by simpa using h), hstep, Int.add_zero,
      hright, List.modifyHead_cons]
  have hsplit : splitTopLevel (left ++ ',' :: right) =
      front ++ (before ++ ',' :: behind) :: others := by
    rw [splitTopLevel, splitTopLevelFrom_append hleft, ← nesting, hcomma, List.modifyHead_cons]
  exact ⟨front, before, behind, others, hleft, hsplit,
    hright ▸ intercalate_splitTopLevelFrom (nesting left) (some ',') right⟩

/-- A comma inside an entry does not separate. -/
theorem IsInsideEntry.splitTopLevel_ne {left right : Text} (h : IsInsideEntry left right) :
    splitTopLevel (left ++ ',' :: right) ≠ splitTopLevel left ++ splitTopLevel right := by
  obtain ⟨front, before, behind, others, hleft, hsplit, -⟩ := h
  rw [hsplit, hleft, List.append_assoc]
  simp

/-- Joining the entries of a list gives it back.  The depth in front of a comma, counted in
brackets, decides whether the comma separates the list into two or is inside an entry. -/
theorem separates_iff_nesting_eq_zero :
    (∀ list, [','].intercalate (splitTopLevel list) = list) ∧
      (∀ text, nesting text =
        text.countP opensBracket - text.countP closesBracket + arrowCount text) ∧
      ∀ left right,
        (splitTopLevel (left ++ ',' :: right) = splitTopLevel left ++ splitTopLevel right ↔
          nesting left = 0) ∧
        (IsInsideEntry left right ↔ nesting left ≠ 0) := by
  refine ⟨intercalate_splitTopLevelFrom 0 none, nesting_eq_count,
    fun left right => ⟨⟨?_, ?_⟩, ?_, ?_⟩⟩
  · intro hsplit
    by_contra hdepth
    exact (isInsideEntry_of_nesting_ne_zero hdepth right).splitTopLevel_ne hsplit
  · intro hdepth
    exact splitTopLevelFrom_append_comma hdepth right
  · intro hinside hdepth
    exact hinside.splitTopLevel_ne (splitTopLevelFrom_append_comma hdepth right)
  · intro hdepth
    exact isInsideEntry_of_nesting_ne_zero hdepth right

/-- Of four commas one separates: there the brackets are closed, and the arrow has closed none. -/
example : splitTopLevel "Map<K, V[,]> map = a => b(1, 2), int x".toList =
    ["Map<K, V[,]> map = a => b(1, 2)".toList, " int x".toList] := by decide

/-- Behind brackets that were closed and never opened no comma separates. -/
example : splitTopLevel "int a = 1 >> 2, int b".toList = ["int a = 1 >> 2, int b".toList] := by
  decide

end FieldInjection
