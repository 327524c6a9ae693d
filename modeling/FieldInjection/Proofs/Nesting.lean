import FieldInjection.Proofs.Blocks

/-!
# Searches that begin inside a block

The two searches for the end of a block go on to the end of the document if they have to.  Begun
inside a larger block they never have to: their depth is counted from the line where they begin, the
depth of the larger block from further up, so theirs is never the greater one and has come down to
zero, or below it, by the time the larger block ends.

Three facts carry this.

* **A block is seen from each of its lines** (`blockEnd_or_closingLine`).  It either still has to
  open there, or it is open at some depth; in both cases the search from there finds the same end.
* **A lower depth decides earlier** (`closingLine_append_of_le`,
  `firstBlockEnd_append_of_closingLine`).
* **What is behind the end is not looked at** (`blockEnd_of_take_eq`,
  `enclosingBlockEnd_of_take_eq`): two documents with the same lines up to the end of a block have
  the same blocks inside it.
-/

namespace FieldInjection

/-! ## A lower depth decides earlier -/

/-- A search that is not deeper than a block decides no later than where the block closes, so
nothing behind the closing line matters to it. -/
theorem closingLine_append_of_le {lower depth : Int} {index : Nat} {front : List Text}
    {close : Text} (hle : lower ≤ depth) (hopen : StaysOpen depth front)
    (hclose : depth + totalDelta front + braceDelta close = 0) (after : List Text) :
    closingLine lower index (front ++ close :: after) =
      closingLine lower index (front ++ [close]) := by
  induction front generalizing lower depth index with
  | nil =>
    -- the block closes here, so the lower depth is zero or below it
    rw [totalDelta_nil, add_zero] at hclose
    simp only [List.nil_append, closingLine]
    split
    · rfl
    · rw [if_pos (by omega), if_pos (by omega)]
  | cons line front ih =>
    have hrest : depth + braceDelta line + totalDelta front + braceDelta close = 0 := by
      rw [totalDelta_cons] at hclose
      omega
    have hlower : lower + braceDelta line ≤ depth + braceDelta line := by omega
    simp only [List.cons_append, closingLine, ih hlower hopen.2 hrest]

/-- The same for a search whose block has still to open. -/
theorem firstBlockEnd_append_of_closingLine {depth : Int} {index : Nat} {front : List Text}
    {close : Text} (hdepth : 0 < depth) (hopen : StaysOpen depth front)
    (hclose : depth + totalDelta front + braceDelta close = 0) (after : List Text) :
    firstBlockEnd index (front ++ close :: after) = firstBlockEnd index (front ++ [close]) := by
  induction front generalizing depth index with
  | nil =>
    have hneg : braceDelta close < 0 := by
      rw [totalDelta_nil] at hclose
      omega
    simp only [List.nil_append, firstBlockEnd, if_neg (by omega : ¬ braceDelta close = 0),
      if_pos hneg]
  | cons line front ih =>
    have hrest : depth + braceDelta line + totalDelta front + braceDelta close = 0 := by
      rw [totalDelta_cons] at hclose
      omega
    have hlower : braceDelta line ≤ depth + braceDelta line := by omega
    simp only [List.cons_append, firstBlockEnd, ih hopen.1 hopen.2 hrest,
      closingLine_append_of_le hlower hopen.2 hrest after]

/-! ## A block is seen from each of its lines -/

/-- A line that does not close its block leaves it open behind itself. -/
theorem closingLine_of_cons {depth : Int} {index stop : Nat} {line : Text} {rest : List Text}
    (h : closingLine depth index (line :: rest) = some stop) (hlt : index < stop) :
    0 < depth + braceDelta line ∧
      closingLine (depth + braceDelta line) (index + 1) rest = some stop := by
  simp only [closingLine] at h
  split at h
  · obtain rfl := Option.some.inj h
    omega
  · split at h
    · simp at h
    · exact ⟨by omega, h⟩

/-- From each of its lines, a block is one that has still to open or one that is open at some
depth. -/
theorem blockEnd_or_closingLine {snapshot : Snapshot} {start stop line : Nat}
    (h : snapshot.blockEnd start = some stop) (hstart : start ≤ line) (hline : line ≤ stop) :
    snapshot.blockEnd line = some stop ∨
      ∃ depth, 0 < depth ∧ closingLine depth line (snapshot.lines.drop line) = some stop := by
  -- going down the block: before its first brace it has still to open, behind it the depth is
  -- positive
  induction line, hstart using Nat.le_induction with
  | base => exact Or.inl h
  | succ line hstart ih =>
    have hsize : line < snapshot.lines.length :=
      Nat.lt_of_lt_of_le hline (Nat.le_of_lt (lt_size_of_blockEnd h))
    have hdrop := List.drop_eq_getElem_cons hsize
    rcases ih (Nat.le_of_succ_le hline) with hbefore | ⟨depth, -, hbefore⟩
    · rw [Snapshot.blockEnd_eq_firstBlockEnd, hdrop] at hbefore
      simp only [firstBlockEnd] at hbefore
      split at hbefore
      · exact Or.inl ((snapshot.blockEnd_eq_firstBlockEnd _).trans hbefore)
      · split at hbefore
        · simp at hbefore
        · exact Or.inr ⟨_, by omega, hbefore⟩
    · rw [hdrop] at hbefore
      exact Or.inr ⟨_, closingLine_of_cons hbefore hline⟩

/-- Behind a line that opens more than it closes, the block around it is open, and at least as deep
as what that line has opened. -/
theorem exists_closingLine_behind {snapshot : Snapshot} {start stop line : Nat} {text : Text}
    (h : snapshot.blockEnd start = some stop) (hstart : start ≤ line) (hline : line < stop)
    (htext : snapshot.lines[line]? = some text) (hopens : 0 < braceDelta text) :
    ∃ depth, braceDelta text ≤ depth ∧
      closingLine depth (line + 1) (snapshot.lines.drop (line + 1)) = some stop := by
  obtain ⟨hsize, rfl⟩ := List.getElem?_eq_some_iff.mp htext
  have hdrop := List.drop_eq_getElem_cons hsize
  rcases blockEnd_or_closingLine h hstart (Nat.le_of_lt hline) with hhere | ⟨depth, hdepth, hhere⟩
  · rw [Snapshot.blockEnd_eq_firstBlockEnd, hdrop] at hhere
    simp only [firstBlockEnd, if_neg (by omega : ¬ braceDelta snapshot.lines[line] = 0),
      if_neg (by omega : ¬ braceDelta snapshot.lines[line] < 0)] at hhere
    exact ⟨_, le_rfl, hhere⟩
  · rw [hdrop] at hhere
    exact ⟨_, by omega, (closingLine_of_cons hhere hline).2⟩

/-! ## What is behind the end is not looked at -/

section Prefix

variable {snapshot other : Snapshot} {start stop line : Nat}
    (hlines : other.lines.take (stop + 1) = snapshot.lines.take (stop + 1))

include hlines

/-- The lines of the other document from a line of the block on, cut where the block closes. -/
theorem exists_drop_of_take_eq {front after : List Text} {close : Text}
    (hdrop : snapshot.lines.drop line = front ++ close :: after)
    (hstop : stop = line + front.length) :
    ∃ after', other.lines.drop line = front ++ close :: after' := by
  have hcount : stop + 1 = line + (front.length + 1) := by omega
  have hsame : (other.lines.drop line).take (front.length + 1) = front ++ [close] := by
    have h := congrArg (List.drop line) hlines
    rw [hcount, List.drop_take, List.drop_take, Nat.add_sub_cancel_left, hdrop,
      List.append_cons] at h
    rw [h]
    exact List.take_left' (by simp)
  refine ⟨(other.lines.drop line).drop (front.length + 1), ?_⟩
  rw [List.append_cons, ← hsame, List.take_append_drop]

/-- Inside a block, blocks end where they end whatever is behind it. -/
theorem blockEnd_of_take_eq (h : snapshot.blockEnd start = some stop) (hstart : start ≤ line)
    (hline : line ≤ stop) : other.blockEnd line = snapshot.blockEnd line := by
  -- the search finds the outer block itself, or it is not as deep and decides before that one ends
  rcases blockEnd_or_closingLine h hstart hline with hhere | ⟨depth, hdepth, hhere⟩
  · obtain ⟨flat, opening, inner, close, after, hdrop, hflat, hpos, hopen, hclose, hstop⟩ :=
      firstBlockEnd_eq_some_iff.mp ((snapshot.blockEnd_eq_firstBlockEnd _).symm.trans hhere)
    have hcut : snapshot.lines.drop line = (flat ++ opening :: inner) ++ close :: after := by
      simp [hdrop]
    obtain ⟨after', hother⟩ := exists_drop_of_take_eq hlines hcut (by simp; omega)
    rw [hhere, Snapshot.blockEnd_eq_firstBlockEnd]
    exact firstBlockEnd_eq_some_iff.mpr
      ⟨flat, opening, inner, close, after', by simp [hother], hflat, hpos, hopen, hclose, hstop⟩
  · obtain ⟨front, close, after, hdrop, hopen, hclose, hstop⟩ := closingLine_eq_some_iff.mp hhere
    obtain ⟨after', hother⟩ := exists_drop_of_take_eq hlines hdrop hstop
    rw [Snapshot.blockEnd_eq_firstBlockEnd, Snapshot.blockEnd_eq_firstBlockEnd, hother, hdrop,
      firstBlockEnd_append_of_closingLine hdepth hopen hclose after',
      firstBlockEnd_append_of_closingLine hdepth hopen hclose after]

/-- The same for the block around a line that is an opening brace. -/
theorem enclosingBlockEnd_of_take_eq {text : Text} (h : snapshot.blockEnd start = some stop)
    (hstart : start ≤ line) (hline : line < stop) (htext : snapshot.lines[line]? = some text)
    (hopening : Snapshot.isOpeningLine text = true) :
    other.enclosingBlockEnd line = snapshot.enclosingBlockEnd line := by
  have hdelta := braceDelta_of_isOpeningLine hopening
  obtain ⟨depth, hle, hhere⟩ := exists_closingLine_behind h hstart hline htext (by omega)
  obtain ⟨front, close, after, hdrop, hopen, hclose, hstop⟩ := closingLine_eq_some_iff.mp hhere
  obtain ⟨after', hother⟩ := exists_drop_of_take_eq hlines hdrop hstop
  have htext' : other.lines[line]? = some text := by
    rw [← List.getElem?_take_of_lt (Nat.lt_succ_of_lt hline), hlines,
      List.getElem?_take_of_lt (Nat.lt_succ_of_lt hline), htext]
  rw [enclosingBlockEnd_of_isOpeningLine htext hopening,
    enclosingBlockEnd_of_isOpeningLine htext' hopening, hother, hdrop,
    closingLine_append_of_le (by omega) hopen hclose after',
    closingLine_append_of_le (by omega) hopen hclose after]

end Prefix

end FieldInjection
