import FieldInjection.Brace
import FieldInjection.Proofs.Characters
import FieldInjection.Proofs.Cutting
import Mathlib.Algebra.Order.Group.Int
import Mathlib.Data.List.Basic

/-!
# Blocks and edited lines

A block ends where the running depth comes down to zero for the first time.  The depths depend on
the lines only through their brace deltas, so an edit that keeps the deltas keeps the end of a
block, and lines that never close more than they have opened can be put anywhere before it.

## Main Definitions

* `firstBlockEnd`: the end of a block, where its first line is searched separately.
* `StaysOpen`: a running depth that is positive behind every line.
* `IsClosed`: lines that close exactly what they open, and nothing before.

## Main Statements

* `Snapshot.blockEnd_eq_firstBlockEnd`: the two searches for the end of a block have the rest of
  the way in common, once the block is open.
* `closingLine_eq_some_iff`, `firstBlockEnd_eq_some_iff`: where a block ends.
* `closingLine_insert`, `firstBlockEnd_insert`: lines put right before the end of a block.
* `firstBlockEnd_insert_flat`: a line without braces put anywhere in a block.
-/

namespace FieldInjection

@[simp] theorem totalDelta_nil : totalDelta [] = 0 := rfl

@[simp] theorem totalDelta_cons (line : Text) (lines : List Text) :
    totalDelta (line :: lines) = braceDelta line + totalDelta lines := rfl

@[simp] theorem totalDelta_append (left right : List Text) :
    totalDelta (left ++ right) = totalDelta left + totalDelta right := by
  induction left with
  | nil => rw [List.nil_append, totalDelta_nil, zero_add]
  | cons line left ih => rw [List.cons_append, totalDelta_cons, totalDelta_cons, ih, add_assoc]

/-- Only how each line changes the depth counts. -/
theorem totalDelta_congr {lines lines' : List Text}
    (h : lines'.map braceDelta = lines.map braceDelta) : totalDelta lines' = totalDelta lines := by
  have hfold : ∀ lines, totalDelta lines = (lines.map braceDelta).foldr (· + ·) 0 := by
    intro lines
    rw [totalDelta, List.foldr_map]
  rw [hfold, hfold, h]

/-- The balance of two texts, one behind the other. -/
theorem braceDelta_append (left right : Text) :
    braceDelta (left ++ right) = braceDelta left + braceDelta right := by
  induction left with
  | nil => exact (zero_add _).symm
  | cons c left ih =>
    show braceStep c + braceDelta (left ++ right) = braceStep c + braceDelta left + braceDelta right
    rw [ih, add_assoc]

/-- A text without braces changes no depth. -/
theorem braceDelta_eq_zero {line : Text} (hopen : openBrace ∉ line) (hclose : closeBrace ∉ line) :
    braceDelta line = 0 := by
  induction line with
  | nil => rfl
  | cons c line ih =>
    simp only [List.mem_cons, not_or] at hopen hclose
    have hstep : braceStep c = 0 := by simp [braceStep, Ne.symm hopen.1, Ne.symm hclose.1]
    show braceStep c + braceDelta line = 0
    rw [hstep, ih hopen.2 hclose.2, add_zero]

theorem braceDelta_cons {c : Char} (hopen : c ≠ openBrace) (hclose : c ≠ closeBrace) (text : Text) :
    braceDelta (c :: text) = braceDelta text := by
  rw [← List.singleton_append, braceDelta_append,
    braceDelta_eq_zero (by simpa using hopen.symm) (by simpa using hclose.symm), zero_add]

/-- Blanks have no braces. -/
theorem braceDelta_of_blank {blanks : Text} (h : ∀ c ∈ blanks, isBlank c = true) :
    braceDelta blanks = 0 :=
  braceDelta_eq_zero (Text.not_mem_of_blank h (by decide)) (Text.not_mem_of_blank h (by decide))

/-- Plain texts have no braces. -/
theorem braceDelta_of_plain {text : Text} (h : ∀ c ∈ text, isPlain c = true) :
    braceDelta text = 0 :=
  braceDelta_eq_zero (fun hc => ne_of_isPlain (h _ hc) (by decide) rfl)
    (fun hc => ne_of_isPlain (h _ hc) (by decide) rfl)

/-- The balance of a line does not depend on its outer blanks. -/
theorem braceDelta_trim (text : Text) : braceDelta text.trim = braceDelta text := by
  obtain ⟨left, right, hleft, hright, heq⟩ := Text.exists_blank_append_trim text
  have hsum := congrArg braceDelta heq
  rw [braceDelta_append, braceDelta_append, braceDelta_of_blank hleft,
    braceDelta_of_blank hright] at hsum
  omega

/-! ## Running depths -/

/-- Counted from `depth`, the running depth is positive behind every line. -/
def StaysOpen (depth : Int) : List Text → Prop
  | [] => True
  | line :: rest => 0 < depth + braceDelta line ∧ StaysOpen (depth + braceDelta line) rest

/-- Lines stay open if the first of them do and the others do from the depth that is reached. -/
theorem staysOpen_append {depth : Int} {left right : List Text} :
    StaysOpen depth (left ++ right) ↔
      StaysOpen depth left ∧ StaysOpen (depth + totalDelta left) right := by
  induction left generalizing depth with
  | nil => simp [StaysOpen]
  | cons line left ih => simp [StaysOpen, ih, and_assoc, add_assoc]

/-- Whether lines stay open depends on nothing but their balances. -/
theorem staysOpen_congr {depth : Int} {lines others : List Text}
    (h : others.map braceDelta = lines.map braceDelta) :
    StaysOpen depth others ↔ StaysOpen depth lines := by
  induction lines generalizing depth others with
  | nil =>
    obtain rfl : others = [] := by simpa using h
    rfl
  | cons line lines ih =>
    obtain ⟨other, others, rfl⟩ : ∃ other rest, others = other :: rest := by
      cases others with
      | nil => simp at h
      | cons other rest => exact ⟨other, rest, rfl⟩
    simp only [List.map_cons, List.cons.injEq] at h
    simp [StaysOpen, h.1, ih h.2]

/-- A depth that stays open is positive at the end. -/
theorem StaysOpen.total_pos {depth : Int} {lines : List Text} (hdepth : 0 < depth)
    (h : StaysOpen depth lines) : 0 < depth + totalDelta lines := by
  induction lines generalizing depth with
  | nil => simpa using hdepth
  | cons line lines ih =>
    have hrest := ih h.1 h.2
    rw [totalDelta_cons, ← add_assoc]
    exact hrest

/-- Lines that close exactly what they open, and never more than that. -/
def IsClosed (lines : List Text) : Prop :=
  totalDelta lines = 0 ∧ ∀ depth : Int, 0 < depth → StaysOpen depth lines

theorem isClosed_singleton {line : Text} (h : braceDelta line = 0) : IsClosed [line] :=
  ⟨by simp [h], fun depth hdepth => ⟨by simpa [h] using hdepth, trivial⟩⟩

/-! ## The end of a block -/

/-- The end of the first block that opens on one of the lines, counted from depth zero.  The search
for its first line and that for its end follow each other. -/
def firstBlockEnd (index : Nat) : List Text → Option Nat
  | [] => none
  | line :: rest =>
    let delta := braceDelta line
    if delta = 0 then firstBlockEnd (index + 1) rest
    else if delta < 0 then none
    else closingLine delta (index + 1) rest

/-- Once the block is open, it makes no difference whether a depth of zero or one below zero is
looked for first. -/
theorem matchingLine_of_opened (depth : Int) (index : Nat) (lines : List Text) :
    matchingLine depth true index lines = closingLine depth index lines := by
  induction lines generalizing depth index with
  | nil => rfl
  | cons line lines ih =>
    simp only [matchingLine, closingLine, Bool.true_or, Bool.true_and, decide_eq_true_eq, ih]
    by_cases hzero : depth + braceDelta line = 0
    · rw [if_pos hzero, if_pos hzero, if_neg (by omega)]
    · rw [if_neg hzero, if_neg hzero]

/-- A search from depth zero passes over the lines that change nothing, and is open behind the first
line that opens more than it closes. -/
theorem matchingLine_zero (index : Nat) (lines : List Text) :
    matchingLine 0 false index lines = firstBlockEnd index lines := by
  induction lines generalizing index with
  | nil => rfl
  | cons line lines ih =>
    simp only [matchingLine, firstBlockEnd, zero_add, Bool.false_or]
    rcases lt_trichotomy (braceDelta line) 0 with hneg | hzero | hpos
    · rw [if_pos hneg, if_neg hneg.ne, if_pos hneg]
    · simp [hzero, ih]
    · rw [if_neg (by omega), if_neg (by simp; omega), if_neg (by omega), if_neg (by omega),
        decide_eq_true hpos, matchingLine_of_opened]

theorem Snapshot.blockEnd_eq_firstBlockEnd (snapshot : Snapshot) (start : Nat) :
    snapshot.blockEnd start = firstBlockEnd start (snapshot.lines.drop start) :=
  matchingLine_zero start _

/-- Lines that stay open are passed over on the way to the closing one. -/
theorem closingLine_append_of_staysOpen {depth : Int} {index : Nat} {front rest : List Text}
    (h : StaysOpen depth front) :
    closingLine depth index (front ++ rest) =
      closingLine (depth + totalDelta front) (index + front.length) rest := by
  induction front generalizing depth index with
  | nil => simp
  | cons line front ih =>
    have hpos : 0 < depth + braceDelta line := h.1
    rw [List.cons_append, closingLine, if_neg (by omega), if_neg (by omega), ih h.2,
      totalDelta_cons, List.length_cons, ← add_assoc]
    congr 1
    omega

/-- The depth comes down to zero on the line that closes it, and is positive before. -/
theorem closingLine_eq_some_iff {depth : Int} {index stop : Nat} {lines : List Text} :
    closingLine depth index lines = some stop ↔
      ∃ front close after, lines = front ++ close :: after ∧ StaysOpen depth front ∧
        depth + totalDelta front + braceDelta close = 0 ∧ stop = index + front.length := by
  constructor
  · intro h
    induction lines generalizing depth index with
    | nil => simp [closingLine] at h
    | cons line lines ih =>
      simp only [closingLine] at h
      split at h
      · next hzero =>
        exact ⟨[], line, lines, rfl, trivial, by simpa using hzero, by simpa using h.symm⟩
      · next hzero =>
        split at h
        · simp at h
        · next hneg =>
          obtain ⟨front, close, after, rfl, hopen, hclose, rfl⟩ := ih h
          refine ⟨line :: front, close, after, rfl, ⟨by omega, hopen⟩, ?_, ?_⟩
          · rw [totalDelta_cons, ← add_assoc]
            exact hclose
          · rw [List.length_cons]
            omega
  · rintro ⟨front, close, after, rfl, hopen, hclose, rfl⟩
    rw [closingLine_append_of_staysOpen hopen, closingLine, if_pos hclose]

/-- A block begins on the first line that opens more braces than it closes, where no line before it
changes the depth. -/
theorem firstBlockEnd_eq_some_iff {index stop : Nat} {lines : List Text} :
    firstBlockEnd index lines = some stop ↔
      ∃ flat opening inner close after, lines = flat ++ opening :: (inner ++ close :: after) ∧
        (∀ line ∈ flat, braceDelta line = 0) ∧ 0 < braceDelta opening ∧
        StaysOpen (braceDelta opening) inner ∧
        braceDelta opening + totalDelta inner + braceDelta close = 0 ∧
        stop = index + flat.length + 1 + inner.length := by
  constructor
  · intro h
    induction lines generalizing index with
    | nil => simp [firstBlockEnd] at h
    | cons line lines ih =>
      simp only [firstBlockEnd] at h
      split at h
      · next hzero =>
        obtain ⟨flat, opening, inner, close, after, rfl, hflat, hpos, hopen, hclose, rfl⟩ := ih h
        refine ⟨line :: flat, opening, inner, close, after, rfl, ?_, hpos, hopen, hclose, ?_⟩
        · simpa [hzero] using hflat
        · rw [List.length_cons]
          omega
      · next hzero =>
        split at h
        · simp at h
        · next hneg =>
          obtain ⟨inner, close, after, rfl, hopen, hclose, rfl⟩ := closingLine_eq_some_iff.mp h
          exact ⟨[], line, inner, close, after, rfl, by simp, by omega, hopen, hclose, by simp⟩
  · rintro ⟨flat, opening, inner, close, after, rfl, hflat, hpos, hopen, hclose, rfl⟩
    induction flat generalizing index with
    | nil =>
      rw [List.nil_append, firstBlockEnd]
      simp only [if_neg (by omega : ¬ braceDelta opening = 0),
        if_neg (by omega : ¬ braceDelta opening < 0)]
      exact closingLine_eq_some_iff.mpr ⟨inner, close, after, rfl, hopen, hclose, by simp⟩
    | cons line flat ih =>
      have hrest : ∀ other ∈ flat, braceDelta other = 0 := fun other hother =>
        hflat other (by simp [hother])
      rw [List.cons_append, firstBlockEnd, if_pos (hflat line (by simp)), ih hrest,
        List.length_cons]
      congr 1
      omega

/-! ## Lines with nothing but an opening brace -/

/-- An indented brace makes up an opening line. -/
theorem isOpeningLine_blank_append {blanks : Text} (h : ∀ c ∈ blanks, isBlank c = true) :
    Snapshot.isOpeningLine (blanks ++ [openBrace]) = true := by
  rw [Snapshot.isOpeningLine, Text.trim_blank_append h]
  decide

/-- An opening line goes one level down. -/
theorem braceDelta_of_isOpeningLine {line : Text} (h : Snapshot.isOpeningLine line = true) :
    braceDelta line = 1 := by
  rw [← braceDelta_trim, eq_of_beq h]
  rfl

theorem isAllBlank_of_isOpeningLine {line : Text} (h : Snapshot.isOpeningLine line = true) :
    line.isAllBlank = false := by
  refine Text.isAllBlank_append_of_mem (Text.mem_of_mem_trim (c := openBrace) ?_) (by decide)
  rw [eq_of_beq h]
  exact List.mem_singleton_self _

/-- From such a line, the search for the end of the block starts right behind it. -/
theorem enclosingBlockEnd_of_isOpeningLine {snapshot : Snapshot} {start : Nat} {line : Text}
    (hline : snapshot.lines[start]? = some line) (hopening : Snapshot.isOpeningLine line = true) :
    snapshot.enclosingBlockEnd start =
      closingLine 1 (start + 1) (snapshot.lines.drop (start + 1)) := by
  have hsize : start < snapshot.size := (List.getElem?_eq_some_iff.mp hline).1
  have hany : (snapshot.lines.take (start + 1)).any Snapshot.isOpeningLine = true :=
    List.any_eq_true.mpr ⟨line, List.mem_of_getElem?
      ((List.getElem?_take_of_lt (Nat.lt_succ_self _)).trans hline), hopening⟩
  rw [Snapshot.enclosingBlockEnd, if_pos (by simp [hsize, hany])]

/-! ## Blocks in edited documents -/

/-- Closed lines before the end of a block, and lines with the same braces around them, move its end
by what was put in. -/
theorem closingLine_insert {depth : Int} {index : Nat} {front front' added after after' : List Text}
    {close close' : Text} (hdepth : 0 < depth)
    (h : closingLine depth index (front ++ close :: after) = some (index + front.length))
    (hfront : front'.map braceDelta = front.map braceDelta) (hadded : IsClosed added)
    (hclose : braceDelta close' = braceDelta close) :
    closingLine depth index (front' ++ (added ++ close' :: after')) =
      some (index + front.length + added.length) := by
  obtain ⟨front₀, close₀, after₀, hlines, hopen, hzero, hstop⟩ := closingLine_eq_some_iff.mp h
  obtain ⟨rfl, heq⟩ := List.append_inj hlines (by omega)
  obtain rfl := (List.cons.inj heq).1
  have htotal : totalDelta front' = totalDelta front := totalDelta_congr hfront
  have hlength : front'.length = front.length := by simpa using congrArg List.length hfront
  have hopen' : StaysOpen depth front' := (staysOpen_congr hfront).mpr hopen
  refine closingLine_eq_some_iff.mpr ⟨front' ++ added, close', after', by simp, ?_, ?_, ?_⟩
  · exact staysOpen_append.mpr ⟨hopen', hadded.2 _ (hopen'.total_pos hdepth)⟩
  · rw [totalDelta_append, hadded.1, htotal, hclose]
    omega
  · rw [List.length_append]
    omega

/-- The lines of a block, its last one apart. -/
theorem exists_of_firstBlockEnd {index stop : Nat} {lines : List Text}
    (h : firstBlockEnd index lines = some stop) :
    ∃ front close after, lines = front ++ close :: after ∧ stop = index + front.length ∧
      front ≠ [] := by
  obtain ⟨flat, opening, inner, close, after, rfl, -, -, -, -, rfl⟩ :=
    firstBlockEnd_eq_some_iff.mp h
  refine ⟨flat ++ opening :: inner, close, after, by simp, ?_, by simp⟩
  rw [List.length_append, List.length_cons]
  omega

/-- The block, taken apart at the line that closes it. -/
theorem exists_of_blockEnd {snapshot : Snapshot} {start stop : Nat}
    (h : snapshot.blockEnd start = some stop) :
    ∃ front close after, snapshot.lines.drop start = front ++ close :: after ∧
      stop = start + front.length ∧ front ≠ [] :=
  exists_of_firstBlockEnd ((snapshot.blockEnd_eq_firstBlockEnd start).symm.trans h)

/-- A block ends on a line of the document. -/
theorem lt_size_of_blockEnd {snapshot : Snapshot} {start stop : Nat}
    (h : snapshot.blockEnd start = some stop) : stop < snapshot.size := by
  obtain ⟨front, close, after, hsplit, hstop, -⟩ := exists_of_blockEnd h
  have hlength := congrArg List.length hsplit
  simp only [List.length_drop, List.length_append, List.length_cons] at hlength
  rw [Snapshot.size]
  omega

/-- The same for a block whose first line is still to be found. -/
theorem firstBlockEnd_insert {index : Nat} {front front' added after after' : List Text}
    {close close' : Text}
    (h : firstBlockEnd index (front ++ close :: after) = some (index + front.length))
    (hfront : front'.map braceDelta = front.map braceDelta) (hadded : IsClosed added)
    (hclose : braceDelta close' = braceDelta close) :
    firstBlockEnd index (front' ++ (added ++ close' :: after')) =
      some (index + front.length + added.length) := by
  obtain ⟨flat, opening, inner, close₀, after₀, hlines, hflat, hpos, hopen, hzero, hstop⟩ :=
    firstBlockEnd_eq_some_iff.mp h
  have hsplit : front = flat ++ opening :: inner ∧ close = close₀ := by
    have hlines' : front ++ close :: after = (flat ++ opening :: inner) ++ close₀ :: after₀ := by
      simpa using hlines
    have hinj := List.append_inj hlines' (by simp; omega)
    exact ⟨hinj.1, (List.cons.inj hinj.2).1⟩
  obtain ⟨rfl, rfl⟩ := hsplit
  -- the edited lines have a first part, an opening line and an inner part of the same braces
  obtain ⟨flat', tail', rfl, hflat', htail'⟩ := List.map_eq_append_iff.mp
    (hfront.trans (List.map_append ..))
  obtain ⟨opening', inner', rfl, hopening', hinner'⟩ := List.map_eq_cons_iff.mp
    (htail'.trans (List.map_cons ..))
  have hzero' : ∀ line ∈ flat', braceDelta line = 0 := by
    intro line hline
    have hmem : braceDelta line ∈ flat.map braceDelta := hflat' ▸ List.mem_map_of_mem hline
    obtain ⟨other, hother, heq⟩ := List.mem_map.mp hmem
    rw [← heq, hflat other hother]
  have hlength : flat'.length = flat.length := by simpa using congrArg List.length hflat'
  have hlast : closingLine (braceDelta opening') (index + flat'.length + 1)
      (inner' ++ (added ++ close' :: after')) =
        some (index + flat'.length + 1 + inner.length + added.length) :=
    closingLine_insert (hopening' ▸ hpos) (closingLine_eq_some_iff.mpr
      ⟨inner, close, after, rfl, hopening' ▸ hopen, hopening' ▸ hzero, rfl⟩) hinner' hadded hclose
  obtain ⟨inner'', close'', after'', heq, hopen'', hzero'', hstop''⟩ :=
    closingLine_eq_some_iff.mp hlast
  refine firstBlockEnd_eq_some_iff.mpr ⟨flat', opening', inner'', close'', after'',
    by rw [List.append_assoc, List.cons_append, heq], hzero', hopening' ▸ hpos,
    hopen'', hzero'', ?_⟩
  rw [List.length_append, List.length_cons]
  omega

/-! ## One more line somewhere in a block -/

/-- Where lines close depends on nothing but their balances. -/
theorem closingLine_congr {depth : Int} {index : Nat} {lines others : List Text}
    (h : others.map braceDelta = lines.map braceDelta) :
    closingLine depth index others = closingLine depth index lines := by
  induction lines generalizing depth index others with
  | nil =>
    obtain rfl : others = [] := by simpa using h
    rfl
  | cons line lines ih =>
    obtain ⟨other, others, rfl, hfirst, hrest⟩ := List.map_eq_cons_iff.mp h
    simp only [closingLine, hfirst, ih hrest]

/-- Counting from the next number gives the next number. -/
theorem closingLine_succ {depth : Int} {index : Nat} {lines : List Text} :
    closingLine depth (index + 1) lines = (closingLine depth index lines).map (· + 1) := by
  induction lines generalizing depth index with
  | nil => rfl
  | cons line lines ih =>
    simp only [closingLine, ih]
    split
    · rfl
    · split <;> rfl

/-- A line without braces that is put before the end of a block moves the end by one. -/
theorem closingLine_insert_flat {depth : Int} {index stop : Nat} {left right : List Text}
    {line : Text} (hdepth : 0 < depth) (hline : braceDelta line = 0)
    (h : closingLine depth index (left ++ right) = some stop) (hle : index + left.length ≤ stop) :
    closingLine depth index (left ++ line :: right) = some (stop + 1) := by
  induction left generalizing depth index with
  | nil =>
    rw [List.nil_append] at h
    rw [List.nil_append, closingLine, hline, add_zero, if_neg (by omega), if_neg (by omega),
      closingLine_succ, h]
    rfl
  | cons first left ih =>
    simp only [List.cons_append, closingLine] at h ⊢
    rw [List.length_cons] at hle
    split at h
    · obtain rfl := Option.some.inj h
      omega
    · split at h
      · simp at h
      · next hzero hneg =>
        rw [if_neg hzero, if_neg hneg]
        exact ih (by omega) h (by omega)

/-- Where a block ends depends on nothing but the balances of its lines. -/
theorem firstBlockEnd_congr {index : Nat} {lines others : List Text}
    (h : others.map braceDelta = lines.map braceDelta) :
    firstBlockEnd index others = firstBlockEnd index lines := by
  induction lines generalizing index others with
  | nil =>
    obtain rfl : others = [] := by simpa using h
    rfl
  | cons line lines ih =>
    obtain ⟨other, others, rfl, hfirst, hrest⟩ := List.map_eq_cons_iff.mp h
    simp only [firstBlockEnd, hfirst, ih hrest, closingLine_congr hrest]

/-- Counting from the next number gives the next number for the end of a block too. -/
theorem firstBlockEnd_succ {index : Nat} {lines : List Text} :
    firstBlockEnd (index + 1) lines = (firstBlockEnd index lines).map (· + 1) := by
  induction lines generalizing index with
  | nil => rfl
  | cons line lines ih =>
    simp only [firstBlockEnd, ih, closingLine_succ]
    split
    · rfl
    · split <;> rfl

/-- The same for a block whose first line is still to be found, and for lines with other texts but
the same braces. -/
theorem firstBlockEnd_insert_flat {index stop : Nat} {left left' right right' : List Text}
    {line : Text} (hline : braceDelta line = 0)
    (h : firstBlockEnd index (left ++ right) = some stop) (hle : index + left.length ≤ stop)
    (hleft : left'.map braceDelta = left.map braceDelta)
    (hright : right'.map braceDelta = right.map braceDelta) :
    firstBlockEnd index (left' ++ line :: right') = some (stop + 1) := by
  have hsame : (left' ++ line :: right').map braceDelta =
      (left ++ line :: right).map braceDelta := by
    simp [hleft, hright]
  rw [firstBlockEnd_congr hsame]
  clear hsame hleft hright
  induction left generalizing index with
  | nil =>
    rw [List.nil_append] at h
    rw [List.nil_append, firstBlockEnd, hline, if_pos rfl, firstBlockEnd_succ, h]
    rfl
  | cons first left ih =>
    simp only [List.cons_append, firstBlockEnd] at h ⊢
    rw [List.length_cons] at hle
    split at h
    · next hzero =>
      rw [if_pos hzero]
      exact ih h (by omega)
    · split at h
      · simp at h
      · next hzero hneg =>
        rw [if_neg hzero, if_neg hneg]
        exact closingLine_insert_flat (by omega) hline h (by omega)

end FieldInjection
