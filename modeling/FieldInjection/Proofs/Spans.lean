import FieldInjection.Proofs.Locations

/-!
# The depths of a class body

The end of a block is searched from a line on, and the block begins on the first line that opens
more braces than it closes.  Lines before that one which open and close alike are part of what is
found all the same.  The search for a class body starts on the first line with an opening brace, so
a class that opens and closes on that line is passed over, and the next block is taken for its body,
whatever class it belongs to.

Three facts carry this module.

* **A block is given by its running depths** (`blockEnd_eq_some_iff`): zero before the line that
  opens it, positive from there on, and zero again on the line that closes it.
* **A block that opens on its first line has no line in front** (`blockEnd_eq_some_iff_of_pos`).
  There the search that takes the opening brace for granted finds the same end
  (`enclosingBlockEnd_eq_blockEnd`).
* **Only the first line decides** (`isBalanced_iff_of_findClassSpan`).  A class body is open behind
  each of its lines exactly when its first line opens more than it closes.

## Main Definitions

* `OpensOn`: the running depths of a block.
* `ClassSpan.IsBalanced`: a body whose braces balance on its last line and on no line before it.

## Main Statements

* `balance_eq_add`: the balance of a range from those of its parts.
* `blockEnd_eq_some_iff`: the end of a block by running depths.
* `blockEnds_of_openingLine`: both searches for the end of a block agree behind a brace on its own
  line.
* `isBalanced_iff_of_findClassSpan`: which of the bodies that are found are balanced.
-/

namespace FieldInjection

/-! ## Balances of ranges -/

section Balance

variable {snapshot : Snapshot} {start middle stop : Nat}

/-- The balance of a range is the sum of those of its two parts. -/
theorem balance_eq_add (hstart : start ≤ middle) (hstop : middle < stop) :
    snapshot.balance start stop = snapshot.balance start middle + snapshot.balance
      (middle + 1) stop := by
  have hcount : stop - start + 1 = (middle - start + 1) + (stop - (middle + 1) + 1) := by omega
  have hdrop : (snapshot.lines.drop start).drop (middle - start + 1) =
      snapshot.lines.drop (middle + 1) := by
    rw [List.drop_drop]
    congr 1
    omega
  rw [Snapshot.balance, hcount, List.take_add, hdrop, totalDelta_append]
  rfl

theorem balance_self {line : Text} (h : snapshot.lines[start]? = some line) :
    snapshot.balance start start = braceDelta line := by
  obtain ⟨hsize, rfl⟩ := List.getElem?_eq_some_iff.mp h
  rw [Snapshot.balance, Nat.sub_self, List.drop_eq_getElem_cons hsize, List.take_succ_cons,
    List.take_zero, totalDelta_cons, totalDelta_nil, add_zero]

end Balance

/-! ## Running depths of a block -/

/-- The running depths of a block that is searched from line `start` on: nothing is open before line
`first`, something is open from there on, and line `stop` closes the last of it. -/
structure OpensOn (snapshot : Snapshot) (start stop first : Nat) : Prop where
  /-- The block does not begin before the search. -/
  start_le : start ≤ first
  /-- It begins before it ends. -/
  first_lt : first < stop
  /-- It ends in the document. -/
  lt_size : stop < snapshot.size
  /-- Nothing is open before it begins. -/
  flat : ∀ line, start ≤ line → line < first → snapshot.balance start line = 0
  /-- Something is open as long as it has not ended. -/
  opened : ∀ line, first ≤ line → line < stop → 0 < snapshot.balance start line
  /-- Nothing is open where it ends. -/
  closed : snapshot.balance start stop = 0

/-- A depth stays open when it is positive behind each of the lines. -/
theorem staysOpen_iff {depth : Int} {lines : List Text} :
    StaysOpen depth lines ↔
      ∀ count < lines.length, 0 < depth + totalDelta (lines.take (count + 1)) := by
  induction lines generalizing depth with
  | nil => simp [StaysOpen]
  | cons line lines ih =>
    rw [StaysOpen, ih]
    constructor
    · rintro ⟨hfirst, hrest⟩ count hcount
      cases count with
      | zero => simpa using hfirst
      | succ count =>
        have hpos := hrest count (by simpa using hcount)
        rw [List.take_succ_cons, totalDelta_cons, ← add_assoc]
        exact hpos
    · intro hall
      refine ⟨by simpa using hall 0 (by simp), fun count hcount => ?_⟩
      have hpos := hall (count + 1) (by simpa using hcount)
      rwa [List.take_succ_cons, totalDelta_cons, ← add_assoc] at hpos

theorem totalDelta_eq_zero {lines : List Text} (h : ∀ line ∈ lines, braceDelta line = 0) :
    totalDelta lines = 0 := by
  induction lines with
  | nil => rfl
  | cons line lines ih =>
    rw [totalDelta_cons, h line (by simp), ih fun other hother => h other (by simp [hother]),
      zero_add]

/-- The depths of a block that was found. -/
theorem exists_opensOn_of_blockEnd {snapshot : Snapshot} {start stop : Nat}
    (h : snapshot.blockEnd start = some stop) : ∃ first, OpensOn snapshot start stop first := by
  obtain ⟨flat, opening, inner, close, after, hdrop, hflat, hpos, hopen, hclose, hstop⟩ :=
    firstBlockEnd_eq_some_iff.mp ((snapshot.blockEnd_eq_firstBlockEnd start).symm.trans h)
  have hbefore : totalDelta flat = 0 := totalDelta_eq_zero hflat
  have hbalance : ∀ count, snapshot.balance start (start + count) =
      totalDelta ((flat ++ opening :: (inner ++ close :: after)).take (count + 1)) := by
    intro count
    rw [Snapshot.balance, hdrop, Nat.add_sub_cancel_left]
  refine ⟨start + flat.length, by omega, by omega, lt_size_of_blockEnd h, ?_, ?_, ?_⟩
  · intro line hstart hline
    obtain ⟨count, rfl⟩ := Nat.exists_eq_add_of_le hstart
    rw [hbalance, List.take_append_of_le_length (by omega)]
    exact totalDelta_eq_zero fun other hother => hflat other (List.mem_of_mem_take hother)
  · intro line hfirst hline
    obtain ⟨count, rfl⟩ := Nat.exists_eq_add_of_le hfirst
    -- from the opening line on, the depth is what that line and the part behind it have opened
    have htake : (opening :: (inner ++ close :: after)).take (count + 1) =
        opening :: inner.take count := by
      rw [List.take_succ_cons, List.take_append_of_le_length (by omega)]
    have hcut : StaysOpen (braceDelta opening) (inner.take count) := by
      have hboth := hopen
      rw [← List.take_append_drop count inner] at hboth
      exact (staysOpen_append.mp hboth).1
    rw [Nat.add_assoc, hbalance, Nat.add_assoc, List.take_length_add_append, totalDelta_append,
      hbefore, htake, totalDelta_cons, zero_add]
    exact hcut.total_pos hpos
  · have hcount : stop = start + (flat.length + 1 + inner.length) := by omega
    have hall : (flat ++ opening :: (inner ++ close :: after)).take
        (flat.length + 1 + inner.length + 1) =
        flat ++ opening :: (inner ++ [close]) := by
      have hsplit : flat ++ opening :: (inner ++ close :: after) =
          (flat ++ opening :: (inner ++ [close])) ++ after := by simp
      rw [hsplit]
      exact List.take_left' (by simp; omega)
    rw [hcount, hbalance, hall, totalDelta_append, hbefore, totalDelta_cons, totalDelta_append,
      totalDelta_cons, totalDelta_nil]
    omega

/-- Counted from a line on, the depth of a block comes down to zero where its balance makes up for
what was open before. -/
theorem closingLine_of_balance {snapshot : Snapshot} {depth : Int} {line stop : Nat}
    (hline : line ≤ stop) (hsize : stop < snapshot.size)
    (hopen : ∀ other, line ≤ other → other < stop → 0 < depth + snapshot.balance line other)
    (hclose : depth + snapshot.balance line stop = 0) :
    closingLine depth line (snapshot.lines.drop line) = some stop := by
  obtain ⟨count, rfl⟩ := Nat.exists_eq_add_of_le hline
  have hlength : count < (snapshot.lines.drop line).length := by
    rw [List.length_drop]
    have hbound : line + count < snapshot.lines.length := hsize
    omega
  have hbalance : ∀ other, snapshot.balance line (line + other) =
      totalDelta ((snapshot.lines.drop line).take (other + 1)) := by
    intro other
    rw [Snapshot.balance, Nat.add_sub_cancel_left]
  refine closingLine_eq_some_iff.mpr ⟨(snapshot.lines.drop line).take count,
    (snapshot.lines.drop line)[count], (snapshot.lines.drop line).drop (count + 1), ?_, ?_, ?_, ?_⟩
  · rw [← List.drop_eq_getElem_cons hlength, List.take_append_drop]
  · refine staysOpen_iff.mpr fun other hother => ?_
    rw [List.length_take, Nat.min_eq_left (Nat.le_of_lt hlength)] at hother
    rw [List.take_take, Nat.min_eq_left hother, ← hbalance]
    exact hopen (line + other) (by omega) (by omega)
  · rw [hbalance, ← List.take_append_getElem hlength, totalDelta_append, totalDelta_cons,
      totalDelta_nil, add_zero] at hclose
    rw [add_assoc]
    exact hclose
  · rw [List.length_take, Nat.min_eq_left (Nat.le_of_lt hlength)]

namespace OpensOn

variable {snapshot : Snapshot} {start stop first line : Nat} (h : OpensOn snapshot start stop first)

include h

/-- As long as nothing is open, it does not matter from where the depth is counted. -/
theorem balance_eq (hstart : start ≤ line) (hline : line ≤ first) {other : Nat}
    (hother : line ≤ other) :
    snapshot.balance line other = snapshot.balance start other := by
  rcases Nat.eq_or_lt_of_le hstart with rfl | hlt
  · rfl
  · obtain ⟨before, rfl⟩ : ∃ before, line = before + 1 := ⟨line - 1, by omega⟩
    have hzero := h.flat before (by omega) (by omega)
    rw [balance_eq_add (by omega : start ≤ before) (by omega : before < other), hzero, zero_add]

/-- A search from a later line that still has nothing open before it meets the same block. -/
theorem of_le (hstart : start ≤ line) (hline : line ≤ first) :
    OpensOn snapshot line stop first := by
  have hsame : ∀ other, line ≤ other → snapshot.balance line other = snapshot.balance start other :=
    fun other hother => h.balance_eq hstart hline hother
  have hlt := h.first_lt
  refine ⟨hline, hlt, h.lt_size, fun other hle hother => ?_, fun other hle hother => ?_, ?_⟩
  · rw [hsame other hle]
    exact h.flat other (by omega) hother
  · rw [hsame other (by omega)]
    exact h.opened other hle hother
  · rw [hsame stop (by omega)]
    exact h.closed

/-- A line with something open in front of it comes behind the one that opens the block. -/
theorem first_lt_of_balance (hline : start < line)
    (hdepth : snapshot.balance start (line - 1) = 1) :
    first < line := by
  by_contra hlate
  have hzero := h.flat (line - 1) (by omega) (by omega)
  omega

end OpensOn

/-- A block with the depths of a block is found. -/
theorem OpensOn.blockEnd_eq {snapshot : Snapshot} {start stop first : Nat}
    (h : OpensOn snapshot start stop first) : snapshot.blockEnd start = some stop := by
  obtain ⟨gap, rfl⟩ := Nat.exists_eq_add_of_le h.start_le
  induction gap generalizing start with
  | zero =>
    have hlt := h.first_lt
    have hsize : start < snapshot.lines.length := Nat.lt_trans hlt h.lt_size
    have hopening := balance_self (List.getElem?_eq_getElem hsize)
    have hpos := h.opened start le_rfl hlt
    rw [hopening] at hpos
    rw [Snapshot.blockEnd_eq_firstBlockEnd, List.drop_eq_getElem_cons hsize]
    simp only [firstBlockEnd, if_neg (by omega : ¬ braceDelta snapshot.lines[start] = 0),
      if_neg (by omega : ¬ braceDelta snapshot.lines[start] < 0)]
    refine closingLine_of_balance (by omega) h.lt_size (fun other hle hother => ?_) ?_
    · rw [← hopening, ← balance_eq_add le_rfl (by omega : start < other)]
      exact h.opened other (by omega) hother
    · rw [← hopening, ← balance_eq_add le_rfl (by omega : start < stop)]
      exact h.closed
  | succ gap ih =>
    have hlt := h.first_lt
    have hsize : start < snapshot.lines.length := Nat.lt_trans (by omega : start < stop) h.lt_size
    have hflat := h.flat start le_rfl (by omega)
    rw [balance_self (List.getElem?_eq_getElem hsize)] at hflat
    have hnext := h.of_le (Nat.le_succ start) (by omega)
    have hfound := ih (by rwa [show start + 1 + gap = start + (gap + 1) by omega])
    rw [Snapshot.blockEnd_eq_firstBlockEnd, List.drop_eq_getElem_cons hsize,
      firstBlockEnd, if_pos hflat]
    exact (snapshot.blockEnd_eq_firstBlockEnd _).symm.trans hfound

/-- A block ends on a line exactly when the running depths are those of a block up to there. -/
theorem blockEnd_eq_some_iff {snapshot : Snapshot} {start stop : Nat} :
    snapshot.blockEnd start = some stop ↔ ∃ first, OpensOn snapshot start stop first :=
  ⟨exists_opensOn_of_blockEnd, fun ⟨_, h⟩ => h.blockEnd_eq⟩

/-! ## Blocks that open on their first line -/

section OpeningLine

variable {snapshot : Snapshot} {start : Nat} {line : Text}
    (hline : snapshot.line? start = some line)

include hline

/-- A block that opens on a line ends where the depth counted from there is zero for the first
time. -/
theorem blockEnd_eq_some_iff_of_pos (hpos : 0 < braceDelta line) {stop : Nat} :
    snapshot.blockEnd start = some stop ↔
      start < stop ∧ stop < snapshot.size ∧ snapshot.balance start stop = 0 ∧
        ∀ other, start ≤ other → other < stop → 0 < snapshot.balance start other := by
  rw [← balance_self hline] at hpos
  rw [blockEnd_eq_some_iff]
  constructor
  · rintro ⟨first, hopens⟩
    have hstart := hopens.start_le
    have hfirst : first = start := by
      by_contra hne
      have hzero := hopens.flat start le_rfl (by omega)
      omega
    rw [hfirst] at hopens
    exact ⟨hopens.first_lt, hopens.lt_size, hopens.closed, hopens.opened⟩
  · rintro ⟨hlt, hsize, hclosed, hopened⟩
    exact ⟨start, le_rfl, hlt, hsize, fun other hle hother => by omega, hopened, hclosed⟩

/-- From a line with nothing but an opening brace, the search for the end of its block and the
search for the end of the block around it are the same. -/
theorem enclosingBlockEnd_eq_blockEnd (hopening : Snapshot.isOpeningLine line = true) :
    snapshot.enclosingBlockEnd start = snapshot.blockEnd start := by
  obtain ⟨hsize, hget⟩ := List.getElem?_eq_some_iff.mp hline
  have hdelta := braceDelta_of_isOpeningLine hopening
  rw [enclosingBlockEnd_of_isOpeningLine hline hopening, Snapshot.blockEnd_eq_firstBlockEnd,
    List.drop_eq_getElem_cons hsize, firstBlockEnd, hget, hdelta]
  rfl

/-- From a line with nothing but an opening brace, both searches give the same line: the first one
behind it at which as many braces are closed as opened, with more opened than closed up to there.
They give none where there is no such line. -/
theorem blockEnds_of_openingLine (hopening : line.trim = [openBrace]) :
    snapshot.enclosingBlockEnd start = snapshot.blockEnd start ∧
      ∀ stop, snapshot.blockEnd start = some stop ↔
        start < stop ∧ stop < snapshot.size ∧ snapshot.balance start stop = 0 ∧
          ∀ other, start ≤ other → other < stop → 0 < snapshot.balance start other := by
  have halone : Snapshot.isOpeningLine line = true := by
    rw [Snapshot.isOpeningLine, hopening, beq_self_eq_true]
  refine ⟨enclosingBlockEnd_eq_blockEnd hline halone, fun stop => ?_⟩
  exact blockEnd_eq_some_iff_of_pos hline
    (by rw [braceDelta_of_isOpeningLine halone]; exact Int.zero_lt_one)

end OpeningLine

/-- A method whose last line closes several blocks. -/
def crowdedDocument : Snapshot :=
  .ofLines ["void Awake()".toList,
    "  \x7b".toList,
    "    if (ready) \x7b while (busy) \x7b".toList,
    "    \x7d else \x7b \x7d \x7d".toList,
    "\x7d".toList]

theorem crowdedDocument_blockEnds :
    crowdedDocument.line? 1 = some "  \x7b".toList ∧ Text.trim "  \x7b".toList = [openBrace] ∧
      crowdedDocument.enclosingBlockEnd 1 = some 4 ∧ crowdedDocument.blockEnd 1 = some 4 := by
  have hline : crowdedDocument.line? 1 = some "  \x7b".toList := by rfl
  have hopening : Text.trim "  \x7b".toList = [openBrace] := by decide
  obtain ⟨hagree, hends⟩ := blockEnds_of_openingLine hline hopening
  have hend : crowdedDocument.blockEnd 1 = some 4 := by
    refine (hends 4).mpr ⟨by decide, by decide, by decide, fun other hle hother => ?_⟩
    obtain rfl | rfl | rfl : other = 1 ∨ other = 2 ∨ other = 3 := by omega
    all_goals decide
  exact ⟨hline, hopening, hagree.trans hend, hend⟩

/-! ## Class bodies -/

/-- The braces of a body balance on its last line, and something is open behind each line before
it. -/
def ClassSpan.IsBalanced (snapshot : Snapshot) (span : ClassSpan) : Prop :=
  snapshot.balance span.startLine span.endLine = 0 ∧
    ∀ line, span.startLine ≤ line → line < span.endLine → 0 < snapshot.balance span.startLine line

/-- The braces of a class body that is found balance on its last line.  Something is open behind
each of its lines from one in front of the field on, and nothing before that one.  So the body is
balanced exactly when its first line opens more braces than it closes. -/
theorem isBalanced_iff_of_findClassSpan {snapshot : Snapshot} {fieldLine : Nat} {baseType : Text}
    {span : ClassSpan} (h : findClassSpan snapshot fieldLine baseType = .ok span) :
    (∃ first < fieldLine, OpensOn snapshot span.startLine span.endLine first) ∧
      (span.IsBalanced snapshot ↔
        ∃ opening, snapshot.lines[span.startLine]? = some opening ∧ 0 < braceDelta opening) := by
  obtain ⟨-, -, hend, hcontains, hdepth⟩ := findClassSpan_eq_ok_iff.mp h
  rw [ClassSpan.contains_iff] at hcontains
  obtain ⟨first, hopens⟩ := blockEnd_eq_some_iff.mp hend
  have hsize : span.startLine < snapshot.lines.length :=
    Nat.lt_trans (by omega : span.startLine < span.endLine) hopens.lt_size
  have hself := balance_self (List.getElem?_eq_getElem hsize)
  have hstart := hopens.start_le
  refine ⟨⟨first, hopens.first_lt_of_balance hcontains.1 hdepth, hopens⟩, ?_, ?_⟩
  · rintro ⟨-, hopen⟩
    refine ⟨_, List.getElem?_eq_getElem hsize, ?_⟩
    rw [← hself]
    exact hopen span.startLine le_rfl (by omega)
  · rintro ⟨opening, hopening, hpos⟩
    rw [← balance_self hopening] at hpos
    have hfirst : first = span.startLine := by
      by_contra hne
      have hzero := hopens.flat span.startLine le_rfl (by omega)
      omega
    exact ⟨hopens.closed, fun line hle hline => hopens.opened line (by omega) hline⟩

/-- A class whose body opens on the line of its header, with a block inside that closes on its own
line. -/
def headerBraceDocument : Snapshot :=
  .ofLines ["class A : MonoBehaviour \x7b".toList,
    "    void Awake() \x7b \x7d".toList,
    "    private IFoo _foo;".toList,
    "\x7d".toList]

theorem headerBraceDocument_isBalanced :
    findClassSpan headerBraceDocument 2 "MonoBehaviour".toList = .ok ⟨0, 3⟩ ∧
      ClassSpan.IsBalanced headerBraceDocument ⟨0, 3⟩ := by
  have hspan : findClassSpan headerBraceDocument 2 "MonoBehaviour".toList = .ok ⟨0, 3⟩ := by rfl
  exact ⟨hspan, (isBalanced_iff_of_findClassSpan hspan).2.mpr ⟨_, rfl, by decide⟩⟩

/-- A class that opens and closes on one line, and behind it a class with a field that derives from
nothing. -/
def oneLineClassDocument : Snapshot :=
  .ofLines ["class A : MonoBehaviour \x7b \x7d".toList,
    "class B".toList,
    "\x7b".toList,
    "    private IFoo _foo;".toList,
    "\x7d".toList]

/-- The body that is found for a field need not be balanced: here it begins with a class that has
ended on its first line. -/
theorem oneLineClassDocument_not_isBalanced :
    findClassSpan oneLineClassDocument 3 "MonoBehaviour".toList = .ok ⟨0, 4⟩ ∧
      oneLineClassDocument.balance 0 0 = 0 ∧
        ¬ ClassSpan.IsBalanced oneLineClassDocument ⟨0, 4⟩ := by
  have hzero : oneLineClassDocument.balance 0 0 = 0 := by rfl
  refine ⟨rfl, hzero, fun hbalanced => ?_⟩
  have hpos := hbalanced.2 0 le_rfl (by decide)
  rw [hzero] at hpos
  exact Int.lt_irrefl 0 hpos

end FieldInjection
