import FieldInjection.InjectionMethod
import Mathlib.Data.List.TakeWhile

/-!
# Cutting and trimming

What the cuts of a text do to a text whose parts are known, and which parts a text has that was cut.
Every reader begins with one of them, so both directions are used throughout.

## Main Statements

* `Text.exists_blank_append_trim`: a text is its trimmed form between blanks.
* `Text.trim_eq_self`, `Text.trim_blank_append`, `Text.trim_trim`: what trimming leaves alone, and
  what it takes away.
* `parenthesized?_eq_some_iff`: the parts of a signature around its outer parentheses.
* `parameterNames_append`: what follows the closing parenthesis has no part in the parameters.
-/

namespace FieldInjection

namespace Text

/-! ## Blanks at the ends -/

theorem ne_of_isBlank {c mark : Char} (hc : isBlank c = true) (hmark : isBlank mark = false) :
    c ≠ mark := by
  rintro rfl
  rw [hc] at hmark
  exact Bool.false_ne_true hmark.symm

/-- A mark that is no blank is not among blanks. -/
theorem not_mem_of_blank {blanks : Text} {mark : Char} (h : ∀ c ∈ blanks, isBlank c = true)
    (hmark : isBlank mark = false) : mark ∉ blanks :=
  fun hmem => ne_of_isBlank (h mark hmem) hmark rfl

/-- A text is its trimmed start between blanks and nothing. -/
theorem exists_blank_append_trimStart (text : Text) :
    ∃ blanks : Text, (∀ c ∈ blanks, isBlank c = true) ∧ text = blanks ++ text.trimStart :=
  ⟨text.takeWhile isBlank, fun _ hc => List.mem_takeWhile_imp hc,
    List.takeWhile_append_dropWhile.symm⟩

/-- What trimming takes off an end is blank. -/
theorem exists_trimEnd_append_blank (text : Text) :
    ∃ blanks : Text, (∀ c ∈ blanks, isBlank c = true) ∧ text = text.trimEnd ++ blanks := by
  refine ⟨(text.reverse.takeWhile isBlank).reverse, ?_, ?_⟩
  · intro c hc
    exact List.mem_takeWhile_imp (List.mem_reverse.mp hc)
  · unfold trimEnd
    rw [← List.reverse_append, List.takeWhile_append_dropWhile, List.reverse_reverse]

/-- A text is its trimmed form between blanks. -/
theorem exists_blank_append_trim (text : Text) :
    ∃ left right : Text, (∀ c ∈ left, isBlank c = true) ∧ (∀ c ∈ right, isBlank c = true) ∧
      text = left ++ text.trim ++ right := by
  obtain ⟨left, hleft, hstart⟩ := exists_blank_append_trimStart text
  obtain ⟨right, hright, hend⟩ := exists_trimEnd_append_blank text.trimStart
  refine ⟨left, right, hleft, hright, ?_⟩
  rw [List.append_assoc]
  exact hstart.trans (congrArg (left ++ ·) hend)

/-- Trimming brings in no characters. -/
theorem mem_of_mem_trim {text : Text} {c : Char} (hc : c ∈ text.trim) : c ∈ text := by
  obtain ⟨left, right, -, -, htext⟩ := exists_blank_append_trim text
  rw [htext]
  simp [hc]

/-- Trimming takes off no character but blanks. -/
theorem mem_trim_of_mem {text : Text} {c : Char} (hc : c ∈ text) (hblank : isBlank c = false) :
    c ∈ text.trim := by
  obtain ⟨left, right, hleft, hright, heq⟩ := exists_blank_append_trim text
  rw [heq, List.mem_append, List.mem_append] at hc
  rcases hc with (hc | hc) | hc
  · exact absurd hc (not_mem_of_blank hleft hblank)
  · exact hc
  · exact absurd hc (not_mem_of_blank hright hblank)

/-- Blanks in front are trimmed. -/
theorem trimStart_blank_append {blanks rest : Text} (h : ∀ c ∈ blanks, isBlank c = true) :
    trimStart (blanks ++ rest) = rest.trimStart :=
  List.dropWhile_append_of_pos h

/-- Blanks behind are trimmed. -/
theorem trimEnd_append_blank {start blanks : Text} (h : ∀ c ∈ blanks, isBlank c = true) :
    trimEnd (start ++ blanks) = start.trimEnd := by
  unfold trimEnd
  rw [List.reverse_append, List.dropWhile_append_of_pos fun c hc => h c (List.mem_reverse.mp hc)]

theorem trimStart_cons_of_not_blank {c : Char} {rest : Text} (h : isBlank c = false) :
    trimStart (c :: rest) = c :: rest := by
  simp [trimStart, h]

theorem isBlank_eq_false_of_trimStart {text rest : Text} {c : Char}
    (h : text.trimStart = c :: rest) : isBlank c = false := by
  have hhead := List.head?_dropWhile_not isBlank text
  rw [show text.dropWhile isBlank = c :: rest from h] at hhead
  simpa using hhead

/-- Text behind a text that is not blank does not matter for trimming its start. -/
theorem trimStart_append_of_cons {text rest more : Text} {c : Char}
    (h : text.trimStart = c :: rest) : trimStart (text ++ more) = c :: (rest ++ more) := by
  obtain ⟨blanks, hblanks, htext⟩ := exists_blank_append_trimStart text
  rw [htext, List.append_assoc, trimStart_blank_append hblanks, h, List.cons_append,
    trimStart_cons_of_not_blank (isBlank_eq_false_of_trimStart h)]

/-- Where nothing but blanks stands in front, trimming goes on behind it. -/
theorem trimStart_append_of_nil {text more : Text} (h : text.trimStart = []) :
    trimStart (text ++ more) = more.trimStart := by
  obtain ⟨blanks, hblanks, htext⟩ := exists_blank_append_trimStart text
  rw [h, List.append_nil] at htext
  rw [htext, trimStart_blank_append hblanks]

theorem trimEnd_append_singleton {start : Text} {c : Char} (h : isBlank c = false) :
    trimEnd (start ++ [c]) = start ++ [c] := by
  simp [trimEnd, h]

/-- A text whose ends are no blanks is not changed by trimming. -/
theorem trim_eq_self {text : Text} (hhead : text.head?.any isBlank = false)
    (hlast : text.getLast?.any isBlank = false) : text.trim = text := by
  have hstart : text.trimStart = text := by
    cases text with
    | nil => rfl
    | cons c rest => exact trimStart_cons_of_not_blank (by simpa using hhead)
  rw [trim, hstart]
  rcases List.eq_nil_or_concat text with rfl | ⟨start, c, rfl⟩
  · rfl
  · rw [List.concat_eq_append] at hlast ⊢
    exact trimEnd_append_singleton (by simpa using hlast)

/-- A text without blanks is not changed by trimming. -/
theorem trim_of_not_blank {text : Text} (h : ∀ c ∈ text, isBlank c = false) : text.trim = text := by
  refine trim_eq_self ?_ ?_
  · cases hhead : text.head? with
    | none => rfl
    | some c => exact h c (List.mem_of_head? hhead)
  · cases hlast : text.getLast? with
    | none => rfl
    | some c => exact h c (List.mem_of_getLast? hlast)

/-- Blanks in front of a text are trimmed away. -/
theorem trim_blank_append {blanks rest : Text} (h : ∀ c ∈ blanks, isBlank c = true) :
    trim (blanks ++ rest) = rest.trim := by
  rw [trim, trimStart_blank_append h, trim]

/-- Blanks behind a text do not change what is trimmed to. -/
theorem trim_append_blank {text blanks : Text} (h : ∀ c ∈ blanks, isBlank c = true) :
    (text ++ blanks).trim = text.trim := by
  rw [trim, trim]
  cases hstart : text.trimStart with
  | nil =>
    have hblanks : blanks.trimStart = [] := by
      rw [← List.append_nil blanks, trimStart_blank_append h]
      rfl
    rw [trimStart_append_of_nil hstart, hblanks]
  | cons c rest => rw [trimStart_append_of_cons hstart, ← List.cons_append, trimEnd_append_blank h]

/-- A trimmed text does not begin with a blank. -/
theorem head?_trim_not_blank (text : Text) : text.trim.head?.any isBlank = false := by
  obtain ⟨right, hright, hend⟩ := exists_trimEnd_append_blank text.trimStart
  cases htrim : text.trim with
  | nil => rfl
  | cons c rest =>
    -- the head of the trimmed text is the head of what `dropWhile` left over
    have hstart : text.trimStart = c :: (rest ++ right) := by
      rw [← List.cons_append, ← htrim]
      exact hend
    simpa using isBlank_eq_false_of_trimStart hstart

theorem getLast?_trimEnd_not_blank (text : Text) : text.trimEnd.getLast?.any isBlank = false := by
  unfold trimEnd
  rw [List.getLast?_reverse]
  have hhead := List.head?_dropWhile_not isBlank text.reverse
  cases hdrop : (text.reverse.dropWhile isBlank).head? with
  | none => rfl
  | some c =>
    rw [hdrop] at hhead
    simpa using hhead

theorem trimEnd_cons_ne_nil {rest : Text} {c : Char} (h : isBlank c = false) :
    trimEnd (c :: rest) ≠ [] := by
  intro hnil
  obtain ⟨blanks, hblanks, heq⟩ := exists_trimEnd_append_blank (c :: rest)
  rw [hnil, List.nil_append] at heq
  have hc := hblanks c (heq ▸ List.mem_cons_self)
  rw [hc] at h
  exact Bool.noConfusion h

/-- The last character that is no blank does not depend on what stands before another one. -/
theorem getLast?_trimEnd_append_cons {start rest : Text} {c : Char} (h : isBlank c = false) :
    (trimEnd (start ++ c :: rest)).getLast? = (trimEnd (c :: rest)).getLast? := by
  obtain ⟨front, last, hend⟩ := List.eq_nil_or_concat (trimEnd (c :: rest)) |>.resolve_left
    (trimEnd_cons_ne_nil h)
  rw [List.concat_eq_append] at hend
  have hlast : isBlank last = false := by
    have hnot := getLast?_trimEnd_not_blank (c :: rest)
    rw [hend, List.getLast?_concat] at hnot
    simpa using hnot
  obtain ⟨blanks, hblanks, heq⟩ := exists_trimEnd_append_blank (c :: rest)
  rw [hend] at heq
  rw [hend, heq, ← List.append_assoc, trimEnd_append_blank hblanks, ← List.append_assoc,
    trimEnd_append_singleton hlast, List.getLast?_concat, List.getLast?_concat]

/-- A trimmed text does not end with a blank. -/
theorem getLast?_trim_not_blank (text : Text) : text.trim.getLast?.any isBlank = false :=
  getLast?_trimEnd_not_blank text.trimStart

/-- Trimming the start of a text leaves what follows a character that is no blank. -/
theorem exists_trimStart_append_cons (left rest : Text) {c : Char} (h : isBlank c = false) :
    ∃ front, trimStart (left ++ c :: rest) = front ++ c :: rest := by
  induction left with
  | nil => exact ⟨[], trimStart_cons_of_not_blank h⟩
  | cons d left ih =>
    by_cases hd : isBlank d = true
    · obtain ⟨front, hfront⟩ := ih
      refine ⟨front, ?_⟩
      rw [← hfront, List.cons_append, trimStart, List.dropWhile_cons_of_pos hd, trimStart]
    · exact ⟨d :: left, trimStart_cons_of_not_blank (by simpa using hd)⟩

/-- Trimming the end of a text leaves what is in front of a character that is no blank. -/
theorem exists_trimEnd_append_cons (left rest : Text) {c : Char} (h : isBlank c = false) :
    ∃ back, trimEnd (left ++ c :: rest) = left ++ c :: back := by
  obtain ⟨front, hfront⟩ := exists_trimStart_append_cons rest.reverse left.reverse h
  have hreverse : (left ++ c :: rest).reverse = rest.reverse ++ c :: left.reverse := by simp
  rw [trimStart] at hfront
  refine ⟨front.reverse, ?_⟩
  rw [trimEnd, hreverse, hfront]
  simp

/-- Trimming leaves what stands between two characters that are no blanks. -/
theorem mem_trim_of_between {left inside right : Text} {first last c : Char}
    (hfirst : isBlank first = false) (hlast : isBlank last = false) (hc : c ∈ inside) :
    c ∈ trim (left ++ first :: (inside ++ last :: right)) := by
  obtain ⟨front, hfront⟩ := exists_trimStart_append_cons left (inside ++ last :: right) hfirst
  obtain ⟨back, hback⟩ := exists_trimEnd_append_cons (front ++ first :: inside) right hlast
  rw [trim, hfront]
  simp only [List.append_assoc, List.cons_append] at hback
  rw [hback]
  simp [hc]

/-- Trimming twice is trimming once. -/
theorem trim_trim (text : Text) : text.trim.trim = text.trim :=
  trim_eq_self (head?_trim_not_blank text) (getLast?_trim_not_blank text)

/-- One character that is no blank is enough. -/
theorem isAllBlank_append_of_mem {text : Text} {c : Char} (hc : c ∈ text)
    (hblank : isBlank c = false) : text.isAllBlank = false := by
  simp only [isAllBlank, List.all_eq_false]
  exact ⟨c, hc, by simp [hblank]⟩

/-- Indentation is made of blanks. -/
theorem isBlank_of_mem_indentation {text : Text} {c : Char} (hc : c ∈ text.indentation) :
    isBlank c = true :=
  List.mem_takeWhile_imp hc

/-! ## First and last occurrences -/

/-- The last character of a text, where an earlier one stands in for it if there is none. -/
theorem getLast?_cons_or (c : Char) (text : Text) (previous : Option Char) :
    (c :: text).getLast?.or previous = text.getLast?.or (some c) := by
  rw [List.getLast?_cons]
  cases text.getLast? <;> rfl

/-- If neither part ends with such a character, the whole does not either. -/
theorem any_getLast?_append {holds : Char → Bool} {left right : Text}
    (hleft : left.getLast?.any holds = false) (hright : right.getLast?.any holds = false) :
    (left ++ right).getLast?.any holds = false := by
  rw [List.getLast?_append]
  cases hget : right.getLast? with
  | none => exact hleft
  | some c =>
    rw [hget] at hright
    exact hright

theorem any_getLast?_append_cons {holds : Char → Bool} {c : Char} (left right : Text)
    (hc : holds c = false) :
    (left ++ c :: right).getLast?.any holds = right.getLast?.any holds := by
  rw [List.getLast?_append, List.getLast?_cons]
  cases right.getLast? <;> simp [hc]

theorem any_head?_append_cons {holds : Char → Bool} {c : Char} (left right : Text)
    (hc : holds c = false) :
    (left ++ c :: right).head?.any holds = left.head?.any holds := by
  cases left <;> simp [hc]

/-! ## Cuts at a mark -/

/-- What stands before a mark in a text without that mark begins like the text. -/
theorem exists_append_of_not_mem {mark : Char} {left right front back : Text}
    (heq : left ++ right = front ++ mark :: back) (hmark : mark ∉ left) :
    ∃ more, front = left ++ more ∧ right = more ++ mark :: back := by
  rcases List.append_eq_append_iff.mp heq with ⟨more, rfl, hright⟩ | ⟨more, rfl, hright⟩
  · exact ⟨more, rfl, hright⟩
  · cases more with
    | nil => exact ⟨[], by simp, hright.symm⟩
    | cons c more =>
      obtain ⟨rfl, -⟩ := List.cons.inj hright
      exact absurd (by simp) hmark

/-- A text cannot be cut exactly if the mark is missing. -/
theorem cutFirst?_eq_none_iff {mark : Char} {text : Text} :
    cutFirst? mark text = none ↔ mark ∉ text := by
  induction text with
  | nil => simp [cutFirst?]
  | cons c rest ih =>
    rw [cutFirst?]
    by_cases hc : c = mark
    · simp [hc]
    · simp [hc, ih, Ne.symm hc]

/-- A text is cut at the first mark. -/
theorem cutFirst?_append_cons {mark : Char} {before after : Text} (h : mark ∉ before) :
    cutFirst? mark (before ++ mark :: after) = some (before, after) := by
  induction before with
  | nil => simp [cutFirst?]
  | cons c before ih =>
    simp only [List.mem_cons, not_or] at h
    simp [cutFirst?, Ne.symm h.1, ih h.2]

theorem not_mem_of_cutFirst? {mark : Char} {text before after : Text}
    (h : cutFirst? mark text = some (before, after)) : mark ∉ before := by
  induction text generalizing before with
  | nil => simp [cutFirst?] at h
  | cons c rest ih =>
    rw [cutFirst?] at h
    by_cases hc : c = mark
    · simp only [hc, if_true, Option.some.injEq, Prod.mk.injEq] at h
      simp [← h.1]
    · rw [if_neg hc] at h
      obtain ⟨parts, hparts, heq⟩ := Option.map_eq_some_iff.mp h
      simp only [Prod.mk.injEq] at heq
      have hrest : mark ∉ parts.1 := ih (by rw [hparts, ← heq.2])
      rw [← heq.1, List.mem_cons, not_or]
      exact ⟨Ne.symm hc, hrest⟩

/-- The first cut is the one with no mark before it. -/
theorem cutFirst?_eq_some_iff {mark : Char} {text before after : Text} :
    cutFirst? mark text = some (before, after) ↔ text = before ++ mark :: after ∧ mark ∉ before :=
  ⟨fun h => ⟨eq_of_cutFirst? h, not_mem_of_cutFirst? h⟩, fun h => h.1 ▸ cutFirst?_append_cons h.2⟩

/-- A front without the mark is not cut. -/
theorem cutFirst?_append {mark : Char} {front tail : Text} (h : mark ∉ front) :
    cutFirst? mark (front ++ tail) =
      (cutFirst? mark tail).map fun parts => (front ++ parts.1, parts.2) := by
  induction front with
  | nil => simp
  | cons c front ih =>
    simp only [List.mem_cons, not_or] at h
    rw [List.cons_append, cutFirst?, if_neg (Ne.symm h.1), ih h.2, Option.map_map]
    rfl

/-- The last cut is the one with no mark behind it. -/
theorem cutLast?_eq_some_iff {mark : Char} {text before after : Text} :
    cutLast? mark text = some (before, after) ↔ text = before ++ mark :: after ∧ mark ∉ after := by
  simp only [cutLast?, Option.map_eq_some_iff, Prod.mk.injEq]
  constructor
  · rintro ⟨⟨left, right⟩, hcut, rfl, rfl⟩
    obtain ⟨htext, hmark⟩ := cutFirst?_eq_some_iff.mp hcut
    refine ⟨?_, by simpa using hmark⟩
    rw [← List.reverse_reverse text, htext]
    simp
  · rintro ⟨rfl, hmark⟩
    refine ⟨(after.reverse, before.reverse), ?_, by simp, by simp⟩
    rw [cutFirst?_eq_some_iff]
    exact ⟨by simp, by simpa using hmark⟩

/-- The last cut fails in the same texts as the first one. -/
theorem cutLast?_eq_none_iff {mark : Char} {text : Text} :
    cutLast? mark text = none ↔ mark ∉ text := by
  rw [cutLast?, Option.map_eq_none_iff, cutFirst?_eq_none_iff, List.mem_reverse]

/-- What follows the last mark is not cut. -/
theorem cutLast?_append {mark : Char} {front tail : Text} (h : mark ∉ tail) :
    cutLast? mark (front ++ tail) =
      (cutLast? mark front).map fun parts => (parts.1, parts.2 ++ tail) := by
  rw [cutLast?, cutLast?, List.reverse_append, cutFirst?_append (by simpa using h), Option.map_map,
    Option.map_map]
  simp [Function.comp_def]

/-! ## Words -/

/-- The last word of a text that ends in a word. -/
theorem lastWord?_append_word {start word : Text} (hword : word ≠ [])
    (hplain : ∀ c ∈ word, isBlank c = false) (hstart : start.getLast?.all isBlank = true) :
    lastWord? (start ++ word) = some word := by
  have hend : trimEnd (start ++ word) = start ++ word := by
    obtain ⟨front, c, rfl⟩ := List.eq_nil_or_concat word |>.resolve_left hword
    rw [List.concat_eq_append, ← List.append_assoc]
    exact trimEnd_append_singleton (hplain c (by simp))
  have htake : (start ++ word).reverse.takeWhile (! isBlank ·) = word.reverse := by
    rw [List.reverse_append, List.takeWhile_append_of_pos]
    · rcases List.eq_nil_or_concat start with rfl | ⟨front, c, rfl⟩
      · simp
      · simp only [List.concat_eq_append, List.getLast?_append, List.getLast?_singleton,
          Option.some_or, Option.all_some] at hstart
        simp [hstart]
    · intro c hc
      simp [hplain c (List.mem_reverse.mp hc)]
  unfold lastWord?
  rw [hend, htake]
  split
  · next hnil => simp_all
  · simp

/-- What follows the place where the taking stops is not looked at. -/
theorem takeWhile_append_of_stop {holds : Char → Bool} {left right : Text}
    (h : (∃ c ∈ left, holds c = false) ∨ right.head?.all (! holds ·) = true) :
    (left ++ right).takeWhile holds = left.takeWhile holds := by
  induction left with
  | nil =>
    cases right with
    | nil => rfl
    | cons c right => simpa using h
  | cons c left ih =>
    by_cases hc : holds c = true
    · rw [List.cons_append, List.takeWhile_cons_of_pos hc, List.takeWhile_cons_of_pos hc, ih]
      simpa [hc] using h
    · rw [List.cons_append, List.takeWhile_cons_of_neg hc, List.takeWhile_cons_of_neg hc]

/-- Blanks behind a text do not change its last word. -/
theorem lastWord?_append_blank {text blanks : Text} (h : ∀ c ∈ blanks, isBlank c = true) :
    lastWord? (text ++ blanks) = lastWord? text := by
  rw [lastWord?, trimEnd_append_blank h, lastWord?]

/-- Blanks in front of a text do not change its last word. -/
theorem lastWord?_blank_append {blanks text : Text} (h : ∀ c ∈ blanks, isBlank c = true) :
    lastWord? (blanks ++ text) = lastWord? text := by
  obtain ⟨right, hright, htext⟩ := exists_trimEnd_append_blank text
  rw [htext, ← List.append_assoc, lastWord?_append_blank hright, lastWord?_append_blank hright]
  generalize hcore : text.trimEnd = core
  have hlast : core.getLast?.any isBlank = false := hcore ▸ getLast?_trimEnd_not_blank text
  rcases List.eq_nil_or_concat core with rfl | ⟨front, c, rfl⟩
  · rw [List.append_nil, ← List.nil_append blanks, lastWord?_append_blank h]
  · rw [List.concat_eq_append] at hlast ⊢
    have hc : isBlank c = false := by simpa using hlast
    have hstop : blanks.reverse.head?.all (! ! isBlank ·) = true := by
      cases hrev : blanks.reverse with
      | nil => rfl
      | cons b rest =>
        have hb : isBlank b = true := h b (by rw [← List.mem_reverse, hrev]; simp)
        simp [hb]
    unfold lastWord?
    rw [← List.append_assoc, trimEnd_append_singleton hc, trimEnd_append_singleton hc,
      List.append_assoc, List.reverse_append, takeWhile_append_of_stop (Or.inr hstop)]

end Text

/-! ## Signatures -/

/-- The parts of a signature before its first opening parenthesis, up to the last closing one behind
it, and after that. -/
theorem parenthesized?_eq_some_iff {signature before inside behind : Text} :
    parenthesized? signature = some (before, inside, behind) ↔
      signature = before ++ '(' :: (inside ++ ')' :: behind) ∧ '(' ∉ before ∧ ')' ∉ behind := by
  simp only [parenthesized?, Option.bind_eq_bind, Option.bind_eq_some_iff, Option.pure_def,
    Option.some.injEq, Prod.mk.injEq, Prod.exists]
  constructor
  · rintro ⟨left, opened, hopen, middle, right, hclose, rfl, rfl, rfl⟩
    obtain ⟨rfl, hbefore⟩ := Text.cutFirst?_eq_some_iff.mp hopen
    obtain ⟨rfl, hbehind⟩ := Text.cutLast?_eq_some_iff.mp hclose
    exact ⟨rfl, hbefore, hbehind⟩
  · rintro ⟨rfl, hbefore, hbehind⟩
    exact ⟨before, inside ++ ')' :: behind, Text.cutFirst?_append_cons hbefore, inside, behind,
      Text.cutLast?_eq_some_iff.mpr ⟨rfl, hbehind⟩, rfl, rfl, rfl⟩

/-- What follows the last closing parenthesis is found behind it. -/
theorem parenthesized?_append {front tail : Text} (hclose : ')' ∉ tail) :
    parenthesized? (front ++ tail) =
      (parenthesized? front).map fun parts => (parts.1, parts.2.1, parts.2.2 ++ tail) := by
  by_cases hopen : '(' ∈ front
  · obtain ⟨⟨before, opened⟩, hcut⟩ := Option.ne_none_iff_exists'.mp
      (mt Text.cutFirst?_eq_none_iff.mp (not_not.mpr hopen))
    obtain ⟨rfl, hbefore⟩ := Text.cutFirst?_eq_some_iff.mp hcut
    rw [List.append_assoc, List.cons_append, parenthesized?, parenthesized?,
      Text.cutFirst?_append_cons hbefore, Text.cutFirst?_append_cons hbefore]
    simp only [Option.bind_eq_bind, Option.bind_some, Text.cutLast?_append hclose]
    cases Text.cutLast? ')' opened <;> rfl
  · -- what stands between the parentheses is all of it behind the front
    have hbehind : ∀ before opened, tail.cutFirst? '(' = some (before, opened) →
        opened.cutLast? ')' = none := by
      intro before opened hcut
      refine Text.cutLast?_eq_none_iff.mpr fun hmem => hclose ?_
      rw [(Text.cutFirst?_eq_some_iff.mp hcut).1]
      exact List.mem_append_right _ (List.mem_cons_of_mem _ hmem)
    rw [parenthesized?, parenthesized?, Text.cutFirst?_append hopen,
      Text.cutFirst?_eq_none_iff.mpr hopen]
    cases hcut : tail.cutFirst? '(' with
    | none => rfl
    | some parts => simp [hbehind _ _ hcut]

/-- So it has no part in the parameters. -/
theorem parameterNames_append {front tail : Text} (hclose : ')' ∉ tail) :
    parameterNames (front ++ tail) = parameterNames front := by
  rw [parameterNames, parameterNames, parenthesized?_append hclose]
  cases parenthesized? front <;> rfl

end FieldInjection
