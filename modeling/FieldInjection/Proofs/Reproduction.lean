import FieldInjection.Proofs.Snapshots

/-!
# Which documents are reproduced

A document is kept as its lines and one way to end them.  Two things are lost in this: the carriage
return behind the last line, and which of the lines ended differently from the others.  So a text is
written out as it was read exactly when it does not end in a carriage return and all of its line
feeds are alike, behind carriage returns or not.

The lines of a text are the parts between its line feeds.  What stands in front of a line feed ends
as the line there does (`forall_beforeFeed_iff`), and with that the condition on the text becomes
one on its lines.  The lines written out are compared with the lines that were cut, since joining
them loses nothing.

## Main Definitions

* `EveryFeedReturned`, `NoFeedReturned`: whether the line feeds of a text stand behind carriage
  returns.

## Main Statements

* `toText_ofText_iff`: which texts are reproduced, and which snapshots are.
-/

namespace FieldInjection

/-- Every line feed of the text stands directly behind a carriage return. -/
def EveryFeedReturned (text : Text) : Prop :=
  ∀ before after, text = before ++ '\n' :: after → before.getLast? = some '\r'

/-- No line feed of the text stands directly behind a carriage return. -/
def NoFeedReturned (text : Text) : Prop :=
  ∀ before after, text = before ++ '\n' :: after → before.getLast? ≠ some '\r'

/-! ## One carriage return -/

section Line

variable {line : Text}

theorem dropReturn_append_return_iff : dropReturn line ++ ['\r'] = line ↔
    line.getLast? = some '\r' := by
  constructor
  · intro h
    rw [← h, List.getLast?_concat]
  · intro h
    obtain ⟨front, rfl⟩ := List.getLast?_eq_some_iff.mp h
    rw [dropReturn_append_return]

theorem dropReturn_eq_self_iff : dropReturn line = line ↔ line.getLast? ≠ some '\r' := by
  refine ⟨fun h hlast => ?_, dropReturn_eq_self⟩
  obtain ⟨front, rfl⟩ := List.getLast?_eq_some_iff.mp hlast
  rw [dropReturn_append_return] at h
  simpa using congrArg List.length h

/-- Only two carriage returns leave one to be dropped again. -/
theorem dropReturn_dropReturn_iff :
    dropReturn (dropReturn line) = dropReturn line ↔ ¬ ['\r', '\r'] <:+ line := by
  rw [dropReturn_eq_self_iff, not_iff_not]
  constructor
  · intro h
    have hlast : line.getLast? = some '\r' := by
      by_contra hne
      rw [dropReturn_eq_self hne] at h
      exact hne h
    rw [← dropReturn_append_return_iff] at hlast
    obtain ⟨front, hfront⟩ := List.getLast?_eq_some_iff.mp h
    exact ⟨front, by rw [← hlast, hfront]; simp⟩
  · rintro ⟨front, rfl⟩
    rw [List.append_cons, dropReturn_append_return, List.getLast?_concat]

end Line

/-! ## The lines of a text -/

section Lines

variable {front : List Text} {last : Text}

/-- A text is its lines, all but the last followed by a line feed. -/
theorem exists_lines (text : Text) : ∃ front last, text.splitOn '\n' = front ++ [last] ∧
    text = ['\n'].intercalate (front ++ [last]) ∧ ∀ line ∈ front ++ [last], '\n' ∉ line := by
  obtain ⟨front, last, hsplit⟩ : ∃ front last, text.splitOn '\n' = front ++ [last] :=
    ⟨_, _, (List.dropLast_concat_getLast (List.splitOn_ne_nil '\n' text)).symm⟩
  refine ⟨front, last, hsplit, ?_, fun line hline => ?_⟩
  · rw [← hsplit, List.intercalate_splitOn]
  · rw [← hsplit] at hline
    exact not_mem_of_mem_splitOn hline

theorem map_eq_self_iff {change : Text → Text} {lines : List Text} :
    lines.map change = lines ↔ ∀ line ∈ lines, change line = line := by
  conv_lhs => rhs; rw [← List.map_id lines]
  exact List.map_inj_left

/-- What stands in front of a line feed ends in a carriage return if the line there does. -/
theorem forall_beforeFeed_iff (holds : Prop → Prop) (h : ∀ line ∈ front ++ [last], '\n' ∉ line) :
    (∀ before after, ['\n'].intercalate (front ++ [last]) = before ++ '\n' :: after →
        holds (before.getLast? = some '\r')) ↔
      ∀ line ∈ front, holds (line.getLast? = some '\r') := by
  induction front with
  | nil =>
    refine iff_of_true (fun before after heq => ?_) (by simp)
    refine absurd ?_ (h last (by simp))
    rw [List.nil_append, List.intercalate_singleton] at heq
    simp [heq]
  | cons line front ih =>
    have hrest := ih fun other hother => h other (by simp [hother])
    have hends : ∀ before : Text,
        (line ++ '\n' :: before).getLast? = some '\r' ↔ before.getLast? = some '\r' := by
      intro before
      rw [List.getLast?_append, List.getLast?_cons]
      cases before.getLast? <;> simp
    rw [intercalate_feed_cons, List.forall_mem_cons, ← hrest]
    constructor
    · intro hall
      refine ⟨hall line _ rfl, fun before after heq => ?_⟩
      have hlater := hall (line ++ '\n' :: before) after (by rw [heq]; simp)
      rwa [hends] at hlater
    · rintro ⟨hfirst, hlater⟩ before after heq
      obtain ⟨more, rfl, hmore⟩ := Text.exists_append_of_not_mem heq (h line (by simp))
      cases more with
      | nil => rwa [List.append_nil]
      | cons c more =>
        obtain ⟨rfl, hrest'⟩ := List.cons.inj hmore
        rw [hends]
        exact hlater more after hrest'

/-- A text ends as its last line does, as far as that line goes. -/
theorem suffix_intercalate_feed_iff {tail : Text} (htail : '\n' ∉ tail) :
    tail <:+ ['\n'].intercalate (front ++ [last]) ↔ tail <:+ last := by
  induction front with
  | nil => rw [List.nil_append, List.intercalate_singleton]
  | cons line front ih =>
    rw [intercalate_feed_cons, ← ih]
    constructor
    · rintro ⟨before, heq⟩
      rcases List.append_eq_append_iff.mp heq with ⟨more, rfl, hmore⟩ | ⟨more, rfl, hmore⟩
      · exact absurd (by simp [hmore]) htail
      · cases more with
        | nil =>
          rw [List.nil_append] at hmore
          exact absurd (hmore ▸ List.mem_cons_self) htail
        | cons c more => exact ⟨more, (List.cons.inj hmore).2.symm⟩
    · rintro ⟨before, heq⟩
      exact ⟨line ++ '\n' :: before, by simp [← heq]⟩

theorem getLast?_intercalate_feed_iff :
    (['\n'].intercalate (front ++ [last])).getLast? = some '\r' ↔ last.getLast? = some '\r' := by
  have hsuffix : ∀ text : Text, text.getLast? = some '\r' ↔ ['\r'] <:+ text := by
    intro text
    rw [List.getLast?_eq_some_iff]
    exact ⟨fun ⟨start, h⟩ => ⟨start, h.symm⟩, fun ⟨start, h⟩ => ⟨start, h.symm⟩⟩
  rw [hsuffix, hsuffix, suffix_intercalate_feed_iff (by decide)]

/-- Joining lines loses nothing. -/
theorem intercalate_feed_inj {front' : List Text} {last' : Text}
    (h : ∀ line ∈ front ++ [last], '\n' ∉ line) (h' : ∀ line ∈ front' ++ [last'], '\n' ∉ line) :
    ['\n'].intercalate (front' ++ [last']) = ['\n'].intercalate (front ++ [last]) ↔
      front' = front ∧ last' = last := by
  constructor
  · intro heq
    have hsplit := congrArg (List.splitOn '\n') heq
    rw [List.splitOn_intercalate '\n' h' (by simp),
      List.splitOn_intercalate '\n' h (by simp)] at hsplit
    obtain ⟨hfront, hlast⟩ := List.append_inj' hsplit rfl
    exact ⟨hfront, List.singleton_inj.mp hlast⟩
  · rintro ⟨rfl, rfl⟩
    rfl

end Lines

/-! ## Reproduced texts and snapshots -/

namespace Snapshot

/-- A text is written out as it was read exactly when its lines are, each with its ending. -/
theorem toText_ofText_eq_iff {text last : Text} {front : List Text}
    (hsplit : text.splitOn '\n' = front ++ [last])
    (htext : text = ['\n'].intercalate (front ++ [last]))
    (hfeed : ∀ line ∈ front ++ [last], '\n' ∉ line) :
    (ofText text).toText = text ↔ last.getLast? ≠ some '\r' ∧
      ((∀ line ∈ front, line.getLast? = some '\r') ∨
        ∀ line ∈ front, line.getLast? ≠ some '\r') := by
  have hreturned := hasReturnFeed_intercalate hfeed
  rw [← htext] at hreturned
  have hfeed' : ∀ line ∈ front ++ [last], '\n' ∉ dropReturn line := fun line hline hmem =>
    hfeed line hline (mem_of_mem_dropReturn hmem)
  rw [toText, ofText, hsplit, List.map_append, List.map_singleton, LineEnding.ofText]
  by_cases hsome : hasReturnFeed text = true
  · -- each line but the last is written with a carriage return behind it
    obtain ⟨line, hline, hlast⟩ := hreturned.mp hsome
    have hnever : ¬ ∀ line ∈ front, line.getLast? ≠ some '\r' := fun hall => hall line hline hlast
    have hwritten : (front.map dropReturn).map (· ++ ['\r']) = front ↔
        ∀ line ∈ front, line.getLast? = some '\r' := by
      rw [List.map_map, map_eq_self_iff]
      exact forall₂_congr fun line _ => dropReturn_append_return_iff
    have hwrittenFeed : ∀ line ∈ (front.map dropReturn).map (· ++ ['\r']) ++ [dropReturn last],
        '\n' ∉ line := by
      simp only [List.map_map, List.mem_append, List.mem_map, List.mem_singleton]
      rintro _ (⟨line, hline, rfl⟩ | rfl)
      · simpa using hfeed' line (by simp [hline])
      · exact hfeed' last (by simp)
    rw [if_pos hsome, LineEnding.text, intercalate_return_feed]
    conv_lhs => rhs; rw [htext]
    rw [intercalate_feed_inj hfeed hwrittenFeed, hwritten, dropReturn_eq_self_iff,
      or_iff_left hnever, and_comm]
  · -- no line but the last can have a carriage return at its end
    have hnone : ∀ line ∈ front, line.getLast? ≠ some '\r' := fun line hline hlast =>
      hsome (hreturned.mpr ⟨line, hline, hlast⟩)
    have hsame : front.map dropReturn = front :=
      map_eq_self_iff.mpr fun line hline => dropReturn_eq_self (hnone line hline)
    have hwrittenFeed : ∀ line ∈ front ++ [dropReturn last], '\n' ∉ line := by
      simp only [List.mem_append, List.mem_singleton]
      rintro _ (hline | rfl)
      · exact hfeed _ (by simp [hline])
      · exact hfeed' last (by simp)
    rw [if_neg hsome, LineEnding.text, hsame]
    conv_lhs => rhs; rw [htext]
    rw [intercalate_feed_inj hfeed hwrittenFeed, dropReturn_eq_self_iff]
    exact ⟨fun h => ⟨h.2, Or.inr hnone⟩, fun h => ⟨rfl, h.1⟩⟩

/-- A snapshot is read again as it is exactly when nothing is dropped from its last line again. -/
theorem ofText_toText_ofText_eq_iff {text last : Text} {front : List Text}
    (hsplit : text.splitOn '\n' = front ++ [last])
    (htext : text = ['\n'].intercalate (front ++ [last]))
    (hfeed : ∀ line ∈ front ++ [last], '\n' ∉ line) :
    ofText (ofText text).toText = ofText text ↔ dropReturn (dropReturn last) = dropReturn last := by
  have hlines : (ofText text).lines = front.map dropReturn ++ [dropReturn last] := by
    rw [ofText, hsplit, List.map_append, List.map_singleton]
  rcases List.eq_nil_or_concat front with rfl | ⟨others, line, rfl⟩
  · -- the only line of the text is the text, and it has no line feed
    rw [List.nil_append, List.intercalate_singleton] at htext
    have hlast : '\n' ∉ last := hfeed last (by simp)
    have hdropped : '\n' ∉ dropReturn last := fun hmem => hlast (mem_of_mem_dropReturn hmem)
    have hone : ∀ line : Text, '\n' ∉ line → ofText line = ⟨[dropReturn line], .lineFeed⟩ := by
      intro line hline
      rw [ofText, LineEnding.ofText, hasReturnFeed_eq_false hline, List.splitOn_eq_singleton hline]
      rfl
    rw [htext, hone last hlast, toText, List.intercalate_singleton, hone _ hdropped]
    simp
  · rw [ofText_toText (isFaithful_ofText text) hlines (by simp)]
    refine ⟨fun h => ?_, fun h => ?_⟩
    · have hsame := congrArg lines h
      rw [hlines] at hsame
      exact List.singleton_inj.mp (List.append_cancel_left hsame)
    · rw [h, ← hlines]

/-- A text is reproduced exactly when it does not end in a carriage return and its line feeds are
alike.  What was read is read again, with the same line ending, exactly when the text does not end
in two carriage returns. -/
theorem toText_ofText_iff (text : Text) :
    ((ofText text).toText = text ↔
        text.getLast? ≠ some '\r' ∧ (EveryFeedReturned text ∨ NoFeedReturned text)) ∧
      (ofText (ofText text).toText = ofText text ↔ ¬ ['\r', '\r'] <:+ text) := by
  obtain ⟨front, last, hsplit, htext, hfeed⟩ := exists_lines text
  constructor
  · rw [toText_ofText_eq_iff hsplit htext hfeed, EveryFeedReturned, NoFeedReturned, htext,
      forall_beforeFeed_iff (fun returned => returned) hfeed,
      forall_beforeFeed_iff Not hfeed, ne_eq, ne_eq,
      getLast?_intercalate_feed_iff]
  · rw [ofText_toText_ofText_eq_iff hsplit htext hfeed, dropReturn_dropReturn_iff]
    conv_rhs => rw [htext]
    rw [suffix_intercalate_feed_iff (by decide)]

end Snapshot
end FieldInjection
