import FieldInjection.Proofs.Cutting
import FieldInjection.Snapshot
import Mathlib.Data.List.Basic
import Mathlib.Data.List.ModifyLast

/-!
# Reading back what was written

The lines of a snapshot have no line feed, and where the document is written with line feeds alone,
no line but the last ends in a carriage return.  A snapshot with these two properties is read back
line by line from its text.  Only the last line may lose a carriage return at its end, since one is
cut off it when it is read again.

## Main Definitions

* `Snapshot.IsFaithful`: the two properties.
* `Snapshot.reread`: a document without the carriage return that is lost.

## Main Statements

* `Snapshot.isFaithful_ofText`: every document that was read has them.
* `Snapshot.ofText_toText`: reading back what was written.
* `Snapshot.IsFaithful.insertLines`: new lines keep them.
* `Snapshot.ofText_toText_insertLines`: reading back a document with new lines.
-/

namespace FieldInjection

/-! ## Line feeds and carriage returns -/

/-- No part of a split has the character that was split at. -/
theorem not_mem_of_mem_splitOn {mark : Char} {text line : Text} (h : line ∈ text.splitOn mark) :
    mark ∉ line := by
  induction text generalizing line with
  | nil =>
    rw [List.splitOn_nil, List.mem_singleton] at h
    simp [h]
  | cons c text ih =>
    rw [List.splitOn_cons_eq_if_modifyHead] at h
    split at h
    · rcases List.mem_cons.mp h with rfl | h
      · simp
      · exact ih h
    · next hc =>
      obtain ⟨first, others, hsplit⟩ := List.exists_cons_of_ne_nil (List.splitOn_ne_nil mark text)
      rw [hsplit, List.modifyHead_cons, List.mem_cons] at h
      rcases h with rfl | h
      · have hfirst : mark ∉ first := ih (hsplit ▸ List.mem_cons_self)
        have hne : mark ≠ c := fun heq => hc (by simp [heq])
        simp [hfirst, hne]
      · exact ih (hsplit ▸ List.mem_cons_of_mem _ h)

/-- One carriage return is dropped. -/
theorem dropReturn_append_return (line : Text) : dropReturn (line ++ ['\r']) = line := by
  simp [dropReturn]

/-- A line that does not end with a carriage return stays as it is. -/
theorem dropReturn_eq_self {line : Text} (h : line.getLast? ≠ some '\r') :
    dropReturn line = line := by
  rw [dropReturn, if_neg h]

/-- A carriage return is a blank, so it does not survive trimming in any case. -/
theorem trim_dropReturn (line : Text) : (dropReturn line).trim = line.trim := by
  rw [dropReturn]
  split
  · next hlast =>
    obtain ⟨front, rfl⟩ := List.getLast?_eq_some_iff.mp hlast
    rw [List.dropLast_concat, Text.trim_append_blank (by decide)]
  · rfl

theorem mem_of_mem_dropReturn {line : Text} {c : Char} (hc : c ∈ dropReturn line) : c ∈ line := by
  rw [dropReturn] at hc
  split at hc
  · exact List.dropLast_subset _ hc
  · exact hc

/-- Between two parts of a text, only the end of the first decides about a carriage return. -/
theorem hasReturnFeed_append_cons {line rest : Text} (h : '\n' ∉ line) :
    hasReturnFeed (line ++ '\n' :: rest) =
      (decide (line.getLast? = some '\r') || hasReturnFeed rest) := by
  induction line with
  | nil => simp [hasReturnFeed]
  | cons c line ih =>
    simp only [List.mem_cons, not_or] at h
    rw [List.cons_append, hasReturnFeed, ih h.2]
    cases line with
    | nil => rw [Bool.eq_iff_iff]; simp
    | cons d line =>
      have hd : d ≠ '\n' := fun heq => h.2 (by simp [heq])
      simp [hd]

theorem hasReturnFeed_eq_false {line : Text} (h : '\n' ∉ line) : hasReturnFeed line = false := by
  induction line with
  | nil => rfl
  | cons c line ih =>
    simp only [List.mem_cons, not_or] at h
    rw [hasReturnFeed, ih h.2]
    cases line with
    | nil => simp
    | cons d line =>
      have hd : d ≠ '\n' := fun heq => h.2 (by simp [heq])
      simp [hd]

/-- The first of several lines, with the line feed behind it. -/
theorem intercalate_feed_cons (line : Text) (front : List Text) (last : Text) :
    ['\n'].intercalate (line :: front ++ [last]) =
      line ++ '\n' :: ['\n'].intercalate (front ++ [last]) := by
  rw [List.cons_append, List.intercalate_cons_of_ne_nil (by simp)]
  simp

/-- A text has a carriage return before a line feed exactly when a line but the last ends in one. -/
theorem hasReturnFeed_intercalate {front : List Text} {last : Text}
    (h : ∀ line ∈ front ++ [last], '\n' ∉ line) :
    hasReturnFeed (['\n'].intercalate (front ++ [last])) = true ↔
      ∃ line ∈ front, line.getLast? = some '\r' := by
  induction front with
  | nil =>
    have hlast : '\n' ∉ last := h last (by simp)
    simp [hasReturnFeed_eq_false hlast]
  | cons line front ih =>
    have hline : '\n' ∉ line := h line (by simp)
    have hrest := ih fun other hother => h other (by simp [hother])
    rw [intercalate_feed_cons, hasReturnFeed_append_cons hline, Bool.or_eq_true, hrest]
    simp

/-- Carriage returns can be moved from the line ending to the lines. -/
theorem intercalate_return_feed (front : List Text) (last : Text) :
    ['\r', '\n'].intercalate (front ++ [last]) =
      ['\n'].intercalate (front.map (· ++ ['\r']) ++ [last]) := by
  induction front with
  | nil => simp
  | cons line front ih =>
    rw [List.cons_append, List.intercalate_cons_of_ne_nil (by simp), ih, List.map_cons,
      List.cons_append, List.intercalate_cons_of_ne_nil (by simp)]
    simp

namespace Snapshot

/-! ## Faithful snapshots -/

/-- No line has a line feed, and with line feeds alone no line but the last ends in a carriage
return. -/
structure IsFaithful (snapshot : Snapshot) : Prop where
  /-- There is at least one line. -/
  ne_nil : snapshot.lines ≠ []
  /-- No line has a line feed. -/
  no_feed : ∀ line ∈ snapshot.lines, '\n' ∉ line
  /-- A carriage return at the end of a line would be read as part of its ending. -/
  no_return : snapshot.ending = .lineFeed →
    ∀ line ∈ snapshot.lines.dropLast, line.getLast? ≠ some '\r'

/-- A document that was read is faithful. -/
theorem isFaithful_ofText (text : Text) : (ofText text).IsFaithful := by
  have hfeed : ∀ line ∈ text.splitOn '\n', '\n' ∉ line := fun line => not_mem_of_mem_splitOn
  refine ⟨by simp [ofText], ?_, ?_⟩
  · intro line hline hmem
    obtain ⟨raw, hraw, rfl⟩ := List.mem_map.mp hline
    exact hfeed raw hraw (mem_of_mem_dropReturn hmem)
  · intro hending line hline
    obtain ⟨front, last, hsplit⟩ : ∃ front last, text.splitOn '\n' = front ++ [last] :=
      ⟨_, _, (List.dropLast_concat_getLast (List.splitOn_ne_nil '\n' text)).symm⟩
    have hnone : hasReturnFeed text = false := by
      simp only [ofText, LineEnding.ofText] at hending
      split at hending
      · simp at hending
      · next h => simpa using h
    have hjoined : text = ['\n'].intercalate (front ++ [last]) := by
      rw [← hsplit, List.intercalate_splitOn]
    have hfront : ∀ raw ∈ front, raw.getLast? ≠ some '\r' := by
      intro raw hraw hreturn
      have htrue := (hasReturnFeed_intercalate (hsplit ▸ hfeed)).mpr ⟨raw, hraw, hreturn⟩
      rw [← hjoined, hnone] at htrue
      exact Bool.false_ne_true htrue
    have hlines : (ofText text).lines.dropLast = front.map dropReturn := by
      simp [ofText, hsplit]
    rw [hlines] at hline
    obtain ⟨raw, hraw, rfl⟩ := List.mem_map.mp hline
    rw [dropReturn_eq_self (hfront raw hraw)]
    exact hfront raw hraw

/-- A faithful snapshot has a last line. -/
theorem exists_lines_eq {snapshot : Snapshot} (h : snapshot.IsFaithful) :
    ∃ front last, snapshot.lines = front ++ [last] :=
  ⟨_, _, (List.dropLast_concat_getLast h.ne_nil).symm⟩

/-- A faithful snapshot of at least two lines is read back from its text, up to a carriage return at
the end of its last line. -/
theorem ofText_toText {snapshot : Snapshot} {front : List Text} {last : Text}
    (h : snapshot.IsFaithful) (hlines : snapshot.lines = front ++ [last]) (hfront : front ≠ []) :
    ofText snapshot.toText = ⟨front ++ [dropReturn last], snapshot.ending⟩ := by
  have hfeed : ∀ line ∈ front ++ [last], '\n' ∉ line := hlines ▸ h.no_feed
  cases hending : snapshot.ending with
  | lineFeed =>
    have hreturn : ∀ line ∈ front, line.getLast? ≠ some '\r' := by
      have hnone := h.no_return hending
      rwa [hlines, List.dropLast_concat] at hnone
    have htext : snapshot.toText = ['\n'].intercalate (front ++ [last]) := by
      rw [toText, hlines, hending, LineEnding.text]
    have hsplit : snapshot.toText.splitOn '\n' = front ++ [last] := by
      rw [htext, List.splitOn_intercalate '\n' hfeed (by simp)]
    have hsame : front.map dropReturn = front := by
      refine (List.map_congr_left fun line hline => ?_).trans (List.map_id front)
      exact dropReturn_eq_self (hreturn line hline)
    have hnone : hasReturnFeed snapshot.toText = false := by
      rw [htext, ← Bool.not_eq_true, hasReturnFeed_intercalate hfeed]
      rintro ⟨line, hline, hlast⟩
      exact hreturn line hline hlast
    rw [ofText, hsplit, LineEnding.ofText, hnone]
    simp [hsame]
  | carriageReturnLineFeed =>
    have htext : snapshot.toText = ['\n'].intercalate (front.map (· ++ ['\r']) ++ [last]) := by
      rw [toText, hlines, hending, LineEnding.text, intercalate_return_feed]
    have hfeed' : ∀ line ∈ front.map (· ++ ['\r']) ++ [last], '\n' ∉ line := by
      intro line hline
      rcases List.mem_append.mp hline with hline | hline
      · obtain ⟨raw, hraw, rfl⟩ := List.mem_map.mp hline
        simpa using hfeed raw (by simp [hraw])
      · exact hfeed line (List.mem_append_right _ hline)
    have hsplit : snapshot.toText.splitOn '\n' = front.map (· ++ ['\r']) ++ [last] := by
      rw [htext, List.splitOn_intercalate '\n' hfeed' (by simp)]
    have hsome : hasReturnFeed snapshot.toText = true := by
      obtain ⟨line, rest, rfl⟩ := List.exists_cons_of_ne_nil hfront
      rw [htext, hasReturnFeed_intercalate hfeed']
      exact ⟨line ++ ['\r'], by simp, by simp⟩
    have hsame : (front.map (· ++ ['\r'])).map dropReturn = front := by
      rw [List.map_map]
      refine (List.map_congr_left fun line _ => ?_).trans (List.map_id front)
      exact dropReturn_append_return line
    rw [ofText, hsplit, LineEnding.ofText, hsome, List.map_append, hsame]
    rfl

/-! ## Edits -/

/-- Lines that are inserted in front of the last one leave it the last. -/
theorem lines_insertLines_concat {snapshot : Snapshot} {front : List Text} {last : Text}
    (hlines : snapshot.lines = front ++ [last]) {index : Nat} (added : List Text)
    (hle : index ≤ front.length) :
    (snapshot.insertLines index added).lines =
      (front.take index ++ added ++ front.drop index) ++ [last] := by
  rw [insertLines, hlines, List.take_append_of_le_length hle, List.drop_append_of_le_length hle]
  simp

/-- Lines without line feeds that end in no carriage return can be put before any line. -/
theorem IsFaithful.insertLines {snapshot : Snapshot} (h : snapshot.IsFaithful) {index : Nat}
    {added : List Text} (hindex : index < snapshot.size)
    (hadded : ∀ line ∈ added, '\n' ∉ line ∧ line.getLast? ≠ some '\r') :
    (snapshot.insertLines index added).IsFaithful := by
  obtain ⟨front, last, hlines⟩ := exists_lines_eq h
  have hle : index ≤ front.length := by
    rw [size, hlines, List.length_append, List.length_singleton] at hindex
    omega
  have hedited := lines_insertLines_concat hlines added hle
  have hmem : ∀ line ∈ front.take index ++ added ++ front.drop index,
      line ∈ front ∨ line ∈ added := by
    intro line hline
    simp only [List.mem_append] at hline
    rcases hline with (hline | hline) | hline
    · exact Or.inl (List.mem_of_mem_take hline)
    · exact Or.inr hline
    · exact Or.inl (List.mem_of_mem_drop hline)
  have hfeed := h.no_feed
  have hreturn := h.no_return
  rw [hlines] at hfeed hreturn
  rw [List.dropLast_concat] at hreturn
  refine ⟨by rw [hedited]; simp, ?_, ?_⟩
  · intro line hline
    rw [hedited, List.mem_append] at hline
    rcases hline with hline | hline
    · rcases hmem line hline with hold | hnew
      · exact hfeed line (by simp [hold])
      · exact (hadded line hnew).1
    · exact hfeed line (List.mem_append_right _ hline)
  · intro hending line hline
    rw [hedited, List.dropLast_concat] at hline
    rcases hmem line hline with hold | hnew
    · exact hreturn hending line hold
    · exact (hadded line hnew).2

/-- A document as it is read after it was written: a carriage return at its very end is lost. -/
def reread (snapshot : Snapshot) : Snapshot :=
  { snapshot with lines := snapshot.lines.modifyLast dropReturn }

/-- Reading again drops a carriage return from the last line and from no other. -/
theorem lines_reread_concat {snapshot : Snapshot} {front : List Text} {last : Text}
    (hlines : snapshot.lines = front ++ [last]) :
    snapshot.reread.lines = front ++ [dropReturn last] := by
  rw [reread, hlines, List.modifyLast_concat]

/-- All lines but the last are as they were. -/
theorem take_lines_reread {snapshot : Snapshot} {count : Nat} (hcount : count < snapshot.size) :
    snapshot.reread.lines.take count = snapshot.lines.take count := by
  have hne : snapshot.lines ≠ [] := List.ne_nil_of_length_pos (Nat.zero_lt_of_lt hcount)
  obtain ⟨front, last, hlines⟩ : ∃ front last, snapshot.lines = front ++ [last] :=
    ⟨_, _, (List.dropLast_concat_getLast hne).symm⟩
  have hle : count ≤ front.length := by
    rw [size, hlines, List.length_append, List.length_singleton] at hcount
    omega
  rw [lines_reread_concat hlines, hlines, List.take_append_of_le_length hle,
    List.take_append_of_le_length hle]

/-- Reading again keeps the number of lines. -/
theorem size_reread (snapshot : Snapshot) : snapshot.reread.size = snapshot.size := by
  rcases List.eq_nil_or_concat' snapshot.lines with hnil | ⟨front, last, hlines⟩
  · rw [size, size, reread, hnil]
    rfl
  · rw [size, size, lines_reread_concat hlines, hlines]
    simp

/-- What does not depend on a carriage return at the end of a line is as it was. -/
theorem map_lines_reread {α : Type} {read : Text → α}
    (hread : ∀ line, read (dropReturn line) = read line) (snapshot : Snapshot) :
    snapshot.reread.lines.map read = snapshot.lines.map read := by
  rcases List.eq_nil_or_concat' snapshot.lines with hnil | ⟨front, last, hlines⟩
  · rw [reread, hnil]
    rfl
  · rw [lines_reread_concat hlines, hlines]
    simp [hread]

/-- A document with new lines is read back as the document that is read back, with the new lines. -/
theorem ofText_toText_insertLines {snapshot : Snapshot} (h : snapshot.IsFaithful) {index : Nat}
    {added : List Text} (hindex : index < snapshot.size) (hne : added ≠ [])
    (hadded : ∀ line ∈ added, '\n' ∉ line ∧ line.getLast? ≠ some '\r') :
    ofText (snapshot.insertLines index added).toText = snapshot.reread.insertLines index added := by
  obtain ⟨front, last, hlines⟩ := exists_lines_eq h
  have hle : index ≤ front.length := by
    rw [size, hlines, List.length_append, List.length_singleton] at hindex
    omega
  rw [ofText_toText (h.insertLines hindex hadded) (lines_insertLines_concat hlines added hle)
    (by simp [hne]), ← lines_insertLines_concat (lines_reread_concat hlines) added hle]
  rfl

end Snapshot
end FieldInjection
