import FieldInjection.Text.Basic

/-!
# Joined texts

The lines of a document, the entries of a list and the parts of a dotted name are all joined by one
text between each two of them.  A joined text is its first part with the others behind it, each with
the separator in front; the other facts here follow from that.

## Main Statements

* `intercalate_eq_flatMap`: a joined text by its parts.
* `intercalate_concat`: one more part at the end.
* `of_mem_intercalate`, `mem_intercalate_of_mem`: the characters of a joined text.
-/

namespace FieldInjection

variable {separator entry : Text} {entries : List Text} {c : Char}

/-- Joining writes the first entry, and then each other one behind a separator. -/
theorem intercalate_eq_flatMap (separator first : Text) (others : List Text) :
    separator.intercalate (first :: others) = first ++ others.flatMap (separator ++ ·) := by
  induction others generalizing first with
  | nil => simp
  | cons second others ih =>
    rw [List.intercalate_cons_cons, ih, List.flatMap_cons]
    simp only [List.append_assoc]

/-- What the first part begins with, the joined text begins with. -/
theorem intercalate_append_cons (separator left right : Text) (others : List Text) :
    separator.intercalate ((left ++ right) :: others) =
      left ++ separator.intercalate (right :: others) := by
  rw [intercalate_eq_flatMap, intercalate_eq_flatMap, List.append_assoc]

/-- One more entry is written behind the others and a separator. -/
theorem intercalate_concat (hne : entries ≠ []) :
    separator.intercalate (entries ++ [entry]) = separator.intercalate entries ++
      separator ++ entry := by
  obtain ⟨first, others, rfl⟩ := List.exists_cons_of_ne_nil hne
  rw [List.cons_append, intercalate_eq_flatMap, intercalate_eq_flatMap, List.flatMap_append]
  simp

/-- Joining brings in no characters but those of the separator. -/
theorem of_mem_intercalate (hc : c ∈ separator.intercalate entries) :
    c ∈ separator ∨ ∃ entry ∈ entries, c ∈ entry := by
  cases entries with
  | nil => simp at hc
  | cons first others =>
    rw [intercalate_eq_flatMap, List.mem_append, List.mem_flatMap] at hc
    rcases hc with hc | ⟨entry, hentry, hc⟩
    · exact Or.inr ⟨first, List.mem_cons_self, hc⟩
    · exact (List.mem_append.mp hc).imp id fun hc => ⟨entry, List.mem_cons_of_mem _ hentry, hc⟩

theorem mem_intercalate_of_mem (hentry : entry ∈ entries) (hc : c ∈ entry) :
    c ∈ separator.intercalate entries := by
  cases entries with
  | nil => simp at hentry
  | cons first others =>
    rw [intercalate_eq_flatMap, List.mem_append, List.mem_flatMap]
    rcases List.mem_cons.mp hentry with rfl | hentry
    · exact Or.inl hc
    · exact Or.inr ⟨entry, hentry, List.mem_append_right _ hc⟩

end FieldInjection
