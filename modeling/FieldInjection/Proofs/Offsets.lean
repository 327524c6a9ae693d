import FieldInjection.Proofs.LineStructure
import FieldInjection.Session
import Mathlib.Order.Monotone.Defs

/-!
# Byte offsets and lines

An editor may tell the place of the caret as a byte offset.  Three notions of a line meet there: the
line feeds among the bytes in front of the offset, the parts of the text between its line feeds, and
the lines of the snapshot, which end before a carriage return.

They agree because a line feed is one byte and no byte of any other character is that byte.  So an
offset inside a character may be moved back to where the character begins, and counting line feed
bytes is counting line feeds.  The count is a sum over the parts of a text (`lineAtOffset_append`),
from which the offsets of a line are read off: those that have all earlier lines in front of them,
and not the line feed that ends it.

## Main Definitions

* `Text.bytes`: the UTF-8 form of a text.
* `IsWholePart`: the characters that lie wholly before a byte offset.
* `IsLine`: where a line stands in a text.

## Main Statements

* `lineAtOffset_eq_count`: the line of an offset, by bytes.
* `IsLine.lineAtOffset_eq_iff`: the offsets of a line.
* `lineAtOffset_agrees`: the agreement of the three notions, and the field at an offset.
-/

namespace FieldInjection

/-- The byte of a line feed. -/
def feedByte : UInt8 := 10

/-! ## The bytes of a text -/

/-- The UTF-8 form of a text. -/
def Text.bytes (text : Text) : List UInt8 :=
  text.asString.toByteArray.data.toList

namespace Text

theorem bytes_eq_flatMap (text : Text) : bytes text = text.flatMap String.utf8EncodeChar :=
  List.toList_data_toByteArray

@[simp] theorem bytes_nil : bytes [] = [] :=
  bytes_eq_flatMap []

theorem bytes_cons (c : Char) (text : Text) :
    bytes (c :: text) = String.utf8EncodeChar c ++ bytes text := by
  rw [bytes_eq_flatMap, bytes_eq_flatMap, List.flatMap_cons]

/-- The bytes of two texts, one behind the other. -/
theorem bytes_append (left right : Text) : bytes (left ++ right) = bytes left ++ bytes right := by
  rw [bytes_eq_flatMap, bytes_eq_flatMap, bytes_eq_flatMap, List.flatMap_append]

/-- A character takes the bytes of its encoding. -/
theorem length_bytes_cons (c : Char) (text : Text) :
    (bytes (c :: text)).length = c.utf8Size + (bytes text).length := by
  rw [bytes_cons, List.length_append, String.length_utf8EncodeChar]

end Text

/-- The bytes of a character other than the line feed are other bytes. -/
theorem feedByte_not_mem_utf8EncodeChar {c : Char} (h : c ≠ '\n') :
    feedByte ∉ String.utf8EncodeChar c := by
  have hne : c.val.toNat ≠ 10 := fun heq => h (Char.ext (UInt32.toNat_inj.mp heq))
  have hbyte : ∀ code < 256, feedByte = UInt8.ofNat code → code = 10 := by
    intro code hcode heq
    have hnat := congrArg UInt8.toNat heq
    rw [UInt8.toNat_ofNat_of_lt' hcode] at hnat
    exact hnat.symm
  intro hmem
  simp only [String.utf8EncodeChar] at hmem
  -- all bytes of a longer form are 128 or more
  split_ifs at hmem <;> simp only [List.mem_cons, List.not_mem_nil, or_false] at hmem
  · exact hne (hbyte _ (by omega) hmem)
  · rcases hmem with hmem | hmem <;> exact absurd (hbyte _ (by omega) hmem) (by omega)
  · rcases hmem with hmem | hmem | hmem <;> exact absurd (hbyte _ (by omega) hmem) (by omega)
  · rcases hmem with hmem | hmem | hmem | hmem <;> exact absurd (hbyte _ (by omega) hmem) (by omega)

/-- Only a line feed has the byte of a line feed in its encoding. -/
theorem count_utf8EncodeChar (c : Char) :
    (String.utf8EncodeChar c).count feedByte = if c = '\n' then 1 else 0 := by
  split
  · next h =>
    rw [h]
    decide
  · next h => exact List.count_eq_zero.mpr (feedByte_not_mem_utf8EncodeChar h)

/-- A part of the bytes of one character has no line feed. -/
theorem count_take_utf8EncodeChar {c : Char} {offset : Nat} (h : offset < c.utf8Size) :
    ((String.utf8EncodeChar c).take offset).count feedByte = 0 := by
  by_cases hc : c = '\n'
  · obtain rfl : offset = 0 := by
      have hone : c.utf8Size = 1 := by rw [hc]; decide
      omega
    rfl
  · exact List.count_eq_zero.mpr fun hmem => feedByte_not_mem_utf8EncodeChar hc
      (List.mem_of_mem_take hmem)

/-! ## The line of an offset -/

/-- The line of an offset is the number of line feed bytes in front of the offset. -/
theorem lineAtOffset_eq_count (text : Text) (offset : Nat) :
    lineAtOffset text offset = (text.bytes.take offset).count feedByte := by
  induction text generalizing offset with
  | nil => simp [lineAtOffset]
  | cons c text ih =>
    rw [Text.bytes_cons, List.take_append, List.count_append,
      String.length_utf8EncodeChar, lineAtOffset]
    split
    · next hinside =>
      -- the offset lies inside the first character
      rw [count_take_utf8EncodeChar hinside, Nat.sub_eq_zero_of_le (Nat.le_of_lt hinside)]
      rfl
    · next hbehind =>
      have hwhole : (String.utf8EncodeChar c).length ≤ offset := by
        rw [String.length_utf8EncodeChar]
        omega
      rw [List.take_of_length_le hwhole, count_utf8EncodeChar, ih]

/-- An offset behind the first text counts the line feeds of that text and goes on in the second.
-/
theorem lineAtOffset_append (left right : Text) (offset : Nat) :
    lineAtOffset (left ++ right) offset =
      lineAtOffset left offset + lineAtOffset right (offset - left.bytes.length) := by
  simp only [lineAtOffset_eq_count, Text.bytes_append, List.take_append, List.count_append]

/-- The bytes of line feeds are the line feeds. -/
theorem count_bytes (text : Text) : text.bytes.count feedByte = text.count '\n' := by
  induction text with
  | nil => rfl
  | cons c text ih =>
    rw [Text.bytes_cons, List.count_append, count_utf8EncodeChar, ih, List.count_cons, Nat.add_comm]
    simp

/-- An offset behind the text counts all of its line feeds. -/
theorem lineAtOffset_of_le {text : Text} {offset : Nat} (h : text.bytes.length ≤ offset) :
    lineAtOffset text offset = text.count '\n' := by
  rw [lineAtOffset_eq_count, List.take_of_length_le h, count_bytes]

/-- No offset counts more line feeds than there are. -/
theorem lineAtOffset_le_count (text : Text) (offset : Nat) :
    lineAtOffset text offset ≤ text.count '\n' := by
  rw [lineAtOffset_eq_count, ← count_bytes]
  exact (List.take_sublist offset text.bytes).count_le feedByte

/-- All offsets of a text without line feeds are on its first line. -/
theorem lineAtOffset_of_not_mem {text : Text} (h : '\n' ∉ text) (offset : Nat) :
    lineAtOffset text offset = 0 := by
  have hle := lineAtOffset_le_count text offset
  rw [List.count_eq_zero.mpr h] at hle
  omega

theorem monotone_lineAtOffset (text : Text) : Monotone (lineAtOffset text) := by
  intro offset later hle
  rw [lineAtOffset_eq_count, lineAtOffset_eq_count]
  exact (List.take_prefix_take_left hle).sublist.count_le feedByte

/-- Every offset is on a line of the snapshot. -/
theorem lineAtOffset_lt_size (text : Text) (offset : Nat) :
    lineAtOffset text offset < (Snapshot.ofText text).size := by
  rw [Snapshot.size, Snapshot.ofText, List.length_map, length_splitOn]
  exact Nat.lt_succ_of_le (lineAtOffset_le_count text offset)

/-! ## Offsets inside a character -/

/-- The longest beginning of a text that ends at or before a byte offset. -/
structure IsWholePart (text : Text) (offset : Nat) (whole : Text) : Prop where
  /-- It is a beginning of the text. -/
  isPrefix : whole <+: text
  /-- It ends at the offset or before. -/
  length_le : whole.bytes.length ≤ offset
  /-- No longer one does. -/
  longest : ∀ other : Text, other <+: text → other.bytes.length ≤ offset → other <+: whole

/-- Moving an offset back to where a character begins keeps the line. -/
theorem exists_isWholePart (text : Text) (offset : Nat) :
    ∃ whole, IsWholePart text offset whole ∧ lineAtOffset text offset = whole.count '\n' := by
  induction text generalizing offset with
  | nil => exact ⟨[], ⟨List.nil_prefix, Nat.zero_le _, fun other hother _ => hother⟩, rfl⟩
  | cons c text ih =>
    rw [lineAtOffset]
    split
    · next hinside =>
      refine ⟨[], ⟨List.nil_prefix, Nat.zero_le _, fun other hother hlength => ?_⟩, rfl⟩
      cases other with
      | nil => exact List.nil_prefix
      | cons d other =>
        obtain ⟨rfl, -⟩ := List.cons_prefix_cons.mp hother
        rw [Text.length_bytes_cons] at hlength
        omega
    · next hbehind =>
      obtain ⟨whole, ⟨hwhole, hlength, hlongest⟩, hcount⟩ := ih (offset - c.utf8Size)
      refine ⟨c :: whole, ⟨?_, ?_, fun other hother hother' => ?_⟩, ?_⟩
      · exact List.cons_prefix_cons.mpr ⟨rfl, hwhole⟩
      · rw [Text.length_bytes_cons]
        omega
      · cases other with
        | nil => exact List.nil_prefix
        | cons d other =>
          obtain ⟨rfl, hrest⟩ := List.cons_prefix_cons.mp hother
          rw [Text.length_bytes_cons] at hother'
          exact List.cons_prefix_cons.mpr ⟨rfl, hlongest other hrest (by omega)⟩
      · rw [hcount, List.count_cons, Nat.add_comm]
        simp

/-! ## The offsets of a line -/

/-- A line of a text with what stands before and after it: the earlier lines, each with the line
feed that ends it, and the line feed that ends the line itself, unless the text ends there. -/
structure IsLine (text : Text) (number : Nat) (before line after : Text) : Prop where
  /-- The text is made up of the three. -/
  text_eq : text = before ++ line ++ after
  /-- As many lines end before the line as its number says. -/
  count_before : before.count '\n' = number
  /-- The line begins where the line before it has ended. -/
  begins : before = [] ∨ before.getLast? = some '\n'
  /-- It has no end inside. -/
  inside : '\n' ∉ line
  /-- It ends with the text or in a line feed. -/
  ends : after = [] ∨ after.head? = some '\n'

/-- Up to the end of the earlier lines, an offset is on one of them. -/
theorem IsLine.lineAtOffset_before_eq_iff {text before line after : Text} {number : Nat}
    (h : IsLine text number before line after) (offset : Nat) :
    lineAtOffset before offset = number ↔ before.bytes.length ≤ offset := by
  refine ⟨fun heq => ?_, fun hle => by rw [lineAtOffset_of_le hle, h.count_before]⟩
  have hcount := h.count_before
  rcases h.begins with rfl | hlast
  · simp
  · by_contra hlate
    obtain ⟨front, rfl⟩ := List.getLast?_eq_some_iff.mp hlast
    rw [Text.bytes_append, List.length_append] at hlate
    have hone : (Text.bytes ['\n']).length = 1 := by decide
    have hzero : offset - (Text.bytes front).length = 0 := by omega
    have hfeed : lineAtOffset ['\n'] 0 = 0 := rfl
    have hfront := lineAtOffset_le_count front offset
    rw [lineAtOffset_append, hzero, hfeed] at heq
    rw [List.count_append] at hcount
    have hfeedCount : List.count '\n' ['\n'] = 1 := by decide
    omega

/-- The line feed that ends a line is counted from the offset behind it on. -/
theorem IsLine.lineAtOffset_after_eq_zero_iff {text before line after : Text} {number : Nat}
    (h : IsLine text number before line after) (offset : Nat) :
    lineAtOffset after offset = 0 ↔ (after ≠ [] → offset = 0) := by
  rcases h.ends with rfl | hhead
  · simp [lineAtOffset]
  · obtain ⟨rest, rfl⟩ : ∃ rest, after = '\n' :: rest := by
      cases after with
      | nil => simp at hhead
      | cons c rest => exact ⟨rest, by rw [Option.some.inj hhead]⟩
    have hone : '\n'.utf8Size = 1 := by decide
    rw [lineAtOffset, hone]
    by_cases hzero : offset = 0
    · simp [hzero]
    · simp [hzero]

/-- The offsets of a line run from its first byte up to the line feed that ends it; those of the
last line have no end. -/
theorem IsLine.lineAtOffset_eq_iff {text before line after : Text} {number : Nat}
    (h : IsLine text number before line after) (offset : Nat) :
    lineAtOffset text offset = number ↔
      before.bytes.length ≤ offset ∧
        (after ≠ [] → offset ≤ before.bytes.length + line.bytes.length) := by
  have hsum : lineAtOffset text offset = lineAtOffset before offset +
      lineAtOffset after (offset - (before.bytes.length + line.bytes.length)) := by
    rw [h.text_eq, lineAtOffset_append, lineAtOffset_append, lineAtOffset_of_not_mem h.inside,
      Text.bytes_append, List.length_append, Nat.add_zero]
  have hbefore := h.lineAtOffset_before_eq_iff offset
  have hafter := h.lineAtOffset_after_eq_zero_iff
    (offset - (before.bytes.length + line.bytes.length))
  have hle := lineAtOffset_le_count before offset
  rw [h.count_before] at hle
  rw [Nat.sub_eq_zero_iff_le] at hafter
  rw [hsum, ← hafter]
  constructor
  · intro heq
    have hreached : before.bytes.length ≤ offset := by
      by_contra hshort
      have hnone := hafter.mpr fun _ => by omega
      have hne : lineAtOffset before offset ≠ number := mt hbefore.mp hshort
      omega
    exact ⟨hreached, by have hall := hbefore.mpr hreached; omega⟩
  · rintro ⟨hreached, hnone⟩
    rw [hbefore.mpr hreached, hnone, Nat.add_zero]

/-! ## The lines of a text and of its snapshot -/

/-- The text up to a line ends each line in front of it with a line feed. -/
theorem intercalate_feed_append (front behind : List Text) (line : Text) :
    ['\n'].intercalate (front ++ line :: behind) =
      front.flatMap (· ++ ['\n']) ++ line ++ behind.flatMap ('\n' :: ·) := by
  induction front with
  | nil => exact intercalate_eq_flatMap ['\n'] line behind
  | cons first front ih =>
    rw [List.cons_append, List.intercalate_cons_of_ne_nil (by simp), ih]
    simp

/-- Every part between the line feeds of a text is a line of it. -/
theorem exists_isLine {text line : Text} {number : Nat}
    (h : (text.splitOn '\n')[number]? = some line) :
    ∃ before after, IsLine text number before line after := by
  obtain ⟨hnumber, hline⟩ := List.getElem?_eq_some_iff.mp h
  have hsplit : text.splitOn '\n' =
      (text.splitOn '\n').take number ++ line :: (text.splitOn '\n').drop (number + 1) := by
    rw [← hline, ← List.drop_eq_getElem_cons hnumber, List.take_append_drop]
  generalize hfront : (text.splitOn '\n').take number = front at hsplit
  generalize (text.splitOn '\n').drop (number + 1) = behind at hsplit
  have hlength : front.length = number := by
    rw [← hfront, List.length_take]
    omega
  have hfeed : ∀ other ∈ front ++ line :: behind, '\n' ∉ other := by
    rw [← hsplit]
    exact fun other hother => not_mem_of_mem_splitOn hother
  refine ⟨front.flatMap (· ++ ['\n']), behind.flatMap ('\n' :: ·), ?_, ?_, ?_,
    hfeed line (by simp), ?_⟩
  · rw [← intercalate_feed_append, ← hsplit, List.intercalate_splitOn]
  · have hones : front.map (fun other => (other ++ ['\n']).count '\n') = front.map fun _ => 1 := by
      refine List.map_congr_left fun other hother => ?_
      rw [List.count_append, List.count_eq_zero.mpr (hfeed other (by simp [hother]))]
      rfl
    rw [List.count_flatMap, ← hlength]
    simpa [Function.comp_def] using congrArg List.sum hones
  · rcases List.eq_nil_or_concat front with rfl | ⟨others, last, rfl⟩
    · exact Or.inl rfl
    · exact Or.inr (by simp)
  · cases behind with
    | nil => exact Or.inl rfl
    | cons next behind => exact Or.inr rfl

/-- A carriage return at the end of a line has no influence on the name that is read. -/
theorem declaredFieldName?_dropReturn (line : Text) :
    declaredFieldName? (dropReturn line) = declaredFieldName? line := by
  simp only [declaredFieldName?, declaredFieldNames, trim_dropReturn]

/-- The lines of a snapshot are those of the text, without carriage returns. -/
theorem getElem?_splitOn_of_lt_size {text : Text} {number : Nat}
    (h : number < (Snapshot.ofText text).size) :
    ∃ line, (text.splitOn '\n')[number]? = some line ∧
      (Snapshot.ofText text).line? number = some (dropReturn line) := by
  rw [Snapshot.size, Snapshot.ofText, List.length_map] at h
  exact ⟨_, List.getElem?_eq_getElem h, by simp [Snapshot.line?, Snapshot.ofText, h]⟩

/-- The line of a byte offset is the number of line feed bytes in front of it, and moving the offset
back to where a character begins loses none.  It grows with the offset and is a line of the
snapshot.  The offsets of a line run from its first byte up to the line feed that ends it, those of
the last line without end.  The field at an offset is the one that this line of the snapshot
declares. -/
theorem lineAtOffset_agrees (text : Text) :
    (∀ offset,
      lineAtOffset text offset = (text.bytes.take (min offset text.bytes.length)).count feedByte ∧
        ∃ whole, IsWholePart text offset whole ∧ lineAtOffset text offset = whole.count '\n') ∧
      Monotone (lineAtOffset text) ∧
      (∀ offset, lineAtOffset text offset < (Snapshot.ofText text).size) ∧
      (∀ number < (Snapshot.ofText text).size, ∃ before line after,
        IsLine text number before line after ∧
        (Snapshot.ofText text).line? number = some (dropReturn line) ∧
        ∀ offset, lineAtOffset text offset = number ↔
          before.bytes.length ≤ offset ∧
            (after ≠ [] → offset ≤ before.bytes.length + line.bytes.length)) ∧
      ∀ offset, ∃ line, (Snapshot.ofText text).line? (lineAtOffset text offset) = some line ∧
        fieldAtOffset? text offset = declaredFieldName? line := by
  refine ⟨fun offset => ⟨?_, exists_isWholePart text offset⟩, monotone_lineAtOffset text,
    lineAtOffset_lt_size text, fun number hnumber => ?_, fun offset => ?_⟩
  · rw [lineAtOffset_eq_count, ← List.take_eq_take_min]
  · obtain ⟨line, hsplit, hline⟩ := getElem?_splitOn_of_lt_size hnumber
    obtain ⟨before, after, hline'⟩ := exists_isLine hsplit
    exact ⟨before, line, after, hline', hline, hline'.lineAtOffset_eq_iff⟩
  · obtain ⟨line, hsplit, hline⟩ := getElem?_splitOn_of_lt_size (lineAtOffset_lt_size text offset)
    refine ⟨_, hline, ?_⟩
    rw [declaredFieldName?_dropReturn, fieldAtOffset?, fieldAtLine?, hsplit, Option.bind_some]

/-- A text with a character of two bytes and with lines of both endings. -/
def mixedText : Text := "// é\r\n    private IFoo _foo;\n\x7d".toList

/-- The second line has the offsets from 7 to 29, and an offset inside a character is on its
line. -/
theorem mixedText_offsets :
    1 < (Snapshot.ofText mixedText).size ∧
      (∃ before line after, IsLine mixedText 1 before line after ∧
        before.bytes.length = 7 ∧ after ≠ [] ∧ before.bytes.length + line.bytes.length = 29) ∧
      lineAtOffset mixedText 4 = 0 ∧ fieldAtOffset? mixedText 29 = some "_foo".toList := by
  have hsize : 1 < (Snapshot.ofText mixedText).size := by decide
  obtain ⟨-, -, -, hlines, hfields⟩ := lineAtOffset_agrees mixedText
  obtain ⟨before, line, after, hline, -, hoffsets⟩ := hlines 1 hsize
  have hends : lineAtOffset mixedText 6 = 0 ∧ lineAtOffset mixedText 7 = 1 ∧
      lineAtOffset mixedText 29 = 1 ∧ lineAtOffset mixedText 30 = 2 := by decide
  have hfirst := (hoffsets 7).mp hends.2.1
  have hlast := (hoffsets 29).mp hends.2.2.1
  have hearly := mt (hoffsets 6).mpr (by rw [hends.1]; decide)
  have hlate := mt (hoffsets 30).mpr (by rw [hends.2.2.2]; decide)
  have hmore : after ≠ [] := fun hnone => hlate ⟨by omega, fun hmore => absurd hnone hmore⟩
  simp only [hmore, not_false_eq_true, forall_true_left, ne_eq] at hfirst hlast hearly hlate
  obtain ⟨found, hfound, hfield⟩ := hfields 29
  rw [hends.2.2.1] at hfound
  obtain rfl := Option.some.inj hfound
  exact ⟨hsize, ⟨before, line, after, hline, by omega, hmore, by omega⟩, by decide, hfield⟩

end FieldInjection
