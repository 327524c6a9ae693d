import FieldInjection.Proofs.Configurations
import FieldInjection.Proofs.Locations
import FieldInjection.Proofs.Methods

/-!
# Documents that go on alike

Two documents go on alike if the lines of the one from some line on are those of the other from some
later line on, but for the blanks around them.  All readers of lines trim them first, or look for
marks and names only.  So a class of the first document is a class of the second one, so many lines
later.

## Main Definitions

* `GoesOnAs`: from a line on, a document goes on as another does some lines later.

## Main Statements

* `GoesOnAs.blockEnd_eq`, `GoesOnAs.headerAt`, `GoesOnAs.findClassSpan_eq`: blocks, headers and
  class bodies move along.
* `GoesOnAs.findInjectionMethodIn_eq_none`: so does the absence of an injection method.
* `GoesOnAs.locateField_eq`: a field moves along, if no line that comes before declares it.
* `GoesOnAs.locateInLines_eq`: the location of a field in a class without an injection method.
-/

namespace FieldInjection

/-! ## Lines that are alike when trimmed -/

section Trimmed

variable {lines others : List Text} (htrim : others.map Text.trim = lines.map Text.trim)

include htrim

theorem map_braceDelta_of_map_trim : others.map braceDelta = lines.map braceDelta := by
  have hmap : ∀ texts : List Text, texts.map braceDelta = (texts.map Text.trim).map braceDelta := by
    intro texts
    rw [List.map_map]
    exact List.map_congr_left fun text _ => (braceDelta_trim text).symm
  rw [hmap others, htrim, ← hmap lines]

/-- A header is read off trimmed lines. -/
theorem headerText_of_map_trim : headerText others = headerText lines := by
  induction lines generalizing others with
  | nil =>
    obtain rfl : others = [] := by simpa using htrim
    rfl
  | cons line lines ih =>
    obtain ⟨other, others, rfl, hfirst, hrest⟩ := List.map_eq_cons_iff.mp htrim
    simp only [headerText, hfirst, ih hrest]

/-- The first brace is on the same line. -/
theorem findIdx?_openBrace_of_map_trim :
    others.findIdx? (·.contains openBrace) = lines.findIdx? (·.contains openBrace) := by
  have hmap : ∀ texts : List Text, texts.findIdx? (·.contains openBrace) =
      (texts.map Text.trim).findIdx? (·.contains openBrace) := by
    intro texts
    have hcontains : ((·.contains openBrace) : Text → Bool) =
        (·.contains openBrace) ∘ Text.trim := by
      funext text
      rw [Function.comp, Bool.eq_iff_iff, List.contains_iff_mem, List.contains_iff_mem]
      exact ⟨fun hmem => Text.mem_trim_of_mem hmem (by decide), Text.mem_of_mem_trim⟩
    rw [List.findIdx?_map, ← hcontains]
  rw [hmap others, htrim, ← hmap lines]

end Trimmed

/-- A marker is compared trimmed, and blanks around a signature do not hide a name. -/
theorem annotated_of_trim {config : Configuration} (hconfig : config.IsSound)
    {lines others : List Text} {line other : Nat}
    (hmarker : others[other]?.map Text.trim = lines[line]?.map Text.trim)
    (hsignature : others[other + 1]?.map Text.trim = lines[line + 1]?.map Text.trim)
    (h : Annotated config.marker.trim config.methodName lines line) :
    Annotated config.marker.trim config.methodName others other := by
  obtain ⟨marker, signature, hline, hnext, htrim, htoken⟩ := h
  rw [hline, Option.map_some, Option.map_eq_some_iff] at hmarker
  rw [hnext, Option.map_some, Option.map_eq_some_iff] at hsignature
  obtain ⟨marker', hline', hmarker'⟩ := hmarker
  obtain ⟨signature', hnext', hsignature'⟩ := hsignature
  refine ⟨marker', signature', hline', hnext', hmarker'.trans htrim, ?_⟩
  have hname := ne_nil_of_isIdentifier hconfig.methodName
  have hchars := fun c (hc : c ∈ config.methodName) => isIdentifierChar_of_mem hconfig.methodName hc
  rwa [← containsToken_trim hname hchars, hsignature', containsToken_trim hname hchars]

/-- There is one header for a line. -/
theorem HeaderAt.startLine_eq {snapshot : Snapshot} {fieldLine : Nat} {baseType : Text}
    {declaration offset : Nat} (h : HeaderAt snapshot fieldLine baseType declaration offset)
    {span : ClassSpan} (hspan : findClassSpan snapshot fieldLine baseType = .ok span) :
    span.startLine = declaration + offset := by
  obtain ⟨-, ⟨declaration', offset', h', hstart⟩, -⟩ := findClassSpan_eq_ok_iff.mp hspan
  obtain rfl : declaration = declaration' := Option.some.inj (h.1.symm.trans h'.1)
  obtain rfl : offset = offset' := Option.some.inj (h.2.symm.trans h'.2)
  exact hstart

/-- From line `start` on, the first document goes on as the second does `count` lines later. -/
def GoesOnAs (snapshot other : Snapshot) (start count : Nat) : Prop :=
  (other.lines.drop (start + count)).map Text.trim = (snapshot.lines.drop start).map Text.trim

namespace GoesOnAs

variable {snapshot other : Snapshot} {start count : Nat} (h : GoesOnAs snapshot other start count)

include h

/-! ## Lines and blocks -/

/-- It does so from every later line on. -/
theorem drop {line : Nat} (hline : start ≤ line) : GoesOnAs snapshot other line count := by
  obtain ⟨gap, rfl⟩ := Nat.exists_eq_add_of_le hline
  have hdrop := congrArg (List.drop gap) h
  rwa [← List.map_drop, ← List.map_drop, List.drop_drop, List.drop_drop,
    Nat.add_right_comm] at hdrop

theorem take_drop {line : Nat} (hline : start ≤ line) (length : Nat) :
    ((other.lines.drop (line + count)).take length).map Text.trim =
      ((snapshot.lines.drop line).take length).map Text.trim := by
  rw [List.map_take, List.map_take, h.drop hline]

theorem trim_getElem? {line : Nat} (hline : start ≤ line) :
    other.lines[line + count]?.map Text.trim = snapshot.lines[line]?.map Text.trim := by
  have hhead := congrArg List.head? (h.drop hline)
  rwa [List.head?_map, List.head?_map, List.head?_drop, List.head?_drop] at hhead

theorem lt_size {line : Nat} (hline : start ≤ line) (hlt : line < snapshot.size) :
    line + count < other.size := by
  have hlength := congrArg List.length (h.drop hline)
  simp only [List.length_map, List.length_drop] at hlength
  rw [Snapshot.size] at hlt ⊢
  omega

/-- The end of a block moves along. -/
theorem blockEnd_eq {line : Nat} (hline : start ≤ line) :
    other.blockEnd (line + count) = (snapshot.blockEnd line).map (· + count) := by
  have hshift : ∀ lines : List Text,
      firstBlockEnd (line + count) lines = (firstBlockEnd line lines).map (· + count) := by
    intro lines
    clear h
    induction count with
    | zero => simp
    | succ count ih =>
      rw [← Nat.add_assoc, firstBlockEnd_succ, ih, Option.map_map]
      rfl
  rw [Snapshot.blockEnd_eq_firstBlockEnd, Snapshot.blockEnd_eq_firstBlockEnd, hshift,
    firstBlockEnd_congr (map_braceDelta_of_map_trim (h.drop hline))]

theorem balance_eq {first last : Nat} (hfirst : start ≤ first) :
    other.balance (first + count) (last + count) = snapshot.balance first last := by
  rw [Snapshot.balance, Snapshot.balance, Nat.add_sub_add_right]
  exact totalDelta_congr (map_braceDelta_of_map_trim (h.take_drop hfirst _))

/-! ## Class bodies -/

theorem isEligibleAt_eq {baseType : Text} {line limit : Nat} (hline : start ≤ line) :
    isEligibleAt baseType other.lines (line + count) (limit + count) =
      isEligibleAt baseType snapshot.lines line limit := by
  have hheader : headerText ((other.lines.take (limit + count + 1)).drop (line + count)) =
      headerText ((snapshot.lines.take (limit + 1)).drop line) := by
    rw [List.drop_take, List.drop_take,
      show limit + count + 1 - (line + count) = limit + 1 - line by omega]
    exact headerText_of_map_trim (h.take_drop hline _)
  have hfirst := h.trim_getElem? hline
  rw [isEligibleAt, isEligibleAt, hheader]
  cases hother : other.lines[line + count]? with
  | none =>
    rw [hother, Option.map_none, eq_comm, Option.map_eq_none_iff] at hfirst
    rw [hfirst]
  | some text =>
    rw [hother, Option.map_some, eq_comm, Option.map_eq_some_iff] at hfirst
    obtain ⟨line, hline, htrim⟩ := hfirst
    rw [hline]
    simp only [htrim]

/-- The header that is nearest to a line moves along, unless it is one of the lines before. -/
theorem headerAt {fieldLine : Nat} {baseType : Text} {declaration offset : Nat}
    (hdeclaration : start ≤ declaration)
    (hheader : HeaderAt snapshot fieldLine baseType declaration offset) :
    HeaderAt other (fieldLine + count) baseType (declaration + count) offset := by
  obtain ⟨hlast, hbrace⟩ := hheader
  obtain ⟨hle, heligible, hlater⟩ := lastUpTo_eq_some_iff.mp hlast
  refine ⟨lastUpTo_eq_some_iff.mpr ⟨by omega, ?_, fun line hlt hline => ?_⟩, ?_⟩
  · rw [h.isEligibleAt_eq hdeclaration, heligible]
  · -- the lines behind the header have moved with it, so none of them is eligible
    obtain ⟨line, rfl⟩ : ∃ old, line = old + count := ⟨line - count, by omega⟩
    rw [h.isEligibleAt_eq (by omega), hlater line (by omega) (by omega)]
  · rw [List.drop_take] at hbrace ⊢
    rw [Nat.add_sub_add_right, ← hbrace]
    exact findIdx?_openBrace_of_map_trim (h.take_drop hdeclaration _)

/-- A class body moves along with its header. -/
theorem findClassSpan_eq {fieldLine : Nat} {baseType : Text} {span : ClassSpan}
    {declaration offset : Nat} (hheader : HeaderAt snapshot fieldLine baseType declaration offset)
    (hdeclaration : start ≤ declaration)
    (hspan : findClassSpan snapshot fieldLine baseType = .ok span) :
    findClassSpan other (fieldLine + count) baseType =
      .ok ⟨span.startLine + count, span.endLine + count⟩ := by
  obtain ⟨hsize, -, hend, hcontains, hbalance⟩ := findClassSpan_eq_ok_iff.mp hspan
  have hstart := hheader.startLine_eq hspan
  rw [ClassSpan.contains_iff] at hcontains
  refine findClassSpan_eq_ok_iff.mpr ⟨h.lt_size (by omega) hsize,
    ⟨declaration + count, offset, h.headerAt hdeclaration hheader, ?_⟩, ?_, ?_, ?_⟩
  · show span.startLine + count = declaration + count + offset
    omega
  · show other.blockEnd (span.startLine + count) = some (span.endLine + count)
    rw [h.blockEnd_eq (by omega), hend, Option.map_some]
  · exact ClassSpan.contains_iff.mpr ⟨Nat.add_lt_add_right hcontains.1 count,
      Nat.add_lt_add_right hcontains.2 count⟩
  · show other.balance (span.startLine + count) (fieldLine + count - 1) = 1
    rw [show fieldLine + count - 1 = fieldLine - 1 + count by omega,
      h.balance_eq (by omega), hbalance]

/-! ## Methods -/

theorem annotated_iff {config : Configuration} (hconfig : config.IsSound) {line : Nat}
    (hline : start ≤ line) :
    Annotated config.marker.trim config.methodName other.lines (line + count) ↔
      Annotated config.marker.trim config.methodName snapshot.lines line := by
  have hmarker := h.trim_getElem? hline
  have hsignature := h.trim_getElem? (Nat.le_succ_of_le hline)
  rw [Nat.succ_eq_add_one, Nat.add_right_comm] at hsignature
  exact ⟨annotated_of_trim hconfig hmarker.symm hsignature.symm,
    annotated_of_trim hconfig hmarker hsignature⟩

/-- A class without an injection method still has none. -/
theorem findInjectionMethodIn_eq_none {config : Configuration} (hconfig : config.IsSound)
    {span : ClassSpan} (hstart : start ≤ span.startLine) (hend : span.endLine < snapshot.size)
    (hnone : findInjectionMethodIn snapshot span config = .ok none) :
    findInjectionMethodIn other ⟨span.startLine + count, span.endLine + count⟩ config =
      .ok none := by
  refine findInjectionMethodBetween_eq_ok_none fun line hfirst hlast => ?_
  obtain ⟨line, rfl⟩ : ∃ old, line = old + count := ⟨line - count, by simp only at hfirst; omega⟩
  simp only at hfirst hlast
  rw [h.annotated_iff hconfig (by omega)]
  exact not_annotated_of_findInjectionMethodBetween hnone (by omega) (by omega)

/-! ## Fields and locations -/

/-- A field is found so many lines later, if none of the lines that come before declares it. -/
theorem locateField_eq {name : Text} {field : FieldReference} (hline : start ≤ field.line)
    (hnone : ∀ line ∈ other.lines.take (start + count), declaredTypeOn? name line.trim = none)
    (hfield : locateField snapshot name = some field) :
    locateField other name = some { field with line := field.line + count } := by
  obtain ⟨hname, front, line, after, hlines, hfront, htype, hself, hindex⟩ :=
    locateField_eq_some_iff.mp hfield
  have hsplit : snapshot.lines.drop start = front.drop start ++ line :: after := by
    rw [hlines, List.drop_append_of_le_length (by omega)]
  -- the declaring line and those before it are found again among the trimmed lines
  have hmapped := h
  rw [GoesOnAs, hsplit, List.map_append] at hmapped
  obtain ⟨front', tail, hsplit', hfront', htail⟩ := List.map_eq_append_iff.mp hmapped
  obtain ⟨line', after', rfl, hline', -⟩ := List.map_eq_cons_iff.mp htail
  have hother : other.lines = (other.lines.take (start + count) ++ front') ++ line' :: after' := by
    rw [List.append_assoc, ← hsplit', List.take_append_drop]
  refine locateField_eq_some_iff.mpr ⟨hname, _, line', after', hother, ?_, ?_, hself, ?_⟩
  · intro text htext
    rcases List.mem_append.mp htext with hbefore | hbehind
    · exact hnone text hbefore
    · have hmem : text.trim ∈ (front.drop start).map Text.trim := by
        rw [← hfront']
        exact List.mem_map_of_mem hbehind
      obtain ⟨old, hold, hsame⟩ := List.mem_map.mp hmem
      rw [← hsame]
      exact hfront old (List.mem_of_mem_drop hold)
  · rw [hline', htype]
  · have hlength := congrArg List.length hfront'
    have htotal := congrArg List.length hsplit'
    simp only [List.length_map, List.length_drop, List.length_append,
      List.length_cons] at hlength htotal
    simp only [List.length_append, List.length_take]
    omega

/-- The location of a field in a class without an injection method moves along. -/
theorem locateInLines_eq {config : Configuration} (hconfig : config.IsSound) {name : Text}
    {field : FieldReference} {span : ClassSpan}
    {declaration offset : Nat}
    (hheader : HeaderAt snapshot field.line config.baseType declaration offset)
    (hdeclaration : start ≤ declaration)
    (hnone : ∀ line ∈ other.lines.take (start + count), declaredTypeOn? name line.trim = none)
    (hlocated : locateInLines snapshot name config = .ok ⟨field, span, none⟩) :
    locateInLines other name config =
      .ok ⟨{ field with line := field.line + count },
        ⟨span.startLine + count, span.endLine + count⟩, none⟩ := by
  obtain ⟨hfield, hspan, hmethod⟩ := locateInLines_eq_ok_iff.mp hlocated
  obtain ⟨-, -, hend, hcontains, -⟩ := findClassSpan_eq_ok_iff.mp hspan
  have hstart := hheader.startLine_eq hspan
  simp only [ClassSpan.contains_iff] at hcontains hstart hend
  refine locateInLines_eq_ok_iff.mpr ⟨h.locateField_eq (by omega) hnone hfield,
    h.findClassSpan_eq hheader hdeclaration hspan, ?_⟩
  exact h.findInjectionMethodIn_eq_none hconfig (by omega) (lt_size_of_blockEnd hend) hmethod

end GoesOnAs

end FieldInjection
