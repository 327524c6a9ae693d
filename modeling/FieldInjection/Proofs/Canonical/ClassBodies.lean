import FieldInjection.Proofs.Canonical.Documents

/-!
# Class bodies of canonical classes

The nearest eligible header above each field line of a canonical class is that of the class: no
field line has a colon, and the header ends at the first brace.  The body of the class ends with its
last brace, since everything between the braces is closed.  Each field is located on the line that
declares it.

## Main Statements

* `headerAt_classLines`: the header above a field line.
* `findClassSpan_classLines`: the body of a canonical class.
* `locateField_classLines`: the fields of a canonical class.
-/

namespace FieldInjection

open Pattern

/-! ## Field lines -/

section FieldLine

variable {group : Text × List Text} (h : IsGroup group)

include h

/-- Besides the characters of types a field line has only its semicolon. -/
theorem isTypeChar_of_mem_fieldLine {c : Char} (hc : c ∈ fieldLine group) :
    isTypeChar c = true ∨ c = ';' := by
  have hletters : ∀ d ∈ "private".toList, isTypeChar d = true := by decide
  have hblanks : ∀ d ∈ indentStep, isTypeChar d = true := by decide
  have hcommas : ∀ d ∈ [',', ' '], isTypeChar d = true := by decide
  simp only [fieldLine, declaration_eq, declarators, List.mem_append, List.mem_cons,
    List.not_mem_nil, or_false] at hc
  rcases hc with hc | hc | rfl | hc | rfl | hc | rfl
  · exact Or.inl (hblanks c hc)
  · exact Or.inl (hletters c hc)
  · exact Or.inl (by decide)
  · exact Or.inl (h.type.isTypeChar_of_mem hc)
  · exact Or.inl (by decide)
  · rcases of_mem_intercalate hc with hc | ⟨name, hname, hc⟩
    · exact Or.inl (hcommas c hc)
    · exact Or.inl (isTypeChar_of_mem_asciiName (h.names name hname) hc)
  · exact Or.inr rfl

/-- Any other character is missing in a field line. -/
theorem not_mem_fieldLine {c : Char} (hc : isTypeChar c = false) (hmark : c ≠ ';') :
    c ∉ fieldLine group := by
  intro hmem
  rcases isTypeChar_of_mem_fieldLine h hmem with hchar | hchar
  · rw [hc] at hchar
    exact Bool.false_ne_true hchar
  · exact hmark hchar

/-- A field line has no braces. -/
theorem braceDelta_fieldLine : braceDelta (fieldLine group) = 0 :=
  braceDelta_eq_zero (not_mem_fieldLine h (by decide) (by decide))
    (not_mem_fieldLine h (by decide) (by decide))

theorem isCleanLine_fieldLine : IsCleanLine (fieldLine group) := by
  refine ⟨not_mem_fieldLine h (by decide) (by decide), fun hlast => ?_⟩
  exact not_mem_fieldLine h (by decide) (by decide) (List.mem_of_getLast? hlast)

omit h in
theorem trim_fieldLine : (fieldLine group).trim = declaration group.1 group.2 :=
  trim_declaration (by decide)

/-- A field line declares the names of its group. -/
theorem declaredFieldNames_fieldLine : declaredFieldNames (fieldLine group) = group.2 :=
  declaredFieldNames_declaration h.type h.names h.ne_nil (by decide)

omit h in
/-- A field line is no marker. -/
theorem trim_fieldLine_ne : (fieldLine group).trim ≠ Configuration.standard.marker.trim := by
  rw [trim_fieldLine, declaration_eq]
  intro heq
  have hhead := congrArg List.head? heq
  rw [List.head?_append_of_ne_nil _ (by decide)] at hhead
  revert hhead
  decide

end FieldLine

/-! ## Headers -/

/-- A text without a colon is no eligible header. -/
theorem isEligibleHeader_eq_false {baseType header : Text} (h : ':' ∉ header) :
    isEligibleHeader baseType header = false := by
  rw [← Bool.not_eq_true, isEligibleHeader, Bool.and_eq_true, not_and]
  intro _ hoccurs
  obtain ⟨skipped, matched, rest, htrim, hmatch⟩ := occursIn_iff.mp hoccurs
  obtain ⟨_, word, rfl, ⟨_, derived, rfl, ⟨front, colon, rfl, -, hcolon⟩, -⟩, -⟩ := hmatch
  obtain rfl := matches_char.mp hcolon
  refine h (Text.mem_of_mem_trim ?_)
  rw [htrim]
  simp

/-- A header has the characters of its lines and the blanks between them. -/
theorem of_mem_headerText {lines : List Text} {c : Char} (hc : c ∈ headerText lines) :
    c = ' ' ∨ ∃ line ∈ lines, c ∈ line := by
  induction lines with
  | nil => simp [headerText] at hc
  | cons line lines ih =>
    rw [headerText] at hc
    split at hc
    · next before after hcut =>
      refine Or.inr ⟨line, by simp, Text.mem_of_mem_trim ?_⟩
      rw [Text.eq_of_cutFirst? hcut]
      simp [hc]
    · rw [List.mem_append, List.mem_cons] at hc
      rcases hc with hc | rfl | hc
      · exact Or.inr ⟨line, by simp, Text.mem_of_mem_trim hc⟩
      · exact Or.inl rfl
      · rcases ih hc with hblank | ⟨other, hother, hc⟩
        · exact Or.inl hblank
        · exact Or.inr ⟨other, by simp [hother], hc⟩

/-- Lines behind an opening brace do not belong to the header. -/
theorem headerText_append {lines rest : List Text} (h : ∃ line ∈ lines, openBrace ∈ line) :
    headerText (lines ++ rest) = headerText lines := by
  induction lines with
  | nil => simp at h
  | cons line lines ih =>
    rw [List.cons_append, headerText, headerText]
    cases hcut : line.trim.cutFirst? openBrace with
    | some parts => rfl
    | none =>
      obtain ⟨other, hother, hbrace⟩ := h
      rcases List.mem_cons.mp hother with rfl | hother
      · exact absurd (Text.mem_trim_of_mem hbrace (by decide)) (Text.cutFirst?_eq_none_iff.mp hcut)
      · rw [ih ⟨other, hother, hbrace⟩]

/-- Once the brace of a header is reached, the lines behind it do not matter. -/
theorem isEligibleAt_append {baseType : Text} {start rest : List Text} {line limit : Nat}
    (hline : line < start.length) (hlimit : start.length ≤ limit)
    (hbrace : ∃ text ∈ start.drop line, openBrace ∈ text) :
    isEligibleAt baseType (start ++ rest) line limit =
      isEligibleAt baseType start line start.length := by
  have htake : ((start ++ rest).take (limit + 1)).drop line =
      start.drop line ++ rest.take (limit + 1 - start.length) := by
    rw [List.take_append, List.take_of_length_le (by omega), List.drop_append_of_le_length hline.le]
  have htake' : (start.take (start.length + 1)).drop line = start.drop line := by
    rw [List.take_of_length_le (by omega)]
  rw [isEligibleAt, isEligibleAt, List.getElem?_append_left hline, htake, htake',
    headerText_append hbrace]

/-- Where no line up to the limit has a colon, no eligible class is declared. -/
theorem isEligibleAt_eq_false {baseType : Text} {lines : List Text} {line limit : Nat}
    (h : ∀ text ∈ (lines.take (limit + 1)).drop line, ':' ∉ text) :
    isEligibleAt baseType lines line limit = false := by
  have hcolon : ':' ∉ headerText ((lines.take (limit + 1)).drop line) := by
    intro hc
    rcases of_mem_headerText hc with hc | ⟨text, htext, hc⟩
    · exact absurd hc (by decide)
    · exact h text htext hc
  rw [isEligibleAt]
  split
  · rfl
  · rw [isEligibleHeader_eq_false hcolon, Bool.and_false]

/-! ## The class body -/

/-- The brace of the class stands on the last line of its beginning, behind the header. -/
theorem classStart_spec (layout : Layout) :
    ∃ front opening, layout.classStart = front ++ [opening] ∧ 2 ≤ front.length ∧
      braceDelta opening = 1 ∧ openBrace ∈ opening ∧ (∀ line ∈ front, openBrace ∉ line) ∧
      isEligibleAt Configuration.standard.baseType (front ++ [opening]) 2 (front.length + 1) =
        true ∧
      ∀ line < front.length + 1, 2 < line →
        isEligibleAt Configuration.standard.baseType (front ++ [opening]) line (front.length + 1) =
          false := by
  refine ⟨layout.classStart.dropLast, layout.classStart.getLast?.getD [], ?_⟩
  rcases layout with ⟨_ | _, _ | _, _ | _⟩ <;> decide

/-- Parts that close what they open make up lines that do. -/
theorem IsClosed.append {left right : List Text} (hleft : IsClosed left) (hright : IsClosed right) :
    IsClosed (left ++ right) := by
  refine ⟨by rw [totalDelta_append, hleft.1, hright.1, add_zero], fun depth hdepth => ?_⟩
  rw [staysOpen_append, hleft.1, add_zero]
  exact ⟨hleft.2 depth hdepth, hright.2 depth hdepth⟩

/-- Lines without braces close what they open. -/
theorem isClosed_of_flat {lines : List Text} (h : ∀ line ∈ lines, braceDelta line = 0) :
    IsClosed lines := by
  induction lines with
  | nil => exact ⟨rfl, fun _ _ => trivial⟩
  | cons line lines ih =>
    exact (isClosed_singleton (h line (by simp))).append
      (ih fun other hother => h other (by simp [hother]))

section Span

variable {layout : Layout} {groups : List (Text × List Text)} {inner after : List Text}
    {snapshot : Snapshot} (hgroups : ∀ group ∈ groups, IsGroup group)
    (hlines : snapshot.lines = layout.classStart ++ (groups.map fieldLine ++
      (inner ++ [closeBrace] :: after)))

include hgroups

theorem isClosed_fieldLines : IsClosed (groups.map fieldLine) := by
  refine isClosed_of_flat fun line hline => ?_
  obtain ⟨group, hgroup, rfl⟩ := List.mem_map.mp hline
  exact braceDelta_fieldLine (hgroups group hgroup)

include hlines

omit hgroups in
/-- The field lines follow the opening brace, in the order of the groups. -/
theorem getElem?_fieldLine {index : Nat} (hindex : index < groups.length) :
    snapshot.lines[layout.classStart.length + index]? = (groups.map fieldLine)[index]? := by
  rw [hlines, List.getElem?_append_right (Nat.le_add_right _ _), Nat.add_sub_cancel_left,
    List.getElem?_append_left (by simpa using hindex)]

/-- From the first field line to a later one, no line has a colon. -/
theorem colon_not_mem_of_fieldLines {line offset : Nat} (hoffset : offset < groups.length)
    (hline : layout.classStart.length ≤ line) {text : Text}
    (htext : text ∈ (snapshot.lines.take (layout.classStart.length + offset + 1)).drop line) :
    ':' ∉ text := by
  obtain ⟨index, hindex⟩ := List.mem_iff_getElem?.mp htext
  obtain ⟨start, rfl⟩ := Nat.exists_eq_add_of_le hline
  rw [List.getElem?_drop, List.getElem?_take] at hindex
  split at hindex
  · next hlt =>
    rw [Nat.add_assoc, getElem?_fieldLine hlines (by omega)] at hindex
    obtain ⟨group, hgroup, rfl⟩ := List.mem_map.mp (List.mem_of_getElem? hindex)
    exact not_mem_fieldLine (hgroups group hgroup) (by decide) (by decide)
  · simp at hindex

/-- The header of the class is the nearest one above each of its field lines. -/
theorem headerAt_classLines {offset : Nat} (hoffset : offset < groups.length) :
    HeaderAt snapshot (layout.classStart.length + offset) Configuration.standard.baseType 2
      (layout.classStart.length - 3) := by
  obtain ⟨front, opening, hstart, hlength, -, hbrace, hfront, heligible, hothers⟩ :=
    classStart_spec layout
  have hsize : layout.classStart.length = front.length + 1 := by simp [hstart]
  rw [← hstart, ← hsize] at heligible hothers
  have hsame : ∀ line < layout.classStart.length, isEligibleAt Configuration.standard.baseType
      snapshot.lines line (layout.classStart.length + offset) =
        isEligibleAt Configuration.standard.baseType layout.classStart line
          layout.classStart.length := by
    intro line hline
    rw [hlines]
    refine isEligibleAt_append hline (Nat.le_add_right _ _) ⟨opening, ?_, hbrace⟩
    rw [hstart, List.drop_append_of_le_length (by omega)]
    simp
  refine ⟨lastUpTo_eq_some_iff.mpr ⟨by omega, ?_, fun other hother hle => ?_⟩, ?_⟩
  · rw [hsame 2 (by omega), heligible]
  · by_cases hin : other < layout.classStart.length
    · rw [hsame other hin, hothers other hin hother]
    · exact isEligibleAt_eq_false fun text htext =>
        colon_not_mem_of_fieldLines hgroups hlines hoffset (by omega) htext
  · have hsplit : ∃ rest, (snapshot.lines.take (layout.classStart.length + offset)).drop 2 =
        front.drop 2 ++ opening :: rest := by
      refine ⟨(groups.map fieldLine ++ (inner ++ [closeBrace] :: after)).take offset, ?_⟩
      rw [hlines, List.take_length_add_append, hstart, List.append_assoc,
        List.drop_append_of_le_length hlength, List.singleton_append]
    obtain ⟨rest, hrest⟩ := hsplit
    have hnone : (front.drop 2).findIdx? (·.contains openBrace) = none := by
      rw [List.findIdx?_eq_none_iff]
      intro line hline
      simpa using hfront line (List.mem_of_mem_drop hline)
    rw [hrest, List.findIdx?_append, hnone, List.findIdx?_cons, if_pos (by simpa using hbrace),
      Option.none_or, Option.map_some, List.length_drop]
    congr 1
    omega

/-- The body of the class ends with its last brace. -/
theorem findClassSpan_classLines (hinner : IsClosed inner) {offset : Nat}
    (hoffset : offset < groups.length) :
    findClassSpan snapshot (layout.classStart.length + offset) Configuration.standard.baseType =
      .ok ⟨layout.classStart.length - 1,
        layout.classStart.length + groups.length + inner.length⟩ := by
  obtain ⟨front, opening, hstart, hlength, hdelta, -⟩ := classStart_spec layout
  have hsize : layout.classStart.length = front.length + 1 := by simp [hstart]
  have hdrop : snapshot.lines.drop (layout.classStart.length - 1) =
      opening :: ((groups.map fieldLine ++ inner) ++ [closeBrace] :: after) := by
    rw [hlines, hsize, Nat.add_sub_cancel, hstart, List.append_assoc, List.drop_left]
    simp
  have hbody := (isClosed_fieldLines hgroups).append hinner
  refine findClassSpan_eq_ok_iff.mpr ⟨?_, ⟨2, layout.classStart.length - 3,
    headerAt_classLines hgroups hlines hoffset, by simp only; omega⟩, ?_, ?_, ?_⟩
  · rw [Snapshot.size, hlines, List.length_append, List.length_append, List.length_map]
    omega
  · rw [Snapshot.blockEnd_eq_firstBlockEnd, hdrop]
    refine firstBlockEnd_eq_some_iff.mpr ⟨[], opening, groups.map fieldLine ++ inner, [closeBrace],
      after, rfl, by simp, by omega, hbody.2 _ (by omega), ?_, ?_⟩
    · rw [hbody.1, hdelta]
      decide
    · simp only [List.length_nil, List.length_append, List.length_map]
      omega
  · simp only [ClassSpan.contains_iff]
    omega
  · have htake : layout.classStart.length + offset - 1 - (layout.classStart.length - 1) + 1 =
        offset + 1 := by omega
    have hflat : totalDelta ((groups.map fieldLine).take offset) = 0 := by
      refine (isClosed_of_flat fun line hline => ?_).1
      obtain ⟨group, hgroup, rfl⟩ := List.mem_map.mp (List.mem_of_mem_take hline)
      exact braceDelta_fieldLine (hgroups group hgroup)
    simp only [Snapshot.balance, hdrop, htake]
    rw [List.take_succ_cons, List.append_assoc, List.take_append_of_le_length (by simp; omega),
      totalDelta_cons, hflat, hdelta, add_zero]

/-- A field of the class is located where it is declared. -/
theorem locateField_classLines (hnodup : (groups.flatMap (·.2)).Nodup) {field : FieldReference}
    (hfield : field ∈ declaredFields layout.classStart.length groups) :
    locateField snapshot field.name = some field := by
  obtain ⟨before, group, behind, rfl, hname, htype, hline⟩ := exists_of_mem_declaredFields hfield
  have hgroup := hgroups group (by simp)
  have hascii := hgroup.names field.name hname
  refine locateField_eq_some_iff.mpr ⟨?_, layout.classStart ++ before.map fieldLine,
    fieldLine group, behind.map fieldLine ++ (inner ++ [closeBrace] :: after), ?_, ?_, ?_, rfl, ?_⟩
  · exact ne_nil_of_isIdentifier (isIdentifier_of_isAsciiName hascii)
  · simp [hlines]
  · intro other hother
    rcases List.mem_append.mp hother with hother | hother
    · have hkeyword : ∀ line ∈ layout.classStart,
          (FieldPattern.wholeWord "private".toList).occursIn line.trim = false := by
        rcases layout with ⟨_ | _, _ | _, _ | _⟩ <;> decide
      cases hdeclared : declaredTypeOn? field.name other.trim with
      | none => rfl
      | some found =>
        have hmay := (mayDeclare_of_declaredTypeOn? hdeclared).2.1
        rw [hkeyword other hother] at hmay
        exact absurd hmay Bool.false_ne_true
    · obtain ⟨earlier, hearlier, rfl⟩ := List.mem_map.mp hother
      have hvalid := hgroups earlier (by simp [hearlier])
      rw [trim_fieldLine]
      cases hdeclared : declaredTypeOn? field.name (declaration earlier.1 earlier.2) with
      | none => rfl
      | some found =>
        obtain ⟨hmem, -⟩ := of_declaredTypeOn?_declaration hvalid.type hvalid.names
          (isIdentifier_of_isAsciiName hascii) hdeclared
        rw [List.flatMap_append, List.flatMap_cons] at hnodup
        refine absurd rfl ((List.nodup_append.mp hnodup).2.2 field.name ?_ field.name ?_)
        · exact List.mem_flatMap.mpr ⟨earlier, hearlier, hmem⟩
        · exact List.mem_append_left _ hname
  · rw [trim_fieldLine, htype]
    exact declaredTypeOn?_declaration hgroup.type hgroup.names hname
  · simp [hline]

end Span

end FieldInjection
