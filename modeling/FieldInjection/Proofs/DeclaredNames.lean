import FieldInjection.Proofs.Declarators

/-!
# The two readings of a declaration

A line that declares fields is read in two ways.  One lists all of its names: the list behind the
type is split at the commas outside brackets, up to the first semicolon.  The other looks for one
name, and passes over the declarators before it as far as the next comma, in brackets or not.  Both
agree on the first name of a line.  For the others the search has to get over the initializers in
between (`exists_locateField_iff_reaches`), so a name behind a call with two arguments is listed but
not found.

That nothing else is found takes a comparison of two cuts of one line, each behind a type with
blanks after it.  The blanks of one cut are a gap in the list of the other, with text on both sides
and no equals sign before it.  A later cut would leave an entry with a gap, which declares nothing,
so that the line would have no names.  An earlier one would lead to a piece with a gap, which the
search does not get over.

## Main Definitions

* `IsGap`: blanks between two other characters.
* `TypeCut`: a line that is cut behind the type of a declaration.

## Main Statements

* `exists_of_declaredFieldNames`: where the names of a line come from.
* `IsGap.exists_mem_splitTopLevel`, `IsGap.exists_of_reaches`: lists with a gap.
* `reaches_of_declaredTypeOn?`: a name that is found is reached.
* `exists_locateField_iff_reaches`: which names of a line are found on it.
-/

namespace FieldInjection

open Pattern

/-! ## The names of a line -/

theorem mapM_eq_some_iff_map {α β : Type} {read : α → Option β} {entries : List α}
    {values : List β} :
    entries.mapM read = some values ↔ entries.map read = values.map some := by
  induction entries generalizing values with
  | nil => cases values <;> simp
  | cons entry entries ih =>
    cases values with
    | nil => simp [List.mapM_cons, Option.bind_eq_some_iff]
    | cons value values =>
      simp only [List.mapM_cons, Option.bind_eq_bind, Option.bind_eq_some_iff, Option.pure_def,
        Option.some.injEq, List.cons.injEq, List.map_cons, ih]
      constructor
      · rintro ⟨_, hvalue, _, hvalues, rfl, rfl⟩
        exact ⟨hvalue, hvalues⟩
      · rintro ⟨hvalue, hvalues⟩
        exact ⟨value, hvalue, values, hvalues, rfl, rfl⟩

/-- Where the names of a line come from. -/
theorem exists_of_declaredFieldNames {line : Text} (h : declaredFieldNames line ≠ []) :
    isCommentLine line.trim = false ∧ ∃ declarators behind,
      declaratorList? line.trim = some (declarators ++ ';' :: behind) ∧ ';' ∉ declarators ∧
        (splitTopLevel declarators).map declaratorName? = (declaredFieldNames line).map some := by
  rw [declaredFieldNames] at h ⊢
  by_cases hcomment : isCommentLine line.trim = true
  · simp [hcomment] at h
  rw [Bool.not_eq_true] at hcomment
  simp only [hcomment, Bool.false_eq_true, if_false] at h ⊢
  cases hcut : (declaratorList? line.trim).bind (Text.cutFirst? ';') with
  | none => simp [hcut] at h
  | some parts =>
    obtain ⟨declarators, behind⟩ := parts
    obtain ⟨list, hlist, hcut'⟩ := Option.bind_eq_some_iff.mp hcut
    obtain ⟨rfl, hsemicolon⟩ := Text.cutFirst?_eq_some_iff.mp hcut'
    cases hnames : (splitTopLevel declarators).mapM declaratorName? with
    | none => simp [hcut, hnames] at h
    | some names =>
      refine ⟨trivial, declarators, behind, hlist, hsemicolon, ?_⟩
      simp only [hnames, Option.getD_some]
      exact mapM_eq_some_iff_map.mp hnames

theorem isIdentifier_of_mem_declaredFieldNames {line name : Text}
    (h : name ∈ declaredFieldNames line) :
    isIdentifier name = true := by
  obtain ⟨-, declarators, -, -, -, hmap⟩ := exists_of_declaredFieldNames (List.ne_nil_of_mem h)
  have hmem : some name ∈ (splitTopLevel declarators).map declaratorName? := by
    rw [hmap]
    exact List.mem_map_of_mem h
  obtain ⟨entry, -, hentry⟩ := List.mem_map.mp hmem
  exact (declaratorName?_eq_some_iff.mp hentry).1

/-- The first entry of a list stands at its beginning, and the list ends behind it or goes on with a
comma. -/
theorem exists_of_splitTopLevelFrom_cons {depth : Int} {previous : Option Char} {list entry : Text}
    {others : List Text} (h : splitTopLevelFrom depth previous list = entry :: others) :
    ∃ rest, list = entry ++ rest ∧ rest.head?.all (· == ',') = true := by
  have hjoin := intercalate_splitTopLevelFrom depth previous list
  rw [h] at hjoin
  cases others with
  | nil => exact ⟨[], by simpa using hjoin.symm, rfl⟩
  | cons second others =>
    rw [List.intercalate_cons_cons, List.append_assoc, List.singleton_append] at hjoin
    exact ⟨',' :: [','].intercalate (second :: others), hjoin.symm, rfl⟩

/-- The list of a line begins with the first name, which may end there. -/
theorem exists_of_head?_declaredFieldNames {line name : Text}
    (h : (declaredFieldNames line).head? = some name) :
    ∃ left tail, declaratorList? line.trim = some (left ++ (name ++ tail)) ∧
      (∀ c ∈ left, isBlank c = true) ∧ isIdentifier name = true ∧ EndsName tail := by
  obtain ⟨others, hnames⟩ := List.head?_eq_some_iff.mp h
  obtain ⟨-, declarators, behind, hlist, -, hmap⟩ :=
    exists_of_declaredFieldNames (by rw [hnames]; exact List.cons_ne_nil _ _)
  obtain ⟨entry, entries, hentries⟩ := List.exists_cons_of_ne_nil
    (splitTopLevelFrom_ne_nil 0 none declarators)
  rw [splitTopLevel, hentries, hnames, List.map_cons, List.map_cons] at hmap
  have hname := (List.cons.inj hmap).1
  obtain ⟨rest, rfl, hrest⟩ := exists_of_splitTopLevelFrom_cons hentries
  obtain ⟨mark, more, hmore, hmark⟩ :
      ∃ mark more, rest ++ ';' :: behind = mark :: more ∧ mark ∈ [';', ','] := by
    cases rest with
    | nil => exact ⟨';', behind, rfl, by simp⟩
    | cons c rest =>
      obtain rfl : c = ',' := by simpa using hrest
      exact ⟨',', _, rfl, by simp⟩
  obtain ⟨left, tail, hparts, hleft, htail⟩ := exists_of_declaratorName? hname hmark
  refine ⟨left, tail, ?_, hleft, (declaratorName?_eq_some_iff.mp hname).1, htail⟩
  rw [hlist, List.append_assoc, hmore, hparts]

/-! ## Names that are reached -/

section Reached

variable {trimmed list field : Text} (hword : ∀ c ∈ field, isWord c = true)

include hword

/-- A type is read off a line for each name that is reached in its list. -/
theorem isSome_declaredTypeOn?_of_reaches (hne : field ≠ [])
    (hcomment : isCommentLine trimmed = false) (hlist : declaratorList? trimmed = some list)
    (hsemicolon : ';' ∈ list) (h : reaches field (commaPieces list) = true) :
    (declaredTypeOn? field trimmed).isSome = true := by
  obtain ⟨skipped, matched, rest, rfl, hmatch, hrest⟩ := exists_of_searchFrom_eq_some hlist
  obtain rfl := Option.some.inj hrest
  obtain ⟨_, gap, rfl, ⟨start, type, rfl, hstart, htype⟩, hgap⟩ := hmatch
  rw [Option.or_none] at hstart htype
  obtain ⟨hgapne, hgapblank⟩ := matches_someBlanks.mp hgap
  obtain ⟨leading, last, behind, hparts, htail, hmatches⟩ :=
    exists_declarators_of_reaches hgapne hgapblank h hsemicolon
  obtain ⟨hmany, hdeclarators⟩ := hmatches (type.getLast?.or (start.getLast?.or skipped.getLast?))
  have hline : skipped ++ (start ++ type ++ gap ++ rest) =
      skipped ++ (start ++ (type ++ (leading ++ (field ++ (last ++ behind))))) := by
    simp only [List.append_assoc, hparts]
  have hend : ';' ∈ skipped ++ (start ++ type ++ gap ++ rest) := by simp [hsemicolon]
  rw [hline] at hcomment hend ⊢
  rw [hparts] at hstart htype
  have hdeclares : DeclaresAs field
      (skipped ++ (start ++ (type ++ (leading ++ (field ++ (last ++ behind)))))) type.trim :=
    ⟨skipped, start, type, leading ++ field ++ last, behind, by simp only [List.append_assoc],
      by simpa only [List.append_assoc] using hstart, by simpa only [List.append_assoc] using htype,
      hdeclarators, rfl⟩
  refine isSome_declaredTypeOn? ⟨hcomment, ?_, ?_, Or.inl hend⟩ hdeclares
  · obtain ⟨hbefore, blank, more, modifiers, rfl, hblank, -, -⟩ := exists_of_start_matches hstart
    refine (occursIn_wholeWord_iff (by decide) (by decide)).mpr
      ⟨skipped, blank :: (more ++ (modifiers ++
        (type ++ (leading ++ (field ++ (last ++ behind)))))), ?_, hbefore,
        isWord_eq_false_of_isBlank hblank⟩
    simp only [List.append_assoc, List.cons_append]
  · refine (occursIn_wholeWord_iff hne hword).mpr
      ⟨(skipped ++ (start ++ type)) ++ leading, last ++ behind,
        by simp only [List.append_assoc], ?_,
        htail.any_head? (fun c => isWord_eq_false_of_isBlank) (by decide)⟩
    have hlast := any_getLast?_of_leading (fun c => isWord_eq_false_of_isBlank) (by decide) hmany
    have hleading : leading ≠ [] := by
      rintro rfl
      exact absurd hmany.mayBeEmpty (by decide)
    obtain ⟨c, hc⟩ : ∃ c, leading.getLast? = some c :=
      ⟨_, List.getLast?_eq_getLast_of_ne_nil hleading⟩
    rw [List.getLast?_append, hc, Option.some_or, ← hc]
    exact hlast

end Reached

/-! ## Texts with a gap -/

/-- Blanks between two other characters, with no equals sign before them. -/
structure IsGap (left : Text) (first : Char) (gap : Text) (last : Char) : Prop where
  /-- There is no equals sign before the gap. -/
  equals_not_mem : '=' ∉ left ++ [first]
  /-- In front of the gap stands no blank. -/
  first_not_blank : isBlank first = false
  /-- The gap is not empty. -/
  gap_ne_nil : gap ≠ []
  /-- The gap is made of blanks. -/
  isBlank_of_mem : ∀ c ∈ gap, isBlank c = true
  /-- Behind the gap stands neither a blank nor a mark. -/
  last_plain : isPlain last = true

namespace IsGap

variable {left gap : Text} {first last : Char} (h : IsGap left first gap last) (right : Text)

include h

/-- A mark that does not stand before the gap does not stand up to the character behind it. -/
theorem not_mem {mark : Char} (hmark : mark ∈ marks) (hleft : mark ∉ left ++ [first]) :
    mark ∉ left ++ first :: (gap ++ [last]) := by
  have hgap : mark ∉ gap ++ [last] := by
    refine not_mem_of_blank_or_plain ?_ hmark
    simp only [List.forall_mem_append, List.forall_mem_singleton]
    exact ⟨fun c hc => Or.inl (h.isBlank_of_mem c hc), Or.inr h.last_plain⟩
  simp only [List.mem_append, List.mem_cons, List.not_mem_nil, or_false, not_or] at hleft hgap ⊢
  exact ⟨hleft.1, hleft.2, hgap⟩

/-- What a piece with a gap would be named has a blank. -/
theorem exists_blank_mem_pieceName :
    ∃ c ∈ pieceName (left ++ first :: (gap ++ last :: right)), isBlank c = true := by
  obtain ⟨c, hc⟩ := List.exists_mem_of_ne_nil gap h.gap_ne_nil
  refine ⟨c, ?_, h.isBlank_of_mem c hc⟩
  have hequals : '=' ∉ left ++ first :: (gap ++ [last]) := h.not_mem (by decide) h.equals_not_mem
  have hall : ∀ d ∈ left ++ first :: (gap ++ [last]), (d != '=') = true := by
    intro d hd
    rw [bne_iff_ne]
    rintro rfl
    exact hequals hd
  have htake : (left ++ first :: (gap ++ last :: right)).takeWhile (· != '=') =
      left ++ first :: (gap ++ last :: right.takeWhile (· != '=')) := by
    have hsplit : left ++ first :: (gap ++ last :: right) =
        (left ++ first :: (gap ++ [last])) ++ right := by simp
    rw [hsplit, List.takeWhile_append_of_pos hall]
    simp
  rw [pieceName, htake]
  exact Text.mem_trim_of_between h.first_not_blank (isBlank_eq_false_of_isPlain h.last_plain) hc

/-- No name can be read off a piece with a gap. -/
theorem declaratorName?_eq_none :
    declaratorName? (left ++ first :: (gap ++ last :: right)) = none := by
  obtain ⟨c, hc, hblank⟩ := h.exists_blank_mem_pieceName right
  cases hname : declaratorName? (left ++ first :: (gap ++ last :: right)) with
  | none => rfl
  | some name =>
    obtain ⟨hidentifier, rfl, -⟩ := declaratorName?_eq_some_iff.mp hname
    rw [isBlank_eq_false_of_isPlain (isPlain_of_mem_identifier hidentifier hc)] at hblank
    exact absurd hblank (by decide)

/-- The search does not pass over a piece with a gap. -/
theorem isPatternName_eq_false :
    isPatternName (pieceName (left ++ first :: (gap ++ last :: right))) = false := by
  obtain ⟨c, hc, hblank⟩ := h.exists_blank_mem_pieceName right
  by_contra hname
  rw [isBlank_eq_false_of_isPlain (isPlain_of_mem_patternName (by simpa using hname) hc)] at hblank
  exact absurd hblank (by decide)

/-- A list with a gap has an entry that is no declarator. -/
theorem exists_mem_splitTopLevel (hfirst : first ≠ ',') :
    ∃ entry ∈ splitTopLevel (left ++ first :: (gap ++ last :: right)),
      declaratorName? entry = none := by
  obtain ⟨entries, lead, hentries⟩ := exists_splitTopLevelFrom_eq 0 none left
  have hlead : '=' ∉ lead ++ [first] := by
    have hequals := h.equals_not_mem
    simp only [List.mem_append, not_or] at hequals ⊢
    refine ⟨fun hmem => hequals.1 ?_, hequals.2⟩
    have hentry : lead ∈ splitTopLevelFrom 0 none left := by simp [hentries]
    exact mem_of_mem_splitTopLevelFrom hentry hmem
  have hcomma : ',' ∉ first :: (gap ++ [last]) := by
    simp only [List.mem_cons, List.mem_append, List.not_mem_nil, or_false, not_or]
    exact ⟨hfirst.symm, Text.not_mem_of_blank h.isBlank_of_mem (by decide),
      (ne_of_isPlain h.last_plain (by decide)).symm⟩
  -- what has no comma goes to the entry that is open, and the rest is added to that entry
  have hclosed := splitTopLevelFrom_append_of_no_comma hcomma hentries
  have hsplit : left ++ first :: (gap ++ last :: right) =
      (left ++ first :: (gap ++ [last])) ++ right := by simp
  obtain ⟨more, others, hmore⟩ := List.exists_cons_of_ne_nil (splitTopLevelFrom_ne_nil
    (nestingFrom 0 none (left ++ first :: (gap ++ [last])))
    ((left ++ first :: (gap ++ [last])).getLast?.or none) right)
  have hgap : IsGap lead first gap last :=
    ⟨hlead, h.first_not_blank, h.gap_ne_nil, h.isBlank_of_mem, h.last_plain⟩
  refine ⟨lead ++ first :: (gap ++ last :: more), ?_, hgap.declaratorName?_eq_none more⟩
  rw [splitTopLevel, hsplit, splitTopLevelFrom_append hclosed, hmore, List.modifyHead_cons]
  simp

/-- What is reached in a list with a gap is reached before the gap. -/
theorem exists_of_reaches {field : Text} (hfirst : first ≠ ',') (hsemicolon : ';' ∉ left ++ [first])
    (hreaches : reaches field (commaPieces (left ++ first :: (gap ++ last :: right))) = true) :
    ∃ before mark after, left = before ++ (field ++ mark :: after) ∧
      before.getLast?.any isWord = false ∧ isWord mark = false := by
  induction hlength : left.length using Nat.strong_induction_on generalizing left with
  | h length ih =>
    have hequals := h.equals_not_mem
    simp only [List.mem_append, List.mem_singleton, not_or] at hsemicolon hequals
    cases hcut : Text.cutFirst? ',' left with
    | none =>
      -- the gap is in the first piece
      have hcomma := Text.cutFirst?_eq_none_iff.mp hcut
      have hsplit : left ++ first :: (gap ++ last :: right) =
          (left ++ first :: (gap ++ [last])) ++ right := by simp
      have hcomma' : ',' ∉ left ++ [first] := by simp [hcomma, hfirst.symm]
      obtain ⟨piece, others, hpieces⟩ := List.exists_cons_of_ne_nil (commaPieces_ne_nil right)
      have hwhole : left ++ first :: (gap ++ [last]) ++ piece =
          left ++ first :: (gap ++ last :: piece) := by simp
      rw [hsplit, commaPieces_append (h.not_mem (by decide) hcomma')
        (h.not_mem (by decide) (by simpa using hsemicolon)), hpieces, List.modifyHead_cons, reaches,
        hwhole, h.declaratorName?_eq_none, h.isPatternName_eq_false] at hreaches
      simp at hreaches
    | some parts =>
      obtain ⟨piece, rest⟩ := parts
      obtain ⟨rfl, hcomma⟩ := Text.cutFirst?_eq_some_iff.mp hcut
      simp only [List.mem_append, List.mem_cons, not_or] at hsemicolon hequals
      rw [List.append_assoc, List.cons_append, commaPieces_append_comma hcomma hsemicolon.1.1,
        reaches, Bool.or_eq_true, Bool.and_eq_true, beq_iff_eq] at hreaches
      rcases hreaches with hname | ⟨-, hlater⟩
      · obtain ⟨before, after, hpiece, hbefore, hafter⟩ :=
          exists_of_declaratorName? hname (by simp : ',' ∈ [';', ','])
        have hend := hafter.any_head? (fun c => isWord_eq_false_of_isBlank) (by decide)
        obtain ⟨mark, after, rfl⟩ := List.exists_cons_of_ne_nil hafter.ne_nil
        refine ⟨before, mark, after, hpiece, ?_, by simpa using hend⟩
        cases hlast : before.getLast? with
        | none => rfl
        | some c => exact isWord_eq_false_of_isBlank (hbefore c (List.mem_of_getLast? hlast))
      · have hrest : IsGap rest first gap last :=
          ⟨by simp [hequals], h.first_not_blank, h.gap_ne_nil, h.isBlank_of_mem, h.last_plain⟩
        have hshort : rest.length < length := by
          rw [← hlength, List.length_append, List.length_cons]
          omega
        obtain ⟨before, mark, after, rfl, hbefore, hafter⟩ :=
          ih rest.length hshort hrest (by simp [hsemicolon]) hlater rfl
        refine ⟨piece ++ ',' :: before, mark, after, by simp, ?_, hafter⟩
        exact (Text.any_getLast?_append_cons piece _ (by decide)).trans hbefore

end IsGap

/-! ## Cuts behind a type -/

/-- A line that is cut behind the type of a private declaration: what stands before the keyword, the
part from the keyword to the last character of the type, a gap, and the rest. -/
structure TypeCut (trimmed skipped body : Text) (last : Char) (gap rest : Text) : Prop where
  /-- The parts make up the line. -/
  eq : trimmed = (skipped ++ body) ++ last :: (gap ++ rest)
  /-- The keyword begins a word. -/
  skipped_ends : skipped.getLast?.any isWord = false
  /-- The keyword is followed by a blank. -/
  keyword : ∃ blank more, body ++ [last] = "private".toList ++ blank :: more ∧ isBlank blank = true
  /-- Up to the end of the type there is no equals sign. -/
  equals_not_mem : '=' ∉ body ++ [last]
  /-- Nor is there a semicolon. -/
  semicolon_not_mem : ';' ∉ body ++ [last]
  /-- A type does not end in a blank. -/
  last_not_blank : isBlank last = false
  /-- Nor does it end in a comma. -/
  last_ne_comma : last ≠ ','
  /-- The gap is not empty. -/
  gap_ne_nil : gap ≠ []
  /-- The gap is made of blanks. -/
  isBlank_of_mem_gap : ∀ c ∈ gap, isBlank c = true

/-- A type ends in neither a blank nor a comma. -/
theorem not_blank_of_declaredType_mayEndIn {c : Char}
    (h : FieldPattern.declaredType.mayEndIn c = true) :
    isBlank c = false ∧ c ≠ ',' := by
  have hword : isWord c = true ∨ c = '_' ∨ c.isAlpha = true → isPlain c = true := by
    rintro (hword | rfl | halpha)
    · exact isPlain_of_isWord hword
    · decide
    · exact isPlain_of_isAlpha halpha
  have hcases : isPlain c = true ∨ c ∈ ['.', '>', '?', ']'] := by
    simp only [FieldPattern.declaredType, maybe, char, mayEndIn_append, mayEndIn, mayBeEmpty,
      Bool.or_eq_true, Bool.and_eq_true, beq_iff_eq, Bool.false_eq_true, false_and, or_false,
      true_and] at h
    simp only [List.mem_cons, List.not_mem_nil, or_false]
    tauto
  rcases hcases with hplain | hmark
  · exact ⟨isBlank_eq_false_of_isPlain hplain, ne_of_isPlain hplain (by decide)⟩
  · exact (by decide : ∀ mark ∈ ['.', '>', '?', ']'], isBlank mark = false ∧ mark ≠ ',') c hmark

/-- Where the beginning, a type and a gap match, the line is cut. -/
theorem exists_typeCut {skipped start type gap rest : Text} {before : Option Char}
    (hstart : FieldPattern.start.Matches skipped.getLast? start (type ++ (gap ++ rest)))
    (htype : FieldPattern.declaredType.Matches before type (gap ++ rest))
    (hne : gap ≠ []) (hblank : ∀ c ∈ gap, isBlank c = true) :
    ∃ body last,
      TypeCut (skipped ++ (start ++ (type ++ (gap ++ rest)))) skipped body last gap rest := by
  obtain ⟨hskipped, blank, more, modifiers, rfl, hkeyword, -, -⟩ := exists_of_start_matches hstart
  have htypene : type ≠ [] := by
    rintro rfl
    exact absurd htype.mayBeEmpty (by decide)
  obtain ⟨front, last, rfl⟩ := (List.eq_nil_or_concat type).resolve_left htypene
  rw [List.concat_eq_append] at htype hstart ⊢
  obtain ⟨hlast, hcomma⟩ := not_blank_of_declaredType_mayEndIn (htype.mayEndIn List.getLast?_concat)
  have hnot : ∀ mark ∈ ['=', ';'],
      mark ∉ ("private".toList ++ blank :: (more ++ modifiers)) ++ (front ++ [last]) := by
    intro mark hmark hmem
    rcases List.mem_append.mp hmem with hmem | hmem
    · have hallows := hstart.allows hmem
      rw [(by decide : ∀ mark ∈ ['=', ';'], FieldPattern.start.allows mark =
        false) mark hmark] at hallows
      exact Bool.noConfusion hallows
    · have hallows := htype.allows hmem
      rw [(by decide : ∀ mark ∈ ['=', ';'], FieldPattern.declaredType.allows mark =
        false) mark hmark] at hallows
      exact Bool.noConfusion hallows
  rw [← List.append_assoc] at hnot
  exact ⟨("private".toList ++ blank :: (more ++ modifiers)) ++ front, last, by simp, hskipped,
    ⟨blank, more ++ modifiers ++ front ++ [last], by simp, hkeyword⟩, hnot '=' (by simp),
    hnot ';' (by simp), hlast, hcomma, hne, hblank⟩

/-- Of two gaps in one text, one begins where the other does or behind it. -/
theorem exists_of_later_gap {gap rest middle gap' rest' : Text} {last last' : Char}
    (heq : last :: (gap ++ rest) = middle ++ last' :: (gap' ++ rest'))
    (hgap : ∀ c ∈ gap, isBlank c = true) (hlast : isBlank last' = false) :
    (middle = [] ∧ gap ++ rest = gap' ++ rest') ∨
      ∃ left, middle = last :: (gap ++ left) ∧ rest = left ++ last' :: (gap' ++ rest') := by
  cases middle with
  | nil => exact Or.inl ⟨rfl, (List.cons.inj heq).2⟩
  | cons c middle =>
    obtain ⟨rfl, htail⟩ := List.cons.inj heq
    rcases List.append_eq_append_iff.mp htail with ⟨left, rfl, hrest⟩ | ⟨inside, rfl, hinside⟩
    · exact Or.inr ⟨left, rfl, hrest⟩
    · cases inside with
      | nil => exact Or.inr ⟨[], by simp, hinside.symm⟩
      | cons d inside =>
        obtain ⟨rfl, -⟩ := List.cons.inj hinside
        rw [hgap last' (by simp)] at hlast
        exact Bool.noConfusion hlast

section Cuts

variable {trimmed skipped body gap skipped' body' gap' : Text} {last last' : Char}

/-- From inside the type on, a cut is a gap in front of what follows the blanks. -/
theorem TypeCut.isGap {inside left rest lead : Text} {c : Char}
    (h : TypeCut trimmed skipped (inside ++ left) last gap rest)
    (hlead : ∀ d ∈ lead, isBlank d = true) (hc : isPlain c = true) :
    IsGap left last (gap ++ lead) c ∧ ';' ∉ left ++ [last] := by
  have hpart : ∀ mark, mark ∉ inside ++ left ++ [last] → mark ∉ left ++ [last] := by
    intro mark hmark hmem
    rw [List.append_assoc] at hmark
    exact hmark (List.mem_append_right _ hmem)
  refine ⟨⟨hpart '=' h.equals_not_mem, h.last_not_blank, by simp [h.gap_ne_nil], fun d hd => ?_,
    hc⟩, hpart ';' h.semicolon_not_mem⟩
  exact (List.mem_append.mp hd).elim (h.isBlank_of_mem_gap d) (hlead d)

/-- The type of a cut begins before a text that does not have the keyword. -/
theorem TypeCut.exists_inside {front list left rest : Text}
    (h : TypeCut trimmed skipped body last gap rest)
    (hkeyword : (FieldPattern.wholeWord "private".toList).occursIn list = false)
    (hfront : skipped ++ body = front ++ left) (hlist : list = left ++ last :: (gap ++ rest)) :
    ∃ inside, body = inside ++ left := by
  rcases List.append_eq_append_iff.mp hfront with ⟨inside, -, hbody⟩ | ⟨before, hskipped, rfl⟩
  · exact ⟨inside, hbody⟩
  · obtain ⟨blank, tail, hbegin, hblank⟩ := h.keyword
    have hoccurs : (FieldPattern.wholeWord "private".toList).occursIn list = true := by
      refine (occursIn_wholeWord_iff (by decide) (by decide)).mpr
        ⟨before, blank :: (tail ++ (gap ++ rest)), ?_, ?_, isWord_eq_false_of_isBlank hblank⟩
      · have hbody : (before ++ body) ++ last :: (gap ++ rest) =
            before ++ ((body ++ [last]) ++ (gap ++ rest)) := by simp
        rw [hlist, hbody, hbegin]
        simp
      · have hends := h.skipped_ends
        rw [hskipped, List.getLast?_append] at hends
        cases hlast : before.getLast? with
        | none => rfl
        | some d => simpa [hlast] using hends
    rw [hkeyword] at hoccurs
    exact Bool.noConfusion hoccurs

/-- A cut whose gap stands in the list of another leaves an entry that is no declarator. -/
theorem TypeCut.exists_entry_of_later {front declarators behind left more : Text} {c : Char}
    (h : TypeCut trimmed skipped body last gap (c :: more)) (hc : isPlain c = true)
    (hkeyword : (FieldPattern.wholeWord "private".toList).occursIn (declarators ++ ';' :: behind) =
      false) (hfront : skipped ++ body = front ++ left)
    (hlist : declarators ++ ';' :: behind = left ++ last :: (gap ++ c :: more)) :
    ∃ entry ∈ splitTopLevel declarators, declaratorName? entry = none := by
  obtain ⟨inside, rfl⟩ := h.exists_inside hkeyword hfront hlist
  obtain ⟨hgap, hleft⟩ := h.isGap (List.forall_mem_nil _) hc
  rw [List.append_nil] at hgap
  -- the gap stands before the end of the list
  have hsemicolon : ';' ∉ left ++ last :: (gap ++ [c]) := hgap.not_mem (by decide) hleft
  obtain ⟨tail, rfl, -⟩ := Text.exists_append_of_not_mem
    (show left ++ last :: (gap ++ [c]) ++ more =
      declarators ++ ';' :: behind by simp [hlist]) hsemicolon
  have hentry := hgap.exists_mem_splitTopLevel tail h.last_ne_comma
  simpa using hentry

/-- An earlier cut reaches only what is mentioned before the list. -/
theorem TypeCut.occursIn_of_earlier {list left more field : Text} {c : Char}
    (h : TypeCut trimmed skipped body last gap list)
    (h' : TypeCut trimmed skipped' body' last' gap' (left ++ last :: (gap ++ list)))
    (hfirst : skipped.length ≤ skipped'.length) (hword : ∀ c ∈ field, isWord c = true)
    (hne : field ≠ []) {lead : Text} (hlead : ∀ c ∈ lead, isBlank c = true)
    (hlist : list = lead ++ c :: more) (hc : isPlain c = true)
    (hfront : skipped ++ body = skipped' ++ body' ++ last' :: (gap' ++ left))
    (hreaches : reaches field (commaPieces (left ++ last :: (gap ++ list))) = true) :
    (FieldPattern.wholeWord field).occursIn (skipped ++ body ++ last :: gap) = true := by
  obtain ⟨inside, hinside⟩ : ∃ inside, body = inside ++ left := by
    have hfront' : skipped ++ body = (skipped' ++ body' ++ last' :: gap') ++ left := by
      simp [hfront]
    rcases List.append_eq_append_iff.mp hfront' with ⟨inside, -, hbody⟩ | ⟨front, hskipped, -⟩
    · exact ⟨inside, hbody⟩
    · have hlength := congrArg List.length hskipped
      simp only [List.length_append, List.length_cons] at hlength
      omega
  subst hinside
  obtain ⟨hgap, hsemicolon⟩ := h.isGap hlead hc
  have hsplit : left ++ last :: (gap ++ list) = left ++ last :: ((gap ++ lead) ++ c :: more) := by
    simp [hlist]
  rw [hsplit] at hreaches
  obtain ⟨before, mark, after, rfl, hbefore, hmark⟩ :=
    hgap.exists_of_reaches more h.last_ne_comma hsemicolon hreaches
  refine (occursIn_wholeWord_iff hne hword).mpr
    ⟨skipped' ++ body' ++ last' :: gap' ++ before, mark :: (after ++ last :: gap), ?_, ?_, hmark⟩
  · rw [hfront]
    simp
  · obtain ⟨front, blank, rfl⟩ := (List.eq_nil_or_concat gap').resolve_left h'.gap_ne_nil
    have hblank := h'.isBlank_of_mem_gap blank (by simp)
    have hconcat : skipped' ++ body' ++ last' :: (front ++ [blank]) ++ before =
        (skipped' ++ body' ++ last' :: front) ++ blank :: before := by simp
    rw [List.concat_eq_append, hconcat]
    exact (Text.any_getLast?_append_cons _ _ (isWord_eq_false_of_isBlank hblank)).trans hbefore

end Cuts

/-- The list of a line comes from the first of its cuts. -/
theorem exists_typeCut_of_declaratorList? {trimmed list : Text}
    (h : declaratorList? trimmed = some list) :
    ∃ skipped body last gap, TypeCut trimmed skipped body last gap list ∧
      ∀ skipped' start' type' gap' rest',
        trimmed = skipped' ++ (start' ++ (type' ++ (gap' ++ rest'))) →
        FieldPattern.start.Matches skipped'.getLast? start' (type' ++ (gap' ++ rest')) →
        FieldPattern.declaredType.Matches
          (start'.getLast?.or skipped'.getLast?) type' (gap' ++ rest') →
        gap' ≠ [] → (∀ c ∈ gap', isBlank c = true) → skipped.length ≤ skipped'.length := by
  obtain ⟨skipped, matched, rest, rfl, hmatch, hrest, hfirst⟩ :=
    exists_first_of_searchFrom_eq_some (fun _ => rfl) h
  obtain rfl := Option.some.inj hrest
  obtain ⟨_, gap, rfl, ⟨start, type, rfl, hstart, htype⟩, hgap⟩ := hmatch
  obtain ⟨hne, hblank⟩ := matches_someBlanks.mp hgap
  rw [Option.or_none] at hstart htype
  obtain ⟨body, last, hcut⟩ := exists_typeCut hstart htype hne hblank
  refine ⟨skipped, body, last, gap, by simpa only [List.append_assoc] using hcut, ?_⟩
  intro skipped' start' type' gap' rest' heq hstart' htype' hne' hblank'
  refine hfirst skipped' (start' ++ type' ++ gap') rest'
    (by simpa only [List.append_assoc] using heq) ⟨start' ++ type', gap', rfl,
      ⟨start', type', rfl, ?_, ?_⟩, matches_someBlanks.mpr ⟨hne', hblank'⟩⟩
  · rwa [Option.or_none]
  · rwa [Option.or_none]

/-- Where a type is read off for a field, a gap behind that type is followed by declarators in which
the field is reached. -/
theorem exists_cut_of_declaredTypeOn? {trimmed field declaredType : Text}
    (h : declaredTypeOn? field trimmed = some declaredType) (hfield : isIdentifier field = true) :
    ∃ skipped start type gap c more,
      trimmed = skipped ++ (start ++ (type ++ (gap ++ c :: more))) ∧
        FieldPattern.start.Matches skipped.getLast? start (type ++ (gap ++ c :: more)) ∧
        FieldPattern.declaredType.Matches
          (start.getLast?.or skipped.getLast?) type (gap ++ c :: more) ∧
        gap ≠ [] ∧ (∀ d ∈ gap, isBlank d = true) ∧ isPlain c = true ∧
        reaches field (commaPieces (c :: more)) = true := by
  obtain ⟨skipped, start, type, _, rest, rfl, hstart, htype,
    ⟨_, last, rfl, ⟨_, wanted, rfl, ⟨gap, leading, rfl, hgap, hleading⟩, hwanted⟩, hend⟩, -⟩ :=
    declaredTypeOn?_eq_some h
  obtain rfl := matches_literal.mp hwanted
  obtain ⟨hne, hblank⟩ := matches_someBlanks.mp hgap
  have hreaches := reaches_of_leading hleading hfield (endsName_of_matches hend)
  obtain ⟨c, more, htail, hc⟩ : ∃ c more, leading ++ (wanted ++ (last ++ rest)) = c :: more ∧
      isPlain c = true := by
    by_cases hempty : leading = []
    · obtain ⟨c, others, rfl⟩ := List.exists_cons_of_ne_nil (ne_nil_of_isIdentifier hfield)
      exact ⟨c, _, by rw [hempty]; rfl, isPlain_of_mem_identifier hfield List.mem_cons_self⟩
    · obtain ⟨c, others, rfl, hc⟩ := exists_head_of_leading hleading hempty
      exact ⟨c, _, rfl, hc⟩
  simp only [List.append_assoc, htail] at hstart htype hreaches ⊢
  exact ⟨skipped, start, type, gap, c, more, rfl, hstart, htype, hne, hblank, hc, hreaches⟩

/-- A field that is found on a line which declares it is reached in the list of the line, unless the
line has the keyword or the name elsewhere. -/
theorem reaches_of_declaredTypeOn? {line head list field declaredType : Text}
    (hhead : line.trim = head ++ list) (hlist : declaratorList? line.trim = some list)
    (hfield : field ∈ declaredFieldNames line) (hword : ∀ c ∈ field, isWord c = true)
    (hkeyword : (FieldPattern.wholeWord "private".toList).occursIn list = false)
    (hmention : (FieldPattern.wholeWord field).occursIn head = false)
    (h : declaredTypeOn? field line.trim = some declaredType) :
    reaches field (commaPieces list) = true := by
  have hidentifier := isIdentifier_of_mem_declaredFieldNames hfield
  obtain ⟨skipped, body, last, gap, hcut, hfirst⟩ := exists_typeCut_of_declaratorList? hlist
  obtain ⟨skipped', start', type', gap', c, more, heq, hstart', htype', hne',
      hblank', hc, hreaches⟩ :=
    exists_cut_of_declaredTypeOn? h hidentifier
  have hlength := hfirst _ _ _ _ _ heq hstart' htype' hne' hblank'
  obtain ⟨body', last', hcut'⟩ := exists_typeCut hstart' htype' hne' hblank'
  rw [← heq] at hcut'
  have hboth := hcut.eq.symm.trans hcut'.eq
  rcases List.append_eq_append_iff.mp hboth with ⟨middle, hfront, htail⟩ | ⟨middle, hfront, htail⟩
  · rcases exists_of_later_gap htail hcut.isBlank_of_mem_gap hcut'.last_not_blank with
      ⟨-, hsame⟩ | ⟨left, rfl, hleft⟩
    · -- both cuts are behind the same type
      rw [← reaches_blank_append hcut.isBlank_of_mem_gap, hsame, reaches_blank_append hblank']
      exact hreaches
    · obtain ⟨-, declarators, behind, hlist', -, hmap⟩ :=
        exists_of_declaredFieldNames (List.ne_nil_of_mem hfield)
      obtain rfl := Option.some.inj (hlist.symm.trans hlist')
      have hinside : skipped' ++ body' = (skipped ++ body ++ last :: gap) ++ left := by
        simp [hfront]
      obtain ⟨entry, hentry, hnone⟩ := hcut'.exists_entry_of_later hc hkeyword hinside hleft
      have hmem : none ∈ (declaredFieldNames line).map some := by
        rw [← hmap, ← hnone]
        exact List.mem_map_of_mem hentry
      simp at hmem
  · rcases exists_of_later_gap htail hblank' hcut.last_not_blank with
      ⟨-, hsame⟩ | ⟨left, rfl, hleft⟩
    · rw [← reaches_blank_append hcut.isBlank_of_mem_gap, ← hsame, reaches_blank_append hblank']
      exact hreaches
    · obtain ⟨name, others, hnames⟩ := List.exists_cons_of_ne_nil (List.ne_nil_of_mem hfield)
      obtain ⟨lead, tail, hlist', hlead, hname, -⟩ :=
        exists_of_head?_declaredFieldNames (by rw [hnames]; rfl : (declaredFieldNames line).head? =
          some name)
      obtain rfl := Option.some.inj (hlist.symm.trans hlist')
      obtain ⟨d, rest, rfl⟩ := List.exists_cons_of_ne_nil (ne_nil_of_isIdentifier hname)
      have hoccurs := hcut.occursIn_of_earlier (hleft ▸ hcut') hlength hword
        (ne_nil_of_isIdentifier hidentifier) hlead rfl
        (isPlain_of_mem_identifier hname List.mem_cons_self) hfront (hleft ▸ hreaches)
      have hsame : skipped ++ body ++ last :: gap = head := by
        have hline : (skipped ++ body ++ last :: gap) ++ (lead ++ (d :: rest ++ tail)) =
            head ++ (lead ++ (d :: rest ++ tail)) := by
          rw [← hhead, hcut.eq]
          simp
        exact List.append_cancel_right hline
      rw [hsame, hmention] at hoccurs
      exact Bool.noConfusion hoccurs

/-! ## Both readings of one line -/

theorem locateField_ofLines_singleton {line name : Text} (hne : name ≠ []) :
    locateField (.ofLines [line]) name =
      (declaredTypeOn? name line.trim).map fun declaredType => ⟨name, declaredType, 0⟩ := by
  rw [locateField, if_neg (by simpa using hne), Snapshot.ofLines, locateFieldFrom]
  cases declaredTypeOn? name line.trim <;> rfl

/-- The first name of a line is reached. -/
theorem reaches_of_head?_declaredFieldNames {line list name : Text}
    (h : (declaredFieldNames line).head? = some name)
    (hlist : declaratorList? line.trim = some list) :
    reaches name (commaPieces list) = true := by
  obtain ⟨left, tail, hlist', hleft, hname, htail⟩ := exists_of_head?_declaredFieldNames h
  obtain rfl := Option.some.inj (hlist.symm.trans hlist')
  exact reaches_of_endsName hleft hname htail

/-- A type is read off a line for each of its names that is reached. -/
theorem isSome_declaredTypeOn?_of_mem {line list name : Text}
    (hname : name ∈ declaredFieldNames line) (hword : ∀ c ∈ name, isWord c = true)
    (hlist : declaratorList? line.trim = some list)
    (hreaches : reaches name (commaPieces list) = true) :
    (declaredTypeOn? name line.trim).isSome = true := by
  obtain ⟨hcomment, declarators, behind, hlist', -, -⟩ :=
    exists_of_declaredFieldNames (List.ne_nil_of_mem hname)
  obtain rfl := Option.some.inj (hlist.symm.trans hlist')
  exact isSome_declaredTypeOn?_of_reaches hword
    (ne_nil_of_isIdentifier (isIdentifier_of_mem_declaredFieldNames hname)) hcomment hlist (by simp)
    hreaches

/-- A name of word characters that a line declares is found on the line if it is reached in the list
behind the type, as the first name always is.  Where the list does not have the keyword again and
the part in front of it does not mention the name, it is not found if it is not reached. -/
theorem exists_locateField_iff_reaches {line name : Text} (hname : name ∈ declaredFieldNames line)
    (hword : ∀ c ∈ name, isWord c = true) :
    ∃ head list, line.trim = head ++ list ∧ declaratorList? line.trim = some list ∧
      ((declaredFieldNames line).head? = some name → reaches name (commaPieces list) = true) ∧
      (reaches name (commaPieces list) = true →
        ∃ declaredType, locateField (.ofLines [line]) name = some ⟨name, declaredType, 0⟩) ∧
      ((FieldPattern.wholeWord "private".toList).occursIn list = false →
        (FieldPattern.wholeWord name).occursIn head = false →
          (∃ reference, locateField (.ofLines [line]) name = some reference) →
            reaches name (commaPieces list) = true) := by
  have hne := ne_nil_of_isIdentifier (isIdentifier_of_mem_declaredFieldNames hname)
  obtain ⟨-, declarators, behind, hlist, -, -⟩ :=
    exists_of_declaredFieldNames (List.ne_nil_of_mem hname)
  obtain ⟨skipped, body, last, gap, hcut, -⟩ := exists_typeCut_of_declaratorList? hlist
  have hhead : line.trim = (skipped ++ body ++ last :: gap) ++ (declarators ++ ';' :: behind) := by
    rw [hcut.eq]
    simp
  refine ⟨_, _, hhead, hlist, fun hfirst => reaches_of_head?_declaredFieldNames hfirst hlist,
    fun hreaches => ?_, fun hkeyword hmention hfound => ?_⟩
  · obtain ⟨declaredType, htype⟩ :=
      Option.isSome_iff_exists.mp (isSome_declaredTypeOn?_of_mem hname hword hlist hreaches)
    exact ⟨declaredType, by rw [locateField_ofLines_singleton hne, htype]; rfl⟩
  · obtain ⟨reference, hreference⟩ := hfound
    rw [locateField_ofLines_singleton hne] at hreference
    obtain ⟨declaredType, htype, -⟩ := Option.map_eq_some_iff.mp hreference
    exact reaches_of_declaredTypeOn? hhead hlist hname hword hkeyword hmention htype

/-- Two fields, the first of which has an initializer. -/
def initializedDeclaration : Text :=
  "    private int _count = 1, _limit;".toList

theorem initializedDeclaration_found :
    "_limit".toList ∈ declaredFieldNames initializedDeclaration ∧
      ∃ declaredType, locateField (.ofLines [initializedDeclaration]) "_limit".toList =
        some ⟨"_limit".toList, declaredType, 0⟩ := by
  have hname : "_limit".toList ∈ declaredFieldNames initializedDeclaration := by decide
  obtain ⟨head, list, -, hlist, -, hfound, -⟩ := exists_locateField_iff_reaches hname (by decide)
  have hsame : declaratorList? initializedDeclaration.trim = some "_count = 1, _limit;".toList := by
    rfl
  obtain rfl := Option.some.inj (hlist.symm.trans hsame)
  exact ⟨hname, hfound (by decide)⟩

/-- The same fields, where the initializer is a call with two arguments. -/
def calledDeclaration : Text :=
  "    private int _count = Make(1, 2), _limit;".toList

/-- A name that a line declares need not be found on it: here the search passes over the first
declarator up to the comma inside its call only. -/
theorem calledDeclaration_not_found :
    declaredFieldNames calledDeclaration = ["_count".toList, "_limit".toList] ∧
      (∀ c ∈ "_limit".toList, isWord c = true) ∧
      locateField (.ofLines [calledDeclaration]) "_limit".toList = none :=
  ⟨by rfl, by decide, by rfl⟩

end FieldInjection
