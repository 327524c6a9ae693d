import FieldInjection.Proofs.Canonical.Types
import FieldInjection.Proofs.Declarators
import FieldInjection.Proofs.Tokens

/-!
# Lines that declare several fields

A declaration is written as the keyword, a type and the names with commas between them.  Of its
blanks only the one behind the keyword and the one behind the type do not follow a comma, so there
is one way to cut it, and both readings of the line give the type and the names that it was written
with.

## Main Definitions

* `declaration`: a private declaration of some fields.

## Main Statements

* `cut_declaration`: a declaration is cut in one way.
* `declaredFieldNames_declaration`: the names on the line.
* `declaredTypeOn?_declaration`, `of_declaredTypeOn?_declaration`: the type that is read off the
  line for each of the names, and no type for another name.
-/

namespace FieldInjection

open Pattern

/-- The names of a declaration, up to its end. -/
def declarators (names : List Text) : Text :=
  [',', ' '].intercalate names ++ [';']

/-- A private declaration of some fields. -/
def declaration (type : Text) (names : List Text) : Text :=
  "private".toList ++ ' ' :: (type ++ ' ' :: declarators names)

theorem declaration_eq (type : Text) (names : List Text) :
    declaration type names = "private".toList ++ ' ' :: (type ++ ' ' :: declarators names) := rfl

/-- One name is followed by the semicolon. -/
theorem declarators_singleton (name : Text) : declarators [name] = name ++ [';'] := by
  simp [declarators]

/-- A name with others behind it is followed by a comma and a blank. -/
theorem declarators_cons_cons (name second : Text) (names : List Text) :
    declarators (name :: second :: names) =
      name ++ ',' :: ' ' :: declarators (second :: names) := by
  simp [declarators, List.intercalate_cons_cons]

/-! ## ASCII names -/

section Name

variable {name : Text} (h : isAsciiName name = true)

include h

/-- The characters of ASCII names are word characters. -/
theorem isWord_of_mem_asciiName {c : Char} (hc : c ∈ name) : isWord c = true :=
  of_mem_asciiName h isWord (by decide) hc

/-- An ASCII name is an identifier. -/
theorem isIdentifier_of_isAsciiName : isIdentifier name = true := by
  have hrest : ∀ c ∈ name, isIdentifierChar c = true := fun c hc =>
    of_mem_asciiName h isIdentifierChar (by decide) hc
  obtain ⟨first, rest, rfl, hstart, -⟩ := isAsciiName_cons h
  have hfirst := of_mem_asciiName h (fun d => !isNameStart d || (isLetter d || d == '_'))
    (by decide) (List.mem_cons_self)
  rw [isIdentifier, Bool.and_eq_true, List.all_eq_true]
  exact ⟨by simpa [hstart] using hfirst, fun c hc => hrest c (List.mem_cons_of_mem _ hc)⟩

theorem isBlank_eq_false_of_mem_asciiName {c : Char} (hc : c ∈ name) : isBlank c = false :=
  isBlank_eq_false_of_isPlain (isPlain_of_mem_identifier (isIdentifier_of_isAsciiName h) hc)

end Name

/-! ## How a declaration is cut -/

/-- A text with a tight beginning is cut behind it, or later, at a blank that follows no comma. -/
theorem cut_at_blank {word rest left right : Text} {blank : Char} (hword : Tight word)
    (heq : word ++ ' ' :: rest = left ++ blank :: right) (hblank : isBlank blank = true)
    (hleft : left.getLast? ≠ some ',') :
    (left = word ∧ right = rest) ∨ ∃ more, left = word ++ ' ' :: more ∧ rest =
      more ++ blank :: right := by
  rcases List.append_eq_append_iff.mp heq with ⟨middle, rfl, hmiddle⟩ | ⟨middle, rfl, hmiddle⟩
  · cases middle with
    | nil => exact Or.inl ⟨List.append_nil _, (List.cons.inj hmiddle).2.symm⟩
    | cons c middle =>
      obtain ⟨rfl, rfl⟩ := List.cons.inj hmiddle
      exact Or.inr ⟨middle, rfl, rfl⟩
  · cases middle with
    | nil => exact Or.inl ⟨(List.append_nil _).symm, (List.cons.inj hmiddle).2⟩
    | cons c middle =>
      obtain ⟨rfl, -⟩ := List.cons.inj hmiddle
      exact absurd (hword left blank middle rfl hblank) hleft

/-- What a text does not end with, none of its ends ends with. -/
theorem getLast?_append_cons_ne {left right : Text} {c mark : Char}
    (h : (left ++ c :: right).getLast? ≠ some mark) : right.getLast? ≠ some mark := by
  intro hlast
  rw [List.getLast?_append, List.getLast?_cons, hlast] at h
  exact h rfl

/-- Two cuts at blanks that follow no comma are behind the keyword and behind the type. -/
theorem cut_declaration {type tail front inner back : Text} {first second : Char}
    (htype : IsTypeText type) (htail : Tight tail)
    (heq : "private".toList ++ ' ' :: (type ++ ' ' :: tail) =
      front ++ first :: (inner ++ second :: back)) (hfirst : isBlank first = true)
    (hsecond : isBlank second = true) (hfront : front.getLast? ≠ some ',')
    (hinner : inner.getLast? ≠ some ',') :
    front = "private".toList ∧ inner = type ∧ back = tail := by
  have hkeyword : Tight "private".toList := Tight.of_not_blank (by decide)
  rcases cut_at_blank hkeyword heq hfirst hfront with ⟨rfl, hrest⟩ | ⟨more, rfl, hrest⟩
  · rcases cut_at_blank htype.tight hrest.symm hsecond hinner with ⟨rfl, rfl⟩ | ⟨more, rfl, hmore⟩
    · exact ⟨rfl, rfl, rfl⟩
    · exact absurd (htail more second back hmore hsecond) (getLast?_append_cons_ne hinner)
  · have hmore := getLast?_append_cons_ne hfront
    rcases cut_at_blank htype.tight hrest hfirst hmore with ⟨rfl, hback⟩ | ⟨more, rfl, hback⟩
    · exact absurd (htail inner second back hback.symm hsecond) hinner
    · exact absurd (htail more first _ hback hfirst) (getLast?_append_cons_ne hmore)

/-- A text that does not begin with a blank has no blanks in front. -/
theorem eq_nil_of_head?_not_blank {blanks rest text : Text} (h : ∀ c ∈ blanks, isBlank c = true)
    (heq : blanks ++ rest = text) (hhead : text.head?.any isBlank = false) : blanks = [] := by
  subst heq
  cases blanks with
  | nil => rfl
  | cons c blanks => simp [h c (by simp)] at hhead

/-- Whatever matches the beginning and the type of a declaration, it is the type that was
written. -/
theorem eq_of_matches_declaration {type tail skipped start found back startRest typeRest : Text}
    {blank : Char} {before before' : Option Char} (htype : IsTypeText type) (htail : Tight tail)
    (heq : "private".toList ++ ' ' :: (type ++ ' ' :: tail) =
      skipped ++ (start ++ (found ++ blank :: back)))
    (hstart : FieldPattern.start.Matches before start startRest)
    (hfound : FieldPattern.declaredType.Matches before' found typeRest)
    (hblank : isBlank blank = true) :
    found = type ∧ back = tail := by
  obtain ⟨-, gap, blanks, modifiers, rfl, hgap, hblanks, hmodifiers⟩ :=
    exists_of_start_matches hstart
  have hlast : (blanks ++ modifiers ++ found).getLast? ≠ some ',' := by
    rw [List.getLast?_append]
    cases hget : found.getLast? with
    | none =>
      rw [List.getLast?_eq_none_iff.mp hget] at hfound
      exact absurd hfound.mayBeEmpty (by decide)
    | some c =>
      rintro hc
      obtain rfl : c = ',' := by simpa using hc
      exact absurd (hfound.mayEndIn hget) (by decide)
  have hcut : "private".toList ++ ' ' :: (type ++ ' ' :: tail) =
      (skipped ++ "private".toList) ++
      gap :: ((blanks ++ modifiers ++ found) ++ blank :: back) := by
    simpa using heq
  obtain ⟨-, hinner, hback⟩ := cut_declaration htype htail hcut hgap hblank (by simp) hlast
  refine ⟨?_, hback⟩
  rw [List.append_assoc] at hinner
  have hnone := eq_nil_of_head?_not_blank hblanks hinner htype.head?_not_blank
  rcases hmodifiers with rfl | ⟨keyword, blank', more, rfl, hblank', hkeyword⟩
  · simpa [hnone] using hinner
  · refine absurd (htype.tight keyword blank' (more ++ found) ?_ hblank') hkeyword
    simpa [hnone] using hinner.symm

/-! ## Reading a declaration -/

section Declaration

variable {type : Text} {names : List Text} (htype : IsTypeText type)
    (hnames : ∀ name ∈ names, isAsciiName name = true) (hne : names ≠ [])

include hnames

theorem tight_declarators : Tight (declarators names) := by
  refine (Tight.comma_blank.intercalate fun name hname => ?_).append
    (Tight.of_not_blank (by decide))
  exact Tight.of_not_blank fun c => isBlank_eq_false_of_mem_asciiName (hnames name hname)

/-- The first name stands directly at the beginning of the list. -/
theorem head?_declarators_not_blank (hne : names ≠ []) :
    (declarators names).head?.any isBlank = false := by
  obtain ⟨first, others, rfl⟩ := List.exists_cons_of_ne_nil hne
  have hfirst := hnames first (by simp)
  obtain ⟨c, rest, rfl, hstart, -⟩ := isAsciiName_cons hfirst
  have hblank := isBlank_eq_false_of_mem_asciiName hfirst (List.mem_cons_self)
  cases others <;> simpa [declarators, List.intercalate_cons_cons] using hblank

omit hnames in
/-- A declaration begins with the keyword. -/
theorem matches_start {rest : Text} :
    FieldPattern.start.Matches none ("private".toList ++ [' ']) rest := by
  refine ⟨"private".toList ++ [' '], [], by simp, ⟨"private".toList, [' '], rfl,
    ⟨[], "private".toList, rfl, ⟨rfl, ?_⟩, matches_literal.mpr rfl⟩,
    matches_someBlanks.mpr (by decide)⟩, Repeats.nil _ _⟩
  have hword : isWord 'p' = true := by decide
  simp [Place.isBoundary, hword]

include htype hne

/-- Behind the type of a declaration come its names. -/
theorem declaratorList?_declaration :
    declaratorList? (declaration type names) = some (declarators names) := by
  have hmatch : (FieldPattern.start ++ FieldPattern.declaredType ++ someBlanks).Matches none
      (("private".toList ++ [' ']) ++ type ++ [' ']) (declarators names) :=
    ⟨_, [' '], rfl, ⟨_, type, rfl, matches_start, htype.declaredType_matches⟩,
      matches_someBlanks.mpr (by decide)⟩
  have hsome : (declaratorList? (declaration type names)).isSome = true := by
    have hsplit : declaration type names =
        [] ++ ((("private".toList ++ [' ']) ++ type ++ [' ']) ++ declarators names) := by
      simp only [declaration_eq, List.nil_append, List.append_assoc, List.cons_append]
    rw [hsplit, declaratorList?, search]
    exact isSome_searchFrom hmatch rfl
  obtain ⟨found, hfound⟩ := Option.isSome_iff_exists.mp hsome
  obtain ⟨skipped, matched, rest, heq,
      ⟨_, blanks, rfl, ⟨start, other, rfl, hstart, hother⟩, hblanks⟩, hrest⟩ :=
      exists_of_searchFrom_eq_some hfound
  obtain ⟨hfilled, hall⟩ := matches_someBlanks.mp hblanks
  obtain ⟨blank, blanks, rfl⟩ := List.exists_cons_of_ne_nil hfilled
  have hcut : "private".toList ++ ' ' :: (type ++ ' ' :: declarators names) =
      skipped ++ (start ++ (other ++ blank :: (blanks ++ rest))) := by
    rw [← declaration_eq, heq]
    simp only [List.append_assoc, List.cons_append]
  obtain ⟨-, hback⟩ := eq_of_matches_declaration htype (tight_declarators hnames) hcut hstart hother
    (hall blank (by simp))
  have hnone := eq_nil_of_head?_not_blank (fun c hc => hall c (by simp [hc])) hback
    (head?_declarators_not_blank hnames hne)
  rw [hnone, List.nil_append] at hback
  rw [hfound, ← hback]
  exact hrest.symm

omit htype hnames hne in
/-- A declaration is what remains of its line without the indentation. -/
theorem trim_declaration {indent : Text} (hindent : ∀ c ∈ indent, isBlank c = true) :
    (indent ++ declaration type names).trim = declaration type names := by
  rw [Text.trim_blank_append hindent]
  refine Text.trim_eq_self ?_ ?_
  · rw [declaration_eq, List.head?_append_of_ne_nil _ (by decide)]
    decide
  · obtain ⟨start, hend⟩ : ∃ start, declaration type names = start ++ [';'] :=
      ⟨"private".toList ++ ' ' :: (type ++ ' ' :: [',', ' '].intercalate names), by
        simp [declaration_eq, declarators]⟩
    rw [hend, List.getLast?_concat]
    decide

omit htype hnames hne in
theorem isCommentLine_declaration : isCommentLine (declaration type names) = false := by
  simp [isCommentLine, Text.startsWith, declaration_eq, List.isPrefixOf]

omit htype hnames hne in
/-- A name with blanks before it is read as the declared name. -/
theorem declaratorName?_eq_some {blanks name : Text} (hname : isAsciiName name = true)
    (hblanks : ∀ c ∈ blanks, isBlank c = true) : declaratorName? (blanks ++ name) = some name := by
  have hidentifier := isIdentifier_of_isAsciiName hname
  have hplain : ∀ c ∈ name, isPlain c = true := fun c hc => isPlain_of_mem_identifier hidentifier hc
  obtain ⟨hpiece, hdrop⟩ : pieceName (blanks ++ (name ++ ([] ++ []))) = name ∧ _ :=
    pieceName_of_parts hblanks hplain (by simp) rfl
  rw [List.append_nil, List.append_nil] at hpiece hdrop
  exact declaratorName?_eq_some_iff.mpr ⟨hidentifier, hpiece, by simp [hdrop]⟩

omit htype in
/-- The names of a declaration are the entries between its commas. -/
theorem mapM_splitTopLevel :
    (splitTopLevel ([',', ' '].intercalate names)).mapM declaratorName? = some names := by
  obtain ⟨first, others, rfl⟩ := List.exists_cons_of_ne_nil hne
  have hentry : ∀ name ∈ first :: others, Unsplit 0 0 name := fun name hname =>
    Unsplit.of_listPlain fun c hc => of_mem_asciiName (hnames name hname) isListPlain (by decide) hc
  have hothers : (others.map (' ' :: ·)).mapM declaratorName? = some others := by
    have hrest : ∀ name ∈ others, isAsciiName name = true := fun name hname =>
      hnames name (List.mem_cons_of_mem _ hname)
    clear hentry hnames hne
    induction others with
    | nil => rfl
    | cons name others ih =>
      have hblank := declaratorName?_eq_some (hrest name (by simp)) (by decide : ∀ c ∈ [' '], _)
      rw [List.map_cons, List.mapM_cons, ih fun other hother => hrest other (by simp [hother])]
      exact congrArg (· >>= _) hblank
  have hfirst := declaratorName?_eq_some (hnames first (by simp)) (by simp : ∀ c ∈ [], _)
  rw [splitTopLevel, splitTopLevelFrom_intercalate_blank (by decide) hentry,
    List.mapM_cons, hothers]
  exact congrArg (· >>= _) hfirst

/-- A declaration declares its names. -/
theorem declaredFieldNames_declaration {indent : Text} (hindent : ∀ c ∈ indent, isBlank c = true) :
    declaredFieldNames (indent ++ declaration type names) = names := by
  have hcut : Text.cutFirst? ';' (declarators names) = some ([',', ' '].intercalate names, []) := by
    refine Text.cutFirst?_append_cons fun hc => ?_
    rcases of_mem_intercalate hc with hc | ⟨name, hname, hc⟩
    · exact absurd hc (by decide)
    · exact ne_of_isPlain (isPlain_of_mem_identifier
        (isIdentifier_of_isAsciiName (hnames name hname)) hc) (by decide) rfl
  rw [declaredFieldNames]
  simp only [trim_declaration hindent, isCommentLine_declaration,
    declaratorList?_declaration htype hnames hne, Option.bind_some, hcut,
    mapM_splitTopLevel hnames hne,
    Bool.false_eq_true, if_false, Option.getD_some]

end Declaration

/-! ## The type of one of the fields -/

/-- The only token of a name is the name. -/
theorem containsToken_asciiName {name token : Text} (hname : isAsciiName name = true)
    (htoken : isIdentifier token = true) (h : containsToken name token = true) : token = name := by
  obtain ⟨before, after, rfl, hbefore, hafter⟩ := (containsToken_iff (ne_nil_of_isIdentifier htoken)
    fun c => isIdentifierChar_of_mem htoken).mp h
  have hall : ∀ c ∈ before ++ token ++ after, isIdentifierChar c = true := fun c =>
    isIdentifierChar_of_mem (isIdentifier_of_isAsciiName hname)
  have hleft : before = [] := by
    cases hlast : before.getLast? with
    | none => exact List.getLast?_eq_none_iff.mp hlast
    | some c =>
      have hc := List.mem_of_getLast? hlast
      simp [hlast, hall c (by simp [hc])] at hbefore
  have hright : after = [] := by
    cases after with
    | nil => rfl
    | cons c after => simp [hall c (by simp)] at hafter
  simp [hleft, hright]

/-- Only the names stand alone in a list of names. -/
theorem mem_of_containsToken_declarators {names : List Text} {token : Text}
    (hnames : ∀ name ∈ names, isAsciiName name = true) (htoken : isIdentifier token = true)
    (h : containsToken (declarators names) token = true) : token ∈ names := by
  have hne := ne_nil_of_isIdentifier htoken
  have hchars : ∀ c ∈ token, isIdentifierChar c = true := fun c => isIdentifierChar_of_mem htoken
  have hempty : ¬ containsToken [] token = true := by
    simp [containsToken_nil hne hchars]
  induction names with
  | nil =>
    have hnone := (containsToken_append_cons_iff hne hchars (by decide)).mp
      (h : containsToken ([] ++ ';' :: []) token = true)
    exact (hnone.elim hempty hempty).elim
  | cons name names ih =>
    have hname := containsToken_asciiName (hnames name (by simp)) htoken
    cases names with
    | nil =>
      rw [declarators_singleton, containsToken_append_cons_iff hne hchars (by decide)] at h
      rcases h with hfirst | hlast
      · simp [hname hfirst]
      · exact (hempty hlast).elim
    | cons second names =>
      rw [declarators_cons_cons, containsToken_append_cons_iff hne hchars (by decide),
        ← List.nil_append (' ' :: _), containsToken_append_cons_iff hne hchars (by decide)] at h
      rcases h with hfirst | hblank | hrest
      · simp [hname hfirst]
      · exact (hempty hblank).elim
      · exact List.mem_cons_of_mem _ (ih (fun other hother => hnames other (by simp_all)) hrest)

section Located

variable {type : Text} {names : List Text} {field : Text} (htype : IsTypeText type)
    (hnames : ∀ name ∈ names, isAsciiName name = true)

include htype hnames

/-- A declaration declares no field but those it names, and these with its type. -/
theorem of_declaredTypeOn?_declaration {found : Text} (hfield : isIdentifier field = true)
    (h : declaredTypeOn? field (declaration type names) = some found) :
    field ∈ names ∧ found = type := by
  obtain ⟨skipped, start, other, matched, rest, heq, hstart, hother, hmatched, rfl⟩ :=
    declaredTypeOn?_eq_some h
  obtain ⟨_, last, rfl, ⟨leading, wanted, rfl, hleading, hliteral⟩, hlast⟩ := hmatched
  obtain rfl := (matches_literal.mp hliteral).symm
  have hbefore := any_getLast?_of_leading
    (fun c => isIdentifierChar_eq_false_of_isBlank) (by decide) hleading
  obtain ⟨blanks, leads, rfl, hblanks, -⟩ := hleading
  obtain ⟨hfilled, hall⟩ := matches_someBlanks.mp hblanks
  obtain ⟨blank, blanks, rfl⟩ := List.exists_cons_of_ne_nil hfilled
  have hcut : "private".toList ++ ' ' :: (type ++ ' ' :: declarators names) =
      skipped ++ (start ++ (other ++ blank :: (blanks ++ leads ++ field ++ (last ++ rest)))) := by
    rw [← declaration_eq, heq]
    simp only [List.append_assoc, List.cons_append]
  obtain ⟨rfl, hback⟩ := eq_of_matches_declaration htype
    (tight_declarators hnames) hcut hstart hother (hall blank (by simp))
  refine ⟨mem_of_containsToken_declarators hnames hfield ?_, htype.trim_eq⟩
  refine (containsToken_iff (ne_nil_of_isIdentifier hfield) fun c =>
    isIdentifierChar_of_mem hfield).mpr ⟨blanks ++ leads, last ++ rest, hback.symm, ?_,
      (endsName_of_matches hlast).any_head?
        (fun c => isIdentifierChar_eq_false_of_isBlank) (by decide)⟩
  rw [List.cons_append, List.getLast?_cons] at hbefore
  cases hget : (blanks ++ leads).getLast? with
  | none => rfl
  | some c => simpa [hget] using hbefore

end Located

theorem isPatternName_of_isAsciiName {name : Text} (h : isAsciiName name = true) :
    isPatternName name = true := by
  have hword : ∀ c ∈ name, isWord c = true := fun c => isWord_of_mem_asciiName h
  obtain ⟨first, others, rfl, hstart, -⟩ := isAsciiName_cons h
  rw [isPatternName, Bool.and_eq_true, List.all_eq_true]
  exact ⟨hstart, fun c hc => hword c (List.mem_cons_of_mem _ hc)⟩

/-- A name with a comma and a blank is matched as a declarator in front of the last one. -/
theorem matches_leadingDeclarator {name : Text} (h : isAsciiName name = true) {before : Option Char}
    {rest : Text} : FieldPattern.leadingDeclarator.Matches before (name ++ [',', ' ']) rest :=
  ⟨name ++ [','], [' '], by simp, ⟨name, [','], rfl, ⟨name, [], by simp, ⟨name, [], by simp,
    matches_name_iff.mpr (isPatternName_of_isAsciiName h), matches_many_one.mpr (by simp)⟩,
    matches_maybe.mpr (Or.inr rfl)⟩, matches_char.mpr rfl⟩, matches_many_one.mpr (by decide)⟩

/-- Each name of a declaration is reached over the names before it. -/
theorem exists_leading {names : List Text} {field : Text}
    (hnames : ∀ name ∈ names, isAsciiName name = true) (hfield : field ∈ names) :
    ∃ leads mark rest, declarators names = leads ++ (field ++ mark :: rest) ∧ mark ∈ [';', ','] ∧
      leads.getLast?.any isWord = false ∧
      ∀ before, (many FieldPattern.leadingDeclarator).Matches before leads
        (field ++ mark :: rest) := by
  induction names with
  | nil => simp at hfield
  | cons name names ih =>
    by_cases hfirst : field = name
    · subst hfirst
      cases names with
      | nil =>
        exact ⟨[], ';', [], declarators_singleton field, by simp, rfl, fun _ => Repeats.nil _ _⟩
      | cons second names =>
        exact ⟨[], ',', ' ' :: declarators (second :: names), declarators_cons_cons _ _ _, by simp,
          rfl, fun _ => Repeats.nil _ _⟩
    · have hrest : field ∈ names := (List.mem_cons.mp hfield).resolve_left hfirst
      obtain ⟨leads, mark, rest, hsplit, hmark, hlast, hleads⟩ :=
        ih (fun other hother => hnames other (by simp [hother])) hrest
      obtain ⟨second, others, rfl⟩ := List.exists_cons_of_ne_nil (List.ne_nil_of_mem hrest)
      refine ⟨name ++ [',', ' '] ++ leads, mark, rest, ?_, hmark, ?_, fun before => ?_⟩
      · rw [declarators_cons_cons, hsplit]
        simp
      · refine Text.any_getLast?_append ?_ hlast
        rw [List.getLast?_append]
        exact (by decide : isWord ' ' = false)
      · exact Repeats.cons (by simp) (matches_leadingDeclarator (hnames name (by simp))) (hleads _)

/-- A declaration declares each field that it names, with its type. -/
theorem declaredTypeOn?_declaration {type : Text} {names : List Text} {field : Text}
    (htype : IsTypeText type) (hnames : ∀ name ∈ names, isAsciiName name = true)
    (hfield : field ∈ names) : declaredTypeOn? field (declaration type names) = some type := by
  obtain ⟨leads, mark, rest, hsplit, hmark, hlast, hleads⟩ := exists_leading hnames hfield
  have hblank : isWord ' ' = false := by decide
  have hends : ∀ c ∈ [';', ','], isWord c = false := by decide
  have hmay : MayDeclare field (declaration type names) := by
    refine ⟨isCommentLine_declaration, ?_, ?_, Or.inl (by simp [declaration_eq, declarators])⟩
    · exact (occursIn_wholeWord_iff (by decide) (by decide)).mpr
        ⟨[], ' ' :: (type ++ ' ' :: declarators names), declaration_eq type names, rfl, hblank⟩
    · have heq : declaration type names =
          (("private".toList ++ ' ' :: (type ++ [' '])) ++ leads) ++ (field ++ mark :: rest) := by
        simp only [declaration_eq, hsplit, List.append_assoc, List.cons_append, List.nil_append]
      have hasciiField := hnames field hfield
      refine (occursIn_wholeWord_iff
        (ne_nil_of_isIdentifier (isIdentifier_of_isAsciiName hasciiField)) fun c =>
        isWord_of_mem_asciiName hasciiField).mpr ⟨_, _, heq, ?_, hends mark hmark⟩
      refine Text.any_getLast?_append ?_ hlast
      rw [← List.cons_append, ← List.append_assoc, List.getLast?_concat]
      exact hblank
  have hdeclares : DeclaresAs field (declaration type names) type := by
    refine ⟨[], "private".toList ++ [' '], type, ' ' :: (leads ++ field ++ [mark]), rest, ?_,
      matches_start, htype.declaredType_matches, ?_, htype.trim_eq.symm⟩
    · simp only [declaration_eq, hsplit, List.append_assoc, List.cons_append, List.nil_append]
    · refine ⟨' ' :: (leads ++ field), [mark], by simp,
        ⟨' ' :: leads, field, rfl, ⟨[' '], leads, rfl, matches_someBlanks.mpr (by decide), ?_⟩,
          matches_literal.mpr rfl⟩, [], [mark], rfl, matches_many_one.mpr (by simp),
          Or.inl ⟨mark, rfl, by simpa using hmark⟩⟩
      simpa using hleads _
  obtain ⟨found, hfound⟩ := Option.isSome_iff_exists.mp (isSome_declaredTypeOn? hmay hdeclares)
  obtain ⟨-, rfl⟩ := of_declaredTypeOn?_declaration htype hnames
    (isIdentifier_of_isAsciiName (hnames field hfield)) hfound
  exact hfound

end FieldInjection
