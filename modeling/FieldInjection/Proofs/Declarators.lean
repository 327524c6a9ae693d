import FieldInjection.Proofs.CommaLists
import FieldInjection.Proofs.Declarations
import FieldInjection.Proofs.Plans

/-!
# Declarators in front of a field

The search for a field in a list of declarators is a pattern with repetition: declarators that are
passed over, the name, and what may follow it.  A declarator that is passed over ends at the next
comma, whatever brackets are open there.  So the search does the same as going through the pieces
between all commas of the list, and this module proves it.

* A piece that is passed over is one whose name the pattern accepts
  (`matches_leadingDeclarator_iff`).  Names begin with an ASCII letter or the low line there, and
  not with any letter as identifiers do.
* The search arrives at a name exactly when the pieces lead to one that declares it
  (`reaches_of_leading`, `exists_leading_of_reaches`).

## Main Definitions

* `commaPieces`, `pieceName`: the pieces of a list, and what a piece would be named.
* `isPatternName`: the names of declarators that are passed over.
* `reaches`: whether the pieces of a list lead to one that declares a field.
* `EndsName`: what shows behind a name that it is declared.

## Main Statements

* `declaratorName?_eq_some_iff`: the name that is read off a piece.
* `matches_leadingDeclarator_iff`: what is passed over.
* `reaches_of_leading`, `exists_leading_of_reaches`: what is reached is what can be found.
-/

namespace FieldInjection

open Pattern

/-! ## Pieces between commas -/

/-- The pieces of a list between all of its commas, up to its first semicolon. -/
def commaPieces (list : Text) : List Text :=
  (list.takeWhile (· != ';')).splitOn ','

/-- What a piece would be named: the text in front of its first equals sign. -/
def pieceName (piece : Text) : Text :=
  Text.trim (piece.takeWhile (· != '='))

/-- Whether a name begins with an ASCII letter or the low line and goes on with word characters. -/
def isPatternName : Text → Bool
  | [] => false
  | first :: others => (first.isAlpha || first == '_') && others.all isWord

/-- Whether the search for a field arrives at a piece that declares it. -/
def reaches (field : Text) : List Text → Bool
  | [] => false
  | piece :: others =>
    declaratorName? piece == some field || (isPatternName (pieceName piece) && reaches field others)

section Pieces

variable {piece rest : Text}

theorem commaPieces_comma : commaPieces (',' :: rest) = [] :: commaPieces rest := by
  rw [commaPieces, List.takeWhile_cons_of_pos (by decide), List.splitOn_cons_eq_if_modifyHead]
  rfl

theorem commaPieces_semicolon : commaPieces (';' :: rest) = [[]] := by
  rw [commaPieces, List.takeWhile_cons_of_neg (by decide)]
  rfl

/-- Any other character belongs to the first piece. -/
theorem commaPieces_cons {c : Char} (hcomma : c ≠ ',') (hsemicolon : c ≠ ';') :
    commaPieces (c :: rest) = (commaPieces rest).modifyHead (c :: ·) := by
  have hne : ¬ (c == ',') = true := by simpa using hcomma
  rw [commaPieces, List.takeWhile_cons_of_pos (by simpa using hsemicolon),
    List.splitOn_cons_eq_if_modifyHead, if_neg hne, commaPieces]

/-- A text without marks goes to the first piece. -/
theorem commaPieces_append (hcomma : ',' ∉ piece) (hsemicolon : ';' ∉ piece) :
    commaPieces (piece ++ rest) = (commaPieces rest).modifyHead (piece ++ ·) := by
  induction piece with
  | nil => exact (congrFun List.modifyHead_id _).symm
  | cons c piece ih =>
    simp only [List.mem_cons, not_or] at hcomma hsemicolon
    rw [List.cons_append, commaPieces_cons (Ne.symm hcomma.1) (Ne.symm hsemicolon.1),
      ih hcomma.2 hsemicolon.2, List.modifyHead_modifyHead]
    rfl

/-- A text without marks and a comma behind it are a piece. -/
theorem commaPieces_append_comma (hcomma : ',' ∉ piece) (hsemicolon : ';' ∉ piece) :
    commaPieces (piece ++ ',' :: rest) = piece :: commaPieces rest := by
  rw [commaPieces_append hcomma hsemicolon, commaPieces_comma,
    List.modifyHead_cons, List.append_nil]

/-- The semicolon ends the last piece. -/
theorem commaPieces_append_semicolon (hcomma : ',' ∉ piece) (hsemicolon : ';' ∉ piece) :
    commaPieces (piece ++ ';' :: rest) = [piece] := by
  rw [commaPieces_append hcomma hsemicolon, commaPieces_semicolon, List.modifyHead_cons,
    List.append_nil]

/-- There is always a piece. -/
theorem commaPieces_ne_nil (list : Text) : commaPieces list ≠ [] :=
  List.splitOn_ne_nil _ _

/-- The list begins with the first of its pieces. -/
theorem exists_append_of_commaPieces {list : Text} {others : List Text}
    (h : commaPieces list = piece :: others) : ∃ rest, list = piece ++ rest := by
  induction list generalizing piece others with
  | nil =>
    obtain ⟨rfl, -⟩ := List.cons.inj h
    exact ⟨[], rfl⟩
  | cons c list ih =>
    by_cases hsemicolon : c = ';'
    · rw [hsemicolon, commaPieces_semicolon] at h
      obtain ⟨rfl, -⟩ := List.cons.inj h
      exact ⟨_, rfl⟩
    by_cases hcomma : c = ','
    · rw [hcomma, commaPieces_comma] at h
      obtain ⟨rfl, -⟩ := List.cons.inj h
      exact ⟨_, rfl⟩
    obtain ⟨first, more, hfirst⟩ := List.exists_cons_of_ne_nil (commaPieces_ne_nil list)
    obtain ⟨rest, rfl⟩ := ih hfirst
    rw [commaPieces_cons hcomma hsemicolon, hfirst, List.modifyHead_cons] at h
    obtain ⟨rfl, -⟩ := List.cons.inj h
    exact ⟨rest, rfl⟩

/-- The first piece ends at the semicolon, or at a comma with the other pieces behind it. -/
theorem exists_first_piece {list : Text} (h : ';' ∈ list) :
    ∃ piece mark rest, list = piece ++ mark :: rest ∧ ',' ∉ piece ∧ ';' ∉ piece ∧
      ((mark = ';' ∧ commaPieces list = [piece]) ∨
        (mark = ',' ∧ ';' ∈ rest ∧ commaPieces list = piece :: commaPieces rest)) := by
  induction list with
  | nil => simp at h
  | cons c list ih =>
    by_cases hend : c = ';'
    · subst hend
      exact ⟨[], ';', list, rfl, by simp, by simp, Or.inl ⟨rfl, commaPieces_semicolon⟩⟩
    have hlater : ';' ∈ list := (List.mem_cons.mp h).resolve_left (Ne.symm hend)
    by_cases hnext : c = ','
    · subst hnext
      exact ⟨[], ',', list, rfl, by simp, by simp, Or.inr ⟨rfl, hlater, commaPieces_comma⟩⟩
    obtain ⟨piece, mark, rest, rfl, hcomma, hsemicolon, hcases⟩ := ih hlater
    have hcomma' : ',' ∉ c :: piece := by simp [Ne.symm hnext, hcomma]
    have hsemicolon' : ';' ∉ c :: piece := by simp [Ne.symm hend, hsemicolon]
    refine ⟨c :: piece, mark, rest, rfl, hcomma', hsemicolon', ?_⟩
    rcases hcases with ⟨rfl, -⟩ | ⟨rfl, hrest, -⟩
    · exact Or.inl ⟨rfl, commaPieces_append_semicolon hcomma' hsemicolon'⟩
    · exact Or.inr ⟨rfl, hrest, commaPieces_append_comma hcomma' hsemicolon'⟩

end Pieces

/-! ## Names of pieces -/

section Names

variable {left name right tail piece : Text}

theorem not_mem_takeWhile_ne (mark : Char) (text : Text) : mark ∉ text.takeWhile (· != mark) := by
  intro hmem
  simpa using List.mem_takeWhile_imp hmem

theorem eq_nil_or_exists_dropWhile_ne (mark : Char) (text : Text) :
    text.dropWhile (· != mark) = [] ∨ ∃ rest, text.dropWhile (· != mark) = mark :: rest := by
  cases hdrop : text.dropWhile (· != mark) with
  | nil => exact Or.inl rfl
  | cons c rest =>
    have hhead := List.head?_dropWhile_not (· != mark) text
    rw [hdrop] at hhead
    obtain rfl : c = mark := by simpa using hhead
    exact Or.inr ⟨rest, rfl⟩

/-- A piece is its name between blanks, and an initializer if there is one. -/
theorem exists_pieceName_eq (piece : Text) :
    ∃ left right : Text, (∀ c ∈ left, isBlank c = true) ∧ (∀ c ∈ right, isBlank c = true) ∧
      '=' ∉ pieceName piece ∧
      piece = left ++ (pieceName piece ++ (right ++ piece.dropWhile (· != '='))) := by
  obtain ⟨left, right, hleft, hright, htake⟩ :=
    Text.exists_blank_append_trim (piece.takeWhile (· != '='))
  refine ⟨left, right, hleft, hright, fun hmem => ?_, ?_⟩
  · exact not_mem_takeWhile_ne '=' piece (Text.mem_of_mem_trim hmem)
  · conv_lhs => rw [← List.takeWhile_append_dropWhile (p := (· != '=')) (l := piece), htake]
    simp only [pieceName, List.append_assoc]

theorem takeWhile_ne_append {mark : Char} {text : Text} (tail : Text) (htext : mark ∉ text)
    (htail : tail.head?.all (· == mark) = true) :
    (text ++ tail).takeWhile (· != mark) = text ∧ (text ++ tail).dropWhile (· != mark) = tail := by
  have hall : ∀ c ∈ text, (c != mark) = true := by
    intro c hc
    simpa using fun heq : c = mark => htext (heq ▸ hc)
  rw [List.takeWhile_append_of_pos hall, List.dropWhile_append_of_pos hall]
  cases tail with
  | nil => simp
  | cons c tail =>
    obtain rfl : c = mark := by simpa using htail
    simp

/-- The name of a piece is read if it is an identifier and the first equals sign begins no arrow.
-/
theorem declaratorName?_eq_some_iff :
    declaratorName? piece = some name ↔
      isIdentifier name = true ∧ pieceName piece = name ∧
        ∀ rest, piece.dropWhile (· != '=') ≠ '=' :: '>' :: rest := by
  rw [declaratorName?]
  cases hcut : Text.cutFirst? '=' piece with
  | none =>
    have hequals := Text.cutFirst?_eq_none_iff.mp hcut
    obtain ⟨htake, hdrop⟩ := takeWhile_ne_append [] hequals rfl
    rw [List.append_nil] at htake hdrop
    simp only [pieceName, htake, hdrop, ne_eq, reduceCtorEq, not_false_eq_true,
      implies_true, and_true]
    constructor
    · intro h
      split at h
      · next hname =>
        obtain rfl := Option.some.inj h
        exact ⟨hname, rfl⟩
      · simp at h
    · rintro ⟨hname, rfl⟩
      rw [if_pos hname]
  | some parts =>
    obtain ⟨front, initializer⟩ := parts
    obtain ⟨rfl, hequals⟩ := Text.cutFirst?_eq_some_iff.mp hcut
    obtain ⟨htake, hdrop⟩ := takeWhile_ne_append ('=' :: initializer) hequals rfl
    simp only [pieceName, htake, hdrop]
    have harrow : (initializer.head? != some '>') = true ↔
        ∀ rest, '=' :: initializer ≠ '=' :: '>' :: rest := by
      cases initializer <;> simp
    constructor
    · intro h
      split at h
      · next hname =>
        obtain rfl := Option.some.inj h
        rw [Bool.and_eq_true] at hname
        exact ⟨hname.1, rfl, harrow.mp hname.2⟩
      · simp at h
    · rintro ⟨hname, rfl, hrest⟩
      rw [if_pos (by rw [Bool.and_eq_true]; exact ⟨hname, harrow.mpr hrest⟩)]

/-- A piece that is put together from blanks, a name and what may follow has that name. -/
theorem pieceName_of_parts (hleft : ∀ c ∈ left, isBlank c = true)
    (hname : ∀ c ∈ name, isPlain c = true) (hright : ∀ c ∈ right, isBlank c = true)
    (htail : tail.head?.all (· == '=') = true) :
    pieceName (left ++ (name ++ (right ++ tail))) = name ∧
      (left ++ (name ++ (right ++ tail))).dropWhile (· != '=') = tail := by
  have hequals : '=' ∉ left ++ (name ++ right) := by
    refine not_mem_of_blank_or_plain ?_ (by decide)
    simp only [List.forall_mem_append]
    exact ⟨fun c hc => Or.inl (hleft c hc), fun c hc => Or.inr (hname c hc),
      fun c hc => Or.inl (hright c hc)⟩
  obtain ⟨htake, hdrop⟩ := takeWhile_ne_append tail hequals htail
  simp only [List.append_assoc] at htake hdrop
  refine ⟨?_, hdrop⟩
  rw [pieceName, htake, Text.trim_blank_append hleft, Text.trim_append_blank hright]
  exact Text.trim_of_not_blank fun c hc => isBlank_eq_false_of_isPlain (hname c hc)

/-- Blanks in front of a piece change nothing. -/
theorem pieceName_blank_append (hleft : ∀ c ∈ left, isBlank c = true) :
    pieceName (left ++ piece) = pieceName piece ∧ declaratorName? (left ++ piece) =
      declaratorName? piece := by
  have hall : ∀ c ∈ left, (c != '=') = true := by
    intro c hc
    simpa using Text.ne_of_isBlank (hleft c hc) (by decide)
  have hname : pieceName (left ++ piece) = pieceName piece := by
    rw [pieceName, List.takeWhile_append_of_pos hall, Text.trim_blank_append hleft, pieceName]
  refine ⟨hname, Option.ext fun name => ?_⟩
  rw [declaratorName?_eq_some_iff, declaratorName?_eq_some_iff, hname,
    List.dropWhile_append_of_pos hall]

end Names

/-! ## Names that the search passes over -/

section PatternNames

variable {name : Text}

/-- Word characters are plain. -/
theorem isPlain_of_isWord {c : Char} (h : isWord c = true) : isPlain c = true := by
  have hmarks : ∀ mark ∈ marks, isWord mark = false := by decide
  have hblank : isBlank c = false := by
    by_contra hblank
    rw [isWord_eq_false_of_isBlank (by simpa using hblank)] at h
    exact Bool.false_ne_true h
  have hmem : c ∉ marks := by
    intro hmem
    rw [hmarks c hmem] at h
    exact Bool.false_ne_true h
  simp [isPlain, hblank, hmem]

theorem isPlain_of_isAlpha {c : Char} (h : c.isAlpha = true) : isPlain c = true := by
  have hmarks : ∀ mark ∈ marks, mark.isAlpha = false := by decide
  have hmem : c ∉ marks := by
    intro hmem
    rw [hmarks c hmem] at h
    exact Bool.false_ne_true h
  simp [isPlain, isBlank_eq_false_of_isAlpha h, hmem]

/-- The characters of names that the pattern matches are plain. -/
theorem isPlain_of_mem_patternName (h : isPatternName name = true) {c : Char} (hc : c ∈ name) :
    isPlain c = true := by
  cases name with
  | nil => simp at hc
  | cons first others =>
    simp only [isPatternName, Bool.and_eq_true, Bool.or_eq_true, beq_iff_eq, List.all_eq_true] at h
    rcases List.mem_cons.mp hc with rfl | hc
    · rcases h.1 with halpha | rfl
      · exact isPlain_of_isAlpha halpha
      · decide
    · exact isPlain_of_isWord (h.2 c hc)

/-- The pattern for names matches exactly these names. -/
theorem matches_name_iff {before : Option Char} {matched rest : Text} :
    Pattern.name.Matches before matched rest ↔ isPatternName matched = true := by
  rw [Pattern.name, matches_append]
  simp only [matches_many_one]
  constructor
  · rintro ⟨_, others, rfl, ⟨first, rfl, hfirst⟩, hothers⟩
    simp only [List.singleton_append, isPatternName, Bool.and_eq_true, List.all_eq_true]
    exact ⟨hfirst, hothers⟩
  · intro h
    cases matched with
    | nil => simp [isPatternName] at h
    | cons first others =>
      simp only [isPatternName, Bool.and_eq_true, List.all_eq_true] at h
      exact ⟨[first], others, rfl, ⟨first, rfl, h.1⟩, h.2⟩

/-- Between a name and its comma there is nothing, or an equals sign with a value. -/
theorem matches_value_iff {before : Option Char} {value rest : Text} :
    (maybe (char '=' ++ many (one fun c => c != ',' && c != ';'))).Matches before value rest ↔
      value.head?.all (· == '=') = true ∧ ',' ∉ value ∧ ';' ∉ value := by
  simp only [matches_maybe, matches_append, matches_char, matches_many_one,
    Bool.and_eq_true, bne_iff_ne]
  constructor
  · rintro (⟨_, value, rfl, rfl, hvalue⟩ | rfl)
    · have hnot : ∀ mark ∈ [',', ';'], mark ∈ value → False := by
        intro mark hmark hmem
        rcases List.mem_pair.mp hmark with rfl | rfl
        · exact (hvalue _ hmem).1 rfl
        · exact (hvalue _ hmem).2 rfl
      refine ⟨rfl, fun hmem => ?_, fun hmem => ?_⟩
      · exact hnot ',' (by decide) ((List.mem_cons.mp hmem).resolve_left (by decide))
      · exact hnot ';' (by decide) ((List.mem_cons.mp hmem).resolve_left (by decide))
    · exact ⟨rfl, List.not_mem_nil, List.not_mem_nil⟩
  · rintro ⟨hhead, hcomma, hsemicolon⟩
    cases value with
    | nil => exact Or.inr rfl
    | cons c value =>
      obtain rfl : c = '=' := by simpa using hhead
      refine Or.inl ⟨['='], value, rfl, rfl, fun c hc => ⟨?_, ?_⟩⟩
      · exact fun heq => hcomma (heq ▸ List.mem_cons_of_mem _ hc)
      · exact fun heq => hsemicolon (heq ▸ List.mem_cons_of_mem _ hc)

/-- A declarator that is passed over is a piece with a comma and blanks behind it. -/
theorem matches_leadingDeclarator_iff {before : Option Char} {turn rest : Text} :
    FieldPattern.leadingDeclarator.Matches before turn rest ↔
      ∃ piece blanks, turn = piece ++ ',' :: blanks ∧ ',' ∉ piece ∧ ';' ∉ piece ∧
        piece.head?.any isBlank = false ∧ isPatternName (pieceName piece) = true ∧
        ∀ c ∈ blanks, isBlank c = true := by
  simp only [FieldPattern.leadingDeclarator, matches_append, matches_name_iff, matches_value_iff,
    matches_char, Pattern.blanks, matches_many_one]
  constructor
  · rintro ⟨_, blanks, rfl, ⟨_, _, rfl,
      ⟨_, value, rfl, ⟨name, gap, rfl, hname, hgap⟩, hhead, hcomma, hsemicolon⟩, rfl⟩, hblanks⟩
    have hplain : ∀ c ∈ name, isPlain c = true := fun c hc => isPlain_of_mem_patternName hname hc
    have hnot : ∀ mark ∈ marks, mark ∉ value → mark ∉ name ++ (gap ++ value) := by
      intro mark hmark hvalue
      rw [← List.append_assoc, List.mem_append, not_or]
      refine ⟨not_mem_of_blank_or_plain ?_ hmark, hvalue⟩
      simp only [List.forall_mem_append]
      exact ⟨fun c hc => Or.inr (hplain c hc), fun c hc => Or.inl (hgap c hc)⟩
    have hparts : pieceName ([] ++ (name ++ (gap ++ value))) = name ∧ _ :=
      pieceName_of_parts (by simp) hplain hgap hhead
    rw [List.nil_append] at hparts
    refine ⟨name ++ (gap ++ value), blanks, by simp, hnot ',' (by decide) hcomma,
      hnot ';' (by decide) hsemicolon, ?_, hparts.1.symm ▸ hname, hblanks⟩
    cases name with
    | nil => simp [isPatternName] at hname
    | cons first others => exact isBlank_eq_false_of_isPlain (hplain first List.mem_cons_self)
  · rintro ⟨piece, blanks, rfl, hcomma, hsemicolon, hhead, hname, hblanks⟩
    obtain ⟨left, gap, hleft, hgap, -, hpiece⟩ := exists_pieceName_eq piece
    have hnone : left = [] := by
      cases left with
      | nil => rfl
      | cons c left =>
        rw [hpiece] at hhead
        simp [hleft c List.mem_cons_self] at hhead
    rw [hnone, List.nil_append] at hpiece
    have hvalue : (piece.dropWhile (· != '=')).head?.all (· == '=') = true := by
      rcases eq_nil_or_exists_dropWhile_ne '=' piece with
        hdrop | ⟨value, hdrop⟩ <;> rw [hdrop] <;> rfl
    have hsub := List.dropWhile_subset (l := piece) (p := (· != '='))
    exact ⟨piece ++ [','], blanks, by simp, ⟨piece, [','], rfl, ⟨pieceName piece ++ gap,
      piece.dropWhile (· != '='), by rw [List.append_assoc, ← hpiece],
      ⟨_, _, rfl, hname, hgap⟩, hvalue,
      fun hmem => hcomma (hsub hmem), fun hmem => hsemicolon (hsub hmem)⟩, rfl⟩, hblanks⟩

/-- A declarator begins with a character of its name. -/
theorem exists_head_of_leading {before : Option Char} {leading rest : Text}
    (h : (many FieldPattern.leadingDeclarator).Matches before leading rest) (hne : leading ≠ []) :
    ∃ c more, leading = c :: more ∧ isPlain c = true := by
  cases (h : Repeats _ _ leading rest) with
  | nil => exact absurd rfl hne
  | cons _ hturn _ =>
    obtain ⟨_, _, rfl, ⟨_, _, rfl, ⟨_, _, rfl, ⟨name, _, rfl, hname, -⟩, -⟩, -⟩, -⟩ := hturn
    rw [matches_name_iff] at hname
    cases name with
    | nil => simp [isPatternName] at hname
    | cons c name =>
      exact ⟨c, _, rfl, isPlain_of_mem_patternName hname List.mem_cons_self⟩

end PatternNames

/-! ## What is reached -/

/-- What shows behind a name that it is declared: a mark of the list, or an initializer. -/
def EndsName (tail : Text) : Prop :=
  ∃ blanks mark rest, tail = blanks ++ mark :: rest ∧ (∀ c ∈ blanks, isBlank c = true) ∧
    (mark ∈ [';', ','] ∨ mark = '=' ∧ rest.head? ≠ some '>')

/-- Where a name may end, the end of a declarator is found. -/
theorem EndsName.exists_matches {tail : Text} (h : EndsName tail) :
    ∃ last rest, tail = last ++ rest ∧
      ∀ before, FieldPattern.declaratorEnd.Matches before last rest := by
  obtain ⟨gap, mark, rest, rfl, hgap, hmark | ⟨rfl, hvalue⟩⟩ := h
  · exact ⟨gap ++ [mark], rest, by simp, fun _ => ⟨gap, [mark], rfl, matches_many_one.mpr hgap,
      Or.inl ⟨mark, rfl, by simpa using hmark⟩⟩⟩
  · cases rest with
    | nil =>
      exact ⟨gap ++ ['='], [], by simp, fun _ => ⟨gap, ['='], rfl, matches_many_one.mpr hgap,
        Or.inr ⟨['='], [], rfl, matches_char.mpr rfl, Or.inr ⟨rfl, rfl⟩⟩⟩⟩
    | cons c rest =>
      exact ⟨gap ++ ['=', c], rest, by simp,
        fun _ => ⟨gap, ['=', c], rfl, matches_many_one.mpr hgap,
          Or.inr ⟨['='], [c], rfl, matches_char.mpr rfl, Or.inl ⟨c, rfl, by simpa using hvalue⟩⟩⟩⟩

/-- Where the end of a declarator is found, a name may end. -/
theorem endsName_of_matches {before : Option Char} {last rest : Text}
    (h : FieldPattern.declaratorEnd.Matches before last rest) : EndsName (last ++ rest) := by
  obtain ⟨gap, _, rfl, hgap, ⟨mark, rfl, hmark⟩ | ⟨_, value, rfl, hequals, hvalue⟩⟩ := h
  · exact ⟨gap, mark, rest, by simp, matches_many_one.mp hgap, Or.inl (by simpa using hmark)⟩
  · obtain rfl := matches_char.mp hequals
    refine ⟨gap, '=', value ++ rest, by simp, matches_many_one.mp hgap, Or.inr ⟨rfl, ?_⟩⟩
    rcases hvalue with ⟨c, rfl, hc⟩ | ⟨rfl, rfl⟩
    · simpa using hc
    · simp

theorem EndsName.ne_nil {tail : Text} (h : EndsName tail) : tail ≠ [] := by
  obtain ⟨blanks, mark, rest, rfl, -⟩ := h
  simp

/-- Behind a name that ends stands a blank or a mark. -/
theorem EndsName.any_head? {holds : Char → Bool} {tail : Text} (h : EndsName tail)
    (hblank : ∀ c, isBlank c = true → holds c = false)
    (hmarks : ∀ mark ∈ [';', ',', '='], holds mark = false) : tail.head?.any holds = false := by
  obtain ⟨blanks, mark, rest, rfl, hblanks, hmark⟩ := h
  cases blanks with
  | cons c blanks => exact hblank c (hblanks c List.mem_cons_self)
  | nil =>
    refine hmarks mark ?_
    rcases hmark with hmark | ⟨rfl, -⟩
    · exact (by decide : ∀ mark ∈ [';', ','], mark ∈ [';', ',', '=']) mark hmark
    · simp

/-- A piece that declares a name has it at its beginning, and the mark behind the piece ends it if
there is no initializer. -/
theorem exists_of_declaratorName? {piece name rest : Text} {mark : Char}
    (h : declaratorName? piece = some name) (hmark : mark ∈ [';', ',']) :
    ∃ left tail, piece ++ mark :: rest = left ++ (name ++ tail) ∧ (∀ c ∈ left, isBlank c = true) ∧
      EndsName tail := by
  obtain ⟨-, rfl, harrow⟩ := declaratorName?_eq_some_iff.mp h
  obtain ⟨left, gap, hleft, hgap, -, hparts⟩ := exists_pieceName_eq piece
  refine ⟨left, gap ++ (piece.dropWhile (· != '=') ++ mark :: rest), ?_, hleft, gap, ?_⟩
  · conv_lhs => rw [hparts]
    simp only [List.append_assoc]
  · rcases eq_nil_or_exists_dropWhile_ne '=' piece with hdrop | ⟨value, hdrop⟩
    · exact ⟨mark, rest, by rw [hdrop]; rfl, hgap, Or.inl hmark⟩
    · refine ⟨'=', value ++ mark :: rest, by rw [hdrop]; rfl, hgap, Or.inr ⟨rfl, fun hhead => ?_⟩⟩
      cases value with
      | nil =>
        obtain rfl : mark = '>' := by simpa using hhead
        exact absurd hmark (by decide)
      | cons c value =>
        obtain rfl : c = '>' := by simpa using hhead
        exact harrow value hdrop

section Reaches

variable {field : Text}

/-- Blanks in front of a list change nothing about what is reached. -/
theorem reaches_blank_append {blanks list : Text} (hblanks : ∀ c ∈ blanks, isBlank c = true) :
    reaches field (commaPieces (blanks ++ list)) = reaches field (commaPieces list) := by
  rw [commaPieces_append (Text.not_mem_of_blank hblanks (by decide))
    (Text.not_mem_of_blank hblanks (by decide))]
  cases commaPieces list with
  | nil => rfl
  | cons piece others =>
    obtain ⟨hname, hdeclared⟩ :
        pieceName (blanks ++ piece) = pieceName piece ∧ _ := pieceName_blank_append hblanks
    rw [List.modifyHead_cons, reaches, reaches, hname, hdeclared]

omit field in
/-- What belongs to a piece from the mark behind its name on is nothing or an initializer. -/
theorem exists_value_of_mark {mark : Char} {rest : Text}
    (h : mark ∈ [';', ','] ∨ mark = '=' ∧ rest.head? ≠ some '>') :
    ∃ value others, commaPieces (mark :: rest) = value :: others ∧
      value.head?.all (· == '=') = true ∧ ∀ more, value ≠ '=' :: '>' :: more := by
  rcases h with hmark | ⟨rfl, hvalue⟩
  · rcases List.mem_pair.mp hmark with rfl | rfl
    · exact ⟨[], [], commaPieces_semicolon, rfl, by simp⟩
    · exact ⟨[], _, commaPieces_comma, rfl, by simp⟩
  · obtain ⟨value, others, hfirst⟩ := List.exists_cons_of_ne_nil (commaPieces_ne_nil rest)
    obtain ⟨behind, rfl⟩ := exists_append_of_commaPieces hfirst
    refine ⟨'=' :: value, others, ?_, rfl, ?_⟩
    · rw [commaPieces_cons (by decide) (by decide), hfirst, List.modifyHead_cons]
    · rintro more heq
      obtain ⟨-, rfl⟩ := List.cons.inj heq
      exact hvalue rfl

/-- A name at the beginning of a list that may end there is reached. -/
theorem reaches_of_endsName {left tail : Text} (hleft : ∀ c ∈ left, isBlank c = true)
    (hfield : isIdentifier field = true) (htail : EndsName tail) :
    reaches field (commaPieces (left ++ (field ++ tail))) = true := by
  have hplain : ∀ c ∈ field, isPlain c = true := fun c hc => isPlain_of_mem_identifier hfield hc
  obtain ⟨gap, mark, rest, rfl, hgap, hmark⟩ := htail
  have hchars : ∀ c ∈ left ++ (field ++ gap), isBlank c = true ∨ isPlain c = true := by
    simp only [List.forall_mem_append]
    exact ⟨fun c hc => Or.inl (hleft c hc), fun c hc => Or.inr (hplain c hc),
      fun c hc => Or.inl (hgap c hc)⟩
  obtain ⟨value, others, hpieces, hequals, harrow⟩ := exists_value_of_mark hmark
  obtain ⟨hname, hdrop⟩ := pieceName_of_parts hleft hplain hgap hequals
  have hdeclared : declaratorName? (left ++ (field ++ (gap ++ value))) = some field :=
    declaratorName?_eq_some_iff.mpr ⟨hfield, hname, by rw [hdrop]; exact harrow⟩
  have hsplit : left ++ (field ++ (gap ++ mark :: rest)) =
      (left ++ (field ++ gap)) ++ mark :: rest := by
    simp only [List.append_assoc]
  rw [hsplit, commaPieces_append (not_mem_of_blank_or_plain hchars (by decide))
    (not_mem_of_blank_or_plain hchars (by decide)), hpieces, List.modifyHead_cons, reaches]
  simp only [List.append_assoc, hdeclared, beq_self_eq_true, Bool.true_or]

/-- What the search can find in a list is reached. -/
theorem reaches_of_leading {before : Option Char} {leading rest tail : Text}
    (hleading : (many FieldPattern.leadingDeclarator).Matches before leading rest)
    (hfield : isIdentifier field = true) (htail : EndsName tail) :
    reaches field (commaPieces (leading ++ (field ++ tail))) = true := by
  have hrepeats : Repeats FieldPattern.leadingDeclarator.Matches before leading rest := hleading
  clear hleading
  induction hrepeats with
  | nil => exact reaches_of_endsName (List.forall_mem_nil _) hfield htail
  | cons _ hturn _ ih =>
    obtain ⟨piece, blanks, rfl, hcomma, hsemicolon, -, hname, hblanks⟩ :=
      matches_leadingDeclarator_iff.mp hturn
    rw [List.append_assoc, List.append_assoc, List.cons_append,
      commaPieces_append_comma hcomma hsemicolon, reaches, hname, reaches_blank_append hblanks, ih,
      Bool.and_true, Bool.or_true]

omit field in
/-- A piece that the search passes over is a declarator behind blanks. -/
theorem exists_leadingDeclarator {piece : Text} (hcomma : ',' ∉ piece) (hsemicolon : ';' ∉ piece)
    (hname : isPatternName (pieceName piece) = true) :
    ∃ left core, piece = left ++ core ∧ (∀ c ∈ left, isBlank c = true) ∧
      ∀ blanks, (∀ c ∈ blanks, isBlank c = true) → ∀ before rest,
        FieldPattern.leadingDeclarator.Matches before (core ++ ',' :: blanks) rest := by
  obtain ⟨left, gap, hleft, -, -, hparts⟩ := exists_pieceName_eq piece
  have hhead : (pieceName piece ++ (gap ++ piece.dropWhile (· != '='))).head?.any isBlank =
      false := by
    cases hfirst : pieceName piece with
    | nil => simp [hfirst, isPatternName] at hname
    | cons c others =>
      exact isBlank_eq_false_of_isPlain (isPlain_of_mem_patternName hname (by simp [hfirst]))
  generalize pieceName piece ++ (gap ++ piece.dropWhile (· != '=')) = core at hparts hhead
  subst hparts
  rw [(pieceName_blank_append hleft).1] at hname
  exact ⟨left, core, rfl, hleft, fun blanks hblanks before rest => matches_leadingDeclarator_iff.mpr
    ⟨core, blanks, rfl, fun hmem => hcomma (List.mem_append_right _ hmem),
      fun hmem => hsemicolon (List.mem_append_right _ hmem), hhead, hname, hblanks⟩⟩

/-- What is reached can be found by the search. -/
theorem exists_leading_of_reaches {list : Text} (h : reaches field (commaPieces list) = true)
    (hsemicolon : ';' ∈ list) :
    ∃ blanks leading tail, list = blanks ++ (leading ++ (field ++ tail)) ∧
      (∀ c ∈ blanks, isBlank c = true) ∧
      (∀ before, (many FieldPattern.leadingDeclarator).Matches before leading (field ++ tail)) ∧
      EndsName tail := by
  generalize hpieces : commaPieces list = pieces at h
  induction pieces generalizing list with
  | nil => simp [reaches] at h
  | cons first others ih =>
    obtain ⟨piece, mark, rest, rfl, hcomma, hsemi, hcases⟩ := exists_first_piece hsemicolon
    obtain rfl : piece = first := by
      rcases hcases with ⟨-, heq⟩ | ⟨-, -, heq⟩ <;>
        exact (List.cons.inj (heq.symm.trans hpieces)).1
    rw [reaches, Bool.or_eq_true, Bool.and_eq_true, beq_iff_eq] at h
    rcases h with hdeclared | ⟨hname, hlater⟩
    · have hmark : mark ∈ [';', ','] := by
        rcases hcases with ⟨rfl, -⟩ | ⟨rfl, -, -⟩ <;> simp
      obtain ⟨left, tail, hparts, hleft, htail⟩ := exists_of_declaratorName? hdeclared hmark
      exact ⟨left, [], tail, hparts, hleft, fun _ => Repeats.nil _ _, htail⟩
    · -- the piece is passed over together with the comma behind it
      rcases hcases with ⟨-, heq⟩ | ⟨rfl, hrest, heq⟩
      · obtain ⟨-, rfl⟩ := List.cons.inj (heq.symm.trans hpieces)
        simp [reaches] at hlater
      · obtain ⟨-, hothers⟩ := List.cons.inj (heq.symm.trans hpieces)
        obtain ⟨blanks, leading, tail, rfl, hblanks, hleading, htail⟩ := ih hrest hothers hlater
        obtain ⟨left, core, rfl, hleft, hturn⟩ := exists_leadingDeclarator hcomma hsemi hname
        exact ⟨left, core ++ ',' :: blanks ++ leading, tail,
          by simp only [List.append_assoc, List.cons_append], hleft,
          fun before => Repeats.cons (by simp) (hturn blanks hblanks _ _) (hleading _), htail⟩

/-- Behind a type and blanks, the search comes to what is reached in the list. -/
theorem exists_declarators_of_reaches {gap list : Text} (hne : gap ≠ [])
    (hgap : ∀ c ∈ gap, isBlank c = true) (h : reaches field (commaPieces list) = true)
    (hsemicolon : ';' ∈ list) :
    ∃ leading last rest, gap ++ list = leading ++ (field ++ (last ++ rest)) ∧
      EndsName (last ++ rest) ∧
      ∀ before, (someBlanks ++ many FieldPattern.leadingDeclarator).Matches before leading
          (field ++ (last ++ rest)) ∧
        (FieldPattern.declaratorsUpTo field).Matches before (leading ++ field ++ last) rest := by
  obtain ⟨blanks, leading, _, rfl, hblanks, hleading, htail⟩ :=
    exists_leading_of_reaches h hsemicolon
  obtain ⟨last, rest, rfl, hend⟩ := htail.exists_matches
  have hmany : ∀ before, (someBlanks ++ many FieldPattern.leadingDeclarator).Matches before
      (gap ++ blanks ++ leading) (field ++ (last ++ rest)) := by
    intro before
    refine ⟨gap ++ blanks, leading, rfl, matches_someBlanks.mpr ⟨by simp [hne], fun c hc => ?_⟩,
      hleading _⟩
    exact (List.mem_append.mp hc).elim (hgap c) (hblanks c)
  exact ⟨gap ++ blanks ++ leading, last, rest, by simp only [List.append_assoc],
    htail, fun before =>
    ⟨hmany before, _, last, rfl, ⟨_, field, rfl, hmany before, matches_literal.mpr rfl⟩, hend _⟩⟩

end Reaches

end FieldInjection
