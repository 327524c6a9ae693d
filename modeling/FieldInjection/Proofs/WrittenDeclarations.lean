import FieldInjection.Proofs.DeclaredNames
import FieldInjection.Proofs.WrittenTypes

/-!
# Reading a declaration back

A private declaration is written with modifiers, any type, any number of names with initializers,
and any blanks between them.  Both readings of the line give back what was written: the names in
their order, and for each of the names the type as it was written.

The pattern of a declaration matches its line in the preferred way up to the first name.  Modifiers
are taken as modifiers because the type is none of them, and the type is taken as a whole because no
closing bracket follows it before the first initializer or the end of the list.  From there on the
entries of the list are what both readings agree on.

## Main Definitions

* `WrittenModifier`, `WrittenDeclarator`, `WrittenDeclaration`: a declaration in its parts.
* `WrittenDeclaration.text`, `WrittenDeclaration.names`: the declaration as a text, and its names.
* `IsEntry`: entries that both readings get over.
* `WrittenDeclaration.IsCut`: what stands behind the type, as blanks and entries.

## Main Statements

* `prefers_start`: the pattern takes the beginning of a declaration up to its type.
* `WrittenDeclaration.declaredFieldNames_text`: the names on the line.
* `WrittenDeclaration.declaredTypeOn?_text`: the type that is read off the line for each name.
* `WrittenDeclaration.read_back`: both readings, in any document.
-/

namespace FieldInjection

open Pattern

/-- A modifier with the blanks behind it. -/
structure WrittenModifier where
  /-- The modifier. -/
  word : Text
  /-- The blanks behind it. -/
  gap : Text
  /-- The word is a modifier. -/
  mem_modifierWords : word ∈ modifierWords
  /-- There is a blank behind the word. -/
  gap_ne_nil : gap ≠ []
  /-- Behind the word are only blanks. -/
  isBlank_gap : ∀ c ∈ gap, isBlank c = true

/-- A name between blanks, with an initializer or without. -/
structure WrittenDeclarator where
  /-- The name and the blanks around it. -/
  name : Padded
  /-- What stands behind the equals sign, if there is one. -/
  initializer : Option Text
  /-- The name is an ASCII identifier. -/
  isAsciiName_name : isAsciiName name.core = true
  /-- The initializer has no commas. -/
  comma_not_mem : ∀ value ∈ initializer, ',' ∉ value
  /-- The initializer has no semicolons. -/
  semicolon_not_mem : ∀ value ∈ initializer, ';' ∉ value
  /-- The equals sign is not the one of an arrow. -/
  head?_ne : ∀ value ∈ initializer, value.head? ≠ some '>'
  /-- The brackets of the initializer balance. -/
  nesting_eq_zero : ∀ value ∈ initializer, nesting value = 0

/-- A private declaration of fields. -/
structure WrittenDeclaration where
  /-- The blanks behind the keyword. -/
  gap : Text
  /-- The modifiers in front of the type. -/
  modifiers : List WrittenModifier
  /-- The type. -/
  type : Text
  /-- The blanks behind the type. -/
  typeGap : Text
  /-- The fields. -/
  declarators : List WrittenDeclarator
  /-- There is a blank behind the keyword. -/
  gap_ne_nil : gap ≠ []
  /-- Behind the keyword are only blanks. -/
  isBlank_gap : ∀ c ∈ gap, isBlank c = true
  /-- The type is one. -/
  isWrittenType : IsWrittenType type
  /-- There is a blank behind the type. -/
  typeGap_ne_nil : typeGap ≠ []
  /-- Behind the type are only blanks. -/
  isBlank_typeGap : ∀ c ∈ typeGap, isBlank c = true
  /-- There is at least one field. -/
  declarators_ne_nil : declarators ≠ []

/-- Modifiers one after another. -/
def modifiersText (modifiers : List WrittenModifier) : Text :=
  modifiers.flatMap fun modifier => modifier.word ++ modifier.gap

/-- An initializer with its equals sign. -/
def initializerText : Option Text → Text
  | none => []
  | some value => '=' :: value

namespace WrittenDeclarator

/-- A declarator without the blanks in front of it. -/
def core (declarator : WrittenDeclarator) : Text :=
  declarator.name.core ++ (declarator.name.after ++ initializerText declarator.initializer)

/-- A declarator as a text. -/
def text (declarator : WrittenDeclarator) : Text :=
  declarator.name.before ++ declarator.core

end WrittenDeclarator

namespace WrittenDeclaration

/-- The names of the fields. -/
def names (declaration : WrittenDeclaration) : List Text :=
  declaration.declarators.map (·.name.core)

/-- The declaration up to its type. -/
def start (declaration : WrittenDeclaration) : Text :=
  "private".toList ++ declaration.gap ++ modifiersText declaration.modifiers

theorem start_eq (declaration : WrittenDeclaration) : declaration.start =
    "private".toList ++ declaration.gap ++ modifiersText declaration.modifiers := rfl

/-- The declaration as a text, up to its semicolon. -/
def text (declaration : WrittenDeclaration) : Text :=
  declaration.start ++ (declaration.type ++ (declaration.typeGap ++
    ([','].intercalate (declaration.declarators.map (·.text)) ++ [';'])))

end WrittenDeclaration

/-! ## The beginning of a declaration -/

section Start

variable {before : Option Char} {word gap type rest : Text} {modifiers : List WrittenModifier}

/-- No modifier is the beginning of another, so the pattern prefers the one that is written. -/
theorem prefers_modifierWord (h : word ∈ modifierWords) :
    (either (literal "readonly".toList) (either (literal "static".toList)
      (either (literal "volatile".toList) (literal "new".toList)))).Prefers before word rest := by
  simp only [modifierWords, List.mem_cons, List.not_mem_nil, or_false] at h
  rcases h with rfl | rfl | rfl | rfl
  · exact .either_left (prefers_literal _)
  · exact .either_literal (by decide) (by decide) (by decide) (.either_left (prefers_literal _))
  · exact .either_literal (by decide) (by decide) (by decide)
      (.either_literal (by decide) (by decide) (by decide) (.either_left (prefers_literal _)))
  · exact .either_literal (by decide) (by decide) (by decide)
      (.either_literal (by decide) (by decide) (by decide)
        (.either_literal (by decide) (by decide) (by decide) (prefers_literal _)))

/-- The pattern matches nothing but modifiers. -/
theorem mem_modifierWords_of_matches (h : (either (literal "readonly".toList)
      (either (literal "static".toList) (either (literal "volatile".toList)
        (literal "new".toList)))).Matches before word rest) : word ∈ modifierWords := by
  simp only [Matches, matches_literal] at h
  simpa [modifierWords] using h

/-- What begins with a type does not begin with a modifier and a blank. -/
theorem IsWrittenType.ne_modifier {behind : Text} {blank : Char} (h : IsWrittenType type)
    (hstop : StopsAt [] rest) (hword : word ∈ modifierWords) (hblank : isBlank blank = true) :
    type ++ rest ≠ word ++ blank :: behind := by
  obtain ⟨first, others, tail, rfl, -, hname, hmodifier, htail⟩ := h.exists_name
  have hwords : ∀ word ∈ modifierWords, ∀ c ∈ word, isTypeNameChar c = true := by decide
  have hstopWord : StopsAt [] (blank :: behind) := ⟨blank, behind, rfl, Or.inr hblank⟩
  intro heq
  -- both the name and the word are what is taken up to the first other character
  have htake := congrArg (List.takeWhile isTypeNameChar) heq
  rw [List.append_assoc, (htail rest hstop).takeWhile_append hname (by decide)
      fun c => isTypeNameChar_eq_false_of_isBlank,
      hstopWord.takeWhile_append (hwords word hword) (by decide)
      fun c => isTypeNameChar_eq_false_of_isBlank] at htake
  exact hmodifier (htake ▸ hword)

/-- Neither modifiers nor a type begin with a blank. -/
theorem head?_modifiersText_append (htype : IsWrittenType type) :
    (modifiersText modifiers ++ (type ++ rest)).head?.any isBlank = false := by
  cases modifiers with
  | nil =>
    obtain ⟨first, others, tail, rfl, hfirst, -⟩ := htype.exists_name
    exact isBlank_eq_false_of_isNameStart hfirst
  | cons modifier modifiers =>
    have hwords : ∀ word ∈ modifierWords, word ≠ [] ∧ word.head?.any isBlank = false := by decide
    obtain ⟨hne, hhead⟩ := hwords _ modifier.mem_modifierWords
    obtain ⟨c, word, hword⟩ := List.exists_cons_of_ne_nil hne
    rw [hword] at hhead
    rw [modifiersText, List.flatMap_cons, hword]
    exact hhead

/-- Modifiers in front of a type are all taken, and nothing of the type. -/
theorem prefers_modifiers (htype : IsWrittenType type) (hstop : StopsAt [] rest) :
    FieldPattern.modifiers.Prefers before (modifiersText modifiers) (type ++ rest) := by
  refine .many ?_ ?_
  · induction modifiers generalizing before with
    | nil => exact .nil before _
    | cons modifier modifiers ih =>
      exact Repeats.cons (by simp [modifier.gap_ne_nil])
        ((prefers_modifierWord modifier.mem_modifierWords).append
          (prefers_someBlanks modifier.gap_ne_nil modifier.isBlank_gap
            (head?_modifiersText_append htype))) ih
  · rintro _ rest' heq - ⟨word, gap, rfl, hword, hgap⟩
    obtain ⟨hne, hblank⟩ := matches_someBlanks.mp hgap
    obtain ⟨blank, gap, rfl⟩ := List.exists_cons_of_ne_nil hne
    rw [List.append_assoc, List.cons_append] at heq
    exact htype.ne_modifier hstop (mem_modifierWords_of_matches hword) (hblank blank (by simp)) heq

/-- The beginning of a declaration is taken up to its type. -/
theorem prefers_start (hgap : gap ≠ []) (hblank : ∀ c ∈ gap, isBlank c = true)
    (htype : IsWrittenType type) (hstop : StopsAt [] rest) :
    FieldPattern.start.Prefers none
      ("private".toList ++ gap ++ modifiersText modifiers) (type ++ rest) := by
  refine .append (.append (.append (prefers_boundary ?_) (prefers_literal _))
    (prefers_someBlanks hgap hblank ?_)) (prefers_modifiers htype hstop)
  · exact (by decide : (false != isWord 'p') = true)
  · exact head?_modifiersText_append htype

end Start

/-! ## The entries of the list -/

/-- An entry of a list of declarators that both readings take for one. -/
structure IsEntry (entry : Text) : Prop where
  /-- The search passes over the entry. -/
  isPatternName : isPatternName (pieceName entry) = true
  /-- The entry has no commas. -/
  comma_not_mem : ',' ∉ entry
  /-- The entry has no semicolons. -/
  semicolon_not_mem : ';' ∉ entry
  /-- The list is not split inside the entry. -/
  unsplit : Unsplit 0 0 entry
  /-- There is no closing angle bracket before the first character that cannot stand in type
  arguments. -/
  angle_not_mem : ∀ tail, '>' ∉ tail.takeWhile isArgumentChar →
    '>' ∉ (entry ++ tail).takeWhile isArgumentChar

/-- Blanks in front of an entry belong to it. -/
theorem IsEntry.blank_append {entry blanks : Text} (h : IsEntry entry)
    (hblanks : ∀ c ∈ blanks, isBlank c = true) : IsEntry (blanks ++ entry) where
  isPatternName := by
    rw [(pieceName_blank_append hblanks).1]
    exact h.isPatternName
  comma_not_mem := by
    rw [List.mem_append, not_or]
    exact ⟨Text.not_mem_of_blank hblanks (by decide), h.comma_not_mem⟩
  semicolon_not_mem := by
    rw [List.mem_append, not_or]
    exact ⟨Text.not_mem_of_blank hblanks (by decide), h.semicolon_not_mem⟩
  unsplit :=
    (Unsplit.of_listPlain fun c hc => isListPlain_of_blank_or_plain (Or.inl (hblanks c hc))).append
      h.unsplit (Text.not_mem_of_blank hblanks (by decide))
  angle_not_mem tail htail := by
    rw [List.append_assoc]
    exact angle_not_mem_append (fun c hc => ⟨isArgumentChar_of_isBlank (hblanks c hc),
      Text.ne_of_isBlank (hblanks c hc) (by decide)⟩) (h.angle_not_mem tail htail)

/-- Behind an equals sign the depth is that of the value alone, unless an arrow begins there. -/
theorem nestingFrom_behind_equals {value : Text} (h : value.head? ≠ some '>') :
    nestingFrom 0 (some '=') value = nesting value := by
  cases value with
  | nil => rfl
  | cons c value =>
    have hc : c ≠ '>' := by simpa using h
    simp [nesting, nestingFrom, nestingStep, hc]

namespace WrittenDeclarator

variable (declarator : WrittenDeclarator)

theorem isPlain_of_mem_name {c : Char} (hc : c ∈ declarator.name.core) : isPlain c = true :=
  isPlain_of_mem_identifier (isIdentifier_of_isAsciiName declarator.isAsciiName_name) hc

/-- In front of the initializer are plain characters and blanks. -/
theorem blank_or_plain {c : Char} (hc : c ∈ declarator.name.core ++ declarator.name.after) :
    isBlank c = true ∨ isPlain c = true := by
  rcases List.mem_append.mp hc with hc | hc
  · exact Or.inr (declarator.isPlain_of_mem_name hc)
  · exact Or.inl (declarator.name.isBlank_after c hc)

/-- A mark stands in a declarator only if it stands in the initializer. -/
theorem not_mem_core {mark : Char} (hmark : mark ∈ marks) (hequals : mark ≠ '=')
    (h : ∀ value ∈ declarator.initializer, mark ∉ value) : mark ∉ declarator.core := by
  rw [core, ← List.append_assoc, List.mem_append, not_or]
  refine ⟨not_mem_of_blank_or_plain (fun c => declarator.blank_or_plain) hmark, ?_⟩
  cases hinitializer : declarator.initializer with
  | none => simp [initializerText]
  | some value =>
    rw [initializerText, List.mem_cons, not_or]
    exact ⟨hequals, h value hinitializer⟩

/-- A declarator is one entry of the list. -/
theorem unsplit_core : Unsplit 0 0 declarator.core := by
  have hcomma : ',' ∉ declarator.core :=
    declarator.not_mem_core (by decide) (by decide) declarator.comma_not_mem
  have hfront : Unsplit 0 0 (declarator.name.core ++ declarator.name.after) :=
    Unsplit.of_listPlain fun c hc => isListPlain_of_blank_or_plain (declarator.blank_or_plain hc)
  intro previous hprevious
  refine ⟨splitTopLevelFrom_eq_singleton hcomma, ?_⟩
  rw [core, ← List.append_assoc, nestingFrom_append, (hfront previous hprevious).2]
  cases hinitializer : declarator.initializer with
  | none => rfl
  | some value =>
    rw [initializerText, nestingFrom, nestingStep]
    exact (nestingFrom_behind_equals (declarator.head?_ne value hinitializer)).trans
      (declarator.nesting_eq_zero value hinitializer)

/-- The name of a declarator is read in front of its initializer. -/
theorem declaratorName?_core : declaratorName? declarator.core = some declarator.name.core := by
  have htail : (initializerText declarator.initializer).head?.all (· == '=') = true := by
    cases declarator.initializer <;> rfl
  obtain ⟨hname, hdrop⟩ := pieceName_of_parts (List.forall_mem_nil _)
    (fun c => declarator.isPlain_of_mem_name) declarator.name.isBlank_after htail
  refine declaratorName?_eq_some_iff.mpr
    ⟨isIdentifier_of_isAsciiName declarator.isAsciiName_name, hname, fun rest heq => ?_⟩
  have hvalue := hdrop.symm.trans heq
  cases hinitializer : declarator.initializer with
  | none => simp [hinitializer, initializerText] at hvalue
  | some value =>
    rw [hinitializer, initializerText, List.cons.injEq] at hvalue
    exact declarator.head?_ne value hinitializer (by rw [hvalue.2]; rfl)

/-- A declarator is an entry that both readings understand. -/
theorem isEntry_core : IsEntry declarator.core where
  isPatternName := by
    rw [(declaratorName?_eq_some_iff.mp declarator.declaratorName?_core).2.1]
    exact isPatternName_of_isAsciiName declarator.isAsciiName_name
  comma_not_mem := declarator.not_mem_core (by decide) (by decide) declarator.comma_not_mem
  semicolon_not_mem := declarator.not_mem_core (by decide) (by decide) declarator.semicolon_not_mem
  unsplit := declarator.unsplit_core
  angle_not_mem tail htail := by
    have hfront : ∀ c ∈ declarator.name.core ++ declarator.name.after, isArgumentChar c =
        true ∧ c ≠ '>' := by
      intro c hc
      refine ⟨?_, ?_⟩
      · rcases List.mem_append.mp hc with hc | hc
        · exact isArgumentChar_of_mem_asciiName declarator.isAsciiName_name hc
        · exact isArgumentChar_of_isBlank (declarator.name.isBlank_after c hc)
      · rintro rfl
        exact not_mem_of_blank_or_plain (fun c => declarator.blank_or_plain) (by decide) hc
    rw [core, ← List.append_assoc, List.append_assoc]
    refine angle_not_mem_append hfront ?_
    cases declarator.initializer with
    | none => exact htail
    | some value =>
      rw [initializerText, List.cons_append, List.takeWhile_cons_of_neg (by decide)]
      simp

/-- It stays one with the blanks around it. -/
theorem isEntry_text : IsEntry declarator.text :=
  declarator.isEntry_core.blank_append declarator.name.isBlank_before

theorem declaratorName?_text : declaratorName? declarator.text = some declarator.name.core :=
  (pieceName_blank_append declarator.name.isBlank_before).2.trans declarator.declaratorName?_core

end WrittenDeclarator

/-- Pieces that are all passed over lead to each that declares something. -/
theorem reaches_of_mem {field piece : Text} {pieces : List Text}
    (hpieces : ∀ piece ∈ pieces, isPatternName (pieceName piece) = true) (hmem : piece ∈ pieces)
    (hfield : declaratorName? piece = some field) : reaches field pieces = true := by
  induction pieces with
  | nil => simp at hmem
  | cons first others ih =>
    rw [reaches, Bool.or_eq_true, Bool.and_eq_true, beq_iff_eq]
    rcases List.mem_cons.mp hmem with rfl | hmem
    · exact Or.inl hfield
    · exact Or.inr ⟨hpieces first (by simp),
        ih (fun other hother => hpieces other (by simp [hother])) hmem⟩

/-- Entries with commas between them, up to a semicolon, are the pieces of the list. -/
theorem commaPieces_intercalate {first rest : Text} {others : List Text}
    (h : ∀ entry ∈ first :: others, ',' ∉ entry ∧ ';' ∉ entry) :
    commaPieces ([','].intercalate (first :: others) ++ ';' :: rest) = first :: others := by
  induction others generalizing first with
  | nil =>
    obtain ⟨hcomma, hsemicolon⟩ := h first (by simp)
    rw [List.intercalate_singleton, commaPieces_append_semicolon hcomma hsemicolon]
  | cons second others ih =>
    obtain ⟨hcomma, hsemicolon⟩ := h first (by simp)
    rw [List.intercalate_cons_cons, List.append_assoc, List.append_assoc, List.singleton_append,
      commaPieces_append_comma hcomma hsemicolon,
      ih fun entry hentry => h entry (List.mem_cons_of_mem _ hentry)]

/-- No closing angle is within reach behind the type, since a name and a mark come before it. -/
theorem angle_not_mem_intercalate {first rest : Text} {others : List Text}
    (h : ∀ entry ∈ first :: others, IsEntry entry) :
    '>' ∉ ([','].intercalate (first :: others) ++ ';' :: rest).takeWhile isArgumentChar := by
  have hend : '>' ∉ (';' :: rest).takeWhile isArgumentChar := by
    rw [List.takeWhile_cons_of_neg (by decide)]
    simp
  induction others generalizing first with
  | nil =>
    rw [List.intercalate_singleton]
    exact (h first (by simp)).angle_not_mem _ hend
  | cons second others ih =>
    rw [List.intercalate_cons_cons, List.append_assoc, List.append_assoc, List.singleton_append]
    refine (h first (by simp)).angle_not_mem _ ?_
    rw [List.takeWhile_cons_of_pos (by decide), List.mem_cons, not_or]
    exact ⟨by decide, ih fun entry hentry => h entry (List.mem_cons_of_mem _ hentry)⟩

/-! ## Both readings of a declaration -/

/-- What stands behind the type of a declaration: blanks and the entries of a list.  The blanks in
front of the first name count as blanks behind the type. -/
structure WrittenDeclaration.IsCut (declaration : WrittenDeclaration) (gap first : Text)
    (others : List Text) : Prop where
  /-- Blanks and entries make up what is behind the type. -/
  eq : declaration.typeGap ++ [','].intercalate (declaration.declarators.map (·.text)) =
    gap ++ [','].intercalate (first :: others)
  /-- There is a blank behind the type. -/
  gap_ne_nil : gap ≠ []
  /-- In front of the first entry are only blanks. -/
  isBlank_gap : ∀ c ∈ gap, isBlank c = true
  /-- The list begins with no blank. -/
  exists_cons : ∃ c rest, [','].intercalate (first :: others) = c :: rest ∧ isBlank c = false
  /-- The entries are taken for entries. -/
  isEntry : ∀ entry ∈ first :: others, IsEntry entry
  /-- The entries declare the names. -/
  names_eq : (first :: others).map declaratorName? = declaration.names.map some

namespace WrittenDeclaration

variable (declaration : WrittenDeclaration)

/-- The list of declarators is cut off behind the type and the blanks. -/
theorem exists_isCut : ∃ gap first others, declaration.IsCut gap first others := by
  obtain ⟨declarator, others, hdeclarators⟩ :=
    List.exists_cons_of_ne_nil declaration.declarators_ne_nil
  refine ⟨declaration.typeGap ++ declarator.name.before, declarator.core,
    others.map (·.text), ?_, ?_, ?_, ?_, ?_, ?_⟩
  · rw [hdeclarators, List.map_cons, WrittenDeclarator.text, intercalate_append_cons,
      List.append_assoc]
  · simp [declaration.typeGap_ne_nil]
  · simp only [List.forall_mem_append]
    exact ⟨declaration.isBlank_typeGap, declarator.name.isBlank_before⟩
  · obtain ⟨c, rest, hname, hstart, -⟩ := isAsciiName_cons declarator.isAsciiName_name
    rw [WrittenDeclarator.core, hname, List.cons_append]
    exact ⟨c, _, intercalate_append_cons _ [c] _ _, isBlank_eq_false_of_isNameStart hstart⟩
  · simp only [List.forall_mem_cons, List.forall_mem_map]
    exact ⟨declarator.isEntry_core, fun other _ => other.isEntry_text⟩
  · rw [names, hdeclarators, List.map_cons, List.map_cons, List.map_cons,
      declarator.declaratorName?_core, List.map_map, List.map_map]
    exact congrArg _ (List.map_congr_left fun other _ => other.declaratorName?_text)

namespace IsCut

variable {declaration} {gap first name : Text} {others : List Text}
    (h : declaration.IsCut gap first others)
  (behind : Text)

include h

/-- The text of a declaration, with its parts told apart. -/
theorem text_append : declaration.text ++ behind = declaration.start ++ (declaration.type ++
    (gap ++ ([','].intercalate (first :: others) ++ ';' :: behind))) := by
  have heq : declaration.typeGap ++
      ([','].intercalate (declaration.declarators.map (·.text)) ++ ';' :: behind) =
      gap ++ ([','].intercalate (first :: others) ++ ';' :: behind) := by
    rw [← List.append_assoc, h.eq, List.append_assoc]
  simp only [text, List.append_assoc, List.singleton_append, heq]

theorem stopsAt (rest : Text) : StopsAt [] (gap ++ rest) := by
  obtain ⟨c, more, hgap⟩ := List.exists_cons_of_ne_nil h.gap_ne_nil
  exact ⟨c, more ++ rest, by rw [hgap]; rfl, Or.inr (h.isBlank_gap c (by simp [hgap]))⟩

/-- The pattern prefers the type as it is written. -/
theorem prefers_type {before : Option Char} :
    FieldPattern.declaredType.Prefers before declaration.type
    (gap ++ ([','].intercalate (first :: others) ++ ';' :: behind)) := by
  refine declaration.isWrittenType.prefers (h.stopsAt _) (angle_not_mem_append (fun c hc => ?_)
    (angle_not_mem_intercalate h.isEntry))
  exact ⟨isArgumentChar_of_isBlank (h.isBlank_gap c hc),
    Text.ne_of_isBlank (h.isBlank_gap c hc) (by decide)⟩

theorem prefers_start : FieldPattern.start.Prefers none declaration.start
    (declaration.type ++ (gap ++ ([','].intercalate (first :: others) ++ ';' :: behind))) :=
  FieldInjection.prefers_start declaration.gap_ne_nil declaration.isBlank_gap
    declaration.isWrittenType (h.stopsAt _)

/-- Behind the type of a declaration comes its list. -/
theorem declaratorList?_text : declaratorList? (declaration.text ++ behind) =
    some ([','].intercalate (first :: others) ++ ';' :: behind) := by
  obtain ⟨c, rest, hlist, hc⟩ := h.exists_cons
  have hprefers := (((h.prefers_start behind).append (h.prefers_type behind)).append
    (prefers_someBlanks h.gap_ne_nil h.isBlank_gap (by rw [hlist]; exact hc)))
  rw [h.text_append, ← List.append_assoc, ← List.append_assoc]
  exact search_of_prefers hprefers rfl

/-- The first semicolon is the one behind the list. -/
theorem semicolon_not_mem : ';' ∉ [','].intercalate (first :: others) := by
  intro hmem
  rcases of_mem_intercalate hmem with hmem | ⟨entry, hentry, hmem⟩
  · exact absurd hmem (by decide)
  · exact (h.isEntry entry hentry).semicolon_not_mem hmem

/-- Each name is reached in the list. -/
theorem reaches_name (hname : name ∈ declaration.names) :
    reaches name (commaPieces ([','].intercalate (first :: others) ++ ';' :: behind)) = true := by
  have hmem : some name ∈ (first :: others).map declaratorName? := by
    rw [h.names_eq]
    exact List.mem_map_of_mem hname
  obtain ⟨entry, hentry, hdeclared⟩ := List.mem_map.mp hmem
  rw [commaPieces_intercalate fun entry hentry =>
    ⟨(h.isEntry entry hentry).comma_not_mem, (h.isEntry entry hentry).semicolon_not_mem⟩]
  exact reaches_of_mem (fun entry hentry => (h.isEntry entry hentry).isPatternName) hentry hdeclared

end IsCut

theorem isAsciiName_of_mem_names {name : Text} (hname : name ∈ declaration.names) :
    isAsciiName name = true := by
  obtain ⟨declarator, -, rfl⟩ := List.mem_map.mp hname
  exact declarator.isAsciiName_name

/-- A declaration begins with the keyword and ends with a semicolon. -/
theorem exists_text_eq : ∃ inside, declaration.text = 'p' :: (inside ++ [';']) := by
  obtain ⟨keyword, hkeyword⟩ : ∃ keyword, "private".toList = 'p' :: keyword :=
    ⟨"rivate".toList, by decide⟩
  refine ⟨keyword ++ (declaration.gap ++
    (modifiersText declaration.modifiers ++
      (declaration.type ++ (declaration.typeGap ++
        [','].intercalate (declaration.declarators.map (·.text)))))), ?_⟩
  simp only [text, start_eq, hkeyword, List.append_assoc, List.cons_append]

/-- A declaration is not taken for a comment. -/
theorem isCommentLine_text (behind : Text) :
    isCommentLine (declaration.text ++ behind) = false := by
  obtain ⟨inside, htext⟩ := declaration.exists_text_eq
  rw [htext]
  rfl

/-- Trimming leaves a declaration as it is. -/
theorem exists_trim_eq {indent : Text} (behind : Text) (hindent : ∀ c ∈ indent, isBlank c = true) :
    ∃ behind', (indent ++ (declaration.text ++ behind)).trim = declaration.text ++ behind' := by
  obtain ⟨inside, htext⟩ := declaration.exists_text_eq
  obtain ⟨behind', hend⟩ := Text.exists_trimEnd_append_cons ('p' :: inside) behind
    (by decide : isBlank ';' = false)
  refine ⟨behind', ?_⟩
  rw [Text.trim_blank_append hindent, htext, Text.trim, List.cons_append,
    Text.trimStart_cons_of_not_blank (by decide), List.append_assoc, List.singleton_append,
    ← List.cons_append,
    hend]
  simp

/-- A declaration declares its names, in their order. -/
theorem declaredFieldNames_text {indent : Text} (behind : Text)
    (hindent : ∀ c ∈ indent, isBlank c = true) :
    declaredFieldNames (indent ++ (declaration.text ++ behind)) = declaration.names := by
  obtain ⟨gap, first, others, hcut⟩ := declaration.exists_isCut
  obtain ⟨behind', htrim⟩ := declaration.exists_trim_eq behind hindent
  have hsplit : splitTopLevel ([','].intercalate (first :: others)) = first :: others :=
    splitTopLevelFrom_intercalate (by decide) fun entry hentry =>
      (hcut.isEntry entry hentry).unsplit
  have hnames : (splitTopLevel ([','].intercalate (first :: others))).mapM declaratorName? =
      some declaration.names := by
    rw [hsplit]
    exact mapM_eq_some_iff_map.mpr hcut.names_eq
  rw [declaredFieldNames]
  simp only [htrim, declaration.isCommentLine_text, hcut.declaratorList?_text, Option.bind_some,
    Text.cutFirst?_append_cons hcut.semicolon_not_mem, hnames, Bool.false_eq_true,
    if_false, Option.getD_some]

/-- A declaration declares each of its names with its type. -/
theorem declaredTypeOn?_text {name : Text} (behind : Text) (hname : name ∈ declaration.names) :
    declaredTypeOn? name (declaration.text ++ behind) = some declaration.type := by
  obtain ⟨gap, first, others, hcut⟩ := declaration.exists_isCut
  have hascii := declaration.isAsciiName_of_mem_names hname
  have hreaches := hcut.reaches_name behind hname
  have hsemicolon : ';' ∈ [','].intercalate (first :: others) ++ ';' :: behind := by simp
  have hsome := isSome_declaredTypeOn?_of_reaches (fun c => isWord_of_mem_asciiName hascii)
    (ne_nil_of_isIdentifier (isIdentifier_of_isAsciiName hascii))
      (declaration.isCommentLine_text behind)
    (hcut.declaratorList?_text behind) hsemicolon hreaches
  obtain ⟨found, hfound⟩ := Option.isSome_iff_exists.mp hsome
  rw [declaredTypeOn?_of_mayDeclare (mayDeclare_of_declaredTypeOn? hfound), hcut.text_append]
  -- behind the preferred type, the name is reached, and so this type is the one that is read off
  refine search_of_prefers (hcut.prefers_start behind) (hcut.prefers_type behind _ _ _ ?_)
  simp only [upTo_append, declaration.isWrittenType.trim_eq]
  obtain ⟨leading, last, rest, hlist, -, hmatches⟩ :=
    exists_declarators_of_reaches hcut.gap_ne_nil hcut.isBlank_gap hreaches hsemicolon
  have hline : gap ++ ([','].intercalate (first :: others) ++ ';' :: behind) =
      (leading ++ name ++ last) ++ rest := by
    rw [hlist]
    simp only [List.append_assoc]
  rw [hline]
  exact run_of_matches (hmatches _).2 _

/-- A declaration is read back as it was written: the names of its line are its names in their
order, and in each document where no earlier line declares one of the names, this name is located on
the line with the type of the declaration. -/
theorem read_back {indent : Text} (behind : Text) (hindent : ∀ c ∈ indent, isBlank c = true) :
    declaredFieldNames (indent ++ (declaration.text ++ behind)) = declaration.names ∧
      ∀ name ∈ declaration.names, ∀ snapshot front after,
        snapshot.lines = front ++ (indent ++ (declaration.text ++ behind)) :: after →
        (∀ line ∈ front, declaredTypeOn? name line.trim = none) →
        locateField snapshot name = some ⟨name, declaration.type, front.length⟩ := by
  refine ⟨declaration.declaredFieldNames_text behind hindent,
    fun name hname snapshot front after hlines hfront => ?_⟩
  have hne := ne_nil_of_isIdentifier
    (isIdentifier_of_isAsciiName (declaration.isAsciiName_of_mem_names hname))
  obtain ⟨behind', htrim⟩ := declaration.exists_trim_eq behind hindent
  refine locateField_eq_some_iff.mpr ⟨hne, front, _, after, hlines, hfront, ?_, rfl, rfl⟩
  rw [htrim]
  exact declaration.declaredTypeOn?_text behind' hname

end WrittenDeclaration

/-- A type with type arguments that have type arguments and array ranks themselves. -/
def entryType : Text :=
  "Map.Entry<Key, List<int[]>>?[,]".toList

theorem isWrittenType_entryType : IsWrittenType entryType := by
  have hkey : IsWrittenType "Key".toList :=
    (by decide : dottedName ["Key".toList] ++
      (typeArguments [','] [] ++ ([] ++ bracketedRanks [])) =
      "Key".toList) ▸ @IsWrittenType.mk ["Key".toList] [] [] [] (by decide) (by decide) (by decide)
        (by simp) (Or.inl rfl) (by decide)
  have hint : IsWrittenType "int[]".toList :=
    (by decide : dottedName ["int".toList] ++
      (typeArguments [','] [] ++ ([] ++ bracketedRanks [[]])) =
      "int[]".toList) ▸ @IsWrittenType.mk ["int".toList] [] [] [[]] (by decide) (by decide)
        (by decide) (by simp) (Or.inl rfl) (by decide)
  have hlist : IsWrittenType "List<int[]>".toList :=
    (by decide : dottedName ["List".toList] ++ (typeArguments [','] ["int[]".toList] ++
      ([] ++ bracketedRanks [])) = "List<int[]>".toList) ▸
      @IsWrittenType.mk ["List".toList] [⟨[], "int[]".toList, [], by decide, by decide⟩] [] []
        (by decide) (by decide) (by decide) (by simpa using hint) (Or.inl rfl) (by decide)
  exact (by decide : dottedName ["Map".toList, "Entry".toList] ++
    (typeArguments [','] ["Key".toList, " List<int[]>".toList] ++
      (['?'] ++ bracketedRanks [[',']])) = entryType) ▸ @IsWrittenType.mk
        ["Map".toList, "Entry".toList] [⟨[], "Key".toList, [], by decide, by decide⟩,
          ⟨[' '], "List<int[]>".toList, [], by decide, by decide⟩] ['?'] [[',']] (by decide)
            (by decide) (by decide) (by simpa using ⟨hkey, hlist⟩) (Or.inr rfl) (by decide)

/-- Three fields of that type, two of them with initializers. -/
def entryDeclaration : WrittenDeclaration where
  gap := [' ']
  modifiers := [⟨"static".toList, [' '], by decide, by decide, by decide⟩,
    ⟨"readonly".toList, [' ', ' '], by decide, by decide, by decide⟩]
  type := entryType
  typeGap := ['\t']
  declarators := [⟨⟨[], "_first".toList, [' '], by decide, by decide⟩,
    some " Make(new int[2])".toList, by decide, by decide, by decide, by decide, by decide⟩,
    ⟨⟨[' '], "_second".toList, [' '], by decide, by decide⟩, none, by decide, by decide, by decide,
      by decide, by decide⟩,
    ⟨⟨[], "third".toList, [], by decide, by decide⟩, some " x => x < y || x > y".toList, by decide,
      by decide, by decide, by decide, by decide⟩]
  gap_ne_nil := by decide
  isBlank_gap := by decide
  isWrittenType := isWrittenType_entryType
  typeGap_ne_nil := by decide
  isBlank_typeGap := by decide
  declarators_ne_nil := by decide

/-- Their line, with a comment behind them. -/
def entryLine : Text :=
  "    private static readonly  ".toList ++ (entryType ++ ("\t_first = Make(new int[2]), ".toList ++
    ("_second ,third= x => x < y".toList ++ " || x > y; // three".toList)))

theorem entryLine_read_back :
    declaredFieldNames entryLine = ["_first".toList, "_second".toList, "third".toList] ∧
      locateField (.ofLines ["// private Key third;".toList, entryLine]) "third".toList =
        some ⟨"third".toList, entryType, 1⟩ := by
  have hindent : ∀ c ∈ "    ".toList, isBlank c = true := by decide
  have hline : entryLine = "    ".toList ++ (entryDeclaration.text ++ " // three".toList) := by
    decide +kernel
  obtain ⟨hnames, hlocated⟩ := entryDeclaration.read_back " // three".toList hindent
  rw [← hline] at hnames hlocated
  exact ⟨hnames, hlocated "third".toList (by decide) _ ["// private Key third;".toList] [] rfl
    (by decide +kernel)⟩

end FieldInjection
