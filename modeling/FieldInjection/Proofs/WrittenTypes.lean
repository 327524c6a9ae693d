import FieldInjection.Proofs.Canonical.FieldLines
import FieldInjection.Proofs.Preferences

/-!
# Types in all the forms of the field pattern

A type is written as a dotted name, type arguments in angle brackets, a question mark and array
ranks.  The arguments are such types themselves, to any depth, with blanks around them.  In front of
a blank, the field pattern takes the whole type before anything else (`IsWrittenType.prefers`).

The type arguments are the only part where that needs an argument.  The pattern does not count
brackets: it runs over everything that may stand in type arguments, out of the list and into the
declarators, and comes back to the last closing bracket.  That bracket is the one of the type when
none follows before the first character that cannot stand in type arguments, such as an equals sign
or a semicolon.

## Main Definitions

* `Padded`: a text between blanks.
* `IsWrittenType`: the texts of types.
* `StopsAt`: what may follow a part of a type.

## Main Statements

* `IsWrittenType.isArgumentChar_of_mem`: the characters of a type may stand in type arguments.
* `IsWrittenType.prefers`: the field pattern takes a type as a whole.
-/

namespace FieldInjection

open Pattern

/-- A text between blanks. -/
structure Padded where
  /-- The blanks in front. -/
  before : Text
  /-- The text itself. -/
  core : Text
  /-- The blanks behind. -/
  after : Text
  /-- In front are only blanks. -/
  isBlank_before : ∀ c ∈ before, isBlank c = true
  /-- Behind are only blanks. -/
  isBlank_after : ∀ c ∈ after, isBlank c = true

/-- A text with the blanks around it. -/
def Padded.text (padded : Padded) : Text :=
  padded.before ++ (padded.core ++ padded.after)

/-- Around the core there are only blanks. -/
theorem Padded.of_mem_text {padded : Padded} {c : Char} (hc : c ∈ padded.text) :
    isBlank c = true ∨ c ∈ padded.core := by
  rw [text, List.mem_append, List.mem_append] at hc
  rcases hc with hc | hc | hc
  · exact Or.inl (padded.isBlank_before c hc)
  · exact Or.inr hc
  · exact Or.inl (padded.isBlank_after c hc)

/-- The words that are modifiers and no types. -/
def modifierWords : List Text :=
  ["readonly".toList, "static".toList, "volatile".toList, "new".toList]

/-- Some names with dots between them. -/
def dottedName (names : List Text) : Text :=
  ['.'].intercalate names

/-- A pair of square brackets for each of the texts, with the text inside. -/
def bracketedRanks (ranks : List Text) : Text :=
  ranks.flatMap fun rank => '[' :: (rank ++ [']'])

/-- The text of a type: a dotted name of ASCII letters, digits and low lines that is no modifier,
type arguments with commas between them, a question mark, array ranks. -/
inductive IsWrittenType : Text → Prop
  | mk {names : List Text} {arguments : List Padded} {mark : Text} {ranks : List Text}
      (hne : names ≠ []) (hnames : ∀ name ∈ names, isAsciiName name = true)
      (hmodifier : dottedName names ∉ modifierWords)
      (harguments : ∀ argument ∈ arguments, IsWrittenType argument.core)
      (hmark : mark = [] ∨ mark = ['?'])
      (hranks : ∀ rank ∈ ranks, ∀ c ∈ rank, (isBlank c || c == ',') = true) :
      IsWrittenType (dottedName names ++
        (typeArguments [','] (arguments.map Padded.text) ++ (mark ++ bracketedRanks ranks)))

/-! ## Characters of a type -/

/-- Whether a character may stand in the name of a type. -/
def isTypeNameChar (c : Char) : Bool :=
  isWord c || c == '.'

/-- Whether a character may stand in type arguments. -/
def isArgumentChar (c : Char) : Bool :=
  isWord c || isBlank c || ",.<>[]?".toList.contains c

/-- Blanks may stand among type arguments. -/
theorem isArgumentChar_of_isBlank {c : Char} (h : isBlank c = true) : isArgumentChar c = true := by
  simp [isArgumentChar, h]

theorem isArgumentChar_of_mem_asciiName {name : Text} (h : isAsciiName name = true) {c : Char}
    (hc : c ∈ name) : isArgumentChar c = true := by
  simp [isArgumentChar, isWord_of_mem_asciiName h hc]

/-- A blank ends the name of a type. -/
theorem isTypeNameChar_eq_false_of_isBlank {c : Char} (h : isBlank c = true) :
    isTypeNameChar c = false := by
  rw [isTypeNameChar, isWord_eq_false_of_isBlank h, Bool.false_or, beq_eq_false_iff_ne]
  exact Text.ne_of_isBlank h (by decide)

/-- What may stand in the name of a type may stand among type arguments. -/
theorem isArgumentChar_of_isTypeNameChar {c : Char} (h : isTypeNameChar c = true) :
    isArgumentChar c = true := by
  rw [isTypeNameChar, Bool.or_eq_true, beq_iff_eq] at h
  rcases h with hword | rfl
  · simp [isArgumentChar, hword]
  · decide

section DottedName

variable {names : List Text} (hnames : ∀ name ∈ names, isAsciiName name = true)

include hnames

/-- Dots and the characters of names make up a dotted name. -/
theorem isTypeNameChar_of_mem_dottedName {c : Char} (hc : c ∈ dottedName names) :
    isTypeNameChar c = true := by
  rcases of_mem_intercalate hc with hdot | ⟨name, hname, hc⟩
  · obtain rfl := List.mem_singleton.mp hdot
    decide
  · simp [isTypeNameChar, isWord_of_mem_asciiName (hnames name hname) hc]

/-- A dotted name begins like a name. -/
theorem exists_cons_dottedName (hne : names ≠ []) :
    ∃ c rest, dottedName names = c :: rest ∧ isNameStart c = true := by
  obtain ⟨first, others, rfl⟩ := List.exists_cons_of_ne_nil hne
  obtain ⟨c, rest, rfl, hstart, -⟩ := isAsciiName_cons (hnames first (by simp))
  cases others with
  | nil => exact ⟨c, rest, List.intercalate_singleton .., hstart⟩
  | cons second others =>
    refine ⟨c, rest ++ (['.'] ++ dottedName (second :: others)), ?_, hstart⟩
    rw [dottedName, List.intercalate_cons_cons, List.append_assoc]
    rfl

end DottedName

/-- Array ranks have brackets, commas and blanks only. -/
theorem of_mem_bracketedRanks {ranks : List Text}
    (hranks : ∀ rank ∈ ranks, ∀ c ∈ rank, (isBlank c || c == ',') = true) {c : Char}
    (hc : c ∈ bracketedRanks ranks) : isBlank c = true ∨ c ∈ ['[', ']', ','] := by
  obtain ⟨rank, hrank, hc⟩ := List.mem_flatMap.mp hc
  simp only [List.mem_cons, List.mem_append, List.not_mem_nil, or_false] at hc ⊢
  rcases hc with rfl | hc | rfl
  · exact Or.inr (Or.inl rfl)
  · have hinside := hranks rank hrank c hc
    rw [Bool.or_eq_true, beq_iff_eq] at hinside
    exact hinside.imp_right fun heq => Or.inr (Or.inr heq)
  · exact Or.inr (Or.inr (Or.inl rfl))

/-- What follows the type arguments has no closing angle bracket, but may stand in type arguments
too. -/
theorem of_mem_mark_or_ranks {mark : Text} {ranks : List Text} (hmark : mark = [] ∨ mark = ['?'])
    (hranks : ∀ rank ∈ ranks, ∀ c ∈ rank, (isBlank c || c == ',') = true) {c : Char}
    (hc : c ∈ mark ++ bracketedRanks ranks) : isArgumentChar c = true ∧ c ≠ '>' := by
  have hmarks : ∀ mark ∈ ['?', '[', ']', ','], isArgumentChar mark = true ∧ mark ≠ '>' := by decide
  rcases List.mem_append.mp hc with hc | hc
  · rcases hmark with rfl | rfl
    · simp at hc
    · exact hmarks c (by simp_all)
  · rcases of_mem_bracketedRanks hranks hc with hblank | hc
    · exact ⟨isArgumentChar_of_isBlank hblank, Text.ne_of_isBlank hblank (by decide)⟩
    · exact hmarks c (List.mem_cons_of_mem _ hc)

/-- A type can stand in type arguments. -/
theorem IsWrittenType.isArgumentChar_of_mem {type : Text} (h : IsWrittenType type) {c : Char}
    (hc : c ∈ type) : isArgumentChar c = true := by
  induction h with
  | @mk names arguments mark ranks _ hnames _ _ hmark hranks ih =>
    rw [List.mem_append, List.mem_append] at hc
    rcases hc with hc | hc | hc
    · exact isArgumentChar_of_isTypeNameChar (isTypeNameChar_of_mem_dottedName hnames hc)
    · rcases of_mem_typeArguments hc with hc | hc | ⟨text, htext, hc⟩
      · exact (by decide : ∀ mark ∈ ['<', '>'], isArgumentChar mark = true) c hc
      · exact (by decide : ∀ mark ∈ [','], isArgumentChar mark = true) c hc
      · obtain ⟨argument, hargument, rfl⟩ := List.mem_map.mp htext
        rcases argument.of_mem_text hc with hblank | hc
        · exact isArgumentChar_of_isBlank hblank
        · exact ih argument hargument hc
    · exact (of_mem_mark_or_ranks hmark hranks hc).1

/-- Texts without closing angle brackets do not bring one within reach. -/
theorem angle_not_mem_append {front tail : Text}
    (hfront : ∀ c ∈ front, isArgumentChar c = true ∧ c ≠ '>')
    (htail : '>' ∉ tail.takeWhile isArgumentChar) :
    '>' ∉ (front ++ tail).takeWhile isArgumentChar := by
  rw [List.takeWhile_append_of_pos fun c hc => (hfront c hc).1, List.mem_append, not_or]
  exact ⟨fun hmem => (hfront _ hmem).2 rfl, htail⟩

/-! ## What follows a part of a type -/

/-- A text that begins with one of the marks or with a blank. -/
def StopsAt (marks : List Char) (text : Text) : Prop :=
  ∃ c rest, text = c :: rest ∧ (c ∈ marks ∨ isBlank c = true)

section StopsAt

variable {marks : List Char} {text rest : Text}

/-- A text that stops at some marks has no first character with a property that these and the
blanks lack. -/
theorem StopsAt.any_head? {holds : Char → Bool} (h : StopsAt marks text)
    (hmarks : ∀ mark ∈ marks, holds mark = false)
    (hblank : ∀ c, isBlank c = true → holds c = false) :
    text.head?.any holds = false := by
  obtain ⟨c, rest, rfl, hc⟩ := h
  exact hc.elim (hmarks c) (hblank c)

/-- Characters are taken up to where the text stops. -/
theorem StopsAt.takeWhile_append {holds : Char → Bool} {front : Text} (h : StopsAt marks text)
    (hfront : ∀ c ∈ front, holds c = true) (hmarks : ∀ mark ∈ marks, holds mark = false)
    (hblank : ∀ c, isBlank c = true → holds c = false) :
    (front ++ text).takeWhile holds = front := by
  obtain ⟨c, rest, rfl, hc⟩ := h
  have hstop : holds c = false := hc.elim (hmarks c) (hblank c)
  rw [List.takeWhile_append_of_pos hfront, List.takeWhile_cons_of_neg (by simp [hstop]),
    List.append_nil]

/-- A text that stops at some marks begins with no other mark. -/
theorem StopsAt.head?_ne {c : Char} (h : StopsAt marks text) (hmark : c ∉ marks)
    (hblank : isBlank c = false) :
    text.head? ≠ some c := by
  obtain ⟨d, rest, rfl, hd⟩ := h
  rintro heq
  obtain rfl : d = c := by simpa using heq
  rcases hd with hd | hd
  · exact hmark hd
  · simp [hd] at hblank

/-- In front of array ranks a text may also stop at a bracket. -/
theorem stopsAt_ranks {ranks : List Text} (h : StopsAt [] rest) :
    StopsAt ['['] (bracketedRanks ranks ++ rest) := by
  cases ranks with
  | nil =>
    obtain ⟨c, rest, rfl, hc⟩ := h
    exact ⟨c, rest, rfl, Or.inr (hc.resolve_left (by simp))⟩
  | cons rank ranks => exact ⟨'[', _, rfl, Or.inl (by simp)⟩

/-- In front of the mark for null a text may also stop at this mark. -/
theorem stopsAt_mark {mark : Text} (hmark : mark = [] ∨ mark = ['?']) (h : StopsAt ['['] rest) :
    StopsAt ['?', '['] (mark ++ rest) := by
  rcases hmark with rfl | rfl
  · obtain ⟨c, rest, rfl, hc⟩ := h
    exact ⟨c, rest, rfl, hc.imp_left (List.mem_cons_of_mem _)⟩
  · exact ⟨'?', rest, rfl, Or.inl (by simp)⟩

theorem stopsAt_typeArguments {separator : Text} {arguments : List Text}
    (h : StopsAt ['?', '['] rest) :
    StopsAt ['<', '?', '['] (typeArguments separator arguments ++ rest) := by
  cases arguments with
  | nil =>
    obtain ⟨c, rest, rfl, hc⟩ := h
    exact ⟨c, rest, rfl, hc.imp_left (List.mem_cons_of_mem _)⟩
  | cons argument arguments => exact ⟨'<', _, rfl, Or.inl (by simp)⟩

end StopsAt

/-- A type begins with a name that is no modifier and goes on with something else. -/
theorem IsWrittenType.exists_name {type : Text} (h : IsWrittenType type) :
    ∃ first others tail, type = (first :: others) ++ tail ∧ isNameStart first = true ∧
      (∀ c ∈ first :: others, isTypeNameChar c = true) ∧ first :: others ∉ modifierWords ∧
      ∀ rest, StopsAt [] rest → StopsAt ['<', '?', '['] (tail ++ rest) := by
  obtain @⟨names, arguments, mark, ranks, hne, hnames, hmodifier, -, hmark, -⟩ := h
  obtain ⟨first, others, hname, hstart⟩ := exists_cons_dottedName hnames hne
  rw [hname] at hmodifier
  refine ⟨first, others, _, congrArg (· ++ _) hname, hstart, fun c hc => ?_, hmodifier,
    fun rest hrest => ?_⟩
  · exact isTypeNameChar_of_mem_dottedName hnames (hname ▸ hc)
  · rw [List.append_assoc, List.append_assoc]
    exact stopsAt_typeArguments (stopsAt_mark hmark (stopsAt_ranks hrest))

/-! ## The field pattern -/

section Prefers

variable {before : Option Char} {rest : Text}

/-- The pattern prefers the type arguments as they are written, if no angle is within reach behind
them. -/
theorem prefers_typeArguments {separator : Text} {arguments : List Text}
    (hinside : ∀ c ∈ separator.intercalate arguments, isArgumentChar c = true)
    (hstop : StopsAt ['?', '['] rest) (hrest : '>' ∉ rest.takeWhile isArgumentChar) :
    (maybe (char '<' ++ many (one isArgumentChar) ++ char '>')).Prefers before
      (typeArguments separator arguments) rest := by
  cases arguments with
  | nil =>
    refine prefers_maybe_none ?_
    rintro _ rest' rfl ⟨_, _, rfl, ⟨_, inside, rfl, hopening, -⟩, -⟩
    obtain rfl := matches_char.mp hopening
    exact hstop.head?_ne (by decide) (by decide) rfl
  | cons argument arguments => exact .either_left (prefers_bracketed hinside hrest)

theorem prefers_mark {mark : Text} (hmark : mark = [] ∨ mark = ['?']) (hstop : StopsAt ['['] rest) :
    (maybe (char '?')).Prefers before mark rest := by
  rcases hmark with rfl | rfl
  · refine prefers_maybe_none ?_
    rintro _ rest' rfl hmark
    obtain rfl := matches_char.mp hmark
    exact hstop.head?_ne (by decide) (by decide) rfl
  · exact .either_left (prefers_char '?')

/-- The pattern prefers all array ranks. -/
theorem prefers_ranks {ranks : List Text}
    (hranks : ∀ rank ∈ ranks, ∀ c ∈ rank, (isBlank c || c == ',') = true)
    (hstop : StopsAt [] rest) :
    (many (char '[' ++ many (one fun c => isBlank c || c == ',') ++ char ']')).Prefers before
      (bracketedRanks ranks) rest := by
  refine .many ?_ ?_
  · induction ranks generalizing before with
    | nil => exact .nil before rest
    | cons rank ranks ih =>
      have hclosing : ∀ text : Text, ']' ∉ text.takeWhile fun c => isBlank c || c == ',' :=
        fun text hmem => absurd (List.mem_takeWhile_imp hmem) (by decide)
      exact Repeats.cons (by simp) (prefers_bracketed (hranks rank (by simp)) (hclosing _))
        (ih fun other hother => hranks other (by simp [hother]))
  · rintro _ rest' rfl - ⟨_, _, rfl, ⟨_, inside, rfl, hopening, -⟩, -⟩
    obtain rfl := matches_char.mp hopening
    exact hstop.head?_ne (by decide) (by decide) rfl

end Prefers

/-- The field pattern takes a type as a whole, if what may stand in type arguments behind the type
has no further closing bracket. -/
theorem IsWrittenType.prefers {type rest : Text} {before : Option Char} (h : IsWrittenType type)
    (hstop : StopsAt [] rest) (hrest : '>' ∉ rest.takeWhile isArgumentChar) :
    FieldPattern.declaredType.Prefers before type rest := by
  have hchars : ∀ c ∈ type, isArgumentChar c = true := fun c => h.isArgumentChar_of_mem
  obtain @⟨names, arguments, mark, ranks, hne, hnames, -, -, hmark, hranks⟩ := h
  obtain ⟨first, others, hname, hstart⟩ := exists_cons_dottedName hnames hne
  have hothers : ∀ c ∈ others, isTypeNameChar c = true := fun c hc =>
    isTypeNameChar_of_mem_dottedName hnames (by rw [hname]; exact List.mem_cons_of_mem _ hc)
  have hinside : ∀ c ∈ [','].intercalate (arguments.map Padded.text), isArgumentChar c = true := by
    intro c hc
    refine hchars c (List.mem_append_right _ (List.mem_append_left _ ?_))
    cases arguments with
    | nil => simp at hc
    | cons argument arguments => simp_all [typeArguments]
  have hranksStop : StopsAt ['['] (bracketedRanks ranks ++ rest) := stopsAt_ranks hstop
  have hmarkStop : StopsAt ['?', '['] (mark ++ (bracketedRanks ranks ++ rest)) :=
    stopsAt_mark hmark hranksStop
  have hangle : '>' ∉ (mark ++ (bracketedRanks ranks ++ rest)).takeWhile isArgumentChar := by
    have hbehind : ∀ c ∈ mark ++ bracketedRanks ranks, isArgumentChar c = true ∧ c ≠ '>' :=
      fun c hc =>
      of_mem_mark_or_ranks hmark hranks hc
    rw [← List.append_assoc]
    exact angle_not_mem_append hbehind hrest
  have hargumentsStop : StopsAt ['<', '?', '['] (typeArguments [','] (arguments.map Padded.text) ++
      (mark ++ (bracketedRanks ranks ++ rest))) := stopsAt_typeArguments hmarkStop
  have hend := hargumentsStop.any_head? (by decide) fun c => isTypeNameChar_eq_false_of_isBlank
  have hparts : dottedName names ++ (typeArguments [','] (arguments.map Padded.text) ++
        (mark ++ bracketedRanks ranks)) =
      [first] ++ others ++ typeArguments [','] (arguments.map Padded.text) ++ mark ++
      bracketedRanks ranks := by
    rw [hname]
    simp
  rw [hparts]
  exact ((((prefers_one hstart).append (prefers_many_one hothers hend)).append
    (prefers_typeArguments hinside hmarkStop hangle)).append (prefers_mark hmark hranksStop)).append
    (prefers_ranks hranks hstop)

/-- What the field pattern takes for a type does not end in a blank. -/
theorem mayEndIn_declaredType_of_isBlank {c : Char} (h : isBlank c = true) :
    FieldPattern.declaredType.mayEndIn c = false := by
  have halpha : c.isAlpha = false := by
    by_contra halpha
    rw [isBlank_eq_false_of_isAlpha (by simpa using halpha)] at h
    exact Bool.false_ne_true h
  have hblank : ∀ mark ∈ ['_', '.', '>', '?', ']'], isBlank mark = false := by decide
  have hne : ∀ mark ∈ ['_', '.', '>', '?', ']'], c ≠ mark := fun mark hmark =>
    Text.ne_of_isBlank h (hblank mark hmark)
  simp [FieldPattern.declaredType, maybe, char, mayEndIn, mayBeEmpty, isWord_eq_false_of_isBlank h,
    halpha, hne]

/-- A type has no blanks at its ends. -/
theorem IsWrittenType.trim_eq {type : Text} (h : IsWrittenType type) : type.trim = type := by
  refine Text.trim_eq_self ?_ ?_
  · obtain ⟨first, others, tail, rfl, hfirst, -⟩ := h.exists_name
    exact isBlank_eq_false_of_isNameStart hfirst
  · cases hlast : type.getLast? with
    | none => rfl
    | some c =>
      have hmatches : FieldPattern.declaredType.Matches none type [' '] :=
        (h.prefers ⟨' ', [], rfl, Or.inr (by decide)⟩ (by decide)).matches
      by_contra hblank
      have hend := hmatches.mayEndIn hlast
      rw [mayEndIn_declaredType_of_isBlank (by simpa using hblank)] at hend
      exact Bool.false_ne_true hend

end FieldInjection
