import FieldInjection.Proofs.ParameterLists

/-!
# Types as they are written in declarations

A type is written as an ASCII name, type arguments in angle brackets and array ranks.  The field
pattern matches it, it is one entry of a parameter list, and a blank stands in it only behind a
comma.  The last point is what keeps a type together: a declaration is cut at the blanks that do not
follow a comma.

## Main Definitions

* `IsTypeText`: the texts of such types.
* `Tight`: texts where every blank follows a comma.

## Main Statements

* `IsTypeText.declaredType_matches`: the field pattern matches a type.
* `IsTypeText.unsplit`: a type is not split.
* `IsTypeText.tight`: a type is tight.
-/

namespace FieldInjection

/-- Whether a character may begin the name of a type. -/
def isNameStart (c : Char) : Bool :=
  c.isAlpha || c == '_'

/-- Whether a text is a name of ASCII letters, digits and low lines that does not begin with a
digit. -/
def isAsciiName : Text → Bool
  | [] => false
  | c :: rest => isNameStart c && rest.all fun c => c.isAlphanum || c == '_'

/-- Type arguments in angle brackets, if there are any. -/
def typeArguments (separator : Text) : List Text → Text
  | [] => []
  | arguments => '<' :: (separator.intercalate arguments ++ ['>'])

/-- One pair of square brackets for every rank, with its commas inside. -/
def arrayRanks (ranks : List Nat) : Text :=
  ranks.flatMap fun commas => '[' :: (List.replicate commas ',' ++ [']'])

/-- The text of a type: a name, type arguments, array ranks.  Behind the commas between the
arguments there may be a blank. -/
inductive IsTypeText : Text → Prop
  | mk {name separator : Text} {arguments : List Text} {ranks : List Nat}
      (hname : isAsciiName name = true) (hseparator : separator ∈ [[','], [',', ' ']])
      (harguments : ∀ argument ∈ arguments, IsTypeText argument) :
      IsTypeText (name ++ (typeArguments separator arguments ++ arrayRanks ranks))

/-- A name alone is a type. -/
theorem isTypeText_of_isAsciiName {name : Text} (h : isAsciiName name = true) :
    IsTypeText name := by
  have hmk := @IsTypeText.mk name [','] [] [] h (by simp) (by simp)
  rwa [typeArguments, arrayRanks, List.flatMap_nil, List.append_nil, List.append_nil] at hmk

/-! ## Characters of a type -/

/-- Whether a character may stand in a type. -/
def isTypeChar (c : Char) : Bool :=
  c.isAlphanum || ['_', '<', '>', ',', '[', ']', ' '].contains c

theorem toNat_lt_of_isAlphanum {c : Char} (h : c.isAlphanum = true) : c.toNat < 128 := by
  have hbounds : 'Z'.val.toNat < 128 ∧ 'z'.val.toNat < 128 ∧ '9'.val.toNat < 128 := by decide
  show c.val.toNat < 128
  rcases Bool.or_eq_true_iff.mp h with hletter | hdigit
  · rcases Bool.or_eq_true_iff.mp hletter with hupper | hlower
    · exact lt_of_le_of_lt (UInt32.le_iff_toNat_le.mp (of_decide_eq_true hupper).2) hbounds.1
    · have hlast := of_decide_eq_true (Bool.and_eq_true_iff.mp hlower).2
      exact lt_of_le_of_lt (UInt32.le_iff_toNat_le.mp hlast) hbounds.2.1
  · have hlast := of_decide_eq_true (Bool.and_eq_true_iff.mp hdigit).2
    exact lt_of_le_of_lt (UInt32.le_iff_toNat_le.mp hlast) hbounds.2.2

/-- Small letters are letters. -/
theorem isAlpha_of_isLower {c : Char} (h : c.isLower = true) : c.isAlpha = true :=
  Bool.or_eq_true_iff.mpr (Or.inr h)

theorem isAlphanum_of_isAlpha {c : Char} (h : c.isAlpha = true) : c.isAlphanum = true :=
  Bool.or_eq_true_iff.mpr (Or.inl h)

/-- All characters of types are among the first 128. -/
theorem toNat_lt_of_isTypeChar {c : Char} (h : isTypeChar c = true) : c.toNat < 128 := by
  rw [isTypeChar, Bool.or_eq_true] at h
  rcases h with h | h
  · exact toNat_lt_of_isAlphanum h
  · have hmarks : ∀ mark ∈ ['_', '<', '>', ',', '[', ']', ' '], mark.toNat < 128 := by decide
    exact hmarks c (by simpa using h)

/-- A property of all characters of types is shown by going through the first 128 characters. -/
theorem of_isTypeChar (holds : Char → Bool)
    (hall : ∀ n < 128, isTypeChar (Char.ofNat n) = true → holds (Char.ofNat n) = true) {c : Char}
    (h : isTypeChar c = true) : holds c = true := by
  obtain ⟨n, hn, rfl⟩ := exists_ofNat_of_lt (toNat_lt_of_isTypeChar h)
  exact hall n hn h

/-- The first character of a name is told apart from the others. -/
theorem isAsciiName_cons {name : Text} (h : isAsciiName name = true) :
    ∃ c rest, name = c :: rest ∧ isNameStart c = true ∧
      ∀ d ∈ rest, (d.isAlphanum || d == '_') = true := by
  match name, h with
  | c :: rest, h =>
    rw [isAsciiName, Bool.and_eq_true, List.all_eq_true] at h
    exact ⟨c, rest, rfl, h⟩

/-- What the name of a type is made of. -/
theorem isAlphanum_of_mem_asciiName {name : Text} (h : isAsciiName name = true) {c : Char}
    (hc : c ∈ name) : (c.isAlphanum || c == '_') = true := by
  obtain ⟨first, rest, rfl, hfirst, hrest⟩ := isAsciiName_cons h
  rcases List.mem_cons.mp hc with rfl | hc
  · simp only [isNameStart, Bool.or_eq_true] at hfirst ⊢
    exact hfirst.imp_left isAlphanum_of_isAlpha
  · exact hrest c hc

/-- The characters of names may stand in types. -/
theorem isTypeChar_of_mem_asciiName {name : Text} (h : isAsciiName name = true) {c : Char}
    (hc : c ∈ name) : isTypeChar c = true := by
  have hmem := isAlphanum_of_mem_asciiName h hc
  simp only [isTypeChar, Bool.or_eq_true, beq_iff_eq] at hmem ⊢
  exact hmem.imp_right fun heq => by simp [heq]

/-- A property of the letters, digits and the low line holds of the characters of a name. -/
theorem of_mem_asciiName {name : Text} (h : isAsciiName name = true) (holds : Char → Bool)
    (hall : ∀ n < 128, isTypeChar (Char.ofNat n) = true →
      (!((Char.ofNat n).isAlphanum || Char.ofNat n == '_') || holds (Char.ofNat n)) = true)
    {c : Char} (hc : c ∈ name) : holds c = true := by
  have hchar := of_isTypeChar (fun d => !(d.isAlphanum || d == '_') || holds d) hall
    (isTypeChar_of_mem_asciiName h hc)
  simpa [isAlphanum_of_mem_asciiName h hc] using hchar

/-- Array ranks have brackets and commas only. -/
theorem of_mem_arrayRanks {ranks : List Nat} {c : Char} (hc : c ∈ arrayRanks ranks) :
    c ∈ ['[', ']', ','] := by
  obtain ⟨commas, -, hc⟩ := List.mem_flatMap.mp hc
  simp only [List.mem_cons, List.mem_append, List.mem_replicate, List.not_mem_nil, or_false] at hc ⊢
  tauto

/-- Besides the arguments there are only angles and separators. -/
theorem of_mem_typeArguments {separator : Text} {arguments : List Text} {c : Char}
    (hc : c ∈ typeArguments separator arguments) :
    c ∈ ['<', '>'] ∨ c ∈ separator ∨ ∃ argument ∈ arguments, c ∈ argument := by
  cases arguments with
  | nil => simp [typeArguments] at hc
  | cons first others =>
    simp only [typeArguments, List.mem_cons, List.mem_append, List.not_mem_nil, or_false] at hc
    rcases hc with rfl | hc | rfl
    · exact Or.inl (by simp)
    · exact Or.inr (of_mem_intercalate hc)
    · exact Or.inl (by simp)

/-- A type has only the characters of types. -/
theorem IsTypeText.isTypeChar_of_mem {type : Text} (h : IsTypeText type)
    {c : Char} (hc : c ∈ type) :
    isTypeChar c = true := by
  induction h with
  | @mk name separator arguments ranks hname hseparator _ ih =>
    rw [List.mem_append, List.mem_append] at hc
    rcases hc with hc | hc | hc
    · exact isTypeChar_of_mem_asciiName hname hc
    · rcases of_mem_typeArguments hc with hc | hc | ⟨argument, hargument, hc⟩
      · exact (by decide : ∀ d ∈ ['<', '>'], isTypeChar d = true) c hc
      · have hmarks : ∀ text ∈ [[','], [',', ' ']], ∀ d ∈ text, isTypeChar d = true := by decide
        exact hmarks separator hseparator c hc
      · exact ih argument hargument hc
    · have hmarks : ∀ d ∈ ['[', ']', ','], isTypeChar d = true := by decide
      exact hmarks c (of_mem_arrayRanks hc)

/-- What may not stand in a type is in none. -/
theorem IsTypeText.not_mem {type : Text} (h : IsTypeText type) {c : Char}
    (hc : isTypeChar c = false) :
    c ∉ type := by
  intro hmem
  rw [h.isTypeChar_of_mem hmem] at hc
  exact Bool.false_ne_true hc.symm

/-! ## The beginning of a type -/

/-- A type begins with a letter or the low line. -/
theorem IsTypeText.exists_cons {type : Text} (h : IsTypeText type) :
    ∃ c rest, type = c :: rest ∧ isNameStart c = true := by
  obtain ⟨hname, -, -⟩ := h
  obtain ⟨c, rest, rfl, hstart, -⟩ := isAsciiName_cons hname
  exact ⟨c, _, rfl, hstart⟩

theorem isBlank_eq_false_of_isNameStart {c : Char} (h : isNameStart c = true) :
    isBlank c = false := by
  have hname : isAsciiName [c] = true := by simp [isAsciiName, h]
  have hblank := of_mem_asciiName hname (!isBlank ·) (by decide) (List.mem_singleton_self c)
  simpa using hblank

/-- A type does not begin with a blank. -/
theorem IsTypeText.head?_not_blank {type : Text} (h : IsTypeText type) :
    type.head?.any isBlank = false := by
  obtain ⟨c, rest, rfl, hstart⟩ := h.exists_cons
  exact isBlank_eq_false_of_isNameStart hstart

/-! ## The field pattern -/

open Pattern

/-- The last part of the field pattern matches array ranks. -/
theorem matches_arrayRanks {ranks : List Nat} {before : Option Char} {rest : Text} :
    (many (char '[' ++ many (one fun c => isBlank c || c == ',') ++ char ']')).Matches before
      (arrayRanks ranks) rest := by
  induction ranks generalizing before with
  | nil => exact Repeats.nil before rest
  | cons commas ranks ih =>
    have hturn : (char '[' ++ many (one fun c => isBlank c || c == ',') ++ char ']').Matches before
        ('[' :: (List.replicate commas ',' ++ [']'])) (arrayRanks ranks ++ rest) := by
      refine ⟨'[' :: List.replicate commas ',', [']'], rfl, ⟨['['], List.replicate commas ',', rfl,
        matches_char.mpr rfl, matches_many_one.mpr fun c hc => ?_⟩, matches_char.mpr rfl⟩
      rw [List.eq_of_mem_replicate hc]
      decide
    exact Repeats.cons (by simp) hturn ih

/-- The field pattern matches a type. -/
theorem IsTypeText.declaredType_matches {type : Text} (h : IsTypeText type) {before : Option Char}
    {rest : Text} : FieldPattern.declaredType.Matches before type rest := by
  have hchar : ∀ c ∈ type, isTypeChar c = true := fun c => h.isTypeChar_of_mem
  obtain @⟨name, separator, arguments, ranks, hname, -, -⟩ := h
  obtain ⟨first, others, rfl, hstart, -⟩ := isAsciiName_cons hname
  have hword : ∀ c ∈ others, (isWord c || c == '.') = true := fun c hc =>
    of_mem_asciiName hname (fun c => isWord c || c == '.') (by decide) (List.mem_cons_of_mem _ hc)
  have harguments : ∀ before, (maybe (char '<' ++
      many (one fun c => isWord c || isBlank c || ",.<>[]?".toList.contains c) ++ char '>')).Matches
        before (typeArguments separator arguments) (arrayRanks ranks ++ rest) := by
    intro before
    cases arguments with
    | nil => exact matches_maybe.mpr (Or.inr rfl)
    | cons argument more =>
      refine matches_maybe.mpr (Or.inl ⟨'<' :: separator.intercalate (argument :: more), ['>'], rfl,
        ⟨['<'], separator.intercalate (argument :: more), rfl, matches_char.mpr rfl,
          matches_many_one.mpr fun c hc => ?_⟩, matches_char.mpr rfl⟩)
      refine of_isTypeChar (fun c => isWord c || isBlank c || ",.<>[]?".toList.contains c)
        (by decide) (hchar c ?_)
      simp [typeArguments, hc]
  refine ⟨first :: others ++ typeArguments separator arguments, arrayRanks ranks, by simp,
    ⟨first :: others ++ typeArguments separator arguments, [], by simp,
      ⟨first :: others, typeArguments separator arguments, rfl,
        ⟨[first], others, rfl, ⟨first, rfl, hstart⟩, matches_many_one.mpr hword⟩, harguments _⟩,
      matches_maybe.mpr (Or.inr rfl)⟩, matches_arrayRanks⟩

/-- A type has no outer blanks. -/
theorem IsTypeText.trim_eq {type : Text} (h : IsTypeText type) : type.trim = type := by
  refine Text.trim_eq_self h.head?_not_blank ?_
  cases hlast : type.getLast? with
  | none => rfl
  | some c =>
    -- the only blank of a type is the space, and the pattern does not end in it
    have hspace := of_isTypeChar (fun d => !isBlank d || d == ' ') (by decide)
      (h.isTypeChar_of_mem (List.mem_of_getLast? hlast))
    have hmatches : FieldPattern.declaredType.Matches none type [] := h.declaredType_matches
    rw [Option.any_some, ← Bool.not_eq_true]
    intro hblank
    obtain rfl : c = ' ' := by simpa [hblank] using hspace
    exact absurd (hmatches.mayEndIn hlast) (by decide)

/-! ## One entry of a list -/

/-- No default value stands in a type. -/
theorem IsTypeText.equals_not_mem {type : Text} (h : IsTypeText type) : '=' ∉ type :=
  h.not_mem (by decide)

/-- A joined text is not split if neither its entries nor the separator are. -/
theorem Unsplit.intercalate {depth : Int} {separator : Text} {entries : List Text}
    (hseparator : Unsplit depth depth separator) (hequals : '=' ∉ separator)
    (h : ∀ entry ∈ entries, Unsplit depth depth entry ∧ '=' ∉ entry) :
    Unsplit depth depth (separator.intercalate entries) := by
  induction entries with
  | nil => exact Unsplit.nil
  | cons first others ih =>
    have hfirst := h first (by simp)
    cases others with
    | nil => simpa using hfirst.1
    | cons second others =>
      rw [List.intercalate_cons_cons]
      refine (hfirst.1.append hseparator hfirst.2).append
        (ih fun entry hentry => h entry (List.mem_cons_of_mem _ hentry)) ?_
      simp [hfirst.2, hequals]

/-- What stands between brackets is not split either. -/
theorem Unsplit.bracketed {depth : Int} {opening closing : Char} {inside : Text}
    (hpair : (opening, closing) ∈ [('<', '>'), ('[', ']')])
    (hinside : Unsplit (depth + 1) (depth + 1) inside) (hequals : '=' ∉ inside) :
    Unsplit depth depth (opening :: (inside ++ [closing])) := by
  simp only [List.mem_cons, Prod.mk.injEq, List.not_mem_nil, or_false] at hpair
  have hmarks : opening ≠ ',' ∧ opening ≠ '=' ∧ closing ≠ ',' := by
    rcases hpair with ⟨rfl, rfl⟩ | ⟨rfl, rfl⟩ <;> decide
  have hopening : ∀ previous, previous ≠ some '=' → nestingStep previous opening = 1 := by
    rcases hpair with ⟨rfl, rfl⟩ | ⟨rfl, rfl⟩ <;> simp [nestingStep]
  have hclosing : ∀ previous, previous ≠ some '=' → nestingStep previous closing = -1 := by
    rcases hpair with ⟨rfl, rfl⟩ | ⟨rfl, rfl⟩ <;> simp [nestingStep]
  have hfirst : Unsplit depth (depth + 1) [opening] :=
    Unsplit.singleton hopening (absurd · hmarks.1)
  have hlast : Unsplit (depth + 1) (depth + 1 + -1) [closing] :=
    Unsplit.singleton hclosing (absurd · hmarks.2.2)
  rw [add_neg_cancel_right] at hlast
  exact hfirst.append (hinside.append hlast hequals) (by simpa using hmarks.2.1.symm)

theorem unsplit_comma {depth : Int} (hdepth : 0 < depth) : Unsplit depth depth [','] := by
  have hstep : ∀ previous, previous ≠ some '=' → nestingStep previous ',' = 0 := by
    simp [nestingStep]
  have hcomma := Unsplit.singleton hstep fun _ => hdepth.ne'
  rwa [add_zero] at hcomma

/-- Between brackets no comma splits. -/
theorem unsplit_commas {depth : Int} (hdepth : 0 < depth) (count : Nat) :
    Unsplit depth depth (List.replicate count ',') := by
  induction count with
  | zero => exact Unsplit.nil
  | succ count ih => exact (unsplit_comma hdepth).append ih (by decide)

/-- The commas of array ranks stand between brackets. -/
theorem unsplit_arrayRanks {ranks : List Nat} {depth : Int} (hdepth : 0 ≤ depth) :
    Unsplit depth depth (arrayRanks ranks) := by
  induction ranks with
  | nil => exact Unsplit.nil
  | cons commas ranks ih =>
    have hequals : '=' ∉ List.replicate commas ',' := by simp
    exact (Unsplit.bracketed (by simp) (unsplit_commas (by omega) commas) hequals).append
      ih (by simp)

/-- A type is not split, at any depth. -/
theorem IsTypeText.unsplit {type : Text} (h : IsTypeText type) {depth : Int} (hdepth : 0 ≤ depth) :
    Unsplit depth depth type := by
  induction h generalizing depth with
  | @mk name separator arguments ranks hname hseparator harguments ih =>
    have hplain : ∀ c ∈ name, isListPlain c = true := fun c hc =>
      of_mem_asciiName hname isListPlain (by decide) hc
    have hequals : ∀ text ∈ [[','], [',', ' ']], '=' ∉ text := by decide
    have hbetween : Unsplit (depth + 1) (depth + 1) separator := by
      have hcomma := unsplit_comma (by omega : 0 < depth + 1)
      simp only [List.mem_cons, List.not_mem_nil, or_false] at hseparator
      rcases hseparator with rfl | rfl
      · exact hcomma
      · exact hcomma.append (Unsplit.of_listPlain (by decide)) (by decide)
    have hlist : Unsplit (depth + 1) (depth + 1) (separator.intercalate arguments) :=
      Unsplit.intercalate hbetween (hequals separator hseparator) fun argument hargument =>
        ⟨ih argument hargument (by omega), (harguments argument hargument).equals_not_mem⟩
    have hequalsList : '=' ∉ separator.intercalate arguments := by
      intro hc
      rcases of_mem_intercalate hc with hc | ⟨argument, hargument, hc⟩
      · exact hequals separator hseparator hc
      · exact (harguments argument hargument).equals_not_mem hc
    have hbrackets : Unsplit depth depth (typeArguments separator arguments) ∧
        '=' ∉ typeArguments separator arguments := by
      cases arguments with
      | nil => exact ⟨Unsplit.nil, by simp [typeArguments]⟩
      | cons argument more =>
        exact ⟨Unsplit.bracketed (by simp) hlist hequalsList, by simp [typeArguments, hequalsList]⟩
    refine (Unsplit.of_listPlain hplain).append
      (hbrackets.1.append (unsplit_arrayRanks hdepth) hbrackets.2) fun hc => ?_
    exact absurd (hplain _ hc) (by decide)

/-! ## Blanks of a type -/

/-- Every blank of the text follows a comma. -/
def Tight (text : Text) : Prop :=
  ∀ left blank right, text = left ++ blank :: right → isBlank blank = true →
    left.getLast? = some ','

namespace Tight

variable {left right text : Text}

/-- A text without blanks is tight. -/
theorem of_not_blank (h : ∀ c ∈ text, isBlank c = false) : Tight text := by
  rintro left blank right rfl hblank
  rw [h blank (by simp)] at hblank
  exact absurd hblank Bool.false_ne_true

/-- Two tight texts make up a tight one. -/
theorem append (hleft : Tight left) (hright : Tight right) : Tight (left ++ right) := by
  intro front blank back heq hblank
  rcases List.append_eq_append_iff.mp heq with ⟨middle, rfl, hmiddle⟩ | ⟨middle, rfl, hmiddle⟩
  · rw [List.getLast?_append, hright middle blank back hmiddle hblank, Option.some_or]
  · cases middle with
    | nil => exact absurd (hright [] blank back hmiddle.symm hblank) (by simp)
    | cons c middle =>
      obtain ⟨rfl, -⟩ := List.cons.inj hmiddle
      exact hleft front blank middle rfl hblank

theorem comma_blank : Tight [',', ' '] := by
  intro front blank back heq hblank
  match front, heq with
  | [], heq =>
    obtain ⟨rfl, -⟩ := List.cons.inj heq
    exact absurd hblank (by decide)
  | [c], heq =>
    obtain ⟨rfl, -⟩ := List.cons.inj heq
    rfl
  | c :: d :: front, heq => simp at heq

/-- Tight entries with a tight separator make up a tight text. -/
theorem intercalate {separator : Text} {entries : List Text} (hseparator : Tight separator)
    (h : ∀ entry ∈ entries, Tight entry) : Tight (separator.intercalate entries) := by
  induction entries with
  | nil => exact of_not_blank (by simp)
  | cons first others ih =>
    have hfirst := h first (by simp)
    cases others with
    | nil => simpa using hfirst
    | cons second others =>
      rw [List.intercalate_cons_cons]
      exact (hfirst.append hseparator).append (ih fun entry hentry => h entry (by simp_all))

end Tight

/-- A blank stands in a type only behind a comma. -/
theorem IsTypeText.tight {type : Text} (h : IsTypeText type) : Tight type := by
  induction h with
  | @mk name separator arguments ranks hname hseparator _ ih =>
    have hbetween : Tight separator := by
      simp only [List.mem_cons, List.not_mem_nil, or_false] at hseparator
      rcases hseparator with rfl | rfl
      · exact Tight.of_not_blank (by decide)
      · exact Tight.comma_blank
    have hbrackets : Tight (typeArguments separator arguments) := by
      cases arguments with
      | nil => exact Tight.of_not_blank (by simp [typeArguments])
      | cons argument more =>
        have hopening : Tight ['<'] := Tight.of_not_blank (by decide)
        have hclosing : Tight ['>'] := Tight.of_not_blank (by decide)
        exact hopening.append ((hbetween.intercalate ih).append hclosing)
    refine Tight.append (Tight.of_not_blank fun c hc => ?_)
      (hbrackets.append (Tight.of_not_blank fun c hc => ?_))
    · simpa using of_mem_asciiName hname (!isBlank ·) (by decide) hc
    · have hmarks : ∀ d ∈ ['[', ']', ','], isBlank d = false := by decide
      exact hmarks c (of_mem_arrayRanks hc)

end FieldInjection
