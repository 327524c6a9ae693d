import FieldInjection.Proofs.Characters
import FieldInjection.Proofs.Cutting

/-!
# Whole-token search

The search for a token goes through its occurrences from left to right and jumps over each one that
it finds.  A token made of identifier characters cannot overlap an occurrence that stands alone,
since the character before that one would be part of it; so the jumps lose nothing, and the search
finds exactly the places where the token stands alone.

## Main Definitions

* `StandsAlone`: a token between two texts, with no identifier character at either side.

## Main Statements

* `mem_tokenEnds_iff`: what the search finds.
* `containsToken_iff`, `assignsToken_iff`: the two questions asked of it.
* `containsToken_append_cons_iff`, `assignsToken_append_cons_iff`: both questions can be asked of
  the parts on either side of a mark.
-/

namespace FieldInjection

/-- A token stands alone between two texts: neither side has an identifier character next to it. -/
def StandsAlone (before after : Text) : Prop :=
  before.getLast?.any isIdentifierChar = false ∧ after.head?.any isIdentifierChar = false

/-! ## The search is exact -/

/-- A beginning can be taken off exactly if the text begins with it. -/
theorem dropStart?_eq_some_iff {start text rest : Text} :
    Text.dropStart? start text = some rest ↔ text = start ++ rest := by
  fun_induction Text.dropStart? start text with
  | case1 text => simp [eq_comm]
  | case2 => simp
  | case3 a as bs ih => simpa using ih
  | case4 a as b bs hab => simp [Ne.symm hab]

/-- Every reported occurrence is one. -/
theorem exists_of_mem_occurrences {token text after : Text} {skip : Nat}
    {previous border : Option Char} (h : (border, after) ∈ occurrences token skip previous text) :
    ∃ before, text = before ++ token ++ after ∧ border = before.getLast?.or previous := by
  -- the texts jumped over by `skip` join the text before the occurrence
  induction text generalizing skip previous with
  | nil => simp [occurrences] at h
  | cons c rest ih =>
    have extend : ∀ {remaining}, (border, after) ∈ occurrences token remaining (some c) rest →
        ∃ before, c :: rest = before ++ token ++ after ∧ border = before.getLast?.or previous := by
      intro remaining hmem
      obtain ⟨before, hrest, hborder⟩ := ih hmem
      exact ⟨c :: before, by simp [hrest], by rw [hborder, Text.getLast?_cons_or]⟩
    cases skip with
    | succ remaining => exact extend (by simpa [occurrences] using h)
    | zero =>
      simp only [occurrences] at h
      split at h
      · next found hfound =>
        rcases List.mem_cons.mp h with heq | hmem
        · simp only [Prod.mk.injEq] at heq
          obtain ⟨rfl, rfl⟩ := heq
          exact ⟨[], by simpa using dropStart?_eq_some_iff.mp hfound, by simp⟩
        · exact extend hmem
      · exact extend h

/-- An occurrence that stands alone is reported, as long as the jump in progress ends before it. -/
theorem mem_occurrences_of_standsAlone {token before after : Text} {skip : Nat}
    {previous : Option Char} (htoken : token ≠ []) (hname : ∀ c ∈ token, isIdentifierChar c = true)
    (hskip : skip ≤ before.length)
    (hborder : (before.getLast?.or previous).any isIdentifierChar = false) :
    (before.getLast?.or previous, after) ∈
      occurrences token skip previous (before ++ token ++ after) := by
  induction before generalizing skip previous with
  | nil =>
    obtain rfl : skip = 0 := by simpa using hskip
    obtain ⟨c, rest, rfl⟩ := List.exists_cons_of_ne_nil htoken
    have hfound : Text.dropStart? (c :: rest) (c :: (rest ++ after)) = some after := by
      rw [dropStart?_eq_some_iff, List.cons_append]
    simp [occurrences, hfound]
  | cons c before ih =>
    rw [Text.getLast?_cons_or] at hborder ⊢
    rw [List.cons_append, List.cons_append]
    cases skip with
    | succ remaining =>
      simp only [List.length_cons] at hskip
      simpa [occurrences] using ih (by omega) hborder
    | zero =>
      simp only [occurrences]
      split
      · next found hfound =>
        -- an overlap would put the character before the token into the occurrence found here
        have hshort : token.length ≤ before.length := by
          by_contra hlong
          have hsplit := dropStart?_eq_some_iff.mp hfound
          have hprefix : c :: before <+: token :=
            List.prefix_of_prefix_length_le
              ⟨token ++ after, by rw [← hsplit]; simp⟩ (List.prefix_append token found)
              (by simp only [List.length_cons]; omega)
          have hmem : ∀ d, before.getLast?.or (some c) = some d → d ∈ token := by
            intro d hd
            refine hprefix.subset (List.mem_of_getLast? ?_)
            rw [← hd, ← Text.getLast?_cons_or c before none, Option.or_none]
          cases hd : before.getLast?.or (some c) with
          | none => cases hb : before.getLast? <;> simp [hb] at hd
          | some d =>
            rw [hd] at hborder
            simp [hname d (hmem d hd)] at hborder
        exact List.mem_cons_of_mem _ (ih (by omega) hborder)
      · exact ih (Nat.zero_le _) hborder

/-- What the search for a token finds: everything behind a place where the token stands alone. -/
theorem mem_tokenEnds_iff {line token after : Text} (htoken : token ≠ [])
    (hname : ∀ c ∈ token, isIdentifierChar c = true) :
    after ∈ tokenEnds line token ↔
      ∃ before, line = before ++ token ++ after ∧ StandsAlone before after := by
  have hempty : token.isEmpty = false := by simpa using htoken
  simp only [tokenEnds, hempty, Bool.false_eq_true, if_false, List.mem_map, List.mem_filter,
    Bool.and_eq_true, Bool.not_eq_true', Prod.exists]
  constructor
  · rintro ⟨border, found, ⟨hmem, hborder, hafter⟩, rfl⟩
    obtain ⟨before, hline, hlast⟩ := exists_of_mem_occurrences hmem
    refine ⟨before, hline, ?_, hafter⟩
    rwa [hlast, Option.or_none] at hborder
  · rintro ⟨before, rfl, hbefore, hafter⟩
    have hmem : (before.getLast?.or none, after) ∈ occurrences token 0 none
        (before ++ token ++ after) :=
      mem_occurrences_of_standsAlone htoken hname (Nat.zero_le _) (by rwa [Option.or_none])
    rw [Option.or_none] at hmem
    exact ⟨before.getLast?, after, ⟨hmem, hbefore, hafter⟩, rfl⟩

/-- A token is found exactly if it stands somewhere with no name character beside it. -/
theorem containsToken_iff {line token : Text} (htoken : token ≠ [])
    (hname : ∀ c ∈ token, isIdentifierChar c = true) :
    containsToken line token = true ↔
      ∃ before after, line = before ++ token ++ after ∧ StandsAlone before after := by
  rw [containsToken, Bool.not_eq_true', List.isEmpty_eq_false_iff_exists_mem]
  constructor
  · rintro ⟨after, hafter⟩
    obtain ⟨before, h⟩ := (mem_tokenEnds_iff htoken hname).mp hafter
    exact ⟨before, after, h⟩
  · rintro ⟨before, after, h⟩
    exact ⟨after, (mem_tokenEnds_iff htoken hname).mpr ⟨before, h⟩⟩

/-- A token is assigned exactly if one of the places where it stands alone is followed by an
equals sign. -/
theorem assignsToken_iff {line token : Text} (htoken : token ≠ [])
    (hname : ∀ c ∈ token, isIdentifierChar c = true) :
    assignsToken line token = true ↔
      ∃ before after, (line = before ++ token ++ after ∧ StandsAlone before after) ∧
        startsAssignment after = true := by
  rw [assignsToken, List.any_eq_true]
  constructor
  · rintro ⟨after, hafter, hstarts⟩
    obtain ⟨before, h⟩ := (mem_tokenEnds_iff htoken hname).mp hafter
    exact ⟨before, after, h, hstarts⟩
  · rintro ⟨before, after, h, hstarts⟩
    exact ⟨after, (mem_tokenEnds_iff htoken hname).mpr ⟨before, h⟩, hstarts⟩

/-! ## Tokens on either side of a mark -/

/-- A place where a token stands alone lies wholly on one side of a character that no token has. -/
theorem standsAlone_append_cons_iff {left right token before after : Text} {mark : Char}
    (htoken : token ≠ []) (hname : ∀ c ∈ token, isIdentifierChar c = true)
    (hmark : isIdentifierChar mark = false) :
    left ++ mark :: right = before ++ token ++ after ∧ StandsAlone before after ↔
      (∃ tail, after = tail ++ mark :: right ∧ left = before ++ token ++ tail ∧
        StandsAlone before tail) ∨
      ∃ front, before = left ++ mark :: front ∧ right = front ++ token ++ after ∧
        StandsAlone front after := by
  have hnot : mark ∉ token := by
    intro hmem
    rw [hname mark hmem] at hmark
    exact Bool.false_ne_true hmark.symm
  constructor
  · rintro ⟨heq, hbefore, hafter⟩
    rw [List.append_assoc] at heq
    rcases List.append_eq_append_iff.mp heq with ⟨middle, rfl, hright⟩ | ⟨middle, rfl, hleft⟩
    · right
      cases middle with
      | nil =>
        obtain ⟨c, rest, rfl⟩ := List.exists_cons_of_ne_nil htoken
        simp only [List.nil_append, List.cons_append, List.cons.injEq] at hright
        exact absurd (by simp [hright.1]) hnot
      | cons c front =>
        simp only [List.cons_append, List.cons.injEq] at hright
        obtain ⟨rfl, rfl⟩ := hright
        exact ⟨front, rfl, by simp, (Text.any_getLast?_append_cons left front hmark).symm.trans
          hbefore, hafter⟩
    · left
      rcases List.append_eq_append_iff.mp hleft.symm with
        ⟨tail, htoken', hafter'⟩ | ⟨tail, rfl, rfl⟩
      · cases tail with
        | nil =>
          refine ⟨[], by simpa using hafter'.symm, by simp [htoken'], hbefore, rfl⟩
        | cons c tail =>
          simp only [List.cons_append, List.cons.injEq] at hafter'
          exact absurd (by simp [htoken', hafter'.1]) hnot
      · exact ⟨tail, rfl, by simp, hbefore,
          (Text.any_head?_append_cons tail right hmark).symm.trans hafter⟩
  · rintro (⟨tail, rfl, rfl, hbefore, hafter⟩ | ⟨front, rfl, rfl, hbefore, hafter⟩)
    · exact ⟨by simp, hbefore, (Text.any_head?_append_cons tail right hmark).trans hafter⟩
    · exact ⟨by simp, (Text.any_getLast?_append_cons left front hmark).trans hbefore, hafter⟩

/-- No token goes over a mark, so it is on one of its sides. -/
theorem containsToken_append_cons_iff {left right token : Text} {mark : Char} (htoken : token ≠ [])
    (hname : ∀ c ∈ token, isIdentifierChar c = true) (hmark : isIdentifierChar mark = false) :
    containsToken (left ++ mark :: right) token = true ↔
      containsToken left token = true ∨ containsToken right token = true := by
  simp only [containsToken_iff htoken hname, standsAlone_append_cons_iff htoken hname hmark]
  constructor
  · rintro ⟨before, after, ⟨tail, -, hleft⟩ | ⟨front, -, hright⟩⟩
    · exact Or.inl ⟨before, tail, hleft⟩
    · exact Or.inr ⟨front, after, hright⟩
  · rintro (⟨before, tail, hleft⟩ | ⟨front, after, hright⟩)
    · exact ⟨before, _, Or.inl ⟨tail, rfl, hleft⟩⟩
    · exact ⟨_, after, Or.inr ⟨front, rfl, hright⟩⟩

/-- What follows a character that is neither a blank nor part of an operator does not decide whether
an assignment starts before it. -/
theorem startsAssignment_append_cons {tail right : Text} {mark : Char}
    (hblank : isBlank mark = false) (hequals : mark ≠ '=') (hangle : mark ≠ '>') :
    startsAssignment (tail ++ mark :: right) = startsAssignment tail := by
  unfold startsAssignment
  cases hstart : tail.trimStart with
  | nil =>
    rw [Text.trimStart_append_of_nil hstart, Text.trimStart_cons_of_not_blank hblank]
    simp [hequals]
  | cons c rest =>
    rw [Text.trimStart_append_of_cons hstart]
    by_cases heq : c = '='
    · subst heq
      cases rest <;> simp [hequals, hangle]
    · simp [heq]

/-- Blanks at the end do not decide whether an assignment starts. -/
theorem startsAssignment_append_blank {tail blanks : Text}
    (hblanks : ∀ c ∈ blanks, isBlank c = true) :
    startsAssignment (tail ++ blanks) = startsAssignment tail := by
  have hoperator : ∀ c ∈ blanks, c ≠ '=' ∧ c ≠ '>' := by
    intro c hc
    constructor <;> rintro rfl <;> exact absurd (hblanks _ hc) (by decide)
  unfold startsAssignment
  cases hstart : tail.trimStart with
  | nil =>
    have hall : blanks.trimStart = [] := by
      rw [← List.append_nil blanks, Text.trimStart_blank_append hblanks]
      rfl
    rw [Text.trimStart_append_of_nil hstart, hall]
  | cons c rest =>
    rw [Text.trimStart_append_of_cons hstart]
    by_cases heq : c = '='
    · subst heq
      cases rest with
      | cons d rest => rfl
      | nil =>
        cases blanks with
        | nil => rfl
        | cons b blanks => simp [hoperator b (by simp)]
    · simp [heq]

/-- A mark that is neither a blank nor part of an assignment keeps its sides apart. -/
theorem assignsToken_append_cons_iff {left right token : Text} {mark : Char} (htoken : token ≠ [])
    (hname : ∀ c ∈ token, isIdentifierChar c = true) (hmark : isIdentifierChar mark = false)
    (hblank : isBlank mark = false) (hequals : mark ≠ '=') (hangle : mark ≠ '>') :
    assignsToken (left ++ mark :: right) token = true ↔
      assignsToken left token = true ∨ assignsToken right token = true := by
  simp only [assignsToken_iff htoken hname, standsAlone_append_cons_iff htoken hname hmark]
  constructor
  · rintro ⟨before, after, ⟨tail, rfl, hleft⟩ | ⟨front, -, hright⟩, hstarts⟩
    · rw [startsAssignment_append_cons hblank hequals hangle] at hstarts
      exact Or.inl ⟨before, tail, hleft, hstarts⟩
    · exact Or.inr ⟨front, after, hright, hstarts⟩
  · rintro (⟨before, tail, hleft, hstarts⟩ | ⟨front, after, hright, hstarts⟩)
    · refine ⟨before, _, Or.inl ⟨tail, rfl, hleft⟩, ?_⟩
      rwa [startsAssignment_append_cons hblank hequals hangle]
    · exact ⟨_, after, Or.inr ⟨front, rfl, hright⟩, hstarts⟩

/-! ## Tokens and blanks -/

section Blanks

variable {token : Text} (htoken : token ≠ []) (hname : ∀ c ∈ token, isIdentifierChar c = true)

include htoken hname

theorem containsToken_nil : containsToken [] token = false := by
  by_contra h
  obtain ⟨before, after, hnil, -⟩ := (containsToken_iff htoken hname).mp (by simpa using h)
  simp [htoken] at hnil

theorem assignsToken_nil : assignsToken [] token = false := by
  by_contra h
  obtain ⟨before, after, ⟨hnil, -⟩, -⟩ := (assignsToken_iff htoken hname).mp (by simpa using h)
  simp [htoken] at hnil

/-- A mark in front changes nothing. -/
theorem assignsToken_cons_iff {right : Text} {mark : Char} (hmark : isIdentifierChar mark = false) :
    assignsToken (mark :: right) token = true ↔ assignsToken right token = true := by
  have hsplit : ∀ before after, mark :: right = before ++ token ++ after ∧
      StandsAlone before after ↔
      ∃ front, before = mark :: front ∧ right = front ++ token ++ after ∧
      StandsAlone front after := by
    intro before after
    rw [← List.nil_append (mark :: right), standsAlone_append_cons_iff htoken hname hmark]
    simp [htoken]
  simp only [assignsToken_iff htoken hname, hsplit]
  constructor
  · rintro ⟨before, after, ⟨front, -, hright⟩, hstarts⟩
    exact ⟨front, after, hright, hstarts⟩
  · rintro ⟨front, after, hright, hstarts⟩
    exact ⟨_, after, ⟨front, rfl, hright⟩, hstarts⟩

/-- Indentation changes nothing about the tokens of a line. -/
theorem containsToken_blank_append {blanks text : Text} (hblanks : ∀ c ∈ blanks, isBlank c = true) :
    containsToken (blanks ++ text) token = true ↔ containsToken text token = true := by
  induction blanks with
  | nil => rfl
  | cons b blanks ih =>
    have hb := isIdentifierChar_eq_false_of_isBlank (hblanks b (by simp))
    rw [List.cons_append, ← List.nil_append (b :: (blanks ++ text)),
      containsToken_append_cons_iff htoken hname hb, containsToken_nil htoken hname,
      ih fun c hc => hblanks c (by simp [hc])]
    simp

/-- Indentation changes nothing about the assignments of a line. -/
theorem assignsToken_blank_append {blanks text : Text} (hblanks : ∀ c ∈ blanks, isBlank c = true) :
    assignsToken (blanks ++ text) token = true ↔ assignsToken text token = true := by
  induction blanks with
  | nil => rfl
  | cons b blanks ih =>
    have hb := isIdentifierChar_eq_false_of_isBlank (hblanks b (by simp))
    rw [List.cons_append, assignsToken_cons_iff htoken hname hb,
      ih fun c hc => hblanks c (by simp [hc])]

/-- Blanks behind a line change nothing about its tokens. -/
theorem containsToken_append_blank {blanks text : Text} (hblanks : ∀ c ∈ blanks, isBlank c = true) :
    containsToken (text ++ blanks) token = true ↔ containsToken text token = true := by
  cases blanks with
  | nil => rw [List.append_nil]
  | cons b blanks =>
    have hb := isIdentifierChar_eq_false_of_isBlank (hblanks b (by simp))
    have hrest : containsToken blanks token = true ↔ False := by
      rw [← List.append_nil blanks,
        containsToken_blank_append htoken hname fun c hc => hblanks c (by simp [hc]),
        containsToken_nil htoken hname]
      simp
    rw [containsToken_append_cons_iff htoken hname hb, hrest, or_false]

/-- Blanks behind a line change nothing about its assignments. -/
theorem assignsToken_append_blank {blanks text : Text} (hblanks : ∀ c ∈ blanks, isBlank c = true) :
    assignsToken (text ++ blanks) token = true ↔ assignsToken text token = true := by
  cases blanks with
  | nil => rw [List.append_nil]
  | cons b blanks =>
    have hb := isIdentifierChar_eq_false_of_isBlank (hblanks b (by simp))
    simp only [assignsToken_iff htoken hname, standsAlone_append_cons_iff htoken hname hb]
    constructor
    · rintro ⟨before, after, ⟨tail, rfl, htext⟩ | ⟨front, -, hrest, hstands⟩, hstarts⟩
      · rw [startsAssignment_append_blank hblanks] at hstarts
        exact ⟨before, tail, htext, hstarts⟩
      · -- a token cannot stand among blanks
        obtain ⟨c, name, rfl⟩ := List.exists_cons_of_ne_nil htoken
        have hc : isBlank c = true := hblanks c (by simp [hrest])
        have hfalse := isIdentifierChar_eq_false_of_isBlank hc
        rw [hname c (by simp)] at hfalse
        exact absurd hfalse (by simp)
    · rintro ⟨before, tail, htext, hstarts⟩
      refine ⟨before, _, Or.inl ⟨tail, rfl, htext⟩, ?_⟩
      rwa [startsAssignment_append_blank hblanks]

theorem containsToken_trim {text : Text} :
    containsToken text.trim token = true ↔ containsToken text token = true := by
  obtain ⟨left, right, hleft, hright, htext⟩ := Text.exists_blank_append_trim text
  conv_rhs => rw [htext, containsToken_append_blank htoken hname hright,
    containsToken_blank_append htoken hname hleft]

theorem assignsToken_trim {text : Text} :
    assignsToken text.trim token = true ↔ assignsToken text token = true := by
  obtain ⟨left, right, hleft, hright, htext⟩ := Text.exists_blank_append_trim text
  conv_rhs => rw [htext, assignsToken_append_blank htoken hname hright,
    assignsToken_blank_append htoken hname hleft]

end Blanks

/-! ## Written assignments -/

/-- The statement that is written for a field is recognised as an assignment to it. -/
theorem assignsToken_assignment {indent field parameter : Text} (hfield : isIdentifier field = true)
    (hindent : ∀ c ∈ indent, isBlank c = true) :
    assignsToken (indent ++ assignment field parameter) field = true := by
  have hname : ∀ c ∈ field, isIdentifierChar c = true := fun c => isIdentifierChar_of_mem hfield
  have htoken := ne_nil_of_isIdentifier hfield
  rw [assignsToken_blank_append htoken hname hindent, assignsToken_iff htoken hname]
  have hstarts : startsAssignment (" = ".toList ++ parameter ++ [';']) = true := by
    simp [startsAssignment, Text.trimStart, isBlank]
  by_cases hsame : field = parameter
  · refine ⟨"this.".toList, " = ".toList ++ parameter ++ [';'], ⟨?_, ?_, ?_⟩, hstarts⟩
    · simp [assignment, hsame]
    · decide
    · simpa using (by decide : isIdentifierChar ' ' = false)
  · refine ⟨[], " = ".toList ++ parameter ++ [';'], ⟨?_, rfl, ?_⟩, hstarts⟩
    · simp [assignment, hsame]
    · simpa using (by decide : isIdentifierChar ' ' = false)

theorem trimEnd_append_identifier {start name : Text} (h : isIdentifier name = true) :
    Text.trimEnd (start ++ name) = start ++ name := by
  obtain ⟨front, last, rfl⟩ : ∃ front last, name = front ++ [last] :=
    ⟨_, _, (List.dropLast_concat_getLast (ne_nil_of_isIdentifier h)).symm⟩
  rw [← List.append_assoc]
  exact Text.trimEnd_append_singleton
    (isBlank_eq_false_of_isPlain (isPlain_of_mem_identifier h (by simp)))

/-- An assignment begins with an equals sign, perhaps behind blanks. -/
theorem exists_of_startsAssignment {rest : Text} (h : startsAssignment rest = true) :
    ∃ blanks more, (∀ c ∈ blanks, isBlank c = true) ∧ rest = blanks ++ '=' :: more := by
  obtain ⟨blanks, hblanks, heq⟩ := Text.exists_blank_append_trimStart rest
  rw [startsAssignment] at h
  split at h
  · next next more hstart => exact ⟨blanks, next :: more, hblanks, hstart ▸ heq⟩
  · next hstart => exact ⟨blanks, [], hblanks, hstart ▸ heq⟩
  · exact absurd h Bool.false_ne_true

/-- What follows an occurrence of a token is the end of the line, whatever the token is made of. -/
theorem exists_of_mem_tokenEnds {line token after : Text} (h : after ∈ tokenEnds line token) :
    ∃ before, line = before ++ token ++ after := by
  rw [tokenEnds] at h
  split at h
  · simp at h
  · obtain ⟨⟨border, found⟩, hmem, rfl⟩ := List.mem_map.mp h
    obtain ⟨before, hline, -⟩ := exists_of_mem_occurrences (List.mem_of_mem_filter hmem)
    exact ⟨before, hline⟩

/-- A line without an equals sign assigns nothing. -/
theorem assignsToken_eq_false {line token : Text} (h : '=' ∉ line) :
    assignsToken line token = false := by
  rw [← Bool.not_eq_true, assignsToken, List.any_eq_true]
  rintro ⟨after, hafter, hstarts⟩
  obtain ⟨before, rfl⟩ := exists_of_mem_tokenEnds hafter
  obtain ⟨blanks, more, -, rfl⟩ := exists_of_startsAssignment hstarts
  exact h (by simp)

/-- Where field and parameter differ, the statement assigns to the field and to nothing else. -/
theorem assignsToken_assignment_iff {indent field parameter token : Text}
    (hfield : isIdentifier field = true) (hparameter : ∀ c ∈ parameter, isPlain c = true)
    (hne : field ≠ parameter) (htoken : isIdentifier token = true)
    (hindent : ∀ c ∈ indent, isBlank c = true) :
    assignsToken (indent ++ assignment field parameter) token = true ↔ token = field := by
  have hname : ∀ c ∈ token, isIdentifierChar c = true := fun c => isIdentifierChar_of_mem htoken
  constructor
  · intro h
    rw [assignsToken_blank_append (ne_nil_of_isIdentifier htoken) hname hindent,
      assignsToken_iff (ne_nil_of_isIdentifier htoken) hname] at h
    obtain ⟨before, after, ⟨hline, halone⟩, hstarts⟩ := h
    obtain ⟨blanks, more, hblanks, rfl⟩ := exists_of_startsAssignment hstarts
    have hplain : ∀ c ∈ field, isPlain c = true := fun c => isPlain_of_mem_identifier hfield
    have hequals : ∀ text : Text, (∀ c ∈ text, isPlain c = true) → '=' ∉ text :=
      fun text htext hc =>
      ne_of_isPlain (htext _ hc) (by decide) rfl
    have hcut : assignment field parameter =
        (field ++ [' ']) ++ '=' :: (' ' :: (parameter ++ [';'])) := by
      simp [assignment, hne]
    rw [hcut, ← List.append_assoc] at hline
    -- the line has one equals sign, and what comes before it is the field and a blank
    obtain ⟨hfront, -, -⟩ := (List.append_cons_inj_of_notMem
      (by simp [hequals _ hplain]) (by simp [hequals _ hparameter])).mp hline
    have hbefore : field = before ++ token := by
      have htrim := congrArg Text.trimEnd hfront
      rwa [Text.trimEnd_append_blank (by decide),
        Text.trimEnd_append_blank hblanks,
        trimEnd_append_identifier htoken, ← List.nil_append field,
        trimEnd_append_identifier hfield, List.nil_append] at htrim
    cases hlast : before.getLast? with
    | none => simpa [List.getLast?_eq_none_iff.mp hlast] using hbefore.symm
    | some c =>
      have hc : c ∈ field := by
        rw [hbefore]
        exact List.mem_append_left _ (List.mem_of_getLast? hlast)
      have hborder := halone.1
      rw [hlast, Option.any_some, isIdentifierChar_of_mem hfield hc] at hborder
      exact absurd hborder.symm Bool.false_ne_true
  · rintro rfl
    exact assignsToken_assignment hfield hindent

end FieldInjection
