import FieldInjection.CSharp.Locate
import FieldInjection.Proofs.Tokens

/-!
# Tokens as pieces of a line

The lines of a document are searched for a token from left to right, while the base types of a class
in the declaration tree are cut at every character that cannot stand in an identifier.  Both find
the same tokens: a token stands alone in a line exactly where it is one of the pieces.

A piece alone does not tell what comes after it, and an assignment is recognised by that.  So each
piece is taken with the rest of the line behind it (`identifierPlaces`).  These places are all the
cuts of the line at which a run of identifier characters stands alone (`mem_identifierPlaces_iff`),
and both searches are read off them.

## Main Definitions

* `identifierPlaces`: the pieces of a line, each with what follows it.

## Main Statements

* `mem_identifierPlaces_iff`: where the pieces of a line stand.
* `startsAssignment_iff`: what makes the text behind a token an assignment to it.
* `token_search_iff`: the search for a token, an assignment to it and a base type.
-/

namespace FieldInjection

/-- The pieces of a text between the characters that cannot stand in an identifier, each with the
text behind it. -/
def identifierPlaces : Text → List (Text × Text)
  | [] => [([], [])]
  | c :: rest =>
    if isIdentifierChar c then (identifierPlaces rest).modifyHead fun place =>
    (c :: place.1, place.2)
    else ([], c :: rest) :: identifierPlaces rest

/-- The first place is that of the run of identifier characters in front; it may be empty. -/
theorem exists_identifierPlaces_eq (text : Text) :
    ∃ later, identifierPlaces text =
      (text.takeWhile isIdentifierChar, text.dropWhile isIdentifierChar) :: later := by
  induction text with
  | nil => exact ⟨[], rfl⟩
  | cons c rest ih =>
    obtain ⟨later, hplaces⟩ := ih
    rw [identifierPlaces, hplaces]
    cases hc : isIdentifierChar c <;> simp [hc]

/-- Without the texts behind them, the places are the pieces. -/
theorem map_fst_identifierPlaces (text : Text) :
    (identifierPlaces text).map Prod.fst = identifierPieces text := by
  induction text with
  | nil => rfl
  | cons c rest ih =>
    obtain ⟨later, hplaces⟩ := exists_identifierPlaces_eq rest
    rw [identifierPlaces, identifierPieces, List.splitOnP_cons_eq_if_modifyHead, ← identifierPieces,
      ← ih, hplaces]
    cases hc : isIdentifierChar c <;> simp

/-- The place in front is a run of identifier characters with none behind it. -/
theorem takeWhile_dropWhile_eq_iff {text piece after : Text} :
    (text.takeWhile isIdentifierChar, text.dropWhile isIdentifierChar) = (piece, after) ↔
      (∀ c ∈ piece, isIdentifierChar c = true) ∧ text = piece ++ after ∧
        after.head?.any isIdentifierChar = false := by
  constructor
  · intro h
    obtain ⟨rfl, rfl⟩ := Prod.mk.inj h
    refine ⟨fun c hc => List.mem_takeWhile_imp hc, List.takeWhile_append_dropWhile.symm, ?_⟩
    cases hrest : text.dropWhile isIdentifierChar with
    | nil => rfl
    | cons c rest => simpa [hrest] using List.head?_dropWhile_not isIdentifierChar text
  · rintro ⟨hpiece, rfl, hafter⟩
    cases after with
    | nil => simp [List.takeWhile_eq_self_iff.mpr hpiece, List.dropWhile_eq_nil_iff.mpr hpiece]
    | cons c after =>
      have hc : isIdentifierChar c = false := hafter
      rw [List.takeWhile_append_of_pos hpiece, List.dropWhile_append_of_pos hpiece,
        List.takeWhile_cons_of_neg (by simp [hc]), List.dropWhile_cons_of_neg (by simp [hc]),
        List.append_nil]

/-- A place further behind is a run of identifier characters that stands alone. -/
theorem mem_tail_identifierPlaces_iff {text piece after : Text} :
    (piece, after) ∈ (identifierPlaces text).tail ↔
      (∀ c ∈ piece, isIdentifierChar c = true) ∧
        ∃ before, before ≠ [] ∧ text = before ++ piece ++ after ∧ StandsAlone before after := by
  induction text with
  | nil => simp [identifierPlaces]
  | cons c rest ih =>
    obtain ⟨later, hplaces⟩ := exists_identifierPlaces_eq rest
    rw [hplaces, List.tail_cons] at ih
    rw [identifierPlaces, hplaces]
    have hlast : ∀ before : Text, before ≠ [] → (c :: before).getLast? = before.getLast? := by
      intro before hne
      obtain ⟨d, before, rfl⟩ := List.exists_cons_of_ne_nil hne
      exact List.getLast?_cons_cons
    cases hc : isIdentifierChar c with
    | true =>
      rw [if_pos rfl, List.modifyHead_cons, List.tail_cons, ih]
      refine and_congr_right fun _ => ⟨?_, ?_⟩
      · rintro ⟨before, hne, hrest, hbefore, hafter⟩
        exact ⟨c :: before, by simp, by simp [hrest], by rwa [hlast before hne], hafter⟩
      · rintro ⟨before, hne, htext, hbefore, hafter⟩
        obtain ⟨d, before, rfl⟩ := List.exists_cons_of_ne_nil hne
        simp only [List.cons_append, List.cons.injEq] at htext
        obtain ⟨rfl, hrest⟩ := htext
        -- an identifier character in front would be next to the piece
        have hne' : before ≠ [] := by
          rintro rfl
          simp [hc] at hbefore
        exact ⟨before, hne', by simp [hrest], by rwa [hlast before hne'] at hbefore, hafter⟩
    | false =>
      rw [if_neg Bool.false_ne_true, List.tail_cons, List.mem_cons, eq_comm,
        takeWhile_dropWhile_eq_iff, ih, ← and_or_left]
      refine and_congr_right fun _ => ⟨?_, ?_⟩
      · rintro (⟨hrest, hafter⟩ | ⟨before, hne, hrest, hbefore, hafter⟩)
        · exact ⟨[c], by simp, by simp [hrest], by simp [hc], hafter⟩
        · exact ⟨c :: before, by simp, by simp [hrest], by rwa [hlast before hne], hafter⟩
      · rintro ⟨before, hne, htext, hbefore, hafter⟩
        obtain ⟨d, before, rfl⟩ := List.exists_cons_of_ne_nil hne
        simp only [List.cons_append, List.cons.injEq] at htext
        obtain ⟨rfl, hrest⟩ := htext
        by_cases hne' : before = []
        · exact Or.inl ⟨by simpa [hne'] using hrest, hafter⟩
        · exact Or.inr ⟨before, hne', by simp [hrest],
            by rwa [hlast before hne'] at hbefore, hafter⟩

/-- The places of a text are its runs of identifier characters that stand alone, the empty ones
between two other characters included. -/
theorem mem_identifierPlaces_iff {text piece after : Text} :
    (piece, after) ∈ identifierPlaces text ↔
      (∀ c ∈ piece, isIdentifierChar c = true) ∧
        ∃ before, text = before ++ piece ++ after ∧ StandsAlone before after := by
  obtain ⟨later, hplaces⟩ := exists_identifierPlaces_eq text
  have htail := @mem_tail_identifierPlaces_iff text piece after
  rw [hplaces, List.tail_cons] at htail
  rw [hplaces, List.mem_cons, eq_comm, takeWhile_dropWhile_eq_iff, htail, ← and_or_left]
  refine and_congr_right fun _ => ⟨?_, ?_⟩
  · rintro (⟨htext, hafter⟩ | ⟨before, -, htext, hstands⟩)
    · exact ⟨[], by simp [htext], rfl, hafter⟩
    · exact ⟨before, htext, hstands⟩
  · rintro ⟨before, htext, hstands⟩
    by_cases hne : before = []
    · exact Or.inl ⟨by simpa [hne] using htext, hstands.2⟩
    · exact Or.inr ⟨before, hne, htext, hstands⟩

/-! ## Both searches -/

theorem containsToken_iff_mem_identifierPieces {line token : Text} (htoken : token ≠ [])
    (hname : ∀ c ∈ token, isIdentifierChar c = true) :
    containsToken line token = true ↔ token ∈ identifierPieces line := by
  rw [containsToken_iff htoken hname, ← map_fst_identifierPlaces, List.mem_map]
  constructor
  · rintro ⟨before, after, h⟩
    exact ⟨(token, after), mem_identifierPlaces_iff.mpr ⟨hname, before, h⟩, rfl⟩
  · rintro ⟨⟨piece, after⟩, hplace, rfl⟩
    obtain ⟨-, before, h⟩ := mem_identifierPlaces_iff.mp hplace
    exact ⟨before, after, h⟩

/-- An equals sign behind blanks makes an assignment, unless it begins a comparison or an arrow. -/
theorem startsAssignment_iff {rest : Text} :
    startsAssignment rest = true ↔
      ∃ blanks more, (∀ c ∈ blanks, isBlank c = true) ∧ rest = blanks ++ '=' :: more ∧
        more.head? ≠ some '=' ∧ more.head? ≠ some '>' := by
  constructor
  · intro h
    obtain ⟨blanks, more, hblanks, rfl⟩ := exists_of_startsAssignment h
    refine ⟨blanks, more, hblanks, rfl, ?_⟩
    rw [startsAssignment, Text.trimStart_blank_append hblanks,
      Text.trimStart_cons_of_not_blank (by decide)] at h
    cases more with
    | nil => simp
    | cons next more => simpa using h
  · rintro ⟨blanks, more, hblanks, rfl, hequals, hangle⟩
    rw [startsAssignment, Text.trimStart_blank_append hblanks,
      Text.trimStart_cons_of_not_blank (by decide)]
    cases more with
    | nil => rfl
    | cons next more => simpa using And.intro hequals hangle

/-- A token of identifier characters is found in a line exactly when it is one of the pieces between
the other characters, which is what the base types of a class are searched by.  It is assigned to
exactly when such a piece is followed by an equals sign, blanks aside, that begins neither a
comparison nor an arrow. -/
theorem token_search_iff {token : Text} (htoken : token ≠ [])
    (hname : ∀ c ∈ token, isIdentifierChar c = true) :
    (∀ line, containsToken line token = true ↔ token ∈ identifierPieces line) ∧
      (∀ owner : CSharp.Node, owner.derivesFrom token =
        (owner.childrenOf .baseList).any fun list => containsToken list.text token) ∧
      ∀ line, (identifierPlaces line).map Prod.fst = identifierPieces line ∧
        (∀ piece after, (piece, after) ∈ identifierPlaces line →
          ∃ before, line = before ++ piece ++ after ∧ StandsAlone before after) ∧
        (assignsToken line token = true ↔
          ∃ after, (token, after) ∈ identifierPlaces line ∧
            ∃ blanks more, (∀ c ∈ blanks, isBlank c = true) ∧ after = blanks ++ '=' :: more ∧
              more.head? ≠ some '=' ∧ more.head? ≠ some '>') := by
  refine ⟨fun line => containsToken_iff_mem_identifierPieces htoken hname, fun owner => ?_,
    fun line => ⟨map_fst_identifierPlaces line, fun piece after hplace =>
      (mem_identifierPlaces_iff.mp hplace).2, ?_⟩⟩
  · have hsame : ∀ bases : Text, (identifierPieces bases).contains token =
        containsToken bases token := by
      intro bases
      rw [Bool.eq_iff_iff, List.contains_iff_mem,
        containsToken_iff_mem_identifierPieces htoken hname]
    simp only [CSharp.Node.derivesFrom, hsame]
  · simp only [assignsToken_iff htoken hname, mem_identifierPlaces_iff, ← startsAssignment_iff]
    constructor
    · rintro ⟨before, after, h, hstarts⟩
      exact ⟨after, ⟨hname, before, h⟩, hstarts⟩
    · rintro ⟨after, ⟨-, before, h⟩, hstarts⟩
      exact ⟨before, after, h, hstarts⟩

/-- A line in which a token overlaps itself inside a longer name, and is compared before it is
assigned. -/
def overlappingLine : Text := "if (_o_o_ && _o_ == null) this._o_ = o;".toList

theorem overlappingLine_search :
    "_o_".toList ≠ [] ∧ (∀ c ∈ "_o_".toList, isIdentifierChar c = true) ∧
      "_o_".toList ∈ identifierPieces overlappingLine ∧
      ∃ after, ("_o_".toList, after) ∈ identifierPlaces overlappingLine ∧
        ∃ blanks more, (∀ c ∈ blanks, isBlank c = true) ∧ after = blanks ++ '=' :: more ∧
          more.head? ≠ some '=' ∧ more.head? ≠ some '>' := by
  have htoken : "_o_".toList ≠ [] := by decide
  have hname : ∀ c ∈ "_o_".toList, isIdentifierChar c = true := by decide
  obtain ⟨hcontains, -, hassigns⟩ := token_search_iff htoken hname
  exact ⟨htoken, hname, (hcontains overlappingLine).mp (by decide),
    (hassigns overlappingLine).2.2.mp (by decide)⟩

end FieldInjection
