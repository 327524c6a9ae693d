import FieldInjection.Field
import FieldInjection.Proofs.Blocks
import FieldInjection.Proofs.Characters
import FieldInjection.Proofs.Cutting
import FieldInjection.Proofs.Patterns

/-!
# Lines that declare a field

A line declares a field when it can be cut into a beginning, a type and declarators up to the
field's name.  The type that is read off a line is one that appears in such a cut, so it has no
character that a type cannot have; no brace, no parenthesis and no equals sign in particular.

## Main Definitions

* `DeclaresAs`: a line declares a field with a type.
* `FieldReference.IsInjectable`: what is known of a field that was located.

## Main Statements

* `declaredTypeOn?_eq_some`, `isSome_declaredTypeOn?`: the reader answers with such a type, and it
  does whenever there is one.
* `declaredTypeOn?_eq_none`, `declaredTypeOn?_eq_none_of_equals`, `declaredFieldNames_eq_nil`:
  lines that declare nothing.
* `occursIn_wholeWord_iff`: where a whole word occurs.
* `locateField_eq_some_iff`: the first line that declares a field.
* `isInjectable_of_locateField`: a field that was located can be injected.
-/

namespace FieldInjection

open Pattern

/-- A trimmed line can be cut so that it declares `field` with the given type. -/
def DeclaresAs (field trimmed declaredType : Text) : Prop :=
  ∃ skipped start type declarators rest,
    trimmed = skipped ++ (start ++ (type ++ (declarators ++ rest))) ∧
    FieldPattern.start.Matches skipped.getLast? start (type ++ (declarators ++ rest)) ∧
    FieldPattern.declaredType.Matches (start.getLast?.or skipped.getLast?) type
      (declarators ++ rest) ∧
    (FieldPattern.declaratorsUpTo field).Matches
      (type.getLast?.or (start.getLast?.or skipped.getLast?)) declarators rest ∧
    declaredType = type.trim

/-- What lies between two places is what was matched between them. -/
theorem upTo_append {before after : Option Char} (text rest : Text) :
    Place.upTo ⟨before, text ++ rest⟩ ⟨after, rest⟩ = text := by
  simp [Place.upTo]

/-- What has to be on a line before its parts are looked at. -/
def MayDeclare (field trimmed : Text) : Prop :=
  isCommentLine trimmed = false ∧
    (FieldPattern.wholeWord "private".toList).occursIn trimmed = true ∧
    (FieldPattern.wholeWord field).occursIn trimmed = true ∧ (';' ∈ trimmed ∨ '=' ∈ trimmed)

/-- Where a declaration is possible, the type is what the pattern finds. -/
theorem declaredTypeOn?_of_mayDeclare {field trimmed : Text} (h : MayDeclare field trimmed) :
    declaredTypeOn? field trimmed = FieldPattern.start.search
      (fun typeStart => FieldPattern.declaredType.run
        (fun typeEnd => (FieldPattern.declaratorsUpTo field).run
          (fun _ => some (typeStart.upTo typeEnd).trim) typeEnd) typeStart) trimmed := by
  obtain ⟨hcomment, hprivate, hfield, hend⟩ := h
  rw [declaredTypeOn?, if_neg (by simp [hcomment]), hprivate, hfield, if_neg]
  simpa using hend.resolve_left

/-- A type is found only where a declaration is possible. -/
theorem mayDeclare_of_declaredTypeOn? {field trimmed declaredType : Text}
    (h : declaredTypeOn? field trimmed = some declaredType) : MayDeclare field trimmed := by
  rw [declaredTypeOn?] at h
  split at h
  · simp at h
  · next hcomment =>
    split at h
    · simp at h
    · next hguard =>
      simp only [Bool.or_eq_true, Bool.not_eq_true', not_or, Bool.not_eq_false,
        List.contains_iff_mem] at hguard
      exact ⟨by simpa using hcomment, hguard.1.1, hguard.1.2, hguard.2⟩

/-- The type that is read off a line is one with which the line declares the field. -/
theorem declaredTypeOn?_eq_some {field trimmed declaredType : Text}
    (h : declaredTypeOn? field trimmed = some declaredType) :
    DeclaresAs field trimmed declaredType := by
  rw [declaredTypeOn?_of_mayDeclare (mayDeclare_of_declaredTypeOn? h)] at h
  obtain ⟨skipped, start, tail, rfl, hstart, htype⟩ := exists_of_searchFrom_eq_some h
  obtain ⟨type, tail, rfl, htype, hrest⟩ := exists_of_run_eq_some _ htype
  obtain ⟨declarators, rest, rfl, hdeclarators, hresult⟩ := exists_of_run_eq_some _ hrest
  rw [Option.or_none] at hstart htype hdeclarators
  refine ⟨skipped, start, type, declarators, rest, rfl, hstart, htype, hdeclarators, ?_⟩
  rw [upTo_append, Option.some.injEq] at hresult
  exact hresult.symm

/-- A type is read off every line that declares the field. -/
theorem isSome_declaredTypeOn? {field trimmed declaredType : Text}
    (hmay : MayDeclare field trimmed) (h : DeclaresAs field trimmed declaredType) :
    (declaredTypeOn? field trimmed).isSome = true := by
  obtain ⟨skipped, start, type, declarators, rest, rfl, hstart, htype, hdeclarators, -⟩ := h
  rw [declaredTypeOn?_of_mayDeclare hmay]
  refine isSome_searchFrom (by rwa [Option.or_none]) (isSome_run _ (by rwa [Option.or_none]) ?_)
  exact isSome_run _ (by rwa [Option.or_none]) rfl

/-- A line with neither a semicolon nor an equals sign declares no field. -/
theorem declaredTypeOn?_eq_none {field line : Text} (hsemicolon : ';' ∉ line)
    (hequals : '=' ∉ line) :
    declaredTypeOn? field line.trim = none := by
  cases h : declaredTypeOn? field line.trim with
  | none => rfl
  | some declaredType =>
    obtain ⟨-, -, -, hmark | hmark⟩ := mayDeclare_of_declaredTypeOn? h
    · exact absurd (Text.mem_of_mem_trim hmark) hsemicolon
    · exact absurd (Text.mem_of_mem_trim hmark) hequals

/-- In a declaration, a type stands between two blanks, so a line with an equals sign between any
two of its blanks declares no field. -/
theorem declaredTypeOn?_eq_none_of_equals {field line : Text}
    (h : ∀ left first inside second right, line = left ++ first :: (inside ++ second :: right) →
      isBlank first = true → isBlank second = true → '=' ∈ inside) :
    declaredTypeOn? field line.trim = none := by
  cases hdeclared : declaredTypeOn? field line.trim with
  | none => rfl
  | some declaredType =>
    obtain ⟨skipped, start, type, declarators, rest, htrim, hstart, htype, hdeclarators, -⟩ :=
      declaredTypeOn?_eq_some hdeclared
    have hequals : '=' ∉ start ∧ '=' ∉ type :=
      ⟨fun hmem => absurd (hstart.allows hmem) (by decide),
        fun hmem => absurd (htype.allows hmem) (by decide)⟩
    -- the keyword is followed by a blank, and so is the type
    obtain ⟨front, modifiers, rfl, ⟨keyword, gap, rfl, -, hgap⟩, -⟩ := hstart
    obtain ⟨hgapne, hgapblank⟩ := matches_someBlanks.mp hgap
    obtain ⟨first, gap, rfl⟩ := List.exists_cons_of_ne_nil hgapne
    obtain ⟨_, _, rfl, ⟨_, _, rfl, ⟨gap', _, rfl, hgap', -⟩, -⟩, -⟩ := hdeclarators
    obtain ⟨hgapne', hgapblank'⟩ := matches_someBlanks.mp hgap'
    obtain ⟨second, gap', rfl⟩ := List.exists_cons_of_ne_nil hgapne'
    obtain ⟨left, right, -, -, hline⟩ := Text.exists_blank_append_trim line
    rw [htrim] at hline
    have hmem := h (left ++ (skipped ++ keyword)) first (gap ++ modifiers ++ type) second _
      (by rw [hline]; simp only [List.append_assoc, List.cons_append]; rfl)
      (hgapblank first List.mem_cons_self) (hgapblank' second List.mem_cons_self)
    simp only [List.mem_append, List.mem_cons, not_or] at hequals hmem
    tauto

/-! ## Parts of a declaration -/

/-- A whole word occurs if it stands somewhere with no word character beside it. -/
theorem occursIn_wholeWord_iff {word text : Text} (hne : word ≠ [])
    (hword : ∀ c ∈ word, isWord c = true) :
    (FieldPattern.wholeWord word).occursIn text = true ↔
      ∃ left right, text = left ++ (word ++ right) ∧ left.getLast?.any isWord = false ∧
        right.head?.any isWord = false := by
  obtain ⟨first, others, rfl⟩ := List.exists_cons_of_ne_nil hne
  obtain ⟨last, hlast⟩ : ∃ last, (first :: others).getLast? = some last :=
    ⟨_, List.getLast?_eq_getLast_of_ne_nil hne⟩
  have hfirst := hword first List.mem_cons_self
  have hend := hword last (List.mem_of_getLast? hlast)
  rw [occursIn_iff]
  constructor
  · rintro ⟨skipped, _, rest, rfl, _, _, rfl, ⟨_, word, rfl, ⟨rfl, hbefore⟩, hliteral⟩, rfl, hafter⟩
    obtain rfl := matches_literal.mp hliteral
    refine ⟨skipped, rest, by simp, ?_, ?_⟩
    · simpa [Place.isBoundary, hfirst] using hbefore
    · simpa [Place.isBoundary, hlast, hend] using hafter
  · rintro ⟨left, right, rfl, hleft, hright⟩
    refine ⟨left, first :: others, right, rfl, first :: others, [], by simp,
      ⟨[], first :: others, rfl, ⟨rfl, ?_⟩, matches_literal.mpr rfl⟩, rfl, ?_⟩
    · simp [Place.isBoundary, hleft, hfirst]
    · simp [Place.isBoundary, hlast, hend, hright]

/-- A declaration begins with the keyword as a whole word, followed by a blank.  Modifiers, if there
are any, have a blank behind something else than a comma. -/
theorem exists_of_start_matches {before : Option Char} {matched rest : Text}
    (h : FieldPattern.start.Matches before matched rest) :
    before.any isWord = false ∧ ∃ blank blanks modifiers,
      matched = "private".toList ++ blank :: (blanks ++ modifiers) ∧
      isBlank blank = true ∧ (∀ c ∈ blanks, isBlank c = true) ∧
      (modifiers = [] ∨ ∃ keyword blank' more, modifiers = keyword ++ blank' :: more ∧
        isBlank blank' = true ∧ keyword.getLast? ≠ some ',') := by
  obtain ⟨front, modifiers, rfl, ⟨front, blanks, rfl, ⟨_, keyword, rfl, ⟨rfl, hplace⟩, hkeyword⟩,
      hblanks⟩, hmodifiers⟩ := h
  obtain rfl := matches_literal.mp hkeyword
  obtain ⟨hne, hall⟩ := matches_someBlanks.mp hblanks
  obtain ⟨blank, blanks, rfl⟩ := List.exists_cons_of_ne_nil hne
  have hword : isWord 'p' = true := by decide
  refine ⟨by simpa [Place.isBoundary, hword] using hplace, blank, blanks, modifiers, by simp,
    hall blank (by simp), fun c hc => hall c (by simp [hc]), ?_⟩
  cases (hmodifiers : Repeats _ _ modifiers rest) with
  | nil => exact Or.inl rfl
  | @cons _ first others _ _ hturn _ =>
    obtain ⟨keyword, gap, rfl, hmodifier, hgap⟩ := hturn
    obtain ⟨hne', hall'⟩ := matches_someBlanks.mp hgap
    obtain ⟨blank', gap, rfl⟩ := List.exists_cons_of_ne_nil hne'
    refine Or.inr ⟨keyword, blank', gap ++ others, by simp, hall' blank' (by simp), fun hlast => ?_⟩
    exact absurd (hmodifier.mayEndIn hlast) (by decide)

/-- What stands in front of a declarator ends in a blank or a comma. -/
theorem any_getLast?_of_leading {holds : Char → Bool} {before : Option Char} {matched rest : Text}
    (hblank : ∀ c, isBlank c = true → holds c = false) (hcomma : holds ',' = false)
    (h : (someBlanks ++ many FieldPattern.leadingDeclarator).Matches before matched rest) :
    matched.getLast?.any holds = false := by
  cases hlast : matched.getLast? with
  | none => rfl
  | some c =>
    have hend := h.mayEndIn hlast
    simp only [someBlanks, blanks, FieldPattern.leadingDeclarator, char, mayEndIn_append, mayEndIn,
      mayBeEmpty, Bool.true_and, Bool.false_and, Bool.or_false, Bool.or_eq_true, beq_iff_eq] at hend
    rcases hend with (hend | rfl) | hend | hend
    · exact hblank c hend
    · exact hcomma
    · exact hblank c hend
    · exact hblank c hend

/-! ## The first declaration -/

/-- A field is located on the first line that declares it. -/
theorem locateFieldFrom_eq_some_iff {field : Text} {index : Nat} {lines : List Text}
    {reference : FieldReference} :
    locateFieldFrom field index lines = some reference ↔
      ∃ front line after, lines = front ++ line :: after ∧
        (∀ other ∈ front, declaredTypeOn? field other.trim = none) ∧
        declaredTypeOn? field line.trim = some reference.declaredType ∧
        reference.name = field ∧ reference.line = index + front.length := by
  constructor
  · intro h
    induction lines generalizing index with
    | nil => simp [locateFieldFrom] at h
    | cons line lines ih =>
      rw [locateFieldFrom] at h
      split at h
      · next declaredType htype =>
        obtain rfl := Option.some.inj h
        exact ⟨[], line, lines, rfl, by simp, htype, rfl, rfl⟩
      · next hnone =>
        obtain ⟨front, found, after, rfl, hfront, htype, hname, hline⟩ := ih h
        refine ⟨line :: front, found, after, rfl, ?_, htype, hname, ?_⟩
        · simpa [hnone] using hfront
        · rw [hline, List.length_cons]
          omega
  · rintro ⟨front, line, after, rfl, hfront, htype, hname, hline⟩
    induction front generalizing index with
    | nil =>
      rw [List.nil_append, locateFieldFrom, htype]
      simp only [Option.some.injEq]
      cases reference
      simp_all
    | cons other front ih =>
      rw [List.cons_append, locateFieldFrom, hfront other (by simp)]
      refine ih (fun next hnext => hfront next (by simp [hnext])) ?_
      rw [hline, List.length_cons]
      omega

/-- A field is located at the first line that declares it. -/
theorem locateField_eq_some_iff {snapshot : Snapshot} {field : Text} {reference : FieldReference} :
    locateField snapshot field = some reference ↔
      field ≠ [] ∧ ∃ front line after, snapshot.lines = front ++ line :: after ∧
        (∀ other ∈ front, declaredTypeOn? field other.trim = none) ∧
        declaredTypeOn? field line.trim = some reference.declaredType ∧
        reference.name = field ∧ reference.line = front.length := by
  rw [locateField]
  by_cases hempty : field = []
  · simp [hempty]
  · rw [if_neg (by simpa using hempty), locateFieldFrom_eq_some_iff]
    simp [hempty]

/-- No line before a located field declares it. -/
theorem declaredTypeOn?_of_mem_take {snapshot : Snapshot} {name : Text} {field : FieldReference}
    (h : locateField snapshot name = some field) {count : Nat} (hcount : count ≤ field.line)
    {line : Text} (hline : line ∈ snapshot.lines.take count) :
    declaredTypeOn? name line.trim = none := by
  obtain ⟨-, front, _, after, hlines, hfront, -, -, hindex⟩ := locateField_eq_some_iff.mp h
  rw [hlines, List.take_append_of_le_length (by omega)] at hline
  exact hfront line (List.mem_of_mem_take hline)

/-- A line without a semicolon declares no field. -/
theorem declaredFieldNames_eq_nil {line : Text} (h : ';' ∉ line) :
    declaredFieldNames line = [] := by
  have hnone : (declaratorList? line.trim).bind (Text.cutFirst? ';') = none := by
    cases hlist : declaratorList? line.trim with
    | none => rfl
    | some declarators =>
      obtain ⟨skipped, matched, rest, htrim, -, hrest⟩ := exists_of_searchFrom_eq_some hlist
      obtain rfl := Option.some.inj hrest
      refine Text.cutFirst?_eq_none_iff.mpr fun hc => h (Text.mem_of_mem_trim ?_)
      rw [htrim]
      simp [hc]
  rw [declaredFieldNames]
  simp only [hnone]
  split <;> rfl

/-! ## Fields that can be injected -/

/-- What is known of a field that was located under an identifier that gives a parameter. -/
structure FieldReference.IsInjectable (field : FieldReference) : Prop where
  /-- The name is an identifier. -/
  name : isIdentifier field.name = true
  /-- There is a parameter name. -/
  parameter_ne_nil : parameterName field.name ≠ []
  /-- The type has only characters that types can have. -/
  allows_of_mem : ∀ c ∈ field.declaredType, FieldPattern.declaredType.allows c = true

/-- The characters of a located field's name and of its type stand on the line that declares it. -/
theorem exists_line_of_locateField {snapshot : Snapshot} {name : Text} {field : FieldReference}
    (h : locateField snapshot name = some field) :
    ∃ line, snapshot.lines[field.line]? = some line ∧ (∀ c ∈ field.name, c ∈ line) ∧
      ∀ c ∈ field.declaredType, c ∈ line := by
  obtain ⟨-, front, line, after, hlines, -, htype, hname, hline⟩ := locateField_eq_some_iff.mp h
  obtain ⟨skipped, start, type, declarators, rest, htrim, -, -, hdeclarators, heq⟩ :=
    declaredTypeOn?_eq_some htype
  obtain ⟨_, last, rfl, ⟨leading, wanted, rfl, -, hwanted⟩, -⟩ := hdeclarators
  obtain rfl := matches_literal.mp hwanted
  refine ⟨line, by simp [hlines, hline], fun c hc => Text.mem_of_mem_trim ?_,
    fun c hc => Text.mem_of_mem_trim ?_⟩
  · rw [hname] at hc
    rw [htrim]
    simp [hc]
  · rw [heq] at hc
    rw [htrim]
    simp [Text.mem_of_mem_trim hc]

/-- The type of a located field has only characters that types can have. -/
theorem allows_of_mem_declaredType {snapshot : Snapshot} {name : Text} {field : FieldReference}
    (h : locateField snapshot name = some field) {c : Char} (hc : c ∈ field.declaredType) :
    FieldPattern.declaredType.allows c = true := by
  obtain ⟨-, front, line, after, -, -, htype, -, -⟩ := locateField_eq_some_iff.mp h
  obtain ⟨skipped, start, type, declarators, rest, -, -, hmatch, -, heq⟩ :=
    declaredTypeOn?_eq_some htype
  rw [heq] at hc
  exact hmatch.allows (Text.mem_of_mem_trim hc)

theorem name_of_locateField {snapshot : Snapshot} {name : Text} {field : FieldReference}
    (h : locateField snapshot name = some field) : field.name = name := by
  obtain ⟨-, front, line, after, -, -, -, hname, -⟩ := locateField_eq_some_iff.mp h
  exact hname

/-- A located field can be injected if its name is an identifier that leaves a parameter name. -/
theorem isInjectable_of_locateField {snapshot : Snapshot} {name : Text} {field : FieldReference}
    (h : locateField snapshot name = some field) (hname : isIdentifier name = true)
    (hparameter : parameterName name ≠ []) : field.IsInjectable := by
  obtain rfl := name_of_locateField h
  exact ⟨hname, hparameter, fun c hc => allows_of_mem_declaredType h hc⟩

namespace FieldReference.IsInjectable

variable {field : FieldReference} (h : field.IsInjectable)

include h

/-- A located type has only the characters that the pattern allows. -/
theorem not_mem_declaredType {c : Char} (hc : FieldPattern.declaredType.allows c = false) :
    c ∉ field.declaredType := by
  intro hmem
  rw [h.allows_of_mem c hmem] at hc
  exact Bool.false_ne_true hc.symm

theorem equals_not_mem_declaredType : '=' ∉ field.declaredType :=
  h.not_mem_declaredType (by decide)

theorem braceDelta_declaredType : braceDelta field.declaredType = 0 :=
  braceDelta_eq_zero (h.not_mem_declaredType (by decide)) (h.not_mem_declaredType (by decide))

theorem isPlain_of_mem_parameter {c : Char} (hc : c ∈ parameterName field.name) :
    isPlain c = true :=
  isPlain_of_mem_parameterName h.name hc

end FieldReference.IsInjectable

end FieldInjection
