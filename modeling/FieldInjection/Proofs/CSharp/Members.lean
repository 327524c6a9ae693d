import FieldInjection.Proofs.CSharp.Statements

/-!
# Reading members

The members of canonical classes are private fields and private methods.  A method is tried as a
field first, and this fails at the parenthesis behind its name.

## Main Definitions

* `namePieces`, `parameterPieces`: declared names and parameters as they are written.

## Main Statements

* `memberRule_field`: a declaration of private fields is a member.
* `memberRule_method`: a private method is a member.
* `parameterList_listed`: parameters are read one by one.
-/

namespace FieldInjection.CSharp

open FieldInjection.CSharp.Parser

/-- What may follow an entry of a list: a comma or the delimiter behind the list. -/
inductive EndsEntry (closing : Char) : List Token → Prop
  | comma {t : Token} {rest : List Token} (h : IsMark t ',') : EndsEntry closing (t :: rest)
  | close {t : Token} {rest : List Token} (h : IsMark t closing) : EndsEntry closing (t :: rest)

theorem reject_endsEntry {α : Type} {parser : Parser α} {heads : Heads} {closing : Char}
    {behind : List Token} (h : BeginsWith parser heads) (hbehind : EndsEntry closing behind)
    (hheads : (heads.lacksMark ',' && heads.lacksMark closing) = true) : parser behind = none := by
  rw [Bool.and_eq_true] at hheads
  cases hbehind with
  | comma ht => exact h.reject_mark ht hheads.1
  | close ht => exact h.reject_mark ht hheads.2

/-- A word with which a type begins is none of the keywords that begin something else. -/
theorem reject_begins {α : Type} {parser : Parser α} {heads : Heads} {t : Token} {name : Text}
    {rest : List Token} (h : BeginsWith parser heads) (ht : IsWord t name)
    (hname : name ∈ predefinedTypes.map String.toList ∨ isPlainName name = true)
    (hheads : (areKeywords heads && predefinedTypes.all fun word => heads.lacksWord word.toList) =
      true) :
    parser (t :: rest) = none := by
  rw [Bool.and_eq_true, List.all_eq_true] at hheads
  rcases hname with hname | hname
  · obtain ⟨word, hword, rfl⟩ := List.mem_map.mp hname
    exact h.reject_word ht (hheads.2 word hword)
  · exact reject_plain ht hname h hheads.1

/-! ## Declared names -/

/-- A declared name as it is written. -/
def namePieces (leading name : Text) : List Piece :=
  [Piece.word leading name]

theorem memberName_of_plain {t : Token} {name : Text} {rest : List Token} (ht : IsWord t name)
    (hname : isPlainName name = true) : memberName (t :: rest) = some (t, rest) := by
  have hthis := (ne_of_isPlainName hname (by decide : "this" ∈ keywords)).symm
  have hoperator := (ne_of_isPlainName hname (by decide : "operator" ∈ keywords)).symm
  exact token_of_holds (by simpa [ht.kind, ht.lexeme] using And.intro hthis hoperator)

/-- A name without an initializer. -/
theorem variableDeclarator_of_name (rules : Rules) {t : Token} {name : Text} {behind : List Token}
    (ht : IsWord t name) (hname : isPlainName name = true)
    (hbrackets : elementArguments rules behind = none) (hequals : symbol "=" behind = none) :
    variableDeclarator rules memberName (t :: behind) = some (⟨name, t.row⟩, behind) := by
  rw [variableDeclarator, bind_of_some (memberName_of_plain ht hname),
    bind_of_some (skipOptional_of_none hbrackets),
    bind_of_some (skipOptional_of_none (bind_of_none hequals)), ← ht.lexeme]
  rfl

theorem variableDeclarators_listed (rules : Rules) {names : List Text} {row : Nat} {stop : Token}
    {rest : List Token} (hne : names ≠ []) (hnames : ∀ name ∈ names, isPlainName name = true)
    (hstop : IsMark stop ';') :
    variableDeclarators rules memberName ((listed namePieces [' '] [' '] names).map (·.token row) ++
      stop :: rest) = some (names.map (⟨·, row⟩), stop :: rest) := by
  have hequals : BeginsWith (symbol "=") ⟨[], ["="], false, []⟩ := .symbol (by simp)
  refine sepBy1_listed (EndsEntry ';') hne (fun name hmem leading _ behind hbehind => ?_)
    (fun _ _ => .comma) (.close hstop) (symbol_reject_mark hstop (by decide))
  have hplain := hnames name hmem
  exact variableDeclarator_of_name rules (isWord_token (isAsciiName_of_isPlainName hplain) row)
    hplain (reject_endsEntry (beginsWith_elementArguments rules) hbehind (by decide))
    (reject_endsEntry hequals hbehind (by decide))

/-! ## Fields -/

theorem textOf_map_token {type name : Text} {tail : List Piece} (h : TypeShape type name tail)
    (leading : Text) (row : Nat) :
    Token.textOf ((Piece.word leading name :: tail).map (·.token row)) = type := by
  rw [List.map_cons, Token.textOf, List.flatMap_map, h.text]
  exact congrArg (· ++ written tail) (Piece.lexeme_word leading h.isAsciiName_name)

theorem consumedSome_of_some {α : Type} {parser : Parser α} {first : Token}
    {others rest : List Token} {value : α}
    (h : parser (first :: others ++ rest) = some (value, rest)) :
    consumedSome parser (first :: others ++ rest) = some ((first, others), rest) := by
  rw [consumedSome, bind_of_some (consumed_of_some h)]
  rfl

theorem fieldDeclaration_congr {modifiers : List Text} {type other : Text}
    {declarators : List Declarator} (h : type = other) (hfilled : type.isAllBlank = false)
    (hother : other.isAllBlank = false) :
    (⟨modifiers, type, hfilled, declarators⟩ : FieldDeclaration) =
      ⟨modifiers, other, hother, declarators⟩ := by
  subst h
  rfl

/-- A field is read off its type and its names. -/
theorem fieldAfterModifiers_of_declaration {type name : Text} {tail : List Piece}
    (h : TypeShape type name tail) {depth : Nat} (hdepth : tail.length ≤ depth) {names : List Text}
    (hne : names ≠ []) (hnames : ∀ name ∈ names, isPlainName name = true) {stop : Token}
    (hstop : IsMark stop ';') (hfilled : type.isAllBlank = false) (modifiers : List Text)
    (leading : Text) (row : Nat) (rest : List Token) :
    fieldAfterModifiers (.atDepth depth) modifiers
      ((Piece.word leading name :: tail).map (·.token row) ++
      ((listed namePieces [' '] [' '] names).map (·.token row) ++ stop :: rest)) =
      some (.field ⟨modifiers, type, hfilled, names.map (⟨·, row⟩)⟩, rest) := by
  have hends : EndsType ((listed namePieces [' '] [' '] names).map (·.token row) ++
      stop :: rest) := by
    cases names with
    | nil => exact absurd rfl hne
    | cons first others =>
      exact .name (isWord_token (isAsciiName_of_isPlainName (hnames first (by simp))) row)
  have htype := h.accepted depth leading row _ hdepth hends
  rw [List.map_cons] at htype ⊢
  rw [fieldAfterModifiers, bind_of_some (consumedSome_of_some htype)]
  simp only
  rw [bind_of_some (variableDeclarators_listed _ hne hnames hstop),
    bind_of_some (symbol_of_isMark hstop rfl)]
  exact congrArg (fun declaration => some (Declaration.field declaration, rest))
    (fieldDeclaration_congr (textOf_map_token h leading row) _ hfilled)

/-! ## Members in general -/

/-- The tokens with which conditional sections, namespaces and directives begin. -/
def directiveHeads : Heads := ⟨["namespace", "global", "using"], [], false, [.sectionStart]⟩

theorem admits_directiveHeads_mark {t : Token} {c : Char} (ht : IsMark t c) :
    directiveHeads.admits t = false := by
  simp [directiveHeads, Heads.admits, ht.kind]

theorem admits_directiveHeads_private {t : Token} (ht : IsWord t "private".toList) :
    directiveHeads.admits t = false := by
  simp [directiveHeads, Heads.admits, ht.kind, ht.lexeme]

/-- The kinds of members that are tried behind attributes and modifiers. -/
def membersAfterModifiers (rules : Rules) (modifiers : List Text) (attributeRows : List Nat) :
    List (Parser Declaration) :=
  [typeAfterModifiers rules, eventAfterModifiers rules, fieldAfterModifiers rules modifiers,
    methodAfterModifiers rules attributeRows, propertyAfterModifiers rules,
    indexerAfterModifiers rules,
    constructorAfterModifiers rules, operatorAfterModifiers rules]

/-- One modifier in front of a name or a keyword. -/
theorem repeats_modifier {access next : Token} {word name : Text} {rest : List Token}
    (haccess : IsWord access word) (hword : word ∈ modifierWords.map String.toList)
    (hnext : IsWord next name) (hmodifier : modifier (next :: rest) = none) :
    Repeats modifier (access :: next :: rest) [access] (next :: rest) := by
  have hahead : ahead (token followsModifier) (next :: rest) = some ((), next :: rest) :=
    ahead_of_some (token_of_holds (by simp [followsModifier, hnext.kind]))
  have hfirst : modifier (access :: next :: rest) = some (access, next :: rest) := by
    rw [modifier, bind_of_some (keywordOf_of_isWord haccess hword), bind_of_some hahead]
    rfl
  exact .step hfirst (by simp) (.done hmodifier)

/-- Behind its attributes and modifiers, a member is one of some kinds. -/
theorem memberRule_eq {rules : Rules} {first access next : Token} {name : Text}
    {tokens rest : List Token} {rows : List Nat} (hhead : directiveHeads.admits first = false)
    (hattributes : many (attributeList rules) (first :: tokens) =
      some (rows, access :: next :: rest)) (haccess : IsWord access "private".toList)
    (hnext : IsWord next name) (hmodifier : modifier (next :: rest) = none) :
    memberRule rules (first :: tokens) =
      firstOf (membersAfterModifiers rules ["private".toList] rows) (next :: rest) := by
  have hsection : conditionalSection rules.member (first :: tokens) = none :=
    ((beginsWith_conditionalSection rules.member).mono (by decide)).reject hhead
  have hnamespace : namespaceBlock rules (first :: tokens) = none :=
    ((beginsWith_namespaceBlock rules).mono (by decide)).reject hhead
  have husing : usingDirective rules (first :: tokens) = none :=
    ((beginsWith_usingDirective rules).mono (by decide)).reject hhead
  have hmodifiers : [access].map (·.lexeme) = ["private".toList] := by
    rw [List.map_singleton, haccess.lexeme]
  rw [memberRule, firstOf_of_none (bind_of_none hsection), firstOf_of_none hnamespace,
    firstOf_of_none husing, firstOf_singleton, bind_of_some hattributes,
    bind_of_some (many_of_repeats (repeats_modifier haccess (by decide) hnext hmodifier))]
  simp only [hmodifiers]
  rfl

/-- A declaration of private fields is a member. -/
theorem memberRule_field {type name : Text} {tail : List Piece} (h : TypeShape type name tail)
    {depth : Nat} (hdepth : tail.length ≤ depth) {names : List Text} (hne : names ≠ [])
    (hnames : ∀ name ∈ names, isPlainName name = true) {access stop : Token}
    (haccess : IsWord access "private".toList) (hstop : IsMark stop ';')
    (hfilled : type.isAllBlank = false) (leading : Text) (row : Nat) (rest : List Token) :
    memberRule (.atDepth depth) (access :: ((Piece.word leading name :: tail).map (·.token row) ++
      ((listed namePieces [' '] [' '] names).map (·.token row) ++ stop :: rest))) =
      some (.field ⟨["private".toList], type, hfilled, names.map (⟨·, row⟩)⟩, rest) := by
  have hword : IsWord ((Piece.word leading name).token row) name :=
    isWord_token h.isAsciiName_name row
  rw [List.map_cons, List.cons_append, memberRule_eq (admits_directiveHeads_private haccess)
    (many_of_none ((beginsWith_attributeList _).reject_word haccess (by decide))) haccess hword
    (reject_begins beginsWith_modifier hword h.begins (by decide)), membersAfterModifiers,
    firstOf_of_none (reject_begins (beginsWith_typeAfterModifiers _) hword h.begins (by decide)),
    firstOf_of_none (reject_begins (beginsWith_eventAfterModifiers _) hword h.begins (by decide))]
  exact firstOf_of_some (fieldAfterModifiers_of_declaration h hdepth hne hnames hstop hfilled _
    leading row rest)

/-! ## Parameters -/

/-- A parameter as it is written: its type and its name. -/
def parameterPieces (shape : Text → Text × List Piece) (leading : Text) (entry : Text × Text) :
    List Piece :=
  typePieces shape leading entry.1 ++ [Piece.word [' '] entry.2]

/-- A parameter is read off its type and its name. -/
theorem parameter_of_entry {shape : Text → Text × List Piece} {entry : Text × Text}
    (h : TypeShape entry.1 (shape entry.1).1 (shape entry.1).2) {depth : Nat}
    (hdepth : (shape entry.1).2.length ≤ depth) (hname : isAsciiName entry.2 = true)
    (leading : Text) (row : Nat) {behind : List Token} (hbehind : EndsEntry ')' behind) :
    parameter (.atDepth depth) ((parameterPieces shape leading entry).map (·.token row) ++ behind) =
      some (some entry.2, behind) := by
  have hword : IsWord ((Piece.word leading (shape entry.1).1).token row) (shape entry.1).1 :=
    isWord_token h.isAsciiName_name row
  have hlast : IsWord ((Piece.word [' '] entry.2).token row) entry.2 := isWord_token hname row
  have htype := h.accepted depth leading row ((Piece.word [' '] entry.2).token row :: behind) hdepth
    (.name hlast)
  have hany : anyName ((Piece.word [' '] entry.2).token row :: behind) =
      some ((Piece.word [' '] entry.2).token row, behind) :=
    token_of_holds (by simp [hlast.kind])
  have hequals : BeginsWith (symbol "=") ⟨[], ["="], false, []⟩ := .symbol (by simp)
  have hparams : BeginsWith (keyword "params") ⟨["params"], [], false, []⟩ := .keyword (by simp)
  have hmodes : BeginsWith (keywordOf ["this", "ref", "out", "in", "readonly"])
      ⟨["this", "ref", "out", "in", "readonly"], [], false, []⟩ := .keywordOf (by simp)
  rw [parameterPieces, typePieces, List.map_append, List.append_assoc, List.map_singleton,
    List.singleton_append]
  rw [List.map_cons, List.cons_append] at htype ⊢
  have htyped : typedParameter (.atDepth depth) ((Piece.word leading (shape entry.1).1).token row ::
      ((shape entry.1).2.map (·.token row) ++ (Piece.word [' '] entry.2).token row :: behind)) =
        some ((Piece.word [' '] entry.2).token row, behind) := by
    rw [typedParameter, bind_of_some htype, hany]
  rw [parameter, bind_of_some (skipMany_of_none
    (reject_begins (beginsWith_attributeList _) hword h.begins (by decide))),
    firstOf_of_none (bind_of_none (reject_begins hparams hword h.begins (by decide)))]
  refine firstOf_of_some ?_
  rw [bind_of_some (skipMany_of_none (reject_begins hmodes hword h.begins (by decide))),
    bind_of_some htyped, bind_of_some
      (skipOptional_of_none (bind_of_none (reject_endsEntry hequals hbehind (by decide)))),
      hlast.lexeme]
  rfl

section ParameterList

variable {opening closing : Token} (hopening : IsMark opening '(') (hclosing : IsMark closing ')')

include hopening hclosing

/-- Parameters are read one by one. -/
theorem parameterList_listed {shape : Text → Text × List Piece} {entries : List (Text × Text)}
    (hne : entries ≠ [])
    (h : ∀ entry ∈ entries, TypeShape entry.1 (shape entry.1).1 (shape entry.1).2) {depth : Nat}
    (hdepth : ∀ entry ∈ entries, (shape entry.1).2.length ≤ depth)
    (hnames : ∀ entry ∈ entries, isAsciiName entry.2 = true) (row : Nat) (rest : List Token) :
    parameterList (.atDepth depth)
      (opening :: ((listed (parameterPieces shape) [] [' '] entries).map
      (·.token row) ++ closing :: rest)) = some (entries.map (·.2), rest) := by
  have hentries : sepBy (parameter (.atDepth depth))
      ((listed (parameterPieces shape) [] [' '] entries).map (·.token row) ++ closing :: rest) =
      some (entries.map (some ·.2), closing :: rest) :=
    orElse_of_some (sepBy1_listed (EndsEntry ')') hne (fun entry hmem leading _ behind hbehind =>
      parameter_of_entry (h entry hmem) (hdepth entry hmem) (hnames entry hmem) leading row hbehind)
      (fun _ _ => .comma) (.close hclosing) (symbol_reject_mark hclosing (by decide)))
  have henclosed : enclosed "(" (parameter (.atDepth depth)) ")" (opening ::
      ((listed (parameterPieces shape) [] [' '] entries).map (·.token row) ++ closing :: rest)) =
        some (entries.map (some ·.2), rest) := by
    rw [enclosed, bind_of_some (symbol_of_isMark hopening rfl), bind_of_some hentries,
      bind_of_some (symbol_of_isMark hclosing rfl)]
    rfl
  have hall : (entries.map (some ·.2)).filterMap id = entries.map (·.2) := by
    rw [List.filterMap_map]
    exact congrFun List.filterMap_eq_map entries
  rw [parameterList, bind_of_some henclosed, ← hall]
  rfl

/-- There may be no parameters. -/
theorem parameterList_empty (rules : Rules) (rest : List Token) :
    parameterList rules (opening :: closing :: rest) = some ([], rest) := by
  have hnone : sepBy1 (parameter rules) (closing :: rest) = none :=
    bind_of_none ((beginsWith_parameter rules).reject_mark hclosing (by decide))
  have hentries : sepBy (parameter rules) (closing :: rest) = some ([], closing :: rest) :=
    orElse_of_none hnone
  have henclosed : enclosed "(" (parameter rules) ")" (opening :: closing :: rest) =
      some ([], rest) := by
    rw [enclosed, bind_of_some (symbol_of_isMark hopening rfl), bind_of_some hentries,
      bind_of_some (symbol_of_isMark hclosing rfl)]
    rfl
  rw [parameterList, bind_of_some henclosed]
  rfl

end ParameterList

/-! ## Methods -/

/-- The words that say what an attribute is about. -/
def attributeTargets : Heads :=
  ⟨["field", "event", "method", "param", "property", "return", "type"], [], false, []⟩

/-- A list with one attribute. -/
theorem attributeList_of_name (rules : Rules) {start t stop : Token} {name : Text}
    {rest : List Token} (hstart : IsMark start '[') (ht : IsWord t name)
    (hname : isPlainName name = true) (htarget : attributeTargets.lacksWord name = true)
    (hstop : IsMark stop ']') :
    attributeList rules (start :: t :: stop :: rest) = some (start.row, rest) := by
  have htargets : BeginsWith
      (keywordOf ["field", "event", "method", "param", "property", "return", "type"])
        attributeTargets :=
    .keywordOf (Or.inl (List.Subset.refl _))
  have htype : typeName rules (t :: stop :: rest) = some ((), stop :: rest) :=
    typeName_of_name rules ht hname hstop (by decide)
  rw [attributeList, bind_of_some (symbol_of_isMark hstart rfl),
    bind_of_some (skipOptional_of_none (bind_of_none (htargets.reject_word ht htarget)))]
  have harguments : symbol "(" (stop :: rest) = none := symbol_reject_mark hstop (by decide)
  refine (bind_of_some (sepBy1_of_single
    ((bind_of_some htype).trans (skipOptional_of_none (bind_of_none harguments)))
    (symbol_reject_mark hstop (by decide)))).trans ?_
  rw [bind_of_some (skipOptional_of_none (symbol_reject_mark hstop (by decide))),
    bind_of_some (symbol_of_isMark hstop rfl)]
  rfl

/-- There are no constraints in front of a body. -/
theorem constraints_openBrace (rules : Rules) {start : Token} {body : List Token}
    (hstart : IsMark start openBrace) :
    constraints rules (start :: body) = some ((), start :: body) := by
  have hwhere : BeginsWith (keyword "where") ⟨["where"], [], false, []⟩ := .keyword (by simp)
  exact skipMany_of_none (bind_of_none (hwhere.reject_mark hstart (by decide)))

section Method

variable {rules : Rules} {result name opening start : Token} {text : Text}
    {behind body rest : List Token}
    {parameters : List Text} {rows : RowSpan} (hresult : IsWord result "void".toList)
    (hname : IsWord name text)

include hresult hname

theorem typeRule_void : typeRule rules (result :: name :: behind) = some ((), name :: behind) :=
  @typeRule_of_ranks rules _ _ [] 0
    (simpleType_of_predefined rules hresult (by decide)) (.name hname)

variable (htext : isPlainName text = true) (hopening : IsMark opening '(')

include htext hopening

/-- A method is no field: there is a parenthesis behind its name. -/
theorem fieldAfterModifiers_of_method (modifiers : List Text) :
    fieldAfterModifiers rules modifiers (result :: name :: opening :: behind) = none := by
  have htype : consumedSome (typeRule rules) (result :: name :: opening :: behind) =
      some ((result, []), name :: opening :: behind) :=
    @consumedSome_of_some _ _ result [] _ _ (typeRule_void hresult hname)
  have hdeclarator := variableDeclarator_of_name rules hname htext
    ((beginsWith_elementArguments rules).reject_mark hopening (by decide))
    (symbol_reject_mark hopening (by decide) : symbol "=" (opening :: behind) = none)
  rw [fieldAfterModifiers, bind_of_some htype]
  simp only
  rw [variableDeclarators, bind_of_some (sepBy1_of_single hdeclarator
    (symbol_reject_mark hopening (by decide)))]
  exact bind_of_none (symbol_reject_mark hopening (by decide))

/-- A method is read off its result, its name, its parameters and its body. -/
theorem methodAfterModifiers_of_block (attributeRows : List Nat)
    (hparameters : parameterList rules (opening :: behind) = some (parameters, start :: body))
    (hstart : IsMark start openBrace) (hbody : block rules (start :: body) = some (rows, rest)) :
    methodAfterModifiers rules attributeRows (result :: name :: opening :: behind) =
      some (.method ⟨attributeRows, text, name.row, parameters, some rows⟩, rest) := by
  have hqualifier : interfaceQualifier rules (name :: opening :: behind) =
      some ((), name :: opening :: behind) := by
    refine skipMany_of_none ?_
    rw [bind_of_some (identifier_of_plain hname htext), bind_of_some (skipOptional_of_none
      ((beginsWith_typeArguments rules).reject_mark hopening (by decide)))]
    exact beginsWith_nameSuffix.reject_mark hopening (by decide)
  have htail : functionTail rules (start :: body) = some (some rows, rest) :=
    firstOf_of_some (bind_of_some hbody)
  rw [methodAfterModifiers, bind_of_some (typeRule_void hresult hname), bind_of_some hqualifier,
    bind_of_some (memberName_of_plain hname htext), bind_of_some (skipOptional_of_none
      ((beginsWith_typeParameters rules).reject_mark hopening (by decide))),
      bind_of_some hparameters,
    bind_of_some (constraints_openBrace rules hstart), bind_of_some htail, hname.lexeme]
  rfl

/-- A private method is a member. -/
theorem memberRule_method {access first : Token} {tokens : List Token} {attributeRows : List Nat}
    (haccess : IsWord access "private".toList) (hhead : directiveHeads.admits first = false)
    (hattributes : many (attributeList rules) (first :: tokens) =
      some (attributeRows, access :: result :: name :: opening :: behind))
    (hparameters : parameterList rules (opening :: behind) = some (parameters, start :: body))
    (hstart : IsMark start openBrace) (hbody : block rules (start :: body) = some (rows, rest)) :
    memberRule rules (first :: tokens) =
      some (.method ⟨attributeRows, text, name.row, parameters, some rows⟩, rest) := by
  -- types, events and fields are tried before methods, and a field is given up only at the bracket
  rw [memberRule_eq hhead hattributes haccess hresult
      (beginsWith_modifier.reject_word hresult (by decide)), membersAfterModifiers,
    firstOf_of_none ((beginsWith_typeAfterModifiers rules).reject_word hresult (by decide)),
    firstOf_of_none ((beginsWith_eventAfterModifiers rules).reject_word hresult (by decide)),
    firstOf_of_none (fieldAfterModifiers_of_method hresult hname htext hopening _)]
  exact firstOf_of_some (methodAfterModifiers_of_block hresult hname htext hopening attributeRows
    hparameters hstart hbody)

end Method

end FieldInjection.CSharp
