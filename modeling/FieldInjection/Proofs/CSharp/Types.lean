import FieldInjection.Proofs.CSharp.FirstTokens
import FieldInjection.Proofs.CSharp.Scanning
import Mathlib.Tactic.Choose

/-!
# Reading types

A type that is written as C# wants it is a name that is no keyword, or one of the words for
predefined types, with type arguments and array ranks.  Its tokens are taken as a type, up to a
name, a comma or a closing angle behind it.

## Main Definitions

* `isPlainName`: ASCII names that are no keywords.
* `IsCSharpType`: the texts of types.
* `TypeShape`: how a type is cut into tokens, and that these are taken as a type.

## Main Statements

* `IsCSharpType.exists_shape`: every type has such a shape.
-/

namespace FieldInjection.CSharp

open FieldInjection.CSharp.Parser

/-! ## Names and keywords -/

/-- The words that are keywords where a type, a member or a statement may begin. -/
def keywords : List String :=
  reservedWords ++ modifierWords ++ ["await", "from", "global", "record", "yield"]

/-- Whether a text is an ASCII name and no keyword. -/
def isPlainName (name : Text) : Bool :=
  isAsciiName name && keywords.all fun word => word.toList != name

/-- Whether some heads, among the words, are keywords only. -/
def areKeywords (heads : Heads) : Bool :=
  !heads.names && !heads.kinds.contains .word && heads.words.all keywords.contains

/-- No keyword has a capital letter. -/
theorem isPlainName_of_capital {name : Text} (hname : isAsciiName name = true)
    (h : name.any Char.isUpper = true) : isPlainName name = true := by
  have hkeywords : ∀ word ∈ keywords, word.toList.any Char.isUpper = false := by decide +kernel
  rw [isPlainName, hname, Bool.true_and, List.all_eq_true]
  intro word hword
  rw [bne_iff_ne]
  rintro rfl
  exact Bool.false_ne_true ((hkeywords word hword).symm.trans h)

section Name

variable {α : Type} {parser : Parser α} {t : Token} {name : Text} {rest : List Token}
    (ht : IsWord t name)
    (hname : isPlainName name = true)

include hname

theorem isAsciiName_of_isPlainName : isAsciiName name = true :=
  (Bool.and_eq_true _ _ ▸ hname).1

/-- A plain name differs from every keyword. -/
theorem ne_of_isPlainName {word : String} (hword : word ∈ keywords) : word.toList ≠ name := by
  rw [isPlainName, Bool.and_eq_true, List.all_eq_true] at hname
  simpa using hname.2 word hword

theorem any_eq_false_of_isPlainName {words : List String}
    (hwords : ∀ word ∈ words, word ∈ keywords) :
    (words.any fun word => decide (name = word.toList)) = false :=
  List.any_eq_false.mpr fun word hword => by
    simpa using (ne_of_isPlainName hname (hwords word hword)).symm

include ht

/-- A parser that begins with keywords fails at a name that is none. -/
theorem reject_plain {heads : Heads} (h : BeginsWith parser heads)
    (hheads : areKeywords heads = true) :
    parser (t :: rest) = none := by
  simp only [areKeywords, Bool.and_eq_true, Bool.not_eq_true', List.all_eq_true,
    List.contains_iff_mem] at hheads
  obtain ⟨⟨hnames, hkinds⟩, hwords⟩ := hheads
  refine h.reject_word ht ?_
  simp only [Heads.lacksWord, hnames, hkinds, Bool.not_false, Bool.and_self, Bool.true_and,
    List.all_eq_true, bne_iff_ne]
  exact fun word hword => ne_of_isPlainName hname (hwords word hword)

/-- A plain name is taken as a name. -/
theorem identifier_of_plain : identifier (t :: rest) = some (t, rest) := by
  have hnone := any_eq_false_of_isPlainName hname
    (fun word hword => by simp [keywords, hword] : ∀ word ∈ reservedWords, word ∈ keywords)
  exact token_of_holds (by simp [isName, ht.kind, ht.lexeme, hnone])

end Name

/-! ## Lists with commas -/

/-- Items with commas between them, where `lead` stands before the first and `gap` before the
others. -/
def listed {ι : Type} (pieces : Text → ι → List Piece) (lead gap : Text) : List ι → List Piece
  | [] => []
  | first :: others =>
    pieces lead first ++ others.flatMap fun item => Piece.mark [] ',' :: pieces gap item

section Listed

variable {ι : Type} {pieces : Text → ι → List Piece} {lead gap : Text} {items : List ι}

/-- A list of items is their texts, joined with commas. -/
theorem written_listed {textOf : ι → Text}
    (h : ∀ item ∈ items, ∀ leading, written (pieces leading item) = leading ++ textOf item)
    (hne : items ≠ []) :
    written (listed pieces lead gap items) =
      lead ++ (',' :: gap).intercalate (items.map textOf) := by
  cases items with
  | nil => exact absurd rfl hne
  | cons first others =>
    have hothers : written (others.flatMap fun item => Piece.mark [] ',' :: pieces gap item) =
        others.flatMap fun item => ',' :: gap ++ textOf item := by
      rw [written, List.flatMap_assoc]
      refine List.flatMap_congr fun item hitem => ?_
      rw [← written, written_cons, h item (by simp [hitem])]
      rfl
    rw [listed, written_append, h first (by simp), hothers, List.append_assoc, List.map_cons,
      intercalate_eq_flatMap, List.flatMap_map]

/-- Each item has to fit a comma and what follows the list. -/
theorem fit_listed {next : Char}
    (h : ∀ item ∈ items, ∀ leading ∈ [lead, gap], ∀ c ∈ [',', next],
      Fit (pieces leading item) (some c)) :
    Fit (listed pieces lead gap items) (some next) := by
  have hbehind : ∀ others : List ι, ∃ c ∈ [',', next],
      (written (others.flatMap fun item => Piece.mark [] ',' :: pieces gap item)).head?.or
        (some next) =
        some c := by
    rintro (_ | ⟨item, others⟩)
    · exact ⟨next, by simp, rfl⟩
    · exact ⟨',', by simp, rfl⟩
  have hothers : ∀ others : List ι, (∀ item ∈ others, item ∈ items) →
      Fit (others.flatMap fun item => Piece.mark [] ',' :: pieces gap item) (some next) := by
    intro others hmem
    induction others with
    | nil => exact trivial
    | cons item others ih =>
      obtain ⟨c, hc, hnext⟩ := hbehind others
      rw [List.flatMap_cons, List.cons_append]
      refine ⟨fits_mark (by simp) (by decide) (any_beginsLong_eq_false (by decide) _),
        fit_append.mpr ⟨?_, ih fun other hother => hmem other (by simp [hother])⟩⟩
      rw [hnext]
      exact h item (hmem item (by simp)) gap (by simp) c hc
  cases items with
  | nil => exact trivial
  | cons first others =>
    obtain ⟨c, hc, hnext⟩ := hbehind others
    refine fit_append.mpr ⟨?_, hothers others fun item hitem => by simp [hitem]⟩
    rw [hnext]
    exact h first (by simp) lead (by simp) c hc

/-- A list is written on one row if its items are. -/
theorem isLevel_listed
    (h : ∀ item ∈ items, ∀ leading ∈ [lead, gap], IsLevel (pieces leading item)) :
    IsLevel (listed pieces lead gap items) := by
  cases items with
  | nil => simp [listed, IsLevel]
  | cons first others =>
    intro piece hpiece
    rcases List.mem_append.mp hpiece with hpiece | hpiece
    · exact h first (by simp) lead (by simp) piece hpiece
    · obtain ⟨item, hitem, hpiece⟩ := List.mem_flatMap.mp hpiece
      rcases List.mem_cons.mp hpiece with rfl | hpiece
      · rfl
      · exact h item (by simp [hitem]) gap (by simp) piece hpiece

/-- The pieces of an item are among those of the list. -/
theorem exists_length_le_listed {item : ι} (hitem : item ∈ items) :
    ∃ leading, (pieces leading item).length ≤ (listed pieces lead gap items).length := by
  cases items with
  | nil => simp at hitem
  | cons first others =>
    rw [listed, List.length_append]
    rcases List.mem_cons.mp hitem with rfl | hitem
    · exact ⟨lead, by omega⟩
    · have hle := List.Sublist.length_le (List.sublist_flatten_of_mem
        (List.mem_map_of_mem (f := fun item => Piece.mark [] ',' :: pieces gap item) hitem))
      rw [← List.flatMap_def, List.length_cons] at hle
      exact ⟨gap, by omega⟩

end Listed

/-- A list with commas is taken item by item. -/
theorem sepBy1_listed {α ι : Type} {parser : Parser α} {pieces : Text → ι → List Piece}
    {lead gap : Text} {items : List ι} {valueOf : ι → α} {row : Nat} {rest : List Token}
    (Follows : List Token → Prop) (hne : items ≠ [])
    (h : ∀ item ∈ items, ∀ leading ∈ [lead, gap], ∀ behind, Follows behind →
      parser ((pieces leading item).map (·.token row) ++ behind) = some (valueOf item, behind))
    (hnext : ∀ t behind, IsMark t ',' → Follows (t :: behind)) (hrest : Follows rest)
    (hstop : symbol "," rest = none) :
    sepBy1 parser ((listed pieces lead gap items).map (·.token row) ++ rest) =
      some (items.map valueOf, rest) := by
  cases items with
  | nil => exact absurd rfl hne
  | cons first others =>
    have hcomma : IsMark ((Piece.mark [] ',').token row) ',' := ⟨rfl, rfl⟩
    rw [listed, List.map_append, List.map_flatMap, List.append_assoc]
    exact sepBy1_of_items Follows (fun _ => symbol_of_isMark hcomma rfl)
      (h first (by simp) lead (by simp)) (fun item hitem => h item (by simp [hitem]) gap (by simp))
      (fun behind => hnext _ behind hcomma) hrest hstop

/-! ## Tokens of pieces -/

/-- The token of a name is a word. -/
theorem isWord_token {leading name : Text} (h : isAsciiName name = true) (row : Nat) :
    IsWord ((Piece.word leading name).token row) name := by
  rw [Piece.word_eq h]
  exact ⟨rfl, rfl⟩

/-- The token of a delimiter is a mark. -/
theorem isMark_token {leading : Text} {c : Char} (h : isBlank c = false) (row : Nat) :
    IsMark ((Piece.mark leading c).token row) c := by
  rw [Piece.mark_eq h]
  exact ⟨rfl, rfl⟩

/-! ## Array ranks -/

/-- The pieces of an array rank. -/
def rankPieces (commas : Nat) : List Piece :=
  Piece.mark [] '[' :: (List.replicate commas (Piece.mark [] ',') ++ [Piece.mark [] ']'])

/-- The pieces of array ranks make up their text. -/
theorem written_ranks (ranks : List Nat) :
    written (ranks.flatMap rankPieces) = arrayRanks ranks := by
  have hcommas : ∀ count, written (List.replicate count (Piece.mark [] ',')) =
      List.replicate count ',' := by
    intro count
    induction count with
    | zero => rfl
    | succ count ih =>
      rw [List.replicate_succ, written_cons, ih]
      rfl
  rw [written, List.flatMap_assoc, arrayRanks]
  refine List.flatMap_congr fun commas _ => ?_
  rw [← written, rankPieces, written_cons, written_append, hcommas]
  rfl

/-- Array ranks end with a bracket, which fits anything. -/
theorem fit_ranks (ranks : List Nat) (next : Option Char) :
    Fit (ranks.flatMap rankPieces) next := by
  have hall : ∀ pieces : List Piece,
      (∀ piece ∈ pieces, ∃ c ∈ ['[', ',', ']'], piece = Piece.mark [] c) →
      Fit pieces next := by
    intro pieces hpieces
    induction pieces with
    | nil => exact trivial
    | cons piece pieces ih =>
      obtain ⟨c, hc, rfl⟩ := hpieces piece (by simp)
      have hmarks : ∀ mark ∈ ['[', ',', ']'], mark ∈ Piece.marks ∧
          mark ∈ [openBrace, closeBrace, '(', ')', '[', ']', ';', ','] := by decide
      exact ⟨fits_mark (by simp) (hmarks c hc).1 (any_beginsLong_eq_false (hmarks c hc).2 _),
        ih fun other hother => hpieces other (by simp [hother])⟩
  refine hall _ fun piece hpiece => ?_
  obtain ⟨commas, -, hpiece⟩ := List.mem_flatMap.mp hpiece
  simp only [rankPieces, List.mem_cons, List.mem_append, List.mem_replicate, List.not_mem_nil,
    or_false] at hpiece
  rcases hpiece with rfl | ⟨-, rfl⟩ | rfl
  · exact ⟨'[', by simp, rfl⟩
  · exact ⟨',', by simp, rfl⟩
  · exact ⟨']', by simp, rfl⟩

theorem isLevel_ranks (ranks : List Nat) : IsLevel (ranks.flatMap rankPieces) := by
  intro piece hpiece
  obtain ⟨commas, -, hpiece⟩ := List.mem_flatMap.mp hpiece
  simp only [rankPieces, List.mem_cons, List.mem_append, List.mem_replicate, List.not_mem_nil,
    or_false] at hpiece
  rcases hpiece with rfl | ⟨-, rfl⟩ | rfl <;> rfl

/-- The commas of a rank are taken one by one up to its bracket. -/
theorem repeats_commas {comma close : Token} (hcomma : IsMark comma ',') (hclose : IsMark close ']')
    (count : Nat) (rest : List Token) :
    Repeats (symbol ",") (List.replicate count comma ++ close :: rest) (List.replicate count comma)
      (close :: rest) := by
  induction count with
  | zero => exact .done (symbol_reject_mark hclose (by decide))
  | succ count ih => exact .step (symbol_of_isMark hcomma rfl) (by simp) ih

/-- An array rank is taken as a whole. -/
theorem arrayRank_rankPieces (commas row : Nat) (rest : List Token) :
    arrayRank ((rankPieces commas).map (·.token row) ++ rest) = some ((), rest) := by
  have hopen : IsMark ((Piece.mark [] '[').token row) '[' := isMark_token (by decide) row
  have hcomma : IsMark ((Piece.mark [] ',').token row) ',' := isMark_token (by decide) row
  have hclose : IsMark ((Piece.mark [] ']').token row) ']' := isMark_token (by decide) row
  rw [rankPieces, List.map_cons, List.map_append, List.map_replicate, List.map_singleton,
    List.cons_append, List.append_assoc, List.singleton_append, arrayRank,
    bind_of_some (symbol_of_isMark hopen rfl),
    bind_of_some (skipMany_of_repeats (repeats_commas hcomma hclose commas rest)),
    bind_of_some (symbol_of_isMark hclose rfl)]
  rfl

/-! ## Types -/

/-- What may follow a type: a name, a comma or a closing angle. -/
inductive EndsType : List Token → Prop
  | name {t : Token} {text : Text} {rest : List Token} (h : IsWord t text) : EndsType (t :: rest)
  | comma {t : Token} {rest : List Token} (h : IsMark t ',') : EndsType (t :: rest)
  | angle {t : Token} {rest : List Token} (h : IsMark t '>') : EndsType (t :: rest)

/-- Whether none of some heads can follow a type. -/
def lacksEnds (heads : Heads) : Bool :=
  heads.words.isEmpty && !heads.names && heads.kinds.isEmpty && heads.lacksMark ',' &&
    heads.lacksMark '>'

/-- What may follow a type is not taken by a parser that lacks it among its heads. -/
theorem reject_endsType {α : Type} {parser : Parser α} {heads : Heads} {behind : List Token}
    (h : BeginsWith parser heads) (hbehind : EndsType behind) (hheads : lacksEnds heads = true) :
    parser behind = none := by
  simp only [lacksEnds, Bool.and_eq_true, List.isEmpty_iff, Bool.not_eq_true'] at hheads
  obtain ⟨⟨⟨⟨hwords, hnames⟩, hkinds⟩, hcomma⟩, hangle⟩ := hheads
  cases hbehind with
  | name ht => exact h.reject_word ht (by simp [Heads.lacksWord, hwords, hnames, hkinds])
  | comma ht => exact h.reject_mark ht hcomma
  | angle ht => exact h.reject_mark ht hangle

section Rules

variable (rules : Rules) {t : Token} {name : Text} {rest behind : List Token} (ht : IsWord t name)

include ht

/-- The word for a predefined type is a type. -/
theorem simpleType_of_predefined (hname : name ∈ predefinedTypes.map String.toList) :
    simpleType rules (t :: rest) = some ((), rest) :=
  firstOf_of_some (bind_of_some (keywordOf_of_isWord ht hname))

/-- A dotted name of one segment. -/
theorem typeName_of_plain (hname : isPlainName name = true)
    (harguments : skipOptional (typeArguments rules) rest = some ((), behind))
    (hbehind : symbolOf [".", "::"] behind = none) :
    typeName rules (t :: rest) = some ((), behind) := by
  have hsegment : (do let _ ← identifier; skipOptional (typeArguments rules)) (t :: rest) =
      some ((), behind) := by
    rw [bind_of_some (identifier_of_plain ht hname), harguments]
  exact (bind_of_some hsegment).trans (skipMany_of_none (bind_of_none hbehind))

/-- A name alone, in front of a delimiter that does not go on with it. -/
theorem typeName_of_name {next : Token} {c : Char} (hname : isPlainName name = true)
    (hnext : IsMark next c) (hc : c ∈ ['=', '(', openBrace, ';', ']']) :
    typeName rules (t :: next :: rest) = some ((), next :: rest) := by
  have hends : ∀ mark ∈ ['=', '(', openBrace, ';', ']'],
      Heads.lacksMark ⟨[], ["<"], false, []⟩ mark = true ∧
        Heads.lacksMark ⟨[], [".", "::"], false, []⟩ mark = true := by decide
  obtain ⟨hangle, hpoint⟩ := hends c hc
  exact typeName_of_plain rules ht hname
    (skipOptional_of_none ((beginsWith_typeArguments rules).reject_mark hnext hangle))
    (beginsWith_nameSuffix.reject_mark hnext hpoint)

/-- A name that is no keyword is taken as a type with its arguments. -/
theorem simpleType_of_plain (hname : isPlainName name = true)
    (htype : typeName rules (t :: rest) = some ((), behind)) :
    simpleType rules (t :: rest) = some ((), behind) := by
  have hpredefined : BeginsWith (do let _ ← keywordOf predefinedTypes)
      ⟨predefinedTypes, [], false, []⟩ := .bind (.keywordOf (by simp))
  have href : keyword "ref" (t :: rest) = none :=
    keyword_reject_word ht (ne_of_isPlainName hname (by decide))
  have htuple : tupleType rules (t :: rest) = none := bind_of_none (symbol_reject_word ht)
  rw [simpleType, firstOf_of_none (reject_plain ht hname hpredefined (by decide)),
    firstOf_of_none (bind_of_none href), firstOf_of_none htuple, firstOf_of_some htype]

end Rules

/-- A type goes on with its array ranks. -/
theorem typeRule_of_ranks {rules : Rules} {tokens behind : List Token} {ranks : List Nat}
    {row : Nat}
    (h : simpleType rules tokens =
      some ((), (ranks.flatMap rankPieces).map (·.token row) ++ behind))
    (hbehind : EndsType behind) : typeRule rules tokens = some ((), behind) := by
  have hrank : ∀ commas, ∀ rest, firstOf [do let _ ← symbolOf ["?", "*"], arrayRank]
      ((rankPieces commas).map (·.token row) ++ rest) = some ((), rest) := by
    intro commas rest
    have hopen : IsMark ((Piece.mark [] '[').token row) '[' := isMark_token (by decide) row
    have hsymbols : BeginsWith (symbolOf ["?", "*"]) ⟨[], ["?", "*"], false, []⟩ :=
      .symbolOf (by simp)
    have hnone : symbolOf ["?", "*"] ((rankPieces commas).map (·.token row) ++ rest) = none :=
      hsymbols.reject_mark hopen (by decide)
    rw [firstOf_of_none (bind_of_none hnone),
      firstOf_of_some (arrayRank_rankPieces commas row rest)]
  rw [typeRule, bind_of_some h, List.map_flatMap]
  exact skipMany_of_repeats (repeats_of_items (fun _ => True)
    (fun commas _ rest _ => hrank commas rest) (by simp [rankPieces]) (fun _ _ _ => trivial) trivial
    (reject_endsType beginsWith_typeSuffix hbehind (by decide)))

/-- The text of a type: a word for a predefined type, or a name that is no keyword with type
arguments, and array ranks behind it. -/
inductive IsCSharpType : Text → Prop
  | predefined {name : Text} {ranks : List Nat} (hname : name ∈ predefinedTypes.map String.toList) :
      IsCSharpType (name ++ arrayRanks ranks)
  | named {name gap : Text} {arguments : List Text} {ranks : List Nat}
      (hname : isPlainName name = true)
      (hgap : gap ∈ [[], [' ']]) (harguments : ∀ argument ∈ arguments, IsCSharpType argument) :
      IsCSharpType (name ++ (FieldInjection.typeArguments (',' :: gap) arguments ++
        arrayRanks ranks))

/-- A name that is no keyword is a type. -/
theorem isCSharpType_of_isPlainName {name : Text} (h : isPlainName name = true) :
    IsCSharpType name := by
  simpa [FieldInjection.typeArguments, arrayRanks] using
    @IsCSharpType.named name [] [] [] h (by simp) (by simp)

/-- The word for a predefined type is a type. -/
theorem isCSharpType_of_predefined {name : Text} (h : name ∈ predefinedTypes.map String.toList) :
    IsCSharpType name := by
  simpa [arrayRanks] using @IsCSharpType.predefined name [] h

/-- A type is a word and further pieces, and is taken as a type. -/
structure TypeShape (type name : Text) (tail : List Piece) : Prop where
  /-- The pieces make up the type. -/
  text : type = name ++ written tail
  /-- The word may stand where a type begins. -/
  begins : name ∈ predefinedTypes.map String.toList ∨ isPlainName name = true
  /-- The pieces fit what may follow a type. -/
  fit : ∀ leading next, (∀ c ∈ leading, isSeparator c = true) → next ∈ [' ', ',', '>'] →
    Fit (Piece.word leading name :: tail) (some next)
  /-- The type stands on one row. -/
  isLevel : IsLevel tail
  /-- The type is taken where rules may be nested deeply enough. -/
  accepted : ∀ depth leading row behind, tail.length ≤ depth → EndsType behind →
    typeRule (.atDepth depth) ((Piece.word leading name :: tail).map (·.token row) ++ behind) =
      some ((), behind)

/-- What may follow a type does not go on with its name. -/
theorem isNamePart_eq_false_of_mem_ends {c : Char} (hc : c ∈ [' ', ',', '>']) :
    isNamePart c = false := by
  revert c
  decide

/-- The pieces of type arguments. -/
def argumentPieces (pieces : Text → Text → List Piece) (gap : Text) : List Text → List Piece
  | [] => []
  | first :: others =>
    Piece.mark [] '<' :: (listed pieces [] gap (first :: others) ++ [Piece.mark [] '>'])

/-- Either beginning of a type is an ASCII name. -/
theorem isAsciiName_of_begins {name : Text}
    (h : name ∈ predefinedTypes.map String.toList ∨ isPlainName name = true) :
    isAsciiName name = true := by
  rcases h with h | h
  · have hall : ∀ word ∈ predefinedTypes.map String.toList, isAsciiName word = true := by decide
    exact hall name h
  · exact isAsciiName_of_isPlainName h

/-- Neither brackets nor what follows a type go on with a name. -/
theorem reject_ranks {α : Type} {parser : Parser α} {heads : Heads} {behind : List Token}
    (h : BeginsWith parser heads) (hbehind : EndsType behind)
    (hheads : (lacksEnds heads && heads.lacksMark '[') = true) (ranks : List Nat) (row : Nat) :
    parser ((ranks.flatMap rankPieces).map (·.token row) ++ behind) = none := by
  rw [Bool.and_eq_true] at hheads
  cases ranks with
  | nil => exact reject_endsType h hbehind hheads.1
  | cons commas ranks => exact h.reject_mark (isMark_token (by decide) row) hheads.2

section Arguments

variable {pieces : Text → Text → List Piece} {gap : Text} {arguments : List Text}

/-- The pieces of type arguments make up their text. -/
theorem written_argumentPieces
    (h : ∀ argument ∈ arguments, ∀ leading, written (pieces leading argument) =
      leading ++ argument) :
    written (argumentPieces pieces gap arguments) =
      FieldInjection.typeArguments (',' :: gap) arguments := by
  cases arguments with
  | nil => rfl
  | cons first others =>
    rw [argumentPieces, written_cons, written_append, written_listed h (by simp), List.map_id']
    rfl

/-- The arguments fit what may follow them, where each of them begins with a name. -/
theorem fit_argumentPieces {next : Char} (hnext : next ∈ ['[', ' ', ',', '>'])
    (hstart : ∀ argument ∈ arguments, ∃ c, (written (pieces [] argument)).head? = some c ∧
      beginsLong '<' c = false)
    (h : ∀ argument ∈ arguments, ∀ leading ∈ [[], gap], ∀ c ∈ [',', '>'],
      Fit (pieces leading argument) (some c)) :
    Fit (argumentPieces pieces gap arguments) (some next) := by
  cases arguments with
  | nil => exact trivial
  | cons first others =>
    have hclose : ∀ c ∈ ['[', ' ', ',', '>'], (some c).any (beginsLong '>') = false := by decide
    obtain ⟨c, hhead, hc⟩ := hstart first (by simp)
    refine ⟨fits_mark (by simp) (by decide) ?_, fit_append.mpr ⟨fit_listed h, ?_, trivial⟩⟩
    · rw [written_append, listed, written_append, List.head?_append, List.head?_append, hhead]
      exact hc
    · exact fits_mark (by simp) (by decide) (hclose next hnext)

/-- Type arguments are taken where each of them is taken as a type. -/
theorem skipOptional_typeArguments {rules : Rules} {row : Nat} {behind : List Token}
    (h : ∀ argument ∈ arguments, ∀ leading ∈ [[], gap], ∀ rest, EndsType rest →
      rules.type ((pieces leading argument).map (·.token row) ++ rest) = some ((), rest))
    (hbehind : typeArguments rules behind = none) :
    skipOptional (typeArguments rules)
      ((argumentPieces pieces gap arguments).map (·.token row) ++ behind) =
      some ((), behind) := by
  cases arguments with
  | nil => exact skipOptional_of_none hbehind
  | cons first others =>
    have hopen : IsMark ((Piece.mark [] '<').token row) '<' := isMark_token (by decide) row
    have hclose : IsMark ((Piece.mark [] '>').token row) '>' := isMark_token (by decide) row
    have hlist : sepBy1 rules.type ((listed pieces [] gap (first :: others)).map (·.token row) ++
        (Piece.mark [] '>').token row :: behind) =
          some ((first :: others).map fun _ => (), (Piece.mark [] '>').token row :: behind) :=
      sepBy1_listed EndsType (by simp) h (fun _ _ => .comma) (.angle hclose)
        (symbol_reject_mark hclose (by decide))
    have htaken : typeArguments rules
        ((argumentPieces pieces gap (first :: others)).map (·.token row) ++ behind) =
        some ((), behind) := by
      rw [argumentPieces, List.map_cons, List.cons_append, List.map_append, List.append_assoc,
        typeArguments, bind_of_some (symbol_of_isMark hopen rfl)]
      refine (bind_of_some (orElse_of_some (bind_of_some hlist))).trans ?_
      rw [bind_of_some (symbol_of_isMark hclose rfl)]
      rfl
    exact skipOptional_of_some htaken

end Arguments

namespace TypeShape

variable {type name : Text} {tail : List Piece} (h : TypeShape type name tail)

include h

theorem isAsciiName_name : isAsciiName name = true :=
  isAsciiName_of_begins h.begins

/-- The pieces of a type make up its text. -/
theorem written_eq (leading : Text) :
    written (Piece.word leading name :: tail) = leading ++ type := by
  rw [written_cons, Piece.leading_word, Piece.lexeme_word _ h.isAsciiName_name, h.text]

/-- A type does not go on with an angle in front of it. -/
theorem exists_head : ∃ c, (written (Piece.word [] name :: tail)).head? = some c ∧
    beginsLong '<' c = false := by
  obtain ⟨c, rest, hname, -⟩ := isAsciiName_cons h.isAsciiName_name
  refine ⟨c, ?_, ?_⟩
  · rw [h.written_eq, List.nil_append, h.text, hname]
    rfl
  · have hclass := of_mem_asciiName h.isAsciiName_name (fun c => !beginsLong '<' c) (by decide)
      (hname ▸ List.mem_cons_self)
    simpa using hclass

end TypeShape

/-- The pieces of a type, where `shape` says how types are cut. -/
def typePieces (shape : Text → Text × List Piece) (leading type : Text) : List Piece :=
  Piece.word leading (shape type).1 :: (shape type).2

/-- An argument has fewer pieces than the list of arguments, so one level is enough for it. -/
theorem length_lt_argumentPieces {shape : Text → Text × List Piece} {gap : Text}
    {arguments : List Text} {argument : Text} (hmem : argument ∈ arguments) :
    (shape argument).2.length + 1 < (argumentPieces (typePieces shape) gap arguments).length := by
  cases arguments with
  | nil => simp at hmem
  | cons first others =>
    obtain ⟨leading, hle⟩ := @exists_length_le_listed _ (typePieces shape) [] gap _ _ hmem
    rw [typePieces, List.length_cons] at hle
    rw [argumentPieces, List.length_cons, List.length_append]
    omega

section Named

variable {name gap : Text} {arguments : List Text} (ranks : List Nat)
    {shape : Text → Text × List Piece}
    (hname : isPlainName name = true) (hgap : gap ∈ [[], [' ']])
    (h : ∀ argument ∈ arguments, TypeShape argument (shape argument).1 (shape argument).2)

include hgap h

/-- Arguments and ranks fit what may follow a type. -/
theorem fit_named {next : Char} (hnext : next ∈ [' ', ',', '>']) :
    Fit (argumentPieces (typePieces shape) gap arguments ++
      ranks.flatMap rankPieces) (some next) := by
  have hleading : ∀ leading ∈ [[], gap], ∀ c ∈ leading, isSeparator c = true := by
    simpa using isSeparator_of_mem_gap hgap
  have hbehind : ∃ c ∈ ['[', ' ', ',', '>'],
      (written (ranks.flatMap rankPieces)).head?.or (some next) = some c := by
    cases ranks with
    | nil => exact ⟨next, List.mem_cons_of_mem _ hnext, rfl⟩
    | cons => exact ⟨'[', by simp, rfl⟩
  obtain ⟨c, hc, hnext'⟩ := hbehind
  refine fit_append.mpr ⟨?_, fit_ranks ranks _⟩
  rw [hnext']
  refine fit_argumentPieces hc (fun argument hmem => (h argument hmem).exists_head) ?_
  intro argument hmem leading hin mark hmark
  exact (h argument hmem).fit leading mark (hleading leading hin) (List.mem_cons_of_mem _ hmark)

/-- Arguments and ranks are written on one row. -/
theorem isLevel_named :
    IsLevel (argumentPieces (typePieces shape) gap arguments ++ ranks.flatMap rankPieces) := by
  have hleading : ∀ leading ∈ [[], gap], lineFeeds leading = 0 := by
    simpa using lineFeeds_gap hgap
  intro piece hpiece
  rcases List.mem_append.mp hpiece with hpiece | hpiece
  · cases arguments with
    | nil => simp [argumentPieces] at hpiece
    | cons first others =>
      rw [argumentPieces, List.mem_cons, List.mem_append, List.mem_singleton] at hpiece
      rcases hpiece with rfl | hpiece | rfl
      · rfl
      · refine isLevel_listed (fun argument hmem leading hin => ?_) piece hpiece
        refine List.forall_mem_cons.mpr ⟨?_, (h argument hmem).isLevel⟩
        rw [Piece.leading_word, hleading leading hin]
      · rfl
  · exact isLevel_ranks ranks piece hpiece

include hname

/-- A name with arguments that have shapes has one. -/
theorem typeShape_named :
    TypeShape (name ++ (FieldInjection.typeArguments (',' :: gap) arguments ++ arrayRanks ranks))
      name
      (argumentPieces (typePieces shape) gap arguments ++ ranks.flatMap rankPieces) := by
  have hascii := isAsciiName_of_isPlainName hname
  refine ⟨?_, Or.inr hname, ?_, isLevel_named ranks hgap h, ?_⟩
  · have hwritten : written (argumentPieces (typePieces shape) gap arguments) = _ :=
      written_argumentPieces fun argument hmem => (h argument hmem).written_eq
    rw [written_append, written_ranks, hwritten]
  · intro leading next hseparators hnext
    refine ⟨fits_word hseparators hascii ?_, fit_named ranks hgap h hnext⟩
    cases arguments with
    | cons => rfl
    | nil =>
      cases ranks with
      | cons => rfl
      | nil => exact isNamePart_eq_false_of_mem_ends hnext
  · intro depth leading row behind hdepth hbehind
    have ht : IsWord ((Piece.word leading name).token row) name := isWord_token hascii row
    have harguments : typeArguments (.atDepth depth)
        ((ranks.flatMap rankPieces).map (·.token row) ++ behind) = none :=
      reject_ranks (beginsWith_typeArguments _) hbehind (by decide) ranks row
    rw [List.map_cons, List.map_append, List.cons_append, List.append_assoc]
    refine typeRule_of_ranks (simpleType_of_plain _ ht hname (typeName_of_plain _ ht hname
      (skipOptional_typeArguments ?_ harguments)
      (reject_ranks beginsWith_nameSuffix hbehind (by decide) ranks row))) hbehind
    -- the arguments are read one level further down
    intro argument hmem before hin rest hrest
    have hlength := @length_lt_argumentPieces shape gap arguments argument hmem
    rw [List.length_append] at hdepth
    obtain ⟨lower, rfl⟩ : ∃ lower, depth = lower + 1 := ⟨depth - 1, by omega⟩
    exact (h argument hmem).accepted lower before row rest (by omega) hrest

end Named

/-- Every type has a shape. -/
theorem IsCSharpType.exists_shape {type : Text} (h : IsCSharpType type) :
    ∃ name tail, TypeShape type name tail := by
  induction h with
  | @predefined name ranks hname =>
    have hascii := isAsciiName_of_begins (Or.inl hname)
    refine ⟨name, ranks.flatMap rankPieces,
      ⟨by rw [written_ranks], Or.inl hname, ?_, isLevel_ranks ranks, ?_⟩⟩
    · intro leading next hleading hnext
      refine ⟨fits_word hleading hascii ?_, fit_ranks ranks _⟩
      cases ranks with
      | nil => exact isNamePart_eq_false_of_mem_ends hnext
      | cons => rfl
    · intro depth leading row behind _ hbehind
      exact typeRule_of_ranks (simpleType_of_predefined _ (isWord_token hascii row) hname) hbehind
  | @named name gap arguments ranks hname hgap _ ih =>
    have hshapes : ∀ argument, ∃ shape : Text × List Piece,
        argument ∈ arguments → TypeShape argument shape.1 shape.2 := by
      intro argument
      by_cases hmem : argument ∈ arguments
      · obtain ⟨head, tail, hshape⟩ := ih argument hmem
        exact ⟨(head, tail), fun _ => hshape⟩
      · exact ⟨([], []), fun hin => absurd hin hmem⟩
    choose shape hshape using hshapes
    exact ⟨name, _, typeShape_named ranks hname hgap hshape⟩

end FieldInjection.CSharp
