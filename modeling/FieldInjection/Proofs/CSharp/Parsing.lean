import FieldInjection.CSharp.Parser

/-!
# Taking parsers apart

What a parser makes of some tokens follows from what its parts make of them, one equation for each
way to put parsers together.  Most alternatives of a rule fail at the first token, so it is enough
to know for each rule the tokens with which it may begin.

## Main Definitions

* `Heads`: the tokens with which something may begin.
* `BeginsWith`: a parser fails unless the first token is one of some heads.
* `Repeats`: a parser succeeds some times in a row, and then fails.

## Main Statements

* `BeginsWith.reject`: a parser fails at a token that is none of its heads.
* `many_of_repeats`: the repetitions that `many` takes.
* `sepBy1_of_items`: a list with commas is taken item by item.
-/

namespace FieldInjection.CSharp.Parser

variable {α β : Type} {parser : Parser α} {tokens rest : List Token}

/-! ## Parts of parsers -/

/-- The second parser goes on where the first one stopped. -/
theorem bind_of_some {next : α → Parser β} {value : α} (h : parser tokens = some (value, rest)) :
    (parser >>= next) tokens = next value rest := by
  show (parser tokens).bind _ = _
  rw [h]
  rfl

/-- A sequence takes nothing if its first part takes nothing. -/
theorem bind_of_none {next : α → Parser β} (h : parser tokens = none) :
    (parser >>= next) tokens = none := by
  show (parser tokens).bind _ = _
  rw [h]
  rfl

/-- The first alternative is the answer if it takes something. -/
theorem orElse_of_some {other : Parser α} {result : α × List Token}
    (h : parser tokens = some result) :
    (parser <|> other) tokens = some result := by
  show (parser tokens).orElse _ = _
  rw [h]
  rfl

/-- The second alternative is tried only if the first one takes nothing. -/
theorem orElse_of_none {other : Parser α} (h : parser tokens = none) :
    (parser <|> other) tokens = other tokens := by
  show (parser tokens).orElse _ = _
  rw [h]
  rfl

/-- In a list of alternatives the first one is preferred. -/
theorem firstOf_of_some {others : List (Parser α)} {result : α × List Token}
    (h : parser tokens = some result) : firstOf (parser :: others) tokens = some result :=
  orElse_of_some h

/-- An alternative that takes nothing is passed over. -/
theorem firstOf_of_none {others : List (Parser α)} (h : parser tokens = none) :
    firstOf (parser :: others) tokens = firstOf others tokens :=
  orElse_of_none h

theorem firstOf_singleton : firstOf [parser] tokens = parser tokens := by
  cases h : parser tokens with
  | none => exact firstOf_of_none h
  | some result => exact firstOf_of_some h

/-- What may stand in a place is taken if it does. -/
theorem maybe_of_some {value : α} (h : parser tokens = some (value, rest)) :
    maybe parser tokens = some (some value, rest) := by
  rw [maybe, h]

/-- What does not stand in a place is no fault of the place. -/
theorem maybe_of_none (h : parser tokens = none) : maybe parser tokens = some (none, tokens) := by
  rw [maybe, h]

theorem skipOptional_of_some {value : α} (h : parser tokens = some (value, rest)) :
    skipOptional parser tokens = some ((), rest) :=
  bind_of_some (maybe_of_some h)

/-- Nothing is skipped where the parser takes nothing. -/
theorem skipOptional_of_none (h : parser tokens = none) :
    skipOptional parser tokens = some ((), tokens) :=
  bind_of_some (maybe_of_none h)

/-- Looking ahead takes no token. -/
theorem ahead_of_some {result : α × List Token} (h : parser tokens = some result) :
    ahead parser tokens = some ((), tokens) := by
  rw [ahead, h]

/-- Looking ahead fails where the parser would. -/
theorem ahead_of_none (h : parser tokens = none) : ahead parser tokens = none := by
  rw [ahead, h]

/-- The tokens that a parser took are those in front of the ones it left. -/
theorem consumed_of_some {taken : List Token} {value : α}
    (h : parser (taken ++ rest) = some (value, rest)) :
    consumed parser (taken ++ rest) = some (taken, rest) := by
  rw [consumed, h]
  simp

theorem token_of_holds {holds : Token → Bool} {t : Token} (h : holds t = true) :
    token holds (t :: rest) = some (t, rest) :=
  if_pos h

/-! ## Repetition -/

/-- A parser succeeds some times in a row, each time taking at least one token, and then fails. -/
inductive Repeats (parser : Parser α) : List Token → List α → List Token → Prop
  /-- It fails at once. -/
  | done {tokens : List Token} (h : parser tokens = none) : Repeats parser tokens [] tokens
  /-- It succeeds and is tried again. -/
  | step {tokens rest behind : List Token} {value : α} {values : List α}
      (h : parser tokens = some (value, rest)) (hlength : rest.length < tokens.length)
      (hrest : Repeats parser rest values behind) : Repeats parser tokens (value :: values) behind

/-- Every repetition takes a token, so the number of tokens bounds the repetitions. -/
theorem repeated_of_repeats {values : List α} (h : Repeats parser tokens values rest) {bound : Nat}
    (hbound : tokens.length ≤ bound) : repeated parser bound tokens = (values, rest) := by
  induction h generalizing bound with
  | done hnone => cases bound <;> simp [repeated, hnone]
  | step hsome hlength _ ih =>
    obtain ⟨bound, rfl⟩ : ∃ count, bound = count + 1 := ⟨bound - 1, by omega⟩
    rw [repeated, hsome]
    simp [ih (show _ ≤ bound by omega)]

/-- All repetitions are taken. -/
theorem many_of_repeats {values : List α} (h : Repeats parser tokens values rest) :
    many parser tokens = some (values, rest) := by
  rw [many, repeated_of_repeats h (Nat.le_refl _)]

/-- No repetition is taken where the first one fails. -/
theorem many_of_none (h : parser tokens = none) : many parser tokens = some ([], tokens) :=
  many_of_repeats (.done h)

theorem skipMany_of_repeats {values : List α} (h : Repeats parser tokens values rest) :
    skipMany parser tokens = some ((), rest) :=
  bind_of_some (many_of_repeats h)

theorem skipMany_of_none (h : parser tokens = none) : skipMany parser tokens = some ((), tokens) :=
  skipMany_of_repeats (.done h)

/-- Items one after the other are taken one by one, up to where the parser fails.  An item may
depend on what follows it, as long as this can be followed by the next item as well as by the
end. -/
theorem repeats_of_items {ι : Type} {items : List ι} {tokensOf : ι → List Token} {valueOf : ι → α}
    (Follows : List Token → Prop)
    (htaken : ∀ item ∈ items, ∀ behind, Follows behind →
      parser (tokensOf item ++ behind) = some (valueOf item, behind))
    (hfilled : ∀ item ∈ items, tokensOf item ≠ [])
    (hnext : ∀ item ∈ items, ∀ behind, Follows (tokensOf item ++ behind))
    (hrest : Follows rest) (hstop : parser rest = none) :
    Repeats parser (items.flatMap tokensOf ++ rest) (items.map valueOf) rest := by
  induction items with
  | nil => exact .done hstop
  | cons item items ih =>
    have hothers := ih (fun other hother => htaken other (by simp [hother]))
      (fun other hother => hfilled other (by simp [hother]))
      (fun other hother => hnext other (by simp [hother]))
    have hbehind : Follows (items.flatMap tokensOf ++ rest) := by
      cases items with
      | nil => exact hrest
      | cons other items =>
        rw [List.flatMap_cons, List.append_assoc]
        exact hnext other (by simp) _
    have htokens := List.length_pos_iff.mpr (hfilled item (by simp))
    rw [List.flatMap_cons, List.append_assoc, List.map_cons]
    refine .step (htaken item (by simp) _ hbehind) ?_ hothers
    simp only [List.length_append]
    omega

/-- A list with commas is taken item by item.  The first item may be written in its own way. -/
theorem sepBy1_of_items {ι : Type} {front : List Token} {value : α} {others : List ι}
    {tokensOf : ι → List Token} {valueOf : ι → α} {comma : Token} (Follows : List Token → Prop)
    (hcomma : ∀ behind, symbol "," (comma :: behind) = some (comma, behind))
    (hfront : ∀ behind, Follows behind → parser (front ++ behind) = some (value, behind))
    (hothers : ∀ item ∈ others, ∀ behind, Follows behind →
      parser (tokensOf item ++ behind) = some (valueOf item, behind))
    (hnext : ∀ behind, Follows (comma :: behind)) (hrest : Follows rest)
    (hstop : symbol "," rest = none) :
    sepBy1 parser (front ++ (others.flatMap (comma :: tokensOf ·) ++ rest)) =
      some (value :: others.map valueOf, rest) := by
  have hbehind : Follows (others.flatMap (comma :: tokensOf ·) ++ rest) := by
    cases others with
    | nil => exact hrest
    | cons other others => exact hnext _
  have hmany : many (do let _ ← symbol ","; parser) (others.flatMap (comma :: tokensOf ·) ++ rest) =
      some (others.map valueOf, rest) := by
    refine many_of_repeats (repeats_of_items Follows
      (fun item hitem behind hfollows => ?_) (by simp) (fun _ _ _ => hnext _)
        hrest (bind_of_none hstop))
    rw [List.cons_append, bind_of_some (hcomma _)]
    exact hothers item hitem behind hfollows
  rw [sepBy1, bind_of_some (hfront _ hbehind), bind_of_some hmany]
  rfl

/-- A list of one item. -/
theorem sepBy1_of_single {value : α} (h : parser tokens = some (value, rest))
    (hstop : symbol "," rest = none) : sepBy1 parser tokens = some ([value], rest) := by
  rw [sepBy1, bind_of_some h, bind_of_some (many_of_none (bind_of_none hstop))]
  rfl

/-! ## The first token -/

/-- The tokens with which something may begin: some keywords, some operators and delimiters, all
names and keywords, or all tokens of some kinds. -/
structure Heads where
  /-- The keywords. -/
  words : List String
  /-- The operators and delimiters. -/
  symbols : List String
  /-- Whether all names and keywords are among them. -/
  names : Bool
  /-- The kinds of which all tokens are among them. -/
  kinds : List TokenKind

/-- Whether a token is one of the heads. -/
def Heads.admits (heads : Heads) (t : Token) : Bool :=
  (t.kind = .word && heads.words.any fun word => t.lexeme = word.toList) ||
    (t.kind = .symbol && heads.symbols.any fun text => t.lexeme = text.toList) ||
    (heads.names && (t.kind = .word || t.kind = .escapedWord)) || heads.kinds.contains t.kind

/-- Whether some heads are all among others. -/
def Heads.isWithin (heads others : Heads) : Bool :=
  (others.names || heads.words.all others.words.contains) &&
    heads.symbols.all others.symbols.contains && (!heads.names || others.names) &&
    heads.kinds.all others.kinds.contains

/-- What some heads admit is admitted by every larger set of heads. -/
theorem Heads.admits_of_isWithin {heads others : Heads} (h : heads.isWithin others = true)
    {t : Token} (ht : heads.admits t = true) : others.admits t = true := by
  simp only [isWithin, Bool.and_eq_true, Bool.or_eq_true, List.all_eq_true, List.contains_iff_mem,
    Bool.not_eq_true'] at h
  simp only [admits, Bool.or_eq_true, Bool.and_eq_true, decide_eq_true_eq, List.any_eq_true,
    List.contains_iff_mem] at ht ⊢
  obtain ⟨⟨⟨hwords, hsymbols⟩, hnames⟩, hkinds⟩ := h
  rcases ht with
    ((⟨hkind, word, hword, hlexeme⟩ | ⟨hkind, text, htext, hlexeme⟩) | ⟨hall, hkind⟩) | hkind
  · rcases hwords with hall | hwords
    · exact Or.inl (Or.inr ⟨hall, Or.inl hkind⟩)
    · exact Or.inl (Or.inl (Or.inl ⟨hkind, word, hwords word hword, hlexeme⟩))
  · exact Or.inl (Or.inl (Or.inr ⟨hkind, text, hsymbols text htext, hlexeme⟩))
  · refine Or.inl (Or.inr ⟨hnames.resolve_left ?_, hkind⟩)
    simp [hall]
  · exact Or.inr (hkinds _ hkind)

/-- The parser fails unless the first token is one of the heads. -/
def BeginsWith (parser : Parser α) (heads : Heads) : Prop :=
  ∀ tokens, tokens.head?.any heads.admits = false → parser tokens = none

namespace BeginsWith

variable {heads : Heads}

/-- A parser takes nothing in front of a token that its heads do not admit. -/
theorem reject (h : BeginsWith parser heads) {t : Token} (ht : heads.admits t = false) :
    parser (t :: rest) = none :=
  h (t :: rest) ht

/-- The heads may be enlarged. -/
theorem mono {others : Heads} (h : BeginsWith parser heads)
    (hwithin : heads.isWithin others = true) :
    BeginsWith parser others := by
  intro tokens ht
  refine h tokens ?_
  cases hhead : tokens.head? with
  | none => rfl
  | some t =>
    rw [hhead, Option.any_some, ← Bool.not_eq_true] at ht
    rw [Option.any_some, ← Bool.not_eq_true]
    exact mt (Heads.admits_of_isWithin hwithin) ht

/-- One token with a property begins with the heads that admit every such token. -/
theorem of_holds {holds : Token → Bool} (h : ∀ t, holds t = true → heads.admits t = true) :
    BeginsWith (token holds) heads := by
  rintro (_ | ⟨t, rest⟩) ht
  · rfl
  · refine if_neg fun hholds => ?_
    have hnone : heads.admits t = false := ht
    rw [h t hholds] at hnone
    exact Bool.false_ne_true hnone.symm

/-- Every test that only names and keywords pass. -/
theorem name {holds : Token → Bool} (h : heads.names = true)
    (hkind : ∀ t, holds t = true → t.kind = .word ∨ t.kind = .escapedWord) :
    BeginsWith (token holds) heads := by
  refine of_holds fun t ht => ?_
  rcases hkind t ht with hword | hword <;> simp [Heads.admits, h, hword]

/-- A name can be any word that is not reserved, so its heads have all names. -/
theorem identifier (h : heads.names = true) : BeginsWith identifier heads := by
  refine name h fun t ht => ?_
  simp only [isName, Bool.or_eq_true, Bool.and_eq_true, decide_eq_true_eq] at ht
  exact ht.symm.imp_left And.left

/-- One of some keywords begins with these, or with any name where words are names too. -/
theorem keywordOf {words : List String} (h : words ⊆ heads.words ∨ heads.names = true) :
    BeginsWith (keywordOf words) heads := by
  refine of_holds fun t ht => ?_
  simp only [Bool.and_eq_true, decide_eq_true_eq, List.any_eq_true] at ht
  obtain ⟨hkind, word, hword, hlexeme⟩ := ht
  rcases h with hwords | hnames
  · have hany : (heads.words.any fun word => decide (t.lexeme = word.toList)) = true :=
      List.any_eq_true.mpr ⟨word, hwords hword, by simpa using hlexeme⟩
    simp [Heads.admits, hkind, hany]
  · simp [Heads.admits, hkind, hnames]

theorem keyword {word : String} (h : word ∈ heads.words ∨ heads.names = true) :
    BeginsWith (keyword word) heads := by
  refine of_holds fun t ht => ?_
  simp only [Bool.and_eq_true, decide_eq_true_eq] at ht
  rcases h with hword | hnames
  · have hany : (heads.words.any fun word => decide (t.lexeme = word.toList)) = true :=
      List.any_eq_true.mpr ⟨word, hword, by simpa using ht.2⟩
    simp [Heads.admits, ht.1, hany]
  · simp [Heads.admits, ht.1, hnames]

/-- One of some symbols begins with these. -/
theorem symbolOf {texts : List String} (h : texts ⊆ heads.symbols) :
    BeginsWith (symbolOf texts) heads := by
  refine of_holds fun t ht => ?_
  simp only [Bool.and_eq_true, decide_eq_true_eq, List.any_eq_true] at ht
  obtain ⟨hkind, text, htext, hlexeme⟩ := ht
  have hany : (heads.symbols.any fun text => decide (t.lexeme = text.toList)) = true :=
    List.any_eq_true.mpr ⟨text, h htext, by simpa using hlexeme⟩
  simp [Heads.admits, hkind, hany]

theorem symbol {text : String} (h : text ∈ heads.symbols) : BeginsWith (symbol text) heads := by
  refine of_holds fun t ht => ?_
  simp only [Bool.and_eq_true, decide_eq_true_eq] at ht
  have hany : (heads.symbols.any fun text => decide (t.lexeme = text.toList)) = true :=
    List.any_eq_true.mpr ⟨text, h, by simpa using ht.2⟩
  simp [Heads.admits, ht.1, hany]

theorem ofKind {kind : TokenKind} (h : kind ∈ heads.kinds) : BeginsWith (ofKind kind) heads := by
  refine of_holds fun t ht => ?_
  have hkind : t.kind = kind := of_decide_eq_true ht
  simp [Heads.admits, hkind, h]

/-- A sequence begins with what its first part begins with. -/
theorem bind {next : α → Parser β} (h : BeginsWith parser heads) :
    BeginsWith (parser >>= next) heads :=
  fun tokens ht => bind_of_none (h tokens ht)

/-- Behind something that may be left out, the next part may come first. -/
theorem skipOptional {next : Unit → Parser β} (h : BeginsWith parser heads)
    (hnext : BeginsWith (next ()) heads) : BeginsWith (skipOptional parser >>= next) heads :=
  fun tokens ht => (bind_of_some (skipOptional_of_none (h tokens ht))).trans (hnext tokens ht)

/-- If the repeated part may be missing, its heads must hold those of what follows. -/
theorem many {next : List α → Parser β} (h : BeginsWith parser heads)
    (hnext : BeginsWith (next []) heads) : BeginsWith (many parser >>= next) heads :=
  fun tokens ht => (bind_of_some (many_of_none (h tokens ht))).trans (hnext tokens ht)

/-- The same holds where the results of the repetition are dropped. -/
theorem skipMany {next : Unit → Parser β} (h : BeginsWith parser heads)
    (hnext : BeginsWith (next ()) heads) : BeginsWith (skipMany parser >>= next) heads :=
  fun tokens ht => (bind_of_some (skipMany_of_none (h tokens ht))).trans (hnext tokens ht)

/-- A look ahead takes nothing. -/
theorem ahead {next : Unit → Parser β} (h : BeginsWith (next ()) heads) :
    BeginsWith (ahead parser >>= next) heads := by
  intro tokens ht
  cases hparser : parser tokens with
  | none => exact bind_of_none (ahead_of_none hparser)
  | some result => exact (bind_of_some (ahead_of_some hparser)).trans (h tokens ht)

theorem consumed (h : BeginsWith parser heads) : BeginsWith (consumed parser) heads := by
  intro tokens ht
  rw [Parser.consumed, h tokens ht]

/-- Two alternatives begin with what each of them admits. -/
theorem orElse {other : Parser α} (h : BeginsWith parser heads) (hother : BeginsWith other heads) :
    BeginsWith (parser <|> other) heads :=
  fun tokens ht => (orElse_of_none (h tokens ht)).trans (hother tokens ht)

/-- No alternative at all takes nothing, so any heads will do. -/
theorem nil : BeginsWith (firstOf ([] : List (Parser α))) heads :=
  fun _ _ => rfl

/-- Alternatives begin with what each of them admits. -/
theorem cons {others : List (Parser α)} (h : BeginsWith parser heads)
    (hothers : BeginsWith (firstOf others) heads) : BeginsWith (firstOf (parser :: others)) heads :=
  orElse h hothers

end BeginsWith

/-! ## Words and delimiters -/

/-- The token is the given name or keyword. -/
structure IsWord (t : Token) (name : Text) : Prop where
  /-- It is a name or a keyword. -/
  kind : t.kind = .word
  /-- Its text is the given one. -/
  lexeme : t.lexeme = name

/-- The token is the given delimiter. -/
structure IsMark (t : Token) (c : Char) : Prop where
  /-- It is an operator or a delimiter. -/
  kind : t.kind = .symbol
  /-- Its text is the given character. -/
  lexeme : t.lexeme = [c]

/-- A delimiter is the symbol with its character. -/
theorem symbol_of_isMark {t : Token} {c : Char} {text : String} (h : IsMark t c)
    (htext : text.toList = [c]) : symbol text (t :: rest) = some (t, rest) :=
  token_of_holds (by simp [h.kind, h.lexeme, htext])

/-- A word is the keyword with its text. -/
theorem keyword_of_isWord {t : Token} {name : Text} {text : String} (h : IsWord t name)
    (htext : text.toList = name) : keyword text (t :: rest) = some (t, rest) :=
  token_of_holds (by simp [h.kind, h.lexeme, htext])

/-- A word is one of the keywords if its text is among theirs. -/
theorem keywordOf_of_isWord {t : Token} {name : Text} {texts : List String} (h : IsWord t name)
    (htexts : name ∈ texts.map String.toList) : keywordOf texts (t :: rest) = some (t, rest) := by
  obtain ⟨text, htext, rfl⟩ := List.mem_map.mp htexts
  refine token_of_holds ?_
  simp only [h.kind, h.lexeme, Bool.and_eq_true, decide_eq_true_eq, List.any_eq_true, true_and]
  exact ⟨text, htext, rfl⟩

/-- A delimiter is no symbol with another text. -/
theorem symbol_reject_mark {t : Token} {c : Char} {text : String} (h : IsMark t c)
    (htext : text.toList ≠ [c]) : symbol text (t :: rest) = none :=
  if_neg (by simp [h.kind, h.lexeme, htext.symm])

/-- A word is no symbol. -/
theorem symbol_reject_word {t : Token} {name : Text} {text : String} (h : IsWord t name) :
    symbol text (t :: rest) = none :=
  if_neg (by simp [h.kind])

/-- A word is no keyword with another text. -/
theorem keyword_reject_word {t : Token} {name : Text} {text : String} (h : IsWord t name)
    (htext : text.toList ≠ name) : keyword text (t :: rest) = none :=
  if_neg (by simp [h.kind, h.lexeme, htext.symm])

/-- Whether a name or keyword is none of the heads. -/
def Heads.lacksWord (heads : Heads) (name : Text) : Bool :=
  !heads.names && !heads.kinds.contains .word && heads.words.all fun word => word.toList != name

/-- Whether a delimiter is none of the heads. -/
def Heads.lacksMark (heads : Heads) (c : Char) : Bool :=
  !heads.kinds.contains .symbol && heads.symbols.all fun text => text.toList != [c]

/-- A parser takes nothing in front of a word that its heads lack. -/
theorem BeginsWith.reject_word {heads : Heads} (h : BeginsWith parser heads) {t : Token}
    {name : Text} (ht : IsWord t name) (hlacks : heads.lacksWord name = true) :
    parser (t :: rest) = none := by
  simp only [Heads.lacksWord, Bool.and_eq_true, Bool.not_eq_true', List.all_eq_true,
    bne_iff_ne] at hlacks
  obtain ⟨⟨hnames, hkinds⟩, hwords⟩ := hlacks
  have hnone : (heads.words.any fun word => decide (name = word.toList)) = false :=
    List.any_eq_false.mpr fun word hword => by simpa using (hwords word hword).symm
  refine h.reject ?_
  simp only [Heads.admits, ht.kind, ht.lexeme, hnone, hnames, hkinds]
  rfl

/-- A parser takes nothing in front of a delimiter that its heads lack. -/
theorem BeginsWith.reject_mark {heads : Heads} (h : BeginsWith parser heads) {t : Token} {c : Char}
    (ht : IsMark t c) (hlacks : heads.lacksMark c = true) : parser (t :: rest) = none := by
  simp only [Heads.lacksMark, Bool.and_eq_true, Bool.not_eq_true', List.all_eq_true,
    bne_iff_ne] at hlacks
  obtain ⟨hkinds, hsymbols⟩ := hlacks
  have hnone : (heads.symbols.any fun text => decide ([c] = text.toList)) = false :=
    List.any_eq_false.mpr fun text htext => by simpa using (hsymbols text htext).symm
  refine h.reject ?_
  simp only [Heads.admits, ht.kind, ht.lexeme, hnone, hkinds]
  simp

end FieldInjection.CSharp.Parser
