import FieldInjection.CSharp.Scan
import FieldInjection.Proofs.Canonical.Types
import Mathlib.Data.List.TakeDrop

/-!
# Scanning what was written

A text can be written token by token, each with what stands before it.  Scanning gives the tokens
back if every one of them ends where the next begins: a name in front of something that cannot go on
with it, and a delimiter in front of something that makes no longer operator of it.  What stands
before the tokens are blanks and line feeds, so the row of a token is the number of line feeds
before it.

Each piece has the blanks in front of it, not behind it, since this is how scanning goes: blanks are
skipped first, and then one token is taken.

## Main Definitions

* `Piece`: a token before its row is known.
* `written`: the text of some pieces.
* `Fit`: each piece ends where the next begins.
* `tokensFrom`: the tokens of some pieces.

## Main Statements

* `scan_written`: the tokens of a text that was written piece by piece.
-/

namespace FieldInjection.CSharp

/-! ## Pieces -/

/-- A token and the blanks before it, before its row is known. -/
structure Piece where
  /-- The kind of the token. -/
  kind : TokenKind
  /-- What stands between the token before and this one. -/
  leading : Text
  /-- The text of the token. -/
  lexeme : Text
  /-- Blanks alone make no token. -/
  filled : lexeme.isAllBlank = false

/-- A name has a letter or a low line in front, so it is not blank. -/
theorem isAllBlank_eq_false_of_isAsciiName {name : Text} (h : isAsciiName name = true) :
    name.isAllBlank = false := by
  obtain ⟨first, rest, rfl, hstart, -⟩ := isAsciiName_cons h
  simp [Text.isAllBlank, isBlank_eq_false_of_isNameStart hstart]

namespace Piece

/-- A name or a keyword.  What is no name is replaced by one, so that there is a piece in any
case. -/
def word (leading name : Text) : Piece :=
  if h : isAsciiName name = true then
    ⟨.word, leading, name, isAllBlank_eq_false_of_isAsciiName h⟩
  else ⟨.word, leading, ['_'], by decide⟩

/-- A delimiter of one character. -/
def mark (leading : Text) (c : Char) : Piece :=
  if h : isBlank c = false then ⟨.symbol, leading, [c], by simp [Text.isAllBlank, h]⟩
  else ⟨.symbol, leading, [';'], by decide⟩

theorem word_eq {leading name : Text} (h : isAsciiName name = true) :
    word leading name = ⟨.word, leading, name, isAllBlank_eq_false_of_isAsciiName h⟩ :=
  dif_pos h

theorem mark_eq {leading : Text} {c : Char} (h : isBlank c = false) :
    mark leading c = ⟨.symbol, leading, [c], by simp [Text.isAllBlank, h]⟩ :=
  dif_pos h

/-- A name is its own lexeme; the replacement is not used for it. -/
theorem lexeme_word (leading : Text) {name : Text} (h : isAsciiName name = true) :
    (word leading name).lexeme = name := by
  rw [word_eq h]

/-- A delimiter is its own lexeme. -/
theorem lexeme_mark (leading : Text) {c : Char} (h : isBlank c = false) :
    (mark leading c).lexeme = [c] := by
  rw [mark_eq h]

@[simp] theorem leading_word (leading name : Text) : (word leading name).leading = leading := by
  rw [word]
  split <;> rfl

@[simp] theorem leading_mark (leading : Text) (c : Char) : (mark leading c).leading = leading := by
  rw [mark]
  split <;> rfl

/-- The token on a given row. -/
def token (piece : Piece) (row : Nat) : Token :=
  ⟨piece.kind, piece.leading, piece.lexeme, row, piece.filled⟩

/-- The text of the piece. -/
def text (piece : Piece) : Text :=
  piece.leading ++ piece.lexeme

/-- The delimiters that are written here. -/
def marks : List Char :=
  [openBrace, closeBrace, '(', ')', '[', ']', '<', '>', '=', ':', ';', ',']

/-- The piece is taken as a whole in front of the given character. -/
structure Fits (piece : Piece) (next : Option Char) : Prop where
  /-- Only blanks stand before it. -/
  leading : ∀ c ∈ piece.leading, isSeparator c = true
  /-- It is a name that the character does not go on with, or a delimiter that makes no longer
  operator with the character. -/
  ends : (piece.kind = .word ∧ isAsciiName piece.lexeme = true ∧ next.any isNamePart = false) ∨
    (piece.kind = .symbol ∧ ∃ c ∈ marks, piece.lexeme = [c] ∧
      ∀ long ∈ longSymbols, long.take 2 ≠ c :: next.toList)

end Piece

/-- The text of some pieces. -/
def written (pieces : List Piece) : Text :=
  pieces.flatMap Piece.text

@[simp] theorem written_nil : written [] = [] := rfl

@[simp] theorem written_cons (piece : Piece) (pieces : List Piece) :
    written (piece :: pieces) = piece.leading ++ (piece.lexeme ++ written pieces) := by
  simp [written, Piece.text]

/-- Pieces are written one behind the other. -/
@[simp] theorem written_append (left right : List Piece) :
    written (left ++ right) = written left ++ written right :=
  List.flatMap_append

/-- Each piece fits the next one, and the last one fits the given character. -/
def Fit : List Piece → Option Char → Prop
  | [], _ => True
  | piece :: pieces, next => piece.Fits ((written pieces).head?.or next) ∧ Fit pieces next

instance (piece : Piece) (next : Option Char) : Decidable (piece.Fits next) :=
  -- only the delimiters are tried, not all characters
  haveI : Decidable (∃ c ∈ Piece.marks, piece.lexeme = [c] ∧
      ∀ long ∈ longSymbols, long.take 2 ≠ c :: next.toList) := List.decidableBEx _ _
  decidable_of_iff (_ ∧ _) ⟨fun h => ⟨h.1, h.2⟩, fun h => ⟨h.leading, h.ends⟩⟩

instance decidableFit : (pieces : List Piece) → (next : Option Char) → Decidable (Fit pieces next)
  | [], _ => .isTrue trivial
  | _ :: pieces, next =>
    haveI := decidableFit pieces next
    inferInstanceAs (Decidable (_ ∧ _))

/-- Pieces fit when each part does, where the first part has to fit the first character of the
second. -/
theorem fit_append {left right : List Piece} {next : Option Char} :
    Fit (left ++ right) next ↔ Fit left ((written right).head?.or next) ∧ Fit right next := by
  induction left with
  | nil => simp [Fit]
  | cons piece left ih =>
    rw [List.cons_append, Fit, Fit, ih, written_append, List.head?_append,
      Option.or_assoc, and_assoc]

/-- Two characters begin an operator of several characters. -/
def beginsLong (first second : Char) : Bool :=
  longSymbols.any fun long => long.take 2 == [first, second]

/-- A name fits in front of any character that does not go on with a name. -/
theorem fits_word {leading name : Text} {next : Option Char}
    (hleading : ∀ c ∈ leading, isSeparator c = true) (hname : isAsciiName name = true)
    (hnext : next.any isNamePart = false) : (Piece.word leading name).Fits next := by
  rw [Piece.word_eq hname]
  exact ⟨hleading, Or.inl ⟨rfl, hname, hnext⟩⟩

/-- A delimiter fits in front of any character with which it begins no longer operator. -/
theorem fits_mark {leading : Text} {c : Char} {next : Option Char}
    (hleading : ∀ c ∈ leading, isSeparator c = true) (hc : c ∈ Piece.marks)
    (hnext : next.any (beginsLong c) = false) : (Piece.mark leading c).Fits next := by
  have hmarks : ∀ mark ∈ Piece.marks, isBlank mark = false := by decide
  have hsize : ∀ long ∈ longSymbols, 2 ≤ long.length := by decide
  rw [Piece.mark_eq (hmarks c hc)]
  refine ⟨hleading, Or.inr ⟨rfl, c, hc, rfl, fun long hlong heq => ?_⟩⟩
  cases next with
  | none =>
    have hlength := congrArg List.length heq
    have := hsize long hlong
    simp only [List.length_take, Option.toList_none, List.length_singleton] at hlength
    omega
  | some d =>
    have hnone : beginsLong c d = false := hnext
    rw [beginsLong, List.any_eq_false] at hnone
    exact hnone long hlong (by simpa using heq)

/-- Braces, parentheses, brackets, semicolons and commas begin no operator of several characters. -/
theorem any_beginsLong_eq_false {c : Char}
    (hc : c ∈ [openBrace, closeBrace, '(', ')', '[', ']', ';', ',']) (next : Option Char) :
    next.any (beginsLong c) = false := by
  have hfirst : ∀ long ∈ longSymbols,
      ∀ mark ∈ [openBrace, closeBrace, '(', ')', '[', ']', ';', ','], long.head? ≠ some mark := by
    decide
  cases next with
  | none => rfl
  | some d =>
    refine List.any_eq_false.mpr fun long hlong heq => hfirst long hlong c hc ?_
    cases long with
    | nil => simp at heq
    | cons first rest => simp_all

/-- The tokens of some pieces that begin on the given row. -/
def tokensFrom : Nat → List Piece → List Token
  | _, [] => []
  | row, piece :: pieces =>
    piece.token (row + lineFeeds piece.leading) ::
      tokensFrom (row + lineFeeds piece.leading) pieces

/-- How many rows some pieces go down. -/
def rowsOf : List Piece → Nat
  | [] => 0
  | piece :: pieces => lineFeeds piece.leading + rowsOf pieces

/-- The rows of the second part are counted from where the first part ends. -/
theorem tokensFrom_append (row : Nat) (left right : List Piece) :
    tokensFrom row (left ++ right) =
      tokensFrom row left ++ tokensFrom (row + rowsOf left) right := by
  induction left generalizing row with
  | nil => rfl
  | cons piece left ih =>
    rw [List.cons_append, tokensFrom, ih, tokensFrom, List.cons_append, rowsOf, Nat.add_assoc]

/-- Every piece is one token. -/
theorem length_tokensFrom (row : Nat) (pieces : List Piece) :
    (tokensFrom row pieces).length = pieces.length := by
  induction pieces generalizing row with
  | nil => rfl
  | cons piece pieces ih => rw [tokensFrom, List.length_cons, List.length_cons, ih]

@[simp] theorem rowsOf_append (left right : List Piece) :
    rowsOf (left ++ right) = rowsOf left + rowsOf right := by
  induction left with
  | nil => rw [List.nil_append, rowsOf, Nat.zero_add]
  | cons piece left ih => rw [List.cons_append, rowsOf, rowsOf, ih, Nat.add_assoc]

/-- Pieces that all stand on one row. -/
def IsLevel (pieces : List Piece) : Prop :=
  ∀ piece ∈ pieces, lineFeeds piece.leading = 0

theorem isLevel_singleton {piece : Piece} (h : lineFeeds piece.leading = 0) : IsLevel [piece] := by
  simpa [IsLevel] using h

/-- Parts that stand on one row make up pieces that do. -/
theorem IsLevel.append {left right : List Piece} (hleft : IsLevel left) (hright : IsLevel right) :
    IsLevel (left ++ right) :=
  List.forall_mem_append.mpr ⟨hleft, hright⟩

/-- Pieces on one row go down no row. -/
theorem rowsOf_of_isLevel {pieces : List Piece} (h : IsLevel pieces) : rowsOf pieces = 0 := by
  induction pieces with
  | nil => rfl
  | cons piece pieces ih =>
    rw [rowsOf, h piece (by simp), ih fun other hother => h other (by simp [hother])]

/-- Pieces on one row all get the row on which the first of them begins. -/
theorem tokensFrom_of_isLevel {pieces : List Piece} (h : IsLevel pieces) (row : Nat) :
    tokensFrom row pieces = pieces.map (·.token row) := by
  induction pieces with
  | nil => rfl
  | cons piece pieces ih =>
    rw [tokensFrom, h piece (by simp), Nat.add_zero,
      ih fun other hother => h other (by simp [hother])]
    rfl

/-! ## Characters of names and delimiters -/

/-- Only blanks stand between the tokens of one line. -/
theorem isSeparator_of_mem_gap {gap : Text} (h : gap ∈ [[], [' ']]) :
    ∀ c ∈ gap, isSeparator c = true := by
  revert gap
  decide

@[simp] theorem lineFeeds_blank : lineFeeds [' '] = 0 := by decide

@[simp] theorem lineFeeds_nil : lineFeeds [] = 0 := rfl

theorem lineFeeds_gap {gap : Text} (h : gap ∈ [[], [' ']]) : lineFeeds gap = 0 := by
  revert gap
  decide

/-- A piece that fits has a character, so scanning gets on with each piece. -/
theorem lexeme_ne_nil_of_fits {piece : Piece} {next : Option Char} (h : piece.Fits next) :
    piece.lexeme ≠ [] := by
  rcases h.ends with ⟨-, hname, -⟩ | ⟨-, c, -, hlexeme, -⟩
  · obtain ⟨first, rest, hlexeme, -⟩ := isAsciiName_cons hname
    simp [hlexeme]
  · simp [hlexeme]

/-- The characters that a token begins with here. -/
def startsPlainly (c : Char) : Bool :=
  !isSeparator c && c != '/' && c != '#' && c != '$' && c != '@'

/-- A piece that fits begins with a name character or a delimiter. -/
theorem startsPlainly_of_fits {piece : Piece} {next : Option Char} (h : piece.Fits next) :
    ∃ c rest, piece.lexeme = c :: rest ∧ startsPlainly c = true := by
  rcases h.ends with ⟨-, hname, -⟩ | ⟨-, c, hc, hlexeme, -⟩
  · obtain ⟨first, rest, hlexeme, -⟩ := isAsciiName_cons hname
    refine ⟨first, rest, hlexeme, ?_⟩
    exact of_mem_asciiName hname startsPlainly (by decide) (hlexeme ▸ List.mem_cons_self)
  · have hmarks : ∀ mark ∈ Piece.marks, startsPlainly mark = true := by decide
    exact ⟨c, [], hlexeme, hmarks c hc⟩

/-! ## One step of scanning -/

/-- Blanks are taken up to where no blank, comment or directive begins. -/
theorem takeTrivia_append {leading rest : Text} {bound : Nat}
    (hleading : ∀ c ∈ leading, isSeparator c = true) (hbound : leading.length ≤ bound)
    (hrest : takeTriviaPiece rest = some none) :
    takeTrivia bound (leading ++ rest) = some (leading, rest) := by
  induction leading generalizing bound with
  | nil => cases bound <;> simp [takeTrivia, hrest]
  | cons c leading ih =>
    obtain ⟨bound, rfl⟩ : ∃ count, bound = count + 1 := ⟨bound - 1, by simp at hbound; omega⟩
    have hpiece : takeTriviaPiece (c :: (leading ++ rest)) =
        some (some ([c], leading ++ rest)) := by
      simp [takeTriviaPiece, hleading c (by simp)]
    rw [List.cons_append, takeTrivia, hpiece]
    simp [ih (fun d hd => hleading d (by simp [hd])) (by simpa using hbound)]

/-- Neither a name nor a delimiter begins a comment or a directive. -/
theorem takeTriviaPiece_cons {c : Char} {rest : Text} (h : startsPlainly c = true) :
    takeTriviaPiece (c :: rest) = some none := by
  simp only [startsPlainly, Bool.and_eq_true, Bool.not_eq_true', bne_iff_ne] at h
  simp [takeTriviaPiece, Text.startsWith, h, Ne.symm h.1.1.1.2]

/-- Neither a name nor a delimiter begins an interpolated text. -/
theorem takeInterpolationStart?_cons {c : Char} {rest : Text} (h : startsPlainly c = true) :
    takeInterpolationStart? (c :: rest) = none := by
  simp only [startsPlainly, Bool.and_eq_true, Bool.not_eq_true', bne_iff_ne] at h
  simp [takeInterpolationStart?, interpolationMarks, Text.startsWith, Ne.symm h.1.2, Ne.symm h.2]

/-- A name is taken up to the character behind it. -/
theorem takeToken_name {name rest : Text} (hname : isAsciiName name = true)
    (hrest : rest.head?.any isNamePart = false) :
    takeToken (name ++ rest) = some (.word, name, rest) := by
  have hpart : ∀ c ∈ name, isNamePart c = true := fun c hc =>
    of_mem_asciiName hname isNamePart (by decide) hc
  have hspan : (name ++ rest).span isNamePart = (name, rest) := by
    rw [List.span_eq_takeWhile_dropWhile, List.takeWhile_append_of_pos hpart,
      List.dropWhile_append_of_pos hpart]
    cases rest with
    | nil => simp
    | cons c rest =>
      have hc : isNamePart c = false := hrest
      simp [hc]
  obtain ⟨first, others, rfl, hstart, -⟩ := isAsciiName_cons hname
  have hfirst : isNameStart first = true := by
    have hclass := of_mem_asciiName hname (fun c => !FieldInjection.isNameStart c || isNameStart c)
      (by decide +kernel) List.mem_cons_self
    simpa [hstart] using hclass
  rw [List.cons_append] at hspan ⊢
  simp only [takeToken, hfirst, hspan, if_true]

/-- A delimiter is taken alone where it begins no longer operator. -/
theorem takeToken_mark {c : Char} {rest : Text} (hc : c ∈ Piece.marks)
    (hrest : ∀ long ∈ longSymbols, long.take 2 ≠ c :: rest.head?.toList) :
    takeToken (c :: rest) = some (.symbol, [c], rest) := by
  have hclass : ∀ mark ∈ Piece.marks, isNameStart mark = false ∧ mark.isDigit = false ∧ mark ≠ '.' ∧
      mark ≠ Quoted.mark ∧ mark ≠ apostrophe ∧ mark ≠ '@' ∧ mark ≠ '#' ∧ mark ∈ shortSymbols := by
    decide
  obtain ⟨hname, hdigit, hpoint, hquote, hapostrophe, hat, hhash, hshort⟩ := hclass c hc
  -- a longer symbol shows in its first two characters
  have hlong : longSymbols.find? (Text.startsWith (c :: rest)) = none := by
    have hsize : ∀ long ∈ longSymbols, 2 ≤ long.length := by decide
    refine List.find?_eq_none.mpr fun long hmem hstarts => hrest long hmem ?_
    obtain ⟨behind, hlong⟩ := List.isPrefixOf_iff_prefix.mp hstarts
    match long, hsize long hmem, hlong with
    | first :: second :: others, _, hlong =>
      obtain ⟨rfl, rfl⟩ := List.cons.inj hlong
      rfl
  have hquotes : Text.startsWith (c :: rest) [Quoted.mark, Quoted.mark, Quoted.mark] = false := by
    simp [Text.startsWith, List.isPrefixOf, Ne.symm hquote]
  simp [takeToken, hname, hdigit, hpoint, hquotes, hquote, hapostrophe, hat, hhash, takeSymbol?,
    hlong, hshort]

/-- A piece that fits is taken as a step of its own. -/
theorem codeStep_lexeme {piece : Piece} {rest : Text} (h : piece.Fits rest.head?) :
    codeStep [] piece.leading (piece.lexeme ++ rest) =
      some ⟨piece.kind, piece.leading, piece.lexeme, [], rest⟩ := by
  obtain ⟨c, others, hlexeme, hplain⟩ := startsPlainly_of_fits h
  have hstart : takeInterpolationStart? (piece.lexeme ++ rest) = none := by
    rw [hlexeme]
    exact takeInterpolationStart?_cons hplain
  have htoken : takeToken (piece.lexeme ++ rest) = some (piece.kind, piece.lexeme, rest) := by
    rcases h.ends with ⟨hkind, hname, hnext⟩ | ⟨hkind, mark, hmark, hsingle, hnext⟩
    · rw [hkind, takeToken_name hname hnext]
    · rw [hkind, hsingle, List.singleton_append, takeToken_mark hmark hnext]
  simp [codeStep, hstart, htoken]

/-- One piece is taken, and scanning goes on behind it. -/
theorem scanFrom_cons {piece : Piece} {rest : Text} (h : piece.Fits rest.head?) (bound row : Nat) :
    scanFrom (bound + 1) [] row (piece.leading ++ (piece.lexeme ++ rest)) =
      (scanFrom bound [] (piece.token (row + lineFeeds piece.leading)).endRow rest).map
        (piece.token (row + lineFeeds piece.leading) :: ·) := by
  obtain ⟨c, others, hlexeme, hplain⟩ := startsPlainly_of_fits h
  have htrivia : takeTrivia (piece.leading ++ (piece.lexeme ++ rest)).length
      (piece.leading ++ (piece.lexeme ++ rest)) = some (piece.leading, piece.lexeme ++ rest) := by
    refine takeTrivia_append h.leading (by simp) ?_
    rw [hlexeme]
    exact takeTriviaPiece_cons hplain
  have htoken : (⟨piece.kind, piece.leading, piece.lexeme, [], rest⟩ : Step).token? row =
      some (piece.token (row + lineFeeds piece.leading)) := dif_pos piece.filled
  have hstep := codeStep_lexeme h
  obtain ⟨first, tail, hcons⟩ : ∃ first tail, piece.lexeme ++ rest = first :: tail :=
    ⟨c, others ++ rest, by rw [hlexeme, List.cons_append]⟩
  rw [hcons] at htrivia hstep
  simp only [scanFrom, hcons, htrivia, hstep, Option.bind_some, htoken]

/-! ## Scanning all pieces -/

/-- Tokens do not go over the end of a line. -/
theorem lineFeeds_lexeme_of_fits {piece : Piece} {next : Option Char} (h : piece.Fits next) :
    lineFeeds piece.lexeme = 0 := by
  refine List.count_eq_zero.mpr fun hfeed => ?_
  rcases h.ends with ⟨-, hname, -⟩ | ⟨-, c, hc, hlexeme, -⟩
  · exact absurd (isTypeChar_of_mem_asciiName hname hfeed) (by decide)
  · have hmarks : '\n' ∉ Piece.marks := by decide
    rw [hlexeme, List.mem_singleton] at hfeed
    exact hmarks (hfeed ▸ hc)

/-- Scanning a text that was written piece by piece, with blanks at its end. -/
theorem scanFrom_written {pieces : List Piece} {trailing : Text} (h : Fit pieces trailing.head?)
    (htrailing : ∀ c ∈ trailing, isSeparator c = true) {bound : Nat}
    (hbound : pieces.length < bound) (row : Nat) :
    scanFrom bound [] row (written pieces ++ trailing) = some (tokensFrom row pieces) := by
  induction pieces generalizing bound row with
  | nil =>
    obtain ⟨bound, rfl⟩ : ∃ count, bound = count + 1 := ⟨bound - 1, by simp at hbound; omega⟩
    have htrivia := takeTrivia_append htrailing le_rfl (rfl : takeTriviaPiece [] = some none)
    rw [List.append_nil] at htrivia
    simp [scanFrom, htrivia, tokensFrom]
  | cons piece pieces ih =>
    obtain ⟨bound, rfl⟩ : ∃ count, bound = count + 1 := ⟨bound - 1, by simp at hbound; omega⟩
    obtain ⟨hpiece, hpieces⟩ := h
    have hnext : (written pieces ++ trailing).head? = (written pieces).head?.or trailing.head? :=
      List.head?_append
    rw [← hnext] at hpiece
    have hrow : (piece.token (row + lineFeeds piece.leading)).endRow =
        row + lineFeeds piece.leading := by
      simp [Token.endRow, Piece.token, lineFeeds_lexeme_of_fits hpiece]
    rw [written_cons, List.append_assoc, List.append_assoc, scanFrom_cons hpiece, hrow,
      ih hpieces (by simpa using hbound), Option.map_some, tokensFrom]

/-- There are at least as many characters as pieces, so the length of the text bounds the steps.
-/
theorem length_le_written {pieces : List Piece} {next : Option Char} (h : Fit pieces next) :
    pieces.length ≤ (written pieces).length := by
  induction pieces with
  | nil => simp
  | cons piece pieces ih =>
    have hlexeme := List.length_pos_iff.mpr (lexeme_ne_nil_of_fits h.1)
    have hrest := ih h.2
    simp only [written_cons, List.length_append, List.length_cons]
    omega

/-- The tokens of a text that was written piece by piece, with blanks at its end. -/
theorem scan_written {pieces : List Piece} {trailing : Text} (h : Fit pieces trailing.head?)
    (htrailing : ∀ c ∈ trailing, isSeparator c = true) :
    scan (written pieces ++ trailing) = some (tokensFrom 0 pieces) := by
  have hlength := length_le_written h
  exact scanFrom_written h htrailing (by rw [List.length_append]; omega) 0

end FieldInjection.CSharp
