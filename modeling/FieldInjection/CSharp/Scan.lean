import FieldInjection.CSharp.Name
import FieldInjection.CSharp.Token
import FieldInjection.Text.Blank
import FieldInjection.Text.Quoted
import FieldInjection.Brace

/-!
# From text to tokens

Scanning goes through a text from left to right.  It fails on what can begin no token, on a string
or comment that is never closed, and on a directive that no line feed ends.

## Main Definitions

* `takeTrivia`: the blanks, comments and plain directives in front of a token.
* `takeToken`: one token outside of interpolated strings.
* `Mode`: whether scanning is inside the text or inside a hole of an interpolated string.
* `scan`: all tokens of a text.

## Design Notes

Closing angles are always single tokens, since two of them may end two lists of type arguments as
well as be a shift.  A question mark is a single token unless two of them stand together.
-/

namespace FieldInjection.CSharp

/-- The apostrophe. -/
def apostrophe : Char := Char.ofNat 39

/-- The characters that separate tokens. -/
def isSeparator (c : Char) : Bool :=
  (9 ≤ c.toNat && c.toNat ≤ 13) || c.toNat == 32 || c.toNat == 0xA0 || c.toNat == 0xFEFF ||
    c.toNat == 0x3000

/-! ### Blanks, comments and directives -/

/-- A comment up to and including its end mark, given what follows its start mark. -/
def commentBody : Text → Option (Text × Text)
  | '*' :: '/' :: rest => some (['*', '/'], rest)
  | c :: rest => (commentBody rest).map fun parts => (c :: parts.1, parts.2)
  | [] => none

/-- The directives that may stand anywhere and carry no structure. -/
def plainDirectives : List Text :=
  ["region".toList, "endregion".toList, "pragma".toList, "nullable".toList, "line".toList,
    "error".toList, "warning".toList, "define".toList, "undef".toList]

/-- The name of the directive that a text begins with. -/
def directiveName (text : Text) : Text :=
  ((text.drop 1).dropWhile fun c => c == ' ' || c == '\t').takeWhile Char.isAlpha

/-- One blank, comment or plain directive.  The outer answer is nothing where the text is broken,
the inner one where something else begins. -/
def takeTriviaPiece (text : Text) : Option (Option (Text × Text)) :=
  match text with
  | [] => some none
  | c :: rest =>
    if isSeparator c then some (some ([c], rest))
    else if text.startsWith ['/', '/'] then
      some (some (text.span fun d => d != '\n' && d != '\r'))
    else if text.startsWith ['/', '*'] then
      (commentBody (text.drop 2)).map fun parts => some ('/' :: '*' :: parts.1, parts.2)
    else if c == '#' && plainDirectives.contains (directiveName text) then
      match text.cutFirst? '\n' with
      | some (line, behind) => some (some (line ++ ['\n'], behind))
      | none => none
    else some none

/-- The blanks, comments and plain directives that a text begins with, and the rest. -/
def takeTrivia : Nat → Text → Option (Text × Text)
  | 0, text => some ([], text)
  | bound + 1, text =>
    match takeTriviaPiece text with
    | none => none
    | some none => some ([], text)
    | some (some (piece, rest)) =>
      (takeTrivia bound rest).map fun parts => (piece ++ parts.1, parts.2)

/-! ### Literals -/

/-- A string up to and including its closing quote, where a backslash escapes the next character. -/
def stringBody (quote : Char) : Text → Option (Text × Text)
  | [] => none
  | [c] => if c = quote then some ([c], []) else none
  | c :: d :: rest =>
    if c = quote then some ([c], d :: rest)
    else if c = '\n' then none
    else if c = Quoted.backslash then
      (stringBody quote rest).map fun parts => (c :: d :: parts.1, parts.2)
    else (stringBody quote (d :: rest)).map fun parts => (c :: parts.1, parts.2)

/-- A verbatim string up to and including its closing quote, where a doubled quote stands for
one. -/
def verbatimBody : Text → Option (Text × Text)
  | [] => none
  | [c] => if c = Quoted.mark then some ([c], []) else none
  | c :: d :: rest =>
    if c = Quoted.mark && d = Quoted.mark then
      (verbatimBody rest).map fun parts => (c :: d :: parts.1, parts.2)
    else if c = Quoted.mark then some ([c], d :: rest)
    else (verbatimBody (d :: rest)).map fun parts => (c :: parts.1, parts.2)

/-- A raw string up to and including the quotes that end it. -/
def rawBody (quotes : Text) : Text → Option (Text × Text)
  | [] => none
  | c :: rest =>
    match Text.dropStart? quotes (c :: rest) with
    | some behind =>
      some (quotes ++ behind.takeWhile (· = Quoted.mark), behind.dropWhile (· = Quoted.mark))
    | none => (rawBody quotes rest).map fun parts => (c :: parts.1, parts.2)

/-- A character up to and including its closing apostrophe: one character or one escape. -/
def characterBody (text : Text) : Option (Text × Text) :=
  match stringBody apostrophe text with
  | none => none
  | some (body, rest) =>
    if body.length = 2 || (body.head? = some Quoted.backslash && 2 < body.length) then
      some (body, rest)
    else none

/-- Digits with low lines between them. -/
def takeDigits (isDigit : Char → Bool) (text : Text) : Text × Text :=
  text.span fun c => isDigit c || c == '_'

/-- Whether a character is a hexadecimal digit. -/
def isHexDigit (c : Char) : Bool :=
  c.isDigit || ('a' ≤ c && c ≤ 'f') || ('A' ≤ c && c ≤ 'F')

/-- The fraction of a number: a point and digits. -/
def takeFraction (text : Text) : Text × Text :=
  match text with
  | '.' :: d :: rest =>
    if d.isDigit then
      let (digits, behind) := takeDigits Char.isDigit (d :: rest)
      ('.' :: digits, behind)
    else ([], text)
  | _ => ([], text)

/-- The exponent of a number: its letter, a sign if there is one, and digits. -/
def takeExponent (text : Text) : Text × Text :=
  match text with
  | e :: rest =>
    if e == 'e' || e == 'E' then
      let (sign, behind) := match rest with
        | s :: more => if s == '+' || s == '-' then ([s], more) else ([], rest)
        | [] => ([], rest)
      if behind.head?.any Char.isDigit then
        let (digits, last) := takeDigits Char.isDigit behind
        (e :: sign ++ digits, last)
      else ([], text)
    else ([], text)
  | [] => ([], text)

/-- A number at the start of a text, with the letters that give its type. -/
def takeNumber (text : Text) : Text × Text :=
  let suffix := fun c : Char => "fFdDmMuUlL".toList.contains c
  if text.startsWith ['0', 'x'] || text.startsWith ['0', 'X'] then
    let (digits, rest) := takeDigits isHexDigit (text.drop 2)
    let (letters, behind) := rest.span suffix
    (text.take 2 ++ digits ++ letters, behind)
  else
    let (whole, afterWhole) := takeDigits Char.isDigit text
    let (fraction, afterFraction) := takeFraction afterWhole
    let (exponent, afterExponent) := takeExponent afterFraction
    let binary := if (whole == ['0']) && afterExponent.head?.any (fun c => c == 'b' || c == 'B')
      then afterExponent.span fun c => c == 'b' || c == 'B' || c.isDigit || c == '_'
      else ([], afterExponent)
    let (letters, behind) := binary.2.span suffix
    (whole ++ fraction ++ exponent ++ binary.1 ++ letters, behind)

/-! ### Tokens -/

/-- The operators and delimiters of more than one character, longer ones first. -/
def longSymbols : List Text :=
  ["<<=".toList, "??=".toList, "=>".toList, "==".toList, "!=".toList, "<=".toList, ">=".toList,
    "&&".toList, "||".toList, "++".toList, "--".toList, "+=".toList, "-=".toList, "*=".toList,
    "/=".toList, "%=".toList, "&=".toList, "|=".toList, "^=".toList, "<<".toList, "??".toList,
    "->".toList, "::".toList, "..".toList]

/-- The operators and delimiters of one character. -/
def shortSymbols : List Char :=
  openBrace :: closeBrace :: "()[]<>=+-*/%&|^!~?:;,.".toList

/-- The operator or delimiter that a text begins with. -/
def takeSymbol? (text : Text) : Option (Text × Text) :=
  match longSymbols.find? text.startsWith with
  | some symbol => some (symbol, text.drop symbol.length)
  | none =>
    match text with
    | c :: rest => if shortSymbols.contains c then some ([c], rest) else none
    | [] => none

/-- The token of a conditional section that a text begins with.  A condition takes the rest of its
line and must not be empty. -/
def takeSection? (text : Text) : Option (TokenKind × Text × Text) :=
  let name := directiveName text
  let condition (kind : TokenKind) : Option (TokenKind × Text × Text) :=
    match text.cutFirst? '\n' with
    | some (line, behind) =>
      if ((line.drop 1).dropWhile isSeparator).drop name.length |>.all isSeparator then none
      else some (kind, line, '\n' :: behind)
    | none => none
  let mark (kind : TokenKind) : Option (TokenKind × Text × Text) :=
    let (gap, behind) := (text.drop 1).span fun c => c == ' ' || c == '\t'
    some (kind, '#' :: gap ++ name, behind.drop name.length)
  if name == "if".toList then condition .sectionStart
  else if name == "elif".toList then condition .sectionNext
  else if name == "else".toList then mark .sectionOtherwise
  else if name == "endif".toList then mark .sectionEnd
  else none

/-- The marks that start an interpolated string, each with whether it is verbatim. -/
def interpolationMarks : List (Text × Bool) :=
  [(['$', Quoted.mark], false), (['$', '@', Quoted.mark], true), (['@', '$', Quoted.mark], true)]

/-- The start of an interpolated string and whether it is verbatim. -/
def takeInterpolationStart? (text : Text) : Option (Text × Bool × Text) :=
  (interpolationMarks.find? fun mark => text.startsWith mark.1).map fun mark =>
    (mark.1, mark.2, text.drop mark.1.length)

/-- One token that is not part of an interpolated string. -/
def takeToken (text : Text) : Option (TokenKind × Text × Text) :=
  match text with
  | [] => none
  | c :: rest =>
    if isNameStart c then
      let (name, behind) := text.span isNamePart
      some (.word, name, behind)
    else if c.isDigit || (c == '.' && rest.head?.any Char.isDigit) then
      let (number, behind) := takeNumber text
      some (.number, number, behind)
    else if text.startsWith [Quoted.mark, Quoted.mark, Quoted.mark] then
      let quotes := text.takeWhile (· = Quoted.mark)
      (rawBody quotes (text.drop quotes.length)).map fun parts =>
        (.string, quotes ++ parts.1, parts.2)
    else if c = Quoted.mark then
      (stringBody Quoted.mark rest).map fun parts => (.string, c :: parts.1, parts.2)
    else if c = apostrophe then
      (characterBody rest).map fun parts => (.character, c :: parts.1, parts.2)
    else if c == '@' then
      match rest with
      | d :: more =>
        if d = Quoted.mark then
          (verbatimBody more).map fun parts => (.string, c :: d :: parts.1, parts.2)
        else if isNameStart d then
          let (name, behind) := rest.span isNamePart
          some (.escapedWord, c :: name, behind)
        else none
      | [] => none
    else if c == '#' then takeSection? text
    else (takeSymbol? text).map fun parts => (.symbol, parts.1, parts.2)

/-! ### Interpolated strings -/

/-- Where scanning is inside an interpolated string. -/
inductive Mode where
  /-- In its text. -/
  | segment (isVerbatim : Bool)
  /-- In a hole, under `depth` open brackets. -/
  | hole (depth : Nat)
  deriving DecidableEq, Repr

/-- The text of an interpolated string up to its next hole or its closing quote. -/
def takeSegment (isVerbatim : Bool) : Text → Option (Text × Text)
  | [] => none
  | [c] => if c = Quoted.mark then some ([], [c]) else none
  | c :: d :: rest =>
    let pair := (takeSegment isVerbatim rest).map fun parts => (c :: d :: parts.1, parts.2)
    if (c = openBrace && d = openBrace) || (c = closeBrace && d = closeBrace) then pair
    else if isVerbatim && c = Quoted.mark && d = Quoted.mark then pair
    else if c = openBrace || c = Quoted.mark then some ([], c :: d :: rest)
    else if c = closeBrace then none
    else if !isVerbatim && c = '\n' then none
    else if !isVerbatim && c = Quoted.backslash then pair
    else (takeSegment isVerbatim (d :: rest)).map fun parts => (c :: parts.1, parts.2)

/-- What scanning does next: a token, where scanning is after it, and the text after it. -/
structure Step where
  /-- The kind of the token. -/
  kind : TokenKind
  /-- What stands before the token. -/
  leading : Text
  /-- The text of the token. -/
  lexeme : Text
  /-- Where scanning is after the token. -/
  modes : List Mode
  /-- The text after the token. -/
  rest : Text

/-- The next token in the text of an interpolated string: a hole or the end. -/
def segmentStep (isVerbatim : Bool) (outer : List Mode) (text : Text) : Option Step := do
  let (segment, behind) ← takeSegment isVerbatim text
  match behind with
  | c :: rest =>
    if c = openBrace then
      some ⟨.holeStart, segment, [c], .hole 0 :: .segment isVerbatim :: outer, rest⟩
    else some ⟨.interpolationEnd, segment, [c], outer, rest⟩
  | [] => none

/-- The nesting behind a symbol inside a hole. -/
def holeDepth (depth : Nat) (symbol : Text) : Nat :=
  if symbol == ['('] || symbol == ['['] || symbol == [openBrace] then depth + 1
  else if symbol == [')'] || symbol == [']'] || symbol == [closeBrace] then depth - 1
  else depth

/-- The next token of code, after the given blanks and comments. -/
def codeStep (modes : List Mode) (leading : Text) (text : Text) : Option Step :=
  match takeInterpolationStart? text with
  | some (mark, isVerbatim, rest) =>
    some ⟨.interpolationStart, leading, mark, .segment isVerbatim :: modes, rest⟩
  | none =>
    match modes, text with
    | .hole 0 :: outer, c :: rest =>
      if c = closeBrace then some ⟨.holeEnd, leading, [c], outer, rest⟩
      else if c == ':' && rest.head? != some ':' then
        let (format, behind) := rest.span fun d => d != closeBrace && d != '\n'
        some ⟨.holeFormat, leading, c :: format, modes, behind⟩
      else
        (takeToken text).map fun (kind, lexeme, behind) =>
          ⟨kind, leading, lexeme,
            if kind = .symbol then .hole (holeDepth 0 lexeme) :: outer else modes, behind⟩
    | .hole depth :: outer, _ =>
      (takeToken text).map fun (kind, lexeme, behind) =>
        ⟨kind, leading, lexeme,
          if kind = .symbol then .hole (holeDepth depth lexeme) :: outer else modes, behind⟩
    | _, _ =>
      (takeToken text).map fun (kind, lexeme, behind) => ⟨kind, leading, lexeme, modes, behind⟩

/-- The token of a step, where what stands before it begins on the given row.  There is none where
only blanks would be taken. -/
def Step.token? (step : Step) (row : Nat) : Option Token :=
  if filled : step.lexeme.isAllBlank = false then
    some ⟨step.kind, step.leading, step.lexeme, row + lineFeeds step.leading, filled⟩
  else none

/-- The tokens of a text that begins on the given row, at most `bound` of them. -/
def scanFrom : Nat → List Mode → Nat → Text → Option (List Token)
  | 0, _, _, _ => none
  | bound + 1, modes, row, text =>
    let finish (step : Step) : Option (List Token) :=
      (step.token? row).bind fun token =>
        (scanFrom bound step.modes token.endRow step.rest).map (token :: ·)
    match modes with
    | .segment isVerbatim :: outer => (segmentStep isVerbatim outer text).bind finish
    | _ =>
      match takeTrivia text.length text with
      | none => none
      | some (_, []) => if modes.isEmpty then some [] else none
      | some (leading, rest) => (codeStep modes leading rest).bind finish

/-- All tokens of a text. -/
def scan (text : Text) : Option (List Token) :=
  scanFrom (text.length + 1) [] 0 text

end FieldInjection.CSharp
