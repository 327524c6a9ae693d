import FieldInjection.Proofs.CSharp.Types
import FieldInjection.Proofs.CSharp.Members
import FieldInjection.Proofs.Canonical.Trees

/-!
# Canonical classes token by token

A canonical class is written token by token.  The layout shows only in what stands before the
tokens, so there is one list of pieces for all layouts, and its text is that of the lines.

## Main Definitions

* `classPieces`: the pieces of a canonical class.

## Main Statements

* `writesLines_memberPieces`: the members are written on the lines between the braces.
* `written_classPieces`: the pieces make up the text of the class.
* `scan_markedSource`: the tokens of a canonical class.
-/

namespace FieldInjection

open FieldInjection.CSharp

/-- The types of some dependencies are cut into pieces as `shape` says. -/
def HasShapes (shape : Text → Text × List Piece) (dependencies : List Dependency) : Prop :=
  ∀ dependency ∈ dependencies,
    TypeShape dependency.type (shape dependency.type).1 (shape dependency.type).2

/-- Types can be cut into pieces. -/
theorem exists_hasShapes {dependencies : List Dependency}
    (h : ∀ dependency ∈ dependencies, IsCSharpType dependency.type) :
    ∃ shape, HasShapes shape dependencies := by
  have hshapes : ∀ type, ∃ shape : Text × List Piece, IsCSharpType type →
      TypeShape type shape.1 shape.2 := by
    intro type
    by_cases htype : IsCSharpType type
    · obtain ⟨name, tail, hshape⟩ := htype.exists_shape
      exact ⟨(name, tail), fun _ => hshape⟩
    · exact ⟨([], []), fun hother => absurd hother htype⟩
  choose shape hshape using hshapes
  exact ⟨shape, fun dependency hmem => hshape _ (h dependency hmem)⟩

/-! ## What stands before the tokens -/

/-- A new line, indented by one step. -/
def nextLine : Text := '\n' :: indentStep

/-- A new line behind a blank one, indented by one step. -/
def nextPart : Text := '\n' :: nextLine

/-- A new line, indented by two steps. -/
def nextStatement : Text := nextLine ++ indentStep

/-- What stands before the opening brace of a block. -/
def Layout.braceGap (layout : Layout) (indent : Text) : Text :=
  if layout.bracesBehind then [' '] else '\n' :: indent

/-- What stands before the colon in the header of the class. -/
def Layout.colonGap (layout : Layout) : Text :=
  if layout.splitHeader then nextLine else [' ']

/-- What stands before the signature of the injection method. -/
def MarkerPlace.accessGap : MarkerPlace → Text
  | .inline => [' ']
  | .ownLine | .stacked => nextLine

/-! ## The pieces -/

/-- The directive in front of the class. -/
def usingPieces : List Piece :=
  [.word [] "using".toList, .word [' '] "UnityEngine".toList, .mark [] ';']

/-- The header of the class up to its brace. -/
def headerPieces (layout : Layout) : List Piece :=
  [.word ['\n', '\n'] "public".toList, .word [' '] "class".toList, .word [' '] "Subject".toList,
    .mark layout.colonGap ':', .word [' '] "MonoBehaviour".toList,
    .mark (layout.braceGap []) openBrace]

/-- A declaration of fields. -/
def fieldPieces (shape : Text → Text × List Piece) (group : Text × List Text) : List Piece :=
  .word nextLine "private".toList :: (typePieces shape [' '] group.1 ++
    (listed namePieces [' '] [' '] group.2 ++ [.mark [] ';']))

/-- A list with one attribute. -/
def attributePieces (leading name : Text) : List Piece :=
  [.mark leading '[', .word [] name, .mark [] ']']

/-- The markers of the injection method. -/
def MarkerPlace.pieces : MarkerPlace → List Piece
  | .ownLine | .inline => attributePieces nextPart "Inject".toList
  | .stacked =>
    attributePieces nextPart "Inject".toList ++ attributePieces nextLine "Preserve".toList

/-- The assignment of a dependency. -/
def assignmentPieces (dependency : Dependency) : List Piece :=
  [.word nextStatement dependency.name, .mark [' '] '=',
    .word [' '] dependency.parameter, .mark [] ';']

/-- The type and the name of the parameter for a dependency. -/
def Dependency.entry (dependency : Dependency) : Text × Text :=
  (dependency.type, dependency.parameter)

/-- The injection method up to its parameters. -/
def MarkerPlace.startPieces (place : MarkerPlace) : List Piece :=
  place.pieces ++ [.word place.accessGap "private".toList, .word [' '] "void".toList,
    .word [' '] "InjectDependencies".toList]

/-- The parameters of the injection method. -/
def parametersPieces (shape : Text → Text × List Piece) (injected : List Dependency) : List Piece :=
  listed (parameterPieces shape) [] [' '] (injected.map Dependency.entry)

/-- The injection method up to its brace. -/
def signaturePieces (layout : Layout) (place : MarkerPlace) (shape : Text → Text × List Piece)
    (injected : List Dependency) : List Piece :=
  place.startPieces ++ (.mark [] '(' :: (parametersPieces shape injected ++
    [.mark [] ')', .mark (layout.braceGap indentStep) openBrace]))

/-- The injection method, if there are dependencies for it. -/
def methodPieces (layout : Layout) (place : MarkerPlace) (shape : Text → Text × List Piece)
    (injected : List Dependency) : List Piece :=
  if injected.isEmpty then []
  else signaturePieces layout place shape injected ++ (injected.flatMap assignmentPieces ++
    [.mark nextLine closeBrace])

/-- The method behind it. -/
def updatePieces (layout : Layout) : List Piece :=
  [.word nextPart "private".toList, .word [' '] "void".toList, .word [' '] "Update".toList,
    .mark [] '(', .mark [] ')', .mark (layout.braceGap indentStep) openBrace,
    .word nextStatement "if".toList, .mark [' '] '(', .word [] "enabled".toList, .mark [] ')',
    .mark [' '] openBrace, .word [' '] "return".toList, .mark [] ';', .mark [' '] closeBrace,
    .mark nextLine closeBrace]

/-- The members of a canonical class. -/
def memberPieces (layout : Layout) (place : MarkerPlace) (shape : Text → Text × List Piece)
    (dependencies : List Dependency) : List Piece :=
  (layout.groups dependencies).flatMap (fieldPieces shape) ++
    (methodPieces layout place shape (injectedFirst dependencies) ++ updatePieces layout)

/-- The pieces of a canonical class. -/
def classPieces (layout : Layout) (place : MarkerPlace) (shape : Text → Text × List Piece)
    (dependencies : List Dependency) : List Piece :=
  usingPieces ++ (headerPieces layout ++ (memberPieces layout place shape dependencies ++
    [.mark ['\n'] closeBrace]))

/-! ## Their text -/

/-- Lines, each with a line feed before it. -/
def feedLines (lines : List Text) : Text :=
  lines.flatMap ('\n' :: ·)

/-- Lines are written one behind the other. -/
@[simp] theorem feedLines_append (left right : List Text) :
    feedLines (left ++ right) = feedLines left ++ feedLines right :=
  List.flatMap_append

@[simp] theorem feedLines_cons (line : Text) (lines : List Text) :
    feedLines (line :: lines) = '\n' :: (line ++ feedLines lines) := by
  simp [feedLines]

@[simp] theorem feedLines_nil : feedLines [] = [] := rfl

/-- Pieces that make up some lines, each with a line feed before it. -/
structure WritesLines (pieces : List Piece) (lines : List Text) : Prop where
  /-- The pieces have the text of the lines. -/
  text : written pieces = feedLines lines
  /-- Each piece ends where the next begins, and the last one in front of a further line. -/
  fit : Fit pieces (some '\n')
  /-- The pieces go down one row for each line. -/
  rows : rowsOf pieces = lines.length

instance (pieces : List Piece) (lines : List Text) : Decidable (WritesLines pieces lines) :=
  decidable_of_iff (_ ∧ _ ∧ _) ⟨fun h => ⟨h.1, h.2.1, h.2.2⟩, fun h => ⟨h.text, h.fit, h.rows⟩⟩

namespace WritesLines

variable {left right : List Piece} {leftLines rightLines : List Text}

theorem nil : WritesLines [] [] := ⟨rfl, trivial, rfl⟩

/-- What follows some lines begins with a line feed. -/
theorem head?_or (h : WritesLines right rightLines) :
    (written right).head?.or (some '\n') = some '\n' := by
  rw [h.text]
  cases rightLines with
  | nil => rfl
  | cons line lines => rw [feedLines_cons]; rfl

/-- Parts that write their lines make up pieces that write all of them. -/
theorem append (hleft : WritesLines left leftLines) (hright : WritesLines right rightLines) :
    WritesLines (left ++ right) (leftLines ++ rightLines) where
  text := by rw [written_append, hleft.text, hright.text, feedLines_append]
  fit := fit_append.mpr ⟨by rw [hright.head?_or]; exact hleft.fit, hright.fit⟩
  rows := by rw [rowsOf_append, hleft.rows, hright.rows, List.length_append]

/-- Items that write a line each write these lines together. -/
theorem flatMap {ι : Type} {items : List ι} {pieces : ι → List Piece} {line : ι → Text}
    (h : ∀ item ∈ items, WritesLines (pieces item) [line item]) :
    WritesLines (items.flatMap pieces) (items.map line) := by
  induction items with
  | nil => exact nil
  | cons item items ih =>
    rw [List.flatMap_cons, List.map_cons, ← List.singleton_append]
    exact (h item (by simp)).append (ih fun other hother => h other (by simp [hother]))

end WritesLines

/-- The pieces of the header write the lines up to the opening brace, but for the directive. -/
theorem writesLines_headerPieces (layout : Layout) :
    WritesLines (headerPieces layout) (layout.classStart.drop 1) := by
  -- whether fields are declared together does not show here, so there are four headers only
  have hall : ∀ bracesBehind splitHeader,
      WritesLines (headerPieces ⟨bracesBehind, splitHeader, false⟩)
        ((Layout.classStart ⟨bracesBehind, splitHeader, false⟩).drop 1) := by decide +kernel
  exact hall layout.bracesBehind layout.splitHeader

/-- The pieces of the method behind it write its lines. -/
theorem writesLines_updatePieces (layout : Layout) :
    WritesLines (updatePieces layout) layout.updatePart := by
  have hall : ∀ bracesBehind, WritesLines (updatePieces ⟨bracesBehind, false, false⟩)
      (Layout.updatePart ⟨bracesBehind, false, false⟩) := by decide +kernel
  exact hall layout.bracesBehind

/-! ## Fields -/

section Names

variable {names : List Text} (hnames : ∀ name ∈ names, isAsciiName name = true)

include hnames

/-- The pieces of the declared names write them with commas between them. -/
theorem written_names (hne : names ≠ []) :
    written (listed namePieces [' '] [' '] names) = ' ' :: [',', ' '].intercalate names := by
  have hwritten : ∀ name ∈ names, ∀ leading, written (namePieces leading name) =
      leading ++ name := by
    intro name hmem leading
    rw [namePieces, written_cons, written_nil, Piece.leading_word,
      Piece.lexeme_word _ (hnames name hmem), List.append_nil]
  rw [written_listed hwritten hne, List.map_id', List.singleton_append]

/-- Names fit commas and the semicolon behind them. -/
theorem fit_names : Fit (listed namePieces [' '] [' '] names) (some ';') := by
  have hends : ∀ mark ∈ [',', ';'], (some mark).any isNamePart = false := by decide
  refine fit_listed fun name hmem leading hleading c hc => ⟨?_, trivial⟩
  obtain rfl : leading = [' '] := by simpa using hleading
  exact fits_word (by decide) (hnames name hmem) (hends c hc)

omit hnames in
theorem isLevel_names : IsLevel (listed namePieces [' '] [' '] names) := by
  refine isLevel_listed fun name _ leading hleading => isLevel_singleton ?_
  obtain rfl : leading = [' '] := by simpa using hleading
  rw [Piece.leading_word]
  rfl

end Names

section Shape

variable {shape : Text → Text × List Piece}

theorem isLevel_typePieces {type leading : Text} (h : TypeShape type (shape type).1 (shape type).2)
    (hleading : lineFeeds leading = 0) : IsLevel (typePieces shape leading type) := by
  refine List.forall_mem_cons.mpr ⟨?_, h.isLevel⟩
  rwa [Piece.leading_word]

/-- Behind its keyword a declaration stays on its line. -/
theorem isLevel_fieldTail {type : Text} {names : List Text}
    (h : TypeShape type (shape type).1 (shape type).2) :
    IsLevel (typePieces shape [' '] type ++
      (listed namePieces [' '] [' '] names ++ [Piece.mark [] ';'])) :=
  IsLevel.append (isLevel_typePieces h rfl) (IsLevel.append isLevel_names (isLevel_singleton rfl))

/-- A declaration of fields is written on one line. -/
theorem writesLines_fieldPieces {group : Text × List Text} (hgroup : IsGroup group)
    (h : TypeShape group.1 (shape group.1).1 (shape group.1).2) :
    WritesLines (fieldPieces shape group) [fieldLine group] := by
  have hkeyword : isAsciiName "private".toList = true := by decide
  have hnames := written_names hgroup.names hgroup.ne_nil
  refine ⟨?_, ⟨fits_word (by decide) hkeyword ?_, fit_append.mpr ⟨?_, fit_append.mpr
    ⟨fit_names hgroup.names, ?_, trivial⟩⟩⟩, ?_⟩
  · have hstop : written [Piece.mark [] ';'] = [';'] := by decide
    rw [fieldPieces, written_cons, written_append, written_append, hnames, typePieces, h.written_eq,
      Piece.leading_word, Piece.lexeme_word _ hkeyword, hstop, fieldLine, declaration_eq]
    simp only [feedLines_cons, feedLines_nil, nextLine, declarators, List.cons_append,
      List.nil_append, List.append_nil]
  · -- a blank separates the keyword from the type
    rw [written_append, typePieces, h.written_eq]
    rfl
  · rw [written_append, hnames]
    exact h.fit [' '] ' ' (by decide) (by simp)
  · exact fits_mark (by simp) (by decide) (any_beginsLong_eq_false (by decide) _)
  · rw [fieldPieces, rowsOf, rowsOf_of_isLevel (isLevel_fieldTail h), Piece.leading_word]
    rfl

/-- The assignment of a dependency is written on one line. -/
theorem writesLines_assignmentPieces (dependency : Dependency) :
    WritesLines (assignmentPieces dependency) [assignmentOf dependency] := by
  have hname := dependency.isAsciiName_name
  have hparameter := dependency.isAsciiName_parameter
  refine ⟨?_, ⟨fits_word (by decide) hname rfl, fits_mark (by decide) (by decide) ?_,
    fits_word (by decide) hparameter rfl,
    fits_mark (by simp) (by decide) (any_beginsLong_eq_false (by decide) _), trivial⟩, ?_⟩
  · have hequals := Piece.lexeme_mark [' '] (by decide : isBlank '=' = false)
    have hstop := Piece.lexeme_mark [] (by decide : isBlank ';' = false)
    have hsign : " = ".toList = [' ', '=', ' '] := by decide
    simp only [assignmentPieces, written_cons, written_nil, Piece.leading_word, Piece.leading_mark,
      Piece.lexeme_word _ hname, Piece.lexeme_word _ hparameter, hequals,
      hstop, assignmentOf, hsign,
      feedLines_cons, feedLines_nil, nextStatement, nextLine, List.append_assoc, List.cons_append,
      List.nil_append, List.append_nil]
  · -- the sign would begin an operator with another sign or a closing angle behind it
    have hblank : (some ' ').any (beginsLong '=') = false := by decide
    rw [written_cons, Piece.leading_word, List.singleton_append, List.head?_cons, Option.some_or]
    exact hblank
  · simp only [assignmentPieces, rowsOf, Piece.leading_word, Piece.leading_mark]
    rfl

/-! ## The injection method -/

section Signature

variable {layout : Layout} {place : MarkerPlace} {injected : List Dependency}
    (h : HasShapes shape injected)

/-- The pieces up to the name go down one row more than there are lines above the signature. -/
theorem rowsOf_startPieces (place : MarkerPlace) :
    rowsOf place.startPieces = place.linesAbove.length + 1 := by
  cases place <;> decide +kernel

/-- The brace is on the row of the header, or on the next one. -/
theorem lineFeeds_braceGap (layout : Layout) :
    lineFeeds (layout.braceGap indentStep) = (layout.braceLines indentStep).length := by
  rw [Layout.braceGap, Layout.braceLines]
  split <;> rfl

/-- A header and its brace are written with the gap of the layout between them. -/
theorem feedLines_opened (indent header : Text) : feedLines (layout.opened indent header) =
    '\n' :: (header ++ (layout.braceGap indent ++ [openBrace])) := by
  rw [Layout.opened, Layout.braceBehind, Layout.braceLines, Layout.braceGap]
  split <;> simp

include h

/-- The pieces of the parameters write them with commas between them. -/
theorem written_parameters (hne : injected ≠ []) :
    written (parametersPieces shape injected) =
      [',', ' '].intercalate (injected.map fun dependency =>
        dependency.type ++ ' ' :: dependency.parameter) := by
  have hwritten : ∀ entry ∈ injected.map Dependency.entry, ∀ leading,
      written (parameterPieces shape leading entry) = leading ++ (entry.1 ++ ' ' :: entry.2) := by
    intro entry hentry leading
    obtain ⟨dependency, hmem, rfl⟩ := List.mem_map.mp hentry
    have htype : written (typePieces shape leading dependency.entry.1) =
        leading ++ dependency.entry.1 :=
      (h dependency hmem).written_eq leading
    have hname : isAsciiName dependency.entry.2 = true := dependency.isAsciiName_parameter
    rw [parameterPieces, written_append, htype, written_cons, written_nil, Piece.leading_word,
      Piece.lexeme_word _ hname, List.append_nil, List.append_assoc,
      List.singleton_append]
  rw [parametersPieces, written_listed hwritten (by simpa using hne), List.map_map, List.nil_append]
  rfl

theorem fit_parameters :
    Fit (parametersPieces shape injected) (some ')') := by
  refine fit_listed fun entry hentry leading hleading c hc => ?_
  obtain ⟨dependency, hmem, rfl⟩ := List.mem_map.mp hentry
  have hends : ∀ mark ∈ [',', ')'], (some mark).any isNamePart = false := by decide
  refine fit_append.mpr ⟨?_, fits_word (by decide) dependency.isAsciiName_parameter (hends c hc),
    trivial⟩
  rw [written_cons, Piece.leading_word]
  exact (h dependency hmem).fit leading ' ' (isSeparator_of_mem_gap hleading) (by simp)

/-- The parameters stay on the line of the signature. -/
theorem isLevel_parameters :
    IsLevel (parametersPieces shape injected) := by
  refine isLevel_listed fun entry hentry leading hleading => ?_
  obtain ⟨dependency, hmem, rfl⟩ := List.mem_map.mp hentry
  exact IsLevel.append (isLevel_typePieces (h dependency hmem) (lineFeeds_gap hleading))
    (isLevel_singleton (by rw [Piece.leading_word]; rfl))

/-- The pieces of a signature write its lines, together with the markers above. -/
theorem written_signaturePieces (hne : injected ≠ []) :
    written (signaturePieces layout place shape injected) = feedLines (place.linesAbove ++
      layout.opened indentStep (place.lead ++ bareSignature injected)) := by
  have hstart : written place.startPieces = feedLines place.linesAbove ++ '\n' :: (place.lead ++
      "private void InjectDependencies".toList) := by
    cases place <;> decide +kernel
  have hround := Piece.lexeme_mark [] (by decide : isBlank '(' = false)
  have hend : written [Piece.mark [] ')', Piece.mark (layout.braceGap indentStep) openBrace] =
      ')' :: (layout.braceGap indentStep ++ [openBrace]) := by
    rw [written_cons, written_cons, Piece.leading_mark, Piece.leading_mark]
    rfl
  rw [signaturePieces, written_append, written_cons, written_append, hstart, hend,
    Piece.leading_mark, hround, written_parameters h hne, feedLines_append, feedLines_opened]
  unfold bareSignature
  generalize "private void InjectDependencies".toList = words
  simp only [List.append_assoc, List.cons_append, List.nil_append]

/-- The markers and the signature are written on the lines up to the brace. -/
theorem writesLines_signaturePieces (hne : injected ≠ []) :
    WritesLines (signaturePieces layout place shape injected)
      (place.linesAbove ++ layout.opened indentStep (place.lead ++ bareSignature injected)) := by
  refine ⟨written_signaturePieces h hne, ?_, ?_⟩
  · have hstart : Fit place.startPieces (some '(') := by
      cases place <;> decide +kernel
    have hgap : ∀ c ∈ layout.braceGap indentStep, isSeparator c = true := by
      rw [Layout.braceGap]
      split <;> decide
    refine fit_append.mpr ⟨hstart, ?_, fit_append.mpr ⟨fit_parameters h, ?_, ?_, trivial⟩⟩
    · exact fits_mark (by simp) (by decide) (any_beginsLong_eq_false (by decide) _)
    · exact fits_mark (by simp) (by decide) (any_beginsLong_eq_false (by decide) _)
    · exact fits_mark hgap (by decide) (any_beginsLong_eq_false (by decide) _)
  · have hnone : lineFeeds [] = 0 := rfl
    have hend : rowsOf [] = 0 := rfl
    rw [signaturePieces, rowsOf_append, rowsOf, rowsOf_append,
      rowsOf_of_isLevel (isLevel_parameters h), rowsOf_startPieces, rowsOf, rowsOf,
      Piece.leading_mark, Piece.leading_mark, Piece.leading_mark, lineFeeds_braceGap,
      List.length_append,
      Layout.opened, List.length_cons]
    omega

/-- The injection method is written on its lines. -/
theorem writesLines_methodPieces :
    WritesLines (methodPieces layout place shape injected) (layout.markedPart place injected) := by
  have hassignments : WritesLines (injected.flatMap assignmentPieces) (injected.map assignmentOf) :=
    .flatMap fun dependency _ => writesLines_assignmentPieces dependency
  have hclose : WritesLines [Piece.mark nextLine closeBrace] ["    \x7d".toList] := by
    decide +kernel
  rw [methodPieces, Layout.markedPart]
  by_cases hinjected : injected.isEmpty = true
  · rw [if_pos hinjected, if_pos hinjected]
    exact .nil
  · rw [if_neg hinjected, if_neg hinjected, Layout.markedBlock, List.append_assoc,
      ← List.append_assoc place.linesAbove]
    exact (writesLines_signaturePieces h (by simpa using hinjected)).append
      (hassignments.append hclose)

end Signature

/-! ## The class -/

section Class

variable {layout : Layout} {place : MarkerPlace} {dependencies : List Dependency}

/-- What is declared belongs to a dependency. -/
theorem exists_of_mem_groups {group : Text × List Text} {name : Text}
    (hgroup : group ∈ layout.groups dependencies) (hname : name ∈ group.2) :
    ∃ dependency ∈ dependencies, dependency.type = group.1 ∧ dependency.name = name := by
  have hmem : (group.1, name) ∈ entries (layout.groups dependencies) :=
    List.mem_flatMap.mpr ⟨group, hgroup, List.mem_map_of_mem hname⟩
  obtain ⟨dependency, hdependency, heq⟩ :=
    List.mem_map.mp ((perm_entries_groups layout dependencies).mem_iff.mp hmem)
  exact ⟨dependency, hdependency, congrArg Prod.fst heq, congrArg Prod.snd heq⟩

variable (h : HasShapes shape dependencies)

include h

/-- The type of a group is that of a dependency, so it has a shape. -/
theorem typeShape_of_mem_groups {group : Text × List Text}
    (hgroup : group ∈ layout.groups dependencies) :
    TypeShape group.1 (shape group.1).1 (shape group.1).2 := by
  obtain ⟨name, hname⟩ := List.exists_mem_of_ne_nil _ (isGroup_of_mem_groups hgroup).ne_nil
  obtain ⟨dependency, hdependency, htype, -⟩ := exists_of_mem_groups hgroup hname
  exact htype ▸ h dependency hdependency

theorem hasShapes_injectedFirst : HasShapes shape (injectedFirst dependencies) :=
  fun dependency hmem => h dependency (List.mem_of_mem_filter hmem)

/-- The fields are written on a line each. -/
theorem writesLines_fields : WritesLines ((layout.groups dependencies).flatMap (fieldPieces shape))
    ((layout.groups dependencies).map fieldLine) :=
  .flatMap fun _ hgroup => writesLines_fieldPieces (isGroup_of_mem_groups hgroup)
    (typeShape_of_mem_groups h hgroup)

/-- The members are written on the lines between the braces. -/
theorem writesLines_memberPieces : WritesLines (memberPieces layout place shape dependencies)
    ((layout.groups dependencies).map fieldLine ++
      (layout.markedPart place (injectedFirst dependencies) ++ layout.updatePart)) :=
  (writesLines_fields h).append
    ((writesLines_methodPieces (hasShapes_injectedFirst h)).append
      (writesLines_updatePieces layout))

/-- The class is written on the lines behind the directive. -/
theorem writesLines_class : WritesLines
    (headerPieces layout ++ (memberPieces layout place shape dependencies ++
      [.mark ['\n'] closeBrace]))
    (layout.classStart.drop 1 ++ ((layout.groups dependencies).map fieldLine ++
      (layout.markedPart place (injectedFirst dependencies) ++ layout.updatePart) ++
        [[closeBrace]])) := by
  have hclose : WritesLines [Piece.mark ['\n'] closeBrace] [[closeBrace]] := by decide +kernel
  exact (writesLines_headerPieces layout).append ((writesLines_memberPieces h).append hclose)

/-- The pieces make up the text of the class. -/
theorem written_classPieces :
    written (classPieces layout place shape dependencies) ++ ['\n'] =
      markedSource layout place dependencies := by
  have husing : written usingPieces = "using UnityEngine;".toList := by decide +kernel
  have hlines : (markedSnapshot layout place dependencies).lines = "using UnityEngine;".toList ::
      (layout.classStart.drop 1 ++ ((layout.groups dependencies).map fieldLine ++
        (layout.markedPart place (injectedFirst dependencies) ++ layout.updatePart) ++
        [[closeBrace]]) ++ [[]]) := by
    have hstart : layout.classStart = "using UnityEngine;".toList :: layout.classStart.drop 1 := rfl
    rw [lines_markedSnapshot]
    nth_rewrite 1 [hstart]
    simp only [List.append_assoc, List.cons_append, List.nil_append]
  have hsource : markedSource layout place dependencies = "using UnityEngine;".toList ++ feedLines
      (layout.classStart.drop 1 ++ ((layout.groups dependencies).map fieldLine ++
        (layout.markedPart place (injectedFirst dependencies) ++ layout.updatePart) ++
        [[closeBrace]]) ++ [[]]) := by
    rw [markedSource, Snapshot.toText, hlines, intercalate_eq_flatMap]
    rfl
  rw [hsource, classPieces, written_append, husing, (writesLines_class h).text,
    feedLines_append _ [[]], List.append_assoc]
  rfl

/-- Each piece ends where the next begins. -/
theorem fit_classPieces : Fit (classPieces layout place shape dependencies) (some '\n') := by
  have husing : Fit usingPieces (some '\n') := by decide +kernel
  refine fit_append.mpr ⟨?_, (writesLines_class h).fit⟩
  rw [(writesLines_class h).head?_or]
  exact husing

/-- The tokens of a canonical class. -/
theorem scan_markedSource : scan (markedSource layout place dependencies) =
    some (tokensFrom 0 (classPieces layout place shape dependencies)) := by
  rw [← written_classPieces h]
  exact scan_written (fit_classPieces h) (by decide)

end Class

end Shape

end FieldInjection
