import FieldInjection.CSharp.Grammar.Member
import FieldInjection.Proofs.CSharp.Parsing

/-!
# The first tokens of the rules

For the rules of the grammar that are tried and given up on the way, this module says with which
tokens they may begin.  The rules that they refer to in circles may be any: no rule goes into a
circle before it has taken a token.

## Main Definitions

* `typeHeads`, `operandHeads`, `statementHeads`, `memberHeads`: the tokens with which types,
  operands, statements and members may begin.

## Main Statements

* `beginsWith_typeRule`, `beginsWith_operandRule`, `beginsWith_statementRule`,
  `beginsWith_memberRule`, `beginsWith_itemRule`: the rules begin with these tokens.
-/

namespace FieldInjection.CSharp

open FieldInjection.CSharp.Parser

variable (rules : Rules)

/-! ## Types -/

/-- The tokens with which a type may begin. -/
def typeHeads : Heads := ⟨[], ["("], true, []⟩

theorem beginsWith_typeArguments : BeginsWith (typeArguments rules) ⟨[], ["<"], false, []⟩ :=
  .bind (.symbol (by decide))

/-- A type without suffixes begins with a name, a predefined type, a tuple or a keyword of its
own. -/
theorem beginsWith_simpleType : BeginsWith (simpleType rules) typeHeads :=
  .cons (.bind (.keywordOf (by decide))) <|
    .cons (.bind (.keyword (by decide))) <|
    .cons (.bind (.symbol (by decide))) <|
    .cons (.bind (.bind (.identifier rfl))) .nil

/-- Suffixes come behind a type, so they change nothing about its first token. -/
theorem beginsWith_typeRule : BeginsWith (typeRule rules) typeHeads :=
  .bind (beginsWith_simpleType rules)

/-- What goes on with a name. -/
theorem beginsWith_nameSuffix : BeginsWith (symbolOf [".", "::"]) ⟨[], [".", "::"], false, []⟩ :=
  .symbolOf (by decide)

/-- What goes on with a type. -/
theorem beginsWith_typeSuffix :
    BeginsWith (firstOf [do let _ ← symbolOf ["?", "*"], arrayRank])
      ⟨[], ["?", "*", "["], false, []⟩ :=
  .cons (.bind (.symbolOf (by decide))) <| .cons (.bind (.symbol (by decide))) .nil

/-! ## Lists -/

theorem beginsWith_argumentList : BeginsWith (argumentList rules) ⟨[], ["("], false, []⟩ :=
  .bind (.bind (.symbol (by decide)))

theorem beginsWith_elementArguments : BeginsWith (elementArguments rules) ⟨[], ["["], false, []⟩ :=
  .bind (.symbol (by decide))

/-- Attributes begin with a square bracket. -/
theorem beginsWith_attributeList : BeginsWith (attributeList rules) ⟨[], ["["], false, []⟩ :=
  .bind (.symbol (by decide))

/-- A modifier is one of a fixed list of words. -/
theorem beginsWith_modifier : BeginsWith modifier ⟨modifierWords, [], false, []⟩ :=
  .bind (.keywordOf (by decide))

theorem beginsWith_parameterList : BeginsWith (parameterList rules) ⟨[], ["("], false, []⟩ :=
  .bind (.bind (.symbol (by decide)))

/-- A parameter begins with an attribute, a tuple, or some word: a modifier or the name of a type.
-/
theorem beginsWith_parameter : BeginsWith (parameter rules) ⟨[], ["[", "("], true, []⟩ :=
  .skipMany ((beginsWith_attributeList rules).mono (by decide)) <|
    .cons (.bind (.keyword (by decide))) <|
    .cons (.skipMany (.keywordOf (by decide))
      (.bind (.bind ((beginsWith_typeRule rules).mono (by decide))))) .nil

theorem beginsWith_typeParameters : BeginsWith (typeParameters rules) ⟨[], ["<"], false, []⟩ :=
  .bind (.symbol (by decide))

/-- A block begins with its brace. -/
theorem beginsWith_block : BeginsWith (block rules) ⟨[], ["\x7b"], false, []⟩ :=
  .bind (.symbol (by decide))

theorem beginsWith_initializerRule : BeginsWith (initializerRule rules) ⟨[], ["\x7b"], false, []⟩ :=
  .bind (.symbol (by decide))

/-! ## Operands -/

/-- The tokens with which an operand may begin. -/
def operandHeads : Heads :=
  ⟨[], ["+", "-", "!", "~", "++", "--", "&", "*", "^", "..", "("], true,
    [.number, .string, .character, .interpolationStart]⟩

/-- In front of a group with an arrow behind it, nothing is taken. -/
theorem beginsWith_groupBeforeArrow {α : Type} {heads : Heads} {next : Unit → Parser α}
    (h : BeginsWith (next ()) heads) : BeginsWith (groupBeforeArrow >>= next) heads := by
  intro tokens ht
  cases hgroup : groupBeforeArrow tokens with
  | none => exact bind_of_none hgroup
  | some result =>
    have hsame : result = ((), tokens) := by
      rw [groupBeforeArrow] at hgroup
      split at hgroup
      · split at hgroup
        · exact (Option.some.inj hgroup).symm
        · simp at hgroup
      · simp at hgroup
    exact (bind_of_some (hsame ▸ hgroup)).trans (h tokens ht)

/-- The list of an anonymous function. -/
theorem beginsWith_lambda : BeginsWith (lambda rules) ⟨[], ["("], true, []⟩ :=
  .skipMany (.keywordOf (by decide)) <| .bind <|
    .cons (.bind (.identifier rfl)) <|
    .cons (beginsWith_groupBeforeArrow (.bind (.bind (.symbol (by decide))))) .nil

/-- An interpolated text has a token of its own kind in front. -/
theorem beginsWith_interpolation :
    BeginsWith (interpolation rules) ⟨[], [], false, [.interpolationStart]⟩ :=
  .bind (.ofKind (by decide))

/-- Its modifiers may stand before the keyword. -/
theorem beginsWith_anonymousMethod :
    BeginsWith (anonymousMethod rules) ⟨["async", "static", "delegate"], [], false, []⟩ :=
  .skipMany (.keywordOf (by decide)) (.bind (.keyword (by decide)))

theorem beginsWith_query : BeginsWith (query rules) ⟨["from"], [], false, []⟩ :=
  .bind (.keyword (by decide))

/-- An object is created behind one of two keywords. -/
theorem beginsWith_creation : BeginsWith (creation rules) ⟨["new", "stackalloc"], [], false, []⟩ :=
  .bind (.keywordOf (by decide))

theorem beginsWith_cast : BeginsWith (cast rules) ⟨[], ["("], false, []⟩ :=
  .bind (.symbol (by decide))

theorem beginsWith_group : BeginsWith (group rules) ⟨[], ["("], false, []⟩ :=
  .bind (.symbol (by decide))

/-- The literals that are one token. -/
theorem beginsWith_literal :
    BeginsWith (token fun t => t.kind = .number || t.kind = .string || t.kind = .character)
      ⟨[], [], false, [.number, .string, .character]⟩ := by
  refine .of_holds fun t ht => ?_
  simp only [Bool.or_eq_true, decide_eq_true_eq] at ht
  rcases ht with (ht | ht) | ht <;> simp [Heads.admits, ht]

/-- A name, with or without type arguments, begins with a word. -/
theorem beginsWith_nameOperand : BeginsWith (nameOperand rules) ⟨[], [], true, []⟩ := by
  refine .bind (.name rfl fun t ht => ?_)
  simp only [Bool.or_eq_true, Bool.and_eq_true, decide_eq_true_eq] at ht
  exact ht.symm.imp_left And.left

/-- An operand without prefix operators begins with a literal, a name, a bracket or one of some
keywords. -/
theorem beginsWith_primary : BeginsWith (primary rules) operandHeads :=
  .cons (.bind (beginsWith_literal.mono (by decide))) <|
    .cons ((beginsWith_interpolation rules).mono (by decide)) <|
    .cons ((beginsWith_lambda rules).mono (by decide)) <|
    .cons ((beginsWith_anonymousMethod rules).mono (by decide)) <|
    .cons ((beginsWith_query rules).mono (by decide)) <|
    .cons (.bind (.keywordOf (by decide))) <|
    .cons (.bind (.keyword (by decide))) <|
    .cons (.bind (.keywordOf (by decide))) <|
    .cons (.bind (.keywordOf (by decide))) <|
    .cons ((beginsWith_creation rules).mono (by decide)) <|
    .cons ((beginsWith_cast rules).mono (by decide)) <|
    .cons ((beginsWith_group rules).mono (by decide)) <|
    .cons ((beginsWith_nameOperand rules).mono (by decide)) <|
    .cons (.bind (.keywordOf (by decide))) .nil

/-- The prefix operators and the modifiers of a lambda are among the heads of operands. -/
theorem beginsWith_operandRule : BeginsWith (operandRule rules) operandHeads :=
  .cons (.bind (.symbolOf (by decide))) <|
    .cons (.bind (.keywordOf (by decide))) <|
    .cons (.bind (.symbol (by decide))) <|
    .cons (.bind (beginsWith_primary rules)) .nil

/-- An expression begins with its first operand. -/
theorem beginsWith_expressionRule : BeginsWith (expressionRule rules) operandHeads :=
  .bind (beginsWith_operandRule rules)

/-- What follows an operand directly begins with one of these. -/
theorem beginsWith_postfixOperator :
    BeginsWith (postfixOperator rules)
      ⟨["switch", "with"], [".", "->", "::", "(", "[", "?", "++", "--", "!"], false, []⟩ :=
  .cons (.bind (.symbolOf (by decide))) <|
    .cons ((beginsWith_argumentList rules).mono (by decide)) <|
    .cons ((beginsWith_elementArguments rules).mono (by decide)) <|
    .cons (.bind (.symbol (by decide))) <|
    .cons (.bind (.symbol (by decide))) <|
    .cons (.bind (.symbolOf (by decide))) <|
    .cons (.bind (.keyword (by decide))) <|
    .cons (.bind (.keyword (by decide))) .nil

/-- What joins an operand with the next one begins with an operator or one of two keywords. -/
theorem beginsWith_operatorTail :
    BeginsWith (operatorTail rules) ⟨["is", "as"], binaryOperators ++
      [">", "..", "?"], false, []⟩ :=
  .cons (.bind (.cons (.bind (.symbolOf (by decide))) <|
    .cons (.bind (.symbol (by decide))) .nil)) <|
    .cons (.bind (.keyword (by decide))) <|
    .cons (.bind (.keyword (by decide))) <|
    .cons (.bind (.symbol (by decide))) <|
    .cons (.bind (.symbol (by decide))) .nil

/-- A call, an assignment or a step begins like any expression. -/
theorem beginsWith_statementExpression : BeginsWith (statementExpression rules) operandHeads :=
  .cons (.bind (beginsWith_operandRule rules)) <|
    .cons (.bind (.consumed (beginsWith_operandRule rules))) .nil

/-! ## Statements -/

/-- The tokens with which a statement may begin. -/
def statementHeads : Heads :=
  ⟨[], "\x7b" :: ";" :: "[" :: operandHeads.symbols, true, .sectionStart :: operandHeads.kinds⟩

/-- Each loop has a keyword of its own, and one of them may be awaited. -/
theorem beginsWith_loop :
    BeginsWith (loop rules) ⟨["while", "do", "for", "await", "foreach"], [], false, []⟩ :=
  .cons (.bind (.keyword (by decide))) <|
    .cons (.bind (.keyword (by decide))) <|
    .cons (.bind (.keyword (by decide))) <|
    .cons (.skipOptional (.keyword (by decide)) (.bind (.keyword (by decide)))) .nil

/-- A choice begins with one of two keywords. -/
theorem beginsWith_choice : BeginsWith (choice rules) ⟨["if", "switch"], [], false, []⟩ :=
  .cons (.bind (.keyword (by decide))) <| .cons (.bind (.keyword (by decide))) .nil

/-- A jump begins with its keyword. -/
theorem beginsWith_jump :
    BeginsWith (jump rules) ⟨["return", "throw", "break", "continue", "yield", "goto"],
      [], false, []⟩ :=
  .cons (.bind (.keywordOf (by decide))) <|
    .cons (.bind (.keywordOf (by decide))) <|
    .cons (.bind (.keyword (by decide))) <|
    .cons (.bind (.keyword (by decide))) .nil

/-- The statements around a guarded block begin with a keyword each. -/
theorem beginsWith_guarded :
    BeginsWith (guarded rules)
      ⟨["try", "lock", "await", "using", "fixed", "checked", "unchecked", "unsafe"],
        [], false, []⟩ :=
  .cons (.bind (.keyword (by decide))) <|
    .cons (.bind (.keyword (by decide))) <|
    .cons (.skipOptional (.keyword (by decide)) (.bind (.keywordOf (by decide)))) <|
    .cons (.bind (.keywordOf (by decide))) .nil

/-- A conditional section begins with the directive that opens it. -/
theorem beginsWith_conditionalSection {α : Type} (part : Parser α) :
    BeginsWith (conditionalSection part) ⟨[], [], false, [.sectionStart]⟩ :=
  .bind (.ofKind (by decide))

/-- Local variables begin with their type. -/
theorem beginsWith_localVariables : BeginsWith (localVariables rules) typeHeads :=
  .skipMany (beginsWith_modifier.mono (by decide)) (.bind (beginsWith_typeRule rules))

/-- A statement begins with what an expression, a declaration or one of the keyword statements
begins with. -/
theorem beginsWith_statementRule : BeginsWith (statementRule rules) statementHeads :=
  .cons (.bind ((beginsWith_block rules).mono (by decide))) <|
    .cons (.bind (.symbol (by decide))) <|
    .cons ((beginsWith_loop rules).mono (by decide)) <|
    .cons ((beginsWith_choice rules).mono (by decide)) <|
    .cons ((beginsWith_jump rules).mono (by decide)) <|
    .cons ((beginsWith_guarded rules).mono (by decide)) <|
    .cons (.bind ((beginsWith_conditionalSection rules.statement).mono (by decide))) <|
    .cons (.bind (.bind (.identifier rfl))) <|
    .cons (.skipOptional (.keyword (by decide)) <| .skipOptional (.keyword (by decide)) <|
      .bind ((beginsWith_localVariables rules).mono (by decide))) <|
    .cons (.skipMany ((beginsWith_attributeList rules).mono (by decide)) <|
      .skipMany (beginsWith_modifier.mono (by decide)) <|
      .bind (.bind ((beginsWith_typeRule rules).mono (by decide)))) <|
    .cons (.ahead (.bind ((beginsWith_statementExpression rules).mono (by decide)))) .nil

/-! ## Members -/

/-- The tokens with which a member may begin. -/
def memberHeads : Heads := ⟨[], ["[", "(", "~"], true, [.sectionStart]⟩

theorem beginsWith_namespaceBlock :
    BeginsWith (namespaceBlock rules) ⟨["namespace"], [], false, []⟩ :=
  .bind (.keyword (by decide))

/-- A directive may be global. -/
theorem beginsWith_usingDirective :
    BeginsWith (usingDirective rules) ⟨["global", "using"], [], false, []⟩ :=
  .skipOptional (.keyword (by decide)) (.bind (.keyword (by decide)))

/-- A type declaration has a keyword that tells its kind. -/
theorem beginsWith_typeAfterModifiers :
    BeginsWith (typeAfterModifiers rules)
      ⟨["class", "struct", "interface", "ref", "record", "enum", "delegate"], [], false, []⟩ :=
  .cons (.bind (.cons (.bind (.keyword (by decide))) <|
      .cons (.bind (.keywordOf (by decide))) <|
      .cons (.bind (.keyword (by decide))) <|
      .cons (.bind (.keyword (by decide))) .nil)) <|
    .cons (.bind (.keyword (by decide))) <|
    .cons (.bind (.keyword (by decide))) .nil

theorem beginsWith_eventAfterModifiers :
    BeginsWith (eventAfterModifiers rules) ⟨["event"], [], false, []⟩ :=
  .bind (.keyword (by decide))

/-- Behind its modifiers a field begins with its type. -/
theorem beginsWith_fieldAfterModifiers (modifiers : List Text) :
    BeginsWith (fieldAfterModifiers rules modifiers) typeHeads :=
  .bind (.bind (.consumed (beginsWith_typeRule rules)))

/-- A member begins with an attribute, a modifier, a type, or the mark of a destructor or of a
section. -/
theorem beginsWith_memberRule : BeginsWith (memberRule rules) memberHeads :=
  .cons (.bind ((beginsWith_conditionalSection rules.member).mono (by decide))) <|
    .cons ((beginsWith_namespaceBlock rules).mono (by decide)) <|
    .cons ((beginsWith_usingDirective rules).mono (by decide)) <|
    .cons (.many ((beginsWith_attributeList rules).mono (by decide)) <|
      .many (beginsWith_modifier.mono (by decide)) <|
      .cons ((beginsWith_typeAfterModifiers rules).mono (by decide)) <|
      .cons ((beginsWith_eventAfterModifiers rules).mono (by decide)) <|
      .cons ((beginsWith_fieldAfterModifiers rules _).mono (by decide)) <|
      .cons (.bind ((beginsWith_typeRule rules).mono (by decide))) <|
      .cons (.bind ((beginsWith_typeRule rules).mono (by decide))) <|
      .cons (.bind ((beginsWith_typeRule rules).mono (by decide))) <|
      .cons (.skipOptional (.symbol (by decide)) (.bind (.identifier rfl))) <|
      .cons (.bind (.cons (.bind (.keywordOf (by decide))) <|
        .cons (.bind ((beginsWith_typeRule rules).mono (by decide))) .nil)) .nil) .nil

/-! ## Documents -/

/-- What stands at the top of a document begins like a statement. -/
theorem beginsWith_itemRule : BeginsWith (itemRule rules) statementHeads :=
  .cons (.bind (.keyword (by decide))) <|
    .cons ((beginsWith_usingDirective rules).mono (by decide)) <|
    .cons (.bind (.symbol (by decide))) <|
    .cons (.bind (.keyword (by decide))) <|
    .cons ((beginsWith_namespaceBlock rules).mono (by decide)) <|
    .cons (.bind ((beginsWith_conditionalSection rules.item).mono (by decide))) <|
    .cons (.skipMany ((beginsWith_attributeList rules).mono (by decide)) <|
      .skipMany (beginsWith_modifier.mono (by decide)) <|
      (beginsWith_typeAfterModifiers rules).mono (by decide)) <|
    .cons (.bind (beginsWith_statementRule rules)) .nil

end FieldInjection.CSharp
