import FieldInjection.Proofs.CSharp.Types

/-!
# Reading statements

The statements of canonical classes are assignments of one name to another, and a condition with a
block that returns.  Most rules for statements fail at the first token of an assignment.  The others
begin with a name as well: a label, a declaration of variables and a function inside a function all
go wrong at the equals sign.

## Main Statements

* `operandRule_of_name`: a name is an operand.
* `statementRule_assignment`: an assignment of names is a statement.
* `statementRule_condition`: a condition with a block that returns is a statement.
* `block_of_repeats`: a block is its statements between braces.
-/

namespace FieldInjection.CSharp

open FieldInjection.CSharp.Parser

section Token

variable {t : Token} {name : Text} {rest : List Token}

theorem symbolOf_reject_word {texts : List String} (ht : IsWord t name) :
    symbolOf texts (t :: rest) = none :=
  if_neg (by simp [ht.kind])

theorem keywordOf_reject_plain {words : List String} (ht : IsWord t name)
    (hname : isPlainName name = true) (hwords : words.all keywords.contains = true) :
    keywordOf words (t :: rest) = none := by
  have hbegins : BeginsWith (keywordOf words) ⟨words, [], false, []⟩ := .keywordOf (by simp)
  exact reject_plain ht hname hbegins (by simpa [areKeywords] using hwords)

theorem keyword_reject_plain {word : String} (ht : IsWord t name) (hname : isPlainName name = true)
    (hword : word ∈ keywords) : keyword word (t :: rest) = none :=
  keyword_reject_word ht (ne_of_isPlainName hname hword)

end Token

/-! ## Names as operands -/

section Name

variable (rules : Rules) {t next : Token} {name : Text} {c : Char} {rest : List Token}
    (ht : IsWord t name) (hname : isPlainName name = true) (hnext : IsMark next c)

include ht hname hnext

/-- A name that no arrow follows is no anonymous function. -/
theorem lambda_of_name : lambda rules (t :: next :: rest) = none := by
  have hmodifiers : skipMany (keywordOf ["async", "static"]) (t :: next :: rest) =
      some ((), t :: next :: rest) :=
    skipMany_of_none (keywordOf_reject_plain ht hname (by decide))
  have harrow : symbol "=>" (next :: rest) = none := symbol_reject_mark hnext (by simp)
  have hsingle : (do let _ ← identifier; ahead (symbol "=>")) (t :: next :: rest) = none := by
    rw [bind_of_some (identifier_of_plain ht hname), ahead_of_none harrow]
  refine (bind_of_some hmodifiers).trans (bind_of_none ?_)
  rw [firstOf_of_none hsingle]
  exact @reject_plain _ _ _ _ _ ht hname ⟨[], ["("], false, []⟩
    (.cons (beginsWith_groupBeforeArrow (.bind (.bind (.symbol (by decide))))) .nil) (by decide)

theorem nameOperand_of_name (hc : c ≠ '<') :
    nameOperand rules (t :: next :: rest) = some ((), next :: rest) := by
  have hnone := any_eq_false_of_isPlainName hname
    (by decide : ∀ word ∈ operandKeywords, word ∈ keywords)
  have harguments : typeArguments rules (next :: rest) = none :=
    bind_of_none (symbol_reject_mark hnext (by simpa using hc.symm))
  refine (bind_of_some (token_of_holds ?_)).trans (skipOptional_of_none (bind_of_none harguments))
  simp [ht.kind, ht.lexeme, hnone]

/-- A name is an operand by itself. -/
theorem primary_of_name (hc : c ≠ '<') :
    primary rules (t :: next :: rest) = some ((), next :: rest) := by
  rw [primary, firstOf_of_none (reject_plain ht hname (.bind beginsWith_literal) (by decide)),
    firstOf_of_none (reject_plain ht hname (beginsWith_interpolation _) (by decide)),
    firstOf_of_none (lambda_of_name rules ht hname hnext),
    firstOf_of_none (reject_plain ht hname (beginsWith_anonymousMethod _) (by decide)),
    firstOf_of_none (reject_plain ht hname (beginsWith_query _) (by decide)),
    firstOf_of_none (bind_of_none (keywordOf_reject_plain ht hname (by decide))),
    firstOf_of_none (bind_of_none (keyword_reject_plain ht hname (by decide))),
    firstOf_of_none (bind_of_none (keywordOf_reject_plain ht hname (by decide))),
    firstOf_of_none (bind_of_none (keywordOf_reject_plain ht hname (by decide))),
    firstOf_of_none (reject_plain ht hname (beginsWith_creation _) (by decide)),
    firstOf_of_none (reject_plain ht hname (beginsWith_cast _) (by decide)),
    firstOf_of_none (reject_plain ht hname (beginsWith_group _) (by decide)),
    firstOf_of_some (nameOperand_of_name rules ht hname hnext hc)]

/-- A name is an operand in front of an equals sign, a semicolon or a closing parenthesis. -/
theorem operandRule_of_name (hc : c ∈ ['=', ';', ')']) :
    operandRule rules (t :: next :: rest) = some ((), next :: rest) := by
  have hsuffixes : ∀ mark ∈ ['=', ';', ')'], Heads.lacksMark
      ⟨["switch", "with"], [".", "->", "::", "(", "[", "?", "++", "--", "!"], false, []⟩ mark =
      true := by
    decide
  have hangle : c ≠ '<' := by
    rintro rfl
    simp at hc
  rw [operandRule, firstOf_of_none (bind_of_none (symbolOf_reject_word ht)),
    firstOf_of_none (bind_of_none (keywordOf_reject_plain ht hname (by decide))),
    firstOf_of_none (bind_of_none (symbol_reject_word ht))]
  refine firstOf_of_some ((bind_of_some (primary_of_name rules ht hname hnext hangle)).trans ?_)
  exact skipMany_of_none ((beginsWith_postfixOperator rules).reject_mark hnext (hsuffixes c hc))

theorem expressionRule_of_name (hc : c ∈ [';', ')']) :
    expressionRule rules (t :: next :: rest) = some ((), next :: rest) := by
  have htail : ∀ mark ∈ [';', ')'],
      Heads.lacksMark ⟨["is", "as"], binaryOperators ++ [">", "..", "?"], false, []⟩ mark =
      true := by
    decide
  rw [expressionRule, bind_of_some
    (operandRule_of_name rules ht hname hnext (List.mem_cons_of_mem _ hc))]
  exact skipMany_of_none ((beginsWith_operatorTail rules).reject_mark hnext (htail c hc))

/-- A name is a type in front of a delimiter that does not go on with one. -/
theorem typeRule_of_name (hc : c ∈ ['=', '(', openBrace]) :
    typeRule rules (t :: next :: rest) = some ((), next :: rest) := by
  have hsuffixes : ∀ mark ∈ ['=', '(', openBrace],
      Heads.lacksMark ⟨[], ["?", "*", "["], false, []⟩ mark = true := by decide
  have htype : typeName rules (t :: next :: rest) = some ((), next :: rest) :=
    typeName_of_name rules ht hname hnext (List.mem_append_left [';', ']'] hc)
  rw [typeRule, bind_of_some (simpleType_of_plain rules ht hname htype)]
  exact skipMany_of_none (beginsWith_typeSuffix.reject_mark hnext (hsuffixes c hc))

end Name

theorem identifier_reject_mark {t : Token} {c : Char} {rest : List Token} (ht : IsMark t c) :
    identifier (t :: rest) = none :=
  if_neg (by simp [isName, ht.kind])

/-! ## Assignments -/

section Assignment

variable (rules : Rules) {left equals right stop : Token} {leftName rightName : Text}
    {rest : List Token}
    (hleft : IsWord left leftName) (hleftName : isPlainName leftName = true)
    (hequals : IsMark equals '=')

include hleft hleftName hequals

/-- A name in front of an equals sign is no label. -/
theorem label_of_assignment : label (left :: equals :: rest) = none := by
  rw [label, bind_of_some (identifier_of_plain hleft hleftName)]
  exact bind_of_none (symbol_reject_mark hequals (by decide))

/-- A name in front of an equals sign is no type of a variable. -/
theorem localDeclaration_of_assignment :
    localDeclaration rules (left :: equals :: rest) = none := by
  -- the name is taken as a type at first, and the equals sign is then no name of a variable
  have hvariables : localVariables rules (left :: equals :: rest) = none := by
    rw [localVariables, bind_of_some
      (skipMany_of_none (reject_plain hleft hleftName beginsWith_modifier (by decide))),
      bind_of_some (typeRule_of_name rules hleft hleftName hequals (by simp))]
    exact bind_of_none (bind_of_none (bind_of_none (identifier_reject_mark hequals)))
  rw [localDeclaration,
    bind_of_some (skipOptional_of_none (keyword_reject_plain hleft hleftName (by decide))),
    bind_of_some (skipOptional_of_none (keyword_reject_plain hleft hleftName (by decide)))]
  exact bind_of_none hvariables

/-- A name in front of an equals sign is no type of a function. -/
theorem localFunction_of_assignment : localFunction rules (left :: equals :: rest) = none := by
  rw [localFunction, bind_of_some (skipMany_of_none (reject_plain hleft hleftName
      (beginsWith_attributeList rules) (by decide))),
    bind_of_some (skipMany_of_none (reject_plain hleft hleftName beginsWith_modifier (by decide)))]
  refine bind_of_none ?_
  rw [typedName, bind_of_some (typeRule_of_name rules hleft hleftName hequals (by simp))]
  exact identifier_reject_mark hequals

variable (hright : IsWord right rightName) (hrightName : isPlainName rightName = true)
    (hstop : IsMark stop ';')

include hright hrightName hstop

theorem expressionStatement_of_assignment :
    expressionStatement rules.level (left :: equals :: right :: stop :: rest) =
      some ((), rest) := by
  have hnone := any_eq_false_of_isPlainName hleftName
    (by decide : ∀ word ∈ statementKeywords, word ∈ keywords)
  have hahead : ahead (token fun t =>
      !(t.kind = .word && statementKeywords.any fun word => t.lexeme = word.toList))
      (left :: equals :: right :: stop :: rest) =
        some ((), left :: equals :: right :: stop :: rest) := by
    refine ahead_of_some (token_of_holds ?_)
    simp [hleft.kind, hleft.lexeme, hnone]
  have hoperator : assignmentOperator (equals :: right :: stop :: rest) =
      some ((), right :: stop :: rest) := by
    refine firstOf_of_some (bind_of_some (token_of_holds ?_))
    simp [hequals.kind, hequals.lexeme, assignmentOperators]
  have hvalue : (rules.level.initializer <|> rules.level.expression) (right :: stop :: rest) =
      some ((), stop :: rest) :=
    (orElse_of_none (reject_plain hright hrightName
      (beginsWith_initializerRule rules) (by decide))).trans
        (expressionRule_of_name rules hright hrightName hstop (by simp))
  have hexpression : statementExpression rules.level (left :: equals :: right :: stop :: rest) =
      some ((), stop :: rest) := by
    refine firstOf_of_some ?_
    rw [bind_of_some (operandRule_of_name rules.level hleft hleftName hequals (by simp)),
      bind_of_some hoperator, hvalue]
  rw [expressionStatement, bind_of_some hahead, bind_of_some hexpression,
    bind_of_some (symbol_of_isMark hstop rfl)]
  rfl

/-- An assignment of one name to another is a statement. -/
theorem statementRule_assignment :
    statementRule rules.level (left :: equals :: right :: stop :: rest) = some ((), rest) := by
  have hexpression :=
    @expressionStatement_of_assignment rules _ _ _ _ _ _ rest hleft hleftName hequals
      hright hrightName hstop
  rw [statementRule,
    firstOf_of_none (reject_plain hleft hleftName (.bind (beginsWith_block _)) (by decide)),
    firstOf_of_none (bind_of_none (symbol_reject_word hleft)),
    firstOf_of_none (reject_plain hleft hleftName (beginsWith_loop _) (by decide)),
    firstOf_of_none (reject_plain hleft hleftName (beginsWith_choice _) (by decide)),
    firstOf_of_none (reject_plain hleft hleftName (beginsWith_jump _) (by decide)),
    firstOf_of_none (reject_plain hleft hleftName (beginsWith_guarded _) (by decide)),
    firstOf_of_none (reject_plain hleft hleftName
      (.bind (beginsWith_conditionalSection _)) (by decide)),
    firstOf_of_none (bind_of_none (label_of_assignment hleft hleftName hequals)),
    firstOf_of_none (localDeclaration_of_assignment _ hleft hleftName hequals),
    firstOf_of_none (localFunction_of_assignment _ hleft hleftName hequals),
    firstOf_of_some hexpression]

end Assignment

/-! ## Blocks and conditions -/

/-- A block is its statements between braces. -/
theorem block_of_repeats {rules : Rules} {start stop : Token} {tokens rest : List Token}
    {values : List Unit} (hstart : IsMark start openBrace) (hstop : IsMark stop closeBrace)
    (h : Repeats rules.statement tokens values (stop :: rest)) :
    block rules (start :: tokens) = some (⟨start.row, stop.row⟩, rest) := by
  rw [block, braceOpen, bind_of_some (symbol_of_isMark hstart rfl),
    bind_of_some (skipMany_of_repeats h), braceClose, bind_of_some (symbol_of_isMark hstop rfl)]
  rfl

/-- No statement begins with a closing brace. -/
theorem statementRule_closeBrace (rules : Rules) {t : Token} {rest : List Token}
    (ht : IsMark t closeBrace) : statementRule rules (t :: rest) = none :=
  (beginsWith_statementRule rules).reject_mark ht (by decide)

section Condition

variable (rules : Rules) {word opening value closing start jump semicolon stop next : Token}
    {name : Text} {rest : List Token}

/-- A name in parentheses is a condition. -/
theorem condition_of_name (hopening : IsMark opening '(') (hvalue : IsWord value name)
    (hname : isPlainName name = true) (hclosing : IsMark closing ')') :
    condition rules.level (opening :: value :: closing :: rest) = some ((), rest) := by
  have hexpression : rules.level.expression (value :: closing :: rest) =
      some ((), closing :: rest) :=
    expressionRule_of_name rules hvalue hname hclosing (by simp)
  rw [condition, bind_of_some (symbol_of_isMark hopening rfl), bind_of_some hexpression,
    bind_of_some (symbol_of_isMark hclosing rfl)]
  rfl

/-- A statement that returns nothing. -/
theorem statementRule_return (hjump : IsWord jump "return".toList)
    (hsemicolon : IsMark semicolon ';') :
    statementRule rules.level (jump :: semicolon :: rest) = some ((), rest) := by
  have hvalue : rules.level.expression (semicolon :: rest) = none :=
    (beginsWith_expressionRule rules).reject_mark hsemicolon (by decide)
  rw [statementRule,
    firstOf_of_none ((BeginsWith.bind (beginsWith_block rules.level)).reject_word
      hjump (by decide)),
    firstOf_of_none (bind_of_none (symbol_reject_word hjump)),
    firstOf_of_none ((beginsWith_loop _).reject_word hjump (by decide)),
    firstOf_of_none ((beginsWith_choice _).reject_word hjump (by decide))]
  refine firstOf_of_some (firstOf_of_some ?_)
  rw [bind_of_some (keywordOf_of_isWord hjump (by decide)),
    bind_of_some (skipOptional_of_none hvalue), bind_of_some (symbol_of_isMark hsemicolon rfl)]
  rfl

/-- A block with such a statement. -/
theorem statementRule_returnBlock (hstart : IsMark start openBrace)
    (hjump : IsWord jump "return".toList) (hsemicolon : IsMark semicolon ';')
    (hstop : IsMark stop closeBrace) :
    statementRule rules.level.level (start :: jump :: semicolon :: stop :: rest) =
      some ((), rest) := by
  have hbody : Repeats rules.level.level.statement (jump :: semicolon :: stop :: rest) [()]
      (stop :: rest) :=
    .step (statementRule_return rules hjump hsemicolon) (by simp)
      (.done (statementRule_closeBrace _ hstop))
  exact firstOf_of_some (bind_of_some (block_of_repeats hstart hstop hbody))

/-- A condition with a block that returns is a statement, if nothing else follows it in its own
block. -/
theorem statementRule_condition (hword : IsWord word "if".toList) (hopening : IsMark opening '(')
    (hvalue : IsWord value name) (hname : isPlainName name = true) (hclosing : IsMark closing ')')
    (hstart : IsMark start openBrace) (hjump : IsWord jump "return".toList)
    (hsemicolon : IsMark semicolon ';') (hstop : IsMark stop closeBrace)
    (hnext : IsMark next closeBrace) :
    statementRule rules.level.level.level (word :: opening :: value :: closing :: start :: jump ::
      semicolon :: stop :: next :: rest) = some ((), next :: rest) := by
  have hblock : rules.level.level.level.statement
      (start :: jump :: semicolon :: stop :: next :: rest) =
      some ((), next :: rest) := statementRule_returnBlock rules hstart hjump hsemicolon hstop
  have helse : keyword "else" (next :: rest) = none := if_neg (by simp [hnext.kind])
  rw [statementRule,
    firstOf_of_none ((BeginsWith.bind (beginsWith_block _)).reject_word hword (by decide)),
    firstOf_of_none (bind_of_none (symbol_reject_word hword)),
    firstOf_of_none ((beginsWith_loop _).reject_word hword (by decide))]
  refine firstOf_of_some (firstOf_of_some ?_)
  rw [bind_of_some (keyword_of_isWord hword rfl),
    bind_of_some (condition_of_name _ hopening hvalue hname hclosing), bind_of_some hblock]
  exact skipOptional_of_none (bind_of_none helse)

end Condition

end FieldInjection.CSharp
