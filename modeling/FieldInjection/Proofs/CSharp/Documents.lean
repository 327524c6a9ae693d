import FieldInjection.Proofs.CSharp.Members

/-!
# Reading documents

A document with a directive and a class is read as these two.  What the class is read as depends on
its members, of which only has to be known that they are read one after another.

## Main Statements

* `itemRule_using`: a directive stands at the top of a document.
* `itemRule_class`: a class stands at the top of a document.
* `parseTokens_of_items`: the declarations of a document with two items.
-/

namespace FieldInjection.CSharp

open FieldInjection.CSharp.Parser

/-- A directive that makes the names of a namespace usable. -/
theorem itemRule_using (rules : Rules) {directive t stop : Token} {name : Text} {rest : List Token}
    (hdirective : IsWord directive "using".toList) (ht : IsWord t name)
    (hname : isPlainName name = true) (hstop : IsMark stop ';') :
    itemRule rules (directive :: t :: stop :: rest) = some (.other, rest) := by
  have hunsafe : skipOptional (keyword "unsafe") (t :: stop :: rest) =
      some ((), t :: stop :: rest) :=
    skipOptional_of_none (keyword_reject_plain ht hname (by decide))
  have hstatic : skipOptional (keyword "static") (t :: stop :: rest) =
      some ((), t :: stop :: rest) :=
    skipOptional_of_none (keyword_reject_plain ht hname (by decide))
  have halias : (do
      skipOptional (keyword "unsafe")
      let _ ← identifier
      let _ ← symbol "="
      rules.type) (t :: stop :: rest) = none := by
    rw [bind_of_some hunsafe, bind_of_some (identifier_of_plain ht hname)]
    exact bind_of_none (symbol_reject_mark hstop (by decide))
  have htype : typeName rules (t :: stop :: rest) = some ((), stop :: rest) :=
    typeName_of_name rules ht hname hstop (by decide)
  have hnamespace : firstOf [do
      skipOptional (keyword "unsafe")
      let _ ← identifier
      let _ ← symbol "="
      rules.type,
    do
      skipOptional (keyword "static")
      skipOptional (keyword "unsafe")
      typeName rules] (t :: stop :: rest) = some ((), stop :: rest) := by
    rw [firstOf_of_none halias, firstOf_singleton, bind_of_some hstatic,
      bind_of_some hunsafe, htype]
  have husing : usingDirective rules (directive :: t :: stop :: rest) = some (.other, rest) := by
    rw [usingDirective, bind_of_some
      (skipOptional_of_none (keyword_reject_word hdirective (by decide))),
      bind_of_some (keyword_of_isWord hdirective rfl), bind_of_some hnamespace,
      bind_of_some (symbol_of_isMark hstop rfl)]
    rfl
  rw [itemRule, firstOf_of_none (bind_of_none (keyword_reject_word hdirective (by decide))),
    firstOf_of_some husing]

section Class

variable {rules : Rules} {access classWord name colon base start stop : Token} {baseName : Text}
    {body rest : List Token} {members : List Declaration}
    (haccess : IsWord access "public".toList) (hclass : IsWord classWord "class".toList)
    {className : Text} (hname : IsWord name className) (hcolon : IsMark colon ':')
    (hbase : IsWord base baseName) (hbaseName : isPlainName baseName = true)
    (hstart : IsMark start openBrace) (hstop : IsMark stop closeBrace)
    (hmembers : Repeats rules.member body members (stop :: rest)) (hrest : symbol ";" rest = none)

include hcolon hbase hbaseName hstart in
/-- One base type behind a colon. -/
theorem baseList_of_name : baseList rules (colon :: base :: start :: body) =
    some (Token.textOf [colon, base], start :: body) := by
  have htype : typeRule rules (base :: start :: body) = some ((), start :: body) :=
    typeRule_of_name rules hbase hbaseName hstart (by simp)
  have htaken : (do
      let _ ← symbol ":"
      sepBy1 (do typeRule rules; skipOptional (argumentList rules)))
      ([colon, base] ++ start :: body) = some ([()], start :: body) := by
    rw [List.cons_append, bind_of_some (symbol_of_isMark hcolon rfl)]
    refine sepBy1_of_single ?_ (symbol_reject_mark hstart (by decide))
    rw [List.cons_append, List.nil_append, bind_of_some htype]
    exact skipOptional_of_none ((beginsWith_argumentList rules).reject_mark hstart (by decide))
  exact bind_of_some (consumed_of_some htaken)

include hstart hstop hmembers in
/-- The members between the braces of a class. -/
theorem memberBlock_of_repeats :
    memberBlock rules (start :: body) = some ((⟨start.row, stop.row⟩, members), rest) := by
  rw [memberBlock, braceOpen, bind_of_some (symbol_of_isMark hstart rfl),
    bind_of_some (many_of_repeats hmembers), braceClose, bind_of_some (symbol_of_isMark hstop rfl)]
  rfl

include hclass hname hcolon hbase hbaseName hstart hstop hmembers hrest

theorem memberedType_of_class :
    memberedType rules (classWord :: name :: colon :: base :: start :: body) =
      some (.type ⟨.classType, some (Token.textOf [colon, base]),
        some ⟨start.row, stop.row⟩⟩ members,
        rest) := by
  have hkeyword : typeKeyword (classWord :: name :: colon :: base :: start :: body) =
      some (.classType, name :: colon :: base :: start :: body) :=
    firstOf_of_some (bind_of_some (keyword_of_isWord hclass rfl))
  have hany : anyName (name :: colon :: base :: start :: body) =
      some (name, colon :: base :: start :: body) :=
    token_of_holds (by simp [hname.kind])
  rw [memberedType, bind_of_some hkeyword, bind_of_some hany,
    bind_of_some (skipOptional_of_none
      ((beginsWith_typeParameters rules).reject_mark hcolon (by decide))),
    bind_of_some (skipOptional_of_none
      ((beginsWith_parameterList rules).reject_mark hcolon (by decide))),
    bind_of_some (maybe_of_some (baseList_of_name hcolon hbase hbaseName hstart)),
    bind_of_some (constraints_openBrace rules hstart)]
  refine firstOf_of_some ?_
  rw [bind_of_some (memberBlock_of_repeats hstart hstop hmembers)]
  simp only
  rw [bind_of_some (skipOptional_of_none hrest)]
  rfl

include haccess

theorem typeDeclaration_of_class :
    typeDeclaration rules (access :: classWord :: name :: colon :: base :: start :: body) =
      some (.type ⟨.classType, some (Token.textOf [colon, base]),
        some ⟨start.row, stop.row⟩⟩ members,
        rest) := by
  have hmodifiers := repeats_modifier haccess (by decide) hclass
    (beginsWith_modifier.reject_word hclass (by decide) :
      modifier (classWord :: name :: colon :: base :: start :: body) = none)
  rw [typeDeclaration, bind_of_some (skipMany_of_none ((beginsWith_attributeList rules).reject_word
    haccess (by decide))), bind_of_some (skipMany_of_repeats hmodifiers)]
  exact firstOf_of_some (memberedType_of_class hclass hname hcolon hbase hbaseName hstart hstop
    hmembers hrest)

/-- A class stands at the top of a document. -/
theorem itemRule_class :
    itemRule rules (access :: classWord :: name :: colon :: base :: start :: body) =
      some (.type ⟨.classType, some (Token.textOf [colon, base]),
        some ⟨start.row, stop.row⟩⟩ members,
        rest) := by
  rw [itemRule, firstOf_of_none (bind_of_none (keyword_reject_word haccess (by decide))),
    firstOf_of_none ((beginsWith_usingDirective rules).reject_word haccess (by decide)),
    firstOf_of_none (bind_of_none (symbol_reject_word haccess)),
    firstOf_of_none (bind_of_none (keyword_reject_word haccess (by decide))),
    firstOf_of_none ((beginsWith_namespaceBlock rules).reject_word haccess (by decide)),
    firstOf_of_none (bind_of_none ((beginsWith_conditionalSection rules.item).reject_word haccess
      (by decide)))]
  exact firstOf_of_some (typeDeclaration_of_class haccess hclass hname hcolon hbase hbaseName hstart
    hstop hmembers hrest)

end Class

/-- Two items that take all tokens are the declarations of the document. -/
theorem parseTokens_of_items {tokens rest : List Token} {first second : Declaration}
    (hfirst : itemRule (.atDepth tokens.length) tokens = some (first, rest))
    (hsecond : itemRule (.atDepth tokens.length) rest = some (second, []))
    (hlength : rest.length < tokens.length) (hrest : rest ≠ []) :
    parseTokens tokens = some [first, second] := by
  have hitems : Repeats (Rules.atDepth (tokens.length + 1)).item tokens [first, second] [] :=
    .step hfirst hlength (.step hsecond (List.length_pos_iff.mpr hrest)
      (.done (beginsWith_itemRule _ [] rfl)))
  rw [parseTokens, many_of_repeats hitems]

end FieldInjection.CSharp
