import FieldInjection.Configuration
import FieldInjection.Diagnostic
import FieldInjection.Text.Quoted

/-!
# Faults

Everything that can keep an injection from being made, by its cause.  The wording of the diagnostics
stands here and nowhere else.

## Main Definitions

* `Fault`: the causes met in a document.
* `Fault.diagnostic`: what is said about each of them.
* `Configuration.Flaw.diagnostic`: what is said about a configuration that cannot be used.
-/

namespace FieldInjection

/-- The causes, met in a document, that keep an injection from being made. -/
inductive Fault where
  /-- No line declares the field as a private field. -/
  | undeclared (field : Text)
  /-- No class that derives from the base type directly contains the field. -/
  | noEligibleClass (baseType : Text) (line : Nat)
  /-- The braces of the class never balance. -/
  | unbalancedClass (line : Nat)
  /-- The injection method has no opening brace where one is looked for. -/
  | noOpeningBrace (method : Text) (line : Nat)
  /-- The braces of the injection method never balance. -/
  | unbalancedBody (method : Text) (line : Nat)
  /-- The injection method is declared without a body. -/
  | noBody (method : Text) (line : Nat)
  /-- The body of the injection method opens and closes on one line. -/
  | oneLineBody (method : Text) (line : Nat)
  /-- The signature's line does not exist. -/
  | noSignature (line : Nat)
  /-- The signature has no parameter list on its line. -/
  | noParameterList (method : Text) (line : Nat)
  /-- The class around the field is declared without a body. -/
  | noClassBody (line : Nat)
  /-- The document is not well-formed C#. -/
  | brokenTree
  /-- The grammar of C# cannot be used. -/
  | noGrammar (reason : Text)
  /-- The parser for C# made no tree. -/
  | noTree
  deriving DecidableEq, Repr

/-- What is said about a fault. -/
def Fault.diagnostic : Fault → Diagnostic
  | undeclared field =>
    ⟨.fieldNotFound, "no private declaration of '" ++ field.asString ++ "'", none, none⟩
  | noEligibleClass baseType line =>
    ⟨.classNotFound, "no class deriving from " ++ baseType.asString ++ " contains this field",
      some line, none⟩
  | unbalancedClass line =>
    ⟨.malformed, "class body braces never balance", some line,
      some ("check for a missing `" ++ String.singleton (Char.ofNat 0x7D) ++ "`")⟩
  | noOpeningBrace method line =>
    ⟨.malformed, method.asString ++ " has no body opening brace", some line, none⟩
  | unbalancedBody method line =>
    ⟨.malformed, method.asString ++ " body braces never balance", some line, none⟩
  | noBody method line => ⟨.malformed, method.asString ++ " has no block body", some line, none⟩
  | oneLineBody method line =>
    ⟨.malformed, method.asString ++ " body must open and close on separate lines", some line, none⟩
  | noSignature line => ⟨.malformed, "signature line is out of range", some line, none⟩
  | noParameterList method line =>
    ⟨.malformed, method.asString ++ " signature has no parameter list", some line, none⟩
  | noClassBody line => ⟨.malformed, "class has no body", some line, none⟩
  | brokenTree => ⟨.malformed, "C# syntax tree contains errors", none, none⟩
  | noGrammar reason =>
    ⟨.malformed, "failed to load C# grammar: " ++ reason.asString, none, none⟩
  | noTree => ⟨.malformed, "C# parser produced no tree", none, none⟩

/-- What is said about a configuration that cannot be used. -/
def Configuration.Flaw.diagnostic : Flaw → Diagnostic
  | marker text =>
    ⟨.invalidConfiguration, "marker must look like `[Name]`, got " ++
      text.quoted.asString, none, none⟩
  | methodName text =>
    ⟨.invalidConfiguration, "method_name must be an identifier, got " ++ text.quoted.asString, none,
      none⟩
  | baseType text =>
    ⟨.invalidConfiguration, "base_type must be an identifier, got " ++ text.quoted.asString, none,
      none⟩
  | indentUnit =>
    ⟨.invalidConfiguration, "indent_unit must be non-empty whitespace", none,
      some ("use spaces or a tab, e.g. " ++ (Text.quoted "    ".toList).asString)⟩

end FieldInjection
