import FieldInjection.Snapshot

/-!
# Diagnostics

A diagnostic is what a person is told about something that went wrong: its kind, a message, the line
it is about and a word of help, if there are any.  `Diagnostic.render` prints it with the file's
name and the line of the document.

## Main Definitions

* `DiagnosticKind`: the kinds, each with its heading.
* `Diagnostic`: kind, message, line and help.
* `Diagnostic.headline`: heading and message in one line.
* `Diagnostic.render`: the full report on a file.
-/

namespace FieldInjection

/-- The kinds of things that go wrong. -/
inductive DiagnosticKind where
  /-- There is no private declaration of the field that was asked for. -/
  | fieldNotFound
  /-- The field is no direct member of an eligible class. -/
  | classNotFound
  /-- Braces never balance, or a block has no usable shape. -/
  | malformed
  /-- The configuration cannot be used. -/
  | invalidConfiguration
  /-- A file cannot be read or a document not be changed. -/
  | inputOutput
  deriving DecidableEq, Repr

/-- The heading of a kind. -/
def DiagnosticKind.heading : DiagnosticKind → String
  | fieldNotFound => "Field not found"
  | classNotFound => "No eligible class"
  | malformed => "Malformed source"
  | invalidConfiguration => "Invalid configuration"
  | inputOutput => "I/O error"

/-- What a person is told about something that went wrong. -/
structure Diagnostic where
  /-- The kind of thing that went wrong. -/
  kind : DiagnosticKind
  /-- What went wrong. -/
  message : String
  /-- The line that it is about, counted from zero. -/
  line : Option Nat
  /-- What may be done about it. -/
  help : Option String
  deriving DecidableEq, Repr

namespace Diagnostic

/-- Heading and message in one line. -/
def headline (diagnostic : Diagnostic) : String :=
  diagnostic.kind.heading ++ ": " ++ diagnostic.message

/-- The lines of a text, each without one carriage return before its line feed; nothing follows a
line feed at the end. -/
def sourceLines (text : Text) : List Text :=
  let pieces := text.splitOn '\n'
  let terminated := pieces.dropLast.map dropReturn
  match pieces.getLast? with
  | some (c :: rest) => terminated ++ [c :: rest]
  | _ => terminated

/-- A line of the document behind its number, below a blank line of the margin. -/
def excerpt (index : Nat) (line : Text) : String :=
  let number := toString (index + 1)
  let width := max 2 number.length
  String.ofList (List.replicate width ' ') ++ " |\n" ++
    String.ofList (List.replicate (width - number.length) ' ') ++ number ++
    " | " ++ line.asString ++
    "\n"

/-- The full report on a file: where, what, the line of the document, and help. -/
def render (diagnostic : Diagnostic) (source : Text) (file : String) : String :=
  let place := match diagnostic.line with
    | some line => " file: " ++ file ++ ":" ++ toString (line + 1) ++ "\n"
    | none => " file: " ++ file ++ "\n"
  let shown := match diagnostic.line with
    | some line => ((sourceLines source)[line]?.map (excerpt line)).getD ""
    | none => ""
  let help := match diagnostic.help with
    | some help => " help: " ++ help ++ "\n"
    | none => ""
  place ++ "error: " ++ diagnostic.headline ++ "\n" ++ shown ++ help

end Diagnostic
end FieldInjection
