import FieldInjection.Text.Basic

/-!
# Snapshots of a document

A snapshot is the sequence of lines of a document together with the line ending that the document is
written with.  Lines are counted from zero.  Edits return a new snapshot; the one that was looked at
stays as it was.

## Main Definitions

* `Snapshot.ofText`, `Snapshot.toText`: reading a document and writing it out.
* `Snapshot.insertLines`, `Snapshot.replaceLine`: the two edits.
* `lineAtOffset`: the line that holds a byte offset.

## Design Notes

A document has one line ending: as soon as one line of a text ends in carriage return and line feed,
all lines are written back that way.  One carriage return is cut off the end of every line, also of
the last, which no line feed ends.  A text with mixed line endings, or one that ends in a carriage
return, is therefore not reproduced.
-/

namespace FieldInjection

/-- How the lines of a document end. -/
inductive LineEnding where
  /-- A line feed. -/
  | lineFeed
  /-- A carriage return and a line feed. -/
  | carriageReturnLineFeed
  deriving DecidableEq, Repr

/-- The characters between two lines. -/
def LineEnding.text : LineEnding → Text
  | lineFeed => ['\n']
  | carriageReturnLineFeed => ['\r', '\n']

/-- The lines of a document and the way they end. -/
structure Snapshot where
  /-- The lines, without their endings. -/
  lines : List Text
  /-- What is written between two lines. -/
  ending : LineEnding
  deriving DecidableEq, Repr

/-- Whether a carriage return directly before a line feed occurs. -/
def hasReturnFeed : Text → Bool
  | [] => false
  | c :: rest => (c == '\r' && rest.head? == some '\n') || hasReturnFeed rest

/-- A line without one carriage return at its end. -/
def dropReturn (line : Text) : Text :=
  if line.getLast? = some '\r' then line.dropLast else line

/-- The line ending that a text is written with. -/
def LineEnding.ofText (text : Text) : LineEnding :=
  if hasReturnFeed text then carriageReturnLineFeed else lineFeed

namespace Snapshot

/-- The snapshot of a text.  A line feed at the end of the text shows as a last, empty line. -/
def ofText (text : Text) : Snapshot :=
  ⟨(text.splitOn '\n').map dropReturn, LineEnding.ofText text⟩

/-- The snapshot that consists of the given lines. -/
def ofLines (lines : List Text) : Snapshot :=
  ⟨lines, LineEnding.lineFeed⟩

/-- The text of a snapshot: its lines with the line ending between them. -/
def toText (snapshot : Snapshot) : Text :=
  snapshot.ending.text.intercalate snapshot.lines

/-- How many lines there are. -/
def size (snapshot : Snapshot) : Nat :=
  snapshot.lines.length

/-- The line with a given number. -/
def line? (snapshot : Snapshot) (index : Nat) : Option Text :=
  snapshot.lines[index]?

/-- The snapshot with new lines before the given line; past the end they are appended. -/
def insertLines (snapshot : Snapshot) (index : Nat) (added : List Text) : Snapshot :=
  { snapshot with lines := snapshot.lines.take index ++ added ++ snapshot.lines.drop index }

/-- The snapshot with one line replaced; past the end nothing changes. -/
def replaceLine (snapshot : Snapshot) (index : Nat) (line : Text) : Snapshot :=
  { snapshot with lines := snapshot.lines.set index line }

end Snapshot

/-- The line that holds a byte offset of a text: the number of line feeds among the characters that
lie wholly before the offset.  Offsets past the end belong to the last line. -/
def lineAtOffset : Text → Nat → Nat
  | [], _ => 0
  | c :: rest, offset =>
    if offset < c.utf8Size then 0
    else (if c = '\n' then 1 else 0) + lineAtOffset rest (offset - c.utf8Size)

end FieldInjection
