import FieldInjection.Inspection

/-!
# Editor sessions

An editor holds a document, knows the field at the caret, and lets an action replace the document in
one transaction.  The action injects the field at the caret.

## Main Definitions

* `fieldAtLine?`, `fieldAtOffset?`: the field at a caret given by line or by byte offset.
* `InjectAction`: the action, with its title, its availability and its edit.
* `Editor`: what the action needs of an editor.
* `InjectAction.run`: one run of the action, with at most one transaction.
* `Host`: an editor that keeps its document in memory and counts its commits.
* `Session`: an editor together with the action it has at hand.
-/

namespace FieldInjection

/-- The field declared on a line of a text. -/
def fieldAtLine? (text : Text) (line : Nat) : Option Text :=
  (text.splitOn '\n')[line]?.bind declaredFieldName?

/-- The field declared on the line that holds a byte offset. -/
def fieldAtOffset? (text : Text) (offset : Nat) : Option Text :=
  fieldAtLine? text (lineAtOffset text offset)

/-- The action that injects the field at the caret. -/
structure InjectAction where
  /-- How injections are made. -/
  injector : Injector

/-- A new text for a document, and what it changes. -/
structure DocumentEdit where
  /-- The text after the edit. -/
  text : Text
  /-- What the edit changes. -/
  summary : Summary
  deriving DecidableEq, Repr

namespace InjectAction

/-- The title under which the action is offered. -/
def title (action : InjectAction) : Text :=
  "Inject Dependency via ".toList ++ action.injector.config.marker.trim

/-- Whether the action is offered for a document and the field at the caret. -/
def isAvailable (action : InjectAction) (text : Text) (field : Option Text) : Bool :=
  field.any (action.injector.isAvailable text)

/-- The edit that the action makes, if it applies. -/
def edit? (action : InjectAction) (text : Text) (field : Option Text) : Option DocumentEdit := do
  let outcome := action.injector.inject text (← field)
  return ⟨outcome.text, ← outcome.summary⟩

end InjectAction

/-- What the action needs of an editor: a document, the field at the caret, and transactions. -/
class Editor (H : Type) where
  /-- The document. -/
  text : H → Text
  /-- The field at the caret, if there is one. -/
  field : H → Option Text
  /-- Replaces the document in one transaction: whether that went well, and the editor after it. -/
  commit : H → Text → Except Diagnostic Unit × H

/-- Runs the action once: what was changed, if anything was, and the editor after it. -/
def InjectAction.run {H : Type} [Editor H] (action : InjectAction) (host : H) :
    Except Diagnostic (Option Summary) × H :=
  match action.edit? (Editor.text host) (Editor.field host) with
  | none => (.ok none, host)
  | some edit =>
    match Editor.commit host edit.text with
    | (.error diagnostic, after) => (.error diagnostic, after)
    | (.ok (), after) => (.ok (some edit.summary), after)

/-- An editor that keeps in memory a document, the field at the caret, and a count of the
transactions. -/
structure Host where
  /-- The document. -/
  text : Text
  /-- The field at the caret, if there is one. -/
  field : Option Text
  /-- How many transactions were committed. -/
  commits : Nat
  /-- Whether transactions are refused. -/
  readOnly : Bool
  deriving DecidableEq, Repr

namespace Host

/-- An editor that has just opened a document. -/
def opened (text : Text) : Host := ⟨text, none, 0, false⟩

/-- The diagnostic of an editor that refuses a transaction. -/
def refusal : Diagnostic := ⟨.inputOutput, "document is read-only", none, none⟩

/-- Replaces the document in one transaction, unless the editor refuses. -/
def commit (host : Host) (text : Text) : Except Diagnostic Unit × Host :=
  if host.readOnly then (.error refusal, host)
  else (.ok (), { host with text := text, commits := host.commits + 1 })

instance : Editor Host := ⟨Host.text, Host.field, Host.commit⟩

end Host

/-- An editor together with the action it has at hand. -/
structure Session where
  /-- The editor. -/
  host : Host
  /-- The action. -/
  action : InjectAction

/-- What an editor can ask for. -/
inductive Request where
  /-- Take another text as the document. -/
  | setText (text : Text)
  /-- Take another field, or none, as the one at the caret. -/
  | setField (field : Option Text)
  /-- Put the caret on a line. -/
  | caretLine (line : Nat)
  /-- Put the caret at a byte offset. -/
  | caretOffset (offset : Nat)
  /-- Refuse transactions from now on, or accept them again. -/
  | setReadOnly (value : Bool)
  /-- Take another action. -/
  | configure (injector : Injector)
  /-- Ask for the title of the action. -/
  | title
  /-- Ask whether the action is offered. -/
  | available
  /-- Ask for the plan. -/
  | plan
  /-- Ask for the edit without making it. -/
  | preview
  /-- Ask for all fields that could be injected. -/
  | inspect
  /-- Run the action. -/
  | run

/-- What an editor is answered. -/
inductive Answer where
  /-- Nothing. -/
  | done
  /-- The title of the action. -/
  | title (text : Text)
  /-- Whether the action is offered. -/
  | available (value : Bool)
  /-- The plan. -/
  | plan (plan : Plan)
  /-- The edit, if the action applies. -/
  | preview (edit : Option DocumentEdit)
  /-- All fields that could be injected. -/
  | findings (findings : List Finding)
  /-- What was changed, or why the transaction was refused. -/
  | ran (result : Except Diagnostic (Option Summary))

namespace Session

/-- One request: the answer, and the session after it. -/
def step (session : Session) : Request → Answer × Session
  | .setText text => (.done, { session with host := { session.host with text := text } })
  | .setField field => (.done, { session with host := { session.host with field := field } })
  | .caretLine line =>
    (.done, { session with host :=
      { session.host with field := fieldAtLine? session.host.text line } })
  | .caretOffset offset =>
    (.done, { session with host :=
      { session.host with field := fieldAtOffset? session.host.text offset } })
  | .setReadOnly value => (.done, { session with host := { session.host with readOnly := value } })
  | .configure injector => (.done, { session with action := ⟨injector⟩ })
  | .title => (.title session.action.title, session)
  | .available =>
    (.available (session.action.isAvailable session.host.text session.host.field), session)
  | .plan =>
    (.plan (session.action.injector.plan session.host.text (session.host.field.getD [])), session)
  | .preview => (.preview (session.action.edit? session.host.text session.host.field), session)
  | .inspect => (.findings (session.action.injector.inspect session.host.text), session)
  | .run =>
    let (result, host) := session.action.run session.host
    (.ran result, { session with host := host })

end Session
end FieldInjection
