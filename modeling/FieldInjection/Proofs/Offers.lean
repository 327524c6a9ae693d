import FieldInjection.Proofs.Ink
import FieldInjection.Session

/-!
# An action is offered exactly when it changes the document

A plan and its edit come from one computation, so what is offered can be carried out.  That it
changes the document is another matter: an edit may leave out either of its parts, a parameter list
is trimmed before it is extended, and all line endings are written alike.  The ink of the document
settles it: none of these touches a visible character, and every edit adds some.

Over a whole session of an editor this means that a run of the action is a transaction with a new
text in it, or nothing at all.

## Main Definitions

* `Exchange`, `Session.exchanges`: a request with the sessions around it, and all those of a run.
* `Exchange.Commits`, `Exchange.Keeps`: a transaction, and none.
* `Exchange.IsAccounted`: what a request may do to the document and the count of transactions.

## Main Statements

* `Injector.isAvailable_plan_iff_text_ne`: the plan and the text agree.
* `Session.isAccounted_exchange`, `Session.isAccounted_of_mem_exchanges`: one request, and every
  request of a run.
* `offered_iff_changed_in_sessions`: both together.
-/

namespace FieldInjection

namespace Injector

variable {injector : Injector} {text name : Text}

/-- Where nothing is offered, nothing is done. -/
theorem inject_of_not_available (h : (injector.plan text name).isAvailable = false) :
    ∃ reason, injector.inject text name = ⟨.unavailable reason, text, none⟩ := by
  cases hprepare : injector.prepare (.ofText text) name with
  | error reason => exact ⟨reason, by rw [inject, hprepare]⟩
  | ok edit =>
    rw [isAvailable_plan_iff.mpr ⟨edit, hprepare⟩] at h
    exact absurd h (by decide)

/-- Where something is offered, the text after it has more ink, and there is a summary. -/
theorem ink_lt_of_available (h : (injector.plan text name).isAvailable = true) :
    text.ink < (injector.inject text name).text.ink ∧
      (injector.inject text name).summary.isSome = true := by
  obtain ⟨edit, hprepare⟩ := isAvailable_plan_iff.mp h
  have hink := inkOf_lt_of_prepare hprepare
  rw [inkOf_ofText] at hink
  rw [inject_of_prepare hprepare, ink_toText]
  exact ⟨hink, rfl⟩

/-- An injection is available exactly when it gives another text. -/
theorem isAvailable_plan_iff_text_ne :
    (injector.plan text name).isAvailable = true ↔ (injector.inject text name).text ≠ text := by
  constructor
  · intro h heq
    have hink := (ink_lt_of_available h).1
    rw [heq] at hink
    exact Nat.lt_irrefl _ hink
  · intro hne
    by_contra h
    obtain ⟨reason, hinject⟩ := inject_of_not_available (Bool.eq_false_iff.mpr h)
    rw [hinject] at hne
    exact hne rfl

end Injector

/-! ## One run of the action -/

namespace InjectAction

variable {action : InjectAction} {text : Text} {field : Option Text}

/-- An action that is not offered has no edit. -/
theorem edit?_of_not_available (h : action.isAvailable text field = false) :
    action.edit? text field = none := by
  cases field with
  | none => rfl
  | some name =>
    obtain ⟨reason, hinject⟩ := Injector.inject_of_not_available h
    simp [edit?, hinject]

/-- Where something is offered for a field, the edit of the action is the injection of the field. -/
theorem exists_edit?_of_plan {name : Text}
    (h : (action.injector.plan text name).isAvailable = true) :
    ∃ summary, action.edit? text (some name) =
      some ⟨(action.injector.inject text name).text, summary⟩ := by
  obtain ⟨-, hsummary⟩ := Injector.ink_lt_of_available h
  obtain ⟨summary, hsome⟩ := Option.isSome_iff_exists.mp hsummary
  exact ⟨summary, by simp [edit?, hsome]⟩

/-- An action that is offered has an edit, and it is to another text. -/
theorem exists_edit?_of_available (h : action.isAvailable text field = true) :
    ∃ edit, action.edit? text field = some edit ∧ edit.text ≠ text := by
  cases field with
  | none => exact absurd h (by simp [isAvailable])
  | some name =>
    obtain ⟨summary, hedit⟩ := exists_edit?_of_plan h
    exact ⟨_, hedit, Injector.isAvailable_plan_iff_text_ne.mp h⟩

section Run

variable {H : Type} [Editor H] {action : InjectAction} {host after : H} {edit : DocumentEdit}

/-- Where the action does not apply, a run leaves the editor alone. -/
theorem run_of_edit?_eq_none (h : action.edit? (Editor.text host) (Editor.field host) = none) :
    action.run host = (.ok none, host) := by
  rw [run, h]

/-- A run of an action that applies is a transaction, if the editor accepts it. -/
theorem run_of_commit_eq_ok (h : action.edit? (Editor.text host) (Editor.field host) = some edit)
    (hcommit : Editor.commit host edit.text = (.ok (), after)) :
    action.run host = (.ok (some edit.summary), after) := by
  simp only [run, h, hcommit]

/-- If the editor refuses the transaction, the run says why. -/
theorem run_of_commit_eq_error {diagnostic : Diagnostic}
    (h : action.edit? (Editor.text host) (Editor.field host) = some edit)
    (hcommit : Editor.commit host edit.text = (.error diagnostic, after)) :
    action.run host = (.error diagnostic, after) := by
  simp only [run, h, hcommit]

end Run

end InjectAction

theorem Host.commit_of_readOnly {host : Host} (h : host.readOnly = true) (text : Text) :
    host.commit text = (.error refusal, host) :=
  if_pos h

theorem Host.commit_of_not_readOnly {host : Host} (h : host.readOnly = false) (text : Text) :
    host.commit text = (.ok (), { host with text := text, commits := host.commits + 1 }) :=
  if_neg (by simp [h])

/-- A request, the session that it met, the answer, and the session that it left. -/
structure Exchange where
  /-- The session before the request. -/
  before : Session
  /-- The request. -/
  request : Request
  /-- The answer. -/
  answer : Answer
  /-- The session after the request. -/
  after : Session

namespace Exchange

/-- Whether the action was offered before the request. -/
def offered (exchange : Exchange) : Bool :=
  exchange.before.action.isAvailable exchange.before.host.text exchange.before.host.field

/-- A transaction: it is answered with what was changed, it is counted once, and the document is
another one. -/
structure Commits (exchange : Exchange) : Prop where
  /-- The answer says what was changed. -/
  answer : ∃ summary, exchange.answer = .ran (.ok (some summary))
  /-- The transaction is counted once. -/
  commits : exchange.after.host.commits = exchange.before.host.commits + 1
  /-- The document is another one. -/
  text : exchange.after.host.text ≠ exchange.before.host.text

/-- No transaction, and the document as it was. -/
structure Keeps (exchange : Exchange) : Prop where
  /-- No transaction is counted. -/
  commits : exchange.after.host.commits = exchange.before.host.commits
  /-- The document is as it was. -/
  text : exchange.after.host.text = exchange.before.host.text

/-- A run of the action is a transaction if the action is offered and the editor accepts it; else it
says that there was nothing to do, or that the transaction was refused. -/
inductive RunIsAccounted (exchange : Exchange) : Prop where
  /-- The transaction is made. -/
  | committed (offered : exchange.offered = true)
      (accepted : exchange.before.host.readOnly = false) (commits : exchange.Commits)
  /-- The transaction is refused. -/
  | refused (offered : exchange.offered = true) (readOnly : exchange.before.host.readOnly = true)
      (answer : exchange.answer = .ran (.error Host.refusal)) (keeps : exchange.Keeps)
  /-- The action is not offered: there is no field at the caret, or nothing to do for it. -/
  | idle (unavailable : exchange.offered = false) (answer : exchange.answer = .ran (.ok none))
      (keeps : exchange.Keeps)

/-- What a request may do to the document and to the count of transactions. -/
def IsAccounted (exchange : Exchange) : Prop :=
  match exchange.request with
  | .run => exchange.RunIsAccounted
  | .setText text =>
    exchange.after.host.text = text ∧ exchange.after.host.commits = exchange.before.host.commits
  | _ => exchange.Keeps

/-- Whether the answer says that something was changed. -/
def saysChanged (exchange : Exchange) : Bool :=
  match exchange.answer with
  | .ran (.ok (some _)) => true
  | _ => false

end Exchange

namespace Session

/-- One request with the sessions around it. -/
def exchange (session : Session) (request : Request) : Exchange :=
  ⟨session, request, (session.step request).1, (session.step request).2⟩

/-- The requests of a run, each with the sessions around it. -/
def exchanges (session : Session) : List Request → List Exchange
  | [] => []
  | request :: requests =>
    session.exchange request :: exchanges (session.step request).2 requests

/-- The session after a run of requests. -/
def after (session : Session) (requests : List Request) : Session :=
  requests.foldl (fun session request => (session.step request).2) session

/-- A run of the action, by what was offered and whether the editor accepts transactions. -/
theorem runIsAccounted (session : Session) : (session.exchange .run).RunIsAccounted := by
  -- the offer decides whether there is an edit at all, the editor whether it is made
  cases hoffered : session.action.isAvailable session.host.text session.host.field with
  | false =>
    have hedit := InjectAction.edit?_of_not_available hoffered
    have hidle : session.action.run session.host = (.ok none, session.host) :=
      InjectAction.run_of_edit?_eq_none hedit
    have hrun : session.step .run = (.ran (.ok none), session) := by
      simp only [step, hidle]
    refine .idle hoffered ?_ ⟨?_, ?_⟩ <;> simp [exchange, hrun]
  | true =>
    obtain ⟨edit, hedit, hne⟩ := InjectAction.exists_edit?_of_available hoffered
    cases hreadOnly : session.host.readOnly with
    | true =>
      have hrefused : session.action.run session.host = (.error Host.refusal, session.host) :=
        InjectAction.run_of_commit_eq_error hedit (Host.commit_of_readOnly hreadOnly edit.text)
      have hrun : session.step .run = (.ran (.error Host.refusal), session) := by
        simp only [step, hrefused]
      refine .refused hoffered hreadOnly ?_ ⟨?_, ?_⟩ <;> simp [exchange, hrun]
    | false =>
      have hcommitted : session.action.run session.host = (.ok (some edit.summary),
          { session.host with text := edit.text, commits := session.host.commits + 1 }) :=
        InjectAction.run_of_commit_eq_ok hedit (Host.commit_of_not_readOnly hreadOnly edit.text)
      have hrun : session.step .run = (.ran (.ok (some edit.summary)), { session with host :=
          { session.host with text := edit.text, commits := session.host.commits + 1 } }) := by
        simp only [step, hcommitted]
      refine .committed hoffered hreadOnly
        ⟨⟨edit.summary, ?_⟩, ?_, ?_⟩ <;> simp [exchange, hrun, hne]

/-- Every request is accounted for. -/
theorem isAccounted_exchange (session : Session) (request : Request) :
    (session.exchange request).IsAccounted := by
  cases request with
  | run => exact session.runIsAccounted
  | setText text => exact ⟨rfl, rfl⟩
  | setField | caretLine | caretOffset | setReadOnly | configure => exact ⟨rfl, rfl⟩
  | title | available | plan | preview | inspect => exact ⟨rfl, rfl⟩

/-- A request counts a transaction exactly when its answer says that something was changed. -/
theorem commits_step (session : Session) (request : Request) :
    (session.step request).2.host.commits =
      session.host.commits + if (session.exchange request).saysChanged then 1 else 0 := by
  cases request with
  | run =>
    cases session.runIsAccounted with
    | committed _ _ hcommits =>
      obtain ⟨summary, hanswer⟩ := hcommits.answer
      rw [Exchange.saysChanged, hanswer]
      exact hcommits.commits
    | refused _ _ hanswer hkeeps =>
      rw [Exchange.saysChanged, hanswer]
      exact hkeeps.commits
    | idle _ hanswer hkeeps =>
      rw [Exchange.saysChanged, hanswer]
      exact hkeeps.commits
  | setText | setField | caretLine | caretOffset | setReadOnly | configure => rfl
  | title | available | plan | preview | inspect => rfl

/-- Every request of a run is accounted for. -/
theorem isAccounted_of_mem_exchanges {session : Session} {requests : List Request}
    {exchange : Exchange} (h : exchange ∈ session.exchanges requests) : exchange.IsAccounted := by
  induction requests generalizing session with
  | nil => simp [exchanges] at h
  | cons request requests ih =>
    rcases List.mem_cons.mp h with rfl | hlater
    · exact session.isAccounted_exchange request
    · exact ih hlater

/-- The transactions of a run are those that its answers speak of. -/
theorem commits_after (session : Session) (requests : List Request) :
    (session.after requests).host.commits =
      session.host.commits + (session.exchanges requests).countP Exchange.saysChanged := by
  induction requests generalizing session with
  | nil => rfl
  | cons request requests ih =>
    have hstep := session.commits_step request
    have hrest := ih (session.step request).2
    rw [after] at hrest
    rw [after, List.foldl_cons, hrest, hstep, exchanges, List.countP_cons]
    omega

end Session

/-- An injection is available exactly when it gives another text, whatever the text, the
configuration and the backend.  So in every session a run of the action makes one transaction with
another text, or leaves the document and the count alone; nothing else but a new text given to the
editor changes the document, and nothing else at all is counted. -/
theorem offered_iff_changed_in_sessions :
    (∀ (injector : Injector) (text name : Text),
      (injector.plan text name).isAvailable = true ↔ (injector.inject text name).text ≠ text) ∧
    ∀ (session : Session) (requests : List Request),
      (∀ exchange ∈ session.exchanges requests, exchange.IsAccounted) ∧
      (session.after requests).host.commits =
        session.host.commits + (session.exchanges requests).countP Exchange.saysChanged := by
  refine ⟨fun injector text name => Injector.isAvailable_plan_iff_text_ne,
    fun session requests => ?_⟩
  exact ⟨fun exchange => Session.isAccounted_of_mem_exchanges, session.commits_after requests⟩

end FieldInjection
