/-
Module: ProstheticConscience.ConsensusCli.App
Purpose: The consensus client: the app with its entry buffer, the session task that feeds its event
  queue, and the gateway's session log, as one transition system.  The app is a state machine
  whose control states are the points at which its functions wait.  The loss of a subscription and
  the `Disconnected` event that reports it are one step.
Trusted boundary: none
Main exports: SessionEvent, SessionTask, ConsensusApp, Control, CliState, CliAction, CliReport,
  cliStep, cliSystem
-/
import ProstheticConscience.Consensus.EntryBuffer
import ProstheticConscience.Gateway.Session

namespace ProstheticConscience.ConsensusCli

open Consensus Gateway

inductive SessionEvent where
  | entry (index : Nat) (payload : Value)
  | disconnected (reason : String)
  | reconnected
  | warning (message : String)
deriving DecidableEq, Repr

/-- A live subscription: the length of the log when it began, and the entries appended since that
have not been put on the event queue. -/
structure Subscription where
  start : Nat
  undelivered : List (Nat × Value)
deriving DecidableEq, Repr

/-- The session task: in its connected loop, between a reconnect and the event that reports it, or
without a connection. -/
inductive SessionTask where
  | connected (subscription : Subscription)
  | reconnecting (subscription : Subscription)
  | backoff
deriving DecidableEq, Repr

inductive ConfirmationAction where
  | submit
  | clearDrafts
deriving DecidableEq, Repr

structure ConsensusApp where
  buffer : EntryBuffer
  connected : Bool
  confirmation : Option ConfirmationAction

/-- Who called `catch_up`, and where its caller goes on. -/
inductive CatchUpCaller where
  | startup
  | mainLoop
  | submission (waitingFor : Nat)
deriving DecidableEq, Repr

/-- Where the app waits: in the main loop, in the fetches or the drain of a catch-up, at the top of
the submission loop, for the answer to an append, or for the echo of an entry. -/
inductive Control where
  | idle
  | fetching (caller : CatchUpCaller)
  | draining (caller : CatchUpCaller)
  | resuming
  | appending (waitingFor : Nat) (payload : Value)
  | awaiting (waitingFor : Nat)
  | stopped
deriving DecidableEq, Repr

/-- A line of input, as far as the app tells lines apart. -/
inductive InputLine where
  | empty
  | yes
  | submit
  | clear
  | query
  | quit
  | text
deriving DecidableEq, Repr

/-- The session: the gateway's log, the append messages it has accepted and not yet processed, the
event queue, the session task and the app. -/
structure CliState where
  log : AppendLog
  inFlight : List Value
  queue : List SessionEvent
  task : SessionTask
  app : ConsensusApp
  control : Control

inductive CliAction where
  /-- Another participant's append is processed. -/
  | otherAppends (payload : Value)
  /-- The gateway processes one of the accepted append messages. -/
  | processes (position : Nat)
  /-- The session task puts one of the undelivered entries on the queue. -/
  | delivers (position : Nat)
  | warns (message : String)
  | loses (reason : String)
  | resubscribes
  | announces
  /-- A page of the log is fetched, or the request fails. -/
  | fetches (succeeds : Bool)
  /-- The app takes its next step. -/
  | proceeds
  /-- The session task answers an append. -/
  | answers (accepted : Bool)
  | inputs (line : InputLine) (nextClaimId : Nat → ClaimId)
  /-- A language model turn edits the drafts. -/
  | drafts (op : DraftOp)

/-- What a step shows: an append message accepted by the transport, or a connection loss that the
app is told of. -/
inductive CliReport where
  | sent (payload : Value)
  | lossReported
deriving DecidableEq, Repr

def entryPageLimit : Nat := 1000

/-- The limit of the gateway's entries endpoint. -/
def maxLimit : Nat := 1000

/-! ### The app -/

namespace ConsensusApp

variable (parseEntry : Value → Except String Entry)

def applyEntry (app : ConsensusApp) (index : Nat) (payload : Value) : ConsensusApp :=
  { app with buffer := (app.buffer.applyOrBufferEntry parseEntry index payload).2 }

/-- What every consumer of session events does with an event. -/
def observe (app : ConsensusApp) : SessionEvent → ConsensusApp
  | .entry index payload => app.applyEntry parseEntry index payload
  | .disconnected _ => { app with connected := false }
  | .reconnected => { app with connected := true }
  | .warning _ => app

/-- Finish the submission if it is complete and go on; an error ends the app. -/
def finishIfComplete (app : ConsensusApp) (next : Control) : ConsensusApp × Control :=
  if app.buffer.isSubmissionComplete then
    match app.buffer.finishSubmission with
    | (.ok _, buffer) => ({ app with buffer }, next)
    | (.error _, buffer) => ({ app with buffer }, .stopped)
  else (app, next)

def handleSessionEvent (app : ConsensusApp) (event : SessionEvent) : ConsensusApp × Control :=
  let observed := app.observe parseEntry event
  match event with
  | .entry _ _ => observed.finishIfComplete .idle
  | .disconnected _ => (observed, .idle)
  | .reconnected => (observed, .fetching .mainLoop)
  | .warning _ => (observed, .idle)

/-- The wait for an echo ends when the app is not connected. -/
def keepAwaiting (app : ConsensusApp) (waitingFor : Nat) : Control :=
  if app.connected then .awaiting waitingFor else .idle

/-- One event in the inner loop of `resume_pending_submission`. -/
def awaitEvent (app : ConsensusApp) (waitingFor : Nat) (event : SessionEvent) :
    ConsensusApp × Control :=
  let observed := app.observe parseEntry event
  match event with
  | .entry _ _ => observed.finishIfComplete (observed.keepAwaiting waitingFor)
  | .disconnected _ => (observed, observed.keepAwaiting waitingFor)
  | .reconnected => (observed, .fetching (.submission waitingFor))
  | .warning _ => (observed, observed.keepAwaiting waitingFor)

/-- The top of the loop of `resume_pending_submission`. -/
def resumePendingSubmission (app : ConsensusApp) : ConsensusApp × Control :=
  match app.buffer.pendingSubmission with
  | none => (app, .idle)
  | some pending =>
      if pending.isComplete then app.finishIfComplete .idle
      else if !app.connected then (app, .idle)
      else
        match pending.payloads[pending.nextEntry]? with
        | some payload => (app, .appending pending.nextEntry payload)
        | none => (app, .stopped)

/-- The echo of the entry the submission waits for was seen. -/
def echoSeen (app : ConsensusApp) (waitingFor : Nat) : Bool :=
  app.buffer.pendingSubmission.any fun pending => decide (waitingFor < pending.nextEntry)

/-- One page of `catch_up`; an empty page ends the fetches. -/
def applyPage (app : ConsensusApp) (caller : CatchUpCaller) (entries : List Value) :
    ConsensusApp × Control :=
  if entries.isEmpty then (app, .draining caller)
  else
    let received := (entries.zipIdx app.buffer.nextIndex).map fun entry => (entry.2, entry.1)
    ({ app with buffer := EntryBuffer.receiveAll parseEntry app.buffer received },
      .fetching caller)

/-- The end of `catch_up`, back to its caller. -/
def caughtUp (app : ConsensusApp) (caller : CatchUpCaller) : ConsensusApp × Control :=
  app.finishIfComplete
    (match caller with
    | .startup => .idle
    | .mainLoop => .resuming
    | .submission waitingFor => app.keepAwaiting waitingFor)

def beginSubmission (app : ConsensusApp) (nextClaimId : Nat → ClaimId) :
    ConsensusApp × Control :=
  match app.buffer.beginSubmission nextClaimId with
  | (.ok none, buffer) => ({ app with buffer }, .idle)
  | (.ok (some _), buffer) => ({ app with buffer }, .resuming)
  | (.error _, buffer) => ({ app with buffer }, .stopped)

def handleConfirmation (app : ConsensusApp) (action : ConfirmationAction) (line : InputLine)
    (nextClaimId : Nat → ClaimId) : ConsensusApp × Control :=
  if line ≠ .yes then (app, .idle)
  else
    match action with
    | .submit => app.beginSubmission nextClaimId
    | .clearDrafts =>
        ({ app with
            buffer := { app.buffer with engine := app.buffer.engine.clearDrafts } }, .idle)

/-- The commands that change the app. -/
def handleCommand (app : ConsensusApp) : InputLine → ConsensusApp × Control
  | .submit =>
      if app.buffer.engine.showDrafts.isEmpty then (app, .idle)
      else if !app.connected then (app, .idle)
      else ({ app with confirmation := some .submit }, .idle)
  | .clear =>
      if app.buffer.engine.showDrafts.isEmpty then (app, .idle)
      else ({ app with confirmation := some .clearDrafts }, .idle)
  | .quit => (app, .stopped)
  | _ => (app, .idle)

/-- A line of input.  The turn of the language model that a text starts is a step of its own. -/
def handleInput (app : ConsensusApp) (line : InputLine) (nextClaimId : Nat → ClaimId) :
    ConsensusApp × Control :=
  if line = .empty then (app, .idle)
  else
    match app.confirmation with
    | some action =>
        handleConfirmation { app with confirmation := none } action line nextClaimId
    | none =>
        if app.buffer.pendingSubmission.isSome && line ≠ .query && line ≠ .quit then (app, .idle)
        else app.handleCommand line

/-- Whether a text is handed to the language model, whose turn may edit the drafts. -/
def mayDraft (app : ConsensusApp) : Bool :=
  app.confirmation.isNone && app.buffer.pendingSubmission.isNone && app.connected

end ConsensusApp

/-! ### Gateway and session task -/

namespace SessionTask

def subscription? : SessionTask → Option Subscription
  | connected subscription => some subscription
  | reconnecting subscription => some subscription
  | backoff => none

/-- The task of a subscription to which an entry is to be delivered. -/
def notify (entry : Nat × Value) : SessionTask → SessionTask
  | connected subscription =>
      .connected { subscription with undelivered := subscription.undelivered ++ [entry] }
  | reconnecting subscription =>
      .reconnecting { subscription with undelivered := subscription.undelivered ++ [entry] }
  | backoff => .backoff

def isConnected : SessionTask → Bool
  | connected _ => true
  | _ => false

end SessionTask

/-- The gateway processes an append: the log grows and the subscriber is notified. -/
def CliState.append (state : CliState) (payload : Value) : CliState :=
  { state with
    log := state.log.append payload
    task := state.task.notify (state.log.len, payload) }

/-- The subscription is lost, and the task reports it. -/
def CliState.lose (state : CliState) (reason : String) : CliState :=
  { state with queue := state.queue ++ [.disconnected reason], task := .backoff }

/-- The report of an event that is taken from the queue. -/
def SessionEvent.report : SessionEvent → Option CliReport
  | .disconnected _ => some .lossReported
  | _ => none

/-- The state after the app took a step. -/
def CliState.afterApp (state : CliState) (next : ConsensusApp × Control) : CliState :=
  { state with app := next.1, control := next.2 }

/-! ### Steps -/

section Steps

variable (parseEntry : Value → Except String Entry)

/-- The next step of the app, by its control state. -/
def appProceeds (state : CliState) : Option (CliState × Option CliReport) :=
  match state.control, state.queue with
  | .idle, event :: rest =>
      some
        (({ state with queue := rest }).afterApp (state.app.handleSessionEvent parseEntry event),
          event.report)
  | .draining caller, event :: rest =>
      some
        (({ state with queue := rest }).afterApp
          (state.app.observe parseEntry event, .draining caller), event.report)
  | .draining caller, [] => some (state.afterApp (state.app.caughtUp caller), none)
  | .resuming, _ => some (state.afterApp state.app.resumePendingSubmission, none)
  | .awaiting waitingFor, queue =>
      if state.app.echoSeen waitingFor then some ({ state with control := .resuming }, none)
      else
        match queue with
        | [] => none
        | event :: rest =>
            some
              (({ state with queue := rest }).afterApp
                (state.app.awaitEvent parseEntry waitingFor event), event.report)
  | _, _ => none

/-- One action, with what it shows; `none` when the action is not possible. -/
def cliStep (state : CliState) : CliAction → Option (CliState × Option CliReport)
  | .otherAppends payload => some (state.append payload, none)
  | .processes position =>
      match state.inFlight[position]? with
      | some payload =>
          some
            (({ state with inFlight := state.inFlight.eraseIdx position }).append payload, none)
      | none => none
  | .delivers position =>
      match state.task with
      | .connected subscription =>
          match subscription.undelivered[position]? with
          | some (index, payload) =>
              some
                ({ state with
                    queue := state.queue ++ [.entry index payload]
                    task :=
                      .connected
                        { subscription with
                          undelivered := subscription.undelivered.eraseIdx position } }, none)
          | none => none
      | _ => none
  | .warns message =>
      if state.task.isConnected then
        some ({ state with queue := state.queue ++ [.warning message] }, none)
      else none
  | .loses reason => if state.task.isConnected then some (state.lose reason, none) else none
  | .resubscribes =>
      match state.task with
      | .backoff =>
          some
            ({ state with
                task := .reconnecting { start := state.log.len, undelivered := [] } }, none)
      | _ => none
  | .announces =>
      match state.task with
      | .reconnecting subscription =>
          some
            ({ state with
                queue := state.queue ++ [.reconnected]
                task := .connected subscription }, none)
      | _ => none
  | .fetches succeeds =>
      match state.control with
      | .fetching caller =>
          if succeeds then
            let page := state.log.slice state.app.buffer.nextIndex (min entryPageLimit maxLimit)
            some (state.afterApp (state.app.applyPage parseEntry caller page), none)
          else some ({ state with control := .stopped }, none)
      | _ => none
  | .proceeds => appProceeds parseEntry state
  | .answers accepted =>
      match state.control, state.task, accepted with
      | .appending waitingFor payload, .connected _, true =>
          some
            ({ state with
                inFlight := state.inFlight ++ [payload]
                control := .awaiting waitingFor }, some (.sent payload))
      | .appending _ _, .connected _, false =>
          some
            ((state.lose "failed to send append over websocket").afterApp
              ({ state.app with connected := false }, .idle), some .lossReported)
      | .appending _ _, .backoff, false =>
          some
            (state.afterApp ({ state.app with connected := false }, .idle), some .lossReported)
      | _, _, _ => none
  | .inputs line nextClaimId =>
      match state.control with
      | .idle => some (state.afterApp (state.app.handleInput line nextClaimId), none)
      | _ => none
  | .drafts op =>
      match state.control with
      | .idle =>
          if state.app.mayDraft then
            let engine := (state.app.buffer.engine.perform op).2
            some
              (state.afterApp
                ({ state.app with buffer := { state.app.buffer with engine } }, .idle), none)
          else none
      | _ => none

/-- What each action does when it is possible. -/
inductive CliTurn (before : CliState) : CliAction → CliState → Option CliReport → Prop
  | otherAppends (payload : Value) :
      CliTurn before (.otherAppends payload) (before.append payload) none
  | processes (position : Nat) (payload : Value)
      (accepted : before.inFlight[position]? = some payload) :
      CliTurn before (.processes position)
        (({ before with inFlight := before.inFlight.eraseIdx position }).append payload) none
  | delivers (position : Nat) (subscription : Subscription) (index : Nat) (payload : Value)
      (task : before.task = .connected subscription)
      (found : subscription.undelivered[position]? = some (index, payload)) :
      CliTurn before (.delivers position)
        { before with
          queue := before.queue ++ [.entry index payload]
          task :=
            .connected
              { subscription with
                undelivered := subscription.undelivered.eraseIdx position } } none
  | warns (message : String) (online : before.task.isConnected = true) :
      CliTurn before (.warns message)
        { before with queue := before.queue ++ [.warning message] } none
  | loses (reason : String) (online : before.task.isConnected = true) :
      CliTurn before (.loses reason) (before.lose reason) none
  | resubscribes (task : before.task = .backoff) :
      CliTurn before .resubscribes
        { before with
          task := .reconnecting { start := before.log.len, undelivered := [] } } none
  | announces (subscription : Subscription) (task : before.task = .reconnecting subscription) :
      CliTurn before .announces
        { before with
          queue := before.queue ++ [.reconnected]
          task := .connected subscription } none
  | fetches (caller : CatchUpCaller) (control : before.control = .fetching caller) :
      CliTurn before (.fetches true)
        (before.afterApp
          (before.app.applyPage parseEntry caller
            (before.log.slice before.app.buffer.nextIndex (min entryPageLimit maxLimit)))) none
  | fetchFails (caller : CatchUpCaller) (control : before.control = .fetching caller) :
      CliTurn before (.fetches false) { before with control := .stopped } none
  | handles (event : SessionEvent) (rest : List SessionEvent) (control : before.control = .idle)
      (queue : before.queue = event :: rest) :
      CliTurn before .proceeds
        (({ before with queue := rest }).afterApp
          (before.app.handleSessionEvent parseEntry event)) event.report
  | drains (caller : CatchUpCaller) (event : SessionEvent) (rest : List SessionEvent)
      (control : before.control = .draining caller) (queue : before.queue = event :: rest) :
      CliTurn before .proceeds
        (({ before with queue := rest }).afterApp
          (before.app.observe parseEntry event, .draining caller)) event.report
  | drained (caller : CatchUpCaller) (control : before.control = .draining caller)
      (queue : before.queue = []) :
      CliTurn before .proceeds (before.afterApp (before.app.caughtUp caller)) none
  | resumes (control : before.control = .resuming) :
      CliTurn before .proceeds (before.afterApp before.app.resumePendingSubmission) none
  | seesEcho (waitingFor : Nat) (control : before.control = .awaiting waitingFor)
      (seen : before.app.echoSeen waitingFor = true) :
      CliTurn before .proceeds { before with control := .resuming } none
  | awaits (waitingFor : Nat) (event : SessionEvent) (rest : List SessionEvent)
      (control : before.control = .awaiting waitingFor)
      (unseen : before.app.echoSeen waitingFor = false) (queue : before.queue = event :: rest) :
      CliTurn before .proceeds
        (({ before with queue := rest }).afterApp
          (before.app.awaitEvent parseEntry waitingFor event)) event.report
  | accepted (waitingFor : Nat) (payload : Value) (subscription : Subscription)
      (control : before.control = .appending waitingFor payload)
      (task : before.task = .connected subscription) :
      CliTurn before (.answers true)
        { before with
          inFlight := before.inFlight ++ [payload]
          control := .awaiting waitingFor } (some (.sent payload))
  | sendFails (waitingFor : Nat) (payload : Value) (subscription : Subscription)
      (control : before.control = .appending waitingFor payload)
      (task : before.task = .connected subscription) :
      CliTurn before (.answers false)
        ((before.lose "failed to send append over websocket").afterApp
          ({ before.app with connected := false }, .idle)) (some .lossReported)
  | refused (waitingFor : Nat) (payload : Value)
      (control : before.control = .appending waitingFor payload)
      (task : before.task = .backoff) :
      CliTurn before (.answers false)
        (before.afterApp ({ before.app with connected := false }, .idle)) (some .lossReported)
  | inputs (line : InputLine) (nextClaimId : Nat → ClaimId) (control : before.control = .idle) :
      CliTurn before (.inputs line nextClaimId)
        (before.afterApp (before.app.handleInput line nextClaimId)) none
  | drafts (op : DraftOp) (control : before.control = .idle)
      (allowed : before.app.mayDraft = true) :
      CliTurn before (.drafts op)
        (before.afterApp
          ({ before.app with
              buffer :=
                { before.app.buffer with engine := (before.app.buffer.engine.perform op).2 } },
            .idle)) none

/-- Every step in which the app proceeds by itself is one of the turns of `CliTurn`. -/
theorem appProceeds_turn {before after : CliState} {report : Option CliReport}
    (step : appProceeds parseEntry before = some (after, report)) :
    CliTurn parseEntry before .proceeds after report := by
  unfold appProceeds at step
  split at step
  · simp only [Option.some.injEq, Prod.mk.injEq] at step
    obtain ⟨rfl, rfl⟩ := step
    exact .handles _ _ ‹_› ‹_›
  · simp only [Option.some.injEq, Prod.mk.injEq] at step
    obtain ⟨rfl, rfl⟩ := step
    exact .drains _ _ _ ‹_› ‹_›
  · simp only [Option.some.injEq, Prod.mk.injEq] at step
    obtain ⟨rfl, rfl⟩ := step
    exact .drained _ ‹_› ‹_›
  · simp only [Option.some.injEq, Prod.mk.injEq] at step
    obtain ⟨rfl, rfl⟩ := step
    exact .resumes ‹_›
  · split at step
    · simp only [Option.some.injEq, Prod.mk.injEq] at step
      obtain ⟨rfl, rfl⟩ := step
      exact .seesEcho _ ‹_› ‹_›
    · rename_i unseen
      split at step
      · cases step
      · simp only [Option.some.injEq, Prod.mk.injEq] at step
        obtain ⟨rfl, rfl⟩ := step
        exact .awaits _ _ _ ‹_› (Bool.not_eq_true _ ▸ unseen) ‹_›
  · cases step

/-- The inversion of the step function: every step of the client is one of the turns of `CliTurn`,
with what it requires of the state before. -/
theorem cliStep_turn {before after : CliState} {action : CliAction} {report : Option CliReport}
    (step : cliStep parseEntry before action = some (after, report)) :
    CliTurn parseEntry before action after report := by
  cases action with
  | proceeds => exact appProceeds_turn parseEntry step
  | otherAppends payload =>
      obtain ⟨rfl, rfl⟩ := by simpa [cliStep] using step
      exact .otherAppends payload
  | processes position =>
      simp only [cliStep] at step
      split at step <;> simp at step
      obtain ⟨rfl, rfl⟩ := step
      exact .processes position _ ‹_›
  | delivers position =>
      simp only [cliStep] at step
      split at step
      · split at step <;> simp at step
        obtain ⟨rfl, rfl⟩ := step
        exact .delivers position _ _ _ ‹_› ‹_›
      · cases step
  | warns message =>
      simp only [cliStep] at step
      split at step <;> simp at step
      obtain ⟨rfl, rfl⟩ := step
      exact .warns message ‹_›
  | loses reason =>
      simp only [cliStep] at step
      split at step <;> simp at step
      obtain ⟨rfl, rfl⟩ := step
      exact .loses reason ‹_›
  | resubscribes =>
      simp only [cliStep] at step
      split at step <;> simp at step
      obtain ⟨rfl, rfl⟩ := step
      exact .resubscribes ‹_›
  | announces =>
      simp only [cliStep] at step
      split at step <;> simp at step
      obtain ⟨rfl, rfl⟩ := step
      exact .announces _ ‹_›
  | fetches succeeds =>
      cases succeeds <;> simp only [cliStep] at step <;> split at step <;> simp at step <;>
        obtain ⟨rfl, rfl⟩ := step
      · exact .fetchFails _ ‹_›
      · exact .fetches _ ‹_›
  | answers accepted =>
      simp only [cliStep] at step
      split at step <;> simp at step <;> obtain ⟨rfl, rfl⟩ := step
      · exact .accepted _ _ _ ‹_› ‹_›
      · exact .sendFails _ _ _ ‹_› ‹_›
      · exact .refused _ _ ‹_› ‹_›
  | inputs line nextClaimId =>
      simp only [cliStep] at step
      split at step <;> simp at step
      obtain ⟨rfl, rfl⟩ := step
      exact .inputs line nextClaimId ‹_›
  | drafts op =>
      simp only [cliStep] at step
      split at step
      · split at step <;> simp at step
        obtain ⟨rfl, rfl⟩ := step
        exact .drafts op ‹_› ‹_›
      · cases step

/-- A client that has just created or joined a session, about to catch up. -/
def CliState.joined (participant : String) (entries : List Value) : CliState where
  log := { entries }
  inFlight := []
  queue := []
  task := .connected { start := entries.length, undelivered := [] }
  app := { buffer := EntryBuffer.new participant, connected := true, confirmation := none }
  control := .fetching .startup

/-- The client as a transition system, labelled with the actions and what they show. -/
def cliSystem : TransitionSystem CliState (CliAction × Option CliReport) :=
  .ofPartial (fun state => ∃ participant entries, state = CliState.joined participant entries)
    (cliStep parseEntry)

end Steps

end ProstheticConscience.ConsensusCli
