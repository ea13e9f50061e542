/-
Module: ProstheticConscience.ConsensusCli.SessionRefinement
Purpose: The client with its session task as coded refines the client whose task is an abstract
  subscription: every run with the reconnects, handshakes and waits of the task is a run of the
  client system.
Trusted boundary: none
Main exports: TaskTurn, LiveState, LiveAction, liveStep, liveSystem, LiveState.StandsFor,
  live_client_refines, live_client_faithful
-/
import ProstheticConscience.ConsensusCli.Faithful
import ProstheticConscience.ConsensusCli.Session
import ProstheticConscience.Library.BackwardSimulation

namespace ProstheticConscience.ConsensusCli

open Consensus Gateway

/-! ### One turn of the task while the client lives -/

section TaskTurn

variable (parse : String → Except String SessionGatewayMessage) (sessionId : String)

/-- What the task does with each input while its events are listened to. -/
inductive TaskTurn (before : SessionLoop) : LoopInput → SessionLoop → List LoopOutput → Prop
  | stays (read : SocketRead)
      (phase : before.phase = .connected ∨ before.phase = .handshaking) :
      TaskTurn before (.socket read) before []
  | delivers (text : String) (index : Nat) (payload : Value)
      (connected : before.phase = .connected)
      (parsed : parse text = .ok (.entry index payload)) :
      TaskTurn before (.socket (.text text)) before [.event (.entry index payload)]
  | warns (text : String) (message : String) (connected : before.phase = .connected)
      (parsed : parse text = .ok (.error message)) :
      TaskTurn before (.socket (.text text)) before [.event (.warning message)]
  | loses (read : SocketRead) (reason : String) (connected : before.phase = .connected) :
      TaskTurn before (.socket read) { before with phase := .connecting, disconnected := true }
        [.event (.disconnected reason)]
  | sends (payload : Value) (connected : before.phase = .connected) :
      TaskTurn before (.append payload (.ok ())) before
        [.frame (.append payload), .reply payload (.ok ())]
  | sendFails (payload : Value) (error reason : String) (connected : before.phase = .connected) :
      TaskTurn before (.append payload (.error error))
        { before with phase := .connecting, disconnected := true }
        [.reply payload (.error (.disconnected reason)), .event (.disconnected reason)]
  | knocks (connecting : before.phase = .connecting) :
      TaskTurn before (.opened (.ok ())) { before with phase := .handshaking }
        [.frame (.subscribe sessionId)]
  | givesUp (input : LoopInput) (reason : String)
      (down : before.phase = .connecting ∨ before.phase = .handshaking) :
      TaskTurn before input { before with phase := .sleeping reason } [.sleep before.backoff]
  | resumes (text : String) (latest : Option Nat) (handshaking : before.phase = .handshaking)
      (parsed : parse text = .ok (.subscribed sessionId latest)) :
      TaskTurn before (.socket (.text text))
        { before with phase := .connected, backoff := backoffInitial } [.event .reconnected]
  | refuses (payload : Value) (sent : Except String Unit) (reason : String)
      (sleeping : before.phase = .sleeping reason) :
      TaskTurn before (.append payload sent) before
        [.reply payload (.error (.disconnected reason))]
  | wakes (reason : String) (sleeping : before.phase = .sleeping reason) :
      TaskTurn before .timer
        { before with phase := .connecting, backoff := min (before.backoff * 2) backoffMax } []

variable {parse sessionId} {before after : SessionLoop}

/-- An attempt that failed is a turn that the abstract task does not see. -/
theorem TaskTurn.of_retryLater {input : LoopInput} {now : List LoopOutput} {error : SessionError}
    (down : before.phase = .connecting ∨ before.phase = .handshaking)
    (told : before.disconnected = true)
    (step : before.retryLater true error = (after, now)) :
    TaskTurn parse sessionId before input after now := by
  simp only [SessionLoop.retryLater, told, if_true, Prod.mk.injEq] at step
  obtain ⟨rfl, rfl⟩ := step
  rw [← told]
  exact .givesUp input _ down

/-- What a connected task reads is a turn: a message that it passes on, a loss, or nothing. -/
theorem TaskTurn.of_readConnected {read : SocketRead} {now : List LoopOutput}
    (connected : before.phase = .connected)
    (step : before.readConnected parse true read = (after, now)) :
    TaskTurn parse sessionId before (.socket read) after now := by
  cases read with
  | text text =>
      simp only [SessionLoop.readConnected] at step
      split at step <;> obtain ⟨rfl, rfl⟩ := Prod.mk.inj step
      · exact .loses _ _ connected
      · exact .delivers _ _ _ connected ‹_›
      · exact .warns _ _ connected ‹_›
      · exact .loses _ _ connected
      · exact .stays _ (.inl connected)
  | other =>
      obtain ⟨rfl, rfl⟩ := Prod.mk.inj step
      exact .stays _ (.inl connected)
  | close =>
      obtain ⟨rfl, rfl⟩ := Prod.mk.inj step
      exact .loses _ _ connected
  | failed error =>
      obtain ⟨rfl, rfl⟩ := Prod.mk.inj step
      exact .loses _ _ connected
  | ended =>
      obtain ⟨rfl, rfl⟩ := Prod.mk.inj step
      exact .loses _ _ connected

/-- What a task reads in a handshake is a turn: a reconnect, or a failed attempt. -/
theorem TaskTurn.of_readHandshake {read : SocketRead} {now : List LoopOutput}
    (handshaking : before.phase = .handshaking) (told : before.disconnected = true)
    (step : before.readHandshake parse sessionId true read = (after, now)) :
    TaskTurn parse sessionId before (.socket read) after now := by
  cases read with
  | text text =>
      simp only [SessionLoop.readHandshake] at step
      split at step
      · exact .of_retryLater (.inr handshaking) told step
      · rename_i parsed
        split at step
        · rename_i same
          obtain ⟨rfl, rfl⟩ := Prod.mk.inj step
          exact .resumes _ _ handshaking (same ▸ parsed)
        · exact .of_retryLater (.inr handshaking) told step
      · exact .of_retryLater (.inr handshaking) told step
      · exact .of_retryLater (.inr handshaking) told step
      · obtain ⟨rfl, rfl⟩ := Prod.mk.inj step
        exact .stays _ (.inr handshaking)
  | other =>
      obtain ⟨rfl, rfl⟩ := Prod.mk.inj step
      exact .stays _ (.inr handshaking)
  | close => exact .of_retryLater (.inr handshaking) told step
  | failed error => exact .of_retryLater (.inr handshaking) told step
  | ended => exact .of_retryLater (.inr handshaking) told step

/-- Every step of a task whose client is there is a turn. -/
theorem TaskTurn.of_step {input : LoopInput} {now : List LoopOutput}
    (told : before.phase = .connecting ∨ before.phase = .handshaking → before.disconnected = true)
    (wanted : input ≠ .commandsClosed)
    (step : before.step parse sessionId input true = some (after, now)) :
    TaskTurn parse sessionId before input after now := by
  unfold SessionLoop.step at step
  split at step
  · rename_i payload sent connected
    cases sent with
    | ok accepted =>
        obtain ⟨rfl, rfl⟩ := Prod.mk.inj (Option.some.inj step)
        exact .sends _ connected
    | error error =>
        obtain ⟨rfl, rfl⟩ := Prod.mk.inj (Option.some.inj step)
        exact .sendFails _ _ _ connected
  · exact absurd rfl wanted
  · exact .of_readConnected ‹_› (Option.some.inj step)
  · obtain ⟨rfl, rfl⟩ := Prod.mk.inj (Option.some.inj step)
    exact .knocks ‹_›
  · rename_i error connecting
    exact .of_retryLater (.inl connecting) (told (.inl connecting)) (Option.some.inj step)
  · rename_i read handshaking
    exact .of_readHandshake handshaking (told (.inr handshaking)) (Option.some.inj step)
  · obtain ⟨rfl, rfl⟩ := Prod.mk.inj (Option.some.inj step)
    exact .refuses _ _ _ ‹_›
  · exact absurd rfl wanted
  · obtain ⟨rfl, rfl⟩ := Prod.mk.inj (Option.some.inj step)
    exact .wakes _ ‹_›
  · cases step

end TaskTurn

/-! ### The client with its task -/

/-- The session with the task as it runs: `subscription` is the gateway's side of the connection
that the task has open. -/
structure LiveState where
  loop : SessionLoop
  subscription : Option Subscription
  log : AppendLog
  inFlight : List Value
  queue : List SessionEvent
  app : ConsensusApp
  control : Control

inductive LiveAction where
  /-- The task takes its next step. -/
  | task (input : LoopInput)
  /-- The gateway processes the handshake of a reconnect. -/
  | subscribes
  /-- The app, another participant or the gateway takes a step. -/
  | other (action : CliAction)

/-- The actions that are the task's. -/
def CliAction.ofTask : CliAction → Bool
  | .delivers _ => true
  | .warns _ => true
  | .loses _ => true
  | .resubscribes => true
  | .announces => true
  | .answers _ => true
  | _ => false

/-- The subscription after an event was read. -/
def Subscription.after (subscription : Subscription) : SessionEvent → Subscription
  | .entry index payload =>
      { subscription with undelivered := subscription.undelivered.erase (index, payload) }
  | _ => subscription

namespace LiveState

/-- The client with a given view of its task. -/
def withTask (live : LiveState) (task : SessionTask) : CliState where
  log := live.log
  inFlight := live.inFlight
  queue := live.queue
  task := task
  app := live.app
  control := live.control

def ofCli (loop : SessionLoop) (cli : CliState) : LiveState where
  loop := loop
  subscription := cli.task.subscription?
  log := cli.log
  inFlight := cli.inFlight
  queue := cli.queue
  app := cli.app
  control := cli.control

/-- The gateway's view of the task. -/
def gatewayTask (live : LiveState) : SessionTask :=
  live.subscription.elim .backoff .connected

/-- The subscription once the task waits in a phase, after it put out events.  It ends with the
connection. -/
def held (live : LiveState) (events : List SessionEvent) : LoopPhase → Option Subscription
  | .connected => live.subscription.map fun subscription => events.foldl .after subscription
  | .handshaking => live.subscription
  | _ => none

/-- The app hears the answer to its append. -/
def answer (live : LiveState) (reply : Option (Value × Except SessionError Unit)) :
    LiveState × Option CliReport :=
  match reply, live.control with
  | some (_, .ok ()), .appending waitingFor payload =>
      ({ live with
          inFlight := live.inFlight ++ [payload]
          control := .awaiting waitingFor }, some (.sent payload))
  | some (_, .error _), .appending _ _ =>
      ({ live with app := { live.app with connected := false }, control := .idle },
        some .lossReported)
  | _, _ => (live, none)

/-- The session after the task took a step. -/
def turn (live : LiveState) (loop : SessionLoop) (outputs : List LoopOutput) :
    LiveState × Option CliReport :=
  let events := outputs.filterMap LoopOutput.event?
  let moved :=
    { live with
      loop
      queue := live.queue ++ events
      subscription := live.held events loop.phase }
  moved.answer (outputs.findSome? LoopOutput.reply?)

end LiveState

section Live

variable (parse : String → Except String SessionGatewayMessage) (sessionId : String)
  (parseEntry : Value → Except String Entry)

/-- What the task can be given: the append the app waits for; from the gateway, entries that it has
for this subscription, and the answer to a handshake once it is processed.  The app keeps the
client while it runs. -/
def LiveState.gives (live : LiveState) : LoopInput → Bool
  | .append payload _ =>
      match live.control with
      | .appending _ awaited => payload = awaited
      | _ => false
  | .commandsClosed => false
  | .socket (.text text) =>
      match live.loop.phase, parse text with
      | .connected, .ok (.entry index payload) =>
          live.subscription.any fun subscription => (index, payload) ∈ subscription.undelivered
      | .handshaking, .ok (.subscribed returnedSessionId _) =>
          returnedSessionId ≠ sessionId || live.subscription.isSome
      | _, _ => true
  | _ => true

def liveStep (live : LiveState) : LiveAction → Option (LiveState × Option CliReport)
  | .task input =>
      if live.gives parse sessionId input then
        (live.loop.step parse sessionId input true).map fun next => live.turn next.1 next.2
      else none
  | .subscribes =>
      if live.loop.phase = .handshaking ∧ live.subscription = none then
        some ({ live with subscription := some { start := live.log.len, undelivered := [] } }, none)
      else none
  | .other action =>
      if action.ofTask then none
      else
        (cliStep parseEntry (live.withTask live.gatewayTask) action).map fun next =>
          (.ofCli live.loop next.1, next.2)

/-- A client that has just created or joined a session, about to catch up. -/
def LiveState.joined (participant : String) (entries : List Value) : LiveState :=
  .ofCli .start (.joined participant entries)

def liveSystem : TransitionSystem LiveState (LiveAction × Option CliReport) :=
  .ofPartial (fun live => ∃ participant entries, live = LiveState.joined participant entries)
    (liveStep parse sessionId parseEntry)

end Live

/-! ### What a state stands for

A state of the client with its task as coded stands for one in which the task is only a
subscription, lost or not. Two states of the latter may fit, before a loss is told, so the
simulation goes backward. -/

/-- An event without the reason of a loss, which the app does not read. -/
def SessionEvent.bare : SessionEvent → SessionEvent
  | .disconnected _ => .disconnected "failed to send append over websocket"
  | event => event

def SessionTask.notified (task : SessionTask) : Option (Nat × Value) → SessionTask
  | none => task
  | some entry => task.notify entry

/-- The same client with another task and bare events. -/
def CliState.recast (state : CliState) (task : SessionTask) : CliState :=
  { state with queue := state.queue.map SessionEvent.bare, task }

/-- A reconnect whose handshake the gateway has processed counts as subscribed if it is to succeed,
and as a waiting task if it is to fail. -/
def LiveState.StandsFor (live : LiveState) (task : SessionTask) : Prop :=
  match live.loop.phase, live.subscription with
  | .connected, some subscription => task = .connected subscription
  | .handshaking, some subscription => task = .backoff ∨ task = .reconnecting subscription
  | _, _ => task = .backoff

def LiveState.Refines (live : LiveState) (state : CliState) : Prop :=
  ∃ task, live.StandsFor task ∧ state = (live.withTask task).recast task

/-- What holds of every state that is reached. -/
def LiveState.Sound (live : LiveState) : Prop :=
  match live.loop.phase with
  | .connected => ∃ subscription, live.subscription = some subscription
  | .handshaking => live.loop.disconnected = true
  | .ended => False
  | _ => live.loop.disconnected = true ∧ live.subscription = none

/-! ### The steps that are not the task's -/

section Other

variable {parseEntry : Value → Except String Entry}

/-- The app does not look at the reason of a loss. -/
theorem ConsensusApp.observe_bare (app : ConsensusApp) (event : SessionEvent) :
    app.observe parseEntry event.bare = app.observe parseEntry event := by
  cases event <;> rfl

/-- Nor does it while it is idle. -/
theorem ConsensusApp.handleSessionEvent_bare (app : ConsensusApp) (event : SessionEvent) :
    app.handleSessionEvent parseEntry event.bare = app.handleSessionEvent parseEntry event := by
  cases event <;> rfl

/-- Nor does it while it waits for its echoes. -/
theorem ConsensusApp.awaitEvent_bare (app : ConsensusApp) (waitingFor : Nat)
    (event : SessionEvent) :
    app.awaitEvent parseEntry waitingFor event.bare =
      app.awaitEvent parseEntry waitingFor event := by
  cases event <;> rfl

/-- What is shown of a loss does not say its reason. -/
theorem SessionEvent.report_bare (event : SessionEvent) : event.bare.report = event.report := by
  cases event <;> rfl

/-- A step that is not the task's appends at most one entry, and is as possible with any other task
and with bare events. -/
theorem cliStep_recast {state after : CliState} {action : CliAction} {report : Option CliReport}
    (foreign : action.ofTask = false)
    (step : cliStep parseEntry state action = some (after, report)) :
    ∃ entry, after.task = state.task.notified entry ∧
      ∀ task, cliStep parseEntry (state.recast task) action =
        some (after.recast (task.notified entry), report) := by
  cases cliStep_turn parseEntry step with
  | otherAppends payload => exact ⟨some (state.log.len, payload), rfl, fun task => rfl⟩
  | processes position payload accepted =>
      refine ⟨some (state.log.len, payload), rfl, fun task => ?_⟩
      simp only [cliStep, CliState.recast, accepted]
      rfl
  | fetches caller control =>
      refine ⟨none, rfl, fun task => ?_⟩
      simp only [cliStep, CliState.recast, control]
      rfl
  | fetchFails caller control =>
      refine ⟨none, rfl, fun task => ?_⟩
      simp only [cliStep, CliState.recast, control]
      rfl
  | handles event rest control queue =>
      refine ⟨none, rfl, fun task => ?_⟩
      simp only [cliStep, appProceeds, CliState.recast, control, queue, List.map_cons,
        ConsensusApp.handleSessionEvent_bare, SessionEvent.report_bare]
      rfl
  | drains caller event rest control queue =>
      refine ⟨none, rfl, fun task => ?_⟩
      simp only [cliStep, appProceeds, CliState.recast, control, queue, List.map_cons,
        ConsensusApp.observe_bare, SessionEvent.report_bare]
      rfl
  | drained caller control queue =>
      refine ⟨none, rfl, fun task => ?_⟩
      simp only [cliStep, appProceeds, CliState.recast, CliState.afterApp, control, queue,
        List.map_nil]
      rfl
  | resumes control =>
      refine ⟨none, rfl, fun task => ?_⟩
      simp only [cliStep, appProceeds, CliState.recast, control]
      rfl
  | seesEcho waitingFor control seen =>
      refine ⟨none, rfl, fun task => ?_⟩
      simp only [cliStep, appProceeds, CliState.recast, control, seen]
      rfl
  | awaits waitingFor event rest control unseen queue =>
      refine ⟨none, rfl, fun task => ?_⟩
      simp only [cliStep, appProceeds, CliState.recast, control, unseen, queue, List.map_cons,
        ConsensusApp.awaitEvent_bare, SessionEvent.report_bare]
      rfl
  | inputs line nextClaimId control =>
      refine ⟨none, rfl, fun task => ?_⟩
      simp only [cliStep, CliState.recast, control]
      rfl
  | drafts op control allowed =>
      refine ⟨none, rfl, fun task => ?_⟩
      simp only [cliStep, CliState.recast, control, allowed]
      rfl
  | _ => cases foreign

variable {parse : String → Except String SessionGatewayMessage} {sessionId : String}

/-- What the gateway's side becomes when an entry is appended. -/
theorem subscription?_gatewayTask_notified (live : LiveState) (entry : Option (Nat × Value)) :
    (live.gatewayTask.notified entry).subscription? = live.subscription.map fun subscription =>
      { subscription with undelivered := subscription.undelivered ++ entry.toList } := by
  unfold LiveState.gatewayTask
  cases live.subscription with
  | none => cases entry <;> rfl
  | some subscription =>
      cases entry with
      | none => simp [SessionTask.notified, SessionTask.subscription?]
      | some entry => rfl

/-- What a state with a notified subscription stands for was notified too. -/
theorem LiveState.StandsFor.of_notified {live live' : LiveState} {entry : Option (Nat × Value)}
    {task' : SessionTask} (loop : live'.loop = live.loop)
    (notified : live'.subscription = live.subscription.map fun subscription =>
      { subscription with undelivered := subscription.undelivered ++ entry.toList })
    (stands : live'.StandsFor task') :
    ∃ task, live.StandsFor task ∧ task' = task.notified entry := by
  have backoff : SessionTask.backoff = SessionTask.backoff.notified entry := by cases entry <;> rfl
  have connected : ∀ subscription : Subscription,
      SessionTask.connected
          { subscription with undelivered := subscription.undelivered ++ entry.toList } =
        (SessionTask.connected subscription).notified entry := by
    intro subscription
    cases entry with
    | none => simp [SessionTask.notified]
    | some entry => rfl
  have reconnecting : ∀ subscription : Subscription,
      SessionTask.reconnecting
          { subscription with undelivered := subscription.undelivered ++ entry.toList } =
        (SessionTask.reconnecting subscription).notified entry := by
    intro subscription
    cases entry with
    | none => simp [SessionTask.notified]
    | some entry => rfl
  unfold StandsFor at stands ⊢
  rw [loop, notified] at stands
  cases phase : live.loop.phase <;> cases held : live.subscription <;>
    simp only [phase, held, Option.map_none, Option.map_some] at stands ⊢
  case connected.some subscription => exact ⟨_, rfl, stands.trans (connected subscription)⟩
  case handshaking.some subscription =>
    rcases stands with waiting | subscribed
    · exact ⟨_, .inl rfl, waiting.trans backoff⟩
    · exact ⟨_, .inr rfl, subscribed.trans (reconnecting subscription)⟩
  all_goals exact ⟨_, rfl, stands.trans backoff⟩

/-- The backward simulation of the steps that are not the task's: the same step of the client whose
task is only a subscription. -/
theorem LiveState.other_backward {live live' : LiveState} {action : CliAction}
    {report : Option CliReport} {task' : SessionTask}
    (step : liveStep parse sessionId parseEntry live (.other action) = some (live', report))
    (stands : live'.StandsFor task') :
    ∃ task, live.StandsFor task ∧
      cliStep parseEntry ((live.withTask task).recast task) action =
        some ((live'.withTask task').recast task', report) := by
  simp only [liveStep] at step
  split at step
  · cases step
  · rename_i foreign
    obtain ⟨⟨cli, report⟩, taken, same⟩ := Option.map_eq_some_iff.mp step
    obtain ⟨rfl, rfl⟩ := Prod.mk.inj same
    obtain ⟨entry, grown, possible⟩ := cliStep_recast (eq_false_of_ne_true foreign) taken
    have notified : (LiveState.ofCli live.loop cli).subscription =
        live.subscription.map fun subscription =>
          { subscription with undelivered := subscription.undelivered ++ entry.toList } := by
      change cli.task.subscription? = _
      rw [grown]
      exact subscription?_gatewayTask_notified live entry
    obtain ⟨task, earlier, rfl⟩ :=
      @LiveState.StandsFor.of_notified live (.ofCli live.loop cli) entry _ rfl notified stands
    exact ⟨task, earlier, possible task⟩

end Other

/-! ### The steps of the task -/

section Task

variable {parse : String → Except String SessionGatewayMessage} {sessionId : String}
  {parseEntry : Value → Except String Entry}

/-- The client that a state with a task stands for. -/
def LiveState.asCli (live : LiveState) (task : SessionTask) : CliState :=
  (live.withTask task).recast task

/-- The abstract steps that lead to what the state after a step stands for. -/
def LiveState.Matched (parseEntry : Value → Except String Entry) (live live' : LiveState)
    (report : Option CliReport) (task' : SessionTask) : Prop :=
  ∃ task path, live.StandsFor task ∧
    (cliSystem parseEntry).Path (live.asCli task) path (live'.asCli task') ∧
      path.filterMap Prod.snd = report.toList

/-- One abstract step. -/
theorem LiveState.Matched.one {live live' : LiveState} {task' : SessionTask} (task : SessionTask)
    (action : CliAction) {report : Option CliReport} (stands : live.StandsFor task)
    (step : cliStep parseEntry (live.asCli task) action = some (live'.asCli task', report)) :
    live.Matched parseEntry live' report task' := by
  refine ⟨task, [(action, report)], stands, .step step (.done _), ?_⟩
  cases report <;> rfl

/-- No abstract step. -/
theorem LiveState.Matched.none {live live' : LiveState} {task : SessionTask}
    (stands : live.StandsFor task) (same : live'.asCli task = live.asCli task) :
    live.Matched parseEntry live' .none task := by
  refine ⟨task, [], stands, ?_, rfl⟩
  rw [same]
  exact .done _

/-- A turn without an answer. -/
theorem LiveState.turn_of_silent {live : LiveState} {loop : SessionLoop}
    {outputs : List LoopOutput} (events : List SessionEvent)
    (told : outputs.filterMap LoopOutput.event? = events)
    (silent : outputs.findSome? LoopOutput.reply? = none) :
    live.turn loop outputs =
      ({ live with
          loop
          queue := live.queue ++ events
          subscription := live.held events loop.phase }, none) := by
  simp only [turn, answer, told, silent]

/-- A turn that answers the append the app waits for. -/
theorem LiveState.turn_of_accepted {live : LiveState} {loop : SessionLoop}
    {outputs : List LoopOutput} {payload awaited : Value} {waitingFor : Nat}
    (events : List SessionEvent) (told : outputs.filterMap LoopOutput.event? = events)
    (accepted : outputs.findSome? LoopOutput.reply? = some (payload, .ok ()))
    (control : live.control = .appending waitingFor awaited) :
    live.turn loop outputs =
      ({ live with
          loop
          queue := live.queue ++ events
          subscription := live.held events loop.phase
          inFlight := live.inFlight ++ [awaited]
          control := .awaiting waitingFor }, some (.sent awaited)) := by
  simp only [turn, answer, told, accepted, control]

/-- A refused append is refused by the abstract task too. -/
theorem LiveState.turn_of_refused {live : LiveState} {loop : SessionLoop}
    {outputs : List LoopOutput} {payload awaited : Value} {error : SessionError}
    {waitingFor : Nat} (events : List SessionEvent)
    (told : outputs.filterMap LoopOutput.event? = events)
    (refused : outputs.findSome? LoopOutput.reply? = some (payload, .error error))
    (control : live.control = .appending waitingFor awaited) :
    live.turn loop outputs =
      ({ live with
          loop
          queue := live.queue ++ events
          subscription := live.held events loop.phase
          app := { live.app with connected := false }
          control := .idle }, some .lossReported) := by
  simp only [turn, answer, told, refused, control]

/-- An append is only given to the task while the app waits for its answer. -/
theorem LiveState.appending_of_gives {live : LiveState} {payload : Value}
    {sent : Except String Unit}
    (given : live.gives parse sessionId (.append payload sent) = true) :
    ∃ waitingFor, live.control = .appending waitingFor payload := by
  simp only [gives] at given
  split at given
  · rename_i control
    obtain rfl := of_decide_eq_true given
    exact ⟨_, control⟩
  · cases given

/-- The backward simulation of the task's steps, turn by turn. -/
theorem LiveState.turn_backward {live : LiveState} {input : LoopInput} {loop : SessionLoop}
    {outputs : List LoopOutput} {task' : SessionTask} (sound : live.Sound)
    (given : live.gives parse sessionId input = true)
    (turn : TaskTurn parse sessionId live.loop input loop outputs)
    (stands : (live.turn loop outputs).1.StandsFor task') :
    live.Matched parseEntry (live.turn loop outputs).1 (live.turn loop outputs).2 task' := by
  cases turn with
  | stays read phase =>
      have same : live.turn live.loop [] = (live, none) := by
        rw [turn_of_silent [] rfl rfl]
        rcases phase with phase | phase <;> simp [LiveState.held, phase]
      rw [same] at stands ⊢
      exact .none stands rfl
  | delivers text index payload connected parsed =>
      obtain ⟨subscription, held⟩ : ∃ subscription, live.subscription = some subscription := by
        simpa only [Sound, connected] using sound
      have member : (index, payload) ∈ subscription.undelivered := by
        simpa [gives, connected, parsed, held] using given
      rw [turn_of_silent [.entry index payload] rfl rfl] at stands ⊢
      obtain rfl : task' = .connected (subscription.after (.entry index payload)) := by
        simpa [StandsFor, LiveState.held, connected, held] using stands
      refine .one (.connected subscription)
        (.delivers (subscription.undelivered.idxOf (index, payload)))
        (by simp only [StandsFor, connected, held]) ?_
      have found := List.getElem?_idxOf member
      simp only [cliStep, asCli, withTask, CliState.recast, found]
      simp [Subscription.after, SessionEvent.bare]
  | warns text message connected parsed =>
      obtain ⟨subscription, held⟩ : ∃ subscription, live.subscription = some subscription := by
        simpa only [Sound, connected] using sound
      rw [turn_of_silent [.warning message] rfl rfl] at stands ⊢
      obtain rfl : task' = .connected subscription := by
        simpa [StandsFor, LiveState.held, Subscription.after, connected, held]
          using stands
      refine .one (.connected subscription) (.warns message)
        (by simp only [StandsFor, connected, held]) ?_
      simp [cliStep, asCli, withTask, CliState.recast, SessionTask.isConnected,
        SessionEvent.bare]
  | loses read reason connected =>
      obtain ⟨subscription, held⟩ : ∃ subscription, live.subscription = some subscription := by
        simpa only [Sound, connected] using sound
      rw [turn_of_silent [.disconnected reason] rfl rfl] at stands ⊢
      obtain rfl : task' = .backoff := by simpa [StandsFor] using stands
      refine .one (.connected subscription) (.loses "failed to send append over websocket")
        (by simp only [StandsFor, connected, held]) ?_
      simp [cliStep, CliState.lose, asCli, withTask, CliState.recast, SessionTask.isConnected,
        SessionEvent.bare]
  | sends payload connected =>
      obtain ⟨subscription, held⟩ : ∃ subscription, live.subscription = some subscription := by
        simpa only [Sound, connected] using sound
      obtain ⟨waitingFor, control⟩ := appending_of_gives given
      rw [turn_of_accepted [] rfl rfl control] at stands ⊢
      obtain rfl : task' = .connected subscription := by
        simpa [StandsFor, LiveState.held, connected, held] using stands
      refine .one (.connected subscription) (.answers true)
        (by simp only [StandsFor, connected, held]) ?_
      simp [cliStep, asCli, withTask, CliState.recast, control]
  | sendFails payload error reason connected =>
      obtain ⟨subscription, held⟩ : ∃ subscription, live.subscription = some subscription := by
        simpa only [Sound, connected] using sound
      obtain ⟨waitingFor, control⟩ := appending_of_gives given
      rw [turn_of_refused [.disconnected reason] rfl rfl control] at stands ⊢
      obtain rfl : task' = .backoff := by simpa [StandsFor] using stands
      refine .one (.connected subscription) (.answers false)
        (by simp only [StandsFor, connected, held]) ?_
      simp [cliStep, CliState.lose, CliState.afterApp, asCli, withTask, CliState.recast, control,
        SessionEvent.bare]
  | knocks connecting =>
      have held : live.subscription = none := by
        simp only [Sound, connecting] at sound
        exact sound.2
      rw [turn_of_silent [] rfl rfl] at stands ⊢
      obtain rfl : task' = .backoff := by
        simpa [StandsFor, LiveState.held, held] using stands
      refine .none (by simp only [StandsFor, connecting]) ?_
      simp [asCli, withTask, CliState.recast]
  | givesUp input reason down =>
      rw [turn_of_silent [] rfl rfl] at stands ⊢
      obtain rfl : task' = .backoff := by simpa [StandsFor] using stands
      refine .none ?_ (by simp [asCli, withTask, CliState.recast])
      rcases down with connecting | handshaking
      · simp only [StandsFor, connecting]
      · cases held : live.subscription <;> simp [StandsFor, handshaking, held]
  | resumes text latest handshaking parsed =>
      obtain ⟨subscription, held⟩ : ∃ subscription, live.subscription = some subscription := by
        simpa [gives, handshaking, parsed, Option.isSome_iff_exists] using given
      rw [turn_of_silent [.reconnected] rfl rfl] at stands ⊢
      obtain rfl : task' = .connected subscription := by
        simpa [StandsFor, LiveState.held, Subscription.after, held] using stands
      refine .one (.reconnecting subscription) .announces
        (by simp [StandsFor, handshaking, held]) ?_
      simp [cliStep, asCli, withTask, CliState.recast, SessionEvent.bare]
  | refuses payload sent reason sleeping =>
      obtain ⟨waitingFor, control⟩ := appending_of_gives given
      rw [turn_of_refused [] rfl rfl control] at stands ⊢
      obtain rfl : task' = .backoff := by simpa [StandsFor, sleeping] using stands
      refine .one .backoff (.answers false) (by simp only [StandsFor, sleeping]) ?_
      simp [cliStep, CliState.afterApp, asCli, withTask, CliState.recast, control]
  | wakes reason sleeping =>
      rw [turn_of_silent [] rfl rfl] at stands ⊢
      obtain rfl : task' = .backoff := by simpa [StandsFor] using stands
      refine .none (by simp only [StandsFor, sleeping]) ?_
      simp [asCli, withTask, CliState.recast]

/-- The gateway processes a handshake: if the reconnect is to succeed, this is where the client is
subscribed again. -/
theorem LiveState.subscribes_backward {live live' : LiveState} {report : Option CliReport}
    {task' : SessionTask}
    (step : liveStep parse sessionId parseEntry live .subscribes = some (live', report))
    (stands : live'.StandsFor task') : live.Matched parseEntry live' report task' := by
  simp only [liveStep] at step
  split at step
  · rename_i possible
    obtain ⟨handshaking, held⟩ := possible
    obtain ⟨rfl, rfl⟩ := Prod.mk.inj (Option.some.inj step)
    have waiting : live.StandsFor .backoff := by simp only [StandsFor, handshaking, held]
    simp only [StandsFor, handshaking] at stands
    rcases stands with rfl | rfl
    · exact .none waiting rfl
    · exact .one .backoff .resubscribes waiting rfl
  · cases step

/-- An answer to the app does not touch the loop. -/
theorem LiveState.answer_loop (live : LiveState)
    (reply : Option (Value × Except SessionError Unit)) :
    (live.answer reply).1.loop = live.loop := by
  unfold answer
  split <;> rfl

/-- An answer to the app does not touch the subscription. -/
theorem LiveState.answer_subscription (live : LiveState)
    (reply : Option (Value × Except SessionError Unit)) :
    (live.answer reply).1.subscription = live.subscription := by
  unfold answer
  split <;> rfl

/-- A turn of the task keeps the state sound. -/
theorem LiveState.Sound.turn {live : LiveState} {input : LoopInput} {loop : SessionLoop}
    {outputs : List LoopOutput} (sound : live.Sound)
    (given : live.gives parse sessionId input = true)
    (turn : TaskTurn parse sessionId live.loop input loop outputs) :
    (live.turn loop outputs).1.Sound := by
  have told : live.loop.phase = .connecting ∨ live.loop.phase = .handshaking →
      live.loop.disconnected = true := by
    rintro (phase | phase) <;> simp only [Sound, phase] at sound
    · exact sound.1
    · exact sound
  unfold Sound LiveState.turn
  rw [answer_loop, answer_subscription]
  cases turn with
  | stays read phase =>
      rcases phase with phase | phase <;> simp only [Sound, phase] at sound ⊢
      · obtain ⟨subscription, held⟩ := sound
        exact ⟨subscription, by simp [LiveState.held, held]⟩
      · exact sound
  | delivers text index payload connected parsed =>
      simp only [Sound, connected] at sound ⊢
      obtain ⟨subscription, held⟩ := sound
      exact ⟨_, by rw [LiveState.held, held, Option.map_some]⟩
  | warns text message connected parsed =>
      simp only [Sound, connected] at sound ⊢
      obtain ⟨subscription, held⟩ := sound
      exact ⟨_, by rw [LiveState.held, held, Option.map_some]⟩
  | loses read reason connected => exact ⟨rfl, rfl⟩
  | sends payload connected =>
      simp only [Sound, connected] at sound ⊢
      obtain ⟨subscription, held⟩ := sound
      exact ⟨_, by rw [LiveState.held, held, Option.map_some]⟩
  | sendFails payload error reason connected => exact ⟨rfl, rfl⟩
  | knocks connecting => exact told (.inl connecting)
  | givesUp input reason down => exact ⟨told down, rfl⟩
  | resumes text latest handshaking parsed =>
      obtain ⟨subscription, held⟩ : ∃ subscription, live.subscription = some subscription := by
        simpa [gives, handshaking, parsed, Option.isSome_iff_exists] using given
      exact ⟨_, by rw [LiveState.held, held, Option.map_some]⟩
  | refuses payload sent reason sleeping =>
      simp only [Sound, sleeping] at sound ⊢
      exact ⟨sound.1, rfl⟩
  | wakes reason sleeping =>
      simp only [Sound, sleeping] at sound
      exact ⟨sound.1, rfl⟩

end Task

/-! ### Refinement

Backward simulation: from the state that a run ends in, step by step back to its start; the
library's rule puts the steps together. -/

section Refinement

variable {parse : String → Except String SessionGatewayMessage} {sessionId : String}
  {parseEntry : Value → Except String Entry}

/-- A notification keeps the state sound. -/
theorem LiveState.Sound.of_notified {live live' : LiveState} {entry : Option (Nat × Value)}
    (sound : live.Sound) (loop : live'.loop = live.loop)
    (notified : live'.subscription = live.subscription.map fun subscription =>
      { subscription with undelivered := subscription.undelivered ++ entry.toList }) :
    live'.Sound := by
  unfold Sound at sound ⊢
  rw [loop, notified]
  cases phase : live.loop.phase <;> simp only [phase] at sound ⊢
  case connected =>
    obtain ⟨subscription, held⟩ := sound
    exact ⟨_, by rw [held, Option.map_some]⟩
  case handshaking => exact sound
  all_goals exact ⟨sound.1, by rw [sound.2, Option.map_none]⟩

/-- A step of the task is a turn with something that it can be given. -/
theorem LiveState.turn_of_liveStep {live live' : LiveState} {input : LoopInput}
    {report : Option CliReport} (sound : live.Sound)
    (step : liveStep parse sessionId parseEntry live (.task input) = some (live', report)) :
    live.gives parse sessionId input = true ∧
      ∃ loop outputs, TaskTurn parse sessionId live.loop input loop outputs ∧
        live.turn loop outputs = (live', report) := by
  simp only [liveStep] at step
  split at step
  · rename_i given
    refine ⟨given, ?_⟩
    obtain ⟨⟨loop, outputs⟩, taken, same⟩ := Option.map_eq_some_iff.mp step
    refine ⟨loop, outputs, .of_step ?_ ?_ taken, same⟩
    · rintro (phase | phase) <;> simp only [Sound, phase] at sound
      · exact sound.1
      · exact sound
    · rintro rfl
      cases given
  · cases step

/-- The step lemma: every step keeps the state sound. -/
theorem LiveState.Sound.step {live live' : LiveState} {action : LiveAction}
    {report : Option CliReport} (sound : live.Sound)
    (step : liveStep parse sessionId parseEntry live action = some (live', report)) :
    live'.Sound := by
  cases action with
  | task input =>
      obtain ⟨given, loop, outputs, turn, same⟩ := turn_of_liveStep sound step
      have after := sound.turn given turn
      rwa [same] at after
  | subscribes =>
      simp only [liveStep] at step
      split at step
      · rename_i possible
        obtain ⟨rfl, rfl⟩ := Prod.mk.inj (Option.some.inj step)
        simp only [Sound, possible.1] at sound ⊢
        exact sound
      · cases step
  | other action =>
      simp only [liveStep] at step
      split at step
      · cases step
      · rename_i foreign
        obtain ⟨⟨cli, report⟩, taken, same⟩ := Option.map_eq_some_iff.mp step
        obtain ⟨rfl, rfl⟩ := Prod.mk.inj same
        obtain ⟨entry, grown, _⟩ := cliStep_recast (eq_false_of_ne_true foreign) taken
        have notified : (LiveState.ofCli live.loop cli).subscription =
            live.subscription.map fun subscription =>
              { subscription with undelivered := subscription.undelivered ++ entry.toList } :=
          (congrArg SessionTask.subscription? grown).trans
            (subscription?_gatewayTask_notified live entry)
        exact sound.of_notified rfl notified

/-- A client that has just joined is sound. -/
theorem LiveState.joined_sound (participant : String) (entries : List Value) :
    (LiveState.joined participant entries).Sound :=
  ⟨_, rfl⟩

/-- The run lemma: every reachable state is sound. -/
theorem live_sound {trace : List (LiveAction × Option CliReport)} {live : LiveState}
    (run : (liveSystem parse sessionId parseEntry).Execution trace live) : live.Sound := by
  refine run.reachable_invariant ?_ fun _ _ _ sound step => sound.step step
  rintro _ ⟨participant, entries, rfl⟩
  exact LiveState.joined_sound participant entries

/-- The abstract client can be run backwards along every step of the client as coded. -/
theorem live_simulation :
    (liveSystem parse sessionId parseEntry).BackwardSimulation (cliSystem parseEntry)
      Prod.snd Prod.snd LiveState.Refines where
  start := by
    rintro _ _ ⟨participant, entries, rfl⟩ ⟨task, stands, rfl⟩
    cases stands
    exact ⟨participant, entries, rfl⟩
  steps := by
    rintro trace live ⟨action, report⟩ live' _ run step ⟨task', stands, rfl⟩
    have matched : live.Matched parseEntry live' report task' := by
      cases action with
      | task input =>
          obtain ⟨given, loop, outputs, turn, same⟩ :=
            LiveState.turn_of_liveStep (live_sound run) step
          have after : (live.turn loop outputs).1.StandsFor task' := by
            rw [same]
            exact stands
          have backward : live.Matched parseEntry _ _ task' :=
            LiveState.turn_backward (live_sound run) given turn after
          rwa [same] at backward
      | subscribes => exact LiveState.subscribes_backward step stands
      | other action =>
          obtain ⟨task, earlier, possible⟩ := LiveState.other_backward step stands
          exact .one task action earlier possible
    obtain ⟨task, path, earlier, onward, same⟩ := matched
    exact ⟨live.asCli task, path, ⟨task, earlier, rfl⟩, onward, same⟩

/-- Whatever a reached state is, it stands for some state of the abstract client. -/
theorem LiveState.Sound.standsFor {live : LiveState} (sound : live.Sound) :
    ∃ task, live.StandsFor task ∧ (task.isConnected ↔ live.loop.phase = .connected) := by
  cases phase : live.loop.phase with
  | connected =>
      simp only [Sound, phase] at sound
      obtain ⟨subscription, held⟩ := sound
      exact ⟨.connected subscription, by simp only [StandsFor, phase, held], by
        simp [SessionTask.isConnected]⟩
  | handshaking =>
      refine ⟨.backoff, ?_, by simp [SessionTask.isConnected]⟩
      cases held : live.subscription <;> simp [StandsFor, phase, held]
  | _ => exact ⟨.backoff, by simp only [StandsFor, phase], by simp [SessionTask.isConnected]⟩

/-- The run lemma of the simulation, from its step lemmas. -/
theorem live_run_refined {trace : List (LiveAction × Option CliReport)} {live : LiveState}
    (run : (liveSystem parse sessionId parseEntry).Execution trace live) :
    ∃ trace' task, (cliSystem parseEntry).Execution trace' (live.asCli task) ∧
      trace'.filterMap Prod.snd = trace.filterMap Prod.snd ∧
        (task.isConnected ↔ live.loop.phase = .connected) := by
  obtain ⟨task, stands, online⟩ := (live_sound run).standsFor
  obtain ⟨trace', run', shown⟩ := live_simulation.refines run ⟨task, stands, rfl⟩
  exact ⟨trace', task, run', shown, online⟩

/-- Every run of the client with its session task as coded, with whatever reconnects, handshakes
and waits, is a run of the client whose task is only a subscription that is lost and regained: with
the same log, the same append messages under way, the same app at the same point, the same events up
to the reasons of losses, and the same shown to the user. -/
theorem live_client_refines {trace : List (LiveAction × Option CliReport)} {live : LiveState}
    (run : (liveSystem parse sessionId parseEntry).Execution trace live) :
    ∃ trace' state, (cliSystem parseEntry).Execution trace' state ∧
      trace'.filterMap Prod.snd = trace.filterMap Prod.snd ∧
      state.log = live.log ∧ state.inFlight = live.inFlight ∧ state.app = live.app ∧
        state.control = live.control ∧ state.queue = live.queue.map SessionEvent.bare ∧
          (state.task.isConnected ↔ live.loop.phase = .connected) := by
  obtain ⟨trace', task, run', shown, online⟩ := live_run_refined run
  exact ⟨trace', _, run', shown, rfl, rfl, rfl, rfl, rfl, online⟩

/-- In every run with the session task as coded the app's entry buffer follows the log, what its
pending submission has seen come back stands in the log, and so does every entry that waits on the
event queue, under its index. -/
theorem live_client_faithful {trace : List (LiveAction × Option CliReport)} {live : LiveState}
    (run : (liveSystem parse sessionId parseEntry).Execution trace live) :
    live.app.buffer.Follows parseEntry live.log.entries ∧
      EntryBuffer.EchoesApplied live.log.entries live.app.buffer ∧
        ∀ index payload, SessionEvent.entry index payload ∈ live.queue →
          live.log.entries[index]? = some payload := by
  obtain ⟨trace', task, run', _, _⟩ := live_run_refined run
  have faithful := cliSystem_faithful run'
  refine ⟨faithful.follows, faithful.echoes, fun index payload member => ?_⟩
  exact faithful.queued index payload (List.mem_map_of_mem (f := SessionEvent.bare) member)

end Refinement

/-- The connection of a new client is lost, a reconnect fails, another one is answered after an
entry was appended, and the entry arrives. -/
def reconnection : List LiveAction :=
  [.task (.socket .ended), .task (.opened (.error (.webSocket "refused"))), .task .timer,
    .task (.opened (.ok ())), .subscribes, .other (.otherAppends .null),
    .task (.socket (.text "subscribed")), .task (.socket (.text "entry"))]

/-- A client that loses its connection, and finds what it missed when it is back. -/
theorem reconnection_run :
    ∃ trace live,
      (liveSystem readSessionWord "0000000000000000" fun _ => .error "").Execution trace live ∧
        live.loop.phase = .connected ∧
          live.queue = [.disconnected "gateway closed session websocket", .reconnected,
            .entry 0 .null] := by
  have ran : (TransitionSystem.runPartial
      (liveStep readSessionWord "0000000000000000" fun _ => .error "") (.joined "alice" [])
      reconnection).map (fun result => (result.2.loop.phase, result.2.queue)) =
      some (.connected, [.disconnected "gateway closed session websocket", .reconnected,
        .entry 0 .null]) := by
    decide +kernel
  obtain ⟨⟨trace, live⟩, ran, same⟩ := Option.map_eq_some_iff.mp ran
  obtain ⟨phase, queue⟩ := Prod.mk.inj same
  exact ⟨trace, live, .of_runPartial ⟨"alice", [], rfl⟩ ran, phase, queue⟩

/-- The same run, seen on the client whose task is only a subscription. -/
theorem reconnection_refined :
    ∃ trace live,
      (liveSystem readSessionWord "0000000000000000" fun _ => .error "").Execution trace live ∧
        live.loop.phase = .connected ∧
          ∃ trace' state, (cliSystem fun _ => .error "").Execution trace' state ∧
            trace'.filterMap Prod.snd = trace.filterMap Prod.snd ∧
            state.log = live.log ∧ state.inFlight = live.inFlight ∧ state.app = live.app ∧
              state.control = live.control ∧ state.queue = live.queue.map SessionEvent.bare ∧
                (state.task.isConnected ↔ live.loop.phase = .connected) := by
  obtain ⟨trace, live, run, phase, _⟩ := reconnection_run
  exact ⟨trace, live, run, phase, live_client_refines run⟩

/-- The entry that waits on the queue is the log's. -/
theorem reconnection_faithful :
    ∃ trace live,
      (liveSystem readSessionWord "0000000000000000" fun _ => .error "").Execution trace live ∧
        .entry 0 .null ∈ live.queue ∧
          live.app.buffer.Follows (fun _ => .error "") live.log.entries ∧
            EntryBuffer.EchoesApplied live.log.entries live.app.buffer ∧
              ∀ index payload, SessionEvent.entry index payload ∈ live.queue →
                live.log.entries[index]? = some payload := by
  obtain ⟨trace, live, run, _, queue⟩ := reconnection_run
  exact ⟨trace, live, run, by simp [queue], live_client_faithful run⟩

end ProstheticConscience.ConsensusCli
