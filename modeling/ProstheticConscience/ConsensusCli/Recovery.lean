/-
Module: ProstheticConscience.ConsensusCli.Recovery
Purpose: No lost update across reconnects: when the client has handled every event and is
  connected, it has applied the whole session log, unless a drain took the event that announces the
  current subscription although entries appended before that subscription were missing.
Trusted boundary: none
Main exports: CliState.Covered, Coverage, DrainsCovered, CliState.Settled, settled_client_has_log,
  drained_reconnect_loses_update
-/
import ProstheticConscience.ConsensusCli.Faithful

namespace ProstheticConscience.ConsensusCli

open Consensus Gateway

/-- The client knows of the entry of an index, or an event on the queue carries it. -/
def CliState.Covered (state : CliState) (index : Nat) : Prop :=
  state.app.buffer.Knows index ∨ ∃ payload, SessionEvent.entry index payload ∈ state.queue

/-- A catch-up has fetches to make, or the app has ended. -/
def Control.mayFetch : Control → Bool
  | .fetching _ => true
  | .stopped => true
  | _ => false

/-- The connection flag once all events on the queue are handled. -/
def connectedAfter (connected : Bool) (queue : List SessionEvent) : Bool :=
  queue.foldl
    (fun connected event =>
      match event with
      | .disconnected _ => false
      | .reconnected => true
      | _ => connected)
    connected

/-- No entry is out of reach: what was appended under the current subscription is known, queued or
to be delivered, and what was appended before it is known or queued. -/
structure Coverage (state : CliState) : Prop where
  started : ∀ subscription, state.task.subscription? = some subscription →
    subscription.start ≤ state.log.entries.length
  since : ∀ subscription, state.task.subscription? = some subscription →
    ∀ index, subscription.start ≤ index → index < state.log.entries.length →
      state.Covered index ∨ ∃ payload, (index, payload) ∈ subscription.undelivered
  /-- From the time the announcement of the subscription is handled. -/
  before : ∀ subscription, state.task = .connected subscription →
    SessionEvent.reconnected ∉ state.queue → state.control.mayFetch = false →
    ∀ index < subscription.start, state.Covered index
  offline : state.task.isConnected = false →
    connectedAfter state.app.connected state.queue = false

/-- A drain takes the announcement of the current subscription only when no entry appended before
the subscription is missing. -/
def DrainsCovered (state : CliState) (label : CliAction × Option CliReport) : Prop :=
  ∀ caller rest subscription, label.1 = .proceeds → state.control = .draining caller →
    state.queue = .reconnected :: rest → SessionEvent.reconnected ∉ rest →
    state.task = .connected subscription →
    ∀ index < subscription.start, state.Covered index

/-- The client has handled every event, it is connected, and every entry appended under the
current subscription has been delivered. -/
structure CliState.Settled (state : CliState) : Prop where
  handled : state.queue = []
  processed : state.control.mayFetch = false
  connected : state.app.connected = true
  delivered : ∀ subscription, state.task = .connected subscription →
    subscription.undelivered = []

theorem CliState.Settled.of_idle {state : CliState} {start : Nat} (handled : state.queue = [])
    (control : state.control = .idle) (connected : state.app.connected = true)
    (task : state.task = .connected { start, undelivered := [] }) : state.Settled where
  handled := handled
  processed := by rw [control]; rfl
  connected := connected
  delivered subscription current := by
    obtain rfl := SessionTask.connected.inj (task.symm.trans current)
    rfl

/-- The log was applied completely and in order. -/
structure CliState.HasLog (parseEntry : Value → Except String Entry) (state : CliState) : Prop where
  cursor : state.app.buffer.nextIndex = state.log.entries.length
  entries : state.app.buffer.engine.log =
    EntryBuffer.parsedEntries parseEntry state.log.entries

variable {parseEntry : Value → Except String Entry}

/-- A settled client that is faithful to the log and out of reach of nothing has the log. -/
theorem Coverage.hasLog {state : CliState} (coverage : Coverage state)
    (faithful : Faithful parseEntry state) (settled : state.Settled) :
    state.HasLog parseEntry := by
  have online : state.task.isConnected = true := by
    by_contra offline
    have flag := coverage.offline (by simpa using offline)
    rw [settled.handled] at flag
    simp [connectedAfter, settled.connected] at flag
  cases task : state.task with
  | reconnecting subscription => simp [task, SessionTask.isConnected] at online
  | backoff => simp [task, SessionTask.isConnected] at online
  | connected subscription =>
      have current := congrArg SessionTask.subscription? task
      have known : ∀ index, state.Covered index → state.app.buffer.Knows index := by
        intro index covered
        rcases covered with knows | ⟨payload, queued⟩
        · exact knows
        · rw [settled.handled] at queued
          cases queued
      have knowsAll : ∀ index < state.log.entries.length, state.app.buffer.Knows index := by
        intro index inLog
        by_cases earlier : index < subscription.start
        · exact known index (coverage.before subscription task (by simp [settled.handled])
            settled.processed index earlier)
        · rcases coverage.since subscription current index (by omega) inLog with
            covered | ⟨payload, undelivered⟩
          · exact known index covered
          · rw [settled.delivered subscription task] at undelivered
            cases undelivered
      obtain ⟨cursor, entries⟩ := faithful.follows.caught_up knowsAll
      exact ⟨cursor, entries⟩

/-! ### The gateway and the session task -/

theorem Coverage.append {state : CliState} (coverage : Coverage state) (payload : Value) :
    Coverage (state.append payload) := by
  have grown : (state.append payload).log.entries = state.log.entries ++ [payload] := rfl
  have earlierOf : ∀ {subscription : Subscription},
      (state.append payload).task.subscription? = some subscription →
      ∃ earlier, state.task.subscription? = some earlier ∧
        { earlier with undelivered := earlier.undelivered ++ [(state.log.len, payload)] } =
          subscription := by
    intro subscription current
    simpa [CliState.append, SessionTask.subscription?_notify] using current
  constructor
  · intro subscription current
    obtain ⟨earlier, earlierEq, rfl⟩ := earlierOf current
    rw [grown, List.length_append]
    exact (coverage.started earlier earlierEq).trans (Nat.le_add_right _ _)
  · intro subscription current index from' inLog
    obtain ⟨earlier, earlierEq, rfl⟩ := earlierOf current
    rw [grown, List.length_append, List.length_singleton] at inLog
    by_cases last : index = state.log.entries.length
    · exact .inr ⟨payload, List.mem_append_right _ (by simp [last, AppendLog.len])⟩
    · rcases coverage.since earlier earlierEq index from' (by omega) with
        covered | ⟨held, member⟩
      · exact .inl covered
      · exact .inr ⟨held, List.mem_append_left _ member⟩
  · intro subscription task noAnnouncement control index earlierIndex
    cases earlierTask : state.task with
    | connected earlier =>
        obtain rfl : { earlier with
            undelivered := earlier.undelivered ++ [(state.log.len, payload)] } = subscription := by
          simpa [CliState.append, SessionTask.notify, earlierTask] using task
        exact coverage.before earlier earlierTask noAnnouncement control index earlierIndex
    | reconnecting earlier => simp [CliState.append, SessionTask.notify, earlierTask] at task
    | backoff => simp [CliState.append, SessionTask.notify, earlierTask] at task
  · intro offline
    apply coverage.offline
    cases earlierTask : state.task with
    | connected earlier =>
        simp [CliState.append, SessionTask.notify, earlierTask, SessionTask.isConnected] at offline
    | reconnecting earlier => rfl
    | backoff => rfl

theorem connectedAfter_append (connected : Bool) (first second : List SessionEvent) :
    connectedAfter connected (first ++ second) =
      connectedAfter (connectedAfter connected first) second := by
  simp [connectedAfter]

/-- More on the queue covers no less. -/
theorem CliState.Covered.push {state : CliState} {index : Nat} (covered : state.Covered index)
    (events : List SessionEvent) :
    state.app.buffer.Knows index ∨
      ∃ payload, SessionEvent.entry index payload ∈ state.queue ++ events :=
  covered.imp_right fun ⟨payload, queued⟩ => ⟨payload, List.mem_append_left _ queued⟩

/-- A delivered entry is on the queue; the others are still to be delivered. -/
theorem Coverage.delivers {state : CliState} (coverage : Coverage state) {position : Nat}
    {subscription : Subscription} {index : Nat} {payload : Value}
    (task : state.task = .connected subscription)
    (found : subscription.undelivered[position]? = some (index, payload)) :
    Coverage
      { state with
        queue := state.queue ++ [.entry index payload]
        task :=
          .connected
            { subscription with undelivered := subscription.undelivered.eraseIdx position } } := by
  have current := congrArg SessionTask.subscription? task
  constructor
  · intro other otherEq
    obtain rfl := Option.some.inj otherEq
    exact coverage.started subscription current
  · intro other otherEq otherIndex from' inLog
    obtain rfl := Option.some.inj otherEq
    rcases coverage.since subscription current otherIndex from' inLog with
      covered | ⟨held, member⟩
    · exact .inl (covered.push _)
    · by_cases delivered : (otherIndex, held) = (index, payload)
      · obtain ⟨rfl, rfl⟩ := Prod.mk.inj delivered
        exact .inl (.inr ⟨held, List.mem_append_right _ List.mem_cons_self⟩)
      · refine .inr ⟨held, ?_⟩
        obtain ⟨place, placed⟩ := List.getElem?_of_mem member
        rw [List.mem_eraseIdx_iff_getElem?]
        refine ⟨place, ?_, placed⟩
        intro same
        rw [same] at placed
        exact delivered (Option.some.inj (placed.symm.trans found))
  · intro other otherEq noAnnouncement control otherIndex earlier
    obtain rfl := SessionTask.connected.inj otherEq
    have quiet : SessionEvent.reconnected ∉ state.queue := fun queued =>
      noAnnouncement (List.mem_append_left _ queued)
    exact (coverage.before subscription task quiet control otherIndex earlier).push _
  · intro offline
    exact absurd offline (by simp [SessionTask.isConnected])

theorem Coverage.warns {state : CliState} (coverage : Coverage state) (message : String) :
    Coverage { state with queue := state.queue ++ [.warning message] } where
  started := coverage.started
  since subscription current index from' inLog :=
    (coverage.since subscription current index from' inLog).imp_left fun covered => covered.push _
  before subscription task noAnnouncement control index earlier := by
    have quiet : SessionEvent.reconnected ∉ state.queue := fun queued =>
      noAnnouncement (List.mem_append_left _ queued)
    exact (coverage.before subscription task quiet control index earlier).push _
  offline offline := by
    rw [connectedAfter_append, coverage.offline offline]
    rfl

theorem coverage_lose (state : CliState) (reason : String) : Coverage (state.lose reason) where
  started subscription current := by cases current
  since subscription current := by cases current
  before subscription task := by cases task
  offline _ := by simp [CliState.lose, connectedAfter]

/-- A new subscription starts at the end of the log. -/
theorem Coverage.resubscribes {state : CliState} (coverage : Coverage state)
    (task : state.task = .backoff) :
    Coverage
      { state with task := .reconnecting { start := state.log.len, undelivered := [] } } where
  started subscription current := by
    obtain rfl := Option.some.inj current
    exact le_rfl
  since subscription current index from' inLog := by
    obtain rfl := Option.some.inj current
    exact absurd inLog (Nat.not_lt.mpr from')
  before subscription task := by cases task
  offline _ := coverage.offline (by rw [task]; rfl)

theorem Coverage.announces {state : CliState} (coverage : Coverage state)
    {subscription : Subscription} (task : state.task = .reconnecting subscription) :
    Coverage
      { state with
        queue := state.queue ++ [.reconnected]
        task := .connected subscription } := by
  have current := congrArg SessionTask.subscription? task
  constructor
  · intro other otherEq
    obtain rfl := Option.some.inj otherEq
    exact coverage.started subscription current
  · intro other otherEq index from' inLog
    obtain rfl := Option.some.inj otherEq
    exact (coverage.since subscription current index from' inLog).imp_left
      fun covered => covered.push _
  · intro other _ noAnnouncement
    exact absurd (List.mem_append_right _ List.mem_cons_self) noAnnouncement
  · intro offline
    exact absurd offline (by simp [SessionTask.isConnected])

/-! ### The app

The app makes known what it takes from the queue, so that no entry gets out of reach while it takes
events. The one exception is a drain that takes the announcement of a subscription: entries from
before it are fetched by no one. -/

/-- A step of the app that reads no event. -/
theorem Coverage.sameView {state : CliState} (coverage : Coverage state)
    {next : ConsensusApp × Control} (same : SameView state.app next.1)
    (fetching : next.2.mayFetch = false → state.control.mayFetch = false) :
    Coverage (state.afterApp next) where
  started := coverage.started
  since subscription current index from' inLog :=
    (coverage.since subscription current index from' inLog).imp_left
      fun covered => covered.imp_left same.cursor.knows
  before subscription task noAnnouncement control index earlier :=
    (coverage.before subscription task noAnnouncement (fetching control) index earlier).imp_left
      same.cursor.knows
  offline offline := by
    simp only [CliState.afterApp, same.connected]
    exact coverage.offline offline

/-- Observing an event loses nothing that was known or queued. -/
theorem CliState.Covered.observe {state : CliState} {event : SessionEvent}
    {rest : List SessionEvent} (queue : state.queue = event :: rest) {index : Nat}
    (covered : state.Covered index) :
    (state.app.observe parseEntry event).buffer.Knows index ∨
      ∃ payload, SessionEvent.entry index payload ∈ rest := by
  rcases covered with knows | ⟨payload, queued⟩
  · left
    cases event with
    | entry other payload => exact EntryBuffer.knows_receive (.inr knows)
    | disconnected reason => exact knows
    | reconnected => exact knows
    | warning message => exact knows
  · rw [queue] at queued
    rcases List.mem_cons.mp queued with now | later
    · left
      rw [← now]
      exact EntryBuffer.knows_receive (.inl rfl)
    · exact .inr ⟨payload, later⟩

/-- Taking an event from the queue, with any control state after it.  The announcement of the
current subscription must be followed by fetches or find nothing missing. -/
theorem Coverage.observe {state : CliState} (coverage : Coverage state)
    {event : SessionEvent} {rest : List SessionEvent} (queue : state.queue = event :: rest)
    {control : Control}
    (announced : event = .reconnected → control.mayFetch = false →
      SessionEvent.reconnected ∉ rest → ∀ subscription, state.task = .connected subscription →
        ∀ index < subscription.start, state.Covered index)
    (fetching : control.mayFetch = false → state.control.mayFetch = false) :
    Coverage
      (({ state with queue := rest }).afterApp
        (state.app.observe parseEntry event, control)) where
  started := coverage.started
  since subscription current index from' inLog :=
    (coverage.since subscription current index from' inLog).imp_left
      fun covered => covered.observe queue
  before subscription task noAnnouncement notFetching index earlier := by
    apply CliState.Covered.observe queue
    by_cases announcement : event = .reconnected
    · exact announced announcement notFetching noAnnouncement subscription task index earlier
    · apply coverage.before subscription task _ (fetching notFetching) index earlier
      rw [queue]
      intro member
      rcases List.mem_cons.mp member with now | later
      · exact announcement now.symm
      · exact noAnnouncement later
  offline offline := by
    have flag := coverage.offline offline
    rw [queue] at flag
    cases event <;> exact flag

/-- The main loop and the submission loop catch up when they take an announcement; what they do
after another event leaves the cursor alone. -/
theorem Coverage.consumes {state : CliState} (coverage : Coverage state) {event : SessionEvent}
    {rest : List SessionEvent} (queue : state.queue = event :: rest)
    (waiting : state.control.mayFetch = false) {next : ConsensusApp × Control}
    (same : SameView (state.app.observe parseEntry event) next.1)
    (catchesUp : event = .reconnected → next.2.mayFetch = true) :
    Coverage (({ state with queue := rest }).afterApp next) := by
  have observed : Coverage
      (({ state with queue := rest }).afterApp (state.app.observe parseEntry event, next.2)) := by
    apply coverage.observe queue
    · intro announcement notFetching
      rw [catchesUp announcement] at notFetching
      cases notFetching
    · exact fun _ => waiting
  exact observed.sameView same fun notFetching => notFetching

/-- An empty page ends at the end of the log. -/
theorem slice_isEmpty {log : AppendLog} {start limit : Nat} (positive : 0 < limit)
    (empty : (log.slice start limit).isEmpty = true) : log.entries.length ≤ start := by
  rw [List.isEmpty_iff, AppendLog.slice, List.drop_eq_nil_iff, List.length_take] at empty
  omega

theorem Coverage.fetches {state : CliState} (coverage : Coverage state) (caller : CatchUpCaller) :
    Coverage
      (state.afterApp
        (state.app.applyPage parseEntry caller
          (state.log.slice state.app.buffer.nextIndex (min entryPageLimit maxLimit)))) := by
  unfold ConsensusApp.applyPage
  split
  · rename_i empty
    have atEnd := slice_isEmpty (by decide) empty
    refine ⟨coverage.started, coverage.since, ?_, coverage.offline⟩
    intro subscription task _ _ index earlier
    have started := coverage.started subscription (congrArg SessionTask.subscription? task)
    exact .inl (.inl (earlier.trans_le (started.trans atEnd)))
  · refine ⟨coverage.started, ?_, ?_, coverage.offline⟩
    · intro subscription current index from' inLog
      exact (coverage.since subscription current index from' inLog).imp_left
        fun covered => covered.imp_left EntryBuffer.knows_receiveAll
    · intro subscription task _ notFetching
      cases notFetching

theorem connectedAfter_false {connected : Bool} {queue : List SessionEvent}
    (offline : connectedAfter connected queue = false) : connectedAfter false queue = false := by
  induction queue generalizing connected with
  | nil => rfl
  | cons event rest ih =>
      cases event with
      | entry index payload => exact ih offline
      | disconnected reason => exact offline
      | reconnected => exact offline
      | warning message => exact ih offline

/-- An append that is refused tells the app that it is offline. -/
theorem Coverage.disconnects {state : CliState} (coverage : Coverage state)
    (control : state.control.mayFetch = false) :
    Coverage (state.afterApp ({ state.app with connected := false }, .idle)) where
  started := coverage.started
  since := coverage.since
  before subscription task noAnnouncement _ :=
    coverage.before subscription task noAnnouncement control
  offline offline := connectedAfter_false (coverage.offline offline)

/-- Every step keeps everything in reach, if no drain takes the announcement of the current
subscription while an entry is missing. -/
theorem CliTurn.coverage {before after : CliState} {action : CliAction}
    {report : Option CliReport} (turn : CliTurn parseEntry before action after report)
    (drainsCovered : DrainsCovered before (action, report)) (coverage : Coverage before) :
    Coverage after := by
  -- outside the fetches and the end, the control state does not matter
  have unmoved : ∀ {control : Control}, before.control = control → control.mayFetch = false →
      before.control.mayFetch = false := fun same quiet => same ▸ quiet
  cases turn with
  | otherAppends payload => exact coverage.append payload
  | processes position payload accepted =>
      have same : Coverage { before with inFlight := before.inFlight.eraseIdx position } :=
        ⟨coverage.started, coverage.since, coverage.before, coverage.offline⟩
      exact same.append payload
  | delivers position subscription index payload task found => exact coverage.delivers task found
  | warns message online => exact coverage.warns message
  | loses reason online => exact coverage_lose before reason
  | resubscribes task => exact coverage.resubscribes task
  | announces subscription task => exact coverage.announces task
  | fetches caller control => exact coverage.fetches caller
  | fetchFails caller control =>
      exact ⟨coverage.started, coverage.since, fun _ _ _ ended => (by cases ended),
        coverage.offline⟩
  | handles event rest control queue =>
      apply coverage.consumes queue (unmoved control rfl) (handleSessionEvent_sameView _ _)
      intro announcement
      rw [announcement]
      rfl
  | drains caller event rest control queue =>
      apply coverage.observe queue
      · intro announcement _ noAnnouncement subscription task
        rw [announcement] at queue
        exact drainsCovered caller rest subscription rfl control queue noAnnouncement task
      · exact fun _ => unmoved control rfl
  | drained caller control queue =>
      exact coverage.sameView (finishIfComplete_sameView _ _) fun _ => unmoved control rfl
  | resumes control =>
      exact coverage.sameView (resumePendingSubmission_sameView _) fun _ => unmoved control rfl
  | seesEcho waitingFor control seen =>
      exact ⟨coverage.started, coverage.since, fun subscription task noAnnouncement _ =>
        coverage.before subscription task noAnnouncement (unmoved control rfl), coverage.offline⟩
  | awaits waitingFor event rest control unseen queue =>
      apply coverage.consumes queue (unmoved control rfl) (awaitEvent_sameView _ _ _)
      intro announcement
      rw [announcement]
      rfl
  | accepted waitingFor payload subscription control task =>
      exact ⟨coverage.started, coverage.since, fun subscription task noAnnouncement _ =>
        coverage.before subscription task noAnnouncement (unmoved control rfl), coverage.offline⟩
  | sendFails waitingFor payload subscription control task =>
      exact (coverage_lose before _).disconnects (unmoved control rfl)
  | refused waitingFor payload control task => exact coverage.disconnects (unmoved control rfl)
  | inputs line nextClaimId control =>
      exact coverage.sameView (handleInput_sameView _ _ _) fun _ => unmoved control rfl
  | drafts op control allowed =>
      exact coverage.sameView (drafts_sameView before.app op) fun _ => unmoved control rfl

theorem coverage_joined (participant : String) (entries : List Value) :
    Coverage (CliState.joined participant entries) where
  started subscription current := by
    obtain rfl := Option.some.inj current
    exact le_rfl
  since subscription current index from' inLog := by
    obtain rfl := Option.some.inj current
    exact absurd inLog (Nat.not_lt.mpr from')
  before subscription _ _ notFetching := by cases notFetching
  offline offline := by cases offline

/-- In every run in which no drain takes the announcement of the current subscription while an
entry from before it is missing, a settled client has applied exactly the session log. -/
theorem settled_client_has_log {trace : List (CliAction × Option CliReport)} {state : CliState}
    (run : ((cliSystem parseEntry).guarded DrainsCovered).Execution trace state)
    (settled : state.Settled) : state.HasLog parseEntry := by
  have coverage : Coverage state := by
    apply run.reachable_invariant
    · intro start initial
      obtain ⟨participant, entries, rfl⟩ := initial
      exact coverage_joined participant entries
    · intro before label after coverage step
      exact (cliStep_turn parseEntry step.1).coverage step.2 coverage
  exact coverage.hasLog (cliSystem_faithful run.of_guarded) settled

/-- The connection is lost and found again while the first page is fetched, and an entry is appended
in between; the drain takes both events. -/
def overtakenCatchUp : List CliAction :=
  [.fetches true, .loses "gateway closed session websocket", .otherAppends .null, .resubscribes,
    .announces, .proceeds, .proceeds, .proceeds]

/-- Without the condition the claim fails: the client has handled every event and is connected, but
the entry that was appended between the fetch and the reconnect is missing for good. -/
theorem drained_reconnect_loses_update :
    ¬ ∀ (parseEntry : Value → Except String Entry) trace state,
      (cliSystem parseEntry).Execution trace state → state.Settled → state.HasLog parseEntry := by
  intro claim
  let parser : Value → Except String Entry := fun _ => .error "unknown variant"
  have ends : (TransitionSystem.runPartial (cliStep parser) (CliState.joined "ava" [])
      overtakenCatchUp).map (fun result =>
        (result.2.queue, result.2.control, result.2.app.connected, result.2.task,
          result.2.app.buffer.nextIndex, result.2.log.entries.length)) =
      some ([], .idle, true, .connected { start := 1, undelivered := [] }, 0, 1) := by
    rfl
  obtain ⟨⟨trace, state⟩, ran, shown⟩ := Option.map_eq_some_iff.mp ends
  simp only [Prod.mk.injEq] at shown
  obtain ⟨queue, control, connected, task, cursor, length⟩ := shown
  have run : (cliSystem parser).Execution trace state := .of_runPartial ⟨"ava", [], rfl⟩ ran
  have settled : state.Settled := .of_idle queue control connected task
  have caughtUp := (claim parser trace state run settled).cursor
  rw [cursor, length] at caughtUp
  cases caughtUp

/-- No drain is about to take an announcement. -/
def CliState.noAnnouncementDrained (state : CliState) : Bool :=
  match state.control, state.queue with
  | .draining _, .reconnected :: _ => false
  | _, _ => true

theorem drainsCovered_of_noAnnouncementDrained (state : CliState)
    (label : CliAction × Option CliReport) (quiet : state.noAnnouncementDrained = true) :
    DrainsCovered state label := by
  intro caller rest subscription _ control queue
  simp [CliState.noAnnouncementDrained, control, queue] at quiet

/-- The connection is lost, an entry is appended and the client reconnects. -/
def missedEntry : List CliAction :=
  [.fetches true, .proceeds, .loses "gateway closed session websocket",
    .otherAppends (Entry.toValue (.claim ⟨"id-0"⟩ "ava" "Use tokens" .proposal none)), .proceeds,
    .resubscribes, .announces, .proceeds, .fetches true, .fetches true, .proceeds, .proceeds]

/-- The catch-up after the reconnect brings the missed entry. -/
theorem missed_entry_caught_up :
    ∃ trace state, ((cliSystem EntryBuffer.stanceParser).guarded DrainsCovered).Execution trace
        state ∧
      state.log.entries.length = 1 ∧ state.HasLog EntryBuffer.stanceParser := by
  have ends : (TransitionSystem.runPartial
      (fun state action =>
        if state.noAnnouncementDrained then cliStep EntryBuffer.stanceParser state action
        else none)
      (CliState.joined "ava" []) missedEntry).map (fun result =>
        (result.2.queue, result.2.control, result.2.app.connected, result.2.task,
          result.2.log.entries.length)) =
      some ([], .idle, true, .connected { start := 1, undelivered := [] }, 1) := by
    decide +kernel
  obtain ⟨⟨trace, state⟩, ran, shown⟩ := Option.map_eq_some_iff.mp ends
  simp only [Prod.mk.injEq] at shown
  obtain ⟨queue, control, connected, task, length⟩ := shown
  have run : ((cliSystem EntryBuffer.stanceParser).guarded DrainsCovered).Execution trace state :=
    .guarded_of_runPartial drainsCovered_of_noAnnouncementDrained ⟨"ava", [], rfl⟩ ran
  have settled : state.Settled := .of_idle queue control connected task
  exact ⟨trace, state, run, length, settled_client_has_log run settled⟩

end ProstheticConscience.ConsensusCli
