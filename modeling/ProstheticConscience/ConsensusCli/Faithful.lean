/-
Module: ProstheticConscience.ConsensusCli.Faithful
Purpose: What the client holds stems from the session log, in every run: its entry buffer follows
  the log, what its pending submission has seen come back stands in the log, and so does every
  entry on the event queue or still to be delivered, under its index.
Trusted boundary: none
Main exports: Faithful, SameView, CliTurn.faithful, cliSystem_faithful
-/
import ProstheticConscience.ConsensusCli.App
import ProstheticConscience.Consensus.LogCursor

namespace ProstheticConscience.ConsensusCli

open Consensus Gateway

/-- The entry buffer, the queue and the subscription agree with the log. -/
structure Faithful (parseEntry : Value → Except String Entry) (state : CliState) : Prop where
  follows : state.app.buffer.Follows parseEntry state.log.entries
  echoes : EntryBuffer.EchoesApplied state.log.entries state.app.buffer
  queued : ∀ index payload, SessionEvent.entry index payload ∈ state.queue →
    state.log.entries[index]? = some payload
  undelivered : ∀ subscription, state.task.subscription? = some subscription →
    ∀ entry ∈ subscription.undelivered, state.log.entries[entry.1]? = some entry.2

variable {parseEntry : Value → Except String Entry}

/-! ### Steps of the app that read no entry

They leave the cursor, the held-back entries and what was seen come back as they are: the view that
the invariant is about. -/

/-- The app changed neither its cursor nor its connection flag, and a submission that is pending
now was pending before or has begun. -/
structure SameView (before after : ConsensusApp) : Prop where
  cursor : EntryBuffer.SameCursor before.buffer after.buffer
  connected : after.connected = before.connected
  submission : ∀ pending, after.buffer.pendingSubmission = some pending →
    before.buffer.pendingSubmission = some pending ∨ pending.nextEntry = 0

/-- A change that keeps the buffer and the connection keeps the view. -/
theorem SameView.of_buffer {before after : ConsensusApp} (buffer : after.buffer = before.buffer)
    (connected : after.connected = before.connected) : SameView before after where
  cursor := buffer ▸ EntryBuffer.SameCursor.refl _
  connected := connected
  submission _ pendingEq := .inl (buffer ▸ pendingEq)

theorem SameView.refl (app : ConsensusApp) : SameView app app :=
  .of_buffer rfl rfl

/-- What was seen come back depends on the view only. -/
theorem SameView.echoes {before after : ConsensusApp} (same : SameView before after)
    {log : List Value} (echoes : EntryBuffer.EchoesApplied log before.buffer) :
    EntryBuffer.EchoesApplied log after.buffer := by
  intro pending pendingEq position noted
  rw [same.cursor.nextIndex]
  rcases same.submission pending pendingEq with earlier | begun
  · exact echoes pending earlier position noted
  · rw [begun] at noted
    cases noted

/-- Finishing a submission does not touch the view. -/
theorem finishIfComplete_sameView (app : ConsensusApp) (next : Control) :
    SameView app (app.finishIfComplete next).1 := by
  unfold ConsensusApp.finishIfComplete
  split
  · have same := EntryBuffer.finishSubmission_sameCursor app.buffer
    have taken := EntryBuffer.finishSubmission_pendingSubmission app.buffer
    split
    · rename_i outcome
      rw [outcome] at same taken
      exact ⟨same, rfl, fun pending pendingEq => by cases taken.symm.trans pendingEq⟩
    · rename_i outcome
      rw [outcome] at same taken
      exact ⟨same, rfl, fun pending pendingEq => by cases taken.symm.trans pendingEq⟩
  · exact SameView.refl app

/-- Resuming a submission does not touch the view. -/
theorem resumePendingSubmission_sameView (app : ConsensusApp) :
    SameView app app.resumePendingSubmission.1 := by
  unfold ConsensusApp.resumePendingSubmission
  split
  · exact SameView.refl app
  · split
    · exact finishIfComplete_sameView app .idle
    · split
      · exact SameView.refl app
      · split <;> exact SameView.refl app

/-- Beginning a submission does not touch the view. -/
theorem beginSubmission_sameView (app : ConsensusApp) (nextClaimId : Nat → ClaimId) :
    SameView app (app.beginSubmission nextClaimId).1 := by
  have same := EntryBuffer.beginSubmission_sameCursor app.buffer nextClaimId
  have submission : ∀ pending,
      (app.buffer.beginSubmission nextClaimId).2.pendingSubmission = some pending →
      app.buffer.pendingSubmission = some pending ∨ pending.nextEntry = 0 := by
    intro pending pendingEq
    rcases EntryBuffer.beginSubmission_pendingSubmission app.buffer nextClaimId with
      kept | ⟨begun, begunEq, atStart⟩
    · exact .inl (kept ▸ pendingEq)
    · obtain rfl := Option.some.inj (begunEq.symm.trans pendingEq)
      exact .inr atStart
  unfold ConsensusApp.beginSubmission
  split <;> rename_i outcome <;> rw [outcome] at same submission <;>
    exact ⟨same, rfl, submission⟩

/-- No line that the user enters touches the view. -/
theorem handleInput_sameView (app : ConsensusApp) (line : InputLine)
    (nextClaimId : Nat → ClaimId) : SameView app (app.handleInput line nextClaimId).1 := by
  unfold ConsensusApp.handleInput
  split
  · exact SameView.refl app
  · split
    · rename_i action _
      unfold ConsensusApp.handleConfirmation
      split
      · exact .of_buffer rfl rfl
      · cases action with
        | clearDrafts => exact ⟨⟨rfl, rfl, rfl⟩, rfl, fun _ pendingEq => .inl pendingEq⟩
        | submit =>
            have same := beginSubmission_sameView { app with confirmation := none } nextClaimId
            exact ⟨same.cursor, same.connected, same.submission⟩
    · split
      · exact SameView.refl app
      · unfold ConsensusApp.handleCommand
        split
        · split
          · exact SameView.refl app
          · split <;> exact .of_buffer rfl rfl
        · split <;> exact .of_buffer rfl rfl
        · exact SameView.refl app
        · exact SameView.refl app

/-- No draft operation touches the view. -/
theorem drafts_sameView (app : ConsensusApp) (op : DraftOp) :
    SameView app
      { app with buffer := { app.buffer with engine := (app.buffer.engine.perform op).2 } } :=
  ⟨⟨EntryBuffer.perform_log _ op, rfl, rfl⟩, rfl, fun _ pendingEq => .inl pendingEq⟩

/-! ### Steps of gateway and session task

An entry that is appended goes to the subscription and waits there, in the order of the log; what
reaches the queue carries its index. -/

/-- A notification waits behind those of the subscription that are not delivered yet. -/
theorem SessionTask.subscription?_notify (task : SessionTask) (entry : Nat × Value) :
    (task.notify entry).subscription? =
      task.subscription?.map fun subscription =>
        { subscription with undelivered := subscription.undelivered ++ [entry] } := by
  cases task <;> rfl

/-- A notified task has the entry to deliver, and what it had before. -/
theorem SessionTask.mem_notify {task : SessionTask} {entry other : Nat × Value}
    {subscription : Subscription}
    (current : (task.notify entry).subscription? = some subscription)
    (member : other ∈ subscription.undelivered) :
    other = entry ∨ ∃ earlier, task.subscription? = some earlier ∧ other ∈ earlier.undelivered := by
  rw [SessionTask.subscription?_notify, Option.map_eq_some_iff] at current
  obtain ⟨earlier, earlierEq, rfl⟩ := current
  rcases List.mem_append.mp member with before | now
  · exact .inr ⟨earlier, earlierEq, before⟩
  · exact .inl (List.mem_singleton.mp now)

/-- The log may grow at any time: the new entry is on its way to a connected client. -/
theorem Faithful.append {state : CliState} (faithful : Faithful parseEntry state)
    (payload : Value) : Faithful parseEntry (state.append payload) := by
  have grown : (state.append payload).log.entries = state.log.entries ++ [payload] := rfl
  have stable : ∀ {index : Nat} {held : Value}, state.log.entries[index]? = some held →
      (state.append payload).log.entries[index]? = some held := by
    intro index held inLog
    rw [grown, List.getElem?_append_left (List.getElem?_eq_some_iff.mp inLog).1]
    exact inLog
  constructor
  · exact faithful.follows.grow payload
  · exact faithful.echoes.grow payload
  · exact fun index held queued => stable (faithful.queued index held queued)
  · intro subscription current entry member
    rcases SessionTask.mem_notify current member with rfl | ⟨earlier, earlierEq, before⟩
    · simp [grown, AppendLog.len]
    · exact stable (faithful.undelivered earlier earlierEq entry before)

/-- What a faithful state may push on its queue: entries of the log and other events. -/
theorem Faithful.push {state : CliState} (faithful : Faithful parseEntry state)
    {event : SessionEvent} {task : SessionTask}
    (inLog : ∀ index payload, event = .entry index payload →
      state.log.entries[index]? = some payload)
    (fewer : ∀ subscription, task.subscription? = some subscription →
      ∃ earlier, state.task.subscription? = some earlier ∧
        ∀ entry ∈ subscription.undelivered, entry ∈ earlier.undelivered) :
    Faithful parseEntry { state with queue := state.queue ++ [event], task } where
  follows := faithful.follows
  echoes := faithful.echoes
  queued index payload member := by
    rcases List.mem_append.mp member with earlier | now
    · exact faithful.queued index payload earlier
    · exact inLog index payload (List.mem_singleton.mp now).symm
  undelivered subscription current entry member := by
    obtain ⟨earlier, earlierEq, kept⟩ := fewer subscription current
    exact faithful.undelivered earlier earlierEq entry (kept entry member)

/-! ### Steps of the app -/

/-- What does not touch the view keeps the client faithful. -/
theorem Faithful.sameView {state : CliState} (faithful : Faithful parseEntry state)
    {next : ConsensusApp × Control} (same : SameView state.app next.1) :
    Faithful parseEntry (state.afterApp next) :=
  ⟨same.cursor.follows faithful.follows, same.echoes faithful.echoes, faithful.queued,
    faithful.undelivered⟩

/-- Taking an event from the queue keeps the client faithful: an entry event carries the log's entry
of its index. -/
theorem Faithful.observe {state : CliState} (faithful : Faithful parseEntry state)
    {event : SessionEvent} {rest : List SessionEvent} (queue : state.queue = event :: rest)
    (control : Control) :
    Faithful parseEntry
      (({ state with queue := rest }).afterApp
        (state.app.observe parseEntry event, control)) where
  follows := by
    cases event with
    | entry index payload =>
        exact faithful.follows.receive
          (faithful.queued index payload (queue ▸ List.mem_cons_self))
    | disconnected reason => exact faithful.follows
    | reconnected => exact faithful.follows
    | warning message => exact faithful.follows
  echoes := by
    cases event with
    | entry index payload =>
        exact faithful.echoes.receive faithful.follows
          (faithful.queued index payload (queue ▸ List.mem_cons_self))
    | disconnected reason => exact faithful.echoes
    | reconnected => exact faithful.echoes
    | warning message => exact faithful.echoes
  queued index payload member :=
    faithful.queued index payload (queue ▸ List.mem_cons_of_mem _ member)
  undelivered := faithful.undelivered

/-- After an event, the app handles nothing but the end of a submission. -/
theorem handleSessionEvent_sameView (app : ConsensusApp) (event : SessionEvent) :
    SameView (app.observe parseEntry event) (app.handleSessionEvent parseEntry event).1 := by
  cases event with
  | entry index payload => exact finishIfComplete_sameView _ .idle
  | disconnected reason => exact SameView.refl _
  | reconnected => exact SameView.refl _
  | warning message => exact SameView.refl _

/-- While the app waits for its echoes it sees events as it always does. -/
theorem awaitEvent_sameView (app : ConsensusApp) (waitingFor : Nat) (event : SessionEvent) :
    SameView (app.observe parseEntry event) (app.awaitEvent parseEntry waitingFor event).1 := by
  cases event with
  | entry index payload => exact finishIfComplete_sameView _ _
  | disconnected reason => exact SameView.refl _
  | reconnected => exact SameView.refl _
  | warning message => exact SameView.refl _

/-- The entries of a page stand in the log, from the cursor on. -/
theorem mem_page {log : AppendLog} {start limit : Nat} (inLog : start ≤ log.entries.length)
    {entry : Nat × Value}
    (member : entry ∈ ((log.slice start limit).zipIdx start).map fun entry => (entry.2, entry.1)) :
    log.entries[entry.1]? = some entry.2 := by
  obtain ⟨⟨payload, index⟩, indexed, rfl⟩ := List.mem_map.mp member
  obtain ⟨from', found⟩ := List.mk_mem_zipIdx_iff_le_and_getElem?_sub.mp indexed
  rw [AppendLog.slice, Nat.min_eq_left inLog, List.getElem?_drop, List.getElem?_take] at found
  split at found
  · rwa [Nat.add_sub_cancel' from'] at found
  · cases found

/-- A page of the log from the cursor on keeps the client faithful, whatever its limit. -/
theorem Faithful.fetches {state : CliState} (faithful : Faithful parseEntry state)
    (caller : CatchUpCaller) (limit : Nat) :
    Faithful parseEntry
      (state.afterApp
        (state.app.applyPage parseEntry caller
          (state.log.slice state.app.buffer.nextIndex limit))) := by
  unfold ConsensusApp.applyPage
  split
  · exact ⟨faithful.follows, faithful.echoes, faithful.queued, faithful.undelivered⟩
  · have inLog : ∀ entry ∈ ((state.log.slice state.app.buffer.nextIndex limit).zipIdx
        state.app.buffer.nextIndex).map fun entry => (entry.2, entry.1),
        state.log.entries[entry.1]? = some entry.2 :=
      fun entry member => mem_page faithful.follows.cursor member
    exact ⟨faithful.follows.receiveAll inLog, faithful.echoes.receiveAll inLog faithful.follows,
      faithful.queued, faithful.undelivered⟩

/-- Every step keeps the client faithful to the log. -/
theorem CliTurn.faithful {before after : CliState} {action : CliAction}
    {report : Option CliReport} (turn : CliTurn parseEntry before action after report)
    (faithful : Faithful parseEntry before) : Faithful parseEntry after := by
  cases turn with
  | otherAppends payload => exact faithful.append payload
  | processes position payload accepted =>
      have same : Faithful parseEntry
          { before with inFlight := before.inFlight.eraseIdx position } :=
        ⟨faithful.follows, faithful.echoes, faithful.queued, faithful.undelivered⟩
      exact same.append payload
  | delivers position subscription index payload task found =>
      have current := congrArg SessionTask.subscription? task
      apply faithful.push
      · intro other held same
        obtain ⟨rfl, rfl⟩ := SessionEvent.entry.inj same
        exact faithful.undelivered subscription current _ (List.mem_of_getElem? found)
      · intro other otherEq
        obtain rfl := Option.some.inj otherEq
        exact ⟨subscription, current, fun entry member => List.mem_of_mem_eraseIdx member⟩
  | warns message online =>
      exact faithful.push (by simp) fun subscription current =>
        ⟨subscription, current, fun _ member => member⟩
  | loses reason online =>
      exact faithful.push (by simp) fun subscription current => by cases current
  | resubscribes task =>
      refine ⟨faithful.follows, faithful.echoes, faithful.queued, ?_⟩
      intro subscription current entry member
      obtain rfl := Option.some.inj current
      cases member
  | announces subscription task =>
      exact faithful.push (by simp) fun other otherEq =>
        ⟨subscription, congrArg SessionTask.subscription? task,
          Option.some.inj otherEq ▸ fun _ member => member⟩
  | fetches caller control => exact faithful.fetches caller _
  | fetchFails caller control =>
      exact ⟨faithful.follows, faithful.echoes, faithful.queued, faithful.undelivered⟩
  | handles event rest control queue =>
      exact (faithful.observe queue .idle).sameView (handleSessionEvent_sameView _ _)
  | drains caller event rest control queue => exact faithful.observe queue _
  | drained caller control queue => exact faithful.sameView (finishIfComplete_sameView _ _)
  | resumes control => exact faithful.sameView (resumePendingSubmission_sameView _)
  | seesEcho waitingFor control seen =>
      exact ⟨faithful.follows, faithful.echoes, faithful.queued, faithful.undelivered⟩
  | awaits waitingFor event rest control unseen queue =>
      exact (faithful.observe queue .idle).sameView (awaitEvent_sameView _ _ _)
  | accepted waitingFor payload subscription control task =>
      exact ⟨faithful.follows, faithful.echoes, faithful.queued, faithful.undelivered⟩
  | sendFails waitingFor payload subscription control task =>
      have lost : Faithful parseEntry (before.lose "failed to send append over websocket") :=
        faithful.push (by simp) fun subscription current => by cases current
      exact ⟨lost.follows, lost.echoes, lost.queued, lost.undelivered⟩
  | refused waitingFor payload control task =>
      exact ⟨faithful.follows, faithful.echoes, faithful.queued, faithful.undelivered⟩
  | inputs line nextClaimId control =>
      exact faithful.sameView (handleInput_sameView _ _ _)
  | drafts op control allowed =>
      exact faithful.sameView (drafts_sameView before.app op)

/-- A client that has just joined is faithful: it has applied nothing. -/
theorem Faithful.joined (participant : String) (entries : List Value) :
    Faithful parseEntry (CliState.joined participant entries) where
  follows := EntryBuffer.Follows.new parseEntry participant entries
  echoes pending pendingEq := by cases pendingEq
  queued index payload member := by cases member
  undelivered subscription current entry member := by
    obtain rfl := Option.some.inj current
    cases member

/-- A reachable client is faithful to the log. -/
theorem cliSystem_faithful {trace : List (CliAction × Option CliReport)} {state : CliState}
    (run : (cliSystem parseEntry).Execution trace state) : Faithful parseEntry state := by
  apply run.reachable_invariant
  · intro start initial
    obtain ⟨participant, entries, rfl⟩ := initial
    exact Faithful.joined participant entries
  · intro before label after faithful step
    exact (cliStep_turn parseEntry step).faithful faithful

end ProstheticConscience.ConsensusCli
