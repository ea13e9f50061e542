/-
Module: ProstheticConscience.ConsensusCli.Resume
Purpose: When `resume_pending_submission` returns, with appends that are accepted and a connection
  that stays up.
Trusted boundary: none
Main exports: resumeStep, StaysUp, ConfirmsLast, ReturnsFinished, submission_returns_iff
-/
import Mathlib.Logic.Relation
import ProstheticConscience.ConsensusCli.Submission

namespace ProstheticConscience.ConsensusCli

open Consensus Gateway

/-- The event neither reports a loss of the connection nor a reconnect. -/
def SessionEvent.keepsConnection : SessionEvent → Bool
  | .entry _ _ => true
  | .warning _ => true
  | _ => false

section Steps

variable (parseEntry : Value → Except String Entry)

/-- The next step of `resume_pending_submission`, its appends accepted. -/
def resumeStep (state : CliState) : Option CliState :=
  match state.control with
  | .resuming => (cliStep parseEntry state .proceeds).map (·.1)
  | .appending _ _ => (cliStep parseEntry state (.answers true)).map (·.1)
  | .awaiting _ => (cliStep parseEntry state .proceeds).map (·.1)
  | _ => none

/-- The steps from one state to another. -/
def Resumes : CliState → CliState → Prop :=
  Relation.ReflTransGen fun before after => resumeStep parseEntry before = some after

/-- The app after a list of events. -/
def observeAll (app : ConsensusApp) (events : List SessionEvent) : ConsensusApp :=
  events.foldl (·.observe parseEntry ·) app

/-- The last payload of the submission is echoed by the last of the events, and not before. -/
structure ConfirmsLast (app : ConsensusApp) (events : List SessionEvent) : Prop where
  complete : (observeAll parseEntry app events).buffer.isSubmissionComplete = true
  notBefore : ∀ earlier later, events = earlier ++ later → later ≠ [] →
    (observeAll parseEntry app earlier).buffer.isSubmissionComplete = false

/-- The function returns without an error once it has taken `fed`, leaves `rest` on the queue, and
the submission is finished and gone. -/
def ReturnsFinished (state : CliState) (fed rest : List SessionEvent) : Prop :=
  ∃ final, Resumes parseEntry state final ∧ final.control = .idle ∧ final.queue = rest ∧
    final.app.buffer = (observeAll parseEntry state.app fed).buffer.finishSubmission.2 ∧
    final.app.buffer.pendingSubmission = none

end Steps

/-- The connection is up, and no event of the queue says otherwise. -/
structure StaysUp (state : CliState) : Prop where
  connected : state.app.connected = true
  online : state.task.isConnected = true
  events : ∀ event ∈ state.queue, event.keepsConnection = true

/-! ### A submission that is not complete

The outer loop of the source fetches and waits for events until the submission is complete. While it
is not, finishing does nothing, and the loop returns only when the events run out. -/

/-- The function still has payloads to send, or none of them is its own any more. -/
structure StillWaits (state : CliState) : Prop where
  up : StaysUp state
  notIdle : state.control ≠ .idle
  incomplete : ∀ pending, state.app.buffer.pendingSubmission = some pending →
    pending.isComplete = false
  pending : state.control = .resuming → state.app.buffer.pendingSubmission ≠ none

variable {parseEntry : Value → Except String Entry}

/-- A finished submission is gone, an unfinished one is not complete. -/
theorem incomplete_finishIfComplete (app : ConsensusApp) (next : Control)
    {pending : PendingSubmission}
    (found : (app.finishIfComplete next).1.buffer.pendingSubmission = some pending) :
    pending.isComplete = false := by
  unfold ConsensusApp.finishIfComplete at found
  split at found
  · have taken := EntryBuffer.finishSubmission_pendingSubmission app.buffer
    split at found <;> rename_i outcome <;> rw [outcome] at taken <;> cases taken.symm.trans found
  · rename_i unfinished
    rw [EntryBuffer.isSubmissionComplete, found] at unfinished
    simpa using unfinished

theorem connected_finishIfComplete (app : ConsensusApp) (next : Control) :
    (app.finishIfComplete next).1.connected = app.connected := by
  unfold ConsensusApp.finishIfComplete
  split
  · split <;> rfl
  · rfl

variable (parseEntry) in
/-- An event that keeps the connection keeps the function waiting. -/
theorem awaitEvent_keepsWaiting {app : ConsensusApp} {event : SessionEvent} (waitingFor : Nat)
    (connected : app.connected = true) (keeps : event.keepsConnection = true)
    (incomplete : ∀ pending, app.buffer.pendingSubmission = some pending →
      pending.isComplete = false) :
    let next := app.awaitEvent parseEntry waitingFor event
    next.1.connected = true ∧ (next.2 = .awaiting waitingFor ∨ next.2 = .stopped) ∧
      ∀ pending, next.1.buffer.pendingSubmission = some pending → pending.isComplete = false := by
  cases event with
  | entry index payload =>
      have online : (app.observe parseEntry (.entry index payload)).connected = true := connected
      have keep : (app.observe parseEntry (.entry index payload)).keepAwaiting waitingFor =
          .awaiting waitingFor := if_pos online
      simp only [ConsensusApp.awaitEvent, keep]
      exact ⟨(connected_finishIfComplete _ _).trans online, finishIfComplete_control _ _,
        fun pending => incomplete_finishIfComplete _ _⟩
  | warning message =>
      have keep : app.keepAwaiting waitingFor = .awaiting waitingFor := if_pos connected
      exact ⟨connected, .inl keep, incomplete⟩
  | disconnected reason => exact absurd keeps Bool.false_ne_true
  | reconnected => exact absurd keeps Bool.false_ne_true

/-- At the top of the loop an incomplete submission sends its next payload. -/
theorem resumePendingSubmission_incomplete {app : ConsensusApp} {pending : PendingSubmission}
    (connected : app.connected = true) (found : app.buffer.pendingSubmission = some pending)
    (incomplete : pending.isComplete = false) :
    ∃ control, app.resumePendingSubmission = (app, control) ∧ control ≠ .idle ∧
      control ≠ .resuming := by
  simp only [ConsensusApp.resumePendingSubmission, found, incomplete, connected]
  cases pending.payloads[pending.nextEntry]? with
  | some payload => exact ⟨_, rfl, by simp, by simp⟩
  | none => exact ⟨_, rfl, by simp, by simp⟩

theorem StillWaits.step {before after : CliState} (waits : StillWaits before)
    (step : resumeStep parseEntry before = some after) : StillWaits after := by
  obtain ⟨⟨connected, online, events⟩, notIdle, incomplete, pending⟩ := waits
  unfold resumeStep at step
  split at step
  · rename_i control
    obtain ⟨found, foundEq⟩ := Option.ne_none_iff_exists'.mp (pending control)
    obtain ⟨next, resumed, nextIdle, nextResuming⟩ :=
      resumePendingSubmission_incomplete connected foundEq (incomplete found foundEq)
    simp only [cliStep, appProceeds, control, resumed, Option.map_some, Option.some.injEq] at step
    subst step
    exact ⟨⟨connected, online, events⟩, nextIdle, incomplete, fun same => absurd same nextResuming⟩
  · rename_i control
    cases task : before.task with
    | connected subscription =>
        simp only [cliStep, control, task, Option.map_some, Option.some.injEq] at step
        subst step
        exact ⟨⟨connected, rfl, events⟩, by simp, incomplete, by simp⟩
    | reconnecting subscription =>
        rw [task] at online
        cases online
    | backoff =>
        rw [task] at online
        cases online
  · rename_i waitingFor control
    simp only [cliStep, appProceeds, control] at step
    split at step
    · rename_i seen
      simp only [Option.map_some, Option.some.injEq] at step
      subst step
      refine ⟨⟨connected, online, events⟩, by simp, incomplete, fun _ gone => ?_⟩
      dsimp only at gone
      rw [ConsensusApp.echoSeen, gone] at seen
      cases seen
    · split at step
      · cases step
      · rename_i event rest queue
        simp only [Option.map_some, Option.some.injEq] at step
        subst step
        rw [queue] at events
        obtain ⟨keeps, restKeeps⟩ := List.forall_mem_cons.mp events
        obtain ⟨stillConnected, control, stillIncomplete⟩ :=
          awaitEvent_keepsWaiting parseEntry waitingFor connected keeps incomplete
        refine ⟨⟨stillConnected, online, restKeeps⟩, ?_, stillIncomplete, ?_⟩
        · intro idle
          rcases control with awaiting | stopped
          · exact Control.noConfusion (awaiting.symm.trans idle)
          · exact Control.noConfusion (stopped.symm.trans idle)
        · intro resuming
          rcases control with awaiting | stopped
          · exact Control.noConfusion (awaiting.symm.trans resuming)
          · exact Control.noConfusion (stopped.symm.trans resuming)
  · cases step

theorem stillWaits_of_incomplete {state : CliState} {pending : PendingSubmission}
    (control : state.control = .resuming) (up : StaysUp state)
    (found : state.app.buffer.pendingSubmission = some pending)
    (incomplete : pending.isComplete = false) : StillWaits state := by
  refine ⟨up, ?_, ?_, ?_⟩
  · rw [control]
    exact Control.noConfusion
  · intro other otherFound
    obtain rfl := Option.some.inj (found.symm.trans otherFound)
    exact incomplete
  · rw [found]
    exact fun _ => Option.some_ne_none pending

/-- So the function never returns while the connection stays up. -/
theorem StillWaits.resumes {before after : CliState} (waits : StillWaits before)
    (resumes : Resumes parseEntry before after) : StillWaits after := by
  induction resumes with
  | refl => exact waits
  | tail _ step ih => exact ih.step step

/-! ### A submission that is complete -/

/-- A complete submission is finished at the top of the loop, and the function returns. -/
theorem resumes_of_complete {state : CliState} {pending : PendingSubmission}
    (control : state.control = .resuming)
    (found : state.app.buffer.pendingSubmission = some pending)
    (complete : pending.isComplete = true)
    (finishes : state.app.buffer.finishSubmission.1 = .ok true) :
    Resumes parseEntry state
      (state.afterApp
        ({ state.app with buffer := state.app.buffer.finishSubmission.2 }, .idle)) := by
  have finished : state.app.finishIfComplete .idle =
      ({ state.app with buffer := state.app.buffer.finishSubmission.2 }, .idle) := by
    rw [ConsensusApp.finishIfComplete, EntryBuffer.isSubmissionComplete, found, Option.any_some,
      if_pos complete]
    cases outcome : state.app.buffer.finishSubmission with
    | mk result buffer =>
        rw [outcome] at finishes
        dsimp only at finishes
        subst finishes
        rfl
  have resumed : state.app.resumePendingSubmission = state.app.finishIfComplete .idle := by
    simp only [ConsensusApp.resumePendingSubmission, found, complete, if_true]
  apply Relation.ReflTransGen.single
  simp only [resumeStep, control, cliStep, appProceeds, resumed, finished, Option.map_some]

/-- `resume_pending_submission` returns with the last echo exactly if there was nothing left to
confirm when it was called; otherwise it finishes the submission and waits for one more event. -/
theorem submission_returns_iff {state : CliState} {pending : PendingSubmission}
    {fed rest : List SessionEvent} (control : state.control = .resuming) (up : StaysUp state)
    (found : state.app.buffer.pendingSubmission = some pending)
    (finishes : state.app.buffer.finishSubmission.1 = .ok true)
    (queue : state.queue = fed ++ rest) (confirms : ConfirmsLast parseEntry state.app fed) :
    ReturnsFinished parseEntry state fed rest ↔ pending.payloads.length ≤ pending.nextEntry := by
  rw [← decide_eq_true_iff (p := pending.payloads.length ≤ pending.nextEntry)]
  change _ ↔ pending.isComplete = true
  constructor
  · intro returns
    obtain ⟨final, resumes, idle, _⟩ := returns
    by_contra notComplete
    have waits := stillWaits_of_incomplete control up found (Bool.not_eq_true _ ▸ notComplete)
    exact (waits.resumes resumes).notIdle idle
  · intro complete
    have nothing : fed = [] := by
      by_contra some
      have before := confirms.notBefore [] fed rfl some
      rw [observeAll, List.foldl_nil, EntryBuffer.isSubmissionComplete, found, Option.any_some,
        complete] at before
      cases before
    subst nothing
    exact ⟨_, resumes_of_complete control found complete finishes, rfl, queue, rfl,
      EntryBuffer.finishSubmission_pendingSubmission _⟩

/-! ### One payload -/

/-- The entry that a client submits. -/
def tokenClaim : Value :=
  Entry.toValue (.claim ⟨"id-0"⟩ "ava" "Use tokens" .proposal none)

/-- A client about to resume the submission of its only draft. -/
def submitting (nextEntry : Nat) (queue : List SessionEvent) : CliState where
  log := { entries := [] }
  inFlight := []
  queue
  task := .connected { start := 0, undelivered := [] }
  app :=
    { buffer :=
        { EntryBuffer.new "ava" with
          engine :=
            { ConsensusEngine.new "ava" with
              drafts := [⟨0, .claim "Use tokens" .proposal none⟩]
              nextDraftId := 1 }
          pendingSubmission :=
            some { draftIds := [0], payloads := [tokenClaim], nextEntry } }
      connected := true
      confirmation := none }
  control := .resuming

theorem submitting_staysUp (nextEntry : Nat) (queue : List SessionEvent)
    (keeps : ∀ event ∈ queue, event.keepsConnection = true) :
    StaysUp (submitting nextEntry queue) :=
  ⟨rfl, rfl, keeps⟩

/-- When everything is confirmed already, the function returns at once. -/
theorem confirmed_submission_returns :
    ReturnsFinished EntryBuffer.stanceParser (submitting 1 [.warning "slow"]) []
      [.warning "slow"] := by
  have up := submitting_staysUp 1 [.warning "slow"] (by decide)
  have confirms :
      ConfirmsLast EntryBuffer.stanceParser (submitting 1 [.warning "slow"]).app [] := by
    refine ⟨by decide, ?_⟩
    intro earlier later split some
    exact absurd (List.append_eq_nil_iff.mp split.symm).2 some
  exact (submission_returns_iff rfl up rfl (by decide) rfl confirms).mpr (by decide)

/-- The echo of the only payload arrives, and the function does not return. -/
theorem echoed_submission_waits :
    ¬ ∀ (parseEntry : Value → Except String Entry) (state : CliState)
      (pending : PendingSubmission) (fed rest : List SessionEvent),
      state.control = .resuming → StaysUp state →
      state.app.buffer.pendingSubmission = some pending →
      state.app.buffer.finishSubmission.1 = .ok true → state.queue = fed ++ rest →
      ConfirmsLast parseEntry state.app fed → ReturnsFinished parseEntry state fed rest := by
  intro claim
  have up := submitting_staysUp 0 [.entry 0 tokenClaim] (by decide)
  have confirms : ConfirmsLast EntryBuffer.stanceParser
      (submitting 0 [.entry 0 tokenClaim]).app [.entry 0 tokenClaim] := by
    refine ⟨by decide +kernel, ?_⟩
    intro earlier later split some
    cases earlier with
    | nil => decide
    | cons event earlier =>
        rw [List.cons_append] at split
        have none := (List.cons.inj split).2
        exact absurd (List.append_eq_nil_iff.mp none.symm).2 some
  have returns := claim EntryBuffer.stanceParser _ _ [.entry 0 tokenClaim] [] rfl up rfl
    (by decide +kernel) rfl confirms
  obtain ⟨final, resumes, idle, _⟩ := returns
  have waits := stillWaits_of_incomplete rfl up rfl rfl
  exact (waits.resumes resumes).notIdle idle

end ProstheticConscience.ConsensusCli
