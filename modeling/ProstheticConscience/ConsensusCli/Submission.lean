/-
Module: ProstheticConscience.ConsensusCli.Submission
Purpose: A submission on its way to the session log.  The log holds a payload as often as the
  transport accepted it, it is accepted again only after the app was told of a connection loss, and
  no payload is sent before the client has found the payloads in front of it in the log.
Trusted boundary: none
Main exports: sends, losses, sentSinceLoss, Begun, Unrelated, AppendedInOrder,
  submission_appended_in_order, payload_appended_twice
-/
import Mathlib.Data.List.Perm.Basic
import ProstheticConscience.ConsensusCli.Faithful

namespace ProstheticConscience.ConsensusCli

open Consensus Gateway

/-! ### What a trace shows

Appends are told apart by who made them: the log is what all of them have appended, in order, and a
submission's own appends are those that its app sent. -/

/-- How often the transport accepted an append of the payload. -/
def sends (payload : Value) (trace : List (CliAction × Option CliReport)) : Nat :=
  trace.countP fun label => label.2 = some (.sent payload)

/-- How often the app was told of a connection loss. -/
def losses (trace : List (CliAction × Option CliReport)) : Nat :=
  trace.countP fun label => label.2 = some .lossReported

/-- The payloads accepted since the last loss, after one more step. -/
def sentAfter (sent : List Value) : Option CliReport → List Value
  | some (.sent payload) => sent ++ [payload]
  | some .lossReported => []
  | none => sent

/-- The payloads that the transport accepted since the app was last told of a connection loss. -/
def sentSinceLoss (trace : List (CliAction × Option CliReport)) : List Value :=
  trace.foldl (fun sent label => sentAfter sent label.2) []

/-- Whenever the payload was accepted, it had not been accepted since the last loss. -/
def SendsSeparated (payload : Value) (trace : List (CliAction × Option CliReport)) : Prop :=
  ∀ earlier label later, trace = earlier ++ label :: later → label.2 = some (.sent payload) →
    payload ∉ sentSinceLoss earlier

theorem sentSinceLoss_append (trace : List (CliAction × Option CliReport))
    (label : CliAction × Option CliReport) :
    sentSinceLoss (trace ++ [label]) = sentAfter (sentSinceLoss trace) label.2 := by
  simp [sentSinceLoss, List.foldl_append]

theorem sends_append (payload : Value) (trace : List (CliAction × Option CliReport))
    (label : CliAction × Option CliReport) :
    sends payload (trace ++ [label]) =
      sends payload trace + if label.2 = some (.sent payload) then 1 else 0 := by
  simp [sends, List.countP_append, List.countP_singleton]

theorem losses_append (trace : List (CliAction × Option CliReport))
    (label : CliAction × Option CliReport) :
    losses (trace ++ [label]) = losses trace + if label.2 = some .lossReported then 1 else 0 := by
  simp [losses, List.countP_append, List.countP_singleton]

theorem SendsSeparated.append {payload : Value} {trace : List (CliAction × Option CliReport)}
    (separated : SendsSeparated payload trace) {label : CliAction × Option CliReport}
    (unsent : label.2 = some (.sent payload) → payload ∉ sentSinceLoss trace) :
    SendsSeparated payload (trace ++ [label]) := by
  intro earlier sending later split sent
  rcases List.eq_nil_or_concat later with rfl | ⟨middle, last, rfl⟩
  · obtain ⟨rfl, same⟩ := List.append_inj' split rfl
    obtain rfl := List.singleton_inj.mp same
    exact unsent sent
  · rw [List.concat_eq_append, ← List.cons_append, ← List.append_assoc] at split
    exact separated earlier sending middle (List.append_inj' split rfl).1 sent

theorem SendsSeparated.of_append {payload : Value} {trace : List (CliAction × Option CliReport)}
    {label : CliAction × Option CliReport}
    (separated : SendsSeparated payload (trace ++ [label])) :
    SendsSeparated payload trace ∧
      (label.2 = some (.sent payload) → payload ∉ sentSinceLoss trace) := by
  constructor
  · intro earlier sending later split
    exact separated earlier sending (later ++ [label]) (by simp [split])
  · exact separated trace label [] rfl

/-- A payload that is sent again only after a loss is sent at most once more than there are
losses. -/
theorem SendsSeparated.sends_le {payload : Value} {trace : List (CliAction × Option CliReport)}
    (separated : SendsSeparated payload trace) :
    sends payload trace ≤ losses trace + 1 ∧
      (payload ∉ sentSinceLoss trace → sends payload trace ≤ losses trace) := by
  induction trace using List.reverseRecOn with
  | nil => simp [sends]
  | append_singleton trace label ih =>
      obtain ⟨separated, unsent⟩ := separated.of_append
      obtain ⟨bound, unsentBound⟩ := ih separated
      rw [sends_append, losses_append, sentSinceLoss_append]
      obtain ⟨action, report⟩ := label
      cases report with
      | none => exact ⟨by simpa using bound, by simpa [sentAfter] using unsentBound⟩
      | some report =>
          cases report with
          | lossReported =>
              simp only [reduceCtorEq, Option.some.injEq, if_false, if_true]
              exact ⟨by omega, fun _ => by omega⟩
          | sent other =>
              by_cases same : other = payload
              · subst same
                have now := unsentBound (unsent rfl)
                exact ⟨by simpa using now, by simp [sentAfter]⟩
              · refine ⟨by simpa [same] using bound, ?_⟩
                simpa [sentAfter, same, Ne.symm same] using unsentBound

/-! ### The log -/

/-- Appends in flight and in the log are the accepted ones, they were sent after the payloads in
front of them were found, and they stand in order. -/
structure Logged (payloads : List Value) (trace : List (CliAction × Option CliReport))
    (log : AppendLog) (inFlight : List Value) : Prop where
  counted : ∀ payload ∈ payloads,
    log.entries.count payload + inFlight.count payload = sends payload trace
  separated : ∀ payload ∈ payloads, SendsSeparated payload trace
  ordered : ∀ (first second : Nat) earlier later, first < second → payloads[first]? = some earlier →
    payloads[second]? = some later → later ∈ log.entries ∨ later ∈ inFlight →
    log.entries.idxOf earlier < log.entries.idxOf later

/-- What is in front of another value stays in front when a list grows. -/
theorem idxOf_append_lt {log : List Value} {earlier later : Value}
    (inFront : log.idxOf earlier < log.idxOf later) (added : List Value) :
    (log ++ added).idxOf earlier < (log ++ added).idxOf later := by
  have present : earlier ∈ log :=
    List.idxOf_lt_length_iff.mp (inFront.trans_le List.idxOf_le_length)
  rw [List.idxOf_append_of_mem present, List.idxOf_append]
  split
  · exact inFront
  · exact (List.idxOf_lt_length_of_mem present).trans_le (Nat.le_add_left _ _)

variable {payloads : List Value} {trace : List (CliAction × Option CliReport)} {log : AppendLog}
  {inFlight : List Value}

/-- A step that accepts no append and leaves the log alone. -/
theorem Logged.quiet (logged : Logged payloads trace log inFlight)
    {label : CliAction × Option CliReport} (quiet : ∀ payload, label.2 ≠ some (.sent payload)) :
    Logged payloads (trace ++ [label]) log inFlight where
  counted payload ours := by
    rw [sends_append, if_neg (quiet payload), logged.counted payload ours, Nat.add_zero]
  separated payload ours := (logged.separated payload ours).append fun sent =>
    absurd sent (quiet payload)
  ordered := logged.ordered

/-- Another participant's append is none of the payloads. -/
theorem Logged.otherAppends (logged : Logged payloads trace log inFlight) {other : Value}
    (unrelated : other ∉ payloads) : Logged payloads trace (log.append other) inFlight where
  counted payload ours := by
    have different : other ≠ payload := fun same => unrelated (same ▸ ours)
    rw [AppendLog.append, List.count_append, List.count_singleton, ← logged.counted payload ours]
    simp [different]
  separated := logged.separated
  ordered first second earlier later less firstEq secondEq member := by
    apply idxOf_append_lt
    apply logged.ordered first second earlier later less firstEq secondEq
    rcases member with inLog | sent
    · rcases List.mem_append.mp inLog with before | now
      · exact .inl before
      · rw [List.mem_singleton.mp now] at secondEq
        exact absurd (List.mem_of_getElem? secondEq) unrelated
    · exact .inr sent

/-- An append in flight moves to the end of the log. -/
theorem Logged.processes (logged : Logged payloads trace log inFlight) {position : Nat}
    {processed : Value} (found : inFlight[position]? = some processed) :
    Logged payloads trace (log.append processed) (inFlight.eraseIdx position) where
  counted payload ours := by
    obtain ⟨inRange, rfl⟩ := List.getElem?_eq_some_iff.mp found
    have moved := (List.getElem_cons_eraseIdx_perm inRange).count_eq payload
    rw [AppendLog.append, List.count_append, List.count_singleton, ← logged.counted payload ours,
      ← moved, List.count_cons]
    omega
  separated := logged.separated
  ordered first second earlier later less firstEq secondEq member := by
    apply idxOf_append_lt
    apply logged.ordered first second earlier later less firstEq secondEq
    rcases member with inLog | sent
    · rcases List.mem_append.mp inLog with before | now
      · exact .inl before
      · rw [List.mem_singleton.mp now]
        exact .inr (List.mem_of_getElem? found)
    · exact .inr (List.mem_of_mem_eraseIdx sent)

/-- An append is accepted; it was not sent since the last loss, and what is in front of it stands
in the log. -/
theorem Logged.sends (logged : Logged payloads trace log inFlight) {action : CliAction}
    {sent : Value} (unsent : sent ∈ payloads → sent ∉ sentSinceLoss trace)
    (inTurn : ∀ (first second : Nat) earlier, first < second → payloads[first]? = some earlier →
      payloads[second]? = some sent → earlier ∈ log.entries) :
    Logged payloads (trace ++ [(action, some (.sent sent))]) log (inFlight ++ [sent]) where
  counted payload ours := by
    rw [sends_append, List.count_append, List.count_singleton, ← Nat.add_assoc,
      logged.counted payload ours]
    simp
  separated payload ours := by
    apply (logged.separated payload ours).append
    intro same
    obtain rfl : sent = payload := by simpa using same
    exact unsent ours
  ordered first second earlier later less firstEq secondEq member := by
    by_cases known : later ∈ log.entries ∨ later ∈ inFlight
    · exact logged.ordered first second earlier later less firstEq secondEq known
    · obtain ⟨notInLog, notSent⟩ := not_or.mp known
      have now : later = sent := by simpa [notInLog, notSent] using member
      rw [List.idxOf_eq_length notInLog]
      exact List.idxOf_lt_length_of_mem (inTurn first second earlier less firstEq (now ▸ secondEq))

/-! ### The app -/

/-- The entry whose echo the app is waiting for. -/
def Control.waitingFor? : Control → Option Nat
  | .awaiting waitingFor => some waitingFor
  | .fetching (.submission waitingFor) => some waitingFor
  | .draining (.submission waitingFor) => some waitingFor
  | _ => none

/-- The app is waiting for the answer to an append. -/
def Control.isAppending : Control → Bool
  | .appending _ _ => true
  | _ => false

/-- Where the app stands with the submission; `sent` was accepted since the last loss. -/
structure OnItsWay (payloads : List Value) (sent : List Value) (app : ConsensusApp)
    (control : Control) : Prop where
  /-- Another submission shares no payload with it. -/
  related : ∀ pending, app.buffer.pendingSubmission = some pending →
    pending.payloads = payloads ∨ pending.payloads.Disjoint payloads
  appending : ∀ position payload, control = .appending position payload →
    app.connected = true ∧ ∃ pending, app.buffer.pendingSubmission = some pending ∧
      pending.nextEntry = position ∧ pending.payloads[position]? = some payload
  /-- What was sent since the last loss and has not come back yet is being waited for. -/
  unconfirmed : ∀ pending position payload, app.buffer.pendingSubmission = some pending →
    pending.payloads = payloads → payloads[position]? = some payload →
    pending.nextEntry ≤ position → payload ∈ sent →
    control = .stopped ∨
      position = pending.nextEntry ∧ app.connected = true ∧ control.waitingFor? = some position

variable {sent : List Value} {app : ConsensusApp} {control : Control}

/-- A step of the app that begins no submission.  If it is waiting for an echo and is told of no
loss, it goes on waiting. -/
theorem OnItsWay.carriesOn (onItsWay : OnItsWay payloads sent app control)
    {nextApp : ConsensusApp} {next : Control} {sent' : List Value} (running : control ≠ .stopped)
    (carriesOn : EntryBuffer.CarriesOn app.buffer nextApp.buffer)
    (appending : ∀ position payload, next = .appending position payload →
      nextApp.connected = true ∧ ∃ pending, nextApp.buffer.pendingSubmission = some pending ∧
        pending.nextEntry = position ∧ pending.payloads[position]? = some payload)
    (waits : ∀ payload ∈ sent', payload ∈ sent ∧
      ∀ position, control.waitingFor? = some position → app.connected = true →
        next = .stopped ∨ nextApp.connected = true ∧ next.waitingFor? = some position) :
    OnItsWay payloads sent' nextApp next where
  related pending pendingEq := by
    obtain ⟨earlier, earlierEq, samePayloads, _⟩ := carriesOn pending pendingEq
    exact samePayloads ▸ onItsWay.related earlier earlierEq
  appending := appending
  unconfirmed pending position payload pendingEq ours payloadEq unseen recent := by
    obtain ⟨earlier, earlierEq, samePayloads, further⟩ := carriesOn pending pendingEq
    obtain ⟨before, goesOn⟩ := waits payload recent
    rcases onItsWay.unconfirmed earlier position payload earlierEq (samePayloads.trans ours)
      payloadEq (further.trans unseen) before with stopped | ⟨atNext, online, waiting⟩
    · exact absurd stopped running
    · rcases goesOn position waiting online with stopped | still
      · exact .inl stopped
      · exact .inr ⟨by omega, still⟩

/-- The report of an event empties the accepted payloads, or leaves them alone. -/
theorem mem_sentAfter_report {event : SessionEvent} {payload : Value}
    (recent : payload ∈ sentAfter sent event.report) :
    payload ∈ sent ∧ ∀ reason, event ≠ .disconnected reason := by
  cases event with
  | disconnected reason => cases recent
  | entry index payload => exact ⟨recent, fun reason => SessionEvent.noConfusion⟩
  | reconnected => exact ⟨recent, fun reason => SessionEvent.noConfusion⟩
  | warning message => exact ⟨recent, fun reason => SessionEvent.noConfusion⟩

/-! What the functions of the app do with the submission and the control state. -/

theorem finishIfComplete_control (app : ConsensusApp) (next : Control) :
    (app.finishIfComplete next).2 = next ∨ (app.finishIfComplete next).2 = .stopped := by
  unfold ConsensusApp.finishIfComplete
  split
  · split
    · exact .inl rfl
    · exact .inr rfl
  · exact .inl rfl

theorem finishIfComplete_carriesOn (app : ConsensusApp) (next : Control) :
    EntryBuffer.CarriesOn app.buffer (app.finishIfComplete next).1.buffer := by
  unfold ConsensusApp.finishIfComplete
  split
  · have taken := EntryBuffer.finishSubmission_pendingSubmission app.buffer
    split <;> rename_i outcome <;> rw [outcome] at taken <;> intro pending pendingEq <;>
      cases taken.symm.trans pendingEq
  · exact .of_eq rfl

variable {parseEntry : Value → Except String Entry}

theorem observe_carriesOn (app : ConsensusApp) (event : SessionEvent) :
    EntryBuffer.CarriesOn app.buffer (app.observe parseEntry event).buffer := by
  cases event with
  | entry index payload => exact EntryBuffer.receive_carriesOn app.buffer index payload
  | disconnected reason => exact .of_eq rfl
  | reconnected => exact .of_eq rfl
  | warning message => exact .of_eq rfl

/-- Only a disconnect event ends a connection. -/
theorem observe_connected {app : ConsensusApp} {event : SessionEvent}
    (online : app.connected = true) (noLoss : ∀ reason, event ≠ .disconnected reason) :
    (app.observe parseEntry event).connected = true := by
  cases event with
  | entry index payload => exact online
  | disconnected reason => exact absurd rfl (noLoss reason)
  | reconnected => rfl
  | warning message => exact online

theorem handleSessionEvent_carriesOn (app : ConsensusApp) (event : SessionEvent) :
    EntryBuffer.CarriesOn app.buffer (app.handleSessionEvent parseEntry event).1.buffer := by
  apply (observe_carriesOn app event).trans
  cases event with
  | entry index payload => exact finishIfComplete_carriesOn _ .idle
  | disconnected reason => exact .of_eq rfl
  | reconnected => exact .of_eq rfl
  | warning message => exact .of_eq rfl

theorem awaitEvent_carriesOn (app : ConsensusApp) (waitingFor : Nat) (event : SessionEvent) :
    EntryBuffer.CarriesOn app.buffer
      (app.awaitEvent parseEntry waitingFor event).1.buffer := by
  apply (observe_carriesOn app event).trans
  cases event with
  | entry index payload => exact finishIfComplete_carriesOn _ _
  | disconnected reason => exact .of_eq rfl
  | reconnected => exact .of_eq rfl
  | warning message => exact .of_eq rfl

theorem applyPage_carriesOn (app : ConsensusApp) (caller : CatchUpCaller) (entries : List Value) :
    EntryBuffer.CarriesOn app.buffer (app.applyPage parseEntry caller entries).1.buffer := by
  unfold ConsensusApp.applyPage
  split
  · exact .of_eq rfl
  · exact EntryBuffer.receiveAll_carriesOn _ _

theorem resumePendingSubmission_carriesOn (app : ConsensusApp) :
    EntryBuffer.CarriesOn app.buffer app.resumePendingSubmission.1.buffer := by
  unfold ConsensusApp.resumePendingSubmission
  split
  · exact .of_eq rfl
  · split
    · exact finishIfComplete_carriesOn app .idle
    · split
      · exact .of_eq rfl
      · split <;> exact .of_eq rfl

theorem finishIfComplete_isAppending (app : ConsensusApp) {next : Control}
    (notNext : next.isAppending = false) : (app.finishIfComplete next).2.isAppending = false := by
  rcases finishIfComplete_control app next with same | stopped
  · rw [same]
    exact notNext
  · rw [stopped]
    rfl

theorem keepAwaiting_isAppending (app : ConsensusApp) (waitingFor : Nat) :
    (app.keepAwaiting waitingFor).isAppending = false := by
  unfold ConsensusApp.keepAwaiting
  split <;> rfl

theorem handleSessionEvent_isAppending (app : ConsensusApp) (event : SessionEvent) :
    (app.handleSessionEvent parseEntry event).2.isAppending = false := by
  cases event with
  | entry index payload => exact finishIfComplete_isAppending _ rfl
  | disconnected reason => rfl
  | reconnected => rfl
  | warning message => rfl

theorem awaitEvent_isAppending (app : ConsensusApp) (waitingFor : Nat) (event : SessionEvent) :
    (app.awaitEvent parseEntry waitingFor event).2.isAppending = false := by
  cases event with
  | entry index payload =>
      exact finishIfComplete_isAppending _ (keepAwaiting_isAppending _ waitingFor)
  | disconnected reason =>
      exact keepAwaiting_isAppending { app with connected := false } waitingFor
  | reconnected => rfl
  | warning message => exact keepAwaiting_isAppending _ waitingFor

theorem caughtUp_isAppending (app : ConsensusApp) (caller : CatchUpCaller) :
    (app.caughtUp caller).2.isAppending = false := by
  apply finishIfComplete_isAppending
  cases caller with
  | startup => rfl
  | mainLoop => rfl
  | submission waitingFor => exact keepAwaiting_isAppending app waitingFor

theorem handleInput_isAppending (app : ConsensusApp) (line : InputLine)
    (nextClaimId : Nat → ClaimId) : (app.handleInput line nextClaimId).2.isAppending = false := by
  unfold ConsensusApp.handleInput
  split
  · rfl
  · split
    · rename_i action _
      unfold ConsensusApp.handleConfirmation
      split
      · rfl
      · cases action with
        | clearDrafts => rfl
        | submit =>
            simp only [ConsensusApp.beginSubmission]
            split <;> rfl
    · split
      · rfl
      · unfold ConsensusApp.handleCommand
        split
        · split
          · rfl
          · split <;> rfl
        · split <;> rfl
        · rfl
        · rfl

/-- Finishing keeps the connection flag, and goes on or stops. -/
theorem finishIfComplete_waits {app : ConsensusApp} (online : app.connected = true)
    (waitingFor : Nat) :
    (app.finishIfComplete (app.keepAwaiting waitingFor)).2 = .stopped ∨
      (app.finishIfComplete (app.keepAwaiting waitingFor)).1.connected = true ∧
        (app.finishIfComplete (app.keepAwaiting waitingFor)).2.waitingFor? = some waitingFor := by
  rcases finishIfComplete_control app (app.keepAwaiting waitingFor) with same | stopped
  · right
    rw [(finishIfComplete_sameView app _).connected, same, ConsensusApp.keepAwaiting, if_pos online]
    exact ⟨online, rfl⟩
  · exact .inl stopped

/-- The app goes on waiting for an echo, unless the event reports a loss. -/
theorem awaitEvent_waits {app : ConsensusApp} {event : SessionEvent}
    (online : app.connected = true) (noLoss : ∀ reason, event ≠ .disconnected reason)
    (waitingFor : Nat) :
    (app.awaitEvent parseEntry waitingFor event).2 = .stopped ∨
      (app.awaitEvent parseEntry waitingFor event).1.connected = true ∧
        (app.awaitEvent parseEntry waitingFor event).2.waitingFor? = some waitingFor := by
  have observed : (app.observe parseEntry event).connected = true :=
    observe_connected online noLoss
  cases event with
  | entry index payload => exact finishIfComplete_waits observed waitingFor
  | disconnected reason => exact absurd rfl (noLoss reason)
  | reconnected => exact .inr ⟨rfl, rfl⟩
  | warning message =>
      have keeps : (app.awaitEvent parseEntry waitingFor (.warning message)).2 =
          .awaiting waitingFor := by
        simp [ConsensusApp.awaitEvent, ConsensusApp.keepAwaiting, observed]
      exact .inr ⟨online, by rw [keeps]; rfl⟩

/-- An append is of the next payload of the pending submission, over a connection. -/
theorem resumePendingSubmission_appending {app : ConsensusApp} {position : Nat} {payload : Value}
    (appends : app.resumePendingSubmission.2 = .appending position payload) :
    app.resumePendingSubmission.1.connected = true ∧
      ∃ pending, app.resumePendingSubmission.1.buffer.pendingSubmission = some pending ∧
        pending.nextEntry = position ∧ pending.payloads[position]? = some payload := by
  unfold ConsensusApp.resumePendingSubmission at appends ⊢
  split at appends
  · cases appends
  · rename_i pending pendingEq
    split at appends
    · have idle : (app.finishIfComplete .idle).2.isAppending = false :=
        finishIfComplete_isAppending app rfl
      rw [appends] at idle
      cases idle
    · split at appends
      · cases appends
      · rename_i incomplete online
        split at appends
        · rename_i next found
          obtain ⟨rfl, rfl⟩ := Control.appending.inj appends
          have connected : app.connected = true := by simpa using online
          simp only [incomplete, connected, Bool.not_true]
          exact ⟨connected, pending, pendingEq, rfl, found⟩
        · cases appends

/-! ### Steps

One case per turn of the client. An append in flight at a disconnect may or may not have reached the
log, so a submission resumes from the first payload that has not come back. -/

/-- No other participant appends one of the payloads, and no other submission contains one. -/
def Unrelated (payloads : List Value) (state : CliState) (label : CliAction × Option CliReport) :
    Prop :=
  match label.1 with
  | .otherAppends payload => payload ∉ payloads
  | .inputs line nextClaimId =>
      ∀ pending,
        (state.app.handleInput line nextClaimId).1.buffer.pendingSubmission = some pending →
        state.app.buffer.pendingSubmission = some pending ∨ pending.payloads.Disjoint payloads
  | _ => True

/-- A step from the main loop, which may begin another submission. -/
theorem OnItsWay.idleTurn (onItsWay : OnItsWay payloads sent app control) (idle : control = .idle)
    {nextApp : ConsensusApp} {next : Control} (notAppending : next.isAppending = false)
    (unrelated : ∀ pending, nextApp.buffer.pendingSubmission = some pending →
      app.buffer.pendingSubmission = some pending ∨ pending.payloads.Disjoint payloads) :
    OnItsWay payloads sent nextApp next where
  related pending pendingEq := by
    rcases unrelated pending pendingEq with same | other
    · exact onItsWay.related pending same
    · exact .inr other
  appending position payload same := by
    rw [same] at notAppending
    cases notAppending
  unconfirmed pending position payload pendingEq ours payloadEq unseen recent := by
    rcases unrelated pending pendingEq with same | other
    · rcases onItsWay.unconfirmed pending position payload same ours payloadEq unseen recent with
        stopped | ⟨_, _, waiting⟩
      · cases idle.symm.trans stopped
      · rw [idle] at waiting
        cases waiting
    · have member := List.mem_of_getElem? payloadEq
      exact absurd member (other (ours ▸ member))

/-- An accepted append is of the next payload of the submission or of none of its payloads; it was
not sent since the last loss. -/
theorem OnItsWay.sends (onItsWay : OnItsWay payloads sent app control) {waitingFor : Nat}
    {payload : Value} (control_eq : control = .appending waitingFor payload) :
    (∃ pending, app.buffer.pendingSubmission = some pending ∧ pending.payloads = payloads ∧
        pending.nextEntry = waitingFor ∧ payloads[waitingFor]? = some payload ∧ payload ∉ sent) ∨
      payload ∉ payloads := by
  obtain ⟨online, pending, pendingEq, next, found⟩ :=
    onItsWay.appending waitingFor payload control_eq
  rcases onItsWay.related pending pendingEq with ours | other
  · refine .inl ⟨pending, pendingEq, ours, next, ours ▸ found, ?_⟩
    intro recent
    rcases onItsWay.unconfirmed pending waitingFor payload pendingEq ours (ours ▸ found) next.le
        recent with stopped | ⟨_, _, waiting⟩
    · cases control_eq.symm.trans stopped
    · rw [control_eq] at waiting
      cases waiting
  · exact .inr (other (List.mem_of_getElem? found))

/-- After an accepted append, the app waits for its echo. -/
theorem OnItsWay.accepted (onItsWay : OnItsWay payloads sent app control)
    (distinct : payloads.Nodup) {waitingFor : Nat} {payload : Value}
    (control_eq : control = .appending waitingFor payload) :
    OnItsWay payloads (sent ++ [payload]) app (.awaiting waitingFor) where
  related := onItsWay.related
  appending position other same := by cases same
  unconfirmed pending position other pendingEq ours otherEq unseen recent := by
    obtain ⟨online, current, currentEq, next, found⟩ :=
      onItsWay.appending waitingFor payload control_eq
    obtain rfl := Option.some.inj (currentEq.symm.trans pendingEq)
    rcases List.mem_append.mp recent with before | now
    · rcases onItsWay.unconfirmed current position other currentEq ours otherEq unseen before with
        stopped | ⟨_, _, waiting⟩
      · cases control_eq.symm.trans stopped
      · rw [control_eq] at waiting
        cases waiting
    · obtain rfl := List.mem_singleton.mp now
      rw [ours, ← otherEq] at found
      obtain rfl : waitingFor = position :=
        (List.getElem?_inj (List.getElem?_eq_some_iff.mp (found.trans otherEq)).1 distinct).mp found
      exact .inr ⟨next.symm, online, rfl⟩

/-- The echo of the entry the app waited for was seen. -/
theorem OnItsWay.seesEcho (onItsWay : OnItsWay payloads sent app control) {waitingFor : Nat}
    (awaiting : control = .awaiting waitingFor) (seen : app.echoSeen waitingFor = true) :
    OnItsWay payloads sent app .resuming where
  related := onItsWay.related
  appending position payload same := by cases same
  unconfirmed pending position payload pendingEq ours payloadEq unseen recent := by
    rcases onItsWay.unconfirmed pending position payload pendingEq ours payloadEq unseen recent with
      stopped | ⟨atNext, _, waiting⟩
    · cases awaiting.symm.trans stopped
    · rw [awaiting] at waiting
      obtain rfl := Option.some.inj waiting
      simp [ConsensusApp.echoSeen, pendingEq, atNext] at seen

/-- An append that is not accepted reports a loss. -/
theorem OnItsWay.goesOffline (onItsWay : OnItsWay payloads sent app control)
    (running : control ≠ .stopped) :
    OnItsWay payloads [] { app with connected := false } .idle := by
  have carriesOn : EntryBuffer.CarriesOn app.buffer
      { app with connected := false : ConsensusApp }.buffer := .of_eq rfl
  apply onItsWay.carriesOn running carriesOn
  · intro position payload same
    cases same
  · intro payload recent
    cases recent

theorem not_appending {control : Control} (notAppending : control.isAppending = false)
    {position : Nat} {payload : Value} : control ≠ .appending position payload := by
  intro same
  rw [same] at notAppending
  cases notAppending

/-- Every step keeps the app on its way. -/
theorem CliTurn.onItsWay {before after : CliState} {action : CliAction}
    {report : Option CliReport} (turn : CliTurn parseEntry before action after report)
    (distinct : payloads.Nodup) (unrelated : Unrelated payloads before (action, report))
    (onItsWay : OnItsWay payloads sent before.app before.control) :
    OnItsWay payloads (sentAfter sent report) after.app after.control := by
  -- a control state in which the app waits for no echo
  have notWaiting : ∀ {control : Control} {goal : Nat → Prop}, before.control = control →
      control.waitingFor? = none → ∀ position, before.control.waitingFor? = some position →
      before.app.connected = true → goal position := by
    intro control goal same none position waiting
    rw [same, none] at waiting
    cases waiting
  cases turn with
  | otherAppends payload => exact onItsWay
  | processes position payload accepted => exact onItsWay
  | delivers position subscription index payload task found => exact onItsWay
  | warns message online => exact onItsWay
  | loses reason online => exact onItsWay
  | resubscribes task => exact onItsWay
  | announces subscription task => exact onItsWay
  | fetches caller control =>
      generalize before.log.slice before.app.buffer.nextIndex (min entryPageLimit maxLimit) = page
      have next : (before.app.applyPage parseEntry caller page).2.waitingFor? =
            before.control.waitingFor? ∧
          (before.app.applyPage parseEntry caller page).2.isAppending = false ∧
          (before.app.applyPage parseEntry caller page).1.connected = before.app.connected := by
        unfold ConsensusApp.applyPage
        rw [control]
        split
        · exact ⟨by cases caller <;> rfl, rfl, rfl⟩
        · exact ⟨rfl, rfl, rfl⟩
      apply onItsWay.carriesOn (by simp [control]) (applyPage_carriesOn _ _ _)
      · exact fun position payload same => absurd same (not_appending next.2.1)
      · intro payload recent
        exact ⟨recent, fun position waiting online =>
          .inr ⟨next.2.2.trans online, next.1.trans waiting⟩⟩
  | fetchFails caller control =>
      apply onItsWay.carriesOn (by simp [control]) (.of_eq rfl)
      · intro position payload same
        cases same
      · exact fun payload recent => ⟨recent, fun _ _ _ => .inl rfl⟩
  | handles event rest control queue =>
      apply onItsWay.carriesOn (by simp [control]) (handleSessionEvent_carriesOn _ _)
      · exact fun position payload same =>
          absurd same (not_appending (handleSessionEvent_isAppending _ _))
      · exact fun payload recent => ⟨(mem_sentAfter_report recent).1, notWaiting control rfl⟩
  | drains caller event rest control queue =>
      apply onItsWay.carriesOn (by simp [control]) (observe_carriesOn _ _)
      · intro position payload same
        cases same
      · intro payload recent
        obtain ⟨before', noLoss⟩ := mem_sentAfter_report recent
        exact ⟨before', fun position waiting online =>
          .inr ⟨observe_connected online noLoss, control ▸ waiting⟩⟩
  | drained caller control queue =>
      apply onItsWay.carriesOn (by simp [control]) (finishIfComplete_carriesOn _ _)
      · exact fun position payload same =>
          absurd same (not_appending (caughtUp_isAppending _ caller))
      · intro payload recent
        refine ⟨recent, fun position waiting online => ?_⟩
        rw [control] at waiting
        cases caller with
        | startup => cases waiting
        | mainLoop => cases waiting
        | submission waitingFor =>
            obtain rfl := Option.some.inj waiting
            exact finishIfComplete_waits online waitingFor
  | resumes control =>
      apply onItsWay.carriesOn (by simp [control]) (resumePendingSubmission_carriesOn _)
      · exact fun position payload same => resumePendingSubmission_appending same
      · exact fun payload recent => ⟨recent, notWaiting control rfl⟩
  | seesEcho waitingFor control seen => exact onItsWay.seesEcho control seen
  | awaits waitingFor event rest control unseen queue =>
      apply onItsWay.carriesOn (by simp [control]) (awaitEvent_carriesOn _ _ _)
      · exact fun position payload same =>
          absurd same (not_appending (awaitEvent_isAppending _ _ _))
      · intro payload recent
        obtain ⟨before', noLoss⟩ := mem_sentAfter_report recent
        refine ⟨before', fun position waiting online => ?_⟩
        rw [control] at waiting
        obtain rfl := Option.some.inj waiting
        exact awaitEvent_waits online noLoss waitingFor
  | accepted waitingFor payload subscription control task =>
      exact onItsWay.accepted distinct control
  | sendFails waitingFor payload subscription control task =>
      exact onItsWay.goesOffline (by simp [control])
  | refused waitingFor payload control task => exact onItsWay.goesOffline (by simp [control])
  | inputs line nextClaimId control =>
      exact onItsWay.idleTurn control (handleInput_isAppending _ _ _) unrelated
  | drafts op control allowed =>
      exact onItsWay.idleTurn control rfl fun pending pendingEq => .inl pendingEq

/-- When a payload is accepted, the client has found the payloads in front of it in the log. -/
theorem OnItsWay.sent_in_turn {state : CliState}
    (onItsWay : OnItsWay payloads sent state.app state.control)
    (faithful : Faithful parseEntry state) (distinct : payloads.Nodup) {waitingFor : Nat}
    {payload : Value} (control : state.control = .appending waitingFor payload)
    {first second : Nat} {earlier : Value} (less : first < second)
    (firstEq : payloads[first]? = some earlier) (secondEq : payloads[second]? = some payload) :
    earlier ∈ state.log.entries.take state.app.buffer.nextIndex := by
  rcases onItsWay.sends control with ⟨pending, pendingEq, ours, next, found, _⟩ | foreign
  · have inRange := (List.getElem?_eq_some_iff.mp found).1
    obtain rfl : waitingFor = second :=
      (List.getElem?_inj inRange distinct).mp (found.trans secondEq.symm)
    exact faithful.echoes pending pendingEq first (next ▸ less) earlier (ours ▸ firstEq)
  · exact absurd (List.mem_of_getElem? secondEq) foreign

theorem report_ne_sent (event : SessionEvent) (payload : Value) :
    event.report ≠ some (.sent payload) := by
  cases event <;> simp [SessionEvent.report]

/-- Every step keeps the log in order. -/
theorem CliTurn.logged {before after : CliState} {action : CliAction}
    {report : Option CliReport} (turn : CliTurn parseEntry before action after report)
    (distinct : payloads.Nodup) (unrelated : Unrelated payloads before (action, report))
    (faithful : Faithful parseEntry before)
    (onItsWay : OnItsWay payloads (sentSinceLoss trace) before.app before.control)
    (logged : Logged payloads trace before.log before.inFlight) :
    Logged payloads (trace ++ [(action, report)]) after.log after.inFlight := by
  cases turn with
  | otherAppends payload => exact (logged.otherAppends unrelated).quiet (by simp)
  | processes position payload accepted => exact (logged.processes accepted).quiet (by simp)
  | delivers position subscription index payload task found => exact logged.quiet (by simp)
  | warns message online => exact logged.quiet (by simp)
  | loses reason online => exact logged.quiet (by simp)
  | resubscribes task => exact logged.quiet (by simp)
  | announces subscription task => exact logged.quiet (by simp)
  | fetches caller control => exact logged.quiet (by simp)
  | fetchFails caller control => exact logged.quiet (by simp)
  | handles event rest control queue => exact logged.quiet (report_ne_sent event)
  | drains caller event rest control queue => exact logged.quiet (report_ne_sent event)
  | drained caller control queue => exact logged.quiet (by simp)
  | resumes control => exact logged.quiet (by simp)
  | seesEcho waitingFor control seen => exact logged.quiet (by simp)
  | awaits waitingFor event rest control unseen queue => exact logged.quiet (report_ne_sent event)
  | accepted waitingFor payload subscription control task =>
      apply logged.sends
      · intro ours
        rcases onItsWay.sends control with ⟨_, _, _, _, _, unsent⟩ | foreign
        · exact unsent
        · exact absurd ours foreign
      · intro first second earlier less firstEq secondEq
        exact List.mem_of_mem_take
          (onItsWay.sent_in_turn faithful distinct control less firstEq secondEq)
  | sendFails waitingFor payload subscription control task => exact logged.quiet (by simp)
  | refused waitingFor payload control task => exact logged.quiet (by simp)
  | inputs line nextClaimId control => exact logged.quiet (by simp)
  | drafts op control allowed => exact logged.quiet (by simp)

/-! ### Submissions -/

/-- A submission of the payloads is about to send its first one; they occur nowhere else. -/
structure Begun (parseEntry : Value → Except String Entry) (payloads : List Value)
    (start : CliState) : Prop where
  reachable : (cliSystem parseEntry).Reachable start
  control : start.control = .resuming
  pending : ∃ draftIds, start.app.buffer.pendingSubmission = some ⟨draftIds, payloads, 0⟩
  distinct : payloads.Nodup
  unused : ∀ payload ∈ payloads, payload ∉ start.log.entries ∧ payload ∉ start.inFlight

/-- What becomes of the payloads of a submission. -/
structure AppendedInOrder (parseEntry : Value → Except String Entry) (payloads : List Value)
    (trace : List (CliAction × Option CliReport)) (state : CliState) : Prop where
  /-- Each accepted append is in the log or on its way to it. -/
  counted : ∀ payload ∈ payloads,
    state.log.entries.count payload + state.inFlight.count payload = sends payload trace
  separated : ∀ payload ∈ payloads, SendsSeparated payload trace
  bounded : ∀ payload ∈ payloads, state.log.entries.count payload ≤ losses trace + 1
  /-- No payload is sent before the client has found the payloads in front of it in the log. -/
  sentInTurn : ∀ (first second : Nat) earlier later, first < second →
    payloads[first]? = some earlier → payloads[second]? = some later →
    ∀ action after, cliStep parseEntry state action = some (after, some (.sent later)) →
    earlier ∈ state.log.entries.take state.app.buffer.nextIndex
  ordered : ∀ (first second : Nat) earlier later, first < second →
    payloads[first]? = some earlier → payloads[second]? = some later →
    later ∈ state.log.entries →
    earlier ∈ state.log.entries ∧ state.log.entries.idxOf earlier < state.log.entries.idxOf later

/-- Client, submission and log after a trace. -/
structure Tracked (parseEntry : Value → Except String Entry) (payloads : List Value)
    (trace : List (CliAction × Option CliReport)) (state : CliState) : Prop where
  faithful : Faithful parseEntry state
  onItsWay : OnItsWay payloads (sentSinceLoss trace) state.app state.control
  logged : Logged payloads trace state.log state.inFlight

theorem Begun.tracked {start : CliState} (begun : Begun parseEntry payloads start) :
    Tracked parseEntry payloads [] start := by
  obtain ⟨earlier, run⟩ := begun.reachable
  obtain ⟨draftIds, pendingEq⟩ := begun.pending
  refine ⟨cliSystem_faithful run, ?_, ?_⟩
  · constructor
    · intro pending other
      obtain rfl := Option.some.inj (pendingEq.symm.trans other)
      exact .inl rfl
    · intro position payload control
      cases begun.control.symm.trans control
    · intro pending position payload _ _ _ _ recent
      cases recent
  · constructor
    · intro payload ours
      obtain ⟨notInLog, notSent⟩ := begun.unused payload ours
      rw [List.count_eq_zero_of_not_mem notInLog, List.count_eq_zero_of_not_mem notSent]
      rfl
    · intro payload _ before label later split
      simp at split
    · intro first second before later _ _ secondEq member
      obtain ⟨notInLog, notSent⟩ := begun.unused later (List.mem_of_getElem? secondEq)
      exact absurd member (not_or.mpr ⟨notInLog, notSent⟩)

theorem Tracked.appendedInOrder {state : CliState} (distinct : payloads.Nodup)
    (tracked : Tracked parseEntry payloads trace state) :
    AppendedInOrder parseEntry payloads trace state where
  counted := tracked.logged.counted
  separated := tracked.logged.separated
  bounded payload ours := by
    have counted := tracked.logged.counted payload ours
    have bound := (tracked.logged.separated payload ours).sends_le.1
    omega
  sentInTurn first second earlier later less firstEq secondEq action after step := by
    have turn := cliStep_turn parseEntry step
    generalize reported : some (CliReport.sent later) = report at turn
    cases turn with
    | accepted waitingFor payload subscription control task =>
        obtain rfl : later = payload := by simpa using reported
        exact tracked.onItsWay.sent_in_turn tracked.faithful distinct control less firstEq secondEq
    | handles event rest control queue => exact absurd reported.symm (report_ne_sent event later)
    | drains caller event rest control queue =>
        exact absurd reported.symm (report_ne_sent event later)
    | awaits waitingFor event rest control unseen queue =>
        exact absurd reported.symm (report_ne_sent event later)
    | _ => simp at reported
  ordered first second earlier later less firstEq secondEq member := by
    have inFront := tracked.logged.ordered first second earlier later less firstEq secondEq
      (.inl member)
    exact ⟨List.idxOf_lt_length_iff.mp (inFront.trans_le List.idxOf_le_length), inFront⟩

/-- Every copy of a payload in the log is an append that was accepted, and each but the first was
sent after the client was told of a connection loss.  The payloads are sent one after the other,
each when those in front of it were found in the log, and there they stand in order. -/
theorem submission_appended_in_order {start : CliState} (begun : Begun parseEntry payloads start)
    {trace : List (CliAction × Option CliReport)} {state : CliState}
    (run : (((cliSystem parseEntry).startedAt start).guarded (Unrelated payloads)).Execution trace
      state) : AppendedInOrder parseEntry payloads trace state := by
  have tracked : Tracked parseEntry payloads trace state := by
    apply run.invariant (I := Tracked parseEntry payloads)
    · intro first initial
      exact initial ▸ begun.tracked
    · intro trace before label after _ tracked step
      obtain ⟨possible, unrelated⟩ := step
      have turn := cliStep_turn parseEntry possible
      refine ⟨turn.faithful tracked.faithful, ?_, ?_⟩
      · rw [sentSinceLoss_append]
        exact turn.onItsWay begun.distinct unrelated tracked.onItsWay
      · exact turn.logged begun.distinct unrelated tracked.faithful tracked.onItsWay tracked.logged
  exact tracked.appendedInOrder begun.distinct

/-! ### A submission of two claims -/

/-- Draft two claims and confirm their submission. -/
def submittingClaims : List CliAction :=
  [.fetches true, .proceeds, .drafts (.draftClaim "Use tokens" .proposal none),
    .drafts (.draftClaim "Keep sessions" .proposal none),
    .inputs .submit fun n => ⟨"id-" ++ toString n⟩, .inputs .yes fun n => ⟨"id-" ++ toString n⟩]

/-- The payloads of the two claims. -/
def claimPayloads : List Value :=
  [Entry.toValue (.claim ⟨"id-0"⟩ "ava" "Use tokens" .proposal none),
    Entry.toValue (.claim ⟨"id-1"⟩ "ava" "Keep sessions" .proposal none)]

/-- An action that appends nothing of another participant and begins no submission. -/
def CliAction.isOwn : CliAction → Bool
  | .otherAppends _ => false
  | .inputs _ _ => false
  | _ => true

theorem unrelated_of_isOwn (payloads : List Value) (state : CliState)
    (label : CliAction × Option CliReport) (own : label.1.isOwn = true) :
    Unrelated payloads state label := by
  obtain ⟨action, report⟩ := label
  cases action with
  | otherAppends payload => cases own
  | inputs line nextClaimId => cases own
  | _ => trivial

/-- The control state and the submission once it has begun, and the log after some more actions. -/
def afterClaims (actions : List CliAction) :
    Option (Control × Option PendingSubmission × List Value × List Value × List Value) :=
  (TransitionSystem.runPartial (cliStep EntryBuffer.stanceParser) (CliState.joined "ava" [])
    submittingClaims).bind fun begun =>
      (TransitionSystem.runPartial
        (fun state action =>
          if action.isOwn then cliStep EntryBuffer.stanceParser state action else none)
        begun.2 actions).map fun result =>
          (begun.2.control, begun.2.app.buffer.pendingSubmission, begun.2.log.entries,
            begun.2.inFlight, result.2.log.entries)

theorem claims_submitted {actions : List CliAction} {entries : List Value}
    (ends : afterClaims actions =
      some (.resuming, some ⟨[0, 1], claimPayloads, 0⟩, [], [], entries)) :
    ∃ start trace state, Begun EntryBuffer.stanceParser claimPayloads start ∧
      (((cliSystem EntryBuffer.stanceParser).startedAt start).guarded
        (Unrelated claimPayloads)).Execution trace state ∧ state.log.entries = entries := by
  obtain ⟨⟨_, start⟩, begins, ends⟩ := Option.bind_eq_some_iff.mp ends
  obtain ⟨⟨trace, state⟩, ran, shown⟩ := Option.map_eq_some_iff.mp ends
  simp only [Prod.mk.injEq] at shown
  obtain ⟨control, pending, log, inFlight, logged⟩ := shown
  refine ⟨start, trace, state, ?_, ?_, logged⟩
  · refine ⟨⟨_, .of_runPartial ⟨"ava", [], rfl⟩ begins⟩, control, ⟨_, pending⟩, by decide, ?_⟩
    intro payload _
    rw [log, inFlight]
    exact ⟨List.not_mem_nil, List.not_mem_nil⟩
  · exact .guarded_of_runPartial (fun state label => unrelated_of_isOwn claimPayloads state label)
      rfl ran

/-- The first claim is accepted, and the connection is lost before the gateway processes it; the
catch-up finds an empty log, and the claim is sent again. -/
def lateAppend : List CliAction :=
  [.proceeds, .answers true, .loses "gateway closed session websocket", .proceeds, .resubscribes,
    .announces, .proceeds, .fetches true, .proceeds, .proceeds, .answers true, .processes 0,
    .processes 0]

/-- So a payload may stand in the log twice. -/
theorem payload_appended_twice :
    ¬ ∀ (parseEntry : Value → Except String Entry) payloads start trace state,
      Begun parseEntry payloads start →
      (((cliSystem parseEntry).startedAt start).guarded (Unrelated payloads)).Execution trace
        state →
      ∀ payload ∈ payloads, state.log.entries.count payload ≤ 1 := by
  intro claim
  let first := Entry.toValue (.claim ⟨"id-0"⟩ "ava" "Use tokens" .proposal none)
  have ends : afterClaims lateAppend =
      some (.resuming, some ⟨[0, 1], claimPayloads, 0⟩, [], [], [first, first]) := by
    decide +kernel
  obtain ⟨start, trace, state, begun, run, logged⟩ := claims_submitted ends
  have once := claim _ claimPayloads start trace state begun run first List.mem_cons_self
  rw [logged] at once
  simp at once

/-- Both claims are sent, each when the one before has come back. -/
def promptAppends : List CliAction :=
  [.proceeds, .answers true, .processes 0, .delivers 0, .proceeds, .proceeds, .proceeds,
    .answers true, .processes 0]

theorem claims_appended_in_order :
    ∃ start trace state, Begun EntryBuffer.stanceParser claimPayloads start ∧
      state.log.entries = claimPayloads ∧
      AppendedInOrder EntryBuffer.stanceParser claimPayloads trace state := by
  have ends : afterClaims promptAppends =
      some (.resuming, some ⟨[0, 1], claimPayloads, 0⟩, [], [], claimPayloads) := by
    decide +kernel
  obtain ⟨start, trace, state, begun, run, logged⟩ := claims_submitted ends
  exact ⟨start, trace, state, begun, logged, submission_appended_in_order begun run⟩

end ProstheticConscience.ConsensusCli
