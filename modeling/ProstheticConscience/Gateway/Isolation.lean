/-
Module: ProstheticConscience.Gateway.Isolation
Purpose: When the jobs of one worker connection are kept apart: a relay that starts on a drained
  connection forwards only what the worker produced for its own job, and a relay that its client
  left can hand the rest of its job to the next client.
Trusted boundary: none
Main exports: Connection.Drained, Relayed.Isolated, ConnectionTurn, drained_jobs_isolated,
  leftover_reaches_next_job, takes_up_drained_of_clients_stay
-/
import ProstheticConscience.Gateway.WorkerConnection

namespace ProstheticConscience.Gateway

variable {SId : Type}

/-- Whatever the relay forwarded, and a final outcome it returned, stem from its own job. -/
def Relayed.Isolated (relayed : Relayed) : Prop :=
  (relayed.sent.isSome ∨ ∃ outcome, relayed.outcome = some outcome ∧ outcome.isFinal = true) →
    relayed.origin = relayed.serial

/-- Nothing of an earlier job is under way: no job frame, no job at the worker, no message of the
worker. -/
structure Connection.Drained (conn : Connection SId) : Prop where
  noJobFrame : conn.toWorker = []
  workerFree : conn.worker.serial? = none
  noMessage : ∀ frame ∈ conn.toGateway, frame = .control

/-- A job is taken up on a drained connection only. -/
def TakesUpDrained (conn : Connection SId)
    (label : ConnectionAction SId × Option Relayed) : Prop :=
  label.1 = .takeJob true → conn.Drained

/-- All that is under way belongs to one job. -/
structure Connection.OnlyJob (serial : Nat) (conn : Connection SId) : Prop where
  jobFrames : ∀ job ∈ conn.toWorker, job.serial = serial
  worker : ∀ origin, conn.worker.serial? = some origin → origin = serial
  messages : ∀ origin message, .text origin message ∈ conn.toGateway → origin = serial

/-- While a job is relayed, nothing of another job is under way. -/
def Connection.KeptApart (conn : Connection SId) : Prop :=
  ∀ job, conn.handler = .relaying job → conn.OnlyJob job.serial

theorem Connection.Drained.onlyJob {conn : Connection SId} (drained : conn.Drained)
    (serial : Nat) : conn.OnlyJob serial where
  jobFrames job member := by simp [drained.noJobFrame] at member
  worker origin busy := by simp [drained.workerFree] at busy
  messages origin message member := by simpa using drained.noMessage _ member

/-! ### One step -/

/-- What each action does when it is possible. -/
inductive ConnectionTurn (before : Connection SId) :
    ConnectionAction SId → Connection SId → Option Relayed → Prop
  | dispatched (clientStreamId : SId) (capability : Capability) (payload : Value)
      (waiting : before.handler = .idle none) :
      ConnectionTurn before (.dispatch clientStreamId capability payload)
        { before with
          handler :=
            .idle (some { serial := before.nextSerial, clientStreamId, capability, payload })
          nextSerial := before.nextSerial + 1 } none
  | dropped (waiting : before.handler = .idle none) :
      ConnectionTurn before .dropPending { before with handler := .exited } none
  | hungUp (serial : Nat) :
      ConnectionTurn before (.hangUp serial)
        { before with hungUp := serial :: before.hungUp } none
  | taken (job : NumberedJob SId) (pending : before.handler = .idle (some job)) :
      ConnectionTurn before (.takeJob true)
        { before with toWorker := before.toWorker ++ [job], handler := .relaying job } none
  | takenLate (job : NumberedJob SId) (pending : before.handler = .idle (some job))
      (gone : before.worker = .gone) :
      ConnectionTurn before (.takeJob true) { before with handler := .relaying job } none
  | takenInVain (job : NumberedJob SId) (pending : before.handler = .idle (some job)) :
      ConnectionTurn before (.takeJob false) { before with handler := .exited } none
  | readIdle (pendingJob : Option (NumberedJob SId)) (frame : WorkerFrame)
      (rest : List WorkerFrame) (idle : before.handler = .idle pendingJob)
      (frames : before.toGateway = frame :: rest) :
      ConnectionTurn before .readIdle { before with toGateway := rest } none
  | readRelay (registered : Bool) (job : NumberedJob SId) (frame : WorkerFrame)
      (rest : List WorkerFrame) (relaying : before.handler = .relaying job)
      (frames : before.toGateway = frame :: rest) :
      ConnectionTurn before (.readRelay registered)
        { before with
          toGateway := rest
          handler := (relayFrame before.hungUp job registered frame).1 }
        (relayFrame before.hungUp job registered frame).2
  | readClosed (nothing : before.toGateway = []) (gone : before.worker = .gone) :
      ConnectionTurn before .readClosed { before with handler := .exited } none
  | heartbeat (delivered : Bool) : ConnectionTurn before (.heartbeat delivered) before none
  | heartbeatFailed (pendingJob : Option (NumberedJob SId))
      (idle : before.handler = .idle pendingJob) :
      ConnectionTurn before (.heartbeat false) { before with handler := .exited } none
  | workerTakes (job : NumberedJob SId) (rest : List (NumberedJob SId))
      (waiting : before.worker = .waiting) (frames : before.toWorker = job :: rest) :
      ConnectionTurn before .workerTakes
        { before with toWorker := rest, worker := startJob job } none
  | workerSends (message : WorkerMessage) (origin : Nat) (worker : WorkerPhase)
      (busy : before.worker.serial? = some origin)
      (sends : before.worker.send message = some worker) :
      ConnectionTurn before (.workerSends message)
        { before with toGateway := before.toGateway ++ [.text origin message], worker } none
  | workerControl (present : before.worker ≠ .gone) :
      ConnectionTurn before .workerControl
        { before with toGateway := before.toGateway ++ [.control] } none
  | lost (delivered : Nat) :
      ConnectionTurn before (.lose delivered)
        { before with
          toWorker := []
          toGateway := before.toGateway.take delivered
          worker := .gone } none

theorem connectionStep_turn {before after : Connection SId} {action : ConnectionAction SId}
    {relayed : Option Relayed} (step : connectionStep before action = some (after, relayed)) :
    ConnectionTurn before action after relayed := by
  cases action with
  | takeJob accepted =>
      cases accepted with
      | false =>
          simp only [connectionStep] at step
          split at step <;> simp at step
          obtain ⟨rfl, rfl⟩ := step
          exact .takenInVain _ ‹_›
      | true =>
          simp only [connectionStep] at step
          split at step
          · split at step <;> simp at step <;> obtain ⟨rfl, rfl⟩ := step
            · exact .taken _ ‹_›
            · exact .takenLate _ ‹_› (by simp_all)
          · simp at step
  | readRelay registered =>
      simp only [connectionStep] at step
      split at step <;> simp only [Option.some.injEq, Prod.mk.injEq, reduceCtorEq] at step
      obtain ⟨rfl, rfl⟩ := step
      exact .readRelay registered _ _ _ ‹_› ‹_›
  | heartbeat delivered =>
      cases handler : before.handler <;> cases delivered <;>
        simp [connectionStep, handler] at step <;> obtain ⟨rfl, rfl⟩ := step
      · exact .heartbeatFailed _ handler
      all_goals exact .heartbeat _
  | dispatch clientStreamId capability payload =>
      simp only [connectionStep] at step
      split at step <;> simp at step
      obtain ⟨rfl, rfl⟩ := step
      exact .dispatched _ _ _ ‹_›
  | dropPending =>
      simp only [connectionStep] at step
      split at step <;> simp at step
      obtain ⟨rfl, rfl⟩ := step
      exact .dropped ‹_›
  | hangUp serial =>
      obtain ⟨rfl, rfl⟩ := by simpa [connectionStep] using step
      exact .hungUp serial
  | readIdle =>
      simp only [connectionStep] at step
      split at step <;> simp at step
      obtain ⟨rfl, rfl⟩ := step
      exact .readIdle _ _ _ ‹_› ‹_›
  | readClosed =>
      simp only [connectionStep] at step
      split at step <;> simp at step
      obtain ⟨rfl, rfl⟩ := step
      exact .readClosed ‹_› ‹_›
  | workerTakes =>
      simp only [connectionStep] at step
      split at step <;> simp at step
      obtain ⟨rfl, rfl⟩ := step
      exact .workerTakes _ _ ‹_› ‹_›
  | workerSends message =>
      simp only [connectionStep] at step
      split at step <;> simp at step
      obtain ⟨rfl, rfl⟩ := step
      exact .workerSends message _ _ ‹_› ‹_›
  | workerControl =>
      simp only [connectionStep] at step
      split at step <;> simp at step
      obtain ⟨rfl, rfl⟩ := step
      exact .workerControl ‹_›
  | lose delivered =>
      obtain ⟨rfl, rfl⟩ := by simpa [connectionStep] using step
      exact .lost delivered

/-- The messages of a program carry the number of its job until the job is over. -/
theorem WorkerPhase.send_serial {worker next : WorkerPhase} {message : WorkerMessage}
    (sends : worker.send message = some next) :
    next.serial? = none ∨ next.serial? = worker.serial? := by
  cases worker <;> cases message <;> simp [WorkerPhase.send] at sends <;> subst sends <;>
    simp [WorkerPhase.serial?]

@[simp] theorem startJob_serial (job : NumberedJob SId) :
    (startJob job).serial? = some job.serial := by
  unfold startJob
  split <;> rfl

theorem afterRelay_ne_relaying (registered : Bool) (outcome : RelayOutcome)
    (job : NumberedJob SId) : afterRelay registered outcome ≠ .relaying job := by
  unfold afterRelay
  split <;> simp

/-- A relay that goes on, goes on with its own job. -/
theorem relayFrame_relaying {hungUp : List Nat} {job other : NumberedJob SId} {registered : Bool}
    {frame : WorkerFrame}
    (relaying : (relayFrame hungUp job registered frame).1 = .relaying other) : other = job := by
  cases frame with
  | control => exact (HandlerPhase.relaying.inj relaying).symm
  | text origin message =>
      simp only [relayFrame] at relaying
      split at relaying
      · exact (HandlerPhase.relaying.inj relaying).symm
      · exact absurd relaying (afterRelay_ne_relaying _ _ _)

/-! ### Jobs are kept apart

A relay reads whatever waits on its worker's connection. Jobs stay apart as long as a worker takes
up a job with an empty connection, since then all that waits there was sent for this job. -/

/-- A step keeps apart what was apart, when it takes no job up on a connection that is not
drained. -/
theorem ConnectionTurn.keptApart {before after : Connection SId} {action : ConnectionAction SId}
    {relayed : Option Relayed} (turn : ConnectionTurn before action after relayed)
    (drained : TakesUpDrained before (action, relayed)) (apart : before.KeptApart) :
    after.KeptApart := by
  intro job relaying
  cases turn with
  | dispatched clientStreamId capability payload waiting => simp at relaying
  | dropped waiting => simp at relaying
  | hungUp serial =>
      have only := apart job relaying
      exact ⟨only.jobFrames, only.worker, only.messages⟩
  | taken taken pending =>
      obtain rfl : taken = job := HandlerPhase.relaying.inj relaying
      have only := (drained rfl).onlyJob taken.serial
      refine ⟨?_, only.worker, only.messages⟩
      intro other member
      rcases List.mem_append.mp member with earlier | new
      · exact only.jobFrames other earlier
      · rw [List.mem_singleton.mp new]
  | takenLate taken pending gone =>
      obtain rfl : taken = job := HandlerPhase.relaying.inj relaying
      have only := (drained rfl).onlyJob taken.serial
      exact ⟨only.jobFrames, only.worker, only.messages⟩
  | takenInVain taken pending => simp at relaying
  | readIdle pendingJob frame rest idle frames => simp [idle] at relaying
  | readRelay registered current frame rest wasRelaying frames =>
      obtain rfl := relayFrame_relaying relaying
      have only := apart job wasRelaying
      exact ⟨only.jobFrames, only.worker, fun origin message member =>
        only.messages origin message (frames ▸ List.mem_cons_of_mem _ member)⟩
  | readClosed nothing gone => simp at relaying
  | heartbeat delivered => exact apart job relaying
  | heartbeatFailed pendingJob idle => simp at relaying
  | workerTakes taken rest waiting frames =>
      have only := apart job relaying
      refine ⟨fun other member => only.jobFrames other (frames ▸ List.mem_cons_of_mem _ member),
        ?_, only.messages⟩
      intro origin busy
      rw [startJob_serial] at busy
      rw [← Option.some.inj busy]
      exact only.jobFrames taken (frames ▸ List.mem_cons_self)
  | workerSends message origin worker busy sends =>
      have only := apart job relaying
      refine ⟨only.jobFrames, ?_, ?_⟩
      · intro other still
        rcases WorkerPhase.send_serial sends with ended | same
        · simp [ended] at still
        · exact only.worker other (same ▸ still)
      · intro other text member
        rcases List.mem_append.mp member with earlier | new
        · exact only.messages other text earlier
        · obtain ⟨rfl, rfl⟩ := by simpa using new
          exact only.worker _ busy
  | workerControl present =>
      have only := apart job relaying
      exact ⟨only.jobFrames, only.worker, fun origin message member =>
        only.messages origin message (by simpa using member)⟩
  | lost delivered =>
      have only := apart job relaying
      exact ⟨by simp, by simp [WorkerPhase.serial?], fun origin message member =>
        only.messages origin message (List.mem_of_mem_take member)⟩

/-- A relay on a connection that is kept apart handles messages of its own job only. -/
theorem ConnectionTurn.own_message {before after : Connection SId} {action : ConnectionAction SId}
    {relayed : Relayed} (turn : ConnectionTurn before action after (some relayed))
    (apart : before.KeptApart) : relayed.origin = relayed.serial := by
  generalize result : some relayed = observed at turn
  cases turn with
  | readRelay registered job frame rest relaying frames =>
      cases frame with
      | control => simp [relayFrame] at result
      | text origin message =>
          obtain rfl := Option.some.inj result
          exact (apart job relaying).messages origin message (frames ▸ List.mem_cons_self)
  | _ => exact absurd result (by simp)

/-- In every run in which each job is taken up on a drained connection, whatever a relay forwards
and every final outcome it returns stem from a message that the worker sent for its own job. -/
theorem drained_jobs_isolated {trace : List (ConnectionAction SId × Option Relayed)}
    {conn : Connection SId}
    (run : ((connectionSystem SId).guarded TakesUpDrained).Execution trace conn) :
    ∀ action relayed, (action, some relayed) ∈ trace → relayed.Isolated := by
  have both : conn.KeptApart ∧
      ∀ action relayed, (action, some relayed) ∈ trace → relayed.Isolated := by
    induction run with
    | start initial =>
        obtain rfl := initial
        exact ⟨fun job relaying => by simp [Connection.new] at relaying, by simp⟩
    | step before step ih =>
        obtain ⟨apart, isolated⟩ := ih
        obtain ⟨connStep, drained⟩ := step
        have turn := connectionStep_turn connStep
        refine ⟨turn.keptApart drained apart, ?_⟩
        intro action relayed member
        rcases List.mem_append.mp member with earlier | now
        · exact isolated action relayed earlier
        · obtain rfl := List.mem_singleton.mp now
          exact fun _ => turn.own_message apart
  exact both.2

/-- Job 0 is relayed, its client hangs up and the relay stops at the next chunk; job 1 is taken up
while the worker is still busy with job 0. -/
def leftoverActions : List (ConnectionAction String) :=
  [.dispatch "first" .chat .null, .takeJob true, .workerTakes, .workerSends (.chunk .null),
    .hangUp 0, .readRelay true, .dispatch "second" .chat .null, .takeJob true,
    .workerSends (.chunk (.string "for the first client")), .workerSends .end, .readRelay true,
    .readRelay true]

/-- Without the condition the claim fails: the second client gets a chunk that was produced for
the first one, and the end of the first job ends the second. -/
theorem leftover_reaches_next_job :
    ¬ ∀ (trace : List (ConnectionAction String × Option Relayed)) conn,
      (connectionSystem String).Execution trace conn →
      ∀ action relayed, (action, some relayed) ∈ trace → relayed.Isolated := by
  intro claim
  let stolen : Relayed :=
    { serial := 1, origin := 0, message := .end, sent := some .done, outcome := some .workerEnd }
  have occurs : (TransitionSystem.runPartial connectionStep (Connection.new String)
      leftoverActions).map (fun result => decide ((.readRelay true, some stolen) ∈ result.1)) =
        some true := by
    decide
  obtain ⟨⟨trace, last⟩, ran, member⟩ := Option.map_eq_some_iff.mp occurs
  have run : (connectionSystem String).Execution trace last := .of_runPartial rfl ran
  have isolated := claim trace last run (.readRelay true) stolen (of_decide_eq_true member)
  exact absurd (isolated (.inl rfl)) (by decide)

/-- One job, taken up on a fresh connection: its chunk reaches its own client. -/
theorem first_job_isolated :
    Relayed.Isolated
      { serial := 0, origin := 0, message := .chunk .null, sent := some (.chunk .null),
        outcome := none } := by
  let job : NumberedJob String :=
    { serial := 0, clientStreamId := "first", capability := .chat, payload := .null }
  have fresh : Connection.Drained
      { Connection.new String with handler := .idle (some job), nextSerial := 1 } :=
    ⟨rfl, rfl, by simp [Connection.new]⟩
  have start : ((connectionSystem String).guarded TakesUpDrained).Execution []
      (Connection.new String) := .start rfl
  have dispatched := start.step
    (show ((connectionSystem String).guarded TakesUpDrained).step _
      (.dispatch "first" .chat .null, none) _ from ⟨rfl, nofun⟩)
  have taken := dispatched.step
    (show ((connectionSystem String).guarded TakesUpDrained).step _ (.takeJob true, none) _ from
      ⟨rfl, fun _ => fresh⟩)
  have busy := taken.step
    (show ((connectionSystem String).guarded TakesUpDrained).step _ (.workerTakes, none) _ from
      ⟨rfl, nofun⟩)
  have sent := busy.step
    (show ((connectionSystem String).guarded TakesUpDrained).step _
      (.workerSends (.chunk .null), none) _ from ⟨rfl, nofun⟩)
  have relayed := sent.step
    (show ((connectionSystem String).guarded TakesUpDrained).step _
      (.readRelay true, some
        { serial := 0, origin := 0, message := .chunk .null, sent := some (.chunk .null)
          outcome := none }) _ from ⟨rfl, nofun⟩)
  exact drained_jobs_isolated relayed (.readRelay true) _
    (List.mem_append_right _ List.mem_cons_self)

/-! ### Clients that stay

A connection is drained whenever its handler waits, as long as no relay met a chunk that its
client was no longer there for. -/

def WorkerFrame.isTerminal : WorkerFrame → Bool
  | .text _ message => message.isTerminal
  | .control => false

/-- What is under way is one job: its frame, or its messages up to the terminal one. -/
structure Connection.OneJob (conn : Connection SId) : Prop where
  jobFrame : conn.toWorker = [] ∨
    (∃ job, conn.toWorker = [job]) ∧ conn.worker.serial? = none ∧
      ∀ frame ∈ conn.toGateway, frame = .control
  streaming : conn.worker.serial? ≠ none →
    conn.toWorker = [] ∧ ∀ frame ∈ conn.toGateway, frame.isTerminal = false
  ordered : conn.toGateway.Pairwise fun earlier later =>
    earlier.isTerminal = true → later = .control

/-- The connection is drained while the handler waits, and one job is under way while it relays. -/
structure Connection.InStep (conn : Connection SId) : Prop where
  idle : ∀ pendingJob, conn.handler = .idle pendingJob → conn.Drained
  relaying : ∀ job, conn.handler = .relaying job → conn.OneJob

/-- No relay reads a chunk whose client hung up. -/
def ClientsStay (conn : Connection SId) (label : ConnectionAction SId × Option Relayed) : Prop :=
  ∀ registered job origin data rest, label.1 = .readRelay registered →
    conn.handler = .relaying job → conn.toGateway = .text origin (.chunk data) :: rest →
    job.serial ∉ conn.hungUp

theorem WorkerPhase.send_terminal {worker next : WorkerPhase} {message : WorkerMessage}
    (sends : worker.send message = some next) (terminal : message.isTerminal = true) :
    next.serial? = none := by
  cases worker <;> cases message <;> simp [WorkerPhase.send] at sends <;> subst sends <;>
    first | rfl | simp [WorkerMessage.isTerminal] at terminal

theorem Connection.Drained.oneJob {conn : Connection SId} (drained : conn.Drained) :
    conn.OneJob where
  jobFrame := .inl drained.noJobFrame
  streaming busy := absurd drained.workerFree busy
  ordered := List.pairwise_of_forall_mem_list fun _ _ later member _ =>
    drained.noMessage later member

theorem Connection.OneJob.rest {conn : Connection SId} (one : conn.OneJob) {frame : WorkerFrame}
    {rest : List WorkerFrame} (frames : conn.toGateway = frame :: rest) :
    ({ conn with toGateway := rest } : Connection SId).OneJob where
  jobFrame := one.jobFrame.imp id fun ⟨single, free, silent⟩ =>
    ⟨single, free, fun other member => silent other (frames ▸ List.mem_cons_of_mem _ member)⟩
  streaming busy := by
    obtain ⟨taken, open'⟩ := one.streaming busy
    exact ⟨taken, fun other member => open' other (frames ▸ List.mem_cons_of_mem _ member)⟩
  ordered := by
    have ordered := one.ordered
    rw [frames] at ordered
    exact ordered.of_cons

/-- The terminal message is the last of its job. -/
theorem Connection.OneJob.drained_of_terminal {conn : Connection SId} (one : conn.OneJob)
    {frame : WorkerFrame} {rest : List WorkerFrame} (frames : conn.toGateway = frame :: rest)
    (terminal : frame.isTerminal = true) :
    ({ conn with toGateway := rest } : Connection SId).Drained where
  noJobFrame := by
    rcases one.jobFrame with none | ⟨_, _, silent⟩
    · exact none
    · have control : frame = .control := silent frame (frames ▸ List.mem_cons_self)
      simp [control, WorkerFrame.isTerminal] at terminal
  workerFree := by
    by_contra busy
    have streaming := (one.streaming busy).2 frame (frames ▸ List.mem_cons_self)
    simp [streaming] at terminal
  noMessage := by
    have ordered := one.ordered
    rw [frames, List.pairwise_cons] at ordered
    exact fun other member => ordered.1 other member terminal

/-- A connection with the same queues and the same worker is drained as well. -/
theorem Connection.Drained.congr {conn other : Connection SId} (drained : conn.Drained)
    (toWorker : other.toWorker = conn.toWorker) (worker : other.worker = conn.worker)
    (toGateway : ∀ frame ∈ other.toGateway, frame ∈ conn.toGateway) : other.Drained where
  noJobFrame := toWorker.trans drained.noJobFrame
  workerFree := worker ▸ drained.workerFree
  noMessage frame member := drained.noMessage frame (toGateway frame member)

theorem Connection.OneJob.congr {conn other : Connection SId} (one : conn.OneJob)
    (toWorker : other.toWorker = conn.toWorker) (worker : other.worker = conn.worker)
    (toGateway : other.toGateway = conn.toGateway) : other.OneJob where
  jobFrame := by
    rw [toWorker, worker, toGateway]
    exact one.jobFrame
  streaming := by
    rw [toWorker, worker, toGateway]
    exact one.streaming
  ordered := toGateway ▸ one.ordered

/-- The worker takes the job that is under way. -/
theorem Connection.OneJob.workerTakes {conn : Connection SId} (one : conn.OneJob)
    {job : NumberedJob SId} {rest : List (NumberedJob SId)} (frames : conn.toWorker = job :: rest)
    (worker : WorkerPhase) :
    ({ conn with toWorker := rest, worker } : Connection SId).OneJob := by
  rcases one.jobFrame with none | ⟨⟨only, single⟩, _, silent⟩
  · simp [none] at frames
  · obtain ⟨rfl, rfl⟩ : only = job ∧ [] = rest := by simpa [single] using frames
    refine ⟨.inl rfl, fun _ => ⟨rfl, ?_⟩, one.ordered⟩
    intro frame member
    simp [silent frame member, WorkerFrame.isTerminal]

/-- The worker sends a message of its job, the last one when it is terminal. -/
theorem Connection.OneJob.workerSends {conn : Connection SId} (one : conn.OneJob)
    {origin : Nat} (busy : conn.worker.serial? = some origin) {message : WorkerMessage}
    {worker : WorkerPhase} (sends : conn.worker.send message = some worker) :
    ({ conn with toGateway := conn.toGateway ++ [.text origin message], worker } :
      Connection SId).OneJob := by
  obtain ⟨taken, streaming⟩ := one.streaming (by simp [busy])
  refine ⟨.inl taken, ?_, ?_⟩
  · intro stillBusy
    refine ⟨taken, ?_⟩
    intro frame member
    rcases List.mem_append.mp member with earlier | new
    · exact streaming frame earlier
    · rw [List.mem_singleton.mp new]
      by_contra terminal
      have terminal : message.isTerminal = true := by
        simpa [WorkerFrame.isTerminal] using terminal
      exact stillBusy (WorkerPhase.send_terminal sends terminal)
  · rw [List.pairwise_append]
    refine ⟨one.ordered, List.pairwise_singleton _ _, ?_⟩
    intro earlier member later _ terminal
    simp [streaming earlier member] at terminal

/-- A fact about the frames that are under way, and of control frames, is kept by one more. -/
theorem mem_append_control {toGateway : List WorkerFrame} {P : WorkerFrame → Prop}
    (earlier : ∀ frame ∈ toGateway, P frame) (control : P .control) :
    ∀ frame ∈ toGateway ++ [.control], P frame := by
  intro frame member
  rcases List.mem_append.mp member with old | new
  · exact earlier frame old
  · exact List.mem_singleton.mp new ▸ control

theorem Connection.Drained.control {conn : Connection SId} (drained : conn.Drained) :
    ({ conn with toGateway := conn.toGateway ++ [.control] } : Connection SId).Drained where
  noJobFrame := drained.noJobFrame
  workerFree := drained.workerFree
  noMessage := mem_append_control drained.noMessage rfl

theorem Connection.OneJob.control {conn : Connection SId} (one : conn.OneJob) :
    ({ conn with toGateway := conn.toGateway ++ [.control] } : Connection SId).OneJob where
  jobFrame := one.jobFrame.imp id fun ⟨single, free, controls⟩ =>
    ⟨single, free, mem_append_control controls rfl⟩
  streaming busy := by
    obtain ⟨taken, streaming⟩ := one.streaming busy
    exact ⟨taken, mem_append_control streaming rfl⟩
  ordered := by
    rw [List.pairwise_append]
    refine ⟨one.ordered, List.pairwise_singleton _ _, ?_⟩
    intro earlier _ later member _
    exact List.mem_singleton.mp member

/-- A relay that returns although its client stayed has read the terminal message. -/
theorem relayFrame_idle {hungUp : List Nat} {job : NumberedJob SId} {registered : Bool}
    {frame : WorkerFrame} {pendingJob : Option (NumberedJob SId)}
    (stays : ∀ origin data, frame = .text origin (.chunk data) → job.serial ∉ hungUp)
    (returned : (relayFrame hungUp job registered frame).1 = .idle pendingJob) :
    frame.isTerminal = true := by
  cases frame with
  | control => simp [relayFrame] at returned
  | text origin message =>
      cases message with
      | chunk data => simp [relayFrame, relayMessage, stays origin data rfl] at returned
      | «end» => rfl
      | error text => rfl

theorem ConnectionTurn.inStep {before after : Connection SId} {action : ConnectionAction SId}
    {relayed : Option Relayed} (turn : ConnectionTurn before action after relayed)
    (stay : ClientsStay before (action, relayed)) (inStep : before.InStep) : after.InStep := by
  cases turn with
  | dispatched clientStreamId capability payload waiting =>
      refine ⟨fun _ _ => (inStep.idle none waiting).congr rfl rfl fun _ => id, ?_⟩
      intro job relaying
      simp at relaying
  | dropped waiting => exact ⟨by simp, by simp⟩
  | hungUp serial =>
      exact ⟨fun pendingJob idle => (inStep.idle pendingJob idle).congr rfl rfl fun _ => id,
        fun job relaying => (inStep.relaying job relaying).congr rfl rfl rfl⟩
  | taken job pending =>
      have drained := inStep.idle _ pending
      refine ⟨by simp, fun _ _ => ?_⟩
      exact ⟨.inr ⟨⟨job, by simp [drained.noJobFrame]⟩, drained.workerFree, drained.noMessage⟩,
        fun busy => absurd drained.workerFree busy, drained.oneJob.ordered⟩
  | takenLate job pending gone =>
      exact ⟨by simp, fun _ _ => (inStep.idle _ pending).oneJob.congr rfl rfl rfl⟩
  | takenInVain job pending => exact ⟨by simp, by simp⟩
  | readIdle pendingJob frame rest idle frames =>
      constructor
      · intro other _
        exact (inStep.idle _ idle).congr rfl rfl fun later member =>
          frames ▸ List.mem_cons_of_mem _ member
      · intro job relaying
        simp [idle] at relaying
  | readRelay registered job frame rest relaying frames =>
      have one := inStep.relaying job relaying
      constructor
      · intro pendingJob returned
        have terminal := relayFrame_idle
          (fun origin data same => stay registered job origin data rest rfl relaying
            (same ▸ frames)) returned
        exact (one.drained_of_terminal frames terminal).congr rfl rfl fun _ => id
      · intro other _
        exact (one.rest frames).congr rfl rfl rfl
  | readClosed nothing gone => exact ⟨by simp, by simp⟩
  | heartbeat delivered => exact inStep
  | heartbeatFailed pendingJob idle => exact ⟨by simp, by simp⟩
  | workerTakes taken rest waiting frames =>
      constructor
      · intro pendingJob idle
        have drained := inStep.idle pendingJob idle
        simp [drained.noJobFrame] at frames
      · exact fun job relaying => (inStep.relaying job relaying).workerTakes frames _
  | workerSends message origin worker busy sends =>
      constructor
      · intro pendingJob idle
        have drained := inStep.idle pendingJob idle
        simp [drained.workerFree] at busy
      · exact fun job relaying => (inStep.relaying job relaying).workerSends busy sends
  | workerControl present =>
      exact ⟨fun pendingJob idle => (inStep.idle pendingJob idle).control,
        fun job relaying => (inStep.relaying job relaying).control⟩
  | lost delivered =>
      constructor
      · intro pendingJob idle
        have drained := inStep.idle pendingJob idle
        exact ⟨rfl, rfl, fun frame member =>
          drained.noMessage frame (List.mem_of_mem_take member)⟩
      · intro job relaying
        have one := inStep.relaying job relaying
        exact ⟨.inl rfl, fun busy => absurd rfl busy,
          one.ordered.sublist (List.take_sublist _ _)⟩

/-- As long as clients stay, every job is taken up on a drained connection. -/
theorem takes_up_drained_of_clients_stay
    {trace : List (ConnectionAction SId × Option Relayed)} {conn : Connection SId}
    (run : ((connectionSystem SId).guarded ClientsStay).Execution trace conn) :
    conn.InStep ∧ ((connectionSystem SId).guarded TakesUpDrained).Execution trace conn := by
  induction run with
  | start initial =>
      obtain rfl := initial
      refine ⟨⟨fun _ _ => ⟨rfl, rfl, by simp [Connection.new]⟩, ?_⟩, .start rfl⟩
      intro job relaying
      simp [Connection.new] at relaying
  | @step trace before after label _ step ih =>
      obtain ⟨inStep, drainedRun⟩ := ih
      obtain ⟨connStep, stay⟩ := step
      have turn := connectionStep_turn connStep
      refine ⟨turn.inStep stay inStep, drainedRun.step ⟨connStep, ?_⟩⟩
      intro takes
      obtain ⟨action, relayed⟩ := label
      obtain rfl : action = .takeJob true := takes
      cases turn with
      | taken job pending => exact inStep.idle _ pending
      | takenLate job pending gone => exact inStep.idle _ pending

end ProstheticConscience.Gateway
