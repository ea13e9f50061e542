/-
Module: ProstheticConscience.Gateway.Workers
Purpose: The registrations of one worker over whole runs, and to which worker a job goes.
Trusted boundary: none
Main exports: capableWorkers, firstCapableWorkerId_isLeast, workers_conserved_and_matched
-/
import Mathlib.Order.Bounds.Basic
import ProstheticConscience.Gateway.RegistryAgreement

namespace ProstheticConscience.Gateway

variable {WId SId SubId : Type}

/-- A step of the kernel, with its states. -/
abbrev KernelStep (WId SId SubId : Type) :=
  TransitionSystem.Step (GatewayState WId SId SubId)
    (Event WId SId SubId × List (Effect WId SId SubId))

/-! ### The worker that gets a job -/

/-- The available workers that have a capability. -/
def capableWorkers [DecidableEq WId] (state : GatewayState WId SId SubId)
    (required : Capability) : Set WId :=
  {workerId | ∃ entry, state.available.lookup workerId = some entry ∧
    required ∈ entry.capabilities}

/-- The first hit in a sorted list is the least hit. -/
theorem least_of_find_eq_some {α : Type} [LinearOrder WId] (key : α → WId) {test : α → Bool}
    {entries : List α} (sorted : entries.Pairwise fun a b => key a ≤ key b) {entry : α}
    (found : entries.find? test = some entry) {other : α} (member : other ∈ entries)
    (hit : test other = true) : key entry ≤ key other := by
  induction entries with
  | nil => cases member
  | cons first rest ih =>
      obtain ⟨first_le, restSorted⟩ := List.pairwise_cons.mp sorted
      cases tested : test first with
      | true =>
          rw [List.find?_cons_of_pos tested] at found
          obtain rfl := Option.some.inj found
          rcases List.mem_cons.mp member with rfl | later
          · exact le_refl _
          · exact first_le other later
      | false =>
          rw [List.find?_cons_of_neg (by simp [tested])] at found
          rcases List.mem_cons.mp member with rfl | later
          · exact absurd hit (by simp [tested])
          · exact ih restSorted found later

section First

variable [LinearOrder WId]

theorem mem_availableInOrder {state : GatewayState WId SId SubId} {workerId : WId}
    {entry : WorkerEntry} :
    (⟨workerId, entry⟩ : Sigma fun _ : WId => WorkerEntry) ∈ availableInOrder state ↔
      state.available.lookup workerId = some entry := by
  rw [availableInOrder, List.mem_insertionSort]
  exact AssocMap.mem_entries_iff

/-- A job goes to the least capable worker. -/
theorem firstCapableWorkerId_isLeast {state : GatewayState WId SId SubId}
    {required : Capability} {workerId : WId}
    (first : firstCapableWorkerId state required = some workerId) :
    IsLeast (capableWorkers state required) workerId := by
  obtain ⟨entry, found, rfl⟩ := Option.map_eq_some_iff.mp first
  constructor
  · have member := List.mem_of_find?_eq_some found
    have hit := List.find?_some found
    exact ⟨entry.2, mem_availableInOrder.mp member, by simpa using hit⟩
  · intro other capable
    obtain ⟨otherEntry, otherFound, otherCapable⟩ := capable
    apply least_of_find_eq_some (fun entry : Sigma fun _ : WId => WorkerEntry => entry.1)
      (List.pairwise_insertionSort _ _) found (mem_availableInOrder.mpr otherFound)
    simpa using otherCapable

/-- Only where nobody is capable is nobody found. -/
theorem capableWorkers_eq_empty {state : GatewayState WId SId SubId} {required : Capability}
    (none : firstCapableWorkerId state required = none) : capableWorkers state required = ∅ := by
  apply Set.eq_empty_of_forall_notMem
  intro workerId capable
  obtain ⟨entry, found, isCapable⟩ := capable
  rw [firstCapableWorkerId, Option.map_eq_none_iff, List.find?_eq_none] at none
  exact none _ (mem_availableInOrder.mpr found) (by simpa using isCapable)

end First

/-! ### Registrations, dispatches and drops

The number of waiting workers of one id changes by registrations, dispatches and drops only, each by
one; the count over a run is the sum. -/

/-- The effect reports a protocol violation. -/
def Effect.isViolation : Effect WId SId SubId → Bool
  | .protocolViolation _ => true
  | _ => false

/-- The worker that an event registers. -/
def Event.registeredWorker? : Event WId SId SubId → Option WId
  | .workerRegistered workerId _ => some workerId
  | _ => none

/-- The event is a tick. -/
def Event.isTick : Event WId SId SubId → Bool
  | .tick => true
  | _ => false

section Counts

variable [DecidableEq WId]

/-- A registration of the worker that reports no duplicate. -/
def acceptsRegistration (workerId : WId)
    (label : Event WId SId SubId × List (Effect WId SId SubId)) : Bool :=
  decide (label.1.registeredWorker? = some workerId) && !label.2.any (·.isViolation)

/-- The accepted registrations of a worker. -/
def registrationCount (workerId : WId)
    (steps : List (KernelStep WId SId SubId)) : Nat :=
  steps.countP fun step => acceptsRegistration workerId step.label

/-- The jobs dispatched to a worker. -/
def dispatchCount (workerId : WId) (steps : List (KernelStep WId SId SubId)) : Nat :=
  (steps.flatMap fun step => step.label.2).countP fun effect =>
    decide (effect.dispatchedTo? = some workerId)

/-- A tick after which the worker is no longer available. -/
def dropsWorker (workerId : WId) (step : KernelStep WId SId SubId) : Bool :=
  step.label.1.isTick && decide (workerId ∈ step.before.available) &&
    decide (workerId ∉ step.after.available)

/-- The ticks that dropped a worker. -/
def dropCount (workerId : WId) (steps : List (KernelStep WId SId SubId)) : Nat :=
  steps.countP (dropsWorker workerId)

/-- One for an available worker, zero otherwise. -/
def availableCount (workerId : WId) (state : GatewayState WId SId SubId) : Nat :=
  if workerId ∈ state.available then 1 else 0

/-- The balance of one step: what was registered is dispatched, dropped or still there. -/
def Balanced (workerId : WId) (step : KernelStep WId SId SubId) : Prop :=
  registrationCount workerId [step] + availableCount workerId step.before =
    dispatchCount workerId [step] + dropCount workerId [step] +
      availableCount workerId step.after

end Counts

section Reducer

variable [LinearOrder WId] [DecidableEq SId] [DecidableEq SubId] [ToString WId] [ToString SId]
  {sessionHash : Nat → Nat → Nat}

omit [DecidableEq SId] [DecidableEq SubId] [ToString WId] [ToString SId] in
/-- Effects that dispatch nothing to a worker. -/
theorem countP_dispatched_eq_zero {workerId : WId} {effects : List (Effect WId SId SubId)}
    (silent : ¬ Dispatches workerId effects) :
    effects.countP (fun effect => decide (effect.dispatchedTo? = some workerId)) = 0 := by
  apply List.countP_eq_zero.mpr
  intro effect member dispatched
  exact silent ⟨effect, member, of_decide_eq_true dispatched⟩

omit [DecidableEq SId] [DecidableEq SubId] [ToString WId] [ToString SId] in
/-- An event that leaves the worker alone moves no count. -/
theorem balance_of_kept {workerId : WId} {step : KernelStep WId SId SubId}
    (notRegistered : acceptsRegistration workerId step.label = false)
    (silent : ¬ Dispatches workerId step.label.2)
    (kept : workerId ∈ step.after.available ↔ workerId ∈ step.before.available) :
    Balanced workerId step := by
  have noDrop : dropsWorker workerId step = false := by
    rw [dropsWorker]
    by_cases present : workerId ∈ step.before.available <;> simp [kept, present]
  simp [Balanced, registrationCount, notRegistered, dispatchCount,
    countP_dispatched_eq_zero silent, dropCount, noDrop, availableCount, kept]

/-- The kernel's answer to an event, as a step. -/
def turnStep (sessionHash : Nat → Nat → Nat) (state : GatewayState WId SId SubId)
    (event : Event WId SId SubId) : KernelStep WId SId SubId where
  before := state
  label := (event, (reduce sessionHash state event).effects)
  after := (reduce sessionHash state event).state

/-- An event that is no registration is no accepted one. -/
theorem balance_of_silent {state : GatewayState WId SId SubId} {event : Event WId SId SubId}
    {workerId : WId} (other : event.registeredWorker? ≠ some workerId)
    (silent : ¬ Dispatches workerId (reduce sessionHash state event).effects)
    (kept : workerId ∈ (reduce sessionHash state event).state.available ↔
      workerId ∈ state.available) :
    Balanced workerId (turnStep sessionHash state event) := by
  apply balance_of_kept _ silent kept
  simp [turnStep, acceptsRegistration, other]

/-- The balance of a chat request: the worker that gets the job leaves. -/
theorem balance_of_request (state : GatewayState WId SId SubId) (workerId : WId)
    (clientStreamId : SId) (payload : Value) (stream : Bool) (required : Capability) :
    Balanced workerId (turnStep sessionHash state
      (.httpChatRequested clientStreamId payload stream required)) := by
  rcases reduce_httpChatRequested_cases sessionHash state clientStreamId payload stream
    required with ⟨message, same⟩ | ⟨chosen, first, same⟩
  · apply balance_of_silent (by simp [Event.registeredWorker?])
    · simp [same, Dispatches, errorThenDone, Effect.dispatchedTo?]
    · rw [same]
  · by_cases isChosen : workerId = chosen
    · subst isChosen
      have wasAvailable := firstCapableWorkerId_available first
      simp [Balanced, turnStep, same, registrationCount, acceptsRegistration,
        Event.registeredWorker?, dispatchCount, Effect.dispatchedTo?, dropCount, dropsWorker,
        Event.isTick, availableCount, wasAvailable, AList.mem_erase]
    · apply balance_of_silent (by simp [Event.registeredWorker?])
      · simp [same, Dispatches, Effect.dispatchedTo?, Ne.symm isChosen]
      · rw [same, AList.mem_erase]
        exact and_iff_right isChosen

/-- The balance of a registration: an accepted one adds the worker. -/
theorem balance_of_registration (state : GatewayState WId SId SubId) (workerId registered : WId)
    (capabilities : Finset Capability) :
    Balanced workerId (turnStep sessionHash state (.workerRegistered registered capabilities)) := by
  by_cases known : registered ∈ state.available
  · have same : reduce sessionHash state (.workerRegistered registered capabilities) =
        { state
          effects := [violation (.worker (toString registered))
            "duplicate worker registration"] } := by
      rw [reduce, if_pos known]
    apply balance_of_kept
    · simp [turnStep, same, acceptsRegistration, violation, Effect.isViolation]
    · simp [turnStep, same, Dispatches, violation, Effect.dispatchedTo?]
    · rw [turnStep, same]
  · have silent : (reduce sessionHash state (.workerRegistered registered capabilities)).effects =
        [] := by
      rw [reduce, if_neg known]
    have after : workerId ∈ (reduce sessionHash state
        (.workerRegistered registered capabilities)).state.available ↔ _ :=
      mem_available_reduce state _ workerId
    by_cases isRegistered : workerId = registered
    · subst isRegistered
      have nowAvailable := after.mpr (.inl rfl)
      simp [Balanced, turnStep, silent, registrationCount, acceptsRegistration,
        Event.registeredWorker?, dispatchCount, dropCount, dropsWorker, Event.isTick,
        availableCount, known, nowAvailable]
    · apply balance_of_silent
      · simp [Event.registeredWorker?, Ne.symm isRegistered]
      · simp [silent, Dispatches]
      · exact after.trans (or_iff_right isRegistered)

/-- The balance of a tick: a worker that it drops is counted as dropped. -/
theorem balance_of_tick (state : GatewayState WId SId SubId) (workerId : WId) :
    Balanced workerId (turnStep sessionHash state .tick) := by
  have silent : ¬ Dispatches workerId (reduce sessionHash state .tick).effects := by
    intro dispatches
    obtain ⟨_, _, _, _, _, request⟩ := request_of_dispatches dispatches
    cases request
  have after : workerId ∈ (reduce sessionHash state .tick).state.available ↔ _ :=
    mem_available_reduce state _ workerId
  by_cases kept : workerId ∈ (reduce sessionHash state .tick).state.available ↔
      workerId ∈ state.available
  · exact balance_of_silent nofun silent kept
  · have wasAvailable : workerId ∈ state.available := by
      by_contra missing
      refine kept (iff_of_false (fun present => missing ?_) missing)
      obtain ⟨entry, found, _⟩ := after.mp present
      exact AssocMap.mem_iff_lookup.mpr ⟨entry, found⟩
    have gone : workerId ∉ (reduce sessionHash state .tick).state.available :=
      fun present => kept (iff_of_true present wasAvailable)
    simp [Balanced, turnStep, registrationCount, acceptsRegistration, Event.registeredWorker?,
      dispatchCount, countP_dispatched_eq_zero silent, dropCount, dropsWorker, Event.isTick,
      availableCount, wasAvailable, gone]

/-- The balance of every event. -/
theorem balance_of_turn (state : GatewayState WId SId SubId) (event : Event WId SId SubId)
    (workerId : WId) : Balanced workerId (turnStep sessionHash state event) := by
  have other : (∀ registered capabilities, event ≠ .workerRegistered registered capabilities) →
      (∀ clientStreamId payload stream required,
        event ≠ .httpChatRequested clientStreamId payload stream required) →
      (workerId ∈ (reduce sessionHash state event).state.available ↔
        workerId ∈ state.available ∧
          ¬ Dispatches workerId (reduce sessionHash state event).effects) →
      Balanced workerId (turnStep sessionHash state event) := by
    intro notRegistration notRequest after
    have silent : ¬ Dispatches workerId (reduce sessionHash state event).effects := by
      intro dispatches
      obtain ⟨_, _, _, _, _, request⟩ := request_of_dispatches dispatches
      exact notRequest _ _ _ _ request
    apply balance_of_silent _ silent (after.trans (and_iff_left silent))
    cases event with
    | workerRegistered registered capabilities => exact absurd rfl (notRegistration _ _)
    | _ => simp [Event.registeredWorker?]
  cases event with
  | httpChatRequested clientStreamId payload stream required =>
      exact balance_of_request state workerId clientStreamId payload stream required
  | workerRegistered registered capabilities =>
      exact balance_of_registration state workerId registered capabilities
  | tick => exact balance_of_tick state workerId
  | _ => exact other (by simp) (by simp) (mem_available_reduce state _ workerId)

/-! ### Whole runs -/

/-- The steps over a list of events, no map ever reordered, and the last state. -/
def runSteps (sessionHash : Nat → Nat → Nat) (state : GatewayState WId SId SubId) :
    List (Event WId SId SubId) → List (KernelStep WId SId SubId) × GatewayState WId SId SubId
  | [] => ([], state)
  | event :: events =>
      let step := turnStep sessionHash state event
      let (steps, last) := runSteps sessionHash step.after events
      (step :: steps, last)

theorem recorded_append_runSteps :
    ∀ (events : List (Event WId SId SubId)) {steps} {state : GatewayState WId SId SubId},
      (kernelSystem sessionHash).recorded.Execution steps state →
        (kernelSystem sessionHash).recorded.Execution
          (steps ++ (runSteps sessionHash state events).1) (runSteps sessionHash state events).2
  | [], steps, state, run => by simpa [runSteps] using run
  | event :: events, steps, state, run => by
      have next : (kernelSystem sessionHash).recorded.Execution
          (steps ++ [turnStep sessionHash state event])
          (turnStep sessionHash state event).after :=
        run.step ⟨rfl, rfl, state, GatewayState.Reorder.refl state, rfl⟩
      simpa [runSteps] using recorded_append_runSteps events next

/-- Running events from a fresh state is a recorded run. -/
theorem recorded_runSteps (sessionHash : Nat → Nat → Nat)
    (runtimeId workerTtl streamTtl subscriberTtl : Nat) (events : List (Event WId SId SubId)) :
    (kernelSystem sessionHash).recorded.Execution
      (runSteps sessionHash
        (GatewayState.new WId SId SubId runtimeId workerTtl streamTtl subscriberTtl) events).1
      (runSteps sessionHash
        (GatewayState.new WId SId SubId runtimeId workerTtl streamTtl subscriberTtl) events).2 := by
  have start : (kernelSystem sessionHash).recorded.Execution []
      (GatewayState.new WId SId SubId runtimeId workerTtl streamTtl subscriberTtl) :=
    .start ⟨runtimeId, workerTtl, streamTtl, subscriberTtl, rfl⟩
  simpa using recorded_append_runSteps events start

/-- Reordering the maps before the event moves no count. -/
theorem balanced_of_step {step : KernelStep WId SId SubId}
    (taken : (kernelSystem sessionHash).step step.before step.label step.after) (workerId : WId) :
    Balanced workerId step := by
  obtain ⟨shuffled, reorder, reduced⟩ := taken
  have balance : Balanced workerId (turnStep sessionHash shuffled step.label.1) :=
    balance_of_turn shuffled _ workerId
  have sameBefore := reorder.available.mem_iff workerId
  rw [turnStep, reduced] at balance
  simp only [Balanced, registrationCount, dispatchCount, dropCount, dropsWorker, availableCount,
    List.countP_singleton, ← sameBefore] at balance ⊢
  exact balance

/-- Every accepted registration is used up once, or the worker is still there. -/
theorem registrations_balance {steps : List (KernelStep WId SId SubId)}
    {state : GatewayState WId SId SubId}
    (run : (kernelSystem sessionHash).recorded.Execution steps state) (workerId : WId) :
    registrationCount workerId steps =
      dispatchCount workerId steps + dropCount workerId steps + availableCount workerId state := by
  induction run with
  | start initial =>
      obtain ⟨runtimeId, workerTtl, streamTtl, subscriberTtl, rfl⟩ := initial
      rfl
  | @step earlier before after step _ taken ih =>
      obtain ⟨rfl, rfl, taken⟩ := taken
      have now := balanced_of_step taken workerId
      rw [Balanced] at now
      have registered : registrationCount workerId (earlier ++ [step]) =
          registrationCount workerId earlier + registrationCount workerId [step] :=
        List.countP_append
      have dispatched : dispatchCount workerId (earlier ++ [step]) =
          dispatchCount workerId earlier + dispatchCount workerId [step] := by
        simp [dispatchCount]
      have dropped : dropCount workerId (earlier ++ [step]) =
          dropCount workerId earlier + dropCount workerId [step] :=
        List.countP_append
      omega

/-- Jobs go where they should in one step of a run. -/
structure MatchesJobs (step : KernelStep WId SId SubId) : Prop where
  /-- A job carries what its request asked for and goes to the least capable worker, which alone
  leaves. -/
  dispatched : ∀ job, .dispatchJob job ∈ step.label.2 →
    step.label.1 = .httpChatRequested job.clientStreamId job.payload true job.capability ∧
      IsLeast (capableWorkers step.before job.capability) job.workerId ∧
      ∀ workerId, step.after.available.lookup workerId =
        if workerId = job.workerId then none else step.before.available.lookup workerId
  /-- A request is turned down for want of a worker only if no worker is capable. -/
  refused : ∀ clientStreamId payload stream required,
    step.label.1 = .httpChatRequested clientStreamId payload stream required →
      .sendClientError { clientStreamId, message := "no idle worker available" } ∈ step.label.2 →
        capableWorkers step.before required = ∅

/-- A dispatched job carries what its request asked for and goes to the first capable worker. -/
theorem reduce_of_dispatched {state : GatewayState WId SId SubId} {event : Event WId SId SubId}
    {job : DispatchJob WId SId}
    (member : .dispatchJob job ∈ (reduce sessionHash state event).effects) :
    event = .httpChatRequested job.clientStreamId job.payload true job.capability ∧
      firstCapableWorkerId state job.capability = some job.workerId ∧
      (reduce sessionHash state event).state.available = state.available.erase job.workerId := by
  obtain ⟨_, clientStreamId, payload, stream, required, rfl⟩ :=
    request_of_dispatches ⟨_, member, rfl⟩
  have streaming : stream = true := by
    by_contra notStreaming
    rw [reduce, if_pos (by simpa using notStreaming)] at member
    simp [errorThenDone] at member
  subst streaming
  rcases reduce_httpChatRequested_cases sessionHash state clientStreamId payload true
    required with ⟨message, same⟩ | ⟨chosen, first, same⟩
  · rw [same] at member
    simp [errorThenDone] at member
  · rw [same] at member
    obtain rfl := Effect.dispatchJob.inj (List.mem_singleton.mp member)
    exact ⟨rfl, first, by rw [same]⟩

/-- The kernel looks for a worker before it reports that none is idle. -/
theorem firstCapableWorkerId_of_refused {state : GatewayState WId SId SubId}
    {clientStreamId : SId} {payload : Value} {stream : Bool} {required : Capability}
    (refused : .sendClientError { clientStreamId, message := "no idle worker available" } ∈
      (reduce sessionHash state
        (.httpChatRequested clientStreamId payload stream required)).effects) :
    firstCapableWorkerId state required = none := by
  rw [reduce] at refused
  split at refused
  · simp [errorThenDone] at refused
  · split at refused
    · simp [errorThenDone] at refused
    · split at refused
      · simp at refused
      · assumption

omit [DecidableEq SId] [ToString WId] [ToString SId] in
theorem capableWorkers_reorder {before after : GatewayState WId SId SubId}
    (reorder : before.Reorder after) (required : Capability) :
    capableWorkers after required = capableWorkers before required := by
  simp only [capableWorkers, reorder.available.lookup_eq]

theorem matchesJobs_of_step {step : KernelStep WId SId SubId}
    (taken : (kernelSystem sessionHash).step step.before step.label step.after) :
    MatchesJobs step := by
  obtain ⟨shuffled, reorder, reduced⟩ := taken
  constructor
  · intro job member
    have dispatched : .dispatchJob job ∈ (reduce sessionHash shuffled step.label.1).effects := by
      rw [reduced]
      exact member
    obtain ⟨request, first, left⟩ := reduce_of_dispatched dispatched
    rw [reduced] at left
    constructor
    · exact request
    constructor
    · rw [← capableWorkers_reorder reorder]
      exact firstCapableWorkerId_isLeast first
    · intro workerId
      rw [left, AssocMap.lookup_without, reorder.available.lookup_eq]
  · intro clientStreamId payload stream required request refused
    have turnedDown : .sendClientError { clientStreamId, message := "no idle worker available" } ∈
        (reduce sessionHash shuffled
          (.httpChatRequested clientStreamId payload stream required)).effects := by
      rw [← request, reduced]
      exact refused
    rw [← capableWorkers_reorder reorder]
    exact capableWorkers_eq_empty (firstCapableWorkerId_of_refused turnedDown)

/-- Worker conservation and correct matching.  In every run the accepted registrations of a worker
are as many as the jobs dispatched to it, the ticks that dropped it and, if it is available at the
end, one more; and every step matches jobs to workers correctly. -/
theorem workers_conserved_and_matched {steps : List (KernelStep WId SId SubId)}
    {state : GatewayState WId SId SubId}
    (run : (kernelSystem sessionHash).recorded.Execution steps state) (workerId : WId) :
    registrationCount workerId steps =
        dispatchCount workerId steps + dropCount workerId steps +
          (if workerId ∈ state.available then 1 else 0) ∧
      ∀ step ∈ steps, MatchesJobs step :=
  ⟨registrations_balance run workerId, fun _ member => matchesJobs_of_step (run.step_of_mem member)⟩

end Reducer

/-- A worker registers twice, gets a job, registers again after the second request was turned down,
and is dropped. -/
def usedUpRun : List (Event Nat Nat Nat) :=
  [.workerRegistered 1 {.chat}, .workerRegistered 1 {.chat}, .httpChatRequested 7 .null true .chat,
    .httpChatRequested 8 .null true .chat, .workerRegistered 1 {.chat}, .tick]

theorem usedUpRun_conserves_workers :
    let steps := (runSteps (fun _ _ => 0) (GatewayState.new Nat Nat Nat 0 1 30 30) usedUpRun).1
    registrationCount 1 steps = 1 + 1 + 0 ∧ ∀ step ∈ steps, MatchesJobs step := by
  have conserved := workers_conserved_and_matched
    (recorded_runSteps (fun _ _ => 0) 0 1 30 30 usedUpRun) 1
  exact ⟨conserved.1.trans (by decide +kernel), conserved.2⟩

end ProstheticConscience.Gateway
