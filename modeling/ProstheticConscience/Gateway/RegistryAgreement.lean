/-
Module: ProstheticConscience.Gateway.RegistryAgreement
Purpose: The keys of the channel registry through the effect loop, the messages that are really
  sent to the runtime, and when the registry and the kernel know the same workers.
Trusted boundary: none
Main exports: mem_workers_resolveEffects, mem_subscribers_resolveEffects, RuntimeMessage.IsSent,
  sentSystem, runtimeSystem_turn, execution_runMessages, WorkersAgree, KeepsWorkers,
  workers_agree_iff
-/
import ProstheticConscience.Gateway.Runtime
import ProstheticConscience.Gateway.Subscribers

namespace ProstheticConscience.Gateway

variable {WId SId SubId WH SH SubH : Type}

/-! ### The keys that the effect loop leaves in the registry

The loop removes handles as it resolves effects. Which handles are left is read off the effects,
without the loop. -/

/-- The worker to which an effect dispatches a job. -/
def Effect.dispatchedTo? : Effect WId SId SubId → Option WId
  | .dispatchJob job => some job.workerId
  | _ => none

/-- Some effect dispatches a job to the worker. -/
def Dispatches (workerId : WId) (effects : List (Effect WId SId SubId)) : Prop :=
  ∃ effect ∈ effects, effect.dispatchedTo? = some workerId

section Loop

variable [DecidableEq WId] [DecidableEq SId] [DecidableEq SubId]

/-- What holds after the loop, if every round keeps it unless its effect is of one kind. -/
theorem foldl_resolveEffect_iff {P : Resolution WId SId SubId WH SH SubH → Prop}
    {drops : Effect WId SId SubId → Prop}
    (round : ∀ acc effect, P (resolveEffect acc effect) ↔ P acc ∧ ¬ drops effect)
    (effects : List (Effect WId SId SubId)) (acc : Resolution WId SId SubId WH SH SubH) :
    P (effects.foldl resolveEffect acc) ↔ P acc ∧ ∀ effect ∈ effects, ¬ drops effect := by
  induction effects generalizing acc with
  | nil => simp
  | cons effect rest ih =>
      rw [List.foldl_cons, ih, round]
      simp [and_assoc]

theorem mem_workers_resolveEffect (workerId : WId) (acc : Resolution WId SId SubId WH SH SubH)
    (effect : Effect WId SId SubId) :
    workerId ∈ (resolveEffect acc effect).registry.workers ↔
      workerId ∈ acc.registry.workers ∧ ¬ effect.dispatchedTo? = some workerId := by
  cases effect with
  | dispatchJob job =>
      have taken : (resolveEffect acc (.dispatchJob job)).registry.workers =
          acc.registry.workers.erase job.workerId := by
        cases worker : acc.registry.workers.lookup job.workerId with
        | none => simp only [resolveEffect, ChannelRegistry.takeWorker, worker]
        | some workerHandle =>
            cases stream : acc.registry.streams.lookup job.clientStreamId <;>
              simp only [resolveEffect, ChannelRegistry.takeWorker, worker,
                ChannelRegistry.cloneStream, stream]
      rw [taken, AList.mem_erase, and_comm]
      simp [Effect.dispatchedTo?, eq_comm]
  | sendClientError error =>
      simp only [resolveEffect, Effect.dispatchedTo?]
      split <;> simp
  | sendClientDone done =>
      cases stream : acc.registry.streams.lookup done.clientStreamId <;>
        simp [resolveEffect, Effect.dispatchedTo?, ChannelRegistry.takeStream, stream]
  | sessionEffect effect =>
      cases effect with
      | notifySubscribers entryIndex payload subscribers =>
          simp only [resolveEffect, Effect.dispatchedTo?]
          split <;> simp
      | subscriberRemoved subscriberId =>
          cases handle : acc.registry.subscribers.lookup subscriberId <;>
            simp [resolveEffect, Effect.dispatchedTo?, ChannelRegistry.takeSubscriber, handle]
  | sessionCreated sessionId subscriberId =>
      simp only [resolveEffect, Effect.dispatchedTo?]
      split <;> simp
  | _ => simp [resolveEffect, Effect.dispatchedTo?]

/-- A worker keeps its handle unless a job is dispatched to it. -/
theorem mem_workers_resolveEffects (registry : ChannelRegistry WId SId SubId WH SH SubH)
    (effects : List (Effect WId SId SubId)) (workerId : WId) :
    workerId ∈ (resolveEffects registry effects).registry.workers ↔
      workerId ∈ registry.workers ∧ ¬ Dispatches workerId effects := by
  have loop := foldl_resolveEffect_iff (P := fun acc => workerId ∈ acc.registry.workers)
    (mem_workers_resolveEffect workerId) effects { registry, resolved := [], fallbacks := [] }
  refine loop.trans (and_congr_right fun _ => ?_)
  simp [Dispatches]

theorem mem_subscribers_resolveEffect (subscriberId : SubId)
    (acc : Resolution WId SId SubId WH SH SubH) (effect : Effect WId SId SubId) :
    subscriberId ∈ (resolveEffect acc effect).registry.subscribers ↔
      subscriberId ∈ acc.registry.subscribers ∧ ¬ effect.removes subscriberId = true := by
  cases effect with
  | dispatchJob job =>
      cases worker : acc.registry.workers.lookup job.workerId with
      | none => simp [resolveEffect, ChannelRegistry.takeWorker, worker, Effect.removes]
      | some workerHandle =>
          cases stream : acc.registry.streams.lookup job.clientStreamId <;>
            simp [resolveEffect, ChannelRegistry.takeWorker, worker, ChannelRegistry.cloneStream,
              stream, Effect.removes]
  | sendClientError error =>
      simp only [resolveEffect, Effect.removes]
      split <;> simp
  | sendClientDone done =>
      cases stream : acc.registry.streams.lookup done.clientStreamId <;>
        simp [resolveEffect, Effect.removes, ChannelRegistry.takeStream, stream]
  | sessionEffect effect =>
      cases effect with
      | notifySubscribers entryIndex payload subscribers =>
          simp only [resolveEffect, Effect.removes, Session.Effect.removes]
          split <;> simp
      | subscriberRemoved removed =>
          have taken : subscriberId ∈ (resolveEffect acc
              (.sessionEffect (.subscriberRemoved removed))).registry.subscribers ↔
              subscriberId ∈ acc.registry.subscribers.erase removed := by
            cases handle : acc.registry.subscribers.lookup removed with
            | some subscriberHandle =>
                simp only [resolveEffect, ChannelRegistry.takeSubscriber, handle]
            | none =>
                simp only [resolveEffect, ChannelRegistry.takeSubscriber, handle]
                rw [AList.mem_erase]
                constructor
                · intro member
                  refine ⟨fun same => ?_, member⟩
                  exact AList.lookup_eq_none.mp handle (same ▸ member)
                · exact And.right
          rw [taken, AList.mem_erase, and_comm]
          simp [Effect.removes, Session.Effect.removes, eq_comm]
  | sessionCreated sessionId subscriberId =>
      simp only [resolveEffect, Effect.removes]
      split <;> simp
  | _ => simp [resolveEffect, Effect.removes]

/-- A subscriber keeps its handle unless it is told that it was removed. -/
theorem mem_subscribers_resolveEffects (registry : ChannelRegistry WId SId SubId WH SH SubH)
    (effects : List (Effect WId SId SubId)) (subscriberId : SubId) :
    subscriberId ∈ (resolveEffects registry effects).registry.subscribers ↔
      subscriberId ∈ registry.subscribers ∧ removals subscriberId effects = 0 := by
  have loop := foldl_resolveEffect_iff (P := fun acc => subscriberId ∈ acc.registry.subscribers)
    (mem_subscribers_resolveEffect subscriberId) effects
    { registry, resolved := [], fallbacks := [] }
  rw [removals, List.countP_eq_zero]
  exact loop

end Loop

/-! ### What the runtime receives -/

/-- The messages that are sent to the runtime: every command, its own ticks, and the failures that
it reports to itself. -/
def RuntimeMessage.IsSent : RuntimeMessage WId SId SubId WH SH SubH → Prop
  | .command _ => True
  | .event .tick => True
  | .event (.assignmentFailed _ _) => True
  | .event _ => False

section System

variable [LinearOrder WId] [DecidableEq SId] [DecidableEq SubId] [ToString WId] [ToString SId]
  {sessionHash : Nat → Nat → Nat}

/-- The runtime with the messages that are sent to it. -/
def sentSystem (sessionHash : Nat → Nat → Nat) :
    TransitionSystem (GatewayRuntime WId SId SubId WH SH SubH)
      (RuntimeMessage WId SId SubId WH SH SubH × RuntimeOutput WId SId SubId WH SH SubH) :=
  (runtimeSystem sessionHash).guarded fun _ label => label.1.IsSent

variable {before after : GatewayRuntime WId SId SubId WH SH SubH}
  {label : RuntimeMessage WId SId SubId WH SH SubH × RuntimeOutput WId SId SubId WH SH SubH}

/-- One processed message: the kernel's turn on the reordered state, and the effect loop. -/
theorem runtimeSystem_turn (step : (runtimeSystem sessionHash).step before label after) :
    ∃ shuffled, before.state.Reorder shuffled ∧
      let turn := kernelTurn sessionHash shuffled (label.1.kernelEvent? before.state.tick)
      let resolution := resolveEffects (label.1.register before.registry) turn.effects
      after.state = turn.state ∧ after.registry = resolution.registry ∧
        label.2.resolved = resolution.resolved := by
  obtain ⟨message, output⟩ := label
  obtain ⟨_, shuffled, reorder, processed⟩ := step
  have spec := processMessage_spec sessionHash { before with state := shuffled } message
  simp only [processed, reorder.tick] at spec
  obtain ⟨stateEq, registryEq, resolvedEq, _⟩ := spec
  exact ⟨shuffled, reorder, stateEq, registryEq, resolvedEq⟩

theorem sentSystem_processMessage (sessionHash : Nat → Nat → Nat)
    (runtime : GatewayRuntime WId SId SubId WH SH SubH)
    (message : RuntimeMessage WId SId SubId WH SH SubH) (sent : message.IsSent)
    (fresh : message.DrawsFresh runtime) :
    (sentSystem sessionHash).step runtime
      (message, (GatewayRuntime.processMessage sessionHash runtime message).2)
      (GatewayRuntime.processMessage sessionHash runtime message).1 :=
  ⟨⟨fresh, runtime.state, GatewayState.Reorder.refl _, rfl⟩, sent⟩

/-- The run over a list of messages that never reorders a map: the trace and the last runtime. -/
def runMessages (sessionHash : Nat → Nat → Nat)
    (runtime : GatewayRuntime WId SId SubId WH SH SubH) :
    List (RuntimeMessage WId SId SubId WH SH SubH) →
      List (RuntimeMessage WId SId SubId WH SH SubH × RuntimeOutput WId SId SubId WH SH SubH) ×
        GatewayRuntime WId SId SubId WH SH SubH
  | [] => ([], runtime)
  | message :: messages =>
      let processed := GatewayRuntime.processMessage sessionHash runtime message
      let (trace, last) := runMessages sessionHash processed.1 messages
      ((message, processed.2) :: trace, last)

/-- Every message of a list is sent, and draws an id that is fresh when it comes. -/
def AllAdmitted (sessionHash : Nat → Nat → Nat)
    (runtime : GatewayRuntime WId SId SubId WH SH SubH) :
    List (RuntimeMessage WId SId SubId WH SH SubH) → Prop
  | [] => True
  | message :: messages =>
      message.IsSent ∧ message.DrawsFresh runtime ∧
        AllAdmitted sessionHash (GatewayRuntime.processMessage sessionHash runtime message).1
          messages

theorem execution_append_runMessages :
    ∀ (messages : List (RuntimeMessage WId SId SubId WH SH SubH)) {trace}
      {runtime : GatewayRuntime WId SId SubId WH SH SubH},
      (sentSystem sessionHash).Execution trace runtime →
      AllAdmitted sessionHash runtime messages →
        (sentSystem sessionHash).Execution
          (trace ++ (runMessages sessionHash runtime messages).1)
          (runMessages sessionHash runtime messages).2
  | [], trace, runtime, run, _ => by simpa [runMessages] using run
  | message :: messages, trace, runtime, run, admitted => by
      obtain ⟨sent, fresh, later⟩ := admitted
      have next : (sentSystem sessionHash).Execution
          (trace ++ [(message, (GatewayRuntime.processMessage sessionHash runtime message).2)])
          (GatewayRuntime.processMessage sessionHash runtime message).1 :=
        run.step (sentSystem_processMessage sessionHash runtime message sent fresh)
      simpa [runMessages] using execution_append_runMessages messages next later

/-- Running messages from a fresh runtime is an execution. -/
theorem execution_runMessages (runtimeId workerTtl streamTtl subscriberTtl : Nat)
    {messages : List (RuntimeMessage WId SId SubId WH SH SubH)}
    (admitted : AllAdmitted sessionHash
      (GatewayRuntime.new WId SId SubId WH SH SubH runtimeId workerTtl streamTtl subscriberTtl)
      messages) :
    (sentSystem sessionHash).Execution
      (runMessages sessionHash
        (GatewayRuntime.new WId SId SubId WH SH SubH runtimeId workerTtl streamTtl subscriberTtl)
        messages).1
      (runMessages sessionHash
        (GatewayRuntime.new WId SId SubId WH SH SubH runtimeId workerTtl streamTtl subscriberTtl)
        messages).2 := by
  have start : (sentSystem sessionHash).Execution []
      (GatewayRuntime.new WId SId SubId WH SH SubH runtimeId workerTtl streamTtl subscriberTtl) :=
    .start ⟨runtimeId, workerTtl, streamTtl, subscriberTtl, rfl⟩
  simpa using execution_append_runMessages messages start admitted

/-! ### Workers

Kernel and registry agree on workers until a tick drops one: the kernel forgets it without an
effect, and its handle stays. -/

omit [DecidableEq SId] [DecidableEq SubId] [ToString WId] [ToString SId] in
theorem firstCapableWorkerId_available {state : GatewayState WId SId SubId} {workerId : WId}
    {required : Capability} (first : firstCapableWorkerId state required = some workerId) :
    workerId ∈ state.available := by
  obtain ⟨entry, found, rfl⟩ := Option.map_eq_some_iff.mp first
  have member := List.mem_of_find?_eq_some found
  rw [availableInOrder, List.mem_insertionSort] at member
  exact AssocMap.mem_iff_lookup.mpr ⟨entry.2, AssocMap.mem_entries_iff.mp member⟩

/-- Jobs are dispatched to available workers, and only on request. -/
theorem request_of_dispatches {state : GatewayState WId SId SubId} {event : Event WId SId SubId}
    {workerId : WId} (dispatches : Dispatches workerId (reduce sessionHash state event).effects) :
    workerId ∈ state.available ∧ ∃ clientStreamId payload stream requiredCapability,
      event = .httpChatRequested clientStreamId payload stream requiredCapability := by
  obtain ⟨effect, member, dispatched⟩ := dispatches
  have silent : ∀ {effects : List (Effect WId SId SubId)} {P : Prop},
      (∀ effect ∈ effects, effect.dispatchedTo? = none) → effect ∈ effects → P := by
    intro effects P none inside
    rw [none effect inside] at dispatched
    cases dispatched
  cases event with
  | httpChatRequested clientStreamId payload stream requiredCapability =>
      refine ⟨?_, _, _, _, _, rfl⟩
      rcases reduce_httpChatRequested_cases sessionHash state clientStreamId payload stream
        requiredCapability with ⟨message, same⟩ | ⟨chosen, first, same⟩
      · rw [same] at member
        exact silent (by simp [errorThenDone, Effect.dispatchedTo?]) member
      · rw [same] at member
        rw [List.mem_singleton.mp member] at dispatched
        obtain rfl := Option.some.inj dispatched
        exact firstCapableWorkerId_available first
  | tick =>
      refine silent (fun effect member => ?_) member
      rcases mem_effects_tick member with ⟨_, rfl⟩ | ⟨_, rfl⟩ | ⟨_, rfl⟩ | ⟨_, _, rfl⟩ <;> rfl
  | sessionEvent sessionId event =>
      cases found : state.sessions.lookup sessionId with
      | some session =>
          rw [reduce_sessionEvent_some sessionHash found] at member
          obtain ⟨_, _, rfl⟩ := List.mem_map.mp member
          cases dispatched
      | none =>
          rw [reduce_sessionEvent_none sessionHash found] at member
          refine silent ?_ member
          dsimp only
          split <;> simp [violation, Effect.dispatchedTo?]
  | sessionRequested subscriberId =>
      exact silent (by simp [reduce, Effect.dispatchedTo?]) member
  | _ =>
      unfold reduce at member
      dsimp only at member
      split at member <;>
        exact silent (by simp [errorThenDone, violation, Effect.dispatchedTo?]) member

/-- Which workers are available after an event. -/
theorem mem_available_reduce (state : GatewayState WId SId SubId) (event : Event WId SId SubId)
    (workerId : WId) :
    workerId ∈ (reduce sessionHash state event).state.available ↔
      match event with
      | .workerRegistered registered _ => workerId = registered ∨ workerId ∈ state.available
      | .tick => ∃ entry, state.available.lookup workerId = some entry ∧
          state.tick + 1 < entry.deadline
      | _ => workerId ∈ state.available ∧
          ¬ Dispatches workerId (reduce sessionHash state event).effects := by
  have kept : (∀ clientStreamId payload stream requiredCapability,
        event ≠ .httpChatRequested clientStreamId payload stream requiredCapability) →
      (workerId ∈ (reduce sessionHash state event).state.available ↔
        workerId ∈ state.available) →
      (workerId ∈ (reduce sessionHash state event).state.available ↔
        workerId ∈ state.available ∧
          ¬ Dispatches workerId (reduce sessionHash state event).effects) := by
    intro notRequest same
    refine same.trans (and_iff_left fun dispatches => ?_).symm
    obtain ⟨_, _, _, _, _, request⟩ := request_of_dispatches dispatches
    exact notRequest _ _ _ _ request
  cases event with
  | httpChatRequested clientStreamId payload stream requiredCapability =>
      have silent : ∀ message, ¬ Dispatches workerId
          (errorThenDone clientStreamId message : List (Effect WId SId SubId)) := by
        simp [Dispatches, errorThenDone, Effect.dispatchedTo?]
      rcases reduce_httpChatRequested_cases sessionHash state clientStreamId payload stream
        requiredCapability with ⟨message, same⟩ | ⟨chosen, _, same⟩
      · rw [same]
        exact (and_iff_left (silent _)).symm
      · rw [same, AList.mem_erase, and_comm]
        simp [Dispatches, Effect.dispatchedTo?, eq_comm]
  | workerRegistered registered capabilities =>
      unfold reduce
      dsimp only
      split
      · rename_i known
        exact ⟨Or.inr, fun member => member.elim (fun same => same ▸ known) id⟩
      · exact AssocMap.mem_update
  | tick =>
      have filtered : workerId ∈ AssocMap.filter
          (fun _ entry => decide (state.tick + 1 < entry.deadline)) state.available ↔ _ :=
        AssocMap.mem_filter
      refine filtered.trans ?_
      simp only [decide_eq_true_eq]
  | workerHeartbeat beating =>
      apply kept (by simp)
      unfold reduce
      dsimp only
      rw [AList.extract_eq_lookup_erase]
      cases found : state.available.lookup beating with
      | none => rfl
      | some entry =>
          have known : beating ∈ state.available := AssocMap.mem_iff_lookup.mpr ⟨entry, found⟩
          dsimp only
          rw [AssocMap.mem_update, AList.mem_erase]
          by_cases same : workerId = beating
          · simp [same, known]
          · simp [same]
  | sessionEvent sessionId event =>
      apply kept (by simp)
      cases found : state.sessions.lookup sessionId with
      | some session => rw [reduce_sessionEvent_some sessionHash found]
      | none => rw [reduce_sessionEvent_none sessionHash found]
  | sessionRequested subscriberId => exact kept (by simp) Iff.rfl
  | _ =>
      apply kept (by simp)
      unfold reduce
      dsimp only
      split <;> rfl

/-- The kernel and the registry know the same workers. -/
def WorkersAgree (runtime : GatewayRuntime WId SId SubId WH SH SubH) : Prop :=
  ∀ workerId, workerId ∈ runtime.registry.workers ↔ workerId ∈ runtime.state.available

/-- No tick reaches the deadline of an available worker. -/
def KeepsWorkers (runtime : GatewayRuntime WId SId SubId WH SH SubH)
    (message : RuntimeMessage WId SId SubId WH SH SubH) : Prop :=
  message = .event .tick → ∀ workerId entry,
    runtime.state.available.lookup workerId = some entry → runtime.state.tick + 1 < entry.deadline

/-- Everything one processed message can do to a worker. -/
inductive WorkerStep (workerId : WId) (message : RuntimeMessage WId SId SubId WH SH SubH)
    (before after : GatewayRuntime WId SId SubId WH SH SubH) : Prop
  /-- The message does not concern the worker. -/
  | kept
      (notDue : message = .event .tick → ∀ entry,
        before.state.available.lookup workerId = some entry →
        before.state.tick + 1 < entry.deadline)
      (handle : workerId ∈ after.registry.workers ↔ workerId ∈ before.registry.workers)
      (available : workerId ∈ after.state.available ↔ workerId ∈ before.state.available)
  /-- The worker registers under a fresh id. -/
  | registered
      (unknown : workerId ∉ before.registry.workers)
      (handle : workerId ∈ after.registry.workers)
      (available : workerId ∈ after.state.available)
  /-- A job is dispatched to the worker. -/
  | dispatched (notTick : message ≠ .event .tick)
      (wasAvailable : workerId ∈ before.state.available)
      (noHandle : workerId ∉ after.registry.workers)
      (unavailable : workerId ∉ after.state.available)
  /-- A tick reaches the deadline of the worker. -/
  | expired (entry : WorkerEntry) (tick : message = .event .tick)
      (found : before.state.available.lookup workerId = some entry)
      (due : entry.deadline ≤ before.state.tick + 1)
      (handle : workerId ∈ after.registry.workers ↔ workerId ∈ before.registry.workers)
      (unavailable : workerId ∉ after.state.available)

/-- A message without a kernel event leaves the workers alone, and so does an event that is neither
a registration nor a tick, but for the worker to which it dispatches a job. -/
theorem workerStep_of_event {message : RuntimeMessage WId SId SubId WH SH SubH}
    {shuffled : GatewayState WId SId SubId} {workerId : WId}
    (reorder : before.state.Reorder shuffled)
    (registered : (message.register before.registry).workers = before.registry.workers)
    (turn : let turn := kernelTurn sessionHash shuffled (message.kernelEvent? before.state.tick)
      after.state = turn.state ∧
        after.registry = (resolveEffects (message.register before.registry) turn.effects).registry)
    (notTick : message ≠ .event .tick)
    (quiet : ∀ event, message.kernelEvent? before.state.tick = some event →
      (workerId ∈ (reduce sessionHash shuffled event).state.available ↔
        workerId ∈ shuffled.available ∧
          ¬ Dispatches workerId (reduce sessionHash shuffled event).effects)) :
    WorkerStep workerId message before after := by
  obtain ⟨stateEq, registryEq⟩ := turn
  have handle := mem_workers_resolveEffects (message.register before.registry)
    (kernelTurn sessionHash shuffled (message.kernelEvent? before.state.tick)).effects workerId
  rw [← registryEq, registered] at handle
  have sameBefore := reorder.available.mem_iff workerId
  cases occurs : message.kernelEvent? before.state.tick with
  | none =>
      rw [occurs] at stateEq handle
      refine .kept (fun tick => absurd tick notTick) (handle.trans (and_iff_left ?_)) ?_
      · simp [kernelTurn, Dispatches]
      · rw [stateEq, sameBefore]
        rfl
  | some event =>
      rw [occurs] at stateEq handle
      have available := quiet event occurs
      simp only [kernelTurn] at stateEq handle
      rw [← stateEq] at available
      by_cases dispatches : Dispatches workerId (reduce sessionHash shuffled event).effects
      · refine .dispatched notTick ?_ (fun inside => (handle.mp inside).2 dispatches)
          (fun inside => (available.mp inside).2 dispatches)
        exact sameBefore.mpr (request_of_dispatches dispatches).1
      · exact .kept (fun tick => absurd tick notTick) (handle.trans (and_iff_left dispatches))
          ((available.trans (and_iff_left dispatches)).trans sameBefore.symm)

/-- Only a request takes a worker out of the registry. -/
theorem mem_workers_of_not_request (registry : ChannelRegistry WId SId SubId WH SH SubH)
    (state : GatewayState WId SId SubId) {event : Event WId SId SubId}
    (notRequest : ∀ clientStreamId payload stream requiredCapability,
      event ≠ .httpChatRequested clientStreamId payload stream requiredCapability)
    (workerId : WId) :
    workerId ∈ (resolveEffects registry (reduce sessionHash state event).effects).registry.workers ↔
      workerId ∈ registry.workers := by
  refine (mem_workers_resolveEffects registry _ workerId).trans (and_iff_left fun dispatches => ?_)
  obtain ⟨_, _, _, _, _, request⟩ := request_of_dispatches dispatches
  exact notRequest _ _ _ _ request

/-- A tick keeps the workers whose deadline is still to come; no handle is dropped. -/
theorem workerStep_of_tick (sessionHash : Nat → Nat → Nat)
    {shuffled : GatewayState WId SId SubId} (reorder : before.state.Reorder shuffled)
    (stateEq : after.state = (reduce sessionHash shuffled .tick).state)
    (registryEq : after.registry =
      (resolveEffects before.registry (reduce sessionHash shuffled .tick).effects).registry)
    (workerId : WId) : WorkerStep workerId (.event .tick) before after := by
  have handle : workerId ∈ after.registry.workers ↔ workerId ∈ before.registry.workers := by
    rw [registryEq]
    exact mem_workers_of_not_request _ _ (by simp) workerId
  have available : workerId ∈ after.state.available ↔ ∃ entry,
      before.state.available.lookup workerId = some entry ∧
        before.state.tick + 1 < entry.deadline := by
    rw [stateEq, ← reorder.tick, reorder.available.lookup_eq]
    exact mem_available_reduce shuffled .tick workerId
  by_cases due : ∃ entry, before.state.available.lookup workerId = some entry ∧
      entry.deadline ≤ before.state.tick + 1
  · obtain ⟨entry, found, isDue⟩ := due
    refine .expired entry rfl found isDue handle fun inside => ?_
    obtain ⟨other, otherFound, later⟩ := available.mp inside
    obtain rfl := Option.some.inj (found.symm.trans otherFound)
    exact Nat.not_le_of_lt later isDue
  · have notDue : ∀ entry, before.state.available.lookup workerId = some entry →
        before.state.tick + 1 < entry.deadline :=
      fun entry found => Nat.lt_of_not_le fun isDue => due ⟨entry, found, isDue⟩
    refine .kept (fun _ => notDue) handle (available.trans ?_)
    rw [AssocMap.mem_iff_lookup]
    exact exists_congr fun entry => and_iff_left_of_imp (notDue entry)

/-- A registration concerns the worker whose id it draws. -/
theorem workerStep_of_registration (sessionHash : Nat → Nat → Nat)
    {shuffled : GatewayState WId SId SubId} (reorder : before.state.Reorder shuffled)
    {workerHandle : WH} {capabilities : Finset Capability} {drawn : WId}
    (unknown : drawn ∉ before.registry.workers)
    (stateEq : after.state =
      (reduce sessionHash shuffled (.workerRegistered drawn capabilities)).state)
    (registryEq : after.registry =
      (resolveEffects (before.registry.registerWorker workerHandle drawn)
        (reduce sessionHash shuffled (.workerRegistered drawn capabilities)).effects).registry)
    (workerId : WId) :
    WorkerStep workerId (.command (.registerWorker workerHandle capabilities drawn)) before
      after := by
  have handle : workerId ∈ after.registry.workers ↔
      workerId = drawn ∨ workerId ∈ before.registry.workers := by
    rw [registryEq, mem_workers_of_not_request _ _ (by simp), ChannelRegistry.registerWorker]
    exact AssocMap.mem_update
  have available : workerId ∈ after.state.available ↔
      workerId = drawn ∨ workerId ∈ before.state.available := by
    rw [stateEq, reorder.available.mem_iff workerId]
    exact mem_available_reduce shuffled (.workerRegistered drawn capabilities) workerId
  by_cases same : workerId = drawn
  · exact .registered (same ▸ unknown) (handle.mpr (.inl same)) (available.mpr (.inl same))
  · exact .kept (by simp) (handle.trans (or_iff_right same)) (available.trans (or_iff_right same))

theorem sentSystem_workerStep (step : (sentSystem sessionHash).step before label after)
    (workerId : WId) : WorkerStep workerId label.1 before after := by
  obtain ⟨step, sent⟩ := step
  have fresh := step.1
  obtain ⟨shuffled, reorder, stateEq, registryEq, _⟩ := runtimeSystem_turn step
  obtain ⟨message, output⟩ := label
  dsimp only at sent fresh stateEq registryEq ⊢
  cases message with
  | event event =>
      cases event with
      | tick => exact workerStep_of_tick sessionHash reorder stateEq registryEq workerId
      | assignmentFailed clientStreamId text =>
          refine workerStep_of_event reorder rfl ⟨stateEq, registryEq⟩ (by simp) ?_
          rintro event ⟨⟩
          exact mem_available_reduce shuffled _ workerId
      | _ => exact absurd sent id
  | command command =>
      cases command with
      | registerWorker workerHandle capabilities drawn =>
          exact workerStep_of_registration sessionHash reorder fresh.1 stateEq registryEq workerId
      | _ =>
          refine workerStep_of_event reorder rfl ⟨stateEq, registryEq⟩ (by simp) ?_
          intro event occurs
          cases occurs <;> exact mem_available_reduce shuffled _ workerId

/-- A worker that the kernel knows has its handle. -/
def WorkersCovered (runtime : GatewayRuntime WId SId SubId WH SH SubH) : Prop :=
  ∀ workerId ∈ runtime.state.available, workerId ∈ runtime.registry.workers

omit [LinearOrder WId] [DecidableEq SId] [DecidableEq SubId] [ToString WId] [ToString SId] in
theorem WorkersCovered.agree_iff {runtime : GatewayRuntime WId SId SubId WH SH SubH}
    (covered : WorkersCovered runtime) :
    WorkersAgree runtime ↔
      ∀ workerId ∈ runtime.registry.workers, workerId ∈ runtime.state.available :=
  forall_congr' fun workerId => ⟨Iff.mp, fun known => ⟨known, covered workerId⟩⟩

theorem WorkersCovered.step (step : (sentSystem sessionHash).step before label after)
    (covered : WorkersCovered before) : WorkersCovered after := by
  intro workerId inside
  cases sentSystem_workerStep step workerId with
  | kept notDue handle available => exact handle.mpr (covered workerId (available.mp inside))
  | registered unknown handle available => exact handle
  | dispatched notTick wasAvailable noHandle unavailable => exact absurd inside unavailable
  | expired entry tick found due handle unavailable => exact absurd inside unavailable

theorem workersCovered_of_execution
    {trace : List
      (RuntimeMessage WId SId SubId WH SH SubH × RuntimeOutput WId SId SubId WH SH SubH)}
    {runtime : GatewayRuntime WId SId SubId WH SH SubH}
    (run : (sentSystem sessionHash).Execution trace runtime) : WorkersCovered runtime := by
  apply run.reachable_invariant (I := WorkersCovered)
  · rintro _ ⟨runtimeId, workerTtl, streamTtl, subscriberTtl, rfl⟩ workerId inside
    exact absurd inside (AList.notMem_empty workerId)
  · intro before label after covered step
    exact covered.step step

/-- A message keeps the agreement on workers exactly if it is no tick that reaches a deadline. -/
theorem workersAgree_step (step : (sentSystem sessionHash).step before label after)
    (covered : WorkersCovered before) :
    WorkersAgree after ↔ WorkersAgree before ∧ KeepsWorkers before label.1 := by
  rw [covered.agree_iff, (covered.step step).agree_iff]
  constructor
  · intro agree
    constructor
    · intro workerId known
      cases sentSystem_workerStep step workerId with
      | kept notDue handle available =>
          exact available.mp (agree workerId (handle.mpr known))
      | registered unknown handle available => exact absurd known unknown
      | dispatched notTick wasAvailable noHandle unavailable => exact wasAvailable
      | expired entry tick found due handle unavailable =>
          exact absurd (agree workerId (handle.mpr known)) unavailable
    · intro tick workerId entry found
      have inside := AssocMap.mem_iff_lookup.mpr ⟨entry, found⟩
      cases sentSystem_workerStep step workerId with
      | kept notDue handle available => exact notDue tick entry found
      | registered unknown handle available => exact absurd (covered workerId inside) unknown
      | dispatched notTick wasAvailable noHandle unavailable => exact absurd tick notTick
      | expired entry tick found due handle unavailable =>
          have known := handle.mpr (covered workerId inside)
          exact absurd (agree workerId known) unavailable
  · intro keeps workerId known
    obtain ⟨agree, keeps⟩ := keeps
    cases sentSystem_workerStep step workerId with
    | kept notDue handle available => exact available.mpr (agree workerId (handle.mp known))
    | registered unknown handle available => exact available
    | dispatched notTick wasAvailable noHandle unavailable => exact absurd known noHandle
    | expired entry tick found due handle unavailable =>
        exact absurd due (Nat.not_le_of_lt (keeps tick workerId entry found))

/-- The kernel and the registry know the same workers after exactly the runs in which no tick
reaches the deadline of an available worker. -/
theorem workers_agree_iff
    {trace : List
      (RuntimeMessage WId SId SubId WH SH SubH × RuntimeOutput WId SId SubId WH SH SubH)}
    {runtime : GatewayRuntime WId SId SubId WH SH SubH}
    (run : (sentSystem sessionHash).Execution trace runtime) :
    WorkersAgree runtime ↔
      ((sentSystem sessionHash).guarded fun runtime label =>
        KeepsWorkers runtime label.1).Execution trace runtime := by
  constructor
  · intro agree
    induction run with
    | start initial => exact .start initial
    | step run step ih =>
        obtain ⟨agreeBefore, keeps⟩ :=
          (workersAgree_step step (workersCovered_of_execution run)).mp agree
        exact .step (ih agreeBefore) ⟨step, keeps⟩
  · intro guarded
    clear run
    induction guarded with
    | start initial =>
        obtain ⟨runtimeId, workerTtl, streamTtl, subscriberTtl, rfl⟩ := initial
        exact fun workerId => Iff.rfl
    | step guarded step ih =>
        have covered := workersCovered_of_execution guarded.of_guarded
        exact (workersAgree_step step.1 covered).mpr ⟨ih, step.2⟩

end System

/-- A fresh runtime whose workers live for `workerTtl` ticks. -/
def freshRuntime (workerTtl : Nat) : GatewayRuntime Nat Nat Nat Nat Nat Nat :=
  GatewayRuntime.new Nat Nat Nat Nat Nat Nat 0 workerTtl 30 30

/-- Worker 1 registers behind handle 10, and a tick comes. -/
def registerThenTick : List (RuntimeMessage Nat Nat Nat Nat Nat Nat) :=
  [.command (.registerWorker 10 {.chat} 1), .event .tick]

theorem registerThenTick_admitted (workerTtl : Nat) :
    AllAdmitted (fun _ _ => 0) (freshRuntime workerTtl) registerThenTick :=
  ⟨trivial, ⟨AList.notMem_empty 1, AList.notMem_empty 1⟩, trivial, trivial, trivial⟩

/-- A worker that expires with the first tick leaves its handle in the registry. -/
theorem expired_worker_keeps_handle :
    ¬ ∀ trace (runtime : GatewayRuntime Nat Nat Nat Nat Nat Nat),
      (sentSystem fun _ _ => 0).Execution trace runtime → WorkersAgree runtime := by
  intro claim
  have agree := claim _ _ (execution_runMessages 0 1 30 30 (registerThenTick_admitted 1))
  exact absurd (agree 1) (by decide +kernel)

/-- A worker that lives longer is known to both. -/
theorem living_worker_agrees :
    WorkersAgree (runMessages (fun _ _ => 0) (freshRuntime 60) registerThenTick).2 := by
  have run := execution_runMessages 0 60 30 30 (registerThenTick_admitted 60)
  apply (workers_agree_iff run).mpr
  have start : ((sentSystem fun _ _ => 0).guarded fun runtime label =>
      KeepsWorkers runtime label.1).Execution [] (freshRuntime 60) :=
    .start ⟨0, 60, 30, 30, rfl⟩
  obtain ⟨sent, fresh, later⟩ := registerThenTick_admitted 60
  have registered := start.step
    ⟨sentSystem_processMessage _ _ _ sent fresh, fun tick => nomatch tick⟩
  refine registered.step ⟨sentSystem_processMessage _ _ (.event .tick) later.1 later.2.1, ?_⟩
  intro _ workerId entry found
  have lookup : (AssocMap.update ∅ 1 { deadline := 60, capabilities := {.chat} } :
    AssocMap Nat WorkerEntry).lookup workerId = some entry := found
  rw [AssocMap.lookup_update] at lookup
  split at lookup
  · obtain rfl := Option.some.inj lookup
    decide
  · cases lookup

end ProstheticConscience.Gateway
