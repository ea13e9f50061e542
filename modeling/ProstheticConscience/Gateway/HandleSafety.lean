/-
Module: ProstheticConscience.Gateway.HandleSafety
Purpose: The effect loop of the runtime seen from one client stream, and when an assignment in
  flight keeps the handle through which its terminal frames are to be delivered.
Trusted boundary: none
Main exports: Resolution.view, resolveEffects_view_silent, resolveEffects_view_errorThenDone,
  IsDuplicateRequest, KeepsHandles, runtime_keeps_handles_iff
-/
import ProstheticConscience.Gateway.Runtime

namespace ProstheticConscience.Gateway

variable {WId SId SubId WH SH SubH : Type}

/-- The stream of which an event reports that its assignment failed. -/
def Event.failedStream? : Event WId SId SubId → Option SId
  | .assignmentFailed clientStreamId _ => some clientStreamId
  | _ => none

section View

variable [DecidableEq SId]

/-- What concerns one stream in a resolution: its handle, the resolved effects addressed to it and
the failures reported about it. -/
structure StreamView (WId SId SubId WH SH SubH : Type) where
  handle : Option SH
  resolved : List (ResolvedEffect SId SubId WH SH SubH)
  fallbacks : List (Event WId SId SubId)

def resolvedFor (sid : SId) (resolved : List (ResolvedEffect SId SubId WH SH SubH)) :
    List (ResolvedEffect SId SubId WH SH SubH) :=
  resolved.filter fun effect => decide (effect.clientStreamId?.map Prod.fst = some sid)

def fallbacksFor (sid : SId) (fallbacks : List (Event WId SId SubId)) :
    List (Event WId SId SubId) :=
  fallbacks.filter fun event => decide (event.failedStream? = some sid)

def Resolution.view (sid : SId) (acc : Resolution WId SId SubId WH SH SubH) :
    StreamView WId SId SubId WH SH SubH where
  handle := acc.registry.streams.lookup sid
  resolved := resolvedFor sid acc.resolved
  fallbacks := fallbacksFor sid acc.fallbacks

theorem Resolution.view_ext {sid : SId} {first second : Resolution WId SId SubId WH SH SubH}
    (handle : first.registry.streams.lookup sid = second.registry.streams.lookup sid)
    (resolved : resolvedFor sid first.resolved = resolvedFor sid second.resolved)
    (fallbacks : fallbacksFor sid first.fallbacks = fallbacksFor sid second.fallbacks) :
    first.view sid = second.view sid := by
  simp only [Resolution.view, handle, resolved, fallbacks]

theorem Resolution.of_view_eq {sid : SId} {first second : Resolution WId SId SubId WH SH SubH}
    (same : first.view sid = second.view sid) :
    first.registry.streams.lookup sid = second.registry.streams.lookup sid ∧
      resolvedFor sid first.resolved = resolvedFor sid second.resolved ∧
      fallbacksFor sid first.fallbacks = fallbacksFor sid second.fallbacks :=
  ⟨congrArg StreamView.handle same, congrArg StreamView.resolved same,
    congrArg StreamView.fallbacks same⟩

@[simp] theorem resolvedFor_append (sid : SId)
    (first second : List (ResolvedEffect SId SubId WH SH SubH)) :
    resolvedFor sid (first ++ second) = resolvedFor sid first ++ resolvedFor sid second := by
  simp [resolvedFor]

theorem resolvedFor_other {sid : SId} {effect : ResolvedEffect SId SubId WH SH SubH}
    (other : effect.clientStreamId?.map Prod.fst ≠ some sid) : resolvedFor sid [effect] = [] := by
  simp [resolvedFor, other]

theorem resolvedFor_own {sid : SId} {effect : ResolvedEffect SId SubId WH SH SubH}
    (own : effect.clientStreamId?.map Prod.fst = some sid) :
    resolvedFor sid [effect] = [effect] := by
  simp [resolvedFor, own]

@[simp] theorem fallbacksFor_append (sid : SId) (first second : List (Event WId SId SubId)) :
    fallbacksFor sid (first ++ second) = fallbacksFor sid first ++ fallbacksFor sid second := by
  simp [fallbacksFor]

theorem fallbacksFor_other {sid other : SId} (different : other ≠ sid) (message : String) :
    fallbacksFor sid ([.assignmentFailed other message] : List (Event WId SId SubId)) = [] := by
  simp [fallbacksFor, Event.failedStream?, different]

theorem fallbacksFor_own (sid : SId) (message : String) :
    fallbacksFor sid ([.assignmentFailed sid message] : List (Event WId SId SubId)) =
      [.assignmentFailed sid message] := by
  simp [fallbacksFor, Event.failedStream?]

end View

/-! ### The loop seen from one stream -/

section Loop

variable [DecidableEq WId] [DecidableEq SId] [DecidableEq SubId]

/-- A dispatch leaves the stream handles alone: it is resolved with both handles or reported as
failed. -/
theorem resolveEffect_dispatchJob (acc : Resolution WId SId SubId WH SH SubH)
    (job : DispatchJob WId SId) :
    (resolveEffect acc (.dispatchJob job)).registry.streams = acc.registry.streams ∧
      ((∃ message,
          (resolveEffect acc (.dispatchJob job)).resolved = acc.resolved ∧
          (resolveEffect acc (.dispatchJob job)).fallbacks =
            acc.fallbacks ++ [.assignmentFailed job.clientStreamId message]) ∨
        (∃ workerHandle streamHandle,
          acc.registry.workers.lookup job.workerId = some workerHandle ∧
          acc.registry.streams.lookup job.clientStreamId = some streamHandle ∧
          (resolveEffect acc (.dispatchJob job)).resolved =
            acc.resolved ++
              [.dispatchJob
                { workerId := workerHandle
                  clientStreamId := (job.clientStreamId, streamHandle)
                  capability := job.capability
                  payload := job.payload }] ∧
          (resolveEffect acc (.dispatchJob job)).fallbacks = acc.fallbacks)) := by
  obtain ⟨workerId, clientStreamId, capability, payload⟩ := job
  cases worker : acc.registry.workers.lookup workerId with
  | none =>
      have unfolded : resolveEffect acc
          (.dispatchJob { workerId, clientStreamId, capability, payload }) =
          { acc with
            registry := (acc.registry.takeWorker workerId).2
            fallbacks :=
              acc.fallbacks ++ [.assignmentFailed clientStreamId "worker handle not found"] } := by
        simp only [resolveEffect, ChannelRegistry.takeWorker, worker]
      rw [unfolded]
      exact ⟨rfl, .inl ⟨_, rfl, rfl⟩⟩
  | some workerHandle =>
      cases stream : acc.registry.streams.lookup clientStreamId with
      | none =>
          have unfolded : resolveEffect acc
              (.dispatchJob { workerId, clientStreamId, capability, payload }) =
              { acc with
                registry := (acc.registry.takeWorker workerId).2
                fallbacks :=
                  acc.fallbacks ++
                    [.assignmentFailed clientStreamId "stream handle not found"] } := by
            simp only [resolveEffect, ChannelRegistry.takeWorker, worker,
              ChannelRegistry.cloneStream, stream]
          rw [unfolded]
          exact ⟨rfl, .inl ⟨_, rfl, rfl⟩⟩
      | some streamHandle =>
          have unfolded : resolveEffect acc
              (.dispatchJob { workerId, clientStreamId, capability, payload }) =
              { acc with
                registry := (acc.registry.takeWorker workerId).2
                resolved :=
                  acc.resolved ++
                    [.dispatchJob
                      { workerId := workerHandle
                        clientStreamId := (clientStreamId, streamHandle)
                        capability
                        payload }] } := by
            simp only [resolveEffect, ChannelRegistry.takeWorker, worker,
              ChannelRegistry.cloneStream, stream]
          rw [unfolded]
          exact ⟨rfl, .inr ⟨workerHandle, streamHandle, rfl, rfl, rfl, rfl⟩⟩

/-- An error frame is resolved with a copy of the handle, or dropped when there is none. -/
theorem resolveEffect_sendClientError (acc : Resolution WId SId SubId WH SH SubH)
    (error : SendClientError SId) :
    resolveEffect acc (.sendClientError error) =
      { acc with
        resolved :=
          acc.resolved ++
            ((acc.registry.streams.lookup error.clientStreamId).map fun streamHandle =>
              .sendClientError
                { clientStreamId := (error.clientStreamId, streamHandle)
                  message := error.message }).toList } := by
  obtain ⟨clientStreamId, message⟩ := error
  cases stream : acc.registry.streams.lookup clientStreamId <;>
    simp [resolveEffect, ChannelRegistry.cloneStream, stream]

/-- A terminal frame takes the handle with it. -/
theorem resolveEffect_sendClientDone (acc : Resolution WId SId SubId WH SH SubH)
    (done : SendClientDone SId) :
    (resolveEffect acc (.sendClientDone done)).resolved =
        acc.resolved ++
          ((acc.registry.streams.lookup done.clientStreamId).map fun streamHandle =>
            .sendClientDone { clientStreamId := (done.clientStreamId, streamHandle) }).toList ∧
      (resolveEffect acc (.sendClientDone done)).fallbacks = acc.fallbacks ∧
      (∀ sid, (resolveEffect acc (.sendClientDone done)).registry.streams.lookup sid =
        if sid = done.clientStreamId then none else acc.registry.streams.lookup sid) := by
  obtain ⟨clientStreamId⟩ := done
  cases stream : acc.registry.streams.lookup clientStreamId with
  | none =>
      simp only [resolveEffect, ChannelRegistry.takeStream, stream, Option.map_none,
        Option.toList_none, List.append_nil, true_and]
      intro sid
      by_cases same : sid = clientStreamId
      · rw [if_pos same, same, stream]
      · rw [if_neg same]
  | some streamHandle =>
      simp only [resolveEffect, ChannelRegistry.takeStream, stream, Option.map_some,
        Option.toList_some, true_and]
      exact AssocMap.lookup_without acc.registry.streams clientStreamId

/-- The effects of sessions concern neither stream handles nor stream effects. -/
theorem resolveEffect_view_silent {effect : Effect WId SId SubId}
    (silent : effect.clientStreamId? = none) (sid : SId)
    (acc : Resolution WId SId SubId WH SH SubH) :
    (resolveEffect acc effect).view sid = acc.view sid := by
  cases effect with
  | dispatchJob job => exact absurd silent (by simp)
  | sendClientError error => exact absurd silent (by simp)
  | sendClientDone done => exact absurd silent (by simp)
  | protocolViolation violation =>
      apply Resolution.view_ext <;> simp [resolveEffect, resolvedFor, Effect.clientStreamId?]
  | sessionExpired sessionId entries =>
      apply Resolution.view_ext <;> simp [resolveEffect, resolvedFor, Effect.clientStreamId?]
  | sessionCreated sessionId subscriberId =>
      simp only [resolveEffect]
      split
      · apply Resolution.view_ext <;> simp [resolvedFor, Effect.clientStreamId?]
      · rfl
  | sessionEffect effect =>
      cases effect with
      | notifySubscribers entryIndex payload subscribers =>
          simp only [resolveEffect]
          split
          · rfl
          · apply Resolution.view_ext <;> simp [resolvedFor, Effect.clientStreamId?]
      | subscriberRemoved subscriberId =>
          cases handle : acc.registry.subscribers.lookup subscriberId <;>
            simp only [resolveEffect, ChannelRegistry.takeSubscriber, handle]
          apply Resolution.view_ext <;> simp [resolvedFor, Effect.clientStreamId?]

/-- An effect that is not addressed to the stream leaves its view alone. -/
theorem resolveEffect_view_other {sid : SId} {effect : Effect WId SId SubId}
    (other : effect.clientStreamId? ≠ some sid) (acc : Resolution WId SId SubId WH SH SubH) :
    (resolveEffect acc effect).view sid = acc.view sid := by
  cases effect with
  | dispatchJob job =>
      have different : job.clientStreamId ≠ sid := fun same => other (congrArg some same)
      obtain ⟨handles, ⟨message, resolved, fallbacks⟩ | ⟨_, _, _, _, resolved, fallbacks⟩⟩ :=
        resolveEffect_dispatchJob acc job
      · apply Resolution.view_ext
        · rw [handles]
        · rw [resolved]
        · rw [fallbacks, fallbacksFor_append, fallbacksFor_other different, List.append_nil]
      · apply Resolution.view_ext
        · rw [handles]
        · rw [resolved, resolvedFor_append, resolvedFor_other (by simpa using different),
            List.append_nil]
        · rw [fallbacks]
  | sendClientError error =>
      have different : error.clientStreamId ≠ sid := fun same => other (congrArg some same)
      rw [resolveEffect_sendClientError]
      apply Resolution.view_ext
      · rfl
      · cases acc.registry.streams.lookup error.clientStreamId <;>
          simp [resolvedFor, Effect.clientStreamId?, different]
      · rfl
  | sendClientDone done =>
      have different : done.clientStreamId ≠ sid := fun same => other (congrArg some same)
      obtain ⟨resolved, fallbacks, handles⟩ := resolveEffect_sendClientDone acc done
      apply Resolution.view_ext
      · rw [handles, if_neg different.symm]
      · rw [resolved]
        cases acc.registry.streams.lookup done.clientStreamId <;>
          simp [resolvedFor, Effect.clientStreamId?, different]
      · rw [fallbacks]
  | sessionEffect effect => exact resolveEffect_view_silent rfl sid acc
  | sessionCreated sessionId subscriberId => exact resolveEffect_view_silent rfl sid acc
  | sessionExpired sessionId entries => exact resolveEffect_view_silent rfl sid acc
  | protocolViolation violation => exact resolveEffect_view_silent rfl sid acc

theorem foldl_view_silent {sid : SId} :
    ∀ {effects : List (Effect WId SId SubId)}, effectsFor sid effects = [] →
      ∀ acc : Resolution WId SId SubId WH SH SubH,
        (effects.foldl resolveEffect acc).view sid = acc.view sid
  | [], _, acc => rfl
  | effect :: rest, silent, acc => by
      rw [effectsFor_cons] at silent
      by_cases own : effect.clientStreamId? = some sid
      · simp [own] at silent
      · rw [if_neg own] at silent
        rw [List.foldl_cons, foldl_view_silent silent, resolveEffect_view_other own]

/-- The loop up to and including the first effect addressed to the stream: nothing the stream sees
happens before it. -/
theorem exists_first_effect {sid : SId} {effect : Effect WId SId SubId}
    {later : List (Effect WId SId SubId)} :
    ∀ {effects : List (Effect WId SId SubId)}, effectsFor sid effects = effect :: later →
      ∀ acc : Resolution WId SId SubId WH SH SubH,
        ∃ here rest, effectsFor sid rest = later ∧ here.view sid = acc.view sid ∧
          effects.foldl resolveEffect acc = rest.foldl resolveEffect (resolveEffect here effect)
  | [], emitted, acc => by simp at emitted
  | head :: rest, emitted, acc => by
      rw [effectsFor_cons] at emitted
      by_cases own : head.clientStreamId? = some sid
      · rw [if_pos own] at emitted
        obtain ⟨rfl, laterEq⟩ := List.cons.inj emitted
        exact ⟨acc, rest, laterEq, rfl, rfl⟩
      · rw [if_neg own] at emitted
        obtain ⟨here, after, laterEq, viewEq, foldEq⟩ :=
          exists_first_effect emitted (resolveEffect acc head)
        exact ⟨here, after, laterEq, viewEq.trans (resolveEffect_view_other own acc), foldEq⟩

/-! ### The effects of one message seen from one stream -/

variable {sid : SId} {registry : ChannelRegistry WId SId SubId WH SH SubH}
  {effects : List (Effect WId SId SubId)}

theorem resolveEffects_view_silent (silent : effectsFor sid effects = []) :
    (resolveEffects registry effects).view sid =
      { handle := registry.streams.lookup sid, resolved := [], fallbacks := [] } :=
  foldl_view_silent silent _

/-- A terminal frame goes through the handle, which is gone after it. -/
theorem resolveEffects_view_done
    (emitted : effectsFor sid effects = [.sendClientDone { clientStreamId := sid }]) :
    (resolveEffects registry effects).view sid =
      { handle := none
        resolved := ((registry.streams.lookup sid).map fun streamHandle =>
          .sendClientDone { clientStreamId := (sid, streamHandle) }).toList
        fallbacks := [] } := by
  obtain ⟨here, rest, silent, viewEq, foldEq⟩ := exists_first_effect emitted
    { registry, resolved := [], fallbacks := [] }
  obtain ⟨resolved, fallbacks, handles⟩ :=
    resolveEffect_sendClientDone here { clientStreamId := sid }
  obtain ⟨handleEq, resolvedEq, fallbacksEq⟩ := Resolution.of_view_eq viewEq
  rw [resolveEffects, foldEq, foldl_view_silent silent]
  simp only [Resolution.view, resolved, fallbacks, handles, resolvedFor_append, resolvedEq,
    fallbacksEq, handleEq, if_true]
  cases registry.streams.lookup sid <;>
    simp [resolvedFor, fallbacksFor, Effect.clientStreamId?]

/-- An error and a terminal frame both go through the handle, which is gone after them. -/
theorem resolveEffects_view_errorThenDone {message : String}
    (emitted : effectsFor sid effects = errorThenDone sid message) :
    (resolveEffects registry effects).view sid =
      { handle := none
        resolved := (registry.streams.lookup sid).toList.flatMap fun streamHandle =>
          errorThenDone (sid, streamHandle) message
        fallbacks := [] } := by
  obtain ⟨first, afterError, emittedDone, viewFirst, foldFirst⟩ :=
    exists_first_effect emitted { registry, resolved := [], fallbacks := [] }
  have errorStep := resolveEffect_sendClientError first { clientStreamId := sid, message }
  obtain ⟨second, rest, silent, viewSecond, foldSecond⟩ :=
    exists_first_effect emittedDone
      (resolveEffect first (.sendClientError { clientStreamId := sid, message }))
  obtain ⟨resolved, fallbacks, handles⟩ :=
    resolveEffect_sendClientDone second { clientStreamId := sid }
  rw [errorStep] at viewSecond
  obtain ⟨handleEq, resolvedEq, fallbacksEq⟩ := Resolution.of_view_eq viewFirst
  obtain ⟨handleEq', resolvedEq', fallbacksEq'⟩ := Resolution.of_view_eq viewSecond
  rw [resolveEffects, foldFirst, foldSecond, foldl_view_silent silent]
  simp only [Resolution.view, resolved, fallbacks, handles, resolvedFor_append, resolvedEq,
    resolvedEq', fallbacksEq, fallbacksEq', handleEq, handleEq', if_true]
  cases registry.streams.lookup sid <;>
    simp [resolvedFor, fallbacksFor, errorThenDone, Effect.clientStreamId?]

/-- A dispatch is resolved with the handle of the stream, or the runtime reports its failure; the
handle stays either way. -/
theorem resolveEffects_view_dispatch (registry : ChannelRegistry WId SId SubId WH SH SubH)
    (job : DispatchJob WId SId) (own : job.clientStreamId = sid)
    (emitted : effectsFor sid effects = [.dispatchJob job]) :
    (∃ message, (resolveEffects registry effects).view sid =
        { handle := registry.streams.lookup sid
          resolved := []
          fallbacks := [.assignmentFailed sid message] }) ∨
      (∃ workerHandle streamHandle,
        registry.streams.lookup sid = some streamHandle ∧
        (resolveEffects registry effects).view sid =
          { handle := registry.streams.lookup sid
            resolved :=
              [.dispatchJob
                { workerId := workerHandle
                  clientStreamId := (sid, streamHandle)
                  capability := job.capability
                  payload := job.payload }]
            fallbacks := [] }) := by
  subst own
  obtain ⟨here, rest, silent, viewEq, foldEq⟩ := exists_first_effect emitted
    { registry, resolved := [], fallbacks := [] }
  obtain ⟨handleEq, resolvedEq, fallbacksEq⟩ := Resolution.of_view_eq viewEq
  rw [resolveEffects, foldEq, foldl_view_silent silent]
  obtain ⟨handles, ⟨message, resolved, fallbacks⟩ |
    ⟨workerHandle, streamHandle, _, stream, resolved, fallbacks⟩⟩ :=
    resolveEffect_dispatchJob here job
  · left
    refine ⟨message, ?_⟩
    simp only [Resolution.view, handles, resolved, fallbacks, handleEq, resolvedEq,
      fallbacksFor_append, fallbacksEq, fallbacksFor_own]
    rfl
  · right
    refine ⟨workerHandle, streamHandle, handleEq.symm.trans stream, ?_⟩
    simp only [Resolution.view, handles, resolved, fallbacks, handleEq, fallbacksEq,
      resolvedFor_append, resolvedEq]
    simp [resolvedFor, fallbacksFor, Effect.clientStreamId?]

end Loop

/-! ### One message seen from one stream

`RuntimeStreamStep` says everything that one message can do to a stream: to its membership among the
active ones, to its handle, and what it puts out for it. Each kind of step has a constructor, and
the invariants go through these. -/

section System

variable [LinearOrder WId] [DecidableEq SId] [DecidableEq SubId] [ToString WId] [ToString SId]

/-- Everything one processed message can do to the stream `sid`: to its membership among the
active streams, to its handle, and what it puts out for it. -/
inductive RuntimeStreamStep (sid : SId) (message : RuntimeMessage WId SId SubId WH SH SubH)
    (before after : GatewayRuntime WId SId SubId WH SH SubH)
    (output : RuntimeOutput WId SId SubId WH SH SubH) : Prop
  /-- The message does not concern the stream, or only registers its handle. -/
  | quiet
      (noRequest : ∀ event, message.kernelEvent? before.state.tick = some event →
        event.requestedStream? ≠ some sid)
      (same : sid ∈ after.state.activeStreams ↔ sid ∈ before.state.activeStreams)
      (handle : after.registry.streams.lookup sid =
        (message.register before.registry).streams.lookup sid)
      (resolved : resolvedFor sid output.resolved = [])
      (fallbacks : fallbacksFor sid output.fallbacks = [])
  /-- A request is turned down before dispatch. -/
  | rejected (payload : Value) (stream : Bool) (capability : Capability) (text : String)
      (request : message.kernelEvent? before.state.tick =
        some (.httpChatRequested sid payload stream capability))
      (same : sid ∈ after.state.activeStreams ↔ sid ∈ before.state.activeStreams)
      (handle : after.registry.streams.lookup sid = none)
      (resolved : resolvedFor sid output.resolved =
        (before.registry.streams.lookup sid).toList.flatMap fun streamHandle =>
          errorThenDone (sid, streamHandle) text)
      (fallbacks : fallbacksFor sid output.fallbacks = [])
  /-- A request is handed to a worker. -/
  | dispatched (payload : Value) (capability : Capability) (workerHandle : WH)
      (streamHandle : SH)
      (request : message.kernelEvent? before.state.tick =
        some (.httpChatRequested sid payload true capability))
      (inactive : sid ∉ before.state.activeStreams) (active : sid ∈ after.state.activeStreams)
      (registered : before.registry.streams.lookup sid = some streamHandle)
      (handle : after.registry.streams.lookup sid = some streamHandle)
      (resolved : resolvedFor sid output.resolved =
        [.dispatchJob
          { workerId := workerHandle, clientStreamId := (sid, streamHandle), capability, payload }])
      (fallbacks : fallbacksFor sid output.fallbacks = [])
  /-- A request is accepted, but a handle that its dispatch needs is missing. -/
  | undispatchable (payload : Value) (capability : Capability) (text : String)
      (request : message.kernelEvent? before.state.tick =
        some (.httpChatRequested sid payload true capability))
      (inactive : sid ∉ before.state.activeStreams) (active : sid ∈ after.state.activeStreams)
      (handle : after.registry.streams.lookup sid = before.registry.streams.lookup sid)
      (resolved : resolvedFor sid output.resolved = [])
      (fallbacks : fallbacksFor sid output.fallbacks = [.assignmentFailed sid text])
  /-- The relay reported the end of the job. -/
  | cleared
      (report : message.kernelEvent? before.state.tick = some (.assignmentCleared sid))
      (active : sid ∈ before.state.activeStreams) (inactive : sid ∉ after.state.activeStreams)
      (handle : after.registry.streams.lookup sid = none)
      (resolved : resolvedFor sid output.resolved =
        ((before.registry.streams.lookup sid).map fun streamHandle =>
          .sendClientDone { clientStreamId := (sid, streamHandle) }).toList)
      (fallbacks : fallbacksFor sid output.fallbacks = [])
  /-- The job failed, or a tick passed the deadline of the stream. -/
  | failed (text : String)
      (report : message.kernelEvent? before.state.tick = some (.assignmentFailed sid text) ∨
        message.kernelEvent? before.state.tick = some .tick ∧ text = "stream timed out")
      (active : sid ∈ before.state.activeStreams) (inactive : sid ∉ after.state.activeStreams)
      (handle : after.registry.streams.lookup sid = none)
      (resolved : resolvedFor sid output.resolved =
        (before.registry.streams.lookup sid).toList.flatMap fun streamHandle =>
          errorThenDone (sid, streamHandle) text)
      (fallbacks : fallbacksFor sid output.fallbacks = [])

omit [ToString WId] [ToString SId] in
/-- A message with a kernel event registers no stream. -/
theorem register_streams_of_event {message : RuntimeMessage WId SId SubId WH SH SubH} {tick : Nat}
    {event : Event WId SId SubId} (occurs : message.kernelEvent? tick = some event)
    (registry : ChannelRegistry WId SId SubId WH SH SubH) :
    (message.register registry).streams = registry.streams := by
  cases message with
  | event occurred => rfl
  | command command =>
      cases command with
      | registerStream handle drawn => exact absurd occurs (by simp [RuntimeMessage.kernelEvent?])
      | _ => rfl

/-- One processed message, read off the kernel's step on the stream and the effect loop. -/
theorem runtimeSystem_streamStep {sessionHash : Nat → Nat → Nat}
    {before after : GatewayRuntime WId SId SubId WH SH SubH}
    {label : RuntimeMessage WId SId SubId WH SH SubH × RuntimeOutput WId SId SubId WH SH SubH}
    (step : (runtimeSystem sessionHash).step before label after) (sid : SId) :
    RuntimeStreamStep sid label.1 before after label.2 := by
  obtain ⟨message, output⟩ := label
  obtain ⟨_, shuffled, reorder, processed⟩ := step
  have spec := processMessage_spec sessionHash { before with state := shuffled } message
  simp only [processed, reorder.tick] at spec
  have sameBefore := reorder.mem_activeStreams sid
  cases occurs : message.kernelEvent? before.state.tick with
  | none =>
      simp only [occurs, kernelTurn] at spec
      obtain ⟨stateEq, registryEq, resolvedEq, fallbacksEq⟩ := spec
      exact .quiet (by simp [occurs]) (by rw [stateEq, sameBefore]) (by rw [registryEq]; rfl)
        (by rw [resolvedEq]; rfl) (by rw [fallbacksEq]; rfl)
  | some event =>
      simp only [occurs, kernelTurn] at spec
      obtain ⟨stateEq, registryEq, resolvedEq, fallbacksEq⟩ := spec
      have streams := register_streams_of_event occurs before.registry
      have streamStep := reduce_streamStep sessionHash shuffled event sid
      rw [← stateEq] at streamStep
      -- every case of the kernel's step fixes the effects for the stream, and with them the view
      have viewEq : ∀ {view : StreamView WId SId SubId WH SH SubH},
          (resolveEffects (message.register before.registry)
            (reduce sessionHash shuffled event).effects).view sid = view →
          after.registry.streams.lookup sid = view.handle ∧
            resolvedFor sid output.resolved = view.resolved ∧
            fallbacksFor sid output.fallbacks = view.fallbacks := by
        intro view viewEq
        subst viewEq
        rw [registryEq, resolvedEq, fallbacksEq]
        exact ⟨rfl, rfl, rfl⟩
      cases streamStep with
      | untouched noRequest same emitted =>
          obtain ⟨handle, resolved, fallbacks⟩ := viewEq (resolveEffects_view_silent emitted)
          refine .quiet ?_ (same.trans sameBefore) handle resolved fallbacks
          intro other otherOccurs
          rw [occurs] at otherOccurs
          exact Option.some.inj otherOccurs ▸ noRequest
      | rejected payload stream capability text request same emitted =>
          subst request
          obtain ⟨handle, resolved, fallbacks⟩ :=
            viewEq (resolveEffects_view_errorThenDone emitted)
          rw [streams] at resolved
          exact .rejected payload stream capability text occurs (same.trans sameBefore) handle
            resolved fallbacks
      | dispatched payload capability workerId request inactive active emitted =>
          subst request
          rcases resolveEffects_view_dispatch (message.register before.registry)
            ⟨workerId, sid, capability, payload⟩ rfl emitted with
            ⟨text, view⟩ | ⟨workerHandle, streamHandle, registered, view⟩
          · obtain ⟨handle, resolved, fallbacks⟩ := viewEq view
            rw [streams] at handle
            exact .undispatchable payload capability text occurs
              (fun wasActive => inactive (sameBefore.mpr wasActive)) active handle resolved
              fallbacks
          · obtain ⟨handle, resolved, fallbacks⟩ := viewEq view
            rw [registered] at handle
            rw [streams] at registered
            exact .dispatched payload capability workerHandle streamHandle occurs
              (fun wasActive => inactive (sameBefore.mpr wasActive)) active registered handle
              resolved fallbacks
      | cleared report active inactive emitted =>
          subst report
          obtain ⟨handle, resolved, fallbacks⟩ := viewEq (resolveEffects_view_done emitted)
          rw [streams] at resolved
          exact .cleared occurs (sameBefore.mp active) inactive handle resolved fallbacks
      | failed text report active inactive emitted =>
          subst report
          obtain ⟨handle, resolved, fallbacks⟩ :=
            viewEq (resolveEffects_view_errorThenDone emitted)
          rw [streams] at resolved
          exact .failed text (.inl occurs) (sameBefore.mp active) inactive handle resolved
            fallbacks
      | expired tick active inactive emitted =>
          subst tick
          obtain ⟨handle, resolved, fallbacks⟩ :=
            viewEq (resolveEffects_view_errorThenDone emitted)
          rw [streams] at resolved
          exact .failed "stream timed out" (.inr ⟨occurs, rfl⟩) (sameBefore.mp active) inactive
            handle resolved fallbacks

/-! ### Assignments in flight -/

/-- The stream is active and its client handle is registered. -/
def InFlight (runtime : GatewayRuntime WId SId SubId WH SH SubH) (sid : SId) : Prop :=
  sid ∈ runtime.state.activeStreams ∧ sid ∈ runtime.registry.streams

/-- Every stream that stays active keeps the handle it had. -/
def KeepsHandles (before after : GatewayRuntime WId SId SubId WH SH SubH) : Prop :=
  ∀ sid streamHandle, sid ∈ before.state.activeStreams → sid ∈ after.state.activeStreams →
    before.registry.streams.lookup sid = some streamHandle →
    after.registry.streams.lookup sid = some streamHandle

/-- The message requests a completion on a stream whose assignment is in flight. -/
def IsDuplicateRequest (runtime : GatewayRuntime WId SId SubId WH SH SubH)
    (message : RuntimeMessage WId SId SubId WH SH SubH) : Prop :=
  ∃ sid payload stream capability, InFlight runtime sid ∧
    message.kernelEvent? runtime.state.tick =
      some (.httpChatRequested sid payload stream capability)

omit [ToString WId] [ToString SId] in
/-- Registering a handle under a fresh id changes no handle that is registered. -/
theorem lookup_register {runtime : GatewayRuntime WId SId SubId WH SH SubH}
    {message : RuntimeMessage WId SId SubId WH SH SubH} (fresh : message.DrawsFresh runtime)
    {sid : SId} {streamHandle : SH}
    (registered : runtime.registry.streams.lookup sid = some streamHandle) :
    (message.register runtime.registry).streams.lookup sid = some streamHandle := by
  cases message with
  | event occurred => exact registered
  | command command =>
      cases command with
      | registerStream handle drawn =>
          have other : sid ≠ drawn := by
            intro same
            exact fresh.1 (AssocMap.mem_iff_lookup.mpr ⟨streamHandle, same ▸ registered⟩)
          exact (AssocMap.lookup_update_ne _ _ other).trans registered
      | _ => exact registered

/-- A message that is no duplicate request takes no handle from a stream that stays active. -/
theorem keepsHandles_of_not_duplicate {sessionHash : Nat → Nat → Nat}
    {before after : GatewayRuntime WId SId SubId WH SH SubH}
    {label : RuntimeMessage WId SId SubId WH SH SubH × RuntimeOutput WId SId SubId WH SH SubH}
    (step : (runtimeSystem sessionHash).step before label after)
    (noDuplicate : ¬ IsDuplicateRequest before label.1) : KeepsHandles before after := by
  intro sid streamHandle wasActive isActive registered
  have fresh := step.1
  cases runtimeSystem_streamStep step sid with
  | quiet noRequest same handle resolved fallbacks =>
      rw [handle]
      exact lookup_register fresh registered
  | rejected payload stream capability text request same handle resolved fallbacks =>
      have inFlight : InFlight before sid :=
        ⟨wasActive, AssocMap.mem_iff_lookup.mpr ⟨streamHandle, registered⟩⟩
      exact absurd ⟨sid, payload, stream, capability, inFlight, request⟩ noDuplicate
  | dispatched payload capability workerHandle _ request inactive => exact absurd wasActive inactive
  | undispatchable payload capability text request inactive => exact absurd wasActive inactive
  | cleared report active inactive => exact absurd isActive inactive
  | failed text report active inactive => exact absurd isActive inactive

/-- A duplicate request takes the handle of the assignment in flight with it. -/
theorem not_keepsHandles_of_duplicate {sessionHash : Nat → Nat → Nat}
    {before after : GatewayRuntime WId SId SubId WH SH SubH}
    {label : RuntimeMessage WId SId SubId WH SH SubH × RuntimeOutput WId SId SubId WH SH SubH}
    (step : (runtimeSystem sessionHash).step before label after)
    (duplicate : IsDuplicateRequest before label.1) : ¬ KeepsHandles before after := by
  obtain ⟨sid, payload, stream, capability, ⟨wasActive, registered⟩, request⟩ := duplicate
  obtain ⟨streamHandle, found⟩ := AssocMap.mem_iff_lookup.mp registered
  intro keeps
  cases runtimeSystem_streamStep step sid with
  | quiet noRequest same handle resolved fallbacks => exact noRequest _ request rfl
  | rejected payload stream capability text request same handle resolved fallbacks =>
      have kept := keeps sid streamHandle wasActive (same.mpr wasActive) found
      rw [handle] at kept
      exact absurd kept (by simp)
  | dispatched payload capability workerHandle _ _ inactive => exact absurd wasActive inactive
  | undispatchable payload capability text _ inactive => exact absurd wasActive inactive
  | cleared report active inactive => simp [request] at report
  | failed text report active inactive => simp [request] at report

/-- Exactly the duplicate requests tear an assignment down: a processed message keeps the handle of
every stream that stays active if and only if it requests no completion on a stream in flight.  So
in a run without such requests a stream keeps its handle for as long as it is active. -/
theorem runtime_keeps_handles_iff (sessionHash : Nat → Nat → Nat) :
    (∀ (before after : GatewayRuntime WId SId SubId WH SH SubH) label,
      (runtimeSystem sessionHash).step before label after →
        (KeepsHandles before after ↔ ¬ IsDuplicateRequest before label.1)) ∧
    (∀ (start last : GatewayRuntime WId SId SubId WH SH SubH) trace sid streamHandle,
      (((runtimeSystem sessionHash).guarded fun runtime label =>
          ¬ IsDuplicateRequest runtime label.1).guarded fun runtime _ =>
            sid ∈ runtime.state.activeStreams).Path start trace last →
        sid ∈ last.state.activeStreams →
        start.registry.streams.lookup sid = some streamHandle →
        last.registry.streams.lookup sid = some streamHandle) := by
  constructor
  · intro before after label step
    constructor
    · intro keeps duplicate
      exact not_keepsHandles_of_duplicate step duplicate keeps
    · exact keepsHandles_of_not_duplicate step
  · intro start last trace sid streamHandle path
    induction path with
    | done runtime => exact fun _ registered => registered
    | @step before after last label trace step later ih =>
        intro lastActive registered
        apply ih lastActive
        have nextActive : sid ∈ after.state.activeStreams := by
          cases later with
          | done runtime => exact lastActive
          | step next _ => exact next.2
        exact keepsHandles_of_not_duplicate step.1.1 step.1.2 sid streamHandle step.2 nextActive
          registered

theorem reachable_processMessage {sessionHash : Nat → Nat → Nat}
    {runtime : GatewayRuntime WId SId SubId WH SH SubH}
    {message : RuntimeMessage WId SId SubId WH SH SubH}
    (reachable : (runtimeSystem sessionHash).Reachable runtime)
    (fresh : message.DrawsFresh runtime) :
    (runtimeSystem sessionHash).Reachable
      (GatewayRuntime.processMessage sessionHash runtime message).1 := by
  obtain ⟨trace, run⟩ := reachable
  have step : (runtimeSystem sessionHash).step runtime
      (message, (GatewayRuntime.processMessage sessionHash runtime message).2)
      (GatewayRuntime.processMessage sessionHash runtime message).1 :=
    ⟨fresh, runtime.state, GatewayState.Reorder.refl _, rfl⟩
  exact ⟨_, run.step step⟩

end System

/-- A runtime with worker 1 behind handle 10 and stream 7 behind handle 20. -/
def registeredRuntime : GatewayRuntime Nat Nat Nat Nat Nat Nat :=
  (GatewayRuntime.processMessage (fun _ _ => 0)
    (GatewayRuntime.processMessage (fun _ _ => 0)
      (GatewayRuntime.new Nat Nat Nat Nat Nat Nat 0 60 30 30)
      (.command (.registerWorker 10 {.chat} 1))).1
    (.command (.registerStream 20 7))).1

/-- A request on stream 7. -/
def chatRequest : RuntimeMessage Nat Nat Nat Nat Nat Nat :=
  .command (.httpChatRequested 7 .null true .chat)

/-- The runtime with the request on stream 7 handed to worker 1. -/
def assignedRuntime : GatewayRuntime Nat Nat Nat Nat Nat Nat :=
  (GatewayRuntime.processMessage (fun _ _ => 0) registeredRuntime chatRequest).1

theorem registeredRuntime_reachable :
    (runtimeSystem fun _ _ => 0).Reachable registeredRuntime := by
  apply reachable_processMessage
  · apply reachable_processMessage
    · exact ⟨[], .start ⟨0, 60, 30, 30, rfl⟩⟩
    · exact ⟨by decide, by decide⟩
  · exact ⟨by decide, by decide⟩

theorem assignedRuntime_reachable : (runtimeSystem fun _ _ => 0).Reachable assignedRuntime :=
  reachable_processMessage registeredRuntime_reachable trivial

/-- The second request on stream 7 takes the handle of the first one. -/
theorem duplicate_request_takes_handle :
    ¬ ∀ (before after : GatewayRuntime Nat Nat Nat Nat Nat Nat) label,
      (runtimeSystem fun _ _ => 0).Reachable before →
      (runtimeSystem fun _ _ => 0).step before label after → KeepsHandles before after := by
  intro claim
  have keeps := claim assignedRuntime
    (GatewayRuntime.processMessage (fun _ _ => 0) assignedRuntime chatRequest).1
    (chatRequest, (GatewayRuntime.processMessage (fun _ _ => 0) assignedRuntime chatRequest).2)
    assignedRuntime_reachable ⟨trivial, assignedRuntime.state, GatewayState.Reorder.refl _, rfl⟩
  exact absurd (keeps 7 20 (by decide) (by decide) (by decide)) (by decide)

/-- The first request on stream 7 keeps the handle. -/
theorem first_request_keeps_handle :
    KeepsHandles registeredRuntime assignedRuntime ∧
      ((7 : Nat) ∈ assignedRuntime.state.activeStreams ∧
        assignedRuntime.registry.streams.lookup 7 = some 20) := by
  constructor
  · apply ((runtime_keeps_handles_iff fun _ _ => 0).1 registeredRuntime assignedRuntime
      (chatRequest, (GatewayRuntime.processMessage (fun _ _ => 0) registeredRuntime chatRequest).2)
      ⟨trivial, registeredRuntime.state, GatewayState.Reorder.refl _, rfl⟩).mpr
    intro duplicate
    obtain ⟨sid, payload, stream, capability, ⟨active, registered⟩, request⟩ := duplicate
    have idle : registeredRuntime.state.activeStreams = ∅ := by rfl
    rw [idle] at active
    exact AList.notMem_empty sid active
  · exact ⟨by decide, by decide⟩

end ProstheticConscience.Gateway
