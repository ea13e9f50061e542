/-
Module: ProstheticConscience.Gateway.Runtime
Purpose: The gateway runtime: the kernel state together with the registry of channel handles.  A
  message runs the kernel, and the effects it emits are resolved to handles.  Ids are drawn at
  random by the registry; a drawn id is an argument of the command that registers a handle, and
  the transition system asks that it is not in use.
Trusted boundary: none
Main exports: ChannelRegistry, GatewayRuntime, RuntimeCommand, RuntimeMessage, resolveEffects,
  processMessage, runtimeSystem
-/
import ProstheticConscience.Gateway.StreamAccounting

namespace ProstheticConscience.Gateway

/-- The handles of workers, client streams and session subscribers. -/
structure ChannelRegistry (WId SId SubId WH SH SubH : Type) where
  workers : AssocMap WId WH
  streams : AssocMap SId SH
  subscribers : AssocMap SubId SubH

/-- What a command answers on its reply channel. -/
structure SessionEntriesQuery where
  entries : List Value
  total : Nat
deriving DecidableEq, Repr

structure SessionSubscription (SubId : Type) where
  subscriberId : SubId
  latestEntryIndex : Option Nat
deriving DecidableEq, Repr

structure StateSnapshot where
  tick : Nat
  availableWorkers : Nat
  activeStreams : Nat
  workerRegistryCount : Nat
  streamRegistryCount : Nat
  subscriberRegistryCount : Nat
deriving DecidableEq, Repr

inductive Reply (WId SId SubId : Type) where
  | workerId (workerId : WId)
  | clientStreamId (clientStreamId : SId)
  | subscriberId (subscriberId : SubId)
  | subscription (subscription : SessionSubscription SubId)
  | snapshot (snapshot : StateSnapshot)
  | entries (entries : Option SessionEntriesQuery)
deriving DecidableEq, Repr

/-- Commands to the runtime.  A command that registers a handle carries the id that is drawn for
it. -/
inductive RuntimeCommand (WId SId SubId WH SH SubH : Type) where
  | registerWorker (handle : WH) (capabilities : Finset Capability) (drawn : WId)
  | workerHeartbeat (workerId : WId)
  | assignmentCleared (clientStreamId : SId)
  | assignmentFailed (clientStreamId : SId) (message : String)
  | streamHeartbeat (clientStreamId : SId)
  | registerStream (handle : SH) (drawn : SId)
  | httpChatRequested (clientStreamId : SId) (payload : Value) (stream : Bool)
      (requiredCapability : Capability)
  | queryState
  | querySessionEntries (sessionId : SessionId) (start limit : Nat)
  | sessionCreate (handle : SubH) (drawn : SubId)
  | sessionSubscribe (sessionId : SessionId) (handle : SubH) (drawn : SubId)
  | sessionAppendEntry (sessionId : SessionId) (payload : Value)
  | sessionSubscriberHeartbeat (sessionId : SessionId) (subscriberId : SubId)
  | sessionUnsubscribe (sessionId : SessionId) (subscriberId : SubId)

inductive RuntimeMessage (WId SId SubId WH SH SubH : Type) where
  | command (command : RuntimeCommand WId SId SubId WH SH SubH)
  | event (event : Event WId SId SubId)

structure GatewayRuntime (WId SId SubId WH SH SubH : Type) where
  state : GatewayState WId SId SubId
  registry : ChannelRegistry WId SId SubId WH SH SubH

/-- An effect whose worker, stream and subscribers are replaced by their handles. -/
abbrev ResolvedEffect (SId SubId WH SH SubH : Type) := Effect WH (SId × SH) (SubId × SubH)

/-- What a handler leaves behind: the runtime, the kernel's effects and the answer, if any. -/
structure Handled (WId SId SubId WH SH SubH : Type) where
  runtime : GatewayRuntime WId SId SubId WH SH SubH
  effects : List (Effect WId SId SubId)
  reply : Option (Reply WId SId SubId)

/-- The state of the loop over the effects of one message. -/
structure Resolution (WId SId SubId WH SH SubH : Type) where
  registry : ChannelRegistry WId SId SubId WH SH SubH
  resolved : List (ResolvedEffect SId SubId WH SH SubH)
  fallbacks : List (Event WId SId SubId)

/-- What one message puts out: effects to execute, events the runtime sends itself, an answer. -/
structure RuntimeOutput (WId SId SubId WH SH SubH : Type) where
  resolved : List (ResolvedEffect SId SubId WH SH SubH)
  fallbacks : List (Event WId SId SubId)
  reply : Option (Reply WId SId SubId)

variable {WId SId SubId WH SH SubH : Type}

namespace ChannelRegistry

def new (WId SId SubId WH SH SubH : Type) : ChannelRegistry WId SId SubId WH SH SubH where
  workers := ∅
  streams := ∅
  subscribers := ∅

section Workers

variable [DecidableEq WId]

def registerWorker (registry : ChannelRegistry WId SId SubId WH SH SubH) (handle : WH)
    (drawn : WId) : ChannelRegistry WId SId SubId WH SH SubH :=
  { registry with workers := registry.workers.update drawn handle }

/-- Remove and return the worker handle: the handle is gone after this. -/
def takeWorker (registry : ChannelRegistry WId SId SubId WH SH SubH) (workerId : WId) :
    Option WH × ChannelRegistry WId SId SubId WH SH SubH :=
  (registry.workers.lookup workerId, { registry with workers := registry.workers.erase workerId })

end Workers

section Streams

variable [DecidableEq SId]

def registerStream (registry : ChannelRegistry WId SId SubId WH SH SubH) (handle : SH)
    (drawn : SId) : ChannelRegistry WId SId SubId WH SH SubH :=
  { registry with streams := registry.streams.update drawn handle }

def cloneStream (registry : ChannelRegistry WId SId SubId WH SH SubH) (streamId : SId) :
    Option SH :=
  registry.streams.lookup streamId

/-- Remove and return the stream handle.  Used for terminal effects. -/
def takeStream (registry : ChannelRegistry WId SId SubId WH SH SubH) (streamId : SId) :
    Option SH × ChannelRegistry WId SId SubId WH SH SubH :=
  (registry.streams.lookup streamId, { registry with streams := registry.streams.erase streamId })

end Streams

section Subscribers

variable [DecidableEq SubId]

def registerSubscriber (registry : ChannelRegistry WId SId SubId WH SH SubH) (handle : SubH)
    (drawn : SubId) : ChannelRegistry WId SId SubId WH SH SubH :=
  { registry with subscribers := registry.subscribers.update drawn handle }

def cloneSubscriber (registry : ChannelRegistry WId SId SubId WH SH SubH) (subscriberId : SubId) :
    Option SubH :=
  registry.subscribers.lookup subscriberId

/-- Remove and return the subscriber handle.  Used for terminal effects. -/
def takeSubscriber (registry : ChannelRegistry WId SId SubId WH SH SubH) (subscriberId : SubId) :
    Option SubH × ChannelRegistry WId SId SubId WH SH SubH :=
  (registry.subscribers.lookup subscriberId,
    { registry with subscribers := registry.subscribers.erase subscriberId })

end Subscribers

def workerCount (registry : ChannelRegistry WId SId SubId WH SH SubH) : Nat :=
  registry.workers.entries.length

def streamCount (registry : ChannelRegistry WId SId SubId WH SH SubH) : Nat :=
  registry.streams.entries.length

def subscriberCount (registry : ChannelRegistry WId SId SubId WH SH SubH) : Nat :=
  registry.subscribers.entries.length

end ChannelRegistry

/-! ### Resolving effects -/

section Resolve

variable [DecidableEq WId] [DecidableEq SId] [DecidableEq SubId]

/-- One round of the loop: look the handles of an effect up and append the resolved effect, or
report a dispatch that cannot be made. -/
def resolveEffect (acc : Resolution WId SId SubId WH SH SubH) :
    Effect WId SId SubId → Resolution WId SId SubId WH SH SubH
  | .dispatchJob { workerId, clientStreamId, capability, payload } =>
      match acc.registry.takeWorker workerId with
      | (none, registry) =>
          { acc with
            registry
            fallbacks :=
              acc.fallbacks ++ [.assignmentFailed clientStreamId "worker handle not found"] }
      | (some workerHandle, registry) =>
          match registry.cloneStream clientStreamId with
          | none =>
              { acc with
                registry
                fallbacks :=
                  acc.fallbacks ++ [.assignmentFailed clientStreamId "stream handle not found"] }
          | some streamHandle =>
              { acc with
                registry
                resolved :=
                  acc.resolved ++
                    [.dispatchJob
                      { workerId := workerHandle
                        clientStreamId := (clientStreamId, streamHandle)
                        capability
                        payload }] }
  | .sendClientError { clientStreamId, message } =>
      match acc.registry.cloneStream clientStreamId with
      | some streamHandle =>
          { acc with
            resolved :=
              acc.resolved ++
                [.sendClientError { clientStreamId := (clientStreamId, streamHandle), message }] }
      | none => acc
  | .sendClientDone { clientStreamId } =>
      match acc.registry.takeStream clientStreamId with
      | (some streamHandle, registry) =>
          { acc with
            registry
            resolved :=
              acc.resolved ++
                [.sendClientDone { clientStreamId := (clientStreamId, streamHandle) }] }
      | (none, _) => acc
  | .protocolViolation violation =>
      { acc with resolved := acc.resolved ++ [.protocolViolation violation] }
  | .sessionCreated sessionId subscriberId =>
      match acc.registry.cloneSubscriber subscriberId with
      | some handle =>
          { acc with
            resolved := acc.resolved ++ [.sessionCreated sessionId (subscriberId, handle)] }
      | none => acc
  | .sessionExpired sessionId entries =>
      { acc with resolved := acc.resolved ++ [.sessionExpired sessionId entries] }
  | .sessionEffect (.notifySubscribers entryIndex payload subscribers) =>
      let resolvedSubscribers := subscribers.filterMap fun sid =>
        (acc.registry.cloneSubscriber sid).map fun handle => (sid, handle)
      if resolvedSubscribers.isEmpty then acc
      else
        { acc with
          resolved :=
            acc.resolved ++
              [.sessionEffect (.notifySubscribers entryIndex payload resolvedSubscribers)] }
  | .sessionEffect (.subscriberRemoved subscriberId) =>
      match acc.registry.takeSubscriber subscriberId with
      | (some handle, registry) =>
          { acc with
            registry
            resolved :=
              acc.resolved ++ [.sessionEffect (.subscriberRemoved (subscriberId, handle))] }
      | (none, _) => acc

def resolveEffects (registry : ChannelRegistry WId SId SubId WH SH SubH)
    (effects : List (Effect WId SId SubId)) : Resolution WId SId SubId WH SH SubH :=
  effects.foldl resolveEffect { registry, resolved := [], fallbacks := [] }

end Resolve

/-! ### Handlers -/

namespace GatewayRuntime

section Queries

variable (runtime : GatewayRuntime WId SId SubId WH SH SubH)

def queryEntries (sessionId : SessionId) (start limit : Nat) : Option SessionEntriesQuery :=
  (runtime.state.sessions.lookup sessionId).map fun session =>
    { entries := session.entries.slice start limit, total := session.entries.len }

/-- Registering a stream tells the kernel nothing. -/
def handleRegisterStream [DecidableEq SId] (streamHandle : SH) (drawn : SId) :
    Handled WId SId SubId WH SH SubH :=
  { runtime := { runtime with registry := runtime.registry.registerStream streamHandle drawn }
    effects := []
    reply := some (.clientStreamId drawn) }

end Queries

variable [LinearOrder WId] [DecidableEq SId] [DecidableEq SubId] [ToString WId] [ToString SId]
  (sessionHash : Nat → Nat → Nat) (runtime : GatewayRuntime WId SId SubId WH SH SubH)

def applyEvent (event : Event WId SId SubId) : Handled WId SId SubId WH SH SubH :=
  let transition := reduce sessionHash runtime.state event
  { runtime := { runtime with state := transition.state }
    effects := transition.effects
    reply := none }

/-- An event after a handle was registered, with an answer. -/
def applyRegistered (registry : ChannelRegistry WId SId SubId WH SH SubH)
    (event : Event WId SId SubId) (reply : Reply WId SId SubId) :
    Handled WId SId SubId WH SH SubH :=
  { applyEvent sessionHash { runtime with registry } event with reply := some reply }

def handleRegisterWorker (workerHandle : WH) (capabilities : Finset Capability) (drawn : WId) :
    Handled WId SId SubId WH SH SubH :=
  applyRegistered sessionHash runtime (runtime.registry.registerWorker workerHandle drawn)
    (.workerRegistered drawn capabilities) (.workerId drawn)

def handleWorkerHeartbeat (workerId : WId) : Handled WId SId SubId WH SH SubH :=
  applyEvent sessionHash runtime (.workerHeartbeat workerId)

def handleAssignmentCleared (clientStreamId : SId) : Handled WId SId SubId WH SH SubH :=
  applyEvent sessionHash runtime (.assignmentCleared clientStreamId)

def handleAssignmentFailed (clientStreamId : SId) (message : String) :
    Handled WId SId SubId WH SH SubH :=
  applyEvent sessionHash runtime (.assignmentFailed clientStreamId message)

def handleStreamHeartbeat (clientStreamId : SId) : Handled WId SId SubId WH SH SubH :=
  applyEvent sessionHash runtime (.streamHeartbeat clientStreamId)

def handleHttpChatRequested (clientStreamId : SId) (payload : Value) (stream : Bool)
    (requiredCapability : Capability) : Handled WId SId SubId WH SH SubH :=
  applyEvent sessionHash runtime
    (.httpChatRequested clientStreamId payload stream requiredCapability)

def handleSessionCreate (handle : SubH) (drawn : SubId) : Handled WId SId SubId WH SH SubH :=
  applyRegistered sessionHash runtime (runtime.registry.registerSubscriber handle drawn)
    (.sessionRequested drawn) (.subscriberId drawn)

/-- The answer tells the index of the last entry at the time of the subscription. -/
def handleSessionSubscribe (sessionId : SessionId) (handle : SubH) (drawn : SubId) :
    Handled WId SId SubId WH SH SubH :=
  let latestEntryIndex := (runtime.state.sessions.lookup sessionId).bind fun session =>
    if session.entries.len = 0 then none else some (session.entries.len - 1)
  applyRegistered sessionHash runtime (runtime.registry.registerSubscriber handle drawn)
    (.sessionEvent sessionId (.subscribed drawn runtime.state.tick))
    (.subscription { subscriberId := drawn, latestEntryIndex })

def handleSessionAppendEntry (sessionId : SessionId) (payload : Value) :
    Handled WId SId SubId WH SH SubH :=
  applyEvent sessionHash runtime (.sessionEvent sessionId (.entryAppended payload))

def handleSessionSubscriberHeartbeat (sessionId : SessionId) (subscriberId : SubId) :
    Handled WId SId SubId WH SH SubH :=
  applyEvent sessionHash runtime
    (.sessionEvent sessionId (.subscriberHeartbeat subscriberId runtime.state.tick))

def handleSessionUnsubscribe (sessionId : SessionId) (subscriberId : SubId) :
    Handled WId SId SubId WH SH SubH :=
  applyEvent sessionHash runtime (.sessionEvent sessionId (.unsubscribed subscriberId))

omit [LinearOrder WId] [DecidableEq SId] [DecidableEq SubId] [ToString WId] [ToString SId] in
def snapshot : StateSnapshot where
  tick := runtime.state.tick
  availableWorkers := runtime.state.available.entries.length
  activeStreams := runtime.state.activeStreams.entries.length
  workerRegistryCount := runtime.registry.workerCount
  streamRegistryCount := runtime.registry.streamCount
  subscriberRegistryCount := runtime.registry.subscriberCount

def handleCommand : RuntimeCommand WId SId SubId WH SH SubH → Handled WId SId SubId WH SH SubH
  | .registerWorker handle capabilities drawn =>
      handleRegisterWorker sessionHash runtime handle capabilities drawn
  | .workerHeartbeat workerId => handleWorkerHeartbeat sessionHash runtime workerId
  | .assignmentCleared clientStreamId => handleAssignmentCleared sessionHash runtime clientStreamId
  | .assignmentFailed clientStreamId message =>
      handleAssignmentFailed sessionHash runtime clientStreamId message
  | .streamHeartbeat clientStreamId => handleStreamHeartbeat sessionHash runtime clientStreamId
  | .registerStream handle drawn => handleRegisterStream runtime handle drawn
  | .httpChatRequested clientStreamId payload stream requiredCapability =>
      handleHttpChatRequested sessionHash runtime clientStreamId payload stream requiredCapability
  | .queryState => { runtime, effects := [], reply := some (.snapshot runtime.snapshot) }
  | .querySessionEntries sessionId start limit =>
      { runtime
        effects := []
        reply := some (.entries (runtime.queryEntries sessionId start limit)) }
  | .sessionCreate handle drawn => handleSessionCreate sessionHash runtime handle drawn
  | .sessionSubscribe sessionId handle drawn =>
      handleSessionSubscribe sessionHash runtime sessionId handle drawn
  | .sessionAppendEntry sessionId payload =>
      handleSessionAppendEntry sessionHash runtime sessionId payload
  | .sessionSubscriberHeartbeat sessionId subscriberId =>
      handleSessionSubscriberHeartbeat sessionHash runtime sessionId subscriberId
  | .sessionUnsubscribe sessionId subscriberId =>
      handleSessionUnsubscribe sessionHash runtime sessionId subscriberId

def handleMessage : RuntimeMessage WId SId SubId WH SH SubH → Handled WId SId SubId WH SH SubH
  | .command command => handleCommand sessionHash runtime command
  | .event event => applyEvent sessionHash runtime event

/-- Handle a message, then resolve the effects it emitted against the registry it left. -/
def processMessage (message : RuntimeMessage WId SId SubId WH SH SubH) :
    GatewayRuntime WId SId SubId WH SH SubH × RuntimeOutput WId SId SubId WH SH SubH :=
  let handled := handleMessage sessionHash runtime message
  let resolution := resolveEffects handled.runtime.registry handled.effects
  ({ handled.runtime with registry := resolution.registry },
    { resolved := resolution.resolved
      fallbacks := resolution.fallbacks
      reply := handled.reply })

end GatewayRuntime

/-! ### What a message amounts to

Every message is one event of the kernel, together with what it registers beforehand and the effects
that are resolved afterwards. -/

/-- The kernel event a message stands for, if it stands for one. -/
def RuntimeMessage.kernelEvent? (tick : Nat) :
    RuntimeMessage WId SId SubId WH SH SubH → Option (Event WId SId SubId)
  | .event occurred => some occurred
  | .command (.registerWorker _ capabilities drawn) => some (.workerRegistered drawn capabilities)
  | .command (.workerHeartbeat workerId) => some (.workerHeartbeat workerId)
  | .command (.assignmentCleared clientStreamId) => some (.assignmentCleared clientStreamId)
  | .command (.assignmentFailed clientStreamId message) =>
      some (.assignmentFailed clientStreamId message)
  | .command (.streamHeartbeat clientStreamId) => some (.streamHeartbeat clientStreamId)
  | .command (.registerStream _ _) => none
  | .command (.httpChatRequested clientStreamId payload stream requiredCapability) =>
      some (.httpChatRequested clientStreamId payload stream requiredCapability)
  | .command .queryState => none
  | .command (.querySessionEntries _ _ _) => none
  | .command (.sessionCreate _ drawn) => some (.sessionRequested drawn)
  | .command (.sessionSubscribe sessionId _ drawn) =>
      some (.sessionEvent sessionId (.subscribed drawn tick))
  | .command (.sessionAppendEntry sessionId payload) =>
      some (.sessionEvent sessionId (.entryAppended payload))
  | .command (.sessionSubscriberHeartbeat sessionId subscriberId) =>
      some (.sessionEvent sessionId (.subscriberHeartbeat subscriberId tick))
  | .command (.sessionUnsubscribe sessionId subscriberId) =>
      some (.sessionEvent sessionId (.unsubscribed subscriberId))

section Registered

variable [DecidableEq WId] [DecidableEq SId] [DecidableEq SubId]

/-- The registry with the handle a message registers. -/
def RuntimeMessage.register (registry : ChannelRegistry WId SId SubId WH SH SubH) :
    RuntimeMessage WId SId SubId WH SH SubH → ChannelRegistry WId SId SubId WH SH SubH
  | .command (.registerWorker handle _ drawn) => registry.registerWorker handle drawn
  | .command (.registerStream handle drawn) => registry.registerStream handle drawn
  | .command (.sessionCreate handle drawn) => registry.registerSubscriber handle drawn
  | .command (.sessionSubscribe _ handle drawn) => registry.registerSubscriber handle drawn
  | _ => registry

/-- The id a message draws is in use neither in the registry nor in the kernel. -/
def RuntimeMessage.DrawsFresh (runtime : GatewayRuntime WId SId SubId WH SH SubH) :
    RuntimeMessage WId SId SubId WH SH SubH → Prop
  | .command (.registerWorker _ _ drawn) =>
      drawn ∉ runtime.registry.workers ∧ drawn ∉ runtime.state.available
  | .command (.registerStream _ drawn) =>
      drawn ∉ runtime.registry.streams ∧ drawn ∉ runtime.state.activeStreams
  | .command (.sessionCreate _ drawn) => drawn ∉ runtime.registry.subscribers
  | .command (.sessionSubscribe _ _ drawn) => drawn ∉ runtime.registry.subscribers
  | _ => True

end Registered

section System

variable [LinearOrder WId] [DecidableEq SId] [DecidableEq SubId] [ToString WId] [ToString SId]

/-- What the kernel does with the event of a message, and nothing when there is none. -/
def kernelTurn (sessionHash : Nat → Nat → Nat) (state : GatewayState WId SId SubId) :
    Option (Event WId SId SubId) → Transition WId SId SubId
  | some event => reduce sessionHash state event
  | none => { state, effects := [] }

/-- Handling a message is registering its handle and running the kernel on its event. -/
theorem handleMessage_spec (sessionHash : Nat → Nat → Nat)
    (runtime : GatewayRuntime WId SId SubId WH SH SubH)
    (message : RuntimeMessage WId SId SubId WH SH SubH) :
    let turn := kernelTurn sessionHash runtime.state (message.kernelEvent? runtime.state.tick)
    let handled := GatewayRuntime.handleMessage sessionHash runtime message
    handled.runtime.state = turn.state ∧
      handled.runtime.registry = message.register runtime.registry ∧
      handled.effects = turn.effects := by
  cases message with
  | event occurred => exact ⟨rfl, rfl, rfl⟩
  | command command => cases command <;> exact ⟨rfl, rfl, rfl⟩

/-- What processing a message does, in terms of the kernel's turn and the effect loop. -/
theorem processMessage_spec (sessionHash : Nat → Nat → Nat)
    (runtime : GatewayRuntime WId SId SubId WH SH SubH)
    (message : RuntimeMessage WId SId SubId WH SH SubH) :
    let turn := kernelTurn sessionHash runtime.state (message.kernelEvent? runtime.state.tick)
    let resolution := resolveEffects (message.register runtime.registry) turn.effects
    let processed := GatewayRuntime.processMessage sessionHash runtime message
    processed.1.state = turn.state ∧
      processed.1.registry = resolution.registry ∧
      processed.2.resolved = resolution.resolved ∧
      processed.2.fallbacks = resolution.fallbacks := by
  obtain ⟨stateEq, registryEq, effectsEq⟩ := handleMessage_spec sessionHash runtime message
  simp only [GatewayRuntime.processMessage]
  rw [registryEq, effectsEq]
  exact ⟨stateEq, rfl, rfl, rfl⟩

/-- A fresh runtime. -/
def GatewayRuntime.new (WId SId SubId WH SH SubH : Type)
    (runtimeId workerTtl streamTtl subscriberTtl : Nat) :
    GatewayRuntime WId SId SubId WH SH SubH where
  state := GatewayState.new WId SId SubId runtimeId workerTtl streamTtl subscriberTtl
  registry := ChannelRegistry.new WId SId SubId WH SH SubH

/-- The runtime as a transition system: any message may come next.  The maps of the kernel may be
reordered before it; the maps of the registry are never iterated. -/
def runtimeSystem (sessionHash : Nat → Nat → Nat) :
    TransitionSystem (GatewayRuntime WId SId SubId WH SH SubH)
      (RuntimeMessage WId SId SubId WH SH SubH × RuntimeOutput WId SId SubId WH SH SubH) where
  init runtime := ∃ runtimeId workerTtl streamTtl subscriberTtl,
    runtime =
      GatewayRuntime.new WId SId SubId WH SH SubH runtimeId workerTtl streamTtl subscriberTtl
  step before label after := label.1.DrawsFresh before ∧ ∃ shuffled,
    before.state.Reorder shuffled ∧
      GatewayRuntime.processMessage sessionHash { before with state := shuffled } label.1 =
        (after, label.2)

end System

end ProstheticConscience.Gateway
