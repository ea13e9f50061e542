/-
Module: ProstheticConscience.Gateway.Streaming
Purpose: The gateway with everything that writes to a client's channel: the runtime and its message
  queue, the tasks that execute the effects of a message, the tasks that send the runtime's own
  events, the worker handlers with their relays, and the request handlers that open a channel,
  register it and request one completion.  Every send succeeds, and no stream id is drawn twice.
Trusted boundary: none
Main exports: Client, WorkerHandler, StreamingGateway, GatewayAction, gatewayStep, GatewayTurn,
  streamingSystem
-/
import ProstheticConscience.Gateway.HandleSafety
import ProstheticConscience.Gateway.Relay

namespace ProstheticConscience.Gateway

/-- Who puts a frame on a client's channel. -/
inductive FrameWriter where
  | relay
  | kernel
deriving DecidableEq, Repr

/-- A request handler: waiting for the id of its stream, about to request the completion, or reading
its channel. -/
inductive ClientPhase where
  | registering
  | registered
  | requested
deriving DecidableEq, Repr

/-- A request handler with the id of its stream and all frames that were put on its channel. -/
structure Client (SId : Type) where
  clientStreamId : SId
  phase : ClientPhase
  channel : List (FrameWriter × StreamFrame)
deriving DecidableEq, Repr

/-- A job on its way to a worker; the sender of the client's channel is the number of its request
handler. -/
structure WorkerJob (SId : Type) where
  clientStreamId : SId
  capability : Capability
  payload : Value
  clientTx : Nat
deriving DecidableEq, Repr

/-- The worker handler: waiting with what its oneshot channel holds, relaying a job, about to report
the outcome of a relay, about to register again, or left. -/
inductive WorkerHandlerPhase (SId : Type) where
  | waiting (pendingJob : Option (WorkerJob SId))
  | relaying (job : WorkerJob SId)
  | reporting (clientStreamId : SId) (outcome : RelayOutcome)
  | registering
  | exited
deriving DecidableEq, Repr

structure WorkerHandler (SId : Type) where
  capabilities : Finset Capability
  /-- Numbers the oneshot channels of the handler. -/
  registration : Nat
  phase : WorkerHandlerPhase SId
deriving DecidableEq

/-- The sender of a oneshot channel of a worker handler. -/
structure WorkerSlot where
  handler : Nat
  registration : Nat
deriving DecidableEq, Repr

structure StreamingGateway (WId SId SubId SubH : Type) where
  runtime : GatewayRuntime WId SId SubId WorkerSlot Nat SubH
  inbox : List (RuntimeMessage WId SId SubId WorkerSlot Nat SubH)
  effectTasks : List (List (ResolvedEffect SId SubId WorkerSlot Nat SubH))
  fallbackTasks : List (List (Event WId SId SubId))
  handlers : List (WorkerHandler SId)
  clients : List (Client SId)

/-- What a worker handler does next. -/
inductive HandlerAction (WId : Type) where
  /-- It takes the pending job and sends the job frame, which may fail. -/
  | takesJob (accepted : Bool)
  /-- It finds the websocket or its oneshot channel closed, or cannot send a heartbeat. -/
  | leaves
  | relays (message : WorkerMessage)
  | losesWorker
  | reports
  | registers (drawn : WId)

inductive GatewayAction (WId SId SubId SubH : Type) where
  /-- A request handler opens a channel and submits its registration. -/
  | connects (drawn : SId)
  | requests (channel : Nat) (payload : Value) (stream : Bool) (capability : Capability)
  /-- A message that concerns the life of no stream. -/
  | submits (message : RuntimeMessage WId SId SubId WorkerSlot Nat SubH)
  | processes
  | executes (task : Nat)
  | fallsBack (task : Nat)
  | workerConnects (capabilities : Finset Capability) (drawn : WId)
  | handler (position : Nat) (action : HandlerAction WId)

variable {WId SId SubId SubH : Type}

/-- Heartbeats, ticks, queries and the messages of sessions. -/
def RuntimeMessage.isForeign : RuntimeMessage WId SId SubId WorkerSlot Nat SubH → Bool
  | .event .tick => true
  | .event _ => false
  | .command (.registerWorker _ _ _) => false
  | .command (.registerStream _ _) => false
  | .command (.httpChatRequested _ _ _ _) => false
  | .command (.assignmentCleared _) => false
  | .command (.assignmentFailed _ _) => false
  | .command _ => true

instance [DecidableEq WId] [DecidableEq SId] [DecidableEq SubId]
    (runtime : GatewayRuntime WId SId SubId WorkerSlot Nat SubH) :
    (message : RuntimeMessage WId SId SubId WorkerSlot Nat SubH) →
      Decidable (message.DrawsFresh runtime)
  | .event _ => inferInstanceAs (Decidable True)
  | .command (.registerWorker _ _ drawn) =>
      inferInstanceAs
        (Decidable (drawn ∉ runtime.registry.workers ∧ drawn ∉ runtime.state.available))
  | .command (.registerStream _ drawn) =>
      inferInstanceAs
        (Decidable (drawn ∉ runtime.registry.streams ∧ drawn ∉ runtime.state.activeStreams))
  | .command (.sessionCreate _ drawn) =>
      inferInstanceAs (Decidable (drawn ∉ runtime.registry.subscribers))
  | .command (.sessionSubscribe _ _ drawn) =>
      inferInstanceAs (Decidable (drawn ∉ runtime.registry.subscribers))
  | .command (.workerHeartbeat _) => inferInstanceAs (Decidable True)
  | .command (.assignmentCleared _) => inferInstanceAs (Decidable True)
  | .command (.assignmentFailed _ _) => inferInstanceAs (Decidable True)
  | .command (.streamHeartbeat _) => inferInstanceAs (Decidable True)
  | .command (.httpChatRequested _ _ _ _) => inferInstanceAs (Decidable True)
  | .command .queryState => inferInstanceAs (Decidable True)
  | .command (.querySessionEntries _ _ _) => inferInstanceAs (Decidable True)
  | .command (.sessionAppendEntry _ _) => inferInstanceAs (Decidable True)
  | .command (.sessionSubscriberHeartbeat _ _) => inferInstanceAs (Decidable True)
  | .command (.sessionUnsubscribe _ _) => inferInstanceAs (Decidable True)

namespace StreamingGateway

/-- A fresh gateway. -/
def new (WId SId SubId SubH : Type) (runtimeId workerTtl streamTtl subscriberTtl : Nat) :
    StreamingGateway WId SId SubId SubH where
  runtime :=
    GatewayRuntime.new WId SId SubId WorkerSlot Nat SubH runtimeId workerTtl streamTtl subscriberTtl
  inbox := []
  effectTasks := []
  fallbackTasks := []
  handlers := []
  clients := []

variable (gateway : StreamingGateway WId SId SubId SubH)

/-- A message is sent to the runtime. -/
def submit (message : RuntimeMessage WId SId SubId WorkerSlot Nat SubH) :
    StreamingGateway WId SId SubId SubH :=
  { gateway with inbox := gateway.inbox ++ [message] }

/-- A request handler opens a channel and asks for its registration. -/
def connect (drawn : SId) : StreamingGateway WId SId SubId SubH :=
  StreamingGateway.submit
    { gateway with
      clients :=
        gateway.clients ++ [{ clientStreamId := drawn, phase := .registering, channel := [] }] }
    (.command (.registerStream gateway.clients.length drawn))

/-- A registered request handler requests its completion. -/
def request (channel : Nat) (client : Client SId) (payload : Value) (stream : Bool)
    (capability : Capability) : StreamingGateway WId SId SubId SubH :=
  StreamingGateway.submit
    { gateway with clients := gateway.clients.set channel { client with phase := .requested } }
    (.command (.httpChatRequested client.clientStreamId payload stream capability))

/-- A frame is put on a client's channel. -/
def put (channel : Nat) (writer : FrameWriter) (frame : StreamFrame) :
    StreamingGateway WId SId SubId SubH :=
  { gateway with
    clients :=
      gateway.clients.modify channel fun client =>
        { client with channel := client.channel ++ [(writer, frame)] } }

/-- A worker connects; its handler registers it. -/
def workerConnect (capabilities : Finset Capability) (drawn : WId) :
    StreamingGateway WId SId SubId SubH :=
  StreamingGateway.submit
    { gateway with
      handlers :=
        gateway.handlers ++ [{ capabilities, registration := 0, phase := .waiting none }] }
    (.command
      (.registerWorker { handler := gateway.handlers.length, registration := 0 } capabilities
        drawn))

/-- The worker handler whose oneshot channel still waits for a job. -/
def receiver (slot : WorkerSlot) : Option (WorkerHandler SId) :=
  match gateway.handlers[slot.handler]? with
  | some handler =>
      match handler.phase with
      | .waiting none => if handler.registration = slot.registration then some handler else none
      | _ => none
  | none => none

def setPhase (position : Nat) (handler : WorkerHandler SId) (phase : WorkerHandlerPhase SId) :
    StreamingGateway WId SId SubId SubH :=
  { gateway with handlers := gateway.handlers.set position { handler with phase } }

/-- Send a job to a worker handler.  Without a receiver the failure is reported; the send and the
report are one step, as nothing can tell how much later the report comes. -/
def sendJob (slot : WorkerSlot) (job : WorkerJob SId) : StreamingGateway WId SId SubId SubH :=
  match gateway.receiver slot with
  | some handler => gateway.setPhase slot.handler handler (.waiting (some job))
  | none =>
      gateway.submit
        (.command
          (.assignmentFailed job.clientStreamId "worker channel closed before job dispatch"))

/-- Execute a resolved effect; those of sessions put nothing on a client's channel. -/
def execute :
    ResolvedEffect SId SubId WorkerSlot Nat SubH → StreamingGateway WId SId SubId SubH
  | .dispatchJob { workerId, clientStreamId, capability, payload } =>
      gateway.sendJob workerId
        { clientStreamId := clientStreamId.1, capability, payload, clientTx := clientStreamId.2 }
  | .sendClientError { clientStreamId, message } =>
      gateway.put clientStreamId.2 .kernel (.error message)
  | .sendClientDone { clientStreamId } => gateway.put clientStreamId.2 .kernel .done
  | _ => gateway

/-- The relay of a job reads a worker message. -/
def relay (position : Nat) (handler : WorkerHandler SId) (job : WorkerJob SId)
    (message : WorkerMessage) : StreamingGateway WId SId SubId SubH :=
  let turn := relayMessage true message
  let moved := gateway.setPhase position handler
    (match turn.outcome with
    | none => .relaying job
    | some outcome => .reporting job.clientStreamId outcome)
  match turn.sent with
  | some frame => moved.put job.clientTx .relay frame
  | none => moved

/-- The worker handler reports the outcome of a relay, and goes on or leaves. -/
def report (position : Nat) (handler : WorkerHandler SId) (clientStreamId : SId)
    (outcome : RelayOutcome) : StreamingGateway WId SId SubId SubH :=
  let moved :=
    gateway.setPhase position handler (if outcome.continues then .registering else .exited)
  match outcome.report clientStreamId with
  | some message => moved.submit message
  | none => moved

/-- The worker handler registers again, with a fresh oneshot channel. -/
def registerAgain (position : Nat) (handler : WorkerHandler SId) (drawn : WId) :
    StreamingGateway WId SId SubId SubH :=
  let registration := handler.registration + 1
  StreamingGateway.submit
    { gateway with
      handlers :=
        gateway.handlers.set position { handler with registration, phase := .waiting none } }
    (.command (.registerWorker { handler := position, registration } handler.capabilities drawn))

def handlerStep (position : Nat) (handler : WorkerHandler SId) :
    WorkerHandlerPhase SId → HandlerAction WId → Option (StreamingGateway WId SId SubId SubH)
  | .waiting (some job), .takesJob accepted =>
      some (gateway.setPhase position handler (if accepted then .relaying job else .exited))
  | .waiting _, .leaves => some (gateway.setPhase position handler .exited)
  | .relaying job, .relays message => some (gateway.relay position handler job message)
  | .relaying job, .losesWorker =>
      some
        (gateway.setPhase position handler (.reporting job.clientStreamId .workerDisconnected))
  | .reporting clientStreamId outcome, .reports =>
      some (gateway.report position handler clientStreamId outcome)
  | .registering, .registers drawn => some (gateway.registerAgain position handler drawn)
  | _, _ => none

end StreamingGateway

/-- The request handler whose registration was processed goes on. -/
def RuntimeMessage.acknowledge (clients : List (Client SId)) :
    RuntimeMessage WId SId SubId WorkerSlot Nat SubH → List (Client SId)
  | .command (.registerStream channel _) =>
      clients.modify channel fun client => { client with phase := .registered }
  | _ => clients

section Steps

variable [LinearOrder WId] [DecidableEq SId] [DecidableEq SubId] [ToString WId] [ToString SId]
  (sessionHash : Nat → Nat → Nat)

/-- The runtime processes a message and spawns the tasks for its effects and its own events.  A task
without effects or events does nothing, and is spawned all the same. -/
def StreamingGateway.process (gateway : StreamingGateway WId SId SubId SubH)
    (message : RuntimeMessage WId SId SubId WorkerSlot Nat SubH)
    (rest : List (RuntimeMessage WId SId SubId WorkerSlot Nat SubH)) :
    StreamingGateway WId SId SubId SubH :=
  let processed := GatewayRuntime.processMessage sessionHash gateway.runtime message
  { gateway with
    runtime := processed.1
    inbox := rest
    effectTasks := gateway.effectTasks ++ [processed.2.resolved]
    fallbackTasks := gateway.fallbackTasks ++ [processed.2.fallbacks]
    clients := message.acknowledge gateway.clients }

/-- One action; `none` when it is not possible. -/
def gatewayStep (gateway : StreamingGateway WId SId SubId SubH) :
    GatewayAction WId SId SubId SubH → Option (StreamingGateway WId SId SubId SubH)
  | .connects drawn =>
      if drawn ∈ gateway.clients.map (·.clientStreamId) then none
      else some (gateway.connect drawn)
  | .requests channel payload stream capability =>
      match gateway.clients[channel]? with
      | some client =>
          if client.phase = .registered then
            some (gateway.request channel client payload stream capability)
          else none
      | none => none
  | .submits message => if message.isForeign then some (gateway.submit message) else none
  | .processes =>
      match gateway.inbox with
      | message :: rest =>
          if message.DrawsFresh gateway.runtime then
            some (gateway.process sessionHash message rest)
          else none
      | [] => none
  | .executes task =>
      match gateway.effectTasks[task]? with
      | some (effect :: rest) =>
          some
            (StreamingGateway.execute
              { gateway with effectTasks := gateway.effectTasks.set task rest } effect)
      | _ => none
  | .fallsBack task =>
      match gateway.fallbackTasks[task]? with
      | some (event :: rest) =>
          some
            (StreamingGateway.submit
              { gateway with fallbackTasks := gateway.fallbackTasks.set task rest } (.event event))
      | _ => none
  | .workerConnects capabilities drawn => some (gateway.workerConnect capabilities drawn)
  | .handler position action =>
      match gateway.handlers[position]? with
      | some handler => gateway.handlerStep position handler handler.phase action
      | none => none

/-- What each action does when it is possible. -/
inductive GatewayTurn (before : StreamingGateway WId SId SubId SubH) :
    GatewayAction WId SId SubId SubH → StreamingGateway WId SId SubId SubH → Prop
  | connects (drawn : SId) (fresh : drawn ∉ before.clients.map (·.clientStreamId)) :
      GatewayTurn before (.connects drawn) (before.connect drawn)
  | requests (channel : Nat) (payload : Value) (stream : Bool) (capability : Capability)
      (client : Client SId) (found : before.clients[channel]? = some client)
      (registered : client.phase = .registered) :
      GatewayTurn before (.requests channel payload stream capability)
        (before.request channel client payload stream capability)
  | submits (message : RuntimeMessage WId SId SubId WorkerSlot Nat SubH)
      (foreign : message.isForeign = true) :
      GatewayTurn before (.submits message) (before.submit message)
  | processes (message : RuntimeMessage WId SId SubId WorkerSlot Nat SubH)
      (rest : List (RuntimeMessage WId SId SubId WorkerSlot Nat SubH))
      (inbox : before.inbox = message :: rest) (fresh : message.DrawsFresh before.runtime) :
      GatewayTurn before .processes (before.process sessionHash message rest)
  | executes (task : Nat) (effect : ResolvedEffect SId SubId WorkerSlot Nat SubH)
      (rest : List (ResolvedEffect SId SubId WorkerSlot Nat SubH))
      (found : before.effectTasks[task]? = some (effect :: rest)) :
      GatewayTurn before (.executes task)
        (StreamingGateway.execute
          { before with effectTasks := before.effectTasks.set task rest } effect)
  | fallsBack (task : Nat) (event : Event WId SId SubId) (rest : List (Event WId SId SubId))
      (found : before.fallbackTasks[task]? = some (event :: rest)) :
      GatewayTurn before (.fallsBack task)
        (StreamingGateway.submit
          { before with fallbackTasks := before.fallbackTasks.set task rest } (.event event))
  | workerConnects (capabilities : Finset Capability) (drawn : WId) :
      GatewayTurn before (.workerConnects capabilities drawn)
        (before.workerConnect capabilities drawn)
  | takesJob (position : Nat) (accepted : Bool) (handler : WorkerHandler SId) (job : WorkerJob SId)
      (found : before.handlers[position]? = some handler)
      (phase : handler.phase = .waiting (some job)) :
      GatewayTurn before (.handler position (.takesJob accepted))
        (before.setPhase position handler (if accepted then .relaying job else .exited))
  | leaves (position : Nat) (handler : WorkerHandler SId) (pendingJob : Option (WorkerJob SId))
      (found : before.handlers[position]? = some handler)
      (phase : handler.phase = .waiting pendingJob) :
      GatewayTurn before (.handler position .leaves) (before.setPhase position handler .exited)
  | relays (position : Nat) (message : WorkerMessage) (handler : WorkerHandler SId)
      (job : WorkerJob SId) (found : before.handlers[position]? = some handler)
      (phase : handler.phase = .relaying job) :
      GatewayTurn before (.handler position (.relays message))
        (before.relay position handler job message)
  | losesWorker (position : Nat) (handler : WorkerHandler SId) (job : WorkerJob SId)
      (found : before.handlers[position]? = some handler)
      (phase : handler.phase = .relaying job) :
      GatewayTurn before (.handler position .losesWorker)
        (before.setPhase position handler (.reporting job.clientStreamId .workerDisconnected))
  | reports (position : Nat) (handler : WorkerHandler SId) (clientStreamId : SId)
      (outcome : RelayOutcome) (found : before.handlers[position]? = some handler)
      (phase : handler.phase = .reporting clientStreamId outcome) :
      GatewayTurn before (.handler position .reports)
        (before.report position handler clientStreamId outcome)
  | registers (position : Nat) (drawn : WId) (handler : WorkerHandler SId)
      (found : before.handlers[position]? = some handler)
      (phase : handler.phase = .registering) :
      GatewayTurn before (.handler position (.registers drawn))
        (before.registerAgain position handler drawn)

omit [LinearOrder WId] [DecidableEq SId] [DecidableEq SubId] [ToString WId] [ToString SId] in
/-- The inversion of the handler's step: which phases an action applies to, and what becomes of the
gateway. -/
theorem handlerStep_cases {gateway after : StreamingGateway WId SId SubId SubH} {position : Nat}
    {handler : WorkerHandler SId} {phase : WorkerHandlerPhase SId} {action : HandlerAction WId}
    (step : gateway.handlerStep position handler phase action = some after) :
    (∃ job accepted, phase = .waiting (some job) ∧ action = .takesJob accepted ∧
        after = gateway.setPhase position handler (if accepted then .relaying job else .exited)) ∨
      (∃ pendingJob, phase = .waiting pendingJob ∧ action = .leaves ∧
        after = gateway.setPhase position handler .exited) ∨
      (∃ job message, phase = .relaying job ∧ action = .relays message ∧
        after = gateway.relay position handler job message) ∨
      (∃ job, phase = .relaying job ∧ action = .losesWorker ∧
        after =
          gateway.setPhase position handler (.reporting job.clientStreamId .workerDisconnected)) ∨
      (∃ clientStreamId outcome, phase = .reporting clientStreamId outcome ∧ action = .reports ∧
        after = gateway.report position handler clientStreamId outcome) ∨
      (∃ drawn, phase = .registering ∧ action = .registers drawn ∧
        after = gateway.registerAgain position handler drawn) := by
  unfold StreamingGateway.handlerStep at step
  split at step
  · exact .inl ⟨_, _, rfl, rfl, (Option.some.inj step).symm⟩
  · exact .inr (.inl ⟨_, rfl, rfl, (Option.some.inj step).symm⟩)
  · exact .inr (.inr (.inl ⟨_, _, rfl, rfl, (Option.some.inj step).symm⟩))
  · exact .inr (.inr (.inr (.inl ⟨_, rfl, rfl, (Option.some.inj step).symm⟩)))
  · exact .inr (.inr (.inr (.inr (.inl ⟨_, _, rfl, rfl, (Option.some.inj step).symm⟩))))
  · exact .inr (.inr (.inr (.inr (.inr ⟨_, rfl, rfl, (Option.some.inj step).symm⟩))))
  · cases step

/-- The inversion of the gateway's step: every action that applies is one of the turns of
`GatewayTurn`, from which the invariants are proved turn by turn. -/
theorem gatewayStep_turn {before after : StreamingGateway WId SId SubId SubH}
    {action : GatewayAction WId SId SubId SubH}
    (step : gatewayStep sessionHash before action = some after) :
    GatewayTurn sessionHash before action after := by
  cases action with
  | connects drawn =>
      simp only [gatewayStep] at step
      split at step
      · cases step
      · rename_i fresh
        obtain rfl := Option.some.inj step
        exact .connects drawn fresh
  | requests channel payload stream capability =>
      simp only [gatewayStep] at step
      split at step
      · split at step
        · obtain rfl := Option.some.inj step
          exact .requests _ _ _ _ _ ‹_› ‹_›
        · cases step
      · cases step
  | submits message =>
      simp only [gatewayStep] at step
      split at step
      · obtain rfl := Option.some.inj step
        exact .submits message ‹_›
      · cases step
  | processes =>
      simp only [gatewayStep] at step
      split at step
      · split at step
        · obtain rfl := Option.some.inj step
          exact .processes _ _ ‹_› ‹_›
        · cases step
      · cases step
  | executes task =>
      simp only [gatewayStep] at step
      split at step
      · obtain rfl := Option.some.inj step
        exact .executes task _ _ ‹_›
      · cases step
  | fallsBack task =>
      simp only [gatewayStep] at step
      split at step
      · obtain rfl := Option.some.inj step
        exact .fallsBack task _ _ ‹_›
      · cases step
  | workerConnects capabilities drawn =>
      obtain rfl := Option.some.inj step
      exact .workerConnects capabilities drawn
  | handler position action =>
      simp only [gatewayStep] at step
      split at step
      · rename_i handler found
        rcases handlerStep_cases step with ⟨job, accepted, phase, rfl, rfl⟩ |
          ⟨pendingJob, phase, rfl, rfl⟩ | ⟨job, message, phase, rfl, rfl⟩ | ⟨job, phase, rfl, rfl⟩ |
          ⟨clientStreamId, outcome, phase, rfl, rfl⟩ | ⟨drawn, phase, rfl, rfl⟩
        · exact .takesJob position accepted handler job found phase
        · exact .leaves position handler pendingJob found phase
        · exact .relays position message handler job found phase
        · exact .losesWorker position handler job found phase
        · exact .reports position handler clientStreamId outcome found phase
        · exact .registers position drawn handler found phase
      · cases step

/-- The gateway as a transition system.  The maps of the kernel may be reordered before a step. -/
def streamingSystem :
    TransitionSystem (StreamingGateway WId SId SubId SubH) (GatewayAction WId SId SubId SubH) where
  init gateway := ∃ runtimeId workerTtl streamTtl subscriberTtl,
    gateway = StreamingGateway.new WId SId SubId SubH runtimeId workerTtl streamTtl subscriberTtl
  step before action after := ∃ shuffled, before.runtime.state.Reorder shuffled ∧
    gatewayStep sessionHash { before with runtime := { before.runtime with state := shuffled } }
      action = some after

end Steps

end ProstheticConscience.Gateway
