/-
Module: ProstheticConscience.Gateway.StreamTokens
Purpose: The life of one client stream as tokens that the parts of the gateway hold: the pending
  registration, the pending request, the job, its verdict on the way to the kernel, and the
  kernel's terminal frames.  Every step moves tokens from one part to another.
Trusted boundary: none
Main exports: StreamToken, StreamingGateway.tokens, tokens_submit, exists_setPhase_tokens,
  exists_effectTask_tokens, tokens_fallsBack, exists_process_tokens
-/
import Mathlib.Tactic.Abel
import ProstheticConscience.Gateway.Streaming
import ProstheticConscience.Library.Holdings

namespace ProstheticConscience.Gateway

/-- What a part of the gateway may hold of the life of a stream. -/
inductive StreamToken where
  | registration (channel : Nat)
  | request
  /-- The job, with the sender of the client's channel, before its relay has returned. -/
  | running (channel : Nat)
  | cleared
  | failed (message : String)
  /-- Terminal frames of the kernel that are still to be put on the channel. -/
  | closing (frames : List (Nat × StreamFrame))
deriving DecidableEq, Repr

variable {WId SId SubId SubH : Type}

/-- The frames that are still to be put on the channel, as a token. -/
def closing? (frames : List (Nat × StreamFrame)) : Option StreamToken :=
  if frames.isEmpty then none else some (.closing frames)

/-- The frame that an effect puts on a channel. -/
def Effect.channelFrame? :
    ResolvedEffect SId SubId WorkerSlot Nat SubH → Option (Nat × StreamFrame)
  | .sendClientError { clientStreamId, message } => some (clientStreamId.2, .error message)
  | .sendClientDone { clientStreamId } => some (clientStreamId.2, .done)
  | _ => none

/-- The job that an effect hands to a worker handler. -/
def Effect.runningToken : ResolvedEffect SId SubId WorkerSlot Nat SubH → Multiset StreamToken
  | .dispatchJob { clientStreamId, .. } => {.running clientStreamId.2}
  | _ => 0

section Tokens

variable [DecidableEq SId] (sid : SId)

/-- A token of one stream, seen from another. -/
def ownToken (owner : SId) (token : StreamToken) : Multiset StreamToken :=
  if owner = sid then {token} else 0

def Event.tokens : Event WId SId SubId → Multiset StreamToken
  | .httpChatRequested clientStreamId _ _ _ => ownToken sid clientStreamId .request
  | .assignmentCleared clientStreamId => ownToken sid clientStreamId .cleared
  | .assignmentFailed clientStreamId message => ownToken sid clientStreamId (.failed message)
  | _ => 0

def RuntimeMessage.tokens :
    RuntimeMessage WId SId SubId WorkerSlot Nat SubH → Multiset StreamToken
  | .event occurred => occurred.tokens sid
  | .command (.registerStream channel drawn) => ownToken sid drawn (.registration channel)
  | .command (.httpChatRequested clientStreamId _ _ _) => ownToken sid clientStreamId .request
  | .command (.assignmentCleared clientStreamId) => ownToken sid clientStreamId .cleared
  | .command (.assignmentFailed clientStreamId message) =>
      ownToken sid clientStreamId (.failed message)
  | _ => 0

/-- The tokens of a task that executes effects. -/
def taskTokens (task : List (ResolvedEffect SId SubId WorkerSlot Nat SubH)) :
    Multiset StreamToken :=
  held Effect.runningToken (resolvedFor sid task) +
    heldBy (closing? ((resolvedFor sid task).filterMap Effect.channelFrame?))

/-- The verdict on a job that the outcome of its relay stands for. -/
def RelayOutcome.token? : RelayOutcome → Option StreamToken
  | .workerEnd => some .cleared
  | .workerError message => some (.failed message)
  | .workerDisconnected => some (.failed "worker disconnected during job")
  | .clientGone => none

def WorkerHandlerPhase.tokens : WorkerHandlerPhase SId → Multiset StreamToken
  | .waiting (some job) => ownToken sid job.clientStreamId (.running job.clientTx)
  | .relaying job => ownToken sid job.clientStreamId (.running job.clientTx)
  | .reporting clientStreamId outcome => if clientStreamId = sid then heldBy outcome.token? else 0
  | _ => 0

def StreamingGateway.tokens (gateway : StreamingGateway WId SId SubId SubH) :
    Multiset StreamToken :=
  held (fun message => message.tokens sid) gateway.inbox +
    held (taskTokens sid) gateway.effectTasks +
    held (held fun event => event.tokens sid) gateway.fallbackTasks +
    held (fun handler => handler.phase.tokens sid) gateway.handlers

end Tokens

section Moves

variable [DecidableEq SId] {sid : SId}

@[simp] theorem ownToken_self (token : StreamToken) : ownToken sid sid token = {token} :=
  if_pos rfl

theorem ownToken_other {owner : SId} (other : owner ≠ sid) (token : StreamToken) :
    ownToken sid owner token = 0 :=
  if_neg other

/-- A message with an event holds what the event holds. -/
theorem tokens_of_kernelEvent? {message : RuntimeMessage WId SId SubId WorkerSlot Nat SubH}
    {tick : Nat} {event : Event WId SId SubId} (occurs : message.kernelEvent? tick = some event) :
    message.tokens sid = event.tokens sid := by
  cases message with
  | event occurred =>
      obtain rfl := Option.some.inj occurs
      rfl
  | command command =>
      cases command with
      | registerStream channel drawn => cases occurs
      | queryState => cases occurs
      | querySessionEntries sessionId start limit => cases occurs
      | _ =>
          obtain rfl := Option.some.inj occurs
          rfl

/-- Heartbeats, ticks, queries and session messages hold nothing. -/
theorem tokens_foreign {message : RuntimeMessage WId SId SubId WorkerSlot Nat SubH}
    (foreign : message.isForeign = true) : message.tokens sid = 0 := by
  cases message with
  | event occurred =>
      cases occurred with
      | tick => rfl
      | _ => cases foreign
  | command command =>
      cases command with
      | registerStream channel drawn => cases foreign
      | httpChatRequested clientStreamId payload stream capability => cases foreign
      | assignmentCleared clientStreamId => cases foreign
      | assignmentFailed clientStreamId message => cases foreign
      | _ => rfl

/-- The report of an outcome holds the verdict that the worker handler held. -/
theorem tokens_report (clientStreamId : SId) (outcome : RelayOutcome) :
    (((outcome.report clientStreamId :
      Option (RuntimeMessage WId SId SubId WorkerSlot Nat SubH))).elim 0
        fun message => message.tokens sid) =
      if clientStreamId = sid then heldBy outcome.token? else 0 := by
  cases outcome <;> simp [RelayOutcome.report, RuntimeMessage.tokens, RelayOutcome.token?, ownToken]

variable (gateway : StreamingGateway WId SId SubId SubH)

theorem tokens_submit (message : RuntimeMessage WId SId SubId WorkerSlot Nat SubH) :
    (gateway.submit message).tokens sid = message.tokens sid + gateway.tokens sid := by
  simp only [StreamingGateway.tokens, StreamingGateway.submit, held_append, held_cons, held_nil,
    add_zero]
  abel

@[simp] theorem tokens_put (channel : Nat) (writer : FrameWriter) (frame : StreamFrame) :
    (gateway.put channel writer frame).tokens sid = gateway.tokens sid := rfl

variable {gateway}

/-- One worker handler and everything else. -/
theorem exists_setPhase_tokens {position : Nat} {handler : WorkerHandler SId}
    (found : gateway.handlers[position]? = some handler) (sid : SId) :
    ∃ others, gateway.tokens sid = handler.phase.tokens sid + others ∧
      ∀ exchanged : WorkerHandler SId,
        StreamingGateway.tokens sid
            { gateway with handlers := gateway.handlers.set position exchanged } =
          exchanged.phase.tokens sid + others := by
  refine ⟨held (fun message => message.tokens sid) gateway.inbox +
    held (taskTokens sid) gateway.effectTasks +
    held (held fun event => event.tokens sid) gateway.fallbackTasks +
    held (fun handler => handler.phase.tokens sid) (gateway.handlers.eraseIdx position), ?_, ?_⟩
  · rw [StreamingGateway.tokens, held_split _ found]
    abel
  · intro exchanged
    simp only [StreamingGateway.tokens]
    rw [held_set _ found]
    abel

/-- One task that executes effects, and everything else. -/
theorem exists_effectTask_tokens {task : Nat}
    {effects : List (ResolvedEffect SId SubId WorkerSlot Nat SubH)}
    (found : gateway.effectTasks[task]? = some effects) (sid : SId) :
    ∃ others, gateway.tokens sid = taskTokens sid effects + others ∧
      ∀ rest, StreamingGateway.tokens sid
          { gateway with effectTasks := gateway.effectTasks.set task rest } =
        taskTokens sid rest + others := by
  refine ⟨held (fun message => message.tokens sid) gateway.inbox +
    held (taskTokens sid) (gateway.effectTasks.eraseIdx task) +
    held (held fun event => event.tokens sid) gateway.fallbackTasks +
    held (fun handler => handler.phase.tokens sid) gateway.handlers, ?_, ?_⟩
  · rw [StreamingGateway.tokens, held_split _ found]
    abel
  · intro rest
    simp only [StreamingGateway.tokens]
    rw [held_set _ found]
    abel

/-- A task sends its next event to the runtime: the event holds what it held before. -/
theorem tokens_fallsBack {task : Nat} {event : Event WId SId SubId}
    {rest : List (Event WId SId SubId)}
    (found : gateway.fallbackTasks[task]? = some (event :: rest)) (sid : SId) :
    StreamingGateway.tokens sid
        (StreamingGateway.submit
          { gateway with fallbackTasks := gateway.fallbackTasks.set task rest } (.event event)) =
      gateway.tokens sid := by
  rw [tokens_submit]
  simp only [StreamingGateway.tokens, RuntimeMessage.tokens]
  rw [held_set _ found, held_split _ found, held_cons]
  abel

/-! ### Tasks that execute effects -/

theorem resolvedFor_cons (effect : ResolvedEffect SId SubId WorkerSlot Nat SubH)
    (rest : List (ResolvedEffect SId SubId WorkerSlot Nat SubH)) :
    resolvedFor sid (effect :: rest) = resolvedFor sid [effect] ++ resolvedFor sid rest :=
  resolvedFor_append sid [effect] rest

/-- An effect for another stream, or for none, holds nothing of this one. -/
theorem taskTokens_cons_other {effect : ResolvedEffect SId SubId WorkerSlot Nat SubH}
    (other : effect.clientStreamId?.map Prod.fst ≠ some sid)
    (rest : List (ResolvedEffect SId SubId WorkerSlot Nat SubH)) :
    taskTokens sid (effect :: rest) = taskTokens sid rest := by
  rw [taskTokens, resolvedFor_cons, resolvedFor_other other]
  rfl

theorem taskTokens_cons_dispatchJob (job : DispatchJob WorkerSlot (SId × Nat))
    (rest : List (ResolvedEffect SId SubId WorkerSlot Nat SubH)) (sid : SId) :
    taskTokens sid (.dispatchJob job :: rest) =
      ownToken sid job.clientStreamId.1 (.running job.clientStreamId.2) + taskTokens sid rest := by
  by_cases own : job.clientStreamId.1 = sid
  · rw [taskTokens, resolvedFor_cons, resolvedFor_own (by simp [own]), own, ownToken_self]
    simp only [List.singleton_append, held_cons, Effect.runningToken, add_assoc]
    rfl
  · rw [taskTokens_cons_other (by simp [own]), ownToken_other own, zero_add]

/-- The terminal frames of one task are put on the channel one after the other. -/
theorem exists_taskTokens_cons_frame {effect : ResolvedEffect SId SubId WorkerSlot Nat SubH}
    (own : effect.clientStreamId?.map Prod.fst = some sid) {frame : Nat × StreamFrame}
    (terminal : effect.channelFrame? = some frame)
    (rest : List (ResolvedEffect SId SubId WorkerSlot Nat SubH)) :
    ∃ frames others, taskTokens sid (effect :: rest) = {.closing (frame :: frames)} + others ∧
      taskTokens sid rest = heldBy (closing? frames) + others := by
  refine ⟨(resolvedFor sid rest).filterMap Effect.channelFrame?,
    held Effect.runningToken (resolvedFor sid rest), ?_, ?_⟩
  · have silent : effect.runningToken = 0 := by
      cases effect with
      | dispatchJob job => cases terminal
      | _ => rfl
    rw [taskTokens, resolvedFor_cons, resolvedFor_own own, List.singleton_append, held_cons, silent,
      List.filterMap_cons_some terminal, zero_add, add_comm]
    rfl
  · rw [taskTokens, add_comm]

/-- The tokens of a task for which the stream's effects are known. -/
theorem taskTokens_of_resolvedFor
    {task effects : List (ResolvedEffect SId SubId WorkerSlot Nat SubH)}
    (same : resolvedFor sid task = effects) :
    taskTokens sid task = held Effect.runningToken effects +
      heldBy (closing? (effects.filterMap Effect.channelFrame?)) := by
  rw [taskTokens, same]

/-! ### The runtime's own events -/

/-- The runtime sends itself nothing but failures. -/
theorem resolveEffects_fallbacks [DecidableEq WId] [DecidableEq SubId] {WH SH : Type}
    (registry : ChannelRegistry WId SId SubId WH SH SubH) (effects : List (Effect WId SId SubId)) :
    ∀ event ∈ (resolveEffects registry effects).fallbacks,
      ∃ clientStreamId message, event = .assignmentFailed clientStreamId message := by
  unfold resolveEffects
  refine List.foldlRecOn
    (motive := fun acc : Resolution WId SId SubId WH SH SubH => ∀ event ∈ acc.fallbacks,
      ∃ clientStreamId message, event = .assignmentFailed clientStreamId message)
    effects _ (by simp) ?_
  intro acc failures effect _ event member
  cases effect with
  | dispatchJob job =>
      obtain ⟨_, ⟨message, _, fallbacks⟩ | ⟨_, _, _, _, _, fallbacks⟩⟩ :=
        resolveEffect_dispatchJob acc job
      · rw [fallbacks] at member
        rcases List.mem_append.mp member with earlier | now
        · exact failures event earlier
        · exact ⟨_, _, List.mem_singleton.mp now⟩
      · rw [fallbacks] at member
        exact failures event member
  | sendClientError error =>
      rw [resolveEffect_sendClientError] at member
      exact failures event member
  | sendClientDone done =>
      rw [(resolveEffect_sendClientDone acc done).2.1] at member
      exact failures event member
  | protocolViolation violation => exact failures event member
  | sessionExpired sessionId entries => exact failures event member
  | sessionCreated sessionId subscriberId =>
      simp only [resolveEffect] at member
      split at member <;> exact failures event member
  | sessionEffect effect =>
      cases effect with
      | notifySubscribers entryIndex payload subscribers =>
          simp only [resolveEffect] at member
          split at member <;> exact failures event member
      | subscriberRemoved subscriberId =>
          simp only [resolveEffect] at member
          split at member <;> exact failures event member

/-- Failures that concern other streams hold nothing. -/
theorem held_fallbacks {fallbacks : List (Event WId SId SubId)}
    (failures : ∀ event ∈ fallbacks,
      ∃ clientStreamId message, event = .assignmentFailed clientStreamId message) :
    held (fun event => event.tokens sid) fallbacks =
      held (fun event => event.tokens sid) (fallbacksFor sid fallbacks) := by
  induction fallbacks with
  | nil => rfl
  | cons event rest ih =>
      obtain ⟨clientStreamId, message, rfl⟩ := failures event List.mem_cons_self
      rw [held_cons, ih fun other member => failures other (List.mem_cons_of_mem _ member)]
      by_cases own : clientStreamId = sid
      · subst own
        simp [fallbacksFor, Event.failedStream?]
      · simp [fallbacksFor, Event.failedStream?, own, Event.tokens, ownToken]

/-! ### Who holds terminal frames

The tasks that execute effects hold the frames that the kernel decided on; nothing else but a relay
writes to a client's channel. -/

section Closing

variable {frames : List (Nat × StreamFrame)}

theorem closing_notMem_ownToken {owner : SId} {token : StreamToken}
    (other : token ≠ .closing frames) : .closing frames ∉ ownToken sid owner token := by
  unfold ownToken
  split
  · simpa using other.symm
  · exact Multiset.notMem_zero _

theorem Event.closing_notMem (event : Event WId SId SubId) :
    .closing frames ∉ event.tokens sid := by
  cases event with
  | httpChatRequested clientStreamId payload stream capability =>
      exact closing_notMem_ownToken nofun
  | assignmentCleared clientStreamId => exact closing_notMem_ownToken nofun
  | assignmentFailed clientStreamId message => exact closing_notMem_ownToken nofun
  | _ => exact Multiset.notMem_zero _

theorem RuntimeMessage.closing_notMem
    (message : RuntimeMessage WId SId SubId WorkerSlot Nat SubH) :
    .closing frames ∉ message.tokens sid := by
  cases message with
  | event occurred => exact occurred.closing_notMem
  | command command =>
      cases command with
      | registerStream channel drawn => exact closing_notMem_ownToken nofun
      | httpChatRequested clientStreamId payload stream capability =>
          exact closing_notMem_ownToken nofun
      | assignmentCleared clientStreamId => exact closing_notMem_ownToken nofun
      | assignmentFailed clientStreamId message => exact closing_notMem_ownToken nofun
      | _ => exact Multiset.notMem_zero _

theorem WorkerHandlerPhase.closing_notMem (phase : WorkerHandlerPhase SId) :
    .closing frames ∉ phase.tokens sid := by
  cases phase with
  | waiting pendingJob =>
      cases pendingJob with
      | none => exact Multiset.notMem_zero _
      | some job => exact closing_notMem_ownToken nofun
  | relaying job => exact closing_notMem_ownToken nofun
  | reporting clientStreamId outcome =>
      rw [WorkerHandlerPhase.tokens]
      split
      · cases outcome <;> simp [RelayOutcome.token?]
      · exact Multiset.notMem_zero _
  | registering => exact Multiset.notMem_zero _
  | exited => exact Multiset.notMem_zero _

/-- Terminal frames that are still to be put on a channel are effects of a task. -/
theorem effects_of_closing {gateway : StreamingGateway WId SId SubId SubH}
    (member : .closing frames ∈ gateway.tokens sid) :
    ∃ task ∈ gateway.effectTasks, resolvedFor sid task ≠ [] := by
  simp only [StreamingGateway.tokens, Multiset.mem_add, mem_held] at member
  rcases member with
    ((⟨message, _, inMessage⟩ | ⟨task, inTasks, inTask⟩) | ⟨task, _, event, _, inEvent⟩) |
      ⟨handler, _, inHandler⟩
  · exact absurd inMessage message.closing_notMem
  · refine ⟨task, inTasks, ?_⟩
    intro nothing
    rw [taskTokens_of_resolvedFor nothing] at inTask
    exact absurd inTask (Multiset.notMem_zero _)
  · exact absurd inEvent event.closing_notMem
  · exact absurd inHandler handler.phase.closing_notMem

end Closing

end Moves

section Processing

variable [LinearOrder WId] [DecidableEq SId] [DecidableEq SubId] [ToString WId] [ToString SId]

/-- Processing a message passes its tokens on to the spawned tasks. -/
theorem exists_process_tokens (sessionHash : Nat → Nat → Nat)
    {gateway : StreamingGateway WId SId SubId SubH}
    {message : RuntimeMessage WId SId SubId WorkerSlot Nat SubH}
    {rest : List (RuntimeMessage WId SId SubId WorkerSlot Nat SubH)}
    (inbox : gateway.inbox = message :: rest) (sid : SId) :
    ∃ others, gateway.tokens sid = message.tokens sid + others ∧
      (gateway.process sessionHash message rest).tokens sid =
        taskTokens sid
            (GatewayRuntime.processMessage sessionHash gateway.runtime message).2.resolved +
          held (fun event => event.tokens sid)
            (fallbacksFor sid
              (GatewayRuntime.processMessage sessionHash gateway.runtime message).2.fallbacks) +
          others := by
  refine ⟨held (fun message => message.tokens sid) rest +
    held (taskTokens sid) gateway.effectTasks +
    held (held fun event => event.tokens sid) gateway.fallbackTasks +
    held (fun handler => handler.phase.tokens sid) gateway.handlers, ?_, ?_⟩
  · rw [StreamingGateway.tokens, inbox, held_cons]
    abel
  · have failures : ∀ event ∈
        (GatewayRuntime.processMessage sessionHash gateway.runtime message).2.fallbacks,
        ∃ clientStreamId message, event = .assignmentFailed clientStreamId message :=
      resolveEffects_fallbacks _ _
    rw [← held_fallbacks failures]
    simp only [StreamingGateway.tokens, StreamingGateway.process, held_append, held_cons, held_nil,
      add_zero]
    abel

end Processing

end ProstheticConscience.Gateway
