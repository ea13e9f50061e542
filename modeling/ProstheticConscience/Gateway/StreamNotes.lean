/-
Module: ProstheticConscience.Gateway.StreamNotes
Purpose: What the steps of a run tell of one stream: the worker messages that a relay read for it,
  the loss of its worker, a dispatch that failed, a request that was turned down, and the tick that
  expired it.  They settle what is relayed, and how the kernel may close the stream.
Trusted boundary: none
Main exports: StreamNote, StreamingGateway.note?, notes, JobEnd, relayed, Noted, ClosesWith
-/
import ProstheticConscience.Gateway.StreamTokens

namespace ProstheticConscience.Gateway

/-- What a step of a run may tell of a stream. -/
inductive StreamNote where
  /-- The relay of its job read a worker message. -/
  | read (message : WorkerMessage)
  /-- The relay of its job found the worker gone. -/
  | disconnected
  /-- Its request was accepted, but its job was handed to no worker. -/
  | undispatched (message : String)
  /-- Its request was turned down before dispatch. -/
  | rejected (message : String)
  /-- A tick passed its deadline. -/
  | expired
deriving DecidableEq, Repr

/-! ### Reading the notes off a run

A note is a function of the step alone: of the action, of the parts of the gateway that the action
is about, and of the tasks that the runtime spawned.  Nothing is added to the state of the
gateway. -/

/-- A step of the gateway, with the gateway before and after it. -/
abbrev RecordedStep (WId SId SubId SubH : Type) :=
  TransitionSystem.Step (StreamingGateway WId SId SubId SubH) (GatewayAction WId SId SubId SubH)

variable {WId SId SubId SubH : Type}

def Effect.errorMessage? : ResolvedEffect SId SubId WorkerSlot Nat SubH → Option String
  | .sendClientError { message, .. } => some message
  | _ => none

def Event.failureMessage? : Event WId SId SubId → Option String
  | .assignmentFailed _ message => some message
  | _ => none

/-- The stream whose job the relay of a worker handler is on. -/
def StreamingGateway.relayedStream? (gateway : StreamingGateway WId SId SubId SubH)
    (position : Nat) : Option SId :=
  match gateway.handlers[position]? with
  | some { phase := .relaying job, .. } => some job.clientStreamId
  | _ => none

/-- The stream whose job a task is about to send to a worker handler that no longer waits. -/
def StreamingGateway.undeliverable? (gateway : StreamingGateway WId SId SubId SubH) (task : Nat) :
    Option SId :=
  match gateway.effectTasks[task]? with
  | some (.dispatchJob job :: _) =>
      if (gateway.receiver job.workerId).isNone then some job.clientStreamId.1 else none
  | _ => none

section Notes

variable [DecidableEq SId] (sid : SId)

/-- What processing a message tells of a stream: the kernel's states before and after, and the tasks
spawned for the effects and for the runtime's own events. -/
def RuntimeMessage.note? [DecidableEq WId] [DecidableEq SubId]
    (before after : GatewayState WId SId SubId)
    (resolved : List (ResolvedEffect SId SubId WorkerSlot Nat SubH))
    (fallbacks : List (Event WId SId SubId))
    (message : RuntimeMessage WId SId SubId WorkerSlot Nat SubH) : Option StreamNote :=
  match message.kernelEvent? before.tick with
  | some .tick =>
      if sid ∈ before.activeStreams ∧ sid ∉ after.activeStreams then some .expired else none
  | some (.httpChatRequested clientStreamId _ _ _) =>
      if clientStreamId = sid then
        if sid ∈ after.activeStreams then
          ((fallbacksFor sid fallbacks).findSome? Event.failureMessage?).map .undispatched
        else ((resolvedFor sid resolved).findSome? Effect.errorMessage?).map .rejected
      else none
  | _ => none

/-- What a step of the gateway tells of a stream. -/
def StreamingGateway.note? [DecidableEq WId] [DecidableEq SubId]
    (before after : StreamingGateway WId SId SubId SubH) :
    GatewayAction WId SId SubId SubH → Option StreamNote
  | .handler position (.relays message) =>
      if before.relayedStream? position = some sid then some (.read message) else none
  | .handler position .losesWorker =>
      if before.relayedStream? position = some sid then some .disconnected else none
  | .executes task =>
      if before.undeliverable? task = some sid then
        some (.undispatched "worker channel closed before job dispatch")
      else none
  | .processes =>
      before.inbox.head?.bind fun message =>
        message.note? sid before.runtime.state after.runtime.state
          (after.effectTasks.getLast?.getD []) (after.fallbackTasks.getLast?.getD [])
  | _ => none

/-- What a run tells of a stream, in order. -/
def notes [DecidableEq WId] [DecidableEq SubId] (steps : List (RecordedStep WId SId SubId SubH)) :
    List StreamNote :=
  steps.filterMap fun taken => StreamingGateway.note? sid taken.before taken.after taken.label

variable {sid} [DecidableEq WId] [DecidableEq SubId]

theorem notes_concat (steps : List (RecordedStep WId SId SubId SubH))
    (taken : RecordedStep WId SId SubId SubH) :
    notes sid (steps ++ [taken]) =
      notes sid steps ++
        (StreamingGateway.note? sid taken.before taken.after taken.label).toList := by
  rw [notes, List.filterMap_append]
  cases noted : StreamingGateway.note? sid taken.before taken.after taken.label <;>
    simp [notes, noted]

/-- The iteration order of the kernel's maps shows in no note. -/
theorem StreamingGateway.note?_reorder {before after : StreamingGateway WId SId SubId SubH}
    {shuffled : GatewayState WId SId SubId} (reorder : before.runtime.state.Reorder shuffled)
    (action : GatewayAction WId SId SubId SubH) :
    StreamingGateway.note? sid { before with runtime := { before.runtime with state := shuffled } }
      after action = before.note? sid after action := by
  cases action with
  | processes =>
      simp only [StreamingGateway.note?, RuntimeMessage.note?, reorder.tick,
        reorder.mem_activeStreams]
  | handler position next => cases next <;> rfl
  | _ => rfl

end Notes

/-! ### How a job ended

The notes of a stream, apart from its expiry, are the chunks that were read for it and at most one
note that ends its job.  That note settles the relay's terminal frame, and the frames with which the
kernel closes the stream unless a tick came first. -/

/-- How the job of a stream ended. -/
inductive JobEnd where
  | unfinished
  | ended
  | failed (message : String)
  | disconnected
  | undispatched (message : String)
  | rejected (message : String)
deriving DecidableEq, Repr

namespace JobEnd

/-- The terminal frame of the relay. -/
def frames : JobEnd → List StreamFrame
  | ended => [.done]
  | failed message => [.error message]
  | _ => []

def notes : JobEnd → List StreamNote
  | unfinished => []
  | ended => [.read .end]
  | failed message => [.read (.error message)]
  | disconnected => [.disconnected]
  | undispatched message => [.undispatched message]
  | rejected message => [.rejected message]

/-- The failure that is reported to the kernel. -/
def failure? : JobEnd → Option String
  | failed message => some message
  | disconnected => some "worker disconnected during job"
  | undispatched message => some message
  | _ => none

end JobEnd

/-- The frames that a relay puts on the channel. -/
def relayed (chunks : List Value) (jobEnd : JobEnd) : List StreamFrame :=
  chunks.map .chunk ++ jobEnd.frames

theorem relayed_chunk (chunks : List Value) (data : Value) :
    relayed (chunks ++ [data]) .unfinished = relayed chunks .unfinished ++ [.chunk data] := by
  simp [relayed, JobEnd.frames]

theorem relayed_end (chunks : List Value) (jobEnd : JobEnd) :
    relayed chunks jobEnd = relayed chunks .unfinished ++ jobEnd.frames := by
  simp [relayed, JobEnd.frames]

/-- Apart from the expiry of the stream, these chunks were read for it, and its job ended so. -/
def Noted (notes : List StreamNote) (chunks : List Value) (jobEnd : JobEnd) : Prop :=
  notes.filter (fun note => note ≠ .expired) =
    chunks.map (fun data => .read (.chunk data)) ++ jobEnd.notes

instance (notes : List StreamNote) (chunks : List Value) (jobEnd : JobEnd) :
    Decidable (Noted notes chunks jobEnd) :=
  inferInstanceAs (Decidable (_ = _))

section Noted

variable {notes : List StreamNote} {chunks : List Value} {jobEnd : JobEnd}

/-- The relay reads a chunk. -/
theorem Noted.chunk (noted : Noted notes chunks .unfinished) (data : Value) :
    Noted (notes ++ [.read (.chunk data)]) (chunks ++ [data]) .unfinished := by
  rw [Noted, List.filter_append, noted]
  simp [JobEnd.notes]

/-- The job ends. -/
theorem Noted.ends (noted : Noted notes chunks .unfinished) (jobEnd : JobEnd) :
    Noted (notes ++ jobEnd.notes) chunks jobEnd := by
  have kept : jobEnd.notes.filter (fun note => note ≠ .expired) = jobEnd.notes := by
    cases jobEnd <;> rfl
  rw [Noted, List.filter_append, noted, kept]
  simp [JobEnd.notes]

/-- The end of a job is no expiry. -/
theorem JobEnd.expired_notMem (jobEnd : JobEnd) : .expired ∉ jobEnd.notes := by
  cases jobEnd <;> simp [JobEnd.notes]

/-- A tick expires the stream. -/
theorem Noted.expires (noted : Noted notes chunks jobEnd) :
    Noted (notes ++ [.expired]) chunks jobEnd := by
  rw [Noted, List.filter_append, noted]
  simp

end Noted

/-! ### The kernel's frames

What the kernel writes depends on how the job ended and on whether a tick expired the stream, and on
nothing else. -/

/-- The kernel's frames for a stream that timed out. -/
def timedOut : List StreamFrame := [.error "stream timed out", .done]

/-- The frames with which the kernel closes a stream: those that the end of its job calls for,
unless a tick expired it first. -/
inductive ClosesWith (expired : Prop) : JobEnd → List StreamFrame → Prop where
  | ended (inTime : ¬ expired) : ClosesWith expired .ended [.done]
  | failed (message : String) (inTime : ¬ expired) :
      ClosesWith expired (.failed message) [.error message, .done]
  | disconnected (inTime : ¬ expired) :
      ClosesWith expired .disconnected [.error "worker disconnected during job", .done]
  | undispatched (message : String) (inTime : ¬ expired) :
      ClosesWith expired (.undispatched message) [.error message, .done]
  | rejected (message : String) (inTime : ¬ expired) :
      ClosesWith expired (.rejected message) [.error message, .done]
  | expired (jobEnd : JobEnd) (expiry : expired) : ClosesWith expired jobEnd timedOut

section ClosesWith

variable {expired : Prop} {jobEnd : JobEnd} {final : List StreamFrame}

/-- A failure that reached the kernel in time closes the stream with an error. -/
theorem ClosesWith.of_failure {message : String} (failure : jobEnd.failure? = some message)
    (inTime : ¬ expired) : ClosesWith expired jobEnd [.error message, .done] := by
  cases jobEnd with
  | failed reported =>
      obtain rfl := Option.some.inj failure
      exact .failed reported inTime
  | disconnected =>
      obtain rfl := Option.some.inj failure
      exact .disconnected inTime
  | undispatched reported =>
      obtain rfl := Option.some.inj failure
      exact .undispatched reported inTime
  | unfinished => cases failure
  | ended => cases failure
  | rejected reported => cases failure

/-- A stream whose job did not end was closed by a tick. -/
theorem ClosesWith.of_unfinished (closes : ClosesWith expired .unfinished final) :
    expired ∧ final = timedOut := by
  cases closes with
  | expired _ expiry => exact ⟨expiry, rfl⟩

end ClosesWith

end ProstheticConscience.Gateway
