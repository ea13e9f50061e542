/-
Module: ProstheticConscience.Gateway.ClientFrames
Purpose: The frames on a client's channel.  In every run the relay writes chunks and one terminal
  frame at most, and the kernel the terminal frames that agree with it; and unless a relay reads on
  after a tick expired its stream, the kernel's frames come after the relay's.
Trusted boundary: none
Main exports: StreamingGateway.Disciplined, GatewayTurn.disciplined, client_frames,
  worker_error_sent_twice
-/
import Mathlib.Data.Multiset.OrderedMonoid
import ProstheticConscience.Gateway.StreamLife

namespace ProstheticConscience.Gateway

variable {WId SId SubId SubH : Type} [DecidableEq SId]

/-- The life of the stream of a request handler, of which the run told the notes. -/
def StreamingGateway.Lives (gateway : StreamingGateway WId SId SubId SubH) (punctual : Prop)
    (notes : List StreamNote) (channel : Nat) (client : Client SId) : Prop :=
  Life punctual channel (gateway.tokens client.clientStreamId)
    (client.clientStreamId ∈ gateway.runtime.state.activeStreams)
    (gateway.runtime.registry.streams.lookup client.clientStreamId) client.phase notes
    client.channel

/-- An id that no request handler has drawn. -/
structure StreamingGateway.Unused (gateway : StreamingGateway WId SId SubId SubH)
    (notes : List StreamNote) (sid : SId) : Prop where
  untold : notes = []
  tokens : gateway.tokens sid = 0
  inactive : sid ∉ gateway.runtime.state.activeStreams
  handle : gateway.runtime.registry.streams.lookup sid = none

/-- Every request handler has a stream of its own, and every stream a life, as the run told. -/
structure StreamingGateway.Disciplined (punctual : SId → Prop) (told : SId → List StreamNote)
    (gateway : StreamingGateway WId SId SubId SubH) : Prop where
  distinct : (gateway.clients.map (·.clientStreamId)).Nodup
  lives : ∀ channel client, gateway.clients[channel]? = some client →
    gateway.Lives (punctual client.clientStreamId) (told client.clientStreamId) channel client
  unused : ∀ sid, sid ∉ gateway.clients.map (·.clientStreamId) → gateway.Unused (told sid) sid

/-! ### Steps that concern one stream at most

A step moves the tokens of one stream at most, and tells of that stream alone.  So the streams of
all other request handlers live on as they did, and it remains to say what becomes of the one: a
lemma of `Life` for each kind of step. -/

section Tell

/-- More is told of one stream. -/
def tell (told : SId → List StreamNote) (owner : SId) (more : List StreamNote) :
    SId → List StreamNote :=
  Function.update told owner (told owner ++ more)

@[simp] theorem tell_self (told : SId → List StreamNote) (owner : SId) (more : List StreamNote) :
    tell told owner more owner = told owner ++ more :=
  Function.update_self ..

theorem tell_other (told : SId → List StreamNote) {owner sid : SId} (other : sid ≠ owner)
    (more : List StreamNote) : tell told owner more sid = told sid :=
  Function.update_of_ne other ..

@[simp] theorem tell_nil (told : SId → List StreamNote) (owner : SId) :
    tell told owner [] = told := by
  rw [tell, List.append_nil, Function.update_eq_self]

variable [DecidableEq WId] [DecidableEq SubId] {told : SId → List StreamNote}
  {before after : StreamingGateway WId SId SubId SubH} {action : GatewayAction WId SId SubId SubH}

/-- What was told once a step is taken. -/
def tellStep (told : SId → List StreamNote) (before after : StreamingGateway WId SId SubId SubH)
    (action : GatewayAction WId SId SubId SubH) : SId → List StreamNote :=
  fun sid => told sid ++ (before.note? sid after action).toList

theorem tellStep_of_silent (silent : ∀ sid, before.note? sid after action = none) :
    tellStep told before after action = told := by
  funext sid
  rw [tellStep, silent, Option.toList_none, List.append_nil]

theorem tellStep_of_note {owner : SId} {note : StreamNote}
    (noted : ∀ sid, before.note? sid after action =
      if some owner = some sid then some note else none) :
    tellStep told before after action = tell told owner [note] := by
  funext sid
  rw [tellStep, noted]
  by_cases own : owner = sid
  · rw [if_pos (congrArg some own), own, tell_self, Option.toList_some]
  · rw [if_neg (mt Option.some.inj own), tell_other told (Ne.symm own), Option.toList_none,
      List.append_nil]

omit [DecidableEq SId] [DecidableEq WId] [DecidableEq SubId] in
theorem relayedStream?_of_relaying {position : Nat} {handler : WorkerHandler SId}
    {job : WorkerJob SId} (found : before.handlers[position]? = some handler)
    (phase : handler.phase = .relaying job) :
    before.relayedStream? position = some job.clientStreamId := by
  obtain ⟨capabilities, registration, current⟩ := handler
  obtain rfl : current = .relaying job := phase
  rw [StreamingGateway.relayedStream?, found]

/-- A task that does not send a job tells nothing. -/
theorem note?_of_noJob {task : Nat} {effect : ResolvedEffect SId SubId WorkerSlot Nat SubH}
    {rest : List (ResolvedEffect SId SubId WorkerSlot Nat SubH)}
    (found : before.effectTasks[task]? = some (effect :: rest))
    (noJob : ∀ job, effect ≠ .dispatchJob job) (sid : SId) :
    before.note? sid after (.executes task) = none := by
  have nothing : before.undeliverable? task = none := by
    rw [StreamingGateway.undeliverable?, found]
    cases effect with
    | dispatchJob job => exact absurd rfl (noJob job)
    | _ => rfl
  rw [StreamingGateway.note?, nothing]
  exact if_neg (by simp)

/-- A task that sends a job tells of its stream when the worker handler no longer waits. -/
theorem tellStep_of_dispatch {task : Nat} {job : DispatchJob WorkerSlot (SId × Nat)}
    {rest : List (ResolvedEffect SId SubId WorkerSlot Nat SubH)}
    (found : before.effectTasks[task]? = some (.dispatchJob job :: rest)) :
    tellStep told before after (.executes task) =
      tell told job.clientStreamId.1
        (if (before.receiver job.workerId).isNone then
          [.undispatched "worker channel closed before job dispatch"]
        else []) := by
  have target : before.undeliverable? task =
      if (before.receiver job.workerId).isNone then some job.clientStreamId.1 else none := by
    rw [StreamingGateway.undeliverable?, found]
  cases receiver : before.receiver job.workerId with
  | some handler =>
      rw [receiver, if_neg (by simp)] at target
      rw [if_neg (by simp), tell_nil]
      refine tellStep_of_silent fun sid => ?_
      rw [StreamingGateway.note?, target]
      exact if_neg (by simp)
  | none =>
      rw [receiver, if_pos Option.isNone_none] at target
      refine tellStep_of_note fun sid => ?_
      rw [StreamingGateway.note?, target]

end Tell

section Steps

variable {punctual : SId → Prop} {told : SId → List StreamNote}
  {before after gateway : StreamingGateway WId SId SubId SubH}

/-- What no token, stream or client notices changes nothing. -/
theorem StreamingGateway.Disciplined.unchanged (disciplined : before.Disciplined punctual told)
    (clients : after.clients = before.clients)
    (active : ∀ sid, sid ∈ after.runtime.state.activeStreams ↔
      sid ∈ before.runtime.state.activeStreams)
    (registry : after.runtime.registry = before.runtime.registry)
    (tokens : ∀ sid, after.tokens sid = before.tokens sid) : after.Disciplined punctual told := by
  constructor
  · exact clients ▸ disciplined.distinct
  · intro channel client found
    rw [StreamingGateway.Lives, tokens, registry, propext (active client.clientStreamId)]
    exact disciplined.lives channel client (clients ▸ found)
  · intro sid fresh
    obtain ⟨untold, none, inactive, handle⟩ := disciplined.unused sid (clients ▸ fresh)
    exact ⟨untold, (tokens sid).trans none, mt (active sid).mp inactive, registry ▸ handle⟩

/-- A token is of the stream of some request handler. -/
theorem StreamingGateway.Disciplined.owner (disciplined : gateway.Disciplined punctual told)
    {sid : SId} {token : StreamToken} {others : Multiset StreamToken}
    (holds : gateway.tokens sid = {token} + others) :
    ∃ (channel : Nat) (client : Client SId),
      gateway.clients[channel]? = some client ∧ client.clientStreamId = sid := by
  by_cases known : sid ∈ gateway.clients.map (·.clientStreamId)
  · obtain ⟨client, member, rfl⟩ := List.mem_map.mp known
    obtain ⟨channel, found⟩ := List.mem_iff_getElem?.mp member
    exact ⟨channel, client, found, rfl⟩
  · have nothing := (disciplined.unused sid known).tokens
    simp [holds] at nothing

/-- Two request handlers have different streams. -/
theorem StreamingGateway.Disciplined.channel_eq (disciplined : gateway.Disciplined punctual told)
    {channel other : Nat} {client otherClient : Client SId}
    (found : gateway.clients[channel]? = some client)
    (otherFound : gateway.clients[other]? = some otherClient)
    (same : otherClient.clientStreamId = client.clientStreamId) : other = channel := by
  have inRange : other < (gateway.clients.map (·.clientStreamId)).length := by
    rw [List.length_map]
    exact (List.getElem?_eq_some_iff.mp otherFound).1
  apply (List.getElem?_inj inRange disciplined.distinct).mp
  rw [List.getElem?_map, List.getElem?_map, found, otherFound, Option.map_some, Option.map_some,
    same]

/-- A message that registers a stream of its own names another channel. -/
theorem StreamingGateway.Disciplined.registersElsewhere
    (disciplined : gateway.Disciplined punctual told)
    {target : Nat} {drawn : SId} {others : Multiset StreamToken}
    (parts : gateway.tokens drawn = {.registration target} + others) {channel : Nat}
    {client : Client SId} (found : gateway.clients[channel]? = some client)
    (apart : drawn ≠ client.clientStreamId) : target ≠ channel := by
  obtain ⟨position, owner, known, own⟩ := disciplined.owner parts
  have alive := disciplined.lives position owner known
  rw [StreamingGateway.Lives, own, parts] at alive
  obtain ⟨rfl, _⟩ := alive.registration_cases
  rintro rfl
  rw [found] at known
  exact apart (Option.some.inj known ▸ own.symm)

/-- The step of one request handler's stream, and what it tells of it. -/
theorem StreamingGateway.Disciplined.advance (disciplined : before.Disciplined punctual told)
    {channel : Nat} {client next : Client SId} {more : List StreamNote}
    (found : before.clients[channel]? = some client)
    (sameId : next.clientStreamId = client.clientStreamId)
    (clients : after.clients = before.clients.set channel next)
    (runtime : after.runtime = before.runtime)
    (life : after.Lives (punctual client.clientStreamId) (told client.clientStreamId ++ more)
      channel next)
    (elsewhere : ∀ sid, sid ≠ client.clientStreamId → after.tokens sid = before.tokens sid) :
    after.Disciplined punctual (tell told client.clientStreamId more) := by
  have inRange := (List.getElem?_eq_some_iff.mp found).1
  have ids : after.clients.map (·.clientStreamId) = before.clients.map (·.clientStreamId) := by
    apply List.ext_getElem?
    intro position
    rw [clients, List.getElem?_map, List.getElem?_map, List.getElem?_set]
    split
    · rename_i same
      rw [← same, found, Option.map_some, Option.map_some, sameId]
    · rfl
  constructor
  · exact ids ▸ disciplined.distinct
  · intro position other otherFound
    rw [clients, List.getElem?_set] at otherFound
    split at otherFound
    · rename_i same
      obtain rfl := Option.some.inj otherFound
      rw [sameId, tell_self]
      exact same ▸ life
    · rename_i different
      have apart : other.clientStreamId ≠ client.clientStreamId := fun same =>
        different (disciplined.channel_eq found otherFound same).symm
      rw [StreamingGateway.Lives, elsewhere _ apart, runtime, tell_other told apart]
      exact disciplined.lives position other otherFound
  · intro sid fresh
    rw [ids] at fresh
    obtain ⟨untold, none, inactive, handle⟩ := disciplined.unused sid fresh
    have apart : sid ≠ client.clientStreamId := by
      intro same
      exact fresh (List.mem_map.mpr ⟨client, List.mem_of_getElem? found, same.symm⟩)
    exact ⟨(tell_other told apart more).trans untold, (elsewhere sid apart).trans none,
      runtime ▸ inactive, runtime ▸ handle⟩

omit [DecidableEq SId] in
/-- A frame that is put on the channel of a request handler. -/
theorem clients_put {channel : Nat} {client : Client SId}
    (found : gateway.clients[channel]? = some client) (writer : FrameWriter) (frame : StreamFrame) :
    (gateway.put channel writer frame).clients = gateway.clients.set channel
      { client with channel := client.channel ++ [(writer, frame)] } := by
  rw [StreamingGateway.put, List.modify_eq_set_getElem?, found]
  rfl

omit [DecidableEq SId] in
/-- No frame is put on the channel of a request handler. -/
theorem clients_same {channel : Nat} {client : Client SId}
    (found : gateway.clients[channel]? = some client) :
    gateway.clients =
      gateway.clients.set channel { client with channel := client.channel ++ [] } := by
  obtain ⟨inRange, rfl⟩ := List.getElem?_eq_some_iff.mp found
  rw [List.append_nil, List.set_getElem_self]

/-- The turn of a job: the stream of its client goes on. -/
theorem StreamingGateway.Disciplined.jobTurn (disciplined : before.Disciplined punctual told)
    (job : WorkerJob SId) (token? : Option StreamToken) (more : List StreamNote)
    (frames : List StreamFrame)
    (tokens : ∀ sid, ∃ others,
      before.tokens sid = ownToken sid job.clientStreamId (.running job.clientTx) + others ∧
        after.tokens sid = (if job.clientStreamId = sid then heldBy token? else 0) + others)
    (clients : ∀ client, before.clients[job.clientTx]? = some client →
      after.clients = before.clients.set job.clientTx
        { client with channel := client.channel ++ frames.map (.relay, ·) })
    (runtime : after.runtime = before.runtime)
    (life : ∀ {channel : Nat} {others : Multiset StreamToken} {handle : Option Nat}
      {phase : ClientPhase} {notes : List StreamNote} {written : List (FrameWriter × StreamFrame)},
      Life (punctual job.clientStreamId) channel ({.running job.clientTx} + others)
          (job.clientStreamId ∈ before.runtime.state.activeStreams) handle phase notes written →
        job.clientTx = channel ∧
          Life (punctual job.clientStreamId) channel (heldBy token? + others)
            (job.clientStreamId ∈ before.runtime.state.activeStreams) handle phase (notes ++ more)
            (written ++ frames.map (.relay, ·))) :
    after.Disciplined punctual (tell told job.clientStreamId more) := by
  -- the job is a token of the stream of some request handler
  obtain ⟨others, parts, next⟩ := tokens job.clientStreamId
  rw [ownToken_self] at parts
  rw [if_pos rfl] at next
  obtain ⟨channel, client, found, own⟩ := disciplined.owner parts
  have alive := disciplined.lives channel client found
  rw [StreamingGateway.Lives, own, parts] at alive
  obtain ⟨sameChannel, alive⟩ := life alive
  rw [← sameChannel] at found alive
  rw [← own]
  refine disciplined.advance found ?_ (clients client found) runtime ?_ ?_
  · rfl
  · rw [StreamingGateway.Lives, own, next, runtime]
    exact alive
  · intro sid apart
    obtain ⟨_, parts, next⟩ := tokens sid
    have other : job.clientStreamId ≠ sid := fun same => apart (same.symm.trans own.symm)
    rw [parts, next, ownToken_other other, if_neg other]

/-- A worker handler that holds a job goes on. -/
theorem tokens_setPhase {position : Nat} {handler : WorkerHandler SId} {job : WorkerJob SId}
    (found : gateway.handlers[position]? = some handler)
    (holds : ∀ sid,
      handler.phase.tokens sid = ownToken sid job.clientStreamId (.running job.clientTx))
    (phase : WorkerHandlerPhase SId) (token? : Option StreamToken)
    (next : ∀ sid, phase.tokens sid = if job.clientStreamId = sid then heldBy token? else 0)
    (sid : SId) :
    ∃ others,
      gateway.tokens sid = ownToken sid job.clientStreamId (.running job.clientTx) + others ∧
        (gateway.setPhase position handler phase).tokens sid =
          (if job.clientStreamId = sid then heldBy token? else 0) + others := by
  obtain ⟨others, parts, exchanged⟩ := exists_setPhase_tokens found sid
  refine ⟨others, by rw [parts, holds], ?_⟩
  rw [← next sid]
  exact exchanged { handler with phase }

/-- A worker handler leaves before it relays its job. -/
theorem StreamingGateway.Disciplined.dropsJob (disciplined : gateway.Disciplined punctual told)
    {position : Nat} {handler : WorkerHandler SId} {job : WorkerJob SId}
    (found : gateway.handlers[position]? = some handler)
    (phase : handler.phase = .waiting (some job)) :
    (gateway.setPhase position handler .exited).Disciplined punctual told := by
  have moved := tokens_setPhase found (fun sid => by rw [phase]; rfl) .exited none
    (fun sid => (ite_self _).symm)
  rw [← tell_nil told job.clientStreamId]
  refine disciplined.jobTurn job none [] [] moved (fun client known => clients_same known) rfl ?_
  intro channel others handle clientPhase notes written life
  simpa using life.loses

/-- The relay of a job reads a worker message; that of a punctual stream only while the stream is
active. -/
theorem StreamingGateway.Disciplined.relays (disciplined : gateway.Disciplined punctual told)
    {position : Nat} {handler : WorkerHandler SId} {job : WorkerJob SId}
    (found : gateway.handlers[position]? = some handler) (phase : handler.phase = .relaying job)
    (inTime : punctual job.clientStreamId →
      job.clientStreamId ∈ gateway.runtime.state.activeStreams) (message : WorkerMessage) :
    (gateway.relay position handler job message).Disciplined punctual
      (tell told job.clientStreamId [.read message]) := by
  have holds : ∀ sid, handler.phase.tokens sid =
      ownToken sid job.clientStreamId (.running job.clientTx) := fun sid => by rw [phase]; rfl
  cases message with
  | chunk data =>
      refine disciplined.jobTurn job (some (.running job.clientTx)) [.read (.chunk data)]
        [.chunk data]
        (tokens_setPhase found holds (.relaying job) _ fun sid => rfl)
        (fun client known => clients_put known .relay (.chunk data)) rfl ?_
      intro channel others handle clientPhase notes written life
      exact life.chunk inTime data
  | «end» =>
      refine disciplined.jobTurn job (some .cleared) [.read .end] [.done]
        (tokens_setPhase found holds (.reporting job.clientStreamId .workerEnd) _ fun sid => rfl)
        (fun client known => clients_put known .relay .done) rfl ?_
      intro channel others handle clientPhase notes written life
      exact life.returns .ended rfl rfl fun onTime => .inl (inTime onTime)
  | error text =>
      refine disciplined.jobTurn job (some (.failed text)) [.read (.error text)] [.error text]
        (tokens_setPhase found holds (.reporting job.clientStreamId (.workerError text)) _
          fun sid => rfl)
        (fun client known => clients_put known .relay (.error text)) rfl ?_
      intro channel others handle clientPhase notes written life
      exact life.returns (.failed text) rfl rfl fun onTime => .inl (inTime onTime)

/-- The relay of a job finds its worker gone. -/
theorem StreamingGateway.Disciplined.losesWorker (disciplined : gateway.Disciplined punctual told)
    {position : Nat} {handler : WorkerHandler SId} {job : WorkerJob SId}
    (found : gateway.handlers[position]? = some handler) (phase : handler.phase = .relaying job) :
    (gateway.setPhase position handler
      (.reporting job.clientStreamId .workerDisconnected)).Disciplined punctual
        (tell told job.clientStreamId [.disconnected]) := by
  refine disciplined.jobTurn job (some (.failed "worker disconnected during job"))
    [.disconnected] [] (tokens_setPhase found (fun sid => by rw [phase]; rfl)
      (.reporting job.clientStreamId .workerDisconnected) _ fun sid => rfl)
    (fun client known => clients_same known) rfl ?_
  intro channel others handle clientPhase notes written life
  exact life.returns .disconnected rfl rfl fun _ => .inr rfl

omit [DecidableEq SId] in
theorem receiver_waits {slot : WorkerSlot} {handler : WorkerHandler SId}
    (receiver : gateway.receiver slot = some handler) :
    gateway.handlers[slot.handler]? = some handler ∧ handler.phase = .waiting none := by
  unfold StreamingGateway.receiver at receiver
  split at receiver
  · split at receiver
    · split at receiver
      · obtain rfl := Option.some.inj receiver
        exact ⟨‹_›, ‹_›⟩
      · cases receiver
    · cases receiver
  · cases receiver

/-- A job is handed to the worker handler that waits for it, or its dispatch fails. -/
theorem StreamingGateway.Disciplined.dispatches (disciplined : gateway.Disciplined punctual told)
    {task : Nat} {job : DispatchJob WorkerSlot (SId × Nat)}
    {rest : List (ResolvedEffect SId SubId WorkerSlot Nat SubH)}
    (found : gateway.effectTasks[task]? = some (.dispatchJob job :: rest)) :
    (StreamingGateway.execute { gateway with effectTasks := gateway.effectTasks.set task rest }
      (.dispatchJob job)).Disciplined punctual
        (tell told job.clientStreamId.1
          (if (gateway.receiver job.workerId).isNone then
            [.undispatched "worker channel closed before job dispatch"]
          else [])) := by
  obtain ⟨slot, ⟨owner, sender⟩, capability, payload⟩ := job
  have taken : ∀ sid, ∃ others,
      gateway.tokens sid = ownToken sid owner (.running sender) + others ∧
        StreamingGateway.tokens sid
          { gateway with effectTasks := gateway.effectTasks.set task rest } = others := by
    intro sid
    obtain ⟨others, parts, exchanged⟩ := exists_effectTask_tokens found sid
    exact ⟨taskTokens sid rest + others, by rw [parts, taskTokens_cons_dispatchJob, add_assoc],
      exchanged rest⟩
  have sameReceiver : StreamingGateway.receiver
      { gateway with effectTasks := gateway.effectTasks.set task rest } slot =
        gateway.receiver slot := rfl
  rw [StreamingGateway.execute, StreamingGateway.sendJob, sameReceiver]
  cases receiver : gateway.receiver slot with
  | some handler =>
      -- the job only changes hands
      rw [← sameReceiver] at receiver
      obtain ⟨waiting, phase⟩ := receiver_waits receiver
      rw [if_neg (by simp), tell_nil]
      refine disciplined.unchanged rfl (fun sid => Iff.rfl) rfl ?_
      intro sid
      obtain ⟨others, parts, left⟩ := taken sid
      obtain ⟨more, without, handed⟩ := exists_setPhase_tokens waiting sid
      have idle : handler.phase.tokens sid = 0 := by rw [phase]; rfl
      rw [left, idle, zero_add] at without
      rw [parts, without]
      exact handed { handler with phase := .waiting (some _) }
  | none =>
      refine disciplined.jobTurn ⟨owner, capability, payload, sender⟩
        (some (.failed "worker channel closed before job dispatch")) _ [] ?_
        (fun client known => clients_same known) rfl ?_
      · intro sid
        obtain ⟨others, parts, left⟩ := taken sid
        exact ⟨others, parts, by rw [tokens_submit, left]; rfl⟩
      · intro channel others handle clientPhase notes written life
        exact life.returns (.undispatched "worker channel closed before job dispatch") rfl rfl
          fun _ => .inr rfl

/-- The kernel's next terminal frame is put on a channel. -/
theorem StreamingGateway.Disciplined.writes (disciplined : gateway.Disciplined punctual told)
    {task : Nat} {effect : ResolvedEffect SId SubId WorkerSlot Nat SubH}
    {rest : List (ResolvedEffect SId SubId WorkerSlot Nat SubH)}
    (found : gateway.effectTasks[task]? = some (effect :: rest)) {owner : SId} {target : Nat}
    (addressed : effect.clientStreamId? = some (owner, target)) {frame : StreamFrame}
    (terminal : effect.channelFrame? = some (target, frame)) :
    (StreamingGateway.put { gateway with effectTasks := gateway.effectTasks.set task rest }
      target .kernel frame).Disciplined punctual told := by
  obtain ⟨others, parts, exchanged⟩ := exists_effectTask_tokens found owner
  have forOwner : effect.clientStreamId?.map Prod.fst = some owner := by
    rw [addressed]
    rfl
  obtain ⟨later, more, now, left⟩ := exists_taskTokens_cons_frame forOwner terminal rest
  rw [now, add_assoc] at parts
  obtain ⟨channel, client, known, own⟩ := disciplined.owner parts
  have alive := disciplined.lives channel client known
  rw [StreamingGateway.Lives, own, parts] at alive
  obtain ⟨rfl, alive⟩ := alive.writes
  rw [← tell_nil told client.clientStreamId]
  refine disciplined.advance known ?_ (clients_put known .kernel frame) rfl ?_ ?_
  · rfl
  · rw [StreamingGateway.Lives, own, tokens_put, exchanged, left, add_assoc, List.append_nil]
    exact alive
  · intro sid apart
    obtain ⟨others, parts, exchanged⟩ := exists_effectTask_tokens found sid
    have other : effect.clientStreamId?.map Prod.fst ≠ some sid := by
      rw [addressed]
      intro same
      exact apart ((Option.some.inj same).symm.trans own.symm)
    rw [tokens_put, exchanged, parts, taskTokens_cons_other other]

/-- A task executes its next effect. -/
theorem StreamingGateway.Disciplined.executes [DecidableEq WId] [DecidableEq SubId]
    (disciplined : gateway.Disciplined punctual told)
    {task : Nat} {effect : ResolvedEffect SId SubId WorkerSlot Nat SubH}
    {rest : List (ResolvedEffect SId SubId WorkerSlot Nat SubH)}
    (found : gateway.effectTasks[task]? = some (effect :: rest)) :
    (StreamingGateway.execute { gateway with effectTasks := gateway.effectTasks.set task rest }
      effect).Disciplined punctual
        (tellStep told gateway
          (StreamingGateway.execute
            { gateway with effectTasks := gateway.effectTasks.set task rest } effect)
          (.executes task)) := by
  have silent : effect.clientStreamId? = none →
      StreamingGateway.Disciplined punctual told
        { gateway with effectTasks := gateway.effectTasks.set task rest } := by
    intro unaddressed
    refine disciplined.unchanged rfl (fun sid => Iff.rfl) rfl ?_
    intro sid
    obtain ⟨others, parts, exchanged⟩ := exists_effectTask_tokens found sid
    rw [exchanged, parts, taskTokens_cons_other (by simp [unaddressed])]
  have untold : (∀ job, effect ≠ .dispatchJob job) → tellStep told gateway
      (StreamingGateway.execute { gateway with effectTasks := gateway.effectTasks.set task rest }
        effect) (.executes task) = told :=
    fun noJob => tellStep_of_silent (note?_of_noJob found noJob)
  cases effect with
  | dispatchJob job =>
      rw [tellStep_of_dispatch found]
      exact disciplined.dispatches found
  | sendClientError error =>
      rw [untold nofun]
      exact disciplined.writes found rfl rfl
  | sendClientDone done =>
      rw [untold nofun]
      exact disciplined.writes found rfl rfl
  | protocolViolation violation =>
      rw [untold nofun]
      exact silent rfl
  | sessionExpired sessionId entries =>
      rw [untold nofun]
      exact silent rfl
  | sessionCreated sessionId subscriberId =>
      rw [untold nofun]
      exact silent rfl
  | sessionEffect effect =>
      rw [untold nofun]
      exact silent rfl

/-- A worker handler goes on and holds what it held. -/
theorem StreamingGateway.Disciplined.setPhase (disciplined : gateway.Disciplined punctual told)
    {position : Nat} {handler : WorkerHandler SId} {phase : WorkerHandlerPhase SId}
    (found : gateway.handlers[position]? = some handler)
    (same : ∀ sid, phase.tokens sid = handler.phase.tokens sid) :
    (gateway.setPhase position handler phase).Disciplined punctual told := by
  refine disciplined.unchanged rfl (fun sid => Iff.rfl) rfl ?_
  intro sid
  obtain ⟨others, parts, exchanged⟩ := exists_setPhase_tokens found sid
  rw [StreamingGateway.setPhase, exchanged, parts, same]

/-- The worker handler reports the verdict that it holds. -/
theorem tokens_reports {position : Nat} {handler : WorkerHandler SId} {clientStreamId : SId}
    {outcome : RelayOutcome} (found : gateway.handlers[position]? = some handler)
    (phase : handler.phase = .reporting clientStreamId outcome) (sid : SId) :
    (gateway.report position handler clientStreamId outcome).tokens sid = gateway.tokens sid := by
  obtain ⟨others, parts, exchanged⟩ := exists_setPhase_tokens found sid
  have moved : (gateway.setPhase position handler
      (if outcome.continues then .registering else .exited)).tokens sid = others := by
    have silent : WorkerHandlerPhase.tokens sid
        (if outcome.continues then .registering else .exited) = 0 := by
      split <;> rfl
    rw [StreamingGateway.setPhase, exchanged, silent, zero_add]
  have verdict : handler.phase.tokens sid =
      ((outcome.report clientStreamId :
        Option (RuntimeMessage WId SId SubId WorkerSlot Nat SubH))).elim 0
          fun message => message.tokens sid := by
    rw [phase, tokens_report]
    rfl
  simp only [StreamingGateway.report]
  cases reported :
    (outcome.report clientStreamId : Option (RuntimeMessage WId SId SubId WorkerSlot Nat SubH)) with
  | none =>
      rw [reported] at verdict
      rw [moved, parts, verdict]
      exact (zero_add others).symm
  | some message =>
      rw [reported] at verdict
      rw [tokens_submit, moved, parts, verdict]
      rfl

/-- A report concerns neither the runtime nor the request handlers. -/
theorem StreamingGateway.Disciplined.reports (disciplined : gateway.Disciplined punctual told)
    {position : Nat} {handler : WorkerHandler SId} {clientStreamId : SId} {outcome : RelayOutcome}
    (found : gateway.handlers[position]? = some handler)
    (phase : handler.phase = .reporting clientStreamId outcome) :
    (gateway.report position handler clientStreamId outcome).Disciplined punctual told := by
  have tokens := tokens_reports found phase
  cases outcome <;> exact disciplined.unchanged rfl (fun sid => Iff.rfl) rfl tokens

/-- A worker handler that registers again holds nothing. -/
theorem tokens_registerAgain {position : Nat} {handler : WorkerHandler SId}
    (found : gateway.handlers[position]? = some handler) (phase : handler.phase = .registering)
    (drawn : WId) (sid : SId) :
    (gateway.registerAgain position handler drawn).tokens sid = gateway.tokens sid := by
  obtain ⟨others, parts, exchanged⟩ := exists_setPhase_tokens found sid
  have idle : handler.phase.tokens sid = 0 := by rw [phase]; rfl
  rw [parts, idle, StreamingGateway.registerAgain, tokens_submit, exchanged]
  exact zero_add _

theorem tokens_workerConnect (capabilities : Finset Capability) (drawn : WId) (sid : SId) :
    (gateway.workerConnect capabilities drawn).tokens sid = gateway.tokens sid := by
  rw [StreamingGateway.workerConnect, tokens_submit]
  simp [StreamingGateway.tokens, RuntimeMessage.tokens, WorkerHandlerPhase.tokens]

/-- A request handler opens its channel. -/
theorem StreamingGateway.Disciplined.connects (disciplined : gateway.Disciplined punctual told)
    {drawn : SId} (fresh : drawn ∉ gateway.clients.map (·.clientStreamId)) :
    (gateway.connect drawn).Disciplined punctual told := by
  have ids : (gateway.connect drawn).clients.map (·.clientStreamId) =
      gateway.clients.map (·.clientStreamId) ++ [drawn] := List.map_append
  have others : ∀ sid, sid ≠ drawn → (gateway.connect drawn).tokens sid = gateway.tokens sid := by
    intro sid apart
    rw [StreamingGateway.connect, tokens_submit, RuntimeMessage.tokens, ownToken_other apart.symm,
      zero_add]
    rfl
  constructor
  · rw [ids, ← List.concat_eq_append]
    exact disciplined.distinct.concat fresh
  · intro channel client found
    rw [StreamingGateway.connect, StreamingGateway.submit, List.getElem?_append] at found
    split at found
    · have apart : client.clientStreamId ≠ drawn := fun same =>
        fresh (List.mem_map.mpr ⟨client, List.mem_of_getElem? found, same⟩)
      rw [StreamingGateway.Lives, others _ apart]
      exact disciplined.lives channel client found
    · rename_i beyond
      obtain ⟨inRange, rfl⟩ := List.getElem?_eq_some_iff.mp found
      rw [List.length_singleton] at inRange
      obtain rfl : channel = gateway.clients.length := by omega
      obtain ⟨untold, none, inactive, handle⟩ := disciplined.unused drawn fresh
      rw [StreamingGateway.Lives, List.getElem_singleton, StreamingGateway.connect, tokens_submit,
        RuntimeMessage.tokens, ownToken_self]
      refine .registering ?_ inactive handle rfl untold rfl
      rw [heldBy_some]
      exact congrArg _ none
  · intro sid unknown
    rw [ids, List.mem_append, List.mem_singleton, not_or] at unknown
    obtain ⟨untold, none, inactive, handle⟩ := disciplined.unused sid unknown.1
    exact ⟨untold, (others sid unknown.2).trans none, inactive, handle⟩

/-- A request handler requests its completion. -/
theorem StreamingGateway.Disciplined.requests (disciplined : gateway.Disciplined punctual told)
    {channel : Nat} {client : Client SId} (found : gateway.clients[channel]? = some client)
    (registered : client.phase = .registered) (payload : Value) (stream : Bool)
    (capability : Capability) :
    (gateway.request channel client payload stream capability).Disciplined punctual told := by
  have life := disciplined.lives channel client found
  rw [StreamingGateway.Lives, registered] at life
  rw [← tell_nil told client.clientStreamId]
  refine disciplined.advance found ?_ rfl rfl ?_ ?_
  · rfl
  · rw [StreamingGateway.Lives, StreamingGateway.request, tokens_submit, RuntimeMessage.tokens,
      ownToken_self, List.append_nil]
    exact life.requests
  · intro sid apart
    rw [StreamingGateway.request, tokens_submit, RuntimeMessage.tokens, ownToken_other apart.symm,
      zero_add]
    rfl

end Steps

/-! ### The frames of a client -/

section Frames

variable {gateway : StreamingGateway WId SId SubId SubH} {punctual : SId → Prop}
  {told : SId → List StreamNote}

/-- The request was processed, the stream is no longer active, and every effect for it was
executed. -/
structure StreamingGateway.Finished (gateway : StreamingGateway WId SId SubId SubH)
    (client : Client SId) : Prop where
  requested : client.phase = .requested
  processed : .request ∉ gateway.tokens client.clientStreamId
  inactive : client.clientStreamId ∉ gateway.runtime.state.activeStreams
  executed : ∀ task ∈ gateway.effectTasks, resolvedFor client.clientStreamId task = []

theorem StreamingGateway.Disciplined.frames (disciplined : gateway.Disciplined punctual told)
    {channel : Nat} {client : Client SId} (found : gateway.clients[channel]? = some client) :
    ∃ chunks jobEnd,
      FramesAgree (told client.clientStreamId) client.channel (gateway.Finished client) chunks
        jobEnd ∧
      (punctual client.clientStreamId → client.channel =
        (framesBy .relay client.channel).map (.relay, ·) ++
          (framesBy .kernel client.channel).map (.kernel, ·)) := by
  refine (disciplined.lives channel client found).written (·.requested) (·.inactive)
    (·.processed) ?_
  intro finished later closing
  obtain ⟨task, member, left⟩ := effects_of_closing closing
  exact left (finished.executed task member)

end Frames

/-! ### Processing a message -/

section Processing

omit [DecidableEq SId] in
/-- The request handlers once a message was processed. -/
theorem getElem?_acknowledge (message : RuntimeMessage WId SId SubId WorkerSlot Nat SubH)
    (clients : List (Client SId)) (channel : Nat) :
    (message.acknowledge clients)[channel]? = clients[channel]?.map fun client =>
      { client with phase := message.acknowledgedPhase channel client.phase } := by
  cases message with
  | event occurred => exact Option.map_id'.symm
  | command command =>
      cases command with
      | registerStream target drawn =>
          simp only [RuntimeMessage.acknowledge, RuntimeMessage.acknowledgedPhase,
            List.getElem?_modify]
          split <;> simp [*]
      | _ => exact Option.map_id'.symm

variable [LinearOrder WId] [DecidableEq SubId] [ToString WId] [ToString SId]
  {sessionHash : Nat → Nat → Nat} {punctual : SId → Prop} {told : SId → List StreamNote}
  {gateway : StreamingGateway WId SId SubId SubH}

theorem note?_processes
    {message : RuntimeMessage WId SId SubId WorkerSlot Nat SubH}
    {rest : List (RuntimeMessage WId SId SubId WorkerSlot Nat SubH)}
    (inbox : gateway.inbox = message :: rest) (sid : SId) :
    let processed := GatewayRuntime.processMessage sessionHash gateway.runtime message
    gateway.note? sid (gateway.process sessionHash message rest) .processes =
      message.note? sid gateway.runtime.state processed.1.state processed.2.resolved
        processed.2.fallbacks := by
  simp [StreamingGateway.note?, StreamingGateway.process, inbox]

/-- The runtime processes a message. -/
theorem StreamingGateway.Disciplined.processes (disciplined : gateway.Disciplined punctual told)
    {message : RuntimeMessage WId SId SubId WorkerSlot Nat SubH}
    {rest : List (RuntimeMessage WId SId SubId WorkerSlot Nat SubH)}
    (inbox : gateway.inbox = message :: rest) (fresh : message.DrawsFresh gateway.runtime) :
    (gateway.process sessionHash message rest).Disciplined punctual
      (tellStep told gateway (gateway.process sessionHash message rest) .processes) := by
  have step : (runtimeSystem sessionHash).step gateway.runtime
      (message, (GatewayRuntime.processMessage sessionHash gateway.runtime message).2)
      (gateway.process sessionHash message rest).runtime :=
    ⟨fresh, gateway.runtime.state, GatewayState.Reorder.refl _, rfl⟩
  have clientAt : ∀ channel : Nat,
      (gateway.process sessionHash message rest).clients[channel]? =
        gateway.clients[channel]?.map fun client : Client SId =>
          { client with phase := message.acknowledgedPhase channel client.phase } :=
    getElem?_acknowledge message gateway.clients
  have ids : (gateway.process sessionHash message rest).clients.map (·.clientStreamId) =
      gateway.clients.map (·.clientStreamId) := by
    apply List.ext_getElem?
    intro channel
    rw [List.getElem?_map, List.getElem?_map, clientAt, Option.map_map]
    rfl
  constructor
  · exact ids ▸ disciplined.distinct
  · intro channel next nextFound
    rw [clientAt] at nextFound
    obtain ⟨client, found, rfl⟩ := Option.map_eq_some_iff.mp nextFound
    obtain ⟨others, parts, after⟩ :=
      exists_process_tokens sessionHash inbox client.clientStreamId
    have life := disciplined.lives channel client found
    rw [StreamingGateway.Lives, parts] at life
    rw [StreamingGateway.Lives, after, tellStep, note?_processes inbox]
    refine life.processed (runtimeSystem_streamStep step client.clientStreamId) ?_
    rintro target drawn rfl apart
    obtain ⟨others, parts, _⟩ := exists_process_tokens sessionHash inbox drawn
    rw [RuntimeMessage.tokens, ownToken_self] at parts
    exact disciplined.registersElsewhere parts found apart
  · intro sid unknown
    obtain ⟨untold, nothing, inactive, handle⟩ := disciplined.unused sid (ids ▸ unknown)
    obtain ⟨others, parts, after⟩ := exists_process_tokens sessionHash inbox sid
    rw [nothing] at parts
    obtain ⟨none, noOthers⟩ := add_eq_zero.mp parts.symm
    obtain ⟨silent, left, stillInactive, stillNoHandle⟩ :=
      (runtimeSystem_streamStep step sid).unused none inactive handle
    refine ⟨?_, by rw [after, left, noOthers, add_zero], stillInactive, stillNoHandle⟩
    rw [tellStep, note?_processes inbox, untold]
    exact congrArg Option.toList silent

/-- A relay reads a worker message for a stream that is no longer active. -/
def StreamingGateway.RelaysLate (gateway : StreamingGateway WId SId SubId SubH) (sid : SId) :
    GatewayAction WId SId SubId SubH → Prop
  | .handler position (.relays _) =>
      (∃ handler job, gateway.handlers[position]? = some handler ∧
        handler.phase = .relaying job ∧ job.clientStreamId = sid) ∧
          sid ∉ gateway.runtime.state.activeStreams
  | _ => False

/-- Every action keeps the discipline, and what it tells is told. -/
theorem GatewayTurn.disciplined {before after : StreamingGateway WId SId SubId SubH}
    {action : GatewayAction WId SId SubId SubH}
    (turn : GatewayTurn sessionHash before action after)
    (disciplined : before.Disciplined punctual told)
    (onTime : ∀ sid, punctual sid → ¬ before.RelaysLate sid action) :
    after.Disciplined punctual (tellStep told before after action) := by
  cases turn with
  | connects drawn fresh =>
      rw [tellStep_of_silent fun sid => rfl]
      exact disciplined.connects fresh
  | requests channel payload stream capability client found registered =>
      rw [tellStep_of_silent fun sid => rfl]
      exact disciplined.requests found registered payload stream capability
  | submits message foreign =>
      rw [tellStep_of_silent fun sid => rfl]
      refine disciplined.unchanged rfl (fun sid => Iff.rfl) rfl ?_
      intro sid
      rw [tokens_submit, tokens_foreign foreign, zero_add]
  | processes message rest inbox fresh => exact disciplined.processes inbox fresh
  | executes task effect rest found => exact disciplined.executes found
  | fallsBack task event rest found =>
      rw [tellStep_of_silent fun sid => rfl]
      exact disciplined.unchanged rfl (fun sid => Iff.rfl) rfl (tokens_fallsBack found)
  | workerConnects capabilities drawn =>
      rw [tellStep_of_silent fun sid => rfl]
      exact disciplined.unchanged rfl (fun sid => Iff.rfl) rfl
        (tokens_workerConnect capabilities drawn)
  | takesJob position accepted handler job found phase =>
      rw [tellStep_of_silent fun sid => rfl]
      cases accepted with
      | false => exact disciplined.dropsJob found phase
      | true =>
          rw [if_pos rfl]
          exact disciplined.setPhase found fun sid => by rw [phase]; rfl
  | leaves position handler pendingJob found phase =>
      rw [tellStep_of_silent fun sid => rfl]
      cases pendingJob with
      | some job => exact disciplined.dropsJob found phase
      | none => exact disciplined.setPhase found fun sid => by rw [phase]; rfl
  | relays position message handler job found phase =>
      have noted : tellStep told before (before.relay position handler job message)
          (.handler position (.relays message)) =
            tell told job.clientStreamId [.read message] :=
        tellStep_of_note fun sid => by
          rw [StreamingGateway.note?, relayedStream?_of_relaying found phase]
      rw [noted]
      refine disciplined.relays found phase ?_ message
      intro punctual
      by_contra inactive
      exact onTime _ punctual ⟨⟨handler, job, found, phase, rfl⟩, inactive⟩
  | losesWorker position handler job found phase =>
      have noted : tellStep told before
          (before.setPhase position handler (.reporting job.clientStreamId .workerDisconnected))
          (.handler position .losesWorker) = tell told job.clientStreamId [.disconnected] :=
        tellStep_of_note fun sid => by
          rw [StreamingGateway.note?, relayedStream?_of_relaying found phase]
      rw [noted]
      exact disciplined.losesWorker found phase
  | reports position handler clientStreamId outcome found phase =>
      rw [tellStep_of_silent fun sid => rfl]
      exact disciplined.reports found phase
  | registers position drawn handler found phase =>
      rw [tellStep_of_silent fun sid => rfl]
      exact disciplined.unchanged rfl (fun sid => Iff.rfl) rfl
        (tokens_registerAgain found phase drawn)

/-! ### Runs

`Disciplined` says of every client that its stream is somewhere in its life, with the notes of the
run so far; it holds at the start and every recorded step keeps it. -/

omit [LinearOrder WId] [DecidableEq SId] [ToString WId] [ToString SId] in
/-- The iteration order of the kernel's maps does not matter to it. -/
theorem StreamingGateway.RelaysLate.of_reorder {shuffled : GatewayState WId SId SubId}
    (reorder : gateway.runtime.state.Reorder shuffled) {sid : SId}
    {action : GatewayAction WId SId SubId SubH}
    (late : StreamingGateway.RelaysLate
      { gateway with runtime := { gateway.runtime with state := shuffled } } sid action) :
    gateway.RelaysLate sid action := by
  cases action with
  | handler position next =>
      cases next with
      | relays message => exact ⟨late.1, mt (reorder.mem_activeStreams sid).mpr late.2⟩
      | _ => exact late.elim
  | _ => exact late.elim

theorem disciplined_step {before after : StreamingGateway WId SId SubId SubH}
    {action : GatewayAction WId SId SubId SubH}
    (step : (streamingSystem sessionHash).step before action after)
    (disciplined : before.Disciplined punctual told)
    (onTime : ∀ sid, punctual sid → ¬ before.RelaysLate sid action) :
    after.Disciplined punctual (tellStep told before after action) := by
  obtain ⟨shuffled, reorder, possible⟩ := step
  have turned := (gatewayStep_turn sessionHash possible).disciplined
    (disciplined.unchanged rfl reorder.mem_activeStreams rfl fun sid => rfl)
    fun sid punctual late => onTime sid punctual (late.of_reorder reorder)
  have sameNotes : tellStep told
      { before with runtime := { before.runtime with state := shuffled } } after action =
        tellStep told before after action := by
    funext sid
    rw [tellStep, tellStep, StreamingGateway.note?_reorder reorder]
  rwa [sameNotes] at turned

omit [LinearOrder WId] [DecidableEq SubId] [ToString WId] [ToString SId] in
theorem disciplined_new (runtimeId workerTtl streamTtl subscriberTtl : Nat) :
    (StreamingGateway.new WId SId SubId SubH runtimeId workerTtl streamTtl
      subscriberTtl).Disciplined punctual fun _ => [] where
  distinct := List.nodup_nil
  lives channel client found := by cases found
  unused sid _ := ⟨rfl, rfl, AList.notMem_empty sid, AList.lookup_empty sid⟩

/-- Every run is disciplined, as its steps tell. -/
theorem disciplined_of_run {steps : List (RecordedStep WId SId SubId SubH)}
    (run : (streamingSystem sessionHash).recorded.Execution steps gateway)
    (onTime : ∀ sid, punctual sid →
      ∀ taken ∈ steps, ¬ taken.before.RelaysLate sid taken.label) :
    gateway.Disciplined punctual fun sid => notes sid steps := by
  induction run with
  | start initial =>
      obtain ⟨runtimeId, workerTtl, streamTtl, subscriberTtl, rfl⟩ := initial
      exact disciplined_new runtimeId workerTtl streamTtl subscriberTtl
  | @step earlier before after taken _ last ih =>
      obtain ⟨rfl, rfl, step⟩ := last
      have disciplined := ih fun sid punctual other member =>
        onTime sid punctual other (List.mem_append_left _ member)
      have next := disciplined_step step disciplined fun sid punctual =>
        onTime sid punctual taken (List.mem_append_right _ (List.mem_singleton_self taken))
      have told : (fun sid => notes sid (earlier ++ [taken])) =
          tellStep (fun sid => notes sid earlier) taken.before taken.after taken.label :=
        funext fun sid => notes_concat earlier taken
      rwa [told]

/-- The frame discipline.  In every run, and for every client: the relay puts the chunks that it
read and the terminal frame of the message that ended the job, if a message did; the kernel puts, in
order, the terminal frames that the end of the job or the expiry of the stream calls for, and all of
them once the stream is finished.  If no relay reads a worker message for the stream once the kernel
has closed it, the relay's frames come first and the kernel's last. -/
theorem client_frames (sessionHash : Nat → Nat → Nat)
    (steps : List (RecordedStep WId SId SubId SubH))
    (gateway : StreamingGateway WId SId SubId SubH) (channel : Nat) (client : Client SId)
    (run : (streamingSystem sessionHash).recorded.Execution steps gateway)
    (found : gateway.clients[channel]? = some client) :
    ∃ chunks jobEnd,
      FramesAgree (notes client.clientStreamId steps) client.channel (gateway.Finished client)
        chunks jobEnd ∧
      ((∀ taken ∈ steps, ¬ taken.before.RelaysLate client.clientStreamId taken.label) →
        client.channel = (framesBy .relay client.channel).map (.relay, ·) ++
          (framesBy .kernel client.channel).map (.kernel, ·)) := by
  have disciplined : gateway.Disciplined
      (fun sid => ∀ taken ∈ steps, ¬ taken.before.RelaysLate sid taken.label)
      fun sid => notes sid steps :=
    disciplined_of_run run fun sid onTime => onTime
  exact disciplined.frames found

end Processing

/-! ### A worker that fails, and one that does not -/

/-- One worker and one client: its request is dispatched, the worker sends a chunk and ends the job
with a message, the handler reports, the runtime processes the report, and a number of its effects
are executed. -/
def chatActions (last : WorkerMessage) (effects : Nat) : List (GatewayAction Nat Nat Nat Nat) :=
  [.workerConnects {.chat} 1, .processes, .connects 7, .processes, .requests 0 .null true .chat,
    .processes, .executes 2, .handler 0 (.takesJob true),
    .handler 0 (.relays (.chunk (.string "hi"))), .handler 0 (.relays last), .handler 0 .reports,
    .processes] ++
      List.replicate effects (.executes 3)

/-- The gateway after some actions; one that is not possible is left out. -/
def takeActions (actions : List (GatewayAction Nat Nat Nat Nat)) :
    StreamingGateway Nat Nat Nat Nat :=
  actions.foldl (fun gateway action => (gatewayStep (fun _ _ => 0) gateway action).getD gateway)
    (StreamingGateway.new Nat Nat Nat Nat 0 60 30 30)

/-- The gateway after the worker failed, and both terminal frames of the kernel were sent. -/
def failedChat : StreamingGateway Nat Nat Nat Nat :=
  takeActions (chatActions (.error "out of memory") 2)

/-- Chunks, an error at most, and Done. -/
def WellFormed (frames : List StreamFrame) : Prop :=
  ∃ (chunks : List Value) (error? : Option String),
    frames = chunks.map .chunk ++ error?.toList.map .error ++ [.done]

theorem streamingSystem_step {before after : StreamingGateway Nat Nat Nat Nat}
    {action : GatewayAction Nat Nat Nat Nat}
    (possible : gatewayStep (fun _ _ => 0) before action = some after) :
    (streamingSystem fun _ _ => 0).step before action after :=
  ⟨before.runtime.state, GatewayState.Reorder.refl _, possible⟩

/-- The worker's error reaches the client twice: from the relay, and from the kernel. -/
theorem worker_error_sent_twice :
    ¬ ∀ trace (gateway : StreamingGateway Nat Nat Nat Nat) (channel : Nat) (client : Client Nat),
      (streamingSystem fun _ _ => 0).Execution trace gateway →
      gateway.clients[channel]? = some client → gateway.Finished client →
        WellFormed (client.channel.map (·.2)) := by
  intro claim
  have run : (streamingSystem fun _ _ => 0).Execution
      (chatActions (.error "out of memory") 2) failedChat :=
    .foldlM (fun _ _ _ => streamingSystem_step) ⟨0, 60, 30, 30, rfl⟩ rfl
  have finished : failedChat.Finished
      ⟨7, .requested, [(.relay, .chunk (.string "hi")), (.relay, .error "out of memory"),
        (.kernel, .error "out of memory"), (.kernel, .done)]⟩ :=
    ⟨rfl, by decide +kernel, by decide +kernel, by decide +kernel⟩
  obtain ⟨chunks, error?, frames⟩ := claim _ failedChat 0 _ run rfl finished
  -- the second frame is an error, so there is one chunk, and then one error too many
  cases chunks with
  | nil => cases error? <;> simp at frames
  | cons first more =>
      cases more with
      | nil => cases error? <;> simp at frames
      | cons second more => simp at frames

/-- The gateway after the worker ended the job, and the terminal frame of the kernel was sent. -/
def endedChat : StreamingGateway Nat Nat Nat Nat := takeActions (chatActions .end 1)

/-- The steps of a chat with one worker and one client. -/
def chatSteps (last : WorkerMessage) (effects : Nat) :
    List (RecordedStep Nat Nat Nat Nat) :=
  TransitionSystem.takeSteps (gatewayStep fun _ _ => 0)
    (StreamingGateway.new Nat Nat Nat Nat 0 60 30 30) (chatActions last effects)

/-- A relay reads a worker message while stream 7 is active only. -/
def relaysInTime (gateway : StreamingGateway Nat Nat Nat Nat) :
    GatewayAction Nat Nat Nat Nat → Bool
  | .handler _ (.relays _) => decide (7 ∈ gateway.runtime.state.activeStreams)
  | _ => true

theorem relaysInTime_sound (gateway : StreamingGateway Nat Nat Nat Nat)
    (action : GatewayAction Nat Nat Nat Nat) (passes : relaysInTime gateway action = true) :
    ¬ gateway.RelaysLate 7 action := by
  cases action with
  | handler position next =>
      cases next with
      | relays message => exact fun late => late.2 (of_decide_eq_true passes)
      | _ => exact id
  | _ => exact id

theorem relaysInTime_of_all {steps : List (RecordedStep Nat Nat Nat Nat)}
    (passes : steps.all (fun taken => relaysInTime taken.before taken.label) = true) :
    ∀ taken ∈ steps, ¬ taken.before.RelaysLate 7 taken.label :=
  fun taken member => relaysInTime_sound _ _ (List.all_eq_true.mp passes taken member)

/-- The relay read a chunk and the end; its chunk and its Done come before the kernel's Done. -/
theorem worker_end_in_order :
    notes 7 (chatSteps .end 1) = [.read (.chunk (.string "hi")), .read .end] ∧
      ∃ client, endedChat.clients[0]? = some client ∧
        client.channel =
          [(.relay, .chunk (.string "hi")), (.relay, .done), (.kernel, .done)] ∧
        ∃ chunks jobEnd,
          FramesAgree (notes 7 (chatSteps .end 1)) client.channel (endedChat.Finished client) chunks
            jobEnd ∧
          client.channel = (framesBy .relay client.channel).map (.relay, ·) ++
            (framesBy .kernel client.channel).map (.kernel, ·) := by
  have run : (streamingSystem fun _ _ => 0).recorded.Execution (chatSteps .end 1) endedChat :=
    .takeSteps (fun _ _ _ => streamingSystem_step) ⟨0, 60, 30, 30, rfl⟩ rfl
  refine ⟨by decide +kernel, ⟨7, .requested,
    [(.relay, .chunk (.string "hi")), (.relay, .done), (.kernel, .done)]⟩, rfl, rfl, ?_⟩
  obtain ⟨chunks, jobEnd, agree, inOrder⟩ :=
    client_frames (fun _ _ => 0) (chatSteps .end 1) endedChat 0 _ run rfl
  exact ⟨chunks, jobEnd, agree, inOrder (relaysInTime_of_all (by decide +kernel))⟩

end ProstheticConscience.Gateway
