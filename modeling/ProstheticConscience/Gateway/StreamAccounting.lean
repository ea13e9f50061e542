/-
Module: ProstheticConscience.Gateway.StreamAccounting
Purpose: What one kernel transition does to one client stream, and the balance of requests and
  terminal frames over whole runs that follows from it.
Trusted boundary: none
Main exports: effectsFor, StreamStep, reduce_streamStep, run_conserves_terminal_frames
-/
import ProstheticConscience.Gateway.Kernel

namespace ProstheticConscience.Gateway

variable {WId SId SubId : Type}

/-- The client stream an effect is addressed to. -/
def Effect.clientStreamId? : Effect WId SId SubId → Option SId
  | .dispatchJob job => some job.clientStreamId
  | .sendClientError error => some error.clientStreamId
  | .sendClientDone done => some done.clientStreamId
  | _ => none

@[simp] theorem clientStreamId?_dispatchJob (job : DispatchJob WId SId) :
    (Effect.dispatchJob job : Effect WId SId SubId).clientStreamId? = some job.clientStreamId := rfl

@[simp] theorem clientStreamId?_sendClientError (error : SendClientError SId) :
    (Effect.sendClientError error : Effect WId SId SubId).clientStreamId? =
      some error.clientStreamId := rfl

@[simp] theorem clientStreamId?_sendClientDone (done : SendClientDone SId) :
    (Effect.sendClientDone done : Effect WId SId SubId).clientStreamId? =
      some done.clientStreamId := rfl

@[simp] theorem clientStreamId?_sessionEffect (effect : Session.Effect SubId) :
    (Effect.sessionEffect effect : Effect WId SId SubId).clientStreamId? = none := rfl

@[simp] theorem clientStreamId?_sessionCreated (sessionId : SessionId) (subscriberId : SubId) :
    (Effect.sessionCreated sessionId subscriberId : Effect WId SId SubId).clientStreamId? =
      none := rfl

@[simp] theorem clientStreamId?_violation (source : ViolationSource) (message : String) :
    (violation source message : Effect WId SId SubId).clientStreamId? = none := rfl

/-- The stream on which an event requests a completion. -/
def Event.requestedStream? : Event WId SId SubId → Option SId
  | .httpChatRequested clientStreamId _ _ _ => some clientStreamId
  | _ => none

section EffectsFor

variable [DecidableEq SId]

/-- The effects addressed to one stream, in order of emission. -/
def effectsFor (sid : SId) (effects : List (Effect WId SId SubId)) :
    List (Effect WId SId SubId) :=
  effects.filter fun effect => decide (effect.clientStreamId? = some sid)

@[simp] theorem effectsFor_nil (sid : SId) :
    effectsFor sid ([] : List (Effect WId SId SubId)) = [] := rfl

/-- The effects for a stream, of two parts. -/
@[simp] theorem effectsFor_append (sid : SId) (first second : List (Effect WId SId SubId)) :
    effectsFor sid (first ++ second) = effectsFor sid first ++ effectsFor sid second := by
  simp [effectsFor]

/-- The effects for a stream, by the first effect. -/
@[simp] theorem effectsFor_cons (sid : SId) (effect : Effect WId SId SubId)
    (rest : List (Effect WId SId SubId)) :
    effectsFor sid (effect :: rest) =
      if effect.clientStreamId? = some sid then effect :: effectsFor sid rest
      else effectsFor sid rest := by
  simp [effectsFor, List.filter_cons]

/-- An error and the end of a stream are for this stream only. -/
@[simp] theorem effectsFor_errorThenDone (sid other : SId) (message : String) :
    effectsFor sid (errorThenDone other message : List (Effect WId SId SubId)) =
      if other = sid then errorThenDone sid message else [] := by
  by_cases same : other = sid
  · subst same
    simp [errorThenDone]
  · simp [errorThenDone, same]

/-- Effects that concern no stream leave nothing for any stream. -/
theorem effectsFor_eq_nil {sid : SId} {effects : List (Effect WId SId SubId)}
    (silent : ∀ effect ∈ effects, effect.clientStreamId? = none) :
    effectsFor sid effects = [] := by
  rw [effectsFor, List.filter_eq_nil_iff]
  intro effect member
  simp [silent effect member]

/-- Effects of sessions are for no stream. -/
@[simp] theorem effectsFor_sessionEffects (sid : SId) (effects : List (Session.Effect SubId)) :
    effectsFor sid (effects.map .sessionEffect : List (Effect WId SId SubId)) = [] := by
  apply effectsFor_eq_nil
  intro effect member
  obtain ⟨_, _, rfl⟩ := List.mem_map.mp member
  rfl

/-- Terminal effects of a duplicate-free list of streams: each stream gets its own pair. -/
theorem effectsFor_flatMap_errorThenDone (sid : SId) (message : String) :
    ∀ {sids : List SId}, sids.Nodup →
      effectsFor sid
          (sids.flatMap fun other => (errorThenDone other message :
            List (Effect WId SId SubId))) =
        if sid ∈ sids then errorThenDone sid message else []
  | [], _ => by simp
  | head :: rest, distinct => by
      obtain ⟨headFresh, restDistinct⟩ := List.nodup_cons.mp distinct
      rw [List.flatMap_cons, effectsFor_append, effectsFor_errorThenDone,
        effectsFor_flatMap_errorThenDone sid message restDistinct]
      by_cases same : head = sid
      · subst same
        simp [headFresh]
      · simp [same, Ne.symm same]

end EffectsFor

/-! ### The expiry loops of a tick -/

/-- A stream is expired exactly when its deadline is reached. -/
theorem mem_expiredStreams [DecidableEq SId] {tick : Nat} {activeStreams : AssocMap SId Nat}
    {sid : SId} :
    sid ∈ expiredStreams tick activeStreams ↔
      ∃ deadline, activeStreams.lookup sid = some deadline ∧ deadline ≤ tick := by
  unfold expiredStreams
  simp only [List.mem_map, List.mem_filter, decide_eq_true_eq]
  constructor
  · rintro ⟨⟨key, deadline⟩, ⟨member, due⟩, rfl⟩
    exact ⟨deadline, AssocMap.mem_entries_iff.mp member, due⟩
  · rintro ⟨deadline, found, due⟩
    exact ⟨⟨sid, deadline⟩, ⟨AssocMap.mem_entries_iff.mpr found, due⟩, rfl⟩

/-- No stream is expired twice in one tick. -/
theorem expiredStreams_nodup (tick : Nat) (activeStreams : AssocMap SId Nat) :
    (expiredStreams tick activeStreams).Nodup := by
  have sublist : (expiredStreams tick activeStreams).Sublist activeStreams.keys :=
    (List.filter_sublist (l := activeStreams.entries)).map _
  exact sublist.nodup activeStreams.keys_nodup

/-- Erasing some streams leaves the others. -/
theorem mem_foldl_erase [DecidableEq SId] (sid : SId) :
    ∀ (sids : List SId) (streams : AssocMap SId Nat),
      sid ∈ sids.foldl (fun streams sid => streams.erase sid) streams ↔
        sid ∉ sids ∧ sid ∈ streams
  | [], streams => by simp
  | head :: rest, streams => by
      rw [List.foldl_cons, mem_foldl_erase sid rest, AList.mem_erase, List.mem_cons]
      tauto

section Silence

variable [DecidableEq SubId]

/-- The ticks of sessions are for no stream. -/
theorem tickSessions_silent (tick : Nat)
    (sessions : AssocMap SessionId (Session.State SubId)) :
    ∀ effect ∈ (tickSessions tick sessions :
      AssocMap SessionId (Session.State SubId) × List (Effect WId SId SubId)).2,
      effect.clientStreamId? = none := by
  unfold tickSessions
  refine List.foldlRecOn
    (motive := fun acc : AssocMap SessionId (Session.State SubId) × List (Effect WId SId SubId) =>
      ∀ effect ∈ acc.2, effect.clientStreamId? = none)
    sessions.entries _ (by simp) ?_
  intro acc silent entry _ effect member
  rcases List.mem_append.mp member with earlier | now
  · exact silent effect earlier
  · obtain ⟨_, _, rfl⟩ := List.mem_map.mp now
    rfl

omit [DecidableEq SubId] in
/-- The expiry of sessions is for no stream. -/
theorem expireSessions_silent (sessions : AssocMap SessionId (Session.State SubId)) :
    ∀ effect ∈ (expireSessions sessions :
      AssocMap SessionId (Session.State SubId) × List (Effect WId SId SubId)).2,
      effect.clientStreamId? = none := by
  unfold expireSessions
  refine List.foldlRecOn
    (motive := fun acc : AssocMap SessionId (Session.State SubId) × List (Effect WId SId SubId) =>
      ∀ effect ∈ acc.2, effect.clientStreamId? = none)
    _ _ (by simp) ?_
  intro acc silent sessionId _
  split
  · intro effect member
    rcases List.mem_append.mp member with earlier | now
    · exact silent effect earlier
    · rw [List.mem_singleton.mp now]
      rfl
  · exact silent

end Silence

/-! ### One transition seen from one stream

`StreamStep` says what a transition can do to one stream: dispatch it, end it with its terminal
frames, turn a request down, or leave it alone. Conservation is a count over these. -/

section Reducer

variable [LinearOrder WId] [DecidableEq SId] [DecidableEq SubId] [ToString WId] [ToString SId]

/-- Everything one transition can do to the stream `sid`: whether it is active before and after,
and which effects are addressed to it. -/
inductive StreamStep (sid : SId) (event : Event WId SId SubId)
    (before after : GatewayState WId SId SubId) (effects : List (Effect WId SId SubId)) : Prop
  /-- The event is no request for the stream, and the stream is left alone. -/
  | untouched (noRequest : event.requestedStream? ≠ some sid)
      (same : sid ∈ after.activeStreams ↔ sid ∈ before.activeStreams)
      (emitted : effectsFor sid effects = [])
  /-- A request is turned down before dispatch. -/
  | rejected (payload : Value) (stream : Bool) (capability : Capability) (message : String)
      (request : event = .httpChatRequested sid payload stream capability)
      (same : sid ∈ after.activeStreams ↔ sid ∈ before.activeStreams)
      (emitted : effectsFor sid effects = errorThenDone sid message)
  /-- A request is handed to a worker. -/
  | dispatched (payload : Value) (capability : Capability) (workerId : WId)
      (request : event = .httpChatRequested sid payload true capability)
      (inactive : sid ∉ before.activeStreams) (active : sid ∈ after.activeStreams)
      (emitted : effectsFor sid effects =
        [.dispatchJob { workerId, clientStreamId := sid, capability, payload }])
  /-- The relay reported the end of the job. -/
  | cleared (report : event = .assignmentCleared sid)
      (active : sid ∈ before.activeStreams) (inactive : sid ∉ after.activeStreams)
      (emitted : effectsFor sid effects = [.sendClientDone { clientStreamId := sid }])
  /-- The job failed. -/
  | failed (message : String) (report : event = .assignmentFailed sid message)
      (active : sid ∈ before.activeStreams) (inactive : sid ∉ after.activeStreams)
      (emitted : effectsFor sid effects = errorThenDone sid message)
  /-- A tick passed the deadline. -/
  | expired (tick : event = .tick)
      (active : sid ∈ before.activeStreams) (inactive : sid ∉ after.activeStreams)
      (emitted : effectsFor sid effects = errorThenDone sid "stream timed out")

omit [LinearOrder WId] [DecidableEq SubId] [ToString WId] [ToString SId] in
/-- A request for another stream, whatever the kernel decides, leaves this stream alone. -/
theorem StreamStep.other_request {sid other : SId} {payload : Value} {stream : Bool}
    {capability : Capability} {before after : GatewayState WId SId SubId}
    {effects : List (Effect WId SId SubId)} (different : other ≠ sid)
    (same : sid ∈ after.activeStreams ↔ sid ∈ before.activeStreams)
    (emitted : effectsFor sid effects = []) :
    StreamStep sid (.httpChatRequested other payload stream capability) before after effects :=
  .untouched (fun requested => different (Option.some.inj requested)) same emitted

/-- What a request does to any one stream: to its own it is a dispatch or a rejection, to another
nothing. -/
theorem reduce_request_streamStep (sessionHash : Nat → Nat → Nat)
    (state : GatewayState WId SId SubId) (sid other : SId) (payload : Value) (stream : Bool)
    (capability : Capability) :
    StreamStep sid (.httpChatRequested other payload stream capability) state
      (reduce sessionHash state (.httpChatRequested other payload stream capability)).state
      (reduce sessionHash state (.httpChatRequested other payload stream capability)).effects := by
  simp only [reduce]
  by_cases different : other ≠ sid
  · split
    · exact .other_request different Iff.rfl (by simp [different])
    · split
      · exact .other_request different Iff.rfl (by simp [different])
      · split
        · exact .other_request different (by simp [Ne.symm different])
            (by simp [different])
        · exact .other_request different Iff.rfl (by simp [different])
  · obtain rfl : other = sid := not_not.mp different
    split
    · exact .rejected _ _ _ _ rfl Iff.rfl (by rw [effectsFor_errorThenDone, if_pos rfl])
    · rename_i streaming
      obtain rfl : stream = true := by simpa using streaming
      split
      · exact .rejected _ _ _ _ rfl Iff.rfl (by rw [effectsFor_errorThenDone, if_pos rfl])
      · rename_i inactive
        split
        · exact .dispatched _ _ _ rfl inactive (by simp)
            (by rw [effectsFor_cons, clientStreamId?_dispatchJob, if_pos rfl, effectsFor_nil])
        · exact .rejected _ _ _ _ rfl Iff.rfl (by rw [effectsFor_errorThenDone, if_pos rfl])

/-- What a tick does to any one stream: it expires it with its terminal frames, or leaves it alone.
-/
theorem reduce_tick_streamStep (sessionHash : Nat → Nat → Nat)
    (state : GatewayState WId SId SubId) (sid : SId) :
    StreamStep sid .tick state (reduce sessionHash state .tick).state
      (reduce sessionHash state .tick).effects := by
  have emitted : effectsFor sid (reduce sessionHash state .tick).effects =
      if sid ∈ expiredStreams (state.tick + 1) state.activeStreams then
        errorThenDone sid "stream timed out" else [] := by
    simp only [reduce, effectsFor_append]
    rw [effectsFor_flatMap_errorThenDone sid _ (expiredStreams_nodup _ _),
      effectsFor_eq_nil (tickSessions_silent _ _), effectsFor_eq_nil (expireSessions_silent _)]
    simp
  have remaining : sid ∈ (reduce sessionHash state .tick).state.activeStreams ↔
      sid ∉ expiredStreams (state.tick + 1) state.activeStreams ∧ sid ∈ state.activeStreams := by
    simp only [reduce]
    exact mem_foldl_erase sid _ _
  by_cases due : sid ∈ expiredStreams (state.tick + 1) state.activeStreams
  · obtain ⟨deadline, found, _⟩ := mem_expiredStreams.mp due
    exact .expired rfl (AssocMap.mem_iff_lookup.mpr ⟨deadline, found⟩)
      (fun active => (remaining.mp active).1 due) (by rw [emitted, if_pos due])
  · exact .untouched nofun (by rw [remaining]; simp [due]) (by rw [emitted, if_neg due])

/-- Every transition does one of the six things of `StreamStep` to every stream. -/
theorem reduce_streamStep (sessionHash : Nat → Nat → Nat) (state : GatewayState WId SId SubId)
    (event : Event WId SId SubId) (sid : SId) :
    StreamStep sid event state (reduce sessionHash state event).state
      (reduce sessionHash state event).effects := by
  cases event with
  | httpChatRequested other payload stream capability =>
      exact reduce_request_streamStep sessionHash state sid other payload stream capability
  | workerRegistered workerId capabilities =>
      simp only [reduce]
      split <;> exact .untouched nofun Iff.rfl (by simp)
  | assignmentCleared other =>
      simp only [reduce]
      split
      · exact .untouched nofun Iff.rfl (by simp)
      · rename_i active
        by_cases same : other = sid
        · subst same
          exact .cleared rfl (not_not.mp active) (by simp [AList.mem_erase])
            (by simp)
        · exact .untouched nofun (by simp [AList.mem_erase, Ne.symm same])
            (by simp [same])
  | assignmentFailed other message =>
      simp only [reduce]
      split
      · exact .untouched nofun Iff.rfl (by simp)
      · rename_i active
        by_cases same : other = sid
        · subst same
          exact .failed message rfl (not_not.mp active) (by simp [AList.mem_erase]) (by simp)
        · exact .untouched nofun (by simp [AList.mem_erase, Ne.symm same]) (by simp [same])
  | workerHeartbeat workerId =>
      simp only [reduce]
      split <;> exact .untouched nofun Iff.rfl (by simp)
  | streamHeartbeat other =>
      simp only [reduce]
      split
      · exact .untouched nofun Iff.rfl (by simp)
      · rename_i active
        refine .untouched nofun ?_ rfl
        rw [AssocMap.mem_update]
        exact ⟨fun h => h.elim (fun same => same ▸ not_not.mp active) id, Or.inr⟩
  | tick => exact reduce_tick_streamStep sessionHash state sid
  | sessionRequested subscriberId =>
      exact .untouched nofun Iff.rfl (by simp [reduce])
  | sessionEvent sessionId sessionEvent =>
      simp only [reduce]
      split
      · exact .untouched nofun Iff.rfl (by simp)
      · refine .untouched nofun Iff.rfl ?_
        cases cleanupSubId sessionEvent <;> simp

/-! ### Whole runs -/

omit [LinearOrder WId] [DecidableEq SId] [DecidableEq SubId] [ToString WId] [ToString SId] in
/-- Reordering the maps between two events changes no membership. -/
theorem GatewayState.Reorder.mem_activeStreams [DecidableEq SubId]
    {before after : GatewayState WId SId SubId} (reorder : before.Reorder after) (sid : SId) :
    sid ∈ after.activeStreams ↔ sid ∈ before.activeStreams :=
  (reorder.activeStreams.mem_iff sid).symm

/-- Number of requests on a stream in a trace. -/
def requestCount (sid : SId)
    (trace : List (Event WId SId SubId × List (Effect WId SId SubId))) : Nat :=
  trace.countP fun label => decide (label.1.requestedStream? = some sid)

/-- Number of terminal frames emitted for a stream in a trace. -/
def doneCount (sid : SId)
    (trace : List (Event WId SId SubId × List (Effect WId SId SubId))) : Nat :=
  (trace.flatMap fun label => label.2).count (.sendClientDone { clientStreamId := sid })

/-- One for an active stream, zero otherwise. -/
def activeCount (sid : SId) (state : GatewayState WId SId SubId) : Nat :=
  if sid ∈ state.activeStreams then 1 else 0

omit [ToString WId] [ToString SId] in
/-- Only the effects addressed to a stream can be its terminal frame. -/
theorem count_done_effectsFor (sid : SId) (effects : List (Effect WId SId SubId)) :
    (effectsFor sid effects).count (.sendClientDone { clientStreamId := sid }) =
      effects.count (.sendClientDone { clientStreamId := sid }) := by
  rw [effectsFor, List.count_filter]
  simp

omit [ToString WId] [ToString SId] in
/-- The balance of one transition. -/
theorem StreamStep.balance {sid : SId} {event : Event WId SId SubId}
    {before after : GatewayState WId SId SubId} {effects : List (Effect WId SId SubId)}
    (streamStep : StreamStep sid event before after effects) :
    requestCount sid [(event, effects)] + activeCount sid before =
      doneCount sid [(event, effects)] + activeCount sid after := by
  have done : doneCount sid [(event, effects)] =
      (effectsFor sid effects).count (.sendClientDone { clientStreamId := sid }) := by
    rw [count_done_effectsFor]
    simp [doneCount]
  rw [done]
  cases streamStep with
  | untouched noRequest same emitted =>
      simp [requestCount, activeCount, noRequest, same, emitted]
  | rejected payload stream capability message request same emitted =>
      subst request
      rw [emitted]
      simp [requestCount, activeCount, Event.requestedStream?, same, errorThenDone]
  | dispatched payload capability workerId request inactive active emitted =>
      subst request
      simp [requestCount, activeCount, Event.requestedStream?, inactive, active, emitted]
  | cleared report active inactive emitted =>
      subst report
      simp [requestCount, activeCount, Event.requestedStream?, inactive, active, emitted]
  | failed message report active inactive emitted =>
      subst report
      rw [emitted]
      simp [requestCount, activeCount, Event.requestedStream?, inactive, active, errorThenDone]
  | expired tick active inactive emitted =>
      subst tick
      rw [emitted]
      simp [requestCount, activeCount, Event.requestedStream?, inactive, active, errorThenDone]

/-- What a step of the kernel system does to a stream. -/
theorem kernelSystem_streamStep {sessionHash : Nat → Nat → Nat}
    {before after : GatewayState WId SId SubId}
    {label : Event WId SId SubId × List (Effect WId SId SubId)}
    (step : (kernelSystem sessionHash).step before label after) (sid : SId) :
    ∃ shuffled, before.Reorder shuffled ∧ StreamStep sid label.1 shuffled after label.2 := by
  obtain ⟨shuffled, reorder, reduced⟩ := step
  have streamStep := reduce_streamStep sessionHash shuffled label.1 sid
  rw [reduced] at streamStep
  exact ⟨shuffled, reorder, streamStep⟩

/-- A stream leaves `activeStreams` only together with its terminal frame, and enters only
together with its dispatch. -/
theorem kernelSystem_step_terminal {sessionHash : Nat → Nat → Nat}
    {before after : GatewayState WId SId SubId}
    {label : Event WId SId SubId × List (Effect WId SId SubId)}
    (step : (kernelSystem sessionHash).step before label after) (sid : SId) :
    (sid ∈ before.activeStreams → sid ∉ after.activeStreams →
      .sendClientDone { clientStreamId := sid } ∈ label.2) ∧
    (sid ∉ before.activeStreams → sid ∈ after.activeStreams →
      ∃ job, job.clientStreamId = sid ∧ .dispatchJob job ∈ label.2) := by
  obtain ⟨shuffled, reorder, streamStep⟩ := kernelSystem_streamStep step sid
  have sameBefore := reorder.mem_activeStreams sid
  have emittedMem : ∀ {effect}, effect ∈ effectsFor sid label.2 → effect ∈ label.2 :=
    fun member => List.mem_of_mem_filter member
  cases streamStep with
  | untouched noRequest same emitted => tauto
  | rejected payload stream capability message request same emitted => tauto
  | dispatched payload capability workerId request inactive active emitted =>
      exact ⟨fun wasActive => absurd (sameBefore.mpr wasActive) inactive,
        fun _ _ => ⟨_, rfl, emittedMem (by rw [emitted]; exact List.mem_singleton.mpr rfl)⟩⟩
  | cleared report active inactive emitted =>
      exact ⟨fun _ _ => emittedMem (by simp [emitted]), fun _ isActive => absurd isActive inactive⟩
  | failed message report active inactive emitted =>
      exact ⟨fun _ _ => emittedMem (by simp [emitted, errorThenDone]),
        fun _ isActive => absurd isActive inactive⟩
  | expired tick active inactive emitted =>
      exact ⟨fun _ _ => emittedMem (by simp [emitted, errorThenDone]),
        fun _ isActive => absurd isActive inactive⟩

/-- The balance of a whole run. -/
theorem execution_balance {sessionHash : Nat → Nat → Nat}
    {trace : List (Event WId SId SubId × List (Effect WId SId SubId))}
    {state : GatewayState WId SId SubId}
    (run : (kernelSystem sessionHash).Execution trace state) (sid : SId) :
    requestCount sid trace = doneCount sid trace + activeCount sid state := by
  refine run.invariant (I := fun trace state =>
    requestCount sid trace = doneCount sid trace + activeCount sid state) ?_ ?_
  · rintro _ ⟨runtimeId, workerTtl, streamTtl, subscriberTtl, rfl⟩
    simp [requestCount, doneCount, activeCount, GatewayState.new]
  · intro trace before label after _ balance step
    obtain ⟨shuffled, reorder, streamStep⟩ := kernelSystem_streamStep step sid
    have stepBalance : requestCount sid [label] + activeCount sid shuffled =
        doneCount sid [label] + activeCount sid after := streamStep.balance
    have sameCount : activeCount sid shuffled = activeCount sid before := by
      simp [activeCount, reorder.mem_activeStreams sid]
    have requests : requestCount sid (trace ++ [label]) =
        requestCount sid trace + requestCount sid [label] := by
      simp [requestCount]
    have dones : doneCount sid (trace ++ [label]) =
        doneCount sid trace + doneCount sid [label] := by
      simp [doneCount]
    omega

/-- Conservation of terminal frames: in every run, every request on a stream is matched by exactly
one terminal frame, but for the one assignment that is still active; and a stream changes its
membership only together with the matching effect. -/
theorem run_conserves_terminal_frames {sessionHash : Nat → Nat → Nat}
    {trace : List (Event WId SId SubId × List (Effect WId SId SubId))}
    {state : GatewayState WId SId SubId}
    (run : (kernelSystem sessionHash).Execution trace state) (sid : SId) :
    requestCount sid trace =
        doneCount sid trace + (if sid ∈ state.activeStreams then 1 else 0) ∧
      ∀ (before after : GatewayState WId SId SubId) label,
        (kernelSystem sessionHash).step before label after →
        (sid ∈ before.activeStreams → sid ∉ after.activeStreams →
          .sendClientDone { clientStreamId := sid } ∈ label.2) ∧
        (sid ∉ before.activeStreams → sid ∈ after.activeStreams →
          ∃ job, job.clientStreamId = sid ∧ .dispatchJob job ∈ label.2) :=
  ⟨execution_balance run sid, fun _ _ _ step => kernelSystem_step_terminal step sid⟩

/-- A worker, a request that is dispatched, a second request on the same stream that is turned
down, and a request that is turned down for want of a worker. -/
def contendedRun : List (Event Nat Nat Nat) :=
  [.workerRegistered 1 {.chat}, .httpChatRequested 7 .null true .chat,
    .httpChatRequested 7 .null true .chat, .httpChatRequested 8 .null true .chat, .tick]

/-- In this run the counts differ by the one stream that is still active. -/
theorem contendedRun_conserves_terminal_frames :
    requestCount 7 (runEvents (fun _ _ => 0) (GatewayState.new Nat Nat Nat 0 60 30 30)
        contendedRun).1 =
      doneCount 7 (runEvents (fun _ _ => 0) (GatewayState.new Nat Nat Nat 0 60 30 30)
        contendedRun).1 + 1 :=
  (run_conserves_terminal_frames
    (execution_runEvents (fun _ _ => 0) 0 60 30 30 contendedRun) 7).1.trans
    (by rw [if_pos (by decide)])

end Reducer

end ProstheticConscience.Gateway
