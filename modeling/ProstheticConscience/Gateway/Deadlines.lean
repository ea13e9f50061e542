/-
Module: ProstheticConscience.Gateway.Deadlines
Purpose: The deadlines of workers, streams and subscribers as timers of the kernel's clock: who is
  refreshed when, and at which tick who is dropped.
Trusted boundary: none
Main exports: Holder, deadlineOf, refreshes, leaves, timerOf_turn, timedSystem,
  deadlines_fire_on_time
-/
import ProstheticConscience.Gateway.Workers
import ProstheticConscience.Library.Deadline

namespace ProstheticConscience.Gateway

variable {WId SId SubId : Type}

/-- Who has a deadline. -/
inductive Holder (WId SId SubId : Type) where
  | worker (workerId : WId)
  | stream (clientStreamId : SId)
  | subscriber (sessionId : SessionId) (subscriberId : SubId)
deriving DecidableEq, Repr

section Definitions

variable [DecidableEq WId] [DecidableEq SId] [DecidableEq SubId]

/-- The deadline of a holder that is there. -/
def deadlineOf (state : GatewayState WId SId SubId) : Holder WId SId SubId → Option Nat
  | .worker workerId => (state.available.lookup workerId).map (·.deadline)
  | .stream clientStreamId => state.activeStreams.lookup clientStreamId
  | .subscriber sessionId subscriberId =>
      (state.sessions.lookup sessionId).bind (·.subscribers.lookup subscriberId)

/-- How many ticks a refresh is good for. -/
def ttlOf (state : GatewayState WId SId SubId) : Holder WId SId SubId → Nat
  | .worker _ => state.workerTtl
  | .stream _ => state.streamTtl
  | .subscriber _ _ => state.subscriberTtl

/-- The kernel reports no violation. -/
def isAccepted (effects : List (Effect WId SId SubId)) : Bool :=
  !effects.any (·.isViolation)

/-- The step registers the holder, dispatches on it, subscribes it or accepts its heartbeat. -/
def refreshes (holder : Holder WId SId SubId) (step : KernelStep WId SId SubId) : Bool :=
  match holder, step.label.1 with
  | .worker workerId, .workerRegistered registered _ =>
      decide (workerId = registered) && isAccepted step.label.2
  | .worker workerId, .workerHeartbeat beating =>
      decide (workerId = beating) && isAccepted step.label.2
  | .stream clientStreamId, .httpChatRequested requested _ _ _ =>
      decide (clientStreamId = requested) &&
        step.label.2.any fun effect => effect.dispatchedTo?.isSome
  | .stream clientStreamId, .streamHeartbeat beating =>
      decide (clientStreamId = beating) && isAccepted step.label.2
  | .subscriber sessionId subscriberId, .sessionRequested _ =>
      decide (.sessionCreated sessionId subscriberId ∈ step.label.2)
  | .subscriber sessionId subscriberId, .sessionEvent addressed (.subscribed entering _) =>
      decide (sessionId = addressed) && decide (subscriberId = entering) &&
        isAccepted step.label.2
  | .subscriber sessionId subscriberId, .sessionEvent addressed (.subscriberHeartbeat beating _) =>
      decide (sessionId = addressed) && decide (subscriberId = beating) &&
        (deadlineOf step.before holder).isSome
  | _, _ => false

/-- The holder is gone after an event other than a tick. -/
def leaves (holder : Holder WId SId SubId) (step : KernelStep WId SId SubId) : Bool :=
  !step.label.1.isTick && (deadlineOf step.before holder).isSome &&
    (deadlineOf step.after holder).isNone

/-- The clock and the deadline of a holder. -/
def timerOf (state : GatewayState WId SId SubId) (holder : Holder WId SId SubId) : Timer where
  now := state.tick
  deadline := deadlineOf state holder

/-- What a step does to the deadline of a holder. -/
def changeOf (holder : Holder WId SId SubId) (step : KernelStep WId SId SubId) : Timer.Change :=
  if step.label.1.isTick then .ticked
  else if refreshes holder step then .refreshed
  else if (deadlineOf step.after holder).isSome then .kept
  else .left

end Definitions

/-! ### One turn of the kernel

A deadline is set by what registers or refreshes, and looked at by ticks only. Each turn is said to
keep, to renew or to end the time of one worker, stream or subscriber. -/

section Reducer

variable [LinearOrder WId] [DecidableEq SId] [DecidableEq SubId] [ToString WId] [ToString SId]
  {sessionHash : Nat → Nat → Nat}

/-- Everything an event other than a tick can do to a deadline. -/
structure Moves (holder : Holder WId SId SubId) (step : KernelStep WId SId SubId) : Prop where
  refreshed : refreshes holder step = true →
    deadlineOf step.after holder = some (step.before.tick + ttlOf step.before holder)
  otherwise : refreshes holder step = false →
    deadlineOf step.after holder = none ∨
      deadlineOf step.after holder = deadlineOf step.before holder

omit [ToString WId] [ToString SId] in
/-- A step that leaves the deadline alone and refreshes nothing. -/
theorem Moves.of_same {holder : Holder WId SId SubId} {step : KernelStep WId SId SubId}
    (quiet : refreshes holder step = false)
    (same : deadlineOf step.after holder = deadlineOf step.before holder) : Moves holder step where
  refreshed refreshed := absurd (quiet.symm.trans refreshed) Bool.false_ne_true
  otherwise _ := .inr same

omit [ToString WId] [ToString SId] in
/-- A step after which the holder is gone. -/
theorem Moves.of_none {holder : Holder WId SId SubId} {step : KernelStep WId SId SubId}
    (quiet : refreshes holder step = false)
    (gone : deadlineOf step.after holder = none) : Moves holder step where
  refreshed refreshed := absurd (quiet.symm.trans refreshed) Bool.false_ne_true
  otherwise _ := .inl gone

omit [ToString WId] [ToString SId] in
/-- A step that refreshes the deadline. -/
theorem Moves.of_refreshed {holder : Holder WId SId SubId} {step : KernelStep WId SId SubId}
    (refreshed : refreshes holder step = true)
    (set : deadlineOf step.after holder = some (step.before.tick + ttlOf step.before holder)) :
    Moves holder step where
  refreshed _ := set
  otherwise quiet := absurd (quiet.symm.trans refreshed) Bool.false_ne_true

/-- An event of a session moves the deadlines of subscribers only. -/
theorem moves_sessionEvent (state : GatewayState WId SId SubId) (sessionId : SessionId)
    (event : Session.Event SubId) {holder : Holder WId SId SubId}
    (outside : ∀ sessionId subscriberId, holder ≠ .subscriber sessionId subscriberId) :
    Moves holder (turnStep sessionHash state (.sessionEvent sessionId event)) := by
  cases holder with
  | subscriber sessionId subscriberId => exact absurd rfl (outside sessionId subscriberId)
  | _ =>
      apply Moves.of_same
      · cases event <;> rfl
      · cases found : state.sessions.lookup sessionId with
        | some session => simp [turnStep, reduce_sessionEvent_some sessionHash found, deadlineOf]
        | none => simp [turnStep, reduce_sessionEvent_none sessionHash found]

theorem moves_worker (state : GatewayState WId SId SubId) {event : Event WId SId SubId}
    (notTick : event ≠ .tick) (workerId : WId) :
    Moves (.worker workerId) (turnStep sessionHash state event) := by
  cases event with
  | tick => exact absurd rfl notTick
  | httpChatRequested clientStreamId payload stream required =>
      rcases reduce_httpChatRequested_cases sessionHash state clientStreamId payload stream
        required with ⟨message, same⟩ | ⟨chosen, first, same⟩
      · apply Moves.of_same rfl
        simp [turnStep, same]
      · by_cases isChosen : workerId = chosen
        · subst isChosen
          apply Moves.of_none rfl
          simp [turnStep, same, deadlineOf]
        · apply Moves.of_same rfl
          simp [turnStep, same, deadlineOf, AList.lookup_erase_ne isChosen]
  | workerRegistered registered capabilities =>
      by_cases known : registered ∈ state.available
      · apply Moves.of_same
        · simp [turnStep, refreshes, reduce, known, isAccepted, violation, Effect.isViolation]
        · simp [turnStep, reduce, known]
      · by_cases isRegistered : workerId = registered
        · subst isRegistered
          apply Moves.of_refreshed
          · simp [turnStep, refreshes, reduce, known, isAccepted]
          · simp [turnStep, deadlineOf, reduce, known, ttlOf]
        · apply Moves.of_same
          · simp [turnStep, refreshes, isRegistered]
          · simp [turnStep, deadlineOf, reduce, known, AssocMap.lookup_update_ne _ _ isRegistered]
  | workerHeartbeat beating =>
      cases found : state.available.lookup beating with
      | none =>
          apply Moves.of_same
          · simp [turnStep, refreshes, reduce, found, isAccepted, violation, Effect.isViolation]
          · simp [turnStep, reduce, found]
      | some entry =>
          by_cases isBeating : workerId = beating
          · subst isBeating
            apply Moves.of_refreshed
            · simp [turnStep, refreshes, reduce, found, isAccepted]
            · simp [turnStep, deadlineOf, reduce, found, ttlOf]
          · apply Moves.of_same
            · simp [turnStep, refreshes, isBeating]
            · simp [turnStep, deadlineOf, reduce, found, AssocMap.lookup_update_ne _ _ isBeating,
                AList.lookup_erase_ne isBeating]
  | sessionRequested subscriberId => exact Moves.of_same rfl rfl
  | sessionEvent sessionId event => exact moves_sessionEvent state sessionId event (by simp)
  | _ =>
      apply Moves.of_same rfl
      unfold turnStep reduce
      dsimp only
      split <;> rfl

theorem moves_stream (state : GatewayState WId SId SubId) {event : Event WId SId SubId}
    (notTick : event ≠ .tick) (clientStreamId : SId) :
    Moves (.stream clientStreamId) (turnStep sessionHash state event) := by
  cases event with
  | tick => exact absurd rfl notTick
  | httpChatRequested requested payload stream required =>
      rcases reduce_httpChatRequested_cases sessionHash state requested payload stream
        required with ⟨message, same⟩ | ⟨chosen, first, same⟩
      · apply Moves.of_same
        · simp [turnStep, refreshes, same, errorThenDone, Effect.dispatchedTo?]
        · simp [turnStep, same]
      · by_cases isRequested : clientStreamId = requested
        · subst isRequested
          apply Moves.of_refreshed
          · simp [turnStep, refreshes, same, Effect.dispatchedTo?]
          · simp [turnStep, deadlineOf, same, ttlOf]
        · apply Moves.of_same
          · simp [turnStep, refreshes, isRequested]
          · simp [turnStep, deadlineOf, same, AssocMap.lookup_update_ne _ _ isRequested]
  | workerHeartbeat beating =>
      apply Moves.of_same rfl
      cases found : state.available.lookup beating <;> simp [turnStep, reduce, found, deadlineOf]
  | workerRegistered registered capabilities =>
      apply Moves.of_same rfl
      by_cases known : registered ∈ state.available <;> simp [turnStep, reduce, known, deadlineOf]
  | assignmentCleared cleared =>
      by_cases active : cleared ∈ state.activeStreams
      · by_cases isCleared : clientStreamId = cleared
        · subst isCleared
          apply Moves.of_none rfl
          simp [turnStep, reduce, active, deadlineOf]
        · apply Moves.of_same rfl
          simp [turnStep, reduce, active, deadlineOf, AList.lookup_erase_ne isCleared]
      · apply Moves.of_same rfl
        simp [turnStep, reduce, active]
  | assignmentFailed failed message =>
      by_cases active : failed ∈ state.activeStreams
      · by_cases isFailed : clientStreamId = failed
        · subst isFailed
          apply Moves.of_none rfl
          simp [turnStep, reduce, active, deadlineOf]
        · apply Moves.of_same rfl
          simp [turnStep, reduce, active, deadlineOf, AList.lookup_erase_ne isFailed]
      · apply Moves.of_same rfl
        simp [turnStep, reduce, active]
  | streamHeartbeat beating =>
      by_cases active : beating ∈ state.activeStreams
      · by_cases isBeating : clientStreamId = beating
        · subst isBeating
          apply Moves.of_refreshed
          · simp [turnStep, refreshes, reduce, active, isAccepted]
          · simp [turnStep, deadlineOf, reduce, active, ttlOf]
        · apply Moves.of_same
          · simp [turnStep, refreshes, isBeating]
          · simp [turnStep, deadlineOf, reduce, active, AssocMap.lookup_update_ne _ _ isBeating]
      · apply Moves.of_same
        · simp [turnStep, refreshes, reduce, active, isAccepted, violation, Effect.isViolation]
        · simp [turnStep, reduce, active]
  | sessionRequested subscriberId => exact Moves.of_same rfl rfl
  | sessionEvent sessionId event => exact moves_sessionEvent state sessionId event (by simp)

/-- The deadline of a subscriber, through what the event makes of its session. -/
theorem deadlineOf_subscriber_turn (sessionHash : Nat → Nat → Nat)
    (state : GatewayState WId SId SubId) (event : Event WId SId SubId)
    (sessionId : SessionId) (subscriberId : SubId) :
    deadlineOf (turnStep sessionHash state event).after (.subscriber sessionId subscriberId) =
      (sessionAfter sessionHash state sessionId event).bind
        (·.subscribers.lookup subscriberId) := by
  rw [← lookup_sessions_reduce]
  rfl

/-- Every session gives its subscribers the kernel's time to live. -/
def SessionsTtl (state : GatewayState WId SId SubId) : Prop :=
  ∀ sessionId session, state.sessions.lookup sessionId = some session →
    session.subscriberTtl = state.subscriberTtl

/-- Subscriptions and their heartbeats carry the current tick. -/
def CarriesTick (state : GatewayState WId SId SubId)
    (label : Event WId SId SubId × List (Effect WId SId SubId)) : Prop :=
  ∀ sessionId subscriberId tick,
    label.1 = .sessionEvent sessionId (.subscribed subscriberId tick) ∨
        label.1 = .sessionEvent sessionId (.subscriberHeartbeat subscriberId tick) →
      tick = state.tick

theorem moves_subscriber_of_live {state : GatewayState WId SId SubId} {sessionId : SessionId}
    {session : Session.State SubId} (found : state.sessions.lookup sessionId = some session)
    (sameTtl : session.subscriberTtl = state.subscriberTtl) {event : Session.Event SubId}
    (carries : CarriesTick state
      (turnStep sessionHash state (.sessionEvent sessionId event)).label)
    (subscriberId : SubId) :
    Moves (.subscriber sessionId subscriberId)
      (turnStep sessionHash state (.sessionEvent sessionId event)) := by
  have before : deadlineOf state (.subscriber sessionId subscriberId) =
      session.subscribers.lookup subscriberId := by
    simp [deadlineOf, found]
  have after := deadlineOf_subscriber_turn sessionHash state
    (.sessionEvent sessionId event) sessionId subscriberId
  rw [sessionAfter, if_pos rfl, found, Option.map_some, Option.bind_some,
    Session.lookup_subscribers_reduce, sameTtl, ← before] at after
  cases event with
  | entryAppended payload => exact Moves.of_same rfl after
  | subscribed entering tick =>
      obtain rfl := carries sessionId entering tick (.inl rfl)
      dsimp only at after
      by_cases isEntering : subscriberId = entering
      · subst isEntering
        rw [if_pos rfl] at after
        apply Moves.of_refreshed _ after
        simp [refreshes, turnStep, reduce_sessionEvent_some sessionHash found, Session.reduce,
          isAccepted]
      · rw [if_neg isEntering] at after
        apply Moves.of_same _ after
        simp [refreshes, turnStep, isEntering]
  | unsubscribed leaving =>
      dsimp only at after
      by_cases isLeaving : subscriberId = leaving
      · rw [if_pos isLeaving] at after
        exact Moves.of_none rfl after
      · rw [if_neg isLeaving] at after
        exact Moves.of_same rfl after
  | tick tick =>
      dsimp only at after
      cases present : deadlineOf state (.subscriber sessionId subscriberId) with
      | none =>
          rw [present] at after
          exact Moves.of_none rfl after
      | some deadline =>
          rw [present, Option.filter_some] at after
          split at after
          · exact Moves.of_same rfl (after.trans present.symm)
          · exact Moves.of_none rfl after
  | subscriberHeartbeat beating tick =>
      obtain rfl := carries sessionId beating tick (.inr rfl)
      dsimp only at after
      by_cases isBeating : subscriberId = beating
      · subst isBeating
        rw [if_pos rfl] at after
        cases present : deadlineOf state (.subscriber sessionId subscriberId) with
        | none =>
            rw [present] at after
            apply Moves.of_none _ after
            simp [refreshes, turnStep, present]
        | some deadline =>
            rw [present] at after
            apply Moves.of_refreshed _ after
            simp [refreshes, turnStep, present]
      · rw [if_neg isBeating] at after
        apply Moves.of_same _ after
        simp [refreshes, turnStep, isBeating]

theorem moves_subscriber {state : GatewayState WId SId SubId} (sameTtl : SessionsTtl state)
    {event : Event WId SId SubId} (notTick : event ≠ .tick)
    (carries : CarriesTick state (turnStep sessionHash state event).label)
    (sessionId : SessionId) (subscriberId : SubId) :
    Moves (.subscriber sessionId subscriberId) (turnStep sessionHash state event) := by
  have after := deadlineOf_subscriber_turn sessionHash state event sessionId
    subscriberId
  cases event with
  | tick => exact absurd rfl notTick
  | sessionRequested creator =>
      rw [sessionAfter] at after
      by_cases isNew : sessionId =
          generateSessionId sessionHash state.runtimeId state.sessionCounter
      · rw [if_pos isNew, Option.bind_some, newSession, Session.lookup_subscribers_reduce] at after
        dsimp only at after
        by_cases isCreator : subscriberId = creator
        · rw [if_pos isCreator] at after
          apply Moves.of_refreshed _ after
          simp [refreshes, turnStep, reduce, isNew, isCreator]
        · rw [if_neg isCreator] at after
          apply Moves.of_none _ after
          simp [refreshes, turnStep, reduce, isCreator]
      · rw [if_neg isNew] at after
        apply Moves.of_same _ after
        simp [refreshes, turnStep, reduce, isNew]
  | sessionEvent addressed event =>
      rw [sessionAfter] at after
      by_cases isAddressed : sessionId = addressed
      · subst isAddressed
        cases found : state.sessions.lookup sessionId with
        | some session =>
            exact moves_subscriber_of_live found (sameTtl sessionId session found) carries
              subscriberId
        | none =>
            rw [if_pos rfl, found] at after
            apply Moves.of_none _ after
            cases event <;>
              simp [refreshes, turnStep, reduce_sessionEvent_none sessionHash found, isAccepted,
                violation, Effect.isViolation, deadlineOf, found]
      · rw [if_neg isAddressed] at after
        apply Moves.of_same _ after
        cases event <;> simp [refreshes, turnStep, isAddressed]
  | _ => exact Moves.of_same rfl after

/-- A tick drops the deadlines that have come. -/
theorem deadlineOf_tick (state : GatewayState WId SId SubId) (holder : Holder WId SId SubId) :
    deadlineOf (turnStep sessionHash state .tick).after holder =
      (deadlineOf state holder).filter fun deadline => decide (state.tick + 1 < deadline) := by
  cases holder with
  | worker workerId =>
      have kept : (turnStep sessionHash state .tick).after.available = AssocMap.filter
          (fun _ entry => decide (state.tick + 1 < entry.deadline)) state.available := rfl
      rw [deadlineOf, kept, AssocMap.lookup_filter, deadlineOf, Option.filter_map]
      rfl
  | stream clientStreamId =>
      exact Session.lookup_foldl_due (state.tick + 1) state.activeStreams clientStreamId
  | subscriber sessionId subscriberId =>
      rw [deadlineOf_subscriber_turn, sessionAfter, deadlineOf]
      cases found : state.sessions.lookup sessionId with
      | none => rfl
      | some session =>
          have ticked := Session.lookup_subscribers_reduce session (.tick (state.tick + 1))
            subscriberId
          rw [Option.map_some, Option.filter_some]
          refine Eq.trans ?_ ticked
          -- a session that is removed has no subscribers left
          cases vacant : (session.ticked (state.tick + 1)).isVacant with
          | false => rfl
          | true =>
              have gone := Session.State.isVacant_iff.mp vacant subscriberId
              exact (AList.lookup_eq_none.mpr gone).symm

/-- The clock stands still but for ticks. -/
theorem tick_reduce (state : GatewayState WId SId SubId) {event : Event WId SId SubId}
    (notTick : event ≠ .tick) : (reduce sessionHash state event).state.tick = state.tick := by
  cases event with
  | tick => exact absurd rfl notTick
  | sessionRequested subscriberId => rfl
  | httpChatRequested clientStreamId payload stream required =>
      rcases reduce_httpChatRequested_cases sessionHash state clientStreamId payload stream
        required with ⟨message, same⟩ | ⟨chosen, first, same⟩ <;> rw [same]
  | _ => unfold reduce; dsimp only; split <;> rfl

/-- One turn of the kernel moves every timer. -/
theorem timerOf_turn {state : GatewayState WId SId SubId} (sameTtl : SessionsTtl state)
    {event : Event WId SId SubId}
    (carries : CarriesTick state (turnStep sessionHash state event).label)
    (holder : Holder WId SId SubId) :
    timerOf (turnStep sessionHash state event).after holder =
      (timerOf state holder).next (ttlOf state holder)
        (changeOf holder (turnStep sessionHash state event)) := by
  by_cases isTick : event = .tick
  · subst isTick
    exact congrArg (Timer.mk (state.tick + 1)) (deadlineOf_tick state holder)
  · have moves : Moves holder (turnStep sessionHash state event) := by
      cases holder with
      | worker workerId => exact moves_worker state isTick workerId
      | stream clientStreamId => exact moves_stream state isTick clientStreamId
      | subscriber sessionId subscriberId =>
          exact moves_subscriber sameTtl isTick carries sessionId subscriberId
    have clock : (turnStep sessionHash state event).after.tick = state.tick :=
      tick_reduce state isTick
    have notTick : (turnStep sessionHash state event).label.1.isTick = false := by
      cases event with
      | tick => exact absurd rfl isTick
      | _ => rfl
    rw [changeOf, if_neg (by simp [notTick]), timerOf, clock]
    cases refreshed : refreshes holder (turnStep sessionHash state event) with
    | true =>
        rw [if_pos rfl, moves.refreshed refreshed]
        rfl
    | false =>
        rw [if_neg Bool.false_ne_true]
        rcases moves.otherwise refreshed with gone | same
        · rw [gone]
          rfl
        · have started : (turnStep sessionHash state event).before = state := rfl
          rw [same, started]
          cases present : deadlineOf state holder <;> simp [Timer.next, timerOf, present]

/-! ### Whole runs

From the turns by induction on the run. What is kept is the deadline of a holder since it was last
refreshed, together with the clock. -/

/-- The kernel, with subscriptions and heartbeats that carry the current tick. -/
def timedSystem (sessionHash : Nat → Nat → Nat) :
    TransitionSystem (GatewayState WId SId SubId)
      (Event WId SId SubId × List (Effect WId SId SubId)) :=
  (kernelSystem sessionHash).guarded CarriesTick

section Reorder

omit [ToString WId] [ToString SId]

theorem deadlineOf_reorder {before after : GatewayState WId SId SubId}
    (reorder : before.Reorder after) (holder : Holder WId SId SubId) :
    deadlineOf after holder = deadlineOf before holder := by
  cases holder with
  | worker workerId => rw [deadlineOf, deadlineOf, reorder.available.lookup_eq]
  | stream clientStreamId => exact (reorder.activeStreams.lookup_eq clientStreamId).symm
  | subscriber sessionId subscriberId =>
      have related := reorder.sessions sessionId
      rw [deadlineOf, deadlineOf]
      generalize before.sessions.lookup sessionId = session at related ⊢
      generalize after.sessions.lookup sessionId = shuffled at related ⊢
      cases related with
      | none => rfl
      | some same => exact (same.subscribers.lookup_eq subscriberId).symm

theorem changeOf_reorder {before shuffled : GatewayState WId SId SubId}
    (reorder : before.Reorder shuffled) (holder : Holder WId SId SubId)
    (label : Event WId SId SubId × List (Effect WId SId SubId))
    (after : GatewayState WId SId SubId) :
    changeOf holder { before := shuffled, label, after } =
      changeOf holder { before, label, after } := by
  have refreshed : refreshes holder { before := shuffled, label, after } =
      refreshes holder { before, label, after } := by
    unfold refreshes
    dsimp only
    rw [deadlineOf_reorder reorder]
  rw [changeOf, changeOf, refreshed]

omit [DecidableEq SId] [LinearOrder WId]

theorem ttlOf_reorder {before after : GatewayState WId SId SubId}
    (reorder : before.Reorder after) (holder : Holder WId SId SubId) :
    ttlOf after holder = ttlOf before holder := by
  cases holder with
  | worker workerId => exact reorder.workerTtl
  | stream clientStreamId => exact reorder.streamTtl
  | subscriber sessionId subscriberId => exact reorder.subscriberTtl

theorem SessionsTtl.reorder {before after : GatewayState WId SId SubId}
    (reorder : before.Reorder after) (sameTtl : SessionsTtl before) : SessionsTtl after := by
  intro sessionId session found
  have related := reorder.sessions sessionId
  rw [found] at related
  generalize earlier : before.sessions.lookup sessionId = original at related
  cases related with
  | some same => rw [same.subscriberTtl, sameTtl sessionId _ earlier, reorder.subscriberTtl]

end Reorder

/-- No event changes the times to live. -/
theorem ttls_reduce (state : GatewayState WId SId SubId) (event : Event WId SId SubId) :
    (reduce sessionHash state event).state.workerTtl = state.workerTtl ∧
      (reduce sessionHash state event).state.streamTtl = state.streamTtl ∧
      (reduce sessionHash state event).state.subscriberTtl = state.subscriberTtl := by
  cases event with
  | tick => exact ⟨rfl, rfl, rfl⟩
  | sessionRequested subscriberId => exact ⟨rfl, rfl, rfl⟩
  | httpChatRequested clientStreamId payload stream required =>
      rcases reduce_httpChatRequested_cases sessionHash state clientStreamId payload stream
        required with ⟨message, same⟩ | ⟨chosen, first, same⟩ <;> rw [same] <;>
        exact ⟨rfl, rfl, rfl⟩
  | _ => unfold reduce; dsimp only; split <;> exact ⟨rfl, rfl, rfl⟩

theorem ttlOf_reduce (state : GatewayState WId SId SubId) (event : Event WId SId SubId)
    (holder : Holder WId SId SubId) :
    ttlOf (reduce sessionHash state event).state holder = ttlOf state holder := by
  cases holder with
  | worker workerId => exact (ttls_reduce state event).1
  | stream clientStreamId => exact (ttls_reduce state event).2.1
  | subscriber sessionId subscriberId => exact (ttls_reduce state event).2.2

theorem sessionsTtl_reduce {state : GatewayState WId SId SubId} (sameTtl : SessionsTtl state)
    (event : Event WId SId SubId) : SessionsTtl (reduce sessionHash state event).state := by
  intro sessionId session found
  rw [(ttls_reduce state event).2.2]
  rw [lookup_sessions_reduce] at found
  cases event with
  | tick =>
      obtain ⟨kept, _⟩ := Option.filter_eq_some_iff.mp found
      obtain ⟨earlier, earlierFound, rfl⟩ := Option.map_eq_some_iff.mp kept
      exact (Session.subscriberTtl_reduce _ _).trans (sameTtl sessionId earlier earlierFound)
  | sessionRequested creator =>
      rw [sessionAfter] at found
      split at found
      · obtain rfl := Option.some.inj found
        exact Session.subscriberTtl_reduce _ _
      · exact sameTtl sessionId session found
  | sessionEvent addressed event =>
      rw [sessionAfter] at found
      split at found
      · obtain ⟨earlier, earlierFound, rfl⟩ := Option.map_eq_some_iff.mp found
        exact (Session.subscriberTtl_reduce _ _).trans (sameTtl sessionId earlier earlierFound)
      · exact sameTtl sessionId session found
  | _ => exact sameTtl sessionId session found

section Step

variable {before after : GatewayState WId SId SubId}
  {label : Event WId SId SubId × List (Effect WId SId SubId)}

theorem sessionsTtl_step (sameTtl : SessionsTtl before)
    (taken : (timedSystem sessionHash).step before label after) : SessionsTtl after := by
  obtain ⟨⟨shuffled, reorder, reduced⟩, _⟩ := taken
  have kept : SessionsTtl (reduce sessionHash shuffled label.1).state :=
    sessionsTtl_reduce (sameTtl.reorder reorder) label.1
  rw [reduced] at kept
  exact kept

theorem ttlOf_step (taken : (timedSystem sessionHash).step before label after)
    (holder : Holder WId SId SubId) : ttlOf after holder = ttlOf before holder := by
  obtain ⟨⟨shuffled, reorder, reduced⟩, _⟩ := taken
  have kept : ttlOf (reduce sessionHash shuffled label.1).state holder = ttlOf shuffled holder :=
    ttlOf_reduce shuffled label.1 holder
  rw [reduced, ttlOf_reorder reorder] at kept
  exact kept

/-- A step of a run moves every timer. -/
theorem timerOf_step (sameTtl : SessionsTtl before)
    (taken : (timedSystem sessionHash).step before label after) (holder : Holder WId SId SubId) :
    timerOf after holder =
      (timerOf before holder).next (ttlOf before holder)
        (changeOf holder { before, label, after }) := by
  obtain ⟨⟨shuffled, reorder, reduced⟩, carries⟩ := taken
  have turn : turnStep sessionHash shuffled label.1 = { before := shuffled, label, after } := by
    rw [turnStep, reduced]
  have carries : CarriesTick shuffled (turnStep sessionHash shuffled label.1).label := by
    rw [turn, CarriesTick, reorder.tick]
    exact carries
  have timer := timerOf_turn (sameTtl.reorder reorder) carries holder
  rw [turn, changeOf_reorder reorder, ttlOf_reorder reorder, timerOf, timerOf,
    deadlineOf_reorder reorder, reorder.tick] at timer
  exact timer

end Step

/-- Where no deadline is further ahead than a time to live. -/
structure Sound (state : GatewayState WId SId SubId) : Prop where
  sameTtl : SessionsTtl state
  bounded : ∀ holder, (timerOf state holder).Bounded (ttlOf state holder)

theorem sound_of_run {steps : List (KernelStep WId SId SubId)} {state : GatewayState WId SId SubId}
    (run : (timedSystem sessionHash).recorded.Execution steps state) :
    Sound state ∧ ∀ step ∈ steps, Sound step.before := by
  apply TransitionSystem.Execution.invariant_of_mem (I := Sound) _ _ run
  · intro state initial
    obtain ⟨runtimeId, workerTtl, streamTtl, subscriberTtl, rfl⟩ := initial
    constructor
    · intro sessionId session found
      cases found
    · intro holder deadline present
      cases holder <;> cases present
  · intro before label after sound taken
    constructor
    · exact sessionsTtl_step sound.sameTtl taken
    · intro holder
      rw [timerOf_step sound.sameTtl taken, ttlOf_step taken]
      exact (sound.bounded holder).next _

/-- What a tick leaves lies ahead, and no further than a time to live. -/
theorem bounds_of_tick {steps : List (KernelStep WId SId SubId)}
    {state : GatewayState WId SId SubId}
    (run : (timedSystem sessionHash).recorded.Execution steps state)
    {step : KernelStep WId SId SubId} (member : step ∈ steps) (isTick : step.label.1 = .tick)
    (holder : Holder WId SId SubId) {deadline : Nat}
    (present : deadlineOf step.after holder = some deadline) :
    step.after.tick < deadline ∧ deadline ≤ step.after.tick + ttlOf step.after holder := by
  have sound := (sound_of_run run).2 step member
  have taken := run.step_of_mem member
  have timer := timerOf_step sound.sameTtl taken holder
  have change : changeOf holder step = .ticked := by
    simp [changeOf, isTick, Event.isTick]
  rw [change] at timer
  have bounded := (sound.bounded holder).next .ticked
  rw [← timer, ← ttlOf_step taken] at bounded
  have standing : (timerOf step.after holder).deadline = some deadline := present
  rw [timer] at standing
  have ahead := Timer.now_lt_of_ticked standing
  rw [← timer] at ahead
  exact ⟨ahead, bounded deadline present⟩

omit [ToString WId] [ToString SId] in
theorem changeOf_of_refreshes {holder : Holder WId SId SubId} {step : KernelStep WId SId SubId}
    (refreshed : refreshes holder step = true) : changeOf holder step = .refreshed := by
  have notTick : step.label.1.isTick = false := by
    unfold refreshes at refreshed
    generalize step.label.1 = event at refreshed ⊢
    cases event with
    | tick => cases holder <;> cases refreshed
    | _ => rfl
  rw [changeOf, notTick, if_neg Bool.false_ne_true, if_pos refreshed]

omit [ToString WId] [ToString SId] in
/-- What can happen to a holder that is not refreshed and does not leave. -/
theorem changeOf_of_stays {holder : Holder WId SId SubId} {step : KernelStep WId SId SubId}
    (notAgain : refreshes holder step = false) (stays : leaves holder step = false) :
    changeOf holder step ≠ .refreshed ∧
      (changeOf holder step = .left → deadlineOf step.before holder = none) := by
  rw [changeOf, notAgain]
  cases isTick : step.label.1.isTick with
  | true => simp
  | false =>
      cases after : deadlineOf step.after holder with
      | some deadline => simp
      | none => simpa [leaves, isTick, after] using stays

/-- From a refresh on, as long as the holder is not refreshed again and does not leave by another
event, its deadline stands until it is due. -/
theorem awaits_of_run (holder : Holder WId SId SubId)
    {earlier later : List (KernelStep WId SId SubId)} {refresh : KernelStep WId SId SubId}
    {state : GatewayState WId SId SubId}
    (run : (timedSystem sessionHash).recorded.Execution (earlier ++ refresh :: later) state)
    (refreshed : refreshes holder refresh = true)
    (undisturbed : ∀ step ∈ later, refreshes holder step = false ∧ leaves holder step = false) :
    (timerOf state holder).Awaits (ttlOf state holder) refresh.before.tick := by
  induction later using List.reverseRecOn generalizing state with
  | nil =>
      obtain ⟨before, earlierRun, rfl, rfl, taken⟩ := run.exists_of_concat
      rw [timerOf_step (sound_of_run earlierRun).1.sameTtl taken, ttlOf_step taken]
      have change : changeOf holder refresh = .refreshed := changeOf_of_refreshes refreshed
      rw [change]
      exact Timer.awaits_refreshed
  | append_singleton later step ih =>
      rw [← List.cons_append, ← List.append_assoc] at run
      obtain ⟨before, earlierRun, rfl, rfl, taken⟩ := run.exists_of_concat
      have awaits := ih earlierRun fun other member =>
        undisturbed other (List.mem_append_left _ member)
      obtain ⟨notAgain, stays⟩ :=
        undisturbed step (List.mem_append_right _ (List.mem_singleton_self step))
      obtain ⟨notRefreshed, stillAbsent⟩ := changeOf_of_stays notAgain stays
      rw [timerOf_step (sound_of_run earlierRun).1.sameTtl taken, ttlOf_step taken]
      exact awaits.next notRefreshed stillAbsent

/-- Deadlines fire exactly when they should.  After every tick each deadline that is left lies
ahead, by at most a time to live; and a holder that was refreshed at `refresh` and since then was
neither refreshed again nor left by another event is there exactly before the clock shows
`max (start + ttl) (start + 1)`. -/
theorem deadlines_fire_on_time {steps : List (KernelStep WId SId SubId)}
    {state : GatewayState WId SId SubId}
    (run : (timedSystem sessionHash).recorded.Execution steps state)
    (holder : Holder WId SId SubId) :
    (∀ step ∈ steps, step.label.1 = .tick → ∀ deadline,
        deadlineOf step.after holder = some deadline →
          step.after.tick < deadline ∧ deadline ≤ step.after.tick + ttlOf step.after holder) ∧
      ∀ earlier refresh later, steps = earlier ++ refresh :: later →
        refreshes holder refresh = true →
        (∀ step ∈ later, refreshes holder step = false ∧ leaves holder step = false) →
          ((deadlineOf state holder).isSome = true ↔
            state.tick < max (refresh.before.tick + ttlOf state holder)
              (refresh.before.tick + 1)) := by
  constructor
  · intro step member isTick deadline present
    exact bounds_of_tick run member isTick holder present
  · intro earlier refresh later split refreshed undisturbed
    subst split
    exact (awaits_of_run holder run refreshed undisturbed).present_iff

/-- Every event of a list carries the tick at which it comes. -/
def AllCarry (sessionHash : Nat → Nat → Nat) (state : GatewayState WId SId SubId) :
    List (Event WId SId SubId) → Prop
  | [] => True
  | event :: events =>
      CarriesTick state (turnStep sessionHash state event).label ∧
        AllCarry sessionHash (turnStep sessionHash state event).after events

theorem timed_append_runSteps :
    ∀ (events : List (Event WId SId SubId)) {steps} {state : GatewayState WId SId SubId},
      (timedSystem sessionHash).recorded.Execution steps state →
      AllCarry sessionHash state events →
        (timedSystem sessionHash).recorded.Execution
          (steps ++ (runSteps sessionHash state events).1) (runSteps sessionHash state events).2
  | [], steps, state, run, _ => by simpa [runSteps] using run
  | event :: events, steps, state, run, carry => by
      have next : (timedSystem sessionHash).recorded.Execution
          (steps ++ [turnStep sessionHash state event])
          (turnStep sessionHash state event).after :=
        run.step ⟨rfl, rfl, ⟨state, GatewayState.Reorder.refl state, rfl⟩, carry.1⟩
      simpa [runSteps] using timed_append_runSteps events next carry.2

end Reducer

/-- A session whose subscribers live for two ticks: its creator beats at tick 1. -/
def oneHeartbeat : List (Event Nat Nat Nat) :=
  [.sessionRequested 5, .tick, .sessionEvent ⟨"0000000000000000"⟩ (.subscriberHeartbeat 5 1),
    .tick, .tick]

/-- The creator is dropped by the tick that makes the clock show 3. -/
theorem oneHeartbeat_fires_on_time :
    (deadlineOf (runSteps (fun _ _ => 0) (GatewayState.new Nat Nat Nat 0 60 30 2) oneHeartbeat).2
        (.subscriber ⟨"0000000000000000"⟩ 5)).isSome = true ↔
      3 < max (1 + 2) (1 + 1) := by
  have start : (timedSystem fun _ _ => 0).recorded.Execution []
      (GatewayState.new Nat Nat Nat 0 60 30 2) :=
    .start ⟨0, 60, 30, 2, rfl⟩
  have carry : AllCarry (fun _ _ => 0) (GatewayState.new Nat Nat Nat 0 60 30 2) oneHeartbeat := by
    have shows : (runSteps (fun _ _ => 0) (GatewayState.new Nat Nat Nat 0 60 30 2)
        (oneHeartbeat.take 2)).2.tick = 1 := by decide +kernel
    simpa [AllCarry, oneHeartbeat, CarriesTick, turnStep, runSteps] using shows.symm
  have run := timed_append_runSteps oneHeartbeat start carry
  exact (deadlines_fire_on_time run (.subscriber ⟨"0000000000000000"⟩ 5)).2
    ((runSteps (fun _ _ => 0) (GatewayState.new Nat Nat Nat 0 60 30 2) oneHeartbeat).1.take 2) _ _
    rfl (by decide +kernel) (by decide +kernel)

end ProstheticConscience.Gateway
