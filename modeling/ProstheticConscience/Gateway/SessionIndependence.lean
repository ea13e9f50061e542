/-
Module: ProstheticConscience.Gateway.SessionIndependence
Purpose: An event of a session and an event of another session, a worker or a stream can come in
  either order, and what becomes of a session depends on the events addressed to it only.
Trusted boundary: none
Main exports: sessionsTurn, Event.isJobEvent, Independent, Swaps, Session.play, addressedTo,
  sessions_do_not_interfere
-/
import ProstheticConscience.Gateway.SessionLog

namespace ProstheticConscience.Gateway

variable {WId SId SubId : Type}

/-- A worker or stream event other than a tick. -/
def Event.isJobEvent : Event WId SId SubId → Bool
  | .httpChatRequested _ _ _ _ => true
  | .workerRegistered _ _ => true
  | .assignmentCleared _ => true
  | .assignmentFailed _ _ => true
  | .workerHeartbeat _ => true
  | .streamHeartbeat _ => true
  | _ => false

/-- An event of a session, and an event of another session or of the job side. -/
inductive Independent : Event WId SId SubId → Event WId SId SubId → Prop
  | otherSession {first second : SessionId} (event other : Session.Event SubId)
      (different : first ≠ second) :
      Independent (.sessionEvent first event) (.sessionEvent second other)
  | beforeJob (sessionId : SessionId) (event : Session.Event SubId) {job : Event WId SId SubId}
      (isJob : job.isJobEvent = true) : Independent (.sessionEvent sessionId event) job
  | afterJob (sessionId : SessionId) (event : Session.Event SubId) {job : Event WId SId SubId}
      (isJob : job.isJobEvent = true) : Independent job (.sessionEvent sessionId event)

section Reducer

variable [LinearOrder WId] [DecidableEq SId] [DecidableEq SubId] [ToString WId] [ToString SId]
  {sessionHash : Nat → Nat → Nat}

/-- Two events in either order: the same state in the end, and the same effects of each. -/
structure Swaps (sessionHash : Nat → Nat → Nat) (state : GatewayState WId SId SubId)
    (first second : Event WId SId SubId) : Prop where
  states : GatewayState.Reorder
    (reduce sessionHash (reduce sessionHash state first).state second).state
    (reduce sessionHash (reduce sessionHash state second).state first).state
  firstEffects : (reduce sessionHash (reduce sessionHash state second).state first).effects =
    (reduce sessionHash state first).effects
  secondEffects : (reduce sessionHash (reduce sessionHash state first).state second).effects =
    (reduce sessionHash state second).effects

/-! ### The two sides of the kernel

A gateway state is a pool of workers and streams, and a map of sessions. Every event but the tick
acts on one side only. -/

/-- What an event of a session makes of the sessions. -/
def sessionsTurn (sessions : AssocMap SessionId (Session.State SubId)) (sessionId : SessionId)
    (event : Session.Event SubId) : AssocMap SessionId (Session.State SubId) :=
  match sessions.lookup sessionId with
  | some session =>
      AssocMap.update (sessions.erase sessionId) sessionId (Session.reduce session event).state
  | none => sessions

/-- What an event of a session tells. -/
def turnEffects (sessions : AssocMap SessionId (Session.State SubId)) (sessionId : SessionId)
    (event : Session.Event SubId) : List (Effect WId SId SubId) :=
  match sessions.lookup sessionId with
  | some session => (Session.reduce session event).effects.map .sessionEffect
  | none =>
      violation (.session (toString sessionId)) "event for unknown session" ::
        (match cleanupSubId event with
        | some subscriberId => [.sessionEffect (.subscriberRemoved subscriberId)]
        | none => [])

/-- An event of a session reads and writes the sessions only. -/
theorem reduce_sessionEvent (state : GatewayState WId SId SubId) (sessionId : SessionId)
    (event : Session.Event SubId) :
    reduce sessionHash state (.sessionEvent sessionId event) =
      { state := { state with sessions := sessionsTurn state.sessions sessionId event }
        effects := turnEffects state.sessions sessionId event } := by
  cases found : state.sessions.lookup sessionId with
  | some session =>
      rw [reduce_sessionEvent_some sessionHash found]
      simp only [sessionsTurn, turnEffects, found]
  | none =>
      rw [reduce_sessionEvent_none sessionHash found]
      cases cleanup : cleanupSubId event <;> simp only [sessionsTurn, turnEffects, found, cleanup]

/-- A job event neither reads nor writes the sessions. -/
theorem reduce_jobEvent {event : Event WId SId SubId} (isJob : event.isJobEvent = true)
    (state : GatewayState WId SId SubId) (sessions : AssocMap SessionId (Session.State SubId)) :
    reduce sessionHash { state with sessions } event =
      { state := { (reduce sessionHash state event).state with sessions }
        effects := (reduce sessionHash state event).effects } := by
  have sameFirst : ∀ required, firstCapableWorkerId { state with sessions } required =
      firstCapableWorkerId state required := fun _ => rfl
  cases event with
  | httpChatRequested clientStreamId payload stream required =>
      simp only [reduce, sameFirst]
      split
      · rfl
      split
      · rfl
      split <;> rfl
  | workerHeartbeat workerId =>
      simp only [reduce]
      split <;> rfl
  | tick => exact absurd isJob Bool.false_ne_true
  | sessionRequested subscriberId => exact absurd isJob Bool.false_ne_true
  | sessionEvent sessionId event => exact absurd isJob Bool.false_ne_true
  | _ =>
      simp only [reduce]
      split <;> rfl

/-- A job event leaves the sessions as they are. -/
theorem sessions_jobEvent {event : Event WId SId SubId} (isJob : event.isJobEvent = true)
    (state : GatewayState WId SId SubId) :
    (reduce sessionHash state event).state.sessions = state.sessions := by
  exact congrArg (·.state.sessions) (reduce_jobEvent isJob state state.sessions)

section SessionsTurn

omit [LinearOrder WId] [DecidableEq SId] [ToString WId] [ToString SId]

theorem lookup_sessionsTurn (sessions : AssocMap SessionId (Session.State SubId))
    (addressed sessionId : SessionId) (event : Session.Event SubId) :
    (sessionsTurn sessions addressed event).lookup sessionId =
      if sessionId = addressed then
        (sessions.lookup sessionId).map fun session => (Session.reduce session event).state
      else sessions.lookup sessionId := by
  rw [sessionsTurn]
  cases found : sessions.lookup addressed with
  | some session =>
      dsimp only
      rw [AssocMap.lookup_update, AssocMap.lookup_without]
      by_cases same : sessionId = addressed
      · subst same
        simp [found]
      · simp [same]
  | none =>
      by_cases same : sessionId = addressed
      · subst same
        simp [found]
      · simp [same]

/-- What is told depends on the addressed session only. -/
theorem turnEffects_congr {sessions others : AssocMap SessionId (Session.State SubId)}
    {sessionId : SessionId} (same : sessions.lookup sessionId = others.lookup sessionId)
    (event : Session.Event SubId) :
    (turnEffects sessions sessionId event : List (Effect WId SId SubId)) =
      turnEffects others sessionId event := by
  simp only [turnEffects, same]

/-- States that differ in the order of their sessions only. -/
theorem reorder_of_sessions (state : GatewayState WId SId SubId)
    {sessions others : AssocMap SessionId (Session.State SubId)}
    (same : ∀ sessionId, sessions.lookup sessionId = others.lookup sessionId) :
    GatewayState.Reorder { state with sessions } { state with sessions := others } where
  tick := rfl
  workerTtl := rfl
  streamTtl := rfl
  subscriberTtl := rfl
  runtimeId := rfl
  sessionCounter := rfl
  available := AssocMap.Same.refl _
  activeStreams := AssocMap.Same.refl _
  sessions sessionId := by
    rw [same sessionId]
    exact (GatewayState.Reorder.refl { state with sessions := others }).sessions sessionId

end SessionsTurn

/-! ### Swapping two events

Two events about different sessions, or about different sides, commute: each reads only what the
other leaves alone. -/

theorem swaps_sessions (state : GatewayState WId SId SubId) {first second : SessionId}
    (different : first ≠ second) (event other : Session.Event SubId) :
    Swaps sessionHash state (.sessionEvent first event) (.sessionEvent second other) := by
  have lookupFirst :
      (sessionsTurn state.sessions second other).lookup first = state.sessions.lookup first := by
    rw [lookup_sessionsTurn, if_neg different]
  have lookupSecond :
      (sessionsTurn state.sessions first event).lookup second = state.sessions.lookup second := by
    rw [lookup_sessionsTurn, if_neg different.symm]
  constructor
  · simp only [reduce_sessionEvent]
    apply reorder_of_sessions
    intro sessionId
    simp only [lookup_sessionsTurn]
    by_cases isFirst : sessionId = first
    · subst isFirst
      simp [different]
    · simp [isFirst]
  · simp only [reduce_sessionEvent]
    exact turnEffects_congr lookupFirst event
  · simp only [reduce_sessionEvent]
    exact turnEffects_congr lookupSecond other

section Job

variable {job : Event WId SId SubId} (isJob : job.isJobEvent = true)
include isJob

variable (sessionHash) in
/-- The job event comes second. -/
theorem reduce_job_after (state : GatewayState WId SId SubId) (sessionId : SessionId)
    (event : Session.Event SubId) :
    reduce sessionHash (reduce sessionHash state (.sessionEvent sessionId event)).state job =
      { state := { (reduce sessionHash state job).state with
          sessions := sessionsTurn state.sessions sessionId event }
        effects := (reduce sessionHash state job).effects } := by
  rw [reduce_sessionEvent]
  exact reduce_jobEvent isJob state _

variable (sessionHash) in
/-- The job event comes first. -/
theorem reduce_session_after (state : GatewayState WId SId SubId) (sessionId : SessionId)
    (event : Session.Event SubId) :
    reduce sessionHash (reduce sessionHash state job).state (.sessionEvent sessionId event) =
      { state := { (reduce sessionHash state job).state with
          sessions := sessionsTurn state.sessions sessionId event }
        effects := (reduce sessionHash state (.sessionEvent sessionId event)).effects } := by
  rw [reduce_sessionEvent, sessions_jobEvent isJob, reduce_sessionEvent]

theorem swaps_job (state : GatewayState WId SId SubId) (sessionId : SessionId)
    (event : Session.Event SubId) :
    Swaps sessionHash state (.sessionEvent sessionId event) job := by
  have jobAfter := reduce_job_after sessionHash isJob state sessionId event
  have sessionAfter := reduce_session_after sessionHash isJob state sessionId event
  constructor
  · rw [jobAfter, sessionAfter]
    exact GatewayState.Reorder.refl _
  · rw [sessionAfter]
  · rw [jobAfter]

theorem swaps_after_job (state : GatewayState WId SId SubId) (sessionId : SessionId)
    (event : Session.Event SubId) :
    Swaps sessionHash state job (.sessionEvent sessionId event) := by
  have jobAfter := reduce_job_after sessionHash isJob state sessionId event
  have sessionAfter := reduce_session_after sessionHash isJob state sessionId event
  constructor
  · rw [jobAfter, sessionAfter]
    exact GatewayState.Reorder.refl _
  · rw [jobAfter]
  · rw [sessionAfter]

end Job

theorem swaps_of_independent (state : GatewayState WId SId SubId)
    {first second : Event WId SId SubId} (independent : Independent first second) :
    Swaps sessionHash state first second := by
  cases independent with
  | otherSession event other different => exact swaps_sessions state different event other
  | beforeJob sessionId event isJob => exact swaps_job isJob state sessionId event
  | afterJob sessionId event isJob => exact swaps_after_job isJob state sessionId event

end Reducer

/-! ### What becomes of one session

Replaying the events addressed to a session, and the ticks, gives its state: the others never touch
it. -/

namespace Session

variable [DecidableEq SubId]

/-- A session through a list of its events: its last state, and what its subscribers are told. -/
def play (session : State SubId) :
    List (Event SubId) → State SubId × List (Nat × Value × List SubId)
  | [] => (session, [])
  | event :: events =>
      let turn := reduce session event
      let (last, told) := play turn.state events
      (last, turn.effects.filterMap (·.notification?) ++ told)

theorem play_append (session : State SubId) (first second : List (Event SubId)) :
    play session (first ++ second) =
      ((play (play session first).1 second).1,
        (play session first).2 ++ (play (play session first).1 second).2) := by
  induction first generalizing session with
  | nil => rfl
  | cons event rest ih => simp only [List.cons_append, play, ih, List.append_assoc]

/-- The same notification, the recipients perhaps in another order. -/
structure SameNotification (first second : Nat × Value × List SubId) : Prop where
  index : first.1 = second.1
  payload : first.2.1 = second.2.1
  recipients : first.2.2.Perm second.2.2

/-- An event takes reordered sessions to reordered sessions. -/
theorem reduce_reorder {session shuffled : State SubId} (reorder : session.Reorder shuffled)
    (event : Event SubId) : (reduce session event).state.Reorder (reduce shuffled event).state where
  entries := by
    have entriesEq : (reduce shuffled event).state.entries.entries =
        (reduce session event).state.entries.entries := by
      rw [entries_reduce, entries_reduce, reorder.entries]
    exact congrArg AppendLog.mk entriesEq
  subscribers := by
    apply AssocMap.same_of_lookup_eq
    intro subscriberId
    rw [lookup_subscribers_reduce, lookup_subscribers_reduce, reorder.subscribers.lookup_eq,
      reorder.subscriberTtl]
  subscriberTtl := by
    rw [subscriberTtl_reduce, subscriberTtl_reduce, reorder.subscriberTtl]

/-- Reordered sessions tell the same. -/
theorem notifications_reorder {session shuffled : State SubId} (reorder : session.Reorder shuffled)
    (event : Event SubId) :
    List.Forall₂ SameNotification ((reduce session event).effects.filterMap (·.notification?))
      ((reduce shuffled event).effects.filterMap (·.notification?)) := by
  rw [notifications_reduce, notifications_reduce]
  cases event.payload? with
  | none => exact .nil
  | some payload =>
      have sameVacant : shuffled.isVacant = session.isVacant := reorder.subscribers.isEmpty_eq.symm
      dsimp only
      rw [sameVacant]
      split
      · exact .nil
      · refine .cons ⟨?_, rfl, reorder.subscribers.map _⟩ .nil
        rw [reorder.entries]

/-- Through any events, reordered sessions stay reordered and tell the same. -/
theorem play_reorder (events : List (Event SubId)) {session shuffled : State SubId}
    (reorder : session.Reorder shuffled) :
    (play session events).1.Reorder (play shuffled events).1 ∧
      List.Forall₂ SameNotification (play session events).2 (play shuffled events).2 := by
  induction events generalizing session shuffled with
  | nil => exact ⟨reorder, .nil⟩
  | cons event rest ih =>
      obtain ⟨last, told⟩ := ih (reduce_reorder reorder event)
      exact ⟨last, List.rel_append (notifications_reorder reorder event) told⟩

omit [DecidableEq SubId] in
theorem State.Reorder.trans {first second third : State SubId} (here : first.Reorder second)
    (there : second.Reorder third) : first.Reorder third :=
  ⟨there.entries.trans here.entries, here.subscribers.trans there.subscribers,
    there.subscriberTtl.trans here.subscriberTtl⟩

end Session

/-- The event of a session that is addressed to it. -/
def Event.addressedTo? (sessionId : SessionId) : Event WId SId SubId → Option (Session.Event SubId)
  | .sessionEvent addressed event => if addressed = sessionId then some event else none
  | _ => none

/-- The events of a trace that are addressed to a session. -/
def addressedTo (sessionId : SessionId)
    (trace : List (Event WId SId SubId × List (Effect WId SId SubId))) :
    List (Session.Event SubId) :=
  trace.filterMap fun label => label.1.addressedTo? sessionId

/-- The event is neither a tick nor the creation of a session. -/
def Event.createsNothing : Event WId SId SubId → Bool
  | .tick => false
  | .sessionRequested _ => false
  | _ => true

section Paths

variable [LinearOrder WId] [DecidableEq SId] [DecidableEq SubId] [ToString WId] [ToString SId]
  {sessionHash : Nat → Nat → Nat}

variable (sessionHash) in
/-- One event, seen from a live session. -/
theorem reduce_live {state : GatewayState WId SId SubId} {sessionId : SessionId}
    {session : Session.State SubId} (found : state.sessions.lookup sessionId = some session)
    {event : Event WId SId SubId} (quiet : event.createsNothing = true) :
    (reduce sessionHash state event).state.sessions.lookup sessionId =
        some (Session.play session (event.addressedTo? sessionId).toList).1 ∧
      notificationsOf sessionId [(event, (reduce sessionHash state event).effects)] =
        (Session.play session (event.addressedTo? sessionId).toList).2 := by
  have told := notifications_reduce sessionHash state event
  rw [lookup_sessions_reduce, notificationsOf, List.filter_singleton]
  cases event with
  | tick => exact absurd quiet Bool.false_ne_true
  | sessionRequested subscriberId => exact absurd quiet Bool.false_ne_true
  | sessionEvent addressed event =>
      rw [sessionAfter, Event.isFor, Event.addressedTo?]
      by_cases same : addressed = sessionId
      · subst same
        dsimp only at told
        rw [found] at told
        rw [if_pos rfl, if_pos rfl, decide_eq_true rfl, cond_true, List.flatMap_singleton, told,
          found]
        exact ⟨rfl, (List.append_nil _).symm⟩
      · rw [if_neg (Ne.symm same), if_neg same, decide_eq_false same]
        exact ⟨found, rfl⟩
  | _ => exact ⟨found, rfl⟩

/-- What becomes of a live session while no tick comes and no session is created. -/
theorem play_of_path {state last : GatewayState WId SId SubId}
    {trace : List (Event WId SId SubId × List (Effect WId SId SubId))}
    (path : (kernelSystem sessionHash).Path state trace last)
    (quiet : ∀ label ∈ trace, label.1.createsNothing = true) {sessionId : SessionId}
    {session actual : Session.State SubId}
    (found : state.sessions.lookup sessionId = some actual) (reorder : session.Reorder actual) :
    let played := Session.play session (addressedTo sessionId trace)
    (∃ final, last.sessions.lookup sessionId = some final ∧ played.1.Reorder final) ∧
      List.Forall₂ Session.SameNotification played.2 (notificationsOf sessionId trace) := by
  induction path generalizing session actual with
  | done state => exact ⟨⟨actual, found, reorder⟩, .nil⟩
  | @step state middle last label trace taken _ ih =>
      obtain ⟨shuffled, shuffle, reduced⟩ := taken
      obtain ⟨shuffledSession, shuffledFound, same⟩ := shuffle.lookup_some found
      obtain ⟨lookup, told⟩ :=
        reduce_live sessionHash shuffledFound (quiet label List.mem_cons_self)
      rw [reduced] at lookup told
      obtain ⟨nowReorder, nowTold⟩ := Session.play_reorder
        (label.1.addressedTo? sessionId).toList (reorder.trans same)
      obtain ⟨⟨final, finalFound, finalReorder⟩, laterTold⟩ :=
        ih (fun other member => quiet other (List.mem_cons_of_mem _ member)) lookup nowReorder
      have addressed : addressedTo sessionId (label :: trace) =
          (label.1.addressedTo? sessionId).toList ++ addressedTo sessionId trace := by
        rw [addressedTo, List.filterMap_cons]
        cases label.1.addressedTo? sessionId <;> rfl
      have notified : notificationsOf sessionId (label :: trace) =
          notificationsOf sessionId [label] ++ notificationsOf sessionId trace := by
        rw [notificationsOf, ← List.singleton_append, List.filter_append, List.flatMap_append]
        rfl
      rw [addressed, Session.play_append, notified]
      refine ⟨⟨final, finalFound, finalReorder⟩, List.rel_append ?_ laterTold⟩
      rw [told]
      exact nowTold

/-- Sessions do not interfere.  An event of a session and an event of another session, a worker or a
stream can be swapped: the state in the end is the same, and so are the effects of each.  And along
every path without ticks and creations, what becomes of a live session and what its subscribers are
told is what the events addressed to it make of it. -/
theorem sessions_do_not_interfere (sessionHash : Nat → Nat → Nat)
    (state : GatewayState WId SId SubId) :
    (∀ first second, Independent first second → Swaps sessionHash state first second) ∧
      ∀ trace last, (kernelSystem sessionHash).Path state trace last →
        (∀ label ∈ trace, label.1.createsNothing = true) →
        ∀ sessionId session, state.sessions.lookup sessionId = some session →
          let played := Session.play session (addressedTo sessionId trace)
          (∃ final, last.sessions.lookup sessionId = some final ∧ played.1.Reorder final) ∧
            List.Forall₂ Session.SameNotification played.2 (notificationsOf sessionId trace) :=
  ⟨fun _ _ independent => swaps_of_independent state independent,
    fun _ _ path quiet _ session found =>
      play_of_path path quiet found (Session.State.Reorder.refl session)⟩

end Paths

/-- A state with one session, created by subscriber 3. -/
def oneSession : GatewayState Nat Nat Nat :=
  (reduce (fun _ _ => 0) (GatewayState.new Nat Nat Nat 0 60 60 60) (.sessionRequested 3)).state

/-- An entry for the session, and a worker. -/
def entryAndWorker : List (Event Nat Nat Nat) :=
  [.sessionEvent ⟨"0000000000000000"⟩ (.entryAppended .null), .workerRegistered 1 {.chat}]

theorem entryAndWorker_do_not_interfere :
    Swaps (fun _ _ => 0) oneSession
        (.sessionEvent ⟨"0000000000000000"⟩ (.entryAppended .null)) (.workerRegistered 1 {.chat}) ∧
      List.Forall₂ Session.SameNotification [(0, .null, [3])]
        (notificationsOf ⟨"0000000000000000"⟩
          (runEvents (fun _ _ => 0) oneSession entryAndWorker).1) := by
  have apart := sessions_do_not_interfere (fun _ _ => 0) oneSession
  have path : (kernelSystem fun _ _ => 0).Path oneSession
      (runEvents (fun _ _ => 0) oneSession entryAndWorker).1
      (runEvents (fun _ _ => 0) oneSession entryAndWorker).2 :=
    .step ⟨oneSession, GatewayState.Reorder.refl _, rfl⟩
      (.step ⟨_, GatewayState.Reorder.refl _, rfl⟩ (.done _))
  exact ⟨apart.1 _ _ (.beforeJob _ _ rfl),
    (apart.2 _ _ path (by decide +kernel) ⟨"0000000000000000"⟩ _ rfl).2⟩

end ProstheticConscience.Gateway
