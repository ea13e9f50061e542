/-
Module: ProstheticConscience.Gateway.Kernel
Purpose: The gateway kernel: a pure reducer over workers, streams and sessions.  The session id
  hash is a parameter of the reducer, because the standard hasher's algorithm is unspecified.
Trusted boundary: none
Main exports: GatewayState, Event, Effect, reduce, GatewayState.Reorder, kernelSystem
-/
import Mathlib.Data.Finset.Basic
import Mathlib.Data.List.Sort
import Mathlib.Data.Nat.Digits.Defs
import ProstheticConscience.Protocol
import ProstheticConscience.Gateway.Session
import ProstheticConscience.Library.TransitionSystem

namespace ProstheticConscience.Gateway

structure SessionId where
  value : String
deriving DecidableEq, Repr, Inhabited

instance : ToString SessionId := ⟨SessionId.value⟩

/-- A registered worker: when it expires and what it can do. -/
structure WorkerEntry where
  deadline : Nat
  capabilities : Finset Capability
deriving DecidableEq

/-- The kernel state.  `available` is an ordered map and is only ever read in key order;
`activeStreams` and `sessions` are hash maps. -/
structure GatewayState (WId SId SubId : Type) where
  tick : Nat
  workerTtl : Nat
  streamTtl : Nat
  subscriberTtl : Nat
  runtimeId : Nat
  sessionCounter : Nat
  available : AssocMap WId WorkerEntry
  activeStreams : AssocMap SId Nat
  sessions : AssocMap SessionId (Session.State SubId)

def GatewayState.new (WId SId SubId : Type)
    (runtimeId workerTtl streamTtl subscriberTtl : Nat) : GatewayState WId SId SubId where
  tick := 0
  workerTtl := workerTtl
  streamTtl := streamTtl
  subscriberTtl := subscriberTtl
  runtimeId := runtimeId
  sessionCounter := 0
  available := ∅
  activeStreams := ∅
  sessions := ∅

/-- `{:016x}`: lower-case hexadecimal, padded with zeros to sixteen digits. -/
def hex16 (value : Nat) : String :=
  let digits := Nat.toDigits 16 value
  String.ofList (List.replicate (16 - digits.length) '0' ++ digits)

def generateSessionId (sessionHash : Nat → Nat → Nat) (runtimeId counter : Nat) : SessionId :=
  ⟨hex16 (sessionHash runtimeId counter)⟩

inductive Event (WId SId SubId : Type) where
  | httpChatRequested (clientStreamId : SId) (payload : Value) (stream : Bool)
      (requiredCapability : Capability)
  | workerRegistered (workerId : WId) (capabilities : Finset Capability)
  | assignmentCleared (clientStreamId : SId)
  | assignmentFailed (clientStreamId : SId) (message : String)
  | workerHeartbeat (workerId : WId)
  | streamHeartbeat (clientStreamId : SId)
  | tick
  | sessionRequested (subscriberId : SubId)
  | sessionEvent (sessionId : SessionId) (event : Session.Event SubId)
deriving DecidableEq

structure DispatchJob (WId SId : Type) where
  workerId : WId
  clientStreamId : SId
  capability : Capability
  payload : Value
deriving DecidableEq, Repr

structure SendClientError (SId : Type) where
  clientStreamId : SId
  message : String
deriving DecidableEq, Repr

structure SendClientDone (SId : Type) where
  clientStreamId : SId
deriving DecidableEq, Repr

inductive ViolationSource where
  | worker (id : String)
  | stream (id : String)
  | session (id : String)
deriving DecidableEq, Repr

structure ProtocolViolation where
  source : ViolationSource
  message : String
deriving DecidableEq, Repr

inductive Effect (WId SId SubId : Type) where
  | dispatchJob (job : DispatchJob WId SId)
  | sendClientError (error : SendClientError SId)
  | sendClientDone (done : SendClientDone SId)
  | sessionEffect (effect : Session.Effect SubId)
  | sessionCreated (sessionId : SessionId) (subscriberId : SubId)
  | sessionExpired (sessionId : SessionId) (entries : List Value)
  | protocolViolation (violation : ProtocolViolation)
deriving DecidableEq, Repr

structure Transition (WId SId SubId : Type) where
  state : GatewayState WId SId SubId
  effects : List (Effect WId SId SubId)

section Reducer

variable {WId SId SubId : Type} [LinearOrder WId] [DecidableEq SId] [DecidableEq SubId]

/-- The entries of `available` in key order. -/
def availableInOrder (state : GatewayState WId SId SubId) :
    List (Sigma fun _ : WId => WorkerEntry) :=
  state.available.entries.insertionSort fun a b => a.1 ≤ b.1

def firstCapableWorkerId (state : GatewayState WId SId SubId) (required : Capability) :
    Option WId :=
  ((availableInOrder state).find? fun entry => decide (required ∈ entry.2.capabilities)).map (·.1)

/-- The terminal effects of a stream that ends with an error. -/
def errorThenDone (clientStreamId : SId) (message : String) : List (Effect WId SId SubId) :=
  [.sendClientError { clientStreamId, message }, .sendClientDone { clientStreamId }]

/-- The effect of an event that names an unknown worker, stream or session. -/
def violation (source : ViolationSource) (message : String) : Effect WId SId SubId :=
  .protocolViolation { source, message }

/-- The ids of the streams whose deadline has come, in iteration order. -/
def expiredStreams (tick : Nat) (activeStreams : AssocMap SId Nat) : List SId :=
  (activeStreams.entries.filter fun entry => decide (entry.2 ≤ tick)).map (·.1)

/-- Propagate a tick to all sessions, in iteration order. -/
def tickSessions (tick : Nat) (sessions : AssocMap SessionId (Session.State SubId)) :
    AssocMap SessionId (Session.State SubId) × List (Effect WId SId SubId) :=
  sessions.entries.foldl
    (fun acc entry =>
      let updated := Session.reduce entry.2 (.tick tick)
      (AssocMap.update acc.1 entry.1 updated.state,
        acc.2 ++ updated.effects.map .sessionEffect))
    (sessions, [])

/-- Remove the sessions without subscribers, in iteration order. -/
def expireSessions (sessions : AssocMap SessionId (Session.State SubId)) :
    AssocMap SessionId (Session.State SubId) × List (Effect WId SId SubId) :=
  let expiredIds :=
    (sessions.entries.filter fun entry => entry.2.subscribers.entries.isEmpty).map (·.1)
  expiredIds.foldl
    (fun acc sessionId =>
      match acc.1.extract sessionId with
      | (some sessionState, rest) =>
          (rest, acc.2 ++ [.sessionExpired sessionId sessionState.entries.intoEntries])
      | (none, _) => acc)
    (sessions, [])

/-- The subscriber an event for an unknown session refers to, whose handle is to be dropped. -/
def cleanupSubId : Session.Event SubId → Option SubId
  | .entryAppended _ => none
  | .subscribed subscriberId _ => some subscriberId
  | .unsubscribed subscriberId => some subscriberId
  | .tick _ => none
  | .subscriberHeartbeat subscriberId _ => some subscriberId

variable [ToString WId] [ToString SId]

def reduce (sessionHash : Nat → Nat → Nat) (state : GatewayState WId SId SubId) :
    Event WId SId SubId → Transition WId SId SubId
  | .httpChatRequested clientStreamId payload stream requiredCapability =>
      if stream = false then
        { state, effects := errorThenDone clientStreamId "stream=true is required in this phase" }
      else if clientStreamId ∈ state.activeStreams then
        { state
          effects := errorThenDone clientStreamId "stream already has an active assignment" }
      else
        match firstCapableWorkerId state requiredCapability with
        | some workerId =>
            { state :=
                { state with
                  available := state.available.erase workerId
                  activeStreams :=
                    AssocMap.update state.activeStreams clientStreamId
                      (state.tick + state.streamTtl) }
              effects :=
                [.dispatchJob
                  { workerId, clientStreamId, capability := requiredCapability, payload }] }
        | none => { state, effects := errorThenDone clientStreamId "no idle worker available" }
  | .workerRegistered workerId capabilities =>
      if workerId ∈ state.available then
        { state
          effects := [violation (.worker (toString workerId)) "duplicate worker registration"] }
      else
        { state :=
            { state with
              available :=
                AssocMap.update state.available workerId
                  { deadline := state.tick + state.workerTtl, capabilities } }
          effects := [] }
  | .assignmentCleared clientStreamId =>
      if clientStreamId ∉ state.activeStreams then
        { state
          effects :=
            [violation (.stream (toString clientStreamId))
              "assignment cleared for unknown stream"] }
      else
        { state := { state with activeStreams := state.activeStreams.erase clientStreamId }
          effects := [.sendClientDone { clientStreamId }] }
  | .assignmentFailed clientStreamId message =>
      if clientStreamId ∉ state.activeStreams then
        { state
          effects :=
            [violation (.stream (toString clientStreamId))
              "assignment failed for unknown stream"] }
      else
        { state := { state with activeStreams := state.activeStreams.erase clientStreamId }
          effects := errorThenDone clientStreamId message }
  | .workerHeartbeat workerId =>
      match state.available.extract workerId with
      | (some entry, available) =>
          { state :=
              { state with
                available :=
                  AssocMap.update available workerId
                    { entry with deadline := state.tick + state.workerTtl } }
            effects := [] }
      | (none, _) =>
          { state
            effects := [violation (.worker (toString workerId)) "heartbeat from unknown worker"] }
  | .streamHeartbeat clientStreamId =>
      if clientStreamId ∉ state.activeStreams then
        { state
          effects :=
            [violation (.stream (toString clientStreamId)) "heartbeat for unknown stream"] }
      else
        { state :=
            { state with
              activeStreams :=
                AssocMap.update state.activeStreams clientStreamId
                  (state.tick + state.streamTtl) }
          effects := [] }
  | .tick =>
      let tick := state.tick + 1
      let available := AssocMap.filter (fun _ entry => decide (tick < entry.deadline))
        state.available
      let expired := expiredStreams tick state.activeStreams
      let activeStreams :=
        expired.foldl (fun streams sid => streams.erase sid) state.activeStreams
      let effects := expired.flatMap fun sid => errorThenDone sid "stream timed out"
      let (ticked, sessionEffects) := tickSessions tick state.sessions
      let (sessions, expiryEffects) := expireSessions ticked
      { state := { state with tick, available, activeStreams, sessions }
        effects := effects ++ sessionEffects ++ expiryEffects }
  | .sessionRequested subscriberId =>
      let sessionId := generateSessionId sessionHash state.runtimeId state.sessionCounter
      let initialSession :=
        { Session.State.default SubId with subscriberTtl := state.subscriberTtl }
      let created := Session.reduce initialSession (.subscribed subscriberId state.tick)
      { state :=
          { state with
            sessionCounter := state.sessionCounter + 1
            sessions := AssocMap.update state.sessions sessionId created.state }
        effects := [.sessionCreated sessionId subscriberId] }
  | .sessionEvent sessionId event =>
      match state.sessions.extract sessionId with
      | (some sessionState, sessions) =>
          let updated := Session.reduce sessionState event
          { state := { state with sessions := AssocMap.update sessions sessionId updated.state }
            effects := updated.effects.map .sessionEffect }
      | (none, _) =>
          { state
            effects :=
              violation (.session (toString sessionId)) "event for unknown session" ::
                (match cleanupSubId event with
                | some subscriberId => [.sessionEffect (.subscriberRemoved subscriberId)]
                | none => []) }

end Reducer

/-! ### Runs

The hash maps of the kernel have no fixed iteration order, so a run may reorder them between any
two events.  A label is an event with the effects the transition emitted. -/

/-- The same kernel state, its maps perhaps iterated in another order. -/
structure GatewayState.Reorder {WId SId SubId : Type} [DecidableEq SubId]
    (before after : GatewayState WId SId SubId) : Prop where
  tick : after.tick = before.tick
  workerTtl : after.workerTtl = before.workerTtl
  streamTtl : after.streamTtl = before.streamTtl
  subscriberTtl : after.subscriberTtl = before.subscriberTtl
  runtimeId : after.runtimeId = before.runtimeId
  sessionCounter : after.sessionCounter = before.sessionCounter
  available : AssocMap.Same before.available after.available
  activeStreams : AssocMap.Same before.activeStreams after.activeStreams
  sessions : ∀ sessionId, Option.Rel Session.State.Reorder
    (before.sessions.lookup sessionId) (after.sessions.lookup sessionId)

/-- A gateway state is a reordering of itself. -/
theorem GatewayState.Reorder.refl {WId SId SubId : Type} [DecidableEq SubId]
    (state : GatewayState WId SId SubId) : state.Reorder state where
  tick := rfl
  workerTtl := rfl
  streamTtl := rfl
  subscriberTtl := rfl
  runtimeId := rfl
  sessionCounter := rfl
  available := AssocMap.Same.refl _
  activeStreams := AssocMap.Same.refl _
  sessions sessionId := by
    cases state.sessions.lookup sessionId with
    | none => exact .none
    | some session => exact .some (Session.State.Reorder.refl session)

/-- The kernel as a transition system, started by `GatewayState.new`. -/
def kernelSystem {WId SId SubId : Type} [LinearOrder WId] [DecidableEq SId] [DecidableEq SubId]
    [ToString WId] [ToString SId] (sessionHash : Nat → Nat → Nat) :
    TransitionSystem (GatewayState WId SId SubId)
      (Event WId SId SubId × List (Effect WId SId SubId)) where
  init state := ∃ runtimeId workerTtl streamTtl subscriberTtl,
    state = GatewayState.new WId SId SubId runtimeId workerTtl streamTtl subscriberTtl
  step before label after := ∃ shuffled, before.Reorder shuffled ∧
    reduce sessionHash shuffled label.1 = { state := after, effects := label.2 }

section Runs

variable {WId SId SubId : Type} [LinearOrder WId] [DecidableEq SId] [DecidableEq SubId]
  [ToString WId] [ToString SId]

/-- The run over a list of events that never reorders a map: the trace and the last state. -/
def runEvents (sessionHash : Nat → Nat → Nat) (state : GatewayState WId SId SubId) :
    List (Event WId SId SubId) →
      List (Event WId SId SubId × List (Effect WId SId SubId)) × GatewayState WId SId SubId
  | [] => ([], state)
  | event :: events =>
      let transition := reduce sessionHash state event
      let (trace, last) := runEvents sessionHash transition.state events
      ((event, transition.effects) :: trace, last)

/-- An execution goes on with any events: the kernel takes every event in every state. -/
theorem execution_append_runEvents {sessionHash : Nat → Nat → Nat} :
    ∀ (events : List (Event WId SId SubId)) {trace} {state : GatewayState WId SId SubId},
      (kernelSystem sessionHash).Execution trace state →
        (kernelSystem sessionHash).Execution (trace ++ (runEvents sessionHash state events).1)
          (runEvents sessionHash state events).2
  | [], trace, state, run => by simpa [runEvents] using run
  | event :: events, trace, state, run => by
      have next : (kernelSystem sessionHash).Execution
          (trace ++ [(event, (reduce sessionHash state event).effects)])
          (reduce sessionHash state event).state :=
        run.step ⟨state, GatewayState.Reorder.refl state, rfl⟩
      simpa [runEvents] using execution_append_runEvents events next

/-- Running events from a fresh state is an execution. -/
theorem execution_runEvents (sessionHash : Nat → Nat → Nat)
    (runtimeId workerTtl streamTtl subscriberTtl : Nat) (events : List (Event WId SId SubId)) :
    (kernelSystem sessionHash).Execution
      (runEvents sessionHash
        (GatewayState.new WId SId SubId runtimeId workerTtl streamTtl subscriberTtl) events).1
      (runEvents sessionHash
        (GatewayState.new WId SId SubId runtimeId workerTtl streamTtl subscriberTtl) events).2 := by
  have start : (kernelSystem sessionHash).Execution []
      (GatewayState.new WId SId SubId runtimeId workerTtl streamTtl subscriberTtl) :=
    .start ⟨runtimeId, workerTtl, streamTtl, subscriberTtl, rfl⟩
  simpa using execution_append_runEvents events start

end Runs

end ProstheticConscience.Gateway
