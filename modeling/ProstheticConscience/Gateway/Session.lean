/-
Module: ProstheticConscience.Gateway.Session
Purpose: The session kernel: an append-only entry log and a set of subscribers with deadlines.
  Tick counts are natural numbers; a run that overflows 64 bits is outside the model.
Trusted boundary: none
Main exports: AppendLog, Session.State, Session.Event, Session.Effect, Session.reduce
-/
import ProstheticConscience.Json
import ProstheticConscience.Library.AssocMap

namespace ProstheticConscience.Gateway

/-- Append-only log of JSON entries. -/
structure AppendLog where
  entries : List Value
deriving DecidableEq, Repr, Inhabited

namespace AppendLog

def new : AppendLog := { entries := [] }

def append (log : AppendLog) (value : Value) : AppendLog :=
  { entries := log.entries ++ [value] }

def len (log : AppendLog) : Nat := log.entries.length

def intoEntries (log : AppendLog) : List Value := log.entries

/-- At most `limit` entries from index `start` on, fewer at the end of the log. -/
def slice (log : AppendLog) (start limit : Nat) : List Value :=
  let start := min start log.entries.length
  let stop := min (start + limit) log.entries.length
  (log.entries.take stop).drop start

end AppendLog

namespace Session

/-- One session: its log and the deadline of every subscriber. -/
structure State (SubId : Type) where
  entries : AppendLog
  subscribers : AssocMap SubId Nat
  subscriberTtl : Nat

/-- The default state: empty, with a zero time to live. -/
def State.default (SubId : Type) : State SubId where
  entries := AppendLog.new
  subscribers := ∅
  subscriberTtl := 0

inductive Event (SubId : Type) where
  | entryAppended (payload : Value)
  | subscribed (subscriberId : SubId) (tick : Nat)
  | unsubscribed (subscriberId : SubId)
  | tick (tick : Nat)
  | subscriberHeartbeat (subscriberId : SubId) (tick : Nat)
deriving DecidableEq, Repr

inductive Effect (SubId : Type) where
  | notifySubscribers (entryIndex : Nat) (payload : Value) (subscribers : List SubId)
  | subscriberRemoved (subscriberId : SubId)
deriving DecidableEq, Repr

structure Transition (SubId : Type) where
  state : State SubId
  effects : List (Effect SubId)

variable {SubId : Type} [DecidableEq SubId]

/-- One pass over the subscribers at a tick: the expired ids and the map without them. -/
def expireSubscribers (tick : Nat) (subscribers : AssocMap SubId Nat) :
    List SubId × AssocMap SubId Nat :=
  subscribers.entries.foldl
    (fun acc entry =>
      if entry.2 ≤ tick then (acc.1 ++ [entry.1], acc.2.erase entry.1) else acc)
    ([], subscribers)

def reduce (state : State SubId) : Event SubId → Transition SubId
  | .entryAppended payload =>
      { state := { state with entries := state.entries.append payload }
        effects :=
          if state.subscribers.entries.isEmpty then []
          else [.notifySubscribers state.entries.len payload state.subscribers.keys] }
  | .subscribed subscriberId tick =>
      { state :=
          { state with
            subscribers :=
              AssocMap.update state.subscribers subscriberId (tick + state.subscriberTtl) }
        effects := [] }
  | .unsubscribed subscriberId =>
      if subscriberId ∈ state.subscribers then
        { state := { state with subscribers := state.subscribers.erase subscriberId }
          effects := [.subscriberRemoved subscriberId] }
      else { state, effects := [] }
  | .tick tick =>
      let (expired, surviving) := expireSubscribers tick state.subscribers
      { state := { state with subscribers := surviving }
        effects := expired.map .subscriberRemoved }
  | .subscriberHeartbeat subscriberId tick =>
      if subscriberId ∈ state.subscribers then
        { state :=
            { state with
              subscribers :=
                AssocMap.update state.subscribers subscriberId (tick + state.subscriberTtl) }
          effects := [] }
      else { state, effects := [] }

/-- The same session, its subscribers perhaps iterated in another order. -/
structure State.Reorder (before after : State SubId) : Prop where
  entries : after.entries = before.entries
  subscribers : AssocMap.Same before.subscribers after.subscribers
  subscriberTtl : after.subscriberTtl = before.subscriberTtl

omit [DecidableEq SubId] in
/-- A session state is a reordering of itself. -/
theorem State.Reorder.refl (state : State SubId) : State.Reorder state state :=
  ⟨rfl, AssocMap.Same.refl _, rfl⟩

end Session

end ProstheticConscience.Gateway
