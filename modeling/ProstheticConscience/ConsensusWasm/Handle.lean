/-
Module: ProstheticConscience.ConsensusWasm.Handle
Purpose: The wrapper that the browser drives the app through, and what a payload that is no entry
  does to the two clients.  The conversion of results to JavaScript values is left out.
Trusted boundary: none
Main exports: ConsensusAppHandle, ConsensusAppHandle.bootstrap, ConsensusAppHandle.receiveEntry,
  ConsensusAppHandle.committedLog, InvalidOnlyAtEnd, both_clients_commit_iff
-/
import ProstheticConscience.Consensus.BrowserApp
import ProstheticConscience.Consensus.Sequencers

namespace ProstheticConscience.ConsensusWasm

open Consensus

structure DispatchResult where
  view : BrowserApp.View
  effects : List BrowserApp.Effect
deriving DecidableEq, Repr

structure ConsensusAppHandle where
  participant : String
  state : Option BrowserApp.State
deriving DecidableEq

namespace ConsensusAppHandle

def new (participant : String) : ConsensusAppHandle where
  participant := participant
  state := none

def defaultConversationConfig : BrowserApp.ConversationConfig where
  model := "default"
  maxHistory := 8
  maxTokens := 512

/-- The result of a transition, and the handle that holds its state. -/
def dispatch (handle : ConsensusAppHandle) (transition : BrowserApp.Transition) :
    DispatchResult × ConsensusAppHandle :=
  ({ view := BrowserApp.view transition.state, effects := transition.effects },
    { handle with state := some transition.state })

def bootstrap (handle : ConsensusAppHandle) (latestEntryIndex : Option Nat) :
    DispatchResult × ConsensusAppHandle :=
  handle.dispatch
    (BrowserApp.init handle.participant latestEntryIndex defaultConversationConfig)

def receiveEntryModel (handle : ConsensusAppHandle) (index : Nat) (entry : Entry) :
    Except String DispatchResult × ConsensusAppHandle :=
  match handle.state with
  | none => (.error "app state unavailable; call bootstrap first", handle)
  | some state =>
      let (result, after) :=
        handle.dispatch (BrowserApp.reduceCoordinatorEvent state (.received index entry))
      (.ok result, after)

section Receiving

/-! The deserializer of entries is derived; both clients call it through their JSON library. -/

variable (parseEntry : Value → Except String Entry)

/-- A payload that is no entry is refused before the app sees its index. -/
def receiveEntry (handle : ConsensusAppHandle) (index : Nat) (entry : Value) :
    Except String DispatchResult × ConsensusAppHandle :=
  match parseEntry entry with
  | .ok entry => handle.receiveEntryModel index entry
  | .error error => (.error error, handle)

/-- The handle after a run of deliveries, refused ones included. -/
def receiveAll (handle : ConsensusAppHandle) (received : List (Nat × Value)) :
    ConsensusAppHandle :=
  received.foldl
    (fun handle delivery => (handle.receiveEntry parseEntry delivery.1 delivery.2).2) handle

end Receiving

/-- The committed entries that the app shows. -/
def committedLog (handle : ConsensusAppHandle) : List Entry :=
  (handle.state.map fun state => state.coordinator.committedPrefix).getD []

end ConsensusAppHandle

/-! ### What a run of deliveries comes to

The handle refuses a payload that is no entry before the coordinator hears of its index; the prefix
that it commits ends there, while the terminal client skips the payload. -/

section Runs

variable {parseEntry : Value → Except String Entry}

/-- The app's coordinator is fed what parses. -/
theorem receiveAll_coordinator {handle : ConsensusAppHandle} {state : BrowserApp.State}
    (bootstrapped : handle.state = some state) (received : List (Nat × Value)) :
    (handle.receiveAll parseEntry received).state.map (·.coordinator) =
      some (Coordinator.receiveAll state.coordinator
        (received.filterMap (parsedDelivery parseEntry))) := by
  induction received generalizing handle state with
  | nil =>
      rw [ConsensusAppHandle.receiveAll, List.foldl_nil, bootstrapped]
      rfl
  | cons delivery rest ih =>
      rw [ConsensusAppHandle.receiveAll, List.foldl_cons]
      cases parsed : parseEntry delivery.2 with
      | error error =>
          have skipped : parsedDelivery parseEntry delivery = none := by
            rw [parsedDelivery, parsed]
            rfl
          have refused : (handle.receiveEntry parseEntry delivery.1 delivery.2).2 = handle := by
            rw [ConsensusAppHandle.receiveEntry, parsed]
          rw [refused, List.filterMap_cons_none skipped]
          exact ih bootstrapped
      | ok entry =>
          have fed : parsedDelivery parseEntry delivery = some (delivery.1, entry) := by
            rw [parsedDelivery, parsed]
            rfl
          have accepted : (handle.receiveEntry parseEntry delivery.1 delivery.2).2.state =
              some (BrowserApp.reduceCoordinatorEvent state
                (.received delivery.1 entry)).state := by
            rw [ConsensusAppHandle.receiveEntry, parsed]
            dsimp only
            rw [ConsensusAppHandle.receiveEntryModel, bootstrapped]
            rfl
          rw [List.filterMap_cons_some fed]
          exact ih accepted

/-- What the app shows after a run of deliveries: the entries up to the first index that it was not
fed. -/
theorem committedLog_receiveAll {log : List Value} (participant : String) (latest : Option Nat)
    {received : List (Nat × Value)}
    (inLog : ∀ delivery ∈ received, log[delivery.1]? = some delivery.2) :
    (((ConsensusAppHandle.new participant).bootstrap latest).2.receiveAll parseEntry
        received).committedLog =
      EntryBuffer.parsedEntries parseEntry (log.take (firstUndelivered
        ((received.filterMap (parsedDelivery parseEntry)).map Prod.fst))) := by
  have bootstrapped : Coordinator.init (T := Entry) BrowserApp.coordinatorPageLimit latest =
      .ok (Coordinator.syncToLatest (.empty BrowserApp.coordinatorPageLimit (by decide)) latest) :=
    rfl
  have started : ((ConsensusAppHandle.new participant).bootstrap latest).2.state = some _ := rfl
  have coordinator : _ = some (Coordinator.receiveAll _
      (received.filterMap (parsedDelivery parseEntry))) := receiveAll_coordinator started received
  obtain ⟨state, stateEq, coordinatorEq⟩ := Option.map_eq_some_iff.mp coordinator
  rw [ConsensusAppHandle.committedLog, stateEq, Option.map_some, Option.getD_some, coordinatorEq]
  exact committedPrefix_fed bootstrapped inLog

/-- No entry stands behind a payload that is none. -/
def InvalidOnlyAtEnd (parseEntry : Value → Except String Entry) (log : List Value) : Prop :=
  log.Pairwise fun earlier later =>
    (parseEntry earlier).isOk = false → (parseEntry later).isOk = false

theorem parsedEntries_eq_nil {log : List Value} :
    EntryBuffer.parsedEntries parseEntry log = [] ↔
      ∀ payload ∈ log, (parseEntry payload).isOk = false := by
  rw [EntryBuffer.parsedEntries, List.filterMap_eq_nil_iff]
  refine forall₂_congr fun payload _ => ?_
  cases parseEntry payload <;> simp [Except.toOption, Except.isOk, Except.toBool]

/-- When every index is delivered, the app is fed exactly the indices whose payload parses. -/
theorem mem_fed_iff {log : List Value} {received : List (Nat × Value)}
    (inLog : ∀ delivery ∈ received, log[delivery.1]? = some delivery.2)
    (everyIndex : ∀ index < log.length, index ∈ received.map Prod.fst) (index : Nat) :
    index ∈ (received.filterMap (parsedDelivery parseEntry)).map Prod.fst ↔
      ∃ payload, log[index]? = some payload ∧ (parseEntry payload).isOk = true := by
  rw [List.mem_map]
  constructor
  · intro fed
    obtain ⟨parsed, member, rfl⟩ := fed
    obtain ⟨delivery, delivered, parsedEq⟩ := List.mem_filterMap.mp member
    obtain ⟨same, parses⟩ := parsedDelivery_eq_some.mp parsedEq
    refine ⟨delivery.2, same ▸ inLog delivery delivered, ?_⟩
    rw [parses]
    rfl
  · intro standing
    obtain ⟨payload, found, isOk⟩ := standing
    obtain ⟨delivery, delivered, rfl⟩ :=
      List.mem_map.mp (everyIndex index (List.getElem?_eq_some_iff.mp found).1)
    obtain rfl := Option.some.inj ((inLog delivery delivered).symm.trans found)
    cases parsed : parseEntry delivery.2 with
    | error error =>
        rw [parsed] at isOk
        cases isOk
    | ok entry =>
        exact ⟨(delivery.1, entry),
          List.mem_filterMap.mpr ⟨delivery, delivered, parsedDelivery_eq_some.mpr ⟨rfl, parsed⟩⟩,
          rfl⟩

/-- Up to the first payload that is no entry, everything is shown; what is missing is what stands
behind it. -/
theorem parsedEntries_take_eq_iff {log : List Value} {stop : Nat}
    (parses : ∀ payload ∈ log.take stop, (parseEntry payload).isOk = true)
    (stopped : ∀ payload, log[stop]? = some payload → (parseEntry payload).isOk = false) :
    EntryBuffer.parsedEntries parseEntry (log.take stop) =
        EntryBuffer.parsedEntries parseEntry log ↔ InvalidOnlyAtEnd parseEntry log := by
  have split : EntryBuffer.parsedEntries parseEntry log =
      EntryBuffer.parsedEntries parseEntry (log.take stop) ++
        EntryBuffer.parsedEntries parseEntry (log.drop stop) := by
    rw [EntryBuffer.parsedEntries, EntryBuffer.parsedEntries, EntryBuffer.parsedEntries,
      ← List.filterMap_append, List.take_append_drop]
  rw [split, List.self_eq_append_right, parsedEntries_eq_nil, InvalidOnlyAtEnd]
  constructor
  · intro nothingBehind
    rw [← List.take_append_drop stop log, List.pairwise_append]
    refine ⟨?_, ?_, ?_⟩
    · exact List.pairwise_of_forall_mem_list fun first member _ _ invalid =>
        absurd (parses first member) (by simp [invalid])
    · exact List.pairwise_of_forall_mem_list fun _ _ later member _ => nothingBehind later member
    · exact fun first member _ _ invalid => absurd (parses first member) (by simp [invalid])
  · intro onlyAtEnd payload member
    cases atStop : log[stop]? with
    | none =>
        rw [List.drop_eq_nil_of_le (List.getElem?_eq_none_iff.mp atStop)] at member
        cases member
    | some blocker =>
        obtain ⟨inside, here⟩ := List.getElem?_eq_some_iff.mp atStop
        have invalid := stopped blocker atStop
        rw [List.drop_eq_getElem_cons inside, here] at member
        rcases List.mem_cons.mp member with rfl | behind
        · exact invalid
        · have pairs := onlyAtEnd.drop (i := stop)
          rw [List.drop_eq_getElem_cons inside, here] at pairs
          exact (List.pairwise_cons.mp pairs).1 payload behind invalid

/-- The terminal client commits every entry of the log, whatever stands between them. -/
theorem entryBuffer_commits {log : List Value} (participant : String)
    {received : List (Nat × Value)}
    (inLog : ∀ delivery ∈ received, log[delivery.1]? = some delivery.2)
    (everyIndex : ∀ index < log.length, index ∈ received.map Prod.fst) :
    (EntryBuffer.receiveAll parseEntry (.new participant) received).engine.log =
      EntryBuffer.parsedEntries parseEntry log := by
  have follows := (EntryBuffer.Follows.new parseEntry participant log).receiveAll inLog
  have knowsAll : ∀ index < log.length,
      (EntryBuffer.receiveAll parseEntry (.new participant) received).Knows index :=
    fun index inside => EntryBuffer.knows_receiveAll_iff.mpr (.inr (everyIndex index inside))
  exact (follows.caught_up knowsAll).2

/-- When every index of a log is delivered, in any order, both clients commit exactly the entries
of the log if and only if no entry stands behind a payload that is none. -/
theorem both_clients_commit_iff {log : List Value} (participant : String) (latest : Option Nat)
    {received : List (Nat × Value)}
    (inLog : ∀ delivery ∈ received, log[delivery.1]? = some delivery.2)
    (everyIndex : ∀ index < log.length, index ∈ received.map Prod.fst) :
    ((EntryBuffer.receiveAll parseEntry (.new participant) received).engine.log =
        EntryBuffer.parsedEntries parseEntry log ∧
      (((ConsensusAppHandle.new participant).bootstrap latest).2.receiveAll parseEntry
          received).committedLog = EntryBuffer.parsedEntries parseEntry log) ↔
      InvalidOnlyAtEnd parseEntry log := by
  rw [and_iff_right (entryBuffer_commits participant inLog everyIndex),
    committedLog_receiveAll participant latest inLog]
  have fed : ∀ index, index ∈ (received.filterMap (parsedDelivery parseEntry)).map Prod.fst ↔
      ∃ payload, log[index]? = some payload ∧ (parseEntry payload).isOk = true :=
    mem_fed_iff inLog everyIndex
  apply parsedEntries_take_eq_iff
  · intro payload member
    obtain ⟨index, inPrefix⟩ := List.mem_iff_getElem?.mp member
    rw [List.getElem?_take] at inPrefix
    split at inPrefix
    · rename_i before
      obtain ⟨other, found, isOk⟩ := (fed index).mp (mem_of_lt_firstUndelivered before)
      rwa [Option.some.inj (found.symm.trans inPrefix)] at isOk
    · cases inPrefix
  · intro payload atStop
    by_contra valid
    rw [Bool.not_eq_false] at valid
    exact firstUndelivered_not_mem _ ((fed _).mpr ⟨payload, atStop, valid⟩)

end Runs

/-- Every payload of a log with its index, once and in order. -/
def inOrder (log : List Value) : List (Nat × Value) :=
  log.zipIdx.map Prod.swap

/-- A payload that is no entry, and a claim behind it. -/
def blockedLog : List Value :=
  [.null, (Entry.claim ⟨"id-0"⟩ "ava" "Use tokens" .proposal none).toValue]

/-- The app never shows the claim. -/
theorem blockedLog_blocks :
    ¬ ∀ (parseEntry : Value → Except String Entry) (log : List Value) (participant : String)
      (latest : Option Nat) (received : List (Nat × Value)),
      (∀ delivery ∈ received, log[delivery.1]? = some delivery.2) →
      (∀ index < log.length, index ∈ received.map Prod.fst) →
      (EntryBuffer.receiveAll parseEntry (.new participant) received).engine.log =
          EntryBuffer.parsedEntries parseEntry log ∧
        (((ConsensusAppHandle.new participant).bootstrap latest).2.receiveAll parseEntry
          received).committedLog = EntryBuffer.parsedEntries parseEntry log := by
  intro claim
  have both := claim EntryBuffer.stanceParser blockedLog "ava" (some 1) (inOrder blockedLog)
    (by decide +kernel) (by decide +kernel)
  exact absurd both.2 (by decide +kernel)

/-- Two entries, and a payload behind them that is none. -/
def endingLog : List Value :=
  EntryBuffer.stanceEntries.map Entry.toValue ++ [.null]

theorem endingLog_committed :
    (EntryBuffer.receiveAll EntryBuffer.stanceParser (.new "ava")
        (inOrder endingLog).reverse).engine.log =
        EntryBuffer.parsedEntries EntryBuffer.stanceParser endingLog ∧
      (((ConsensusAppHandle.new "ava").bootstrap (some 0)).2.receiveAll EntryBuffer.stanceParser
          (inOrder endingLog).reverse).committedLog =
        EntryBuffer.parsedEntries EntryBuffer.stanceParser endingLog :=
  (both_clients_commit_iff "ava" (some 0) (by decide +kernel) (by decide +kernel)).mpr
    (by unfold InvalidOnlyAtEnd; decide +kernel)

end ProstheticConscience.ConsensusWasm
