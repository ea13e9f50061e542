/-
Module: ProstheticConscience.Consensus.Coordinator
Purpose: Session coordination: slots for the entries of a stream, filled in any order, and the
  fetches planned for the ranges that are missing.
Trusted boundary: none
Main exports: Coordinator.State, Coordinator.init, Coordinator.reduce,
  Coordinator.planMissingFetches, Coordinator.Extends, Coordinator.reduce_extends,
  Coordinator.covers_planMissingFetches, Coordinator.Agrees, Coordinator.committedPrefix_of_agrees
-/
import Mathlib.Data.List.TakeWhile

namespace ProstheticConscience.Consensus.Coordinator

inductive Slot (T : Type) where
  | requested
  | received (entry : T)
deriving DecidableEq, Repr

namespace Slot

variable {T : Type}

def isRequested : Slot T → Bool
  | requested => true
  | received _ => false

/-- The entry of a slot that was filled. -/
def received? : Slot T → Option T
  | requested => none
  | received entry => some entry

/-- A slot that is not requested holds an entry. -/
theorem exists_received {slot : Slot T} (filled : slot.isRequested = false) :
    ∃ entry, slot = received entry := by
  cases slot with
  | requested => cases filled
  | received entry => exact ⟨entry, rfl⟩

end Slot

/-- Reducer state for stream coordination.  Pages are never empty. -/
structure State (T : Type) where
  slots : List (Slot T)
  pageLimit : Nat
  positive : 0 < pageLimit
deriving DecidableEq

inductive Event (T : Type) where
  | received (index : Nat) (entry : T)
deriving DecidableEq, Repr

inductive Effect where
  | fetchMissing (start limit : Nat)
deriving DecidableEq, Repr

structure Transition (T : Type) where
  state : State T
  effects : List Effect
deriving DecidableEq

inductive InitError where
  | invalidPageLimit
deriving DecidableEq, Repr

variable {T : Type}

def State.empty (pageLimit : Nat) (positive : 0 < pageLimit) : State T where
  slots := []
  pageLimit := pageLimit
  positive := positive

/-- The first missing slot, or the known upper bound if no slots are missing. -/
def State.nextExpected (state : State T) : Nat :=
  state.slots.findIdx Slot.isRequested

/-- The contiguous committed prefix, excluding any buffered future entries. -/
def State.committedPrefix (state : State T) : List T :=
  (state.slots.take state.nextExpected).filterMap Slot.received?

/-- The slots resized to a length, new ones requested. -/
def resizeRequested (slots : List (Slot T)) (length : Nat) : List (Slot T) :=
  slots.take length ++ List.replicate (length - slots.length) .requested

def applyLatestIndex (state : State T) (latestEntryIndex : Nat) : State T :=
  if state.slots.length ≤ latestEntryIndex then
    { state with slots := resizeRequested state.slots (latestEntryIndex + 1) }
  else state

/-- The fetches of one missing range, a page at a time. -/
def fetchPages {pageLimit : Nat} (positive : 0 < pageLimit) (start stop : Nat) : List Effect :=
  if _ongoing : start < stop then
    let limit := min (stop - start) pageLimit
    .fetchMissing start limit :: fetchPages positive (start + limit) stop
  else []
termination_by stop - start

/-- The end of the run of requested slots that starts at an index. -/
def runEnd (slots : List (Slot T)) (index : Nat) : Nat :=
  index + ((slots.drop index).takeWhile Slot.isRequested).length

/-- A run of requested slots that begins at a requested one is not empty. -/
theorem lt_runEnd {slots : List (Slot T)} {index : Nat}
    (requested : slots[index]? = some .requested) : index < runEnd slots index := by
  obtain ⟨inside, slotEq⟩ := List.getElem?_eq_some_iff.mp requested
  unfold runEnd
  rw [List.drop_eq_getElem_cons inside, slotEq, List.takeWhile_cons_of_pos rfl, List.length_cons]
  omega

/-- The scan over the slots from an index on. -/
def planMissingFrom (state : State T) (index : Nat) : List Effect :=
  if _inside : index < state.slots.length then
    match _slot : state.slots[index]? with
    | some .requested =>
        let stop := runEnd state.slots index
        fetchPages state.positive index stop ++ planMissingFrom state stop
    | _ => planMissingFrom state (index + 1)
  else []
termination_by state.slots.length - index
decreasing_by
  · have := lt_runEnd _slot
    omega
  · omega

def planMissingFetches (state : State T) : List Effect :=
  planMissingFrom state 0

/-- Update coordinator state to the latest known entry index without shrinking state. -/
def syncToLatest (state : State T) : Option Nat → Transition T
  | some latestEntryIndex =>
      let state := applyLatestIndex state latestEntryIndex
      { state, effects := planMissingFetches state }
  | none => { state, effects := [] }

/-- Create coordinator state from a page limit and optional latest known entry index. -/
def init (pageLimit : Nat) (latestEntryIndex : Option Nat) : Except InitError (Transition T) :=
  if positive : 0 < pageLimit then
    .ok (syncToLatest (State.empty pageLimit positive) latestEntryIndex)
  else .error .invalidPageLimit

/-- Reduce one event into a new state and requested effects. -/
def reduce (state : State T) : Event T → Transition T
  | .received index entry =>
      match state.slots[index]? with
      | some (.received _) => { state, effects := [] }
      | some .requested =>
          { state := { state with slots := state.slots.set index (.received entry) }
            effects := [] }
      | none =>
          let resized := resizeRequested state.slots (index + 1)
          let state := { state with slots := resized.set index (.received entry) }
          { state, effects := planMissingFetches state }

/-! ### Planned fetches

The plan goes through the slots, and cuts every run of requested ones into pages. What it fetches
lies within the slots, and nothing that is missing is left out. -/

namespace Effect

/-- The fetch asks for the entry of an index. -/
def Covers : Effect → Nat → Prop
  | fetchMissing start limit, index => start ≤ index ∧ index < start + limit

/-- The fetch asks for no more than a page and for nothing beyond an upper bound. -/
def Within (pageLimit bound : Nat) : Effect → Prop
  | fetchMissing start limit => start + limit ≤ bound ∧ limit ≤ pageLimit

/-- A fetch within a bound is within a larger one. -/
theorem Within.mono {pageLimit bound further : Nat} (le : bound ≤ further) {fetch : Effect}
    (within : fetch.Within pageLimit bound) : fetch.Within pageLimit further := by
  cases fetch with
  | fetchMissing start limit => exact ⟨within.1.trans le, within.2⟩

end Effect

/-- The pages of a run stay in it, and none is larger than the page limit. -/
theorem fetchPages_within {pageLimit : Nat} (positive : 0 < pageLimit) {start stop : Nat} :
    ∀ fetch ∈ fetchPages positive start stop, fetch.Within pageLimit stop := by
  induction start using fetchPages.induct positive stop with
  | case1 start ongoing limit ih =>
      rw [fetchPages, dif_pos ongoing]
      intro fetch member
      rcases List.mem_cons.mp member with rfl | later
      · exact ⟨by omega, Nat.min_le_right _ _⟩
      · exact ih fetch later
  | case2 start done =>
      rw [fetchPages, dif_neg done]
      intro fetch member
      cases member

/-- The pages of a run leave out no index of it. -/
theorem covers_fetchPages {pageLimit : Nat} (positive : 0 < pageLimit) {start stop index : Nat}
    (after : start ≤ index) (before : index < stop) :
    ∃ fetch ∈ fetchPages positive start stop, fetch.Covers index := by
  induction start using fetchPages.induct positive stop with
  | case1 start ongoing limit ih =>
      rw [fetchPages, dif_pos ongoing]
      by_cases onPage : index < start + limit
      · exact ⟨_, List.mem_cons_self, after, onPage⟩
      · obtain ⟨fetch, member, covers⟩ := ih (Nat.le_of_not_lt onPage)
        exact ⟨fetch, List.mem_cons_of_mem _ member, covers⟩
  | case2 start done => omega

/-- A run ends at the end of the slots at the latest. -/
theorem runEnd_le (slots : List (Slot T)) {index : Nat} (inside : index ≤ slots.length) :
    runEnd slots index ≤ slots.length := by
  unfold runEnd
  have short := (List.takeWhile_sublist Slot.isRequested (l := slots.drop index)).length_le
  rw [List.length_drop] at short
  omega

/-- A plan fetches known indices only; by the recursion of the plan, which skips a run at a time. -/
theorem planMissingFrom_within (state : State T) (index : Nat) :
    ∀ fetch ∈ planMissingFrom state index,
      fetch.Within state.pageLimit state.slots.length := by
  induction index using planMissingFrom.induct state with
  | case1 index inside slot stop ih =>
      rw [planMissingFrom, dif_pos inside]
      split
      · intro fetch member
        rcases List.mem_append.mp member with page | later
        · exact (fetchPages_within state.positive fetch page).mono
            (runEnd_le state.slots inside.le)
        · exact ih fetch later
      · simp_all
  | case2 index inside filled ih =>
      rw [planMissingFrom, dif_pos inside]
      split
      · simp_all
      · exact ih
  | case3 index done =>
      rw [planMissingFrom, dif_neg done]
      intro fetch member
      cases member

/-- Every missing slot from the index on is asked for. -/
theorem covers_planMissingFrom (state : State T) (index : Nat) {missing : Nat}
    (further : index ≤ missing) (requested : state.slots[missing]? = some .requested) :
    ∃ fetch ∈ planMissingFrom state index, fetch.Covers missing := by
  have inside := (List.getElem?_eq_some_iff.mp requested).1
  induction index using planMissingFrom.induct state with
  | case1 index _ slot stop ih =>
      rw [planMissingFrom, dif_pos (by omega)]
      split
      · by_cases inRun : missing < stop
        · obtain ⟨fetch, member, covers⟩ := covers_fetchPages state.positive further inRun
          exact ⟨fetch, List.mem_append_left _ member, covers⟩
        · obtain ⟨fetch, member, covers⟩ := ih (Nat.le_of_not_lt inRun)
          exact ⟨fetch, List.mem_append_right _ member, covers⟩
      · simp_all
  | case2 index _ filled ih =>
      rw [planMissingFrom, dif_pos (by omega)]
      split
      · simp_all
      · rcases Nat.eq_or_lt_of_le further with rfl | later
        · exact absurd requested (filled ·)
        · exact ih later
  | case3 index done => omega

/-- The whole plan fetches known indices only. -/
theorem planMissingFetches_within (state : State T) :
    ∀ fetch ∈ planMissingFetches state, fetch.Within state.pageLimit state.slots.length :=
  planMissingFrom_within state 0

/-- Every missing entry is covered by the plan. -/
theorem covers_planMissingFetches (state : State T) {missing : Nat}
    (requested : state.slots[missing]? = some .requested) :
    ∃ fetch ∈ planMissingFetches state, fetch.Covers missing :=
  covers_planMissingFrom state 0 (Nat.zero_le _) requested

/-! ### What a transition does to the slots

`Extends` says all that a transition can do: entries that are held are kept, new ones are those it
was given, and the slots only grow. -/

/-- Growing the slots keeps those that are there and requests the others. -/
theorem getElem?_resizeRequested {slots : List (Slot T)} {length : Nat}
    (grows : slots.length ≤ length) (index : Nat) :
    (resizeRequested slots length)[index]? =
      if index < slots.length then slots[index]?
      else if index < length then some .requested else none := by
  unfold resizeRequested
  rw [List.take_of_length_le grows, List.getElem?_append, List.getElem?_replicate]
  by_cases old : index < slots.length
  · rw [if_pos old, if_pos old]
  · rw [if_neg old, if_neg old]
    by_cases new : index < length
    · rw [if_pos new, if_pos (by omega)]
    · rw [if_neg new, if_neg (by omega)]

/-- The slots grow to the length that is asked for. -/
theorem length_resizeRequested {slots : List (Slot T)} {length : Nat}
    (grows : slots.length ≤ length) : (resizeRequested slots length).length = length := by
  unfold resizeRequested
  rw [List.length_append, List.length_take, List.length_replicate]
  omega

/-- Resizing neither adds nor loses an entry. -/
theorem received_resizeRequested {slots : List (Slot T)} {length : Nat}
    (grows : slots.length ≤ length) (index : Nat) (entry : T) :
    (resizeRequested slots length)[index]? = some (.received entry) ↔
      slots[index]? = some (.received entry) := by
  rw [getElem?_resizeRequested grows]
  by_cases old : index < slots.length
  · rw [if_pos old]
  · rw [if_neg old, List.getElem?_eq_none (Nat.le_of_not_lt old)]
    split <;> simp

/-- Filling a slot adds one entry. -/
theorem received_set {slots : List (Slot T)} {index other : Nat} {entry held : T}
    (received : (slots.set index (.received entry))[other]? = some (.received held)) :
    slots[other]? = some (.received held) ∨ other = index ∧ held = entry := by
  rw [List.getElem?_set] at received
  split at received
  · rename_i same
    right
    split at received
    · cases received
      exact ⟨same.symm, rfl⟩
    · cases received
  · exact .inl received

/-- The slot of an index was filled with an entry. -/
def State.Holds (state : State T) (index : Nat) (entry : T) : Prop :=
  state.slots[index]? = some (.received entry)

/-- The slot of an index is known and still empty. -/
def State.Misses (state : State T) (index : Nat) : Prop :=
  state.slots[index]? = some .requested

/-- What a transition may do: keep what was received, add entries of a given kind, and ask for the
slots it adds. -/
structure Extends (before : State T) (added : Nat → T → Prop) (after : Transition T) : Prop where
  pageLimit : after.state.pageLimit = before.pageLimit
  grows : before.slots.length ≤ after.state.slots.length
  kept : ∀ index entry, before.Holds index entry → after.state.Holds index entry
  sound : ∀ index entry, after.state.Holds index entry →
    before.Holds index entry ∨ added index entry
  asked : ∀ index, after.state.Misses index →
    before.Misses index ∨ ∃ fetch ∈ after.effects, fetch.Covers index
  within : ∀ fetch ∈ after.effects, fetch.Within before.pageLimit after.state.slots.length

/-- Nothing changed and nothing new is missing. -/
theorem Extends.of_same (state : State T) (added : Nat → T → Prop) {effects : List Effect}
    (within : ∀ fetch ∈ effects, fetch.Within state.pageLimit state.slots.length) :
    Extends state added { state, effects } where
  pageLimit := rfl
  grows := le_rfl
  kept _ _ holds := holds
  sound _ _ holds := .inl holds
  asked _ misses := .inl misses
  within := within

/-- Learning of the latest index only adds requested slots. -/
theorem syncToLatest_extends (state : State T) (latest : Option Nat) :
    Extends state (fun _ _ => False) (syncToLatest state latest) := by
  cases latest with
  | none =>
      apply Extends.of_same
      intro fetch member
      cases member
  | some latest =>
      dsimp only [syncToLatest, applyLatestIndex]
      by_cases beyond : state.slots.length ≤ latest
      · have grows : state.slots.length ≤ latest + 1 := by omega
        rw [if_pos beyond]
        refine ⟨rfl, ?_, ?_, ?_, ?_, ?_⟩
        · dsimp only
          rw [length_resizeRequested grows]
          exact grows
        · intro index entry holds
          exact (received_resizeRequested grows index entry).mpr holds
        · intro index entry holds
          exact .inl ((received_resizeRequested grows index entry).mp holds)
        · intro index misses
          exact .inr (covers_planMissingFetches _ misses)
        · exact planMissingFetches_within _
      · rw [if_neg beyond]
        exact .of_same state _ (planMissingFetches_within state)

/-- A start is learning of the latest index from an empty state; it is refused for a page limit of
zero only. -/
theorem init_extends {pageLimit : Nat} {latest : Option Nat} {transition : Transition T}
    (bootstrapped : init pageLimit latest = .ok transition) :
    ∃ positive : 0 < pageLimit,
      transition = syncToLatest (State.empty pageLimit positive) latest ∧
        Extends (State.empty pageLimit positive) (fun _ _ => False) transition := by
  unfold init at bootstrapped
  split at bootstrapped
  · rename_i positive
    obtain rfl := Except.ok.inj bootstrapped
    exact ⟨positive, rfl, syncToLatest_extends _ latest⟩
  · cases bootstrapped

/-- The coordinator that bootstraps has received nothing. -/
theorem not_holds_init {pageLimit : Nat} {latest : Option Nat} {transition : Transition T}
    (bootstrapped : init pageLimit latest = .ok transition) (index : Nat) (entry : T) :
    ¬transition.state.Holds index entry := by
  obtain ⟨positive, _, bootstrap⟩ := init_extends bootstrapped
  intro holds
  rcases bootstrap.sound index entry holds with old | impossible
  · cases old
  · exact impossible

/-- Receiving an entry fills its slot, unless the slot was filled before. -/
theorem reduce_extends (state : State T) (index : Nat) (entry : T) :
    Extends state (fun added value => added = index ∧ value = entry)
      (reduce state (.received index entry)) := by
  unfold reduce
  dsimp only
  split
  · apply Extends.of_same
    intro fetch member
    cases member
  · rename_i misses
    refine ⟨rfl, ?_, ?_, ?_, ?_, ?_⟩
    · exact (List.length_set ..).ge
    · intro other held holds
      unfold State.Holds at holds ⊢
      rw [List.getElem?_set_ne]
      · exact holds
      · rintro rfl
        simp [misses] at holds
    · intro other held holds
      exact received_set holds
    · intro other stillMisses
      unfold State.Misses at stillMisses
      rw [List.getElem?_set] at stillMisses
      split at stillMisses
      · split at stillMisses <;> simp at stillMisses
      · exact .inl stillMisses
    · intro fetch member
      cases member
  · rename_i beyond
    have short := List.getElem?_eq_none_iff.mp beyond
    have grows : state.slots.length ≤ index + 1 := by omega
    refine ⟨rfl, ?_, ?_, ?_, ?_, ?_⟩
    · dsimp only
      rw [List.length_set, length_resizeRequested grows]
      exact grows
    · intro other held holds
      have inside := (List.getElem?_eq_some_iff.mp holds).1
      unfold State.Holds
      rw [List.getElem?_set_ne (by omega)]
      exact (received_resizeRequested grows other held).mpr holds
    · intro other held holds
      rcases received_set holds with before | now
      · exact .inl ((received_resizeRequested grows other held).mp before)
      · exact .inr now
    · intro other misses
      exact .inr (covers_planMissingFetches _ misses)
    · exact planMissingFetches_within _

/-- The slot of an entry that was received is filled. -/
theorem exists_holds_reduce (state : State T) (index : Nat) (entry : T) :
    ∃ held, (reduce state (.received index entry)).state.Holds index held := by
  unfold reduce State.Holds
  dsimp only
  split
  · rename_i held holds
    exact ⟨held, holds⟩
  · rename_i misses
    refine ⟨entry, ?_⟩
    exact List.getElem?_set_self (List.getElem?_eq_some_iff.mp misses).1
  · rename_i beyond
    have := List.getElem?_eq_none_iff.mp beyond
    refine ⟨entry, List.getElem?_set_self ?_⟩
    rw [length_resizeRequested (by omega)]
    omega

/-- An entry makes the slots grow up to its own at most. -/
theorem length_reduce_le (state : State T) (index : Nat) (entry : T) :
    (reduce state (.received index entry)).state.slots.length ≤
      max state.slots.length (index + 1) := by
  unfold reduce
  dsimp only
  split
  · exact Nat.le_max_left _ _
  · dsimp only
    rw [List.length_set]
    exact Nat.le_max_left _ _
  · rename_i beyond
    have := List.getElem?_eq_none_iff.mp beyond
    dsimp only
    rw [List.length_set, length_resizeRequested (by omega)]
    exact Nat.le_max_right _ _

/-- The slots reach up to the latest index. -/
theorem length_syncToLatest (state : State T) (latest : Nat) :
    (syncToLatest state (some latest)).state.slots.length =
      max state.slots.length (latest + 1) := by
  dsimp only [syncToLatest, applyLatestIndex]
  by_cases beyond : state.slots.length ≤ latest
  · rw [if_pos beyond]
    dsimp only
    rw [length_resizeRequested (by omega)]
    omega
  · rw [if_neg beyond]
    omega

/-! ### The committed prefix -/

/-- Everything that was received stands in the log, at its index. -/
def Agrees (log : List T) (state : State T) : Prop :=
  ∀ index entry, state.Holds index entry → log[index]? = some entry

/-- The next expected index is one of a slot, or the first one after them. -/
theorem nextExpected_le (state : State T) : state.nextExpected ≤ state.slots.length :=
  List.findIdx_le_length

/-- Below the next expected index every entry is there. -/
theorem holds_of_lt_nextExpected {state : State T} {index : Nat}
    (before : index < state.nextExpected) : ∃ entry, state.Holds index entry := by
  have inside : index < state.slots.length := before.trans_le (nextExpected_le state)
  obtain ⟨entry, slotEq⟩ := Slot.exists_received
    (List.not_of_lt_findIdx before)
  exact ⟨entry, List.getElem?_eq_some_iff.mpr ⟨inside, slotEq⟩⟩

/-- The next expected entry is not there. -/
theorem not_holds_nextExpected {state : State T} {entry : T} :
    ¬state.Holds state.nextExpected entry := by
  intro holds
  obtain ⟨inside, slotEq⟩ := List.getElem?_eq_some_iff.mp holds
  have requested : state.slots[state.nextExpected].isRequested = true :=
    List.findIdx_getElem
  rw [slotEq] at requested
  cases requested

/-- The next expected index is the first one whose slot is not filled. -/
theorem nextExpected_eq {state : State T} {index : Nat}
    (filled : ∀ earlier < index, ∃ entry, state.Holds earlier entry)
    (unfilled : ∀ entry, ¬state.Holds index entry) : state.nextExpected = index := by
  rcases Nat.lt_trichotomy state.nextExpected index with before | same | after
  · obtain ⟨entry, holds⟩ := filled _ before
    exact absurd holds not_holds_nextExpected
  · exact same
  · obtain ⟨entry, holds⟩ := holds_of_lt_nextExpected after
    exact absurd holds (unfilled entry)

/-- The committed prefix is the part of a log below the next expected index, if what was received
below that index stands in the log. -/
theorem committedPrefix_eq_take {log : List T} {state : State T}
    (inLog : ∀ index < state.nextExpected, ∀ entry, state.Holds index entry →
      log[index]? = some entry) : state.committedPrefix = log.take state.nextExpected := by
  unfold State.committedPrefix
  have filled : ∀ count ≤ state.nextExpected,
      (state.slots.take count).filterMap Slot.received? = log.take count := by
    intro count
    induction count with
    | zero => intro _; rfl
    | succ count ih =>
        intro le
        obtain ⟨entry, holds⟩ := holds_of_lt_nextExpected le
        rw [List.take_add_one, List.take_add_one, List.filterMap_append, ih (by omega), holds,
          inLog count le entry holds]
        rfl
  exact filled _ le_rfl

/-- The committed entries are the beginning of the log up to the next expected index. -/
theorem committedPrefix_of_agrees {log : List T} {state : State T} (agrees : Agrees log state) :
    state.committedPrefix = log.take state.nextExpected :=
  committedPrefix_eq_take fun index _ => agrees index

end ProstheticConscience.Consensus.Coordinator
