/-
Module: ProstheticConscience.Consensus.Sequencers
Purpose: The two client-side sequencers side by side: an entry buffer with a cursor and a map of
  entries to come, and a coordinator with slots, fed the same deliveries in any order.
Trusted boundary: none
Main exports: EntryBuffer.reports, EntryBuffer.outcomes, Coordinator.receiveAll, firstUndelivered,
  EntryBuffer.nextIndex_receiveAll, sequencers_agree
-/
import Mathlib.Data.Fintype.EquivFin
import ProstheticConscience.Consensus.LogCursor
import ProstheticConscience.Consensus.Coordinator

namespace ProstheticConscience.Consensus

/-! ### The least index that is missing from a list -/

/-- Some index is missing among finitely many. -/
theorem exists_not_mem (indices : List Nat) : ∃ index, index ∉ indices := by
  obtain ⟨index, missing⟩ := Infinite.exists_notMem_finset indices.toFinset
  exact ⟨index, fun member => missing (List.mem_toFinset.mpr member)⟩

/-- The least index that is not among those delivered. -/
def firstUndelivered (delivered : List Nat) : Nat :=
  Nat.find (exists_not_mem delivered)

/-- The first undelivered index is the missing one below which nothing is missing. -/
theorem firstUndelivered_eq {delivered : List Nat} {index : Nat}
    (before : ∀ earlier < index, earlier ∈ delivered) (missing : index ∉ delivered) :
    firstUndelivered delivered = index :=
  (Nat.find_eq_iff _).mpr ⟨missing, fun earlier less => not_not.mpr (before earlier less)⟩

/-- Everything below the first undelivered index was delivered. -/
theorem mem_of_lt_firstUndelivered {delivered : List Nat} {index : Nat}
    (before : index < firstUndelivered delivered) : index ∈ delivered :=
  not_not.mp (Nat.find_min _ before)

/-- The first undelivered index was not delivered. -/
theorem firstUndelivered_not_mem (delivered : List Nat) :
    firstUndelivered delivered ∉ delivered :=
  Nat.find_spec (exists_not_mem delivered)

/-! ### The entry buffer

After any deliveries the cursor is the least index that was not delivered, and the reports are the
outcomes of the log up to it. -/

namespace EntryBuffer

variable (parseEntry : Value → Except String Entry)

/-- What a buffer reports while it receives a run of entries. -/
def reports (buffer : EntryBuffer) : List (Nat × Value) → List (Nat × ApplyResult)
  | [] => []
  | entry :: rest =>
      let received := applyOrBufferEntry parseEntry buffer entry.1 entry.2
      received.1 ++ reports received.2 rest

/-- What is reported of a payload. -/
def outcome (payload : Value) : ApplyResult :=
  match parseEntry payload with
  | .ok entry => .applied entry
  | .error error => .skipped error

/-- What is reported of a log, entry by entry with its index. -/
def outcomes (log : List Value) : List (Nat × ApplyResult) :=
  log.zipIdx.map fun entry => (entry.2, outcome parseEntry entry.1)

variable {parseEntry}

/-- The outcomes of a log are numbered by its indices. -/
theorem map_fst_take_outcomes {log : List Value} {count : Nat} (le : count ≤ log.length) :
    ((outcomes parseEntry log).take count).map Prod.fst = List.range count := by
  have indices : (outcomes parseEntry log).map Prod.fst = List.range log.length := by
    rw [outcomes, List.map_map, List.range_eq_range']
    exact List.zipIdx_map_snd 0 log
  rw [List.map_take, indices, List.take_range, Nat.min_eq_left le]

/-- The outcomes of a log are those of its payloads. -/
theorem map_snd_take_outcomes (log : List Value) (count : Nat) :
    ((outcomes parseEntry log).take count).map Prod.snd =
      (log.take count).map (outcome parseEntry) := by
  have results : (outcomes parseEntry log).map Prod.snd = log.map (outcome parseEntry) := by
    have payloads := congrArg (List.map (outcome parseEntry)) (List.zipIdx_map_fst 0 log)
    rw [List.map_map] at payloads
    rw [outcomes, List.map_map]
    exact payloads
  rw [List.map_take, results, List.map_take]

/-- A log that parses is reported as applied, entry by entry. -/
theorem map_outcome {log : List Value}
    (parses : ∀ payload ∈ log, ∃ entry, parseEntry payload = .ok entry) :
    log.map (outcome parseEntry) = (parsedEntries parseEntry log).map .applied := by
  unfold parsedEntries
  rw [List.map_filterMap, ← List.filterMap_eq_map]
  apply List.filterMap_congr
  intro payload member
  obtain ⟨entry, parsed⟩ := parses payload member
  simp [outcome, parsed, Except.toOption]

/-- Applying a payload reports its outcome under its index. -/
theorem applyNext_report (buffer : EntryBuffer) (payload : Value) :
    (applyNext parseEntry buffer payload).1 = (buffer.nextIndex, outcome parseEntry payload) := by
  unfold applyNext applyPayload outcome
  dsimp only
  cases parseEntry payload <;> rfl

/-- The report of the next entry extends the reports below the cursor. -/
theorem take_outcomes_applyNext {log : List Value} {buffer : EntryBuffer} {payload : Value}
    (inLog : log[buffer.nextIndex]? = some payload) :
    (outcomes parseEntry log).take buffer.nextIndex ++ [(applyNext parseEntry buffer payload).1] =
      (outcomes parseEntry log).take (applyNext parseEntry buffer payload).2.nextIndex := by
  rw [applyNext_nextIndex, List.take_add_one, applyNext_report]
  unfold outcomes
  rw [List.getElem?_map, List.getElem?_zipIdx, inLog, Nat.zero_add]
  rfl

/-- What the drain loop reports continues the outcomes of the log where the cursor stood. -/
theorem take_outcomes_drainBuffered {log : List Value} (buffer : EntryBuffer)
    (consistent : Consistent parseEntry log buffer) :
    (outcomes parseEntry log).take buffer.nextIndex ++ (drainBuffered parseEntry buffer).1 =
      (outcomes parseEntry log).take (drainBuffered parseEntry buffer).2.nextIndex := by
  induction buffer using drainBuffered.induct parseEntry with
  | case1 buffer missing =>
      rw [drainBuffered_none parseEntry missing, List.append_nil]
  | case2 buffer payload found next ih =>
      have inLog := consistent.buffered _ _ found
      have reported : (outcomes parseEntry log).take buffer.removeNext.nextIndex ++
            [(applyNext parseEntry buffer.removeNext payload).1] =
          (outcomes parseEntry log).take
            (applyNext parseEntry buffer.removeNext payload).2.nextIndex :=
        take_outcomes_applyNext inLog
      rw [drainBuffered_some parseEntry found, ← ih (consistent.removeNext.applyNext inLog),
        ← reported, List.append_assoc]
      rfl

/-- What is reported on receiving an entry extends the reports below the cursor to those below
the new cursor. -/
theorem take_outcomes_receive {log : List Value} {buffer : EntryBuffer}
    (follows : Follows parseEntry log buffer) {index : Nat} {payload : Value}
    (inLog : log[index]? = some payload) :
    (outcomes parseEntry log).take buffer.nextIndex ++
        (applyOrBufferEntry parseEntry buffer index payload).1 =
      (outcomes parseEntry log).take
        (applyOrBufferEntry parseEntry buffer index payload).2.nextIndex := by
  unfold applyOrBufferEntry
  split
  · exact List.append_nil _
  · split
    · exact List.append_nil _
    · rename_i notLate notAhead
      obtain rfl : index = buffer.nextIndex := by omega
      rw [← take_outcomes_drainBuffered _ (follows.toConsistent.applyNext inLog),
        ← take_outcomes_applyNext inLog, List.append_assoc]
      rfl

/-- What any deliveries report continues the outcomes of the log where the cursor stood; by
induction on the deliveries. -/
theorem take_outcomes_receiveAll {log : List Value} {received : List (Nat × Value)}
    (inLog : ∀ entry ∈ received, log[entry.1]? = some entry.2) {buffer : EntryBuffer}
    (follows : Follows parseEntry log buffer) :
    (outcomes parseEntry log).take buffer.nextIndex ++ reports parseEntry buffer received =
      (outcomes parseEntry log).take (receiveAll parseEntry buffer received).nextIndex := by
  induction received generalizing buffer with
  | nil => exact List.append_nil _
  | cons entry rest ih =>
      have now := inLog entry List.mem_cons_self
      rw [reports, ← List.append_assoc, take_outcomes_receive follows now]
      exact ih (fun later member => inLog later (List.mem_cons_of_mem _ member))
        (follows.receive now)

/-! An index is known only when it was delivered. -/

/-- A round of the drain loop learns of no entry. -/
theorem of_knows_removeNext_applyNext {buffer : EntryBuffer} {payload : Value} {index : Nat}
    (found : buffer.bufferedEntries.lookup buffer.nextIndex = some payload)
    (knows : (applyNext parseEntry buffer.removeNext payload).2.Knows index) :
    buffer.Knows index := by
  unfold Knows at knows
  rw [applyNext_nextIndex, applyNext_bufferedEntries] at knows
  rcases knows with applied | held
  · rcases Nat.lt_succ_iff_lt_or_eq.mp applied with before | rfl
    · exact .inl before
    · exact .inr (AssocMap.mem_iff_lookup.mpr ⟨payload, found⟩)
  · exact .inr (AList.mem_erase.mp held).2

/-- The drain loop learns of no entry. -/
theorem of_knows_drainBuffered {index : Nat} (buffer : EntryBuffer)
    (knows : (drainBuffered parseEntry buffer).2.Knows index) : buffer.Knows index := by
  induction buffer using drainBuffered.induct parseEntry with
  | case1 buffer missing =>
      rw [drainBuffered_none parseEntry missing] at knows
      exact knows
  | case2 buffer payload found next ih =>
      rw [drainBuffered_some parseEntry found] at knows
      exact of_knows_removeNext_applyNext found (ih knows)

/-- A delivery teaches its own entry only. -/
theorem of_knows_receive {buffer : EntryBuffer} {index other : Nat} {payload : Value}
    (knows : (applyOrBufferEntry parseEntry buffer index payload).2.Knows other) :
    other = index ∨ buffer.Knows other := by
  unfold applyOrBufferEntry at knows
  split at knows
  · exact .inr knows
  · split at knows
    · unfold Knows at knows
      rw [AssocMap.mem_update] at knows
      rcases knows with applied | same | held
      · exact .inr (.inl applied)
      · exact .inl same
      · exact .inr (.inr held)
    · rename_i notLate notAhead
      obtain rfl : index = buffer.nextIndex := by omega
      have applied := of_knows_drainBuffered _ knows
      unfold Knows at applied
      rw [applyNext_nextIndex, applyNext_bufferedEntries] at applied
      rcases applied with before | held
      · exact (Nat.lt_succ_iff_lt_or_eq.mp before).elim (fun less => .inr (.inl less)) .inl
      · exact .inr (.inr held)

/-- A buffer knows exactly what it knew and what was delivered to it. -/
theorem knows_receiveAll_iff {received : List (Nat × Value)} {buffer : EntryBuffer}
    {index : Nat} :
    (EntryBuffer.receiveAll parseEntry buffer received).Knows index ↔
      buffer.Knows index ∨ index ∈ received.map Prod.fst := by
  induction received generalizing buffer with
  | nil => simp [receiveAll]
  | cons entry rest ih =>
      have one : (applyOrBufferEntry parseEntry buffer entry.1 entry.2).2.Knows index ↔
          index = entry.1 ∨ buffer.Knows index := ⟨of_knows_receive, knows_receive⟩
      rw [List.map_cons, List.mem_cons]
      refine ih.trans ?_
      rw [one]
      constructor
      · rintro ((same | before) | later)
        · exact .inr (.inl same)
        · exact .inl before
        · exact .inr (.inr later)
      · rintro (before | same | later)
        · exact .inl (.inr before)
        · exact .inl (.inl same)
        · exact .inr later

/-- The cursor of a buffer stands at the first index that was not delivered. -/
theorem nextIndex_receiveAll {log : List Value} {received : List (Nat × Value)}
    (inLog : ∀ entry ∈ received, log[entry.1]? = some entry.2) (participant : String) :
    (receiveAll parseEntry (new participant) received).nextIndex =
      firstUndelivered (received.map Prod.fst) := by
  have follows := (Follows.new parseEntry participant log).receiveAll inLog
  have delivered : ∀ index,
      (receiveAll parseEntry (new participant) received).Knows index ↔
        index ∈ received.map Prod.fst := by
    intro index
    rw [knows_receiveAll_iff, or_iff_right]
    rintro (applied | held)
    · exact Nat.not_lt_zero _ applied
    · exact absurd held (AList.notMem_empty index)
  refine (firstUndelivered_eq ?_ ?_).symm
  · intro earlier before
    exact (delivered earlier).mp (.inl before)
  · intro member
    rcases (delivered _).mpr member with applied | held
    · exact Nat.lt_irrefl _ applied
    · obtain ⟨payload, found⟩ := AssocMap.mem_iff_lookup.mp held
      rw [follows.waiting] at found
      cases found

end EntryBuffer

/-! ### The coordinator

The coordinator is told of entries only, not of payloads that are none; what it holds is what it was
told first under each index. -/

namespace Coordinator

variable {T : Type}

/-- The coordinator after a run of received entries. -/
def receiveAll (state : State T) (received : List (Nat × T)) : State T :=
  received.foldl (fun state entry => (reduce state (.received entry.1 entry.2)).state) state

/-- The coordinator holds only what it held and what was delivered to it. -/
theorem holds_receiveAll {received : List (Nat × T)} {state : State T} {index : Nat} {entry : T}
    (holds : (receiveAll state received).Holds index entry) :
    state.Holds index entry ∨ (index, entry) ∈ received := by
  induction received generalizing state with
  | nil => exact .inl holds
  | cons head rest ih =>
      rcases ih holds with before | later
      · rcases (reduce_extends state head.1 head.2).sound index entry before with old | new
        · exact .inl old
        · obtain ⟨rfl, rfl⟩ := new
          exact .inr List.mem_cons_self
      · exact .inr (List.mem_cons_of_mem _ later)

/-- The coordinator keeps what it holds; the first delivery of an index wins. -/
theorem kept_receiveAll {received : List (Nat × T)} {state : State T} {index : Nat} {entry : T}
    (holds : state.Holds index entry) : (receiveAll state received).Holds index entry := by
  induction received generalizing state with
  | nil => exact holds
  | cons head rest ih => exact ih ((reduce_extends state head.1 head.2).kept index entry holds)

/-- Of every delivered index the coordinator holds an entry. -/
theorem exists_holds_receiveAll {received : List (Nat × T)} {state : State T} {index : Nat}
    (delivered : index ∈ received.map Prod.fst) :
    ∃ entry, (receiveAll state received).Holds index entry := by
  induction received generalizing state with
  | nil => cases delivered
  | cons head rest ih =>
      rcases List.mem_cons.mp delivered with rfl | later
      · obtain ⟨entry, holds⟩ := exists_holds_reduce state head.1 head.2
        refine ⟨entry, ?_⟩
        rw [receiveAll, List.foldl_cons]
        exact kept_receiveAll holds
      · exact ih later

/-- The coordinator next expects the first index that it was not fed. -/
theorem nextExpected_receiveAll {pageLimit : Nat} {latest : Option Nat} {bootstrap : Transition T}
    (bootstrapped : init pageLimit latest = .ok bootstrap) (received : List (Nat × T)) :
    (receiveAll bootstrap.state received).nextExpected =
      firstUndelivered (received.map Prod.fst) := by
  apply nextExpected_eq
  · intro earlier before
    exact exists_holds_receiveAll (mem_of_lt_firstUndelivered before)
  · intro entry holds
    rcases holds_receiveAll holds with old | delivered
    · exact not_holds_init bootstrapped _ entry old
    · have fed := List.mem_map_of_mem (f := Prod.fst) delivered
      exact firstUndelivered_not_mem _ fed

end Coordinator

/-! ### Both -/

section Agreement

variable (parseEntry : Value → Except String Entry)

/-- The entry that a payload parses to, with the payload's index. -/
def parsedDelivery (delivery : Nat × Value) : Option (Nat × Entry) :=
  (parseEntry delivery.2).toOption.map fun entry => (delivery.1, entry)

variable {parseEntry}

/-- A delivery reaches the coordinator exactly when its payload is an entry. -/
theorem parsedDelivery_eq_some {delivery : Nat × Value} {parsed : Nat × Entry} :
    parsedDelivery parseEntry delivery = some parsed ↔
      delivery.1 = parsed.1 ∧ parseEntry delivery.2 = .ok parsed.2 := by
  obtain ⟨index, entry⟩ := parsed
  unfold parsedDelivery
  cases parseEntry delivery.2 <;> simp [Except.toOption]

/-- The parsed log, position by position, when every payload parses. -/
theorem getElem?_parsedEntries {log : List Value}
    (parses : ∀ payload ∈ log, ∃ entry, parseEntry payload = .ok entry) (index : Nat) :
    (EntryBuffer.parsedEntries parseEntry log)[index]? =
      log[index]?.bind fun payload => (parseEntry payload).toOption := by
  induction log generalizing index with
  | nil => rfl
  | cons payload rest ih =>
      obtain ⟨entry, parsed⟩ := parses payload List.mem_cons_self
      have split : EntryBuffer.parsedEntries parseEntry (payload :: rest) =
          entry :: EntryBuffer.parsedEntries parseEntry rest :=
        List.filterMap_cons_some (congrArg Except.toOption parsed)
      rw [split]
      cases index with
      | zero => exact (congrArg Except.toOption parsed).symm
      | succ index =>
          exact ih (fun later member => parses later (List.mem_cons_of_mem _ member)) index

/-- A coordinator that is fed what parses commits the log up to the first index that it was not
fed. -/
theorem committedPrefix_fed {log : List Value} {pageLimit : Nat} {latest : Option Nat}
    {bootstrap : Coordinator.Transition Entry}
    (bootstrapped : Coordinator.init pageLimit latest = .ok bootstrap)
    {received : List (Nat × Value)}
    (inLog : ∀ delivery ∈ received, log[delivery.1]? = some delivery.2) :
    let fed := received.filterMap (parsedDelivery parseEntry)
    (Coordinator.receiveAll bootstrap.state fed).committedPrefix =
      EntryBuffer.parsedEntries parseEntry (log.take (firstUndelivered (fed.map Prod.fst))) := by
  intro fed
  have sound : ∀ parsed ∈ fed, ∃ payload, log[parsed.1]? = some payload ∧
      parseEntry payload = .ok parsed.2 := by
    intro parsed member
    obtain ⟨delivery, delivered, parsedEq⟩ := List.mem_filterMap.mp member
    obtain ⟨same, parses⟩ := parsedDelivery_eq_some.mp parsedEq
    exact ⟨delivery.2, same ▸ inLog delivery delivered, parses⟩
  have cursor := Coordinator.nextExpected_receiveAll bootstrapped fed
  have parses : ∀ payload ∈ log.take (firstUndelivered (fed.map Prod.fst)),
      ∃ entry, parseEntry payload = .ok entry := by
    intro payload member
    obtain ⟨index, inPrefix⟩ := List.mem_iff_getElem?.mp member
    rw [List.getElem?_take] at inPrefix
    split at inPrefix
    · rename_i before
      obtain ⟨parsed, delivered, rfl⟩ := List.mem_map.mp (mem_of_lt_firstUndelivered before)
      obtain ⟨other, found, parses⟩ := sound parsed delivered
      obtain rfl := Option.some.inj (found.symm.trans inPrefix)
      exact ⟨_, parses⟩
    · cases inPrefix
  have prefixEq : (Coordinator.receiveAll bootstrap.state fed).committedPrefix =
      (EntryBuffer.parsedEntries parseEntry
        (log.take (firstUndelivered (fed.map Prod.fst)))).take
          (firstUndelivered (fed.map Prod.fst)) := by
    rw [← cursor]
    apply Coordinator.committedPrefix_eq_take
    intro index before entry holds
    rw [cursor] at before ⊢
    rcases Coordinator.holds_receiveAll holds with old | delivered
    · exact absurd old (Coordinator.not_holds_init bootstrapped index entry)
    · obtain ⟨payload, found, parsed⟩ := sound _ delivered
      rw [getElem?_parsedEntries parses, List.getElem?_take, if_pos before, found]
      exact congrArg Except.toOption parsed
  rw [prefixEq]
  apply List.take_of_length_le
  exact (List.length_filterMap_le _ _).trans (List.length_take_le _ _)

/-- Fed the same deliveries of a log whose payloads all parse, in any order and any number of
times, the engine log of the entry buffer and the committed prefix of the coordinator are both the
parsed log up to the first index that was not delivered, and the buffer reports each index below it
as applied, once and in order. -/
theorem sequencers_agree {log : List Value}
    (parses : ∀ payload ∈ log, ∃ entry, parseEntry payload = .ok entry) (participant : String)
    {pageLimit : Nat} {latest : Option Nat} {bootstrap : Coordinator.Transition Entry}
    (bootstrapped : Coordinator.init pageLimit latest = .ok bootstrap)
    {received : List (Nat × Value)}
    (inLog : ∀ delivery ∈ received, log[delivery.1]? = some delivery.2) :
    let k := firstUndelivered (received.map Prod.fst)
    let committed := EntryBuffer.parsedEntries parseEntry (log.take k)
    let reported := EntryBuffer.reports parseEntry (.new participant) received
    (EntryBuffer.receiveAll parseEntry (.new participant) received).engine.log = committed ∧
      (Coordinator.receiveAll bootstrap.state
        (received.filterMap (parsedDelivery parseEntry))).committedPrefix = committed ∧
      reported.map Prod.fst = List.range k ∧ reported.map Prod.snd = committed.map .applied := by
  intro k committed reported
  have follows := (EntryBuffer.Follows.new parseEntry participant log).receiveAll inLog
  have cursor : (EntryBuffer.receiveAll parseEntry (.new participant) received).nextIndex = k :=
    EntryBuffer.nextIndex_receiveAll inLog participant
  have reportedEq : reported = (EntryBuffer.outcomes parseEntry log).take k := by
    have reports := EntryBuffer.take_outcomes_receiveAll inLog
      (EntryBuffer.Follows.new parseEntry participant log)
    rw [cursor] at reports
    exact reports
  have inside : k ≤ log.length := cursor.ge.trans follows.cursor
  have everyFed : (received.filterMap (parsedDelivery parseEntry)).map Prod.fst =
      received.map Prod.fst := by
    rw [List.map_filterMap, ← List.filterMap_eq_map]
    apply List.filterMap_congr
    intro delivery member
    obtain ⟨entry, parsed⟩ := parses _ (List.mem_of_getElem? (inLog delivery member))
    simp [parsedDelivery, parsed, Except.toOption]
  refine ⟨?_, ?_, ?_, ?_⟩
  · rw [follows.applied, cursor]
  · rw [committedPrefix_fed bootstrapped inLog, everyFed]
  · rw [reportedEq]
    exact EntryBuffer.map_fst_take_outcomes inside
  · rw [reportedEq, EntryBuffer.map_snd_take_outcomes]
    exact EntryBuffer.map_outcome fun payload member => parses payload (List.mem_of_mem_take member)

end Agreement

/-- A log of two entries, delivered backwards and then once more in order. -/
def backwardThenForward : List (Nat × Value) :=
  EntryBuffer.stanceEchoed.reverse ++ EntryBuffer.stanceEchoed

/-- Two entries delivered backward, then again forward. -/
theorem backwardThenForward_agree :
    (EntryBuffer.receiveAll EntryBuffer.stanceParser (.new "ava")
        backwardThenForward).engine.log =
      (Coordinator.receiveAll
        (Coordinator.syncToLatest (.empty 2 Nat.two_pos) (some 1)).state
        (backwardThenForward.filterMap
          (parsedDelivery EntryBuffer.stanceParser))).committedPrefix := by
  have parses : ∀ payload ∈ EntryBuffer.stanceEntries.map Entry.toValue,
      ∃ entry, EntryBuffer.stanceParser payload = .ok entry := by
    intro payload member
    simp only [EntryBuffer.stanceEntries, List.map_cons, List.map_nil, List.mem_cons,
      List.not_mem_nil, or_false] at member
    rcases member with rfl | rfl
    · exact ⟨_, rfl⟩
    · exact ⟨_, rfl⟩
  have inLog : ∀ delivery ∈ backwardThenForward,
      (EntryBuffer.stanceEntries.map Entry.toValue)[delivery.1]? = some delivery.2 := by
    decide +kernel
  have bootstrapped : Coordinator.init (T := Entry) 2 (some 1) =
      .ok (Coordinator.syncToLatest (.empty 2 Nat.two_pos) (some 1)) := rfl
  have agreed := sequencers_agree parses "ava" bootstrapped inLog
  exact agreed.1.trans agreed.2.1.symm

end ProstheticConscience.Consensus
