/-
Module: ProstheticConscience.Consensus.SessionTransport
Purpose: A client coordinator and the gateway's session log over a transport that loses nothing but
  may delay, reorder and repeat: live frames of later appends, and replies to the fetches that the
  coordinator asks for.
Trusted boundary: none
Main exports: Transport, Transport.Action, Transport.next, transportSystem, Transport.InStep,
  client_agrees_with_gateway
-/
import ProstheticConscience.Gateway.SessionTurn
import ProstheticConscience.Consensus.Coordinator

namespace ProstheticConscience.Consensus

open Gateway

/-- The most entries a reply holds. -/
def maxLimit : Nat := 1000

/-- The entries of a session log from an index on, no more than a reply may hold. -/
def getEntries (log : AppendLog) (start limit : Nat) : List Value :=
  log.slice start (min limit maxLimit)

/-- The reply to a fetch, entry by entry with its index. -/
def replyFrames (log : AppendLog) : Coordinator.Effect → List (Nat × Value)
  | .fetchMissing start limit => ((getEntries log start limit).zipIdx start).map Prod.swap

variable {SubId : Type} [DecidableEq SubId]

/-- The frames for one subscriber among the effects of a session event. -/
def liveFrames (subscriber : SubId) (effects : List (Session.Effect SubId)) : List (Nat × Value) :=
  effects.filterMap fun effect =>
    match effect with
    | .notifySubscribers entryIndex payload subscribers =>
        if subscriber ∈ subscribers then some (entryIndex, payload) else none
    | .subscriberRemoved _ => none

/-- The index of the last entry of a session, as a subscriber is told it. -/
def latestEntryIndex (session : Session.State SubId) : Option Nat :=
  if session.entries.len = 0 then none else some (session.entries.len - 1)

/-- The session at the gateway, the coordinator of one client, the fetches it emitted and those
still without an answer, the frames that were sent, and the frames that arrived at least once. -/
structure Transport (SubId : Type) where
  session : Session.State SubId
  client : Coordinator.State Value
  emitted : List Coordinator.Effect
  unanswered : List Coordinator.Effect
  wire : List (Nat × Value)
  delivered : List (Nat × Value)

namespace Transport

inductive Action (SubId : Type) where
  | session (event : Session.Event SubId)
  | answer (position : Nat)
  | deliver (position : Nat)
deriving DecidableEq, Repr

/-- The client's part replaced by a transition of its coordinator. -/
def advance (s : Transport SubId) (transition : Coordinator.Transition Value) : Transport SubId :=
  { s with
    client := transition.state
    emitted := s.emitted ++ transition.effects
    unanswered := s.unanswered ++ transition.effects }

/-- An event of the session; a new entry is sent to the client. -/
def turn (s : Transport SubId) (subscriber : SubId) (event : Session.Event SubId) :
    Transport SubId :=
  let turned := Session.reduce s.session event
  { s with
    session := turned.state
    wire := s.wire ++ liveFrames subscriber turned.effects }

/-- The answer to the fetch at a position, from the log as it is now. -/
def answer (s : Transport SubId) (position : Nat) (fetch : Coordinator.Effect) :
    Transport SubId :=
  { s with
    unanswered := s.unanswered.eraseIdx position
    wire := s.wire ++ replyFrames s.session.entries fetch }

/-- The arrival of a frame that was sent, perhaps not for the first time. -/
def deliver (s : Transport SubId) (frame : Nat × Value) : Transport SubId :=
  { s.advance (Coordinator.reduce s.client (.received frame.1 frame.2)) with
    delivered := s.delivered ++ [frame] }

/-- One action.  The session may see any event that does not remove the client. -/
def next (subscriber : SubId) (s : Transport SubId) : Action SubId → Option (Transport SubId)
  | .session event =>
      let after := s.turn subscriber event
      if subscriber ∈ after.session.subscribers then some after else none
  | .answer position => s.unanswered[position]?.map (s.answer position)
  | .deliver position => s.wire[position]?.map s.deliver

/-- The client has just subscribed and bootstrapped from the latest index it was told. -/
structure Starts (subscriber : SubId) (pageLimit : Nat) (s : Transport SubId) : Prop where
  subscribed : subscriber ∈ s.session.subscribers
  bootstrapped : Coordinator.init pageLimit (latestEntryIndex s.session) =
    .ok { state := s.client, effects := s.emitted }
  unanswered : s.unanswered = s.emitted
  wire : s.wire = []
  delivered : s.delivered = []

end Transport

/-- A session and one of its clients: every order of appends, answers and arrivals. -/
def transportSystem (subscriber : SubId) (pageLimit : Nat) :
    TransitionSystem (Transport SubId) (Transport.Action SubId) where
  init := Transport.Starts subscriber pageLimit
  step s action s' := Transport.next subscriber s action = some s'

/-! ### Frames -/

theorem getElem?_slice (log : AppendLog) (start limit position : Nat) :
    (log.slice start limit)[position]? =
      if position < limit then log.entries[start + position]? else none := by
  unfold AppendLog.slice
  dsimp only
  rw [List.getElem?_drop, List.getElem?_take]
  by_cases inside : start + position < log.entries.length
  · rw [Nat.min_eq_left (by omega : start ≤ log.entries.length)]
    by_cases within : position < limit
    · rw [if_pos (by omega), if_pos within]
    · rw [if_neg (by omega), if_neg within]
  · rw [List.getElem?_eq_none (Nat.le_of_not_lt inside)]
    split
    · rw [List.getElem?_eq_none (by omega)]
      split <;> rfl
    · split <;> rfl

/-- A reply holds the entries of the log that were asked for. -/
theorem mem_replyFrames {log : AppendLog} {start limit : Nat} {frame : Nat × Value} :
    frame ∈ replyFrames log (.fetchMissing start limit) ↔
      start ≤ frame.1 ∧ frame.1 < start + min limit maxLimit ∧
        log.entries[frame.1]? = some frame.2 := by
  obtain ⟨index, payload⟩ := frame
  unfold replyFrames getEntries
  rw [List.mem_map]
  constructor
  · intro found
    obtain ⟨⟨value, position⟩, member, swapped⟩ := found
    cases swapped
    obtain ⟨after, inSlice⟩ := List.mk_mem_zipIdx_iff_le_and_getElem?_sub.mp member
    rw [getElem?_slice] at inSlice
    split at inSlice
    · rename_i within
      rw [Nat.add_sub_cancel' after] at inSlice
      exact ⟨after, by omega, inSlice⟩
    · cases inSlice
  · intro found
    obtain ⟨after, before, inLog⟩ := found
    dsimp only at after before inLog
    refine ⟨(payload, index), List.mk_mem_zipIdx_iff_le_and_getElem?_sub.mpr ⟨after, ?_⟩, rfl⟩
    rw [getElem?_slice, if_pos (by omega), Nat.add_sub_cancel' after]
    exact inLog

/-- A subscriber gets one frame for an entry that is appended, and no other frames. -/
theorem liveFrames_reduce {subscriber : SubId} {session : Session.State SubId}
    {event : Session.Event SubId} (member : subscriber ∈ session.subscribers) :
    liveFrames subscriber (Session.reduce session event).effects =
      event.payload?.toList.map fun payload => (session.entries.entries.length, payload) := by
  have told := Session.notifications_reduce session event
  have fromTold : liveFrames subscriber (Session.reduce session event).effects =
      ((Session.reduce session event).effects.filterMap (·.notification?)).filterMap
        fun told => if subscriber ∈ told.2.2 then some (told.1, told.2.1) else none := by
    unfold liveFrames
    rw [List.filterMap_filterMap]
    apply List.filterMap_congr
    intro effect _
    cases effect with
    | notifySubscribers entryIndex payload subscribers => rfl
    | subscriberRemoved removed => rfl
  rw [fromTold, told]
  cases event.payload? with
  | none => rfl
  | some payload =>
      dsimp only
      rw [if_neg]
      · simp [AList.mem_keys.mp member]
      · intro vacant
        exact Session.State.isVacant_iff.mp vacant subscriber member

/-! ### The client keeps in step with the session

The invariant `InStep` accounts for every entry, every hole and every fetch: an entry is known to
the client or on its way, and a hole is covered by a fetch that waits for its answer or was answered
in full. One case per action. -/

namespace Transport

/-- The frame of an index was sent. -/
def Sent (s : Transport SubId) (index : Nat) : Prop :=
  ∃ payload, (index, payload) ∈ s.wire

/-- What holds between session, client and transport in every order of actions.  Every entry is
either known to the client, perhaps as a hole, or on its way; every hole is covered by a fetch, and
every fetch is waiting for its answer or was answered in full. -/
structure InStep (subscriber : SubId) (pageLimit : Nat) (s : Transport SubId) : Prop where
  subscribed : subscriber ∈ s.session.subscribers
  page : s.client.pageLimit = pageLimit
  known : s.client.slots.length ≤ s.session.entries.entries.length
  agrees : Coordinator.Agrees s.session.entries.entries s.client
  onWire : ∀ frame ∈ s.wire, s.session.entries.entries[frame.1]? = some frame.2
  covered : ∀ index, s.client.Misses index → ∃ fetch ∈ s.emitted, fetch.Covers index
  within : ∀ fetch ∈ s.emitted, fetch.Within pageLimit s.client.slots.length
  answered : ∀ fetch ∈ s.emitted,
    fetch ∈ s.unanswered ∨ ∀ index, fetch.Covers index → s.Sent index
  reached : ∀ index < s.session.entries.entries.length,
    index < s.client.slots.length ∨ s.Sent index
  arrived : ∀ frame ∈ s.delivered, ∃ entry, s.client.Holds frame.1 entry

variable {subscriber : SubId} {pageLimit : Nat} {s : Transport SubId}

omit [DecidableEq SubId] in
theorem latestEntryIndex_length (session : Session.State SubId) :
    latestEntryIndex session = none ∧ session.entries.entries.length = 0 ∨
      ∃ latest, latestEntryIndex session = some latest ∧
        session.entries.entries.length = latest + 1 := by
  unfold latestEntryIndex AppendLog.len
  by_cases empty : session.entries.entries.length = 0
  · exact .inl ⟨if_pos empty, empty⟩
  · exact .inr ⟨_, if_neg empty, by omega⟩

omit [DecidableEq SubId] in
/-- The client that bootstraps knows of every entry of the log. -/
theorem length_init {session : Session.State SubId} {transition : Coordinator.Transition Value}
    (bootstrapped : Coordinator.init pageLimit (latestEntryIndex session) = .ok transition) :
    transition.state.slots.length = session.entries.entries.length := by
  obtain ⟨positive, rfl, _⟩ := Coordinator.init_extends bootstrapped
  rcases latestEntryIndex_length session with ⟨noLatest, empty⟩ | ⟨latest, latestEq, length⟩
  · rw [noLatest, empty]
    rfl
  · rw [latestEq, Coordinator.length_syncToLatest, length]
    exact Nat.max_eq_right (Nat.zero_le _)

omit [DecidableEq SubId] in
theorem Starts.inStep (starts : Starts subscriber pageLimit s) :
    InStep subscriber pageLimit s := by
  have length := length_init starts.bootstrapped
  obtain ⟨positive, _, bootstrap⟩ := Coordinator.init_extends starts.bootstrapped
  constructor
  case subscribed => exact starts.subscribed
  case page => exact bootstrap.pageLimit
  case known => exact length.le
  case agrees =>
    intro index entry holds
    exact absurd holds (Coordinator.not_holds_init starts.bootstrapped index entry)
  case onWire =>
    rw [starts.wire]
    intro frame member
    cases member
  case covered =>
    intro index misses
    rcases bootstrap.asked index misses with old | covered
    · cases old
    · exact covered
  case within => exact bootstrap.within
  case answered => exact fun fetch member => .inl (starts.unanswered ▸ member)
  case reached => exact fun index before => .inl (length ▸ before)
  case arrived =>
    rw [starts.delivered]
    intro frame member
    cases member

/-- An event of the session: an entry that is appended is on its way. -/
theorem InStep.turn (inStep : InStep subscriber pageLimit s) {event : Session.Event SubId}
    (stays : subscriber ∈ (s.turn subscriber event).session.subscribers) :
    InStep subscriber pageLimit (s.turn subscriber event) := by
  have grown : (s.turn subscriber event).session.entries.entries =
      s.session.entries.entries ++ event.payload?.toList :=
    Session.entries_reduce s.session event
  have frames : (s.turn subscriber event).wire = s.wire ++
      event.payload?.toList.map fun payload => (s.session.entries.entries.length, payload) :=
    congrArg (s.wire ++ ·) (liveFrames_reduce inStep.subscribed)
  have kept : ∀ {index : Nat} {payload : Value},
      s.session.entries.entries[index]? = some payload →
      (s.turn subscriber event).session.entries.entries[index]? = some payload := by
    intro index payload inLog
    rw [grown, List.getElem?_append_left (List.getElem?_eq_some_iff.mp inLog).1]
    exact inLog
  have sent : ∀ index, s.Sent index → (s.turn subscriber event).Sent index := by
    intro index sent
    obtain ⟨payload, member⟩ := sent
    exact ⟨payload, List.mem_append_left _ member⟩
  constructor
  case subscribed => exact stays
  case page => exact inStep.page
  case known =>
    rw [grown, List.length_append]
    exact inStep.known.trans (Nat.le_add_right _ _)
  case agrees => exact fun index entry holds => kept (inStep.agrees index entry holds)
  case onWire =>
    intro frame member
    rw [frames] at member
    rcases List.mem_append.mp member with old | new
    · exact kept (inStep.onWire frame old)
    · obtain ⟨payload, appended, rfl⟩ := List.mem_map.mp new
      rw [grown, Option.mem_toList.mp appended]
      exact List.getElem?_concat_length
  case covered => exact inStep.covered
  case within => exact inStep.within
  case answered =>
    intro fetch member
    exact (inStep.answered fetch member).imp_right fun full index covers =>
      sent index (full index covers)
  case reached =>
    intro index before
    by_cases old : index < s.session.entries.entries.length
    · exact (inStep.reached index old).imp_right (sent index)
    · rw [grown] at before
      right
      cases appended : event.payload? with
      | none =>
          rw [appended, Option.toList_none, List.append_nil] at before
          exact absurd before old
      | some payload =>
          rw [appended, Option.toList_some, List.length_append, List.length_singleton] at before
          obtain rfl : index = s.session.entries.entries.length := by omega
          refine ⟨payload, ?_⟩
          rw [frames, appended]
          exact List.mem_append_right _ List.mem_cons_self
  case arrived => exact inStep.arrived

omit [DecidableEq SubId] in
/-- The answer to a fetch: everything it covers is on its way. -/
theorem InStep.answer (inStep : InStep subscriber pageLimit s) (small : pageLimit ≤ maxLimit)
    {position : Nat} {fetch : Coordinator.Effect}
    (waiting : s.unanswered[position]? = some fetch) :
    InStep subscriber pageLimit (s.answer position fetch) := by
  have sent : ∀ index, s.Sent index → (s.answer position fetch).Sent index := by
    intro index sent
    obtain ⟨payload, member⟩ := sent
    exact ⟨payload, List.mem_append_left _ member⟩
  constructor
  case subscribed => exact inStep.subscribed
  case page => exact inStep.page
  case known => exact inStep.known
  case agrees => exact inStep.agrees
  case onWire =>
    intro frame member
    rcases List.mem_append.mp member with old | new
    · exact inStep.onWire frame old
    · cases fetch with
      | fetchMissing start limit => exact (mem_replyFrames.mp new).2.2
  case covered => exact inStep.covered
  case within => exact inStep.within
  case answered =>
    intro other member
    by_cases same : other = fetch
    · subst same
      right
      intro index covers
      cases other with
      | fetchMissing start limit =>
          have within := inStep.within _ member
          have inLog : index < s.session.entries.entries.length :=
            covers.2.trans_le (within.1.trans inStep.known)
          have whole : min limit maxLimit = limit := Nat.min_eq_left (within.2.trans small)
          refine ⟨s.session.entries.entries[index], List.mem_append_right _ ?_⟩
          refine mem_replyFrames.mpr ⟨covers.1, ?_, List.getElem?_eq_getElem inLog⟩
          rw [whole]
          exact covers.2
    · rcases inStep.answered other member with still | full
      · left
        obtain ⟨place, found⟩ := List.mem_iff_getElem?.mp still
        refine List.mem_eraseIdx_iff_getElem?.mpr ⟨place, ?_, found⟩
        rintro rfl
        exact same (Option.some.inj (found.symm.trans waiting))
      · exact .inr fun index covers => sent index (full index covers)
  case reached => exact fun index before => (inStep.reached index before).imp_right (sent index)
  case arrived => exact inStep.arrived

omit [DecidableEq SubId] in
/-- The arrival of a frame: its slot is filled, and new holes are asked for. -/
theorem InStep.deliver (inStep : InStep subscriber pageLimit s) {frame : Nat × Value}
    (member : frame ∈ s.wire) : InStep subscriber pageLimit (s.deliver frame) := by
  have inLog := inStep.onWire frame member
  have reduced := Coordinator.reduce_extends s.client frame.1 frame.2
  have length := Coordinator.length_reduce_le s.client frame.1 frame.2
  constructor
  case subscribed => exact inStep.subscribed
  case page => exact reduced.pageLimit.trans inStep.page
  case known =>
    exact length.trans (Nat.max_le.mpr
      ⟨inStep.known, (List.getElem?_eq_some_iff.mp inLog).1⟩)
  case agrees =>
    intro index entry holds
    rcases reduced.sound index entry holds with before | ⟨rfl, rfl⟩
    · exact inStep.agrees index entry before
    · exact inLog
  case onWire => exact inStep.onWire
  case covered =>
    intro index misses
    rcases reduced.asked index misses with before | ⟨fetch, asked, covers⟩
    · obtain ⟨fetch, asked, covers⟩ := inStep.covered index before
      exact ⟨fetch, List.mem_append_left _ asked, covers⟩
    · exact ⟨fetch, List.mem_append_right _ asked, covers⟩
  case within =>
    intro fetch asked
    rcases List.mem_append.mp asked with before | now
    · exact (inStep.within fetch before).mono reduced.grows
    · exact inStep.page ▸ reduced.within fetch now
  case answered =>
    intro fetch asked
    rcases List.mem_append.mp asked with before | now
    · exact (inStep.answered fetch before).imp_left (List.mem_append_left _)
    · exact .inl (List.mem_append_right _ now)
  case reached =>
    intro index before
    exact (inStep.reached index before).imp_left fun known => known.trans_le reduced.grows
  case arrived =>
    intro other arrived
    rcases List.mem_append.mp arrived with before | now
    · obtain ⟨entry, holds⟩ := inStep.arrived other before
      exact ⟨entry, reduced.kept _ entry holds⟩
    · obtain rfl := List.mem_singleton.mp now
      exact Coordinator.exists_holds_reduce s.client other.1 other.2

theorem InStep.step (small : pageLimit ≤ maxLimit) {action : Action SubId}
    {s' : Transport SubId} (inStep : InStep subscriber pageLimit s)
    (stepped : s.next subscriber action = some s') : InStep subscriber pageLimit s' := by
  cases action with
  | session event =>
      rw [next] at stepped
      split at stepped
      · rename_i stays
        obtain rfl := Option.some.inj stepped
        exact inStep.turn stays
      · cases stepped
  | answer position =>
      obtain ⟨fetch, waiting, rfl⟩ := Option.map_eq_some_iff.mp stepped
      exact inStep.answer small waiting
  | deliver position =>
      obtain ⟨frame, onWire, rfl⟩ := Option.map_eq_some_iff.mp stepped
      exact inStep.deliver (List.mem_of_getElem? onWire)

omit [DecidableEq SubId] in
/-- When every fetch was answered and every frame arrived, the client holds the whole log. -/
theorem InStep.caught_up (inStep : InStep subscriber pageLimit s) (answered : s.unanswered = [])
    (arrived : ∀ frame ∈ s.wire, frame ∈ s.delivered) :
    s.client.committedPrefix = s.session.entries.entries := by
  have sent : ∀ index, s.Sent index → ∃ entry, s.client.Holds index entry := by
    intro index sent
    obtain ⟨payload, member⟩ := sent
    exact inStep.arrived _ (arrived _ member)
  have filled : ∀ index < s.session.entries.entries.length,
      ∃ entry, s.client.Holds index entry := by
    intro index before
    rcases inStep.reached index before with known | onWire
    · cases slot : s.client.slots[index] with
      | received entry => exact ⟨entry, List.getElem?_eq_some_iff.mpr ⟨known, slot⟩⟩
      | requested =>
          have misses : s.client.Misses index := List.getElem?_eq_some_iff.mpr ⟨known, slot⟩
          obtain ⟨fetch, asked, covers⟩ := inStep.covered index misses
          rcases inStep.answered fetch asked with waiting | full
          · rw [answered] at waiting
            cases waiting
          · exact sent index (full index covers)
    · exact sent index onWire
  have atEnd : s.client.nextExpected = s.session.entries.entries.length := by
    apply Coordinator.nextExpected_eq filled
    intro entry holds
    have inLog := inStep.agrees _ entry holds
    rw [List.getElem?_eq_none le_rfl] at inLog
    cases inLog
  rw [Coordinator.committedPrefix_of_agrees inStep.agrees, atEnd, List.take_length]

end Transport

/-- In every order of appends, answers and arrivals, with frames repeated at will, the client's
committed prefix is a prefix of the session log, every index it knows of and has not received is
covered by a fetch, and when the transport is quiet the prefix is the whole log. -/
theorem client_agrees_with_gateway {subscriber : SubId} {pageLimit : Nat}
    (small : pageLimit ≤ maxLimit) {trace : List (Transport.Action SubId)} {s : Transport SubId}
    (run : (transportSystem subscriber pageLimit).Execution trace s) :
    s.client.committedPrefix <+: s.session.entries.entries ∧
      (∀ index < s.client.slots.length, (∀ entry, ¬s.client.Holds index entry) →
        ∃ fetch ∈ s.emitted, fetch.Covers index) ∧
      (s.unanswered = [] → (∀ frame ∈ s.wire, frame ∈ s.delivered) →
        s.client.committedPrefix = s.session.entries.entries) := by
  have inStep : Transport.InStep subscriber pageLimit s :=
    run.reachable_invariant (I := Transport.InStep subscriber pageLimit)
      (fun _ starts => Transport.Starts.inStep starts)
      fun _ _ _ inStep stepped => inStep.step small stepped
  refine ⟨?_, ?_, inStep.caught_up⟩
  · rw [Coordinator.committedPrefix_of_agrees inStep.agrees]
    exact List.take_prefix _ _
  · intro index known unreceived
    apply inStep.covered index
    cases slot : s.client.slots[index] with
    | received entry =>
        exact absurd (List.getElem?_eq_some_iff.mpr ⟨known, slot⟩) (unreceived entry)
    | requested => exact List.getElem?_eq_some_iff.mpr ⟨known, slot⟩

/-- A client that subscribes when the session holds one entry, with pages of one entry. -/
def lateClientStart : Transport Nat :=
  let bootstrapped := Coordinator.syncToLatest (Coordinator.State.empty 1 Nat.one_pos) (some 0)
  { session :=
      { entries := { entries := [.string "a"] }
        subscribers := AssocMap.update ∅ 0 3
        subscriberTtl := 3 }
    client := bootstrapped.state
    emitted := bootstrapped.effects
    unanswered := bootstrapped.effects
    wire := []
    delivered := [] }

/-- Two entries are appended; their frames arrive in the other order, one of them twice, and before
the answers. -/
def lateClientActions : List (Transport.Action Nat) :=
  [.session (.entryAppended (.string "b")), .session (.entryAppended (.string "c")), .deliver 1,
    .deliver 0, .answer 0, .answer 0, .answer 0, .deliver 4, .deliver 2, .deliver 1, .deliver 3]

def lateClientEnd : Transport Nat :=
  (lateClientActions.foldlM (Transport.next 0) lateClientStart).getD lateClientStart

theorem lateClient_run :
    (transportSystem 0 1).Execution lateClientActions lateClientEnd := by
  have starts : Transport.Starts 0 1 lateClientStart := by
    constructor
    case subscribed => decide +kernel
    all_goals rfl
  have possible : (lateClientActions.foldlM (Transport.next 0) lateClientStart).isSome := by
    decide +kernel
  have ran : lateClientActions.foldlM (Transport.next 0) lateClientStart = some lateClientEnd := by
    obtain ⟨last, ran⟩ := Option.isSome_iff_exists.mp possible
    rw [lateClientEnd, ran]
    rfl
  exact .foldlM (fun _ _ _ next => next) starts ran

/-- Everything has arrived, and the client holds the log. -/
theorem lateClient_caught_up :
    lateClientEnd.client.committedPrefix = lateClientEnd.session.entries.entries :=
  (client_agrees_with_gateway (by decide) lateClient_run).2.2 (by decide +kernel)
    (by decide +kernel)

end ProstheticConscience.Consensus
