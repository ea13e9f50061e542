/-
Module: ProstheticConscience.Gateway.SessionTurn
Purpose: The kernel seen from one session and from one subscriber: what an event makes of a session,
  which subscribers it removes, and which sessions it reports as expired.
Trusted boundary: none
Main exports: Session.countP_removes, sessionAfter, lookup_sessions_reduce, removals, expiries
-/
import ProstheticConscience.Gateway.StreamAccounting
import ProstheticConscience.Library.Holdings

namespace ProstheticConscience.Gateway

/-! ### One session -/

namespace Session

variable {SubId : Type} [DecidableEq SubId]

/-- The effect tells a subscriber that it was removed. -/
def Effect.removes (subscriberId : SubId) : Effect SubId → Bool
  | .subscriberRemoved removed => decide (removed = subscriberId)
  | .notifySubscribers _ _ _ => false

/-- The payload an event appends to the log. -/
def Event.payload? : Event SubId → Option Value
  | .entryAppended payload => some payload
  | _ => none

/-- The subscribers whose deadline has come, in iteration order. -/
def due (tick : Nat) (subscribers : AssocMap SubId Nat) : List SubId :=
  (subscribers.entries.filter fun entry => decide (entry.2 ≤ tick)).map (·.1)

theorem expireSubscribers_eq (tick : Nat) (subscribers : AssocMap SubId Nat) :
    expireSubscribers tick subscribers =
      (due tick subscribers,
        (due tick subscribers).foldl (fun m subscriberId => m.erase subscriberId) subscribers) := by
  have loop : ∀ (entries : List (Sigma fun _ : SubId => Nat)) (expired : List SubId)
      (surviving : AssocMap SubId Nat),
      entries.foldl
          (fun acc entry =>
            if entry.2 ≤ tick then (acc.1 ++ [entry.1], acc.2.erase entry.1) else acc)
          (expired, surviving) =
        (expired ++ (entries.filter fun entry => decide (entry.2 ≤ tick)).map (·.1),
          ((entries.filter fun entry => decide (entry.2 ≤ tick)).map (·.1)).foldl
            (fun m subscriberId => m.erase subscriberId) surviving) := by
    intro entries
    induction entries with
    | nil => simp
    | cons entry rest ih =>
        intro expired surviving
        rw [List.foldl_cons]
        by_cases isDue : entry.2 ≤ tick
        · rw [if_pos isDue, ih, List.filter_cons_of_pos (by simpa using isDue)]
          simp
        · rw [if_neg isDue, ih, List.filter_cons_of_neg (by simpa using isDue)]
  have looped := loop subscribers.entries [] subscribers
  rw [List.nil_append] at looped
  exact looped

omit [DecidableEq SubId] in
theorem due_nodup (tick : Nat) (subscribers : AssocMap SubId Nat) :
    (due tick subscribers).Nodup :=
  expiredStreams_nodup tick subscribers

theorem mem_due {tick : Nat} {subscribers : AssocMap SubId Nat} {subscriberId : SubId} :
    subscriberId ∈ due tick subscribers ↔
      ∃ deadline, subscribers.lookup subscriberId = some deadline ∧ deadline ≤ tick :=
  mem_expiredStreams

theorem mem_of_mem_due {tick : Nat} {subscribers : AssocMap SubId Nat} {subscriberId : SubId}
    (isDue : subscriberId ∈ due tick subscribers) : subscriberId ∈ subscribers := by
  obtain ⟨deadline, found, _⟩ := mem_due.mp isDue
  exact AssocMap.mem_iff_lookup.mpr ⟨deadline, found⟩

/-- Who subscribes after an event. -/
theorem mem_subscribers_reduce (state : State SubId) (event : Event SubId) (subscriberId : SubId) :
    subscriberId ∈ (reduce state event).state.subscribers ↔
      match event with
      | .subscribed entering _ => subscriberId = entering ∨ subscriberId ∈ state.subscribers
      | .unsubscribed leaving => subscriberId ≠ leaving ∧ subscriberId ∈ state.subscribers
      | .tick tick =>
          subscriberId ∉ due tick state.subscribers ∧ subscriberId ∈ state.subscribers
      | _ => subscriberId ∈ state.subscribers := by
  cases event with
  | entryAppended payload => rfl
  | subscribed entering tick => exact AssocMap.mem_update
  | unsubscribed leaving =>
      rw [reduce]
      split
      · exact AList.mem_erase
      · rename_i absent
        exact ⟨fun member => ⟨fun same => absent (same ▸ member), member⟩, fun kept => kept.2⟩
  | tick tick =>
      simp only [reduce, expireSubscribers_eq]
      exact mem_foldl_erase subscriberId _ _
  | subscriberHeartbeat beating tick =>
      rw [reduce]
      split
      · rename_i present
        rw [AssocMap.mem_update]
        exact ⟨fun member => member.elim (fun same => same ▸ present) id, Or.inr⟩
      · rfl

/-- A tick drops the subscribers whose deadline has come. -/
theorem lookup_foldl_due (tick : Nat) (subscribers : AssocMap SubId Nat) (subscriberId : SubId) :
    ((due tick subscribers).foldl (fun m key => m.erase key) subscribers).lookup subscriberId =
      (subscribers.lookup subscriberId).filter fun deadline => decide (tick < deadline) := by
  rw [AssocMap.lookup_foldl_erase]
  cases found : subscribers.lookup subscriberId with
  | none => simp
  | some deadline =>
      by_cases isDue : deadline ≤ tick
      · have isMember : subscriberId ∈ due tick subscribers := mem_due.mpr ⟨_, found, isDue⟩
        simp [isMember, Option.filter_some, Nat.not_lt.mpr isDue]
      · have notMember : subscriberId ∉ due tick subscribers := by
          intro isMember
          obtain ⟨other, otherFound, otherDue⟩ := mem_due.mp isMember
          obtain rfl := Option.some.inj (found.symm.trans otherFound)
          exact isDue otherDue
        simp [notMember, Option.filter_some, Nat.lt_of_not_le isDue]

/-- The deadline of a subscriber after an event. -/
theorem lookup_subscribers_reduce (state : State SubId) (event : Event SubId)
    (subscriberId : SubId) :
    (reduce state event).state.subscribers.lookup subscriberId =
      match event with
      | .entryAppended _ => state.subscribers.lookup subscriberId
      | .subscribed entering tick =>
          if subscriberId = entering then some (tick + state.subscriberTtl)
          else state.subscribers.lookup subscriberId
      | .unsubscribed leaving =>
          if subscriberId = leaving then none else state.subscribers.lookup subscriberId
      | .tick tick =>
          (state.subscribers.lookup subscriberId).filter fun deadline => decide (tick < deadline)
      | .subscriberHeartbeat beating tick =>
          if subscriberId = beating then
            (state.subscribers.lookup subscriberId).map fun _ => tick + state.subscriberTtl
          else state.subscribers.lookup subscriberId := by
  cases event with
  | entryAppended payload => rfl
  | subscribed entering tick => exact AssocMap.lookup_update _ _ _ _
  | unsubscribed leaving =>
      rw [reduce]
      split
      · exact AssocMap.lookup_without _ _ _
      · rename_i absent
        by_cases same : subscriberId = leaving
        · subst same
          simp [AList.lookup_eq_none.mpr absent]
        · simp [same]
  | tick tick =>
      simp only [reduce, expireSubscribers_eq]
      exact lookup_foldl_due tick state.subscribers subscriberId
  | subscriberHeartbeat beating tick =>
      rw [reduce]
      split
      · rename_i present
        obtain ⟨deadline, found⟩ := AssocMap.mem_iff_lookup.mp present
        rw [AssocMap.lookup_update]
        by_cases same : subscriberId = beating
        · subst same
          simp [found]
        · simp [same]
      · rename_i absent
        by_cases same : subscriberId = beating
        · subst same
          simp [AList.lookup_eq_none.mpr absent]
        · simp [same]

/-- No event changes the time to live. -/
@[simp] theorem subscriberTtl_reduce (state : State SubId) (event : Event SubId) :
    (reduce state event).state.subscriberTtl = state.subscriberTtl := by
  cases event <;> (unfold reduce; dsimp only) <;> (try split) <;> rfl

/-- A subscriber is told that it was removed exactly once when it leaves the session, and never
else. -/
theorem countP_removes (state : State SubId) (event : Event SubId) (subscriberId : SubId) :
    (reduce state event).effects.countP (·.removes subscriberId) =
      if subscriberId ∈ state.subscribers ∧
          subscriberId ∉ (reduce state event).state.subscribers then 1 else 0 := by
  have after := mem_subscribers_reduce state event subscriberId
  cases event with
  | entryAppended payload =>
      rw [if_neg fun left => left.2 (after.mpr left.1), reduce]
      split <;> rfl
  | subscribed entering tick =>
      rw [if_neg fun left => left.2 (after.mpr (.inr left.1))]
      rfl
  | unsubscribed leaving =>
      by_cases same : subscriberId = leaving
      · subst same
        by_cases present : subscriberId ∈ state.subscribers
        · rw [if_pos ⟨present, fun stays => (after.mp stays).1 rfl⟩, reduce, if_pos present]
          simp [Effect.removes]
        · rw [if_neg fun left => present left.1, reduce, if_neg present]
          rfl
      · rw [if_neg fun left => left.2 (after.mpr ⟨same, left.1⟩), reduce]
        split
        · simp [Effect.removes, Ne.symm same]
        · rfl
  | tick tick =>
      have counted : (reduce state (.tick tick)).effects.countP (·.removes subscriberId) =
          (due tick state.subscribers).count subscriberId := by
        simp only [reduce, expireSubscribers_eq]
        rw [List.countP_map, List.count]
        rfl
      rw [counted, (due_nodup tick state.subscribers).count]
      by_cases isDue : subscriberId ∈ due tick state.subscribers
      · rw [if_pos isDue,
          if_pos ⟨mem_of_mem_due isDue, fun stays => (after.mp stays).1 isDue⟩]
      · rw [if_neg isDue, if_neg fun left => left.2 (after.mpr ⟨isDue, left.1⟩)]
  | subscriberHeartbeat beating tick =>
      rw [if_neg fun left => left.2 (after.mpr left.1), reduce]
      split <;> rfl

/-- An event appends at most its payload to the log. -/
theorem entries_reduce (state : State SubId) (event : Event SubId) :
    (reduce state event).state.entries.entries =
      state.entries.entries ++ event.payload?.toList := by
  cases event with
  | entryAppended payload => rfl
  | unsubscribed leaving =>
      rw [reduce]
      split <;> simp [Event.payload?]
  | subscriberHeartbeat beating tick =>
      rw [reduce]
      split <;> simp [Event.payload?]
  | _ => simp [reduce, Event.payload?]

/-- Nobody subscribes to the session. -/
def State.isVacant (state : State SubId) : Bool :=
  state.subscribers.entries.isEmpty

omit [DecidableEq SubId] in
theorem State.isVacant_iff {state : State SubId} :
    state.isVacant = true ↔ ∀ subscriberId, subscriberId ∉ state.subscribers := by
  rw [State.isVacant, List.isEmpty_iff]
  constructor
  · intro empty subscriberId member
    rw [AList.mem_keys, AList.keys, empty] at member
    cases member
  · intro nobody
    cases found : state.subscribers.entries with
    | nil => rfl
    | cons entry rest =>
        refine absurd (AList.mem_keys.mpr ?_) (nobody entry.1)
        rw [AList.keys, found]
        exact List.mem_cons_self

/-- What an effect tells the subscribers of a new entry: its index, its payload, and whom. -/
def Effect.notification? : Effect SubId → Option (Nat × Value × List SubId)
  | .notifySubscribers entryIndex payload subscribers => some (entryIndex, payload, subscribers)
  | .subscriberRemoved _ => none

/-- An appended payload is told, with its index, to the present subscribers, if there are any. -/
theorem notifications_reduce (state : State SubId) (event : Event SubId) :
    (reduce state event).effects.filterMap (·.notification?) =
      match event.payload? with
      | some payload =>
          if state.isVacant then []
          else [(state.entries.entries.length, payload, state.subscribers.keys)]
      | none => [] := by
  cases event with
  | entryAppended payload =>
      rw [reduce]
      dsimp only [Event.payload?]
      by_cases nobody : state.isVacant = true
      · rw [if_pos nobody]
        exact congrArg (List.filterMap Effect.notification?) (if_pos nobody)
      · rw [if_neg nobody]
        exact congrArg (List.filterMap Effect.notification?) (if_neg nobody)
  | tick tick =>
      simp only [reduce, expireSubscribers_eq, Event.payload?]
      rw [List.filterMap_map]
      exact List.filterMap_eq_nil_iff.mpr fun _ _ => rfl
  | subscribed entering tick => rfl
  | unsubscribed leaving =>
      rw [reduce]
      split <;> rfl
  | subscriberHeartbeat beating tick =>
      rw [reduce]
      split <;> rfl

end Session

/-! ### The loops of a tick over the sessions -/

variable {WId SId SubId : Type}

/-- The effect tells a subscriber that it was removed. -/
def Effect.removes [DecidableEq SubId] (subscriberId : SubId) : Effect WId SId SubId → Bool
  | .sessionEffect effect => effect.removes subscriberId
  | _ => false

/-- How often a subscriber is told that it was removed. -/
def removals [DecidableEq SubId] (subscriberId : SubId) (effects : List (Effect WId SId SubId)) :
    Nat :=
  effects.countP (·.removes subscriberId)

/-- The log with which an effect reports the end of a session. -/
def Effect.expiry? (sessionId : SessionId) : Effect WId SId SubId → Option (List Value)
  | .sessionExpired expired entries => if expired = sessionId then some entries else none
  | _ => none

/-- The logs with which effects report the end of a session. -/
def expiries (sessionId : SessionId) (effects : List (Effect WId SId SubId)) :
    List (List Value) :=
  effects.filterMap (·.expiry? sessionId)

/-- What an effect tells the subscribers of a session of a new entry. -/
def Effect.notification? : Effect WId SId SubId → Option (Nat × Value × List SubId)
  | .sessionEffect effect => effect.notification?
  | _ => none

/-- What effects tell the subscribers of sessions of new entries. -/
def notifications (effects : List (Effect WId SId SubId)) : List (Nat × Value × List SubId) :=
  effects.filterMap (·.notification?)

section Projections

variable [DecidableEq SubId]

@[simp] theorem removals_append (subscriberId : SubId)
    (first second : List (Effect WId SId SubId)) :
    removals subscriberId (first ++ second) =
      removals subscriberId first + removals subscriberId second :=
  List.countP_append

@[simp] theorem removals_sessionEffects (subscriberId : SubId)
    (effects : List (Session.Effect SubId)) :
    removals subscriberId (effects.map (.sessionEffect : _ → Effect WId SId SubId)) =
      effects.countP (·.removes subscriberId) := by
  rw [removals, List.countP_map]
  rfl

omit [DecidableEq SubId] in
@[simp] theorem expiries_append (sessionId : SessionId)
    (first second : List (Effect WId SId SubId)) :
    expiries sessionId (first ++ second) =
      expiries sessionId first ++ expiries sessionId second :=
  List.filterMap_append

omit [DecidableEq SubId] in
@[simp] theorem expiries_sessionEffects (sessionId : SessionId)
    (effects : List (Session.Effect SubId)) :
    expiries sessionId (effects.map (.sessionEffect : _ → Effect WId SId SubId)) = [] := by
  simp [expiries, Effect.expiry?]

omit [DecidableEq SubId] in
/-- The terminal effects of streams concern no session. -/
theorem mem_timeouts {message : String} {sids : List SId} {effect : Effect WId SId SubId}
    (member : effect ∈ sids.flatMap fun sid =>
      (errorThenDone sid message : List (Effect WId SId SubId))) :
    (∃ error, effect = .sendClientError error) ∨ ∃ done, effect = .sendClientDone done := by
  obtain ⟨sid, _, member⟩ := List.mem_flatMap.mp member
  rcases List.mem_cons.mp member with rfl | member
  · exact .inl ⟨_, rfl⟩
  · exact .inr ⟨_, List.mem_singleton.mp member⟩

end Projections

section Loops

variable [DecidableEq SubId]

/-- A session after a tick. -/
def Session.State.ticked (tick : Nat) (session : Session.State SubId) : Session.State SubId :=
  (Session.reduce session (.tick tick)).state

theorem tickSessions_eq (tick : Nat) (sessions : AssocMap SessionId (Session.State SubId)) :
    (tickSessions tick sessions :
        AssocMap SessionId (Session.State SubId) × List (Effect WId SId SubId)) =
      ((sessions.entries.map fun entry => (entry.1, entry.2.ticked tick)).foldl
          (fun m entry => m.update entry.1 entry.2) sessions,
        sessions.entries.flatMap fun entry =>
          (Session.reduce entry.2 (.tick tick)).effects.map .sessionEffect) := by
  have loop : ∀ (entries : List (Sigma fun _ : SessionId => Session.State SubId))
      (m : AssocMap SessionId (Session.State SubId)) (effects : List (Effect WId SId SubId)),
      entries.foldl
          (fun acc entry =>
            let updated := Session.reduce entry.2 (.tick tick)
            (AssocMap.update acc.1 entry.1 updated.state,
              acc.2 ++ updated.effects.map .sessionEffect))
          (m, effects) =
        ((entries.map fun entry => (entry.1, entry.2.ticked tick)).foldl
            (fun m entry => m.update entry.1 entry.2) m,
          effects ++ entries.flatMap fun entry =>
            (Session.reduce entry.2 (.tick tick)).effects.map .sessionEffect) := by
    intro entries
    induction entries with
    | nil => simp
    | cons entry rest ih =>
        intro m effects
        rw [List.foldl_cons, ih, List.map_cons, List.foldl_cons, List.flatMap_cons,
          List.append_assoc]
        rfl
  have looped := loop sessions.entries sessions []
  rw [List.nil_append] at looped
  exact looped

theorem lookup_tickSessions (tick : Nat) (sessions : AssocMap SessionId (Session.State SubId))
    (sessionId : SessionId) :
    (tickSessions tick sessions :
        AssocMap SessionId (Session.State SubId) × List (Effect WId SId SubId)).1.lookup
        sessionId =
      (sessions.lookup sessionId).map (·.ticked tick) := by
  have distinct : ((sessions.entries.map fun entry => (entry.1, entry.2.ticked tick)).map
      (·.1)).Nodup := by
    rw [List.map_map]
    exact sessions.keys_nodup
  ext session
  rw [tickSessions_eq, AssocMap.lookup_foldl_update _ _ _ _ distinct, Option.map_eq_some_iff]
  constructor
  · intro found
    rcases found with written | ⟨notKey, found⟩
    · obtain ⟨entry, member, same⟩ := List.mem_map.mp written
      obtain ⟨rfl, rfl⟩ := Prod.mk.inj same
      exact ⟨entry.2, AssocMap.mem_entries_iff.mp member, rfl⟩
    · refine absurd ?_ notKey
      rw [List.map_map]
      exact List.mem_map_of_mem (f := Sigma.fst) (AssocMap.mem_entries_iff.mpr found)
  · intro found
    obtain ⟨before, found, rfl⟩ := found
    exact .inl (List.mem_map.mpr ⟨⟨sessionId, before⟩, AssocMap.mem_entries_iff.mpr found, rfl⟩)

/-- The subscribers that a tick removes, over all sessions. -/
theorem removals_tickSessions (tick : Nat)
    (sessions : AssocMap SessionId (Session.State SubId)) (subscriberId : SubId) :
    removals subscriberId (tickSessions tick sessions :
        AssocMap SessionId (Session.State SubId) × List (Effect WId SId SubId)).2 =
      held (fun entry => if subscriberId ∈ entry.2.subscribers ∧
        subscriberId ∉ (entry.2.ticked tick).subscribers then 1 else 0) sessions.entries := by
  rw [tickSessions_eq, removals, List.countP_flatMap]
  congr 1
  apply List.map_congr_left
  intro entry _
  have counted : removals subscriberId ((Session.reduce entry.2 (.tick tick)).effects.map
      (.sessionEffect : _ → Effect WId SId SubId)) = _ :=
    removals_sessionEffects subscriberId _
  exact counted.trans (Session.countP_removes entry.2 (.tick tick) subscriberId)

omit [DecidableEq SubId] in
/-- The effects of the expiry report sessions. -/
theorem mem_expireSessions {sessions : AssocMap SessionId (Session.State SubId)}
    {effect : Effect WId SId SubId}
    (member : effect ∈ (expireSessions sessions :
      AssocMap SessionId (Session.State SubId) × List (Effect WId SId SubId)).2) :
    ∃ sessionId entries, effect = .sessionExpired sessionId entries := by
  revert effect
  unfold expireSessions
  refine List.foldlRecOn
    (motive := fun acc : AssocMap SessionId (Session.State SubId) × List (Effect WId SId SubId) =>
      ∀ {effect}, effect ∈ acc.2 → ∃ sessionId entries, effect = .sessionExpired sessionId entries)
    _ _ (by simp) ?_
  intro acc reports sessionId _
  split
  · intro effect member
    rcases List.mem_append.mp member with earlier | now
    · exact reports earlier
    · exact ⟨_, _, List.mem_singleton.mp now⟩
  · exact reports

/-- The effects of ticking the sessions are the sessions'. -/
theorem mem_tickSessions {tick : Nat} {sessions : AssocMap SessionId (Session.State SubId)}
    {effect : Effect WId SId SubId}
    (member : effect ∈ (tickSessions tick sessions :
      AssocMap SessionId (Session.State SubId) × List (Effect WId SId SubId)).2) :
    ∃ subscriberId, effect = .sessionEffect (.subscriberRemoved subscriberId) := by
  rw [tickSessions_eq] at member
  obtain ⟨entry, _, member⟩ := List.mem_flatMap.mp member
  obtain ⟨sessionEffect, told, rfl⟩ := List.mem_map.mp member
  obtain ⟨subscriberId, _, rfl⟩ := List.mem_map.mp told
  exact ⟨subscriberId, rfl⟩

omit [DecidableEq SubId] in
/-- Taking a list of sessions out of the map: they are gone, and each is reported with its log. -/
theorem foldl_extract_sessions {sessionIds : List SessionId} (distinct : sessionIds.Nodup)
    (sessionId : SessionId) (sessions : AssocMap SessionId (Session.State SubId))
    (effects : List (Effect WId SId SubId)) :
    let last := sessionIds.foldl
      (fun acc expired =>
        match acc.1.extract expired with
        | (some session, rest) =>
            (rest, acc.2 ++ [.sessionExpired expired session.entries.intoEntries])
        | (none, _) => acc)
      (sessions, effects)
    last.1.lookup sessionId =
        (if sessionId ∈ sessionIds then none else sessions.lookup sessionId) ∧
      expiries sessionId last.2 = expiries sessionId effects ++
        (if sessionId ∈ sessionIds then
          ((sessions.lookup sessionId).map (·.entries.entries)).toList else []) := by
  induction sessionIds generalizing sessions effects with
  | nil => simp
  | cons head rest ih =>
      obtain ⟨headFresh, restDistinct⟩ := List.nodup_cons.mp distinct
      dsimp only
      rw [List.foldl_cons, AList.extract_eq_lookup_erase]
      cases found : sessions.lookup head with
      | none =>
          dsimp only
          obtain ⟨lookups, reported⟩ := ih restDistinct sessions effects
          rw [lookups, reported]
          constructor
          · by_cases same : sessionId = head
            · subst same
              simp [headFresh, found]
            · simp [same]
          · by_cases same : sessionId = head
            · subst same
              simp [headFresh, found]
            · simp [same]
      | some session =>
          dsimp only
          obtain ⟨lookups, reported⟩ := ih restDistinct (sessions.erase head)
            (effects ++ [.sessionExpired head session.entries.intoEntries])
          rw [lookups, reported, AssocMap.lookup_without, expiries_append]
          constructor
          · by_cases same : sessionId = head <;> simp [same]
          · by_cases same : sessionId = head
            · subst same
              simp [headFresh, found, expiries, Effect.expiry?, AppendLog.intoEntries]
            · simp [same, Ne.symm same, expiries, Effect.expiry?]

omit [DecidableEq SubId] in
/-- A session that nobody subscribes to is removed and reported. -/
theorem expireSessions_spec (sessions : AssocMap SessionId (Session.State SubId))
    (sessionId : SessionId) :
    let expired := (expireSessions sessions :
      AssocMap SessionId (Session.State SubId) × List (Effect WId SId SubId))
    expired.1.lookup sessionId = (sessions.lookup sessionId).filter (!·.isVacant) ∧
      expiries sessionId expired.2 =
        (((sessions.lookup sessionId).filter (·.isVacant)).map (·.entries.entries)).toList := by
  have distinct : ((sessions.entries.filter fun entry =>
      entry.2.subscribers.entries.isEmpty).map (·.1)).Nodup :=
    ((List.filter_sublist (l := sessions.entries)).map _).nodup sessions.keys_nodup
  have mem_expired : sessionId ∈ ((sessions.entries.filter fun entry =>
      entry.2.subscribers.entries.isEmpty).map (·.1)) ↔
      ∃ session, sessions.lookup sessionId = some session ∧ session.isVacant = true := by
    simp only [List.mem_map, List.mem_filter]
    constructor
    · rintro ⟨⟨_, session⟩, ⟨member, vacant⟩, rfl⟩
      exact ⟨session, AssocMap.mem_entries_iff.mp member, vacant⟩
    · rintro ⟨session, found, vacant⟩
      exact ⟨⟨sessionId, session⟩, ⟨AssocMap.mem_entries_iff.mpr found, vacant⟩, rfl⟩
  obtain ⟨lookups, reported⟩ := foldl_extract_sessions distinct sessionId sessions
    ([] : List (Effect WId SId SubId))
  refine ⟨lookups.trans ?_, reported.trans ?_⟩
  · simp only [mem_expired]
    cases found : sessions.lookup sessionId with
    | none => simp
    | some session => cases vacant : session.isVacant <;> simp [vacant, Option.filter_some]
  · simp only [mem_expired]
    cases found : sessions.lookup sessionId with
    | none => simp [expiries]
    | some session =>
        cases vacant : session.isVacant <;> simp [vacant, Option.filter_some, expiries]

end Loops

/-! ### What an event makes of a session

`SessionTurn` is the inversion of the kernel's step seen from one session: created, changed by one
of its own events or by a tick, removed, or left alone. -/

section Reducer

variable [LinearOrder WId] [DecidableEq SId] [DecidableEq SubId] [ToString WId] [ToString SId]

/-- The session that a request creates. -/
def newSession (state : GatewayState WId SId SubId) (subscriberId : SubId) :
    Session.State SubId :=
  (Session.reduce { Session.State.default SubId with subscriberTtl := state.subscriberTtl }
    (.subscribed subscriberId state.tick)).state

/-- A session after an event. -/
def sessionAfter (sessionHash : Nat → Nat → Nat) (state : GatewayState WId SId SubId)
    (sessionId : SessionId) : Event WId SId SubId → Option (Session.State SubId)
  | .tick =>
      ((state.sessions.lookup sessionId).map (·.ticked (state.tick + 1))).filter (!·.isVacant)
  | .sessionRequested subscriberId =>
      if sessionId = generateSessionId sessionHash state.runtimeId state.sessionCounter then
        some (newSession state subscriberId)
      else state.sessions.lookup sessionId
  | .sessionEvent addressed event =>
      if sessionId = addressed then
        (state.sessions.lookup sessionId).map fun session => (Session.reduce session event).state
      else state.sessions.lookup sessionId
  | _ => state.sessions.lookup sessionId

/-- The sessions after a tick, and the effects that concern them. -/
theorem reduce_tick_sessions (sessionHash : Nat → Nat → Nat) (state : GatewayState WId SId SubId) :
    let ticked := (tickSessions (state.tick + 1) state.sessions :
      AssocMap SessionId (Session.State SubId) × List (Effect WId SId SubId))
    let expired := (expireSessions ticked.1 :
      AssocMap SessionId (Session.State SubId) × List (Effect WId SId SubId))
    (reduce sessionHash state .tick).state.sessions = expired.1 ∧
      (reduce sessionHash state .tick).effects =
        ((expiredStreams (state.tick + 1) state.activeStreams).flatMap fun clientStreamId =>
          errorThenDone clientStreamId "stream timed out") ++ ticked.2 ++ expired.2 :=
  ⟨rfl, rfl⟩

/-- What a tick tells: a stream that timed out, a subscriber that was removed, or a session that
expired. -/
theorem mem_effects_tick {sessionHash : Nat → Nat → Nat} {state : GatewayState WId SId SubId}
    {effect : Effect WId SId SubId} (member : effect ∈ (reduce sessionHash state .tick).effects) :
    (∃ error, effect = .sendClientError error) ∨ (∃ done, effect = .sendClientDone done) ∨
      (∃ subscriberId, effect = .sessionEffect (.subscriberRemoved subscriberId)) ∨
      ∃ sessionId entries, effect = .sessionExpired sessionId entries := by
  rw [(reduce_tick_sessions sessionHash state).2] at member
  rcases List.mem_append.mp member with member | expired
  · rcases List.mem_append.mp member with timedOut | removed
    · exact (mem_timeouts timedOut).imp_right .inl
    · exact .inr (.inr (.inl (mem_tickSessions removed)))
  · exact .inr (.inr (.inr (mem_expireSessions expired)))

/-- A chat request is refused, which changes nothing, or it goes to a worker that is available. -/
theorem reduce_httpChatRequested_cases (sessionHash : Nat → Nat → Nat)
    (state : GatewayState WId SId SubId) (clientStreamId : SId) (payload : Value) (stream : Bool)
    (requiredCapability : Capability) :
    (∃ message,
        reduce sessionHash state
            (.httpChatRequested clientStreamId payload stream requiredCapability) =
          { state, effects := errorThenDone clientStreamId message }) ∨
      ∃ workerId, firstCapableWorkerId state requiredCapability = some workerId ∧
        reduce sessionHash state
            (.httpChatRequested clientStreamId payload stream requiredCapability) =
          { state :=
              { state with
                available := state.available.erase workerId
                activeStreams :=
                  AssocMap.update state.activeStreams clientStreamId
                    (state.tick + state.streamTtl) }
            effects :=
              [.dispatchJob
                { workerId, clientStreamId, capability := requiredCapability, payload }] } := by
  rw [reduce]
  split
  · exact .inl ⟨_, rfl⟩
  · split
    · exact .inl ⟨_, rfl⟩
    · split
      · rename_i workerId first
        exact .inr ⟨workerId, first, rfl⟩
      · exact .inl ⟨_, rfl⟩

theorem reduce_sessionEvent_some (sessionHash : Nat → Nat → Nat)
    {state : GatewayState WId SId SubId} {sessionId : SessionId} {session : Session.State SubId}
    (found : state.sessions.lookup sessionId = some session) (event : Session.Event SubId) :
    reduce sessionHash state (.sessionEvent sessionId event) =
      { state :=
          { state with
            sessions := AssocMap.update (state.sessions.erase sessionId) sessionId
              (Session.reduce session event).state }
        effects := (Session.reduce session event).effects.map .sessionEffect } := by
  rw [reduce, AList.extract_eq_lookup_erase, found]

theorem reduce_sessionEvent_none (sessionHash : Nat → Nat → Nat)
    {state : GatewayState WId SId SubId} {sessionId : SessionId}
    (missing : state.sessions.lookup sessionId = none) (event : Session.Event SubId) :
    reduce sessionHash state (.sessionEvent sessionId event) =
      { state
        effects :=
          violation (.session (toString sessionId)) "event for unknown session" ::
            (match cleanupSubId event with
            | some subscriberId => [.sessionEffect (.subscriberRemoved subscriberId)]
            | none => []) } := by
  cases cleanup : cleanupSubId event <;>
    simp only [reduce, AList.extract_eq_lookup_erase, missing, cleanup]

theorem lookup_sessions_reduce (sessionHash : Nat → Nat → Nat)
    (state : GatewayState WId SId SubId) (event : Event WId SId SubId) (sessionId : SessionId) :
    (reduce sessionHash state event).state.sessions.lookup sessionId =
      sessionAfter sessionHash state sessionId event := by
  cases event with
  | httpChatRequested clientStreamId payload stream requiredCapability =>
      rcases reduce_httpChatRequested_cases sessionHash state clientStreamId payload stream
        requiredCapability with ⟨message, same⟩ | ⟨workerId, _, same⟩
      · rw [same]
        rfl
      · rw [same]
        rfl
  | tick =>
      obtain ⟨sessionsEq, _⟩ := reduce_tick_sessions sessionHash state
      rw [sessionsEq, (expireSessions_spec _ sessionId).1, lookup_tickSessions]
      rfl
  | sessionRequested subscriberId => exact AssocMap.lookup_update _ _ _ _
  | sessionEvent addressed event =>
      cases found : state.sessions.lookup addressed with
      | some session =>
          rw [reduce_sessionEvent_some sessionHash found, AssocMap.lookup_update,
            AssocMap.lookup_without, sessionAfter]
          by_cases same : sessionId = addressed
          · subst same
            simp [found]
          · simp [same]
      | none =>
          rw [reduce_sessionEvent_none sessionHash found, sessionAfter]
          by_cases same : sessionId = addressed
          · subst same
            simp [found]
          · simp [same]
  | _ => unfold reduce; dsimp only; split <;> rfl

/-- The sessions that an event reports as expired. -/
theorem expiries_reduce (sessionHash : Nat → Nat → Nat) (state : GatewayState WId SId SubId)
    (event : Event WId SId SubId) (sessionId : SessionId) :
    expiries sessionId (reduce sessionHash state event).effects =
      match event with
      | .tick =>
          ((((state.sessions.lookup sessionId).map (·.ticked (state.tick + 1))).filter
            (·.isVacant)).map (·.entries.entries)).toList
      | _ => [] := by
  cases event with
  | tick =>
      obtain ⟨_, effectsEq⟩ := reduce_tick_sessions sessionHash state
      have timeouts : expiries sessionId ((expiredStreams (state.tick + 1)
          state.activeStreams).flatMap fun clientStreamId =>
            (errorThenDone clientStreamId "stream timed out" : List (Effect WId SId SubId))) =
        [] := by
        refine List.filterMap_eq_nil_iff.mpr fun effect member => ?_
        rcases mem_timeouts member with ⟨_, rfl⟩ | ⟨_, rfl⟩ <;> rfl
      have ticked : expiries sessionId (tickSessions (state.tick + 1) state.sessions :
          AssocMap SessionId (Session.State SubId) × List (Effect WId SId SubId)).2 = [] := by
        refine List.filterMap_eq_nil_iff.mpr fun effect member => ?_
        obtain ⟨_, rfl⟩ := mem_tickSessions member
        rfl
      rw [effectsEq, expiries_append, expiries_append, timeouts, ticked,
        (expireSessions_spec _ sessionId).2, lookup_tickSessions]
      rfl
  | httpChatRequested clientStreamId payload stream requiredCapability =>
      rcases reduce_httpChatRequested_cases sessionHash state clientStreamId payload stream
        requiredCapability with ⟨message, same⟩ | ⟨workerId, _, same⟩
      · rw [same]
        rfl
      · rw [same]
        rfl
  | sessionRequested subscriberId => rfl
  | sessionEvent addressed event =>
      cases found : state.sessions.lookup addressed with
      | some session =>
          rw [reduce_sessionEvent_some sessionHash found]
          exact expiries_sessionEffects _ _
      | none =>
          rw [reduce_sessionEvent_none sessionHash found]
          dsimp only
          split <;> rfl
  | _ => unfold reduce; dsimp only; split <;> rfl

/-- Whom a tick removes. -/
theorem removals_reduce_tick (sessionHash : Nat → Nat → Nat) (state : GatewayState WId SId SubId)
    (subscriberId : SubId) :
    removals subscriberId (reduce sessionHash state .tick).effects =
      held (fun entry => if subscriberId ∈ entry.2.subscribers ∧
        subscriberId ∉ (entry.2.ticked (state.tick + 1)).subscribers then 1 else 0)
        state.sessions.entries := by
  obtain ⟨_, effectsEq⟩ := reduce_tick_sessions sessionHash state
  have timeouts : removals subscriberId ((expiredStreams (state.tick + 1)
      state.activeStreams).flatMap fun clientStreamId =>
        (errorThenDone clientStreamId "stream timed out" : List (Effect WId SId SubId))) = 0 := by
    refine List.countP_eq_zero.mpr fun effect member => ?_
    rcases mem_timeouts member with ⟨_, rfl⟩ | ⟨_, rfl⟩ <;> exact Bool.false_ne_true
  have expired : ∀ sessions, removals subscriberId (expireSessions sessions :
      AssocMap SessionId (Session.State SubId) × List (Effect WId SId SubId)).2 = 0 := by
    refine fun sessions => List.countP_eq_zero.mpr fun effect member => ?_
    obtain ⟨_, _, rfl⟩ := mem_expireSessions member
    exact Bool.false_ne_true
  rw [effectsEq, removals_append, removals_append, timeouts, removals_tickSessions, expired,
    zero_add, add_zero]

/-- Whom an event of a live session removes. -/
theorem removals_reduce_some (sessionHash : Nat → Nat → Nat) {state : GatewayState WId SId SubId}
    {sessionId : SessionId} {session : Session.State SubId}
    (found : state.sessions.lookup sessionId = some session) (event : Session.Event SubId)
    (subscriberId : SubId) :
    removals subscriberId
        (reduce sessionHash state (.sessionEvent sessionId event)).effects =
      if subscriberId ∈ session.subscribers ∧
        subscriberId ∉ (Session.reduce session event).state.subscribers then 1 else 0 := by
  rw [reduce_sessionEvent_some sessionHash found, removals_sessionEffects]
  exact Session.countP_removes session event subscriberId

/-- Whom an event of an unknown session removes. -/
theorem removals_reduce_none (sessionHash : Nat → Nat → Nat) {state : GatewayState WId SId SubId}
    {sessionId : SessionId} (missing : state.sessions.lookup sessionId = none)
    (event : Session.Event SubId) (subscriberId : SubId) :
    removals subscriberId
        (reduce sessionHash state (.sessionEvent sessionId event)).effects =
      if cleanupSubId event = some subscriberId then 1 else 0 := by
  rw [reduce_sessionEvent_none sessionHash missing]
  dsimp only
  cases cleanupSubId event with
  | none => rfl
  | some removed => simp [removals, Effect.removes, violation, Session.Effect.removes]

/-- The other events remove nobody. -/
theorem removals_reduce_other (sessionHash : Nat → Nat → Nat)
    (state : GatewayState WId SId SubId) {event : Event WId SId SubId} (notTick : event ≠ .tick)
    (notSession : ∀ sessionId sessionEvent, event ≠ .sessionEvent sessionId sessionEvent)
    (subscriberId : SubId) :
    removals subscriberId (reduce sessionHash state event).effects = 0 := by
  cases event with
  | tick => exact absurd rfl notTick
  | sessionEvent sessionId sessionEvent => exact absurd rfl (notSession _ _)
  | httpChatRequested clientStreamId payload stream requiredCapability =>
      rcases reduce_httpChatRequested_cases sessionHash state clientStreamId payload stream
        requiredCapability with ⟨message, same⟩ | ⟨workerId, _, same⟩
      · rw [same]
        rfl
      · rw [same]
        rfl
  | sessionRequested subscriberId => rfl
  | _ => unfold reduce; dsimp only; split <;> rfl

/-- An event tells of a new entry only when it appends to a live session. -/
theorem notifications_reduce (sessionHash : Nat → Nat → Nat) (state : GatewayState WId SId SubId)
    (event : Event WId SId SubId) :
    notifications (reduce sessionHash state event).effects =
      match event with
      | .sessionEvent sessionId sessionEvent =>
          match state.sessions.lookup sessionId with
          | some session =>
              (Session.reduce session sessionEvent).effects.filterMap (·.notification?)
          | none => []
      | _ => [] := by
  cases event with
  | tick =>
      refine List.filterMap_eq_nil_iff.mpr fun effect member => ?_
      rcases mem_effects_tick member with ⟨_, rfl⟩ | ⟨_, rfl⟩ | ⟨_, rfl⟩ | ⟨_, _, rfl⟩ <;> rfl
  | httpChatRequested clientStreamId payload stream requiredCapability =>
      rcases reduce_httpChatRequested_cases sessionHash state clientStreamId payload stream
        requiredCapability with ⟨message, same⟩ | ⟨workerId, _, same⟩
      · rw [same]
        rfl
      · rw [same]
        rfl
  | sessionRequested subscriberId => rfl
  | sessionEvent addressed event =>
      dsimp only
      cases found : state.sessions.lookup addressed with
      | some session =>
          rw [reduce_sessionEvent_some sessionHash found, notifications, List.filterMap_map]
          rfl
      | none =>
          rw [reduce_sessionEvent_none sessionHash found]
          dsimp only
          split <;> rfl
  | _ => unfold reduce; dsimp only; split <;> rfl

end Reducer

end ProstheticConscience.Gateway
