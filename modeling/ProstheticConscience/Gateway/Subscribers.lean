/-
Module: ProstheticConscience.Gateway.Subscribers
Purpose: No subscriber leaks in the kernel: a subscriber is in one session at most, it is told that
  it was removed exactly when it leaves, and a session goes only when its last subscriber is gone.
Trusted boundary: none
Main exports: GatewayState.Subscribed, KeepsToSession, SubscriberView, SubscriberView.WellAddressed,
  SessionsGenerated, DistinctIds, no_subscriber_leaks
-/
import Mathlib.Order.Interval.Set.Defs
import ProstheticConscience.Gateway.SessionTurn

namespace ProstheticConscience.Gateway

variable {WId SId SubId : Type}

/-- A subscriber stands in the subscriber map of a session. -/
def GatewayState.Subscribed (state : GatewayState WId SId SubId) (subscriberId : SubId)
    (sessionId : SessionId) : Prop :=
  ∃ session, state.sessions.lookup sessionId = some session ∧ subscriberId ∈ session.subscribers

/-- The subscriber that a session event names, with the session it is addressed to. -/
def Event.addressee? : Event WId SId SubId → Option (SubId × SessionId)
  | .sessionEvent sessionId event =>
      (cleanupSubId event).map fun subscriberId => (subscriberId, sessionId)
  | _ => none

/-- The subscriber that an event enters, with the session. -/
def Event.enters? (sessionHash : Nat → Nat → Nat) (state : GatewayState WId SId SubId) :
    Event WId SId SubId → Option (SubId × SessionId)
  | .sessionRequested subscriberId =>
      some (subscriberId, generateSessionId sessionHash state.runtimeId state.sessionCounter)
  | .sessionEvent sessionId (.subscribed subscriberId _) => some (subscriberId, sessionId)
  | _ => none

section Turn

variable [LinearOrder WId] [DecidableEq SId] [DecidableEq SubId] [ToString WId] [ToString SId]
  {sessionHash : Nat → Nat → Nat} {state : GatewayState WId SId SubId}
  {event : Event WId SId SubId} {subscriberId : SubId}

theorem subscribed_reduce {sessionId : SessionId} :
    (reduce sessionHash state event).state.Subscribed subscriberId sessionId ↔
      ∃ session, sessionAfter sessionHash state sessionId event = some session ∧
        subscriberId ∈ session.subscribers := by
  rw [GatewayState.Subscribed, lookup_sessions_reduce]

theorem subscribed_reduce_tick {sessionId : SessionId} :
    (reduce sessionHash state .tick).state.Subscribed subscriberId sessionId ↔
      ∃ session, state.sessions.lookup sessionId = some session ∧
        subscriberId ∈ (session.ticked (state.tick + 1)).subscribers := by
  rw [subscribed_reduce]
  simp only [sessionAfter, Option.filter_eq_some_iff, Option.map_eq_some_iff]
  constructor
  · rintro ⟨_, ⟨⟨session, found, rfl⟩, _⟩, member⟩
    exact ⟨session, found, member⟩
  · rintro ⟨session, found, member⟩
    refine ⟨_, ⟨⟨session, found, rfl⟩, ?_⟩, member⟩
    rw [Bool.not_eq_true', Bool.eq_false_iff, ne_eq, Session.State.isVacant_iff]
    exact fun nobody => nobody subscriberId member

omit [LinearOrder WId] [DecidableEq SId] [ToString WId] [ToString SId] in
theorem mem_newSession {other : SubId} :
    other ∈ (newSession state subscriberId).subscribers ↔ other = subscriberId := by
  have after := Session.mem_subscribers_reduce
    { Session.State.default SubId with subscriberTtl := state.subscriberTtl }
    (.subscribed subscriberId state.tick) other
  rw [newSession, after]
  exact or_iff_left (AList.notMem_empty other)

/-- Only an entry puts a subscriber into a session. -/
theorem Subscribed.of_reduce {sessionId : SessionId}
    (subscribed : (reduce sessionHash state event).state.Subscribed subscriberId sessionId) :
    state.Subscribed subscriberId sessionId ∨
      event.enters? sessionHash state = some (subscriberId, sessionId) := by
  cases event with
  | tick =>
      obtain ⟨session, found, member⟩ := subscribed_reduce_tick.mp subscribed
      have ticked := Session.mem_subscribers_reduce session (.tick (state.tick + 1)) subscriberId
      exact .inl ⟨session, found, (ticked.mp member).2⟩
  | sessionRequested entering =>
      obtain ⟨session, found, member⟩ := subscribed_reduce.mp subscribed
      rw [sessionAfter] at found
      split at found
      · rename_i generated
        obtain rfl := Option.some.inj found
        rw [mem_newSession.mp member, generated]
        exact .inr rfl
      · exact .inl ⟨session, found, member⟩
  | sessionEvent addressed event =>
      obtain ⟨session, found, member⟩ := subscribed_reduce.mp subscribed
      rw [sessionAfter] at found
      split at found
      · rename_i same
        subst same
        obtain ⟨before, foundBefore, rfl⟩ := Option.map_eq_some_iff.mp found
        have after := Session.mem_subscribers_reduce before event subscriberId
        cases event with
        | subscribed entering tick =>
            rcases after.mp member with rfl | old
            · exact .inr rfl
            · exact .inl ⟨before, foundBefore, old⟩
        | unsubscribed leaving => exact .inl ⟨before, foundBefore, (after.mp member).2⟩
        | tick tick => exact .inl ⟨before, foundBefore, (after.mp member).2⟩
        | _ => exact .inl ⟨before, foundBefore, after.mp member⟩
      · exact .inl ⟨session, found, member⟩
  | _ => exact .inl (subscribed_reduce.mp subscribed)

/-- The creator of a session is in it. -/
theorem subscribed_of_requested :
    (reduce sessionHash state (.sessionRequested subscriberId)).state.Subscribed subscriberId
      (generateSessionId sessionHash state.runtimeId state.sessionCounter) :=
  subscribed_reduce.mpr ⟨_, if_pos rfl, mem_newSession.mpr rfl⟩

/-- Who subscribes to a live session is in it. -/
theorem subscribed_of_subscribed {sessionId : SessionId} (live : sessionId ∈ state.sessions)
    (tick : Nat) :
    (reduce sessionHash state
      (.sessionEvent sessionId (.subscribed subscriberId tick))).state.Subscribed subscriberId
        sessionId := by
  obtain ⟨session, found⟩ := AssocMap.mem_iff_lookup.mp live
  refine subscribed_reduce.mpr
    ⟨(Session.reduce session (.subscribed subscriberId tick)).state, ?_, ?_⟩
  · rw [sessionAfter, if_pos rfl, found, Option.map_some]
  · exact (Session.mem_subscribers_reduce _ _ _).mpr (.inl rfl)

/-! ### Telling a subscriber that it was removed -/

/-- What the accounting of one subscriber rests on: it is in one session at most, what is addressed
to a session in its name is addressed to the session it is in, and a created session is new. -/
structure KeepsToSession (sessionHash : Nat → Nat → Nat) (state : GatewayState WId SId SubId)
    (event : Event WId SId SubId) (subscriberId : SubId) : Prop where
  one : ∀ first second, state.Subscribed subscriberId first →
    state.Subscribed subscriberId second → first = second
  addressed : ∀ sessionId, event.addressee? = some (subscriberId, sessionId) →
    ∀ own, state.Subscribed subscriberId own → sessionId = own
  fresh : ∀ creator, event = .sessionRequested creator →
    generateSessionId sessionHash state.runtimeId state.sessionCounter ∉ state.sessions

/-- A subscriber that stays is told nothing, one that leaves is told once. -/
theorem KeepsToSession.removals_of_subscribed
    (keeps : KeepsToSession sessionHash state event subscriberId) {sessionId : SessionId}
    (subscribed : state.Subscribed subscriberId sessionId) :
    ((reduce sessionHash state event).state.Subscribed subscriberId sessionId →
        removals subscriberId (reduce sessionHash state event).effects = 0) ∧
      (¬ (reduce sessionHash state event).state.Subscribed subscriberId sessionId →
        removals subscriberId (reduce sessionHash state event).effects = 1) := by
  obtain ⟨session, found, member⟩ := subscribed
  cases event with
  | tick =>
      have onlyHere : ∀ entry ∈ state.sessions.entries,
          entry ≠ (⟨sessionId, session⟩ : Sigma fun _ : SessionId => Session.State SubId) →
          (if subscriberId ∈ entry.2.subscribers ∧
            subscriberId ∉ (entry.2.ticked (state.tick + 1)).subscribers then 1 else 0) = 0 := by
        intro entry entryMem other
        rw [if_neg]
        rintro ⟨there, _⟩
        have lookup := AssocMap.mem_entries_iff.mp entryMem
        have sameId := keeps.one _ _ ⟨entry.2, lookup, there⟩ ⟨session, found, member⟩
        apply other
        exact state.sessions.nodupKeys.eq_of_fst_eq entryMem
          (AssocMap.mem_entries_iff.mpr found) sameId
      rw [removals_reduce_tick, held_eq_single state.sessions.nodupKeys.nodup
        (AssocMap.mem_entries_iff.mpr found) onlyHere, subscribed_reduce_tick]
      simp [found, member]
  | sessionEvent addressed sessionEvent =>
      cases live : state.sessions.lookup addressed with
      | some other =>
          rw [removals_reduce_some sessionHash live, subscribed_reduce, sessionAfter]
          by_cases same : sessionId = addressed
          · subst same
            obtain rfl := Option.some.inj (live.symm.trans found)
            simp [found, member]
          · have elsewhere : subscriberId ∉ other.subscribers := fun there =>
              same (keeps.one _ _ ⟨session, found, member⟩ ⟨other, live, there⟩)
            simp [same, found, member, elsewhere]
      | none =>
          have notNamed : cleanupSubId sessionEvent ≠ some subscriberId := by
            intro named
            have sameId := keeps.addressed addressed (by simp [Event.addressee?, named]) sessionId
              ⟨session, found, member⟩
            rw [sameId, found] at live
            cases live
          rw [removals_reduce_none sessionHash live, if_neg notNamed, subscribed_reduce,
            sessionAfter]
          by_cases same : sessionId = addressed
          · rw [same, live] at found
            cases found
          · simp [same, found, member]
  | sessionRequested creator =>
      have other : sessionId ≠
          generateSessionId sessionHash state.runtimeId state.sessionCounter := by
        intro same
        apply keeps.fresh creator rfl
        rw [← same]
        exact AssocMap.mem_iff_lookup.mpr ⟨session, found⟩
      refine ⟨fun _ => rfl, fun gone => absurd (subscribed_reduce.mpr ?_) gone⟩
      exact ⟨session, (if_neg other).trans found, member⟩
  | _ =>
      refine ⟨fun _ => removals_reduce_other _ _ (by simp) (by simp) _, fun gone => ?_⟩
      refine absurd (subscribed_reduce.mpr ?_) gone
      exact ⟨session, found, member⟩

/-- A subscriber that enters is told nothing. -/
theorem removals_of_enters (outside : ∀ sessionId, ¬ state.Subscribed subscriberId sessionId)
    {sessionId : SessionId}
    (subscribed : (reduce sessionHash state event).state.Subscribed subscriberId sessionId) :
    removals subscriberId (reduce sessionHash state event).effects = 0 := by
  rcases Subscribed.of_reduce subscribed with before | entry
  · exact absurd before (outside sessionId)
  · cases event with
    | sessionRequested entering => rfl
    | sessionEvent addressed sessionEvent =>
        obtain ⟨session, found, member⟩ := subscribed_reduce.mp subscribed
        cases sessionEvent with
        | subscribed entering tick =>
            obtain ⟨rfl, rfl⟩ := Prod.mk.inj (Option.some.inj entry)
            rw [sessionAfter, if_pos rfl] at found
            obtain ⟨before, foundBefore, rfl⟩ := Option.map_eq_some_iff.mp found
            rw [removals_reduce_some sessionHash foundBefore, if_neg]
            exact fun left => left.2 member
        | _ => cases entry
    | _ => cases entry

/-- Who subscribes to an unknown session is told once that it was removed. -/
theorem removals_of_unknown {sessionId : SessionId} (unknown : sessionId ∉ state.sessions)
    (tick : Nat) :
    removals subscriberId (reduce sessionHash state
      (.sessionEvent sessionId (.subscribed subscriberId tick))).effects = 1 := by
  rw [removals_reduce_none sessionHash (AList.lookup_eq_none.mpr unknown)]
  exact if_pos rfl

/-- A session goes only with a tick that leaves it without subscribers, and is reported once. -/
theorem expiry_of_removed {sessionId : SessionId} {session : Session.State SubId}
    (found : state.sessions.lookup sessionId = some session)
    (removed : sessionId ∉ (reduce sessionHash state event).state.sessions) :
    event = .tick ∧
      expiries sessionId (reduce sessionHash state event).effects = [session.entries.entries] ∧
      ∀ subscriberId, subscriberId ∉ (session.ticked (state.tick + 1)).subscribers := by
  rw [← AList.lookup_eq_none, lookup_sessions_reduce] at removed
  cases event with
  | tick =>
      rw [sessionAfter, found, Option.map_some, Option.filter_eq_none_iff] at removed
      have vacant : (session.ticked (state.tick + 1)).isVacant = true := by
        simpa using removed _ rfl
      have sameLog : (session.ticked (state.tick + 1)).entries.entries =
          session.entries.entries := by
        rw [Session.State.ticked, Session.entries_reduce]
        exact List.append_nil _
      refine ⟨rfl, ?_, Session.State.isVacant_iff.mp vacant⟩
      rw [expiries_reduce]
      simp [found, vacant, sameLog, Option.filter_some]
  | sessionRequested creator =>
      rw [sessionAfter] at removed
      split at removed
      · cases removed
      · rw [found] at removed
        cases removed
  | sessionEvent addressed sessionEvent =>
      rw [sessionAfter] at removed
      split at removed
      · rw [found] at removed
        cases removed
      · rw [found] at removed
        cases removed
  | _ =>
      rw [sessionAfter, found] at removed
      · cases removed
      all_goals simp

/-! ### Session ids -/

/-- Every session has an id that was generated for an earlier value of the counter. -/
def SessionsGenerated (sessionHash : Nat → Nat → Nat) (state : GatewayState WId SId SubId) :
    Prop :=
  ∀ sessionId ∈ state.sessions, ∃ counter < state.sessionCounter,
    sessionId = generateSessionId sessionHash state.runtimeId counter

/-- The ids generated so far are distinct. -/
def DistinctIds (sessionHash : Nat → Nat → Nat) (state : GatewayState WId SId SubId) : Prop :=
  Set.InjOn (generateSessionId sessionHash state.runtimeId) (Set.Iio state.sessionCounter)

theorem counters_reduce :
    (reduce sessionHash state event).state.runtimeId = state.runtimeId ∧
      state.sessionCounter ≤ (reduce sessionHash state event).state.sessionCounter ∧
      ∀ creator, event = .sessionRequested creator →
        (reduce sessionHash state event).state.sessionCounter = state.sessionCounter + 1 := by
  cases event with
  | sessionRequested creator => exact ⟨rfl, Nat.le_succ _, fun _ _ => rfl⟩
  | tick => exact ⟨rfl, le_rfl, by simp⟩
  | sessionEvent addressed sessionEvent =>
      cases live : state.sessions.lookup addressed with
      | some session =>
          rw [reduce_sessionEvent_some sessionHash live]
          exact ⟨rfl, le_rfl, by simp⟩
      | none =>
          rw [reduce_sessionEvent_none sessionHash live]
          exact ⟨rfl, le_rfl, by simp⟩
  | httpChatRequested clientStreamId payload stream requiredCapability =>
      rcases reduce_httpChatRequested_cases sessionHash state clientStreamId payload stream
        requiredCapability with ⟨message, same⟩ | ⟨workerId, _, same⟩
      · rw [same]
        exact ⟨rfl, le_rfl, by simp⟩
      · rw [same]
        exact ⟨rfl, le_rfl, by simp⟩
  | _ => unfold reduce; dsimp only; split <;> exact ⟨rfl, le_rfl, by simp⟩

theorem DistinctIds.of_reduce
    (distinct : DistinctIds sessionHash (reduce sessionHash state event).state) :
    DistinctIds sessionHash state := by
  obtain ⟨sameRuntime, more, _⟩ := @counters_reduce _ _ _ _ _ _ _ _ sessionHash state event
  rw [DistinctIds, sameRuntime] at distinct
  exact distinct.mono (Set.Iio_subset_Iio more)

/-- A session is there after an event only if it was there before or is created by it. -/
theorem mem_sessions_reduce {sessionId : SessionId}
    (member : sessionId ∈ (reduce sessionHash state event).state.sessions) :
    sessionId ∈ state.sessions ∨ ∃ creator, event = .sessionRequested creator ∧
      sessionId = generateSessionId sessionHash state.runtimeId state.sessionCounter := by
  by_cases created : ∃ creator, event = .sessionRequested creator ∧
      sessionId = generateSessionId sessionHash state.runtimeId state.sessionCounter
  · exact .inr created
  · left
    obtain ⟨session, found⟩ := AssocMap.mem_iff_lookup.mp member
    rw [lookup_sessions_reduce] at found
    rw [← AList.lookup_isSome]
    by_contra absent
    rw [Bool.not_eq_true, Option.isSome_eq_false_iff, Option.isNone_iff_eq_none] at absent
    cases event with
    | sessionRequested creator =>
        have other : sessionId ≠ _ := fun same => created ⟨creator, rfl, same⟩
        rw [sessionAfter, if_neg other, absent] at found
        cases found
    | tick =>
        rw [sessionAfter, absent] at found
        cases found
    | sessionEvent addressed sessionEvent =>
        rw [sessionAfter, absent] at found
        split at found <;> cases found
    | _ =>
        rw [sessionAfter, absent] at found
        · cases found
        all_goals simp

theorem SessionsGenerated.reduce (generated : SessionsGenerated sessionHash state) :
    SessionsGenerated sessionHash (reduce sessionHash state event).state := by
  obtain ⟨sameRuntime, more, next⟩ := @counters_reduce _ _ _ _ _ _ _ _ sessionHash state event
  intro sessionId member
  rw [sameRuntime]
  rcases mem_sessions_reduce member with old | ⟨creator, requested, created⟩
  · obtain ⟨counter, less, same⟩ := generated sessionId old
    exact ⟨counter, less.trans_le more, same⟩
  · rw [next creator requested]
    exact ⟨state.sessionCounter, Nat.lt_succ_self _, created⟩

/-- Distinct ids make a created session a new one. -/
theorem SessionsGenerated.fresh (generated : SessionsGenerated sessionHash state)
    (distinct : DistinctIds sessionHash (Gateway.reduce sessionHash state event).state)
    {creator : SubId} (requested : event = .sessionRequested creator) :
    generateSessionId sessionHash state.runtimeId state.sessionCounter ∉ state.sessions := by
  intro known
  obtain ⟨sameRuntime, _, next⟩ := @counters_reduce _ _ _ _ _ _ _ _ sessionHash state event
  obtain ⟨counter, less, same⟩ := generated _ known
  rw [DistinctIds, sameRuntime, next creator requested] at distinct
  have sameCounter := distinct (Set.mem_Iio.mpr (Nat.lt_succ_self _))
    (Set.mem_Iio.mpr (Nat.lt_succ_of_lt less)) same
  exact less.ne' sameCounter

end Turn

/-! ### Runs seen from one subscriber

A subscriber enters once, and every way out of a session tells it so: removal by name, time-out, and
the end of the session. -/

/-- What the labels of a run tell about subscribers: whom a step enters into which session, and
which session a step addresses in whose name. -/
structure SubscriberView (ℓ SubId : Type) where
  enters? : ℓ → Option (SubId × SessionId)
  addressee? : ℓ → Option (SubId × SessionId)

namespace SubscriberView

variable {ℓ : Type} [DecidableEq SubId]

/-- The sessions a subscriber entered in a run. -/
def entered (view : SubscriberView ℓ SubId) (subscriberId : SubId) (trace : List ℓ) :
    List SessionId :=
  trace.filterMap fun label => (view.enters? label).bind fun entry =>
    if entry.1 = subscriberId then some entry.2 else none

/-- A subscriber enters at most once, and what comes after its entry in its name is addressed to
the session it entered. -/
structure WellAddressed (view : SubscriberView ℓ SubId) (subscriberId : SubId)
    (trace : List ℓ) : Prop where
  once : (view.entered subscriberId trace).length ≤ 1
  addressed : ∀ earlier entry later, trace = earlier ++ entry :: later →
    ∀ own, view.enters? entry = some (subscriberId, own) →
      ∀ label ∈ later, ∀ sessionId, view.addressee? label = some (subscriberId, sessionId) →
        sessionId = own

variable {view : SubscriberView ℓ SubId} {subscriberId : SubId} {trace : List ℓ} {label : ℓ}

theorem mem_entered {sessionId : SessionId} :
    sessionId ∈ view.entered subscriberId trace ↔
      ∃ label ∈ trace, view.enters? label = some (subscriberId, sessionId) := by
  simp only [entered, List.mem_filterMap, Option.bind_eq_some_iff]
  constructor
  · rintro ⟨label, member, ⟨entering, own⟩, entry, same⟩
    split at same
    · rename_i isSubscriber
      obtain rfl := Option.some.inj same
      exact ⟨label, member, isSubscriber ▸ entry⟩
    · cases same
  · rintro ⟨label, member, entry⟩
    exact ⟨label, member, _, entry, if_pos rfl⟩

theorem entered_append {sessionId : SessionId} {later : List ℓ}
    (inside : sessionId ∈ view.entered subscriberId trace) :
    sessionId ∈ view.entered subscriberId (trace ++ later) := by
  obtain ⟨entry, member, entryEq⟩ := mem_entered.mp inside
  exact mem_entered.mpr ⟨entry, List.mem_append_left _ member, entryEq⟩

theorem WellAddressed.earlier (addressed : view.WellAddressed subscriberId (trace ++ [label])) :
    view.WellAddressed subscriberId trace where
  once := by
    have once := addressed.once
    rw [entered, List.filterMap_append, List.length_append] at once
    exact (Nat.le_add_right _ _).trans once
  addressed earlier entry later split own entryEq other otherMem := by
    refine addressed.addressed earlier entry (later ++ [label]) ?_ own entryEq other
      (List.mem_append_left _ otherMem)
    rw [split, List.append_assoc, List.cons_append]

theorem WellAddressed.same (addressed : view.WellAddressed subscriberId trace)
    {first second : SessionId} (firstMem : first ∈ view.entered subscriberId trace)
    (secondMem : second ∈ view.entered subscriberId trace) : first = second := by
  cases entered : view.entered subscriberId trace with
  | nil =>
      rw [entered] at firstMem
      cases firstMem
  | cons head rest =>
      have once := addressed.once
      rw [entered, List.length_cons] at once
      have none : rest = [] := List.eq_nil_of_length_eq_zero (by omega)
      rw [entered, none, List.mem_singleton] at firstMem secondMem
      exact firstMem.trans secondMem.symm

/-- Who has entered does not enter again. -/
theorem WellAddressed.notAgain
    (addressed : view.WellAddressed subscriberId (trace ++ [label])) {own other : SessionId}
    (inside : own ∈ view.entered subscriberId trace) :
    view.enters? label ≠ some (subscriberId, other) := by
  intro again
  have once := addressed.once
  have now : other ∈ view.entered subscriberId [label] :=
    mem_entered.mpr ⟨label, List.mem_singleton_self _, again⟩
  rw [entered, List.filterMap_append, List.length_append] at once
  have before := List.length_pos_of_mem inside
  have after := List.length_pos_of_mem now
  rw [entered] at before after
  omega

/-- What is addressed in the name of who has entered is addressed to its session. -/
theorem WellAddressed.own (addressed : view.WellAddressed subscriberId (trace ++ [label]))
    {own sessionId : SessionId} (inside : own ∈ view.entered subscriberId trace)
    (addressee : view.addressee? label = some (subscriberId, sessionId)) : sessionId = own := by
  obtain ⟨entry, member, entryEq⟩ := mem_entered.mp inside
  obtain ⟨earlier, later, split⟩ := List.append_of_mem member
  refine addressed.addressed earlier entry (later ++ [label]) ?_ own entryEq label
    (List.mem_append_right _ (List.mem_singleton_self _)) sessionId addressee
  rw [split, List.append_assoc, List.cons_append]

end SubscriberView

/-! ### Runs of the kernel -/

theorem Session.mem_ticked [DecidableEq SubId] {tick : Nat} {session : Session.State SubId}
    {subscriberId : SubId} :
    subscriberId ∈ (session.ticked tick).subscribers ↔
      ∃ deadline, session.subscribers.lookup subscriberId = some deadline ∧ tick < deadline := by
  have ticked := Session.mem_subscribers_reduce session (.tick tick) subscriberId
  dsimp only at ticked
  rw [Session.State.ticked, ticked, Session.mem_due, AssocMap.mem_iff_lookup]
  constructor
  · rintro ⟨notDue, deadline, found⟩
    exact ⟨deadline, found, Nat.lt_of_not_le fun isDue => notDue ⟨deadline, found, isDue⟩⟩
  · rintro ⟨deadline, found, later⟩
    refine ⟨?_, deadline, found⟩
    rintro ⟨other, otherFound, isDue⟩
    obtain rfl := Option.some.inj (found.symm.trans otherFound)
    exact Nat.not_le_of_lt later isDue

section Reorder

variable [DecidableEq SubId] {before after : GatewayState WId SId SubId}

theorem GatewayState.Reorder.lookup_some (reorder : before.Reorder after) {sessionId : SessionId}
    {session : Session.State SubId} (found : before.sessions.lookup sessionId = some session) :
    ∃ shuffled, after.sessions.lookup sessionId = some shuffled ∧ session.Reorder shuffled := by
  have related := reorder.sessions sessionId
  rw [found] at related
  cases other : after.sessions.lookup sessionId with
  | none =>
      rw [other] at related
      cases related
  | some shuffled =>
      rw [other] at related
      cases related with
      | some same => exact ⟨shuffled, rfl, same⟩

theorem GatewayState.Reorder.lookup_none (reorder : before.Reorder after) {sessionId : SessionId}
    (missing : before.sessions.lookup sessionId = none) :
    after.sessions.lookup sessionId = none := by
  have related := reorder.sessions sessionId
  rw [missing] at related
  cases other : after.sessions.lookup sessionId with
  | none => rfl
  | some shuffled =>
      rw [other] at related
      cases related

theorem GatewayState.Reorder.lookup_of_shuffled (reorder : before.Reorder after)
    {sessionId : SessionId} {shuffled : Session.State SubId}
    (found : after.sessions.lookup sessionId = some shuffled) :
    ∃ session, before.sessions.lookup sessionId = some session ∧ session.Reorder shuffled := by
  cases foundBefore : before.sessions.lookup sessionId with
  | none =>
      rw [reorder.lookup_none foundBefore] at found
      cases found
  | some session =>
      obtain ⟨other, otherFound, same⟩ := reorder.lookup_some foundBefore
      obtain rfl := Option.some.inj (found.symm.trans otherFound)
      exact ⟨session, rfl, same⟩

theorem GatewayState.Reorder.mem_sessions (reorder : before.Reorder after)
    {sessionId : SessionId} : sessionId ∈ after.sessions ↔ sessionId ∈ before.sessions := by
  rw [← AList.lookup_isSome, ← AList.lookup_isSome]
  cases found : before.sessions.lookup sessionId with
  | none => rw [reorder.lookup_none found]
  | some session =>
      obtain ⟨shuffled, lookup, _⟩ := reorder.lookup_some found
      rw [lookup, Option.isSome_some, Option.isSome_some]

theorem GatewayState.Reorder.subscribed_iff (reorder : before.Reorder after)
    {subscriberId : SubId} {sessionId : SessionId} :
    after.Subscribed subscriberId sessionId ↔ before.Subscribed subscriberId sessionId := by
  unfold GatewayState.Subscribed
  cases found : before.sessions.lookup sessionId with
  | none => simp [reorder.lookup_none found]
  | some session =>
      obtain ⟨shuffled, lookup, same⟩ := reorder.lookup_some found
      simp [lookup, same.subscribers.mem_iff]

end Reorder

section Kernel

variable [LinearOrder WId] [DecidableEq SId] [DecidableEq SubId] [ToString WId] [ToString SId]
  {sessionHash : Nat → Nat → Nat}
  {trace : List (Event WId SId SubId × List (Effect WId SId SubId))}
  {before after state : GatewayState WId SId SubId}
  {label : Event WId SId SubId × List (Effect WId SId SubId)}

/-- A run of the kernel seen from the subscribers: the creator of a session enters the session that
the kernel reports as created. -/
def kernelView (WId SId SubId : Type) :
    SubscriberView (Event WId SId SubId × List (Effect WId SId SubId)) SubId where
  enters?
    | (.sessionRequested subscriberId, [.sessionCreated sessionId _]) =>
        some (subscriberId, sessionId)
    | (.sessionEvent sessionId (.subscribed subscriberId _), _) => some (subscriberId, sessionId)
    | _ => none
  addressee? label := label.1.addressee?

theorem kernelView_entry {event : Event WId SId SubId} {entry : SubId × SessionId}
    (enters : event.enters? sessionHash state = some entry) :
    (kernelView WId SId SubId).enters? (event, (reduce sessionHash state event).effects) =
      some entry := by
  cases event with
  | sessionRequested creator => exact enters
  | sessionEvent addressed sessionEvent =>
      cases sessionEvent with
      | subscribed entering tick => exact enters
      | _ => cases enters
  | _ => cases enters

/-- Who is in a session has entered it. -/
theorem execution_entered (run : (kernelSystem sessionHash).Execution trace state)
    {subscriberId : SubId} {sessionId : SessionId}
    (subscribed : state.Subscribed subscriberId sessionId) :
    sessionId ∈ (kernelView WId SId SubId).entered subscriberId trace := by
  induction run with
  | start initial =>
      obtain ⟨runtimeId, workerTtl, streamTtl, subscriberTtl, rfl⟩ := initial
      obtain ⟨session, found, _⟩ := subscribed
      cases found
  | @step trace before after label run step ih =>
      obtain ⟨event, effects⟩ := label
      obtain ⟨shuffled, reorder, reduced⟩ := step
      dsimp only at reduced
      have effectsEq : (reduce sessionHash shuffled event).effects = effects := by rw [reduced]
      have afterEq : (reduce sessionHash shuffled event).state = after := by rw [reduced]
      rw [SubscriberView.mem_entered]
      rw [← afterEq] at subscribed
      rcases Subscribed.of_reduce subscribed with earlier | enters
      · exact SubscriberView.mem_entered.mp
          (SubscriberView.entered_append (ih (reorder.subscribed_iff.mp earlier)))
      · refine ⟨(event, effects), List.mem_append_right _ (List.mem_singleton_self _), ?_⟩
        rw [← effectsEq]
        exact kernelView_entry enters

omit [LinearOrder WId] [DecidableEq SId] [ToString WId] [ToString SId] in
theorem SessionsGenerated.reorder (reorder : before.Reorder after)
    (generated : SessionsGenerated sessionHash before) : SessionsGenerated sessionHash after := by
  intro sessionId member
  rw [reorder.runtimeId, reorder.sessionCounter]
  exact generated sessionId (reorder.mem_sessions.mp member)

theorem execution_generated (run : (kernelSystem sessionHash).Execution trace state) :
    SessionsGenerated sessionHash state := by
  apply run.reachable_invariant (I := SessionsGenerated sessionHash)
  · rintro _ ⟨runtimeId, workerTtl, streamTtl, subscriberTtl, rfl⟩ sessionId member
    exact absurd member (AList.notMem_empty sessionId)
  · rintro before label after generated ⟨shuffled, reorder, reduced⟩
    have next := @SessionsGenerated.reduce _ _ _ _ _ _ _ _ _ _ label.1 (generated.reorder reorder)
    rwa [reduced] at next

/-- The accounting of one subscriber over one step. -/
structure SubscriberAccounting (before : GatewayState WId SId SubId)
    (label : Event WId SId SubId × List (Effect WId SId SubId))
    (after : GatewayState WId SId SubId) (subscriberId : SubId) : Prop where
  oneSession : ∀ first second, after.Subscribed subscriberId first →
    after.Subscribed subscriberId second → first = second
  stays : ∀ sessionId, after.Subscribed subscriberId sessionId → removals subscriberId label.2 = 0
  leaves : ∀ sessionId, before.Subscribed subscriberId sessionId →
    ¬ after.Subscribed subscriberId sessionId → removals subscriberId label.2 = 1
  refused : ∀ sessionId tick, label.1 = .sessionEvent sessionId (.subscribed subscriberId tick) →
    sessionId ∉ before.sessions → removals subscriberId label.2 = 1

/-- A session goes only with a tick at which the deadlines of all its subscribers have come, and is
reported once. -/
def RemovesVacantSessions (before : GatewayState WId SId SubId)
    (label : Event WId SId SubId × List (Effect WId SId SubId))
    (after : GatewayState WId SId SubId) : Prop :=
  ∀ sessionId session, before.sessions.lookup sessionId = some session →
    sessionId ∉ after.sessions →
      label.1 = .tick ∧ expiries sessionId label.2 = [session.entries.entries] ∧
        ∀ subscriberId deadline, session.subscribers.lookup subscriberId = some deadline →
          deadline ≤ after.tick

/-- No subscriber leaks: in every step of every run, each subscriber that is addressed by its own
session only is accounted for, and sessions go only when they are vacant. -/
theorem no_subscriber_leaks (run : (kernelSystem sessionHash).Execution trace before)
    (step : (kernelSystem sessionHash).step before label after)
    (distinct : DistinctIds sessionHash after) :
    (∀ subscriberId, (kernelView WId SId SubId).WellAddressed subscriberId (trace ++ [label]) →
        SubscriberAccounting before label after subscriberId) ∧
      RemovesVacantSessions before label after := by
  have runAfter := run.step step
  obtain ⟨event, effects⟩ := label
  obtain ⟨shuffled, reorder, reduced⟩ := step
  dsimp only at reduced
  obtain ⟨rfl, rfl⟩ : (reduce sessionHash shuffled event).state = after ∧
      (reduce sessionHash shuffled event).effects = effects := by rw [reduced]; exact ⟨rfl, rfl⟩
  have generated := (execution_generated run).reorder reorder
  constructor
  · intro subscriberId addressed
    have inside : ∀ sessionId, shuffled.Subscribed subscriberId sessionId →
        sessionId ∈ (kernelView WId SId SubId).entered subscriberId trace :=
      fun sessionId subscribed => execution_entered run (reorder.subscribed_iff.mp subscribed)
    have keeps : KeepsToSession sessionHash shuffled event subscriberId :=
      { one := fun first second firstIn secondIn =>
          addressed.earlier.same (inside first firstIn) (inside second secondIn)
        addressed := fun sessionId addressee own ownIn =>
          addressed.own (inside own ownIn) addressee
        fresh := fun creator requested => generated.fresh distinct requested }
    constructor
    · intro first second firstIn secondIn
      exact addressed.same (execution_entered runAfter firstIn)
        (execution_entered runAfter secondIn)
    · intro sessionId subscribed
      by_cases wasIn : ∃ own, shuffled.Subscribed subscriberId own
      · obtain ⟨own, ownIn⟩ := wasIn
        obtain rfl := addressed.same (SubscriberView.entered_append (inside own ownIn))
          (execution_entered runAfter subscribed)
        exact (keeps.removals_of_subscribed ownIn).1 subscribed
      · exact removals_of_enters (fun other otherIn => wasIn ⟨other, otherIn⟩) subscribed
    · intro sessionId subscribed gone
      exact (keeps.removals_of_subscribed (reorder.subscribed_iff.mpr subscribed)).2 gone
    · intro sessionId tick isSubscribed unknown
      obtain rfl : event = .sessionEvent sessionId (.subscribed subscriberId tick) := isSubscribed
      exact removals_of_unknown (fun known => unknown (reorder.mem_sessions.mp known)) tick
  · intro sessionId session found removed
    obtain ⟨shuffledSession, shuffledFound, same⟩ := reorder.lookup_some found
    obtain ⟨isTick, reported, vacant⟩ := expiry_of_removed shuffledFound removed
    subst isTick
    refine ⟨rfl, ?_, ?_⟩
    · rw [reported, same.entries]
    · intro subscriberId deadline deadlineFound
      by_contra late
      apply vacant subscriberId
      rw [Session.mem_ticked, ← same.subscribers.lookup_eq]
      exact ⟨deadline, deadlineFound, Nat.lt_of_not_le late⟩

end Kernel

/-- A session whose creator never sends a heartbeat. -/
def abandonedSession : List (Event Nat Nat Nat) × GatewayState Nat Nat Nat :=
  ([.sessionRequested 3], GatewayState.new Nat Nat Nat 0 1 1 1)

/-- The first tick tells the creator once that it was removed, and reports the session once. -/
theorem abandonedSession_accounted :
    let before := (runEvents (fun _ counter => counter) abandonedSession.2 abandonedSession.1).2
    let effects := (reduce (fun _ counter => counter) before .tick).effects
    removals 3 effects = 1 ∧ expiries ⟨"0000000000000000"⟩ effects = [[]] := by
  intro before effects
  have run : (kernelSystem fun _ counter => counter).Execution
      (runEvents (fun _ counter => counter) abandonedSession.2 abandonedSession.1).1 before :=
    execution_runEvents _ 0 1 1 1 _
  have step : (kernelSystem fun _ counter => counter).step before (.tick, effects)
      (reduce (fun _ counter => counter) before .tick).state :=
    ⟨before, GatewayState.Reorder.refl before, rfl⟩
  have distinct : DistinctIds (fun _ counter => counter)
      (reduce (fun _ counter => counter) before .tick).state := by
    intro first firstLess second secondLess _
    have firstZero : first < 1 := firstLess
    have secondZero : second < 1 := secondLess
    omega
  have leaks := no_subscriber_leaks run step distinct
  have silent : ∀ label ∈ (runEvents (fun _ counter => counter) abandonedSession.2
      abandonedSession.1).1 ++ [(.tick, effects)],
      (kernelView Nat Nat Nat).addressee? label = none := by
    intro label member
    rcases List.mem_cons.mp member with rfl | member
    · rfl
    · rw [List.mem_singleton.mp member]
      rfl
  have addressed : (kernelView Nat Nat Nat).WellAddressed 3
      ((runEvents (fun _ counter => counter) abandonedSession.2 abandonedSession.1).1 ++
        [(.tick, effects)]) := by
    constructor
    · exact le_rfl
    · intro earlier entry later split own _ label member sessionId addressee
      rw [silent label (split ▸ by simp [member])] at addressee
      cases addressee
  have removed : (⟨"0000000000000000"⟩ : SessionId) ∉
      (reduce (fun _ counter => counter) before .tick).state.sessions := by decide +kernel
  constructor
  · refine (leaks.1 3 addressed).leaves ⟨"0000000000000000"⟩ ⟨_, rfl, by decide +kernel⟩ ?_
    rintro ⟨session, found, _⟩
    exact removed (AssocMap.mem_iff_lookup.mpr ⟨session, found⟩)
  · exact (leaks.2 ⟨"0000000000000000"⟩ _ rfl removed).2.1

end ProstheticConscience.Gateway
