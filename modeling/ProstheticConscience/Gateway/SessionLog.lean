/-
Module: ProstheticConscience.Gateway.SessionLog
Purpose: The log of a session is what was appended to it: over a whole run, through ticks, events of
  other sessions and its own expiry, and the notifications agree with it.
Trusted boundary: none
Main exports: appendedTo, notificationsOf, Notified, Kept, LogFaithful, Tells, session_log_faithful
-/
import ProstheticConscience.Gateway.Subscribers

namespace ProstheticConscience.Gateway

variable {WId SId SubId : Type}

/-- The payload that an event appends to a session. -/
def Event.appendedTo? (sessionId : SessionId) : Event WId SId SubId → Option Value
  | .sessionEvent addressed event => if addressed = sessionId then event.payload? else none
  | _ => none

/-- The payloads that a run appends to a session. -/
def appendedTo (sessionId : SessionId)
    (trace : List (Event WId SId SubId × List (Effect WId SId SubId))) : List Value :=
  trace.filterMap fun label => label.1.appendedTo? sessionId

/-- The event is addressed to a session. -/
def Event.isFor (sessionId : SessionId) : Event WId SId SubId → Bool
  | .sessionEvent addressed _ => decide (addressed = sessionId)
  | _ => false

/-- What a run tells the subscribers of a session of new entries: the notifications that answer the
events addressed to it. -/
def notificationsOf (sessionId : SessionId)
    (trace : List (Event WId SId SubId × List (Effect WId SId SubId))) :
    List (Nat × Value × List SubId) :=
  (trace.filter fun label => label.1.isFor sessionId).flatMap fun label => notifications label.2

/-- Notifications agree with a log: their indices increase, and each carries the payload that stands
at its index. -/
structure Notified (log : List Value) (told : List (Nat × Value × List SubId)) : Prop where
  increasing : told.Pairwise fun earlier later => earlier.1 < later.1
  payloads : ∀ notification ∈ told, log[notification.1]? = some notification.2.1

theorem Notified.grow {log : List Value} {told : List (Nat × Value × List SubId)}
    (notified : Notified log told) (more : List Value) : Notified (log ++ more) told where
  increasing := notified.increasing
  payloads notification member := by
    have inLog := notified.payloads notification member
    rw [List.getElem?_append_left (List.getElem?_eq_some_iff.mp inLog).1]
    exact inLog

/-- The next payload is appended and told. -/
theorem Notified.tell {log : List Value} {told : List (Nat × Value × List SubId)}
    (notified : Notified log told) (payload : Value) (subscribers : List SubId) :
    Notified (log ++ [payload]) (told ++ [(log.length, payload, subscribers)]) where
  increasing := by
    rw [List.pairwise_append]
    refine ⟨notified.increasing, List.pairwise_singleton _ _, ?_⟩
    intro earlier member later isLast
    rw [List.mem_singleton.mp isLast]
    exact (List.getElem?_eq_some_iff.mp (notified.payloads earlier member)).1
  payloads notification member := by
    rcases List.mem_append.mp member with earlier | isLast
    · exact (notified.grow [payload]).payloads notification earlier
    · rw [List.mem_singleton.mp isLast, List.getElem?_concat_length]

section Turn

variable [LinearOrder WId] [DecidableEq SId] [DecidableEq SubId] [ToString WId] [ToString SId]
  {sessionHash : Nat → Nat → Nat} {state : GatewayState WId SId SubId}
  {event : Event WId SId SubId}

/-- Only a request creates a session. -/
theorem mem_effects_sessionCreated {sessionId : SessionId} {creator : SubId}
    (created : .sessionCreated sessionId creator ∈ (reduce sessionHash state event).effects) :
    event = .sessionRequested creator ∧
      sessionId = generateSessionId sessionHash state.runtimeId state.sessionCounter := by
  cases event with
  | sessionRequested requester =>
      obtain ⟨rfl, rfl⟩ := Effect.sessionCreated.inj (List.mem_singleton.mp created)
      exact ⟨rfl, rfl⟩
  | tick =>
      rcases mem_effects_tick created with ⟨_, same⟩ | ⟨_, same⟩ | ⟨_, same⟩ | ⟨_, _, same⟩ <;>
        cases same
  | sessionEvent addressed sessionEvent =>
      cases live : state.sessions.lookup addressed with
      | some session =>
          rw [reduce_sessionEvent_some sessionHash live] at created
          obtain ⟨_, _, same⟩ := List.mem_map.mp created
          cases same
      | none =>
          rw [reduce_sessionEvent_none sessionHash live] at created
          rcases List.mem_cons.mp created with same | member
          · cases same
          · split at member
            · cases List.mem_singleton.mp member
            · cases member
  | httpChatRequested clientStreamId payload stream requiredCapability =>
      rcases reduce_httpChatRequested_cases sessionHash state clientStreamId payload stream
        requiredCapability with ⟨message, same⟩ | ⟨workerId, _, same⟩
      · simp [same, errorThenDone] at created
      · simp [same] at created
  | _ =>
      unfold reduce at created
      dsimp only at created
      split at created <;> simp [errorThenDone, violation] at created

omit [LinearOrder WId] [DecidableEq SId] [ToString WId] [ToString SId] in
/-- A session that an event does not create was there before, and the event appended what it is to
append. -/
theorem log_sessionAfter {sessionId : SessionId} {session : Session.State SubId}
    (found : sessionAfter sessionHash state sessionId event = some session)
    (notCreated : ∀ creator, event = .sessionRequested creator →
      sessionId ≠ generateSessionId sessionHash state.runtimeId state.sessionCounter) :
    ∃ earlier, state.sessions.lookup sessionId = some earlier ∧
      session.entries.entries =
        earlier.entries.entries ++ (event.appendedTo? sessionId).toList := by
  cases event with
  | tick =>
      rw [sessionAfter, Option.filter_eq_some_iff, Option.map_eq_some_iff] at found
      obtain ⟨⟨earlier, foundEarlier, rfl⟩, _⟩ := found
      exact ⟨earlier, foundEarlier, Session.entries_reduce earlier _⟩
  | sessionRequested creator =>
      rw [sessionAfter, if_neg (notCreated creator rfl)] at found
      exact ⟨session, found, (List.append_nil _).symm⟩
  | sessionEvent addressed sessionEvent =>
      rw [sessionAfter] at found
      split at found
      · rename_i same
        subst same
        obtain ⟨earlier, foundEarlier, rfl⟩ := Option.map_eq_some_iff.mp found
        refine ⟨earlier, foundEarlier, ?_⟩
        rw [Session.entries_reduce, Event.appendedTo?, if_pos rfl]
      · rename_i other
        refine ⟨session, found, ?_⟩
        rw [Event.appendedTo?, if_neg (Ne.symm other)]
        exact (List.append_nil _).symm
  | _ => exact ⟨session, found, (List.append_nil _).symm⟩

/-- What the subscribers of a session are told when an event is addressed to it. -/
theorem notificationsOf_reduce (sessionId : SessionId) :
    notificationsOf sessionId [(event, (reduce sessionHash state event).effects)] =
      match state.sessions.lookup sessionId, event.appendedTo? sessionId with
      | some session, some payload =>
          if session.isVacant then []
          else [(session.entries.entries.length, payload, session.subscribers.keys)]
      | _, _ => [] := by
  have told := notifications_reduce sessionHash state event
  rw [notificationsOf, List.filter_singleton]
  cases event with
  | sessionEvent addressed sessionEvent =>
      rw [Event.isFor, Event.appendedTo?]
      by_cases same : addressed = sessionId
      · subst same
        rw [decide_eq_true rfl, cond_true, List.flatMap_singleton, told, if_pos rfl]
        dsimp only
        cases state.sessions.lookup addressed with
        | none => rfl
        | some session =>
            dsimp only
            rw [Session.notifications_reduce]
            cases sessionEvent.payload? <;> rfl
      · rw [decide_eq_false same, if_neg same]
        cases state.sessions.lookup sessionId <;> rfl
  | _ => cases state.sessions.lookup sessionId <;> rfl

end Turn

/-! ### Runs

The invariant is proved along the run: for every session that was created, its log is what was
appended to it while it was live, and it is live until the tick that removes it. -/

section Kernel

variable [LinearOrder WId] [DecidableEq SId] [DecidableEq SubId] [ToString WId] [ToString SId]
  {sessionHash : Nat → Nat → Nat}

/-- What becomes of a session from its creation on: it lives, with the log of what a run appended to
it, or one tick ended it, and reported the log of what had been appended until then.  No other step
reports it. -/
inductive Kept (sessionId : SessionId)
    (trace : List (Event WId SId SubId × List (Effect WId SId SubId)))
    (state : GatewayState WId SId SubId) : Prop where
  | live {session : Session.State SubId} (found : state.sessions.lookup sessionId = some session)
      (log : session.entries.entries = appendedTo sessionId trace)
      (unreported : ∀ label ∈ trace, expiries sessionId label.2 = [])
  | expired {before after : List (Event WId SId SubId × List (Effect WId SId SubId))}
      {label : Event WId SId SubId × List (Effect WId SId SubId)}
      (split : trace = before ++ label :: after) (ended : label.1 = .tick)
      (reported : expiries sessionId label.2 = [appendedTo sessionId before])
      (once : ∀ other ∈ before ++ after, expiries sessionId other.2 = [])
      (gone : state.sessions.lookup sessionId = none)

/-- What became of a session, and its notifications, against what a run appended to it. -/
structure LogFaithful (sessionId : SessionId)
    (trace : List (Event WId SId SubId × List (Effect WId SId SubId)))
    (state : GatewayState WId SId SubId) : Prop where
  kept : Kept sessionId trace state
  notified : Notified (appendedTo sessionId trace) (notificationsOf sessionId trace)

/-- What one step tells the subscribers of a session: an entry that is appended while somebody is
subscribed, once, with its index in the log, to exactly the subscribers; and nothing else. -/
structure Tells (sessionId : SessionId) (log : List Value) (before : GatewayState WId SId SubId)
    (label : Event WId SId SubId × List (Effect WId SId SubId)) : Prop where
  appended : ∀ payload, label.1.appendedTo? sessionId = some payload →
    (∃ subscriberId, before.Subscribed subscriberId sessionId) →
      ∃ subscribers, notificationsOf sessionId [label] = [(log.length, payload, subscribers)] ∧
        subscribers.Nodup ∧
          ∀ subscriberId, subscriberId ∈ subscribers ↔ before.Subscribed subscriberId sessionId
  silent : label.1.appendedTo? sessionId = none ∨
      (∀ subscriberId, ¬ before.Subscribed subscriberId sessionId) →
    notificationsOf sessionId [label] = []

/-- The session was created before. -/
def Created (sessionHash : Nat → Nat → Nat) (state : GatewayState WId SId SubId)
    (sessionId : SessionId) : Prop :=
  ∃ counter < state.sessionCounter,
    sessionId = generateSessionId sessionHash state.runtimeId counter

variable {trace : List (Event WId SId SubId × List (Effect WId SId SubId))}
  {before after : GatewayState WId SId SubId}
  {label : Event WId SId SubId × List (Effect WId SId SubId)} {sessionId : SessionId}

/-- A step of the kernel is an event on the reordered state. -/
theorem kernelSystem_reduce (step : (kernelSystem sessionHash).step before label after) :
    ∃ shuffled, before.Reorder shuffled ∧
      (reduce sessionHash shuffled label.1).state = after ∧
      (reduce sessionHash shuffled label.1).effects = label.2 := by
  obtain ⟨shuffled, reorder, reduced⟩ := step
  exact ⟨shuffled, reorder, by rw [reduced], by rw [reduced]⟩

/-- A session that was created before is not created again. -/
theorem Created.notAgain {shuffled : GatewayState WId SId SubId} {event : Event WId SId SubId}
    (created : Created sessionHash before sessionId) (reorder : before.Reorder shuffled)
    (distinct : DistinctIds sessionHash (reduce sessionHash shuffled event).state) :
    ∀ creator, event = .sessionRequested creator →
      sessionId ≠ generateSessionId sessionHash shuffled.runtimeId shuffled.sessionCounter := by
  intro creator requested same
  obtain ⟨counter, less, generated⟩ := created
  obtain ⟨sameRuntime, _, next⟩ := @counters_reduce _ _ _ _ _ _ _ _ sessionHash shuffled event
  rw [DistinctIds, sameRuntime, next creator requested] at distinct
  rw [← reorder.sessionCounter] at less
  rw [← reorder.runtimeId] at generated
  have sameCounter := distinct (Set.mem_Iio.mpr (Nat.lt_succ_of_lt less))
    (Set.mem_Iio.mpr (Nat.lt_succ_self _)) (generated.symm.trans same)
  exact less.ne sameCounter

theorem Created.step (created : Created sessionHash before sessionId)
    (step : (kernelSystem sessionHash).step before label after) :
    Created sessionHash after sessionId := by
  obtain ⟨shuffled, reorder, stateEq, _⟩ := kernelSystem_reduce step
  obtain ⟨counter, less, generated⟩ := created
  obtain ⟨sameRuntime, more, _⟩ :=
    @counters_reduce _ _ _ _ _ _ _ _ sessionHash shuffled label.1
  rw [stateEq] at sameRuntime more
  refine ⟨counter, (reorder.sessionCounter ▸ less).trans_le more, ?_⟩
  rw [sameRuntime, reorder.runtimeId]
  exact generated

omit [LinearOrder WId] [DecidableEq SId] [DecidableEq SubId] [ToString WId] [ToString SId] in
theorem Kept.log_of_found {session : Session.State SubId} {state : GatewayState WId SId SubId}
    (kept : Kept sessionId trace state) (found : state.sessions.lookup sessionId = some session) :
    session.entries.entries = appendedTo sessionId trace := by
  cases kept with
  | live other log _ =>
      obtain rfl := Option.some.inj (found.symm.trans other)
      exact log
  | expired _ _ _ _ gone =>
      rw [gone] at found
      cases found

/-- An event reports the end of no session that it leaves, and of none that was not there. -/
theorem expiries_of_live {state : GatewayState WId SId SubId} {event : Event WId SId SubId}
    {session : Session.State SubId}
    (found : (reduce sessionHash state event).state.sessions.lookup sessionId = some session) :
    expiries sessionId (reduce sessionHash state event).effects = [] := by
  rw [lookup_sessions_reduce] at found
  rw [expiries_reduce]
  cases event with
  | tick =>
      obtain ⟨ticked, inhabited⟩ := Option.filter_eq_some_iff.mp found
      dsimp only
      rw [ticked, Option.filter_some, if_neg (by simpa using inhabited)]
      rfl
  | _ => rfl

theorem expiries_of_missing {state : GatewayState WId SId SubId} {event : Event WId SId SubId}
    (missing : state.sessions.lookup sessionId = none) :
    expiries sessionId (reduce sessionHash state event).effects = [] := by
  rw [expiries_reduce, missing]
  cases event <;> rfl

omit [LinearOrder WId] [DecidableEq SId] [DecidableEq SubId] [ToString WId] [ToString SId] in
theorem appendedTo_concat (sessionId : SessionId)
    (trace : List (Event WId SId SubId × List (Effect WId SId SubId)))
    (label : Event WId SId SubId × List (Effect WId SId SubId)) :
    appendedTo sessionId (trace ++ [label]) =
      appendedTo sessionId trace ++ (label.1.appendedTo? sessionId).toList := by
  simp only [appendedTo, List.filterMap_append, List.filterMap_cons, List.filterMap_nil]
  cases label.1.appendedTo? sessionId <;> rfl

theorem Kept.step (kept : Kept sessionId trace before)
    (created : Created sessionHash before sessionId)
    (step : (kernelSystem sessionHash).step before label after)
    (distinct : DistinctIds sessionHash after) : Kept sessionId (trace ++ [label]) after := by
  obtain ⟨shuffled, reorder, rfl, effectsEq⟩ := kernelSystem_reduce step
  have notAgain := created.notAgain reorder distinct
  have unreported : expiries sessionId label.2 = [] →
      (∀ other ∈ trace, expiries sessionId other.2 = []) →
        ∀ other ∈ trace ++ [label], expiries sessionId other.2 = [] := by
    intro now earlier other member
    rcases List.mem_append.mp member with before | last
    · exact earlier other before
    · rw [List.mem_singleton.mp last]
      exact now
  cases kept with
  | @live session found log silent =>
      obtain ⟨known, knownFound, same⟩ := reorder.lookup_some found
      cases next : (reduce sessionHash shuffled label.1).state.sessions.lookup sessionId with
      | none =>
          have removed := AList.lookup_eq_none.mp next
          obtain ⟨isTick, reported, _⟩ := expiry_of_removed knownFound removed
          rw [effectsEq, same.entries, log] at reported
          refine .expired rfl isTick reported ?_ next
          rw [List.append_nil]
          exact silent
      | some later =>
          have nothing := expiries_of_live next
          rw [effectsEq] at nothing
          refine .live next ?_ (unreported nothing silent)
          rw [lookup_sessions_reduce] at next
          obtain ⟨earlier, earlierFound, appended⟩ := log_sessionAfter next notAgain
          obtain rfl := Option.some.inj (earlierFound.symm.trans knownFound)
          rw [appended, same.entries, log, appendedTo_concat]
  | @expired first last ending split ended reported once gone =>
      have missing := reorder.lookup_none gone
      have nothing := @expiries_of_missing _ _ _ _ _ _ _ _ sessionHash sessionId shuffled label.1
        missing
      rw [effectsEq] at nothing
      have whole : trace ++ [label] = first ++ ending :: (last ++ [label]) := by
        rw [split, List.append_assoc, List.cons_append]
      refine .expired whole ended reported ?_ ?_
      · intro other member
        rw [← List.append_assoc] at member
        rcases List.mem_append.mp member with before | now
        · exact once other before
        · rw [List.mem_singleton.mp now]
          exact nothing
      · by_contra still
        obtain ⟨session, found⟩ := Option.ne_none_iff_exists'.mp still
        rw [lookup_sessions_reduce] at found
        obtain ⟨_, earlier, _⟩ := log_sessionAfter found notAgain
        rw [missing] at earlier
        cases earlier

/-- A step tells the subscribers of a session what it appends. -/
theorem Kept.tells (kept : Kept sessionId trace before)
    (step : (kernelSystem sessionHash).step before label after) :
    Tells sessionId (appendedTo sessionId trace) before label := by
  obtain ⟨shuffled, reorder, _, effectsEq⟩ := kernelSystem_reduce step
  have told := @notificationsOf_reduce _ _ _ _ _ _ _ _ sessionHash shuffled label.1 sessionId
  rw [effectsEq] at told
  cases found : shuffled.sessions.lookup sessionId with
  | none =>
      have nobody : ∀ subscriberId, ¬ before.Subscribed subscriberId sessionId := by
        intro subscriberId subscribed
        obtain ⟨session, other, _⟩ := reorder.subscribed_iff.mpr subscribed
        rw [found] at other
        cases other
      rw [found] at told
      exact ⟨fun _ _ ⟨subscriberId, subscribed⟩ => absurd subscribed (nobody subscriberId),
        fun _ => told⟩
  | some session =>
      have subscribed : ∀ subscriberId, subscriberId ∈ session.subscribers.keys ↔
          before.Subscribed subscriberId sessionId := by
        intro subscriberId
        rw [← reorder.subscribed_iff, ← AList.mem_keys]
        exact ⟨fun member => ⟨session, found, member⟩, fun ⟨other, otherFound, member⟩ =>
          Option.some.inj (found.symm.trans otherFound) ▸ member⟩
      have vacant : session.isVacant = true ↔
          ∀ subscriberId, ¬ before.Subscribed subscriberId sessionId := by
        simp only [Session.State.isVacant_iff, AList.mem_keys, subscribed]
      obtain ⟨known, knownFound, same⟩ := reorder.lookup_of_shuffled found
      have log : session.entries.entries = appendedTo sessionId trace := by
        rw [same.entries, kept.log_of_found knownFound]
      rw [found] at told
      constructor
      · rintro payload appended ⟨subscriberId, present⟩
        rw [appended] at told
        have inhabited : ¬ session.isVacant = true :=
          fun nobody => vacant.mp nobody subscriberId present
        refine ⟨session.subscribers.keys, ?_, session.subscribers.keys_nodup, subscribed⟩
        rw [told, ← log]
        exact if_neg inhabited
      · rintro (nothing | nobody)
        · rw [told, nothing]
        · rw [told]
          cases label.1.appendedTo? sessionId with
          | none => rfl
          | some payload => exact if_pos (vacant.mpr nobody)

theorem LogFaithful.step (faithful : LogFaithful sessionId trace before)
    (created : Created sessionHash before sessionId)
    (step : (kernelSystem sessionHash).step before label after)
    (distinct : DistinctIds sessionHash after) :
    LogFaithful sessionId (trace ++ [label]) after := by
  have tells := faithful.kept.tells step
  refine ⟨faithful.kept.step created step distinct, ?_⟩
  have toldEq : notificationsOf sessionId (trace ++ [label]) =
      notificationsOf sessionId trace ++ notificationsOf sessionId [label] := by
    rw [notificationsOf, List.filter_append, List.flatMap_append]
    rfl
  rw [appendedTo_concat, toldEq]
  by_cases spoken : (label.1.appendedTo? sessionId).isSome = true ∧
      ∃ subscriberId, before.Subscribed subscriberId sessionId
  · obtain ⟨payload, appended⟩ := Option.isSome_iff_exists.mp spoken.1
    obtain ⟨subscribers, told, _⟩ := tells.appended payload appended spoken.2
    rw [told, appended]
    exact faithful.notified.tell payload subscribers
  · rw [tells.silent ?_, List.append_nil]
    · exact faithful.notified.grow _
    · rcases not_and_or.mp spoken with nothing | nobody
      · exact .inl (Option.not_isSome_iff_eq_none.mp nothing)
      · exact .inr (not_exists.mp nobody)

/-- A session is faithful when it is created. -/
theorem LogFaithful.create {creator : SubId}
    (step : (kernelSystem sessionHash).step before label after)
    (creates : .sessionCreated sessionId creator ∈ label.2) :
    LogFaithful sessionId [] after ∧ Created sessionHash after sessionId := by
  obtain ⟨shuffled, reorder, stateEq, effectsEq⟩ := kernelSystem_reduce step
  rw [← effectsEq] at creates
  obtain ⟨requested, generated⟩ := mem_effects_sessionCreated creates
  obtain ⟨sameRuntime, _, next⟩ :=
    @counters_reduce _ _ _ _ _ _ _ _ sessionHash shuffled label.1
  rw [stateEq] at sameRuntime next
  have found : after.sessions.lookup sessionId = some (newSession shuffled creator) := by
    rw [← stateEq, lookup_sessions_reduce, requested, sessionAfter, if_pos generated]
  refine ⟨⟨.live found rfl (List.forall_mem_nil _), List.Pairwise.nil, List.forall_mem_nil _⟩, ?_⟩
  refine ⟨shuffled.sessionCounter, ?_, ?_⟩
  · rw [next creator requested]
    exact Nat.lt_succ_self _
  · rw [sameRuntime]
    exact generated

theorem DistinctIds.of_step (distinct : DistinctIds sessionHash after)
    (step : (kernelSystem sessionHash).step before label after) :
    DistinctIds sessionHash before := by
  obtain ⟨shuffled, reorder, stateEq, _⟩ := kernelSystem_reduce step
  have shuffledDistinct := DistinctIds.of_reduce (stateEq.symm ▸ distinct)
  rw [DistinctIds, reorder.runtimeId, reorder.sessionCounter] at shuffledDistinct
  exact shuffledDistinct

/-- A created session lives, and its log is the list of the payloads that were appended to it since
its creation, or it expired once and was reported with the list of those appended until then.  Its
notifications carry increasing indices and the payloads at these indices; and each step notifies
the subscribers present, and nobody else, of the entry it appends. -/
theorem session_log_faithful
    {earlier during : List (Event WId SId SubId × List (Effect WId SId SubId))}
    {created : Event WId SId SubId × List (Effect WId SId SubId)}
    {state : GatewayState WId SId SubId} {creator : SubId}
    (run : (kernelSystem sessionHash).Execution (earlier ++ created :: during) state)
    (creates : .sessionCreated sessionId creator ∈ created.2)
    (distinct : DistinctIds sessionHash state) :
    LogFaithful sessionId during state ∧
      ∀ label after, (kernelSystem sessionHash).step state label after →
        Tells sessionId (appendedTo sessionId during) state label := by
  have whole : earlier ++ created :: during = (earlier ++ [created]) ++ during := by simp
  rw [whole] at run
  obtain ⟨middle, first, second⟩ := run.exists_of_append
  obtain ⟨_, _, creation⟩ := first.exists_of_concat
  have kept : DistinctIds sessionHash state →
      LogFaithful sessionId during state ∧ Created sessionHash state sessionId := by
    apply second.invariant (I := fun during state => DistinctIds sessionHash state →
      LogFaithful sessionId during state ∧ Created sessionHash state sessionId)
    · rintro _ rfl _
      exact LogFaithful.create creation creates
    · intro during before label after _ ih step distinctAfter
      obtain ⟨faithful, known⟩ := ih (distinctAfter.of_step step)
      exact ⟨faithful.step known step distinctAfter, known.step step⟩
  obtain ⟨faithful, _⟩ := kept distinct
  exact ⟨faithful, fun label after step => faithful.kept.tells step⟩

end Kernel

/-- Two entries for the session with the first id, with a subscription between them. -/
def twoEntries : List (Event Nat Nat Nat) :=
  [.sessionEvent ⟨"0000000000000000"⟩ (.entryAppended (.bool true)),
    .sessionEvent ⟨"0000000000000000"⟩ (.subscribed 4 0), .tick,
    .sessionEvent ⟨"0000000000000000"⟩ (.entryAppended .null)]

theorem twoEntries_faithful :
    let created := reduce (fun _ counter => counter) (GatewayState.new Nat Nat Nat 0 60 60 60)
      (.sessionRequested 3)
    LogFaithful ⟨"0000000000000000"⟩
      (runEvents (fun _ counter => counter) created.state twoEntries).1
      (runEvents (fun _ counter => counter) created.state twoEntries).2 := by
  intro created
  have run : (kernelSystem fun _ counter => counter).Execution
      ([] ++ (.sessionRequested 3, created.effects) ::
        (runEvents (fun _ counter => counter) created.state twoEntries).1)
      (runEvents (fun _ counter => counter) created.state twoEntries).2 :=
    execution_runEvents _ 0 60 60 60 (.sessionRequested 3 :: twoEntries)
  have distinct : DistinctIds (fun _ counter => counter)
      (runEvents (fun _ counter => counter) created.state twoEntries).2 := by
    intro first firstLess second secondLess _
    have firstZero : first < 1 := firstLess
    have secondZero : second < 1 := secondLess
    omega
  exact (session_log_faithful run List.mem_cons_self distinct).1

/-- Both entries are in the log, the second is told to both subscribers. -/
example :
    appendedTo ⟨"0000000000000000"⟩ (runEvents (fun _ counter => counter)
      (GatewayState.new Nat Nat Nat 0 60 60 60) (.sessionRequested 3 :: twoEntries)).1 =
        [.bool true, .null] ∧
      (notificationsOf ⟨"0000000000000000"⟩ (runEvents (fun _ counter => counter)
        (GatewayState.new Nat Nat Nat 0 60 60 60) (.sessionRequested 3 :: twoEntries)).1).map
          (fun notification => (notification.1, notification.2.2)) = [(0, [3]), (1, [4, 3])] := by
  decide +kernel

/-- When subscribers live for one tick only, the session expires with the first entry alone. -/
example :
    (runEvents (fun _ counter => counter) (GatewayState.new Nat Nat Nat 0 60 60 1)
      (.sessionRequested 3 :: twoEntries)).1.map
        (fun label => expiries ⟨"0000000000000000"⟩ label.2) =
      [[], [], [], [[.bool true]], []] := by
  decide +kernel

end ProstheticConscience.Gateway
