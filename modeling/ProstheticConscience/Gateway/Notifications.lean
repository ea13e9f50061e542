/-
Module: ProstheticConscience.Gateway.Notifications
Purpose: What a subscriber is told during its stay: the entries of the log, each once and in order,
  from the index after its bootstrap on.
Trusted boundary: none
Main exports: noticesFor, Stays, bootstrapEnd, resolveEffects_tells, Informed,
  notified_of_rest_of_log
-/
import ProstheticConscience.Gateway.HandleSafety
import ProstheticConscience.Gateway.SessionLog
import ProstheticConscience.Gateway.SubscriberRegistry

namespace ProstheticConscience.Gateway

variable {WId SId SubId WH SH SubH : Type}

/-! ### What the effect loop tells one subscriber -/

/-- The subscriber that an effect tells that it was removed. -/
def Effect.removedSubscriber? : Effect WId SId SubId → Option SubId
  | .sessionEffect (.subscriberRemoved subscriberId) => some subscriberId
  | _ => none

/-- The effect tells the subscriber that it was removed. -/
def ToldRemoved (subscriberId : SubId) (effect : ResolvedEffect SId SubId WH SH SubH) : Prop :=
  effect.removedSubscriber?.map Prod.fst = some subscriberId

section Loop

variable [DecidableEq SubId]

/-- The new entries of which a resolved effect tells a subscriber, with their indices: one notice
for each place that the subscriber has among the recipients. -/
def Effect.noticesFor (subscriberId : SubId) :
    ResolvedEffect SId SubId WH SH SubH → List (Value × Nat)
  | .sessionEffect (.notifySubscribers entryIndex payload subscribers) =>
      (subscribers.filter fun recipient => decide (recipient.1 = subscriberId)).map fun _ =>
        (payload, entryIndex)
  | _ => []

/-- The notices that resolved effects hold for a subscriber. -/
def resolvedNotices (subscriberId : SubId) (resolved : List (ResolvedEffect SId SubId WH SH SubH)) :
    List (Value × Nat) :=
  resolved.flatMap (·.noticesFor subscriberId)

/-- The notices that the kernel's effects hold for a subscriber. -/
def kernelNotices (subscriberId : SubId) (effects : List (Effect WId SId SubId)) :
    List (Value × Nat) :=
  (notifications effects).flatMap fun (entryIndex, payload, subscribers) =>
    List.replicate (subscribers.count subscriberId) (payload, entryIndex)

/-- The places of a subscriber that has a handle among the recipients of a notification. -/
theorem filter_handles {subscribers : AssocMap SubId SubH} {subscriberId : SubId} {handle : SubH}
    (found : subscribers.lookup subscriberId = some handle) (recipients : List SubId) :
    (recipients.filterMap fun recipient =>
        (subscribers.lookup recipient).map fun handle => (recipient, handle)).filter
      (fun recipient => decide (recipient.1 = subscriberId)) =
        List.replicate (recipients.count subscriberId) (subscriberId, handle) := by
  induction recipients with
  | nil => rfl
  | cons recipient rest ih =>
      rw [List.filterMap_cons, List.count_cons]
      by_cases same : recipient = subscriberId
      · subst same
        simp [found, ih, List.replicate_succ]
      · cases subscribers.lookup recipient <;> simp [same, ih]

variable [DecidableEq WId] [DecidableEq SId]

/-- What one round of the loop tells a subscriber that has its handle: a removal is told, and a
notification is passed on. -/
def RoundTells (subscriberId : SubId) (acc : Resolution WId SId SubId WH SH SubH)
    (effect : Effect WId SId SubId) : Prop :=
  ∃ more, (resolveEffect acc effect).resolved = acc.resolved ++ more ∧
    (subscriberId ∈ acc.registry.subscribers →
      (effect.removes subscriberId = true → ∃ told ∈ more, ToldRemoved subscriberId told) ∧
        resolvedNotices subscriberId more = kernelNotices subscriberId [effect])

/-- An effect that neither removes nor notifies tells the subscriber nothing. -/
theorem roundTells_of_silent {subscriberId : SubId} {acc : Resolution WId SId SubId WH SH SubH}
    {effect : Effect WId SId SubId} {more : List (ResolvedEffect SId SubId WH SH SubH)}
    (noRemoval : effect.removes subscriberId = false) (noNotice : effect.notification? = none)
    (resolvedEq : (resolveEffect acc effect).resolved = acc.resolved ++ more)
    (silent : ∀ told ∈ more, told.noticesFor subscriberId = []) :
    RoundTells subscriberId acc effect := by
  refine ⟨more, resolvedEq, fun _ => ⟨fun removes => ?_, ?_⟩⟩
  · rw [noRemoval] at removes
    cases removes
  · rw [resolvedNotices, List.flatMap_eq_nil_iff.mpr silent]
    simp [kernelNotices, notifications, noNotice]

/-- A removal is told through the handle that it takes. -/
theorem subscriberRemoved_tells (subscriberId : SubId) (acc : Resolution WId SId SubId WH SH SubH)
    (removed : SubId) :
    RoundTells subscriberId acc (.sessionEffect (.subscriberRemoved removed)) := by
  cases handle : acc.registry.subscribers.lookup removed with
  | none =>
      refine ⟨[], ?_, fun known => ⟨fun removes => ?_, rfl⟩⟩
      · simp [resolveEffect, ChannelRegistry.takeSubscriber, handle]
      · obtain rfl : removed = subscriberId := of_decide_eq_true removes
        exact absurd known (AList.lookup_eq_none.mp handle)
  | some subscriberHandle =>
      refine ⟨[.sessionEffect (.subscriberRemoved (removed, subscriberHandle))], ?_,
        fun _ => ⟨fun removes => ?_, rfl⟩⟩
      · simp only [resolveEffect, ChannelRegistry.takeSubscriber, handle]
      · obtain rfl : removed = subscriberId := of_decide_eq_true removes
        exact ⟨_, List.mem_singleton_self _, rfl⟩

/-- A notification reaches the recipients that have a handle. -/
theorem notifySubscribers_tells (subscriberId : SubId) (acc : Resolution WId SId SubId WH SH SubH)
    (entryIndex : Nat) (payload : Value) (recipients : List SubId) :
    RoundTells subscriberId acc
      (.sessionEffect (.notifySubscribers entryIndex payload recipients)) := by
  have kernel : kernelNotices subscriberId
      [(.sessionEffect (.notifySubscribers entryIndex payload recipients) :
        Effect WId SId SubId)] =
      List.replicate (recipients.count subscriberId) (payload, entryIndex) :=
    List.append_nil _
  by_cases nobody : (recipients.filterMap fun recipient =>
      (acc.registry.subscribers.lookup recipient).map fun handle =>
        (recipient, handle)).isEmpty = true
  · refine ⟨[], ?_, fun known => ⟨fun removes => absurd removes Bool.false_ne_true, ?_⟩⟩
    · exact (congrArg Resolution.resolved (if_pos nobody)).trans (List.append_nil _).symm
    · obtain ⟨handle, found⟩ := AssocMap.mem_iff_lookup.mp known
      have places := filter_handles found recipients
      rw [List.isEmpty_iff.mp nobody] at places
      have never : recipients.count subscriberId = 0 := by
        simpa using (congrArg List.length places).symm
      rw [kernel, never]
      rfl
  · refine ⟨[.sessionEffect (.notifySubscribers entryIndex payload
        (recipients.filterMap fun recipient =>
          (acc.registry.subscribers.lookup recipient).map fun handle =>
            (recipient, handle)))], ?_,
      fun known => ⟨fun removes => absurd removes Bool.false_ne_true, ?_⟩⟩
    · exact congrArg Resolution.resolved (if_neg nobody)
    · obtain ⟨handle, found⟩ := AssocMap.mem_iff_lookup.mp known
      rw [kernel, resolvedNotices, List.flatMap_singleton, Effect.noticesFor,
        filter_handles found, List.map_replicate]

theorem resolveEffect_tells (subscriberId : SubId) (acc : Resolution WId SId SubId WH SH SubH)
    (effect : Effect WId SId SubId) : RoundTells subscriberId acc effect := by
  cases effect with
  | dispatchJob job =>
      obtain ⟨_, ⟨_, resolvedEq, _⟩ | ⟨_, _, _, _, resolvedEq, _⟩⟩ :=
        resolveEffect_dispatchJob acc job
      · exact roundTells_of_silent rfl rfl (resolvedEq.trans (List.append_nil _).symm) (by simp)
      · exact roundTells_of_silent rfl rfl resolvedEq (by simp [Effect.noticesFor])
  | sendClientError error =>
      refine roundTells_of_silent rfl rfl
        (congrArg Resolution.resolved (resolveEffect_sendClientError acc error)) ?_
      simp [Effect.noticesFor]
  | sendClientDone done =>
      refine roundTells_of_silent rfl rfl (resolveEffect_sendClientDone acc done).1 ?_
      simp [Effect.noticesFor]
  | sessionCreated sessionId creator =>
      cases handle : acc.registry.subscribers.lookup creator with
      | none =>
          refine @roundTells_of_silent _ _ _ _ _ _ _ _ _ _ _ _ [] rfl rfl ?_ (by simp)
          simp [resolveEffect, ChannelRegistry.cloneSubscriber, handle]
      | some subscriberHandle =>
          refine @roundTells_of_silent _ _ _ _ _ _ _ _ _ _ _ _
            [.sessionCreated sessionId (creator, subscriberHandle)] rfl rfl ?_ ?_
          · simp only [resolveEffect, ChannelRegistry.cloneSubscriber, handle]
          · simp [Effect.noticesFor]
  | sessionExpired sessionId entries =>
      exact @roundTells_of_silent _ _ _ _ _ _ _ _ _ _ _ _ [.sessionExpired sessionId entries]
        rfl rfl rfl (by simp [Effect.noticesFor])
  | protocolViolation violation =>
      exact @roundTells_of_silent _ _ _ _ _ _ _ _ _ _ _ _ [.protocolViolation violation] rfl rfl
        rfl (by simp [Effect.noticesFor])
  | sessionEffect effect =>
      cases effect with
      | subscriberRemoved removed => exact subscriberRemoved_tells subscriberId acc removed
      | notifySubscribers entryIndex payload recipients =>
          exact notifySubscribers_tells subscriberId acc entryIndex payload recipients

omit [DecidableEq WId] [DecidableEq SId] in
theorem kernelNotices_cons (subscriberId : SubId) (effect : Effect WId SId SubId)
    (rest : List (Effect WId SId SubId)) :
    kernelNotices subscriberId (effect :: rest) =
      kernelNotices subscriberId [effect] ++ kernelNotices subscriberId rest := by
  rw [← List.singleton_append, kernelNotices, notifications, List.filterMap_append,
    List.flatMap_append]
  rfl

theorem foldl_resolveEffect_tells (subscriberId : SubId) (effects : List (Effect WId SId SubId))
    (acc : Resolution WId SId SubId WH SH SubH) :
    ∃ more, (effects.foldl resolveEffect acc).resolved = acc.resolved ++ more ∧
      (subscriberId ∈ acc.registry.subscribers →
        (∀ told ∈ more, ¬ ToldRemoved subscriberId told) →
          removals subscriberId effects = 0 ∧
            resolvedNotices subscriberId more = kernelNotices subscriberId effects) := by
  induction effects generalizing acc with
  | nil => exact ⟨[], (List.append_nil _).symm, fun _ _ => ⟨rfl, rfl⟩⟩
  | cons effect rest ih =>
      obtain ⟨now, nowEq, nowTells⟩ := resolveEffect_tells subscriberId acc effect
      obtain ⟨later, laterEq, laterTells⟩ := ih (resolveEffect acc effect)
      refine ⟨now ++ later, ?_, fun known notTold => ?_⟩
      · rw [List.foldl_cons, laterEq, nowEq, List.append_assoc]
      · obtain ⟨tellsRemoval, notices⟩ := nowTells known
        have notRemoved : ¬ effect.removes subscriberId = true := by
          intro removes
          obtain ⟨told, member, tells⟩ := tellsRemoval removes
          exact notTold told (List.mem_append_left _ member) tells
        have stillKnown := (mem_subscribers_resolveEffect subscriberId acc effect).mpr
          ⟨known, notRemoved⟩
        obtain ⟨noRemoval, rest⟩ := laterTells stillKnown fun told member =>
          notTold told (List.mem_append_right _ member)
        constructor
        · rw [removals, List.countP_cons_of_neg notRemoved]
          exact noRemoval
        · rw [kernelNotices_cons, ← notices, ← rest, resolvedNotices, List.flatMap_append]
          rfl

/-- The whole loop, seen from a subscriber that has its handle: it is told of a removal, or else it
keeps the handle and is told what the kernel's effects hold for it. -/
theorem resolveEffects_tells {registry : ChannelRegistry WId SId SubId WH SH SubH}
    {subscriberId : SubId} (known : subscriberId ∈ registry.subscribers)
    (effects : List (Effect WId SId SubId))
    (notTold : ∀ told ∈ (resolveEffects registry effects).resolved,
      ¬ ToldRemoved subscriberId told) :
    removals subscriberId effects = 0 ∧
      resolvedNotices subscriberId (resolveEffects registry effects).resolved =
        kernelNotices subscriberId effects := by
  obtain ⟨more, moreEq, tells⟩ := foldl_resolveEffect_tells subscriberId effects
    { registry, resolved := [], fallbacks := [] }
  rw [List.nil_append, ← resolveEffects] at moreEq
  rw [moreEq] at notTold ⊢
  exact tells known notTold

end Loop

/-! ### One event, seen from a subscriber of a session

An append to the session notifies each of its subscribers once, with the index and the payload; no
other event does. -/

section Turn

variable [LinearOrder WId] [DecidableEq SId] [DecidableEq SubId] [ToString WId] [ToString SId]
  {sessionHash : Nat → Nat → Nat} {state : GatewayState WId SId SubId}
  {event : Event WId SId SubId} {subscriberId : SubId} {sessionId : SessionId}

/-- Who is not told that it was removed stays. -/
theorem subscribed_of_not_removed (subscribed : state.Subscribed subscriberId sessionId)
    (fresh : ∀ creator, event = .sessionRequested creator →
      generateSessionId sessionHash state.runtimeId state.sessionCounter ∉ state.sessions)
    (notRemoved : removals subscriberId (reduce sessionHash state event).effects = 0) :
    (reduce sessionHash state event).state.Subscribed subscriberId sessionId := by
  obtain ⟨session, found, member⟩ := subscribed
  cases event with
  | tick =>
      rw [removals_reduce_tick, held, List.sum_eq_zero_iff_forall_eq_nat] at notRemoved
      have here := notRemoved _ (List.mem_map_of_mem (AssocMap.mem_entries_iff.mpr found))
      refine subscribed_reduce_tick.mpr ⟨session, found, ?_⟩
      by_contra gone
      rw [if_pos ⟨member, gone⟩] at here
      exact Nat.one_ne_zero here
  | sessionRequested creator =>
      have other : sessionId ≠
          generateSessionId sessionHash state.runtimeId state.sessionCounter := by
        intro same
        apply fresh creator rfl
        rw [← same]
        exact AssocMap.mem_iff_lookup.mpr ⟨session, found⟩
      exact subscribed_reduce.mpr ⟨session, (if_neg other).trans found, member⟩
  | sessionEvent addressed sessionEvent =>
      by_cases same : sessionId = addressed
      · subst same
        rw [removals_reduce_some sessionHash found] at notRemoved
        refine subscribed_reduce.mpr ⟨(Session.reduce session sessionEvent).state, ?_, ?_⟩
        · rw [sessionAfter, if_pos rfl, found, Option.map_some]
        · by_contra gone
          rw [if_pos ⟨member, gone⟩] at notRemoved
          exact Nat.one_ne_zero notRemoved
      · exact subscribed_reduce.mpr ⟨session, (if_neg same).trans found, member⟩
  | _ => exact subscribed_reduce.mpr ⟨session, found, member⟩

/-- A subscriber of one session is told exactly of what an event appends to it. -/
theorem kernelNotices_reduce {session : Session.State SubId}
    (found : state.sessions.lookup sessionId = some session)
    (member : subscriberId ∈ session.subscribers)
    (only : ∀ other, state.Subscribed subscriberId other → other = sessionId) :
    kernelNotices subscriberId (reduce sessionHash state event).effects =
      (event.appendedTo? sessionId).toList.map fun payload => (payload, session.entries.len) := by
  rw [kernelNotices, notifications_reduce]
  cases event with
  | sessionEvent addressed sessionEvent =>
      rw [Event.appendedTo?]
      dsimp only
      cases live : state.sessions.lookup addressed with
      | none =>
          have other : addressed ≠ sessionId := by
            intro same
            rw [same, found] at live
            cases live
          rw [if_neg other]
          rfl
      | some addressedSession =>
          dsimp only
          rw [Session.notifications_reduce]
          by_cases same : addressed = sessionId
          · subst same
            obtain rfl := Option.some.inj (found.symm.trans live)
            have present : ¬ session.isVacant = true :=
              fun vacant => Session.State.isVacant_iff.mp vacant subscriberId member
            have once : session.subscribers.keys.count subscriberId = 1 :=
              List.count_eq_one_of_mem session.subscribers.keys_nodup member
            rw [if_pos rfl]
            cases sessionEvent.payload? with
            | none => rfl
            | some payload =>
                dsimp only
                rw [if_neg present, List.flatMap_singleton, once]
                rfl
          · have absent : subscriberId ∉ addressedSession.subscribers :=
              fun there => same (only addressed ⟨addressedSession, live, there⟩)
            have never : addressedSession.subscribers.keys.count subscriberId = 0 :=
              List.count_eq_zero.mpr absent
            rw [if_neg same]
            cases sessionEvent.payload? with
            | none => rfl
            | some payload =>
                dsimp only
                split
                · rfl
                · rw [List.flatMap_singleton, never]
                  rfl
  | _ => rfl

end Turn

/-! ### Runs

From the joining on, the notifications of a subscriber are those of the entries that were appended
since, one for each; by induction on the run. -/

/-- The notices that a run resolves for a subscriber, in the order in which they are emitted. -/
def noticesFor [DecidableEq SubId] (subscriberId : SubId)
    (trace : List (RuntimeMessage WId SId SubId WH SH SubH ×
      RuntimeOutput WId SId SubId WH SH SubH)) : List (Value × Nat) :=
  trace.flatMap fun label => resolvedNotices subscriberId label.2.resolved

/-- The subscriber is not told in a run that it was removed. -/
def Stays (subscriberId : SubId)
    (trace : List (RuntimeMessage WId SId SubId WH SH SubH ×
      RuntimeOutput WId SId SubId WH SH SubH)) : Prop :=
  ∀ label ∈ trace, ∀ told ∈ label.2.resolved, ¬ ToldRemoved subscriberId told

/-- The first index that the answer to an entry leaves to the notifications: the one after the
latest entry of a subscription, or the first index of the log. -/
def bootstrapEnd (output : RuntimeOutput WId SId SubId WH SH SubH) : Nat :=
  match output.reply with
  | some (.subscription { latestEntryIndex := some latest, .. }) => latest + 1
  | _ => 0

section System

variable [LinearOrder WId] [DecidableEq SId] [DecidableEq SubId] [ToString WId] [ToString SId]
  {sessionHash : Nat → Nat → Nat}
  {before after runtime : GatewayRuntime WId SId SubId WH SH SubH}
  {label : RuntimeMessage WId SId SubId WH SH SubH × RuntimeOutput WId SId SubId WH SH SubH}
  {subscriberId : SubId} {sessionId : SessionId} {start : Nat} {notices : List (Value × Nat)}

/-- A subscriber of one session that has its handle and was told of the log from `start` on. -/
structure Informed (runtime : GatewayRuntime WId SId SubId WH SH SubH) (subscriberId : SubId)
    (sessionId : SessionId) (start : Nat) (notices : List (Value × Nat)) : Prop where
  handle : subscriberId ∈ runtime.registry.subscribers
  only : ∀ other, runtime.state.Subscribed subscriberId other → other = sessionId
  told : ∃ session, runtime.state.sessions.lookup sessionId = some session ∧
    subscriberId ∈ session.subscribers ∧ start ≤ session.entries.len ∧
      notices = session.entries.entries.zipIdx.drop start

/-- The notices of one more entry. -/
theorem drop_zipIdx_concat {entries : List Value} {start : Nat} (inside : start ≤ entries.length)
    (appended : Option Value) :
    (entries ++ appended.toList).zipIdx.drop start =
      entries.zipIdx.drop start ++
        appended.toList.map fun payload => (payload, entries.length) := by
  rw [List.zipIdx_append, List.drop_append_of_le_length (by simpa using inside)]
  cases appended <;> simp

/-- A message that does not tell the subscriber of its removal keeps it informed. -/
theorem Informed.step (step : (sentSystem sessionHash).step before label after)
    (informed : Informed before subscriberId sessionId start notices)
    (generated : SessionsGenerated sessionHash before.state)
    (distinct : DistinctIds sessionHash after.state)
    (notTold : ∀ told ∈ label.2.resolved, ¬ ToldRemoved subscriberId told) :
    Informed after subscriberId sessionId start
      (notices ++ resolvedNotices subscriberId label.2.resolved) := by
  obtain ⟨shuffled, reorder, stateEq, registryEq, resolvedEq⟩ := runtimeSystem_turn step.1
  obtain ⟨known, only, session, found, member, inside, noticesEq⟩ := informed
  have registered : subscriberId ∈ (label.1.register before.registry).subscribers :=
    mem_subscribers_register.mpr (.inr known)
  rw [resolvedEq] at notTold
  obtain ⟨notRemoved, told⟩ := resolveEffects_tells registered _ notTold
  have handle : subscriberId ∈ after.registry.subscribers := by
    rw [registryEq]
    exact (mem_subscribers_resolveEffects _ _ _).mpr ⟨registered, notRemoved⟩
  obtain ⟨shuffledSession, shuffledFound, same⟩ := reorder.lookup_some found
  have shuffledMember := (same.subscribers.mem_iff subscriberId).mp member
  have shuffledOnly : ∀ other, shuffled.Subscribed subscriberId other → other = sessionId :=
    fun other otherIn => only other (reorder.subscribed_iff.mp otherIn)
  rw [resolvedEq, told]
  rw [stateEq] at distinct
  cases occurs : label.1.kernelEvent? before.state.tick with
  | none =>
      rw [occurs] at stateEq
      refine ⟨handle, stateEq ▸ shuffledOnly, shuffledSession, stateEq ▸ shuffledFound,
        shuffledMember, ?_, ?_⟩
      · exact same.entries ▸ inside
      · rw [same.entries, noticesEq]
        exact List.append_nil _
  | some event =>
      rw [occurs] at stateEq notRemoved distinct
      simp only [kernelTurn] at stateEq notRemoved distinct ⊢
      have stays := subscribed_of_not_removed ⟨shuffledSession, shuffledFound, shuffledMember⟩
        (fun creator requested => (generated.reorder reorder).fresh distinct requested) notRemoved
      obtain ⟨laterSession, laterFound, laterMember⟩ := stays
      refine ⟨handle, ?_, laterSession, stateEq ▸ laterFound, laterMember, ?_⟩
      · intro other otherIn
        rw [stateEq] at otherIn
        rcases Subscribed.of_reduce otherIn with earlier | enters
        · exact shuffledOnly other earlier
        · exact absurd known (notMem_of_drawn step.1.1 (drawn_of_enters step.2 occurs enters))
      · rw [lookup_sessions_reduce] at laterFound
        obtain ⟨earlier, earlierFound, grown⟩ := log_sessionAfter laterFound (by
          intro creator requested isNew
          apply (generated.reorder reorder).fresh distinct requested
          rw [← isNew]
          exact AssocMap.mem_iff_lookup.mpr ⟨shuffledSession, shuffledFound⟩)
        obtain rfl := Option.some.inj (shuffledFound.symm.trans earlierFound)
        rw [kernelNotices_reduce shuffledFound shuffledMember shuffledOnly, AppendLog.len,
          AppendLog.len, grown, same.entries]
        constructor
        · rw [List.length_append]
          exact inside.trans (Nat.le_add_right _ _)
        · rw [drop_zipIdx_concat inside, noticesEq]

/-- Where the answer to an entry leaves off: at the end of the log as it is then. -/
theorem bootstrapEnd_of_step (step : (runtimeSystem sessionHash).step before label after)
    (entered : (∃ handle, label.1 = .command (.sessionCreate handle subscriberId)) ∨
      ∃ handle, label.1 = .command (.sessionSubscribe sessionId handle subscriberId)) :
    bootstrapEnd label.2 =
      match label.1 with
      | .command (.sessionCreate _ _) => 0
      | _ => ((before.state.sessions.lookup sessionId).map (·.entries.len)).getD 0 := by
  obtain ⟨message, output⟩ := label
  obtain ⟨_, shuffled, reorder, processed⟩ := step
  have replyEq := congrArg (fun result => result.2.reply) processed
  dsimp only at entered replyEq ⊢
  rcases entered with ⟨handle, rfl⟩ | ⟨handle, rfl⟩
  · rw [bootstrapEnd, ← replyEq]
    rfl
  · rw [bootstrapEnd, ← replyEq]
    simp only [GatewayRuntime.processMessage, GatewayRuntime.handleMessage,
      GatewayRuntime.handleCommand, GatewayRuntime.handleSessionSubscribe,
      GatewayRuntime.applyRegistered]
    cases found : before.state.sessions.lookup sessionId with
    | none =>
        rw [reorder.lookup_none found]
        rfl
    | some session =>
        obtain ⟨shuffledSession, shuffledFound, same⟩ := reorder.lookup_some found
        rw [shuffledFound, Option.bind_some, AppendLog.len, same.entries, Option.map_some,
          Option.getD_some, AppendLog.len]
        by_cases empty : session.entries.entries.length = 0
        · rw [if_pos empty, empty]
        · rw [if_neg empty]
          exact Nat.succ_pred_eq_of_ne_zero empty

/-- The event with which a subscriber enters a session: it puts the subscriber into the session,
whose log ends where the answer says, and notifies nobody. -/
theorem event_of_enters {shuffled : GatewayState WId SId SubId}
    (step : (sentSystem sessionHash).step before label after)
    (reorder : before.state.Reorder shuffled)
    (resolvedEq : label.2.resolved = (resolveEffects (label.1.register before.registry)
      (kernelTurn sessionHash shuffled (label.1.kernelEvent? before.state.tick)).effects).resolved)
    (notRemoved : removals subscriberId
      (kernelTurn sessionHash shuffled (label.1.kernelEvent? before.state.tick)).effects = 0)
    (enters : (runtimeView WId SId SubId WH SH SubH).enters? label =
      some (subscriberId, sessionId)) :
    ∃ event, label.1.kernelEvent? before.state.tick = some event ∧
      event.enters? sessionHash shuffled = some (subscriberId, sessionId) ∧
      ∃ session, (reduce sessionHash shuffled event).state.sessions.lookup sessionId =
          some session ∧ subscriberId ∈ session.subscribers ∧
        session.entries.len = bootstrapEnd label.2 ∧
        kernelNotices subscriberId (reduce sessionHash shuffled event).effects = [] := by
  have ends := @bootstrapEnd_of_step _ _ _ _ _ _ _ _ _ _ _ sessionHash before after label
    subscriberId sessionId step.1
  have sent := step.2
  obtain ⟨message, output⟩ := label
  cases message with
  | event event => cases enters
  | command command =>
      cases command with
      | sessionCreate handle drawn =>
          have entersHere := runtimeView_enters sent rfl resolvedEq
            (rfl : (Event.sessionRequested drawn : Event WId SId SubId).enters? sessionHash
                shuffled =
              some (drawn,
                generateSessionId sessionHash shuffled.runtimeId shuffled.sessionCounter))
          rw [enters] at entersHere
          obtain ⟨rfl, rfl⟩ := Prod.mk.inj (Option.some.inj entersHere)
          refine ⟨.sessionRequested subscriberId, rfl, rfl, newSession shuffled subscriberId, ?_,
            mem_newSession.mpr rfl, (ends (.inl ⟨handle, rfl⟩)).symm, rfl⟩
          rw [lookup_sessions_reduce, sessionAfter, if_pos rfl]
      | sessionSubscribe addressed handle drawn =>
          obtain ⟨rfl, rfl⟩ := Prod.mk.inj (Option.some.inj enters)
          have live : addressed ∈ shuffled.sessions := by
            by_contra unknown
            have removed := @removals_of_unknown _ _ _ _ _ _ _ _ sessionHash _ drawn _ unknown
              before.state.tick
            exact Nat.one_ne_zero (removed.symm.trans notRemoved)
          obtain ⟨session, found⟩ := AssocMap.mem_iff_lookup.mp live
          obtain ⟨earlier, earlierFound, same⟩ := reorder.lookup_of_shuffled found
          have entered := Session.mem_subscribers_reduce session
            (.subscribed drawn before.state.tick) drawn
          refine ⟨_, rfl, rfl, (Session.reduce session (.subscribed drawn before.state.tick)).state,
            ?_, entered.mpr (.inl rfl), ?_, ?_⟩
          · rw [lookup_sessions_reduce, sessionAfter, if_pos rfl, found, Option.map_some]
          · rw [ends (.inr ⟨handle, rfl⟩), earlierFound]
            exact congrArg AppendLog.len same.entries
          · rw [kernelNotices, notifications_reduce]
            dsimp only
            rw [found]
            rfl
      | _ => cases enters

/-- A subscriber that enters a session and is not told that it was removed is informed of the log
from the end of its bootstrap on. -/
theorem Informed.enter (step : (sentSystem sessionHash).step before label after)
    (outside : ∀ other, ¬ before.state.Subscribed subscriberId other)
    (enters : (runtimeView WId SId SubId WH SH SubH).enters? label =
      some (subscriberId, sessionId))
    (notTold : ∀ told ∈ label.2.resolved, ¬ ToldRemoved subscriberId told) :
    Informed after subscriberId sessionId (bootstrapEnd label.2)
      (resolvedNotices subscriberId label.2.resolved) := by
  obtain ⟨shuffled, reorder, stateEq, registryEq, resolvedEq⟩ := runtimeSystem_turn step.1
  have drawn := runtimeView_enters_drawn enters
  have registered : subscriberId ∈ (label.1.register before.registry).subscribers :=
    mem_subscribers_register.mpr (.inl drawn)
  have notToldHere := notTold
  rw [resolvedEq] at notToldHere
  obtain ⟨notRemoved, told⟩ := resolveEffects_tells registered _ notToldHere
  have handle : subscriberId ∈ after.registry.subscribers := by
    rw [registryEq]
    exact (mem_subscribers_resolveEffects _ _ _).mpr ⟨registered, notRemoved⟩
  have outsideShuffled : ∀ other, ¬ shuffled.Subscribed subscriberId other :=
    fun other otherIn => outside other (reorder.subscribed_iff.mp otherIn)
  obtain ⟨event, occurs, entersHere, session, laterFound, laterMember, logEq, silent⟩ :=
    event_of_enters step reorder resolvedEq notRemoved enters
  rw [occurs] at stateEq
  simp only [occurs, kernelTurn] at told
  refine ⟨handle, ?_, session, stateEq ▸ laterFound, laterMember, logEq.ge, ?_⟩
  · intro other otherIn
    rw [stateEq] at otherIn
    rcases Subscribed.of_reduce otherIn with earlier | entersOther
    · exact absurd earlier (outsideShuffled other)
    · rw [entersHere] at entersOther
      exact (Prod.mk.inj (Option.some.inj entersOther)).2.symm
  · rw [resolvedEq, occurs]
    simp only [kernelTurn]
    rw [told, silent, ← logEq]
    simp [AppendLog.len]

/-- A subscriber that entered a session and was not told since that it was removed is still in it,
and has been told of exactly the entries of its log that the bootstrap did not cover, each with its
index, once and in order. -/
theorem notified_of_rest_of_log {first during : List (RuntimeMessage WId SId SubId WH SH SubH ×
      RuntimeOutput WId SId SubId WH SH SubH)}
    {entry : RuntimeMessage WId SId SubId WH SH SubH × RuntimeOutput WId SId SubId WH SH SubH}
    (run : (sentSystem sessionHash).Execution (first ++ entry :: during) runtime)
    (fresh : DrawnOnce (first ++ entry :: during))
    (distinct : DistinctIds sessionHash runtime.state)
    (enters : (runtimeView WId SId SubId WH SH SubH).enters? entry =
      some (subscriberId, sessionId))
    (stays : Stays subscriberId (entry :: during)) :
    ∃ session, runtime.state.sessions.lookup sessionId = some session ∧
      subscriberId ∈ session.subscribers ∧ bootstrapEnd entry.2 ≤ session.entries.len ∧
        noticesFor subscriberId (entry :: during) =
          session.entries.entries.zipIdx.drop (bootstrapEnd entry.2) := by
  have outside : ∀ label ∈ first, label.1.drawnSubscriber? ≠ some subscriberId := by
    intro label member drawn
    rw [DrawnOnce, List.filterMap_append, List.filterMap_cons,
      runtimeView_enters_drawn enters] at fresh
    have here : subscriberId ∈ first.filterMap fun label => label.1.drawnSubscriber? :=
      List.mem_filterMap.mpr ⟨label, member, drawn⟩
    exact (List.nodup_append.mp fresh).2.2 _ here _ List.mem_cons_self rfl
  suffices informed : Informed runtime subscriberId sessionId (bootstrapEnd entry.2)
      (noticesFor subscriberId (entry :: during)) from informed.told
  clear fresh
  induction during using List.reverseRecOn generalizing runtime with
  | nil =>
      obtain ⟨before, run, step⟩ := run.exists_of_concat
      have notTold := stays entry List.mem_cons_self
      rw [noticesFor, List.flatMap_singleton]
      refine Informed.enter step ?_ enters notTold
      intro other otherIn
      obtain ⟨label, member, entered⟩ :=
        SubscriberView.mem_entered.mp (sentExecution_entered run otherIn)
      exact outside label member (runtimeView_enters_drawn entered)
  | append_singleton during label ih =>
      have whole : first ++ entry :: (during ++ [label]) =
          (first ++ entry :: during) ++ [label] := by
        simp
      rw [whole] at run
      obtain ⟨before, run, step⟩ := run.exists_of_concat
      obtain ⟨shuffled, reorder, stateEq, _⟩ := runtimeSystem_turn step.1
      have distinctBefore : DistinctIds sessionHash before.state :=
        DistinctIds.of_turn reorder (stateEq ▸ distinct)
      have staysBefore : Stays subscriberId (entry :: during) := by
        intro other member
        rcases List.mem_cons.mp member with rfl | later
        · exact stays other List.mem_cons_self
        · exact stays other (List.mem_cons_of_mem _ (List.mem_append_left _ later))
      have informed := (ih run distinctBefore staysBefore).step step (sentExecution_generated run)
        distinct (stays label (by simp))
      have notices : noticesFor subscriberId (entry :: (during ++ [label])) =
          noticesFor subscriberId (entry :: during) ++
            resolvedNotices subscriberId label.2.resolved := by
        rw [← List.cons_append, noticesFor, List.flatMap_append, List.flatMap_singleton]
        rfl
      rwa [notices]

end System

/-- Subscriber 3 creates a session and appends an entry; subscriber 4 subscribes, and another entry
is appended after a tick. -/
def lateGuest : List (RuntimeMessage Nat Nat Nat Nat Nat Nat) :=
  [.command (.sessionCreate 10 3), .command (.sessionAppendEntry firstSession .null),
    .command (.sessionSubscribe firstSession 11 4), .event .tick,
    .command (.sessionAppendEntry firstSession (.bool true))]

/-- The guest is told of the second entry, and of nothing else. -/
theorem lateGuest_notified :
    noticesFor 4 ((runMessages (fun _ counter => counter) (freshRuntime 60) lateGuest).1.drop 2) =
      [(.bool true, 1)] := by
  have guestFresh : 4 ∉ (runMessages (fun _ counter => counter) (freshRuntime 60)
      (lateGuest.take 2)).2.registry.subscribers := by decide +kernel
  have admitted : AllAdmitted (fun _ counter => counter) (freshRuntime 60) lateGuest :=
    ⟨trivial, AList.notMem_empty 3, trivial, trivial, trivial, guestFresh, trivial, trivial,
      trivial, trivial, trivial⟩
  have drawn : [3, 4].Nodup := by decide
  have distinct : DistinctIds (fun _ counter => counter)
      (runMessages (fun _ counter => counter) (freshRuntime 60) lateGuest).2.state := by
    intro first firstLess second secondLess _
    have firstZero : first < 1 := firstLess
    have secondZero : second < 1 := secondLess
    omega
  have run := execution_runMessages 0 60 30 30 admitted
  have notTold : ∀ label ∈ (runMessages (fun _ counter => counter) (freshRuntime 60)
      lateGuest).1.drop 2, ∀ told ∈ label.2.resolved,
        told.removedSubscriber?.map Prod.fst ≠ some 4 := by decide +kernel
  obtain ⟨session, found, _, _, notices⟩ := @notified_of_rest_of_log _ _ _ _ _ _ _ _ _ _ _ _ _ 4
    firstSession ((runMessages (fun _ counter => counter) (freshRuntime 60) lateGuest).1.take 2) _ _
    run drawn distinct rfl notTold
  have log : session.entries.entries = [.null, .bool true] := by
    obtain rfl := Option.some.inj found
    rfl
  rw [log] at notices
  exact notices

end ProstheticConscience.Gateway
