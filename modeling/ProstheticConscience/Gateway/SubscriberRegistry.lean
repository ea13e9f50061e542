/-
Module: ProstheticConscience.Gateway.SubscriberRegistry
Purpose: A subscriber has a handle in the channel registry exactly while it stands in a session of
  the kernel.
Trusted boundary: none
Main exports: runtimeView, DrawnOnce, CommandsAddressed, SubscribersAgree,
  registry_agrees_on_subscribers
-/
import ProstheticConscience.Gateway.RegistryAgreement

namespace ProstheticConscience.Gateway

variable {WId SId SubId WH SH SubH : Type}

/-- The subscriber id that a message draws. -/
def RuntimeMessage.drawnSubscriber? : RuntimeMessage WId SId SubId WH SH SubH → Option SubId
  | .command (.sessionCreate _ drawn) => some drawn
  | .command (.sessionSubscribe _ _ drawn) => some drawn
  | _ => none

/-- The session of which an effect tells its creator. -/
def Effect.createdSession? : Effect WId SId SubId → Option SessionId
  | .sessionCreated sessionId _ => some sessionId
  | _ => none

/-- A run of the runtime seen from the subscribers: the creator of a session enters the session it
is told of, and the commands of a subscriber are addressed to the session they name. -/
def runtimeView (WId SId SubId WH SH SubH : Type) :
    SubscriberView
      (RuntimeMessage WId SId SubId WH SH SubH × RuntimeOutput WId SId SubId WH SH SubH) SubId where
  enters?
    | (.command (.sessionCreate _ drawn), output) =>
        (output.resolved.findSome? Effect.createdSession?).map fun sessionId => (drawn, sessionId)
    | (.command (.sessionSubscribe sessionId _ drawn), _) => some (drawn, sessionId)
    | _ => none
  addressee?
    | (.command (.sessionSubscriberHeartbeat sessionId subscriberId), _) =>
        some (subscriberId, sessionId)
    | (.command (.sessionUnsubscribe sessionId subscriberId), _) => some (subscriberId, sessionId)
    | _ => none

/-- No subscriber id is drawn twice. -/
def DrawnOnce (trace : List (RuntimeMessage WId SId SubId WH SH SubH ×
    RuntimeOutput WId SId SubId WH SH SubH)) : Prop :=
  (trace.filterMap fun label => label.1.drawnSubscriber?).Nodup

/-- The commands of a subscriber are addressed to the session it entered. -/
def CommandsAddressed (trace : List (RuntimeMessage WId SId SubId WH SH SubH ×
    RuntimeOutput WId SId SubId WH SH SubH)) : Prop :=
  ∀ earlier entry later, trace = earlier ++ entry :: later →
    ∀ subscriberId own, (runtimeView WId SId SubId WH SH SubH).enters? entry =
        some (subscriberId, own) →
      ∀ label ∈ later, ∀ sessionId, (runtimeView WId SId SubId WH SH SubH).addressee? label =
        some (subscriberId, sessionId) → sessionId = own

section System

variable [LinearOrder WId] [DecidableEq SId] [DecidableEq SubId] [ToString WId] [ToString SId]
  {sessionHash : Nat → Nat → Nat}
  {before after runtime : GatewayRuntime WId SId SubId WH SH SubH}
  {trace : List (RuntimeMessage WId SId SubId WH SH SubH × RuntimeOutput WId SId SubId WH SH SubH)}
  {label : RuntimeMessage WId SId SubId WH SH SubH × RuntimeOutput WId SId SubId WH SH SubH}

/-! ### The ids of the sessions -/

/-- The kernel state after a message is the state of the turn of an event, or as it was. -/
theorem kernelTurn_invariant {P : GatewayState WId SId SubId → Prop}
    {state : GatewayState WId SId SubId} (start : P state)
    (kept : ∀ event, P (reduce sessionHash state event).state)
    (event? : Option (Event WId SId SubId)) : P (kernelTurn sessionHash state event?).state := by
  cases event? with
  | none => exact start
  | some event => exact kept event

theorem sentExecution_generated (run : (sentSystem sessionHash).Execution trace runtime) :
    SessionsGenerated sessionHash runtime.state := by
  apply run.reachable_invariant (I := fun runtime => SessionsGenerated sessionHash runtime.state)
  · rintro _ ⟨runtimeId, workerTtl, streamTtl, subscriberTtl, rfl⟩ sessionId member
    exact absurd member (AList.notMem_empty sessionId)
  · intro before label after generated step
    obtain ⟨shuffled, reorder, stateEq, _⟩ := runtimeSystem_turn step.1
    have start := generated.reorder reorder
    rw [stateEq]
    exact kernelTurn_invariant start (fun event => start.reduce) _

/-- Ids that are distinct after a message are distinct before it, and before its event. -/
theorem DistinctIds.of_turn {shuffled : GatewayState WId SId SubId}
    {event? : Option (Event WId SId SubId)} (reorder : before.state.Reorder shuffled)
    (distinct : DistinctIds sessionHash (kernelTurn sessionHash shuffled event?).state) :
    DistinctIds sessionHash before.state := by
  have shuffledDistinct : DistinctIds sessionHash shuffled := by
    cases event? with
    | none => exact distinct
    | some event => exact distinct.of_reduce
  rw [DistinctIds, reorder.runtimeId, reorder.sessionCounter] at shuffledDistinct
  exact shuffledDistinct

/-! ### Who enters a session -/

omit [LinearOrder WId] [DecidableEq SId] [DecidableEq SubId] [ToString WId] [ToString SId] in
/-- Who enters has its id drawn. -/
theorem runtimeView_enters_drawn {entry : SubId × SessionId}
    (enters : (runtimeView WId SId SubId WH SH SubH).enters? label = some entry) :
    label.1.drawnSubscriber? = some entry.1 := by
  obtain ⟨message, output⟩ := label
  cases message with
  | event event => cases enters
  | command command =>
      cases command with
      | sessionCreate handle drawn =>
          obtain ⟨sessionId, _, rfl⟩ := Option.map_eq_some_iff.mp enters
          rfl
      | sessionSubscribe sessionId handle drawn =>
          obtain rfl := Option.some.inj enters
          rfl
      | _ => cases enters

omit [LinearOrder WId] [DecidableEq SId] [ToString WId] [ToString SId] in
theorem wellAddressed_of_drawnOnce (fresh : DrawnOnce trace) (addressed : CommandsAddressed trace)
    (subscriberId : SubId) :
    (runtimeView WId SId SubId WH SH SubH).WellAddressed subscriberId trace where
  once := by
    have drawn : ∀ labels : List (RuntimeMessage WId SId SubId WH SH SubH ×
        RuntimeOutput WId SId SubId WH SH SubH),
        ((runtimeView WId SId SubId WH SH SubH).entered subscriberId labels).length ≤
          (labels.filterMap fun label => label.1.drawnSubscriber?).count subscriberId := by
      intro labels
      induction labels with
      | nil => exact le_rfl
      | cons label rest ih =>
          rw [SubscriberView.entered] at ih ⊢
          rw [List.filterMap_cons, List.filterMap_cons]
          cases enters : (runtimeView WId SId SubId WH SH SubH).enters? label with
          | none =>
              cases label.1.drawnSubscriber? with
              | none => exact ih
              | some drawn => exact ih.trans List.count_le_count_cons
          | some entry =>
              rw [runtimeView_enters_drawn enters, Option.bind_some]
              by_cases same : entry.1 = subscriberId
              · rw [if_pos same, List.count_cons, same]
                simpa using ih
              · rw [if_neg same]
                exact ih.trans List.count_le_count_cons
    exact (drawn trace).trans (List.nodup_iff_count_le_one.mp fresh subscriberId)
  addressed earlier entry later split own enters :=
    addressed earlier entry later split subscriberId own enters

omit [LinearOrder WId] [DecidableEq SId] [DecidableEq SubId] [ToString WId] [ToString SId] in
/-- Who enters a session, creates it or subscribes to it with an id drawn for that. -/
theorem command_of_enters {message : RuntimeMessage WId SId SubId WH SH SubH}
    (sent : message.IsSent) {tick : Nat} {state : GatewayState WId SId SubId}
    {event : Event WId SId SubId} (occurs : message.kernelEvent? tick = some event)
    {entry : SubId × SessionId} (enters : event.enters? sessionHash state = some entry) :
    (∃ handle, message = .command (.sessionCreate handle entry.1) ∧
        event = .sessionRequested entry.1) ∨
      ∃ handle, message = .command (.sessionSubscribe entry.2 handle entry.1) := by
  cases message with
  | event sentEvent =>
      obtain rfl := Option.some.inj occurs
      cases sentEvent with
      | tick => cases enters
      | assignmentFailed clientStreamId text => cases enters
      | _ => exact absurd sent id
  | command command =>
      cases command with
      | sessionCreate handle drawn =>
          obtain rfl := Option.some.inj occurs
          obtain rfl := Option.some.inj enters
          exact .inl ⟨handle, rfl, rfl⟩
      | sessionSubscribe sessionId handle drawn =>
          obtain rfl := Option.some.inj occurs
          obtain rfl := Option.some.inj enters
          exact .inr ⟨handle, rfl⟩
      | _ => cases occurs <;> cases enters

omit [LinearOrder WId] [DecidableEq SId] [DecidableEq SubId] [ToString WId] [ToString SId] in
/-- Only a drawn id enters a session. -/
theorem drawn_of_enters {message : RuntimeMessage WId SId SubId WH SH SubH} (sent : message.IsSent)
    {tick : Nat} {state : GatewayState WId SId SubId} {event : Event WId SId SubId}
    (occurs : message.kernelEvent? tick = some event) {entry : SubId × SessionId}
    (enters : event.enters? sessionHash state = some entry) :
    message.drawnSubscriber? = some entry.1 := by
  rcases command_of_enters sent occurs enters with ⟨handle, rfl, _⟩ | ⟨handle, rfl⟩
  · rfl
  · rfl

/-- Whom the kernel's event enters, the label enters. -/
theorem runtimeView_enters {shuffled : GatewayState WId SId SubId} {event : Event WId SId SubId}
    (sent : label.1.IsSent)
    (occurs : label.1.kernelEvent? before.state.tick = some event)
    (resolvedEq : label.2.resolved = (resolveEffects (label.1.register before.registry)
      (reduce sessionHash shuffled event).effects).resolved)
    {entry : SubId × SessionId} (enters : event.enters? sessionHash shuffled = some entry) :
    (runtimeView WId SId SubId WH SH SubH).enters? label = some entry := by
  obtain ⟨message, output⟩ := label
  rcases command_of_enters sent occurs enters with
    ⟨handle, messageEq, eventEq⟩ | ⟨handle, messageEq⟩
  · dsimp only at messageEq resolvedEq
    subst messageEq eventEq
    have registered : (before.registry.registerSubscriber handle entry.1).cloneSubscriber entry.1 =
        some handle := AssocMap.lookup_update_self _ _ _
    have created : output.resolved = [.sessionCreated
        (generateSessionId sessionHash shuffled.runtimeId shuffled.sessionCounter)
        (entry.1, handle)] := by
      rw [resolvedEq]
      simp only [RuntimeMessage.register, reduce, resolveEffects, List.foldl_cons,
        List.foldl_nil, resolveEffect, registered, List.nil_append]
    simp only [runtimeView, created, List.findSome?_cons, Effect.createdSession?,
      Option.map_some]
    exact enters
  · dsimp only at messageEq
    subst messageEq
    rfl

/-- Who is in a session has entered it. -/
theorem sentExecution_entered (run : (sentSystem sessionHash).Execution trace runtime)
    {subscriberId : SubId} {sessionId : SessionId}
    (subscribed : runtime.state.Subscribed subscriberId sessionId) :
    sessionId ∈ (runtimeView WId SId SubId WH SH SubH).entered subscriberId trace := by
  induction run with
  | start initial =>
      obtain ⟨runtimeId, workerTtl, streamTtl, subscriberTtl, rfl⟩ := initial
      obtain ⟨session, found, _⟩ := subscribed
      cases found
  | @step trace before after label run step ih =>
      obtain ⟨shuffled, reorder, stateEq, _, resolvedEq⟩ := runtimeSystem_turn step.1
      rw [stateEq] at subscribed
      cases occurs : label.1.kernelEvent? before.state.tick with
      | none =>
          rw [occurs] at subscribed
          exact SubscriberView.entered_append (ih (reorder.subscribed_iff.mp subscribed))
      | some event =>
          rw [occurs] at subscribed resolvedEq
          rcases Subscribed.of_reduce subscribed with earlier | enters
          · exact SubscriberView.entered_append (ih (reorder.subscribed_iff.mp earlier))
          · exact SubscriberView.mem_entered.mpr ⟨label,
              List.mem_append_right _ (List.mem_singleton_self _),
              runtimeView_enters step.2 occurs resolvedEq enters⟩

/-! ### The handles of subscribers

A handle is taken when its subscriber is told that it is removed, and registered when it enters; so
handles and subscribers correspond, if ids are not used twice. -/

/-- A subscriber has a handle exactly while it is in a session. -/
def SubscribersAgree (runtime : GatewayRuntime WId SId SubId WH SH SubH) : Prop :=
  ∀ subscriberId, subscriberId ∈ runtime.registry.subscribers ↔
    ∃ sessionId, runtime.state.Subscribed subscriberId sessionId

omit [LinearOrder WId] [ToString WId] [ToString SId] in
theorem mem_subscribers_register [DecidableEq WId]
    {message : RuntimeMessage WId SId SubId WH SH SubH}
    {registry : ChannelRegistry WId SId SubId WH SH SubH} {subscriberId : SubId} :
    subscriberId ∈ (message.register registry).subscribers ↔
      message.drawnSubscriber? = some subscriberId ∨ subscriberId ∈ registry.subscribers := by
  have entered : ∀ (handle : SubH) (drawn : SubId),
      subscriberId ∈ (registry.registerSubscriber handle drawn).subscribers ↔
        some drawn = some subscriberId ∨ subscriberId ∈ registry.subscribers := by
    intro handle drawn
    rw [Option.some.injEq, eq_comm]
    exact AssocMap.mem_update
  have other : subscriberId ∈ registry.subscribers ↔
      none = some subscriberId ∨ subscriberId ∈ registry.subscribers := by simp
  cases message with
  | event event => exact other
  | command command =>
      cases command with
      | sessionCreate handle drawn => exact entered handle drawn
      | sessionSubscribe sessionId handle drawn => exact entered handle drawn
      | _ => exact other

omit [LinearOrder WId] [DecidableEq SId] [DecidableEq SubId] [ToString WId] [ToString SId] in
/-- A drawn id is drawn to create a session or to subscribe to one. -/
theorem kernelEvent_of_drawn {message : RuntimeMessage WId SId SubId WH SH SubH}
    {subscriberId : SubId} (drawn : message.drawnSubscriber? = some subscriberId) (tick : Nat) :
    message.kernelEvent? tick = some (.sessionRequested subscriberId) ∨
      ∃ sessionId,
        message.kernelEvent? tick =
          some (.sessionEvent sessionId (.subscribed subscriberId tick)) := by
  cases message with
  | event event => cases drawn
  | command command =>
      cases command with
      | sessionCreate handle drawnId =>
          obtain rfl := Option.some.inj drawn
          exact .inl rfl
      | sessionSubscribe sessionId handle drawnId =>
          obtain rfl := Option.some.inj drawn
          exact .inr ⟨sessionId, rfl⟩
      | _ => cases drawn

omit [LinearOrder WId] [DecidableEq SId] [DecidableEq SubId] [ToString WId] [ToString SId] in
/-- What the kernel's event addresses in the name of a subscriber, the subscriber's command
addresses, or the subscriber enters with it. -/
theorem addressee_of_event (sent : label.1.IsSent) {tick : Nat} {event : Event WId SId SubId}
    (occurs : label.1.kernelEvent? tick = some event) {subscriberId : SubId}
    {sessionId : SessionId} (addressee : event.addressee? = some (subscriberId, sessionId)) :
    label.1.drawnSubscriber? = some subscriberId ∨
      (runtimeView WId SId SubId WH SH SubH).addressee? label = some (subscriberId, sessionId) := by
  obtain ⟨message, output⟩ := label
  cases message with
  | event sentEvent =>
      obtain rfl := Option.some.inj occurs
      cases sentEvent with
      | tick => cases addressee
      | assignmentFailed clientStreamId text => cases addressee
      | _ => exact absurd sent id
  | command command =>
      cases command with
      | sessionSubscribe addressed handle drawn =>
          obtain rfl := Option.some.inj occurs
          obtain ⟨rfl, rfl⟩ := Prod.mk.inj (Option.some.inj addressee)
          exact .inl rfl
      | sessionSubscriberHeartbeat addressed beating =>
          obtain rfl := Option.some.inj occurs
          exact .inr addressee
      | sessionUnsubscribe addressed leaving =>
          obtain rfl := Option.some.inj occurs
          exact .inr addressee
      | _ => cases occurs <;> cases addressee

omit [LinearOrder WId] [DecidableEq SId] [DecidableEq SubId] [ToString WId] [ToString SId] in
theorem notMem_of_drawn [DecidableEq WId] [DecidableEq SId] [DecidableEq SubId]
    {message : RuntimeMessage WId SId SubId WH SH SubH} (fresh : message.DrawsFresh before)
    {subscriberId : SubId}
    (drawn : message.drawnSubscriber? = some subscriberId) :
    subscriberId ∉ before.registry.subscribers := by
  cases message with
  | event event => cases drawn
  | command command =>
      cases command with
      | sessionCreate handle drawnId =>
          obtain rfl := Option.some.inj drawn
          exact fresh
      | sessionSubscribe sessionId handle drawnId =>
          obtain rfl := Option.some.inj drawn
          exact fresh
      | _ => cases drawn

/-- A subscriber that is in a session and does not enter another is still in one exactly when it is
not told that it was removed. -/
theorem KeepsToSession.exists_subscribed_iff {state : GatewayState WId SId SubId}
    {event : Event WId SId SubId} {subscriberId : SubId}
    (keeps : KeepsToSession sessionHash state event subscriberId) {own : SessionId}
    (ownIn : state.Subscribed subscriberId own)
    (noEntry : ∀ sessionId, event.enters? sessionHash state ≠ some (subscriberId, sessionId)) :
    (∃ sessionId, (reduce sessionHash state event).state.Subscribed subscriberId sessionId) ↔
      removals subscriberId (reduce sessionHash state event).effects = 0 := by
  obtain ⟨stays, leaves⟩ := keeps.removals_of_subscribed ownIn
  constructor
  · rintro ⟨sessionId, inside⟩
    rcases Subscribed.of_reduce inside with earlier | enters
    · obtain rfl := keeps.one _ _ earlier ownIn
      exact stays inside
    · exact absurd enters (noEntry sessionId)
  · intro silent
    by_contra gone
    have left := leaves fun inside => gone ⟨own, inside⟩
    rw [left] at silent
    exact Nat.one_ne_zero silent

/-- A subscriber outside of all sessions is in one after the event exactly when the message draws
its id and it is not told that it was removed. -/
theorem exists_subscribed_iff_of_outside {message : RuntimeMessage WId SId SubId WH SH SubH}
    (sent : message.IsSent) {tick : Nat} {state : GatewayState WId SId SubId}
    {event : Event WId SId SubId} (occurs : message.kernelEvent? tick = some event)
    {subscriberId : SubId} (outside : ∀ other, ¬ state.Subscribed subscriberId other) :
    (∃ sessionId, (reduce sessionHash state event).state.Subscribed subscriberId sessionId) ↔
      message.drawnSubscriber? = some subscriberId ∧
        removals subscriberId (reduce sessionHash state event).effects = 0 := by
  constructor
  · rintro ⟨sessionId, inside⟩
    rcases Subscribed.of_reduce inside with earlier | enters
    · exact absurd earlier (outside sessionId)
    · exact ⟨drawn_of_enters sent occurs enters, removals_of_enters outside inside⟩
  · rintro ⟨drawn, silent⟩
    rcases kernelEvent_of_drawn drawn tick with requested | ⟨sessionId, subscribes⟩
    · rw [occurs] at requested
      obtain rfl := Option.some.inj requested
      exact ⟨_, subscribed_of_requested⟩
    · rw [occurs] at subscribes
      obtain rfl := Option.some.inj subscribes
      by_cases live : sessionId ∈ state.sessions
      · exact ⟨sessionId, subscribed_of_subscribed live _⟩
      · rw [removals_of_unknown live] at silent
        exact absurd silent Nat.one_ne_zero

/-- A message keeps the agreement on subscribers, if what it addresses in the name of a subscriber
is addressed to the one session it is in, and a created session is new. -/
theorem SubscribersAgree.step (step : (sentSystem sessionHash).step before label after)
    (agree : SubscribersAgree before) (generated : SessionsGenerated sessionHash before.state)
    (distinct : DistinctIds sessionHash after.state)
    (one : ∀ subscriberId first second, before.state.Subscribed subscriberId first →
      before.state.Subscribed subscriberId second → first = second)
    (addressed : ∀ subscriberId own sessionId, before.state.Subscribed subscriberId own →
      (runtimeView WId SId SubId WH SH SubH).addressee? label = some (subscriberId, sessionId) →
        sessionId = own) :
    SubscribersAgree after := by
  obtain ⟨shuffled, reorder, stateEq, registryEq, _⟩ := runtimeSystem_turn step.1
  have fresh := step.1.1
  intro subscriberId
  have handle := mem_subscribers_resolveEffects (label.1.register before.registry)
    (kernelTurn sessionHash shuffled (label.1.kernelEvent? before.state.tick)).effects subscriberId
  rw [← registryEq, mem_subscribers_register, agree subscriberId] at handle
  rw [handle, stateEq]
  rw [stateEq] at distinct
  have known : (∃ sessionId, before.state.Subscribed subscriberId sessionId) ↔
      ∃ sessionId, shuffled.Subscribed subscriberId sessionId :=
    exists_congr fun sessionId => reorder.subscribed_iff.symm
  have outside : label.1.drawnSubscriber? = some subscriberId →
      ∀ sessionId, ¬ shuffled.Subscribed subscriberId sessionId := by
    intro drawn sessionId subscribed
    exact notMem_of_drawn fresh drawn
      ((agree subscriberId).mpr ⟨sessionId, reorder.subscribed_iff.mp subscribed⟩)
  cases occurs : label.1.kernelEvent? before.state.tick with
  | none =>
      have notDrawn : label.1.drawnSubscriber? ≠ some subscriberId := by
        intro drawn
        rcases kernelEvent_of_drawn drawn before.state.tick with requested | ⟨_, entered⟩
        · rw [occurs] at requested
          cases requested
        · rw [occurs] at entered
          cases entered
      rw [or_iff_right notDrawn, known]
      exact and_iff_left rfl
  | some event =>
      rw [occurs] at distinct
      simp only [kernelTurn] at distinct ⊢
      have keeps : KeepsToSession sessionHash shuffled event subscriberId :=
        { one := fun first second firstIn secondIn =>
            one subscriberId first second (reorder.subscribed_iff.mp firstIn)
              (reorder.subscribed_iff.mp secondIn)
          addressed := by
            intro sessionId addressee own ownIn
            rcases addressee_of_event step.2 occurs addressee with drawn | commanded
            · exact absurd ownIn (outside drawn own)
            · exact addressed subscriberId own sessionId (reorder.subscribed_iff.mp ownIn) commanded
          fresh := fun creator requested =>
            (generated.reorder reorder).fresh distinct requested }
      by_cases wasIn : ∃ own, shuffled.Subscribed subscriberId own
      · obtain ⟨own, ownIn⟩ := wasIn
        have noEntry : ∀ sessionId, event.enters? sessionHash shuffled ≠
            some (subscriberId, sessionId) :=
          fun sessionId enters => outside (drawn_of_enters step.2 occurs enters) own ownIn
        rw [keeps.exists_subscribed_iff ownIn noEntry]
        exact and_iff_right (.inr (known.mpr ⟨own, ownIn⟩))
      · rw [exists_subscribed_iff_of_outside step.2 occurs (not_exists.mp wasIn), known,
          or_iff_left wasIn]

/-- The registry and the kernel agree on subscribers after every run in which the ids of
subscribers are fresh, the generated session ids are distinct, and the commands of a subscriber are
addressed to the session it entered. -/
theorem registry_agrees_on_subscribers (run : (sentSystem sessionHash).Execution trace runtime)
    (fresh : DrawnOnce trace) (distinct : DistinctIds sessionHash runtime.state)
    (addressed : CommandsAddressed trace) : SubscribersAgree runtime := by
  have kept := wellAddressed_of_drawnOnce fresh addressed
  clear fresh addressed
  induction run with
  | start initial =>
      obtain ⟨runtimeId, workerTtl, streamTtl, subscriberTtl, rfl⟩ := initial
      intro subscriberId
      refine ⟨fun known => absurd known (AList.notMem_empty subscriberId), ?_⟩
      rintro ⟨sessionId, session, found, _⟩
      cases found
  | @step trace before after label run step ih =>
      obtain ⟨shuffled, reorder, stateEq, _⟩ := runtimeSystem_turn step.1
      have distinctBefore : DistinctIds sessionHash before.state :=
        DistinctIds.of_turn reorder (stateEq ▸ distinct)
      apply (ih distinctBefore fun subscriberId => (kept subscriberId).earlier).step step
        (sentExecution_generated run) distinct
      · intro subscriberId first second firstIn secondIn
        exact (kept subscriberId).earlier.same (sentExecution_entered run firstIn)
          (sentExecution_entered run secondIn)
      · intro subscriberId own sessionId ownIn addressee
        exact (kept subscriberId).own (sentExecution_entered run ownIn) addressee

end System

/-- The session that the first request creates, when the hash is the counter. -/
def firstSession : SessionId := ⟨"0000000000000000"⟩

/-- Subscriber 3 creates a session, subscriber 4 subscribes to it and leaves it. -/
def guestLeaves : List (RuntimeMessage Nat Nat Nat Nat Nat Nat) :=
  [.command (.sessionCreate 10 3), .command (.sessionSubscribe firstSession 11 4),
    .command (.sessionUnsubscribe firstSession 4)]

/-- After the guest left, the creator alone is known to both sides. -/
theorem guestLeaves_agrees :
    SubscribersAgree (runMessages (fun _ counter => counter) (freshRuntime 60) guestLeaves).2 := by
  have guestFresh : 4 ∉ (GatewayRuntime.processMessage (fun _ counter => counter) (freshRuntime 60)
      (.command (.sessionCreate 10 3))).1.registry.subscribers := by decide +kernel
  have admitted : AllAdmitted (fun _ counter => counter) (freshRuntime 60) guestLeaves :=
    ⟨trivial, AList.notMem_empty 3, trivial, guestFresh, trivial, trivial, trivial⟩
  have drawn : [3, 4].Nodup := by decide
  have entersFirst : ∀ label ∈ (runMessages (fun _ counter => counter) (freshRuntime 60)
      guestLeaves).1, (((runtimeView Nat Nat Nat Nat Nat Nat).enters? label).map
        Prod.snd).getD firstSession = firstSession := by decide +kernel
  have addressesFirst : ∀ label ∈ (runMessages (fun _ counter => counter) (freshRuntime 60)
      guestLeaves).1, (((runtimeView Nat Nat Nat Nat Nat Nat).addressee? label).map
        Prod.snd).getD firstSession = firstSession := by decide +kernel
  refine registry_agrees_on_subscribers (execution_runMessages 0 60 30 30 admitted) drawn ?_ ?_
  · intro first firstLess second secondLess _
    have firstZero : first < 1 := firstLess
    have secondZero : second < 1 := secondLess
    omega
  · intro earlier entry later split subscriberId own enters label member sessionId addressee
    have split' : (runMessages (fun _ counter => counter) (freshRuntime 60) guestLeaves).1 =
      earlier ++ entry :: later := split
    have ownFirst := entersFirst entry (by rw [split']; simp)
    have addressedFirst := addressesFirst label (by rw [split']; simp [member])
    rw [enters] at ownFirst
    rw [addressee] at addressedFirst
    exact addressedFirst.trans ownFirst.symm

end ProstheticConscience.Gateway
