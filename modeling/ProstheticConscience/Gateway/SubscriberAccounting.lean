/-
Module: ProstheticConscience.Gateway.SubscriberAccounting
Purpose: With the session websockets in the model, the registry and the kernel agree on subscribers
  whatever the clients do, and a subscriber outlives its connection only if the handler returned
  before its loop.
Trusted boundary: none
Main exports: HubInvariant, hub_registry_agrees, hub_subscribers_accounted
-/
import ProstheticConscience.Gateway.SessionHub

namespace ProstheticConscience.Gateway

open Consensus

variable {WId SId SubId WH SH : Type}

/-! ### What waits in the inbox -/

/-- A command that waits in the inbox fits what its connection is. -/
def Fits (connection : SessionConnection SubId) : SessionCommand SubId → Prop
  | .create => connection = .creating
  | .subscribe sessionId => connection = .subscribing sessionId
  | .append _ _ => True
  | .heartbeat sessionId subscriberId => connection.session? = some (sessionId, subscriberId)
  | .unsubscribe sessionId subscriberId => connection = .left sessionId subscriberId

def SessionCommand.isRegistration : SessionCommand SubId → Bool
  | .create => true
  | .subscribe _ => true
  | _ => false

theorem SessionCommand.registers?_message (command : SessionCommand SubId) (number : Nat)
    (drawn : SubId) :
    (command.message WId SId WH SH number drawn).registers? =
      if command.isRegistration then some (drawn, number) else none := by
  cases command <;> rfl

/-- A connection whose registration waits has no subscriber yet. -/
theorem Fits.subscriber?_eq_none {connection : SessionConnection SubId}
    {command : SessionCommand SubId} (fits : Fits connection command)
    (registration : command.isRegistration = true) : connection.subscriber? = none := by
  cases command with
  | create =>
      obtain rfl : connection = .creating := fits
      rfl
  | subscribe sessionId =>
      obtain rfl : connection = .subscribing sessionId := fits
      rfl
  | _ => cases registration

/-- Nothing that needs a subscriber waits for a connection that has none. -/
theorem Fits.of_no_subscriber {connection next : SessionConnection SubId}
    {command : SessionCommand SubId} (fits : Fits connection command)
    (nobody : connection.subscriber? = none) (other : command.isRegistration = false) :
    Fits next command := by
  cases command with
  | append sessionId payload => trivial
  | heartbeat sessionId subscriberId =>
      rw [SessionConnection.subscriber?_of_session? fits] at nobody
      cases nobody
  | unsubscribe sessionId subscriberId =>
      obtain rfl : connection = .left sessionId subscriberId := fits
      cases nobody
  | _ => cases other

/-- What a connection became when the runtime answered its command. -/
inductive Answered (drawn : SubId) (connection : SessionConnection SubId) :
    SessionCommand SubId → SessionConnection SubId → Prop where
  | created : Answered drawn connection .create (.awaitingSubscribed drawn)
  | joined (sessionId : SessionId) :
      Answered drawn connection (.subscribe sessionId) (.connected sessionId drawn)
  | failed (sessionId : SessionId) :
      Answered drawn connection (.subscribe sessionId) (.returned drawn)
  | ignored {command : SessionCommand SubId} (other : command.isRegistration = false) :
      Answered drawn connection command connection

section Answer

variable [LinearOrder WId] [DecidableEq SId] [DecidableEq SubId] [ToString WId] [ToString SId]
  {sessionHash : Nat → Nat → Nat} {parse : String → Option SessionClientMessage}
  {before after : GatewayRuntime WId SId SubId WH SH Nat}
  {output : RuntimeOutput WId SId SubId WH SH Nat} {number : Nat} {drawn : SubId}

/-- The answer is the one that the handler of the command gives. -/
theorem reply_of_turn {message : RuntimeMessage WId SId SubId WH SH Nat}
    (turn : (sentSystem sessionHash).step before (message, output) after) :
    ∃ shuffled, output.reply =
      (GatewayRuntime.handleMessage sessionHash { before with state := shuffled }
        message).reply := by
  obtain ⟨⟨_, shuffled, _, processed⟩, _⟩ := turn
  exact ⟨shuffled, (congrArg (fun result => result.2.reply) processed).symm⟩

theorem answered_of_turn {command : SessionCommand SubId}
    (turn : (sentSystem sessionHash).step before
      (command.message WId SId WH SH number drawn, output) after)
    {connection : SessionConnection SubId} (fits : Fits connection command) (sends : Bool) :
    Answered drawn connection command (answered parse connection output.reply sends) := by
  obtain ⟨shuffled, replyEq⟩ := reply_of_turn turn
  rw [replyEq]
  cases command with
  | create =>
      obtain rfl : connection = .creating := fits
      exact .created
  | subscribe sessionId =>
      obtain rfl : connection = .subscribing sessionId := fits
      cases sends with
      | true => exact .joined sessionId
      | false => exact .failed sessionId
  | append sessionId payload => exact .ignored rfl
  | heartbeat sessionId subscriberId => exact .ignored rfl
  | unsubscribe sessionId subscriberId => exact .ignored rfl

/-- Who is unsubscribed from a session is not in it any more. -/
theorem not_subscribed_of_unsubscribe {sessionId : SessionId} {subscriberId : SubId}
    (turn : (sentSystem sessionHash).step before
      (.command (.sessionUnsubscribe sessionId subscriberId), output) after) :
    ¬ after.state.Subscribed subscriberId sessionId := by
  obtain ⟨shuffled, _, stateEq, _⟩ := runtimeSystem_turn turn.1
  rw [stateEq]
  intro inside
  obtain ⟨session, found, member⟩ := subscribed_reduce.mp inside
  rw [sessionAfter, if_pos rfl] at found
  obtain ⟨earlier, _, rfl⟩ := Option.map_eq_some_iff.mp found
  exact ((Session.mem_subscribers_reduce _ _ _).mp member).1 rfl

end Answer

/-! ### The invariant

Every subscriber handle belongs to one connection, which is in a phase that accounts for it, and
every command under way names the subscriber of the connection that sent it. One lemma per kind of
step. -/

section Invariant

variable [LinearOrder WId] [DecidableEq SId] [DecidableEq SubId] [ToString WId] [ToString SId]
  (sessionHash : Nat → Nat → Nat)

/-- What holds of the gateway with its websockets.  Every subscriber belongs to one connection, and
everything that is done in its name concerns the session it is in. -/
structure HubInvariant (hub : Hub WId SId SubId WH SH) : Prop where
  agree : SubscribersAgree hub.runtime
  generated : SessionsGenerated sessionHash hub.runtime.state
  one : ∀ subscriberId first second, hub.runtime.state.Subscribed subscriberId first →
    hub.runtime.state.Subscribed subscriberId second → first = second
  owner : ∀ subscriberId number,
    hub.runtime.registry.subscribers.lookup subscriberId = some number →
      (hub.connection number).subscriber? = some subscriberId
  drawn : ∀ number subscriberId,
    (hub.connection number).subscriber? = some subscriberId → subscriberId ∈ hub.drawn
  own : ∀ number sessionId subscriberId,
    (hub.connection number).session? = some (sessionId, subscriberId) →
      ∀ inside, hub.runtime.state.Subscribed subscriberId inside → sessionId = inside
  fits : ∀ entry ∈ hub.inbox, Fits (hub.connection entry.1) entry.2
  once : ((hub.inbox.filter fun entry => entry.2.isRegistration).map Prod.fst).Nodup
  told : ∀ number message, (number, message) ∈ hub.mail ∨ message ∈ hub.queue number →
    ∃ subscriberId, (hub.connection number).subscriber? = some subscriberId ∧
      ∀ sessionId latest, message = .subscribed sessionId latest →
        ∀ inside, hub.runtime.state.Subscribed subscriberId inside → ⟨sessionId⟩ = inside
  leaving : ∀ number sessionId subscriberId,
    hub.connection number = .left sessionId subscriberId →
      subscriberId ∈ hub.runtime.registry.subscribers →
        (number, .unsubscribe sessionId subscriberId) ∈ hub.inbox

variable {sessionHash} {hub : Hub WId SId SubId WH SH}

omit [LinearOrder WId] [DecidableEq SId] [ToString WId] [ToString SId] in
/-- Whoever is in a session was drawn. -/
theorem HubInvariant.known (inv : HubInvariant sessionHash hub) {subscriberId : SubId}
    {sessionId : SessionId} (inside : hub.runtime.state.Subscribed subscriberId sessionId) :
    subscriberId ∈ hub.drawn := by
  have handle := (inv.agree subscriberId).mpr ⟨sessionId, inside⟩
  obtain ⟨number, found⟩ := AssocMap.mem_iff_lookup.mp handle
  exact inv.drawn number subscriberId (inv.owner subscriberId number found)

section AfterTurn

variable {message : RuntimeMessage WId SId SubId WH SH Nat}
  {output : RuntimeOutput WId SId SubId WH SH Nat}
  {after : GatewayRuntime WId SId SubId WH SH Nat}

/-- What is said in the name of a subscriber is said by its connection. -/
def SpokenFor (hub : Hub WId SId SubId WH SH)
    (message : RuntimeMessage WId SId SubId WH SH Nat) : Prop :=
  ∀ output subscriberId sessionId,
    (runtimeView WId SId SubId WH SH Nat).addressee? (message, output) =
        some (subscriberId, sessionId) →
      ∃ number, (hub.connection number).session? = some (sessionId, subscriberId)

theorem HubInvariant.agree_of_turn (inv : HubInvariant sessionHash hub)
    (turn : (sentSystem sessionHash).step hub.runtime (message, output) after)
    (distinct : DistinctIds sessionHash after.state) (spoken : SpokenFor hub message) :
    SubscribersAgree after := by
  apply inv.agree.step turn inv.generated distinct inv.one
  intro subscriberId inside sessionId insideIn addressee
  obtain ⟨number, speaks⟩ := spoken output subscriberId sessionId addressee
  exact inv.own number sessionId subscriberId speaks inside insideIn

theorem HubInvariant.generated_of_turn (inv : HubInvariant sessionHash hub)
    (turn : (sentSystem sessionHash).step hub.runtime (message, output) after) :
    SessionsGenerated sessionHash after.state := by
  obtain ⟨shuffled, reorder, stateEq, _⟩ := runtimeSystem_turn turn.1
  have start := inv.generated.reorder reorder
  rw [stateEq]
  exact kernelTurn_invariant start (fun event => start.reduce) _

/-- A subscriber that was drawn before is where it was, or gone. -/
theorem inside_of_turn
    (turn : (sentSystem sessionHash).step hub.runtime (message, output) after)
    (fresh : ∀ subscriberId, message.drawnSubscriber? = some subscriberId →
      subscriberId ∉ hub.drawn) {subscriberId : SubId} {sessionId : SessionId}
    (before : subscriberId ∈ hub.drawn)
    (inside : after.state.Subscribed subscriberId sessionId) :
    hub.runtime.state.Subscribed subscriberId sessionId := by
  rcases subscribed_of_turn turn inside with earlier | ⟨drawn, _⟩
  · exact earlier
  · exact absurd before (fresh subscriberId drawn)

theorem HubInvariant.one_of_turn (inv : HubInvariant sessionHash hub)
    (turn : (sentSystem sessionHash).step hub.runtime (message, output) after)
    (fresh : ∀ subscriberId, message.drawnSubscriber? = some subscriberId →
      subscriberId ∉ hub.drawn) {subscriberId : SubId} {first second : SessionId}
    (firstIn : after.state.Subscribed subscriberId first)
    (secondIn : after.state.Subscribed subscriberId second) : first = second := by
  by_cases before : subscriberId ∈ hub.drawn
  · exact inv.one subscriberId first second (inside_of_turn turn fresh before firstIn)
      (inside_of_turn turn fresh before secondIn)
  · obtain ⟨shuffled, reorder, stateEq, _⟩ := runtimeSystem_turn turn.1
    have outside : ∀ sessionId, ¬ shuffled.Subscribed subscriberId sessionId :=
      fun sessionId inside => before (inv.known (reorder.subscribed_iff.mp inside))
    rw [stateEq] at firstIn secondIn
    cases occurs : message.kernelEvent? hub.runtime.state.tick with
    | none =>
        rw [occurs] at firstIn
        exact absurd firstIn (outside first)
    | some event =>
        rw [occurs] at firstIn secondIn
        rcases Subscribed.of_reduce firstIn with earlier | entersFirst
        · exact absurd earlier (outside first)
        · rcases Subscribed.of_reduce secondIn with earlier | entersSecond
          · exact absurd earlier (outside second)
          · rw [entersFirst] at entersSecond
            exact (Prod.mk.inj (Option.some.inj entersSecond)).2

/-- The invariant after the runtime processed a message: one connection may have changed, with the
subscriber that was registered for it, and commands may have left the inbox. -/
theorem HubInvariant.afterTurn (inv : HubInvariant sessionHash hub)
    (turn : (sentSystem sessionHash).step hub.runtime (message, output) after)
    (distinct : DistinctIds sessionHash after.state) (spoken : SpokenFor hub message)
    {number : Nat} {changed : SessionConnection SubId} {rest : List (Nat × SessionCommand SubId)}
    {drawn : List SubId} (grown : ∀ subscriberId ∈ hub.drawn, subscriberId ∈ drawn)
    (registers : ∀ subscriberId handle, message.registers? = some (subscriberId, handle) →
      handle = number ∧ changed.subscriber? = some subscriberId ∧ subscriberId ∈ drawn ∧
        subscriberId ∉ hub.drawn ∧ (hub.connection number).subscriber? = none)
    (otherwise : message.registers? = none → changed = hub.connection number)
    (speaks : ∀ sessionId subscriberId, changed.session? = some (sessionId, subscriberId) →
      changed = hub.connection number ∨
        message = .command (.sessionSubscribe sessionId number subscriberId))
    (sublist : rest.Sublist hub.inbox)
    (fits : ∀ command, (number, command) ∈ rest → Fits changed command)
    (leaves : ∀ other sessionId subscriberId,
      hub.connection other = .left sessionId subscriberId →
        (other, .unsubscribe sessionId subscriberId) ∈ hub.inbox →
          subscriberId ∈ after.registry.subscribers →
            (other, .unsubscribe sessionId subscriberId) ∈ rest)
    (stays : ∀ sessionId subscriberId, changed = .left sessionId subscriberId →
      changed = hub.connection number) :
    HubInvariant sessionHash
      { hub with
        runtime := after
        inbox := rest
        mail := hub.mail ++ output.resolved.flatMap deliveries
        connection := Function.update hub.connection number changed
        drawn := drawn } := by
  have fresh : ∀ subscriberId, message.drawnSubscriber? = some subscriberId →
      subscriberId ∉ hub.drawn := by
    intro subscriberId drawnNow
    rw [RuntimeMessage.drawnSubscriber?_eq] at drawnNow
    obtain ⟨⟨registered, handle⟩, found, rfl⟩ := Option.map_eq_some_iff.mp drawnNow
    exact (registers registered handle found).2.2.2.1
  have sameSubscriber : ∀ subscriberId, (hub.connection number).subscriber? =
      some subscriberId → changed = hub.connection number := by
    intro subscriberId has
    apply otherwise
    cases found : message.registers? with
    | none => rfl
    | some registered =>
        obtain ⟨_, _, _, _, without⟩ := registers registered.1 registered.2 found
        rw [has] at without
        cases without
  have keepsOwner : ∀ other subscriberId, (hub.connection other).subscriber? =
      some subscriberId → Function.update hub.connection number changed other =
        hub.connection other := by
    intro other subscriberId has
    by_cases same : other = number
    · subst same
      rw [Function.update_self, sameSubscriber subscriberId has]
    · exact Function.update_of_ne same _ _
  have owner : ∀ subscriberId other,
      hub.runtime.registry.subscribers.lookup subscriberId = some other ∨
          message.registers? = some (subscriberId, other) →
        (Function.update hub.connection number changed other).subscriber? =
          some subscriberId := by
    rintro subscriberId other (before | registered)
    · have has := inv.owner subscriberId other before
      rw [keepsOwner other subscriberId has, has]
    · obtain ⟨rfl, has, _⟩ := registers subscriberId other registered
      rw [Function.update_self, has]
  have one : ∀ subscriberId first second, after.state.Subscribed subscriberId first →
      after.state.Subscribed subscriberId second → first = second :=
    fun _ _ _ firstIn secondIn => inv.one_of_turn turn fresh firstIn secondIn
  exact
    { agree := inv.agree_of_turn turn distinct spoken
      generated := inv.generated_of_turn turn
      one := one
      owner := fun subscriberId other found => owner subscriberId other (handle_of_turn turn found)
      drawn := by
        intro other subscriberId has
        by_cases same : other = number
        · subst same
          simp only [Function.update_self] at has
          cases found : message.registers? with
          | none =>
              rw [otherwise found] at has
              exact grown subscriberId (inv.drawn other subscriberId has)
          | some registered =>
              obtain ⟨_, hasNow, inDrawn, _⟩ := registers registered.1 registered.2 found
              rw [has] at hasNow
              rw [Option.some.inj hasNow]
              exact inDrawn
        · simp only [Function.update_of_ne same] at has
          exact grown subscriberId (inv.drawn other subscriberId has)
      own := by
        intro other sessionId subscriberId speaking inside insideIn
        have before : (hub.connection other).session? = some (sessionId, subscriberId) →
            sessionId = inside := by
          intro spokeBefore
          have has := SessionConnection.subscriber?_of_session? spokeBefore
          exact inv.own other sessionId subscriberId spokeBefore inside
            (inside_of_turn turn fresh (inv.drawn other subscriberId has) insideIn)
        by_cases same : other = number
        · subst same
          simp only [Function.update_self] at speaking
          rcases speaks sessionId subscriberId speaking with unchanged | subscribes
          · exact before (unchanged ▸ speaking)
          · rcases subscribed_of_turn turn insideIn with earlier | ⟨_, named⟩
            · have known := inv.known earlier
              have drawnNow : message.drawnSubscriber? = some subscriberId := by
                rw [subscribes]
                rfl
              exact absurd known (fresh subscriberId drawnNow)
            · exact named other subscriberId sessionId subscribes
        · simp only [Function.update_of_ne same] at speaking
          exact before speaking
      fits := by
        rintro ⟨other, command⟩ waiting
        by_cases same : other = number
        · subst same
          simp only [Function.update_self]
          exact fits command waiting
        · simp only [Function.update_of_ne same]
          exact inv.fits _ (sublist.subset waiting)
      once := inv.once.sublist ((sublist.filter _).map _)
      told := by
        intro other message' arrives
        have earlier : (other, message') ∈ hub.mail ∨ message' ∈ hub.queue other →
            ∃ subscriberId, (Function.update hub.connection number changed other).subscriber? =
                some subscriberId ∧
              ∀ sessionId latest, message' = .subscribed sessionId latest →
                ∀ inside, after.state.Subscribed subscriberId inside → ⟨sessionId⟩ = inside := by
          intro before
          obtain ⟨subscriberId, has, named⟩ := inv.told other message' before
          refine ⟨subscriberId, by rw [keepsOwner other subscriberId has, has], ?_⟩
          intro sessionId latest same inside insideIn
          exact named sessionId latest same inside
            (inside_of_turn turn fresh (inv.drawn other subscriberId has) insideIn)
        rcases arrives with inMail | inQueue
        · rcases List.mem_append.mp inMail with before | now
          · exact earlier (.inl before)
          · obtain ⟨subscriberId, found, created⟩ := reached_of_turn turn now
            refine ⟨subscriberId, owner subscriberId other found, ?_⟩
            intro sessionId latest same inside insideIn
            exact one subscriberId _ _ (created sessionId latest same) insideIn
        · exact earlier (.inr inQueue)
      leaving := by
        intro other sessionId subscriberId hasLeft handle
        have before : hub.connection other = .left sessionId subscriberId := by
          by_cases same : other = number
          · subst same
            simp only [Function.update_self] at hasLeft
            rw [← stays sessionId subscriberId hasLeft, hasLeft]
          · simpa only [Function.update_of_ne same] using hasLeft
        refine leaves other sessionId subscriberId before ?_ handle
        obtain ⟨inside, insideIn⟩ :=
          (inv.agree_of_turn turn distinct spoken subscriberId).mp handle
        have has : (hub.connection other).subscriber? = some subscriberId := by rw [before]; rfl
        exact inv.leaving other sessionId subscriberId before ((inv.agree subscriberId).mpr
          ⟨inside, inside_of_turn turn fresh (inv.drawn other subscriberId has) insideIn⟩) }

omit [LinearOrder WId] [DecidableEq SId] [DecidableEq SubId] [ToString WId] [ToString SId] in
/-- What waits in the inbox is said in the name of the connection's own subscriber. -/
theorem spokenFor_of_fits {number : Nat} {command : SessionCommand SubId} {drawn : SubId}
    (fits : Fits (hub.connection number) command) :
    SpokenFor hub (command.message WId SId WH SH number drawn) := by
  intro output subscriberId sessionId addressee
  cases command with
  | heartbeat addressed beating =>
      obtain ⟨rfl, rfl⟩ := Prod.mk.inj (Option.some.inj addressee)
      exact ⟨number, fits⟩
  | unsubscribe addressed leaving =>
      obtain ⟨rfl, rfl⟩ := Prod.mk.inj (Option.some.inj addressee)
      have left : hub.connection number = .left addressed leaving := fits
      exact ⟨number, by rw [left]; rfl⟩
  | _ => cases addressee

omit [LinearOrder WId] [DecidableEq SId] [ToString WId] [ToString SId] in
/-- Behind a registration no other one of the same connection waits. -/
theorem HubInvariant.other_of_behind (inv : HubInvariant sessionHash hub) {number : Nat}
    {command behind : SessionCommand SubId} {rest : List (Nat × SessionCommand SubId)}
    (first : hub.inbox = (number, command) :: rest) (registration : command.isRegistration = true)
    (waits : (number, behind) ∈ rest) : behind.isRegistration = false := by
  have once := inv.once
  rw [first, List.filter_cons_of_pos (by exact registration), List.map_cons,
    List.nodup_cons] at once
  by_contra again
  have filtered : (number, behind) ∈ rest.filter fun entry => entry.2.isRegistration :=
    List.mem_filter.mpr ⟨waits, by simpa using again⟩
  exact once.1 (List.mem_map.mpr ⟨(number, behind), filtered, rfl⟩)

/-- The runtime processes the next command of a websocket. -/
theorem HubInvariant.processes (inv : HubInvariant sessionHash hub) {number : Nat}
    {command : SessionCommand SubId} {rest : List (Nat × SessionCommand SubId)} {drawn : SubId}
    {output : RuntimeOutput WId SId SubId WH SH Nat}
    {after : GatewayRuntime WId SId SubId WH SH Nat} {changed : SessionConnection SubId}
    (first : hub.inbox = (number, command) :: rest) (fresh : drawn ∉ hub.drawn)
    (turn : (sentSystem sessionHash).step hub.runtime
      (command.message WId SId WH SH number drawn, output) after)
    (distinct : DistinctIds sessionHash after.state)
    (became : Answered drawn (hub.connection number) command changed) :
    HubInvariant sessionHash
      { hub with
        runtime := after
        inbox := rest
        mail := hub.mail ++ output.resolved.flatMap deliveries
        connection := Function.update hub.connection number changed
        drawn := drawn :: hub.drawn } := by
  have fits : Fits (hub.connection number) command :=
    inv.fits (number, command) (by rw [first]; exact List.mem_cons_self)
  have behind : ∀ entry ∈ rest, Fits (hub.connection entry.1) entry.2 := fun entry waits =>
    inv.fits entry (by rw [first]; exact List.mem_cons_of_mem _ waits)
  apply inv.afterTurn turn distinct (spokenFor_of_fits fits)
  case grown => exact fun subscriberId known => List.mem_cons_of_mem drawn known
  case registers =>
    intro subscriberId handle registered
    rw [SessionCommand.registers?_message] at registered
    split at registered
    · rename_i registration
      obtain ⟨rfl, rfl⟩ := Prod.mk.inj (Option.some.inj registered)
      refine ⟨rfl, ?_, List.mem_cons_self, fresh, fits.subscriber?_eq_none registration⟩
      cases became with
      | created => rfl
      | joined sessionId => rfl
      | failed sessionId => rfl
      | ignored other => rw [registration] at other; cases other
    · cases registered
  case otherwise =>
    intro noRegistration
    cases became with
    | ignored other => rfl
    | _ => cases noRegistration
  case speaks =>
    intro sessionId subscriberId speaking
    cases became with
    | created => cases speaking
    | joined sessionId =>
        obtain ⟨rfl, rfl⟩ := Prod.mk.inj (Option.some.inj speaking)
        exact .inr rfl
    | failed sessionId => cases speaking
    | ignored other => exact .inl rfl
  case sublist => exact first ▸ List.sublist_cons_self _ rest
  case fits =>
    intro waiting waits
    have before := behind (number, waiting) waits
    cases became with
    | ignored other => exact before
    | created =>
        exact before.of_no_subscriber (fits.subscriber?_eq_none rfl)
          (inv.other_of_behind first rfl waits)
    | joined sessionId =>
        exact before.of_no_subscriber (fits.subscriber?_eq_none rfl)
          (inv.other_of_behind first rfl waits)
    | failed sessionId =>
        exact before.of_no_subscriber (fits.subscriber?_eq_none rfl)
          (inv.other_of_behind first rfl waits)
  case leaves =>
    intro other sessionId subscriberId hasLeft waits stays
    rw [first] at waits
    rcases List.mem_cons.mp waits with now | later
    · -- the command that was processed took the subscriber out of its session
      obtain ⟨rfl, rfl⟩ := Prod.mk.inj now
      obtain ⟨inside, insideIn⟩ :=
        (inv.agree_of_turn turn distinct (spokenFor_of_fits fits) subscriberId).mp stays
      have has : (hub.connection other).subscriber? = some subscriberId := by rw [hasLeft]; rfl
      have speaking : (hub.connection other).session? = some (sessionId, subscriberId) := by
        rw [hasLeft]
        rfl
      have insideBefore := inside_of_turn turn (fun _ drawnNow => by cases drawnNow)
        (inv.drawn other subscriberId has) insideIn
      obtain rfl := inv.own other sessionId subscriberId speaking inside insideBefore
      exact absurd insideIn (not_subscribed_of_unsubscribe turn)
    · exact later
  case stays =>
    intro sessionId subscriberId hasLeft
    cases became with
    | ignored other => rfl
    | _ => cases hasLeft

/-- The runtime receives a message that is not from a session websocket. -/
theorem HubInvariant.passes (inv : HubInvariant sessionHash hub)
    {message : RuntimeMessage WId SId SubId WH SH Nat}
    {output : RuntimeOutput WId SId SubId WH SH Nat}
    {after : GatewayRuntime WId SId SubId WH SH Nat} (other : message.IsOther)
    (turn : (sentSystem sessionHash).step hub.runtime (message, output) after)
    (distinct : DistinctIds sessionHash after.state) :
    HubInvariant sessionHash
      { hub with
        runtime := after
        mail := hub.mail ++ output.resolved.flatMap deliveries } := by
  have registersNone : message.registers? = none := by
    cases message with
    | event event => rfl
    | command command => cases command <;> first | rfl | exact other.elim
  have spoken : SpokenFor hub message := by
    intro output subscriberId sessionId addressee
    cases message with
    | event event => cases addressee
    | command command => cases command <;> first | exact other.elim | cases addressee
  have kept : HubInvariant sessionHash
      { hub with
        runtime := after
        mail := hub.mail ++ output.resolved.flatMap deliveries
        connection := Function.update hub.connection 0 (hub.connection 0) } :=
    inv.afterTurn turn distinct spoken (fun _ known => known) (by simp [registersNone])
      (fun _ => rfl) (fun _ _ _ => .inl rfl) (List.Sublist.refl _)
      (fun command waits => inv.fits (0, command) waits) (fun _ _ _ _ waits _ => waits)
      (fun _ _ _ => rfl)
  rwa [Function.update_eq_self] at kept

end AfterTurn

omit [LinearOrder WId] [DecidableEq SId] [ToString WId] [ToString SId] in
/-- A message that was sent reaches the channel of its connection. -/
theorem HubInvariant.delivers (inv : HubInvariant sessionHash hub) {number : Nat}
    {message : SessionGatewayMessage} {earlier later : List (Nat × SessionGatewayMessage)}
    (sent : hub.mail = earlier ++ (number, message) :: later) :
    HubInvariant sessionHash
      { hub with
        mail := earlier ++ later
        queue := Function.update hub.queue number (hub.queue number ++ [message]) } where
  agree := inv.agree
  generated := inv.generated
  one := inv.one
  owner := inv.owner
  drawn := inv.drawn
  own := inv.own
  fits := inv.fits
  once := inv.once
  told other told arrives := by
    apply inv.told other told
    rw [sent]
    rcases arrives with inMail | inQueue
    · rcases List.mem_append.mp inMail with before | after
      · exact .inl (List.mem_append_left _ before)
      · exact .inl (List.mem_append_right _ (List.mem_cons_of_mem _ after))
    · by_cases same : other = number
      · subst same
        simp only [Function.update_self, List.mem_append, List.mem_singleton] at inQueue
        rcases inQueue with before | rfl
        · exact .inr before
        · exact .inl (List.mem_append_right _ List.mem_cons_self)
      · simp only [Function.update_of_ne same] at inQueue
        exact .inr inQueue
  leaving := inv.leaving

omit [LinearOrder WId] [DecidableEq SId] [DecidableEq SubId] [ToString WId] [ToString SId] in
/-- A handler reads from its channel what was there. -/
theorem Offers.subset {queue rest : List SessionGatewayMessage} {event : ConnectionEvent SubId}
    (offered : Offers queue rest event) : rest ⊆ queue := by
  cases event with
  | message received =>
      cases received with
      | none => exact offered.2 ▸ List.nil_subset _
      | some message =>
          have first : queue = message :: rest := offered
          exact first ▸ List.subset_cons_self message rest
  | created answer => exact offered.elim
  | subscribed answer => exact offered.elim
  | _ => exact (show rest = queue from offered) ▸ List.Subset.refl rest

omit [LinearOrder WId] [DecidableEq SId] [DecidableEq SubId] [ToString WId] [ToString SId] in
/-- A reaction changes nothing about whose connection it is. -/
theorem Reacted.subscriber? {event : ConnectionEvent SubId}
    {connection next : SessionConnection SubId} {command : Option (SessionCommand SubId)}
    (reacted : Reacted event connection next command) :
    next.subscriber? = connection.subscriber? := by
  cases reacted <;> rfl

omit [LinearOrder WId] [DecidableEq SId] [DecidableEq SubId] [ToString WId] [ToString SId] in
/-- What waits still fits after a reaction. -/
theorem Reacted.fits {event : ConnectionEvent SubId} {connection next : SessionConnection SubId}
    {command : Option (SessionCommand SubId)} (reacted : Reacted event connection next command)
    {waiting : SessionCommand SubId} (fits : Fits connection waiting) : Fits next waiting := by
  cases reacted with
  | leaves sessionId subscriberId =>
      cases waiting with
      | append addressed payload => trivial
      | heartbeat addressed beating => exact fits
      | _ => cases fits
  | works work => exact fits
  | _ =>
      cases waiting with
      | append addressed payload => trivial
      | _ => cases fits

omit [LinearOrder WId] [DecidableEq SId] [DecidableEq SubId] [ToString WId] [ToString SId] in
/-- What a reaction asks of the runtime fits the connection after it; a registration is the first
thing that is asked. -/
theorem Reacted.asks {event : ConnectionEvent SubId} {connection next : SessionConnection SubId}
    {asked : SessionCommand SubId} (reacted : Reacted event connection next (some asked)) :
    Fits next asked ∧ (asked.isRegistration = true → connection = .handshake) := by
  cases reacted with
  | creates => exact ⟨rfl, fun _ => rfl⟩
  | subscribes sessionId => exact ⟨rfl, fun _ => rfl⟩
  | works work =>
      rcases work asked rfl with ⟨payload, rfl⟩ | rfl
      · exact ⟨trivial, fun registration => by cases registration⟩
      · exact ⟨rfl, fun registration => by cases registration⟩
  | leaves sessionId subscriberId => exact ⟨rfl, fun registration => by cases registration⟩

omit [LinearOrder WId] [DecidableEq SId] [DecidableEq SubId] [ToString WId] [ToString SId] in
/-- A connection speaks in the name that it had, or in that of the session it was told of. -/
theorem Reacted.session? {event : ConnectionEvent SubId} {connection next : SessionConnection SubId}
    {command : Option (SessionCommand SubId)} (reacted : Reacted event connection next command)
    {sessionId : SessionId} {subscriberId : SubId}
    (speaking : next.session? = some (sessionId, subscriberId)) :
    connection.session? = some (sessionId, subscriberId) ∨
      connection = .awaitingSubscribed subscriberId ∧
        ∃ latest, event = .message (some (.subscribed sessionId.value latest)) := by
  cases reacted with
  | announces told =>
      obtain ⟨rfl, rfl⟩ := Prod.mk.inj (Option.some.inj speaking)
      exact .inr ⟨rfl, _, told⟩
  | works work => exact .inl speaking
  | leaves sessionId subscriberId => exact .inl speaking
  | _ => cases speaking

omit [LinearOrder WId] [DecidableEq SId] [DecidableEq SubId] [ToString WId] [ToString SId] in
/-- A handler that leaves its loop unsubscribes. -/
theorem Reacted.left {event : ConnectionEvent SubId} {connection : SessionConnection SubId}
    {command : Option (SessionCommand SubId)} {sessionId : SessionId} {subscriberId : SubId}
    (reacted : Reacted event connection (.left sessionId subscriberId) command) :
    command = some (.unsubscribe sessionId subscriberId) := by
  cases reacted
  rfl

omit [LinearOrder WId] [DecidableEq SId] [ToString WId] [ToString SId] in
/-- A handler reacts to an event. -/
theorem HubInvariant.reacts (inv : HubInvariant sessionHash hub) {number : Nat}
    {event : ConnectionEvent SubId} {rest : List SessionGatewayMessage}
    {next : SessionConnection SubId} {command : Option (SessionCommand SubId)}
    (offered : Offers (hub.queue number) rest event)
    (reacted : Reacted event (hub.connection number) next command) :
    HubInvariant sessionHash
      { hub with
        inbox := hub.inbox ++ command.toList.map fun command => (number, command)
        queue := Function.update hub.queue number rest
        connection := Function.update hub.connection number next } := by
  have keepsSubscriber : ∀ other, (Function.update hub.connection number next other).subscriber? =
      (hub.connection other).subscriber? := by
    intro other
    by_cases same : other = number
    · subst same
      rw [Function.update_self, reacted.subscriber?]
    · rw [Function.update_of_ne same]
  have asks : ∀ entry ∈ command.toList.map fun command => (number, command),
      entry.1 = number ∧ command = some entry.2 := by
    intro entry waits
    obtain ⟨asked, member, rfl⟩ := List.mem_map.mp waits
    exact ⟨rfl, Option.mem_toList.mp member⟩
  exact
    { agree := inv.agree
      generated := inv.generated
      one := inv.one
      owner := fun subscriberId other found =>
        (keepsSubscriber other).trans (inv.owner subscriberId other found)
      drawn := fun other subscriberId has =>
        inv.drawn other subscriberId ((keepsSubscriber other).symm.trans has)
      own := by
        intro other sessionId subscriberId speaking inside insideIn
        by_cases same : other = number
        · subst same
          simp only [Function.update_self] at speaking
          rcases reacted.session? speaking with before | ⟨waited, latest, rfl⟩
          · exact inv.own other sessionId subscriberId before inside insideIn
          · -- it was told of its session, and only of the one that it created
            have first : hub.queue other = .subscribed sessionId.value latest :: rest := offered
            obtain ⟨told, has, named⟩ := inv.told other (.subscribed sessionId.value latest)
              (.inr (by rw [first]; exact List.mem_cons_self))
            rw [waited] at has
            obtain rfl := Option.some.inj has
            exact named sessionId.value latest rfl inside insideIn
        · simp only [Function.update_of_ne same] at speaking
          exact inv.own other sessionId subscriberId speaking inside insideIn
      fits := by
        rintro ⟨other, waiting⟩ waits
        have before : Fits (hub.connection other) waiting →
            Fits (Function.update hub.connection number next other) waiting := by
          intro fits
          by_cases same : other = number
          · subst same
            rw [Function.update_self]
            exact reacted.fits fits
          · rwa [Function.update_of_ne same]
        rcases List.mem_append.mp waits with old | new
        · exact before (inv.fits (other, waiting) old)
        · obtain ⟨rfl, rfl⟩ := asks (other, waiting) new
          simp only [Function.update_self]
          exact reacted.asks.1
      once := by
        rw [List.filter_append, List.map_append]
        refine inv.once.append ?_ ?_
        · cases command with
          | none => exact List.nodup_nil
          | some asked => exact (List.nodup_singleton number).sublist (List.filter_sublist.map _)
        · intro other old new
          obtain ⟨⟨_, waiting⟩, oldMember, rfl⟩ := List.mem_map.mp old
          obtain ⟨⟨_, asked⟩, newMember, same⟩ := List.mem_map.mp new
          obtain ⟨isNew, registration⟩ := List.mem_filter.mp newMember
          obtain ⟨waits, again⟩ := List.mem_filter.mp oldMember
          obtain ⟨rfl, rfl⟩ := asks _ isNew
          have fits := inv.fits _ waits
          rw [← same, reacted.asks.2 registration] at fits
          cases waiting with
          | create => cases fits
          | subscribe sessionId => cases fits
          | _ => cases again
      told := by
        intro other message arrives
        simp only [keepsSubscriber]
        apply inv.told other message
        refine arrives.imp_right fun inQueue => ?_
        by_cases same : other = number
        · subst same
          simp only [Function.update_self] at inQueue
          exact offered.subset inQueue
        · simpa only [Function.update_of_ne same] using inQueue
      leaving := by
        intro other sessionId subscriberId hasLeft handle
        by_cases same : other = number
        · subst same
          simp only [Function.update_self] at hasLeft
          subst hasLeft
          rw [reacted.left]
          exact List.mem_append_right _ List.mem_cons_self
        · simp only [Function.update_of_ne same] at hasLeft
          exact List.mem_append_left _ (inv.leaving other sessionId subscriberId hasLeft handle) }

variable {parse : String → Option SessionClientMessage}

/-- One step of the hub keeps the invariant. -/
theorem HubInvariant.step {action : HubAction} {after : Hub WId SId SubId WH SH}
    (inv : HubInvariant sessionHash hub) (step : HubStep sessionHash parse hub action after)
    (distinct : DistinctIds sessionHash after.runtime.state) : HubInvariant sessionHash after := by
  cases step with
  | passes other turn => exact inv.passes other turn distinct
  | processes sends first fresh turn =>
      have fits := inv.fits _ (by rw [first]; exact List.mem_cons_self)
      exact inv.processes first fresh turn distinct (answered_of_turn turn fits sends)
  | delivers sent => exact inv.delivers sent
  | reacts offered reaction => exact inv.reacts offered (reacted_of_react offered reaction)

/-- Ids that are distinct after a step are distinct before it. -/
theorem DistinctIds.of_hubStep {action : HubAction} {after : Hub WId SId SubId WH SH}
    (step : HubStep sessionHash parse hub action after)
    (distinct : DistinctIds sessionHash after.runtime.state) :
    DistinctIds sessionHash hub.runtime.state := by
  have earlier : ∀ {message : RuntimeMessage WId SId SubId WH SH Nat}
      {output : RuntimeOutput WId SId SubId WH SH Nat}
      {runtime : GatewayRuntime WId SId SubId WH SH Nat},
      (sentSystem sessionHash).step hub.runtime (message, output) runtime →
        DistinctIds sessionHash runtime.state → DistinctIds sessionHash hub.runtime.state := by
    intro message output runtime turn distinct
    obtain ⟨shuffled, reorder, stateEq, _⟩ := runtimeSystem_turn turn.1
    exact DistinctIds.of_turn reorder (stateEq ▸ distinct)
  cases step with
  | passes other turn => exact earlier turn distinct
  | processes sends first fresh turn => exact earlier turn distinct
  | delivers sent => exact distinct
  | reacts offered reaction => exact distinct

/-! ### Runs -/

variable {trace : List HubAction}

/-- The invariant holds in every run in which the generated session ids are distinct. -/
theorem hubExecution_invariant (run : (hubSystem sessionHash parse).Execution trace hub)
    (distinct : DistinctIds sessionHash hub.runtime.state) : HubInvariant sessionHash hub := by
  induction run with
  | start initial =>
      obtain ⟨runtimeId, workerTtl, streamTtl, subscriberTtl, rfl⟩ := initial
      exact
        { agree := by
            intro subscriberId
            refine ⟨fun known => absurd known (AList.notMem_empty subscriberId), ?_⟩
            rintro ⟨sessionId, session, found, _⟩
            cases found
          generated := fun sessionId member => absurd member (AList.notMem_empty sessionId)
          one := by
            rintro subscriberId first second ⟨session, found, _⟩
            cases found
          owner := fun subscriberId number found => by cases found
          drawn := fun number subscriberId has => by cases has
          own := fun number sessionId subscriberId speaking => by cases speaking
          fits := fun entry waits => by cases waits
          once := List.nodup_nil
          told := by
            rintro number message (inMail | inQueue)
            · cases inMail
            · cases inQueue
          leaving := fun number sessionId subscriberId hasLeft => by cases hasLeft }
  | step run step ih => exact (ih (distinct.of_hubStep step)).step step distinct

/-- With its websockets the gateway keeps its registry and its kernel in agreement on subscribers,
whatever the clients send and in whatever order it arrives: the handlers address their commands to
the sessions that their subscribers are in. -/
theorem hub_registry_agrees (run : (hubSystem sessionHash parse).Execution trace hub)
    (distinct : DistinctIds sessionHash hub.runtime.state) : SubscribersAgree hub.runtime :=
  (hubExecution_invariant run distinct).agree

/-- Every subscriber that is in a session has a connection which accounts for it: its handler waits
to be told the session or serves it, or it has left and its goodbye is on the way, or it returned
before its loop, and this is the only way for a subscriber to outlive its connection. -/
theorem hub_subscribers_accounted (run : (hubSystem sessionHash parse).Execution trace hub)
    (distinct : DistinctIds sessionHash hub.runtime.state) {subscriberId : SubId}
    {sessionId : SessionId} (inside : hub.runtime.state.Subscribed subscriberId sessionId) :
    ∃ number, hub.runtime.registry.subscribers.lookup subscriberId = some number ∧
      (hub.connection number = .awaitingSubscribed subscriberId ∨
        hub.connection number = .connected sessionId subscriberId ∨
        hub.connection number = .left sessionId subscriberId ∧
          (number, .unsubscribe sessionId subscriberId) ∈ hub.inbox ∨
        hub.connection number = .returned subscriberId) := by
  have inv := hubExecution_invariant run distinct
  have handle := (inv.agree subscriberId).mpr ⟨sessionId, inside⟩
  obtain ⟨number, found⟩ := AssocMap.mem_iff_lookup.mp handle
  refine ⟨number, found, ?_⟩
  have has := inv.owner subscriberId number found
  have own : ∀ named, (hub.connection number).session? = some (named, subscriberId) →
      named = sessionId := fun named speaking =>
    inv.own number named subscriberId speaking sessionId inside
  cases connection : hub.connection number with
  | awaitingSubscribed awaiting =>
      rw [connection] at has
      exact .inl (congrArg _ (Option.some.inj has))
  | connected named serving =>
      rw [connection] at has own
      obtain rfl := Option.some.inj has
      rw [own named rfl]
      exact .inr (.inl rfl)
  | left named leaving =>
      rw [connection] at has own
      obtain rfl := Option.some.inj has
      obtain rfl := own named rfl
      exact .inr (.inr (.inl ⟨rfl, inv.leaving number named _ connection handle⟩))
  | returned gone =>
      rw [connection] at has
      exact .inr (.inr (.inr (congrArg _ (Option.some.inj has))))
  | _ =>
      rw [connection] at has
      cases has

end Invariant

/-- A client creates a session, and the runtime has processed its command. -/
theorem creator_run :
    ∃ hub : Hub Nat Nat Nat Nat Nat,
      (hubSystem (fun _ counter => counter) fun _ => some .create).Execution
          [.reacts 0, .processes] hub ∧
        DistinctIds (fun _ counter => counter) hub.runtime.state ∧
          hub.runtime.state.Subscribed 3 firstSession := by
  have start : (hubSystem (fun _ counter => counter) fun _ => some .create).Execution []
      (Hub.start Nat Nat Nat Nat Nat 0 60 30 30) := .start ⟨0, 60, 30, 30, rfl⟩
  have offered : Offers ((Hub.start Nat Nat Nat Nat Nat 0 60 30 30).queue 0) []
      (.socket (.text "create") : ConnectionEvent Nat) := rfl
  have reaction : react (fun _ => some .create)
      ((Hub.start Nat Nat Nat Nat Nat 0 60 30 30).connection 0) (.socket (.text "create")) true =
        some (.creating, { command := some .create, frame := none }) := rfl
  have greeted := start.step (HubStep.reacts offered reaction)
  have fresh : 3 ∉ (Hub.start Nat Nat Nat Nat Nat 0 60 30 30).drawn := List.not_mem_nil
  have created := greeted.step (HubStep.processes true rfl fresh
    (sentSystem_processMessage _ _ _ trivial (AList.notMem_empty 3)))
  refine ⟨_, created, ?_, ?_⟩
  · intro first firstLess second secondLess _
    have firstZero : first < 1 := firstLess
    have secondZero : second < 1 := secondLess
    omega
  · exact subscribed_of_requested

/-- After the client has created its session, both sides know its subscriber. -/
theorem creator_agrees :
    ∃ hub : Hub Nat Nat Nat Nat Nat,
      (hubSystem (fun _ counter => counter) fun _ => some .create).Execution
          [.reacts 0, .processes] hub ∧ SubscribersAgree hub.runtime := by
  obtain ⟨hub, run, distinct, _⟩ := creator_run
  exact ⟨hub, run, hub_registry_agrees run distinct⟩

/-- The client's connection accounts for its subscriber. -/
theorem creator_accounted :
    ∃ hub : Hub Nat Nat Nat Nat Nat,
      hub.runtime.state.Subscribed 3 firstSession ∧
        ∃ number, hub.runtime.registry.subscribers.lookup 3 = some number ∧
          (hub.connection number = .awaitingSubscribed 3 ∨
            hub.connection number = .connected firstSession 3 ∨
            hub.connection number = .left firstSession 3 ∧
              (number, .unsubscribe firstSession 3) ∈ hub.inbox ∨
            hub.connection number = .returned 3) := by
  obtain ⟨hub, run, distinct, inside⟩ := creator_run
  exact ⟨hub, inside, hub_subscribers_accounted run distinct inside⟩

end ProstheticConscience.Gateway
