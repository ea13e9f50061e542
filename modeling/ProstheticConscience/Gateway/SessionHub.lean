/-
Module: ProstheticConscience.Gateway.SessionHub
Purpose: The gateway runtime together with the handlers of all session websockets: commands wait in
  the runtime's channel, and what effects send to a subscriber reaches the handler's channel in any
  order.  A handler that awaits an answer takes it in the step that gives it.
Trusted boundary: none
Main exports: Hub, HubStep, hubSystem, resolveEffects_reaches, subscribed_of_turn, reached_of_turn,
  reacted_of_react
-/
import ProstheticConscience.Gateway.SessionLog
import ProstheticConscience.Gateway.SubscriberRegistry
import ProstheticConscience.Gateway.SessionConnection

namespace ProstheticConscience.Gateway

open Consensus

variable {WId SId SubId WH SH : Type}

/-- The gateway with its websockets, which are numbered; the handle of a subscriber is the number
of its connection. -/
structure Hub (WId SId SubId WH SH : Type) where
  runtime : GatewayRuntime WId SId SubId WH SH Nat
  /-- Commands that the runtime has not yet received, each from a connection. -/
  inbox : List (Nat × SessionCommand SubId)
  /-- Messages that spawned effects have still to send to a connection. -/
  mail : List (Nat × SessionGatewayMessage)
  queue : Nat → List SessionGatewayMessage
  connection : Nat → SessionConnection SubId
  /-- The subscriber ids that were ever drawn. -/
  drawn : List SubId

/-- The message that a command is to the runtime; a registration draws an id. -/
def SessionCommand.message (WId SId WH SH : Type) (number : Nat) (drawn : SubId) :
    SessionCommand SubId → RuntimeMessage WId SId SubId WH SH Nat
  | .create => .command (.sessionCreate number drawn)
  | .subscribe sessionId => .command (.sessionSubscribe sessionId number drawn)
  | .append sessionId payload => .command (.sessionAppendEntry sessionId payload)
  | .heartbeat sessionId subscriberId =>
      .command (.sessionSubscriberHeartbeat sessionId subscriberId)
  | .unsubscribe sessionId subscriberId => .command (.sessionUnsubscribe sessionId subscriberId)

/-- What the answer of the runtime is to a handler. -/
def Reply.event? : Reply WId SId SubId → Option (ConnectionEvent SubId)
  | .subscriberId drawn => some (.created (some drawn))
  | .subscription answer => some (.subscribed (some answer))
  | _ => none

/-- What an executed effect sends to session websockets. -/
def deliveries : ResolvedEffect SId SubId WH SH Nat → List (Nat × SessionGatewayMessage)
  | .sessionCreated sessionId (_, number) => [(number, .subscribed sessionId.value none)]
  | .sessionEffect (.notifySubscribers entryIndex payload subscribers) =>
      subscribers.map fun (_, number) => (number, .entry entryIndex payload)
  | .sessionEffect (.subscriberRemoved (_, number)) => [(number, .subscriberRemoved)]
  | _ => []

/-- A message that no session websocket sends. -/
def RuntimeMessage.IsOther : RuntimeMessage WId SId SubId WH SH Nat → Prop
  | .command (.sessionCreate _ _) => False
  | .command (.sessionSubscribe _ _ _) => False
  | .command (.sessionSubscriberHeartbeat _ _) => False
  | .command (.sessionUnsubscribe _ _) => False
  | _ => True

/-- The connection after the runtime processed its command: a handler that awaits the answer
reacts to it. -/
def answered (parse : String → Option SessionClientMessage) (connection : SessionConnection SubId)
    (reply : Option (Reply WId SId SubId)) (sends : Bool) : SessionConnection SubId :=
  match reply.bind Reply.event? with
  | none => connection
  | some event =>
      match react parse connection event sends with
      | none => connection
      | some (next, _) => next

/-- A handler can see an event: the next message of its channel, or anything that is neither a
message nor an answer. -/
def Offers (queue rest : List SessionGatewayMessage) : ConnectionEvent SubId → Prop
  | .message (some message) => queue = message :: rest
  | .message none => queue = [] ∧ rest = []
  | .created _ => False
  | .subscribed _ => False
  | _ => rest = queue

inductive HubAction where
  /-- The runtime receives a message that is not from a session websocket. -/
  | passes
  /-- The runtime processes the next command of a session websocket. -/
  | processes
  | delivers
  | reacts (number : Nat)
deriving DecidableEq, Repr

section System

variable [LinearOrder WId] [DecidableEq SId] [DecidableEq SubId] [ToString WId] [ToString SId]
  (sessionHash : Nat → Nat → Nat) (parse : String → Option SessionClientMessage)

inductive HubStep : Hub WId SId SubId WH SH → HubAction → Hub WId SId SubId WH SH → Prop where
  | passes {hub : Hub WId SId SubId WH SH} {message : RuntimeMessage WId SId SubId WH SH Nat}
      {output : RuntimeOutput WId SId SubId WH SH Nat}
      {after : GatewayRuntime WId SId SubId WH SH Nat} (other : message.IsOther)
      (turn : (sentSystem sessionHash).step hub.runtime (message, output) after) :
      HubStep hub .passes
        { hub with
          runtime := after
          mail := hub.mail ++ output.resolved.flatMap deliveries }
  | processes {hub : Hub WId SId SubId WH SH} {number : Nat} {command : SessionCommand SubId}
      {rest : List (Nat × SessionCommand SubId)} {drawn : SubId}
      {output : RuntimeOutput WId SId SubId WH SH Nat}
      {after : GatewayRuntime WId SId SubId WH SH Nat} (sends : Bool)
      (first : hub.inbox = (number, command) :: rest) (fresh : drawn ∉ hub.drawn)
      (turn : (sentSystem sessionHash).step hub.runtime
        (command.message WId SId WH SH number drawn, output) after) :
      HubStep hub .processes
        { hub with
          runtime := after
          inbox := rest
          mail := hub.mail ++ output.resolved.flatMap deliveries
          connection :=
            Function.update hub.connection number
              (answered parse (hub.connection number) output.reply sends)
          drawn := drawn :: hub.drawn }
  | delivers {hub : Hub WId SId SubId WH SH} {number : Nat} {message : SessionGatewayMessage}
      {earlier later : List (Nat × SessionGatewayMessage)}
      (sent : hub.mail = earlier ++ (number, message) :: later) :
      HubStep hub .delivers
        { hub with
          mail := earlier ++ later
          queue := Function.update hub.queue number (hub.queue number ++ [message]) }
  | reacts {hub : Hub WId SId SubId WH SH} {number : Nat} {event : ConnectionEvent SubId}
      {sends : Bool} {rest : List SessionGatewayMessage} {next : SessionConnection SubId}
      {output : Output SubId} (offered : Offers (hub.queue number) rest event)
      (reaction : react parse (hub.connection number) event sends = some (next, output)) :
      HubStep hub (.reacts number)
        { hub with
          inbox := hub.inbox ++ output.command.toList.map fun command => (number, command)
          queue := Function.update hub.queue number rest
          connection := Function.update hub.connection number next }

/-- A gateway that was just started; no websocket has sent its first message yet. -/
def Hub.start (WId SId SubId WH SH : Type) (runtimeId workerTtl streamTtl subscriberTtl : Nat) :
    Hub WId SId SubId WH SH where
  runtime :=
    GatewayRuntime.new WId SId SubId WH SH Nat runtimeId workerTtl streamTtl subscriberTtl
  inbox := []
  mail := []
  queue _ := []
  connection _ := .handshake
  drawn := []

def hubSystem : TransitionSystem (Hub WId SId SubId WH SH) HubAction where
  init hub := ∃ runtimeId workerTtl streamTtl subscriberTtl,
    hub = Hub.start WId SId SubId WH SH runtimeId workerTtl streamTtl subscriberTtl
  step := HubStep sessionHash parse

end System

/-! ### Whom effects reach -/

section Reach

variable [DecidableEq WId] [DecidableEq SId] [DecidableEq SubId]

/-- One round of the loop reaches only connections whose subscriber has its handle, gives no
subscriber a handle, and tells of a subscription only the creator of a session. -/
structure RoundReaches (acc : Resolution WId SId SubId WH SH Nat)
    (effect : Effect WId SId SubId) : Prop where
  kept : ∀ subscriberId number,
    (resolveEffect acc effect).registry.subscribers.lookup subscriberId = some number →
      acc.registry.subscribers.lookup subscriberId = some number
  reached : ∃ more, (resolveEffect acc effect).resolved = acc.resolved ++ more ∧
    ∀ delivery ∈ more.flatMap deliveries, ∃ subscriberId,
      acc.registry.subscribers.lookup subscriberId = some delivery.1 ∧
        ∀ sessionId latest, delivery.2 = .subscribed sessionId latest →
          ∃ created, sessionId = SessionId.value created ∧
            effect = .sessionCreated created subscriberId

/-- An effect that concerns no subscriber reaches none. -/
theorem RoundReaches.of_silent {acc : Resolution WId SId SubId WH SH Nat}
    {effect : Effect WId SId SubId} (more : List (ResolvedEffect SId SubId WH SH Nat))
    (registryEq : (resolveEffect acc effect).registry.subscribers = acc.registry.subscribers)
    (resolvedEq : (resolveEffect acc effect).resolved = acc.resolved ++ more)
    (silent : more.flatMap deliveries = []) : RoundReaches acc effect where
  kept subscriberId number found := by rwa [registryEq] at found
  reached := ⟨more, resolvedEq, by simp [silent]⟩

theorem roundReaches (acc : Resolution WId SId SubId WH SH Nat) (effect : Effect WId SId SubId) :
    RoundReaches acc effect := by
  cases effect with
  | dispatchJob job =>
      cases worker : acc.registry.workers.lookup job.workerId with
      | none =>
          refine .of_silent [] ?_ ?_ rfl <;>
            simp [resolveEffect, ChannelRegistry.takeWorker, worker]
      | some workerHandle =>
          cases stream : acc.registry.streams.lookup job.clientStreamId with
          | none =>
              refine .of_silent [] ?_ ?_ rfl <;>
                simp [resolveEffect, ChannelRegistry.takeWorker, worker,
                  ChannelRegistry.cloneStream, stream]
          | some streamHandle =>
              refine .of_silent [.dispatchJob
                { workerId := workerHandle
                  clientStreamId := (job.clientStreamId, streamHandle)
                  capability := job.capability
                  payload := job.payload }] ?_ ?_ rfl <;>
                simp [resolveEffect, ChannelRegistry.takeWorker, worker,
                  ChannelRegistry.cloneStream, stream]
  | sendClientError error =>
      cases stream : acc.registry.streams.lookup error.clientStreamId with
      | none =>
          refine .of_silent [] ?_ ?_ rfl <;>
            simp [resolveEffect, ChannelRegistry.cloneStream, stream]
      | some streamHandle =>
          refine .of_silent [.sendClientError
            { clientStreamId := (error.clientStreamId, streamHandle)
              message := error.message }] ?_ ?_ rfl <;>
            simp [resolveEffect, ChannelRegistry.cloneStream, stream]
  | sendClientDone done =>
      cases stream : acc.registry.streams.lookup done.clientStreamId with
      | none =>
          refine .of_silent [] ?_ ?_ rfl <;>
            simp [resolveEffect, ChannelRegistry.takeStream, stream]
      | some streamHandle =>
          refine .of_silent [.sendClientDone
            { clientStreamId := (done.clientStreamId, streamHandle) }] ?_ ?_ rfl <;>
            simp [resolveEffect, ChannelRegistry.takeStream, stream]
  | protocolViolation violation => exact .of_silent [_] rfl rfl rfl
  | sessionExpired sessionId entries => exact .of_silent [_] rfl rfl rfl
  | sessionCreated sessionId creator =>
      cases handle : acc.registry.subscribers.lookup creator with
      | none =>
          refine .of_silent [] ?_ ?_ rfl <;>
            simp [resolveEffect, ChannelRegistry.cloneSubscriber, handle]
      | some number =>
          have resolvedEq : resolveEffect acc (.sessionCreated sessionId creator) =
              { acc with
                resolved := acc.resolved ++ [.sessionCreated sessionId (creator, number)] } := by
            simp [resolveEffect, ChannelRegistry.cloneSubscriber, handle]
          refine ⟨fun subscriberId other found => by rwa [resolvedEq] at found,
            [.sessionCreated sessionId (creator, number)], by rw [resolvedEq], ?_⟩
          intro delivery member
          obtain rfl : delivery = (number, .subscribed sessionId.value none) := by
            simpa [deliveries] using member
          refine ⟨creator, handle, fun told latest same => ?_⟩
          cases same
          exact ⟨sessionId, rfl, rfl⟩
  | sessionEffect effect =>
      cases effect with
      | notifySubscribers entryIndex payload recipients =>
          by_cases nobody : (recipients.filterMap fun recipient =>
              (acc.registry.subscribers.lookup recipient).map fun number =>
                (recipient, number)).isEmpty = true
          · have resolvedEq : resolveEffect acc
                (.sessionEffect (.notifySubscribers entryIndex payload recipients)) = acc :=
              if_pos nobody
            refine .of_silent [] ?_ ?_ rfl <;> simp [resolvedEq]
          · have resolvedEq := congrArg Resolution.resolved
              (show resolveEffect acc
                (.sessionEffect (.notifySubscribers entryIndex payload recipients)) = _ from
                if_neg nobody)
            refine ⟨fun subscriberId number found => ?_, _, resolvedEq, ?_⟩
            · rwa [show resolveEffect acc
                (.sessionEffect (.notifySubscribers entryIndex payload recipients)) = _ from
                if_neg nobody] at found
            · intro delivery member
              simp only [List.flatMap_singleton, deliveries, List.mem_map, List.mem_filterMap,
                Option.map_eq_some_iff] at member
              obtain ⟨_, ⟨recipient, _, number, found, rfl⟩, rfl⟩ := member
              exact ⟨recipient, found, fun told latest same => by cases same⟩
      | subscriberRemoved removed =>
          cases handle : acc.registry.subscribers.lookup removed with
          | none =>
              refine .of_silent [] ?_ ?_ rfl <;>
                simp [resolveEffect, ChannelRegistry.takeSubscriber, handle]
          | some number =>
              refine ⟨fun subscriberId other found => ?_,
                [.sessionEffect (.subscriberRemoved (removed, number))], ?_, ?_⟩
              · simp only [resolveEffect, ChannelRegistry.takeSubscriber, handle] at found
                by_cases same : subscriberId = removed
                · rw [same, AList.lookup_erase] at found
                  cases found
                · rwa [AList.lookup_erase_ne same] at found
              · simp [resolveEffect, ChannelRegistry.takeSubscriber, handle]
              · intro delivery member
                obtain rfl : delivery = (number, .subscriberRemoved) := by
                  simpa [deliveries] using member
                exact ⟨removed, handle, fun told latest same => by cases same⟩

/-- The loop reaches only connections whose subscriber had its handle before it, and gives no
subscriber a handle. -/
theorem resolveEffects_reaches (registry : ChannelRegistry WId SId SubId WH SH Nat)
    (effects : List (Effect WId SId SubId)) :
    (∀ subscriberId number,
        (resolveEffects registry effects).registry.subscribers.lookup subscriberId =
          some number → registry.subscribers.lookup subscriberId = some number) ∧
      ∀ delivery ∈ (resolveEffects registry effects).resolved.flatMap deliveries,
        ∃ subscriberId, registry.subscribers.lookup subscriberId = some delivery.1 ∧
          ∀ sessionId latest, delivery.2 = .subscribed sessionId latest →
            ∃ created, sessionId = SessionId.value created ∧
              .sessionCreated created subscriberId ∈ effects := by
  suffices loop : ∀ acc : Resolution WId SId SubId WH SH Nat,
      (∀ subscriberId number,
          (effects.foldl resolveEffect acc).registry.subscribers.lookup subscriberId =
            some number → acc.registry.subscribers.lookup subscriberId = some number) ∧
        ∃ more, (effects.foldl resolveEffect acc).resolved = acc.resolved ++ more ∧
          ∀ delivery ∈ more.flatMap deliveries, ∃ subscriberId,
            acc.registry.subscribers.lookup subscriberId = some delivery.1 ∧
              ∀ sessionId latest, delivery.2 = .subscribed sessionId latest →
                ∃ created, sessionId = SessionId.value created ∧
                  .sessionCreated created subscriberId ∈ effects by
    obtain ⟨kept, more, resolvedEq, reached⟩ := loop { registry, resolved := [], fallbacks := [] }
    refine ⟨kept, ?_⟩
    rw [List.nil_append] at resolvedEq
    rw [resolveEffects, resolvedEq]
    exact reached
  induction effects with
  | nil =>
      intro acc
      exact ⟨fun _ _ found => found, [], (List.append_nil _).symm, by simp⟩
  | cons effect rest ih =>
      intro acc
      obtain ⟨keptNow, now, nowEq, reachedNow⟩ := roundReaches acc effect
      obtain ⟨keptLater, later, laterEq, reachedLater⟩ := ih (resolveEffect acc effect)
      refine ⟨fun subscriberId number found =>
        keptNow subscriberId number (keptLater subscriberId number found), now ++ later, ?_, ?_⟩
      · rw [List.foldl_cons, laterEq, nowEq, List.append_assoc]
      · intro delivery member
        rw [List.flatMap_append, List.mem_append] at member
        rcases member with inNow | inLater
        · obtain ⟨subscriberId, found, told⟩ := reachedNow delivery inNow
          refine ⟨subscriberId, found, fun sessionId latest same => ?_⟩
          obtain ⟨created, named, rfl⟩ := told sessionId latest same
          exact ⟨created, named, List.mem_cons_self⟩
        · obtain ⟨subscriberId, found, told⟩ := reachedLater delivery inLater
          refine ⟨subscriberId, keptNow subscriberId delivery.1 found,
            fun sessionId latest same => ?_⟩
          obtain ⟨created, named, member⟩ := told sessionId latest same
          exact ⟨created, named, List.mem_cons_of_mem _ member⟩

end Reach

/-! ### What one message can do to subscribers

The ids that a message hands to the runtime are the handler's own, by the invariant on its
connection; so what it can do to subscribers is limited to this one. -/

/-- The subscriber whose handle a message registers, with the handle. -/
def RuntimeMessage.registers? : RuntimeMessage WId SId SubId WH SH Nat → Option (SubId × Nat)
  | .command (.sessionCreate number drawn) => some (drawn, number)
  | .command (.sessionSubscribe _ number drawn) => some (drawn, number)
  | _ => none

theorem RuntimeMessage.drawnSubscriber?_eq (message : RuntimeMessage WId SId SubId WH SH Nat) :
    message.drawnSubscriber? = message.registers?.map Prod.fst := by
  cases message with
  | event event => rfl
  | command command => cases command <;> rfl

section Turn

variable [LinearOrder WId] [DecidableEq SId] [DecidableEq SubId] [ToString WId] [ToString SId]
  {sessionHash : Nat → Nat → Nat} {before after : GatewayRuntime WId SId SubId WH SH Nat}
  {message : RuntimeMessage WId SId SubId WH SH Nat}
  {output : RuntimeOutput WId SId SubId WH SH Nat}

/-- Only who is drawn enters a session. -/
theorem subscribed_of_turn (turn : (sentSystem sessionHash).step before (message, output) after)
    {subscriberId : SubId} {sessionId : SessionId}
    (subscribed : after.state.Subscribed subscriberId sessionId) :
    before.state.Subscribed subscriberId sessionId ∨
      message.drawnSubscriber? = some subscriberId ∧
        ∀ number drawn named, message = .command (.sessionSubscribe named number drawn) →
          named = sessionId := by
  obtain ⟨shuffled, reorder, stateEq, _, _⟩ := runtimeSystem_turn turn.1
  rw [stateEq] at subscribed
  cases occurs : message.kernelEvent? before.state.tick with
  | none =>
      rw [occurs] at subscribed
      exact .inl (reorder.subscribed_iff.mp subscribed)
  | some event =>
      rw [occurs] at subscribed
      rcases Subscribed.of_reduce subscribed with earlier | enters
      · exact .inl (reorder.subscribed_iff.mp earlier)
      · refine .inr ⟨drawn_of_enters turn.2 occurs enters, fun number drawn named same => ?_⟩
        subst same
        obtain rfl := Option.some.inj occurs
        exact (Prod.mk.inj (Option.some.inj enters)).2

omit [LinearOrder WId] [ToString WId] [ToString SId] in
theorem handle_of_register [DecidableEq WId]
    {registry : ChannelRegistry WId SId SubId WH SH Nat} {subscriberId : SubId} {number : Nat}
    (found : (message.register registry).subscribers.lookup subscriberId = some number) :
    registry.subscribers.lookup subscriberId = some number ∨
      message.registers? = some (subscriberId, number) := by
  have entered : ∀ (handle : Nat) (drawn : SubId),
      (registry.registerSubscriber handle drawn).subscribers.lookup subscriberId = some number →
        registry.subscribers.lookup subscriberId = some number ∨
          some (drawn, handle) = some (subscriberId, number) := by
    intro handle drawn found
    rw [ChannelRegistry.registerSubscriber, AssocMap.lookup_update] at found
    split at found
    · rename_i same
      rw [same, Option.some.inj found]
      exact .inr rfl
    · exact .inl found
  cases message with
  | event event => exact .inl found
  | command command =>
      cases command with
      | sessionCreate handle drawn => exact entered handle drawn found
      | sessionSubscribe sessionId handle drawn => exact entered handle drawn found
      | _ => exact .inl found

/-- A subscriber has its handle from before, or the message registers it. -/
theorem handle_of_turn (turn : (sentSystem sessionHash).step before (message, output) after)
    {subscriberId : SubId} {number : Nat}
    (found : after.registry.subscribers.lookup subscriberId = some number) :
    before.registry.subscribers.lookup subscriberId = some number ∨
      message.registers? = some (subscriberId, number) := by
  obtain ⟨shuffled, _, _, registryEq, _⟩ := runtimeSystem_turn turn.1
  rw [registryEq] at found
  exact handle_of_register ((resolveEffects_reaches _ _).1 subscriberId number found)

/-- Only connections whose subscriber has a handle are sent anything, and only the creator of a
session is told of it. -/
theorem reached_of_turn (turn : (sentSystem sessionHash).step before (message, output) after)
    {delivery : Nat × SessionGatewayMessage}
    (delivered : delivery ∈ output.resolved.flatMap deliveries) :
    ∃ subscriberId,
      (before.registry.subscribers.lookup subscriberId = some delivery.1 ∨
          message.registers? = some (subscriberId, delivery.1)) ∧
        ∀ sessionId latest, delivery.2 = .subscribed sessionId latest →
          after.state.Subscribed subscriberId ⟨sessionId⟩ := by
  obtain ⟨shuffled, _, stateEq, _, resolvedEq⟩ := runtimeSystem_turn turn.1
  dsimp only at resolvedEq
  rw [resolvedEq] at delivered
  obtain ⟨subscriberId, found, told⟩ := (resolveEffects_reaches _ _).2 delivery delivered
  refine ⟨subscriberId, handle_of_register found, fun sessionId latest same => ?_⟩
  obtain ⟨created, named, emitted⟩ := told sessionId latest same
  rw [stateEq]
  cases occurs : message.kernelEvent? before.state.tick with
  | none =>
      rw [occurs] at emitted
      cases emitted
  | some event =>
      rw [occurs] at emitted
      obtain ⟨requested, generated⟩ := mem_effects_sessionCreated emitted
      subst named requested generated
      exact subscribed_of_requested

end Turn

/-! ### What one reaction can do -/

namespace SessionConnection

/-- The subscriber that the runtime drew for a connection. -/
def subscriber? : SessionConnection SubId → Option SubId
  | .awaitingSubscribed subscriberId => some subscriberId
  | .connected _ subscriberId => some subscriberId
  | .returned subscriberId => some subscriberId
  | .left _ subscriberId => some subscriberId
  | _ => none

/-- The session in whose name a connection speaks, with its subscriber. -/
def session? : SessionConnection SubId → Option (SessionId × SubId)
  | .connected sessionId subscriberId => some (sessionId, subscriberId)
  | .left sessionId subscriberId => some (sessionId, subscriberId)
  | _ => none

theorem subscriber?_of_session? {connection : SessionConnection SubId} {sessionId : SessionId}
    {subscriberId : SubId} (speaks : connection.session? = some (sessionId, subscriberId)) :
    connection.subscriber? = some subscriberId := by
  cases connection <;> cases speaks <;> rfl

end SessionConnection

/-- A reaction to an event that is not an answer: what the connection was and is, and what it asks
of the runtime. -/
inductive Reacted (event : ConnectionEvent SubId) :
    SessionConnection SubId → SessionConnection SubId → Option (SessionCommand SubId) → Prop where
  | refuses : Reacted event .handshake .refused none
  | creates : Reacted event .handshake .creating (some .create)
  | subscribes (sessionId : SessionId) :
      Reacted event .handshake (.subscribing sessionId) (some (.subscribe sessionId))
  | announces {sessionId : String} {latest : Option Nat} {subscriberId : SubId}
      (told : event = .message (some (.subscribed sessionId latest))) :
      Reacted event (.awaitingSubscribed subscriberId) (.connected ⟨sessionId⟩ subscriberId) none
  | returns (subscriberId : SubId) :
      Reacted event (.awaitingSubscribed subscriberId) (.returned subscriberId) none
  | works {sessionId : SessionId} {subscriberId : SubId} {command : Option (SessionCommand SubId)}
      (work : ∀ asked ∈ command, asked.IsWork sessionId subscriberId) :
      Reacted event (.connected sessionId subscriberId) (.connected sessionId subscriberId) command
  | leaves (sessionId : SessionId) (subscriberId : SubId) :
      Reacted event (.connected sessionId subscriberId) (.left sessionId subscriberId)
        (some (.unsubscribe sessionId subscriberId))

theorem reacted_of_react {parse : String → Option SessionClientMessage}
    {connection next : SessionConnection SubId} {event : ConnectionEvent SubId} {sends : Bool}
    {output : Output SubId} {queue rest : List SessionGatewayMessage}
    (offered : Offers queue rest event)
    (reaction : react parse connection event sends = some (next, output)) :
    Reacted event connection next output.command := by
  unfold react at reaction
  split at reaction
  · cases reaction
    exact .refuses
  · have told := Option.some.inj reaction
    unfold shakeHands at told
    split at told <;> cases told
    · exact .creates
    · exact .subscribes _
    · exact .refuses
  · cases reaction
    exact .refuses
  · cases offered
  · cases offered
  · have told := Option.some.inj reaction
    unfold announce at told
    split at told <;> cases told
    · exact .announces rfl
    · exact .returns _
  · cases reaction
    exact .returns _
  · cases offered
  · cases offered
  · have told := Option.some.inj reaction
    unfold forward at told
    split at told
    · split at told <;> cases told
      · exact .leaves _ _
      · exact .works (by simp)
    · cases told
      exact .leaves _ _
  · cases reaction
    exact .leaves _ _
  · have told := Option.some.inj reaction
    unfold dispatch at told
    split at told <;> cases told <;> exact .works (by simp [SessionCommand.IsWork, Output.silent])
  · cases reaction
    exact .leaves _ _
  · cases reaction
    exact .leaves _ _
  · cases reaction
    exact .works (by simp [Output.silent])
  · cases reaction
    exact .works (by simp [SessionCommand.IsWork])
  · cases reaction

end ProstheticConscience.Gateway
