/-
Module: ProstheticConscience.ConsensusCli.SessionSocket
Purpose: One session websocket from end to end: the client's session task and the gateway's handler
  with the texts that are under way between them, in any interleaving.
Trusted boundary: a websocket loses texts only by ending
Main exports: SessionSocket, SocketAction, SessionSocket.step, sessionSocket, SocketSound,
  session_socket_delivers
-/
import ProstheticConscience.ConsensusCli.SessionRefinement
import ProstheticConscience.Gateway.SessionConnection

namespace ProstheticConscience.ConsensusCli

open Consensus Gateway

/-- Both ends of a websocket, and the messages whose texts are under way.  `outputs`, `seen` and
`record` are bookkeeping of the model: what the task put out, the messages it read, and what the
handler had to do with its surroundings. -/
structure SessionSocket (SubId : Type) where
  loop : SessionLoop
  handler : SessionConnection SubId
  upstream : List SessionClientMessage
  downstream : List SessionGatewayMessage
  outputs : List LoopOutput
  seen : List SessionGatewayMessage
  record : Record SubId

inductive SocketAction (SubId : Type) where
  /-- The task is given an input that is not a text. -/
  | task (input : LoopInput)
  /-- The task reads the next text. -/
  | taskReads (text : String)
  /-- The handler is given an event that is not a text. -/
  | handler (event : ConnectionEvent SubId) (sends : Bool)
  /-- The handler reads the next text. -/
  | handlerReads (text : String) (sends : Bool)

def LoopInput.isText : LoopInput → Bool
  | .socket (.text _) => true
  | _ => false

/-- Whether the task still uses the connection. -/
def SessionLoop.usesSocket (loop : SessionLoop) : Bool :=
  loop.phase = .handshaking || loop.phase = .connected

namespace SessionSocket

variable {SubId : Type}

/-- A reconnect whose handshake has just been sent. -/
def opened (loop : SessionLoop) (sessionId : String) : SessionSocket SubId where
  loop := { loop with phase := .handshaking }
  handler := .handshake
  upstream := [.subscribe sessionId]
  downstream := []
  outputs := []
  seen := []
  record := .empty

/-- The task took a step. -/
def advance (socket : SessionSocket SubId) (next : SessionLoop × List LoopOutput) :
    SessionSocket SubId :=
  { socket with
    loop := next.1
    upstream := socket.upstream ++ next.2.filterMap LoopOutput.frame?
    outputs := socket.outputs ++ next.2 }

section Step

variable (parseGateway : String → Except String SessionGatewayMessage)
  (parseClient : String → Option SessionClientMessage) (sessionId : String)

/-- The handler reacts. -/
def reacts (socket : SessionSocket SubId) (event : ConnectionEvent SubId) (sends : Bool) :
    Option (SessionSocket SubId) :=
  (react parseClient socket.handler event sends).map fun next =>
    { socket with
      handler := next.1
      downstream := socket.downstream ++ next.2.frame.toList
      record := socket.record.note parseClient ((event, sends), next.2) }

/-- One action; `none` when it is not possible.  The client is there, and the task is given inputs
while it uses the connection. -/
def step (socket : SessionSocket SubId) : SocketAction SubId → Option (SessionSocket SubId)
  | .task input =>
      if socket.loop.usesSocket && !input.isText && input ≠ .commandsClosed then
        (socket.loop.step parseGateway sessionId input true).map socket.advance
      else none
  | .taskReads text =>
      match socket.downstream with
      | message :: rest =>
          if socket.loop.usesSocket && parseGateway text = .ok message then
            (socket.loop.step parseGateway sessionId (.socket (.text text)) true).map
              { socket with downstream := rest, seen := socket.seen ++ [message] }.advance
          else none
      | [] => none
  | .handler event sends =>
      if event.isText then none else socket.reacts parseClient event sends
  | .handlerReads text sends =>
      match socket.upstream with
      | message :: rest =>
          if parseClient text = some message then
            { socket with upstream := rest }.reacts parseClient (.socket (.text text)) sends
          else none
      | [] => none

end Step

end SessionSocket

section System

variable {SubId : Type} (parseGateway : String → Except String SessionGatewayMessage)
  (parseClient : String → Option SessionClientMessage) (sessionId : String)

/-- The system of one connection of a task that has reported its loss. -/
def sessionSocket : TransitionSystem (SessionSocket SubId) (SocketAction SubId) where
  init socket := ∃ loop : SessionLoop, loop.disconnected = true ∧
    socket = .opened loop sessionId
  step socket action socket' :=
    socket.step parseGateway parseClient sessionId action = some socket'

end System

/-! ### What holds between the ends

Between the two ends of a websocket there are texts under way in both directions. What one end has
sent is what the other has read and what is still under way, until an end closes. -/

/-- What a listener is told of a message. -/
def toldOf : SessionGatewayMessage → Option SessionEvent
  | .entry index payload => some (.entry index payload)
  | .error message => some (.warning message)
  | _ => none

/-- What the listener of a reconnecting task was told, when the task has read some messages. -/
def Heard (sessionId : String) (seen : List SessionGatewayMessage) (events : List SessionEvent) :
    LoopPhase → Prop
  | .handshaking => seen = [] ∧ events = []
  | .connected =>
      ∃ latest rest, seen = .subscribed sessionId latest :: rest ∧
        events = .reconnected :: rest.filterMap toldOf
  | .connecting =>
      ∃ latest rest reason, seen = .subscribed sessionId latest :: rest ∧
        events = .reconnected :: rest.filterMap toldOf ++ [.disconnected reason]
  | .sleeping _ => events = []
  | .ended => False

section Serves

variable {SubId : Type}

/-- The handler serves the session that the client asks for, and no other. -/
def Serves (sessionId : String) (upstream : List SessionClientMessage)
    (commands : List (SessionCommand SubId)) : SessionConnection SubId → Prop
  | .handshake => upstream.head? = some (.subscribe sessionId)
  | .creating => False
  | .awaitingSubscribed _ => False
  | .subscribing asked => asked = ⟨sessionId⟩
  | .connected served _ =>
      served = ⟨sessionId⟩ ∧ commands.head? = some (.subscribe ⟨sessionId⟩)
  | .left served _ => served = ⟨sessionId⟩ ∧ commands.head? = some (.subscribe ⟨sessionId⟩)
  | .refused => True
  | .returned _ => True

variable {parseClient : String → Option SessionClientMessage} {sessionId : String}

/-- Serving goes on whatever more the client sends and the handler asks for. -/
theorem Serves.more {upstream : List SessionClientMessage}
    {commands : List (SessionCommand SubId)} {handler : SessionConnection SubId}
    (serves : Serves sessionId upstream commands handler) (sent : List SessionClientMessage) :
    Serves sessionId (upstream ++ sent) commands handler := by
  cases handler with
  | handshake =>
      simp only [Serves] at serves ⊢
      rw [List.head?_append, serves]
      rfl
  | _ => exact serves

/-- A serving handler that stays in its loop, or leaves it, serves the same session. -/
theorem Serves.loop {upstream upstream' : List SessionClientMessage} {record : Record SubId}
    {served : SessionId} {subscriberId : SubId}
    (serves : Serves sessionId upstream record.commands (.connected served subscriberId))
    (label : (ConnectionEvent SubId × Bool) × Output SubId) :
    Serves sessionId upstream' (record.note parseClient label).commands
        (.connected served subscriberId) ∧
      Serves sessionId upstream' (record.note parseClient label).commands
        (.left served subscriberId) := by
  obtain ⟨same, opening⟩ := serves
  have opening' : (record.note parseClient label).commands.head? =
      some (.subscribe ⟨sessionId⟩) := by
    rw [Record.note, List.head?_append, opening]
    rfl
  exact ⟨⟨same, opening'⟩, ⟨same, opening'⟩⟩

theorem Serves.react {before after : SessionConnection SubId} {event : ConnectionEvent SubId}
    {sends : Bool} {output : Output SubId} {record : Record SubId}
    {upstream upstream' : List SessionClientMessage} (conforms : Conforms record before)
    (serves : Serves sessionId upstream record.commands before)
    (reads : ∀ text, event = .socket (.text text) → parseClient text = upstream.head?)
    (reacts : react parseClient before event sends = some (after, output)) :
    Serves sessionId upstream' (record.note parseClient ((event, sends), output)).commands
      after := by
  unfold Gateway.react at reacts
  split at reacts
  · cases reacts
    trivial
  · -- the first text is the client's handshake
    rename_i text
    have asked : parseClient text = some (.subscribe sessionId) := (reads text rfl).trans serves
    simp only [shakeHands, asked] at reacts
    cases reacts
    rfl
  · cases reacts
    trivial
  · exact serves.elim
  · exact serves.elim
  · exact serves.elim
  · exact serves.elim
  · cases reacts
    trivial
  · rename_i asked subscription
    obtain rfl : asked = ⟨sessionId⟩ := serves
    unfold announce at reacts
    split at reacts <;> cases reacts
    · refine ⟨rfl, ?_⟩
      rw [Record.note, conforms.1]
      rfl
    · trivial
  · unfold forward leave at reacts
    split at reacts
    · split at reacts <;> cases reacts
      · exact (serves.loop _).2
      · exact (serves.loop _).1
    · cases reacts
      exact (serves.loop _).2
  · cases reacts
    exact (serves.loop _).2
  · unfold dispatch at reacts
    split at reacts <;> cases reacts <;> exact (serves.loop _).1
  · cases reacts
    exact (serves.loop _).2
  · cases reacts
    exact (serves.loop _).2
  · cases reacts
    exact (serves.loop _).1
  · cases reacts
    exact (serves.loop _).1
  · cases reacts

end Serves

/-! ### Sound sockets -/

section Sound

variable {SubId : Type} {parseGateway : String → Except String SessionGatewayMessage}
  {parseClient : String → Option SessionClientMessage} {sessionId : String}

/-- What holds of a socket in every state. -/
structure SocketSound (sessionId : String) (socket : SessionSocket SubId) : Prop where
  conforms : Conforms socket.record socket.handler
  serves : Serves sessionId socket.upstream socket.record.commands socket.handler
  /-- What the handler was asked to append, and what is under way, is what the task sent. -/
  upstream : socket.record.appended ++ socket.upstream.filterMap appendPayload? =
    (socket.outputs.filterMap LoopOutput.frame?).filterMap appendPayload?
  /-- What the task sent is what it said it sent. -/
  sent : (socket.outputs.filterMap LoopOutput.frame?).filterMap appendPayload? =
    (socket.outputs.filterMap LoopOutput.reply?).filterMap acceptedPayload?
  /-- What the task read, and what is under way, is what the handler sent. -/
  downstream : socket.seen ++ socket.downstream = socket.record.frames
  heard : Heard sessionId socket.seen (socket.outputs.filterMap LoopOutput.event?)
    socket.loop.phase
  lost : socket.loop.disconnected = true

theorem SocketSound.opened {loop : SessionLoop} (lost : loop.disconnected = true) :
    SocketSound sessionId (.opened loop sessionId : SessionSocket SubId) where
  conforms := ⟨rfl, rfl, rfl, rfl⟩
  serves := rfl
  upstream := rfl
  sent := rfl
  downstream := rfl
  heard := ⟨rfl, rfl⟩
  lost := lost

/-- The handler's side of a step. -/
theorem SocketSound.reacts {socket socket' : SessionSocket SubId}
    {event : ConnectionEvent SubId} {sends : Bool} {upstream : List SessionClientMessage}
    (sound : SocketSound sessionId socket)
    (reads : ∀ text, event = .socket (.text text) → parseClient text = socket.upstream.head?)
    (appended : event.appended parseClient ++ upstream.filterMap appendPayload? =
      socket.upstream.filterMap appendPayload?)
    (step : { socket with upstream }.reacts parseClient event sends = some socket') :
    SocketSound sessionId socket' := by
  obtain ⟨⟨handler, output⟩, taken, rfl⟩ := Option.map_eq_some_iff.mp step
  exact
    { conforms := sound.conforms.react taken
      serves := sound.serves.react sound.conforms reads taken
      upstream := by
        rw [← sound.upstream, ← appended, ← List.append_assoc]
        rfl
      sent := sound.sent
      downstream := by
        change socket.seen ++ (socket.downstream ++ output.frame.toList) =
          socket.record.frames ++ output.frame.toList
        rw [← List.append_assoc, sound.downstream]
      heard := sound.heard
      lost := sound.lost }

/-- The task's side of a step: what its listener heard has to be shown. -/
theorem SocketSound.advance {socket : SessionSocket SubId} {input : LoopInput}
    {next : SessionLoop} {now : List LoopOutput} {seen downstream : List SessionGatewayMessage}
    (sound : SocketSound sessionId socket) (read : seen ++ downstream = socket.record.frames)
    (taken : socket.loop.step parseGateway sessionId input true = some (next, now))
    (heard : Heard sessionId seen
      (socket.outputs.filterMap LoopOutput.event? ++ now.filterMap LoopOutput.event?) next.phase)
    (lost : next.disconnected = true) :
    SocketSound sessionId ({ socket with seen, downstream }.advance (next, now)) where
  conforms := sound.conforms
  serves := sound.serves.more _
  upstream := by
    simp only [SessionSocket.advance, List.filterMap_append]
    rw [← List.append_assoc, sound.upstream]
  sent := by
    simp only [SessionSocket.advance, List.filterMap_append]
    rw [sound.sent, (LoopTurn.of_step taken).sent]
  downstream := read
  heard := by
    simp only [SessionSocket.advance, List.filterMap_append]
    exact heard
  lost := lost

/-- The first message of a handler that serves the client's session tells of the subscription. -/
theorem SocketSound.first_frame {socket : SessionSocket SubId} {message : SessionGatewayMessage}
    (sound : SocketSound sessionId socket) (first : socket.record.frames.head? = some message) :
    (∃ latest, message = .subscribed sessionId latest) ∨ message = expectedHandshake := by
  have told : ∀ {served : SessionId}, served = ⟨sessionId⟩ →
      (∃ latest, socket.record.frames.head? = some (.subscribed served.value latest)) →
        ∃ latest, message = .subscribed sessionId latest := by
    rintro _ rfl ⟨latest, head⟩
    exact ⟨latest, Option.some.inj (first.symm.trans head)⟩
  have conforms := sound.conforms
  have serves := sound.serves
  cases handler : socket.handler <;> simp only [handler, Conforms, Serves] at conforms serves
  case connected => exact .inl (told serves.1 conforms.1.told)
  case left =>
    obtain ⟨_, _, _, served, _⟩ := conforms
    exact .inl (told serves.1 served.told)
  case refused => exact .inr (conforms.2 _ (List.mem_of_head? first))
  case handshake => simp [conforms.2.1] at first
  case subscribing => simp [conforms.2.1] at first
  case returned => simp [conforms.2] at first

theorem SocketSound.task {socket socket' : SessionSocket SubId} {input : LoopInput}
    (sound : SocketSound sessionId socket)
    (step : socket.step parseGateway parseClient sessionId (.task input) = some socket') :
    SocketSound sessionId socket' := by
  simp only [SessionSocket.step] at step
  split at step
  · rename_i possible
    simp only [Bool.and_eq_true, decide_eq_true_eq, SessionLoop.usesSocket, Bool.or_eq_true,
      Bool.not_eq_true'] at possible
    obtain ⟨⟨uses, noText⟩, wanted⟩ := possible
    obtain ⟨⟨next, now⟩, taken, rfl⟩ := Option.map_eq_some_iff.mp step
    have heard := sound.heard
    have turn := TaskTurn.of_step (fun _ => sound.lost) wanted taken
    refine sound.advance sound.downstream taken ?_ ?_
    · cases turn with
      | stays read phase => simpa using heard
      | delivers => cases noText
      | warns => cases noText
      | loses read reason connected =>
          simp only [Heard, connected] at heard
          obtain ⟨latest, rest, seen, events⟩ := heard
          exact ⟨latest, rest, reason, seen, by rw [events]; rfl⟩
      | sends payload connected =>
          change Heard sessionId socket.seen (_ ++ []) socket.loop.phase
          rwa [List.append_nil]
      | sendFails payload error reason connected =>
          simp only [Heard, connected] at heard
          obtain ⟨latest, rest, seen, events⟩ := heard
          exact ⟨latest, rest, reason, seen, by rw [events]; rfl⟩
      | knocks connecting => simp [connecting] at uses
      | givesUp input reason down =>
          rcases down with connecting | handshaking
          · simp [connecting] at uses
          · simp only [Heard, handshaking] at heard
            exact (List.append_nil _).trans heard.2
      | resumes => cases noText
      | refuses payload sent reason sleeping => simp [sleeping] at uses
      | wakes reason sleeping => simp [sleeping] at uses
    · cases turn <;> first | exact sound.lost | rfl
  · cases step

theorem SocketSound.taskReads {socket socket' : SessionSocket SubId} {text : String}
    (sound : SocketSound sessionId socket)
    (step : socket.step parseGateway parseClient sessionId (.taskReads text) = some socket') :
    SocketSound sessionId socket' := by
  simp only [SessionSocket.step] at step
  split at step
  · rename_i message rest under
    split at step
    · rename_i possible
      simp only [Bool.and_eq_true, decide_eq_true_eq, SessionLoop.usesSocket,
        Bool.or_eq_true] at possible
      obtain ⟨uses, parsed⟩ := possible
      obtain ⟨⟨next, now⟩, taken, rfl⟩ := Option.map_eq_some_iff.mp step
      have heard := sound.heard
      have read : socket.seen ++ [message] ++ rest = socket.record.frames := by
        rw [List.append_assoc, List.singleton_append, ← under, sound.downstream]
      refine sound.advance read taken ?_ ?_
      · rcases uses with handshaking | connected
        · simp only [Heard, handshaking] at heard
          obtain ⟨nothing, silent⟩ := heard
          rw [nothing, silent]
          have first : socket.record.frames.head? = some message := by rw [← read, nothing]; rfl
          rcases sound.first_frame first with ⟨latest, rfl⟩ | rfl
          · simp only [SessionLoop.step, handshaking, SessionLoop.readHandshake, parsed, if_true,
              SessionLoop.resume, SessionLoop.tell, Option.some.injEq, Prod.mk.injEq] at taken
            obtain ⟨rfl, rfl⟩ := taken
            exact ⟨latest, [], rfl, rfl⟩
          · simp only [SessionLoop.step, handshaking, SessionLoop.readHandshake, parsed,
              expectedHandshake, SessionLoop.retryLater, sound.lost, if_true, Option.some.injEq,
              Prod.mk.injEq] at taken
            obtain ⟨rfl, rfl⟩ := taken
            rfl
        · simp only [Heard, connected] at heard
          obtain ⟨latest, rest, seen, events⟩ := heard
          rw [seen, events]
          cases message <;>
            simp only [SessionLoop.step, connected, SessionLoop.readConnected, parsed,
              SessionLoop.lose, SessionLoop.tell, if_true, Option.some.injEq,
              Prod.mk.injEq] at taken <;>
            obtain ⟨rfl, rfl⟩ := taken
          case subscribed returned known =>
            simp only [Heard, connected]
            exact ⟨latest, rest ++ [.subscribed returned known], rfl, by simp [toldOf]⟩
          case entry index payload =>
            simp only [Heard, connected]
            exact ⟨latest, rest ++ [.entry index payload], rfl, by simp [toldOf, LoopOutput.event?]⟩
          case error warning =>
            simp only [Heard, connected]
            exact ⟨latest, rest ++ [.error warning], rfl, by simp [toldOf, LoopOutput.event?]⟩
          case subscriberRemoved =>
            exact ⟨latest, rest ++ [.subscriberRemoved], "subscriber removed by gateway", rfl,
              by simp [toldOf, LoopOutput.event?]⟩
      · have turn : TaskTurn parseGateway sessionId socket.loop (.socket (.text text)) next now :=
          .of_step (fun _ => sound.lost) (by intro closed; cases closed) taken
        cases turn <;> first | exact sound.lost | rfl
    · cases step
  · cases step

theorem SocketSound.handler {socket socket' : SessionSocket SubId} {event : ConnectionEvent SubId}
    {sends : Bool} (sound : SocketSound sessionId socket)
    (step : socket.step parseGateway parseClient sessionId (.handler event sends) =
      some socket') : SocketSound sessionId socket' := by
  simp only [SessionSocket.step] at step
  split at step
  · cases step
  · rename_i noText
    refine sound.reacts ?_ ?_ step
    · rintro text rfl
      exact absurd rfl noText
    · cases event with
      | socket input =>
          cases input with
          | text text => exact absurd rfl noText
          | _ => rfl
      | _ => rfl

theorem SocketSound.handlerReads {socket socket' : SessionSocket SubId} {text : String}
    {sends : Bool} (sound : SocketSound sessionId socket)
    (step : socket.step parseGateway parseClient sessionId (.handlerReads text sends) =
      some socket') : SocketSound sessionId socket' := by
  simp only [SessionSocket.step] at step
  split at step
  · rename_i message rest under
    split at step
    · rename_i parsed
      refine sound.reacts ?_ ?_ step
      · rintro _ ⟨⟩
        rw [parsed, under]
        rfl
      · simp only [ConnectionEvent.appended, parsed, under]
        cases message <;> rfl
    · cases step
  · cases step

/-- Every step of either end keeps a socket sound. -/
theorem SocketSound.step {socket socket' : SessionSocket SubId} {action : SocketAction SubId}
    (sound : SocketSound sessionId socket)
    (step : socket.step parseGateway parseClient sessionId action = some socket') :
    SocketSound sessionId socket' := by
  cases action with
  | task input => exact sound.task step
  | taskReads text => exact sound.taskReads step
  | handler event sends => exact sound.handler step
  | handlerReads text sends => exact sound.handlerReads step

theorem session_socket_sound {trace : List (SocketAction SubId)} {socket : SessionSocket SubId}
    (run : (sessionSocket parseGateway parseClient sessionId).Execution trace socket) :
    SocketSound sessionId socket := by
  refine run.reachable_invariant ?_ fun _ _ _ sound step => sound.step step
  rintro _ ⟨loop, lost, rfl⟩
  exact .opened lost

/-! ### What arrives -/

/-- The payloads that the task said it sent. -/
def SessionSocket.accepted (socket : SessionSocket SubId) : List Value :=
  (socket.outputs.filterMap LoopOutput.reply?).filterMap acceptedPayload?

/-- The payloads that the handler had appended to the session. -/
def SessionSocket.appended (socket : SessionSocket SubId) : List Value :=
  socket.record.commands.filterMap SessionCommand.payload?

theorem SocketSound.appended_eq {socket : SessionSocket SubId}
    (sound : SocketSound sessionId socket) {subscriberId : SubId}
    (handler : socket.handler = .connected ⟨sessionId⟩ subscriberId) :
    socket.appended = socket.record.appended := by
  have conforms := sound.conforms
  rw [handler] at conforms
  exact conforms.1.payloads

/-- A handler that does not serve has nothing appended. -/
theorem SocketSound.appended_prefix {socket : SessionSocket SubId}
    (sound : SocketSound sessionId socket) : socket.appended <+: socket.record.appended := by
  have conforms := sound.conforms
  have serves := sound.serves
  unfold SessionSocket.appended
  cases handler : socket.handler <;> simp only [handler, Conforms, Serves] at conforms serves
  case connected => rw [conforms.1.payloads]
  case left =>
    obtain ⟨commands, sent, same, served, _⟩ := conforms
    rw [same, List.filterMap_append, served.payloads]
    exact (List.append_nil _).symm ▸ List.prefix_refl _
  case refused =>
    rcases conforms.1 with commands | commands | ⟨asked, commands⟩ <;> rw [commands] <;>
      exact List.nil_prefix
  case handshake =>
    rw [conforms.1]
    exact List.nil_prefix
  case subscribing =>
    rw [conforms.1]
    exact List.nil_prefix
  case returned =>
    rcases conforms.1 with commands | ⟨asked, commands⟩ <;> rw [commands] <;>
      exact List.nil_prefix

/-- After the first, the frames of a handler are what came through its channel. -/
theorem SocketSound.frames_tail {socket : SessionSocket SubId}
    (sound : SocketSound sessionId socket) {latest : Option Nat}
    {sent : List SessionGatewayMessage}
    (frames : socket.record.frames = .subscribed sessionId latest :: sent) :
    sent <+: socket.record.mail ∧
      ∀ subscriberId, socket.handler = .connected ⟨sessionId⟩ subscriberId →
        sent = socket.record.mail := by
  have conforms := sound.conforms
  have serves := sound.serves
  have tail : ∀ {served : SessionId} {subscriberId : SubId}
      {commands : List (SessionCommand SubId)} {sent' : List SessionGatewayMessage},
      Served served subscriberId commands socket.record.frames sent' socket.record.appended →
        commands.head? = some (.subscribe served) → sent = sent' := by
    intro served subscriberId commands sent' served first
    obtain ⟨_, same⟩ := served.frames_eq first
    exact (List.cons.inj (frames.symm.trans same)).2
  cases handler : socket.handler <;> simp only [handler, Conforms, Serves] at conforms serves
  case connected =>
    obtain ⟨rfl, first⟩ := serves
    have same := tail conforms.1 first
    exact ⟨same ▸ List.prefix_refl _, fun _ _ => same⟩
  case left =>
    obtain ⟨rfl, first⟩ := serves
    obtain ⟨commands, sent', same, served, received, _⟩ := conforms
    have opening : commands.head? = some (.subscribe ⟨sessionId⟩) := by
      obtain ⟨opening, work, rfl, _⟩ := served.opens
      simpa [same] using first
    refine ⟨tail served opening ▸ received, ?_⟩
    intro subscriberId same
    cases same
  case refused =>
    have head := conforms.2 (.subscribed sessionId latest) (by simp [frames])
    cases head
  case handshake => simp [conforms.2.1] at frames
  case subscribing => simp [conforms.2.1] at frames
  case returned => simp [conforms.2] at frames

/-- What the listener of a reconnecting task was told: nothing, or of the reconnect, of some
messages and perhaps of the next loss. -/
def ToldOf (events : List SessionEvent) (messages : List SessionGatewayMessage) : Prop :=
  events = [] ∧ messages = [] ∨
    ∃ last, (last = [] ∨ ∃ reason, last = [.disconnected reason]) ∧
      events = .reconnected :: messages.filterMap toldOf ++ last

end Sound

/-- A reconnect: the gateway subscribes the client and has an entry for it; the client hears of
both and sends an append and then another one, of which the gateway reads the first. -/
def exchange : List (SocketAction Nat) :=
  [.handlerReads "subscribe" true,
    .handler (.subscribed (some { subscriberId := 4, latestEntryIndex := none })) true,
    .handler (.message (some (.entry 0 .null))) true, .taskReads "subscribed",
    .task (.append .null (.ok ())), .taskReads "entry", .task (.append (.bool true) (.ok ())),
    .handlerReads "append" true]

end ProstheticConscience.ConsensusCli
