/-
Module: ProstheticConscience.Gateway.SessionConnection
Purpose: The handler of one session websocket: handshake, registration, the loop that forwards in
  both directions, and the cleanup.  The handler is a state machine; one reaction is what it does
  between two points at which it waits.
Trusted boundary: none
Main exports: SocketInput, SessionCommand, SessionConnection, ConnectionEvent, react,
  connectionHandler, session_handler_conforms
-/
import ProstheticConscience.Consensus.SessionProtocol
import ProstheticConscience.Gateway.Runtime
import ProstheticConscience.Library.TransitionSystem

namespace ProstheticConscience.Gateway

open Consensus

/-- What `socket.recv` gives: a text, a close frame, a binary, ping or pong frame, an error, or the
end of the stream. -/
inductive SocketInput where
  | text (text : String)
  | close
  | other
  | failure
  | ended
deriving DecidableEq, Repr

/-- What a handler asks of the runtime. -/
inductive SessionCommand (SubId : Type) where
  | create
  | subscribe (sessionId : SessionId)
  | append (sessionId : SessionId) (payload : Value)
  | heartbeat (sessionId : SessionId) (subscriberId : SubId)
  | unsubscribe (sessionId : SessionId) (subscriberId : SubId)
deriving DecidableEq, Repr

/-- Where a handler waits, or how it ended: refused before it had a subscriber, returned before
its loop, or left its loop. -/
inductive SessionConnection (SubId : Type) where
  | handshake
  | creating
  | subscribing (sessionId : SessionId)
  | awaitingSubscribed (subscriberId : SubId)
  | connected (sessionId : SessionId) (subscriberId : SubId)
  | refused
  | returned (subscriberId : SubId)
  | left (sessionId : SessionId) (subscriberId : SubId)
deriving DecidableEq, Repr

/-- What a handler waits for: the socket, the runtime's answers, its channel, a timer. -/
inductive ConnectionEvent (SubId : Type) where
  | timeout
  | socket (input : SocketInput)
  | created (subscriberId : Option SubId)
  | subscribed (subscription : Option (SessionSubscription SubId))
  | message (message : Option SessionGatewayMessage)
  | heartbeatTick
deriving DecidableEq, Repr

/-- What a reaction puts out: a command for the runtime, and the frame that the client receives. -/
structure Output (SubId : Type) where
  command : Option (SessionCommand SubId)
  frame : Option SessionGatewayMessage
deriving DecidableEq, Repr

def expectedHandshake : SessionGatewayMessage :=
  .error "expected create or subscribe as first message"

section React

variable {SubId : Type} (parse : String → Option SessionClientMessage)

/-- Nothing for the runtime, nothing for the client. -/
def Output.silent : Output SubId := { command := none, frame := none }

/-- Leaving the loop: the subscriber is unsubscribed. -/
def leave (sessionId : SessionId) (subscriberId : SubId) (frame : Option SessionGatewayMessage) :
    SessionConnection SubId × Output SubId :=
  (.left sessionId subscriberId, { command := some (.unsubscribe sessionId subscriberId), frame })

/-- The client is told that it is subscribed.  When that fails the handler returns. -/
def announce (sessionId : SessionId) (subscriberId : SubId) (latestEntryIndex : Option Nat)
    (sends : Bool) : SessionConnection SubId × Output SubId :=
  if sends then
    (.connected sessionId subscriberId,
      { command := none, frame := some (.subscribed sessionId.value latestEntryIndex) })
  else (.returned subscriberId, .silent)

/-- The first message of the client. -/
def shakeHands (text : String) (sends : Bool) : SessionConnection SubId × Output SubId :=
  match parse text with
  | some .create => (.creating, { command := some .create, frame := none })
  | some (.subscribe sessionId) =>
      (.subscribing ⟨sessionId⟩, { command := some (.subscribe ⟨sessionId⟩), frame := none })
  | _ =>
      (.refused, { command := none, frame := if sends then some expectedHandshake else none })

/-- A text of the client in the loop.  Malformed texts and further handshakes are ignored. -/
def dispatch (sessionId : SessionId) (subscriberId : SubId) (text : String) :
    SessionConnection SubId × Output SubId :=
  match parse text with
  | some (.append payload) =>
      (.connected sessionId subscriberId,
        { command := some (.append sessionId payload), frame := none })
  | some .heartbeat =>
      (.connected sessionId subscriberId,
        { command := some (.heartbeat sessionId subscriberId), frame := none })
  | _ => (.connected sessionId subscriberId, .silent)

/-- A message of the gateway in the loop is forwarded; a removal ends the loop. -/
def forward (sessionId : SessionId) (subscriberId : SubId) (message : SessionGatewayMessage)
    (sends : Bool) : SessionConnection SubId × Output SubId :=
  if sends then
    if message = .subscriberRemoved then leave sessionId subscriberId (some message)
    else (.connected sessionId subscriberId, { command := none, frame := some message })
  else leave sessionId subscriberId none

/-- The reaction to an event, where `sends` tells whether the socket still sends; `none` when the
handler does not wait for such an event. -/
def react (connection : SessionConnection SubId) (event : ConnectionEvent SubId) (sends : Bool) :
    Option (SessionConnection SubId × Output SubId) :=
  match connection, event with
  | .handshake, .timeout => some (.refused, .silent)
  | .handshake, .socket (.text text) => some (shakeHands parse text sends)
  | .handshake, .socket _ => some (.refused, .silent)
  | .creating, .created none => some (.refused, .silent)
  | .creating, .created (some subscriberId) => some (.awaitingSubscribed subscriberId, .silent)
  | .awaitingSubscribed subscriberId, .message (some (.subscribed sessionId latestEntryIndex)) =>
      some (announce ⟨sessionId⟩ subscriberId latestEntryIndex sends)
  | .awaitingSubscribed subscriberId, .message _ => some (.returned subscriberId, .silent)
  | .subscribing _, .subscribed none => some (.refused, .silent)
  | .subscribing sessionId, .subscribed (some subscription) =>
      some (announce sessionId subscription.subscriberId subscription.latestEntryIndex sends)
  | .connected sessionId subscriberId, .message (some message) =>
      some (forward sessionId subscriberId message sends)
  | .connected sessionId subscriberId, .message none => some (leave sessionId subscriberId none)
  | .connected sessionId subscriberId, .socket (.text text) =>
      some (dispatch parse sessionId subscriberId text)
  | .connected sessionId subscriberId, .socket .close => some (leave sessionId subscriberId none)
  | .connected sessionId subscriberId, .socket .ended => some (leave sessionId subscriberId none)
  | .connected sessionId subscriberId, .socket _ =>
      some (.connected sessionId subscriberId, .silent)
  | .connected sessionId subscriberId, .heartbeatTick =>
      some
        (.connected sessionId subscriberId,
          { command := some (.heartbeat sessionId subscriberId), frame := none })
  | _, _ => none

/-- The handler as a transition system: an event with the state of the socket, and what the
handler puts out. -/
def connectionHandler :
    TransitionSystem (SessionConnection SubId) ((ConnectionEvent SubId × Bool) × Output SubId) :=
  .ofPartial (· = .handshake) fun connection (event, sends) => react parse connection event sends

end React

/-! ### What a handler does over its life

The record of a handler is a fold over its events; for each state that the handler can be in
`Conforms` says what the record is. -/

section Life

variable {SubId : Type}

def SessionCommand.payload? : SessionCommand SubId → Option Value
  | .append _ payload => some payload
  | _ => none

/-- A command that a handler sends from its loop. -/
def SessionCommand.IsWork (sessionId : SessionId) (subscriberId : SubId)
    (command : SessionCommand SubId) : Prop :=
  (∃ payload, command = .append sessionId payload) ∨ command = .heartbeat sessionId subscriberId

/-- What a handler had to do with its surroundings: its commands, the frames that the client
received, the messages it read from its channel, and the payloads it was asked to append. -/
structure Record (SubId : Type) where
  commands : List (SessionCommand SubId)
  frames : List SessionGatewayMessage
  mail : List SessionGatewayMessage
  appended : List Value

def ConnectionEvent.mail : ConnectionEvent SubId → List SessionGatewayMessage
  | .message received => received.toList
  | _ => []

def ConnectionEvent.isText : ConnectionEvent SubId → Bool
  | .socket (.text _) => true
  | _ => false

/-- The payload that an event asks to append. -/
def ConnectionEvent.appended (parse : String → Option SessionClientMessage) :
    ConnectionEvent SubId → List Value
  | .socket (.text text) =>
      match parse text with
      | some (.append payload) => [payload]
      | _ => []
  | _ => []

/-- The record after one more reaction. -/
def Record.note (parse : String → Option SessionClientMessage) (record : Record SubId)
    (label : (ConnectionEvent SubId × Bool) × Output SubId) : Record SubId where
  commands := record.commands ++ label.2.command.toList
  frames := record.frames ++ label.2.frame.toList
  mail := record.mail ++ label.1.1.mail
  appended := record.appended ++ label.1.1.appended parse

def Record.empty : Record SubId := { commands := [], frames := [], mail := [], appended := [] }

/-- The record of a life. -/
def recordOf (parse : String → Option SessionClientMessage)
    (trace : List ((ConnectionEvent SubId × Bool) × Output SubId)) : Record SubId :=
  trace.foldl (Record.note parse) .empty

/-- A client was served: after one registration the commands were for its session and in the name
of its subscriber, with every payload appended once and in order; it was first told that it is
subscribed, and then what came through the channel. -/
structure Served (sessionId : SessionId) (subscriberId : SubId)
    (commands : List (SessionCommand SubId)) (frames sent : List SessionGatewayMessage)
    (appended : List Value) : Prop where
  opens : ∃ opening work, commands = opening :: work ∧
    (opening = .create ∧ frames = sent ∨
      opening = .subscribe sessionId ∧
        ∃ latest, frames = .subscribed sessionId.value latest :: sent) ∧
    (∀ command ∈ work, command.IsWork sessionId subscriberId) ∧
    work.filterMap SessionCommand.payload? = appended
  told : ∃ latest, frames.head? = some (.subscribed sessionId.value latest)

/-- What the record of a handler is in each state.  A handler that left its loop has unsubscribed
once, at the end; one that was refused or returned early has done nothing but register. -/
def Conforms (record : Record SubId) : SessionConnection SubId → Prop
  | .handshake =>
      record.commands = [] ∧ record.frames = [] ∧ record.mail = [] ∧ record.appended = []
  | .creating =>
      record.commands = [.create] ∧ record.frames = [] ∧ record.mail = [] ∧ record.appended = []
  | .subscribing sessionId =>
      record.commands = [.subscribe sessionId] ∧ record.frames = [] ∧ record.mail = [] ∧
        record.appended = []
  | .awaitingSubscribed _ =>
      record.commands = [.create] ∧ record.frames = [] ∧ record.mail = [] ∧ record.appended = []
  | .connected sessionId subscriberId =>
      Served sessionId subscriberId record.commands record.frames record.mail record.appended ∧
        .subscriberRemoved ∉ record.frames
  | .refused =>
      (record.commands = [] ∨ record.commands = [.create] ∨
          ∃ sessionId, record.commands = [.subscribe sessionId]) ∧
        ∀ frame ∈ record.frames, frame = expectedHandshake
  | .returned _ =>
      (record.commands = [.create] ∨ ∃ sessionId, record.commands = [.subscribe sessionId]) ∧
        record.frames = []
  | .left sessionId subscriberId =>
      ∃ commands sent, record.commands = commands ++ [.unsubscribe sessionId subscriberId] ∧
        Served sessionId subscriberId commands record.frames sent record.appended ∧
          sent <+: record.mail ∧ record.mail.length ≤ sent.length + 1 ∧
            .subscriberRemoved ∉ record.frames.dropLast

variable {parse : String → Option SessionClientMessage} {record : Record SubId}

theorem Served.append {sessionId : SessionId} {subscriberId : SubId}
    {commands : List (SessionCommand SubId)} {frames sent : List SessionGatewayMessage}
    {appended : List Value} (served : Served sessionId subscriberId commands frames sent appended)
    {more : List (SessionCommand SubId)}
    (work : ∀ command ∈ more, command.IsWork sessionId subscriberId)
    (later : List SessionGatewayMessage) :
    Served sessionId subscriberId (commands ++ more) (frames ++ later) (sent ++ later)
      (appended ++ more.filterMap SessionCommand.payload?) where
  opens := by
    obtain ⟨opening, earlier, rfl, how, own, payloads⟩ := served.opens
    refine ⟨opening, earlier ++ more, rfl, ?_, ?_, ?_⟩
    · rcases how with ⟨created, rfl⟩ | ⟨subscribes, latest, rfl⟩
      · exact .inl ⟨created, rfl⟩
      · exact .inr ⟨subscribes, latest, rfl⟩
    · intro command member
      rcases List.mem_append.mp member with before | now
      · exact own command before
      · exact work command now
    · rw [List.filterMap_append, payloads]
  told := by
    obtain ⟨latest, first⟩ := served.told
    refine ⟨latest, ?_⟩
    rw [List.head?_append, first, Option.some_or]

/-- A handler whose client was told the id of its session serves it. -/
theorem Served.payloads {sessionId : SessionId} {subscriberId : SubId}
    {commands : List (SessionCommand SubId)} {frames sent : List SessionGatewayMessage}
    {appended : List Value}
    (served : Served sessionId subscriberId commands frames sent appended) :
    commands.filterMap SessionCommand.payload? = appended := by
  obtain ⟨opening, work, rfl, opens, _, payloads⟩ := served.opens
  rcases opens with ⟨rfl, _⟩ | ⟨rfl, _⟩ <;> exact payloads

theorem Served.frames_eq {sessionId : SessionId} {subscriberId : SubId}
    {commands : List (SessionCommand SubId)} {frames sent : List SessionGatewayMessage}
    {appended : List Value}
    (served : Served sessionId subscriberId commands frames sent appended)
    (first : commands.head? = some (.subscribe sessionId)) :
    ∃ latest, frames = .subscribed sessionId.value latest :: sent := by
  obtain ⟨opening, work, rfl, opens, _, _⟩ := served.opens
  rcases opens with ⟨rfl, _⟩ | ⟨rfl, told⟩
  · cases first
  · exact told

theorem Conforms.announce {sessionId : SessionId} {subscriberId : SubId} {latest : Option Nat}
    {sends : Bool} {event : ConnectionEvent SubId} {next : SessionConnection SubId}
    {output : Output SubId}
    (announced : announce sessionId subscriberId latest sends = (next, output))
    (asked : record.commands = [.create] ∧
        event.mail = [.subscribed sessionId.value latest] ∨
      record.commands = [.subscribe sessionId] ∧ event.mail = [])
    (fresh : record.frames = [] ∧ record.mail = [] ∧ record.appended = [])
    (quiet : event.appended parse = []) :
    Conforms (record.note parse ((event, sends), output)) next := by
  obtain ⟨noFrames, noMail, nothing⟩ := fresh
  unfold Gateway.announce at announced
  cases sends with
  | true =>
      obtain ⟨rfl, rfl⟩ := Prod.mk.inj announced
      refine ⟨⟨?_, latest, ?_⟩, ?_⟩
      · rcases asked with ⟨created, mailed⟩ | ⟨subscribed, mailed⟩
        · refine ⟨.create, [], ?_, .inl ⟨rfl, ?_⟩, by simp, ?_⟩
          · simp [Record.note, created]
          · simp [Record.note, noFrames, noMail, mailed]
          · simp [Record.note, nothing, quiet]
        · refine ⟨.subscribe sessionId, [], ?_, .inr ⟨rfl, latest, ?_⟩, by simp, ?_⟩
          · simp [Record.note, subscribed]
          · simp [Record.note, noFrames, noMail, mailed]
          · simp [Record.note, nothing, quiet]
      · simp [Record.note, noFrames]
      · simp [Record.note, noFrames]
  | false =>
      obtain ⟨rfl, rfl⟩ := Prod.mk.inj announced
      refine ⟨?_, by simp [Record.note, noFrames, Output.silent]⟩
      rcases asked with ⟨created, _⟩ | ⟨subscribed, _⟩
      · exact .inl (by simp [Record.note, created, Output.silent])
      · exact .inr ⟨sessionId, by simp [Record.note, subscribed, Output.silent]⟩

/-- In the loop, a handler goes on serving with what it sends and forwards. -/
theorem Conforms.work {sessionId : SessionId} {subscriberId : SubId}
    {event : ConnectionEvent SubId} {sends : Bool} {output : Output SubId}
    (conforms : Conforms record (.connected sessionId subscriberId))
    (work : ∀ command ∈ output.command, command.IsWork sessionId subscriberId)
    (forwarded : output.frame.toList = event.mail) (stays : output.frame ≠ some .subscriberRemoved)
    (appended : output.command.toList.filterMap SessionCommand.payload? = event.appended parse) :
    Conforms (record.note parse ((event, sends), output))
      (.connected sessionId subscriberId) := by
  obtain ⟨served, notRemoved⟩ := conforms
  have work' : ∀ command ∈ output.command.toList, command.IsWork sessionId subscriberId :=
    fun command member => work command (Option.mem_toList.mp member)
  have more := served.append work' output.frame.toList
  refine ⟨?_, ?_⟩
  · rw [appended] at more
    simpa only [Record.note, forwarded] using more
  · simp only [Record.note, List.mem_append, not_or, Option.mem_toList]
    exact ⟨notRemoved, stays⟩

/-- A handler that leaves its loop unsubscribes, after at most one message that it could not
forward. -/
theorem Conforms.leave {sessionId : SessionId} {subscriberId : SubId}
    {event : ConnectionEvent SubId} {sends : Bool} {frame : Option SessionGatewayMessage}
    (conforms : Conforms record (.connected sessionId subscriberId))
    (forwarded : frame.toList <+: event.mail) (single : event.mail.length ≤ frame.toList.length + 1)
    (quiet : event.appended parse = []) :
    Conforms
      (record.note parse ((event, sends), (Gateway.leave sessionId subscriberId frame).2))
      (.left sessionId subscriberId) := by
  obtain ⟨served, notRemoved⟩ := conforms
  have nothing : ∀ command ∈ ([] : List (SessionCommand SubId)),
      command.IsWork sessionId subscriberId := by simp
  have more := served.append nothing frame.toList
  refine ⟨record.commands, record.mail ++ frame.toList, rfl, ?_, ?_, ?_, ?_⟩
  · simpa [Record.note, Gateway.leave, quiet] using more
  · exact (List.prefix_append_right_inj _).mpr forwarded
  · simp only [Record.note, List.length_append]
    omega
  · simp only [Record.note, Gateway.leave]
    cases frame with
    | none =>
        rw [Option.toList_none, List.append_nil]
        exact fun member => notRemoved (List.dropLast_subset _ member)
    | some message =>
        rw [Option.toList_some, List.dropLast_concat]
        exact notRemoved

/-- One reaction keeps a handler within its rules. -/
theorem Conforms.react {before after : SessionConnection SubId} {event : ConnectionEvent SubId}
    {sends : Bool} {output : Output SubId}
    (reacts : react parse before event sends = some (after, output))
    (conforms : Conforms record before) :
    Conforms (record.note parse ((event, sends), output)) after := by
  unfold Gateway.react at reacts
  split at reacts
  · -- the handshake timed out
    cases reacts
    obtain ⟨noCommand, noFrame, _, _⟩ := conforms
    exact ⟨.inl (by simp [Record.note, noCommand, Output.silent]),
      by simp [Record.note, noFrame, Output.silent]⟩
  · rename_i text
    obtain ⟨noCommand, noFrame, noMail, nothing⟩ := conforms
    have told := Option.some.inj reacts
    unfold shakeHands at told
    split at told
    · rename_i parsed
      cases told
      simp [Conforms, Record.note, noCommand, noFrame, noMail, nothing, ConnectionEvent.mail,
        ConnectionEvent.appended, parsed]
    · rename_i parsed
      cases told
      simp [Conforms, Record.note, noCommand, noFrame, noMail, nothing, ConnectionEvent.mail,
        ConnectionEvent.appended, parsed]
    · cases told
      refine ⟨.inl (by simp [Record.note, noCommand]), ?_⟩
      cases sends <;> simp [Record.note, noFrame]
  · cases reacts
    obtain ⟨noCommand, noFrame, _, _⟩ := conforms
    exact ⟨.inl (by simp [Record.note, noCommand, Output.silent]),
      by simp [Record.note, noFrame, Output.silent]⟩
  · cases reacts
    obtain ⟨created, noFrame, _, _⟩ := conforms
    exact ⟨.inr (.inl (by simp [Record.note, created, Output.silent])),
      by simp [Record.note, noFrame, Output.silent]⟩
  · cases reacts
    simpa [Conforms, Record.note, Output.silent, ConnectionEvent.mail,
      ConnectionEvent.appended] using conforms
  · obtain ⟨created, noFrame, noMail, nothing⟩ := conforms
    exact Conforms.announce (Option.some.inj reacts) (.inl ⟨created, rfl⟩)
      ⟨noFrame, noMail, nothing⟩ rfl
  · -- the first message was not `Subscribed`
    cases reacts
    obtain ⟨created, noFrame, _, _⟩ := conforms
    exact ⟨.inl (by simp [Record.note, created, Output.silent]),
      by simp [Record.note, noFrame, Output.silent]⟩
  · rename_i sessionId
    cases reacts
    obtain ⟨subscribed, noFrame, _, _⟩ := conforms
    exact ⟨.inr (.inr ⟨sessionId, by simp [Record.note, subscribed, Output.silent]⟩),
      by simp [Record.note, noFrame, Output.silent]⟩
  · obtain ⟨subscribed, noFrame, noMail, nothing⟩ := conforms
    exact Conforms.announce (Option.some.inj reacts) (.inr ⟨subscribed, rfl⟩)
      ⟨noFrame, noMail, nothing⟩ rfl
  · rename_i message
    have told := Option.some.inj reacts
    unfold forward at told
    split at told
    · split at told
      · cases told
        exact conforms.leave (by simp [ConnectionEvent.mail]) (by simp [ConnectionEvent.mail]) rfl
      · rename_i stays
        cases told
        exact conforms.work (by simp) rfl (by simpa using stays) rfl
    · cases told
      exact conforms.leave (by simp [ConnectionEvent.mail]) (by simp [ConnectionEvent.mail]) rfl
  · cases reacts
    exact conforms.leave (by simp [ConnectionEvent.mail]) (by simp [ConnectionEvent.mail]) rfl
  · have told := Option.some.inj reacts
    unfold dispatch at told
    split at told
    · rename_i payload parsed
      cases told
      refine conforms.work ?_ rfl (by simp) ?_
      · simp [SessionCommand.IsWork]
      · simp [ConnectionEvent.appended, parsed, SessionCommand.payload?]
    · rename_i parsed
      cases told
      refine conforms.work ?_ rfl (by simp) ?_
      · simp [SessionCommand.IsWork]
      · simp [ConnectionEvent.appended, parsed, SessionCommand.payload?]
    · rename_i noAppend _
      cases told
      refine conforms.work (by simp [Output.silent]) rfl (by simp [Output.silent]) ?_
      cases parsed : parse _ with
      | none => simp [ConnectionEvent.appended, Output.silent]
      | some message =>
          cases message with
          | append payload => exact absurd parsed (noAppend payload)
          | _ => simp [ConnectionEvent.appended, parsed, Output.silent]
  · cases reacts
    exact conforms.leave (by simp) (by simp [ConnectionEvent.mail]) rfl
  · cases reacts
    exact conforms.leave (by simp) (by simp [ConnectionEvent.mail]) rfl
  · rename_i input _ _ _
    cases reacts
    refine conforms.work (by simp [Output.silent]) rfl (by simp [Output.silent]) ?_
    cases input <;> simp_all [Output.silent, ConnectionEvent.appended]
  · cases reacts
    refine conforms.work ?_ rfl (by simp) rfl
    simp [SessionCommand.IsWork]
  · cases reacts

/-- Over its whole life a handler keeps to its rules: it registers at most once and first of all;
its client hears of the subscription first and then exactly what comes through the channel; every
payload it is asked to append is appended once, in order, to the one session; and when its loop
ends, whatever ended it, it unsubscribes once and does nothing more. -/
theorem session_handler_conforms
    {trace : List ((ConnectionEvent SubId × Bool) × Output SubId)}
    {connection : SessionConnection SubId}
    (life : (connectionHandler parse).Execution trace connection) :
    Conforms (recordOf parse trace) connection := by
  apply life.invariant (I := fun trace connection => Conforms (recordOf parse trace) connection)
  · rintro _ rfl
    exact ⟨rfl, rfl, rfl, rfl⟩
  · intro trace before label after _ conforms step
    rw [recordOf, List.foldl_append]
    exact conforms.react step

end Life

/-- A client whose texts are single words. -/
def readWord (text : String) : Option SessionClientMessage :=
  if text = "subscribe" then some (.subscribe "0000000000000000")
  else if text = "append" then some (.append .null)
  else none

/-- A guest subscribes, appends an entry, sends something malformed, sees the entry and leaves. -/
def guestLife : List (ConnectionEvent Nat × Bool) :=
  [(.socket (.text "subscribe"), true),
    (.subscribed (some { subscriberId := 4, latestEntryIndex := none }), true),
    (.socket (.text "append"), true), (.socket (.text "?"), true),
    (.message (some (.entry 0 .null)), true), (.socket .close, true)]

/-- The guest was served to the end. -/
theorem guest_conforms :
    ∃ trace, (connectionHandler readWord).Execution trace
        (.left (⟨"0000000000000000"⟩ : SessionId) 4) ∧
      trace.map Prod.fst = guestLife ∧
        Conforms (recordOf readWord trace) (.left ⟨"0000000000000000"⟩ 4) := by
  have ran : (TransitionSystem.runPartial
      (fun connection (label : ConnectionEvent Nat × Bool) =>
        react readWord connection label.1 label.2) .handshake guestLife).map
      (fun result => (result.1.map Prod.fst, result.2)) =
      some (guestLife, .left ⟨"0000000000000000"⟩ 4) := by decide +kernel
  obtain ⟨⟨trace, last⟩, ran, same⟩ := Option.map_eq_some_iff.mp ran
  obtain ⟨events, rfl⟩ := Prod.mk.inj same
  have life : (connectionHandler readWord).Execution trace
      (.left (⟨"0000000000000000"⟩ : SessionId) 4) := .of_runPartial rfl ran
  exact ⟨trace, life, events, session_handler_conforms life⟩

end ProstheticConscience.Gateway
