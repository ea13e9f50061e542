/-
Module: ProstheticConscience.ConsensusCli.Session
Purpose: The session client's background task: its connected loop, the reconnects with their
  handshake, and the waits between them, as a state machine.  One step is what the task does between
  two points at which it waits.
Trusted boundary: the texts of websocket and JSON errors are given with the inputs
Main exports: SessionError, SessionLoop, LoopInput, LoopOutput, SessionLoop.step,
  sessionLoop, LoopOutcome, Reports, session_task_reports
-/
import ProstheticConscience.Consensus.SessionProtocol
import ProstheticConscience.ConsensusCli.App
import ProstheticConscience.Library.Backoff
import ProstheticConscience.Protocol

namespace ProstheticConscience.ConsensusCli

open Consensus

/-- Errors of the session client; the texts of the HTTP and websocket libraries are given. -/
inductive SessionError where
  | invalidGatewayUrl (message : String)
  | http (message : String)
  | webSocket (message : String)
  | status (status : Nat) (body : String)
  | protocol (message : String)
  | commandChannelClosed
  | eventChannelClosed
  | disconnected (reason : String)
deriving DecidableEq, Repr

def SessionError.toText : SessionError → String
  | .invalidGatewayUrl message => "invalid gateway URL: " ++ message
  | .http message => "HTTP request failed: " ++ message
  | .webSocket message => "websocket error: " ++ message
  | .status code body => "gateway returned status " ++ toString code ++ ": " ++ body
  | .protocol message => "protocol error: " ++ message
  | .commandChannelClosed => "session command channel closed"
  | .eventChannelClosed => "session event channel closed"
  | .disconnected reason => "session disconnected: " ++ reason

structure SessionEntriesPage where
  startIndex : Nat
  entries : List Value
  total : Nat
deriving DecidableEq, Repr

/-! ### The task -/

/-- In seconds. -/
def backoffInitial : Nat := 1

def backoffMax : Nat := 30

/-- Where the task waits: in its connected loop; for a new connection to open and take the
handshake; for the answer to the handshake; for its timer, with the reason it gives to appends; or
nowhere, when it has returned. -/
inductive LoopPhase where
  | connected
  | connecting
  | handshaking
  | sleeping (reason : String)
  | ended
deriving DecidableEq, Repr

structure SessionLoop where
  phase : LoopPhase
  backoff : Nat
  disconnected : Bool
deriving DecidableEq, Repr

inductive LoopInput where
  /-- An append is taken from the command channel; `sent` is what the websocket would say to it. -/
  | append (payload : Value) (sent : Except String Unit)
  | commandsClosed
  | socket (read : SocketRead)
  /-- A connection is open and has taken the handshake, or that failed. -/
  | opened (result : Except SessionError Unit)
  | timer
deriving DecidableEq

inductive LoopOutput where
  | event (event : SessionEvent)
  | frame (message : SessionClientMessage)
  /-- The answer to an append. -/
  | reply (payload : Value) (result : Except SessionError Unit)
  | sleep (seconds : Nat)
deriving DecidableEq

namespace SessionLoop

/-- The task of a client that has just connected. -/
def start : SessionLoop where
  phase := .connected
  backoff := backoffInitial
  disconnected := false

def finish (loop : SessionLoop) : SessionLoop × List LoopOutput :=
  ({ loop with phase := .ended }, [])

/-- Put an event on the channel and go on; when nobody listens, the task returns. -/
def tell (loop next : SessionLoop) (listening : Bool) (event : SessionEvent) :
    SessionLoop × List LoopOutput :=
  if listening then (next, [.event event]) else loop.finish

/-- The connected loop ends with a reason. -/
def lose (loop : SessionLoop) (listening : Bool) (reason : String) :
    SessionLoop × List LoopOutput :=
  loop.tell { loop with phase := .connecting, disconnected := true } listening
    (.disconnected reason)

/-- A reconnect failed. -/
def retryLater (loop : SessionLoop) (listening : Bool) (error : SessionError) :
    SessionLoop × List LoopOutput :=
  let reason := error.toText
  let asleep := { loop with phase := .sleeping reason, disconnected := true }
  if loop.disconnected then (asleep, [.sleep loop.backoff])
  else if listening then (asleep, [.event (.disconnected reason), .sleep loop.backoff])
  else loop.finish

/-- A reconnect succeeded. -/
def resume (loop : SessionLoop) (listening : Bool) : SessionLoop × List LoopOutput :=
  loop.tell { loop with phase := .connected, backoff := backoffInitial } listening .reconnected

section Step

variable (parse : String → Except String SessionGatewayMessage) (sessionId : String)

/-- A frame in the connected loop. -/
def readConnected (loop : SessionLoop) (listening : Bool) :
    SocketRead → SessionLoop × List LoopOutput
  | .text text =>
      match parse text with
      | .error error => loop.lose listening ("failed to parse session message: " ++ error)
      | .ok (.entry index payload) => loop.tell loop listening (.entry index payload)
      | .ok (.error message) => loop.tell loop listening (.warning message)
      | .ok .subscriberRemoved => loop.lose listening "subscriber removed by gateway"
      | .ok (.subscribed _ _) => (loop, [])
  | .close => loop.lose listening "gateway sent close frame"
  | .other => (loop, [])
  | .failed error => loop.lose listening ("websocket read error: " ++ error)
  | .ended => loop.lose listening "gateway closed session websocket"

/-- A frame while the handshake is not answered.  An answer for another session is an error. -/
def readHandshake (loop : SessionLoop) (listening : Bool) :
    SocketRead → SessionLoop × List LoopOutput
  | .text text =>
      match parse text with
      | .error error =>
          loop.retryLater listening (.protocol ("failed to parse handshake response: " ++ error))
      | .ok (.subscribed returnedSessionId _) =>
          if returnedSessionId = sessionId then loop.resume listening
          else
            loop.retryLater listening
              (.protocol ("reconnected to unexpected session " ++ returnedSessionId))
      | .ok (.error message) => loop.retryLater listening (.protocol message)
      | .ok .subscriberRemoved =>
          loop.retryLater listening (.protocol "subscriber removed during handshake")
      | .ok (.entry _ _) => (loop, [])
  | .close =>
      loop.retryLater listening
        (.protocol "gateway closed session websocket during handshake")
  | .other => (loop, [])
  | .failed error => loop.retryLater listening (.webSocket error)
  | .ended =>
      loop.retryLater listening (.protocol "session websocket closed during handshake")

/-- An append in the connected loop. -/
def sendAppend (loop : SessionLoop) (listening : Bool) (payload : Value) :
    Except String Unit → SessionLoop × List LoopOutput
  | .ok () => (loop, [.frame (.append payload), .reply payload (.ok ())])
  | .error error =>
      let reason := "failed to send append over websocket: " ++ error
      let (next, outputs) := loop.lose listening reason
      (next, .reply payload (.error (.disconnected reason)) :: outputs)

/-- What the task does with an input, where `listening` tells whether its events are still
received; `none` when it does not wait for such an input. -/
def step (loop : SessionLoop) (input : LoopInput) (listening : Bool) :
    Option (SessionLoop × List LoopOutput) :=
  match loop.phase, input with
  | .connected, .append payload sent => some (loop.sendAppend listening payload sent)
  | .connected, .commandsClosed => some loop.finish
  | .connected, .socket read => some (loop.readConnected parse listening read)
  | .connecting, .opened (.ok ()) =>
      some ({ loop with phase := .handshaking }, [.frame (.subscribe sessionId)])
  | .connecting, .opened (.error error) => some (loop.retryLater listening error)
  | .handshaking, .socket read => some (loop.readHandshake parse sessionId listening read)
  | .sleeping reason, .append payload _ =>
      some (loop, [.reply payload (.error (.disconnected reason))])
  | .sleeping _, .commandsClosed => some loop.finish
  | .sleeping _, .timer =>
      some ({ loop with phase := .connecting, backoff := min (loop.backoff * 2) backoffMax }, [])
  | _, _ => none

end Step

end SessionLoop

section Task

variable (parse : String → Except String SessionGatewayMessage) (sessionId : String)

/-- The task as a transition system, labelled with its inputs and outputs. -/
def sessionLoop : TransitionSystem SessionLoop ((LoopInput × Bool) × List LoopOutput) :=
  .ofPartial (· = .start) fun loop (input, listening) =>
    loop.step parse sessionId input listening

end Task

/-! ### What the task reports

`LoopTurn` says what one step may add to the reports, the answers and the waits; one lemma per
branch of the loop. -/

def LoopInput.appended : LoopInput → List Value
  | .append payload _ => [payload]
  | _ => []

namespace LoopOutput

def event? : LoopOutput → Option SessionEvent
  | .event told => some told
  | _ => none

def frame? : LoopOutput → Option SessionClientMessage
  | .frame message => some message
  | _ => none

def reply? : LoopOutput → Option (Value × Except SessionError Unit)
  | .reply payload result => some (payload, result)
  | _ => none

/-- The delays since the last reconnect, after one more output. -/
def addDelay (delays : List Nat) : LoopOutput → List Nat
  | .event .reconnected => []
  | .sleep seconds => delays ++ [seconds]
  | _ => delays

end LoopOutput

/-- Whether the connection is up after an event, as a listener knows it; `none` when the event does
not make sense to the listener. -/
def reportStatus : Bool → SessionEvent → Option Bool
  | true, .entry _ _ => some true
  | true, .warning _ => some true
  | true, .disconnected _ => some false
  | false, .reconnected => some true
  | _, _ => none

def appendPayload? : SessionClientMessage → Option Value
  | .append payload => some payload
  | _ => none

def acceptedPayload? : Value × Except SessionError Unit → Option Value
  | (payload, .ok ()) => some payload
  | (_, .error _) => none

namespace SessionLoop

/-- What a listener knows is so; and a task without a connection has told that it was lost. -/
def Status (loop : SessionLoop) (up : Bool) : Prop :=
  match loop.phase with
  | .connected => up = true
  | .ended => True
  | _ => up = false ∧ loop.disconnected = true

/-- The delays since the last reconnect double from the first on up to the longest. -/
def Waited (loop : SessionLoop) (delays : List Nat) : Prop :=
  match loop.phase with
  | .sleeping _ =>
      ∃ count, delays = backoffDelays backoffInitial backoffMax (count + 1) ∧
        loop.backoff = backoffDelay backoffInitial backoffMax count
  | .ended => ∃ count, delays = backoffDelays backoffInitial backoffMax count
  | _ =>
      ∃ count, delays = backoffDelays backoffInitial backoffMax count ∧
        loop.backoff = backoffDelay backoffInitial backoffMax count

end SessionLoop

/-- What one turn of the task does to the knowledge of those it talks to. -/
structure LoopTurn (sessionId : String) (before : SessionLoop) (input : LoopInput)
    (listening : Bool) (after : SessionLoop) (now : List LoopOutput) : Prop where
  status : ∀ up, before.Status up →
    ∃ up', (now.filterMap LoopOutput.event?).foldlM reportStatus up = some up' ∧ after.Status up'
  answered : (now.filterMap LoopOutput.reply?).map Prod.fst = input.appended
  sent : (now.filterMap LoopOutput.frame?).filterMap appendPayload? =
    (now.filterMap LoopOutput.reply?).filterMap acceptedPayload?
  shaken : ∀ frame ∈ now.filterMap LoopOutput.frame?,
    (∃ payload, frame = .append payload) ∨ frame = .subscribe sessionId
  waited : ∀ delays, before.Waited delays → after.Waited (now.foldl LoopOutput.addDelay delays)
  ends : after.phase = .ended → before.phase = .ended ∨ input = .commandsClosed ∨ listening = false

/-- What going on, losing the connection, resuming or giving up for a while amounts to: events and a
delay, but no frame and no answer. -/
structure LoopOutcome (before : SessionLoop) (listening : Bool)
    (result : SessionLoop × List LoopOutput) : Prop where
  status : ∀ up, before.Status up →
    ∃ up', (result.2.filterMap LoopOutput.event?).foldlM reportStatus up = some up' ∧
      result.1.Status up'
  waited : ∀ delays, before.Waited delays →
    result.1.Waited (result.2.foldl LoopOutput.addDelay delays)
  noFrame : result.2.filterMap LoopOutput.frame? = []
  noReply : result.2.filterMap LoopOutput.reply? = []
  ends : result.1.phase = .ended → before.phase = .ended ∨ listening = false

/-- A loop that ends need not have waited for anything. -/
theorem SessionLoop.Waited.finish {loop : SessionLoop} {delays : List Nat}
    (waited : loop.Waited delays) : loop.finish.1.Waited delays := by
  unfold Waited at waited
  split at waited
  · obtain ⟨count, delaysEq, _⟩ := waited
    exact ⟨count + 1, delaysEq⟩
  · exact waited
  · obtain ⟨count, delaysEq, _⟩ := waited
    exact ⟨count, delaysEq⟩

namespace LoopOutcome

open SessionLoop

variable {loop next : SessionLoop} {listening : Bool}

/-- A task whose listener is gone returns without a word. -/
theorem finish (deaf : listening = false) : LoopOutcome loop listening loop.finish where
  status up _ := ⟨up, rfl, trivial⟩
  waited _ waited := waited.finish
  noFrame := rfl
  noReply := rfl
  ends _ := .inr deaf

/-- A task that tells an event does what telling it amounts to, unless nobody listens; then it
returns. -/
theorem tell {event : SessionEvent}
    (status : ∀ up, loop.Status up → ∃ up', reportStatus up event = some up' ∧ next.Status up')
    (waited : ∀ delays, loop.Waited delays →
      next.Waited (LoopOutput.addDelay delays (.event event)))
    (ends : next.phase = .ended → loop.phase = .ended) :
    LoopOutcome loop listening (loop.tell next listening event) := by
  unfold SessionLoop.tell
  split
  · refine ⟨fun up known => ?_, waited, rfl, rfl, fun ended => .inl (ends ended)⟩
    obtain ⟨up', reported, known'⟩ := status up known
    refine ⟨up', ?_, known'⟩
    simp only [List.filterMap_cons, LoopOutput.event?, List.filterMap_nil, List.foldlM_cons,
      reported]
    rfl
  · exact .finish (eq_false_of_ne_true ‹_›)

/-- A connected task that loses the connection says so and prepares the next attempt. -/
theorem lose (connected : loop.phase = .connected) (reason : String) :
    LoopOutcome loop listening (loop.lose listening reason) := by
  refine .tell (fun up known => ?_) (fun delays waited => ?_) nofun
  · simp only [Status, connected] at known
    subst known
    exact ⟨false, rfl, rfl, rfl⟩
  · simpa only [Waited, connected, LoopOutput.addDelay] using waited

/-- An attempt that failed is followed by a wait, the longer the more attempts have failed. -/
theorem retryLater (down : loop.phase = .connecting ∨ loop.phase = .handshaking)
    (error : SessionError) : LoopOutcome loop listening (loop.retryLater listening error) := by
  have known : ∀ up, loop.Status up → up = false ∧ loop.disconnected = true := by
    rcases down with phase | phase <;> simp [Status, phase]
  have backoff : ∀ delays, loop.Waited delays →
      ∃ count, delays = backoffDelays backoffInitial backoffMax count ∧
        loop.backoff = backoffDelay backoffInitial backoffMax count := by
    rcases down with phase | phase <;> simp [Waited, phase]
  have delayed : ∀ delays, loop.Waited delays →
      ∃ count, delays ++ [loop.backoff] = backoffDelays backoffInitial backoffMax (count + 1) ∧
        loop.backoff = backoffDelay backoffInitial backoffMax count := by
    intro delays waited
    obtain ⟨count, rfl, delay⟩ := backoff delays waited
    exact ⟨count, by rw [backoffDelays_succ, ← delay], delay⟩
  unfold SessionLoop.retryLater
  split
  · refine ⟨fun up status => ⟨false, ?_, rfl, rfl⟩, delayed, rfl, rfl, nofun⟩
    rw [(known up status).1]
    rfl
  · rename_i silent
    split
    · exact ⟨fun up status => absurd (known up status).2 silent, delayed, rfl, rfl, nofun⟩
    · exact .finish (eq_false_of_ne_true ‹_›)

/-- A handshake that succeeds ends the outage; the waits start again from the first one. -/
theorem resume (down : loop.phase = .connecting ∨ loop.phase = .handshaking) :
    LoopOutcome loop listening (loop.resume listening) := by
  refine .tell (fun up status => ⟨true, ?_, rfl⟩) (fun delays _ => ⟨0, rfl, ?_⟩) nofun
  · have known : up = false := by
      rcases down with phase | phase <;>
        simp only [Status, phase] at status <;> exact status.1
    subst known
    rfl
  · exact (@backoffDelay_zero 1 30 (by decide)).symm

/-- A task that takes no notice of its input is still what it was. -/
theorem stay (running : loop.phase ≠ .ended) : LoopOutcome loop listening (loop, []) where
  status up known := ⟨up, rfl, known⟩
  waited _ waited := waited
  noFrame := rfl
  noReply := rfl
  ends ended := absurd ended running

/-- What a connected task makes of anything that it reads. -/
theorem readConnected (parse : String → Except String SessionGatewayMessage)
    (connected : loop.phase = .connected) (read : SocketRead) :
    LoopOutcome loop listening (loop.readConnected parse listening read) := by
  have running : loop.phase ≠ .ended := by simp [connected]
  have shown : ∀ {event : SessionEvent}, reportStatus true event = some true →
      (∀ delays, LoopOutput.addDelay delays (.event event) = delays) →
        LoopOutcome loop listening (loop.tell loop listening event) := by
    intro event up kept
    refine .tell (fun up' known => ?_) (fun delays waited => (kept delays).symm ▸ waited)
      fun ended => ended
    obtain rfl : up' = true := by simpa only [Status, connected] using known
    exact ⟨true, up, known⟩
  cases read with
  | text text =>
      simp only [SessionLoop.readConnected]
      split
      · exact .lose connected _
      · exact shown rfl fun _ => rfl
      · exact shown rfl fun _ => rfl
      · exact .lose connected _
      · exact .stay running
  | other => exact .stay running
  | close => exact .lose connected _
  | failed error => exact .lose connected _
  | ended => exact .lose connected _

/-- What a task makes of anything that it reads in answer to its subscription. -/
theorem readHandshake (parse : String → Except String SessionGatewayMessage) (sessionId : String)
    (handshaking : loop.phase = .handshaking) (read : SocketRead) :
    LoopOutcome loop listening (loop.readHandshake parse sessionId listening read) := by
  have running : loop.phase ≠ .ended := by simp [handshaking]
  cases read with
  | text text =>
      simp only [SessionLoop.readHandshake]
      split
      · exact .retryLater (.inr handshaking) _
      · split
        · exact .resume (.inr handshaking)
        · exact .retryLater (.inr handshaking) _
      · exact .retryLater (.inr handshaking) _
      · exact .retryLater (.inr handshaking) _
      · exact .stay running
  | other => exact .stay running
  | close => exact .retryLater (.inr handshaking) _
  | failed error => exact .retryLater (.inr handshaking) _
  | ended => exact .retryLater (.inr handshaking) _

end LoopOutcome

namespace LoopTurn

open SessionLoop

variable {sessionId : String} {before after : SessionLoop} {input : LoopInput} {listening : Bool}
  {now : List LoopOutput}

/-- What is read by the task is not an append, so that only its outcome counts for the turn. -/
theorem of_outcome (outcome : LoopOutcome before listening (after, now))
    (noAppend : input.appended = []) : LoopTurn sessionId before input listening after now where
  status := outcome.status
  answered := by rw [outcome.noReply, noAppend]; rfl
  sent := by rw [outcome.noFrame, outcome.noReply]; rfl
  shaken := by rw [outcome.noFrame]; nofun
  waited := outcome.waited
  ends ended := (outcome.ends ended).imp_right .inr

/-- An answer to an append before what else happens. -/
theorem of_refused {payload : Value} {sent : Except String Unit} {error : SessionError}
    (outcome : LoopOutcome before listening (after, now)) :
    LoopTurn sessionId before (.append payload sent) listening after
      (.reply payload (.error error) :: now) where
  status := outcome.status
  answered := by
    change payload :: (now.filterMap LoopOutput.reply?).map Prod.fst = [payload]
    rw [outcome.noReply]
    rfl
  sent := by
    change (now.filterMap LoopOutput.frame?).filterMap appendPayload? =
      (now.filterMap LoopOutput.reply?).filterMap acceptedPayload?
    rw [outcome.noFrame, outcome.noReply]
    rfl
  shaken := by
    change ∀ frame ∈ now.filterMap LoopOutput.frame?, _
    rw [outcome.noFrame]
    nofun
  waited := outcome.waited
  ends ended := (outcome.ends ended).imp_right .inr

/-- When the commands are closed the task returns at once. -/
theorem closed : LoopTurn sessionId before .commandsClosed listening before.finish.1 [] where
  status up _ := ⟨up, rfl, trivial⟩
  answered := rfl
  sent := rfl
  shaken := nofun
  waited _ waited := waited.finish
  ends _ := .inr (.inl rfl)

/-- Every step of the task is a turn. -/
theorem of_step {parse : String → Except String SessionGatewayMessage}
    (steps : before.step parse sessionId input listening = some (after, now)) :
    LoopTurn sessionId before input listening after now := by
  unfold step at steps
  split at steps
  · -- an append in the connected loop
    rename_i payload sent connected
    cases sent with
    | ok accepted =>
        obtain ⟨rfl, rfl⟩ := Prod.mk.inj (Option.some.inj steps)
        exact
          { status := fun up known => ⟨up, rfl, known⟩
            answered := rfl
            sent := rfl
            shaken := by simp [LoopOutput.frame?]
            waited := fun _ waited => waited
            ends := fun ended => .inl ended }
    | error error =>
        obtain ⟨rfl, rfl⟩ := Prod.mk.inj (Option.some.inj steps)
        exact .of_refused (.lose connected _)
  · obtain ⟨rfl, rfl⟩ := Prod.mk.inj (Option.some.inj steps)
    exact .closed
  · rename_i read connected
    have outcome : LoopOutcome before listening _ := .readConnected parse connected read
    rw [Option.some.inj steps] at outcome
    exact .of_outcome outcome rfl
  · -- the handshake is sent
    rename_i connecting
    obtain ⟨rfl, rfl⟩ := Prod.mk.inj (Option.some.inj steps)
    exact
      { status := fun up known => ⟨up, rfl, by simpa only [Status, connecting] using known⟩
        answered := rfl
        sent := rfl
        shaken := by simp [LoopOutput.frame?]
        waited := fun _ waited => by
          simpa only [Waited, connecting, List.foldl_cons, List.foldl_nil, LoopOutput.addDelay]
            using waited
        ends := nofun }
  · rename_i error connecting
    have outcome : LoopOutcome before listening _ := .retryLater (.inl connecting) error
    rw [Option.some.inj steps] at outcome
    exact .of_outcome outcome rfl
  · rename_i read handshaking
    have outcome : LoopOutcome before listening _ :=
      .readHandshake parse sessionId handshaking read
    rw [Option.some.inj steps] at outcome
    exact .of_outcome outcome rfl
  · rename_i reason payload sent sleeping
    obtain ⟨rfl, rfl⟩ := Prod.mk.inj (Option.some.inj steps)
    exact .of_refused (.stay (by simp [sleeping]))
  · obtain ⟨rfl, rfl⟩ := Prod.mk.inj (Option.some.inj steps)
    exact .closed
  · -- the timer
    rename_i reason sleeping
    obtain ⟨rfl, rfl⟩ := Prod.mk.inj (Option.some.inj steps)
    refine
      { status := fun up known => ⟨up, rfl, by simpa only [Status, sleeping] using known⟩
        answered := rfl
        sent := rfl
        shaken := nofun
        waited := fun delays waited => ?_
        ends := nofun }
    obtain ⟨count, delaysEq, delay⟩ : ∃ count,
        delays = backoffDelays backoffInitial backoffMax (count + 1) ∧
          before.backoff = backoffDelay backoffInitial backoffMax count := by
      simpa only [Waited, sleeping] using waited
    exact ⟨count + 1, delaysEq, by rw [backoffDelay_succ, ← delay]⟩
  · cases steps

end LoopTurn

/-! ### Whole runs

The invariant over runs is the sum of the turns: outputs are appended, and each clause of `Reports`
is a property of their whole sequence. -/

def appendsOf (trace : List ((LoopInput × Bool) × List LoopOutput)) : List Value :=
  trace.flatMap fun label => label.1.1.appended

def outputsOf (trace : List ((LoopInput × Bool) × List LoopOutput)) : List LoopOutput :=
  trace.flatMap Prod.snd

/-- What a run of the task amounts to. -/
structure Reports (sessionId : String) (trace : List ((LoopInput × Bool) × List LoopOutput))
    (loop : SessionLoop) : Prop where
  /-- The events make sense to a listener, who knows at every point whether the connection is up. -/
  status : ∃ up, ((outputsOf trace).filterMap LoopOutput.event?).foldlM reportStatus true =
    some up ∧ loop.Status up
  /-- Every append is answered, in order, and once. -/
  answered : ((outputsOf trace).filterMap LoopOutput.reply?).map Prod.fst = appendsOf trace
  /-- What was sent is what was said to be sent. -/
  sent : ((outputsOf trace).filterMap LoopOutput.frame?).filterMap appendPayload? =
    ((outputsOf trace).filterMap LoopOutput.reply?).filterMap acceptedPayload?
  /-- Every handshake joins the one session. -/
  shaken : ∀ frame ∈ (outputsOf trace).filterMap LoopOutput.frame?,
    (∃ payload, frame = .append payload) ∨ frame = .subscribe sessionId
  waited : loop.Waited ((outputsOf trace).foldl LoopOutput.addDelay [])
  /-- The task returns only when the client is gone. -/
  ends : loop.phase = .ended →
    ∃ label ∈ trace, label.1.1 = .commandsClosed ∨ label.1.2 = false

/-- Whatever the gateway, the network and the client do, the session task reports losses and
reconnects in turn and everything else between them, answers every append once and truthfully, waits
longer and longer between the attempts of one outage, and returns only when its client is gone. -/
theorem session_task_reports {parse : String → Except String SessionGatewayMessage}
    {sessionId : String} {trace : List ((LoopInput × Bool) × List LoopOutput)}
    {loop : SessionLoop} (run : (sessionLoop parse sessionId).Execution trace loop) :
    Reports sessionId trace loop := by
  refine run.invariant (I := fun trace loop => Reports sessionId trace loop) ?_ ?_
  · rintro _ rfl
    exact
      { status := ⟨true, rfl, rfl⟩
        answered := rfl
        sent := rfl
        shaken := nofun
        waited := ⟨0, rfl, (@backoffDelay_zero 1 30 (by decide)).symm⟩
        ends := nofun }
  · rintro trace before ⟨⟨input, listening⟩, now⟩ after _ reports steps
    have turn := LoopTurn.of_step steps
    have outputs : outputsOf (trace ++ [((input, listening), now)]) = outputsOf trace ++ now := by
      simp [outputsOf]
    have appends : appendsOf (trace ++ [((input, listening), now)]) =
        appendsOf trace ++ input.appended := by
      simp [appendsOf]
    constructor
    · obtain ⟨up, told, known⟩ := reports.status
      obtain ⟨up', told', known'⟩ := turn.status up known
      refine ⟨up', ?_, known'⟩
      rw [outputs, List.filterMap_append, List.foldlM_append, told]
      exact told'
    · rw [outputs, appends, List.filterMap_append, List.map_append, reports.answered,
        turn.answered]
    · simp only [outputs, List.filterMap_append, reports.sent, turn.sent]
    · intro frame member
      rw [outputs, List.filterMap_append, List.mem_append] at member
      exact member.elim (reports.shaken frame) (turn.shaken frame)
    · rw [outputs, List.foldl_append]
      exact turn.waited _ reports.waited
    · intro ended
      rcases turn.ends ended with earlier | gone
      · obtain ⟨label, member, gone⟩ := reports.ends earlier
        exact ⟨label, List.mem_append_left _ member, gone⟩
      · exact ⟨_, List.mem_append_right _ List.mem_cons_self, gone⟩

/-- A gateway whose texts are single words. -/
def readSessionWord (text : String) : Except String SessionGatewayMessage :=
  if text = "subscribed" then .ok (.subscribed "0000000000000000" none)
  else if text = "entry" then .ok (.entry 0 .null)
  else .error "expected value at line 1 column 1"

/-- An append is sent, the connection is lost, two reconnects fail with an append between them, the
third succeeds, and the client leaves. -/
def outage : List (LoopInput × Bool) :=
  [(.append .null (.ok ()), true), (.socket .ended, true),
    (.opened (.error (.webSocket "refused")), true), (.append .null (.ok ()), true),
    (.timer, true), (.opened (.ok ()), true), (.socket .close, true), (.timer, true),
    (.opened (.ok ()), true), (.socket (.text "subscribed"), true),
    (.socket (.text "entry"), true), (.commandsClosed, true)]

/-- A connection that is lost, a first attempt that fails, and a second one that succeeds, before
the client leaves. -/
theorem outage_reported :
    ∃ trace, (sessionLoop readSessionWord "0000000000000000").Execution trace
        { phase := .ended, backoff := 1, disconnected := true } ∧
      trace.map Prod.fst = outage ∧
        Reports "0000000000000000" trace
          { phase := .ended, backoff := 1, disconnected := true } := by
  have ran : (TransitionSystem.runPartial
      (fun loop (label : LoopInput × Bool) =>
        SessionLoop.step readSessionWord "0000000000000000" loop label.1 label.2) .start outage).map
      (fun result => (result.1.map Prod.fst, result.2)) =
      some (outage, { phase := .ended, backoff := 1, disconnected := true }) := by
    decide +kernel
  obtain ⟨⟨trace, last⟩, ran, same⟩ := Option.map_eq_some_iff.mp ran
  obtain ⟨inputs, rfl⟩ := Prod.mk.inj same
  have run : (sessionLoop readSessionWord "0000000000000000").Execution trace
      { phase := .ended, backoff := 1, disconnected := true } := .of_runPartial rfl ran
  exact ⟨trace, run, inputs, session_task_reports run⟩

end ProstheticConscience.ConsensusCli
