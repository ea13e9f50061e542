/-
Module: ProstheticConscience.Gateway.WorkerConnection
Purpose: One worker websocket: the worker handler with its relay on the gateway's side, the job
  loop on the worker's side and a first-in-first-out channel each way.  Jobs are numbered in the
  order of dispatch and every worker message carries the number of the job it was produced for;
  the numbers are bookkeeping of the model, no frame of the protocol has them.
Trusted boundary: none
Main exports: Connection, ConnectionAction, Relayed, connectionStep, connectionSystem
-/
import ProstheticConscience.Gateway.Relay

namespace ProstheticConscience.Gateway

/-- A dispatched job and its number. -/
structure NumberedJob (SId : Type) where
  serial : Nat
  clientStreamId : SId
  capability : Capability
  payload : Value
deriving DecidableEq, Repr

/-- A frame from the worker: a message and the number of the job it was sent for, or a ping, pong
or binary frame. -/
inductive WorkerFrame where
  | text (origin : Nat) (message : WorkerMessage)
  | control
deriving DecidableEq, Repr

/-- The worker handler: waiting with what its oneshot channel holds, relaying a job, or left. -/
inductive HandlerPhase (SId : Type) where
  | idle (pendingJob : Option (NumberedJob SId))
  | relaying (job : NumberedJob SId)
  | exited
deriving DecidableEq, Repr

/-- The worker's job loop: waiting for a job, streaming a completion, transcribing (before and
after the chunk), or disconnected. -/
inductive WorkerPhase where
  | waiting
  | chat (serial : Nat)
  | transcribing (serial : Nat)
  | transcribed (serial : Nat)
  | gone
deriving DecidableEq, Repr

structure Connection (SId : Type) where
  toWorker : List (NumberedJob SId)
  toGateway : List WorkerFrame
  worker : WorkerPhase
  handler : HandlerPhase SId
  nextSerial : Nat
  /-- The jobs whose client dropped its receiver. -/
  hungUp : List Nat
deriving DecidableEq, Repr

/-- A fresh connection, its worker registered. -/
def Connection.new (SId : Type) : Connection SId where
  toWorker := []
  toGateway := []
  worker := .waiting
  handler := .idle none
  nextSerial := 0
  hungUp := []

inductive ConnectionAction (SId : Type) where
  /-- The runtime sends a job through the oneshot channel. -/
  | dispatch (clientStreamId : SId) (capability : Capability) (payload : Value)
  /-- The runtime drops the oneshot channel. -/
  | dropPending
  /-- The client of a job drops its receiver. -/
  | hangUp (serial : Nat)
  /-- The handler takes the job up and sends the job frame, which may fail. -/
  | takeJob (accepted : Bool)
  /-- The handler reads a frame while idle. -/
  | readIdle
  /-- The relay reads a frame; when it returns, the runtime may be found closed. -/
  | readRelay (registered : Bool)
  /-- The handler or its relay finds the websocket closed. -/
  | readClosed
  /-- A heartbeat of the handler or of the relay. -/
  | heartbeat (delivered : Bool)
  /-- The worker takes a job frame up. -/
  | workerTakes
  | workerSends (message : WorkerMessage)
  | workerControl
  /-- The connection is lost: the worker is gone and only some of its frames arrive. -/
  | lose (delivered : Nat)
deriving DecidableEq, Repr

/-- What the relay of a job did with a worker message. -/
structure Relayed where
  serial : Nat
  origin : Nat
  message : WorkerMessage
  sent : Option StreamFrame
  outcome : Option RelayOutcome
deriving DecidableEq, Repr

variable {SId : Type}

/-- The job whose messages the worker is sending. -/
def WorkerPhase.serial? : WorkerPhase → Option Nat
  | .chat serial => some serial
  | .transcribing serial => some serial
  | .transcribed serial => some serial
  | .waiting => none
  | .gone => none

/-- `job_loop`: which of its two programs a job starts. -/
def startJob (job : NumberedJob SId) : WorkerPhase :=
  match job.capability with
  | .chat => .chat job.serial
  | .transcription => .transcribing job.serial

/-- `process_chat_job` and `process_transcription_job`: the messages each may send next.  A chat
sends chunks until its end or an error; a transcription sends one chunk and its end, or an
error. -/
def WorkerPhase.send : WorkerPhase → WorkerMessage → Option WorkerPhase
  | .chat serial, .chunk _ => some (.chat serial)
  | .chat _, .end => some .waiting
  | .chat _, .error _ => some .waiting
  | .transcribing serial, .chunk _ => some (.transcribed serial)
  | .transcribing _, .error _ => some .waiting
  | .transcribed _, .end => some .waiting
  | _, _ => none

/-- Where the handler goes when the relay returned: registered again, unless the outcome or the
runtime ends the connection. -/
def afterRelay (registered : Bool) (outcome : RelayOutcome) : HandlerPhase SId :=
  if outcome.continues && registered then .idle none else .exited

/-- The relay of a job reads a frame. -/
def relayFrame (hungUp : List Nat) (job : NumberedJob SId) (registered : Bool) :
    WorkerFrame → HandlerPhase SId × Option Relayed
  | .control => (.relaying job, none)
  | .text origin message =>
      let turn := relayMessage (decide (job.serial ∉ hungUp)) message
      (match turn.outcome with
        | none => .relaying job
        | some outcome => afterRelay registered outcome,
        some
          { serial := job.serial, origin, message, sent := turn.sent, outcome := turn.outcome })

/-- One action, with what the relay did if it was the relay's; `none` when the action is not
possible. -/
def connectionStep (conn : Connection SId) :
    ConnectionAction SId → Option (Connection SId × Option Relayed)
  | .dispatch clientStreamId capability payload =>
      match conn.handler with
      | .idle none =>
          let job := { serial := conn.nextSerial, clientStreamId, capability, payload }
          some
            ({ conn with handler := .idle (some job), nextSerial := conn.nextSerial + 1 }, none)
      | _ => none
  | .dropPending =>
      match conn.handler with
      | .idle none => some ({ conn with handler := .exited }, none)
      | _ => none
  | .hangUp serial => some ({ conn with hungUp := serial :: conn.hungUp }, none)
  | .takeJob accepted =>
      match conn.handler with
      | .idle (some job) =>
          if accepted && decide (conn.worker ≠ .gone) then
            some
              ({ conn with toWorker := conn.toWorker ++ [job], handler := .relaying job }, none)
          else if accepted then some ({ conn with handler := .relaying job }, none)
          else some ({ conn with handler := .exited }, none)
      | _ => none
  | .readIdle =>
      match conn.handler, conn.toGateway with
      | .idle _, _ :: rest => some ({ conn with toGateway := rest }, none)
      | _, _ => none
  | .readRelay registered =>
      match conn.handler, conn.toGateway with
      | .relaying job, frame :: rest =>
          let (handler, relayed) := relayFrame conn.hungUp job registered frame
          some ({ conn with toGateway := rest, handler }, relayed)
      | _, _ => none
  | .readClosed =>
      match conn.handler, conn.toGateway, conn.worker with
      | .exited, _, _ => none
      | _, [], .gone => some ({ conn with handler := .exited }, none)
      | _, _, _ => none
  | .heartbeat delivered =>
      match conn.handler, delivered with
      | .exited, _ => none
      | .idle _, false => some ({ conn with handler := .exited }, none)
      | _, _ => some (conn, none)
  | .workerTakes =>
      match conn.worker, conn.toWorker with
      | .waiting, job :: rest => some ({ conn with toWorker := rest, worker := startJob job }, none)
      | _, _ => none
  | .workerSends message =>
      match conn.worker.serial?, conn.worker.send message with
      | some origin, some worker =>
          some ({ conn with toGateway := conn.toGateway ++ [.text origin message], worker }, none)
      | _, _ => none
  | .workerControl =>
      if conn.worker = .gone then none
      else some ({ conn with toGateway := conn.toGateway ++ [.control] }, none)
  | .lose delivered =>
      some
        ({ conn with
            toWorker := []
            toGateway := conn.toGateway.take delivered
            worker := .gone }, none)

/-- The connection as a transition system, labelled with the actions and what the relay did. -/
def connectionSystem (SId : Type) :
    TransitionSystem (Connection SId) (ConnectionAction SId × Option Relayed) :=
  .ofPartial (fun conn => conn = Connection.new SId) connectionStep

end ProstheticConscience.Gateway
