/-
Module: ProstheticConscience.Gateway.Relay
Purpose: The relay of one job: what one worker message does to the client's channel, when the
  relay returns, and what the worker handler then reports to the runtime.
Trusted boundary: none
Main exports: StreamFrame, RelayOutcome, relayMessage, RelayOutcome.report, RelayOutcome.isFinal
-/
import ProstheticConscience.Gateway.Runtime

namespace ProstheticConscience.Gateway

/-- A single frame sent to the client response handler. -/
inductive StreamFrame where
  | chunk (data : Value)
  | done
  | error (message : String)
deriving DecidableEq, Repr

/-- Outcome of a single relay run. -/
inductive RelayOutcome where
  | workerEnd
  | workerError (message : String)
  | workerDisconnected
  | clientGone
deriving DecidableEq, Repr

/-- One round of the relay loop: the frame put on the client's channel and, when the relay
returns, its outcome. -/
structure RelayTurn where
  sent : Option StreamFrame
  outcome : Option RelayOutcome
deriving DecidableEq, Repr

/-- A failed send ends the relay on a chunk and is ignored on a terminal message. -/
def relayMessage (clientOpen : Bool) : WorkerMessage → RelayTurn
  | .chunk data =>
      if clientOpen then { sent := some (.chunk data), outcome := none }
      else { sent := none, outcome := some .clientGone }
  | .end => { sent := if clientOpen then some .done else none, outcome := some .workerEnd }
  | .error message =>
      { sent := if clientOpen then some (.error message) else none
        outcome := some (.workerError message) }

namespace RelayOutcome

/-- The outcomes that stand for a terminal message of the worker. -/
def isFinal : RelayOutcome → Bool
  | workerEnd => true
  | workerError _ => true
  | workerDisconnected => false
  | clientGone => false

/-- What the worker handler submits to the runtime.  A client that hung up is not reported: its
stream times out. -/
def report {WId SId SubId WH SH SubH : Type} (clientStreamId : SId) :
    RelayOutcome → Option (RuntimeMessage WId SId SubId WH SH SubH)
  | workerEnd => some (.command (.assignmentCleared clientStreamId))
  | workerError message => some (.command (.assignmentFailed clientStreamId message))
  | workerDisconnected =>
      some (.command (.assignmentFailed clientStreamId "worker disconnected during job"))
  | clientGone => none

/-- Whether the handler goes on to register for the next job. -/
def continues : RelayOutcome → Bool
  | workerDisconnected => false
  | _ => true

end RelayOutcome

end ProstheticConscience.Gateway
