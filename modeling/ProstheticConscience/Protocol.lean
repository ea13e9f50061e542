/-
Module: ProstheticConscience.Protocol
Purpose: Wire types shared by gateway and worker, and what their websockets are read as.
Trusted boundary: none
Main exports: Capability, WorkerMessage, SocketRead
-/
import ProstheticConscience.Json

namespace ProstheticConscience

/-- A capability that a worker can declare and a job can require. -/
inductive Capability where
  | chat
  | transcription
deriving DecidableEq, Repr, Inhabited

/-- Messages sent by a worker to the gateway during job processing. -/
inductive WorkerMessage where
  | chunk (data : Value)
  | «end»
  | error (message : String)
deriving DecidableEq, Repr, Inhabited

/-- The message ends the job. -/
def WorkerMessage.isTerminal : WorkerMessage → Bool
  | .chunk _ => false
  | .end => true
  | .error _ => true

/-- What the stream of a websocket gives: a text, a close frame, a binary, ping or pong frame, an
error, or its end. -/
inductive SocketRead where
  | text (text : String)
  | close
  | other
  | failed (message : String)
  | ended
deriving DecidableEq, Repr

end ProstheticConscience
