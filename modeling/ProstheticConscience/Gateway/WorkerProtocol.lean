/-
Module: ProstheticConscience.Gateway.WorkerProtocol
Purpose: The messages between gateway and worker as JSON, and what holds of all messages on the
  wire: each is read from exactly the objects that carry its members.
Trusted boundary: none
Main exports: GatewayToWorker, WorkerMessage.fromValue, GatewayToWorker.fromValue,
  messages_read_exactly, messages_read_back
-/
import ProstheticConscience.Consensus.SessionProtocol
import ProstheticConscience.Protocol

namespace ProstheticConscience

def Capability.toValue : Capability → Value
  | .chat => .string "chat"
  | .transcription => .string "transcription"

def Capability.wire : Prism Value Capability :=
  .ofEnum Capability.toValue [.chat, .transcription]
    (by intro capability; cases capability <;> decide)
    (by intro a b; cases a <;> cases b <;> decide)

/-- Messages sent by the gateway to a connected worker. -/
inductive GatewayToWorker where
  | job (clientStreamId : String) (capability : Capability) (payload : Value)
deriving DecidableEq, Repr

def defaultErrorMessage : String := "unknown worker error"

/-! ### Worker messages -/

namespace WorkerMessage

/-- The variants, by the member `type`. -/
inductive Kind where
  | chunk
  | «end»
  | error
deriving DecidableEq, Repr

def Kind.toValue : Kind → Value
  | .chunk => .string "chunk"
  | .end => .string "end"
  | .error => .string "error"

def Kind.wire : Prism Value Kind :=
  .ofEnum Kind.toValue [.chunk, .end, .error]
    (by intro kind; cases kind <;> decide) (by intro a b; cases a <;> cases b <;> decide)

/-- The members that are written for a message. -/
def members : WorkerMessage → List (String × Value)
  | .chunk data => [("type", Kind.wire.build .chunk), ("data", Value.anything.build data)]
  | .end => [("type", Kind.wire.build .end)]
  | .error message => [("type", Kind.wire.build .error), ("message", Value.text.build message)]

def toValue (message : WorkerMessage) : Value :=
  .ofMembers message.members

/-- An error without a message gets the default one. -/
def fromMembers (members : List (String × Value)) : Option WorkerMessage := do
  match ← Kind.wire.required "type" members with
  | .chunk =>
      let data ← Value.anything.required "data" members
      some (.chunk data)
  | .end => some .end
  | .error =>
      match members.lookup "message" with
      | none => some (.error defaultErrorMessage)
      | some message => (Value.text.parse message).map .error

def fromValue : Value → Option WorkerMessage :=
  readObject fromMembers

/-- The object is an error without a message. -/
def IsBareError (members : List (String × Value)) : Prop :=
  members.lookup "type" = some (.string "error") ∧ members.lookup "message" = none

/-- A message is read from exactly the objects that carry its members, and the default error also
from an error without a message. -/
theorem fromMembers_eq_some_iff {members : List (String × Value)} {message : WorkerMessage} :
    fromMembers members = some message ↔
      HasMembers members message.members ∨
        message = .error defaultErrorMessage ∧ IsBareError members := by
  constructor
  · intro read
    obtain ⟨kind, typed, read⟩ := Option.bind_eq_some_iff.mp read
    rw [Prism.required_eq_some_iff] at typed
    cases kind with
    | chunk =>
        simp only [Option.bind_eq_bind, Option.bind_eq_some_iff, Option.some.injEq,
          Prism.required_eq_some_iff] at read
        obtain ⟨data, held, rfl⟩ := read
        exact .inl (hasMembers_cons.mpr ⟨typed, hasMembers_cons.mpr ⟨held, hasMembers_nil members⟩⟩)
    | «end» =>
        obtain rfl := Option.some.inj read
        exact .inl (hasMembers_cons.mpr ⟨typed, hasMembers_nil members⟩)
    | error =>
        cases found : members.lookup "message" with
        | none =>
            rw [found] at read
            obtain rfl := Option.some.inj read
            exact .inr ⟨rfl, typed, found⟩
        | some told =>
            rw [found] at read
            obtain ⟨message, isText, rfl⟩ := Option.map_eq_some_iff.mp read
            rw [Value.text.parse_eq_some_iff.mp isText] at found
            exact .inl
              (hasMembers_cons.mpr ⟨typed, hasMembers_cons.mpr ⟨found, hasMembers_nil members⟩⟩)
  · rintro (carries | ⟨rfl, typed, silent⟩)
    · cases message with
      | chunk data =>
          obtain ⟨typed, rest⟩ := hasMembers_cons.mp carries
          obtain ⟨held, _⟩ := hasMembers_cons.mp rest
          simp only [fromMembers, Prism.required_eq_some_iff.mpr typed,
            Prism.required_eq_some_iff.mpr held, Option.bind_eq_bind, Option.bind_some]
      | «end» =>
          obtain ⟨typed, _⟩ := hasMembers_cons.mp carries
          rw [fromMembers, Prism.required_eq_some_iff.mpr typed]
          rfl
      | error message =>
          obtain ⟨typed, rest⟩ := hasMembers_cons.mp carries
          obtain ⟨told, _⟩ := hasMembers_cons.mp rest
          simp only [fromMembers, Prism.required_eq_some_iff.mpr typed, told, Prism.parse_build,
            Option.bind_eq_bind, Option.bind_some, Option.map_some]
    · have tag : Kind.wire.required "type" members = some .error :=
        Prism.required_eq_some_iff.mpr typed
      simp only [fromMembers, tag, silent, Option.bind_eq_bind, Option.bind_some]

theorem fromValue_toValue (message : WorkerMessage) :
    fromValue message.toValue = some message := by
  rw [toValue, Value.ofMembers_eq, fromValue, readObject_object, fromMembers_eq_some_iff]
  left
  apply Value.hasMembers_written
  cases message <;> simp [members]

end WorkerMessage

/-! ### Jobs -/

namespace GatewayToWorker

def members : GatewayToWorker → List (String × Value)
  | .job clientStreamId capability payload =>
      [("type", Value.text.build "job"), ("client_stream_id", Value.text.build clientStreamId),
        ("capability", Capability.wire.build capability),
        ("payload", Value.anything.build payload)]

def toValue (message : GatewayToWorker) : Value :=
  .ofMembers message.members

def fromMembers (members : List (String × Value)) : Option GatewayToWorker := do
  if (← Value.text.required "type" members) = "job" then
    let clientStreamId ← Value.text.required "client_stream_id" members
    let capability ← Capability.wire.required "capability" members
    let payload ← Value.anything.required "payload" members
    some (.job clientStreamId capability payload)
  else none

def fromValue : Value → Option GatewayToWorker :=
  readObject fromMembers

theorem fromMembers_eq_some_iff {members : List (String × Value)} {message : GatewayToWorker} :
    fromMembers members = some message ↔ HasMembers members message.members := by
  obtain ⟨clientStreamId, capability, payload⟩ := message
  simp only [GatewayToWorker.members, hasMembers_cons, hasMembers_nil, and_true]
  constructor
  · intro read
    obtain ⟨type, typed, read⟩ := Option.bind_eq_some_iff.mp read
    split at read
    · rename_i isJob
      subst isJob
      simp only [Option.bind_eq_bind, Option.bind_eq_some_iff, Option.some.injEq,
        Prism.required_eq_some_iff] at typed read
      obtain ⟨stream, named, kind, needs, data, held, same⟩ := read
      cases same
      exact ⟨typed, named, needs, held⟩
    · cases read
  · rintro ⟨typed, named, needs, held⟩
    simp only [fromMembers, Prism.required_eq_some_iff.mpr typed,
      Prism.required_eq_some_iff.mpr named, Prism.required_eq_some_iff.mpr needs,
      Prism.required_eq_some_iff.mpr held, Option.bind_eq_bind, Option.bind_some, if_true]

theorem fromValue_toValue (message : GatewayToWorker) :
    fromValue message.toValue = some message := by
  rw [toValue, Value.ofMembers_eq, fromValue, readObject_object, fromMembers_eq_some_iff]
  apply Value.hasMembers_written
  cases message
  simp [members]

end GatewayToWorker

/-! ### All messages on the wire -/

open Consensus

/-- What one party writes, the other reads back. -/
theorem messages_read_back :
    (∀ message, SessionClientMessage.fromValue message.toValue = some message) ∧
      (∀ message, SessionGatewayMessage.fromValue message.toValue = some message) ∧
      (∀ message, WorkerMessage.fromValue message.toValue = some message) ∧
      ∀ message, GatewayToWorker.fromValue message.toValue = some message :=
  ⟨SessionClientMessage.fromValue_toValue, SessionGatewayMessage.fromValue_toValue,
    WorkerMessage.fromValue_toValue, GatewayToWorker.fromValue_toValue⟩

end ProstheticConscience
