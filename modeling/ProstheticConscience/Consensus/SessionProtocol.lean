/-
Module: ProstheticConscience.Consensus.SessionProtocol
Purpose: The messages of a session websocket and how they are written and read as JSON.
Trusted boundary: none
Main exports: SessionClientMessage, SessionGatewayMessage, SessionClientMessage.fromValue,
  SessionGatewayMessage.fromValue
-/
import ProstheticConscience.Wire

namespace ProstheticConscience.Consensus

/-- Messages sent by a session client to the gateway.  The first message must be a handshake:
`create` or `subscribe`. -/
inductive SessionClientMessage where
  | create
  | subscribe (sessionId : String)
  | append (payload : Value)
  | heartbeat
deriving DecidableEq, Repr

/-- Messages sent by the gateway to a session client. -/
inductive SessionGatewayMessage where
  | subscribed (sessionId : String) (latestEntryIndex : Option Nat)
  | entry (index : Nat) (payload : Value)
  | subscriberRemoved
  | error (message : String)
deriving DecidableEq, Repr

/-! ### Client messages -/

namespace SessionClientMessage

/-- The variants, by the member `type`. -/
inductive Kind where
  | create
  | subscribe
  | append
  | heartbeat
deriving DecidableEq, Repr

def Kind.toValue : Kind → Value
  | .create => .string "create"
  | .subscribe => .string "subscribe"
  | .append => .string "append"
  | .heartbeat => .string "heartbeat"

def Kind.wire : Prism Value Kind :=
  .ofEnum Kind.toValue [.create, .subscribe, .append, .heartbeat]
    (by intro kind; cases kind <;> decide) (by intro a b; cases a <;> cases b <;> decide)

/-- The members that are written for a message. -/
def members : SessionClientMessage → List (String × Value)
  | .create => [("type", Kind.wire.build .create)]
  | .subscribe sessionId =>
      [("type", Kind.wire.build .subscribe), ("session_id", Value.text.build sessionId)]
  | .append payload =>
      [("type", Kind.wire.build .append), ("payload", Value.anything.build payload)]
  | .heartbeat => [("type", Kind.wire.build .heartbeat)]

def toValue (message : SessionClientMessage) : Value :=
  .ofMembers message.members

def fromMembers (members : List (String × Value)) : Option SessionClientMessage := do
  match ← Kind.wire.required "type" members with
  | .create => some .create
  | .subscribe =>
      let sessionId ← Value.text.required "session_id" members
      some (.subscribe sessionId)
  | .append =>
      let payload ← Value.anything.required "payload" members
      some (.append payload)
  | .heartbeat => some .heartbeat

def fromValue : Value → Option SessionClientMessage :=
  readObject fromMembers

/-- A message is read from exactly the objects that carry its members. -/
theorem fromMembers_eq_some_iff {members : List (String × Value)}
    {message : SessionClientMessage} :
    fromMembers members = some message ↔ HasMembers members message.members := by
  constructor
  · intro read
    obtain ⟨kind, typed, read⟩ := Option.bind_eq_some_iff.mp read
    cases kind <;>
      simp only [Option.bind_eq_bind, Option.bind_eq_some_iff, Option.some.injEq,
        Prism.required_eq_some_iff] at typed read
    case create =>
      subst read
      exact hasMembers_cons.mpr ⟨typed, hasMembers_nil members⟩
    case subscribe =>
      obtain ⟨sessionId, named, rfl⟩ := read
      exact hasMembers_cons.mpr ⟨typed, hasMembers_cons.mpr ⟨named, hasMembers_nil members⟩⟩
    case append =>
      obtain ⟨payload, held, rfl⟩ := read
      exact hasMembers_cons.mpr ⟨typed, hasMembers_cons.mpr ⟨held, hasMembers_nil members⟩⟩
    case heartbeat =>
      subst read
      exact hasMembers_cons.mpr ⟨typed, hasMembers_nil members⟩
  · intro carries
    cases message with
    | create =>
        obtain ⟨typed, _⟩ := hasMembers_cons.mp carries
        rw [fromMembers, Prism.required_eq_some_iff.mpr typed]
        rfl
    | subscribe sessionId =>
        obtain ⟨typed, rest⟩ := hasMembers_cons.mp carries
        obtain ⟨named, _⟩ := hasMembers_cons.mp rest
        simp only [fromMembers, Prism.required_eq_some_iff.mpr typed,
          Prism.required_eq_some_iff.mpr named, Option.bind_eq_bind, Option.bind_some]
    | append payload =>
        obtain ⟨typed, rest⟩ := hasMembers_cons.mp carries
        obtain ⟨held, _⟩ := hasMembers_cons.mp rest
        simp only [fromMembers, Prism.required_eq_some_iff.mpr typed,
          Prism.required_eq_some_iff.mpr held, Option.bind_eq_bind, Option.bind_some]
    | heartbeat =>
        obtain ⟨typed, _⟩ := hasMembers_cons.mp carries
        rw [fromMembers, Prism.required_eq_some_iff.mpr typed]
        rfl

theorem fromValue_toValue (message : SessionClientMessage) :
    fromValue message.toValue = some message := by
  rw [toValue, Value.ofMembers_eq, fromValue, readObject_object, fromMembers_eq_some_iff]
  apply Value.hasMembers_written
  cases message <;> simp [members]

end SessionClientMessage

/-! ### Gateway messages -/

namespace SessionGatewayMessage

/-- The variants, by the member `type`. -/
inductive Kind where
  | subscribed
  | entry
  | subscriberRemoved
  | error
deriving DecidableEq, Repr

def Kind.toValue : Kind → Value
  | .subscribed => .string "subscribed"
  | .entry => .string "entry"
  | .subscriberRemoved => .string "subscriber_removed"
  | .error => .string "error"

def Kind.wire : Prism Value Kind :=
  .ofEnum Kind.toValue [.subscribed, .entry, .subscriberRemoved, .error]
    (by intro kind; cases kind <;> decide) (by intro a b; cases a <;> cases b <;> decide)

/-- The members that a message has to carry. -/
def needed : SessionGatewayMessage → List (String × Value)
  | .subscribed sessionId none =>
      [("type", Kind.wire.build .subscribed), ("session_id", Value.text.build sessionId)]
  | .subscribed sessionId (some latestEntryIndex) =>
      [("type", Kind.wire.build .subscribed), ("session_id", Value.text.build sessionId),
        ("latest_entry_index", Value.natural.build latestEntryIndex)]
  | .entry index payload =>
      [("type", Kind.wire.build .entry), ("index", Value.natural.build index),
        ("payload", Value.anything.build payload)]
  | .subscriberRemoved => [("type", Kind.wire.build .subscriberRemoved)]
  | .error message => [("type", Kind.wire.build .error), ("message", Value.text.build message)]

/-- The keys that a message may leave out or set to `null`. -/
def omitted : SessionGatewayMessage → List String
  | .subscribed _ none => ["latest_entry_index"]
  | _ => []

/-- A missing index is written as `null`. -/
def toValue (message : SessionGatewayMessage) : Value :=
  .ofMembers (message.needed ++ message.omitted.map fun key => (key, .null))

def fromMembers (members : List (String × Value)) : Option SessionGatewayMessage := do
  match ← Kind.wire.required "type" members with
  | .subscribed =>
      let sessionId ← Value.text.required "session_id" members
      let latestEntryIndex ← Value.natural.optional .null "latest_entry_index" members
      some (.subscribed sessionId latestEntryIndex)
  | .entry =>
      let index ← Value.natural.required "index" members
      let payload ← Value.anything.required "payload" members
      some (.entry index payload)
  | .subscriberRemoved => some .subscriberRemoved
  | .error =>
      let message ← Value.text.required "message" members
      some (.error message)

def fromValue : Value → Option SessionGatewayMessage :=
  readObject fromMembers

/-- A message is read from exactly the objects that carry what it needs. -/
theorem fromMembers_eq_some_iff {members : List (String × Value)}
    {message : SessionGatewayMessage} :
    fromMembers members = some message ↔
      HasMembers members message.needed ∧
        ∀ key ∈ message.omitted, Prism.Absent .null key members := by
  have real : ∀ index, Value.natural.build index ≠ .null := by
    intro index same
    cases same
  have none' : ∀ key ∈ ([] : List String), Prism.Absent .null key members :=
    fun key inside => absurd inside List.not_mem_nil
  constructor
  · intro read
    obtain ⟨kind, typed, read⟩ := Option.bind_eq_some_iff.mp read
    cases kind <;>
      simp only [Option.bind_eq_bind, Option.bind_eq_some_iff, Option.some.injEq,
        Prism.required_eq_some_iff] at typed read
    case subscribed =>
      obtain ⟨sessionId, named, latestEntryIndex, latest, rfl⟩ := read
      cases latestEntryIndex with
      | none =>
          have absent := Prism.optional_eq_none_iff.mp latest
          simp only [needed, omitted, hasMembers_cons, hasMembers_nil, and_true, List.mem_singleton,
            forall_eq]
          exact ⟨⟨typed, named⟩, absent⟩
      | some index =>
          have present := (Prism.optional_eq_some_iff (real index)).mp latest
          simp only [needed, omitted, hasMembers_cons, hasMembers_nil, and_true]
          exact ⟨⟨typed, named, present⟩, none'⟩
    case entry =>
      obtain ⟨index, placed, payload, held, rfl⟩ := read
      simp only [needed, omitted, hasMembers_cons, hasMembers_nil, and_true]
      exact ⟨⟨typed, placed, held⟩, none'⟩
    case subscriberRemoved =>
      subst read
      exact ⟨hasMembers_cons.mpr ⟨typed, hasMembers_nil members⟩, none'⟩
    case error =>
      obtain ⟨message, told, rfl⟩ := read
      simp only [needed, omitted, hasMembers_cons, hasMembers_nil, and_true]
      exact ⟨⟨typed, told⟩, none'⟩
  · rintro ⟨carries, absent⟩
    cases message with
    | subscribed sessionId latestEntryIndex =>
        cases latestEntryIndex with
        | none =>
            simp only [needed, hasMembers_cons, hasMembers_nil, and_true] at carries
            have latest : Value.natural.optional .null "latest_entry_index" members = some none :=
              Prism.optional_eq_none_iff.mpr (absent "latest_entry_index" List.mem_cons_self)
            simp only [fromMembers, Prism.required_eq_some_iff.mpr carries.1,
              Prism.required_eq_some_iff.mpr carries.2, latest, Option.bind_eq_bind,
              Option.bind_some]
        | some index =>
            simp only [needed, hasMembers_cons, hasMembers_nil, and_true] at carries
            obtain ⟨typed, named, present⟩ := carries
            simp only [fromMembers, Prism.required_eq_some_iff.mpr typed,
              Prism.required_eq_some_iff.mpr named,
              (Prism.optional_eq_some_iff (real index)).mpr present, Option.bind_eq_bind,
              Option.bind_some]
    | entry index payload =>
        simp only [needed, hasMembers_cons, hasMembers_nil, and_true] at carries
        obtain ⟨typed, placed, held⟩ := carries
        simp only [fromMembers, Prism.required_eq_some_iff.mpr typed,
          Prism.required_eq_some_iff.mpr placed, Prism.required_eq_some_iff.mpr held,
          Option.bind_eq_bind, Option.bind_some]
    | subscriberRemoved =>
        obtain ⟨typed, _⟩ := hasMembers_cons.mp carries
        rw [fromMembers, Prism.required_eq_some_iff.mpr typed]
        rfl
    | error message =>
        simp only [needed, hasMembers_cons, hasMembers_nil, and_true] at carries
        simp only [fromMembers, Prism.required_eq_some_iff.mpr carries.1,
          Prism.required_eq_some_iff.mpr carries.2, Option.bind_eq_bind, Option.bind_some]

theorem fromValue_toValue (message : SessionGatewayMessage) :
    fromValue message.toValue = some message := by
  have distinct : ((message.needed ++ message.omitted.map fun key => (key, Value.null)).map
      Prod.fst).Nodup := by
    cases message with
    | subscribed sessionId latestEntryIndex =>
        cases latestEntryIndex <;> simp [needed, omitted]
    | _ => simp [needed, omitted]
  have carries := hasMembers_append.mp (Value.hasMembers_written distinct)
  rw [toValue, Value.ofMembers_eq, fromValue, readObject_object, fromMembers_eq_some_iff]
  refine ⟨carries.1, fun key left => .inr ?_⟩
  exact carries.2 (key, .null) (List.mem_map.mpr ⟨key, left, rfl⟩)

end SessionGatewayMessage

end ProstheticConscience.Consensus
