/-
Module: ProstheticConscience.Consensus.EntryBuffer
Purpose: Entry buffering and submission tracking: entries that arrive out of order, the pending
  submission, and when finishing a submission removes exactly the submitted drafts.
Trusted boundary: none
Main exports: Entry.toValue, PendingSubmission, EntryBuffer, EntryBuffer.applyOrBufferEntry,
  EntryBuffer.beginSubmission, EntryBuffer.finishSubmission, finishSubmission_clean_iff
-/
import ProstheticConscience.Json
import ProstheticConscience.Consensus.Engine

namespace ProstheticConscience.Consensus

/-! ### Entries as JSON -/

def ClaimKind.toValue : ClaimKind → Value
  | .item => .string "item"
  | .proposal => .string "proposal"
  | .fact => .string "fact"
  | .conditional => .string "conditional"
  | .value => .string "value"
  | .reference => .string "reference"

def RelationKind.toValue : RelationKind → Value
  | .attacks => .string "attacks"
  | .supports => .string "supports"

def Position.toValue : Position → Value
  | .block => .string "block"
  | .object => .string "object"
  | .standAside => .string "stand_aside"
  | .abstain => .string "abstain"
  | .consent => .string "consent"
  | .support => .string "support"
  | .champion => .string "champion"

def Outcome.toValue : Outcome → Value
  | .accepted => .string "accepted"
  | .rejected => .string "rejected"
  | .tabled => .string "tabled"
  | .withdrawn => .string "withdrawn"

def ClaimId.toValue (claimId : ClaimId) : Value :=
  .string claimId.value

/-- A member that is skipped when it is absent. -/
def optionalMember (key : String) : Option ClaimId → List (String × Value)
  | some claimId => [(key, claimId.toValue)]
  | none => []

/-- The JSON value of an entry, tagged with its type. -/
def Entry.toValue : Entry → Value
  | .claim claimId author body claimKind parentId =>
      .ofMembers ([("type", .string "claim"), ("claim_id", claimId.toValue),
        ("author", .string author), ("body", .string body),
        ("claim_kind", claimKind.toValue)] ++ optionalMember "parent_id" parentId)
  | .relation sourceId targetId kind author =>
      .ofMembers [("type", .string "relation"), ("source_id", sourceId.toValue),
        ("target_id", targetId.toValue), ("kind", kind.toValue), ("author", .string author)]
  | .stance targetId author position =>
      .ofMembers [("type", .string "stance"), ("target_id", targetId.toValue),
        ("author", .string author), ("position", position.toValue)]
  | .resolve claimId author outcome =>
      .ofMembers [("type", .string "resolve"), ("claim_id", claimId.toValue),
        ("author", .string author), ("outcome", outcome.toValue)]
  | .comment claimId author body =>
      .ofMembers ([("type", .string "comment")] ++ optionalMember "claim_id" claimId ++
        [("author", .string author), ("body", .string body)])

/-! ### The entry buffer -/

/-- A submission in progress: `nextEntry` payloads have been echoed back. -/
structure PendingSubmission where
  draftIds : List DraftId
  payloads : List Value
  nextEntry : Nat
deriving DecidableEq, Repr

/-- What happened when a payload was applied to the engine. -/
inductive ApplyResult where
  | applied (entry : Entry)
  | skipped (error : String)
deriving DecidableEq, Repr

inductive EntryBufferError where
  | engine (error : EngineError)
deriving DecidableEq, Repr

structure EntryBuffer where
  engine : ConsensusEngine
  nextIndex : Nat
  bufferedEntries : AssocMap Nat Value
  pendingSubmission : Option PendingSubmission

/-- Advance the counter of a pending submission when its next payload comes back. -/
def PendingSubmission.note (pending : PendingSubmission) (payload : Value) : PendingSubmission :=
  if pending.payloads[pending.nextEntry]? = some payload then
    { pending with nextEntry := pending.nextEntry + 1 }
  else pending

/-- All payloads have been echoed back. -/
def PendingSubmission.isComplete (pending : PendingSubmission) : Bool :=
  decide (pending.payloads.length ≤ pending.nextEntry)

namespace EntryBuffer

def new (participant : String) : EntryBuffer where
  engine := ConsensusEngine.new participant
  nextIndex := 0
  bufferedEntries := ∅
  pendingSubmission := none

/-- A submission is in progress and all its payloads have been echoed back. -/
def isSubmissionComplete (buffer : EntryBuffer) : Bool :=
  buffer.pendingSubmission.any (·.isComplete)

def noteSubmissionPayload (buffer : EntryBuffer) (payload : Value) : EntryBuffer :=
  { buffer with pendingSubmission := buffer.pendingSubmission.map (·.note payload) }

section Receiving

/-! The parser of entries is the JSON library's; its error is a text. -/

variable (parseEntry : Value → Except String Entry)

/-- Apply a single payload to the engine. -/
def applyPayload (buffer : EntryBuffer) (payload : Value) : ApplyResult × EntryBuffer :=
  let noted := buffer.noteSubmissionPayload payload
  match parseEntry payload with
  | .ok entry => (.applied entry, { noted with engine := noted.engine.append entry })
  | .error error => (.skipped error, noted)

/-- Apply the payload of the next index and move on. -/
def applyNext (buffer : EntryBuffer) (payload : Value) : (Nat × ApplyResult) × EntryBuffer :=
  let applied := applyPayload parseEntry buffer payload
  ((buffer.nextIndex, applied.1), { applied.2 with nextIndex := applied.2.nextIndex + 1 })

/-- Applying an entry does not touch those that are held back. -/
theorem applyNext_bufferedEntries (buffer : EntryBuffer) (payload : Value) :
    (applyNext parseEntry buffer payload).2.bufferedEntries = buffer.bufferedEntries := by
  unfold applyNext applyPayload
  dsimp only
  split <;> rfl

/-- The buffer without the entry buffered for the next index. -/
def removeNext (buffer : EntryBuffer) : EntryBuffer :=
  { buffer with bufferedEntries := buffer.bufferedEntries.erase buffer.nextIndex }

/-- Taking an entry out leaves fewer: the drain loop ends. -/
theorem length_erase_lt {m : AssocMap Nat Value} {index : Nat} {payload : Value}
    (found : m.lookup index = some payload) :
    (AList.erase index m).entries.length < m.entries.length := by
  have present : index ∈ m.entries.keys := AssocMap.mem_iff_lookup.mpr ⟨payload, found⟩
  have keys : (m.entries.kerase index).keys.length < m.entries.keys.length := by
    rw [List.keys_kerase, List.length_erase_of_mem present]
    exact Nat.sub_lt (List.length_pos_of_mem present) Nat.one_pos
  simp only [List.keys, List.length_map] at keys
  exact keys

/-- Drain the buffered entries that are now contiguous. -/
def drainBuffered (buffer : EntryBuffer) : List (Nat × ApplyResult) × EntryBuffer :=
  match _found : buffer.bufferedEntries.lookup buffer.nextIndex with
  | none => ([], buffer)
  | some payload =>
      let applied := applyNext parseEntry buffer.removeNext payload
      let drained := drainBuffered applied.2
      (applied.1 :: drained.1, drained.2)
termination_by buffer.bufferedEntries.entries.length
decreasing_by
  rw [applyNext_bufferedEntries]
  exact length_erase_lt _found

/-- Without the next entry the drain loop does nothing. -/
theorem drainBuffered_none {buffer : EntryBuffer}
    (missing : buffer.bufferedEntries.lookup buffer.nextIndex = none) :
    drainBuffered parseEntry buffer = ([], buffer) := by
  rw [drainBuffered.eq_def]
  split
  · rfl
  · simp_all

/-- With the next entry the drain loop applies it and goes on. -/
theorem drainBuffered_some {buffer : EntryBuffer} {payload : Value}
    (found : buffer.bufferedEntries.lookup buffer.nextIndex = some payload) :
    drainBuffered parseEntry buffer =
      ((applyNext parseEntry buffer.removeNext payload).1 ::
          (drainBuffered parseEntry (applyNext parseEntry buffer.removeNext payload).2).1,
        (drainBuffered parseEntry (applyNext parseEntry buffer.removeNext payload).2).2) := by
  rw [drainBuffered.eq_def]
  split
  · simp_all
  · rename_i other otherFound
    obtain rfl := Option.some.inj (found.symm.trans otherFound)
    rfl

/-- Apply an entry at the given index, buffering it if it arrives out of order; the entries that
were applied are returned. -/
def applyOrBufferEntry (buffer : EntryBuffer) (index : Nat) (payload : Value) :
    List (Nat × ApplyResult) × EntryBuffer :=
  if index < buffer.nextIndex then
    ([], buffer)
  else if buffer.nextIndex < index then
    ([], { buffer with bufferedEntries := buffer.bufferedEntries.update index payload })
  else
    let applied := applyNext parseEntry buffer payload
    let drained := drainBuffered parseEntry applied.2
    (applied.1 :: drained.1, drained.2)

/-- A fact that a receive step can rely on: it holds of the buffer, it is kept when an entry is
buffered or taken out, and when the payload of the next index is applied. -/
theorem drainBuffered_induction {I : EntryBuffer → Prop}
    (applied : ∀ buffer payload, I buffer →
      buffer.bufferedEntries.lookup buffer.nextIndex = some payload →
      I (applyNext parseEntry buffer.removeNext payload).2)
    (buffer : EntryBuffer) (start : I buffer) : I (drainBuffered parseEntry buffer).2 := by
  induction buffer using drainBuffered.induct parseEntry with
  | case1 buffer missing =>
      rw [drainBuffered_none parseEntry missing]
      exact start
  | case2 buffer payload found next ih =>
      rw [drainBuffered_some parseEntry found]
      exact ih (applied buffer payload start found)

end Receiving

/-- Prepare a submission: the payloads of the current drafts. -/
def beginSubmission (buffer : EntryBuffer) (nextClaimId : Nat → ClaimId) :
    Except EntryBufferError (Option PendingSubmission) × EntryBuffer :=
  match buffer.engine.submissionBundle nextClaimId with
  | .error error => (.error (.engine error), buffer)
  | .ok bundle =>
      if bundle.entries.isEmpty then (.ok none, buffer)
      else
        let pending : PendingSubmission :=
          { draftIds := bundle.draftIds, payloads := bundle.entries.map Entry.toValue,
            nextEntry := 0 }
        (.ok (some pending), { buffer with pendingSubmission := some pending })

/-- Remove drafts one by one, up to the first that cannot be removed. -/
def removeDrafts (engine : ConsensusEngine) :
    List DraftId → Except EngineError Unit × ConsensusEngine
  | [] => (.ok (), engine)
  | draftId :: rest =>
      match engine.removeDraft draftId with
      | (.ok (), removed) => removeDrafts removed rest
      | (.error error, removed) => (.error error, removed)

/-- Finalize a completed submission: take it and remove the submitted drafts. -/
def finishSubmission (buffer : EntryBuffer) : Except EntryBufferError Bool × EntryBuffer :=
  match buffer.pendingSubmission with
  | none => (.ok false, buffer)
  | some pending =>
      let taken := { buffer with pendingSubmission := none }
      match removeDrafts taken.engine pending.draftIds with
      | (.ok (), engine) => (.ok true, { taken with engine })
      | (.error error, engine) => (.error (.engine error), { taken with engine })

/-! ### What receiving an entry leaves alone

Deliveries come while a user drafts and submits. None of them touches the drafts or which of them
were submitted, so that what `finish_submission` finds is what `begin_submission` left, apart from
the draft operations in between. -/

/-- The drafts and the submitted draft ids are the same before and after. -/
structure SameDrafts (before after : EntryBuffer) : Prop where
  drafts : after.engine.drafts = before.engine.drafts
  nextDraftId : after.engine.nextDraftId = before.engine.nextDraftId
  submitted : after.pendingSubmission.map (·.draftIds) =
    before.pendingSubmission.map (·.draftIds)

theorem SameDrafts.refl (buffer : EntryBuffer) : SameDrafts buffer buffer :=
  ⟨rfl, rfl, rfl⟩

/-- What two changes leave alone, both together leave alone. -/
theorem SameDrafts.trans {first second third : EntryBuffer} (before : SameDrafts first second)
    (after : SameDrafts second third) : SameDrafts first third :=
  ⟨after.drafts.trans before.drafts, after.nextDraftId.trans before.nextDraftId,
    after.submitted.trans before.submitted⟩

/-- What comes back does not change which drafts were submitted. -/
theorem note_draftIds (pending : PendingSubmission) (payload : Value) :
    (pending.note payload).draftIds = pending.draftIds := by
  unfold PendingSubmission.note
  split <;> rfl

/-- Applying an entry does not touch the drafts. -/
theorem applyNext_sameDrafts (parseEntry : Value → Except String Entry) (buffer : EntryBuffer)
    (payload : Value) : SameDrafts buffer (applyNext parseEntry buffer payload).2 := by
  have submitted : (buffer.pendingSubmission.map (·.note payload)).map (·.draftIds) =
      buffer.pendingSubmission.map (·.draftIds) := by
    simp [Function.comp_def, note_draftIds]
  unfold applyNext applyPayload
  dsimp only
  split
  · exact ⟨rfl, rfl, submitted⟩
  · exact ⟨rfl, rfl, submitted⟩

/-- The drain loop does not touch the drafts. -/
theorem drainBuffered_sameDrafts (parseEntry : Value → Except String Entry)
    (buffer : EntryBuffer) : SameDrafts buffer (drainBuffered parseEntry buffer).2 := by
  apply drainBuffered_induction parseEntry (I := SameDrafts buffer) _ buffer (SameDrafts.refl _)
  intro earlier payload same _
  have removed : SameDrafts earlier earlier.removeNext := ⟨rfl, rfl, rfl⟩
  exact (same.trans removed).trans (applyNext_sameDrafts parseEntry earlier.removeNext payload)

/-- A delivery does not touch the drafts. -/
theorem applyOrBufferEntry_sameDrafts (parseEntry : Value → Except String Entry)
    (buffer : EntryBuffer) (index : Nat) (payload : Value) :
    SameDrafts buffer (applyOrBufferEntry parseEntry buffer index payload).2 := by
  unfold applyOrBufferEntry
  split
  · exact SameDrafts.refl buffer
  · split
    · exact ⟨rfl, rfl, rfl⟩
    · exact (applyNext_sameDrafts parseEntry buffer payload).trans
        (drainBuffered_sameDrafts parseEntry _)

/-- Receive a list of entries one after the other. -/
def receiveAll (parseEntry : Value → Except String Entry) (buffer : EntryBuffer)
    (received : List (Nat × Value)) : EntryBuffer :=
  received.foldl (fun buffer entry => (applyOrBufferEntry parseEntry buffer entry.1 entry.2).2)
    buffer

/-- No deliveries touch the drafts. -/
theorem receiveAll_sameDrafts (parseEntry : Value → Except String Entry)
    (received : List (Nat × Value)) (buffer : EntryBuffer) :
    SameDrafts buffer (receiveAll parseEntry buffer received) := by
  induction received generalizing buffer with
  | nil => exact SameDrafts.refl buffer
  | cons entry rest ih =>
      exact (applyOrBufferEntry_sameDrafts parseEntry buffer entry.1 entry.2).trans (ih _)

/-! ### Runs of a buffer -/

/-- A step of a client of the buffer. -/
inductive BufferOp where
  | draft (op : DraftOp)
  | receive (index : Nat) (payload : Value)
  | begin (nextClaimId : Nat → ClaimId)
  | finish

/-- Runs of a buffer in which every draft operation succeeds. -/
def bufferSystem (parseEntry : Value → Except String Entry) (participant : String) :
    TransitionSystem EntryBuffer BufferOp where
  init buffer := buffer = new participant
  step before op after :=
    match op with
    | .draft op =>
        before.engine.perform op = (.ok (), after.engine) ∧
          after = { before with engine := after.engine }
    | .receive index payload => after = (applyOrBufferEntry parseEntry before index payload).2
    | .begin nextClaimId => after = (before.beginSubmission nextClaimId).2
    | .finish => after = before.finishSubmission.2

/-- Beginning a submission leaves the engine as it is. -/
theorem beginSubmission_engine (buffer : EntryBuffer) (nextClaimId : Nat → ClaimId) :
    (buffer.beginSubmission nextClaimId).2.engine = buffer.engine := by
  unfold beginSubmission
  split
  · rfl
  · dsimp only
    split <;> rfl

/-- Removing drafts keeps the buffer well formed: a draft that is referenced is not removed. -/
theorem removeDrafts_wellFormed (draftIds : List DraftId) {engine : ConsensusEngine}
    (wf : WellFormedEngine engine) : WellFormedEngine (removeDrafts engine draftIds).2 := by
  induction draftIds generalizing engine with
  | nil => exact wf
  | cons draftId rest ih =>
      have removedWf := wf.removeDraft draftId
      rw [removeDrafts]
      split
      · rename_i removed outcome
        rw [outcome] at removedWf
        exact ih removedWf
      · rename_i error removed outcome
        rw [outcome] at removedWf
        exact removedWf

/-- Finishing a submission keeps the buffer well formed, whether or not it succeeds. -/
theorem finishSubmission_wellFormed {buffer : EntryBuffer} (wf : WellFormedEngine buffer.engine) :
    WellFormedEngine buffer.finishSubmission.2.engine := by
  unfold finishSubmission
  split
  · exact wf
  · rename_i pending _
    have removedWf := removeDrafts_wellFormed pending.draftIds wf
    dsimp only
    split
    · rename_i engine outcome
      rw [outcome] at removedWf
      exact removedWf
    · rename_i error engine outcome
      rw [outcome] at removedWf
      exact removedWf

/-- The drafts of a reachable buffer are well-formed. -/
theorem bufferSystem_wellFormed {parseEntry : Value → Except String Entry} {participant : String}
    {trace : List BufferOp} {buffer : EntryBuffer}
    (run : (bufferSystem parseEntry participant).Execution trace buffer) :
    WellFormedEngine buffer.engine := by
  apply run.reachable_invariant (I := fun buffer => WellFormedEngine buffer.engine)
  · rintro _ rfl
    exact WellFormedEngine.new participant
  · intro before op after wf step
    cases op with
    | draft op =>
        have performed := wf.perform op
        rw [step.1] at performed
        exact performed
    | receive index payload =>
        obtain rfl := step
        have same := applyOrBufferEntry_sameDrafts parseEntry before index payload
        refine ⟨same.drafts ▸ wf.drafts, ?_⟩
        rw [same.drafts, same.nextDraftId]
        exact wf.fresh
    | «begin» nextClaimId =>
        obtain rfl := step
        rw [beginSubmission_engine]
        exact wf
    | finish =>
        obtain rfl := step
        exact finishSubmission_wellFormed wf

/-! ### Finishing a submission

Drafts are removed in the order of their creation, and a draft that another one references is not
removed. The removal therefore stops at the first submitted draft on which a later draft still
rests, submitted or not. -/

/-- A submission that was begun covers all drafts of the buffer. -/
theorem beginSubmission_pending {buffer begun : EntryBuffer} {nextClaimId : Nat → ClaimId}
    {pending : PendingSubmission}
    (started : buffer.beginSubmission nextClaimId = (.ok (some pending), begun)) :
    pending.draftIds = buffer.engine.drafts.map (·.id) ∧
      begun = { buffer with pendingSubmission := some pending } := by
  unfold beginSubmission at started
  split at started
  · simp at started
  · rename_i bundle bundleEq
    split at started
    · simp at started
    · simp only [Prod.mk.injEq, Except.ok.injEq, Option.some.injEq] at started
      obtain ⟨rfl, rfl⟩ := started
      refine ⟨?_, rfl⟩
      simp only [ConsensusEngine.submissionBundle] at bundleEq
      cases materialized : buffer.engine.drafts.mapM
          (buffer.engine.materializeDraftForSubmission
            (ConsensusEngine.assignClaimIds nextClaimId buffer.engine.drafts).1) with
      | error error =>
          rw [materialized] at bundleEq
          cases bundleEq
      | ok entries =>
          rw [materialized] at bundleEq
          cases bundleEq
          rfl

/-- Removing the first draft of a well-formed buffer leaves the others. -/
theorem filter_head {draft : DraftEntry} {rest : List DraftEntry}
    (wf : WellFormedDrafts (draft :: rest)) :
    ((draft :: rest).filter fun other => decide (other.id ≠ draft.id)) = rest := by
  obtain ⟨headLess, _⟩ := List.pairwise_cons.mp wf.increasing
  rw [List.filter_cons_of_neg (by simp), List.filter_eq_self]
  intro later member
  simpa using (headLess later member).ne'

/-- The first draft of a well-formed buffer refers to nothing. -/
theorem head_draftRefs {draft : DraftEntry} {rest : List DraftEntry}
    (wf : WellFormedDrafts (draft :: rest)) : draft.entry.draftRefs = [] := by
  obtain ⟨headLess, _⟩ := List.pairwise_cons.mp wf.increasing
  rw [List.eq_nil_iff_forall_not_mem]
  intro id refers
  obtain ⟨less, target, targetMem, rfl, _⟩ := wf.refs draft List.mem_cons_self id refers
  rcases List.mem_cons.mp targetMem with rfl | later
  · exact less.false
  · exact (headLess target later).asymm less

/-- Without references among the drafts, removing all of them in creation order succeeds. -/
theorem removeDrafts_unreferenced (drafts : List DraftEntry) (engine : ConsensusEngine)
    (present : engine.drafts = drafts) (wf : WellFormedDrafts drafts)
    (noRefs : ∀ draft ∈ drafts, draft.entry.draftRefs = []) :
    removeDrafts engine (drafts.map (·.id)) = (.ok (), { engine with drafts := [] }) := by
  induction drafts generalizing engine with
  | nil => rw [List.map_nil, removeDrafts, ← present]
  | cons draft rest ih =>
      have spec := removeDraft_cases (present ▸ wf) draft.id
      rw [present] at spec
      rcases spec with ⟨_, absent⟩ | ⟨referencedBy, member, refers, _⟩ | ⟨_, unreferenced, removed⟩
      · exact absurd rfl (absent draft List.mem_cons_self)
      · rw [noRefs referencedBy member] at refers
        cases refers
      · have restWf := wf.filter unreferenced
        rw [filter_head wf] at restWf removed
        rw [List.map_cons, removeDrafts, removed]
        exact ih { engine with drafts := rest } rfl restWf
          fun later member => noRefs later (List.mem_cons_of_mem _ member)

/-- As soon as one draft refers to another, removing all of them in creation order fails: the
target is created before the draft that refers to it, and so its turn comes first. -/
theorem removeDrafts_referenced (drafts : List DraftEntry) (engine : ConsensusEngine)
    (present : engine.drafts = drafts) (wf : WellFormedDrafts drafts)
    (someRef : ∃ draft ∈ drafts, draft.entry.draftRefs ≠ []) :
    ∃ error, (removeDrafts engine (drafts.map (·.id))).1 = .error error := by
  induction drafts generalizing engine with
  | nil =>
      obtain ⟨draft, member, _⟩ := someRef
      cases member
  | cons draft rest ih =>
      have spec := removeDraft_cases (present ▸ wf) draft.id
      rw [present] at spec
      rw [List.map_cons, removeDrafts]
      rcases spec with ⟨_, absent⟩ | ⟨referencedBy, _, _, refused⟩ | ⟨_, unreferenced, removed⟩
      · exact absurd rfl (absent draft List.mem_cons_self)
      · exact ⟨_, by rw [refused]⟩
      · have restWf := wf.filter unreferenced
        rw [filter_head wf] at restWf removed
        rw [removed]
        apply ih { engine with drafts := rest } rfl restWf
        obtain ⟨referring, member, refers⟩ := someRef
        rcases List.mem_cons.mp member with rfl | later
        · exact absurd (head_draftRefs wf) refers
        · exact ⟨referring, later, refers⟩

/-- Finishing does what a client expects: it succeeds and no submitted draft is left, and an error
leaves drafts and pending submission as they were. -/
structure FinishesCleanly (pending : PendingSubmission) (buffer : EntryBuffer) : Prop where
  success : buffer.finishSubmission.1 = .ok true
  removed : ∀ draftId ∈ pending.draftIds,
    ∀ draft ∈ buffer.finishSubmission.2.engine.showDrafts, draft.id ≠ draftId
  errorKeeps : ∀ error, buffer.finishSubmission.1 = .error error →
    buffer.finishSubmission.2.engine.drafts = buffer.engine.drafts ∧
      buffer.finishSubmission.2.pendingSubmission = buffer.pendingSubmission

/-- In a reachable buffer, finishing a submission works exactly when no draft refers to another
draft. -/
theorem finishSubmission_clean_iff {parseEntry : Value → Except String Entry}
    {participant : String} {trace : List BufferOp} {buffer begun : EntryBuffer}
    {nextClaimId : Nat → ClaimId} {pending : PendingSubmission}
    (run : (bufferSystem parseEntry participant).Execution trace buffer)
    (started : buffer.beginSubmission nextClaimId = (.ok (some pending), begun))
    (received : List (Nat × Value)) :
    FinishesCleanly pending (receiveAll parseEntry begun received) ↔
      ∀ draft ∈ buffer.engine.showDrafts, draft.entry.draftRefs = [] := by
  have wf := bufferSystem_wellFormed run
  obtain ⟨allDrafts, rfl⟩ := beginSubmission_pending started
  have same := receiveAll_sameDrafts parseEntry received
    { buffer with pendingSubmission := some pending }
  generalize receiveAll parseEntry { buffer with pendingSubmission := some pending } received =
    finishing at same
  have drafts : finishing.engine.drafts = buffer.engine.drafts := same.drafts
  obtain ⟨now, nowEq, nowIds⟩ : ∃ now, finishing.pendingSubmission = some now ∧
      now.draftIds = buffer.engine.drafts.map (·.id) := by
    have submitted := same.submitted
    rw [Option.map_some, Option.map_eq_some_iff] at submitted
    obtain ⟨now, nowEq, nowIds⟩ := submitted
    exact ⟨now, nowEq, nowIds.trans allDrafts⟩
  constructor
  · intro clean
    by_contra someRef
    push Not at someRef
    obtain ⟨error, failed⟩ := removeDrafts_referenced buffer.engine.drafts
      finishing.engine drafts wf.drafts someRef
    have success := clean.success
    rw [finishSubmission, nowEq] at success
    dsimp only at success
    rw [nowIds] at success
    split at success
    · rename_i engine outcome
      rw [outcome] at failed
      cases failed
    · cases success
  · intro noRefs
    have outcome : finishing.finishSubmission = (.ok true, { finishing with
        pendingSubmission := none, engine := { finishing.engine with drafts := [] } }) := by
      rw [finishSubmission, nowEq]
      dsimp only
      rw [nowIds, removeDrafts_unreferenced buffer.engine.drafts finishing.engine drafts
        wf.drafts noRefs]
    constructor
    · rw [outcome]
    · rw [outcome]
      intro draftId _ draft member
      cases member
    · intro error failure
      rw [outcome] at failure
      cases failure

/-! ### A stance on a drafted claim -/

/-- Draft a claim and take a stance on it. -/
def stanceOps : List DraftOp :=
  [.draftClaim "Use tokens" .proposal none, .draftStance (.draft 0) .support]

/-- The buffer after both draft operations. -/
def stanceBuffer : EntryBuffer :=
  { new "ava" with
    engine :=
      { ConsensusEngine.new "ava" with
        drafts := [⟨0, .claim "Use tokens" .proposal none⟩, ⟨1, .stance (.draft 0) .support⟩]
        nextDraftId := 2 } }

/-- The two submitted entries. -/
def stanceEntries : List Entry :=
  [.claim ⟨"id-0"⟩ "ava" "Use tokens" .proposal none, .stance ⟨"id-0"⟩ "ava" .support]

/-- A parser that knows these entries. -/
def stanceParser (value : Value) : Except String Entry :=
  match stanceEntries.find? fun entry => decide (entry.toValue = value) with
  | some entry => .ok entry
  | none => .error "unknown variant"

def stancePending : PendingSubmission where
  draftIds := [0, 1]
  payloads := stanceEntries.map Entry.toValue
  nextEntry := 0

/-- Both entries come back from the session log. -/
def stanceEchoed : List (Nat × Value) :=
  (stanceEntries.map Entry.toValue).zipIdx.map fun entry => (entry.2, entry.1)

/-- The buffer with a claim and a stance on it is reached by drafting them. -/
theorem stanceBuffer_reachable :
    (bufferSystem stanceParser "ava").Execution (stanceOps.map .draft) stanceBuffer := by
  let claimed : EntryBuffer :=
    { new "ava" with
      engine :=
        { ConsensusEngine.new "ava" with
          drafts := [⟨0, .claim "Use tokens" .proposal none⟩], nextDraftId := 1 } }
  have first : (bufferSystem stanceParser "ava").step (new "ava")
      (.draft (.draftClaim "Use tokens" .proposal none)) claimed := ⟨rfl, rfl⟩
  have second : (bufferSystem stanceParser "ava").step claimed
      (.draft (.draftStance (.draft 0) .support)) stanceBuffer := ⟨rfl, rfl⟩
  exact .step (.step (.start rfl) first) second

/-- Both drafts are submitted. -/
theorem stanceBuffer_begun :
    stanceBuffer.beginSubmission (fun n => ⟨"id-" ++ toString n⟩) =
      (.ok (some stancePending), { stanceBuffer with pendingSubmission := some stancePending }) :=
  rfl

/-- The submission is complete, yet finishing it fails, keeps both drafts and forgets the
submission. -/
theorem stanceSubmission_not_finished :
    let finishing := receiveAll stanceParser
      { stanceBuffer with pendingSubmission := some stancePending } stanceEchoed
    finishing.isSubmissionComplete = true ∧
      finishing.finishSubmission.1 = .error (.engine (.draftReferenced 0 1)) ∧
      finishing.finishSubmission.2.engine.showDrafts = stanceBuffer.engine.showDrafts ∧
      finishing.finishSubmission.2.pendingSubmission = none := by
  decide +kernel

/-- So a completed submission of reachable drafts need not finish cleanly. -/
theorem completed_submission_not_clean :
    ¬ ∀ (parseEntry : Value → Except String Entry) (participant : String) (ops : List DraftOp)
      (buffer begun : EntryBuffer) (nextClaimId : Nat → ClaimId) (pending : PendingSubmission)
      (received : List (Nat × Value)),
      (bufferSystem parseEntry participant).Execution (ops.map .draft) buffer →
      buffer.beginSubmission nextClaimId = (.ok (some pending), begun) →
      (receiveAll parseEntry begun received).isSubmissionComplete = true →
      FinishesCleanly pending (receiveAll parseEntry begun received) := by
  intro claim
  obtain ⟨complete, failed, _, _⟩ := stanceSubmission_not_finished
  have clean := claim stanceParser "ava" stanceOps stanceBuffer _ _ stancePending stanceEchoed
    stanceBuffer_reachable stanceBuffer_begun complete
  rw [clean.success] at failed
  cases failed

/-- The condition at this buffer, at which it fails. -/
theorem stanceBuffer_clean_iff :
    FinishesCleanly stancePending (receiveAll stanceParser
        { stanceBuffer with pendingSubmission := some stancePending } stanceEchoed) ↔
      ∀ draft ∈ stanceBuffer.engine.showDrafts, draft.entry.draftRefs = [] :=
  finishSubmission_clean_iff stanceBuffer_reachable stanceBuffer_begun stanceEchoed

end EntryBuffer

end ProstheticConscience.Consensus
