/-
Module: ProstheticConscience.Consensus.Engine
Purpose: The consensus engine: the committed log, the draft buffer with its operations, and the
  submission bundle.  A method that changes the engine returns its result and the engine after the
  call, so that a failed call shows what it left behind.
Trusted boundary: none
Main exports: ClaimRef, DraftContent, DraftEntry, ConsensusEngine, ConsensusEngine.perform,
  ConsensusEngine.submissionBundle, WellFormedDrafts, removeDraft_cases
-/
import ProstheticConscience.Consensus.Types
import ProstheticConscience.Library.TransitionSystem
import Mathlib.Data.List.Sort

namespace ProstheticConscience.Consensus

/-- Identifier of a draft entry, monotonically increasing. -/
abbrev DraftId := Nat

/-- Reference to a claim from draft-local state. -/
inductive ClaimRef where
  | committed (claimId : ClaimId)
  | draft (draftId : DraftId)
deriving DecidableEq, Repr

/-- Draft-local content awaiting submission. -/
inductive DraftContent where
  | claim (body : String) (claimKind : ClaimKind) (parent : Option ClaimRef)
  | relation (source target : ClaimRef) (kind : RelationKind)
  | stance (target : ClaimRef) (position : Position)
  | resolve (claim : ClaimRef) (outcome : Outcome)
  | comment (claim : Option ClaimRef) (body : String)
deriving DecidableEq, Repr

def DraftContent.isClaim : DraftContent → Bool
  | .claim _ _ _ => true
  | _ => false

/-- The claim references of a draft, in the order in which they are checked. -/
def DraftContent.claimRefs : DraftContent → List ClaimRef
  | .claim _ _ parent => parent.toList
  | .relation source target _ => [source, target]
  | .stance target _ => [target]
  | .resolve target _ => [target]
  | .comment target _ => target.toList

/-- A draft entry awaiting submission. -/
structure DraftEntry where
  id : DraftId
  entry : DraftContent
deriving DecidableEq, Repr

/-- Errors that the engine can produce. -/
inductive EngineError where
  | draftNotFound (draftId : DraftId)
  | draftReferenceMustTargetClaim (draftId : DraftId)
  | draftReferenced (draftId referencedBy : DraftId)
deriving DecidableEq, Repr

/-- Mapping from a provisional draft claim id to its final committed id. -/
structure ClaimIdMapping where
  draftId : DraftId
  finalId : ClaimId
deriving DecidableEq, Repr

/-- Finalized draft entries ready for network submission. -/
structure SubmissionBundle where
  draftIds : List DraftId
  entries : List Entry
  claimIdMap : List ClaimIdMapping
deriving DecidableEq, Repr

/-- The consensus engine: the committed log and the draft buffer. -/
structure ConsensusEngine where
  log : List Entry
  drafts : List DraftEntry
  nextDraftId : Nat
  draftAuthor : String
deriving DecidableEq, Repr

def findDraft (drafts : List DraftEntry) (draftId : DraftId) : Option DraftEntry :=
  drafts.find? fun draft => decide (draft.id = draftId)

/-- A committed reference is always accepted, a draft reference must name a claim draft. -/
def validateClaimRef (drafts : List DraftEntry) : ClaimRef → Except EngineError Unit
  | .committed _ => .ok ()
  | .draft draftId =>
      match findDraft drafts draftId with
      | some draft =>
          if draft.entry.isClaim then .ok () else .error (.draftReferenceMustTargetClaim draftId)
      | none => .error (.draftNotFound draftId)

/-- Check references in order, up to the first that fails. -/
def validateClaimRefs (drafts : List DraftEntry) : List ClaimRef → Except EngineError Unit
  | [] => .ok ()
  | claimRef :: rest =>
      match validateClaimRef drafts claimRef with
      | .ok () => validateClaimRefs drafts rest
      | .error error => .error error

/-- Whether a draft refers to the draft `draftId`. -/
def draftReferencesDraft (entry : DraftContent) (draftId : DraftId) : Bool :=
  let references := fun claimRef => decide (claimRef = ClaimRef.draft draftId)
  match entry with
  | .claim _ _ parent => parent.any references
  | .relation source target _ => references source || references target
  | .stance target _ => references target
  | .resolve claim _ => references claim
  | .comment claim _ => claim.any references

/-- Rewrite a draft to a log entry, given how references and its own id are resolved. -/
def materializeDraft (draftAuthor : String) (draft : DraftEntry)
    (resolveRef : ClaimRef → Except EngineError ClaimId)
    (resolveOwnClaimId : DraftId → Except EngineError ClaimId) : Except EngineError Entry :=
  match draft.entry with
  | .claim body claimKind parent => do
      let claimId ← resolveOwnClaimId draft.id
      let parentId ← parent.mapM resolveRef
      return .claim claimId draftAuthor body claimKind parentId
  | .relation source target kind => do
      let sourceId ← resolveRef source
      let targetId ← resolveRef target
      return .relation sourceId targetId kind draftAuthor
  | .stance target position => do
      let targetId ← resolveRef target
      return .stance targetId draftAuthor position
  | .resolve claim outcome => do
      let claimId ← resolveRef claim
      return .resolve claimId draftAuthor outcome
  | .comment claim body => do
      let claimId ← claim.mapM resolveRef
      return .comment claimId draftAuthor body

namespace ConsensusEngine

/-- An empty engine. -/
def new (draftAuthor : String) : ConsensusEngine where
  log := []
  drafts := []
  nextDraftId := 0
  draftAuthor := draftAuthor

/-- Append a committed entry. -/
def append (engine : ConsensusEngine) (entry : Entry) : ConsensusEngine :=
  { engine with log := engine.log ++ [entry] }

/-! ### Draft creation

The five drafting methods check the references of the new draft, take the next draft id and append
the draft. -/

/-- What the drafting methods share. -/
def pushDraft (engine : ConsensusEngine) (entry : DraftContent) :
    Except EngineError DraftId × ConsensusEngine :=
  match validateClaimRefs engine.drafts entry.claimRefs with
  | .ok () =>
      (.ok engine.nextDraftId,
        { engine with
          drafts := engine.drafts ++ [{ id := engine.nextDraftId, entry }]
          nextDraftId := engine.nextDraftId + 1 })
  | .error error => (.error error, engine)

def draftClaim (engine : ConsensusEngine) (body : String) (kind : ClaimKind)
    (parent : Option ClaimRef) : Except EngineError DraftId × ConsensusEngine :=
  engine.pushDraft (.claim body kind parent)

def draftRelation (engine : ConsensusEngine) (source target : ClaimRef) (kind : RelationKind) :
    Except EngineError DraftId × ConsensusEngine :=
  engine.pushDraft (.relation source target kind)

def draftStance (engine : ConsensusEngine) (target : ClaimRef) (position : Position) :
    Except EngineError DraftId × ConsensusEngine :=
  engine.pushDraft (.stance target position)

def draftResolve (engine : ConsensusEngine) (claim : ClaimRef) (outcome : Outcome) :
    Except EngineError DraftId × ConsensusEngine :=
  engine.pushDraft (.resolve claim outcome)

def draftComment (engine : ConsensusEngine) (body : String) (claim : Option ClaimRef) :
    Except EngineError DraftId × ConsensusEngine :=
  engine.pushDraft (.comment claim body)

/-! ### Draft management -/

/-- All pending drafts, in creation order. -/
def showDrafts (engine : ConsensusEngine) : List DraftEntry :=
  engine.drafts

/-- Remove a draft by id; a claim draft that another draft refers to stays. -/
def removeDraft (engine : ConsensusEngine) (id : DraftId) :
    Except EngineError Unit × ConsensusEngine :=
  match engine.drafts.findIdx? fun draft => decide (draft.id = id) with
  | none => (.error (.draftNotFound id), engine)
  | some pos =>
      let removedIsClaim := (engine.drafts[pos]?).any (·.entry.isClaim)
      let referencedBy :=
        (engine.drafts.filter fun draft => decide (draft.id ≠ id)).find?
          fun draft => draftReferencesDraft draft.entry id
      match removedIsClaim, referencedBy with
      | true, some draft => (.error (.draftReferenced id draft.id), engine)
      | _, _ => (.ok (), { engine with drafts := engine.drafts.eraseIdx pos })

/-- Discard all drafts. -/
def clearDrafts (engine : ConsensusEngine) : ConsensusEngine :=
  { engine with drafts := [] }

/-! ### Submission -/

/-- The final ids of the claim drafts: the calls of `next_claim_id` return `nextClaimId 0`,
`nextClaimId 1` and so on. -/
def assignClaimIds (nextClaimId : Nat → ClaimId) (drafts : List DraftEntry) :
    AssocMap DraftId ClaimId × Nat :=
  drafts.foldl
    (fun acc draft =>
      if draft.entry.isClaim then
        if draft.id ∈ acc.1 then acc
        else (acc.1.insert draft.id (nextClaimId acc.2), acc.2 + 1)
      else acc)
    (∅, 0)

def resolveClaimRefForSubmission (engine : ConsensusEngine)
    (claimIdMap : AssocMap DraftId ClaimId) (claimRef : ClaimRef) : Except EngineError ClaimId :=
  match claimRef with
  | .committed claimId => .ok claimId
  | .draft draftId => do
      validateClaimRef engine.drafts claimRef
      match claimIdMap.lookup draftId with
      | some claimId => .ok claimId
      | none => .error (.draftNotFound draftId)

def materializeDraftForSubmission (engine : ConsensusEngine)
    (claimIdMap : AssocMap DraftId ClaimId) (draft : DraftEntry) : Except EngineError Entry :=
  materializeDraft engine.draftAuthor draft (engine.resolveClaimRefForSubmission claimIdMap)
    fun draftId =>
      match claimIdMap.lookup draftId with
      | some claimId => .ok claimId
      | none => .error (.draftNotFound draftId)

/-- The current drafts as a finalized submission bundle. -/
def submissionBundle (engine : ConsensusEngine) (nextClaimId : Nat → ClaimId) :
    Except EngineError SubmissionBundle := do
  let claimIdMap := (assignClaimIds nextClaimId engine.drafts).1
  let entries ← engine.drafts.mapM (engine.materializeDraftForSubmission claimIdMap)
  return {
    draftIds := engine.drafts.map (·.id)
    entries
    claimIdMap :=
      (claimIdMap.entries.map fun entry => { draftId := entry.1, finalId := entry.2 }).mergeSort
        fun a b => decide (a.draftId ≤ b.draftId) }

end ConsensusEngine

/-! ### Well-formed draft buffers

The invariant of the buffer: ids are distinct and below the next one, references point to drafts of
claims that come earlier. One lemma per operation, refusals included. -/

/-- The drafts that a draft refers to. -/
def DraftContent.draftRefs (entry : DraftContent) : List DraftId :=
  entry.claimRefs.filterMap fun claimRef =>
    match claimRef with
    | .draft draftId => some draftId
    | .committed _ => none

theorem mem_draftRefs {entry : DraftContent} {id : DraftId} :
    id ∈ entry.draftRefs ↔ ClaimRef.draft id ∈ entry.claimRefs := by
  rw [DraftContent.draftRefs, List.mem_filterMap]
  constructor
  · rintro ⟨claimRef, member, same⟩
    cases claimRef with
    | draft draftId =>
        obtain rfl := Option.some.inj same
        exact member
    | committed claimId => cases same
  · exact fun member => ⟨_, member, rfl⟩

theorem draftReferencesDraft_iff {entry : DraftContent} {id : DraftId} :
    draftReferencesDraft entry id = true ↔ id ∈ entry.draftRefs := by
  rw [mem_draftRefs]
  unfold draftReferencesDraft DraftContent.claimRefs
  cases entry with
  | claim body claimKind parent => cases parent <;> simp [eq_comm]
  | relation source target kind => simp [eq_comm (a := ClaimRef.draft id)]
  | stance target position => simp [eq_comm]
  | resolve claim outcome => simp [eq_comm]
  | comment claim body => cases claim <;> simp [eq_comm]

/-- The invariant of the draft buffer: ids increase, and a draft refers only to claim drafts that
were created before it and are still there. -/
structure WellFormedDrafts (drafts : List DraftEntry) : Prop where
  increasing : drafts.Pairwise fun earlier later => earlier.id < later.id
  refs : ∀ draft ∈ drafts, ∀ id ∈ draft.entry.draftRefs,
    id < draft.id ∧ ∃ target ∈ drafts, target.id = id ∧ target.entry.isClaim = true

theorem WellFormedDrafts.nil : WellFormedDrafts [] :=
  ⟨List.Pairwise.nil, by simp⟩

/-- Ids determine drafts. -/
theorem WellFormedDrafts.eq_of_id {drafts : List DraftEntry} (wf : WellFormedDrafts drafts)
    {first second : DraftEntry} (firstMem : first ∈ drafts) (secondMem : second ∈ drafts)
    (same : first.id = second.id) : first = second := by
  have distinct : (drafts.map (·.id)).Nodup :=
    List.pairwise_map.mpr (wf.increasing.imp fun less => less.ne)
  exact List.inj_on_of_nodup_map distinct firstMem secondMem same

/-- Accepted references name claim drafts that are present. -/
theorem validateClaimRefs_ok {drafts : List DraftEntry} :
    ∀ {claimRefs : List ClaimRef}, validateClaimRefs drafts claimRefs = .ok () →
      ∀ id, ClaimRef.draft id ∈ claimRefs →
        ∃ target ∈ drafts, target.id = id ∧ target.entry.isClaim = true
  | [], _, id, member => by simp at member
  | claimRef :: rest, accepted, id, member => by
      rw [validateClaimRefs] at accepted
      split at accepted
      · rename_i headOk
        rcases List.mem_cons.mp member with rfl | later
        · rw [validateClaimRef] at headOk
          split at headOk
          · rename_i target found
            split at headOk
            · rename_i isClaim
              exact ⟨target, List.mem_of_find?_eq_some found,
                by simpa using List.find?_some found, isClaim⟩
            · cases headOk
          · cases headOk
        · exact validateClaimRefs_ok accepted id later
      · cases accepted

/-- What a successful drafting method does. -/
theorem pushDraft_ok {engine after : ConsensusEngine} {entry : DraftContent} {id : DraftId}
    (success : engine.pushDraft entry = (.ok id, after)) :
    validateClaimRefs engine.drafts entry.claimRefs = .ok () ∧ id = engine.nextDraftId ∧
      after = { engine with
        drafts := engine.drafts ++ [{ id := engine.nextDraftId, entry }]
        nextDraftId := engine.nextDraftId + 1 } := by
  rw [ConsensusEngine.pushDraft] at success
  split at success
  · rename_i accepted
    cases success
    exact ⟨accepted, rfl, rfl⟩
  · cases success

/-- A failed drafting method leaves the engine as it was. -/
theorem pushDraft_error {engine after : ConsensusEngine} {entry : DraftContent}
    {error : EngineError} (failure : engine.pushDraft entry = (.error error, after)) :
    after = engine := by
  rw [ConsensusEngine.pushDraft] at failure
  split at failure <;> cases failure
  rfl

/-- Removing the draft at the place of an id is removing that id. -/
theorem eraseIdx_findIdx? {drafts : List DraftEntry} (wf : drafts.Pairwise fun a b => a.id < b.id)
    {id : DraftId} {pos : Nat}
    (found : drafts.findIdx? (fun draft => decide (draft.id = id)) = some pos) :
    drafts.eraseIdx pos = drafts.filter fun draft => decide (draft.id ≠ id) := by
  induction drafts generalizing pos with
  | nil => simp at found
  | cons draft rest ih =>
      obtain ⟨headLess, restIncreasing⟩ := List.pairwise_cons.mp wf
      rw [List.findIdx?_cons] at found
      split at found
      · rename_i here
        obtain rfl := Option.some.inj found
        have hereId : draft.id = id := by simpa using here
        have restKept : rest.filter (fun draft => decide (draft.id ≠ id)) = rest := by
          rw [List.filter_eq_self]
          intro later member
          simp only [decide_eq_true_eq]
          exact hereId ▸ (headLess later member).ne'
        rw [List.eraseIdx_cons_zero, List.filter_cons_of_neg (by simp [hereId]), restKept]
      · rename_i notHere
        obtain ⟨restPos, restFound, rfl⟩ := Option.map_eq_some_iff.mp found
        rw [List.eraseIdx_cons_succ, ih restIncreasing restFound,
          List.filter_cons_of_pos (by simpa using notHere)]

/-- What `removeDraft` does to a well-formed buffer: it removes the draft, unless the draft is a
claim that another draft refers to, or does not exist. -/
theorem removeDraft_cases {engine : ConsensusEngine} (wf : WellFormedDrafts engine.drafts)
    (id : DraftId) :
    (engine.removeDraft id = (.error (.draftNotFound id), engine) ∧
        ∀ draft ∈ engine.drafts, draft.id ≠ id) ∨
      (∃ referencedBy ∈ engine.drafts, id ∈ referencedBy.entry.draftRefs ∧
        engine.removeDraft id = (.error (.draftReferenced id referencedBy.id), engine)) ∨
      ((∃ draft ∈ engine.drafts, draft.id = id) ∧
        (∀ draft ∈ engine.drafts, id ∉ draft.entry.draftRefs) ∧
        engine.removeDraft id = (.ok (), { engine with
          drafts := engine.drafts.filter fun draft => decide (draft.id ≠ id) })) := by
  unfold ConsensusEngine.removeDraft
  split
  · rename_i missing
    rw [List.findIdx?_eq_none_iff] at missing
    exact Or.inl ⟨rfl, fun draft member => by simpa using missing draft member⟩
  · rename_i pos found
    have erased := eraseIdx_findIdx? wf.increasing found
    obtain ⟨inside, atPos, _⟩ := List.findIdx?_eq_some_iff_getElem.mp found
    have removedId : engine.drafts[pos].id = id := by simpa using atPos
    have removedMem : engine.drafts[pos] ∈ engine.drafts := List.getElem_mem inside
    dsimp only
    rw [List.getElem?_eq_getElem inside, Option.any_some]
    split
    · rename_i referencedBy isClaim foundRef
      have refMem := List.mem_of_find?_eq_some foundRef
      have refers := List.find?_some foundRef
      exact Or.inr (Or.inl ⟨referencedBy, (List.mem_filter.mp refMem).1,
        draftReferencesDraft_iff.mp refers, rfl⟩)
    · rename_i unreferenced
      refine Or.inr (Or.inr ⟨⟨_, removedMem, removedId⟩, ?_, by rw [erased]⟩)
      intro draft member refers
      obtain ⟨less, target, targetMem, targetId, targetClaim⟩ := wf.refs draft member id refers
      have isRemoved := wf.eq_of_id targetMem removedMem (targetId.trans removedId.symm)
      have other : draft ∈ engine.drafts.filter fun draft => decide (draft.id ≠ id) :=
        List.mem_filter.mpr ⟨member, by simpa using less.ne'⟩
      have someRef : ((engine.drafts.filter fun draft => decide (draft.id ≠ id)).find?
          fun draft => draftReferencesDraft draft.entry id).isSome := by
        rw [List.find?_isSome]
        exact ⟨draft, other, draftReferencesDraft_iff.mpr refers⟩
      obtain ⟨first, foundFirst⟩ := Option.isSome_iff_exists.mp someRef
      exact unreferenced first (isRemoved ▸ targetClaim) foundFirst

/-- Removing an unreferenced id keeps the buffer well-formed. -/
theorem WellFormedDrafts.filter {drafts : List DraftEntry} (wf : WellFormedDrafts drafts)
    {id : DraftId} (unreferenced : ∀ draft ∈ drafts, id ∉ draft.entry.draftRefs) :
    WellFormedDrafts (drafts.filter fun draft => decide (draft.id ≠ id)) := by
  refine ⟨wf.increasing.filter _, fun draft member ref refers => ?_⟩
  have draftMem := (List.mem_filter.mp member).1
  obtain ⟨less, target, targetMem, targetId, targetClaim⟩ := wf.refs draft draftMem ref refers
  refine ⟨less, target, List.mem_filter.mpr ⟨targetMem, ?_⟩, targetId, targetClaim⟩
  have notRemoved : ref ≠ id := fun same => unreferenced draft draftMem (same ▸ refers)
  simpa [targetId] using notRemoved

/-- Appending a draft whose references were accepted keeps the buffer well-formed. -/
theorem WellFormedDrafts.concat {drafts : List DraftEntry} (wf : WellFormedDrafts drafts)
    {id : DraftId} {entry : DraftContent} (fresh : ∀ draft ∈ drafts, draft.id < id)
    (accepted : validateClaimRefs drafts entry.claimRefs = .ok ()) :
    WellFormedDrafts (drafts ++ [⟨id, entry⟩]) := by
  constructor
  · rw [List.pairwise_append]
    refine ⟨wf.increasing, List.pairwise_singleton _ _, fun draft member last isLast => ?_⟩
    rw [List.mem_singleton.mp isLast]
    exact fresh draft member
  · intro draft member ref refers
    rcases List.mem_append.mp member with earlier | isLast
    · obtain ⟨less, target, targetMem, spec⟩ := wf.refs draft earlier ref refers
      exact ⟨less, target, List.mem_append_left _ targetMem, spec⟩
    · rw [List.mem_singleton.mp isLast] at refers ⊢
      obtain ⟨target, targetMem, targetId, targetClaim⟩ :=
        validateClaimRefs_ok accepted ref (mem_draftRefs.mp refers)
      exact ⟨targetId ▸ fresh target targetMem, target, List.mem_append_left _ targetMem,
        targetId, targetClaim⟩

/-! ### Runs of draft operations -/

/-- A call of one of the engine's draft operations. -/
inductive DraftOp where
  | draftClaim (body : String) (kind : ClaimKind) (parent : Option ClaimRef)
  | draftRelation (source target : ClaimRef) (kind : RelationKind)
  | draftStance (target : ClaimRef) (position : Position)
  | draftResolve (claim : ClaimRef) (outcome : Outcome)
  | draftComment (body : String) (claim : Option ClaimRef)
  | removeDraft (id : DraftId)
  | clearDrafts
deriving DecidableEq, Repr

/-- Run a draft operation and drop the id it returns. -/
def ConsensusEngine.perform (engine : ConsensusEngine) :
    DraftOp → Except EngineError Unit × ConsensusEngine
  | .draftClaim body kind parent => (engine.draftClaim body kind parent).map (·.map fun _ => ()) id
  | .draftRelation source target kind =>
      (engine.draftRelation source target kind).map (·.map fun _ => ()) id
  | .draftStance target position =>
      (engine.draftStance target position).map (·.map fun _ => ()) id
  | .draftResolve claim outcome => (engine.draftResolve claim outcome).map (·.map fun _ => ()) id
  | .draftComment body claim => (engine.draftComment body claim).map (·.map fun _ => ()) id
  | .removeDraft id => engine.removeDraft id
  | .clearDrafts => (.ok (), engine.clearDrafts)

/-- The invariant of the engine: its buffer is well-formed and the next id is new. -/
structure WellFormedEngine (engine : ConsensusEngine) : Prop where
  drafts : WellFormedDrafts engine.drafts
  fresh : ∀ draft ∈ engine.drafts, draft.id < engine.nextDraftId

theorem WellFormedEngine.new (draftAuthor : String) :
    WellFormedEngine (ConsensusEngine.new draftAuthor) :=
  ⟨WellFormedDrafts.nil, by simp [ConsensusEngine.new]⟩

theorem WellFormedEngine.pushDraft {engine : ConsensusEngine} (wf : WellFormedEngine engine)
    (entry : DraftContent) : WellFormedEngine (engine.pushDraft entry).2 := by
  cases outcome : engine.pushDraft entry with
  | mk result after =>
      cases result with
      | error error =>
          rw [pushDraft_error outcome]
          exact wf
      | ok id =>
          obtain ⟨accepted, _, rfl⟩ := pushDraft_ok outcome
          refine ⟨wf.drafts.concat wf.fresh accepted, fun draft member => ?_⟩
          rcases List.mem_append.mp member with earlier | isLast
          · exact Nat.lt_succ_of_lt (wf.fresh draft earlier)
          · rw [List.mem_singleton.mp isLast]
            exact Nat.lt_succ_self _

theorem WellFormedEngine.removeDraft {engine : ConsensusEngine} (wf : WellFormedEngine engine)
    (id : DraftId) : WellFormedEngine (engine.removeDraft id).2 := by
  rcases removeDraft_cases wf.drafts id with ⟨same, _⟩ | ⟨_, _, _, same⟩ | ⟨_, unreferenced, same⟩
  · rw [same]
    exact wf
  · rw [same]
    exact wf
  · rw [same]
    exact ⟨wf.drafts.filter unreferenced, fun draft member =>
      wf.fresh draft (List.mem_filter.mp member).1⟩

theorem WellFormedEngine.clearDrafts {engine : ConsensusEngine} :
    WellFormedEngine engine.clearDrafts :=
  ⟨WellFormedDrafts.nil, by simp [ConsensusEngine.clearDrafts]⟩

/-- Every draft operation, successful or not, keeps the invariant. -/
theorem WellFormedEngine.perform {engine : ConsensusEngine} (wf : WellFormedEngine engine)
    (op : DraftOp) : WellFormedEngine (engine.perform op).2 := by
  cases op with
  | draftClaim body kind parent => exact wf.pushDraft _
  | draftRelation source target kind => exact wf.pushDraft _
  | draftStance target position => exact wf.pushDraft _
  | draftResolve claim outcome => exact wf.pushDraft _
  | draftComment body claim => exact wf.pushDraft _
  | removeDraft id => exact wf.removeDraft id
  | clearDrafts => exact WellFormedEngine.clearDrafts

end ProstheticConscience.Consensus
