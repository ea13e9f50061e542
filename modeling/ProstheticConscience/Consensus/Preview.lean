/-
Module: ProstheticConscience.Consensus.Preview
Purpose: Previewing drafts on top of the committed log and the impact analysis.
Trusted boundary: none
Main exports: draftClaimPreviewId, materializeDraftsForPreview, HashOrder.previewOverview,
  HashOrder.impactAnalysis, engineSystem, DraftEntry.named, materializeDraft_ok,
  materializeDraftsForPreview_ok
-/
import ProstheticConscience.Consensus.Engine
import ProstheticConscience.Consensus.Render
import ProstheticConscience.Consensus.Renaming
import ProstheticConscience.Library.Sorting

namespace ProstheticConscience.Consensus

/-- The provisional id of a drafted claim. -/
def draftClaimPreviewId (draftId : DraftId) : ClaimId :=
  ⟨"draft-" ++ toString draftId⟩

def resolveClaimRefForPreview (drafts : List DraftEntry) (claimRef : ClaimRef) :
    Except EngineError ClaimId :=
  match claimRef with
  | .committed claimId => .ok claimId
  | .draft draftId => do
      validateClaimRef drafts claimRef
      return draftClaimPreviewId draftId

def materializeDraftForPreview (drafts : List DraftEntry) (draftAuthor : String)
    (draft : DraftEntry) : Except EngineError Entry :=
  materializeDraft draftAuthor draft (resolveClaimRefForPreview drafts)
    fun draftId => .ok (draftClaimPreviewId draftId)

def materializeDraftsForPreview (drafts : List DraftEntry) (draftAuthor : String) :
    Except EngineError (List Entry) :=
  drafts.mapM (materializeDraftForPreview drafts draftAuthor)

/-- The committed entries followed by the drafts. -/
def mergedEntries (committedEntries : List Entry) (drafts : List DraftEntry)
    (draftAuthor : String) : Except EngineError (List Entry) := do
  let entries ← materializeDraftsForPreview drafts draftAuthor
  return committedEntries ++ entries

/-- Overview including uncommitted drafts. -/
def HashOrder.previewOverview (order : HashOrder) (committedEntries : List Entry)
    (drafts : List DraftEntry) (draftAuthor : String) : Except EngineError OverviewData := do
  let merged ← mergedEntries committedEntries drafts draftAuthor
  return order.overviewFromEntries merged

/-! ### Impact analysis -/

/-- Summary of a newly introduced claim. -/
structure ImpactNewClaim where
  draftId : DraftId
  body : String
  author : String
  kind : ClaimKind
  status : Option EpistemicStatus
deriving DecidableEq, Repr

/-- A status transition caused by the current drafts. -/
structure ImpactStatusChange where
  claimId : ClaimId
  body : String
  before : Option EpistemicStatus
  after : Option EpistemicStatus
deriving DecidableEq, Repr

/-- Impact of applying the current drafts to the committed state. -/
structure ImpactAnalysis where
  newClaims : List ImpactNewClaim
  statusChanges : List ImpactStatusChange
deriving DecidableEq, Repr

/-- The new claim of a draft, if it is a claim draft. -/
def impactNewClaim? (draftAuthor : String)
    (previewStatuses : AssocMap ClaimId EpistemicStatus) (draft : DraftEntry) :
    Option ImpactNewClaim :=
  match draft.entry with
  | .claim body claimKind _ =>
      some {
        draftId := draft.id
        body
        author := draftAuthor
        kind := claimKind
        status := previewStatuses.lookup (draftClaimPreviewId draft.id) }
  | _ => none

/-- The status change of a claim, if it is committed and its status differs. -/
def impactStatusChange? (committedState : MaterializedState)
    (committedStatuses : AssocMap ClaimId EpistemicStatus) (previewState : MaterializedState)
    (previewStatuses : AssocMap ClaimId EpistemicStatus) (claimId : ClaimId) :
    Option ImpactStatusChange :=
  if claimId ∉ committedState.claims then none
  else
    let before := committedStatuses.lookup claimId
    let after := previewStatuses.lookup claimId
    if before ≠ after then
      let claim := (previewState.claims.lookup claimId).or (committedState.claims.lookup claimId)
      some { claimId, body := (claim.map (·.body)).getD "", before, after }
    else none

def buildImpactAnalysis (drafts : List DraftEntry) (draftAuthor : String)
    (committedState : MaterializedState)
    (committedStatuses : AssocMap ClaimId EpistemicStatus) (previewState : MaterializedState)
    (previewStatuses : AssocMap ClaimId EpistemicStatus) : ImpactAnalysis :=
  let newClaims := drafts.filterMap (impactNewClaim? draftAuthor previewStatuses)
  let claimIds := (committedState.claims.keys ++ previewState.claims.keys).mergeSort
    fun a b => decide (a.value ≤ b.value)
  let statusChanges := claimIds.eraseReps.filterMap
    (impactStatusChange? committedState committedStatuses previewState previewStatuses)
  { newClaims := newClaims.mergeSort fun a b => decide (a.draftId ≤ b.draftId)
    statusChanges := statusChanges.mergeSort
      fun a b => decide (a.claimId.value ≤ b.claimId.value) }

def HashOrder.impactAnalysis (order : HashOrder) (committedEntries : List Entry)
    (drafts : List DraftEntry) (draftAuthor : String) : Except EngineError ImpactAnalysis := do
  let (committedState, committedStatuses) := order.materializeEntries committedEntries
  let merged ← mergedEntries committedEntries drafts draftAuthor
  let (previewState, previewStatuses) := order.materializeEntries merged
  return buildImpactAnalysis drafts draftAuthor committedState committedStatuses previewState
    previewStatuses

/-! ### What an impact analysis reports

The reported changes are those of claims that have a status before and after; the new claims are
those that have one only after. -/

section Reported

variable {drafts : List DraftEntry} {draftAuthor : String}
  {committedState previewState : MaterializedState}
  {committedStatuses previewStatuses : AssocMap ClaimId EpistemicStatus}

theorem newClaims_iff {newClaim : ImpactNewClaim} :
    newClaim ∈ (buildImpactAnalysis drafts draftAuthor committedState committedStatuses previewState
        previewStatuses).newClaims ↔
      ∃ draft ∈ drafts, impactNewClaim? draftAuthor previewStatuses draft = some newClaim := by
  rw [buildImpactAnalysis, List.mem_mergeSort, List.mem_filterMap]

theorem mem_newClaims {statuses : AssocMap ClaimId EpistemicStatus} {draft : DraftEntry}
    {claim : ImpactNewClaim}
    (reported : impactNewClaim? draftAuthor statuses draft = some claim) :
    draft.entry.isClaim = true ∧ claim.draftId = draft.id ∧
      claim.status = statuses.lookup (draftClaimPreviewId draft.id) := by
  unfold impactNewClaim? at reported
  split at reported
  · rename_i body claimKind parent content
    obtain rfl := Option.some.inj reported
    refine ⟨?_, rfl, rfl⟩
    rw [content]
    rfl
  · cases reported

theorem impactNewClaim?_isSome (draftAuthor : String)
    (statuses : AssocMap ClaimId EpistemicStatus) {draft : DraftEntry}
    (isClaim : draft.entry.isClaim = true) :
    ∃ claim, impactNewClaim? draftAuthor statuses draft = some claim := by
  unfold impactNewClaim?
  split
  · exact ⟨_, rfl⟩
  · rename_i notClaim
    cases content : draft.entry with
    | claim body claimKind parent => exact absurd content (notClaim _ _ _)
    | _ =>
        rw [content] at isClaim
        cases isClaim

/-- A change is reported for a committed claim whose status differs, and only then. -/
theorem impactStatusChange?_eq_some {claimId : ClaimId} {change : ImpactStatusChange} :
    impactStatusChange? committedState committedStatuses previewState previewStatuses claimId =
        some change ↔
      claimId ∈ committedState.claims ∧
        committedStatuses.lookup claimId ≠ previewStatuses.lookup claimId ∧
        change = {
          claimId
          body := (((previewState.claims.lookup claimId).or
            (committedState.claims.lookup claimId)).map (·.body)).getD ""
          before := committedStatuses.lookup claimId
          after := previewStatuses.lookup claimId } := by
  unfold impactStatusChange?
  dsimp only
  split_ifs with committed differs
  · rw [Option.some_inj, and_iff_right committed, and_iff_right differs, eq_comm]
  · simp [not_not.mp differs]
  · simp [committed]

/-- A committed claim whose status differs is reported once, at its place. -/
theorem mem_statusChanges {change : ImpactStatusChange} :
    change ∈ (buildImpactAnalysis drafts draftAuthor committedState committedStatuses previewState
        previewStatuses).statusChanges ↔
      impactStatusChange? committedState committedStatuses previewState previewStatuses
        change.claimId = some change := by
  rw [buildImpactAnalysis, List.mem_mergeSort, List.mem_filterMap]
  constructor
  · rintro ⟨claimId, _, reported⟩
    have sameId : change.claimId = claimId := by
      rw [(impactStatusChange?_eq_some.mp reported).2.2]
    rwa [sameId]
  · intro reported
    refine ⟨change.claimId, ?_, reported⟩
    rw [mem_eraseReps, List.mem_mergeSort]
    exact List.mem_append_left _ (impactStatusChange?_eq_some.mp reported).1

theorem exists_statusChange {claimId : ClaimId} (committed : claimId ∈ committedState.claims)
    (differs : committedStatuses.lookup claimId ≠ previewStatuses.lookup claimId) :
    ∃ change ∈ (buildImpactAnalysis drafts draftAuthor committedState committedStatuses previewState
      previewStatuses).statusChanges, change.claimId = claimId := by
  let change : ImpactStatusChange := {
    claimId
    body := (((previewState.claims.lookup claimId).or
      (committedState.claims.lookup claimId)).map (·.body)).getD ""
    before := committedStatuses.lookup claimId
    after := previewStatuses.lookup claimId }
  have reported : impactStatusChange? committedState committedStatuses previewState
      previewStatuses claimId = some change :=
    impactStatusChange?_eq_some.mpr ⟨committed, differs, rfl⟩
  exact ⟨change, mem_statusChanges.mpr reported, rfl⟩

/-- The impact does not depend on the iteration order of the maps. -/
theorem buildImpactAnalysis_eq {committed committed' preview preview' : MaterializedState}
    {committedStatuses committedStatuses' previewStatuses previewStatuses' :
      AssocMap ClaimId EpistemicStatus}
    (sameCommitted : AssocMap.Same committed.claims committed'.claims)
    (sameCommittedStatuses : AssocMap.Same committedStatuses committedStatuses')
    (samePreview : AssocMap.Same preview.claims preview'.claims)
    (samePreviewStatuses : AssocMap.Same previewStatuses previewStatuses') :
    buildImpactAnalysis drafts draftAuthor committed committedStatuses preview previewStatuses =
      buildImpactAnalysis drafts draftAuthor committed' committedStatuses' preview'
        previewStatuses' := by
  have newClaim : impactNewClaim? draftAuthor previewStatuses =
      impactNewClaim? draftAuthor previewStatuses' := by
    funext draft
    simp only [impactNewClaim?, samePreviewStatuses.lookup_eq]
  have statusChange : impactStatusChange? committed committedStatuses preview previewStatuses =
      impactStatusChange? committed' committedStatuses' preview' previewStatuses' := by
    funext claimId
    simp only [impactStatusChange?, sameCommitted.mem_iff, sameCommitted.lookup_eq,
      samePreview.lookup_eq, sameCommittedStatuses.lookup_eq, samePreviewStatuses.lookup_eq]
  have claimIds : sortOn ClaimId.value (committed.claims.keys ++ preview.claims.keys) =
      sortOn ClaimId.value (committed'.claims.keys ++ preview'.claims.keys) := by
    apply sortOn_eq_of_perm _ ((sameCommitted.map _).append (samePreview.map _))
    exact fun _ _ _ _ sameValue => ClaimId.value_injective sameValue
  unfold sortOn at claimIds
  rw [buildImpactAnalysis, buildImpactAnalysis, newClaim, statusChange, claimIds]

end Reported

namespace ConsensusEngine

/-- Drain all drafts and return their preview entries. -/
def submitDrafts (engine : ConsensusEngine) : Except EngineError (List Entry) × ConsensusEngine :=
  match materializeDraftsForPreview engine.drafts engine.draftAuthor with
  | .ok entries => (.ok entries, engine.clearDrafts)
  | .error error => (.error error, engine)

def previewOverview (engine : ConsensusEngine) : Except EngineError OverviewData :=
  HashOrder.insertion.previewOverview engine.log engine.drafts engine.draftAuthor

/-- Compare committed state with committed + drafts. -/
def impactAnalysis (engine : ConsensusEngine) : Except EngineError ImpactAnalysis :=
  HashOrder.insertion.impactAnalysis engine.log engine.drafts engine.draftAuthor

end ConsensusEngine

/-- The impact analysis compares the committed state with the preview, where there is one. -/
theorem ConsensusEngine.impactAnalysis_ok {engine : ConsensusEngine} {entries : List Entry}
    (previewed : materializeDraftsForPreview engine.drafts engine.draftAuthor = .ok entries) :
    engine.impactAnalysis = .ok (buildImpactAnalysis engine.drafts engine.draftAuthor
      (replay engine.log) (statuses (replay engine.log))
      (replay (engine.log ++ entries)) (statuses (replay (engine.log ++ entries)))) := by
  rw [ConsensusEngine.impactAnalysis, HashOrder.impactAnalysis, mergedEntries, previewed]
  rfl

/-! ### Runs of the engine -/

/-- A call that changes the engine. -/
inductive EngineOp where
  | draft (op : DraftOp)
  | submitDrafts
  | append (entry : Entry)
deriving DecidableEq, Repr

/-- The engine after a call, successful or not. -/
def ConsensusEngine.run (engine : ConsensusEngine) : EngineOp → ConsensusEngine
  | .draft op => (engine.perform op).2
  | .submitDrafts => engine.submitDrafts.2
  | .append entry => engine.append entry

/-- Runs of an engine. -/
def engineSystem (draftAuthor : String) : TransitionSystem ConsensusEngine EngineOp where
  init engine := engine = ConsensusEngine.new draftAuthor
  step before op after := after = before.run op

theorem engineSystem_wellFormed {draftAuthor : String} {trace : List EngineOp}
    {engine : ConsensusEngine} (run : (engineSystem draftAuthor).Execution trace engine) :
    WellFormedEngine engine := by
  apply run.reachable_invariant (I := WellFormedEngine)
  · intro engine initial
    rw [initial]
    exact WellFormedEngine.new draftAuthor
  · intro before op after wf step
    rw [step]
    cases op with
    | draft op => exact wf.perform op
    | append entry => exact ⟨wf.drafts, wf.fresh⟩
    | submitDrafts =>
        rw [ConsensusEngine.run, ConsensusEngine.submitDrafts]
        split
        · exact WellFormedEngine.clearDrafts
        · exact wf

/-! ### Both materializers name drafts -/

/-- The claim a reference stands for, once drafted claims have names. -/
def ClaimRef.named (name : DraftId → ClaimId) : ClaimRef → ClaimId
  | .committed claimId => claimId
  | .draft draftId => name draftId

/-- The entry of a draft, once drafted claims have names. -/
def DraftEntry.named (draftAuthor : String) (name : DraftId → ClaimId) (draft : DraftEntry) :
    Entry :=
  match draft.entry with
  | .claim body claimKind parent =>
      .claim (name draft.id) draftAuthor body claimKind (parent.map (·.named name))
  | .relation source target kind =>
      .relation (source.named name) (target.named name) kind draftAuthor
  | .stance target position => .stance (target.named name) draftAuthor position
  | .resolve claim outcome => .resolve (claim.named name) draftAuthor outcome
  | .comment claim body => .comment (claim.map (·.named name)) draftAuthor body

theorem mapM_option_ok {name : DraftId → ClaimId}
    {resolveRef : ClaimRef → Except EngineError ClaimId} {claimRef? : Option ClaimRef}
    (resolved : ∀ claimRef ∈ claimRef?.toList, resolveRef claimRef = .ok (claimRef.named name)) :
    claimRef?.mapM resolveRef = .ok (claimRef?.map (·.named name)) := by
  cases claimRef? with
  | none => rfl
  | some claimRef =>
      have found : resolveRef claimRef = .ok (claimRef.named name) := resolved claimRef (by simp)
      rw [Option.mapM_some, found]
      rfl

/-- Materializing succeeds when the references and the draft's own id resolve to names. -/
theorem materializeDraft_ok {draftAuthor : String} {draft : DraftEntry}
    {name : DraftId → ClaimId} {resolveRef : ClaimRef → Except EngineError ClaimId}
    {resolveOwnClaimId : DraftId → Except EngineError ClaimId}
    (resolved : ∀ claimRef ∈ draft.entry.claimRefs,
      resolveRef claimRef = .ok (claimRef.named name))
    (own : draft.entry.isClaim = true → resolveOwnClaimId draft.id = .ok (name draft.id)) :
    materializeDraft draftAuthor draft resolveRef resolveOwnClaimId =
      .ok (draft.named draftAuthor name) := by
  obtain ⟨id, entry⟩ := draft
  cases entry with
  | claim body claimKind parent =>
      have ownId := own rfl
      have parentId := mapM_option_ok resolved
      simp only [materializeDraft, ownId, parentId]
      rfl
  | relation source target kind =>
      have sourceId := resolved source (by simp [DraftContent.claimRefs])
      have targetId := resolved target (by simp [DraftContent.claimRefs])
      simp only [materializeDraft, sourceId, targetId]
      rfl
  | stance target position =>
      have targetId := resolved target List.mem_cons_self
      simp only [materializeDraft, targetId]
      rfl
  | resolve claim outcome =>
      have claimId := resolved claim List.mem_cons_self
      simp only [materializeDraft, claimId]
      rfl
  | comment claim body =>
      have claimId := mapM_option_ok resolved
      simp only [materializeDraft, claimId]
      rfl

theorem mapM_ok {α β ε : Type} {f : α → Except ε β} {g : α → β} :
    ∀ {items : List α}, (∀ item ∈ items, f item = .ok (g item)) →
      items.mapM f = .ok (items.map g)
  | [], _ => rfl
  | item :: rest, allOk => by
      have head := allOk item List.mem_cons_self
      have tail := mapM_ok fun later member => allOk later (List.mem_cons_of_mem _ member)
      rw [List.mapM_cons, head, tail]
      rfl

/-- The references of a draft in a well-formed buffer are valid. -/
theorem WellFormedDrafts.validateClaimRef_ok {drafts : List DraftEntry}
    (wf : WellFormedDrafts drafts) {draft : DraftEntry} (member : draft ∈ drafts)
    {claimRef : ClaimRef} (refers : claimRef ∈ draft.entry.claimRefs) :
    validateClaimRef drafts claimRef = .ok () := by
  cases claimRef with
  | committed claimId => rfl
  | draft draftId =>
      obtain ⟨_, target, targetMem, rfl, targetClaim⟩ :=
        wf.refs draft member draftId (mem_draftRefs.mpr refers)
      have isSome : (findDraft drafts target.id).isSome := by
        rw [findDraft, List.find?_isSome]
        exact ⟨target, targetMem, by simp⟩
      obtain ⟨found, foundEq⟩ := Option.isSome_iff_exists.mp isSome
      have foundId : found.id = target.id := by simpa using List.find?_some foundEq
      have same := wf.eq_of_id (List.mem_of_find?_eq_some foundEq) targetMem foundId
      subst same
      rw [validateClaimRef, foundEq]
      exact if_pos targetClaim

/-- In a well-formed buffer the preview succeeds and names drafted claims provisionally. -/
theorem materializeDraftsForPreview_ok {drafts : List DraftEntry} (wf : WellFormedDrafts drafts)
    (draftAuthor : String) :
    materializeDraftsForPreview drafts draftAuthor =
      .ok (drafts.map (·.named draftAuthor draftClaimPreviewId)) := by
  apply mapM_ok
  intro draft member
  apply materializeDraft_ok
  · intro claimRef refers
    cases claimRef with
    | committed claimId => rfl
    | draft draftId =>
        rw [resolveClaimRefForPreview, wf.validateClaimRef_ok member refers]
        rfl
  · intro _
    rfl

end ProstheticConscience.Consensus
