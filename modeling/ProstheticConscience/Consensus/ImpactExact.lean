/-
Module: ProstheticConscience.Consensus.ImpactExact
Purpose: The impact analysis reports the status changes of committed claims and the drafted claims,
  each once and in order, and no status change without a draft that argues.
Trusted boundary: none
Main exports: statusChanges_increasing, semanticStatus?_neutral_preview, ImpactIsExact,
  impact_analysis_is_exact
-/
import ProstheticConscience.Consensus.DraftClaims
import ProstheticConscience.Consensus.StatusLocality
import Mathlib.Data.String.Basic

namespace ProstheticConscience.Consensus

/-! ### The order of what is reported -/

section Reported

variable {drafts : List DraftEntry} {draftAuthor : String}
  {committedState previewState : MaterializedState}
  {committedStatuses previewStatuses : AssocMap ClaimId EpistemicStatus}

theorem statusChanges_increasing :
    (buildImpactAnalysis drafts draftAuthor committedState committedStatuses previewState
      previewStatuses).statusChanges.Pairwise fun a b => a.claimId.value < b.claimId.value := by
  have increasing : (((committedState.claims.keys ++ previewState.claims.keys).mergeSort
      fun a b => decide (a.value ≤ b.value)).eraseReps.filterMap
        (impactStatusChange? committedState committedStatuses previewState
          previewStatuses)).Pairwise fun a b => a.claimId.value < b.claimId.value := by
    rw [List.pairwise_filterMap]
    apply (eraseReps_increasing ClaimId.value_injective (sortOn_sorted ClaimId.value _)).imp
    intro first second less change reported later laterReported
    rw [(impactStatusChange?_eq_some.mp reported).2.2,
      (impactStatusChange?_eq_some.mp laterReported).2.2]
    exact less
  have sorted := increasing.imp fun less => decide_eq_true less.le
  rw [buildImpactAnalysis]
  dsimp only
  rw [List.mergeSort_of_pairwise sorted]
  exact increasing

/-- With the drafts in the order of their ids the new claims are in that order as well. -/
theorem newClaims_increasing
    (increasing : drafts.Pairwise fun earlier later => earlier.id < later.id) :
    (drafts.filterMap (impactNewClaim? draftAuthor previewStatuses)).Pairwise
      fun a b => a.draftId < b.draftId := by
  rw [List.pairwise_filterMap]
  apply increasing.imp
  intro first second less claim reported later laterReported
  rw [(mem_newClaims reported).2.1, (mem_newClaims laterReported).2.1]
  exact less

theorem newClaims_eq (increasing : drafts.Pairwise fun earlier later => earlier.id < later.id) :
    (buildImpactAnalysis drafts draftAuthor committedState committedStatuses previewState
      previewStatuses).newClaims =
      drafts.filterMap (impactNewClaim? draftAuthor previewStatuses) := by
  apply List.mergeSort_of_pairwise
  apply (newClaims_increasing increasing).imp
  intro first second less
  exact decide_eq_true (Nat.le_of_lt less)

end Reported

/-! ### Drafts that do not argue -/

/-- A draft that is no stance, no resolution and no attacks relation. -/
def DraftContent.isNeutral : DraftContent → Bool
  | .claim _ _ _ => true
  | .relation _ _ kind => decide (kind = .supports)
  | .stance _ _ => false
  | .resolve _ _ => false
  | .comment _ _ => true

/-- No id of the log looks like a provisional one. -/
def FreeOfProvisional (log : List Entry) : Prop :=
  ∀ entry ∈ log, ∀ id ∈ entry.ids, ∀ n, id ≠ draftClaimPreviewId n

/-- Without attacks from it a claim leads to itself only. -/
theorem LeadsTo.eq_of_no_attack {log : List Entry} {source target : ClaimId}
    (leads : LeadsTo log source target) (harmless : ∀ claim, ¬HasAttack log source claim) :
    target = source := by
  rcases Relation.ReflTransGen.cases_head leads with same | ⟨claim, attack, _⟩
  · exact same.symm
  · exact absurd attack.1 (harmless claim)

/-- Neutral drafts add no attack. -/
theorem hasAttack_neutral_preview {log : List Entry} {drafts : List DraftEntry}
    {draftAuthor : String} (neutral : ∀ draft ∈ drafts, draft.entry.isNeutral = true)
    {source target : ClaimId}
    (attack : HasAttack (log ++ previewEntries drafts draftAuthor) source target) :
    HasAttack log source target := by
  obtain ⟨author, member⟩ := attack
  rcases List.mem_append.mp member with committed | previewed
  · exact ⟨author, committed⟩
  · obtain ⟨draft, draftMem, named⟩ := List.mem_map.mp previewed
    have isNeutral := neutral draft draftMem
    obtain ⟨id, entry⟩ := draft
    cases entry with
    | relation first second kind =>
        cases named
        cases isNeutral
    | _ => cases named

/-- Neutral drafts change the status of no committed claim: the claims that they introduce are new
to the log, whose attacks cannot start from them. -/
theorem semanticStatus?_neutral_preview {log : List Entry} {drafts : List DraftEntry}
    {draftAuthor : String} (neutral : ∀ draft ∈ drafts, draft.entry.isNeutral = true)
    (free : FreeOfProvisional log) {id : ClaimId} (known : HasClaim log id) :
    semanticStatus? (log ++ previewEntries drafts draftAuthor) id = semanticStatus? log id := by
  induction drafts using List.reverseRecOn with
  | nil => rw [previewEntries, List.map_nil, List.append_nil]
  | append_singleton drafts draft ih =>
      have harmless : ∀ n claim, ¬HasAttack (log ++ previewEntries (drafts ++ [draft]) draftAuthor)
          (draftClaimPreviewId n) claim := by
        intro n claim attack
        obtain ⟨author, member⟩ := hasAttack_neutral_preview neutral attack
        exact free _ member _ List.mem_cons_self n rfl
      have isNeutral := neutral draft (List.mem_append_right _ List.mem_cons_self)
      rw [← ih fun earlier member => neutral earlier (List.mem_append_left _ member)]
      rw [previewEntries_concat, ← List.append_assoc] at harmless ⊢
      apply (sameStanding_of_not_affects _).semanticStatus?_eq.symm
      obtain ⟨draftId, entry⟩ := draft
      cases entry with
      | claim body claimKind parent =>
          rintro ⟨_, leads⟩
          obtain ⟨author, claimBody, kind, parentId, introduced⟩ := known
          apply free _ introduced id List.mem_cons_self draftId
          exact leads.eq_of_no_attack (harmless draftId)
      | relation source target kind =>
          cases kind with
          | supports => exact not_false
          | attacks => cases isNeutral
      | comment claim body => exact not_false
      | stance target position => cases isNeutral
      | resolve claim outcome => cases isNeutral

/-! ### Exactness

An impact analysis compares the statuses of the log with those of the log and the drafts. Under the
assumption that the provisional ids of the drafts are new, both are pipelines over logs, and what it
reports are the differences between their statuses. -/

/-- What is reported about a claim draft. -/
structure Reports (draftAuthor : String) (previewStatuses : AssocMap ClaimId EpistemicStatus)
    (newClaim : ImpactNewClaim) (draft : DraftEntry) : Prop where
  draftId : newClaim.draftId = draft.id
  content : ∃ parent, draft.entry = .claim newClaim.body newClaim.kind parent
  author : newClaim.author = draftAuthor
  status : newClaim.status = previewStatuses.lookup (draftClaimPreviewId draft.id)

/-- One record for each claim draft, in the order of the drafts. -/
theorem newClaims_report (drafts : List DraftEntry) (draftAuthor : String)
    (previewStatuses : AssocMap ClaimId EpistemicStatus) :
    List.Forall₂ (Reports draftAuthor previewStatuses)
      (drafts.filterMap (impactNewClaim? draftAuthor previewStatuses))
      (drafts.filter fun draft => draft.entry.isClaim) := by
  induction drafts with
  | nil => exact .nil
  | cons draft rest ih =>
      obtain ⟨id, entry⟩ := draft
      cases entry with
      | claim body claimKind parent => exact .cons ⟨rfl, ⟨parent, rfl⟩, rfl, rfl⟩ ih
      | _ => exact ih

/-- The impact says what changes between a committed state and its preview, and no more. -/
structure ImpactIsExact (engine : ConsensusEngine) (committed preview : MaterializedState)
    (impact : ImpactAnalysis) : Prop where
  changesIncreasing :
    impact.statusChanges.Pairwise fun a b => a.claimId.value < b.claimId.value
  changes : ∀ change, change ∈ impact.statusChanges ↔
    ∃ claim, committed.claims.lookup change.claimId = some claim ∧ change.body = claim.body ∧
      change.before = (statuses committed).lookup change.claimId ∧
      change.after = (statuses preview).lookup change.claimId ∧ change.before ≠ change.after
  newClaimsIncreasing : impact.newClaims.Pairwise fun a b => a.draftId < b.draftId
  newClaims : List.Forall₂ (Reports engine.draftAuthor (statuses preview)) impact.newClaims
    (engine.drafts.filter fun draft => draft.entry.isClaim)
  neutral : (∀ draft ∈ engine.drafts, draft.entry.isNeutral = true) → impact.statusChanges = []

/-- In the preview a committed claim keeps its body. -/
theorem body_kept {log later : List Entry} {committed preview : MaterializedState}
    (committedOrder : (replay log).Reorder committed)
    (previewOrder : (replay (log ++ later)).Reorder preview) {id : ClaimId} {claim : ClaimState}
    (found : committed.claims.lookup id = some claim) :
    (((preview.claims.lookup id).or (committed.claims.lookup id)).map (·.body)).getD "" =
      claim.body := by
  have known : (replay log).content id = some claim.content := by
    rw [← committedOrder.content, MaterializedState.content, found]
    rfl
  have kept : preview.content id = some claim.content := by
    rw [previewOrder.content]
    exact content_kept known later
  obtain ⟨later, laterFound, same⟩ := Option.map_eq_some_iff.mp kept
  rw [laterFound]
  exact congrArg ClaimContent.body same

/-- For every log and every reachable draft buffer whose ids do not look like provisional ones, the
impact analysis succeeds and is exact, whatever the iteration orders of the maps. -/
theorem impact_analysis_is_exact {draftAuthor : String} {trace : List EngineOp}
    {engine : ConsensusEngine} (run : (engineSystem draftAuthor).Execution trace engine)
    (notProvisional : ∀ id ∈ engine.knownIds, ∀ n, id ≠ draftClaimPreviewId n) :
    ∃ entries, materializeDraftsForPreview engine.drafts engine.draftAuthor = .ok entries ∧
      engine.impactAnalysis = .ok (buildImpactAnalysis engine.drafts engine.draftAuthor
        (replay engine.log) (statuses (replay engine.log))
        (replay (engine.log ++ entries)) (statuses (replay (engine.log ++ entries)))) ∧
      ∀ committedState previewState, (replay engine.log).Reorder committedState →
        (replay (engine.log ++ entries)).Reorder previewState →
        ImpactIsExact engine committedState previewState
          (buildImpactAnalysis engine.drafts engine.draftAuthor committedState
            (statuses committedState) previewState (statuses previewState)) := by
  have wf := (engineSystem_wellFormed run).drafts
  have previewed := materializeDraftsForPreview_ok wf engine.draftAuthor
  refine ⟨previewEntries engine.drafts engine.draftAuthor, previewed,
    ConsensusEngine.impactAnalysis_ok previewed, ?_⟩
  intro committedState previewState committedOrder previewOrder
  have committedRep := (replay_represents engine.log).reorder committedOrder
  have previewRep := (replay_represents (engine.log ++
    previewEntries engine.drafts engine.draftAuthor)).reorder previewOrder
  constructor
  · exact statusChanges_increasing
  · intro change
    rw [mem_statusChanges, impactStatusChange?_eq_some, AssocMap.mem_iff_lookup]
    constructor
    · rintro ⟨⟨claim, found⟩, differs, same⟩
      rw [body_kept committedOrder previewOrder found] at same
      have before := congrArg ImpactStatusChange.before same
      have after := congrArg ImpactStatusChange.after same
      refine ⟨claim, found, congrArg ImpactStatusChange.body same, before, after, ?_⟩
      rwa [before, after]
    · rintro ⟨claim, found, body, before, after, differs⟩
      rw [before, after] at differs
      refine ⟨⟨claim, found⟩, differs, ?_⟩
      rw [body_kept committedOrder previewOrder found, ← body, ← before, ← after]
  · rw [newClaims_eq wf.increasing]
    exact newClaims_increasing wf.increasing
  · rw [newClaims_eq wf.increasing]
    exact newClaims_report engine.drafts engine.draftAuthor _
  · intro neutral
    rw [List.eq_nil_iff_forall_not_mem]
    intro change reported
    obtain ⟨committed, differs, _⟩ := impactStatusChange?_eq_some.mp (mem_statusChanges.mp reported)
    have free : FreeOfProvisional engine.log :=
      fun entry member id occurs => notProvisional id (.inl ⟨entry, member, occurs⟩)
    apply differs
    rw [lookup_statuses_eq committedRep, lookup_statuses_eq previewRep]
    exact (semanticStatus?_neutral_preview neutral free ((committedRep.claims _).mp committed)).symm

/-- The impact of a drafted objection to a committed claim. -/
theorem objectionEngine_impact_exact :
    ∃ entries impact, objectionEngine.impactAnalysis = .ok impact ∧
      ImpactIsExact objectionEngine (replay objectionEngine.log)
        (replay (objectionEngine.log ++ entries)) impact := by
  obtain ⟨entries, _, analysed, exact_⟩ :=
    impact_analysis_is_exact objectionEngine_run objectionEngine_supply.notProvisional
  exact ⟨entries, _, analysed, exact_ _ _ (.refl _) (.refl _)⟩

end ProstheticConscience.Consensus
