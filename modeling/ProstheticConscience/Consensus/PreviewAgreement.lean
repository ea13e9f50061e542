/-
Module: ProstheticConscience.Consensus.PreviewAgreement
Purpose: Previewing drafts agrees with committing them: the state and the statuses of the preview
  are those that submitting the drafts results in, with provisional claim ids renamed to final ones.
Trusted boundary: none
Main exports: submissionRenaming, GoodSupply, ImpactIsReal, preview_agrees_with_submission
-/
import ProstheticConscience.Consensus.Preview
import Std.Data.String.ToNat

namespace ProstheticConscience.Consensus

theorem draftClaimPreviewId_injective : Function.Injective draftClaimPreviewId := by
  intro first second same
  have strings : "draft-" ++ toString first = "draft-" ++ toString second :=
    congrArg ClaimId.value same
  exact Nat.repr_injective (String.append_right_inj "draft-" |>.mp strings)

/-! ### The final ids

A submission draws a fresh id for every draft claim, in the order of the drafts; the preview uses a
provisional id made of the draft's number. Both materializers are instances of one that is given the
names. -/

/-- One step of `assignClaimIds`. -/
def assignClaimId (nextClaimId : Nat → ClaimId) (acc : AssocMap DraftId ClaimId × Nat)
    (draft : DraftEntry) : AssocMap DraftId ClaimId × Nat :=
  if draft.entry.isClaim then
    if draft.id ∈ acc.1 then acc
    else (acc.1.insert draft.id (nextClaimId acc.2), acc.2 + 1)
  else acc

theorem assignClaimIds_concat (nextClaimId : Nat → ClaimId) (drafts : List DraftEntry)
    (draft : DraftEntry) :
    ConsensusEngine.assignClaimIds nextClaimId (drafts ++ [draft]) =
      assignClaimId nextClaimId (ConsensusEngine.assignClaimIds nextClaimId drafts) draft := by
  unfold ConsensusEngine.assignClaimIds
  rw [List.foldl_append]
  rfl

/-- Exactly the claim drafts get final ids. -/
theorem mem_assignClaimIds (nextClaimId : Nat → ClaimId) (drafts : List DraftEntry)
    (id : DraftId) :
    id ∈ (ConsensusEngine.assignClaimIds nextClaimId drafts).1 ↔
      ∃ draft ∈ drafts, draft.id = id ∧ draft.entry.isClaim = true := by
  induction drafts using List.reverseRecOn with
  | nil => simp [ConsensusEngine.assignClaimIds]
  | append_singleton visited draft ih =>
      rw [assignClaimIds_concat, assignClaimId]
      simp only [List.mem_append, List.mem_singleton, or_and_right, exists_or, exists_eq_left]
      rw [← ih]
      split
      · rename_i isClaim
        rw [and_iff_left isClaim]
        split
        · rename_i present
          exact (or_iff_left_of_imp fun same => same ▸ present).symm
        · rw [AList.mem_insert, or_comm, eq_comm]
      · rename_i notClaim
        exact (or_iff_left fun claim => notClaim claim.2).symm

/-- The final ids were supplied, each for one draft. -/
structure Assigned (nextClaimId : Nat → ClaimId) (acc : AssocMap DraftId ClaimId × Nat) :
    Prop where
  supplied : ∀ id claimId, acc.1.lookup id = some claimId → ∃ n < acc.2, claimId = nextClaimId n
  distinct : ∀ id other claimId, acc.1.lookup id = some claimId →
    acc.1.lookup other = some claimId → id = other

/-- A new claim gets an id that differs from all earlier ones, as it comes from a later call. -/
theorem Assigned.insert {nextClaimId : Nat → ClaimId} {acc : AssocMap DraftId ClaimId × Nat}
    (assigned : Assigned nextClaimId acc) (distinctIds : Function.Injective nextClaimId)
    (draftId : DraftId) :
    Assigned nextClaimId (acc.1.insert draftId (nextClaimId acc.2), acc.2 + 1) := by
  have older : ∀ id claimId, acc.1.lookup id = some claimId → claimId ≠ nextClaimId acc.2 := by
    intro id claimId found same
    obtain ⟨n, less, supplied⟩ := assigned.supplied id claimId found
    exact less.ne (distinctIds (supplied.symm.trans same))
  constructor
  · intro id claimId found
    rw [AssocMap.lookup_insert] at found
    split at found
    · exact ⟨acc.2, Nat.lt_succ_self _, (Option.some.inj found).symm⟩
    · obtain ⟨n, less, supplied⟩ := assigned.supplied id claimId found
      exact ⟨n, Nat.lt_succ_of_lt less, supplied⟩
  · intro id other claimId found otherFound
    rw [AssocMap.lookup_insert] at found otherFound
    split at found
    · split at otherFound
      · rename_i same otherSame
        exact same.trans otherSame.symm
      · exact absurd (Option.some.inj found).symm (older other claimId otherFound)
    · split at otherFound
      · exact absurd (Option.some.inj otherFound).symm (older id claimId found)
      · exact assigned.distinct id other claimId found otherFound

theorem assignClaimIds_spec {nextClaimId : Nat → ClaimId}
    (distinctIds : Function.Injective nextClaimId) (drafts : List DraftEntry) :
    Assigned nextClaimId (ConsensusEngine.assignClaimIds nextClaimId drafts) := by
  induction drafts using List.reverseRecOn with
  | nil =>
      constructor <;> simp [ConsensusEngine.assignClaimIds]
  | append_singleton visited draft ih =>
      rw [assignClaimIds_concat, assignClaimId]
      split
      · split
        · exact ih
        · exact ih.insert distinctIds draft.id
      · exact ih

/-- The final id of a drafted claim. -/
def finalName (claimIdMap : AssocMap DraftId ClaimId) (draftId : DraftId) : ClaimId :=
  (claimIdMap.lookup draftId).getD default

theorem lookup_finalName {claimIdMap : AssocMap DraftId ClaimId} {draftId : DraftId}
    (present : draftId ∈ claimIdMap) :
    claimIdMap.lookup draftId = some (finalName claimIdMap draftId) := by
  obtain ⟨claimId, found⟩ := AssocMap.mem_iff_lookup.mp present
  rw [finalName, found, Option.getD_some]

/-- The sorted list of claim id mappings. -/
def claimIdMappings (claimIdMap : AssocMap DraftId ClaimId) : List ClaimIdMapping :=
  (claimIdMap.entries.map fun entry => { draftId := entry.1, finalId := entry.2 }).mergeSort
    fun a b => decide (a.draftId ≤ b.draftId)

theorem mem_claimIdMappings {claimIdMap : AssocMap DraftId ClaimId} {mapping : ClaimIdMapping} :
    mapping ∈ claimIdMappings claimIdMap ↔
      claimIdMap.lookup mapping.draftId = some mapping.finalId := by
  rw [claimIdMappings, List.mem_mergeSort, List.mem_map, ← AssocMap.mem_entries_iff]
  constructor
  · intro found
    obtain ⟨entry, member, rfl⟩ := found
    exact member
  · intro member
    exact ⟨_, member, rfl⟩

/-- In a well-formed buffer the submission bundle exists and names drafted claims finally. -/
theorem submissionBundle_ok {engine : ConsensusEngine} (wf : WellFormedDrafts engine.drafts)
    (nextClaimId : Nat → ClaimId) :
    engine.submissionBundle nextClaimId = .ok {
      draftIds := engine.drafts.map (·.id)
      entries := engine.drafts.map (·.named engine.draftAuthor
        (finalName (ConsensusEngine.assignClaimIds nextClaimId engine.drafts).1))
      claimIdMap :=
        claimIdMappings (ConsensusEngine.assignClaimIds nextClaimId engine.drafts).1 } := by
  have assigned := mem_assignClaimIds nextClaimId engine.drafts
  have entries : engine.drafts.mapM (engine.materializeDraftForSubmission
        (ConsensusEngine.assignClaimIds nextClaimId engine.drafts).1) =
      .ok (engine.drafts.map (·.named engine.draftAuthor
        (finalName (ConsensusEngine.assignClaimIds nextClaimId engine.drafts).1))) := by
    apply mapM_ok
    intro draft member
    apply materializeDraft_ok
    · intro claimRef refers
      cases claimRef with
      | committed claimId => rfl
      | draft draftId =>
          obtain ⟨_, target, targetMem, targetId, targetClaim⟩ :=
            wf.refs draft member draftId (mem_draftRefs.mpr refers)
          have present := (assigned draftId).mpr ⟨target, targetMem, targetId, targetClaim⟩
          rw [ConsensusEngine.resolveClaimRefForSubmission, wf.validateClaimRef_ok member refers,
            lookup_finalName present]
          rfl
    · intro isClaim
      have present := (assigned draft.id).mpr ⟨draft, member, rfl, isClaim⟩
      rw [lookup_finalName present]
  simp only [ConsensusEngine.submissionBundle, entries]
  rfl

/-! ### The renaming from provisional to final ids

A renaming that maps provisional ids to final ones and leaves committed ids alone is injective on
the ids that occur, if provisional ids are not committed ones and fresh ids are fresh. -/

/-- Rename each provisional id to the final id that the bundle gives for it. -/
def submissionRenaming (claimIdMap : List ClaimIdMapping) (id : ClaimId) : ClaimId :=
  match claimIdMap.find? fun mapping => decide (draftClaimPreviewId mapping.draftId = id) with
  | some mapping => mapping.finalId
  | none => id

/-- The committed ids that occur in the log or in the drafts. -/
def ConsensusEngine.knownIds (engine : ConsensusEngine) : Set ClaimId :=
  {id | (∃ entry ∈ engine.log, id ∈ entry.ids) ∨
    ∃ draft ∈ engine.drafts, ClaimRef.committed id ∈ draft.entry.claimRefs}

theorem submissionRenaming_draft {claimIdMap : AssocMap DraftId ClaimId} {draftId : DraftId}
    (present : draftId ∈ claimIdMap) :
    submissionRenaming (claimIdMappings claimIdMap) (draftClaimPreviewId draftId) =
      finalName claimIdMap draftId := by
  have lookup := lookup_finalName present
  have isSome : ((claimIdMappings claimIdMap).find? fun mapping =>
      decide (draftClaimPreviewId mapping.draftId = draftClaimPreviewId draftId)).isSome := by
    rw [List.find?_isSome]
    exact ⟨⟨draftId, finalName claimIdMap draftId⟩, mem_claimIdMappings.mpr lookup, by simp⟩
  obtain ⟨mapping, found⟩ := Option.isSome_iff_exists.mp isSome
  have sameDraft : mapping.draftId = draftId :=
    draftClaimPreviewId_injective (by simpa using List.find?_some found)
  have mapped := mem_claimIdMappings.mp (List.mem_of_find?_eq_some found)
  rw [sameDraft, lookup] at mapped
  rw [submissionRenaming, found]
  exact (Option.some.inj mapped).symm

theorem submissionRenaming_other {claimIdMap : List ClaimIdMapping} {id : ClaimId}
    (notDraft : ∀ n, id ≠ draftClaimPreviewId n) : submissionRenaming claimIdMap id = id := by
  have missing : (claimIdMap.find? fun mapping =>
      decide (draftClaimPreviewId mapping.draftId = id)) = none := by
    rw [List.find?_eq_none]
    intro mapping _
    simpa using (notDraft mapping.draftId).symm
  rw [submissionRenaming, missing]

/-- Renaming the preview entry of a draft gives its submitted entry. -/
theorem rename_named {draftAuthor : String} {draft : DraftEntry} {f : ClaimId → ClaimId}
    {name newName : DraftId → ClaimId}
    (refs : ∀ claimRef ∈ draft.entry.claimRefs, f (claimRef.named name) = claimRef.named newName)
    (own : draft.entry.isClaim = true → f (name draft.id) = newName draft.id) :
    (draft.named draftAuthor name).rename f = draft.named draftAuthor newName := by
  have option : ∀ claimRef? : Option ClaimRef,
      (∀ claimRef ∈ claimRef?.toList, f (claimRef.named name) = claimRef.named newName) →
      (claimRef?.map (·.named name)).map f = claimRef?.map (·.named newName) := by
    intro claimRef? renamed
    cases claimRef? with
    | none => rfl
    | some claimRef => simpa using renamed
  obtain ⟨id, entry⟩ := draft
  cases entry with
  | claim body claimKind parent =>
      have ownId := own rfl
      have parentId := option parent refs
      simp only [DraftEntry.named, Entry.rename, parentId]
      rw [← ownId]
  | relation source target kind =>
      have sourceId := refs source (by simp [DraftContent.claimRefs])
      have targetId := refs target (by simp [DraftContent.claimRefs])
      simp only [DraftEntry.named, Entry.rename, sourceId, targetId]
  | stance target position =>
      have targetId := refs target List.mem_cons_self
      simp only [DraftEntry.named, Entry.rename, targetId]
  | resolve claim outcome =>
      have claimId := refs claim List.mem_cons_self
      simp only [DraftEntry.named, Entry.rename, claimId]
  | comment claim body =>
      have claimId := option claim refs
      simp only [DraftEntry.named, Entry.rename, claimId]

/-! ### Agreement

The merged log of the preview, renamed, is the log after the submission; and the pipeline from a log
to its statuses commutes with renamings that are injective on its ids. -/

/-- The id supply is good for a submission: its ids are distinct and new, and no known id looks
like a provisional one. -/
structure GoodSupply (engine : ConsensusEngine) (nextClaimId : Nat → ClaimId) : Prop where
  distinct : Function.Injective nextClaimId
  unused : ∀ n, nextClaimId n ∉ engine.knownIds
  notProvisional : ∀ id ∈ engine.knownIds, ∀ n, id ≠ draftClaimPreviewId n

/-- The ids of the log and of the preview entries: known ids, and provisional ids of claim
drafts. -/
def ConsensusEngine.previewIds (engine : ConsensusEngine) : Set ClaimId :=
  {id | id ∈ engine.knownIds ∨
    ∃ draft ∈ engine.drafts, draft.entry.isClaim = true ∧ id = draftClaimPreviewId draft.id}

/-- The ids of a named draft are its committed references and the names of claim drafts. -/
theorem mem_ids_named {draftAuthor : String} {name : DraftId → ClaimId} {draft : DraftEntry}
    {id : ClaimId} (occurs : id ∈ (draft.named draftAuthor name).ids) :
    (∃ claimRef ∈ draft.entry.claimRefs, claimRef.named name = id) ∨
      (draft.entry.isClaim = true ∧ name draft.id = id) := by
  obtain ⟨draftId, entry⟩ := draft
  cases entry with
  | claim body claimKind parent =>
      rcases List.mem_cons.mp occurs with own | fromParent
      · exact Or.inr ⟨rfl, own.symm⟩
      · cases parent with
        | none => cases fromParent
        | some claimRef =>
            exact Or.inl ⟨claimRef, List.mem_cons_self, (List.mem_singleton.mp fromParent).symm⟩
  | relation source target kind =>
      rcases List.mem_cons.mp occurs with isSource | isTarget
      · exact Or.inl ⟨source, by simp [DraftContent.claimRefs], isSource.symm⟩
      · exact Or.inl ⟨target, by simp [DraftContent.claimRefs],
          (List.mem_singleton.mp isTarget).symm⟩
  | stance target position =>
      exact Or.inl ⟨target, List.mem_cons_self, (List.mem_singleton.mp occurs).symm⟩
  | resolve claim outcome =>
      exact Or.inl ⟨claim, List.mem_cons_self, (List.mem_singleton.mp occurs).symm⟩
  | comment claim body =>
      cases claim with
      | none => cases occurs
      | some claimRef =>
          exact Or.inl ⟨claimRef, List.mem_cons_self, (List.mem_singleton.mp occurs).symm⟩

section Agreement

variable {engine : ConsensusEngine} {nextClaimId : Nat → ClaimId}

/-- The map of final ids of the engine's drafts. -/
def ConsensusEngine.finalIds (engine : ConsensusEngine) (nextClaimId : Nat → ClaimId) :
    AssocMap DraftId ClaimId :=
  (ConsensusEngine.assignClaimIds nextClaimId engine.drafts).1

/-- The renaming of the engine's submission. -/
def ConsensusEngine.renaming (engine : ConsensusEngine) (nextClaimId : Nat → ClaimId) :
    ClaimId → ClaimId :=
  submissionRenaming (claimIdMappings (engine.finalIds nextClaimId))

theorem renaming_known (supply : GoodSupply engine nextClaimId) {id : ClaimId}
    (known : id ∈ engine.knownIds) : engine.renaming nextClaimId id = id :=
  submissionRenaming_other (supply.notProvisional id known)

theorem mem_finalIds {draftId : DraftId} :
    draftId ∈ engine.finalIds nextClaimId ↔
      ∃ draft ∈ engine.drafts, draft.id = draftId ∧ draft.entry.isClaim = true :=
  mem_assignClaimIds nextClaimId engine.drafts draftId

/-- The renaming is injective on all ids that occur in the preview. -/
theorem renaming_injOn (supply : GoodSupply engine nextClaimId) :
    Set.InjOn (engine.renaming nextClaimId) engine.previewIds := by
  have assigned := assignClaimIds_spec supply.distinct engine.drafts
  have provisional : ∀ draft ∈ engine.drafts, draft.entry.isClaim = true →
      (engine.finalIds nextClaimId).lookup draft.id =
        some (engine.renaming nextClaimId (draftClaimPreviewId draft.id)) := by
    intro draft member isClaim
    have present : draft.id ∈ engine.finalIds nextClaimId :=
      mem_finalIds.mpr ⟨draft, member, rfl, isClaim⟩
    rw [ConsensusEngine.renaming, submissionRenaming_draft present]
    exact lookup_finalName present
  have neverKnown : ∀ draft ∈ engine.drafts, draft.entry.isClaim = true →
      ∀ id ∈ engine.knownIds, engine.renaming nextClaimId id ≠
        engine.renaming nextClaimId (draftClaimPreviewId draft.id) := by
    intro draft member isClaim id known same
    obtain ⟨n, _, supplied⟩ := assigned.supplied _ _ (provisional draft member isClaim)
    rw [renaming_known supply known, supplied] at same
    exact supply.unused n (same ▸ known)
  intro first firstIn second secondIn same
  rcases firstIn with firstKnown | ⟨draft, member, isClaim, rfl⟩
  · rcases secondIn with secondKnown | ⟨draft, member, isClaim, rfl⟩
    · rwa [renaming_known supply firstKnown, renaming_known supply secondKnown] at same
    · exact absurd same (neverKnown draft member isClaim first firstKnown)
  · rcases secondIn with secondKnown | ⟨other, otherMem, otherClaim, rfl⟩
    · exact absurd same.symm (neverKnown draft member isClaim second secondKnown)
    · have found := provisional draft member isClaim
      rw [same] at found
      exact congrArg draftClaimPreviewId
        (assigned.distinct _ _ _ found (provisional other otherMem otherClaim))

/-- The log and the preview entries only use known and provisional ids. -/
theorem idsIn_preview (wf : WellFormedDrafts engine.drafts) :
    IdsIn engine.previewIds (engine.log ++
      engine.drafts.map (·.named engine.draftAuthor draftClaimPreviewId)) := by
  apply IdsIn.append.mpr
  constructor
  · intro entry member id occurs
    exact Or.inl (Or.inl ⟨entry, member, occurs⟩)
  · intro entry member id occurs
    obtain ⟨draft, draftMem, rfl⟩ := List.mem_map.mp member
    rcases mem_ids_named occurs with ⟨claimRef, refers, named⟩ | ⟨isClaim, named⟩
    · cases claimRef with
      | committed claimId =>
          exact Or.inl (Or.inr ⟨draft, draftMem, named ▸ refers⟩)
      | draft draftId =>
          obtain ⟨_, target, targetMem, targetId, targetClaim⟩ :=
            wf.refs draft draftMem draftId (mem_draftRefs.mpr refers)
          subst targetId
          exact Or.inr ⟨target, targetMem, targetClaim, named.symm⟩
    · exact Or.inr ⟨draft, draftMem, isClaim, named.symm⟩

/-- Submitting is previewing with the provisional ids renamed. -/
theorem submitted_eq_rename (wf : WellFormedDrafts engine.drafts)
    (supply : GoodSupply engine nextClaimId) :
    engine.log ++ engine.drafts.map
        (·.named engine.draftAuthor (finalName (engine.finalIds nextClaimId))) =
      (engine.log ++ engine.drafts.map (·.named engine.draftAuthor draftClaimPreviewId)).map
        (Entry.rename (engine.renaming nextClaimId)) := by
  have logKept : engine.log.map (Entry.rename (engine.renaming nextClaimId)) = engine.log := by
    rw [List.map_congr_left (g := id), List.map_id]
    intro entry member
    apply rename_eq_self
    intro id occurs
    exact renaming_known supply (Or.inl ⟨entry, member, occurs⟩)
  have provisional : ∀ draftId ∈ engine.finalIds nextClaimId,
      engine.renaming nextClaimId (draftClaimPreviewId draftId) =
        finalName (engine.finalIds nextClaimId) draftId :=
    fun draftId present => submissionRenaming_draft present
  rw [List.map_append, logKept, List.map_map]
  congr 1
  apply List.map_congr_left
  intro draft member
  symm
  apply rename_named
  · intro claimRef refers
    cases claimRef with
    | committed claimId => exact renaming_known supply (Or.inr ⟨draft, member, refers⟩)
    | draft draftId =>
        obtain ⟨_, target⟩ := wf.refs draft member draftId (mem_draftRefs.mpr refers)
        exact provisional draftId (mem_finalIds.mpr target)
  · intro isClaim
    exact provisional draft.id (mem_finalIds.mpr ⟨draft, member, rfl, isClaim⟩)

end Agreement

/-- The reported impact is the one that submitting really has: `before` are the statuses of the
committed log and `after` those of the log with the submitted entries. -/
structure ImpactIsReal (impact : ImpactAnalysis) (bundle : SubmissionBundle)
    (committed : AssocMap ClaimId ClaimState) (before after : AssocMap ClaimId EpistemicStatus) :
    Prop where
  newClaims : ∀ claim ∈ impact.newClaims, ∃ mapping ∈ bundle.claimIdMap,
    mapping.draftId = claim.draftId ∧ claim.status = after.lookup mapping.finalId
  allNewClaims : ∀ mapping ∈ bundle.claimIdMap, ∃ claim ∈ impact.newClaims,
    claim.draftId = mapping.draftId
  statusChanges : ∀ change ∈ impact.statusChanges,
    change.before = before.lookup change.claimId ∧ change.after = after.lookup change.claimId
  allStatusChanges : ∀ id ∈ committed, before.lookup id ≠ after.lookup id →
    ∃ change ∈ impact.statusChanges, change.claimId = id

/-- The impact computed from the preview is real, once the preview's statuses are known to be the
renamed final ones. -/
theorem buildImpactAnalysis_isReal {engine : ConsensusEngine} {nextClaimId : Nat → ClaimId}
    (supply : GoodSupply engine nextClaimId)
    {committedState previewState : MaterializedState} {after : AssocMap ClaimId EpistemicStatus}
    (committedKnown : ∀ id ∈ committedState.claims, id ∈ engine.knownIds)
    (lookups : ∀ id ∈ engine.previewIds,
      after.lookup (engine.renaming nextClaimId id) = (statuses previewState).lookup id)
    (bundle : SubmissionBundle)
    (mapping : bundle.claimIdMap = claimIdMappings (engine.finalIds nextClaimId)) :
    ImpactIsReal
      (buildImpactAnalysis engine.drafts engine.draftAuthor committedState
        (statuses committedState) previewState (statuses previewState))
      bundle committedState.claims (statuses committedState) after := by
  have sameAfter : ∀ id ∈ committedState.claims,
      (statuses previewState).lookup id = after.lookup id := by
    intro id member
    have known := committedKnown id member
    rw [← lookups id (Or.inl known), renaming_known supply known]
  have drafted : ∀ draftId, draftId ∈ engine.finalIds nextClaimId ↔
      ∃ draft ∈ engine.drafts, draft.id = draftId ∧ draft.entry.isClaim = true :=
    fun draftId => mem_finalIds
  constructor
  · intro claim reported
    obtain ⟨draft, member, reported⟩ := newClaims_iff.mp reported
    obtain ⟨isClaim, draftId, status⟩ := mem_newClaims reported
    have present := (drafted draft.id).mpr ⟨draft, member, rfl, isClaim⟩
    refine ⟨⟨draft.id, finalName (engine.finalIds nextClaimId) draft.id⟩, ?_, draftId.symm, ?_⟩
    · rw [mapping]
      exact mem_claimIdMappings.mpr (lookup_finalName present)
    · rw [status, ← lookups _ (Or.inr ⟨draft, member, isClaim, rfl⟩), ConsensusEngine.renaming,
        submissionRenaming_draft present]
  · intro entry member
    rw [mapping, mem_claimIdMappings] at member
    obtain ⟨draft, draftMem, draftId, isClaim⟩ :=
      (drafted entry.draftId).mp (AssocMap.mem_iff_lookup.mpr ⟨_, member⟩)
    obtain ⟨claim, reported⟩ :=
      impactNewClaim?_isSome engine.draftAuthor (statuses previewState) isClaim
    exact ⟨claim, newClaims_iff.mpr ⟨draft, draftMem, reported⟩,
      (mem_newClaims reported).2.1.trans draftId⟩
  · intro change reported
    obtain ⟨committed, _, told⟩ := impactStatusChange?_eq_some.mp (mem_statusChanges.mp reported)
    rw [told]
    exact ⟨rfl, sameAfter change.claimId committed⟩
  · intro id member differs
    rw [← sameAfter id member] at differs
    exact exists_statusChange member differs

/-- Previewing agrees with committing: for every reachable engine and every good id supply, the
state and the statuses of the log with the preview entries are, up to the renaming of provisional
to final ids, those of the log with the submitted entries, and the reported impact is real.  The
iteration orders of all maps are arbitrary. -/
theorem preview_agrees_with_submission {draftAuthor : String} {trace : List EngineOp}
    {engine : ConsensusEngine} (run : (engineSystem draftAuthor).Execution trace engine)
    {nextClaimId : Nat → ClaimId} (supply : GoodSupply engine nextClaimId) :
    ∃ bundle previewEntries,
      engine.submissionBundle nextClaimId = .ok bundle ∧
      materializeDraftsForPreview engine.drafts engine.draftAuthor = .ok previewEntries ∧
      engine.impactAnalysis = .ok (buildImpactAnalysis engine.drafts engine.draftAuthor
        (replay engine.log) (statuses (replay engine.log))
        (replay (engine.log ++ previewEntries))
        (statuses (replay (engine.log ++ previewEntries)))) ∧
      ∀ committedState previewState finalState,
        (replay engine.log).Reorder committedState →
        (replay (engine.log ++ previewEntries)).Reorder previewState →
        (replay (engine.log ++ bundle.entries)).Reorder finalState →
        previewState.Renamed (submissionRenaming bundle.claimIdMap) finalState ∧
        AssocMap.Renamed (submissionRenaming bundle.claimIdMap) id (statuses previewState)
          (statuses finalState) ∧
        ImpactIsReal
          (buildImpactAnalysis engine.drafts engine.draftAuthor committedState
            (statuses committedState) previewState (statuses previewState))
          bundle committedState.claims (statuses committedState) (statuses finalState) := by
  have wf := (engineSystem_wellFormed run).drafts
  have previewed := materializeDraftsForPreview_ok wf engine.draftAuthor
  refine ⟨_, _, submissionBundle_ok wf nextClaimId, previewed,
    ConsensusEngine.impactAnalysis_ok previewed, ?_⟩
  · intro committedState previewState finalState committedOrder previewOrder finalOrder
    have inj := renaming_injOn supply
    have idsIn := idsIn_preview wf
    have submitted := submitted_eq_rename wf supply
    change (replay (engine.log ++ engine.drafts.map (·.named engine.draftAuthor
      (finalName (engine.finalIds nextClaimId))))).Reorder finalState at finalOrder
    rw [submitted] at finalOrder
    have previewRep := (replay_represents _).reorder previewOrder
    have finalRep := (replay_represents _).reorder finalOrder
    have statusesRenamed := statuses_renamed inj idsIn previewRep finalRep
    refine ⟨(replay_renamed inj idsIn).reorder previewOrder finalOrder, statusesRenamed, ?_⟩
    have committedRep := (replay_represents engine.log).reorder committedOrder
    apply buildImpactAnalysis_isReal supply _ _ _ rfl
    · intro id member
      obtain ⟨author, body, kind, parent, entryMem⟩ := (committedRep.claims id).mp member
      exact Or.inl ⟨_, entryMem, List.mem_cons_self⟩
    · intro id inside
      have known : ∀ k ∈ statuses previewState, k ∈ engine.previewIds := by
        intro k member
        obtain ⟨status, found⟩ := AssocMap.mem_iff_lookup.mp member
        exact hasClaim_mem idsIn ((lookup_statuses previewRep).mp found).1.1
      have renamed := statusesRenamed.lookup_eq inj known inside
      rwa [Option.map_id, id_eq] at renamed

/-- A committed claim, a drafted objection to it and a stance on the draft. -/
def objectionOps : List EngineOp :=
  [.append (.claim ⟨"c1"⟩ "ben" "Use tokens" .proposal none),
    .draft (.draftClaim "Tokens leak" .fact (some (.committed ⟨"c1"⟩))),
    .draft (.draftRelation (.draft 0) (.committed ⟨"c1"⟩) .attacks),
    .draft (.draftStance (.draft 0) .support)]

def objectionEngine : ConsensusEngine :=
  objectionOps.foldl ConsensusEngine.run (ConsensusEngine.new "ava")

theorem objectionEngine_run : (engineSystem "ava").Execution objectionOps objectionEngine :=
  .foldl rfl (fun _ _ => rfl) objectionOps

theorem objectionEngine_drafts : objectionEngine.drafts =
    [⟨0, .claim "Tokens leak" .fact (some (.committed ⟨"c1"⟩))⟩,
      ⟨1, .relation (.draft 0) (.committed ⟨"c1"⟩) .attacks⟩, ⟨2, .stance (.draft 0) .support⟩] :=
  rfl

theorem objectionEngine_supply :
    GoodSupply objectionEngine fun n => ⟨"id-" ++ toString n⟩ := by
  have knownId : ∀ id ∈ objectionEngine.knownIds, id.value.length = 2 := by
    intro id known
    rcases known with ⟨entry, member, occurs⟩ | ⟨draft, member, refers⟩
    · rw [List.mem_singleton.mp member] at occurs
      rw [List.mem_singleton.mp occurs]
      rfl
    · have isC1 : id = ⟨"c1"⟩ := by
        simp only [objectionEngine_drafts, List.mem_cons, List.not_mem_nil, or_false] at member
        rcases member with rfl | rfl | rfl
        · simpa [DraftContent.claimRefs] using refers
        · simpa [DraftContent.claimRefs] using refers
        · simp [DraftContent.claimRefs] at refers
      rw [isC1]
      rfl
  constructor
  · intro first second same
    exact Nat.repr_injective (String.append_right_inj "id-" |>.mp (congrArg ClaimId.value same))
  · intro n known
    have length := knownId _ known
    rw [String.length_append] at length
    have prefixLength : "id-".length = 3 := rfl
    omega
  · intro id known n same
    have length := knownId id known
    rw [same, draftClaimPreviewId, String.length_append] at length
    have prefixLength : "draft-".length = 6 := rfl
    omega

theorem objectionEngine_preview_agrees :
    ∃ bundle previewEntries,
      objectionEngine.submissionBundle (fun n => ⟨"id-" ++ toString n⟩) = .ok bundle ∧
      materializeDraftsForPreview objectionEngine.drafts objectionEngine.draftAuthor =
        .ok previewEntries ∧
      AssocMap.Renamed (submissionRenaming bundle.claimIdMap) id
        (statuses (replay (objectionEngine.log ++ previewEntries)))
        (statuses (replay (objectionEngine.log ++ bundle.entries))) := by
  obtain ⟨bundle, previewEntries, submitted, previewed, _, agree⟩ :=
    preview_agrees_with_submission objectionEngine_run objectionEngine_supply
  exact ⟨bundle, previewEntries, submitted, previewed,
    (agree _ _ _ (.refl _) (.refl _) (.refl _)).2.1⟩

end ProstheticConscience.Consensus
