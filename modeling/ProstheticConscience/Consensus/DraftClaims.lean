/-
Module: ProstheticConscience.Consensus.DraftClaims
Purpose: Draft claims in a preview: when they stay apart from the committed claims, whose ids they
  share a space with.
Trusted boundary: none
Main exports: MaterializedState.content, content_kept, keys_length_preview, content_preview,
  ProvisionalIdsFree, DraftsKeptApart, draftsKeptApart_iff
-/
import ProstheticConscience.Consensus.PreviewAgreement

namespace ProstheticConscience.Consensus

/-- What a claim says, without its resolution. -/
structure ClaimContent where
  author : String
  body : String
  kind : ClaimKind
  parentId : Option ClaimId
deriving DecidableEq, Repr

def ClaimState.content (claim : ClaimState) : ClaimContent where
  author := claim.author
  body := claim.body
  kind := claim.kind
  parentId := claim.parentId

/-- What a state says about a claim. -/
def MaterializedState.content (state : MaterializedState) (id : ClaimId) : Option ClaimContent :=
  (state.claims.lookup id).map (·.content)

/-- The claim that an entry introduces, with its content. -/
def Entry.introduces? : Entry → Option (ClaimId × ClaimContent)
  | .claim claimId author body claimKind parentId =>
      some (claimId, { author, body, kind := claimKind, parentId })
  | _ => none

/-! ### Contents and counts under the reducer -/

/-- The first entry that introduces a claim says what it says. -/
theorem content_reduce (state : MaterializedState) (entry : Entry) (id : ClaimId) :
    (reduce state entry).content id =
      (state.content id).or (entry.introduces?.bind fun introduced =>
        if introduced.1 = id then some introduced.2 else none) := by
  rw [MaterializedState.content, MaterializedState.content, lookup_claims_reduce]
  cases state.claims.lookup id with
  | some claim => rfl
  | none =>
      cases entry with
      | claim claimId author body claimKind parentId =>
          by_cases same : claimId = id <;>
            simp [Entry.claim?, Entry.introduces?, ClaimState.content, Option.filter_some, same]
      | _ => rfl

/-- A claim that is known keeps its content. -/
theorem content_kept {log : List Entry} {id : ClaimId} {content : ClaimContent}
    (known : (replay log).content id = some content) (later : List Entry) :
    (replay (log ++ later)).content id = some content := by
  induction later using List.reverseRecOn with
  | nil => rwa [List.append_nil]
  | append_singleton later entry ih =>
      rw [← List.append_assoc, replay_concat, content_reduce, ih, Option.some_or]

/-- An entry adds a claim exactly if it introduces an unknown one. -/
theorem keys_length_reduce (state : MaterializedState) (entry : Entry) :
    (reduce state entry).claims.keys.length = state.claims.keys.length +
      if ∃ introduced ∈ entry.introduces?, introduced.1 ∉ state.claims then 1 else 0 := by
  cases entry with
  | claim claimId author body claimKind parentId =>
      rw [reduce]
      split
      · rename_i known
        simp [Entry.introduces?, known]
      · rename_i unknown
        rw [if_pos ⟨_, rfl, unknown⟩]
        exact AssocMap.keys_length_update_new unknown _
  | resolve claimId author outcome =>
      rw [reduce]
      split
      · rename_i claim found
        have known : claimId ∈ state.claims := AssocMap.mem_iff_lookup.mpr ⟨claim, found⟩
        simp [Entry.introduces?, AssocMap.keys_update_known known]
      · simp [Entry.introduces?]
  | relation sourceId targetId kind author => simp [reduce, Entry.introduces?]
  | stance targetId author position => simp [reduce, Entry.introduces?]
  | comment claimId author body => simp [reduce, Entry.introduces?]

/-! ### Draft claims on top of a log

Provisional ids of draft claims may be ids of committed claims. What the merged log holds of a draft
claim and of a committed one is compared through the counts of claims per id. -/

/-- The content of a draft claim in the preview. -/
def DraftEntry.claimContent? (draftAuthor : String) (draft : DraftEntry) : Option ClaimContent :=
  match draft.entry with
  | .claim body claimKind parent =>
      some {
        author := draftAuthor
        body
        kind := claimKind
        parentId := parent.map (·.named draftClaimPreviewId) }
  | _ => none

theorem claimContent_isSome {draftAuthor : String} {draft : DraftEntry} :
    (draft.claimContent? draftAuthor).isSome = draft.entry.isClaim := by
  obtain ⟨id, entry⟩ := draft
  cases entry <;> rfl

theorem introduces_named (draftAuthor : String) (draft : DraftEntry) :
    (draft.named draftAuthor draftClaimPreviewId).introduces? =
      (draft.claimContent? draftAuthor).map fun content =>
        (draftClaimPreviewId draft.id, content) := by
  obtain ⟨id, entry⟩ := draft
  cases entry <;> rfl

/-- The preview entries of a buffer. -/
def previewEntries (drafts : List DraftEntry) (draftAuthor : String) : List Entry :=
  drafts.map (·.named draftAuthor draftClaimPreviewId)

theorem previewEntries_concat (drafts : List DraftEntry) (draft : DraftEntry)
    (draftAuthor : String) :
    previewEntries (drafts ++ [draft]) draftAuthor =
      previewEntries drafts draftAuthor ++ [draft.named draftAuthor draftClaimPreviewId] := by
  rw [previewEntries, List.map_append]
  rfl

/-- Only claim drafts introduce claims, under their provisional ids. -/
theorem introduces_draft_iff {draftAuthor : String} {draft : DraftEntry} {P : ClaimId → Prop} :
    (∃ introduced ∈ (draft.named draftAuthor draftClaimPreviewId).introduces?, P introduced.1) ↔
      draft.entry.isClaim = true ∧ P (draftClaimPreviewId draft.id) := by
  obtain ⟨id, entry⟩ := draft
  cases entry <;> simp [DraftEntry.named, Entry.introduces?, DraftContent.isClaim]

theorem mem_claims_reduce_introduces {state : MaterializedState} {entry : Entry} {id : ClaimId} :
    id ∈ (reduce state entry).claims ↔
      id ∈ state.claims ∨ ∃ introduced ∈ entry.introduces?, introduced.1 = id := by
  rw [mem_claims_reduce]
  refine or_congr_right ?_
  cases entry <;> simp [Entry.introduces?]

/-- The claims of a preview: the committed ones, and those of the claim drafts under their
provisional ids. -/
theorem mem_claims_preview {log : List Entry} {drafts : List DraftEntry} {draftAuthor : String}
    {id : ClaimId} :
    id ∈ (replay (log ++ previewEntries drafts draftAuthor)).claims ↔ id ∈ (replay log).claims ∨
      ∃ draft ∈ drafts, draft.entry.isClaim = true ∧ draftClaimPreviewId draft.id = id := by
  induction drafts using List.reverseRecOn with
  | nil => simp [previewEntries]
  | append_singleton drafts draft ih =>
      rw [previewEntries_concat, ← List.append_assoc, replay_concat,
        mem_claims_reduce_introduces, ih, introduces_draft_iff (P := fun introduced =>
          introduced = id), or_assoc]
      refine or_congr_right ?_
      simp only [List.mem_append, List.mem_singleton, or_and_right, exists_or, exists_eq_left]

/-- A preview has one more claim for every claim draft whose provisional id is not committed. -/
theorem keys_length_preview {log : List Entry} {drafts : List DraftEntry} {draftAuthor : String}
    (increasing : drafts.Pairwise fun earlier later => earlier.id < later.id) :
    (replay (log ++ previewEntries drafts draftAuthor)).claims.keys.length =
      (replay log).claims.keys.length + drafts.countP fun draft =>
        draft.entry.isClaim && decide (draftClaimPreviewId draft.id ∉ (replay log).claims) := by
  induction drafts using List.reverseRecOn with
  | nil => simp [previewEntries]
  | append_singleton drafts draft ih =>
      obtain ⟨increasing, _, last⟩ := List.pairwise_append.mp increasing
      rw [previewEntries_concat, ← List.append_assoc, replay_concat, keys_length_reduce,
        ih increasing, List.countP_append, List.countP_singleton, Nat.add_assoc]
      -- the ids of the earlier drafts are smaller, so the provisional id is new unless committed
      have isNew : draftClaimPreviewId draft.id ∉
          (replay (log ++ previewEntries drafts draftAuthor)).claims ↔
          draftClaimPreviewId draft.id ∉ (replay log).claims := by
        rw [mem_claims_preview, or_iff_left]
        rintro ⟨earlier, member, _, same⟩
        have less := last earlier member draft (List.mem_singleton_self _)
        exact less.ne (draftClaimPreviewId_injective same)
      simp only [introduces_draft_iff (P := fun introduced =>
        introduced ∉ (replay (log ++ previewEntries drafts draftAuthor)).claims), isNew,
        Bool.and_eq_true, decide_eq_true_eq]

/-- A draft claim whose provisional id is not committed says in the preview what the draft says. -/
theorem content_preview {log : List Entry} {drafts : List DraftEntry} {draftAuthor : String}
    (increasing : drafts.Pairwise fun earlier later => earlier.id < later.id) {draft : DraftEntry}
    (member : draft ∈ drafts) {content : ClaimContent}
    (isContent : draft.claimContent? draftAuthor = some content)
    (free : draftClaimPreviewId draft.id ∉ (replay log).claims) :
    (replay (log ++ previewEntries drafts draftAuthor)).content (draftClaimPreviewId draft.id) =
      some content := by
  obtain ⟨earlier, later, rfl⟩ := List.append_of_mem member
  obtain ⟨_, _, last⟩ := List.pairwise_append.mp increasing
  have isNew : draftClaimPreviewId draft.id ∉
      (replay (log ++ previewEntries earlier draftAuthor)).claims := by
    rw [mem_claims_preview, or_iff_right free]
    rintro ⟨other, otherMem, _, same⟩
    have less := last other otherMem draft List.mem_cons_self
    exact less.ne (draftClaimPreviewId_injective same)
  have introduced : (replay (log ++ previewEntries (earlier ++ [draft]) draftAuthor)).content
      (draftClaimPreviewId draft.id) = some content := by
    rw [previewEntries_concat, ← List.append_assoc, replay_concat, content_reduce,
      MaterializedState.content, AList.lookup_eq_none.mpr isNew, introduces_named, isContent]
    simp
  have split : log ++ previewEntries (earlier ++ draft :: later) draftAuthor =
      (log ++ previewEntries (earlier ++ [draft]) draftAuthor) ++
        previewEntries later draftAuthor := by
    simp [previewEntries]
  rw [split]
  exact content_kept introduced _

/-! ### Keeping apart -/

/-- No claim of the log has the provisional id of a claim draft. -/
def ProvisionalIdsFree (engine : ConsensusEngine) : Prop :=
  ∀ draft ∈ engine.drafts, draft.entry.isClaim = true →
    ¬ HasClaim engine.log (draftClaimPreviewId draft.id)

/-- The draft claims are claims of their own in the preview: they add to the committed ones, which
stay as they are, and the impact analysis gives each the status of its own claim. -/
structure DraftsKeptApart (engine : ConsensusEngine) (committed preview : MaterializedState)
    (impact : ImpactAnalysis) : Prop where
  count : preview.claims.keys.length =
    committed.claims.keys.length + engine.drafts.countP fun draft => draft.entry.isClaim
  kept : ∀ id content, committed.content id = some content → preview.content id = some content
  drafted : ∀ draft ∈ engine.drafts, ∀ content,
    draft.claimContent? engine.draftAuthor = some content →
      draftClaimPreviewId draft.id ∉ committed.claims ∧
        preview.content (draftClaimPreviewId draft.id) = some content
  reported : ∀ draft ∈ engine.drafts, draft.entry.isClaim = true →
    (∃ newClaim ∈ impact.newClaims, newClaim.draftId = draft.id) ∧
      ∀ newClaim ∈ impact.newClaims, newClaim.draftId = draft.id →
        newClaim.status = (statuses preview).lookup (draftClaimPreviewId draft.id)

/-- The states may be read in any iteration order. -/
theorem MaterializedState.Reorder.content {before after : MaterializedState}
    (reorder : before.Reorder after) (id : ClaimId) : after.content id = before.content id := by
  rw [MaterializedState.content, ← reorder.claims.lookup_eq, MaterializedState.content]

theorem MaterializedState.Reorder.keys_length {before after : MaterializedState}
    (reorder : before.Reorder after) : after.claims.keys.length = before.claims.keys.length :=
  (reorder.claims.map Sigma.fst).length_eq.symm

/-- For every log and every reachable draft buffer, the preview keeps the draft claims apart from
the committed ones if and only if no committed claim has the provisional id of a claim draft. -/
theorem draftsKeptApart_iff {draftAuthor : String} {trace : List EngineOp}
    {engine : ConsensusEngine} (run : (engineSystem draftAuthor).Execution trace engine) :
    ∃ entries, materializeDraftsForPreview engine.drafts engine.draftAuthor = .ok entries ∧
      engine.impactAnalysis = .ok (buildImpactAnalysis engine.drafts engine.draftAuthor
        (replay engine.log) (statuses (replay engine.log))
        (replay (engine.log ++ entries)) (statuses (replay (engine.log ++ entries)))) ∧
      ∀ committedState previewState, (replay engine.log).Reorder committedState →
        (replay (engine.log ++ entries)).Reorder previewState →
        (DraftsKeptApart engine committedState previewState
          (buildImpactAnalysis engine.drafts engine.draftAuthor committedState
            (statuses committedState) previewState (statuses previewState)) ↔
          ProvisionalIdsFree engine) := by
  have wf := (engineSystem_wellFormed run).drafts
  have previewed := materializeDraftsForPreview_ok wf engine.draftAuthor
  refine ⟨previewEntries engine.drafts engine.draftAuthor, previewed,
    ConsensusEngine.impactAnalysis_ok previewed, ?_⟩
  · intro committedState previewState committedOrder previewOrder
    have counted := @keys_length_preview engine.log engine.drafts engine.draftAuthor wf.increasing
    have committedKnown : ∀ id, id ∈ committedState.claims ↔ HasClaim engine.log id :=
      ((replay_represents engine.log).reorder committedOrder).claims
    constructor
    · intro apart draft member isClaim hasClaim
      -- the count of the preview misses the draft
      have split := List.countP_eq_countP_filter_add engine.drafts
        (fun draft => draft.entry.isClaim)
        fun draft => decide (draftClaimPreviewId draft.id ∉ (replay engine.log).claims)
      have missed : 0 < (engine.drafts.filter fun draft =>
          !decide (draftClaimPreviewId draft.id ∉ (replay engine.log).claims)).countP
            fun draft => draft.entry.isClaim := by
        refine List.countP_pos_iff.mpr ⟨draft, List.mem_filter.mpr ⟨member, ?_⟩, isClaim⟩
        simpa [(replay_represents engine.log).claims] using hasClaim
      have count := apart.count
      rw [previewOrder.keys_length, committedOrder.keys_length, counted] at count
      rw [List.countP_filter] at split
      omega
    · intro free
      constructor
      · rw [previewOrder.keys_length, committedOrder.keys_length, counted]
        congr 1
        apply List.countP_congr
        intro draft member
        rw [Bool.and_eq_true, decide_eq_true_eq, and_iff_left_of_imp]
        intro isClaim
        rw [(replay_represents engine.log).claims]
        exact free draft member isClaim
      · intro id content known
        rw [committedOrder.content] at known
        rw [previewOrder.content]
        exact content_kept known _
      · intro draft member content isContent
        have isClaim : draft.entry.isClaim = true := by
          rw [← claimContent_isSome, isContent]
          rfl
        have notCommitted := free draft member isClaim
        refine ⟨fun known => notCommitted ((committedKnown _).mp known), ?_⟩
        rw [previewOrder.content]
        apply content_preview wf.increasing member isContent
        rw [(replay_represents engine.log).claims]
        exact notCommitted
      · intro draft member isClaim
        constructor
        · obtain ⟨newClaim, isNew⟩ :=
            impactNewClaim?_isSome engine.draftAuthor (statuses previewState) isClaim
          exact ⟨newClaim, newClaims_iff.mpr ⟨draft, member, isNew⟩, (mem_newClaims isNew).2.1⟩
        · intro newClaim reported sameId
          obtain ⟨other, otherMem, isNew⟩ := newClaims_iff.mp reported
          obtain ⟨_, idEq, statusEq⟩ := mem_newClaims isNew
          rw [statusEq, ← idEq, sameId]

/-- Ben's entries were committed as `submit_drafts` returned them, and Ava drafts a claim. -/
def collidingOps : List EngineOp :=
  [.append (.claim ⟨"draft-0"⟩ "ben" "Use tokens" .proposal none),
    .draft (.draftClaim "Tokens leak" .fact none)]

/-- Ava's draft claim is taken for Ben's committed one. -/
theorem collidingEngine_confused :
    ¬ ∀ trace engine, (engineSystem "ava").Execution trace engine →
      ∃ entries, materializeDraftsForPreview engine.drafts engine.draftAuthor = .ok entries ∧
        ∃ impact, engine.impactAnalysis = .ok impact ∧
          DraftsKeptApart engine (replay engine.log) (replay (engine.log ++ entries)) impact := by
  intro claim
  have run := TransitionSystem.Execution.foldl (M := engineSystem "ava") rfl
    (fun _ _ => rfl) collidingOps
  obtain ⟨entries, previewed, impact, _, apart⟩ := claim _ _ run
  obtain rfl : [.claim ⟨"draft-0"⟩ "ava" "Tokens leak" .fact none] = entries := by
    cases previewed
    rfl
  have count := apart.count
  exact absurd count (by decide +kernel)

/-- In the log of the earlier example no claim has a provisional id. -/
theorem objectionEngine_keptApart :
    ∃ entries impact, objectionEngine.impactAnalysis = .ok impact ∧
      DraftsKeptApart objectionEngine (replay objectionEngine.log)
        (replay (objectionEngine.log ++ entries)) impact := by
  obtain ⟨entries, _, analysed, apart⟩ := draftsKeptApart_iff objectionEngine_run
  refine ⟨entries, _, analysed, (apart _ _ (.refl _) (.refl _)).mpr ?_⟩
  intro draft _ _ hasClaim
  obtain ⟨author, body, kind, parentId, member⟩ := hasClaim
  exact objectionEngine_supply.notProvisional _ (.inl ⟨_, member, List.mem_cons_self⟩) draft.id rfl

end ProstheticConscience.Consensus
