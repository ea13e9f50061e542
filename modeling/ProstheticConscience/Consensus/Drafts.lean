/-
Module: ProstheticConscience.Consensus.Drafts
Purpose: The local draft state machine of the browser app, and draft buffers over whole runs, the
  engine's as well as this one's: ids that are never handed out twice, and references that never
  dangle.  The committed context is not consulted by any draft operation, so it is left out.
Trusted boundary: none
Main exports: Drafts.State, Drafts.Event, Drafts.reduce, Drafts.Op, Drafts.draftsSystem,
  Drafts.run_onLog, IntactDrafts, BundleResolves, drafts_never_dangle
-/
import ProstheticConscience.Consensus.PreviewAgreement

namespace ProstheticConscience.Consensus

namespace Drafts

inductive Notice where
  | draftNotFound (draftId : DraftId)
  | draftReferenceMustTargetClaim (draftId : DraftId)
  | draftReferenced (draftId referencedBy : DraftId)
deriving DecidableEq, Repr

structure State where
  drafts : List DraftEntry
  nextDraftId : Nat
  lastNotice : Option Notice
deriving DecidableEq, Repr

inductive Event where
  | draftClaimRequested (body : String) (claimKind : ClaimKind) (parent : Option ClaimRef)
  | removeDraftRequested (draftId : DraftId)
deriving DecidableEq, Repr

def init : State where
  drafts := []
  nextDraftId := 0
  lastNotice := none

def mapNotice : EngineError → Notice
  | .draftNotFound draftId => .draftNotFound draftId
  | .draftReferenceMustTargetClaim draftId => .draftReferenceMustTargetClaim draftId
  | .draftReferenced draftId referencedBy => .draftReferenced draftId referencedBy

/-- What the drafting functions share: check the references, take the next id, append. -/
def pushDraft (state : State) (entry : DraftContent) : Except EngineError (State × DraftId) :=
  match validateClaimRefs state.drafts entry.claimRefs with
  | .ok () =>
      .ok ({ state with
          drafts := state.drafts ++ [{ id := state.nextDraftId, entry }]
          nextDraftId := state.nextDraftId + 1 }, state.nextDraftId)
  | .error error => .error error

def draftClaim (state : State) (body : String) (claimKind : ClaimKind)
    (parent : Option ClaimRef) : Except EngineError (State × DraftId) :=
  pushDraft state (.claim body claimKind parent)

def draftRelation (state : State) (source target : ClaimRef) (kind : RelationKind) :
    Except EngineError (State × DraftId) :=
  pushDraft state (.relation source target kind)

def draftStance (state : State) (target : ClaimRef) (position : Position) :
    Except EngineError (State × DraftId) :=
  pushDraft state (.stance target position)

def draftResolve (state : State) (claim : ClaimRef) (outcome : Outcome) :
    Except EngineError (State × DraftId) :=
  pushDraft state (.resolve claim outcome)

def draftComment (state : State) (body : String) (claim : Option ClaimRef) :
    Except EngineError (State × DraftId) :=
  pushDraft state (.comment claim body)

def removeDraft (state : State) (draftId : DraftId) : Except EngineError State :=
  match state.drafts.findIdx? fun draft => decide (draft.id = draftId) with
  | none => .error (.draftNotFound draftId)
  | some pos =>
      let removedIsClaim := (state.drafts[pos]?).any (·.entry.isClaim)
      let referencedBy :=
        (state.drafts.filter fun draft => decide (draft.id ≠ draftId)).find?
          fun draft => draftReferencesDraft draft.entry draftId
      match removedIsClaim, referencedBy with
      | true, some draft => .error (.draftReferenced draftId draft.id)
      | _, _ => .ok { state with drafts := state.drafts.eraseIdx pos }

/-- Reduce one event; a failure leaves the drafts and sets the notice. -/
def reduce (state : State) : Event → State
  | .draftClaimRequested body claimKind parent =>
      match draftClaim state body claimKind parent with
      | .ok (next, _) => { next with lastNotice := none }
      | .error error => { state with lastNotice := some (mapNotice error) }
  | .removeDraftRequested draftId =>
      match removeDraft state draftId with
      | .ok next => { next with lastNotice := none }
      | .error error => { state with lastNotice := some (mapNotice error) }

def showDrafts (state : State) : List DraftEntry :=
  state.drafts

/-! ### Runs of the draft state machine -/

/-- A call of one of the draft functions, or an event. -/
inductive Op where
  | draftClaim (body : String) (claimKind : ClaimKind) (parent : Option ClaimRef)
  | draftRelation (source target : ClaimRef) (kind : RelationKind)
  | draftStance (target : ClaimRef) (position : Position)
  | draftResolve (claim : ClaimRef) (outcome : Outcome)
  | draftComment (body : String) (claim : Option ClaimRef)
  | removeDraft (draftId : DraftId)
  | event (event : Event)
deriving DecidableEq, Repr

/-- The caller keeps its state when a draft function fails. -/
def keepOnError {α : Type} (state : State) (next : α → State) : Except EngineError α → State
  | .ok result => next result
  | .error _ => state

/-- The state after a call, successful or not. -/
def State.run (state : State) : Op → State
  | .draftClaim body claimKind parent =>
      keepOnError state Prod.fst (Drafts.draftClaim state body claimKind parent)
  | .draftRelation source target kind =>
      keepOnError state Prod.fst (Drafts.draftRelation state source target kind)
  | .draftStance target position =>
      keepOnError state Prod.fst (Drafts.draftStance state target position)
  | .draftResolve claim outcome =>
      keepOnError state Prod.fst (Drafts.draftResolve state claim outcome)
  | .draftComment body claim =>
      keepOnError state Prod.fst (Drafts.draftComment state body claim)
  | .removeDraft draftId => keepOnError state id (Drafts.removeDraft state draftId)
  | .event event => reduce state event

/-- The id that a call hands out, if it drafts something. -/
def State.newDraftId? (state : State) : Op → Option DraftId
  | .draftClaim body claimKind parent =>
      (Drafts.draftClaim state body claimKind parent).toOption.map Prod.snd
  | .draftRelation source target kind =>
      (Drafts.draftRelation state source target kind).toOption.map Prod.snd
  | .draftStance target position =>
      (Drafts.draftStance state target position).toOption.map Prod.snd
  | .draftResolve claim outcome =>
      (Drafts.draftResolve state claim outcome).toOption.map Prod.snd
  | .draftComment body claim => (Drafts.draftComment state body claim).toOption.map Prod.snd
  | .event (.draftClaimRequested body claimKind parent) =>
      (Drafts.draftClaim state body claimKind parent).toOption.map Prod.snd
  | .removeDraft _ | .event (.removeDraftRequested _) => none

def draftsSystem : TransitionSystem State Op where
  init state := state = init
  step before op after := after = before.run op

/-! ### The engine does the same

The draft state machine is the engine's draft buffer, on any log and for any author. -/

/-- The engine with these drafts. -/
def State.onLog (state : State) (log : List Entry) (draftAuthor : String) : ConsensusEngine where
  log := log
  drafts := state.drafts
  nextDraftId := state.nextDraftId
  draftAuthor := draftAuthor

/-- The engine's operation for a call. -/
def Op.toDraftOp : Op → DraftOp
  | .draftClaim body claimKind parent => .draftClaim body claimKind parent
  | .draftRelation source target kind => .draftRelation source target kind
  | .draftStance target position => .draftStance target position
  | .draftResolve claim outcome => .draftResolve claim outcome
  | .draftComment body claim => .draftComment body claim
  | .removeDraft draftId => .removeDraft draftId
  | .event (.draftClaimRequested body claimKind parent) => .draftClaim body claimKind parent
  | .event (.removeDraftRequested draftId) => .removeDraft draftId

variable (state : State) (log : List Entry) (draftAuthor : String)

/-- A new draft in the buffer is a new draft in the engine on any log. -/
theorem pushDraft_onLog (entry : DraftContent) :
    (state.onLog log draftAuthor).pushDraft entry =
      match pushDraft state entry with
      | .ok (next, draftId) => (.ok draftId, next.onLog log draftAuthor)
      | .error error => (.error error, state.onLog log draftAuthor) := by
  unfold ConsensusEngine.pushDraft pushDraft State.onLog
  dsimp only
  cases validateClaimRefs state.drafts entry.claimRefs <;> rfl

/-- Removing a draft from the buffer removes it from the engine on any log, with the same refusals.
-/
theorem removeDraft_onLog (draftId : DraftId) :
    (state.onLog log draftAuthor).removeDraft draftId =
      match removeDraft state draftId with
      | .ok next => (.ok (), next.onLog log draftAuthor)
      | .error error => (.error error, state.onLog log draftAuthor) := by
  unfold ConsensusEngine.removeDraft removeDraft State.onLog
  dsimp only
  cases state.drafts.findIdx? fun draft => decide (draft.id = draftId) with
  | none => rfl
  | some pos =>
      dsimp only
      generalize (state.drafts[pos]?).any (·.entry.isClaim) = removedIsClaim
      generalize (state.drafts.filter fun draft => decide (draft.id ≠ draftId)).find?
        (fun draft => draftReferencesDraft draft.entry draftId) = referencedBy
      cases removedIsClaim with
      | false => rfl
      | true => cases referencedBy <;> rfl

/-- A refused draft leaves the engine as it was. -/
theorem keepOnError_pushDraft (entry : DraftContent) :
    (keepOnError state Prod.fst (pushDraft state entry)).onLog log draftAuthor =
      ((state.onLog log draftAuthor).pushDraft entry).2 := by
  rw [pushDraft_onLog]
  cases pushDraft state entry <;> rfl

/-- A refused removal leaves the engine as it was. -/
theorem keepOnError_removeDraft (draftId : DraftId) :
    (keepOnError state id (removeDraft state draftId)).onLog log draftAuthor =
      ((state.onLog log draftAuthor).removeDraft draftId).2 := by
  rw [removeDraft_onLog]
  cases removeDraft state draftId <;> rfl

/-- An event changes the drafts as the call does that it asks for. -/
theorem reduce_onLog (event : Event) :
    (reduce state event).onLog log draftAuthor =
      (state.onLog log draftAuthor).run (.draft (Op.event event).toDraftOp) := by
  cases event with
  | draftClaimRequested body claimKind parent =>
      refine Eq.trans ?_ (keepOnError_pushDraft state log draftAuthor _)
      rw [reduce, draftClaim]
      cases pushDraft state (.claim body claimKind parent) <;> rfl
  | removeDraftRequested draftId =>
      refine Eq.trans ?_ (keepOnError_removeDraft state log draftAuthor draftId)
      rw [reduce]
      cases removeDraft state draftId <;> rfl

/-- Every operation on the buffer is the one on the engine: the buffer simulates the engine. -/
theorem run_onLog (op : Op) :
    (state.run op).onLog log draftAuthor =
      (state.onLog log draftAuthor).run (.draft op.toDraftOp) := by
  cases op with
  | removeDraft draftId => exact keepOnError_removeDraft state log draftAuthor draftId
  | event event => exact reduce_onLog state log draftAuthor event
  | _ => exact keepOnError_pushDraft state log draftAuthor _

end Drafts

/-- The id that an operation of the engine hands out, if it drafts something. -/
def ConsensusEngine.newDraftId? (engine : ConsensusEngine) : EngineOp → Option DraftId
  | .draft (.draftClaim body kind parent) => (engine.draftClaim body kind parent).1.toOption
  | .draft (.draftRelation source target kind) =>
      (engine.draftRelation source target kind).1.toOption
  | .draft (.draftStance target position) => (engine.draftStance target position).1.toOption
  | .draft (.draftResolve claim outcome) => (engine.draftResolve claim outcome).1.toOption
  | .draft (.draftComment body claim) => (engine.draftComment body claim).1.toOption
  | .draft (.removeDraft _) | .draft .clearDrafts | .submitDrafts | .append _ => none

/-- Buffer and engine hand out the same id for a new draft. -/
theorem Drafts.newDraftId?_pushDraft (state : Drafts.State) (log : List Entry)
    (draftAuthor : String) (entry : DraftContent) :
    (Drafts.pushDraft state entry).toOption.map Prod.snd =
      ((state.onLog log draftAuthor).pushDraft entry).1.toOption := by
  rw [Drafts.pushDraft_onLog]
  cases Drafts.pushDraft state entry <;> rfl

/-- Buffer and engine hand out the same id in every operation. -/
theorem Drafts.newDraftId?_onLog (state : Drafts.State) (log : List Entry)
    (draftAuthor : String) (op : Drafts.Op) :
    state.newDraftId? op =
      (state.onLog log draftAuthor).newDraftId? (.draft op.toDraftOp) := by
  cases op with
  | removeDraft draftId => rfl
  | event event =>
      cases event with
      | draftClaimRequested body claimKind parent =>
          exact Drafts.newDraftId?_pushDraft state log draftAuthor _
      | removeDraftRequested draftId => rfl
  | _ => exact Drafts.newDraftId?_pushDraft state log draftAuthor _

/-- A run of the draft state machine is a run of the engine. -/
theorem Drafts.execution_onLog (draftAuthor : String) {trace : List Drafts.Op}
    {state : Drafts.State} (run : Drafts.draftsSystem.Execution trace state) :
    (engineSystem draftAuthor).Execution (trace.map fun op => .draft op.toDraftOp)
      (state.onLog [] draftAuthor) := by
  induction run with
  | start initial =>
      obtain rfl := initial
      exact .start rfl
  | @step trace before after op _ step ih =>
      obtain rfl := step
      rw [List.map_append]
      exact .step ih (Drafts.run_onLog before [] draftAuthor op)

/-! ### Draft buffers over whole runs

What one operation can do to a buffer is said once, by `StepsDrafts`; that ids are handed out once
and that no reference dangles follows from it along any run. -/

/-- What holds of a draft buffer after a run that handed out some ids. -/
structure IntactDrafts (handedOut : List DraftId) (drafts : List DraftEntry) (nextDraftId : Nat) :
    Prop where
  increasing : drafts.Pairwise fun earlier later => earlier.id < later.id
  below : ∀ draft ∈ drafts, draft.id < nextDraftId
  issued : ∀ draft ∈ drafts, draft.id ∈ handedOut
  neverAgain : handedOut.Pairwise fun earlier later => earlier < later
  refs : ∀ earlier draft later, drafts = earlier ++ draft :: later →
    ∀ id, ClaimRef.draft id ∈ draft.entry.claimRefs →
      ∃ target ∈ earlier, target.id = id ∧ target.entry.isClaim = true

/-- In a well-formed buffer references point backwards. -/
theorem WellFormedDrafts.target_earlier {earlier later : List DraftEntry} {draft : DraftEntry}
    (wf : WellFormedDrafts (earlier ++ draft :: later)) {id : DraftId}
    (refers : ClaimRef.draft id ∈ draft.entry.claimRefs) :
    ∃ target ∈ earlier, target.id = id ∧ target.entry.isClaim = true := by
  obtain ⟨less, target, member, targetId, isClaim⟩ :=
    wf.refs draft (by simp) id (mem_draftRefs.mpr refers)
  refine ⟨target, ?_, targetId, isClaim⟩
  obtain ⟨_, increasing, _⟩ := List.pairwise_append.mp wf.increasing
  have after := (List.pairwise_cons.mp increasing).1
  rcases List.mem_append.mp member with before | here
  · exact before
  · rcases List.mem_cons.mp here with rfl | behind
    · exact absurd targetId less.ne'
    · exact absurd (after target behind) (targetId ▸ less.not_gt)

/-- An operation that hands out an id appends a draft under it, the next one; any other keeps the
next id and appends nothing. -/
inductive StepsDrafts (before after : ConsensusEngine) : Option DraftId → Prop where
  | appended (entry : DraftContent)
      (drafts : after.drafts = before.drafts ++ [⟨before.nextDraftId, entry⟩])
      (next : after.nextDraftId = before.nextDraftId + 1) :
      StepsDrafts before after (some before.nextDraftId)
  | kept (drafts : ∀ draft ∈ after.drafts, draft ∈ before.drafts)
      (next : after.nextDraftId = before.nextDraftId) : StepsDrafts before after none

/-- A new draft is a step of the drafts that hands out the next id. -/
theorem pushDraft_stepsDrafts (engine : ConsensusEngine) (entry : DraftContent) :
    StepsDrafts engine (engine.pushDraft entry).2 (engine.pushDraft entry).1.toOption := by
  unfold ConsensusEngine.pushDraft
  split
  · exact .appended entry rfl rfl
  · exact .kept (fun _ member => member) rfl

/-- Removing a draft is a step of the drafts that hands out no id. -/
theorem removeDraft_stepsDrafts (engine : ConsensusEngine) (draftId : DraftId) :
    StepsDrafts engine (engine.removeDraft draftId).2 none := by
  unfold ConsensusEngine.removeDraft
  split
  · exact .kept (fun _ member => member) rfl
  · dsimp only
    split
    · exact .kept (fun _ member => member) rfl
    · exact .kept (fun _ member => List.mem_of_mem_eraseIdx member) rfl

/-- Every operation of the engine is a step of the drafts. -/
theorem ConsensusEngine.run_stepsDrafts (engine : ConsensusEngine) (op : EngineOp) :
    StepsDrafts engine (engine.run op) (engine.newDraftId? op) := by
  cases op with
  | append entry => exact .kept (fun _ member => member) rfl
  | submitDrafts =>
      rw [ConsensusEngine.run, ConsensusEngine.submitDrafts]
      split
      · exact .kept (fun _ member => absurd member List.not_mem_nil) rfl
      · exact .kept (fun _ member => member) rfl
  | draft op =>
      cases op with
      | draftClaim body kind parent =>
          exact pushDraft_stepsDrafts engine (.claim body kind parent)
      | draftRelation source target kind =>
          exact pushDraft_stepsDrafts engine (.relation source target kind)
      | draftStance target position =>
          exact pushDraft_stepsDrafts engine (.stance target position)
      | draftResolve claim outcome =>
          exact pushDraft_stepsDrafts engine (.resolve claim outcome)
      | draftComment body claim => exact pushDraft_stepsDrafts engine (.comment claim body)
      | removeDraft draftId => exact removeDraft_stepsDrafts engine draftId
      | clearDrafts => exact .kept (fun _ member => absurd member List.not_mem_nil) rfl

/-- The ids handed out so far: every draft has one, and the next one is larger. -/
structure HandsOutOnce (handedOut : List DraftId) (engine : ConsensusEngine) : Prop where
  issued : ∀ draft ∈ engine.drafts, draft.id ∈ handedOut
  below : ∀ id ∈ handedOut, id < engine.nextDraftId
  neverAgain : handedOut.Pairwise fun earlier later => earlier < later

/-- A step of the drafts hands out an id that was never handed out before. -/
theorem HandsOutOnce.step {handedOut : List DraftId} {before after : ConsensusEngine}
    (once : HandsOutOnce handedOut before) {handed : Option DraftId}
    (steps : StepsDrafts before after handed) :
    HandsOutOnce (handedOut ++ handed.toList) after := by
  cases steps with
  | kept drafts next =>
      rw [Option.toList_none, List.append_nil]
      constructor
      · exact fun draft member => once.issued draft (drafts draft member)
      · rw [next]
        exact once.below
      · exact once.neverAgain
  | appended entry drafts next =>
      rw [Option.toList_some]
      constructor
      · intro draft member
        rw [drafts] at member
        rcases List.mem_append.mp member with old | new
        · exact List.mem_append_left _ (once.issued draft old)
        · rw [List.mem_singleton.mp new]
          exact List.mem_append_right _ List.mem_cons_self
      · intro id member
        rw [next]
        rcases List.mem_append.mp member with old | new
        · exact Nat.lt_succ_of_lt (once.below id old)
        · rw [List.mem_singleton.mp new]
          exact Nat.lt_succ_self _
      · rw [List.pairwise_append]
        refine ⟨once.neverAgain, List.pairwise_singleton _ _, ?_⟩
        intro id old newest isNewest
        rw [List.mem_singleton.mp isNewest]
        exact once.below id old

/-- The ids that a run of the engine hands out. -/
def ConsensusEngine.draftIds (engine : ConsensusEngine) (trace : List EngineOp) : List DraftId :=
  TransitionSystem.outputs ConsensusEngine.run ConsensusEngine.newDraftId? engine trace

/-- Over every run of the engine the draft buffer stays intact. -/
theorem engineSystem_intactDrafts {draftAuthor : String} {trace : List EngineOp}
    {engine : ConsensusEngine} (run : (engineSystem draftAuthor).Execution trace engine) :
    IntactDrafts ((ConsensusEngine.new draftAuthor).draftIds trace) engine.drafts
      engine.nextDraftId := by
  have wf := engineSystem_wellFormed run
  have once : HandsOutOnce ((ConsensusEngine.new draftAuthor).draftIds trace) engine := by
    apply run.invariant (I := fun trace engine =>
      HandsOutOnce ((ConsensusEngine.new draftAuthor).draftIds trace) engine)
    · intro start initial
      obtain rfl := initial
      exact ⟨fun _ member => absurd member List.not_mem_nil,
        fun _ member => absurd member List.not_mem_nil, List.Pairwise.nil⟩
    · intro trace before op after earlier once step
      obtain rfl := step
      have reached : before = trace.foldl ConsensusEngine.run (.new draftAuthor) :=
        earlier.eq_foldl (fun _ initial => initial) fun _ _ _ step => step
      rw [ConsensusEngine.draftIds, TransitionSystem.outputs_concat, ← reached]
      exact once.step (before.run_stepsDrafts op)
  constructor
  · exact wf.drafts.increasing
  · exact wf.fresh
  · exact once.issued
  · exact once.neverAgain
  · intro earlier draft later split id refers
    have buffer := wf.drafts
    rw [split] at buffer
    exact buffer.target_earlier refers

/-! ### What the drafts are turned into -/

/-- The claims that an entry refers to, in the order in which a draft lists them. -/
def Entry.references : Entry → List ClaimId
  | .claim _ _ _ _ parentId => parentId.toList
  | .relation sourceId targetId _ _ => [sourceId, targetId]
  | .stance targetId _ _ => [targetId]
  | .resolve claimId _ _ => [claimId]
  | .comment claimId _ _ => claimId.toList

/-- The references of a draft's entry are those of the draft, by their names. -/
theorem references_named (draftAuthor : String) (name : DraftId → ClaimId) (draft : DraftEntry) :
    (draft.named draftAuthor name).references =
      draft.entry.claimRefs.map (·.named name) := by
  obtain ⟨id, entry⟩ := draft
  cases entry with
  | claim body claimKind parent => cases parent <;> rfl
  | comment claim body => cases claim <;> rfl
  | _ => rfl

/-- What a reference of the draft at a position became: a committed id as it was given, or the id
of the claim entry that the draft it names became, further up in the same bundle. -/
def ResolvesTo (drafts : List DraftEntry) (entries : List Entry) (position : Nat) :
    ClaimRef → ClaimId → Prop
  | .committed claimId, resolved => resolved = claimId
  | .draft draftId, resolved =>
      ∃ earlier < position, (∃ draft, drafts[earlier]? = some draft ∧ draft.id = draftId) ∧
        ∃ author body claimKind parentId,
          entries[earlier]? = some (.claim resolved author body claimKind parentId)

/-- The bundle has an entry for every draft, and every reference in it is resolved. -/
structure BundleResolves (drafts : List DraftEntry) (bundle : SubmissionBundle) : Prop where
  length : bundle.entries.length = drafts.length
  refs : ∀ position draft entry, drafts[position]? = some draft →
    bundle.entries[position]? = some entry →
      List.Forall₂ (ResolvesTo drafts bundle.entries position) draft.entry.claimRefs
        entry.references

/-- Naming the drafts of a well-formed buffer resolves every reference. -/
theorem WellFormedDrafts.bundleResolves {drafts : List DraftEntry} (wf : WellFormedDrafts drafts)
    (draftAuthor : String) (name : DraftId → ClaimId) {bundle : SubmissionBundle}
    (entries : bundle.entries = drafts.map (·.named draftAuthor name)) :
    BundleResolves drafts bundle := by
  constructor
  · rw [entries, List.length_map]
  · intro position draft entry atPosition entryAt
    rw [entries, List.getElem?_map, atPosition] at entryAt
    obtain rfl := Option.some.inj entryAt
    rw [references_named, List.forall₂_map_right_iff, List.forall₂_same]
    intro claimRef refers
    cases claimRef with
    | committed claimId => rfl
    | draft draftId =>
        obtain ⟨inside, here⟩ := List.getElem?_eq_some_iff.mp atPosition
        have split : drafts = drafts.take position ++ draft :: drafts.drop (position + 1) := by
          rw [← here, List.getElem_cons_drop, List.take_append_drop]
        have buffer := wf
        rw [split] at buffer
        obtain ⟨target, member, targetId, isClaim⟩ := buffer.target_earlier refers
        obtain ⟨earlier, found⟩ := List.mem_iff_getElem?.mp member
        rw [List.getElem?_take] at found
        split at found
        · rename_i less
          refine ⟨earlier, less, ⟨target, found, targetId⟩, ?_⟩
          rw [entries, List.getElem?_map, found]
          obtain ⟨id, content⟩ := target
          cases content with
          | claim body claimKind parent =>
              obtain rfl := targetId
              exact ⟨_, _, _, _, rfl⟩
          | _ => cases isClaim
        · cases found

/-- In every state that a run of the engine reaches, or of the draft state machine, the draft
buffer is intact, and whatever is made of the drafts is made without an error. -/
theorem drafts_never_dangle {draftAuthor : String} {trace : List EngineOp}
    {engine : ConsensusEngine} (run : (engineSystem draftAuthor).Execution trace engine)
    {draftTrace : List Drafts.Op} {state : Drafts.State}
    (draftRun : Drafts.draftsSystem.Execution draftTrace state) :
    (IntactDrafts ((ConsensusEngine.new draftAuthor).draftIds trace) engine.drafts
        engine.nextDraftId ∧
      (∀ nextClaimId, ∃ bundle, engine.submissionBundle nextClaimId = .ok bundle ∧
        BundleResolves engine.drafts bundle) ∧
      (∃ data, engine.previewOverview = .ok data) ∧
      (∃ impact, engine.impactAnalysis = .ok impact) ∧
      ∃ entries, engine.submitDrafts.1 = .ok entries) ∧
    (IntactDrafts
        (TransitionSystem.outputs Drafts.State.run Drafts.State.newDraftId? Drafts.init draftTrace)
        state.drafts state.nextDraftId ∧
      ∀ (order : HashOrder) committedEntries participant,
        (∃ data, order.previewOverview committedEntries (Drafts.showDrafts state) participant =
          .ok data) ∧
        ∃ impact, order.impactAnalysis committedEntries (Drafts.showDrafts state) participant =
          .ok impact) := by
  have previewed : ∀ {drafts : List DraftEntry}, WellFormedDrafts drafts →
      ∀ (order : HashOrder) committedEntries participant,
        (∃ data, order.previewOverview committedEntries drafts participant = .ok data) ∧
        ∃ impact, order.impactAnalysis committedEntries drafts participant = .ok impact := by
    intro drafts wf order committedEntries participant
    rw [HashOrder.previewOverview, HashOrder.impactAnalysis, mergedEntries,
      materializeDraftsForPreview_ok wf]
    exact ⟨⟨_, rfl⟩, _, rfl⟩
  constructor
  · have wf := (engineSystem_wellFormed run).drafts
    obtain ⟨overview, impact⟩ := previewed wf .insertion engine.log engine.draftAuthor
    refine ⟨engineSystem_intactDrafts run, ?_, overview, impact, ?_⟩
    · intro nextClaimId
      exact ⟨_, submissionBundle_ok wf nextClaimId, wf.bundleResolves _ _ rfl⟩
    · rw [ConsensusEngine.submitDrafts, materializeDraftsForPreview_ok wf]
      exact ⟨_, rfl⟩
  · have onEngine := Drafts.execution_onLog "" draftRun
    have wf := (engineSystem_wellFormed onEngine).drafts
    have sameIds :
        TransitionSystem.outputs Drafts.State.run Drafts.State.newDraftId? Drafts.init
            draftTrace =
          (Drafts.init.onLog [] "").draftIds
            (draftTrace.map fun op => EngineOp.draft op.toDraftOp) :=
      TransitionSystem.outputs_simulation (fun state op => Drafts.run_onLog state [] "" op)
        (fun state op => Drafts.newDraftId?_onLog state [] "" op) Drafts.init draftTrace
    have intact := engineSystem_intactDrafts onEngine
    rw [sameIds]
    exact ⟨intact, previewed wf⟩

/-- A claim is requested and a stance taken on it; the claim cannot be removed then, and a comment
on a draft that does not exist is refused. -/
def refusedOps : List Drafts.Op :=
  [.event (.draftClaimRequested "Tokens leak" .fact none), .draftStance (.draft 0) .support,
    .removeDraft 0, .draftComment "Which?" (some (.draft 7))]

/-- Operations that are refused, among others that are not. -/
theorem refusedOps_intact :
    (∃ bundle, objectionEngine.submissionBundle (fun _ => ⟨"id"⟩) = .ok bundle ∧
        BundleResolves objectionEngine.drafts bundle) ∧
      IntactDrafts [0, 1] (refusedOps.foldl Drafts.State.run Drafts.init).drafts 2 := by
  have run := TransitionSystem.Execution.foldl (M := engineSystem "ava") rfl
    (fun _ _ => rfl) objectionOps
  have draftRun := TransitionSystem.Execution.foldl (M := Drafts.draftsSystem) rfl
    (fun _ _ => rfl) refusedOps
  obtain ⟨engineSide, draftSide⟩ := drafts_never_dangle run draftRun
  exact ⟨engineSide.2.1 _, draftSide.1⟩

end ProstheticConscience.Consensus
