/-
Module: ProstheticConscience.Consensus.FetchPlans
Purpose: Fetch plans that ask for exactly what is missing, a page at a time, and the progress of the
  coordinator over runs of its operations.
Trusted boundary: none
Main exports: Coordinator.Pages, Coordinator.pages_planMissingFetches, Coordinator.ExactPlan,
  Coordinator.Progress, Coordinator.Op, Coordinator.State.run, Coordinator.coordinator_progress
-/
import ProstheticConscience.Consensus.Coordinator

namespace ProstheticConscience.Consensus.Coordinator

variable {T : Type}

/-! ### Pages

`Pages` says of a list of fetches that it walks through the indices from `start` to `stop` once, in
order, and fetches exactly the wanted ones. What the plan has to satisfy is read off it afterwards.
-/

/-- The fetches of a scan from an index to another one: indices that are not wanted are passed over,
wanted ones are asked for in pages. -/
inductive Pages (pageLimit : Nat) (wanted : Nat → Prop) : Nat → Nat → List Effect → Prop where
  | done (stop : Nat) : Pages pageLimit wanted stop stop []
  | pass {start stop : Nat} {fetches : List Effect} (unwanted : ¬wanted start)
      (rest : Pages pageLimit wanted (start + 1) stop fetches) :
      Pages pageLimit wanted start stop fetches
  | page {start stop limit : Nat} {fetches : List Effect} (positive : 0 < limit)
      (short : limit ≤ pageLimit) (all : ∀ index, start ≤ index → index < start + limit →
        wanted index) (rest : Pages pageLimit wanted (start + limit) stop fetches) :
      Pages pageLimit wanted start stop (.fetchMissing start limit :: fetches)

/-- The fetch is for at least one entry and for no more than a page. -/
def Effect.IsPage (pageLimit : Nat) : Effect → Prop
  | fetchMissing _ limit => 1 ≤ limit ∧ limit ≤ pageLimit

/-- One fetch ends before another one starts. -/
def Effect.Precedes : Effect → Effect → Prop
  | fetchMissing start limit, fetchMissing next _ => start + limit ≤ next

namespace Pages

variable {pageLimit start middle stop : Nat} {wanted : Nat → Prop} {fetches later : List Effect}

/-- Pages of two runs, one behind the other, are pages of both. -/
theorem append (pages : Pages pageLimit wanted start middle fetches)
    (rest : Pages pageLimit wanted middle stop later) :
    Pages pageLimit wanted start stop (fetches ++ later) := by
  induction pages with
  | done => exact rest
  | pass unwanted _ ih => exact .pass unwanted (ih rest)
  | page positive short all _ ih => exact .page positive short all (ih rest)

/-- All pages are of a permitted size. -/
theorem isPage (pages : Pages pageLimit wanted start stop fetches) :
    ∀ fetch ∈ fetches, fetch.IsPage pageLimit := by
  induction pages with
  | done =>
      intro fetch member
      cases member
  | pass _ _ ih => exact ih
  | page positive short all _ ih =>
      intro fetch member
      rcases List.mem_cons.mp member with rfl | inRest
      · exact ⟨positive, short⟩
      · exact ih fetch inRest

/-- Only wanted indices from the start on are asked for. -/
theorem wanted_of_covers (pages : Pages pageLimit wanted start stop fetches) {index : Nat} :
    ∀ fetch ∈ fetches, fetch.Covers index → start ≤ index ∧ wanted index := by
  induction pages with
  | done =>
      intro fetch member
      cases member
  | pass _ _ ih =>
      intro fetch member covers
      have inRest := ih fetch member covers
      exact ⟨by omega, inRest.2⟩
  | page positive _ all _ ih =>
      intro fetch member covers
      rcases List.mem_cons.mp member with rfl | inRest
      · exact ⟨covers.1, all index covers.1 covers.2⟩
      · have behind := ih fetch inRest covers
        exact ⟨by omega, behind.2⟩

/-- No page starts before the scan does. -/
theorem precedes (pages : Pages pageLimit wanted start stop fetches) {first limit : Nat}
    (ends : first + limit ≤ start) :
    ∀ fetch ∈ fetches, (Effect.fetchMissing first limit).Precedes fetch := by
  intro fetch member
  have page := pages.isPage fetch member
  cases fetch with
  | fetchMissing next count =>
      have itself : (Effect.fetchMissing next count).Covers next :=
        ⟨le_rfl, Nat.lt_add_of_pos_right page.1⟩
      exact ends.trans (pages.wanted_of_covers _ member itself).1

/-- Pages come in ascending order and do not overlap. -/
theorem ascending (pages : Pages pageLimit wanted start stop fetches) :
    fetches.Pairwise Effect.Precedes := by
  induction pages with
  | done => exact .nil
  | pass _ _ ih => exact ih
  | page _ _ _ rest ih => exact .cons (rest.precedes le_rfl) ih

end Pages

/-! ### What the planner emits -/

/-- The pages of a run of wanted indices are pages of exactly these; by the recursion over the run.
-/
theorem pages_fetchPages {pageLimit : Nat} (positive : 0 < pageLimit) {wanted : Nat → Prop}
    {start stop : Nat} (ordered : start ≤ stop)
    (all : ∀ index, start ≤ index → index < stop → wanted index) :
    Pages pageLimit wanted start stop (fetchPages positive start stop) := by
  induction start using fetchPages.induct positive stop with
  | case1 start ongoing limit ih =>
      rw [fetchPages, dif_pos ongoing]
      apply Pages.page
      · omega
      · exact Nat.min_le_right _ _
      · intro index after before
        exact all index after (by omega)
      · apply ih (by omega)
        intro index after before
        exact all index (by omega) before
  | case2 start finished =>
      rw [fetchPages, dif_neg finished]
      have same : start = stop := by omega
      rw [same]
      exact .done stop

/-- The slots of a run of requested ones are requested. -/
theorem requested_of_lt_runEnd {slots : List (Slot T)} {start index : Nat} (after : start ≤ index)
    (before : index < runEnd slots start) : slots[index]? = some .requested := by
  unfold runEnd at before
  have inRun : index - start < ((slots.drop start).takeWhile Slot.isRequested).length := by
    omega
  have requested : (((slots.drop start).takeWhile Slot.isRequested)[index - start]).isRequested =
      true :=
    List.mem_takeWhile_imp (List.getElem_mem inRun)
  have located : slots[index]? =
      some ((slots.drop start).takeWhile Slot.isRequested)[index - start] := by
    have kept := (List.takeWhile_prefix Slot.isRequested (l := slots.drop start)).getElem inRun
    rw [kept, ← List.getElem?_eq_getElem, List.getElem?_drop]
    congr 1
    omega
  rw [located]
  cases slot : ((slots.drop start).takeWhile Slot.isRequested)[index - start] with
  | requested => rfl
  | received entry =>
      rw [slot] at requested
      cases requested

/-- The plan from an index on fetches exactly what is missing behind it; by the recursion of the
plan. -/
theorem pages_planMissingFrom (state : State T) {index : Nat}
    (inside : index ≤ state.slots.length) :
    Pages state.pageLimit state.Misses index state.slots.length (planMissingFrom state index) := by
  induction index using planMissingFrom.induct state with
  | case1 index ongoing slot stop ih =>
      rw [planMissingFrom, dif_pos ongoing]
      split
      · apply Pages.append
        · exact pages_fetchPages state.positive (lt_runEnd slot).le fun other after before =>
            requested_of_lt_runEnd after before
        · exact ih (runEnd_le state.slots inside)
      · simp_all
  | case2 index ongoing filled ih =>
      rw [planMissingFrom, dif_pos ongoing]
      split
      · simp_all
      · exact .pass (filled ·) (ih ongoing)
  | case3 index finished =>
      rw [planMissingFrom, dif_neg finished]
      have same : index = state.slots.length := by omega
      rw [same]
      exact .done _

/-- The plan fetches exactly what is missing. -/
theorem pages_planMissingFetches (state : State T) :
    Pages state.pageLimit state.Misses 0 state.slots.length (planMissingFetches state) :=
  pages_planMissingFrom state (Nat.zero_le _)

/-- Fetches in ascending order, none empty, longer than a page or overlapping another one, that
together ask for exactly what is missing afterwards. -/
structure ExactPlan (pageLimit : Nat) (after : Transition T) : Prop where
  isPage : ∀ fetch ∈ after.effects, fetch.IsPage pageLimit
  ascending : after.effects.Pairwise Effect.Precedes
  missing : ∀ index, (∃ fetch ∈ after.effects, fetch.Covers index) ↔ after.state.Misses index

/-- The effects of a transition that plans are an exact plan. -/
theorem exactPlan_planMissingFetches (state : State T) :
    ExactPlan state.pageLimit { state, effects := planMissingFetches state } where
  isPage := (pages_planMissingFetches state).isPage
  ascending := (pages_planMissingFetches state).ascending
  missing := by
    intro index
    constructor
    · rintro ⟨fetch, member, covers⟩
      exact ((pages_planMissingFetches state).wanted_of_covers fetch member covers).2
    · exact covers_planMissingFetches state

/-! ### Progress -/

/-- Between two states nothing known is forgotten: slots, first missing index and committed prefix
only grow, and what was received stays. -/
structure Progress (before after : State T) : Prop where
  slots : before.slots.length ≤ after.slots.length
  kept : ∀ index entry, before.Holds index entry → after.Holds index entry
  nextExpected : before.nextExpected ≤ after.nextExpected
  committedPrefix : before.committedPrefix <+: after.committedPrefix

/-- A state that keeps its entries never expects an earlier one. -/
theorem nextExpected_mono {before after : State T}
    (kept : ∀ index entry, before.Holds index entry → after.Holds index entry) :
    before.nextExpected ≤ after.nextExpected := by
  apply Nat.le_of_not_lt
  intro fewer
  obtain ⟨entry, holds⟩ := holds_of_lt_nextExpected fewer
  exact not_holds_nextExpected (kept _ _ holds)

/-- Below the first missing index both states have the same slots. -/
theorem take_nextExpected_eq {before after : State T}
    (kept : ∀ index entry, before.Holds index entry → after.Holds index entry) :
    before.slots.take before.nextExpected = after.slots.take before.nextExpected := by
  apply List.ext_getElem?
  intro index
  rw [List.getElem?_take, List.getElem?_take]
  split
  · rename_i committed
    obtain ⟨entry, holds⟩ := holds_of_lt_nextExpected committed
    exact Eq.trans holds (kept index entry holds).symm
  · rfl

/-- A transition that keeps what was received makes progress. -/
theorem Progress.of_kept {before after : State T}
    (slots : before.slots.length ≤ after.slots.length)
    (kept : ∀ index entry, before.Holds index entry → after.Holds index entry) :
    Progress before after where
  slots := slots
  kept := kept
  nextExpected := nextExpected_mono kept
  committedPrefix := by
    unfold State.committedPrefix
    rw [take_nextExpected_eq kept]
    exact (List.take_prefix_take_left (nextExpected_mono kept)).filterMap Slot.received?

theorem Progress.refl (state : State T) : Progress state state :=
  .of_kept le_rfl fun _ _ holds => holds

/-- Progress made twice is progress. -/
theorem Progress.trans {first second third : State T} (earlier : Progress first second)
    (later : Progress second third) : Progress first third :=
  .of_kept (earlier.slots.trans later.slots) fun index entry holds =>
    later.kept index entry (earlier.kept index entry holds)

/-! ### Runs

Every operation keeps the entries that are held and only adds slots (`perform_extends`); progress
over a run is the composition of its steps. -/

inductive Op (T : Type) where
  | syncToLatest (latestEntryIndex : Option Nat)
  | received (index : Nat) (entry : T)
deriving DecidableEq, Repr

def State.perform (state : State T) : Op T → Transition T
  | .syncToLatest latestEntryIndex => Coordinator.syncToLatest state latestEntryIndex
  | .received index entry => reduce state (.received index entry)

/-- The state after a sequence of operations. -/
def State.run (state : State T) (ops : List (Op T)) : State T :=
  ops.foldl (fun current op => (current.perform op).state) state

/-- The operations that plan fetches: a sync with a known latest index, and an entry beyond the
slots. -/
def State.Plans (state : State T) : Op T → Prop
  | .syncToLatest latestEntryIndex => latestEntryIndex.isSome = true
  | .received index _ => state.slots.length ≤ index

/-- Every operation extends the state: entries are kept, slots are only added. -/
theorem perform_extends (state : State T) (op : Op T) :
    ∃ added, Extends state added (state.perform op) := by
  cases op with
  | syncToLatest latestEntryIndex => exact ⟨_, syncToLatest_extends state latestEntryIndex⟩
  | received index entry => exact ⟨_, reduce_extends state index entry⟩

/-- The step lemma: every operation makes progress. -/
theorem perform_progress (state : State T) (op : Op T) :
    Progress state (state.perform op).state := by
  obtain ⟨added, grown⟩ := perform_extends state op
  exact .of_kept grown.grows grown.kept

/-- The run lemma: any operations make progress. -/
theorem run_progress (state : State T) (ops : List (Op T)) : Progress state (state.run ops) := by
  induction ops generalizing state with
  | nil => exact .refl state
  | cons op later ih => exact (perform_progress state op).trans (ih _)

/-- No operation touches the page limit. -/
theorem run_pageLimit (state : State T) (ops : List (Op T)) :
    (state.run ops).pageLimit = state.pageLimit := by
  induction ops generalizing state with
  | nil => rfl
  | cons op later ih =>
      obtain ⟨added, grown⟩ := perform_extends state op
      exact (ih _).trans grown.pageLimit

/-- Learning of a latest index plans exactly what is missing. -/
theorem exactPlan_syncToLatest (state : State T) (latestEntryIndex : Nat) :
    ExactPlan state.pageLimit (syncToLatest state (some latestEntryIndex)) := by
  have same : (applyLatestIndex state latestEntryIndex).pageLimit = state.pageLimit := by
    unfold applyLatestIndex
    split <;> rfl
  rw [← same]
  exact exactPlan_planMissingFetches _

/-- An operation that plans at all plans exactly what is missing. -/
theorem exactPlan_perform {state : State T} {op : Op T} (plans : state.Plans op) :
    ExactPlan state.pageLimit (state.perform op) := by
  cases op with
  | syncToLatest latestEntryIndex =>
      obtain ⟨latest, rfl⟩ := Option.isSome_iff_exists.mp plans
      exact exactPlan_syncToLatest state latest
  | received index entry =>
      have beyond : state.slots[index]? = none := List.getElem?_eq_none plans
      unfold State.perform reduce
      dsimp only
      rw [beyond]
      exact exactPlan_planMissingFetches
        { state with
          slots := (resizeRequested state.slots (index + 1)).set index (.received entry) }

/-- An operation that does not plan asks for nothing. -/
theorem effects_perform_of_not_plans {state : State T} {op : Op T} (idle : ¬state.Plans op) :
    (state.perform op).effects = [] := by
  cases op with
  | syncToLatest latestEntryIndex =>
      cases latestEntryIndex with
      | none => rfl
      | some latest => exact absurd rfl idle
  | received index entry =>
      have inside : index < state.slots.length := Nat.lt_of_not_le idle
      unfold State.perform reduce
      dsimp only
      rw [List.getElem?_eq_getElem inside]
      cases state.slots[index] <;> rfl

/-- The first value that comes in for an index fills its slot. -/
theorem holds_perform_received {state : State T} {index : Nat} {entry : T}
    (first : ∀ held, ¬state.Holds index held) :
    (state.perform (.received index entry)).state.Holds index entry := by
  obtain ⟨held, holds⟩ := exists_holds_reduce state index entry
  rcases (reduce_extends state index entry).sound index held holds with old | ⟨_, rfl⟩
  · exact absurd old (first held)
  · exact holds

/-- What an operation plans in a state. -/
structure PlansExactly (pageLimit : Nat) (state : State T) (op : Op T) : Prop where
  plan : state.Plans op → ExactPlan pageLimit (state.perform op)
  idle : ¬state.Plans op → (state.perform op).effects = []

/-- In every run from the bootstrapped coordinator the state only makes progress, the first value
received for an index stays there, and each plan asks for exactly what is missing. -/
theorem coordinator_progress (pageLimit : Nat) (latestEntryIndex : Option Nat)
    (start : Transition T) (bootstrapped : init pageLimit latestEntryIndex = .ok start)
    (ops : List (Op T)) :
    (latestEntryIndex.isSome = true → ExactPlan pageLimit start) ∧
    (∀ later, Progress (start.state.run ops) (start.state.run (ops ++ later))) ∧
    (∀ index entry, (∀ held, ¬(start.state.run ops).Holds index held) →
      ∀ later, (start.state.run (ops ++ .received index entry :: later)).Holds index entry) ∧
    ∀ op, PlansExactly pageLimit (start.state.run ops) op := by
  obtain ⟨positive, synced, grown⟩ := init_extends bootstrapped
  have limit : (start.state.run ops).pageLimit = pageLimit :=
    (run_pageLimit _ ops).trans grown.pageLimit
  have split : ∀ later, start.state.run (ops ++ later) = (start.state.run ops).run later :=
    fun later => List.foldl_append
  refine ⟨?_, ?_, ?_, ?_⟩
  · intro known
    obtain ⟨latest, rfl⟩ := Option.isSome_iff_exists.mp known
    rw [synced]
    exact exactPlan_syncToLatest (State.empty pageLimit positive) latest
  · intro later
    rw [split]
    exact run_progress _ later
  · intro index entry first later
    rw [split]
    exact (run_progress _ later).kept index entry (holds_perform_received first)
  · intro op
    constructor
    · intro plans
      have exactly := exactPlan_perform plans
      rw [limit] at exactly
      exact exactly
    · exact effects_perform_of_not_plans

/-- With the middle one of three entries there, a sync to five plans three fetches. -/
theorem coordinator_progress_gap :
    (((State.empty (T := String) 2 Nat.two_pos).run
      [.syncToLatest (some 2), .received 1 "b"]).perform (.syncToLatest (some 4))).effects =
        [.fetchMissing 0 1, .fetchMissing 2 2, .fetchMissing 4 1] ∧
    PlansExactly 2 ((syncToLatest (State.empty (T := String) 2 Nat.two_pos) (some 2)).state.run
      [.received 1 "b"]) (.syncToLatest (some 4)) :=
  ⟨by decide +kernel, (coordinator_progress 2 (some 2) _ rfl [.received 1 "b"]).2.2.2 _⟩

end ProstheticConscience.Consensus.Coordinator
