/-
Module: ProstheticConscience.Consensus.StatusLocality
Purpose: Status changes are local: what one more entry can change is what it names, or what its
  target leads to along the attacks among unresolved claims.
Trusted boundary: none
Main exports: semanticStatus?, lookup_statuses_eq, SameStanding, LeadsTo, Affects,
  sameStanding_of_not_affects, status_changes_are_local
-/
import ProstheticConscience.Consensus.Status

namespace ProstheticConscience.Consensus

/-! ### Statuses as a function of the log -/

open Classical in
/-- The status that a log gives to an id, if it is an unresolved claim. -/
noncomputable def semanticStatus? (log : List Entry) (id : ClaimId) : Option EpistemicStatus :=
  if id ∈ unresolvedClaims log then some (semanticStatus log id) else none

theorem lookup_statuses_eq {log : List Entry} {state : MaterializedState}
    (rep : Represents log state) (id : ClaimId) :
    (statuses state).lookup id = semanticStatus? log id := by
  ext status
  rw [lookup_statuses rep, semanticStatus?]
  split_ifs with unresolved <;> simp [unresolved]

/-- Two logs hold the same latest stances on an id. -/
def SameStances (log other : List Entry) (id : ClaimId) : Prop :=
  ∀ author position, LatestStance log id author position ↔ LatestStance other id author position

/-- Nothing that the status of an id depends on differs between two logs. -/
structure SameStanding (log other : List Entry) (id : ClaimId) : Prop where
  unresolved : id ∈ unresolvedClaims log ↔ id ∈ unresolvedClaims other
  grounded : id ∈ (argumentFramework log).grounded ↔ id ∈ (argumentFramework other).grounded
  attacked : id ∈ (argumentFramework log).attackedBy (argumentFramework log).grounded ↔
    id ∈ (argumentFramework other).attackedBy (argumentFramework other).grounded
  stances : SameStances log other id

theorem SameStanding.semanticStatus?_eq {log other : List Entry} {id : ClaimId}
    (same : SameStanding log other id) : semanticStatus? log id = semanticStatus? other id := by
  have stances : LatestStance log id = LatestStance other id := by
    funext author position
    exact propext (same.stances author position)
  unfold semanticStatus? semanticStatus
  rw [propext same.unresolved, propext same.grounded, propext same.attacked, stances]

/-- Where the frameworks agree, and the stances too, an id stands the same. -/
theorem SameStanding.of_agreeOn {log other : List Entry} {U : Set ClaimId} {id : ClaimId}
    (agree : (argumentFramework log).AgreeOn (argumentFramework other) U) (inside : id ∈ U)
    (stances : SameStances log other id) :
    SameStanding log other id where
  unresolved := agree.args id inside
  grounded := agree.mem_grounded_iff inside
  attacked := agree.mem_attackedBy_grounded_iff inside
  stances := stances

/-! ### One more entry

What an entry affects is said entry by entry: the target of a stance, and what a claim, an attack or
a resolution leads to along attacks. The standing of every other claim is the same before and after,
by the directionality of grounded semantics. -/

/-- A claim leads to another one along the attacks among the unresolved claims of a log. -/
def LeadsTo (log : List Entry) (source target : ClaimId) : Prop :=
  (argumentFramework log).Leads source target

/-- The claims whose status an entry behind a log may change. -/
def Affects (log : List Entry) (entry : Entry) (id : ClaimId) : Prop :=
  match entry with
  | .comment _ _ _ => False
  | .relation _ _ .supports _ => False
  | .relation _ target .attacks _ => LeadsTo (log ++ [entry]) target id
  | .stance target _ _ => id = target
  | .resolve claimId _ _ => claimId ∈ unresolvedClaims log ∧ LeadsTo log claimId id
  | .claim claimId _ _ _ _ => ¬HasClaim log claimId ∧ LeadsTo (log ++ [entry]) claimId id

variable {log : List Entry} {entry : Entry} {id : ClaimId}

theorem mem_unresolvedClaims_concat :
    id ∈ unresolvedClaims (log ++ [entry]) ↔
      (HasClaim log id ∨ ∃ author body claimKind parentId,
        entry = .claim id author body claimKind parentId) ∧
      ¬(IsResolved log id ∨ HasClaim log id ∧ ∃ author outcome,
        entry = .resolve id author outcome) := by
  rw [← hasClaim_concat, ← isResolved_concat]
  rfl

/-- An entry that introduces no claim and resolves none leaves the unresolved claims alone. -/
theorem unresolvedClaims_concat_same
    (notNew : ∀ author body claimKind parentId,
      entry = .claim id author body claimKind parentId → HasClaim log id)
    (notOpen : ∀ author outcome, entry = .resolve id author outcome →
      id ∉ unresolvedClaims log) :
    id ∈ unresolvedClaims (log ++ [entry]) ↔ id ∈ unresolvedClaims log := by
  rw [mem_unresolvedClaims_concat]
  constructor
  · rintro ⟨introduced, open_⟩
    have known : HasClaim log id := by
      rcases introduced with earlier | ⟨author, body, kind, parent, now⟩
      · exact earlier
      · exact notNew author body kind parent now
    exact ⟨known, fun resolved => open_ (.inl resolved)⟩
  · rintro ⟨known, open_⟩
    refine ⟨.inl known, ?_⟩
    rintro (resolved | ⟨_, author, outcome, now⟩)
    · exact open_ resolved
    · exact notOpen author outcome now ⟨known, open_⟩

/-- Only a stance on the claim changes the latest stances on it. -/
theorem sameStances_concat (other : ∀ author position, entry ≠ .stance id author position) :
    SameStances log (log ++ [entry]) id := by
  intro author position
  rw [latestStance_concat]
  constructor
  · intro latest
    exact .inr ⟨latest, fun later => other author later⟩
  · rintro (now | ⟨latest, _⟩)
    · exact absurd now (other author position)
    · exact latest

/-- Between claims that stay as they are, only an attacks relation adds an attack. -/
theorem attacks_concat_iff {source target : ClaimId}
    (sourceSame : source ∈ unresolvedClaims (log ++ [entry]) ↔ source ∈ unresolvedClaims log)
    (targetSame : target ∈ unresolvedClaims (log ++ [entry]) ↔ target ∈ unresolvedClaims log)
    (other : ∀ author, entry ≠ .relation source target .attacks author) :
    (argumentFramework log).attacks source target ↔
      (argumentFramework (log ++ [entry])).attacks source target := by
  change _ ∧ _ ∧ _ ↔ _ ∧ _ ∧ _
  rw [sourceSame, targetSame, hasAttack_concat]
  constructor
  · rintro ⟨attack, ends⟩
    exact ⟨.inl attack, ends⟩
  · rintro ⟨attack | ⟨author, now⟩, ends⟩
    · exact ⟨attack, ends⟩
    · exact absurd now (other author)

/-- An entry that neither introduces nor resolves a claim nor adds an attack leaves the framework
as it is. -/
theorem agreeOn_of_quiet
    (unresolved : ∀ claim, claim ∈ unresolvedClaims (log ++ [entry]) ↔
      claim ∈ unresolvedClaims log)
    (quiet : ∀ source target author, entry ≠ .relation source target .attacks author) :
    (argumentFramework log).AgreeOn (argumentFramework (log ++ [entry])) Set.univ where
  args claim _ := (unresolved claim).symm
  attacks source target _ :=
    attacks_concat_iff (unresolved source) (unresolved target) (quiet source target)
  closed _ _ _ _ := trivial

/-- Frameworks of which one has one more claim agree on what that claim does not lead to. -/
theorem agreeOn_of_one_more {more less : List Entry} {claim : ClaimId}
    (others : ∀ other, other ≠ claim →
      (other ∈ unresolvedClaims more ↔ other ∈ unresolvedClaims less))
    (absent : claim ∉ unresolvedClaims less)
    (attacks : ∀ source target, HasAttack more source target ↔ HasAttack less source target) :
    (argumentFramework more).AgreeOn (argumentFramework less)
      {other | ¬LeadsTo more claim other} := by
  have ne_of_beyond : ∀ {other}, ¬LeadsTo more claim other → other ≠ claim := by
    rintro other beyond rfl
    exact beyond .refl
  apply Framework.AgreeOn.of_not_leads
  · intro other beyond
    exact others other (ne_of_beyond beyond)
  · intro source target beyond
    have targetSame := others target (ne_of_beyond beyond)
    constructor
    · intro attack
      have sourceOther : source ≠ claim := by
        rintro rfl
        exact beyond (.single attack)
      obtain ⟨stated, sourceOpen, targetOpen⟩ := attack
      exact ⟨(attacks source target).mp stated, (others source sourceOther).mp sourceOpen,
        targetSame.mp targetOpen⟩
    · rintro ⟨stated, sourceOpen, targetOpen⟩
      have sourceOther : source ≠ claim := by
        rintro rfl
        exact absent sourceOpen
      exact ⟨(attacks source target).mpr stated, (others source sourceOther).mpr sourceOpen,
        targetSame.mpr targetOpen⟩

/-- With an attacks relation the frameworks agree on what its target does not lead to. -/
theorem agreeOn_attacks (log : List Entry) (source target : ClaimId) (author : String) :
    (argumentFramework (log ++ [.relation source target .attacks author])).AgreeOn
      (argumentFramework log)
      {other | ¬LeadsTo (log ++ [.relation source target .attacks author]) target other} := by
  have unresolved : ∀ claim,
      claim ∈ unresolvedClaims (log ++ [.relation source target .attacks author]) ↔
        claim ∈ unresolvedClaims log :=
    fun claim => unresolvedClaims_concat_same (by simp) (by simp)
  apply Framework.AgreeOn.of_not_leads
  · intro claim _
    exact unresolved claim
  · intro first second beyond
    apply (attacks_concat_iff (unresolved first) (unresolved second) _).symm
    intro other same
    cases same
    exact beyond .refl

/-- With a new claim they agree on what it does not lead to. -/
theorem agreeOn_claim {claimId : ClaimId} (unknown : ¬HasClaim log claimId)
    (author body : String) (claimKind : ClaimKind) (parentId : Option ClaimId) :
    (argumentFramework (log ++ [.claim claimId author body claimKind parentId])).AgreeOn
      (argumentFramework log)
      {other | ¬LeadsTo (log ++ [.claim claimId author body claimKind parentId]) claimId
        other} := by
  apply agreeOn_of_one_more
  · intro other different
    apply unresolvedClaims_concat_same
    · intro _ _ _ _ same
      cases same
      exact absurd rfl different
    · simp
  · exact fun unresolved => unknown unresolved.1
  · simp [hasAttack_concat]

/-- With a resolution they agree on what the claim does not lead to in the log before. -/
theorem agreeOn_resolve {claimId : ClaimId} (unresolved : claimId ∈ unresolvedClaims log)
    (author : String) (outcome : Outcome) :
    (argumentFramework log).AgreeOn
      (argumentFramework (log ++ [.resolve claimId author outcome]))
      {other | ¬LeadsTo log claimId other} := by
  apply agreeOn_of_one_more
  · intro other different
    apply (unresolvedClaims_concat_same _ _).symm
    · simp
    · intro _ _ same
      cases same
      exact absurd rfl different
  · rw [mem_unresolvedClaims_concat]
    rintro ⟨_, open_⟩
    exact open_ (.inr ⟨unresolved.1, author, outcome, rfl⟩)
  · simp [hasAttack_concat]

/-- What an entry does not affect stands as before. -/
theorem sameStanding_of_not_affects (unaffected : ¬Affects log entry id) :
    SameStanding log (log ++ [entry]) id := by
  cases entry with
  | comment claimId author body =>
      apply SameStanding.of_agreeOn (agreeOn_of_quiet _ (by simp)) (Set.mem_univ id)
      · exact sameStances_concat (by simp)
      · exact fun claim => unresolvedClaims_concat_same (by simp) (by simp)
  | relation source target kind author =>
      have stances : SameStances log (log ++ [.relation source target kind author]) id :=
        sameStances_concat (by simp)
      cases kind with
      | attacks =>
          exact .of_agreeOn (agreeOn_attacks log source target author).symm unaffected stances
      | supports =>
          apply SameStanding.of_agreeOn (agreeOn_of_quiet _ (by simp)) (Set.mem_univ id) stances
          exact fun claim => unresolvedClaims_concat_same (by simp) (by simp)
  | stance target author position =>
      apply SameStanding.of_agreeOn (agreeOn_of_quiet _ (by simp)) (Set.mem_univ id)
      · apply sameStances_concat
        intro _ _ same
        cases same
        exact unaffected rfl
      · exact fun claim => unresolvedClaims_concat_same (by simp) (by simp)
  | resolve claimId author outcome =>
      have stances : SameStances log (log ++ [.resolve claimId author outcome]) id :=
        sameStances_concat (by simp)
      by_cases unresolved : claimId ∈ unresolvedClaims log
      · apply SameStanding.of_agreeOn (agreeOn_resolve unresolved author outcome) _ stances
        exact fun leads => unaffected ⟨unresolved, leads⟩
      · apply SameStanding.of_agreeOn (agreeOn_of_quiet _ (by simp)) (Set.mem_univ id) stances
        intro claim
        apply unresolvedClaims_concat_same (by simp)
        intro _ _ same
        cases same
        exact unresolved
  | claim claimId author body claimKind parentId =>
      have stances :
          SameStances log (log ++ [.claim claimId author body claimKind parentId]) id :=
        sameStances_concat (by simp)
      by_cases known : HasClaim log claimId
      · apply SameStanding.of_agreeOn (agreeOn_of_quiet _ (by simp)) (Set.mem_univ id) stances
        intro claim
        apply unresolvedClaims_concat_same _ (by simp)
        intro _ _ _ _ same
        cases same
        exact known
      · apply SameStanding.of_agreeOn (agreeOn_claim known author body claimKind parentId).symm _
          stances
        exact fun leads => unaffected ⟨known, leads⟩

/-- Whatever the iteration order of the maps, a claim whose status one more entry changes is one
that the entry affects. -/
theorem status_changes_are_local (log : List Entry) (entry : Entry)
    (before after : MaterializedState) (beforeOrder : (replay log).Reorder before)
    (afterOrder : (replay (log ++ [entry])).Reorder after) (id : ClaimId)
    (changed : (statuses before).lookup id ≠ (statuses after).lookup id) :
    Affects log entry id := by
  by_contra unaffected
  apply changed
  rw [lookup_statuses_eq ((replay_represents log).reorder beforeOrder),
    lookup_statuses_eq ((replay_represents (log ++ [entry])).reorder afterOrder)]
  exact (sameStanding_of_not_affects unaffected).semanticStatus?_eq

/-- In the disputed log a new stance changes the status of the attacker, and resolving the attacker
that of the claim it attacked; what changes is affected. -/
theorem disputeLog_changes_are_local :
    (statuses (replay (disputeLog ++ [.stance ⟨"c2"⟩ "ava" .consent]))).lookup ⟨"c2"⟩ =
        some .established ∧
      Affects disputeLog (.stance ⟨"c2"⟩ "ava" .consent) ⟨"c2"⟩ ∧
      Affects disputeLog (.resolve ⟨"c2"⟩ "ava" .rejected) ⟨"c1"⟩ ∧
      Affects disputeLog (.relation ⟨"c1"⟩ ⟨"c2"⟩ .attacks "ava") ⟨"c1"⟩ := by
  refine ⟨by decide +kernel, ?_, ?_, ?_⟩
  · exact status_changes_are_local disputeLog _ (replay disputeLog) (replay (disputeLog ++ [_]))
      (.refl _) (.refl _) ⟨"c2"⟩ (by decide +kernel)
  · exact status_changes_are_local disputeLog _ (replay disputeLog) (replay (disputeLog ++ [_]))
      (.refl _) (.refl _) ⟨"c1"⟩ (by decide +kernel)
  · exact status_changes_are_local disputeLog _ (replay disputeLog) (replay (disputeLog ++ [_]))
      (.refl _) (.refl _) ⟨"c1"⟩ (by decide +kernel)

end ProstheticConscience.Consensus
