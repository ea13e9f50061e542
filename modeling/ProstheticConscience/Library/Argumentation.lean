/-
Module: ProstheticConscience.Library.Argumentation
Purpose: Abstract argumentation frameworks and their grounded semantics.  The grounded extension
  is the least fixed point of the characteristic function; the rules below let an algorithm that
  labels arguments one at a time be checked step by step.
Trusted boundary: none
Main exports: Framework, Framework.grounded, Framework.IsComplete, Framework.AgreeOn,
  Framework.Leads, Framework.Forced, Framework.IsIso
-/
import Mathlib.Order.FixedPoints
import Mathlib.Data.Set.Lattice
import Mathlib.Order.CompletePartialOrder
import Mathlib.Logic.Relation

/-- An abstract argumentation framework: a set of arguments and an attack relation on it. -/
structure Framework (α : Type*) where
  /-- The arguments put forward. -/
  args : Set α
  /-- `attacks a b`: argument `a` attacks argument `b`. -/
  attacks : α → α → Prop
  /-- Attacks are between arguments of the framework. -/
  attacks_mem : ∀ {a b}, attacks a b → a ∈ args ∧ b ∈ args

namespace Framework

variable {α β : Type*}

/-- The arguments that a set attacks. -/
def attackedBy (F : Framework α) (S : Set α) : Set α :=
  {b | ∃ a ∈ S, F.attacks a b}

theorem attackedBy_mono (F : Framework α) {S T : Set α} (sub : S ⊆ T) :
    F.attackedBy S ⊆ F.attackedBy T := by
  rintro b ⟨a, member, attack⟩
  exact ⟨a, sub member, attack⟩

/-- The characteristic function: the arguments that a set defends against every attacker. -/
def characteristic (F : Framework α) : Set α →o Set α where
  toFun S := {a | a ∈ F.args ∧ ∀ b, F.attacks b a → b ∈ F.attackedBy S}
  monotone' := by
    intro S T sub a defended
    exact ⟨defended.1, fun b attack => F.attackedBy_mono sub (defended.2 b attack)⟩

theorem mem_characteristic (F : Framework α) {S : Set α} {a : α} :
    a ∈ F.characteristic S ↔ a ∈ F.args ∧ ∀ b, F.attacks b a → b ∈ F.attackedBy S :=
  Iff.rfl

/-- The grounded extension. -/
def grounded (F : Framework α) : Set α :=
  F.characteristic.lfp

theorem characteristic_grounded (F : Framework α) :
    F.characteristic F.grounded = F.grounded :=
  F.characteristic.map_lfp

theorem mem_grounded (F : Framework α) {a : α} :
    a ∈ F.grounded ↔ a ∈ F.args ∧ ∀ b, F.attacks b a → b ∈ F.attackedBy F.grounded := by
  rw [← F.mem_characteristic, F.characteristic_grounded]

theorem grounded_subset_args (F : Framework α) : F.grounded ⊆ F.args :=
  fun _ member => (F.mem_grounded.mp member).1

/-- A set closed under the characteristic function contains the grounded extension. -/
theorem grounded_subset (F : Framework α) {S : Set α} (closed : F.characteristic S ⊆ S) :
    F.grounded ⊆ S :=
  F.characteristic.lfp_le closed

/-- The grounded extension does not attack itself. -/
theorem grounded_conflictFree (F : Framework α) {a : α} (member : a ∈ F.grounded) :
    a ∉ F.attackedBy F.grounded := by
  -- the unattacked part of the grounded extension is closed, hence all of it
  suffices F.grounded ⊆ {a | a ∈ F.grounded ∧ a ∉ F.attackedBy F.grounded} from (this member).2
  apply F.grounded_subset
  intro a defended
  have inGrounded : a ∈ F.grounded := by
    rw [← F.characteristic_grounded]
    exact F.characteristic.monotone (fun _ h => h.1) defended
  refine ⟨inGrounded, ?_⟩
  rintro ⟨attacker, attackerGrounded, attack⟩
  obtain ⟨defender, ⟨_, unattacked⟩, counter⟩ := defended.2 attacker attack
  exact unattacked ((F.mem_grounded.mp attackerGrounded).2 defender counter)

/-! ### Complete labellings -/

/-- The sets of accepted and rejected arguments of a complete labelling: an argument is accepted
exactly when all its attackers are rejected, and rejected exactly when one of them is accepted. -/
structure IsComplete (F : Framework α) (accepted rejected : Set α) : Prop where
  mem_accepted : ∀ a, a ∈ accepted ↔ a ∈ F.args ∧ ∀ b, F.attacks b a → b ∈ rejected
  rejected_eq : rejected = F.attackedBy accepted

/-- The grounded extension and what it attacks form a complete labelling. -/
theorem grounded_isComplete (F : Framework α) :
    F.IsComplete F.grounded (F.attackedBy F.grounded) where
  mem_accepted := fun _ => F.mem_grounded
  rejected_eq := rfl

/-- The grounded labelling lies below every complete labelling. -/
theorem IsComplete.grounded_subset {F : Framework α} {accepted rejected : Set α}
    (complete : F.IsComplete accepted rejected) : F.grounded ⊆ accepted := by
  apply F.grounded_subset
  intro a defended
  rw [complete.mem_accepted, complete.rejected_eq]
  exact defended

theorem IsComplete.attackedBy_subset {F : Framework α} {accepted rejected : Set α}
    (complete : F.IsComplete accepted rejected) : F.attackedBy F.grounded ⊆ rejected := by
  rw [complete.rejected_eq]
  exact F.attackedBy_mono complete.grounded_subset

/-! ### Directionality

What holds of an argument in the grounded labelling depends on the arguments that reach it along
attacks, and on no others. -/

/-- Two frameworks that look the same on a set of arguments into which no attack leads from
outside. -/
structure AgreeOn (F F' : Framework α) (U : Set α) : Prop where
  args : ∀ a ∈ U, a ∈ F.args ↔ a ∈ F'.args
  attacks : ∀ a, ∀ b ∈ U, F.attacks a b ↔ F'.attacks a b
  closed : ∀ a, ∀ b ∈ U, F.attacks a b → a ∈ U

namespace AgreeOn

variable {F F' : Framework α} {U : Set α}

theorem symm (agree : F.AgreeOn F' U) : F'.AgreeOn F U where
  args a member := (agree.args a member).symm
  attacks a b member := (agree.attacks a b member).symm
  closed a b member attack := agree.closed a b member ((agree.attacks a b member).mpr attack)

/-- What is grounded inside the set in one framework is grounded in the other. -/
theorem grounded_of_grounded (agree : F.AgreeOn F' U) {a : α} (inside : a ∈ U)
    (grounded : a ∈ F.grounded) : a ∈ F'.grounded := by
  -- outside the set everything is admitted, and what remains is closed
  suffices F.grounded ⊆ {a | a ∈ U → a ∈ F'.grounded} from this grounded inside
  apply F.grounded_subset
  intro b defended bInside
  rw [F'.mem_grounded]
  refine ⟨(agree.args b bInside).mp defended.1, ?_⟩
  intro attacker attack
  have original := (agree.attacks attacker b bInside).mpr attack
  have attackerInside := agree.closed attacker b bInside original
  obtain ⟨defender, admitted, counter⟩ := defended.2 attacker original
  have defenderInside := agree.closed defender attacker attackerInside counter
  exact ⟨defender, admitted defenderInside,
    (agree.attacks defender attacker attackerInside).mp counter⟩

theorem mem_grounded_iff (agree : F.AgreeOn F' U) {a : α} (inside : a ∈ U) :
    a ∈ F.grounded ↔ a ∈ F'.grounded :=
  ⟨agree.grounded_of_grounded inside, agree.symm.grounded_of_grounded inside⟩

theorem mem_attackedBy_grounded_iff (agree : F.AgreeOn F' U) {a : α} (inside : a ∈ U) :
    a ∈ F.attackedBy F.grounded ↔ a ∈ F'.attackedBy F'.grounded := by
  constructor
  · rintro ⟨attacker, grounded, attack⟩
    have attackerInside := agree.closed attacker a inside attack
    exact ⟨attacker, agree.grounded_of_grounded attackerInside grounded,
      (agree.attacks attacker a inside).mp attack⟩
  · rintro ⟨attacker, grounded, attack⟩
    have attackerInside := agree.symm.closed attacker a inside attack
    exact ⟨attacker, agree.symm.grounded_of_grounded attackerInside grounded,
      (agree.attacks attacker a inside).mpr attack⟩

end AgreeOn

/-- An argument leads to those that it attacks, to those that these attack, and so on, and to
itself. -/
def Leads (F : Framework α) (a b : α) : Prop :=
  Relation.ReflTransGen F.attacks a b

/-- Frameworks that differ only downstream of an argument agree on everything else. -/
theorem AgreeOn.of_not_leads {F F' : Framework α} {source : α}
    (args : ∀ a, ¬F.Leads source a → (a ∈ F.args ↔ a ∈ F'.args))
    (attacks : ∀ a b, ¬F.Leads source b → (F.attacks a b ↔ F'.attacks a b)) :
    F.AgreeOn F' {a | ¬F.Leads source a} where
  args := args
  attacks := attacks
  closed _ _ beyond attack leads := beyond (leads.tail attack)

/-! ### Labelling step by step

Labels may be given one at a time: an argument whose attackers are all rejected is accepted, one
with an accepted attacker is rejected. Such labels are forced, and when no more can be given they
are the grounded labelling. -/

/-- A partial labelling all of whose labels are forced: what it accepts is grounded and what it
rejects is attacked by the grounded extension. -/
structure Forced (F : Framework α) (accepted rejected : Set α) : Prop where
  accepted_subset : accepted ⊆ F.grounded
  rejected_subset : rejected ⊆ F.attackedBy F.grounded

theorem Forced.empty (F : Framework α) : F.Forced ∅ ∅ :=
  ⟨Set.empty_subset _, Set.empty_subset _⟩

/-- An argument whose attackers are all rejected may be accepted. -/
theorem Forced.accept {F : Framework α} {accepted rejected : Set α} {a : α}
    (forced : F.Forced accepted rejected) (known : a ∈ F.args)
    (allOut : ∀ b, F.attacks b a → b ∈ rejected) : F.Forced (insert a accepted) rejected := by
  refine ⟨?_, forced.rejected_subset⟩
  apply Set.insert_subset _ forced.accepted_subset
  rw [F.mem_grounded]
  exact ⟨known, fun b attack => forced.rejected_subset (allOut b attack)⟩

/-- An argument with an accepted attacker may be rejected. -/
theorem Forced.reject {F : Framework α} {accepted rejected : Set α} {a b : α}
    (forced : F.Forced accepted rejected) (attack : F.attacks b a) (attackerIn : b ∈ accepted) :
    F.Forced accepted (insert a rejected) := by
  refine ⟨forced.accepted_subset, ?_⟩
  apply Set.insert_subset _ forced.rejected_subset
  exact ⟨b, forced.accepted_subset attackerIn, attack⟩

/-- A forced labelling that can be extended no further is the grounded labelling: every argument
whose attackers are all rejected is labelled, and so is every argument with an accepted
attacker. -/
theorem Forced.eq_grounded {F : Framework α} {accepted rejected : Set α}
    (forced : F.Forced accepted rejected)
    (acceptStuck : ∀ a ∈ F.args, (∀ b, F.attacks b a → b ∈ rejected) →
      a ∈ accepted ∨ a ∈ rejected)
    (rejectStuck : ∀ a ∈ F.attackedBy accepted, a ∈ accepted ∨ a ∈ rejected) :
    accepted = F.grounded ∧ rejected = F.attackedBy F.grounded := by
  have attacked_rejected : F.attackedBy accepted ⊆ rejected := by
    intro a attacked
    apply (rejectStuck a attacked).resolve_left
    intro alsoIn
    exact F.grounded_conflictFree (forced.accepted_subset alsoIn)
      (F.attackedBy_mono forced.accepted_subset attacked)
  have closed : F.characteristic accepted ⊆ accepted := by
    rintro a ⟨known, defended⟩
    have allOut : ∀ b, F.attacks b a → b ∈ rejected :=
      fun b attack => attacked_rejected (defended b attack)
    apply (acceptStuck a known allOut).resolve_right
    intro alsoOut
    obtain ⟨b, bGrounded, attack⟩ := forced.rejected_subset alsoOut
    exact F.grounded_conflictFree bGrounded (forced.rejected_subset (allOut b attack))
  have acceptedEq : accepted = F.grounded :=
    Set.Subset.antisymm forced.accepted_subset (F.grounded_subset closed)
  refine ⟨acceptedEq, Set.Subset.antisymm forced.rejected_subset ?_⟩
  rw [← acceptedEq]
  exact attacked_rejected

/-! ### Invariance under renaming of arguments -/

/-- `f` is an isomorphism of frameworks: a bijection between the arguments that keeps attacks. -/
structure IsIso (f : α → β) (F : Framework α) (F' : Framework β) : Prop where
  injOn : Set.InjOn f F.args
  image_args : f '' F.args = F'.args
  attacks_iff : ∀ a ∈ F.args, ∀ b ∈ F.args, F'.attacks (f a) (f b) ↔ F.attacks a b

namespace IsIso

variable {f : α → β} {F : Framework α} {F' : Framework β}

theorem mem_attackedBy_image (iso : IsIso f F F') {S : Set α} (sub : S ⊆ F.args) {b : α}
    (known : b ∈ F.args) : f b ∈ F'.attackedBy (f '' S) ↔ b ∈ F.attackedBy S := by
  constructor
  · rintro ⟨_, ⟨a, member, rfl⟩, attack⟩
    exact ⟨a, member, (iso.attacks_iff a (sub member) b known).mp attack⟩
  · rintro ⟨a, member, attack⟩
    exact ⟨f a, ⟨a, member, rfl⟩, (iso.attacks_iff a (sub member) b known).mpr attack⟩

/-- Isomorphic frameworks have corresponding characteristic functions. -/
theorem mem_characteristic_image (iso : IsIso f F F') {S : Set α} (sub : S ⊆ F.args) {a : α}
    (known : a ∈ F.args) : f a ∈ F'.characteristic (f '' S) ↔ a ∈ F.characteristic S := by
  rw [mem_characteristic, mem_characteristic]
  have imageKnown : f a ∈ F'.args := iso.image_args ▸ Set.mem_image_of_mem f known
  constructor
  · rintro ⟨_, defended⟩
    refine ⟨known, fun b attack => ?_⟩
    have bKnown := (F.attacks_mem attack).1
    rw [← iso.mem_attackedBy_image sub bKnown]
    exact defended (f b) ((iso.attacks_iff b bKnown a known).mpr attack)
  · rintro ⟨_, defended⟩
    refine ⟨imageKnown, fun b' attack => ?_⟩
    have b'Known : b' ∈ F'.args := (F'.attacks_mem attack).1
    rw [← iso.image_args] at b'Known
    obtain ⟨b, bKnown, rfl⟩ := b'Known
    rw [iso.mem_attackedBy_image sub bKnown]
    exact defended b ((iso.attacks_iff b bKnown a known).mp attack)

/-- Grounded extensions of isomorphic frameworks correspond. -/
theorem grounded_image (iso : IsIso f F F') : F'.grounded = f '' F.grounded := by
  apply Set.Subset.antisymm
  · apply F'.grounded_subset
    intro a' defended
    have a'Known : a' ∈ F'.args := defended.1
    rw [← iso.image_args] at a'Known
    obtain ⟨a, known, rfl⟩ := a'Known
    rw [iso.mem_characteristic_image F.grounded_subset_args known, F.characteristic_grounded]
      at defended
    exact Set.mem_image_of_mem f defended
  · rw [Set.image_subset_iff]
    -- the arguments with a grounded image are closed under the characteristic function
    have closed : F.characteristic (F.args ∩ Set.preimage f F'.grounded) ⊆
        F.args ∩ Set.preimage f F'.grounded := by
      intro a defended
      refine ⟨defended.1, ?_⟩
      have imageDefended :=
        (iso.mem_characteristic_image Set.inter_subset_left defended.1).mpr defended
      have shrink : f '' (F.args ∩ Set.preimage f F'.grounded) ⊆ F'.grounded := by
        rintro _ ⟨b, member, rfl⟩
        exact member.2
      change f a ∈ F'.grounded
      rw [← F'.characteristic_grounded]
      exact F'.characteristic.monotone shrink imageDefended
    exact fun a member => (F.grounded_subset closed member).2

theorem mem_grounded_iff (iso : IsIso f F F') {a : α} (known : a ∈ F.args) :
    f a ∈ F'.grounded ↔ a ∈ F.grounded := by
  rw [iso.grounded_image]
  constructor
  · rintro ⟨b, member, same⟩
    rwa [← iso.injOn (F.grounded_subset_args member) known same]
  · exact Set.mem_image_of_mem f

theorem mem_attackedBy_grounded_iff (iso : IsIso f F F') {a : α} (known : a ∈ F.args) :
    f a ∈ F'.attackedBy F'.grounded ↔ a ∈ F.attackedBy F.grounded := by
  rw [iso.grounded_image]
  exact iso.mem_attackedBy_image F.grounded_subset_args known

end IsIso

end Framework
