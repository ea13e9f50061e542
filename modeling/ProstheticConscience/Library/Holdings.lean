/-
Module: ProstheticConscience.Library.Holdings
Purpose: What the components of a system hold between them.  Each component holds an element of a
  commutative monoid; when one component of a list is exchanged, the rest of the list is a frame.
Trusted boundary: none
Main exports: held, held_append, held_split, held_set, held_eq_single, heldBy, mem_held,
  singleton_add_eq_heldBy
-/
import Mathlib.Algebra.BigOperators.Group.List.Basic
import Mathlib.Algebra.Order.Group.Multiset
import Mathlib.Data.List.Perm.Basic

variable {α M : Type*} [AddCommMonoid M]

/-- What the components of a list hold between them. -/
def held (holding : α → M) (components : List α) : M :=
  (components.map holding).sum

@[simp] theorem held_nil (holding : α → M) : held holding [] = 0 := rfl

@[simp] theorem held_cons (holding : α → M) (component : α) (rest : List α) :
    held holding (component :: rest) = holding component + held holding rest := by
  simp [held]

@[simp] theorem held_append (holding : α → M) (first second : List α) :
    held holding (first ++ second) = held holding first + held holding second := by
  simp [held]

theorem held_perm (holding : α → M) {first second : List α} (perm : first.Perm second) :
    held holding first = held holding second :=
  (perm.map holding).sum_eq

/-- One component and the others. -/
theorem held_split (holding : α → M) {components : List α} {position : Nat} {component : α}
    (found : components[position]? = some component) :
    held holding components = holding component + held holding (components.eraseIdx position) := by
  obtain ⟨inRange, rfl⟩ := List.getElem?_eq_some_iff.mp found
  rw [← held_perm holding (List.getElem_cons_eraseIdx_perm inRange), held_cons]

/-- The others hold what they held when the component is exchanged. -/
theorem held_set (holding : α → M) {components : List α} {position : Nat} {component : α}
    (found : components[position]? = some component) (exchanged : α) :
    held holding (components.set position exchanged) =
      holding exchanged + held holding (components.eraseIdx position) := by
  have inRange := (List.getElem?_eq_some_iff.mp found).1
  rw [held_perm holding (List.set_perm_cons_eraseIdx inRange exchanged), held_cons]

/-- Only one component holds something. -/
theorem held_eq_single {holding : α → M} {components : List α} (distinct : components.Nodup)
    {component : α} (member : component ∈ components)
    (others : ∀ other ∈ components, other ≠ component → holding other = 0) :
    held holding components = holding component := by
  classical
  have counted := List.sum_map_eq_nsmul_single component holding
    fun other different otherMem => others other otherMem different
  rwa [distinct.count, if_pos member, one_nsmul] at counted

/-! ### Tokens of which there are two at most -/

section Tokens

variable {T : Type*}

/-- The token that is held, if there is one. -/
def heldBy (token : Option T) : Multiset T :=
  token.elim 0 fun token => {token}

@[simp] theorem heldBy_none : heldBy (none : Option T) = 0 := rfl

@[simp] theorem heldBy_some (token : T) : heldBy (some token) = {token} := rfl

/-- A token that is held by one of two holders, and what is left. -/
theorem singleton_add_eq_heldBy {token : T} {others : Multiset T} {first second : Option T}
    (same : {token} + others = heldBy first + heldBy second) :
    (first = some token ∧ others = heldBy second) ∨
      (second = some token ∧ others = heldBy first) := by
  cases first with
  | none =>
      cases second with
      | none => simp at same
      | some other =>
          rw [heldBy_none, heldBy_some, zero_add, Multiset.singleton_add] at same
          obtain ⟨rfl, rfl⟩ := (Multiset.singleton_eq_cons_iff _).mp same.symm
          exact .inr ⟨rfl, rfl⟩
  | some holder =>
      cases second with
      | none =>
          rw [heldBy_none, heldBy_some, add_zero, Multiset.singleton_add] at same
          obtain ⟨rfl, rfl⟩ := (Multiset.singleton_eq_cons_iff _).mp same.symm
          exact .inl ⟨rfl, rfl⟩
      | some other =>
          rw [heldBy_some, heldBy_some, Multiset.singleton_add, Multiset.singleton_add,
            Multiset.cons_eq_cons] at same
          rcases same with ⟨rfl, rest⟩ | ⟨_, left, othersEq, otherEq⟩
          · exact .inl ⟨rfl, rest⟩
          · obtain ⟨rfl, rfl⟩ := (Multiset.singleton_eq_cons_iff _).mp otherEq
            exact .inr ⟨rfl, othersEq⟩

/-- A token is held by some component. -/
theorem mem_held {holding : α → Multiset T} {components : List α} {token : T} :
    token ∈ held holding components ↔ ∃ component ∈ components, token ∈ holding component := by
  induction components with
  | nil => simp
  | cons component rest ih => simp [ih]

theorem singleton_add_eq_heldBy_single {token : T} {others : Multiset T} {holder : Option T}
    (same : {token} + others = heldBy holder) : holder = some token ∧ others = 0 := by
  have padded : {token} + others = heldBy holder + heldBy none := by simpa using same
  rcases singleton_add_eq_heldBy padded with found | ⟨absent, _⟩
  · exact found
  · cases absent

end Tokens
