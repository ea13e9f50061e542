/-
Module: ProstheticConscience.Library.Sorting
Purpose: Sorting by a key: the result is sorted, it is the same for every arrangement of the
  elements if no two of them share a key, and elements that do share one keep their order.
Trusted boundary: none
Main exports: sortOn, sortOn_sorted, sortOn_eq_of_perm, filter_sortOn, mem_eraseReps,
  eraseReps_increasing
-/
import Mathlib.Data.List.Sort
import Mathlib.Tactic.Tauto

namespace ProstheticConscience

variable {α β : Type} [LinearOrder β] {key : α → β} {items others : List α}

/-- The stable sort by a key. -/
def sortOn (key : α → β) (items : List α) : List α :=
  items.mergeSort fun a b => decide (key a ≤ key b)

theorem sortOn_perm (key : α → β) (items : List α) : (sortOn key items).Perm items :=
  List.mergeSort_perm items _

@[simp] theorem mem_sortOn {element : α} : element ∈ sortOn key items ↔ element ∈ items :=
  List.mem_mergeSort

/-- The comparison of keys meets the conditions of the sort. -/
theorem keys_trans (key : α → β) (a b c : α) (less : decide (key a ≤ key b) = true)
    (more : decide (key b ≤ key c) = true) : decide (key a ≤ key c) = true := by
  rw [decide_eq_true_eq] at less more ⊢
  exact less.trans more

theorem keys_total (key : α → β) (a b : α) :
    (decide (key a ≤ key b) || decide (key b ≤ key a)) = true := by
  rw [Bool.or_eq_true, decide_eq_true_eq, decide_eq_true_eq]
  exact le_total (key a) (key b)

/-- Sorting by a key sorts by the key. -/
theorem sortOn_sorted (key : α → β) (items : List α) :
    (sortOn key items).Pairwise fun a b => key a ≤ key b := by
  have sorted := List.pairwise_mergeSort (keys_trans key) (keys_total key) items
  exact sorted.imp of_decide_eq_true

/-- Where elements of one key are equal, the arrangement of the elements does not show. -/
theorem sortOn_eq_of_perm (key : α → β) (perm : items.Perm others)
    (apart : ∀ a ∈ items, ∀ b ∈ items, key a = key b → a = b) :
    sortOn key items = sortOn key others := by
  have permSorted : (sortOn key items).Perm (sortOn key others) :=
    ((sortOn_perm key items).trans perm).trans (sortOn_perm key others).symm
  apply permSorted.eq_of_pairwise _ (sortOn_sorted key items) (sortOn_sorted key others)
  intro a b here there less more
  have bHere : b ∈ items := perm.mem_iff.mpr (mem_sortOn.mp there)
  exact apart a (mem_sortOn.mp here) b bHere (le_antisymm less more)

/-- The elements of one key keep their order. -/
theorem filter_sortOn (key : α → β) (value : β) (items : List α) :
    (sortOn key items).filter (fun element => decide (key element = value)) =
      items.filter fun element => decide (key element = value) := by
  have alike : (items.filter fun element => decide (key element = value)).Pairwise
      fun a b => decide (key a ≤ key b) = true := by
    apply List.pairwise_of_forall_mem_list
    intro a here b there
    have aKey := of_decide_eq_true (List.mem_filter.mp here).2
    have bKey := of_decide_eq_true (List.mem_filter.mp there).2
    exact decide_eq_true (aKey.trans bKey.symm).le
  have kept := List.sublist_mergeSort (keys_trans key) (keys_total key) alike
    List.filter_sublist
  have inside := kept.filter fun element => decide (key element = value)
  rw [List.filter_filter] at inside
  simp only [Bool.and_self] at inside
  exact (inside.eq_of_length ((sortOn_perm key items).filter _).length_eq.symm).symm

/-! ### Erasing repetitions -/

theorem mem_eraseReps [DecidableEq α] {item : α} :
    item ∈ items.eraseReps ↔ item ∈ items := by
  have loop : ∀ (rest : List α) (current : α) (kept : List α),
      item ∈ List.eraseRepsBy.loop (· == ·) current rest kept ↔
        item = current ∨ item ∈ rest ∨ item ∈ kept := by
    intro rest
    induction rest with
    | nil =>
        intro current kept
        simp [List.eraseRepsBy.loop, or_comm]
    | cons next rest ih =>
        intro current kept
        rw [List.eraseRepsBy.loop]
        split
        · rename_i same
          obtain rfl := eq_of_beq same
          rw [ih, List.mem_cons]
          tauto
        · rw [ih, List.mem_cons, List.mem_cons]
          tauto
  cases items with
  | nil => rfl
  | cons first rest =>
      rw [List.eraseReps, List.eraseRepsBy, loop, List.mem_cons]
      simp

/-- In a sorted list repetitions stand together, so erasing them leaves each element once. -/
theorem eraseReps_increasing [DecidableEq α] (distinct : Function.Injective key)
    (sorted : items.Pairwise fun a b => key a ≤ key b) :
    items.eraseReps.Pairwise fun a b => key a < key b := by
  -- what is kept lies below the current element, and the current one below the rest
  have loop : ∀ (rest : List α) (current : α) (kept : List α),
      (current :: rest).Pairwise (fun a b => key a ≤ key b) →
      (current :: kept).Pairwise (fun a b => key b < key a) →
      (List.eraseRepsBy.loop (· == ·) current rest kept).Pairwise fun a b => key a < key b := by
    intro rest
    induction rest with
    | nil =>
        intro current kept _ increasing
        exact List.pairwise_reverse.mpr increasing
    | cons next rest ih =>
        intro current kept sorted increasing
        obtain ⟨above, sortedRest⟩ := List.pairwise_cons.mp sorted
        rw [List.eraseRepsBy.loop]
        split
        · rename_i same
          rw [eq_of_beq same] at increasing ⊢
          exact ih next kept sortedRest increasing
        · rename_i different
          have below : key current < key next := by
            apply lt_of_le_of_ne (above next List.mem_cons_self)
            intro same
            exact ne_of_beq_false different (distinct same)
          apply ih next (current :: kept) sortedRest
          apply List.pairwise_cons.mpr
          refine ⟨?_, increasing⟩
          intro earlier member
          rcases List.mem_cons.mp member with rfl | member
          · exact below
          · exact ((List.pairwise_cons.mp increasing).1 earlier member).trans below
  cases items with
  | nil => exact List.Pairwise.nil
  | cons first rest => exact loop rest first [] sorted (List.pairwise_singleton _ _)

end ProstheticConscience
