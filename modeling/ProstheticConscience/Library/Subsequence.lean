/-
Module: ProstheticConscience.Library.Subsequence
Purpose: Greedy matching of a pattern in a text: how long a prefix of the pattern is a subsequence
  of the text, one element of the text after the other.
Trusted boundary: none
Main exports: matchNext, matchAll, IsLongestMatch, isLongestMatch_matchAll, matchAll_mono,
  IsLongestMatch.length_le_iff
-/
import Mathlib.Data.List.Basic
import Mathlib.Data.List.Induction
import Mathlib.Order.Bounds.Basic

namespace ProstheticConscience

variable {α : Type*} {pattern text : List α}

/-- The length of the longest prefix of the pattern that is a subsequence of the text. -/
def IsLongestMatch (pattern text : List α) (matched : Nat) : Prop :=
  IsGreatest {count | count ≤ pattern.length ∧ (pattern.take count).Sublist text} matched

/-- A prefix that is a subsequence of a longer text is one already, or it ends with the new
element, and without it is one. -/
theorem take_sublist_concat {element : α} {count : Nat}
    (inside : count ≤ pattern.length)
    (sublist : (pattern.take count).Sublist (text ++ [element])) :
    (pattern.take count).Sublist text ∨
      ∃ fewer, count = fewer + 1 ∧ pattern[fewer]? = some element ∧
        (pattern.take fewer).Sublist text := by
  obtain ⟨before, last, split, inText, inLast⟩ := List.sublist_append_iff.mp sublist
  rcases List.sublist_singleton.mp inLast with rfl | rfl
  · left
    rw [split, List.append_nil]
    exact inText
  · right
    cases count with
    | zero => simp at split
    | succ fewer =>
        have present : pattern[fewer]? = some pattern[fewer] := List.getElem?_eq_getElem inside
        rw [List.take_add_one, present] at split
        obtain ⟨same, ends⟩ := List.append_inj' split rfl
        refine ⟨fewer, rfl, ?_, same ▸ inText⟩
        rw [present]
        simpa using ends

/-- Everything is matched exactly when the whole pattern is a subsequence. -/
theorem IsLongestMatch.length_le_iff {matched : Nat}
    (longest : IsLongestMatch pattern text matched) :
    pattern.length ≤ matched ↔ pattern.Sublist text := by
  obtain ⟨⟨inside, sublist⟩, bound⟩ := longest
  constructor
  · intro all
    rw [List.take_of_length_le all] at sublist
    exact sublist
  · intro whole
    apply bound
    refine ⟨le_rfl, ?_⟩
    rw [List.take_length]
    exact whole

/-! ### Greedy matching

Matching each element with its first occurrence finds a subsequence whenever there is one. -/

variable [DecidableEq α]

/-- One element of the text: if it is the next one of the pattern, one more is matched. -/
def matchNext (pattern : List α) (matched : Nat) (element : α) : Nat :=
  if pattern[matched]? = some element then matched + 1 else matched

def matchAll (pattern text : List α) : Nat :=
  text.foldl (matchNext pattern) 0

theorem matchAll_concat (pattern text : List α) (element : α) :
    matchAll pattern (text ++ [element]) =
      matchNext pattern (matchAll pattern text) element := by
  unfold matchAll
  rw [List.foldl_append, List.foldl_cons, List.foldl_nil]

theorem le_matchNext (pattern : List α) (matched : Nat) (element : α) :
    matched ≤ matchNext pattern matched element := by
  unfold matchNext
  split
  · exact Nat.le_succ matched
  · exact le_rfl

theorem IsLongestMatch.next {matched : Nat}
    (longest : IsLongestMatch pattern text matched) (element : α) :
    IsLongestMatch pattern (text ++ [element]) (matchNext pattern matched element) := by
  obtain ⟨⟨inside, sublist⟩, bound⟩ := longest
  constructor
  · unfold matchNext
    split
    · rename_i present
      refine ⟨(List.getElem?_eq_some_iff.mp present).1, ?_⟩
      rw [List.take_add_one, present]
      exact sublist.append (List.Sublist.refl _)
    · exact ⟨inside, sublist.trans (List.sublist_append_left _ _)⟩
  · rintro count ⟨countInside, countSublist⟩
    rcases take_sublist_concat countInside countSublist with earlier | ⟨fewer, rfl, present, rest⟩
    · exact (bound ⟨countInside, earlier⟩).trans (le_matchNext pattern matched element)
    · have le : fewer ≤ matched := bound ⟨by omega, rest⟩
      rcases Nat.eq_or_lt_of_le le with rfl | less
      · rw [matchNext, if_pos present]
      · exact Nat.le_trans less (le_matchNext pattern matched element)

/-- Greedy matching finds the longest prefix. -/
theorem isLongestMatch_matchAll (pattern text : List α) :
    IsLongestMatch pattern text (matchAll pattern text) := by
  induction text using List.reverseRecOn with
  | nil =>
      refine ⟨⟨Nat.zero_le _, List.Sublist.refl _⟩, ?_⟩
      rintro count ⟨inside, sublist⟩
      have empty := List.sublist_nil.mp sublist
      rw [List.take_eq_nil_iff] at empty
      rcases empty with rfl | rfl
      · exact le_rfl
      · exact inside
  | append_singleton text element ih =>
      rw [matchAll_concat]
      exact ih.next element

/-- More text matches no less. -/
theorem matchAll_mono (pattern text more : List α) :
    matchAll pattern text ≤ matchAll pattern (text ++ more) := by
  induction more using List.reverseRecOn with
  | nil => rw [List.append_nil]
  | append_singleton more element ih =>
      rw [← List.append_assoc, matchAll_concat]
      exact ih.trans (le_matchNext pattern _ element)

end ProstheticConscience
