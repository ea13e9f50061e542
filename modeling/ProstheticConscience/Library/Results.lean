/-
Module: ProstheticConscience.Library.Results
Purpose: Two fallible computations that fail together and succeed with related results, whatever
  their errors say; what all results of a fallible computation have in common; and lists that are
  folded or parsed item by item.
Trusted boundary: none
Main exports: ResultsAgree, ResultsAgree.bind, ResultsAgree.map, Yields, Yields.bind,
  foldlM_eq_error, mapM_eq_ok_iff
-/
import Mathlib.Logic.Basic

namespace ProstheticConscience

/-- Both computations failed, or both succeeded and their results are related. -/
inductive ResultsAgree {ε δ α β : Type*} (related : α → β → Prop) :
    Except ε α → Except δ β → Prop where
  | failed (first : ε) (second : δ) : ResultsAgree related (.error first) (.error second)
  | succeeded {first : α} {second : β} (results : related first second) :
      ResultsAgree related (.ok first) (.ok second)

universe u v

namespace ResultsAgree

variable {ε δ : Type*} {α γ : Type u} {β κ : Type v} {related : α → β → Prop} {first : Except ε α}
  {second : Except δ β}

theorem bind {related' : γ → κ → Prop} {firstNext : α → Except ε γ} {secondNext : β → Except δ κ}
    (agree : ResultsAgree related first second)
    (next : ∀ a b, related a b → ResultsAgree related' (firstNext a) (secondNext b)) :
    ResultsAgree related' (first >>= firstNext) (second >>= secondNext) := by
  cases agree with
  | failed error other => exact .failed error other
  | succeeded results => exact next _ _ results

/-- Computations with equal results go on with the same value. -/
theorem bind_eq {γ κ : Type u} {related' : γ → κ → Prop} {second : Except δ α}
    {firstNext : α → Except ε γ} {secondNext : α → Except δ κ}
    (agree : ResultsAgree Eq first second)
    (next : ∀ a, ResultsAgree related' (firstNext a) (secondNext a)) :
    ResultsAgree related' (first >>= firstNext) (second >>= secondNext) := by
  apply agree.bind
  intro a b same
  cases same
  exact next a

theorem map {related' : γ → κ → Prop} {f : α → γ} {g : β → κ}
    (agree : ResultsAgree related first second)
    (results : ∀ a b, related a b → related' (f a) (g b)) :
    ResultsAgree related' (first.map f) (second.map g) := by
  cases agree with
  | failed error other => exact .failed error other
  | succeeded same => exact .succeeded (results _ _ same)

end ResultsAgree

/-- Whatever a computation results in has a property. -/
def Yields {ε α : Type*} (property : α → Prop) (result : Except ε α) : Prop :=
  ∀ value, result = .ok value → property value

namespace Yields

theorem ok {ε α : Type*} {property : α → Prop} {value : α} (holds : property value) :
    Yields property (.ok value : Except ε α) := by
  intro other same
  cases same
  exact holds

theorem bind {ε : Type*} {α β : Type u} {property : β → Prop} {first : Except ε α}
    {next : α → Except ε β} (rest : ∀ value, Yields property (next value)) :
    Yields property (first >>= next) := by
  cases first with
  | error error =>
      intro value same
      cases same
  | ok value => exact rest value

end Yields

/-- A fold fails if one of its items makes it fail, whatever came before. -/
theorem foldlM_eq_error {ε : Type*} {α : Type*} {β : Type u} {f : β → α → Except ε β} {item : α}
    (refused : ∀ acc, ∃ error, f acc item = .error error) {items : List α} (inside : item ∈ items)
    (acc : β) : ∃ error, items.foldlM f acc = .error error := by
  induction items generalizing acc with
  | nil => exact absurd inside List.not_mem_nil
  | cons first rest ih =>
      rw [List.foldlM_cons]
      rcases List.mem_cons.mp inside with rfl | later
      · obtain ⟨error, fails⟩ := refused acc
        exact ⟨error, by rw [fails]; rfl⟩
      · cases step : f acc first with
        | error error => exact ⟨error, rfl⟩
        | ok next => exact ih later next

/-- Parsing a list item by item, with a parser that accepts exactly what a printer makes. -/
theorem mapM_eq_ok_iff {ε : Type*} {α β : Type u} {parse : α → Except ε β} {print : β → α}
    (exact : ∀ item value, parse item = .ok value ↔ item = print value) {items : List α}
    {values : List β} : items.mapM parse = .ok values ↔ items = values.map print := by
  induction items generalizing values with
  | nil => cases values <;> simp [pure, Except.pure]
  | cons item items ih =>
      rw [List.mapM_cons]
      cases first : parse item with
      | error error =>
          refine iff_of_false (fun same => by cases same) ?_
          intro same
          cases values with
          | nil => cases same
          | cons value values =>
              rw [(exact item value).mpr (List.cons.inj same).1] at first
              cases first
      | ok value =>
          obtain rfl := (exact item value).mp first
          cases rest : items.mapM parse with
          | error error =>
              refine iff_of_false (fun same => by cases same) ?_
              intro same
              cases values with
              | nil => cases same
              | cons other values =>
                  rw [ih.mpr (List.cons.inj same).2] at rest
                  cases rest
          | ok others =>
              obtain rfl := ih.mp rest
              have parsed : ∀ other, print value = print other ↔ value = other := by
                intro other
                rw [← exact, first, Except.ok.injEq]
              cases values with
              | nil => exact iff_of_false (fun same => by cases same) (fun same => by cases same)
              | cons other values =>
                  have later : (_ : Except ε (List β)) = .ok values ↔ _ = values.map print := ih
                  rw [rest, Except.ok.injEq] at later
                  simp [bind, Except.bind, pure, Except.pure, parsed, later]

end ProstheticConscience
