/-
Module: ProstheticConscience.Library.CallDialogue
Purpose: Dialogues in which an utterance can make calls, and the calls are answered one by one and
  in order before anything else is said; the automaton that recognizes them, and where such a
  dialogue can be cut.
Trusted boundary: none
Main exports: Utterance, Answered, Answered.map, advance, answered_iff, Answered.append_iff,
  Answered.of_speaks, Answered.before_speaks, Answered.dropLast_iff
-/
import Mathlib.Data.List.Basic

namespace ProstheticConscience

/-- An utterance with the calls it makes, or the answer to a call. -/
inductive Utterance (ι : Type*) where
  | speaks (calls : List ι)
  | answers (call : ι)
deriving DecidableEq, Repr

variable {ι κ : Type*}

/-- The same utterance with its calls renamed. -/
def Utterance.map (rename : ι → κ) : Utterance ι → Utterance κ
  | speaks calls => .speaks (calls.map rename)
  | answers call => .answers (rename call)

/-- Right behind each utterance stand the answers to its calls, and nothing else is an answer. -/
inductive Answered : List (Utterance ι) → Prop where
  | nil : Answered []
  | speaks (calls : List ι) {rest : List (Utterance ι)} (later : Answered rest) :
      Answered (.speaks calls :: (calls.map .answers ++ rest))

/-- An utterance with the answers to its calls. -/
theorem Answered.batch (calls : List ι) : Answered (.speaks calls :: calls.map .answers) := by
  simpa using Answered.speaks calls .nil

/-- Calls may be renamed. -/
theorem Answered.map (rename : ι → κ) {dialogue : List (Utterance ι)}
    (answered : Answered dialogue) : Answered (dialogue.map (.map rename)) := by
  induction answered with
  | nil => exact .nil
  | speaks calls later ih =>
      have renamed := ih.speaks (calls.map rename)
      simpa [Utterance.map, Function.comp_def] using renamed

variable [DecidableEq ι]

/-- The calls left to be answered after an utterance. -/
def advance : List ι → Utterance ι → Option (List ι)
  | [], .speaks calls => some calls
  | call :: rest, .answers answered => if answered = call then some rest else none
  | _, _ => none

theorem advance_answers (call : ι) (rest : List ι) :
    advance (call :: rest) (.answers call) = some rest :=
  if_pos rfl

/-- Only when no answer is due can something be said. -/
theorem advance_speaks {due calls next : List ι}
    (advances : advance due (.speaks calls) = some next) : due = [] ∧ next = calls := by
  cases due with
  | nil => exact ⟨rfl, (Option.some.inj advances).symm⟩
  | cons call rest => cases advances

/-- An utterance after which no answer is due: plain words, or the last answer. -/
theorem advance_settled {due : List ι} {utterance : Utterance ι}
    (advances : advance due utterance = some []) : due = [] ↔ utterance = .speaks [] := by
  constructor
  · rintro rfl
    cases utterance with
    | speaks calls => rw [(advance_speaks advances).2]
    | answers call => cases advances
  · rintro rfl
    exact (advance_speaks advances).1

/-- The automaton accepts from `calls` on what answers them and goes on as a dialogue. -/
theorem foldlM_advance_iff (calls : List ι) (dialogue : List (Utterance ι)) :
    dialogue.foldlM advance calls = some [] ↔
      ∃ rest, dialogue = calls.map .answers ++ rest ∧ Answered rest := by
  induction dialogue generalizing calls with
  | nil =>
      constructor
      · intro accepted
        cases accepted
        exact ⟨[], rfl, .nil⟩
      · rintro ⟨rest, split, _⟩
        cases calls with
        | nil => rfl
        | cons call others => cases split
  | cons utterance later ih =>
      cases calls with
      | nil =>
          cases utterance with
          | speaks calls =>
              have step : (Utterance.speaks calls :: later).foldlM advance [] =
                  later.foldlM advance calls := rfl
              rw [step, ih]
              constructor
              · rintro ⟨rest, rfl, answered⟩
                exact ⟨_, rfl, .speaks calls answered⟩
              · rintro ⟨_, rfl, answered⟩
                cases answered with
                | speaks _ answered => exact ⟨_, rfl, answered⟩
          | answers call =>
              constructor
              · intro accepted
                cases accepted
              · rintro ⟨_, rfl, answered⟩
                cases answered
      | cons call others =>
          cases utterance with
          | speaks calls =>
              constructor
              · intro accepted
                cases accepted
              · rintro ⟨rest, split, _⟩
                cases split
          | answers answered =>
              by_cases same : answered = call
              · subst same
                have step : (Utterance.answers answered :: later).foldlM advance
                    (answered :: others) = later.foldlM advance others := by
                  rw [List.foldlM_cons, advance_answers]
                  rfl
                rw [step, ih]
                simp
              · constructor
                · intro accepted
                  rw [List.foldlM_cons, advance, if_neg same] at accepted
                  cases accepted
                · rintro ⟨rest, split, _⟩
                  cases split
                  exact absurd rfl same

theorem answered_iff (dialogue : List (Utterance ι)) :
    Answered dialogue ↔ dialogue.foldlM advance [] = some [] := by
  rw [foldlM_advance_iff]
  simp

instance (dialogue : List (Utterance ι)) : Decidable (Answered dialogue) :=
  decidable_of_iff _ (answered_iff dialogue).symm

namespace Answered

variable {first second dialogue : List (Utterance ι)}

/-- Behind an answered dialogue another one can start. -/
theorem append_iff (answered : Answered first) : Answered (first ++ second) ↔ Answered second := by
  rw [answered_iff] at answered ⊢
  rw [List.foldlM_append, answered, answered_iff]
  rfl

theorem append (answered : Answered first) (later : Answered second) :
    Answered (first ++ second) :=
  answered.append_iff.mpr later

/-- A dialogue can be cut before an utterance. -/
theorem of_speaks {calls : List ι} (answered : Answered (first ++ .speaks calls :: second)) :
    Answered (.speaks calls :: second) := by
  rw [answered_iff, List.foldlM_append] at answered
  obtain ⟨due, _, accepted⟩ := Option.bind_eq_some_iff.mp answered
  rw [answered_iff]
  cases due with
  | nil => exact accepted
  | cons call rest => cases accepted

/-- What stands before an utterance is a dialogue by itself. -/
theorem before_speaks {calls : List ι} (answered : Answered (first ++ .speaks calls :: second)) :
    Answered first := by
  rw [answered_iff, List.foldlM_append] at answered
  obtain ⟨due, before, accepted⟩ := Option.bind_eq_some_iff.mp answered
  cases due with
  | nil => exact (answered_iff first).mpr before
  | cons call rest => cases accepted

/-- The last utterance can be taken back exactly when it is one of plain words. -/
theorem dropLast_iff {last : Utterance ι} (answered : Answered (dialogue ++ [last])) :
    Answered dialogue ↔ last = .speaks [] := by
  rw [answered_iff, List.foldlM_append] at answered
  obtain ⟨due, before, accepted⟩ := Option.bind_eq_some_iff.mp answered
  have advances : advance due last = some [] := by
    simpa using accepted
  rw [answered_iff, before, ← advance_settled advances, Option.some.injEq]

end Answered

end ProstheticConscience
