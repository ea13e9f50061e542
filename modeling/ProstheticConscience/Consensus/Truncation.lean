/-
Module: ProstheticConscience.Consensus.Truncation
Purpose: What truncation makes of a history: the longest end of it that fits the limit and starts at
  a clean boundary.  When the limit bites, and when older turns stay although it could.
Trusted boundary: none
Main exports: CleanBoundary, CleanCut, KeepsLongestCut, KeepsExchanges,
  truncation_keeps_conversations, currentTurn, currentTurn_truncateHistory, LimitKept, Cuttable,
  limitKept_iff
-/
import ProstheticConscience.Consensus.Dialogue
import Mathlib.Data.List.TakeWhile

namespace ProstheticConscience.Consensus.Conversation

/-! ### Clean boundaries -/

/-- A user message, or an assistant message without tool calls. -/
def CleanBoundary (message : Value) : Prop :=
  strMember message "role" = some "user" ∨
    strMember message "role" = some "assistant" ∧
      (((message.get "tool_calls").bind Value.asArray).getD []) = []

instance (message : Value) : Decidable (CleanBoundary message) :=
  inferInstanceAs (Decidable (_ ∨ _))

theorem startsCleanly_iff (message : Value) :
    startsCleanly message = true ↔ CleanBoundary message := by
  unfold startsCleanly CleanBoundary
  cases strMember message "role" with
  | none => simp
  | some role =>
      cases (message.get "tool_calls").bind Value.asArray with
      | none => simp
      | some calls => simp

theorem CleanBoundary.plain {message : Value} (clean : CleanBoundary message) :
    utterance message = .speaks [] :=
  utterance_of_startsCleanly ((startsCleanly_iff message).mpr clean)

theorem cleanBoundary_userMessage (content : String) : CleanBoundary (userMessage content) := by
  left
  simp [strMember, userMessage, Value.get_ofMembers, List.lookup_cons, Value.asStr]

/-- A message that makes a call or answers one is no boundary. -/
theorem not_cleanBoundary {message : Value} (busy : utterance message ≠ .speaks []) :
    ¬CleanBoundary message :=
  fun clean => busy clean.plain

/-! ### The longest end that fits

The source looks for a cut from the front of the last `max` messages on, and returns the whole
history when it finds none. The suffixes of a list are ordered by their length, so the first clean
cut is the longest clean end that fits. -/

/-- An end of the history that fits the limit and starts at a clean boundary. -/
structure CleanCut (history : List Value) (max : Nat) (kept : List Value) : Prop where
  suffix : kept <:+ history
  within : kept.length ≤ max
  clean : ∃ first rest, kept = first :: rest ∧ CleanBoundary first

/-- Dropping up to the first boundary leaves every end that starts at one. -/
theorem suffix_dropWhile {messages kept : List Value} {first : Value} {rest : List Value}
    (suffix : kept <:+ messages) (starts : kept = first :: rest) (clean : CleanBoundary first) :
    kept <:+ messages.dropWhile (!startsCleanly ·) := by
  induction messages with
  | nil =>
      rw [starts] at suffix
      exact absurd (List.suffix_nil.mp suffix) (List.cons_ne_nil _ _)
  | cons message later ih =>
      rw [List.dropWhile_cons]
      split
      · rename_i unclean
        apply ih
        rcases List.suffix_cons_iff.mp suffix with same | inner
        · -- the end is not everything, for it starts at a boundary
          have head : first = message := by
            rw [starts] at same
            exact (List.cons.inj same).1
          rw [head, ← startsCleanly_iff] at clean
          simp [clean] at unclean
        · exact inner
      · exact suffix

theorem truncateHistory_of_le {history : List Value} {max : Nat} (short : history.length ≤ max) :
    truncateHistory history max = history :=
  if_pos short

theorem truncateHistory_of_nothing {history : List Value} {max : Nat}
    (nothing : (history.drop (history.length - max)).dropWhile (!startsCleanly ·) = []) :
    truncateHistory history max = history := by
  unfold truncateHistory
  rw [nothing]
  exact ite_self history

theorem truncateHistory_of_found {history : List Value} {max : Nat} {first : Value}
    {rest : List Value} (long : max < history.length)
    (found : (history.drop (history.length - max)).dropWhile (!startsCleanly ·) = first :: rest) :
    truncateHistory history max = first :: rest := by
  unfold truncateHistory
  rw [if_neg (Nat.not_le.mpr long), found]

/-- Behind the excess, a cut is an end of what is searched for a boundary. -/
theorem CleanCut.suffix_searched {history kept : List Value} {max : Nat}
    (cut : CleanCut history max kept) :
    kept <:+ (history.drop (history.length - max)).dropWhile (!startsCleanly ·) := by
  obtain ⟨first, rest, starts, clean⟩ := cut.clean
  refine suffix_dropWhile ?_ starts clean
  apply List.suffix_of_suffix_length_le cut.suffix (List.drop_suffix _ _)
  have inside := cut.suffix.length_le
  have within := cut.within
  rw [List.length_drop]
  omega

/-- Where the search ends at a boundary, a cut is found. -/
theorem cleanCut_searched {history : List Value} {max : Nat} {first : Value} {rest : List Value}
    (found : (history.drop (history.length - max)).dropWhile (!startsCleanly ·) = first :: rest) :
    CleanCut history max (first :: rest) := by
  have suffix : (first :: rest) <:+ history.drop (history.length - max) := by
    rw [← found]
    exact List.dropWhile_suffix _
  constructor
  · exact suffix.trans (List.drop_suffix _ _)
  · have short := suffix.length_le
    rw [List.length_drop] at short
    omega
  · refine ⟨first, rest, rfl, ?_⟩
    have stopped := List.head_dropWhile_not (!startsCleanly ·)
      (l := history.drop (history.length - max)) (by rw [found]; exact List.cons_ne_nil _ _)
    rw [← startsCleanly_iff]
    simpa [found] using stopped

/-- A history that fits is kept.  Of a longer one the longest clean cut is kept, and everything when
there is none. -/
structure KeepsLongestCut (history : List Value) (max : Nat) (result : List Value) : Prop where
  fits : history.length ≤ max → result = history
  longest : max < history.length → (∃ kept, CleanCut history max kept) →
    CleanCut history max result ∧ ∀ kept, CleanCut history max kept → kept.length ≤ result.length
  whole : max < history.length → (¬∃ kept, CleanCut history max kept) → result = history

theorem truncateHistory_keepsLongestCut (history : List Value) (max : Nat) :
    KeepsLongestCut history max (truncateHistory history max) := by
  cases found : (history.drop (history.length - max)).dropWhile (!startsCleanly ·) with
  | nil =>
      constructor
      · exact truncateHistory_of_le
      · rintro _ ⟨kept, cut⟩
        obtain ⟨first, rest, starts, _⟩ := cut.clean
        have nothing := cut.suffix_searched
        rw [found, starts] at nothing
        exact absurd (List.suffix_nil.mp nothing) (List.cons_ne_nil _ _)
      · intro _ _
        exact truncateHistory_of_nothing found
  | cons first rest =>
      constructor
      · exact truncateHistory_of_le
      · intro long _
        rw [truncateHistory_of_found long found]
        constructor
        · exact cleanCut_searched found
        · intro other cut
          have inside := cut.suffix_searched
          rw [found] at inside
          exact inside.length_le
      · intro _ none
        exact absurd ⟨_, cleanCut_searched found⟩ none

/-! ### Whole exchanges -/

/-- A dialogue is cut between its exchanges: both parts are dialogues, and what is kept does not
start with an answer. -/
structure KeepsExchanges (history result : List Value) : Prop where
  wellFormed : WellFormed result
  cut : ∃ dropped, dropped ++ result = history ∧ WellFormed dropped
  start : ∀ first rest, result = first :: rest → strMember first "role" ≠ some "tool"

/-- No dialogue starts with a tool message. -/
theorem WellFormed.first_not_tool {first : Value} {rest : List Value}
    (wellFormed : WellFormed (first :: rest)) : strMember first "role" ≠ some "tool" := by
  intro tool
  have answers : utterance first = .answers (first.get "tool_call_id") := by
    simp [utterance, tool]
  unfold WellFormed at wellFormed
  rw [List.map_cons, answers] at wellFormed
  cases wellFormed

theorem keepsExchanges_truncateHistory {history : List Value} (wellFormed : WellFormed history)
    (max : Nat) : KeepsExchanges history (truncateHistory history max) := by
  have kept : WellFormed (truncateHistory history max) := wellFormed.truncateHistory max
  constructor
  · exact kept
  · rcases truncateHistory_cases history max with
      same | ⟨before, message, after, split, plain, cut⟩
    · exact ⟨[], same, .nil⟩
    · refine ⟨before, by rw [cut, split], ?_⟩
      unfold WellFormed at wellFormed ⊢
      rw [split, List.map_append, List.map_cons, plain] at wellFormed
      exact wellFormed.before_speaks
  · intro first rest starts
    rw [starts] at kept
    exact kept.first_not_tool

theorem truncateHistory_idempotent (history : List Value) (max : Nat) :
    truncateHistory (truncateHistory history max) max = truncateHistory history max := by
  have keeps := truncateHistory_keepsLongestCut history max
  rcases Nat.lt_or_ge max history.length with long | short
  · by_cases cuttable : ∃ kept, CleanCut history max kept
    · exact truncateHistory_of_le (keeps.longest long cuttable).1.within
    · rw [keeps.whole long cuttable]
      exact keeps.whole long cuttable
  · rw [keeps.fits short]
    exact keeps.fits short

/-- Truncation keeps the longest clean cut, never cuts into an exchange of a dialogue, and has
nothing left to do the second time. -/
theorem truncation_keeps_conversations (history : List Value) (max : Nat) :
    KeepsLongestCut history max (truncateHistory history max) ∧
    (WellFormed history → KeepsExchanges history (truncateHistory history max)) ∧
    truncateHistory (truncateHistory history max) max = truncateHistory history max :=
  ⟨truncateHistory_keepsLongestCut history max,
    fun wellFormed => keepsExchanges_truncateHistory wellFormed max,
    truncateHistory_idempotent history max⟩

/-- A call to `show_drafts` in a history. -/
def draftsCall : RawToolCall :=
  ⟨"call_1", "function", ⟨"show_drafts", "\x7b\x7d"⟩⟩

/-- The cut falls behind the exchange, of which the limit would keep the answer. -/
theorem truncation_drops_exchange :
    truncateHistory [userMessage "Any drafts?", assistantValue none [draftsCall],
      toolResultMessage "call_1" "[]", userMessage "Thanks."] 2 = [userMessage "Thanks."] ∧
    KeepsExchanges [userMessage "Any drafts?", assistantValue none [draftsCall],
      toolResultMessage "call_1" "[]", userMessage "Thanks."]
      (truncateHistory [userMessage "Any drafts?", assistantValue none [draftsCall],
        toolResultMessage "call_1" "[]", userMessage "Thanks."] 2) :=
  ⟨by decide +kernel, (truncation_keeps_conversations _ 2).2.1 (by decide)⟩

/-! ### The current turn

The current turn is what a cut leaves at least: the messages from the last clean boundary on. A
limit that is smaller than the turn cannot be kept. -/

/-- The messages from the last clean boundary on; all of them when there is none. -/
def currentTurn : List Value → List Value
  | [] => []
  | message :: later =>
      if ∃ boundary ∈ later, CleanBoundary boundary then currentTurn later else message :: later

theorem currentTurn_cons_of_boundary (message : Value) {later : List Value}
    (boundary : ∃ boundary ∈ later, CleanBoundary boundary) :
    currentTurn (message :: later) = currentTurn later :=
  if_pos boundary

theorem currentTurn_cons (message : Value) {later : List Value}
    (busy : ∀ other ∈ later, ¬CleanBoundary other) :
    currentTurn (message :: later) = message :: later := by
  rw [currentTurn, if_neg]
  rintro ⟨boundary, member, clean⟩
  exact busy boundary member clean

theorem currentTurn_suffix (history : List Value) : currentTurn history <:+ history := by
  induction history with
  | nil => exact List.suffix_rfl
  | cons message later ih =>
      rw [currentTurn]
      split
      · exact ih.trans (List.suffix_cons message later)
      · exact List.suffix_rfl

/-- What stands before a boundary is not in the current turn. -/
theorem currentTurn_append_of_boundary (earlier : List Value) {kept : List Value}
    (boundary : ∃ boundary ∈ kept, CleanBoundary boundary) :
    currentTurn (earlier ++ kept) = currentTurn kept := by
  induction earlier with
  | nil => rfl
  | cons message later ih =>
      rw [List.cons_append, currentTurn_cons_of_boundary, ih]
      obtain ⟨boundary, member, clean⟩ := boundary
      exact ⟨boundary, List.mem_append_right later member, clean⟩

/-- A turn grows by messages that are no boundaries. -/
theorem currentTurn_append {history : List Value} (nonempty : history ≠ []) {later : List Value}
    (busy : ∀ message ∈ later, ¬CleanBoundary message) :
    currentTurn (history ++ later) = currentTurn history ++ later := by
  induction history with
  | nil => exact absurd rfl nonempty
  | cons message rest ih =>
      by_cases boundary : ∃ boundary ∈ rest, CleanBoundary boundary
      · have grown : ∃ boundary ∈ rest ++ later, CleanBoundary boundary := by
          obtain ⟨found, member, clean⟩ := boundary
          exact ⟨found, List.mem_append_left later member, clean⟩
        rw [List.cons_append, currentTurn_cons_of_boundary message grown,
          currentTurn_cons_of_boundary message boundary]
        apply ih
        rintro rfl
        obtain ⟨found, member, _⟩ := boundary
        cases member
      · have quiet : ∀ other ∈ rest ++ later, ¬CleanBoundary other := by
          intro other member clean
          rcases List.mem_append.mp member with old | new
          · exact boundary ⟨other, old, clean⟩
          · exact busy other new clean
        rw [List.cons_append, currentTurn_cons message quiet, currentTurn_cons, List.cons_append]
        intro other member clean
        exact boundary ⟨other, member, clean⟩

theorem CleanCut.boundary {history kept : List Value} {max : Nat}
    (cut : CleanCut history max kept) : ∃ boundary ∈ kept, CleanBoundary boundary := by
  obtain ⟨first, rest, starts, clean⟩ := cut.clean
  exact ⟨first, starts ▸ List.mem_cons_self, clean⟩

/-- Truncation keeps a history whole, or keeps a clean cut of it. -/
theorem truncateHistory_whole_or_cut (history : List Value) (max : Nat) :
    truncateHistory history max = history ∨
      CleanCut history max (truncateHistory history max) := by
  have keeps := truncateHistory_keepsLongestCut history max
  rcases Nat.lt_or_ge max history.length with long | short
  · by_cases cuttable : ∃ kept, CleanCut history max kept
    · exact .inr (keeps.longest long cuttable).1
    · exact .inl (keeps.whole long cuttable)
  · exact .inl (keeps.fits short)

/-- Truncation does not cut into the current turn. -/
theorem currentTurn_truncateHistory (history : List Value) (max : Nat) :
    currentTurn (truncateHistory history max) = currentTurn history := by
  rcases truncateHistory_whole_or_cut history max with whole | cut
  · rw [whole]
  · obtain ⟨dropped, joined⟩ := cut.suffix
    rw [← currentTurn_append_of_boundary dropped cut.boundary, joined]

/-! ### When the limit is kept -/

/-- At most `max` messages are left, or a current turn that is longer than that. -/
def LimitKept (history : List Value) (max : Nat) (result : List Value) : Prop :=
  result.length ≤ max ∨
    (∃ boundary ∈ history, CleanBoundary boundary) ∧ max < (currentTurn history).length ∧
      result = currentTurn history

/-- The history fits, or there is a clean boundary among its last `max` messages, or its only clean
boundary is the first message. -/
def Cuttable (history : List Value) (max : Nat) : Prop :=
  history.length ≤ max ∨
    (∃ boundary ∈ history.drop (history.length - max), CleanBoundary boundary) ∨
    ∃ first rest, history = first :: rest ∧ CleanBoundary first ∧
      ∀ message ∈ rest, ¬CleanBoundary message

/-- A cut exists exactly when one of the last `max` messages is a boundary. -/
theorem exists_cleanCut_iff (history : List Value) (max : Nat) :
    (∃ kept, CleanCut history max kept) ↔
      ∃ boundary ∈ history.drop (history.length - max), CleanBoundary boundary := by
  constructor
  · rintro ⟨kept, cut⟩
    obtain ⟨first, member, clean⟩ := cut.boundary
    have searched := cut.suffix_searched.trans (List.dropWhile_suffix _)
    exact ⟨first, searched.subset member, clean⟩
  · rintro ⟨boundary, member, clean⟩
    cases found : (history.drop (history.length - max)).dropWhile (!startsCleanly ·) with
    | nil =>
        have unclean := List.dropWhile_eq_nil_iff.mp found boundary member
        rw [← startsCleanly_iff] at clean
        simp [clean] at unclean
    | cons first rest => exact ⟨_, cleanCut_searched found⟩

/-- The limit is kept exactly on the histories that can be cut there. -/
theorem limitKept_iff (history : List Value) (max : Nat) :
    LimitKept history max (truncateHistory history max) ↔ Cuttable history max := by
  have keeps := truncateHistory_keepsLongestCut history max
  unfold LimitKept Cuttable
  rw [← exists_cleanCut_iff]
  constructor
  · intro kept
    by_cases short : history.length ≤ max
    · exact .inl short
    · by_cases cuttable : ∃ kept, CleanCut history max kept
      · exact .inr (.inl cuttable)
      · -- everything is kept, which is right only for a single turn
        right
        right
        rw [keeps.whole (Nat.lt_of_not_le short) cuttable] at kept
        obtain ⟨⟨boundary, member, clean⟩, _, single⟩ := kept.resolve_left short
        cases history with
        | nil => cases member
        | cons first rest =>
            have quiet : ∀ message ∈ rest, ¬CleanBoundary message := by
              intro message inside other
              rw [currentTurn_cons_of_boundary first ⟨message, inside, other⟩] at single
              have shorter := (currentTurn_suffix rest).length_le
              rw [← single, List.length_cons] at shorter
              omega
            refine ⟨first, rest, rfl, ?_, quiet⟩
            rcases List.mem_cons.mp member with rfl | inside
            · exact clean
            · exact absurd clean (quiet boundary inside)
  · rintro (short | cuttable | ⟨first, rest, rfl, clean, quiet⟩)
    · left
      rw [keeps.fits short]
      exact short
    · left
      rcases Nat.lt_or_ge max history.length with long | short
      · exact (keeps.longest long cuttable).1.within
      · rw [keeps.fits short]
        exact short
    · rcases truncateHistory_whole_or_cut (first :: rest) max with whole | cut
      · rw [whole, currentTurn_cons first quiet]
        rcases Nat.lt_or_ge max (first :: rest).length with long | short
        · exact .inr ⟨⟨first, List.mem_cons_self, clean⟩, long, rfl⟩
        · exact .inl short
      · exact .inl cut.within

/-- An earlier turn, and a current one that is longer than a limit of two messages. -/
def twoTurns : List Value :=
  [userMessage "Hello.", assistantValue (some "Hi.") [], userMessage "Any drafts?",
    assistantValue none [draftsCall], toolResultMessage "call_1" "[]"]

/-- The earlier turn is kept along with the current one. -/
theorem limit_keeps_earlier_turn :
    ¬∀ (history : List Value) (max : Nat), WellFormed history → 1 ≤ max →
      LimitKept history max (truncateHistory history max) := by
  intro kept
  have limited : LimitKept twoTurns 2 (truncateHistory twoTurns 2) :=
    kept twoTurns 2 (by decide) (by decide)
  have everything : truncateHistory twoTurns 2 = twoTurns := by decide +kernel
  have turn : (currentTurn twoTurns).length = 3 := by decide +kernel
  rw [everything] at limited
  rcases limited with short | ⟨_, _, single⟩
  · exact absurd short (by decide)
  · rw [← single] at turn
    exact absurd turn (by decide)

theorem currentTurn_ne_nil {history : List Value} (nonempty : history ≠ []) :
    currentTurn history ≠ [] := by
  induction history with
  | nil => exact absurd rfl nonempty
  | cons message later ih =>
      rw [currentTurn]
      split
      · rename_i boundary
        apply ih
        rintro rfl
        obtain ⟨found, member, _⟩ := boundary
        cases member
      · exact List.cons_ne_nil _ _

/-- With the system message, what is left is bounded by the limit and the current turn. -/
theorem Cuttable.request_le {history : List Value} {max : Nat} (positive : 1 ≤ max)
    (cuttable : Cuttable history max) :
    (truncateHistory history max).length + 1 ≤ max + (currentTurn history).length := by
  cases history with
  | nil =>
      rw [truncateHistory_of_le (Nat.zero_le max)]
      exact Nat.le_add_right_of_le positive
  | cons message later =>
      have turn : 0 < (currentTurn (message :: later)).length :=
        List.length_pos_iff.mpr (currentTurn_ne_nil (List.cons_ne_nil _ _))
      rcases (limitKept_iff (message :: later) max).mpr cuttable with within | ⟨_, _, single⟩
      · omega
      · rw [single]
        omega

end ProstheticConscience.Consensus.Conversation
