/-
Module: ProstheticConscience.Consensus.SubmissionProgress
Purpose: The progress of a pending submission: it is the longest prefix of the submitted payloads
  that is a subsequence of what was applied of the session log, whatever the order of delivery.
Trusted boundary: none
Main exports: EntryBuffer.between, EntryBuffer.HoldsBack, EntryBuffer.holdsBack_of_execution,
  EntryBuffer.Tracks, EntryBuffer.appliedBetween, EntryBuffer.receiveResults,
  EntryBuffer.ConfirmedByLog, EntryBuffer.submission_confirmed_by_log
-/
import ProstheticConscience.Consensus.LogCursor
import ProstheticConscience.Library.Subsequence
import Mathlib.Data.List.Infix

namespace ProstheticConscience.Consensus.EntryBuffer

variable {parseEntry : Value → Except String Entry} {log : List Value}

/-! ### The log between two cursors -/

/-- The payloads of the log from one index up to another. -/
def between (log : List Value) (start stop : Nat) : List Value :=
  (log.take stop).drop start

/-- Between an index and itself there is nothing. -/
theorem between_self (log : List Value) (start : Nat) : between log start start = [] := by
  apply List.drop_eq_nil_of_le
  exact List.length_take_le start log

/-- The part of the log up to the next index ends with the payload of that index. -/
theorem between_succ {start stop : Nat} {payload : Value} (ordered : start ≤ stop)
    (inLog : log[stop]? = some payload) :
    between log start (stop + 1) = between log start stop ++ [payload] := by
  have inside : stop < log.length := (List.getElem?_eq_some_iff.mp inLog).1
  unfold between
  rw [List.take_add_one, inLog]
  apply List.drop_append_of_le_length
  rw [List.length_take]
  omega

/-- A part of the log from the same start is a prefix of a longer one. -/
theorem between_prefix (log : List Value) (start : Nat) {stop further : Nat} (le : stop ≤ further) :
    between log start stop <+: between log start further :=
  (List.take_prefix_take_left le).drop start

/-! ### Entries held back

What the buffer holds back lies ahead of the cursor, so that the entry applied next is the log's and
nothing is applied twice. -/

/-- What is held back was delivered from the session log. -/
def HoldsBack (log : List Value) (buffer : EntryBuffer) : Prop :=
  ∀ index payload, buffer.bufferedEntries.lookup index = some payload →
    log[index]? = some payload

/-- An entry that is received stands in the session log at its index. -/
def DeliversFrom (log : List Value) : BufferOp → Prop
  | .receive index payload => log[index]? = some payload
  | _ => True

/-- Taking out the entry whose turn it is leaves only entries ahead of the cursor. -/
theorem HoldsBack.removeNext {buffer : EntryBuffer} (heldBack : HoldsBack log buffer) :
    HoldsBack log buffer.removeNext := by
  intro index payload found
  rw [EntryBuffer.removeNext, AssocMap.lookup_without] at found
  split at found
  · cases found
  · exact heldBack index payload found

/-- Applying an entry moves the cursor by one and leaves what is held back ahead of it. -/
theorem HoldsBack.applyNext {buffer : EntryBuffer} (heldBack : HoldsBack log buffer)
    (payload : Value) : HoldsBack log (applyNext parseEntry buffer payload).2 := by
  intro index held found
  rw [applyNext_bufferedEntries] at found
  exact heldBack index held found

/-- The drain loop applies held-back entries as long as they connect; by the recursion of the loop.
-/
theorem HoldsBack.drainBuffered {buffer : EntryBuffer} (heldBack : HoldsBack log buffer) :
    HoldsBack log (drainBuffered parseEntry buffer).2 := by
  apply drainBuffered_induction parseEntry (I := HoldsBack log) _ buffer heldBack
  intro earlier payload heldBack _
  exact heldBack.removeNext.applyNext payload

/-- Whatever the log sends, only entries of the log ahead of the cursor are held back. -/
theorem HoldsBack.receive {buffer : EntryBuffer} (heldBack : HoldsBack log buffer) {index : Nat}
    {payload : Value} (inLog : log[index]? = some payload) :
    HoldsBack log (applyOrBufferEntry parseEntry buffer index payload).2 := by
  unfold applyOrBufferEntry
  split
  · exact heldBack
  · split
    · intro other held found
      rw [AssocMap.lookup_update] at found
      split at found
      · rename_i same
        cases found
        exact same ▸ inLog
      · exact heldBack other held found
    · exact (heldBack.applyNext payload).drainBuffered

/-- What does not touch the cursor and the held-back entries keeps the invariant. -/
theorem HoldsBack.of_sameCursor {before after : EntryBuffer} (heldBack : HoldsBack log before)
    (same : SameCursor before after) : HoldsBack log after := by
  intro index payload found
  rw [same.buffered] at found
  exact heldBack index payload found

/-- A buffer that is only ever given entries of the session log holds such entries back. -/
theorem holdsBack_of_execution {participant : String} {trace : List BufferOp}
    {buffer : EntryBuffer}
    (run : ((bufferSystem parseEntry participant).guarded fun _ op => DeliversFrom log op).Execution
      trace buffer) : HoldsBack log buffer := by
  apply run.reachable_invariant (I := HoldsBack log)
  · rintro _ rfl index payload found
    simp [EntryBuffer.new] at found
  · rintro before op after heldBack ⟨step, delivered⟩
    cases op with
    | draft op =>
        rw [step.2]
        exact heldBack
    | receive index payload =>
        obtain rfl := step
        exact heldBack.receive delivered
    | «begin» nextClaimId =>
        obtain rfl := step
        exact heldBack.of_sameCursor (beginSubmission_sameCursor before nextClaimId)
    | finish =>
        obtain rfl := step
        exact heldBack.of_sameCursor (finishSubmission_sameCursor before)

/-! ### The submission along the log

`Tracks` says that a submission has been matched, greedily and in order, against exactly the part of
the log that was applied since it began. Greedy matching finds a subsequence whenever there is one,
which is why other participants' payloads in between do no harm. -/

/-- Noting a payload is one step of the matching of payloads against the log. -/
theorem note_eq (pending : PendingSubmission) (payload : Value) :
    pending.note payload =
      { pending with nextEntry := matchNext pending.payloads pending.nextEntry payload } := by
  unfold PendingSubmission.note matchNext
  split <;> rfl

/-- A submission that began at a cursor noted the log from there on, up to the cursor of the
buffer. -/
structure Tracks (log : List Value) (start : Nat) (pending : PendingSubmission)
    (buffer : EntryBuffer) : Prop where
  heldBack : HoldsBack log buffer
  ordered : start ≤ buffer.nextIndex
  noted : buffer.pendingSubmission = some { pending with
    nextEntry := matchAll pending.payloads (between log start buffer.nextIndex) }

namespace Tracks

variable {start : Nat} {pending : PendingSubmission} {buffer : EntryBuffer}

/-- Taking an entry out of the held-back ones does not touch the submission. -/
theorem removeNext (tracks : Tracks log start pending buffer) :
    Tracks log start pending buffer.removeNext :=
  ⟨tracks.heldBack.removeNext, tracks.ordered, tracks.noted⟩

/-- Applying the next entry of the log notes it. -/
theorem applyNext (tracks : Tracks log start pending buffer) {payload : Value}
    (inLog : log[buffer.nextIndex]? = some payload) :
    Tracks log start pending (applyNext parseEntry buffer payload).2 where
  heldBack := tracks.heldBack.applyNext payload
  ordered := by
    rw [applyNext_nextIndex]
    exact Nat.le_succ_of_le tracks.ordered
  noted := by
    rw [applyNext_pendingSubmission, tracks.noted, Option.map_some, note_eq, applyNext_nextIndex,
      between_succ tracks.ordered inLog, matchAll_concat]

/-- Along the drain loop the submission is matched against exactly the part of the log that is
applied. -/
theorem drainBuffered (tracks : Tracks log start pending buffer) :
    Tracks log start pending (drainBuffered parseEntry buffer).2 := by
  apply drainBuffered_induction parseEntry (I := Tracks log start pending) _ buffer tracks
  intro earlier payload tracks found
  exact tracks.removeNext.applyNext (tracks.heldBack _ _ found)

/-- One delivery matches the submission against what it makes applicable. -/
theorem receive (tracks : Tracks log start pending buffer) {index : Nat} {payload : Value}
    (inLog : log[index]? = some payload) :
    Tracks log start pending (applyOrBufferEntry parseEntry buffer index payload).2 := by
  have heldBack : HoldsBack log (applyOrBufferEntry parseEntry buffer index payload).2 :=
    tracks.heldBack.receive inLog
  unfold applyOrBufferEntry at heldBack ⊢
  split
  · exact tracks
  · rename_i notLate
    rw [if_neg notLate] at heldBack
    split
    · rename_i ahead
      rw [if_pos ahead] at heldBack
      exact ⟨heldBack, tracks.ordered, tracks.noted⟩
    · rename_i notAhead
      obtain rfl : index = buffer.nextIndex := by omega
      exact (tracks.applyNext inLog).drainBuffered

/-- Over any deliveries the submission is matched against the part of the log that was applied since
it began. -/
theorem receiveAll (tracks : Tracks log start pending buffer) {received : List (Nat × Value)}
    (inLog : ∀ entry ∈ received, log[entry.1]? = some entry.2) :
    Tracks log start pending (receiveAll parseEntry buffer received) := by
  induction received generalizing buffer with
  | nil => exact tracks
  | cons entry rest ih =>
      apply ih (tracks.receive (inLog entry List.mem_cons_self))
      exact fun later member => inLog later (List.mem_cons_of_mem _ member)

end Tracks

/-! ### What was applied -/

/-- What comes of a payload when it is applied. -/
def applyResult (parseEntry : Value → Except String Entry) (payload : Value) : ApplyResult :=
  match parseEntry payload with
  | .ok entry => .applied entry
  | .error error => .skipped error

/-- The results of applying the log from one index up to another. -/
def appliedBetween (parseEntry : Value → Except String Entry) (log : List Value)
    (start stop : Nat) : List (Nat × ApplyResult) :=
  (List.range' start (stop - start)).filterMap fun index =>
    (log[index]?).map fun payload => (index, applyResult parseEntry payload)

/-- The results of a sequence of deliveries, one after the other. -/
def receiveResults (parseEntry : Value → Except String Entry) :
    EntryBuffer → List (Nat × Value) → List (Nat × ApplyResult)
  | _, [] => []
  | buffer, entry :: rest =>
      (applyOrBufferEntry parseEntry buffer entry.1 entry.2).1 ++
        receiveResults parseEntry (applyOrBufferEntry parseEntry buffer entry.1 entry.2).2 rest

/-- An applied payload is reported under its index with what came of it. -/
theorem applyNext_result (buffer : EntryBuffer) (payload : Value) :
    (applyNext parseEntry buffer payload).1 =
      (buffer.nextIndex, applyResult parseEntry payload) := by
  unfold applyNext applyPayload applyResult
  dsimp only
  cases parseEntry payload <;> rfl

/-- Without a move of the cursor nothing was applied. -/
theorem appliedBetween_self (start : Nat) : appliedBetween parseEntry log start start = [] := by
  simp [appliedBetween]

/-- The report of a part of the log begins with its first payload. -/
theorem appliedBetween_cons {start stop : Nat} {payload : Value} (before : start < stop)
    (inLog : log[start]? = some payload) :
    appliedBetween parseEntry log start stop =
      (start, applyResult parseEntry payload) ::
        appliedBetween parseEntry log (start + 1) stop := by
  have count : stop - start = (stop - (start + 1)) + 1 := by omega
  unfold appliedBetween
  rw [count, List.range'_succ, List.filterMap_cons, inLog]
  rfl

/-- Reports of consecutive parts of the log add up. -/
theorem appliedBetween_append {start middle stop : Nat} (first : start ≤ middle)
    (second : middle ≤ stop) :
    appliedBetween parseEntry log start stop =
      appliedBetween parseEntry log start middle ++
        appliedBetween parseEntry log middle stop := by
  have count : stop - start = (middle - start) + (stop - middle) := by omega
  have meets : start + (middle - start) = middle := by omega
  unfold appliedBetween
  rw [count, ← List.range'_append_1, List.filterMap_append, meets]

/-- The drain loop never moves the cursor back. -/
theorem nextIndex_le_drainBuffered (parseEntry : Value → Except String Entry)
    (buffer : EntryBuffer) :
    buffer.nextIndex ≤ (drainBuffered parseEntry buffer).2.nextIndex := by
  apply drainBuffered_induction parseEntry (I := fun later => buffer.nextIndex ≤ later.nextIndex)
    _ buffer le_rfl
  intro earlier payload le _
  rw [applyNext_nextIndex]
  exact Nat.le_succ_of_le le

/-- The drain loop reports what it applied, in the order of the log. -/
theorem drainBuffered_results {buffer : EntryBuffer} (heldBack : HoldsBack log buffer) :
    (drainBuffered parseEntry buffer).1 = appliedBetween parseEntry log buffer.nextIndex
      (drainBuffered parseEntry buffer).2.nextIndex := by
  induction buffer using drainBuffered.induct parseEntry with
  | case1 buffer missing =>
      rw [drainBuffered_none parseEntry missing, appliedBetween_self]
  | case2 buffer payload found applied ih =>
      have inLog := heldBack _ _ found
      have further := nextIndex_le_drainBuffered parseEntry applied.2
      have next : applied.2.nextIndex = buffer.nextIndex + 1 :=
        applyNext_nextIndex buffer.removeNext payload
      rw [drainBuffered_some parseEntry found, applyNext_result]
      dsimp only
      rw [ih (heldBack.removeNext.applyNext payload), next]
      rw [next] at further
      exact (appliedBetween_cons further inLog).symm

/-- A delivery applies the log from the cursor before it up to the cursor after it. -/
theorem receive_results {buffer : EntryBuffer} (heldBack : HoldsBack log buffer) {index : Nat}
    {payload : Value} (inLog : log[index]? = some payload) :
    (applyOrBufferEntry parseEntry buffer index payload).1 =
      appliedBetween parseEntry log buffer.nextIndex
        (applyOrBufferEntry parseEntry buffer index payload).2.nextIndex := by
  unfold applyOrBufferEntry
  split
  · exact (appliedBetween_self _).symm
  · split
    · exact (appliedBetween_self _).symm
    · rename_i notLate notAhead
      obtain rfl : index = buffer.nextIndex := by omega
      have further := nextIndex_le_drainBuffered parseEntry
        (EntryBuffer.applyNext parseEntry buffer payload).2
      rw [applyNext_nextIndex] at further
      dsimp only
      rw [applyNext_result, drainBuffered_results (heldBack.applyNext payload),
        applyNext_nextIndex, appliedBetween_cons further inLog]

/-- A delivery never moves the cursor back. -/
theorem nextIndex_le_receive (buffer : EntryBuffer) (index : Nat) (payload : Value) :
    buffer.nextIndex ≤ (applyOrBufferEntry parseEntry buffer index payload).2.nextIndex := by
  unfold applyOrBufferEntry
  split
  · exact le_rfl
  · split
    · exact le_rfl
    · apply Nat.le_trans _ (nextIndex_le_drainBuffered parseEntry _)
      rw [applyNext_nextIndex]
      exact Nat.le_succ _

/-- No deliveries move the cursor back. -/
theorem nextIndex_le_receiveAll (buffer : EntryBuffer) (received : List (Nat × Value)) :
    buffer.nextIndex ≤ (receiveAll parseEntry buffer received).nextIndex := by
  induction received generalizing buffer with
  | nil => exact le_rfl
  | cons entry rest ih => exact (nextIndex_le_receive buffer entry.1 entry.2).trans (ih _)

/-- The reports of any deliveries, put together, are those of the log between the two positions of
the cursor: nothing is reported twice, left out or out of order. -/
theorem receiveAll_results {buffer : EntryBuffer} (heldBack : HoldsBack log buffer)
    {received : List (Nat × Value)}
    (inLog : ∀ entry ∈ received, log[entry.1]? = some entry.2) :
    receiveResults parseEntry buffer received =
      appliedBetween parseEntry log buffer.nextIndex
        (receiveAll parseEntry buffer received).nextIndex := by
  induction received generalizing buffer with
  | nil => exact (appliedBetween_self _).symm
  | cons entry rest ih =>
      have now := inLog entry List.mem_cons_self
      have stillHeld : HoldsBack log
          (applyOrBufferEntry parseEntry buffer entry.1 entry.2).2 := heldBack.receive now
      have later := ih stillHeld fun other member =>
        inLog other (List.mem_cons_of_mem _ member)
      rw [receiveResults, receive_results heldBack now, later]
      exact (appliedBetween_append (nextIndex_le_receive buffer entry.1 entry.2)
        (nextIndex_le_receiveAll _ rest)).symm

/-! ### Progress -/

/-- What deliveries of the log make of a submission that began at a cursor: the log from there on
was applied, the submission counts the longest prefix of its payloads that is a subsequence of it,
and it is complete when they all are. -/
structure ConfirmedByLog (parseEntry : Value → Except String Entry) (log : List Value)
    (begun : EntryBuffer) (pending : PendingSubmission) (received : List (Nat × Value))
    (now : PendingSubmission) : Prop where
  applied : receiveResults parseEntry begun received =
    appliedBetween parseEntry log begun.nextIndex (receiveAll parseEntry begun received).nextIndex
  stands : (receiveAll parseEntry begun received).pendingSubmission = some now
  payloads : now.payloads = pending.payloads
  longest : IsLongestMatch pending.payloads
    (between log begun.nextIndex (receiveAll parseEntry begun received).nextIndex) now.nextEntry
  complete : (receiveAll parseEntry begun received).isSubmissionComplete = true ↔
    pending.payloads.Sublist
      (between log begun.nextIndex (receiveAll parseEntry begun received).nextIndex)

section Begun

variable {buffer begun : EntryBuffer} {nextClaimId : Nat → ClaimId} {pending : PendingSubmission}

/-- A submission that has just begun has been matched against nothing yet. -/
theorem tracks_beginSubmission
    (started : buffer.beginSubmission nextClaimId = (.ok (some pending), begun))
    (heldBack : HoldsBack log buffer) : Tracks log begun.nextIndex pending begun := by
  have same := beginSubmission_sameCursor buffer nextClaimId
  have fresh := beginSubmission_pendingSubmission buffer nextClaimId
  obtain ⟨_, rfl⟩ := beginSubmission_pending started
  rw [started] at same
  constructor
  · exact heldBack.of_sameCursor same
  · exact le_rfl
  · have unmatched : pending.nextEntry = 0 := by
      unfold beginSubmission at started
      split at started
      · cases started
      · dsimp only at started
        split at started
        · cases started
        · cases started
          rfl
    rw [between_self, matchAll, List.foldl_nil, ← unmatched]

/-- However the entries of the log come in, the submission counts what the log confirms.  Further
deliveries take nothing back, and deliveries that lead to the same cursor count the same. -/
theorem submission_confirmed_by_log (parseEntry : Value → Except String Entry)
    (started : buffer.beginSubmission nextClaimId = (.ok (some pending), begun))
    (heldBack : HoldsBack log buffer) (received : List (Nat × Value))
    (inLog : ∀ entry ∈ received, log[entry.1]? = some entry.2) :
    ∃ now, ConfirmedByLog parseEntry log begun pending received now ∧
      (∀ later, (∀ entry ∈ later, log[entry.1]? = some entry.2) →
        ∃ further, ConfirmedByLog parseEntry log begun pending (received ++ later) further ∧
          now.nextEntry ≤ further.nextEntry) ∧
      ∀ others, (∀ entry ∈ others, log[entry.1]? = some entry.2) →
        (receiveAll parseEntry begun others).nextIndex =
          (receiveAll parseEntry begun received).nextIndex →
        (receiveAll parseEntry begun others).pendingSubmission = some now := by
  have tracks := tracks_beginSubmission started heldBack
  have confirmed : ∀ deliveries : List (Nat × Value),
      (∀ entry ∈ deliveries, log[entry.1]? = some entry.2) →
      ConfirmedByLog parseEntry log begun pending deliveries { pending with
        nextEntry := matchAll pending.payloads (between log begun.nextIndex
          (receiveAll parseEntry begun deliveries).nextIndex) } := by
    intro deliveries delivered
    have after : Tracks log begun.nextIndex pending (receiveAll parseEntry begun deliveries) :=
      tracks.receiveAll delivered
    have longest := isLongestMatch_matchAll pending.payloads (between log begun.nextIndex
      (receiveAll parseEntry begun deliveries).nextIndex)
    constructor
    · exact receiveAll_results tracks.heldBack delivered
    · exact after.noted
    · rfl
    · exact longest
    · rw [isSubmissionComplete, after.noted, Option.any_some, PendingSubmission.isComplete,
        decide_eq_true_iff]
      exact longest.length_le_iff
  refine ⟨_, confirmed received inLog, ?_, ?_⟩
  · intro later delivered
    have joined : ∀ entry ∈ received ++ later, log[entry.1]? = some entry.2 := by
      intro entry member
      rcases List.mem_append.mp member with early | late
      · exact inLog entry early
      · exact delivered entry late
    refine ⟨_, confirmed (received ++ later) joined, ?_⟩
    have further : (receiveAll parseEntry begun received).nextIndex ≤
        (receiveAll parseEntry begun (received ++ later)).nextIndex := by
      rw [receiveAll, receiveAll, List.foldl_append]
      exact nextIndex_le_receiveAll _ later
    obtain ⟨more, whole⟩ := between_prefix log begun.nextIndex further
    dsimp only
    rw [← whole]
    exact matchAll_mono _ _ more
  · intro others delivered same
    rw [(confirmed others delivered).stands, same]

end Begun

/-- A session log with a payload of somebody else among the two submitted ones. -/
def sharedLog : List Value :=
  (stanceEntries.map Entry.toValue).intersperse (.string "hello")

/-- Its entries, delivered backwards and the first one twice. -/
def sharedDeliveries : List (Nat × Value) :=
  (sharedLog.zipIdx.map fun entry => (entry.2, entry.1)).reverse ++ [(0, sharedLog.headD .null)]

/-- A log in which another participant's payload stands between the two that were submitted. -/
theorem shared_submission_confirmed :
    ∃ now, ConfirmedByLog stanceParser sharedLog
        { stanceBuffer with pendingSubmission := some stancePending } stancePending
        sharedDeliveries now ∧ now.nextEntry = 2 := by
  have empty : HoldsBack sharedLog stanceBuffer := by
    intro index payload found
    simp [stanceBuffer, EntryBuffer.new] at found
  obtain ⟨now, confirmed, _⟩ := submission_confirmed_by_log stanceParser
    stanceBuffer_begun empty sharedDeliveries (by decide +kernel)
  have counted : (receiveAll stanceParser
      { stanceBuffer with pendingSubmission := some stancePending }
      sharedDeliveries).pendingSubmission = some { stancePending with nextEntry := 2 } := by
    decide +kernel
  refine ⟨now, confirmed, ?_⟩
  rw [← Option.some.inj (confirmed.stands.symm.trans counted).symm]

end ProstheticConscience.Consensus.EntryBuffer
