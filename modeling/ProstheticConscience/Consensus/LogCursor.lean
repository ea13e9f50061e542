/-
Module: ProstheticConscience.Consensus.LogCursor
Purpose: An entry buffer that follows a growing log: what it has applied is a prefix of the log,
  what it holds back stands further on in the log, no entry it was told of is lost, and a pending
  submission only counts payloads that stand in the log.
Trusted boundary: none
Main exports: EntryBuffer.Follows, EntryBuffer.Knows, Follows.receive, Follows.receiveAll,
  Follows.caught_up, EntryBuffer.EchoesApplied, EntryBuffer.CarriesOn
-/
import ProstheticConscience.Consensus.EntryBuffer

namespace ProstheticConscience.Consensus.EntryBuffer

variable (parseEntry : Value → Except String Entry)

/-- The entries among the payloads of a log. -/
def parsedEntries (payloads : List Value) : List Entry :=
  payloads.filterMap fun payload => (parseEntry payload).toOption

/-- The buffer, which may have a contiguous entry left to apply, is consistent with the log. -/
structure Consistent (log : List Value) (buffer : EntryBuffer) : Prop where
  cursor : buffer.nextIndex ≤ log.length
  applied : buffer.engine.log = parsedEntries parseEntry (log.take buffer.nextIndex)
  buffered : ∀ index payload, buffer.bufferedEntries.lookup index = some payload →
    log[index]? = some payload

/-- The buffer follows the log, with nothing contiguous left to apply. -/
structure Follows (log : List Value) (buffer : EntryBuffer) : Prop
    extends Consistent parseEntry log buffer where
  waiting : buffer.bufferedEntries.lookup buffer.nextIndex = none

/-- The entry of an index was applied or is held back. -/
def Knows (buffer : EntryBuffer) (index : Nat) : Prop :=
  index < buffer.nextIndex ∨ index ∈ buffer.bufferedEntries

/-- A new buffer has applied nothing of any log. -/
theorem Follows.new (participant : String) (log : List Value) :
    Follows parseEntry log (new participant) where
  cursor := Nat.zero_le _
  applied := rfl
  buffered index payload found := by simp [EntryBuffer.new] at found
  waiting := by simp [EntryBuffer.new]

variable {parseEntry}

/-- A buffer that knows of every entry of the log has applied them all. -/
theorem Follows.caught_up {log : List Value} {buffer : EntryBuffer}
    (follows : Follows parseEntry log buffer)
    (knowsAll : ∀ index < log.length, buffer.Knows index) :
    buffer.nextIndex = log.length ∧ buffer.engine.log = parsedEntries parseEntry log := by
  have atEnd : buffer.nextIndex = log.length := by
    apply Nat.le_antisymm follows.cursor
    by_contra short
    rcases knowsAll buffer.nextIndex (by omega) with applied | held
    · exact Nat.lt_irrefl _ applied
    · obtain ⟨payload, found⟩ := AssocMap.mem_iff_lookup.mp held
      rw [follows.waiting] at found
      cases found
  refine ⟨atEnd, ?_⟩
  rw [follows.applied, atEnd, List.take_length]

/-- A buffer that agrees with a log agrees with the log as it grows. -/
theorem Consistent.grow {log : List Value} {buffer : EntryBuffer}
    (consistent : Consistent parseEntry log buffer) (payload : Value) :
    Consistent parseEntry (log ++ [payload]) buffer where
  cursor := by
    rw [List.length_append]
    exact consistent.cursor.trans (Nat.le_add_right _ _)
  applied := by rw [consistent.applied, List.take_append_of_le_length consistent.cursor]
  buffered index held found := by
    have inLog := consistent.buffered index held found
    rw [List.getElem?_append_left (List.getElem?_eq_some_iff.mp inLog).1]
    exact inLog

/-- A buffer that follows a log follows it as it grows: entries are only added at the end. -/
theorem Follows.grow {log : List Value} {buffer : EntryBuffer}
    (follows : Follows parseEntry log buffer) (payload : Value) :
    Follows parseEntry (log ++ [payload]) buffer :=
  ⟨follows.toConsistent.grow payload, follows.waiting⟩

/-! ### Receiving entries of the log

A buffer follows a log when it has applied its entries up to the cursor and holds back only entries
of the log ahead of it. A delivery of the log keeps this: the drain loop applies what connects, and
nothing else. -/

/-- Applying a payload moves the cursor by one, whether or not the payload is an entry. -/
theorem applyNext_nextIndex (buffer : EntryBuffer) (payload : Value) :
    (applyNext parseEntry buffer payload).2.nextIndex = buffer.nextIndex + 1 := by
  unfold applyNext applyPayload
  dsimp only
  split <;> rfl

/-- Applying a payload appends its entry to the engine's log, and nothing if it has none. -/
theorem applyNext_log (buffer : EntryBuffer) (payload : Value) :
    (applyNext parseEntry buffer payload).2.engine.log =
      buffer.engine.log ++ parsedEntries parseEntry [payload] := by
  unfold applyNext applyPayload parsedEntries
  dsimp only
  split
  · rename_i entry parsed
    simp [parsed, Except.toOption, ConsensusEngine.append, noteSubmissionPayload]
  · rename_i error parsed
    simp [parsed, Except.toOption, noteSubmissionPayload]

/-- Applying the next entry of the log keeps the buffer consistent. -/
theorem Consistent.applyNext {log : List Value} {buffer : EntryBuffer}
    (consistent : Consistent parseEntry log buffer) {payload : Value}
    (inLog : log[buffer.nextIndex]? = some payload) :
    Consistent parseEntry log (applyNext parseEntry buffer payload).2 where
  cursor := by
    rw [applyNext_nextIndex]
    exact (List.getElem?_eq_some_iff.mp inLog).1
  applied := by
    rw [applyNext_log, applyNext_nextIndex, List.take_add_one, inLog, consistent.applied]
    simp [parsedEntries]
  buffered index held found := by
    rw [applyNext_bufferedEntries] at found
    exact consistent.buffered index held found

/-- Taking an entry out of the held-back ones leaves the others those of the log. -/
theorem Consistent.removeNext {log : List Value} {buffer : EntryBuffer}
    (consistent : Consistent parseEntry log buffer) :
    Consistent parseEntry log buffer.removeNext where
  cursor := consistent.cursor
  applied := consistent.applied
  buffered index held found := by
    rw [EntryBuffer.removeNext, AssocMap.lookup_without] at found
    split at found
    · cases found
    · exact consistent.buffered index held found

/-- Taking out the next entry forgets this one only. -/
theorem knows_removeNext {buffer : EntryBuffer} {index : Nat} (knows : buffer.Knows index) :
    index = buffer.nextIndex ∨ buffer.removeNext.Knows index := by
  by_cases next : index = buffer.nextIndex
  · exact .inl next
  · right
    rcases knows with applied | held
    · exact .inl applied
    · exact .inr (AList.mem_erase.mpr ⟨next, held⟩)

/-- Applying an entry forgets none: what was held back is still held back or now applied. -/
theorem knows_applyNext {buffer : EntryBuffer} {payload : Value} {index : Nat}
    (knows : index = buffer.nextIndex ∨ buffer.Knows index) :
    (applyNext parseEntry buffer payload).2.Knows index := by
  unfold Knows
  rw [applyNext_nextIndex, applyNext_bufferedEntries]
  rcases knows with rfl | applied | held
  · exact .inl (Nat.lt_succ_self _)
  · exact .inl (Nat.lt_succ_of_lt applied)
  · exact .inr held

/-- The drain loop stops only where the next entry is missing. -/
theorem drainBuffered_waiting (buffer : EntryBuffer) :
    (drainBuffered parseEntry buffer).2.bufferedEntries.lookup
      (drainBuffered parseEntry buffer).2.nextIndex = none := by
  induction buffer using drainBuffered.induct parseEntry with
  | case1 buffer missing =>
      rw [drainBuffered_none parseEntry missing]
      exact missing
  | case2 buffer payload found next ih =>
      rw [drainBuffered_some parseEntry found]
      exact ih

/-- The drain loop leads from a buffer that agrees with the log to one that follows it; by the
recursion of the loop, each round of which applies the log's next entry. -/
theorem drainBuffered_follows {log : List Value} {buffer : EntryBuffer}
    (consistent : Consistent parseEntry log buffer) :
    Follows parseEntry log (drainBuffered parseEntry buffer).2 := by
  refine ⟨?_, drainBuffered_waiting buffer⟩
  apply drainBuffered_induction parseEntry (I := Consistent parseEntry log) _ buffer consistent
  intro earlier payload consistent found
  exact consistent.removeNext.applyNext (consistent.buffered _ _ found)

/-- The drain loop forgets no entry. -/
theorem knows_drainBuffered {buffer : EntryBuffer} {index : Nat} (knows : buffer.Knows index) :
    (drainBuffered parseEntry buffer).2.Knows index := by
  apply drainBuffered_induction parseEntry (I := fun buffer => buffer.Knows index) _ buffer knows
  intro earlier payload knows _
  exact knows_applyNext (knows_removeNext knows)

/-- Receiving an entry of the log, early, late or in turn, keeps the buffer in step. -/
theorem Follows.receive {log : List Value} {buffer : EntryBuffer}
    (follows : Follows parseEntry log buffer) {index : Nat} {payload : Value}
    (inLog : log[index]? = some payload) :
    Follows parseEntry log (applyOrBufferEntry parseEntry buffer index payload).2 := by
  unfold applyOrBufferEntry
  split
  · exact follows
  · split
    · rename_i ahead
      constructor
      · refine ⟨follows.cursor, follows.applied, ?_⟩
        intro other held found
        rw [AssocMap.lookup_update] at found
        split at found
        · rename_i same
          obtain rfl := Option.some.inj found
          exact same ▸ inLog
        · exact follows.buffered other held found
      · dsimp only
        rw [AssocMap.lookup_update_ne _ _ (Nat.ne_of_lt ahead)]
        exact follows.waiting
    · rename_i notLate notAhead
      obtain rfl : index = buffer.nextIndex := by omega
      exact drainBuffered_follows (follows.toConsistent.applyNext inLog)

/-- After a delivery its entry is known, and what was known before still is. -/
theorem knows_receive {buffer : EntryBuffer} {index other : Nat} {payload : Value}
    (knows : other = index ∨ buffer.Knows other) :
    (applyOrBufferEntry parseEntry buffer index payload).2.Knows other := by
  unfold applyOrBufferEntry
  split
  · rename_i late
    rcases knows with rfl | knows
    · exact .inl late
    · exact knows
  · split
    · rename_i ahead
      unfold Knows
      rw [AssocMap.mem_update]
      rcases knows with same | applied | held
      · exact .inr (.inl same)
      · exact .inl applied
      · exact .inr (.inr held)
    · rename_i notLate notAhead
      obtain rfl : index = buffer.nextIndex := by omega
      exact knows_drainBuffered (knows_applyNext knows)

/-- Receiving a run of entries of the log. -/
theorem Follows.receiveAll {log : List Value} {received : List (Nat × Value)}
    (inLog : ∀ entry ∈ received, log[entry.1]? = some entry.2) {buffer : EntryBuffer}
    (follows : Follows parseEntry log buffer) :
    Follows parseEntry log (receiveAll parseEntry buffer received) := by
  induction received generalizing buffer with
  | nil => exact follows
  | cons entry rest ih =>
      apply ih fun later member => inLog later (List.mem_cons_of_mem _ member)
      exact follows.receive (inLog entry List.mem_cons_self)

/-- No deliveries make a buffer forget an entry. -/
theorem knows_receiveAll {received : List (Nat × Value)} {buffer : EntryBuffer} {index : Nat}
    (knows : buffer.Knows index) :
    (EntryBuffer.receiveAll parseEntry buffer received).Knows index := by
  induction received generalizing buffer with
  | nil => exact knows
  | cons entry rest ih => exact ih (knows_receive (.inr knows))

/-- What was received is known. -/
theorem knows_of_received {received : List (Nat × Value)} {buffer : EntryBuffer}
    {entry : Nat × Value} (arrived : entry ∈ received) :
    (EntryBuffer.receiveAll parseEntry buffer received).Knows entry.1 := by
  induction received generalizing buffer with
  | nil => cases arrived
  | cons first rest ih =>
      rcases List.mem_cons.mp arrived with rfl | later
      · have now : (applyOrBufferEntry parseEntry buffer entry.1 entry.2).2.Knows entry.1 :=
          knows_receive (.inl rfl)
        exact (knows_receiveAll now : (EntryBuffer.receiveAll parseEntry _ rest).Knows entry.1)
      · exact ih later

/-! ### What leaves the cursor alone -/

/-- The log, the cursor and the entries held back are the same. -/
structure SameCursor (before after : EntryBuffer) : Prop where
  log : after.engine.log = before.engine.log
  nextIndex : after.nextIndex = before.nextIndex
  buffered : after.bufferedEntries = before.bufferedEntries

theorem SameCursor.refl (buffer : EntryBuffer) : SameCursor buffer buffer :=
  ⟨rfl, rfl, rfl⟩

/-- Whether a buffer follows a log depends only on its cursor, its held-back entries and its
engine's log. -/
theorem SameCursor.follows {before after : EntryBuffer} (same : SameCursor before after)
    {log : List Value} (follows : Follows parseEntry log before) :
    Follows parseEntry log after := by
  constructor
  · constructor
    · exact same.nextIndex ▸ follows.cursor
    · rw [same.log, same.nextIndex]
      exact follows.applied
    · rw [same.buffered]
      exact follows.buffered
  · rw [same.buffered, same.nextIndex]
    exact follows.waiting

/-- Which entries a buffer knows depends only on its cursor and its held-back entries. -/
theorem SameCursor.knows {before after : EntryBuffer} (same : SameCursor before after)
    {index : Nat} (knows : before.Knows index) : after.Knows index := by
  unfold Knows
  rw [same.nextIndex, same.buffered]
  exact knows

/-- Removing a draft does not touch the log. -/
theorem removeDraft_log (engine : ConsensusEngine) (draftId : DraftId) :
    (engine.removeDraft draftId).2.log = engine.log := by
  unfold ConsensusEngine.removeDraft
  split
  · rfl
  · dsimp only
    split <;> rfl

/-- Removing any drafts does not touch the log. -/
theorem removeDrafts_log (draftIds : List DraftId) (engine : ConsensusEngine) :
    (removeDrafts engine draftIds).2.log = engine.log := by
  induction draftIds generalizing engine with
  | nil => rfl
  | cons draftId rest ih =>
      have removed := removeDraft_log engine draftId
      rw [removeDrafts]
      split
      · rename_i after outcome
        rw [outcome] at removed
        rw [ih, removed]
      · rename_i error after outcome
        rw [outcome] at removed
        exact removed

/-- Finishing a submission does not touch what was received. -/
theorem finishSubmission_sameCursor (buffer : EntryBuffer) :
    SameCursor buffer buffer.finishSubmission.2 := by
  unfold finishSubmission
  split
  · exact SameCursor.refl buffer
  · rename_i pending _
    have same := removeDrafts_log pending.draftIds buffer.engine
    dsimp only
    split
    · rename_i engine outcome
      rw [outcome] at same
      exact ⟨same, rfl, rfl⟩
    · rename_i error engine outcome
      rw [outcome] at same
      exact ⟨same, rfl, rfl⟩

/-- Beginning a submission does not touch what was received. -/
theorem beginSubmission_sameCursor (buffer : EntryBuffer) (nextClaimId : Nat → ClaimId) :
    SameCursor buffer (buffer.beginSubmission nextClaimId).2 := by
  unfold beginSubmission
  split
  · exact SameCursor.refl buffer
  · dsimp only
    split
    · exact SameCursor.refl buffer
    · exact ⟨rfl, rfl, rfl⟩

/-- Adding a draft does not touch the log. -/
theorem pushDraft_log (engine : ConsensusEngine) (entry : DraftContent) :
    (engine.pushDraft entry).2.log = engine.log := by
  unfold ConsensusEngine.pushDraft
  split <;> rfl

/-- No draft operation touches the log. -/
theorem perform_log (engine : ConsensusEngine) (op : DraftOp) :
    (engine.perform op).2.log = engine.log := by
  cases op with
  | removeDraft id => exact removeDraft_log engine id
  | clearDrafts => rfl
  | _ => exact pushDraft_log engine _

/-! ### The pending submission

A submission looks for its payloads among those that are applied, in order. What it has found is a
subsequence of the applied part of the log; the step lemma is the one for a single payload. -/

/-- What the pending submission has seen come back stands in the part of the log that was
applied. -/
def EchoesApplied (log : List Value) (buffer : EntryBuffer) : Prop :=
  ∀ pending, buffer.pendingSubmission = some pending → ∀ position < pending.nextEntry,
    ∀ payload, pending.payloads[position]? = some payload → payload ∈ log.take buffer.nextIndex

/-- The submission that is pending after was pending before, with the same payloads, and it was
not further on. -/
def CarriesOn (before after : EntryBuffer) : Prop :=
  ∀ pending, after.pendingSubmission = some pending →
    ∃ earlier, before.pendingSubmission = some earlier ∧ earlier.payloads = pending.payloads ∧
      earlier.nextEntry ≤ pending.nextEntry

theorem CarriesOn.of_eq {before after : EntryBuffer}
    (same : after.pendingSubmission = before.pendingSubmission) : CarriesOn before after :=
  fun pending pendingEq => ⟨pending, same ▸ pendingEq, rfl, le_rfl⟩

/-- A submission that carries on twice carries on. -/
theorem CarriesOn.trans {first second third : EntryBuffer} (before : CarriesOn first second)
    (after : CarriesOn second third) : CarriesOn first third := by
  intro pending pendingEq
  obtain ⟨middle, middleEq, samePayloads, further⟩ := after pending pendingEq
  obtain ⟨earlier, earlierEq, payloads, nextEntry⟩ := before middle middleEq
  exact ⟨earlier, earlierEq, payloads.trans samePayloads, nextEntry.trans further⟩

theorem note_payloads (pending : PendingSubmission) (payload : Value) :
    (pending.note payload).payloads = pending.payloads := by
  unfold PendingSubmission.note
  split <;> rfl

/-- A submission never loses what it has seen come back. -/
theorem nextEntry_le_note (pending : PendingSubmission) (payload : Value) :
    pending.nextEntry ≤ (pending.note payload).nextEntry := by
  unfold PendingSubmission.note
  split
  · exact Nat.le_succ _
  · exact le_rfl

/-- A payload that is noted is the payload that came back. -/
theorem note_echo {pending : PendingSubmission} {payload : Value} {position : Nat}
    (noted : position < (pending.note payload).nextEntry) :
    position < pending.nextEntry ∨ pending.payloads[position]? = some payload := by
  unfold PendingSubmission.note at noted
  split at noted
  · rename_i expected
    rcases Nat.lt_succ_iff_lt_or_eq.mp noted with earlier | now
    · exact .inl earlier
    · exact .inr (now ▸ expected)
  · exact .inl noted

/-- Applying a payload shows it to the pending submission. -/
theorem applyNext_pendingSubmission (buffer : EntryBuffer) (payload : Value) :
    (applyNext parseEntry buffer payload).2.pendingSubmission =
      buffer.pendingSubmission.map (·.note payload) := by
  unfold applyNext applyPayload
  dsimp only
  split <;> rfl

/-- Applying a payload leaves the submission pending, and at least as far. -/
theorem applyNext_carriesOn (buffer : EntryBuffer) (payload : Value) :
    CarriesOn buffer (applyNext parseEntry buffer payload).2 := by
  intro pending pendingEq
  rw [applyNext_pendingSubmission, Option.map_eq_some_iff] at pendingEq
  obtain ⟨earlier, earlierEq, rfl⟩ := pendingEq
  exact ⟨earlier, earlierEq, (note_payloads earlier payload).symm,
    nextEntry_le_note earlier payload⟩

/-- The step lemma: when the log's next payload is applied, what the submission has seen come back
still stands in the applied part of the log. -/
theorem EchoesApplied.applyNext {log : List Value} {buffer : EntryBuffer}
    (echoes : EchoesApplied log buffer) {payload : Value}
    (inLog : log[buffer.nextIndex]? = some payload) :
    EchoesApplied log (applyNext parseEntry buffer payload).2 := by
  intro pending pendingEq position noted other otherEq
  rw [applyNext_pendingSubmission, Option.map_eq_some_iff] at pendingEq
  obtain ⟨earlier, earlierEq, rfl⟩ := pendingEq
  rw [note_payloads] at otherEq
  rw [applyNext_nextIndex, List.take_add_one, inLog, List.mem_append]
  rcases note_echo noted with before | now
  · exact .inl (echoes earlier earlierEq position before other otherEq)
  · obtain rfl := Option.some.inj (otherEq.symm.trans now)
    exact .inr (by simp)

/-- The drain loop leaves the submission pending, and at least as far. -/
theorem drainBuffered_carriesOn (buffer : EntryBuffer) :
    CarriesOn buffer (drainBuffered parseEntry buffer).2 := by
  apply drainBuffered_induction parseEntry (I := CarriesOn buffer) _ buffer (.of_eq rfl)
  intro earlier payload carriesOn _
  have removed : CarriesOn earlier earlier.removeNext := .of_eq rfl
  exact (carriesOn.trans removed).trans (applyNext_carriesOn earlier.removeNext payload)

/-- Along the drain loop what the submission has seen come back stands in the applied part of the
log. -/
theorem EchoesApplied.drainBuffered {log : List Value} {buffer : EntryBuffer}
    (echoes : EchoesApplied log buffer) (consistent : Consistent parseEntry log buffer) :
    EchoesApplied log (drainBuffered parseEntry buffer).2 := by
  have both : Consistent parseEntry log (EntryBuffer.drainBuffered parseEntry buffer).2 ∧
      EchoesApplied log (EntryBuffer.drainBuffered parseEntry buffer).2 := by
    apply drainBuffered_induction parseEntry
      (I := fun buffer => Consistent parseEntry log buffer ∧ EchoesApplied log buffer)
    · intro earlier payload holds found
      obtain ⟨consistent, echoes⟩ := holds
      have inLog := consistent.buffered _ _ found
      have removed : EchoesApplied log earlier.removeNext := echoes
      exact ⟨consistent.removeNext.applyNext inLog, removed.applyNext inLog⟩
    · exact ⟨consistent, echoes⟩
  exact both.2

/-- A delivery leaves the submission pending, and at least as far. -/
theorem receive_carriesOn (buffer : EntryBuffer) (index : Nat) (payload : Value) :
    CarriesOn buffer (applyOrBufferEntry parseEntry buffer index payload).2 := by
  unfold applyOrBufferEntry
  split
  · exact .of_eq rfl
  · split
    · exact .of_eq rfl
    · exact (applyNext_carriesOn buffer payload).trans (drainBuffered_carriesOn _)

/-- The same for one delivery of the log. -/
theorem EchoesApplied.receive {log : List Value} {buffer : EntryBuffer}
    (echoes : EchoesApplied log buffer) (follows : Follows parseEntry log buffer) {index : Nat}
    {payload : Value} (inLog : log[index]? = some payload) :
    EchoesApplied log (applyOrBufferEntry parseEntry buffer index payload).2 := by
  unfold applyOrBufferEntry
  split
  · exact echoes
  · split
    · exact echoes
    · rename_i notLate notAhead
      obtain rfl : index = buffer.nextIndex := by omega
      exact (echoes.applyNext inLog).drainBuffered (follows.toConsistent.applyNext inLog)

/-- Any deliveries leave the submission pending, and at least as far. -/
theorem receiveAll_carriesOn (received : List (Nat × Value)) (buffer : EntryBuffer) :
    CarriesOn buffer (EntryBuffer.receiveAll parseEntry buffer received) := by
  induction received generalizing buffer with
  | nil => exact .of_eq rfl
  | cons entry rest ih => exact (receive_carriesOn buffer entry.1 entry.2).trans (ih _)

/-- The same for any deliveries of the log, by induction on them. -/
theorem EchoesApplied.receiveAll {log : List Value} {received : List (Nat × Value)}
    (inLog : ∀ entry ∈ received, log[entry.1]? = some entry.2) {buffer : EntryBuffer}
    (follows : Follows parseEntry log buffer) (echoes : EchoesApplied log buffer) :
    EchoesApplied log (receiveAll parseEntry buffer received) := by
  induction received generalizing buffer with
  | nil => exact echoes
  | cons entry rest ih =>
      have now := inLog entry List.mem_cons_self
      apply ih fun later member => inLog later (List.mem_cons_of_mem _ member)
      · exact follows.receive now
      · exact echoes.receive follows now

/-- What stands in a log still stands there when it grows. -/
theorem EchoesApplied.grow {log : List Value} {buffer : EntryBuffer}
    (echoes : EchoesApplied log buffer) (payload : Value) :
    EchoesApplied (log ++ [payload]) buffer := by
  intro pending pendingEq position noted other otherEq
  have applied := echoes pending pendingEq position noted other otherEq
  rw [List.take_append]
  exact List.mem_append_left _ applied

/-- Finishing takes the submission, and does nothing without one. -/
theorem finishSubmission_pendingSubmission (buffer : EntryBuffer) :
    buffer.finishSubmission.2.pendingSubmission = none := by
  unfold finishSubmission
  split
  · assumption
  · dsimp only
    split <;> rfl

/-- A submission begins with nothing seen. -/
theorem beginSubmission_pendingSubmission (buffer : EntryBuffer) (nextClaimId : Nat → ClaimId) :
    (buffer.beginSubmission nextClaimId).2.pendingSubmission = buffer.pendingSubmission ∨
      ∃ pending, (buffer.beginSubmission nextClaimId).2.pendingSubmission = some pending ∧
        pending.nextEntry = 0 := by
  unfold beginSubmission
  split
  · exact .inl rfl
  · dsimp only
    split
    · exact .inl rfl
    · exact .inr ⟨_, rfl, rfl⟩

end ProstheticConscience.Consensus.EntryBuffer
