/-
Module: ProstheticConscience.Gateway.StreamLife
Purpose: The stages in the life of a client stream, each with the tokens that are held of it, what
  the kernel and the registry know of it, what the run has told of it, and the frames on its
  channel; and how what the relay, the effect tasks and the runtime do leads from one stage to the
  next.
Trusted boundary: none
Main exports: framesBy, Life, Life.chunk, Life.returns, Life.loses, Life.writes, FramesAgree,
  Life.processed
-/
import ProstheticConscience.Gateway.StreamNotes

namespace ProstheticConscience.Gateway

/-- The frames one writer put on a channel. -/
def framesBy (writer : FrameWriter) (channel : List (FrameWriter × StreamFrame)) :
    List StreamFrame :=
  (channel.filter fun frame => frame.1 = writer).map (·.2)

@[simp] theorem framesBy_append (writer : FrameWriter)
    (first second : List (FrameWriter × StreamFrame)) :
    framesBy writer (first ++ second) = framesBy writer first ++ framesBy writer second := by
  simp [framesBy]

@[simp] theorem framesBy_map_self (writer : FrameWriter) (frames : List StreamFrame) :
    framesBy writer (frames.map (writer, ·)) = frames := by
  simp [framesBy, List.filter_map, Function.comp_def]

theorem framesBy_map_other {writer other : FrameWriter} (different : other ≠ writer)
    (frames : List StreamFrame) : framesBy writer (frames.map (other, ·)) = [] := by
  simp [framesBy, List.filter_map, Function.comp_def, different]

/-! ### The life of a stream

A token stands for each thing under way: a registration, a request, a running job, the verdict on
it, the kernel's terminal frames. A stream goes through few stages, and in each the tokens that are
about say what has been written to the channel and what the run tells of the job. -/

/-- What the job of an active stream, or its verdict, says about how the job ended. -/
def Underway (channel : Nat) (jobEnd : JobEnd) : Option StreamToken → Prop
  | none => True
  | some (.running sender) => sender = channel ∧ jobEnd = .unfinished
  | some .cleared => jobEnd = .ended
  | some (.failed message) => jobEnd.failure? = some message
  | some _ => False

/-- What a job that is left over says, once the kernel has closed the stream. -/
def LeftOver (channel : Nat) (jobEnd : JobEnd) : Option StreamToken → Prop
  | none => True
  | some (.running sender) => sender = channel ∧ jobEnd = .unfinished
  | some .cleared => True
  | some (.failed _) => True
  | some _ => False

/-- The verdict on a job: cleared or failed. -/
def StreamToken.isVerdict : StreamToken → Bool
  | cleared => true
  | failed _ => true
  | _ => false

theorem LeftOver.verdict {channel : Nat} {jobEnd : JobEnd} {token : StreamToken}
    (isVerdict : token.isVerdict = true) : LeftOver channel jobEnd (some token) := by
  cases token with
  | cleared => trivial
  | failed message => trivial
  | _ => cases isVerdict

/-- What is known of an active stream: the relay's frames alone are on its channel. -/
structure Assigned (channel : Nat) (handle : Option Nat) (phase : ClientPhase)
    (notes : List StreamNote) (frames : List (FrameWriter × StreamFrame)) (chunks : List Value)
    (jobEnd : JobEnd) : Prop where
  handleEq : handle = some channel
  phaseEq : phase = .requested
  noted : Noted notes chunks jobEnd
  inTime : .expired ∉ notes
  framesEq : frames = (relayed chunks jobEnd).map (.relay, ·)

/-- What is known of a stream that the kernel has closed with frames of which some remain to be put
on the channel.  Of a punctual stream, no relay reads a worker message any more. -/
structure Closed (punctual active : Prop) (handle : Option Nat) (phase : ClientPhase)
    (notes : List StreamNote) (frames : List (FrameWriter × StreamFrame))
    (remaining : List StreamFrame) (chunks : List Value) (jobEnd : JobEnd) : Prop where
  inactive : ¬ active
  handleEq : handle = none
  phaseEq : phase = .requested
  noted : Noted notes chunks jobEnd
  relayFrames : framesBy .relay frames = relayed chunks jobEnd
  closes : ClosesWith (.expired ∈ notes) jobEnd (framesBy .kernel frames ++ remaining)
  inOrder : punctual → frames = (relayed chunks jobEnd).map (.relay, ·) ++
    (framesBy .kernel frames).map (.kernel, ·)

/-- The stages in the life of a stream: the tokens that are held of it, whether it is active, its
handle, its request handler, what the run told of it, and the frames on its channel. -/
inductive Life (punctual : Prop) (channel : Nat) (tokens : Multiset StreamToken) (active : Prop)
    (handle : Option Nat) (phase : ClientPhase) (notes : List StreamNote)
    (frames : List (FrameWriter × StreamFrame)) : Prop
  | registering (tokensEq : tokens = heldBy (some (.registration channel))) (inactive : ¬ active)
      (handleEq : handle = none) (phaseEq : phase = .registering) (notesEq : notes = [])
      (framesEq : frames = [])
  | registered (tokensEq : tokens = heldBy none) (inactive : ¬ active)
      (handleEq : handle = some channel) (phaseEq : phase = .registered) (notesEq : notes = [])
      (framesEq : frames = [])
  | asked (tokensEq : tokens = heldBy (some .request)) (inactive : ¬ active)
      (handleEq : handle = some channel) (phaseEq : phase = .requested) (notesEq : notes = [])
      (framesEq : frames = [])
  | assigned (job : Option StreamToken) (chunks : List Value) (jobEnd : JobEnd)
      (tokensEq : tokens = heldBy job) (isActive : active) (underway : Underway channel jobEnd job)
      (assigned : Assigned channel handle phase notes frames chunks jobEnd)
  | closed (job : Option StreamToken) (remaining : List StreamFrame) (chunks : List Value)
      (jobEnd : JobEnd)
      (tokensEq : tokens = heldBy job + heldBy (closing? (remaining.map (channel, ·))))
      (leftOver : LeftOver channel jobEnd job)
      (closed : Closed punctual active handle phase notes frames remaining chunks jobEnd)

section Life

variable {punctual active : Prop} {channel : Nat} {others : Multiset StreamToken}
  {handle : Option Nat} {phase : ClientPhase} {notes : List StreamNote}
  {frames : List (FrameWriter × StreamFrame)}

/-- The stages of a stream of which some part holds a token. -/
inductive Holding (punctual : Prop) (channel : Nat) (token : StreamToken)
    (others : Multiset StreamToken) (active : Prop) (handle : Option Nat) (phase : ClientPhase)
    (notes : List StreamNote) (frames : List (FrameWriter × StreamFrame)) : Prop
  | registration (tokenEq : token = .registration channel) (othersEq : others = 0)
      (inactive : ¬ active) (notesEq : notes = []) (framesEq : frames = [])
  | request (tokenEq : token = .request) (othersEq : others = 0) (inactive : ¬ active)
      (handleEq : handle = some channel) (phaseEq : phase = .requested) (notesEq : notes = [])
      (framesEq : frames = [])
  | job (chunks : List Value) (jobEnd : JobEnd) (othersEq : others = 0) (isActive : active)
      (underway : Underway channel jobEnd (some token))
      (assigned : Assigned channel handle phase notes frames chunks jobEnd)
  | leftOver (remaining : List StreamFrame) (chunks : List Value) (jobEnd : JobEnd)
      (othersEq : others = heldBy (closing? (remaining.map (channel, ·))))
      (leftOver : LeftOver channel jobEnd (some token))
      (closed : Closed punctual active handle phase notes frames remaining chunks jobEnd)
  | closing (job : Option StreamToken) (next : StreamFrame) (remaining : List StreamFrame)
      (chunks : List Value) (jobEnd : JobEnd)
      (tokenEq : token = .closing ((channel, next) :: remaining.map (channel, ·)))
      (othersEq : others = heldBy job) (leftOver : LeftOver channel jobEnd job)
      (closed : Closed punctual active handle phase notes frames (next :: remaining) chunks jobEnd)

theorem Life.holding {token : StreamToken}
    (life : Life punctual channel ({token} + others) active handle phase notes frames) :
    Holding punctual channel token others active handle phase notes frames := by
  cases life with
  | registering tokensEq inactive handleEq phaseEq notesEq framesEq =>
      obtain ⟨same, othersEq⟩ := singleton_add_eq_heldBy_single tokensEq
      exact .registration (Option.some.inj same).symm othersEq inactive notesEq framesEq
  | registered tokensEq =>
      obtain ⟨absent, _⟩ := singleton_add_eq_heldBy_single tokensEq
      cases absent
  | asked tokensEq inactive handleEq phaseEq notesEq framesEq =>
      obtain ⟨same, othersEq⟩ := singleton_add_eq_heldBy_single tokensEq
      exact .request (Option.some.inj same).symm othersEq inactive handleEq phaseEq notesEq framesEq
  | assigned job chunks jobEnd tokensEq isActive underway assigned =>
      obtain ⟨rfl, othersEq⟩ := singleton_add_eq_heldBy_single tokensEq
      exact .job chunks jobEnd othersEq isActive underway assigned
  | closed job remaining chunks jobEnd tokensEq leftOver closed =>
      rcases singleton_add_eq_heldBy tokensEq with ⟨rfl, othersEq⟩ | ⟨closing, othersEq⟩
      · exact .leftOver remaining chunks jobEnd othersEq leftOver closed
      · cases remaining with
        | nil => cases closing
        | cons next rest =>
            exact .closing job next rest chunks jobEnd (Option.some.inj closing).symm othersEq
              leftOver closed

/-- What a job that did not end tells of a stream that is closed all the same: a tick expired it. -/
theorem Closed.expired {remaining : List StreamFrame} {chunks : List Value}
    (closed : Closed punctual active handle phase notes frames remaining chunks .unfinished)
    {more : List StreamNote} (jobEnd : JobEnd) :
    ClosesWith (.expired ∈ notes ++ more) jobEnd (framesBy .kernel frames ++ remaining) := by
  obtain ⟨expired, final⟩ := closed.closes.of_unfinished
  rw [final]
  exact .expired jobEnd (List.mem_append_left more expired)

/-- The relay forwards a chunk; a punctual one only while the stream is active. -/
theorem Life.chunk {sender : Nat}
    (life : Life punctual channel ({.running sender} + others) active handle phase notes frames)
    (inTime : punctual → active) (data : Value) :
    sender = channel ∧ Life punctual channel ({.running sender} + others) active handle phase
      (notes ++ [.read (.chunk data)]) (frames ++ [(.relay, .chunk data)]) := by
  cases life.holding with
  | registration tokenEq => cases tokenEq
  | request tokenEq => cases tokenEq
  | closing job next remaining chunks jobEnd tokenEq => cases tokenEq
  | job chunks jobEnd othersEq isActive underway assigned =>
      obtain ⟨rfl, rfl⟩ := underway
      refine ⟨rfl, .assigned (some (.running sender)) (chunks ++ [data]) .unfinished
        (by rw [othersEq, add_zero, heldBy_some]) isActive ⟨rfl, rfl⟩
        ⟨assigned.handleEq, assigned.phaseEq, assigned.noted.chunk data,
          by simp [assigned.inTime], ?_⟩⟩
      rw [relayed_chunk, assigned.framesEq, List.map_append]
      rfl
  | leftOver remaining chunks jobEnd othersEq leftOver closed =>
      obtain ⟨rfl, rfl⟩ := leftOver
      have kernelFrames :
          framesBy .kernel (frames ++ [(.relay, .chunk data)]) = framesBy .kernel frames := by
        simp [framesBy]
      refine ⟨rfl, .closed (some (.running sender)) remaining (chunks ++ [data]) .unfinished
        (by rw [othersEq, heldBy_some]) ⟨rfl, rfl⟩ ⟨closed.inactive, closed.handleEq,
          closed.phaseEq, closed.noted.chunk data, ?_, ?_, ?_⟩⟩
      · rw [framesBy_append, closed.relayFrames, relayed_chunk]
        rfl
      · rw [kernelFrames]
        exact closed.expired .unfinished
      · exact fun onTime => absurd (inTime onTime) closed.inactive

/-- The relay returns, perhaps with a terminal frame, or is never begun; the verdict on the job
takes its place. -/
theorem Life.returns {sender : Nat}
    (life : Life punctual channel ({.running sender} + others) active handle phase notes frames)
    {token : StreamToken} (jobEnd : JobEnd) (verdict : Underway channel jobEnd (some token))
    (isVerdict : token.isVerdict = true) (inTime : punctual → active ∨ jobEnd.frames = []) :
    sender = channel ∧ Life punctual channel ({token} + others) active handle phase
      (notes ++ jobEnd.notes) (frames ++ jobEnd.frames.map (.relay, ·)) := by
  cases life.holding with
  | registration tokenEq => cases tokenEq
  | request tokenEq => cases tokenEq
  | closing job next remaining chunks jobEnd tokenEq => cases tokenEq
  | job chunks before othersEq isActive underway assigned =>
      obtain ⟨rfl, rfl⟩ := underway
      refine ⟨rfl, .assigned (some token) chunks jobEnd (by rw [othersEq, add_zero, heldBy_some])
        isActive verdict ⟨assigned.handleEq, assigned.phaseEq, assigned.noted.ends jobEnd,
          by simp [assigned.inTime, jobEnd.expired_notMem], ?_⟩⟩
      rw [relayed_end, assigned.framesEq, List.map_append]
  | leftOver remaining chunks before othersEq leftOver closed =>
      obtain ⟨rfl, rfl⟩ := leftOver
      have kernelFrames : framesBy .kernel (frames ++ jobEnd.frames.map (.relay, ·)) =
          framesBy .kernel frames := by
        rw [framesBy_append, framesBy_map_other (by decide), List.append_nil]
      refine ⟨rfl, .closed (some token) remaining chunks jobEnd (by rw [othersEq, heldBy_some])
        (LeftOver.verdict isVerdict) ⟨closed.inactive, closed.handleEq, closed.phaseEq,
          closed.noted.ends jobEnd, ?_, ?_, ?_⟩⟩
      · rw [framesBy_append, closed.relayFrames, framesBy_map_self, relayed_end chunks jobEnd]
      · rw [kernelFrames]
        exact closed.expired jobEnd
      · intro onTime
        rcases inTime onTime with isActive | silent
        · exact absurd isActive closed.inactive
        · rw [relayed_end, silent, List.map_nil, List.append_nil, List.append_nil]
          exact closed.inOrder onTime

/-- The job is lost with its worker handler before a relay was started. -/
theorem Life.loses {sender : Nat}
    (life : Life punctual channel ({.running sender} + others) active handle phase notes frames) :
    sender = channel ∧ Life punctual channel others active handle phase notes frames := by
  cases life.holding with
  | registration tokenEq => cases tokenEq
  | request tokenEq => cases tokenEq
  | closing job next remaining chunks jobEnd tokenEq => cases tokenEq
  | job chunks jobEnd othersEq isActive underway assigned =>
      exact ⟨underway.1, .assigned none chunks jobEnd othersEq isActive trivial assigned⟩
  | leftOver remaining chunks jobEnd othersEq leftOver closed =>
      exact ⟨leftOver.1, .closed none remaining chunks jobEnd
        (by rw [othersEq, heldBy_none, zero_add]) trivial closed⟩

/-- The kernel's next terminal frame is put on the channel. -/
theorem Life.writes {target : Nat} {frame : StreamFrame} {later : List (Nat × StreamFrame)}
    (life : Life punctual channel ({.closing ((target, frame) :: later)} + others) active handle
      phase notes frames) :
    target = channel ∧
      Life punctual channel (heldBy (closing? later) + others) active handle phase notes
        (frames ++ [(.kernel, frame)]) := by
  cases life.holding with
  | registration tokenEq => cases tokenEq
  | request tokenEq => cases tokenEq
  | job chunks jobEnd othersEq isActive underway => exact underway.elim
  | leftOver remaining chunks jobEnd othersEq leftOver => exact leftOver.elim
  | closing job next remaining chunks jobEnd tokenEq othersEq leftOver closed =>
      obtain ⟨head, rfl⟩ := List.cons.inj (StreamToken.closing.inj tokenEq)
      obtain ⟨rfl, rfl⟩ := Prod.mk.inj head
      have kernelFrames : framesBy .kernel (frames ++ [(.kernel, frame)]) =
          framesBy .kernel frames ++ [frame] := by
        rw [framesBy_append]
        rfl
      refine ⟨rfl, .closed job remaining chunks jobEnd (by rw [othersEq, add_comm]) leftOver
        ⟨closed.inactive, closed.handleEq, closed.phaseEq, closed.noted, ?_, ?_, ?_⟩⟩
      · rw [framesBy_append, closed.relayFrames]
        simp [framesBy]
      · rw [kernelFrames, List.append_assoc]
        exact closed.closes
      · intro onTime
        rw [kernelFrames, List.map_append, ← List.append_assoc, ← closed.inOrder onTime]
        rfl

/-- The kernel closes a stream: its terminal frames are on their way. -/
theorem Life.of_closing {tokens : Multiset StreamToken} {chunks : List Value} {jobEnd : JobEnd}
    (job : Option StreamToken) (final : List StreamFrame)
    (tokensEq : tokens = heldBy job + heldBy (closing? (final.map (channel, ·))))
    (inactive : ¬ active) (leftOver : LeftOver channel jobEnd job)
    (noted : Noted notes chunks jobEnd) (closes : ClosesWith (.expired ∈ notes) jobEnd final) :
    Life punctual channel tokens active none .requested notes
      ((relayed chunks jobEnd).map (.relay, ·)) := by
  have noKernel : framesBy .kernel ((relayed chunks jobEnd).map (FrameWriter.relay, ·)) = [] :=
    framesBy_map_other (by decide) _
  refine .closed job final chunks jobEnd tokensEq leftOver ⟨inactive, rfl, rfl, noted, ?_, ?_, ?_⟩
  · exact framesBy_map_self .relay _
  · rw [noKernel, List.nil_append]
    exact closes
  · rw [noKernel, List.map_nil, List.append_nil]
    exact fun _ => rfl

/-- A registered request handler requests its completion. -/
theorem Life.requests {tokens : Multiset StreamToken}
    (life : Life punctual channel tokens active handle .registered notes frames) :
    Life punctual channel ({.request} + tokens) active handle .requested notes frames := by
  cases life with
  | registered tokensEq inactive handleEq _ notesEq framesEq =>
      exact .asked (by rw [tokensEq, heldBy_none, add_zero, heldBy_some]) inactive handleEq rfl
        notesEq framesEq
  | registering _ _ _ phaseEq => cases phaseEq
  | asked _ _ _ phaseEq => cases phaseEq
  | assigned _ _ _ _ _ _ assigned => cases assigned.phaseEq
  | closed _ _ _ _ _ _ closed => cases closed.phaseEq

/-- A pending registration is of a stream whose life has just begun. -/
theorem Life.registration_cases {target : Nat}
    (life : Life punctual channel ({.registration target} + others) active handle phase notes
      frames) :
    target = channel ∧ others = 0 ∧ ¬ active ∧ notes = [] ∧ frames = [] := by
  cases life.holding with
  | registration tokenEq othersEq inactive notesEq framesEq =>
      exact ⟨StreamToken.registration.inj tokenEq, othersEq, inactive, notesEq, framesEq⟩
  | request tokenEq => cases tokenEq
  | job chunks jobEnd othersEq isActive underway => exact underway.elim
  | leftOver remaining chunks jobEnd othersEq leftOver => exact leftOver.elim
  | closing job next remaining chunks jobEnd tokenEq => cases tokenEq

/-- A pending request is the first thing that happens to a registered stream. -/
theorem Life.request_cases
    (life : Life punctual channel ({.request} + others) active handle phase notes frames) :
    others = 0 ∧ ¬ active ∧ handle = some channel ∧ phase = .requested ∧ notes = [] ∧
      frames = [] := by
  cases life.holding with
  | registration tokenEq => cases tokenEq
  | request tokenEq othersEq inactive handleEq phaseEq notesEq framesEq =>
      exact ⟨othersEq, inactive, handleEq, phaseEq, notesEq, framesEq⟩
  | job chunks jobEnd othersEq isActive underway => exact underway.elim
  | leftOver remaining chunks jobEnd othersEq leftOver => exact leftOver.elim
  | closing job next remaining chunks jobEnd tokenEq => cases tokenEq

/-- A verdict that is dropped leaves the stream as it is; the verdict on an active stream agrees
with how its job ended. -/
theorem Life.verdict_cases {token : StreamToken} (isVerdict : token.isVerdict = true)
    (life : Life punctual channel ({token} + others) active handle phase notes frames) :
    Life punctual channel others active handle phase notes frames ∧
      (active → others = 0 ∧ ∃ chunks jobEnd, Underway channel jobEnd (some token) ∧
        Assigned channel handle phase notes frames chunks jobEnd) := by
  cases life.holding with
  | registration tokenEq => simp [tokenEq, StreamToken.isVerdict] at isVerdict
  | request tokenEq => simp [tokenEq, StreamToken.isVerdict] at isVerdict
  | closing job next remaining chunks jobEnd tokenEq =>
      simp [tokenEq, StreamToken.isVerdict] at isVerdict
  | job chunks jobEnd othersEq isActive underway assigned =>
      exact ⟨.assigned none chunks jobEnd othersEq isActive trivial assigned,
        fun _ => ⟨othersEq, chunks, jobEnd, underway, assigned⟩⟩
  | leftOver remaining chunks jobEnd othersEq leftOver closed =>
      exact ⟨.closed none remaining chunks jobEnd (by rw [othersEq, heldBy_none, zero_add]) trivial
        closed, fun isActive => absurd isActive closed.inactive⟩

/-- An active stream is assigned. -/
theorem Life.active_cases {tokens : Multiset StreamToken}
    (life : Life punctual channel tokens active handle phase notes frames) (isActive : active) :
    ∃ job chunks jobEnd, tokens = heldBy job ∧ Underway channel jobEnd job ∧
      Assigned channel handle phase notes frames chunks jobEnd := by
  cases life with
  | registering tokensEq inactive => exact absurd isActive inactive
  | registered tokensEq inactive => exact absurd isActive inactive
  | asked tokensEq inactive => exact absurd isActive inactive
  | assigned job chunks jobEnd tokensEq _ underway assigned =>
      exact ⟨job, chunks, jobEnd, tokensEq, underway, assigned⟩
  | closed job remaining chunks jobEnd tokensEq leftOver closed =>
      exact absurd isActive closed.inactive

/-- What is left over when a tick closes the stream. -/
theorem Underway.leftOver {jobEnd : JobEnd} {job : Option StreamToken}
    (underway : Underway channel jobEnd job) : LeftOver channel jobEnd job := by
  cases job with
  | none => trivial
  | some token =>
      cases token with
      | running sender => exact underway
      | cleared => trivial
      | failed message => trivial
      | registration other => exact underway.elim
      | request => exact underway.elim
      | closing frames => exact underway.elim

/-- What the two writers put on the channel of a stream, each taken alone, by what the run told of
it. -/
structure FramesAgree (notes : List StreamNote) (frames : List (FrameWriter × StreamFrame))
    (finished : Prop) (chunks : List Value) (jobEnd : JobEnd) : Prop where
  /-- The relay read these chunks, and the job ended so. -/
  noted : Noted notes chunks jobEnd
  /-- The relay put what it read. -/
  relay : framesBy .relay frames = relayed chunks jobEnd
  /-- The kernel put nothing yet, or the first of the frames that the end of the job, or the expiry
  of the stream, calls for. -/
  kernel : framesBy .kernel frames = [] ∨
    ∃ final, ClosesWith (.expired ∈ notes) jobEnd final ∧ framesBy .kernel frames <+: final
  /-- In the end it put all of them. -/
  finished : finished → ClosesWith (.expired ∈ notes) jobEnd (framesBy .kernel frames)

/-- A stream that was neither relayed nor closed. -/
theorem FramesAgree.nothing {finished : Prop} (unfinished : ¬ finished) :
    FramesAgree [] [] finished [] .unfinished :=
  ⟨rfl, rfl, .inl rfl, fun finished => absurd finished unfinished⟩

/-- The frames on the channel of a stream, at any stage of its life: each writer's alone and, of a
punctual stream, the relay's before the kernel's. -/
theorem Life.written {tokens : Multiset StreamToken} {finished : Prop}
    (life : Life punctual channel tokens active handle phase notes frames)
    (requested : finished → phase = .requested) (inactive : finished → ¬ active)
    (processed : finished → .request ∉ tokens)
    (executed : finished → ∀ later, .closing later ∉ tokens) :
    ∃ chunks jobEnd, FramesAgree notes frames finished chunks jobEnd ∧
      (punctual → frames = (framesBy .relay frames).map (.relay, ·) ++
        (framesBy .kernel frames).map (.kernel, ·)) := by
  cases life with
  | registering _ _ _ phaseEq notesEq framesEq =>
      subst phaseEq notesEq framesEq
      refine ⟨[], .unfinished, .nothing fun finished => ?_, fun _ => rfl⟩
      exact absurd (requested finished) (by decide)
  | registered _ _ _ phaseEq notesEq framesEq =>
      subst phaseEq notesEq framesEq
      refine ⟨[], .unfinished, .nothing fun finished => ?_, fun _ => rfl⟩
      exact absurd (requested finished) (by decide)
  | asked tokensEq _ _ _ notesEq framesEq =>
      subst notesEq framesEq
      refine ⟨[], .unfinished, .nothing fun finished => processed finished ?_, fun _ => rfl⟩
      rw [tokensEq]
      exact Multiset.mem_singleton_self _
  | assigned job chunks jobEnd tokensEq isActive underway assigned =>
      have noKernel : framesBy .kernel frames = [] := by
        rw [assigned.framesEq]
        exact framesBy_map_other (by decide) _
      have relayFrames : framesBy .relay frames = relayed chunks jobEnd := by
        rw [assigned.framesEq, framesBy_map_self]
      refine ⟨chunks, jobEnd, ⟨assigned.noted, relayFrames, .inl noKernel, ?_⟩, ?_⟩
      · exact fun finished => absurd isActive (inactive finished)
      · intro _
        rw [noKernel, relayFrames, List.map_nil, List.append_nil]
        exact assigned.framesEq
  | closed job remaining chunks jobEnd tokensEq leftOver closed =>
      refine ⟨chunks, jobEnd, ⟨closed.noted, closed.relayFrames,
        .inr ⟨_, closed.closes, List.prefix_append _ remaining⟩, ?_⟩, ?_⟩
      · intro finished
        cases remaining with
        | nil => simpa using closed.closes
        | cons next rest =>
            refine absurd ?_ (executed finished ((channel, next) :: rest.map (channel, ·)))
            rw [tokensEq]
            exact Multiset.mem_add.mpr (.inr (Multiset.mem_singleton_self _))
      · intro onTime
        rw [closed.relayFrames]
        exact closed.inOrder onTime

end Life

/-! ### Processing a message

What the runtime makes of a message, seen from one stream, is one of a few kinds of steps, and each
leads from one stage of the life to the next. -/

section Processing

variable {WId SId SubId SubH : Type} [DecidableEq SId]

/-- The phase of a request handler once a message was processed. -/
def RuntimeMessage.acknowledgedPhase (channel : Nat) (phase : ClientPhase) :
    RuntimeMessage WId SId SubId WorkerSlot Nat SubH → ClientPhase
  | .command (.registerStream target _) => if target = channel then .registered else phase
  | _ => phase

theorem Event.tokens_cases (event : Event WId SId SubId) (sid : SId) :
    event.tokens sid = 0 ∨ (event.requestedStream? = some sid ∧ event.tokens sid = {.request}) ∨
      ∃ token, token.isVerdict = true ∧ event.tokens sid = {token} := by
  have own : ∀ owner token, ownToken sid owner token = 0 ∨
      owner = sid ∧ ownToken sid owner token = {token} := by
    intro owner token
    by_cases same : owner = sid
    · exact .inr ⟨same, by rw [same, ownToken_self]⟩
    · exact .inl (ownToken_other same token)
  cases event with
  | httpChatRequested clientStreamId payload stream capability =>
      rcases own clientStreamId .request with none | ⟨rfl, held⟩
      · exact .inl none
      · exact .inr (.inl ⟨rfl, held⟩)
  | assignmentCleared clientStreamId =>
      rcases own clientStreamId .cleared with none | ⟨_, held⟩
      · exact .inl none
      · exact .inr (.inr ⟨.cleared, rfl, held⟩)
  | assignmentFailed clientStreamId message =>
      rcases own clientStreamId (.failed message) with none | ⟨_, held⟩
      · exact .inl none
      · exact .inr (.inr ⟨.failed message, rfl, held⟩)
  | _ => exact .inl rfl

omit [DecidableEq SId] in
/-- A message that stands for an event registers no stream. -/
theorem acknowledgedPhase_of_event {message : RuntimeMessage WId SId SubId WorkerSlot Nat SubH}
    {tick : Nat} {event : Event WId SId SubId} (occurs : message.kernelEvent? tick = some event)
    (channel : Nat) (phase : ClientPhase) : message.acknowledgedPhase channel phase = phase := by
  cases message with
  | event occurred => rfl
  | command command =>
      cases command with
      | registerStream target drawn => cases occurs
      | _ => rfl

/-- What a message may hold of a stream: nothing, its registration, its request, or a verdict on its
job. -/
theorem tokens_cases (message : RuntimeMessage WId SId SubId WorkerSlot Nat SubH) (tick : Nat)
    (sid : SId) :
    (message.tokens sid = 0 ∧ ∀ target, message ≠ .command (.registerStream target sid)) ∨
      (∃ target, message = .command (.registerStream target sid)) ∨
      (∃ event, message.kernelEvent? tick = some event ∧
        (event.requestedStream? = some sid ∧ message.tokens sid = {.request} ∨
          ∃ token, token.isVerdict = true ∧ message.tokens sid = {token})) := by
  cases occurs : message.kernelEvent? tick with
  | some event =>
      have notRegistration : ∀ target, message ≠ .command (.registerStream target sid) := by
        intro target same
        rw [same] at occurs
        cases occurs
      rcases event.tokens_cases sid with none | request | verdict
      · exact .inl ⟨(tokens_of_kernelEvent? occurs).trans none, notRegistration⟩
      · refine .inr (.inr ⟨event, rfl, .inl ?_⟩)
        rw [tokens_of_kernelEvent? occurs]
        exact request
      · refine .inr (.inr ⟨event, rfl, .inr ?_⟩)
        rw [tokens_of_kernelEvent? occurs]
        exact verdict
  | none =>
      cases message with
      | event occurred => cases occurs
      | command command =>
          cases command with
          | registerStream target drawn =>
              by_cases own : drawn = sid
              · exact .inr (.inl ⟨target, by rw [own]⟩)
              · refine .inl ⟨ownToken_other own _, fun other same => ?_⟩
                cases same
                exact own rfl
          | queryState => exact .inl ⟨rfl, fun target => by simp⟩
          | querySessionEntries sessionId start limit => exact .inl ⟨rfl, fun target => by simp⟩
          | _ => cases occurs

/-- A message that does not register the stream leaves its handle as it is. -/
theorem lookup_register_of_notOwn [DecidableEq WId] [DecidableEq SubId] {sid : SId}
    {message : RuntimeMessage WId SId SubId WorkerSlot Nat SubH}
    (notOwn : ∀ target, message ≠ .command (.registerStream target sid))
    (registry : ChannelRegistry WId SId SubId WorkerSlot Nat SubH) :
    (message.register registry).streams.lookup sid = registry.streams.lookup sid := by
  cases message with
  | event occurred => rfl
  | command command =>
      cases command with
      | registerStream target drawn =>
          have other : sid ≠ drawn := by
            intro same
            exact notOwn target (by rw [same])
          exact AssocMap.lookup_update_ne _ _ other
      | _ => rfl

omit [DecidableEq SId] in
/-- Its request handler, too, is left as it is. -/
theorem acknowledgedPhase_of_notOwn {sid : SId} {channel : Nat}
    {message : RuntimeMessage WId SId SubId WorkerSlot Nat SubH}
    (notOwn : ∀ target, message ≠ .command (.registerStream target sid))
    (elsewhere : ∀ target drawn, message = .command (.registerStream target drawn) →
      drawn ≠ sid → target ≠ channel) (phase : ClientPhase) :
    message.acknowledgedPhase channel phase = phase := by
  cases message with
  | event occurred => rfl
  | command command =>
      cases command with
      | registerStream target drawn =>
          have other : drawn ≠ sid := by
            intro same
            exact notOwn target (by rw [same])
          exact if_neg (elsewhere target drawn rfl other)
      | _ => rfl

variable [LinearOrder WId] [DecidableEq SubId] {sid : SId} {punctual : Prop}
  {channel : Nat} {others : Multiset StreamToken} {phase : ClientPhase} {notes : List StreamNote}
  {frames : List (FrameWriter × StreamFrame)}
  {message : RuntimeMessage WId SId SubId WorkerSlot Nat SubH}
  {before after : GatewayRuntime WId SId SubId WorkerSlot Nat SubH}
  {output : RuntimeOutput WId SId SubId WorkerSlot Nat SubH}

/-- A message that does not concern the active stream, or registers it. -/
theorem Life.quiet
    (life : Life punctual channel (message.tokens sid + others)
      (sid ∈ before.state.activeStreams) (before.registry.streams.lookup sid) phase notes frames)
    (noRequest : ∀ event, message.kernelEvent? before.state.tick = some event →
      event.requestedStream? ≠ some sid)
    (elsewhere : ∀ target drawn, message = .command (.registerStream target drawn) →
      drawn ≠ sid → target ≠ channel) :
    Life punctual channel others (sid ∈ before.state.activeStreams)
      ((message.register before.registry).streams.lookup sid)
      (message.acknowledgedPhase channel phase) notes frames := by
  rcases tokens_cases message before.state.tick sid with
    ⟨none, notOwn⟩ | ⟨target, rfl⟩ | ⟨event, occurs, ⟨request, _⟩ | ⟨token, isVerdict, verdict⟩⟩
  · rw [lookup_register_of_notOwn notOwn, acknowledgedPhase_of_notOwn notOwn elsewhere]
    rwa [none, zero_add] at life
  · rw [RuntimeMessage.tokens, ownToken_self] at life
    obtain ⟨rfl, othersEq, inactive, notesEq, framesEq⟩ := life.registration_cases
    exact .registered othersEq inactive (AssocMap.lookup_update_self _ _ _) (if_pos rfl) notesEq
      framesEq
  · exact absurd request (noRequest event occurs)
  · rw [verdict] at life
    rw [register_streams_of_event occurs, acknowledgedPhase_of_event occurs]
    exact (life.verdict_cases isVerdict).1

omit [LinearOrder WId] [DecidableEq SubId] in
/-- A task that fails a stream holds its two terminal frames. -/
theorem taskTokens_errorThenDone {task : List (ResolvedEffect SId SubId WorkerSlot Nat SubH)}
    {text : String} (same : resolvedFor sid task = errorThenDone (sid, channel) text) :
    taskTokens sid task =
      heldBy (closing? ([StreamFrame.error text, .done].map (channel, ·))) := by
  rw [taskTokens_of_resolvedFor same]
  simp [errorThenDone, Effect.runningToken, Effect.channelFrame?]

omit [DecidableEq SId] [LinearOrder WId] [DecidableEq SubId] in
theorem errorMessage?_errorThenDone (text : String) :
    (errorThenDone (sid, channel) text :
      List (ResolvedEffect SId SubId WorkerSlot Nat SubH)).findSome? Effect.errorMessage? =
        some text :=
  rfl

/-- A message that is no request for the stream, and at which it does not expire, tells nothing. -/
theorem note?_of_quiet
    (noRequest : ∀ event, message.kernelEvent? before.state.tick = some event →
      event.requestedStream? ≠ some sid)
    (noExpiry : message.kernelEvent? before.state.tick = some .tick →
      sid ∈ before.state.activeStreams → sid ∈ after.state.activeStreams)
    (resolved : List (ResolvedEffect SId SubId WorkerSlot Nat SubH))
    (fallbacks : List (Event WId SId SubId)) :
    message.note? sid before.state after.state resolved fallbacks = none := by
  rw [RuntimeMessage.note?]
  split
  · rename_i tick
    exact if_neg fun expiry => expiry.2 (noExpiry tick expiry.1)
  · rename_i clientStreamId payload stream capability request
    exact if_neg fun own => noRequest _ request (congrArg some own)
  · rfl

/-- A report of the relay tells nothing that the relay has not told. -/
theorem note?_of_report {event : Event WId SId SubId}
    (report : message.kernelEvent? before.state.tick = some event)
    (noRequest : event.requestedStream? = none) (noTick : event ≠ .tick)
    (resolved : List (ResolvedEffect SId SubId WorkerSlot Nat SubH))
    (fallbacks : List (Event WId SId SubId)) :
    message.note? sid before.state after.state resolved fallbacks = none := by
  apply note?_of_quiet
  · intro other occurs
    obtain rfl := Option.some.inj (report.symm.trans occurs)
    simp [noRequest]
  · exact fun tick => absurd (Option.some.inj (report.symm.trans tick)) noTick

/-- A tick that closes the stream tells of its expiry. -/
theorem note?_of_expiry (tick : message.kernelEvent? before.state.tick = some .tick)
    (active : sid ∈ before.state.activeStreams) (inactive : sid ∉ after.state.activeStreams)
    (resolved : List (ResolvedEffect SId SubId WorkerSlot Nat SubH))
    (fallbacks : List (Event WId SId SubId)) :
    message.note? sid before.state after.state resolved fallbacks = some .expired := by
  rw [RuntimeMessage.note?, tick]
  exact if_pos ⟨active, inactive⟩

/-- What a request tells of its stream. -/
theorem note?_of_request {payload : Value} {stream : Bool} {capability : Capability}
    (request : message.kernelEvent? before.state.tick =
      some (.httpChatRequested sid payload stream capability))
    (resolved : List (ResolvedEffect SId SubId WorkerSlot Nat SubH))
    (fallbacks : List (Event WId SId SubId)) :
    message.note? sid before.state after.state resolved fallbacks =
      if sid ∈ after.state.activeStreams then
        ((fallbacksFor sid fallbacks).findSome? Event.failureMessage?).map .undispatched
      else ((resolvedFor sid resolved).findSome? Effect.errorMessage?).map .rejected := by
  rw [RuntimeMessage.note?, request]
  exact if_pos rfl

/-- The next stage in the life of a stream when a message is processed. -/
theorem Life.processed
    (life : Life punctual channel (message.tokens sid + others)
      (sid ∈ before.state.activeStreams) (before.registry.streams.lookup sid) phase notes frames)
    (step : RuntimeStreamStep sid message before after output)
    (elsewhere : ∀ target drawn, message = .command (.registerStream target drawn) →
      drawn ≠ sid → target ≠ channel) :
    Life punctual channel
      (taskTokens sid output.resolved +
        held (fun event => event.tokens sid) (fallbacksFor sid output.fallbacks) + others)
      (sid ∈ after.state.activeStreams) (after.registry.streams.lookup sid)
      (message.acknowledgedPhase channel phase)
      (notes ++
        (message.note? sid before.state after.state output.resolved output.fallbacks).toList)
      frames := by
  cases step with
  | quiet noRequest same handle resolved fallbacks =>
      rw [note?_of_quiet noRequest fun _ => same.mpr, Option.toList_none, List.append_nil,
        taskTokens_of_resolvedFor resolved, fallbacks, handle, propext same]
      have next := life.quiet noRequest elsewhere
      rwa [← zero_add others] at next
  | rejected payload stream capability text request same handle resolved fallbacks =>
      rw [tokens_of_kernelEvent? request, Event.tokens, ownToken_self] at life
      obtain ⟨rfl, inactive, registered, rfl, rfl, rfl⟩ := life.request_cases
      rw [registered, Option.toList_some, List.flatMap_singleton] at resolved
      have stillInactive : sid ∉ after.state.activeStreams := mt same.mp inactive
      rw [taskTokens_errorThenDone resolved, fallbacks, handle, acknowledgedPhase_of_event request,
        note?_of_request request, if_neg stillInactive, resolved, errorMessage?_errorThenDone]
      -- no relay ever had the job, so the channel is empty
      have noted : Noted [.rejected text] [] (.rejected text) := rfl
      exact .of_closing none _ (by simp) stillInactive trivial noted (.rejected text (by simp))
  | dispatched payload capability workerHandle streamHandle request inactive active registered
      handle resolved fallbacks =>
      rw [tokens_of_kernelEvent? request, Event.tokens, ownToken_self] at life
      obtain ⟨rfl, _, known, rfl, rfl, rfl⟩ := life.request_cases
      obtain rfl := Option.some.inj (known.symm.trans registered)
      rw [taskTokens_of_resolvedFor resolved, fallbacks, handle, acknowledgedPhase_of_event request,
        note?_of_request request, if_pos active, fallbacks]
      exact .assigned (some (.running channel)) [] .unfinished rfl active ⟨rfl, rfl⟩
        ⟨rfl, rfl, rfl, List.not_mem_nil, rfl⟩
  | undispatchable payload capability text request inactive active handle resolved fallbacks =>
      rw [tokens_of_kernelEvent? request, Event.tokens, ownToken_self] at life
      obtain ⟨rfl, _, known, rfl, rfl, rfl⟩ := life.request_cases
      rw [taskTokens_of_resolvedFor resolved, handle, known, acknowledgedPhase_of_event request,
        note?_of_request request, if_pos active, fallbacks]
      refine .assigned (some (.failed text)) [] (.undispatched text) ?_ active rfl
        ⟨rfl, rfl, rfl, by simp, rfl⟩
      simp [Event.tokens, closing?]
  | cleared report active inactive handle resolved fallbacks =>
      rw [tokens_of_kernelEvent? report, Event.tokens, ownToken_self] at life
      obtain ⟨rfl, chunks, jobEnd, rfl, assigned⟩ := (life.verdict_cases rfl).2 active
      obtain ⟨known, rfl, noted, inTime, rfl⟩ := assigned
      rw [known] at resolved
      rw [note?_of_report report rfl (by simp), Option.toList_none, List.append_nil,
        taskTokens_of_resolvedFor resolved, fallbacks, handle, acknowledgedPhase_of_event report]
      refine .of_closing none [.done] ?_ inactive trivial noted (.ended inTime)
      simp [Effect.runningToken, Effect.channelFrame?]
  | failed text report active inactive handle resolved fallbacks =>
      rw [fallbacks, handle]
      rcases report with report | ⟨tick, rfl⟩
      · rw [tokens_of_kernelEvent? report, Event.tokens, ownToken_self] at life
        obtain ⟨rfl, chunks, jobEnd, verdict, assigned⟩ := (life.verdict_cases rfl).2 active
        obtain ⟨known, rfl, noted, inTime, rfl⟩ := assigned
        rw [known, Option.toList_some, List.flatMap_singleton] at resolved
        rw [note?_of_report report rfl (by simp), Option.toList_none, List.append_nil,
          taskTokens_errorThenDone resolved, acknowledgedPhase_of_event report]
        exact .of_closing none [.error text, .done] (by simp) inactive trivial noted
          (.of_failure verdict inTime)
      · have silent : message.tokens sid = 0 := tokens_of_kernelEvent? tick
        rw [silent, zero_add] at life
        obtain ⟨job, chunks, jobEnd, rfl, underway, known, rfl, noted, _, rfl⟩ :=
          life.active_cases active
        rw [known, Option.toList_some, List.flatMap_singleton] at resolved
        rw [note?_of_expiry tick active inactive, taskTokens_errorThenDone resolved,
          acknowledgedPhase_of_event tick]
        refine .of_closing job timedOut ?_ inactive underway.leftOver noted.expires
          (.expired jobEnd (by simp))
        rw [held_nil, add_zero, add_comm]
        rfl

/-- A message about other streams does nothing to an id that was not drawn, and tells nothing of
it. -/
theorem RuntimeStreamStep.unused (step : RuntimeStreamStep sid message before after output)
    (nothing : message.tokens sid = 0) (wasInactive : sid ∉ before.state.activeStreams)
    (noHandle : before.registry.streams.lookup sid = none) :
    message.note? sid before.state after.state output.resolved output.fallbacks = none ∧
      taskTokens sid output.resolved +
        held (fun event => event.tokens sid) (fallbacksFor sid output.fallbacks) = 0 ∧
      sid ∉ after.state.activeStreams ∧ after.registry.streams.lookup sid = none := by
  have noRequest : ∀ payload stream capability, message.kernelEvent? before.state.tick ≠
      some (.httpChatRequested sid payload stream capability) := by
    intro payload stream capability request
    rw [tokens_of_kernelEvent? request, Event.tokens, ownToken_self] at nothing
    simp at nothing
  cases step with
  | quiet noRequest same handle resolved fallbacks =>
      have notOwn : ∀ target, message ≠ .command (.registerStream target sid) := by
        intro target own
        rw [own, RuntimeMessage.tokens, ownToken_self] at nothing
        simp at nothing
      rw [note?_of_quiet noRequest fun _ => same.mpr, taskTokens_of_resolvedFor resolved, fallbacks,
        handle, lookup_register_of_notOwn notOwn]
      exact ⟨rfl, rfl, mt same.mp wasInactive, noHandle⟩
  | rejected payload stream capability text request => exact absurd request (noRequest _ _ _)
  | dispatched payload capability workerHandle streamHandle request =>
      exact absurd request (noRequest _ _ _)
  | undispatchable payload capability text request => exact absurd request (noRequest _ _ _)
  | cleared report active => exact absurd active wasInactive
  | failed text report active => exact absurd active wasInactive

end Processing

end ProstheticConscience.Gateway
