/-
Module: ProstheticConscience.Consensus.Fragments
Purpose: What a streamed response assembles to, however its content and its tool calls are cut
  into fragments, and when its finish reason is the last one given.
Trusted boundary: none
Main exports: expectedError?, IsAssembled, Refragmented, AssemblesAsGiven, FinishBesideDelta,
  assembles_as_given_iff
-/
import Mathlib.Data.List.Induction
import Mathlib.Data.List.Sort
import ProstheticConscience.Consensus.Response
import ProstheticConscience.Library.Recut

namespace ProstheticConscience.Consensus

/-! ### What the chunks carry -/

/-- The choice of a chunk that is looked at. -/
def choice? (chunk : Value) : Option Value :=
  ((chunk.get "choices").bind Value.asArray).bind List.head?

def delta? (chunk : Value) : Option Value :=
  (choice? chunk).bind (·.get "delta")

def role? (chunk : Value) : Option String :=
  (delta? chunk).bind (strMember · "role")

def content? (chunk : Value) : Option String :=
  (delta? chunk).bind (strMember · "content")

def finishReason? (chunk : Value) : Option String :=
  (choice? chunk).bind (strMember · "finish_reason")

/-- What a fragment of a tool call says. -/
structure CallFragment where
  id : Option String
  callType : Option String
  name : Option String
  arguments : Option String
deriving DecidableEq, Repr

def CallFragment.read (tc : Value) : CallFragment where
  id := strMember tc "id"
  callType := strMember tc "type"
  name := (tc.get "function").bind (strMember · "name")
  arguments := (tc.get "function").bind (strMember · "arguments")

/-- The fragments of tool calls that a chunk carries. -/
def callValues (chunk : Value) : List Value :=
  (((delta? chunk).bind (·.get "tool_calls")).bind Value.asArray).getD []

/-- The fragments with an index. -/
def fragmentsAt (usizeBits index : Nat) (tcs : List Value) : List CallFragment :=
  (tcs.filter fun tc => decide (fragmentIndex usizeBits tc = index)).map CallFragment.read

/-- The fragments of the tool call with an index. -/
def callFragments (usizeBits index : Nat) (chunks : List Value) : List CallFragment :=
  fragmentsAt usizeBits index (chunks.flatMap callValues)

/-- The first text given that is not empty. -/
def firstGiven (texts : List (Option String)) : String :=
  ((texts.filterMap id).find? fun text => !text.isEmpty).getD ""

/-- The tool call that fragments add up to. -/
def callOf (fragments : List CallFragment) : RawToolCall where
  id := firstGiven (fragments.map (·.id))
  callType := firstGiven (fragments.map (·.callType))
  function := {
    name := firstGiven (fragments.map (·.name))
    arguments := String.join (fragments.filterMap (·.arguments)) }

/-- A chunk without a usable choices array. -/
def choicesError? (chunk : Value × Nat) : Option AssemblerError :=
  match (chunk.1.get "choices").bind Value.asArray with
  | none => some (.missingChoices chunk.2)
  | some [] => some (.emptyChoices chunk.2)
  | some (_ :: _) => none

def roleError? (role : String) : Option AssemblerError :=
  if role.isEmpty ∨ role = "assistant" then none else some (.unexpectedRole role)

/-- Emptiness comes first, then the first chunk without usable choices, then the role. -/
def expectedError? (chunks : List Value) : Option AssemblerError :=
  if chunks = [] then some .empty
  else (chunks.zipIdx.findSome? choicesError?).or (roleError? (firstGiven (chunks.map role?)))

/-- The message that the fragments of all chunks add up to. -/
structure IsAssembled (usizeBits : Nat) (chunks : List Value)
    (message : CompletedAssistantMessage) : Prop where
  content : message.content =
    if chunks.filterMap content? = [] then none else some (String.join (chunks.filterMap content?))
  toolCalls : ∃ indices : List Nat, indices.Pairwise (· < ·) ∧
    (∀ index, index ∈ indices ↔ callFragments usizeBits index chunks ≠ []) ∧
    message.toolCalls = indices.map fun index => callOf (callFragments usizeBits index chunks)
  finishReason : message.finishReason =
    (chunks.filterMap finishReason?).getLast?.map parseFinishReason

/-! ### Chunk by chunk

The loop of the source is taken apart by its accumulators: each is a fold over the chunks of its
own, which sees the parts of a chunk that concern it. -/

/-- Take in a chunk with usable choices. -/
def Assembly.take (usizeBits : Nat) (assembly : Assembly) (chunk : Value) : Assembly :=
  ((choice? chunk).bind fun choice =>
    (choice.get "delta").map (assembly.absorbDelta usizeBits choice)).getD assembly

theorem absorbChunk_eq (usizeBits : Nat) (assembly : Assembly) (chunk : Value × Nat) :
    assembly.absorbChunk usizeBits chunk =
      (choicesError? chunk).elim (.ok (assembly.take usizeBits chunk.1)) .error := by
  unfold Assembly.absorbChunk choicesError? Assembly.take choice?
  cases (chunk.1.get "choices").bind Value.asArray with
  | none => rfl
  | some choices =>
      cases choices with
      | nil => rfl
      | cons choice rest => cases found : choice.get "delta" <;> simp [found]

/-- Chunks are taken in up to the first without usable choices. -/
theorem foldlM_absorbChunk (usizeBits : Nat) (chunks : List Value) (start : Nat)
    (assembly : Assembly) :
    (chunks.zipIdx start).foldlM (Assembly.absorbChunk usizeBits) assembly =
      ((chunks.zipIdx start).findSome? choicesError?).elim
        (.ok (chunks.foldl (Assembly.take usizeBits) assembly)) .error := by
  induction chunks generalizing start assembly with
  | nil => rfl
  | cons chunk rest ih =>
      rw [List.zipIdx_cons, List.foldlM_cons, absorbChunk_eq, List.findSome?_cons]
      cases choicesError? (chunk, start) with
      | some error => rfl
      | none => exact ih (start + 1) (assembly.take usizeBits chunk)

/-- The finish reason of a chunk whose choice has a delta. -/
def finishBesideDelta? (chunk : Value) : Option String :=
  (delta? chunk).bind fun _ => finishReason? chunk

section Take

variable (usizeBits : Nat) (assembly : Assembly) (chunk : Value)

theorem take_role :
    (assembly.take usizeBits chunk).role = takeFirst assembly.role (role? chunk) := by
  unfold Assembly.take role? delta?
  cases choice? chunk with
  | none => rfl
  | some choice =>
      cases found : choice.get "delta" <;> simp [found, takeFirst, Assembly.absorbDelta]

/-- A further fragment of the content. -/
def appendContent (content : Option String) (fragment : String) : Option String :=
  some (content.getD "" ++ fragment)

theorem take_content : (assembly.take usizeBits chunk).content =
    (content? chunk).toList.foldl appendContent assembly.content := by
  unfold Assembly.take content? delta?
  cases choice? chunk with
  | none => rfl
  | some choice =>
      cases found : choice.get "delta" with
      | none => simp [found]
      | some delta =>
          cases fragment : strMember delta "content" <;>
            simp [found, fragment, Assembly.absorbDelta, appendContent]

/-- A later finish reason replaces an earlier one. -/
def replaceReason (_ : Option FinishReason) (reason : String) : Option FinishReason :=
  some (parseFinishReason reason)

theorem take_finishReason : (assembly.take usizeBits chunk).finishReason =
    (finishBesideDelta? chunk).toList.foldl replaceReason assembly.finishReason := by
  unfold Assembly.take finishBesideDelta? finishReason? delta?
  cases choice? chunk with
  | none => rfl
  | some choice =>
      cases found : choice.get "delta" with
      | none => simp [found]
      | some delta =>
          cases reason : strMember choice "finish_reason" <;>
            simp [found, reason, Assembly.absorbDelta, replaceReason]

theorem take_toolCalls : (assembly.take usizeBits chunk).toolCalls =
    (callValues chunk).foldl (fun calls tc => absorbAt (fragmentIndex usizeBits tc) tc calls)
      assembly.toolCalls := by
  unfold Assembly.take callValues delta?
  cases choice? chunk with
  | none => rfl
  | some choice => cases found : choice.get "delta" <;> simp [found, Assembly.absorbDelta]

end Take

/-- A field that takes in the events of each chunk takes in the events of all chunks. -/
theorem foldl_take {γ δ : Type} {usizeBits : Nat} {field : Assembly → γ}
    {events : Value → List δ} {step : γ → δ → γ}
    (taken : ∀ assembly chunk,
      field (assembly.take usizeBits chunk) = (events chunk).foldl step (field assembly))
    (chunks : List Value) (assembly : Assembly) :
    field (chunks.foldl (Assembly.take usizeBits) assembly) =
      (chunks.flatMap events).foldl step (field assembly) := by
  induction chunks generalizing assembly with
  | nil => rfl
  | cons chunk rest ih =>
      rw [List.foldl_cons, ih, taken, List.flatMap_cons, List.foldl_append]

/-! ### First, all, last -/

theorem takeFirst_of_nonempty {current : String} (given : ¬current.isEmpty) (text : Option String) :
    takeFirst current text = current := by
  cases text with
  | none => rfl
  | some text =>
      rw [takeFirst, if_neg]
      simpa using fun _ => given

theorem foldl_takeFirst_of_nonempty {current : String} (given : ¬current.isEmpty)
    (texts : List (Option String)) : texts.foldl takeFirst current = current := by
  induction texts with
  | nil => rfl
  | cons text rest ih => rw [List.foldl_cons, takeFirst_of_nonempty given, ih]

/-- What is taken first is the first text given. -/
theorem foldl_takeFirst (texts : List (Option String)) :
    texts.foldl takeFirst "" = firstGiven texts := by
  induction texts with
  | nil => rfl
  | cons text rest ih =>
      cases text with
      | none => exact ih
      | some text =>
          rw [List.foldl_cons, firstGiven, List.filterMap_cons]
          by_cases empty : text.isEmpty
          · rw [takeFirst, if_neg (by simp [empty]), ih, firstGiven]
            simp [empty]
          · rw [takeFirst, if_pos (by simpa using empty), foldl_takeFirst_of_nonempty empty]
            simp [empty]

theorem foldl_appendContent (fragments : List String) :
    fragments.foldl appendContent none =
      if fragments = [] then none else some (String.join fragments) := by
  have grows : ∀ (fragments : List String) (current : String),
      fragments.foldl appendContent (some current) = some (current ++ String.join fragments) := by
    intro fragments
    induction fragments with
    | nil => simp
    | cons fragment rest ih =>
        intro current
        rw [List.foldl_cons, appendContent, ih, String.join_cons, Option.getD_some,
          String.append_assoc]
  cases fragments with
  | nil => rfl
  | cons fragment rest =>
      rw [List.foldl_cons, appendContent, grows, String.join_cons]
      simp

theorem foldl_replaceReason (reasons : List String) :
    reasons.foldl replaceReason none = reasons.getLast?.map parseFinishReason := by
  induction reasons using List.reverseRecOn with
  | nil => rfl
  | append_singleton earlier last _ => simp [replaceReason]

/-! ### One tool call -/

def ToolCallAccumulator.takeFragment (acc : ToolCallAccumulator) (fragment : CallFragment) :
    ToolCallAccumulator where
  id := takeFirst acc.id fragment.id
  callType := takeFirst acc.callType fragment.callType
  functionName := takeFirst acc.functionName fragment.name
  argumentsJson := acc.argumentsJson ++ fragment.arguments.getD ""

/-- What is written into a tool call, field by field. -/
theorem foldl_takeFragment (acc : ToolCallAccumulator) (fragments : List CallFragment) :
    fragments.foldl ToolCallAccumulator.takeFragment acc = {
      id := (fragments.map (·.id)).foldl takeFirst acc.id
      callType := (fragments.map (·.callType)).foldl takeFirst acc.callType
      functionName := (fragments.map (·.name)).foldl takeFirst acc.functionName
      argumentsJson := acc.argumentsJson ++ String.join (fragments.filterMap (·.arguments)) } := by
  induction fragments generalizing acc with
  | nil => simp
  | cons fragment rest ih =>
      rw [List.foldl_cons, ih]
      cases given : fragment.arguments <;>
        simp [given, ToolCallAccumulator.takeFragment, String.append_assoc]

theorem toCall_foldl_takeFragment (fragments : List CallFragment) :
    (fragments.foldl ToolCallAccumulator.takeFragment .new).toCall = callOf fragments := by
  rw [foldl_takeFragment, callOf, ← foldl_takeFirst, ← foldl_takeFirst, ← foldl_takeFirst]
  simp [ToolCallAccumulator.toCall, ToolCallAccumulator.new]

/-! ### The tool calls by index

The source keeps the calls in a map from the index to an accumulator. Seen from one index, only the
fragments with this index count, in their order. -/

section ByIndex

variable {calls : List (Nat × ToolCallAccumulator)} {index : Nat} {tc : Value}

theorem mem_keys_absorbAt {key : Nat} :
    key ∈ (absorbAt index tc calls).map (·.1) ↔ key = index ∨ key ∈ calls.map (·.1) := by
  induction calls with
  | nil => simp [absorbAt]
  | cons call rest ih =>
      unfold absorbAt
      split_ifs with less same
      · simp
      · simp [same]
      · rw [List.map_cons, List.mem_cons, ih, List.map_cons, List.mem_cons, or_left_comm]

/-- The indices stay in increasing order. -/
theorem absorbAt_increasing (increasing : (calls.map (·.1)).Pairwise (· < ·)) :
    ((absorbAt index tc calls).map (·.1)).Pairwise (· < ·) := by
  induction calls with
  | nil => exact List.pairwise_singleton _ _
  | cons call rest ih =>
      obtain ⟨above, restIncreasing⟩ := List.pairwise_cons.mp increasing
      unfold absorbAt
      split_ifs with less same
      · apply List.pairwise_cons.mpr
        refine ⟨?_, increasing⟩
        intro key member
        rcases List.mem_cons.mp member with rfl | member
        · exact less
        · exact less.trans (above key member)
      · exact increasing
      · apply List.pairwise_cons.mpr
        refine ⟨?_, ih restIncreasing⟩
        intro key member
        rcases mem_keys_absorbAt.mp member with rfl | member
        · exact Nat.lt_of_le_of_ne (Nat.le_of_not_lt less) (Ne.symm same)
        · exact above key member

theorem lookup_eq_none_of_above (above : ∀ key ∈ calls.map (·.1), index < key) :
    calls.lookup index = none := by
  rw [List.lookup_eq_none_iff]
  intro call member
  have less := above call.1 (List.mem_map_of_mem member)
  simpa using less.ne

/-- Only the tool call at the index of the fragment changes. -/
theorem lookup_absorbAt (increasing : (calls.map (·.1)).Pairwise (· < ·)) (key : Nat) :
    (absorbAt index tc calls).lookup key =
      if key = index then some (((calls.lookup index).getD .new).absorb tc)
      else calls.lookup key := by
  induction calls with
  | nil => rw [absorbAt, Value.lookup_member]; rfl
  | cons call rest ih =>
      obtain ⟨above, restIncreasing⟩ := List.pairwise_cons.mp increasing
      obtain ⟨other, acc⟩ := call
      rw [absorbAt]
      by_cases less : index < other
      · have absent : List.lookup index ((other, acc) :: rest) = none := by
          apply lookup_eq_none_of_above
          intro member isKey
          rcases List.mem_cons.mp isKey with rfl | later
          · exact less
          · exact less.trans (above member later)
        rw [if_pos less, Value.lookup_member, absent]
        rfl
      · by_cases same : index = other
        · subst same
          rw [if_neg less, if_pos rfl, Value.lookup_member, Value.lookup_member,
            Value.lookup_member, if_pos rfl]
          by_cases here : key = index <;> simp [here]
        · rw [if_neg less, if_neg same, Value.lookup_member, ih restIncreasing,
            Value.lookup_member other index, if_neg same, Value.lookup_member]
          by_cases here : key = index
          · rw [here, if_neg same, if_pos rfl, if_pos rfl]
          · rw [if_neg here, if_neg here]

/-- The tool calls that fragments are taken into. -/
def gather (usizeBits : Nat) (tcs : List Value) : List (Nat × ToolCallAccumulator) :=
  tcs.foldl (fun calls tc => absorbAt (fragmentIndex usizeBits tc) tc calls) []

theorem gather_concat (usizeBits : Nat) (tcs : List Value) (tc : Value) :
    gather usizeBits (tcs ++ [tc]) =
      absorbAt (fragmentIndex usizeBits tc) tc (gather usizeBits tcs) := by
  rw [gather, List.foldl_append]
  rfl

theorem gather_increasing (usizeBits : Nat) (tcs : List Value) :
    ((gather usizeBits tcs).map (·.1)).Pairwise (· < ·) := by
  induction tcs using List.reverseRecOn with
  | nil => exact List.Pairwise.nil
  | append_singleton earlier tc ih =>
      rw [gather_concat]
      exact absorbAt_increasing ih

theorem fragmentsAt_append (usizeBits index : Nat) (earlier later : List Value) :
    fragmentsAt usizeBits index (earlier ++ later) =
      fragmentsAt usizeBits index earlier ++ fragmentsAt usizeBits index later := by
  rw [fragmentsAt, List.filter_append, List.map_append]
  rfl

theorem fragmentsAt_singleton (usizeBits index : Nat) (tc : Value) :
    fragmentsAt usizeBits index [tc] =
      if fragmentIndex usizeBits tc = index then [CallFragment.read tc] else [] := by
  rw [fragmentsAt, List.filter_singleton]
  by_cases here : fragmentIndex usizeBits tc = index <;> simp [here]

/-- At each index the fragments with that index have been taken in, in order. -/
theorem lookup_gather (usizeBits : Nat) (tcs : List Value) (index : Nat) :
    (gather usizeBits tcs).lookup index =
      if fragmentsAt usizeBits index tcs = [] then none
      else
        some ((fragmentsAt usizeBits index tcs).foldl ToolCallAccumulator.takeFragment .new) := by
  induction tcs using List.reverseRecOn with
  | nil => rfl
  | append_singleton earlier tc ih =>
      rw [gather_concat, lookup_absorbAt (gather_increasing usizeBits earlier), fragmentsAt_append,
        fragmentsAt_singleton]
      by_cases here : fragmentIndex usizeBits tc = index
      · rw [if_pos here.symm, if_pos here, if_neg (by simp), here, ih, List.foldl_append]
        by_cases isFirst : fragmentsAt usizeBits index earlier = []
        · rw [if_pos isFirst, isFirst]
          rfl
        · rw [if_neg isFirst]
          rfl
      · rw [if_neg (Ne.symm here), if_neg here, List.append_nil, ih]

/-- The indices are those of the fragments. -/
theorem mem_keys_gather (usizeBits : Nat) (tcs : List Value) (index : Nat) :
    index ∈ (gather usizeBits tcs).map (·.1) ↔ fragmentsAt usizeBits index tcs ≠ [] := by
  induction tcs using List.reverseRecOn with
  | nil => simp [gather, fragmentsAt]
  | append_singleton earlier tc ih =>
      rw [gather_concat, mem_keys_absorbAt, ih, fragmentsAt_append, fragmentsAt_singleton]
      by_cases here : fragmentIndex usizeBits tc = index
      · simp [here]
      · simp [here, Ne.symm here]

theorem lookup_of_mem (increasing : (calls.map (·.1)).Pairwise (· < ·))
    {acc : ToolCallAccumulator} (member : (index, acc) ∈ calls) :
    calls.lookup index = some acc := by
  induction calls with
  | nil => cases member
  | cons call rest ih =>
      obtain ⟨above, restIncreasing⟩ := List.pairwise_cons.mp increasing
      obtain ⟨other, first⟩ := call
      rw [Value.lookup_member]
      rcases List.mem_cons.mp member with same | later
      · cases same
        rw [if_pos rfl]
      · have less : other < index := above index (List.mem_map_of_mem later)
        rw [if_neg less.ne', ih restIncreasing later]

/-- The completed calls, one for each index and in the order of the indices. -/
theorem toCalls_gather (usizeBits : Nat) (tcs : List Value) :
    (gather usizeBits tcs).map (fun entry => entry.2.toCall) =
      ((gather usizeBits tcs).map (·.1)).map fun index =>
        callOf (fragmentsAt usizeBits index tcs) := by
  rw [List.map_map]
  apply List.map_congr_left
  intro entry member
  have found := lookup_of_mem (gather_increasing usizeBits tcs) member
  have some_fragment := (mem_keys_gather usizeBits tcs entry.1).mp (List.mem_map_of_mem member)
  rw [lookup_gather, if_neg some_fragment] at found
  rw [← Option.some.inj found, toCall_foldl_takeFragment]
  rfl

end ByIndex

/-! ### The assembled message

Put together: the content is all contents, the role the first one, the finish reason the last one
that stands in a chunk with a delta, and each call what its own fragments say. -/

/-- What all chunks are taken into. -/
def assembly (usizeBits : Nat) (chunks : List Value) : Assembly :=
  chunks.foldl (Assembly.take usizeBits) ⟨"", none, none, []⟩

section Fields

variable (usizeBits : Nat) (chunks : List Value)

theorem assembly_role : (assembly usizeBits chunks).role = firstGiven (chunks.map role?) := by
  have taken : (assembly usizeBits chunks).role =
      (chunks.flatMap fun chunk => [role? chunk]).foldl takeFirst "" :=
    foldl_take (take_role usizeBits) chunks _
  rw [taken, ← foldl_takeFirst, List.map_eq_flatMap]

theorem assembly_content : (assembly usizeBits chunks).content =
    (chunks.filterMap content?).foldl appendContent none := by
  rw [List.filterMap_eq_flatMap_toList]
  exact foldl_take (take_content usizeBits) chunks _

theorem assembly_finishReason : (assembly usizeBits chunks).finishReason =
    (chunks.filterMap finishBesideDelta?).foldl replaceReason none := by
  rw [List.filterMap_eq_flatMap_toList]
  exact foldl_take (take_finishReason usizeBits) chunks _

theorem assembly_toolCalls : (assembly usizeBits chunks).toolCalls =
    gather usizeBits (chunks.flatMap callValues) :=
  foldl_take (take_toolCalls usizeBits) chunks _

end Fields

/-- The message that all chunks are taken into. -/
def assembled (usizeBits : Nat) (chunks : List Value) : CompletedAssistantMessage where
  content := (assembly usizeBits chunks).content
  toolCalls := (assembly usizeBits chunks).toolCalls.map fun entry => entry.2.toCall
  finishReason := (assembly usizeBits chunks).finishReason

/-- The errors have their precedence, and without an error the result is the assembled message. -/
theorem assemble_eq (usizeBits : Nat) (chunks : List Value) :
    assemble usizeBits chunks =
      (expectedError? chunks).elim (.ok (assembled usizeBits chunks)) .error := by
  unfold assemble expectedError?
  by_cases empty : chunks = []
  · rw [if_pos empty, empty]
    rfl
  · rw [if_neg empty, if_neg (by simpa using empty), foldlM_absorbChunk]
    cases chunks.zipIdx.findSome? choicesError? with
    | some error => rfl
    | none =>
        rw [Option.none_or, ← assembly_role usizeBits]
        change (if (!(assembly usizeBits chunks).role.isEmpty &&
            decide ((assembly usizeBits chunks).role ≠ "assistant")) = true then
          Except.error (AssemblerError.unexpectedRole (assembly usizeBits chunks).role)
        else Except.ok (assembled usizeBits chunks)) = _
        unfold roleError?
        by_cases accepted : (assembly usizeBits chunks).role.isEmpty ∨
          (assembly usizeBits chunks).role = "assistant"
        · rw [if_pos accepted, if_neg]
          · rfl
          · rcases accepted with isEmpty | isAssistant
            · simp [isEmpty]
            · simp [isAssistant]
        · rw [if_neg accepted, if_pos]
          · rfl
          · simpa using accepted

/-! ### Refragmentation

Two sequences of chunks that carry the same fragments, however these are cut and spread over chunks,
are assembled to the same message. -/

/-- A text may be given as consecutive pieces. -/
def CutsText (_ : List String) (text : String) (pieces : List String) : Prop :=
  pieces ≠ [] ∧ String.join pieces = text

/-- A field that counts at its first occurrence may be given on any piece, and left out or repeated
on the others. -/
def CutsField (before : List (Option String)) (given : Option String)
    (pieces : List (Option String)) : Prop :=
  given ∈ pieces ∧ ∀ piece ∈ pieces, piece = none ∨ piece = given ∨ piece ∈ before

/-- The arguments of a fragment of a tool call may be given as consecutive pieces. -/
structure CutsCall (before : List CallFragment) (fragment : CallFragment)
    (pieces : List CallFragment) : Prop where
  arguments : fragment.arguments = some (String.join (pieces.filterMap (·.arguments)))
  id : CutsField (before.map (·.id)) fragment.id (pieces.map (·.id))
  callType : CutsField (before.map (·.callType)) fragment.callType (pieces.map (·.callType))
  name : CutsField (before.map (·.name)) fragment.name (pieces.map (·.name))

/-- A finish reason may be repeated. -/
def CutsFinishReason (_ : List String) (reason : String) (pieces : List String) : Prop :=
  pieces ≠ [] ∧ ∀ piece ∈ pieces, piece = reason

/-- Chunks that carry the fragments of other chunks, some of them cut or joined.  Where the pieces
stand among the other chunks is free: only the order of the fragments of the content, and of those
of each tool call, is kept. -/
structure Refragmented (usizeBits : Nat) (chunks others : List Value) : Prop where
  usable : others ≠ [] ∧ ∀ chunk ∈ others, (choice? chunk).isSome
  role : Recut CutsField (chunks.map role?) (others.map role?)
  content : Recut CutsText (chunks.filterMap content?) (others.filterMap content?)
  calls : ∀ index, Recut CutsCall (callFragments usizeBits index chunks)
    (callFragments usizeBits index others)
  finishReason : Recut CutsFinishReason (chunks.filterMap finishBesideDelta?)
    (others.filterMap finishBesideDelta?)

/-- A text is taken first wherever among texts that count for nothing it stands. -/
theorem foldl_takeFirst_of_given {given : Option String} {pieces : List (Option String)}
    (occurs : given ∈ pieces) (others : ∀ piece ∈ pieces, takeFirst "" piece = "" ∨ piece = given) :
    pieces.foldl takeFirst "" = takeFirst "" given := by
  induction pieces with
  | nil => cases occurs
  | cons piece rest ih =>
      have later : ∀ piece ∈ rest, takeFirst "" piece = "" ∨ piece = given :=
        fun piece member => others piece (List.mem_cons_of_mem _ member)
      rw [List.foldl_cons]
      by_cases counts : takeFirst "" piece = ""
      · rw [counts]
        rcases List.mem_cons.mp occurs with rfl | occurs
        · -- the text itself counts for nothing, so nothing does
          rw [counts]
          clear ih occurs others
          induction rest with
          | nil => rfl
          | cons next rest ih =>
              have ignored : takeFirst "" next = "" := by
                rcases later next List.mem_cons_self with ignored | rfl
                · exact ignored
                · exact counts
              rw [List.foldl_cons, ignored]
              exact ih fun piece member => later piece (List.mem_cons_of_mem _ member)
        · exact ih occurs later
      · rcases others piece List.mem_cons_self with ignored | rfl
        · exact absurd ignored counts
        · exact foldl_takeFirst_of_nonempty (by simpa using counts) rest

/-- Where nothing was taken yet, no text counted. -/
theorem takeFirst_of_mem_before {before : List (Option String)}
    (nothing : before.foldl takeFirst "" = "") {text : Option String} (member : text ∈ before) :
    takeFirst "" text = "" := by
  induction before with
  | nil => cases member
  | cons first rest ih =>
      rw [List.foldl_cons] at nothing
      by_cases counts : takeFirst "" first = ""
      · rw [counts] at nothing
        rcases List.mem_cons.mp member with rfl | member
        · exact counts
        · exact ih nothing member
      · rw [foldl_takeFirst_of_nonempty (by simpa using counts)] at nothing
        exact absurd nothing counts

theorem CutsField.foldl_takeFirst {before : List (Option String)} {given : Option String}
    {pieces : List (Option String)} (cuts : CutsField before given pieces) :
    pieces.foldl takeFirst (before.foldl takeFirst "") =
      takeFirst (before.foldl takeFirst "") given := by
  by_cases settled : before.foldl takeFirst "" = ""
  · rw [settled]
    apply foldl_takeFirst_of_given cuts.1
    intro piece member
    rcases cuts.2 piece member with rfl | same | earlier
    · exact .inl rfl
    · exact .inr same
    · exact .inl (takeFirst_of_mem_before settled earlier)
  · have nonempty : ¬(before.foldl takeFirst "").isEmpty := by simpa using settled
    rw [foldl_takeFirst_of_nonempty nonempty, takeFirst_of_nonempty nonempty]

/-- However its arguments are cut, a tool call is the same. -/
theorem callOf_eq_of_recut {fragments others : List CallFragment}
    (recut : Recut CutsCall fragments others) : callOf fragments = callOf others := by
  rw [← toCall_foldl_takeFragment, ← toCall_foldl_takeFragment]
  apply congrArg
  apply recut.foldl_eq
  intro before fragment pieces cuts
  have id := cuts.id.foldl_takeFirst
  have callType := cuts.callType.foldl_takeFirst
  have name := cuts.name.foldl_takeFirst
  have arguments := cuts.arguments
  rw [foldl_takeFragment, foldl_takeFragment]
  simp only [ToolCallAccumulator.takeFragment, ToolCallAccumulator.new, id, callType, name,
    arguments, Option.getD_some]

theorem foldl_content_of_recut {fragments others : List String}
    (recut : Recut CutsText fragments others) :
    fragments.foldl appendContent none = others.foldl appendContent none := by
  apply recut.foldl_eq
  intro before text pieces cuts
  obtain ⟨nonempty, rfl⟩ := cuts
  have grows : ∀ (pieces : List String) (content : Option String), pieces ≠ [] →
      pieces.foldl appendContent content = appendContent content (String.join pieces) := by
    intro pieces
    induction pieces with
    | nil => exact fun _ isEmpty => absurd rfl isEmpty
    | cons piece rest ih =>
        intro content _
        rw [List.foldl_cons]
        cases rest with
        | nil => simp
        | cons next rest =>
            rw [ih _ (List.cons_ne_nil _ _), String.join_cons]
            simp [appendContent, String.append_assoc]
  exact grows pieces _ nonempty

theorem foldl_finishReason_of_recut {reasons others : List String}
    (recut : Recut CutsFinishReason reasons others) :
    reasons.foldl replaceReason none = others.foldl replaceReason none := by
  apply recut.foldl_eq
  intro before reason pieces cuts
  obtain ⟨last, rest, rfl⟩ : ∃ last rest, pieces = rest ++ [last] :=
    ⟨pieces.getLast cuts.1, pieces.dropLast, (List.dropLast_concat_getLast cuts.1).symm⟩
  rw [List.foldl_append, cuts.2 last (List.mem_append_right _ List.mem_cons_self)]
  rfl

/-- Chunks and their refragmentation assemble to the same message. -/
theorem Refragmented.assembled_eq {usizeBits : Nat} {chunks others : List Value}
    (refragmented : Refragmented usizeBits chunks others) :
    assembled usizeBits others = assembled usizeBits chunks := by
  have sameIndices : (gather usizeBits (others.flatMap callValues)).map (·.1) =
      (gather usizeBits (chunks.flatMap callValues)).map (·.1) := by
    apply (gather_increasing usizeBits _).eq_of_mem_iff (gather_increasing usizeBits _)
    intro index
    have neverCutAway : ∀ before fragment, ¬CutsCall before fragment [] := by
      intro before fragment cuts
      exact List.not_mem_nil cuts.id.1
    rw [mem_keys_gather, mem_keys_gather]
    exact not_congr ((refragmented.calls index).eq_nil_iff neverCutAway).symm
  unfold assembled
  rw [assembly_content, assembly_content, foldl_content_of_recut refragmented.content,
    assembly_finishReason, assembly_finishReason,
    foldl_finishReason_of_recut refragmented.finishReason, assembly_toolCalls, assembly_toolCalls,
    toCalls_gather, toCalls_gather, sameIndices]
  congr 1
  apply List.map_congr_left
  intro index _
  exact (callOf_eq_of_recut (refragmented.calls index)).symm

theorem choicesError?_eq_none {chunk : Value × Nat} (usable : (choice? chunk.1).isSome) :
    choicesError? chunk = none := by
  unfold choicesError?
  unfold choice? at usable
  cases found : (chunk.1.get "choices").bind Value.asArray with
  | none =>
      rw [found] at usable
      cases usable
  | some choices =>
      rw [found] at usable
      cases choices with
      | nil => cases usable
      | cons choice rest => rfl

/-- A refragmentation has no error that the chunks do not have. -/
theorem Refragmented.expectedError?_eq_none {usizeBits : Nat} {chunks others : List Value}
    (refragmented : Refragmented usizeBits chunks others) (fine : expectedError? chunks = none) :
    expectedError? others = none := by
  have nonempty : chunks ≠ [] := by
    rintro rfl
    cases fine
  have usable : others.zipIdx.findSome? choicesError? = none := by
    rw [List.findSome?_eq_none_iff]
    intro chunk member
    exact choicesError?_eq_none (refragmented.usable.2 _ (List.fst_mem_of_mem_zipIdx member))
  have sameRole : firstGiven (others.map role?) = firstGiven (chunks.map role?) := by
    rw [← foldl_takeFirst, ← foldl_takeFirst]
    exact (refragmented.role.foldl_eq fun _ _ _ cuts => cuts.foldl_takeFirst).symm
  unfold expectedError? at fine ⊢
  rw [if_neg nonempty] at fine
  rw [if_neg refragmented.usable.1, usable, sameRole, Option.none_or]
  exact (Option.or_eq_none_iff.mp fine).2

/-! ### A chunk split in two -/

section Split

variable {usizeBits : Nat} {before between after : List Value} {whole start rest : Value}

/-- A chunk that gives no role can be added behind another one. -/
theorem recut_role_added (sameRole : role? start = role? whole) (noRole : role? rest = none) :
    Recut CutsField ((before ++ whole :: (between ++ after)).map role?)
      ((before ++ start :: (between ++ rest :: after)).map role?) := by
  obtain ⟨earlier, last, same⟩ : ∃ earlier last,
      (before ++ whole :: between).map role? = earlier ++ [last] :=
    ⟨_, _, (List.dropLast_concat_getLast (by simp)).symm⟩
  have cut : Cut CutsField (earlier ++ last :: after.map role?)
      (earlier ++ [last, none] ++ after.map role?) := by
    apply Cut.intro
    refine ⟨List.mem_cons_self, ?_⟩
    simp
  have wholeEq : (before ++ whole :: (between ++ after)).map role? =
      earlier ++ last :: after.map role? := by
    have front : (before ++ whole :: (between ++ after)).map role? =
        (before ++ whole :: between).map role? ++ after.map role? := by
      simp
    rw [front, same, List.append_assoc, List.singleton_append]
  have splitEq : (before ++ start :: (between ++ rest :: after)).map role? =
      earlier ++ [last, none] ++ after.map role? := by
    have front : (before ++ start :: (between ++ rest :: after)).map role? =
        (before ++ whole :: between).map role? ++ ([none] ++ after.map role?) := by
      simp [sameRole, noRole]
    rw [front, same, ← List.append_assoc, List.append_assoc earlier]
    rfl
  rw [wholeEq, splitEq]
  exact .of_cut cut

/-- The content of a chunk can be split, with the rest of it on a later chunk that carries nothing
else. -/
theorem refragmented_of_split_content {head tail : String}
    (usable : ∀ chunk ∈ before ++ start :: (between ++ rest :: after), (choice? chunk).isSome)
    (sameRole : role? start = role? whole) (sameCalls : callValues start = callValues whole)
    (sameReason : finishBesideDelta? start = finishBesideDelta? whole)
    (wholeContent : content? whole = some (head ++ tail))
    (startContent : content? start = some head)
    (noContent : ∀ chunk ∈ between, content? chunk = none)
    (noRole : role? rest = none) (noCalls : callValues rest = [])
    (noReason : finishBesideDelta? rest = none) (restContent : content? rest = some tail) :
    Refragmented usizeBits (before ++ whole :: (between ++ after))
      (before ++ start :: (between ++ rest :: after)) where
  usable := ⟨by simp, usable⟩
  role := recut_role_added sameRole noRole
  content := by
    have silent : between.filterMap content? = [] := List.filterMap_eq_nil_iff.mpr noContent
    have cut : Cut CutsText
        (before.filterMap content? ++ (head ++ tail) :: after.filterMap content?)
        (before.filterMap content? ++ [head, tail] ++ after.filterMap content?) :=
      .intro _ _ _ _ ⟨by simp, by simp [String.join_cons]⟩
    simpa [silent, wholeContent, startContent, restContent] using Recut.of_cut cut
  calls index := by
    simp only [callFragments, List.flatMap_append, List.flatMap_cons, sameCalls, noCalls,
      List.nil_append]
    exact .of_eq rfl
  finishReason := by
    simp only [List.filterMap_append, List.filterMap_cons, sameReason, noReason]
    exact .of_eq rfl

/-- The arguments of a fragment can be split, with the rest of them on a later chunk that carries
nothing else and leaves out or repeats what the fragment says. -/
theorem refragmented_of_split_arguments {earlierCalls laterCalls : List Value}
    {call first second : Value}
    (usable : ∀ chunk ∈ before ++ start :: (between ++ rest :: after), (choice? chunk).isSome)
    (sameRole : role? start = role? whole) (sameContent : content? start = content? whole)
    (sameReason : finishBesideDelta? start = finishBesideDelta? whole)
    (wholeCalls : callValues whole = earlierCalls ++ call :: laterCalls)
    (startCalls : callValues start = earlierCalls ++ first :: laterCalls)
    (firstIndex : fragmentIndex usizeBits first = fragmentIndex usizeBits call)
    (secondIndex : fragmentIndex usizeBits second = fragmentIndex usizeBits call)
    (otherCalls : ∀ tc ∈ laterCalls ++ between.flatMap callValues,
      fragmentIndex usizeBits tc ≠ fragmentIndex usizeBits call)
    (cuts : ∀ earlier, CutsCall earlier (.read call) [.read first, .read second])
    (noRole : role? rest = none) (noContent : content? rest = none)
    (noReason : finishBesideDelta? rest = none) (restCalls : callValues rest = [second]) :
    Refragmented usizeBits (before ++ whole :: (between ++ after))
      (before ++ start :: (between ++ rest :: after)) where
  usable := ⟨by simp, usable⟩
  role := recut_role_added sameRole noRole
  content := by
    simp only [List.filterMap_append, List.filterMap_cons, sameContent, noContent]
    exact .of_eq rfl
  finishReason := by
    simp only [List.filterMap_append, List.filterMap_cons, sameReason, noReason]
    exact .of_eq rfl
  calls index := by
    have wholeEq : (before ++ whole :: (between ++ after)).flatMap callValues =
        (before.flatMap callValues ++ earlierCalls) ++ ([call] ++
          ((laterCalls ++ between.flatMap callValues) ++ after.flatMap callValues)) := by
      simp [wholeCalls]
    have splitEq : (before ++ start :: (between ++ rest :: after)).flatMap callValues =
        (before.flatMap callValues ++ earlierCalls) ++ ([first] ++
          ((laterCalls ++ between.flatMap callValues) ++
            ([second] ++ after.flatMap callValues))) := by
      simp [startCalls, restCalls]
    rw [callFragments, callFragments, wholeEq, splitEq]
    generalize before.flatMap callValues ++ earlierCalls = front
    generalize laterCalls ++ between.flatMap callValues = middle at otherCalls ⊢
    generalize after.flatMap callValues = back
    simp only [fragmentsAt_append, fragmentsAt_singleton, firstIndex, secondIndex]
    by_cases here : fragmentIndex usizeBits call = index
    · have silent : fragmentsAt usizeBits index middle = [] := by
        rw [fragmentsAt, List.map_eq_nil_iff, List.filter_eq_nil_iff]
        intro tc member
        have elsewhere := otherCalls tc member
        rw [here] at elsewhere
        simpa using elsewhere
      rw [if_pos here, if_pos here, if_pos here, silent]
      have cut := Cut.intro (fragmentsAt usizeBits index front) (CallFragment.read call) _
        (fragmentsAt usizeBits index back) (cuts _)
      simpa using Recut.of_cut cut
    · rw [if_neg here, if_neg here, if_neg here]
      exact .of_eq rfl

end Split

/-! ### As claimed -/

/-- What assembling is to do: errors take their precedence, the message adds up what was given, and
it does not depend on how the content and the arguments were cut. -/
structure AssemblesAsGiven (usizeBits : Nat) (chunks : List Value) : Prop where
  errors : ∀ error, assemble usizeBits chunks = .error error ↔ expectedError? chunks = some error
  assembled : ∀ message, assemble usizeBits chunks = .ok message →
    IsAssembled usizeBits chunks message
  refragmented : ∀ message others, assemble usizeBits chunks = .ok message →
    Refragmented usizeBits chunks others → assemble usizeBits others = .ok message

/-- The last finish reason given is the last one given beside a delta. -/
def FinishBesideDelta (chunks : List Value) : Prop :=
  (chunks.filterMap finishReason?).getLast? = (chunks.filterMap finishBesideDelta?).getLast?

/-- The text of a finish reason. -/
def FinishReason.text : FinishReason → String
  | .stop => "stop"
  | .length => "length"
  | .contentFilter => "content_filter"
  | .toolCalls => "tool_calls"
  | .functionCall => "function_call"
  | .unknown reason => reason

theorem text_parseFinishReason (reason : String) : (parseFinishReason reason).text = reason := by
  unfold parseFinishReason
  split <;> rfl

/-- Assembling does what it is to do if and only if the chunks are rejected, or no finish reason
that comes last is given beside no delta. -/
theorem assembles_as_given_iff (usizeBits : Nat) (chunks : List Value) :
    AssemblesAsGiven usizeBits chunks ↔
      (expectedError? chunks = none → FinishBesideDelta chunks) := by
  have finishReason : (assembled usizeBits chunks).finishReason =
      (chunks.filterMap finishBesideDelta?).getLast?.map parseFinishReason := by
    rw [assembled, assembly_finishReason, foldl_replaceReason]
  constructor
  · intro asGiven fine
    have succeeded : assemble usizeBits chunks = .ok (assembled usizeBits chunks) := by
      rw [assemble_eq, fine]
      rfl
    have given := (asGiven.assembled _ succeeded).finishReason
    rw [finishReason] at given
    have injective : Function.Injective (Option.map parseFinishReason) :=
      Option.map_injective (Function.LeftInverse.injective text_parseFinishReason)
    exact (injective given).symm
  · intro condition
    constructor
    · intro error
      rw [assemble_eq]
      cases expectedError? chunks <;> simp
    · intro message succeeded
      rw [assemble_eq] at succeeded
      cases expected : expectedError? chunks with
      | some error =>
          rw [expected] at succeeded
          cases succeeded
      | none =>
          rw [expected] at succeeded
          cases succeeded
          constructor
          · rw [assembled, assembly_content, foldl_appendContent]
          · refine ⟨_, gather_increasing usizeBits (chunks.flatMap callValues),
              mem_keys_gather usizeBits (chunks.flatMap callValues), ?_⟩
            rw [assembled, assembly_toolCalls, toCalls_gather]
            rfl
          · rw [finishReason, condition expected]
    · intro message others succeeded refragmented
      rw [assemble_eq] at succeeded ⊢
      cases expected : expectedError? chunks with
      | some error =>
          rw [expected] at succeeded
          cases succeeded
      | none =>
          rw [expected] at succeeded
          rw [refragmented.expectedError?_eq_none expected, refragmented.assembled_eq]
          exact succeeded

/-- A response whose last chunk gives the finish reason beside no delta. -/
def bareFinishChunks : List Value :=
  [.ofMembers [("choices", .array [.ofMembers [("delta", .ofMembers
      [("role", .string "assistant"), ("content", .string "Hello")])]])],
    .ofMembers [("choices", .array [.ofMembers [("finish_reason", .string "stop")]])]]

/-- Its finish reason is lost. -/
theorem bareFinishChunks_finishReason_lost :
    ¬∀ usizeBits chunks, AssemblesAsGiven usizeBits chunks := by
  intro asGiven
  have given := ((asGiven 64 bareFinishChunks).assembled
    { content := some "Hello", toolCalls := [], finishReason := none } rfl).finishReason
  exact absurd given (by decide +kernel)

end ProstheticConscience.Consensus
