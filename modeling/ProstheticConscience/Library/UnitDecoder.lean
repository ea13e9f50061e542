/-
Module: ProstheticConscience.Library.UnitDecoder
Purpose: Decoding a sequence of symbols that make up units of several symbols, where a unit that is
  broken off is replaced.  What decoding does to a sequence that is cut into pieces, each of which
  is decoded by itself; and the lines of such a sequence, when line breaks are units of one symbol.
Trusted boundary: none
Main exports: UnitDecoder, UnitDecoder.decode, UnitDecoder.decodePieces, UnitDecoder.splits,
  UnitDecoder.Whole, UnitDecoder.decodePieces_of_whole, UnitDecoder.countP_decodePieces_lt,
  UnitDecoder.IsPlain, UnitDecoder.isPrefix_decodePieces_iff, pieceLines,
  UnitDecoder.decodePieces_splitOn
-/
import Mathlib.Data.List.Basic

namespace ProstheticConscience

/-- Units of symbols `β` that are decoded to characters `γ`; `σ` are the units that are open. -/
structure UnitDecoder (β γ σ : Type*) where
  /-- A symbol at the start of a unit: what it decodes to alone, or the unit it opens. -/
  start : β → γ ⊕ σ
  /-- A symbol that continues an open unit: the unit it completes, or the longer open unit. -/
  next : σ → β → Option (γ ⊕ σ)
  /-- What a unit decodes to that is broken off. -/
  broken : γ
  /-- A symbol that continues a unit does not start one. -/
  stray : ∀ s b, (next s b).isSome = true → start b = .inl broken

namespace UnitDecoder

variable {β γ σ : Type*} (D : UnitDecoder β γ σ)

/-- The characters of a symbol that is read between units, and the unit that it opens. -/
def begins (b : β) : List γ × Option σ :=
  match D.start b with
  | .inl c => ([c], none)
  | .inr s => ([], some s)

/-- The characters that are complete when a symbol is read, and the unit that is open then. -/
def reads : Option σ → β → List γ × Option σ
  | none, b => D.begins b
  | some s, b =>
      match D.next s b with
      | some (.inl c) => ([c], none)
      | some (.inr s') => ([], some s')
      | none => (D.broken :: (D.begins b).1, (D.begins b).2)

/-- Decode with a unit open or not; the unit that is open at the end is broken off. -/
def decodeFrom : Option σ → List β → List γ
  | none, [] => []
  | some _, [] => [D.broken]
  | unit, b :: rest => (D.reads unit b).1 ++ decodeFrom (D.reads unit b).2 rest

def decode (bytes : List β) : List γ :=
  D.decodeFrom none bytes

/-- The unit that is open behind a sequence. -/
def openAfter (bytes : List β) : Option σ → Option σ :=
  bytes.foldl (fun unit b => (D.reads unit b).2)

/-- Whether a cut between two sequences splits a unit: one is open, and it goes on. -/
def splits (before after : List β) : Bool :=
  match D.openAfter before none, after with
  | some s, b :: _ => (D.next s b).isSome
  | _, _ => false

/-! ### One cut -/

variable {D}

theorem decodeFrom_cons (unit : Option σ) (b : β) (rest : List β) :
    D.decodeFrom unit (b :: rest) =
      (D.reads unit b).1 ++ D.decodeFrom (D.reads unit b).2 rest := by
  cases unit <;> rfl

/-- A symbol that does not continue the open unit breaks it off. -/
theorem decodeFrom_breaks {s : σ} {b : β} (breaks : D.next s b = none) (rest : List β) :
    D.decodeFrom (some s) (b :: rest) = D.broken :: D.decodeFrom none (b :: rest) := by
  simp [decodeFrom_cons, reads, breaks]

theorem decodeFrom_completes {s : σ} {b : β} {c : γ} (completes : D.next s b = some (.inl c))
    (rest : List β) : D.decodeFrom (some s) (b :: rest) = c :: D.decodeFrom none rest := by
  simp [decodeFrom_cons, reads, completes]

theorem decodeFrom_goesOn {s s' : σ} {b : β} (goesOn : D.next s b = some (.inr s'))
    (rest : List β) : D.decodeFrom (some s) (b :: rest) = D.decodeFrom (some s') rest := by
  simp [decodeFrom_cons, reads, goesOn]

/-- A symbol that continues units is replaced when none is open. -/
theorem decodeFrom_stray {s : σ} {b : β} (continues : (D.next s b).isSome = true)
    (rest : List β) : D.decodeFrom none (b :: rest) = D.broken :: D.decodeFrom none rest := by
  simp [decodeFrom_cons, reads, begins, D.stray s b continues]

/-- What is decoded of a first part does not depend on what follows, up to the open unit. -/
theorem exists_decodeFrom_append (unit : Option σ) (first : List β) :
    ∃ complete, ∀ second, D.decodeFrom unit (first ++ second) =
      complete ++ D.decodeFrom (D.openAfter first unit) second := by
  induction first generalizing unit with
  | nil => exact ⟨[], fun second => rfl⟩
  | cons b rest ih =>
      obtain ⟨complete, later⟩ := ih (D.reads unit b).2
      refine ⟨(D.reads unit b).1 ++ complete, fun second => ?_⟩
      rw [List.cons_append, decodeFrom_cons, later, List.append_assoc]
      rfl

/-- Between two units a sequence can be cut. -/
theorem decode_append {first second : List β} (between : D.splits first second = false) :
    D.decode (first ++ second) = D.decode first ++ D.decode second := by
  obtain ⟨complete, decoded⟩ := D.exists_decodeFrom_append none first
  have alone := decoded []
  rw [List.append_nil] at alone
  unfold decode
  rw [decoded, alone, List.append_assoc]
  congr 1
  unfold splits at between
  cases unit : D.openAfter first none with
  | none => rfl
  | some s =>
      cases second with
      | nil => rfl
      | cons b rest =>
          rw [unit] at between
          exact decodeFrom_breaks (Option.not_isSome_iff_eq_none.mp (by simpa using between)) rest

section Counting

variable {counts : γ → Bool} (broken : counts D.broken = true)
include broken

/-- Reading on in an open unit gives no more characters than starting anew, if that is so for what
follows. -/
theorem countP_continues {s : σ} {b : β} {rest : List β}
    (continues : (D.next s b).isSome = true)
    (later : ∀ s', (D.decodeFrom (some s') rest).countP counts ≤
      (D.decodeFrom none rest).countP counts + 1) :
    (D.decodeFrom (some s) (b :: rest)).countP counts ≤
      (D.decodeFrom none (b :: rest)).countP counts := by
  rw [decodeFrom_stray continues, List.countP_cons_of_pos broken]
  cases continued : D.next s b with
  | none => simp [continued] at continues
  | some unit =>
      cases unit with
      | inl c =>
          rw [decodeFrom_completes continued, List.countP_cons]
          apply Nat.add_le_add_left
          split <;> decide
      | inr s' =>
          rw [decodeFrom_goesOn continued]
          exact later s'

/-- Breaking off an open unit costs at most the character that replaces it. -/
theorem countP_decodeFrom_le (s : σ) (bytes : List β) :
    (D.decodeFrom (some s) bytes).countP counts ≤
      (D.decodeFrom none bytes).countP counts + 1 := by
  induction bytes generalizing s with
  | nil => simp [decodeFrom, broken]
  | cons b rest ih =>
      cases continued : (D.next s b).isSome with
      | true => exact Nat.le_succ_of_le (countP_continues broken continued ih)
      | false =>
          have breaks : D.next s b = none := by
            simpa using continued
          exact Nat.le_of_eq (by rw [decodeFrom_breaks breaks, List.countP_cons_of_pos broken])

/-- A cut that splits a unit leaves more characters. -/
theorem countP_decode_lt {first second : List β} (split : D.splits first second = true) :
    (D.decode (first ++ second)).countP counts <
      (D.decode first ++ D.decode second).countP counts := by
  obtain ⟨complete, decoded⟩ := D.exists_decodeFrom_append none first
  have alone := decoded []
  rw [List.append_nil] at alone
  unfold decode
  rw [decoded, alone]
  unfold splits at split
  cases unit : D.openAfter first none with
  | none => simp [unit] at split
  | some s =>
      cases second with
      | nil => simp [unit] at split
      | cons b rest =>
          rw [unit] at split
          have fewer := countP_continues broken split
            fun s' => countP_decodeFrom_le broken s' rest
          have brokenOff : (D.decodeFrom (some s) []).countP counts = 1 :=
            List.countP_cons_of_pos broken
          simp only [List.countP_append, brokenOff]
          omega

/-- A cut never leaves fewer characters. -/
theorem countP_decode_le (first second : List β) :
    (D.decode (first ++ second)).countP counts ≤
      (D.decode first ++ D.decode second).countP counts := by
  cases split : D.splits first second with
  | true => exact Nat.le_of_lt (countP_decode_lt broken split)
  | false =>
      exact Nat.le_of_eq (by rw [decode_append split])

end Counting

/-! ### Pieces

A sequence that is cut is decoded piece by piece; between cuts inside units and cuts between them
lies all the difference. -/

variable (D) in
/-- Decode each piece of a sequence by itself. -/
def decodePieces (pieces : List (List β)) : List γ :=
  (pieces.map D.decode).flatten

variable (D) in
/-- No cut splits a unit. -/
def Whole : List (List β) → Prop
  | [] => True
  | piece :: rest => D.splits piece rest.flatten = false ∧ Whole rest

@[simp] theorem decodePieces_nil : D.decodePieces [] = [] := rfl

@[simp] theorem decodePieces_cons (piece : List β) (rest : List (List β)) :
    D.decodePieces (piece :: rest) = D.decode piece ++ D.decodePieces rest := rfl

@[simp] theorem decodePieces_singleton (piece : List β) : D.decodePieces [piece] = D.decode piece :=
  List.append_nil _

theorem decodePieces_append (first second : List (List β)) :
    D.decodePieces (first ++ second) = D.decodePieces first ++ D.decodePieces second := by
  simp [decodePieces]

theorem decodePieces_of_whole {pieces : List (List β)} (whole : D.Whole pieces) :
    D.decodePieces pieces = D.decode pieces.flatten := by
  induction pieces with
  | nil => rfl
  | cons piece rest ih =>
      rw [decodePieces_cons, ih whole.2, List.flatten_cons, decode_append whole.1]

theorem countP_decodePieces_le {counts : γ → Bool} (broken : counts D.broken = true)
    (pieces : List (List β)) :
    (D.decode pieces.flatten).countP counts ≤ (D.decodePieces pieces).countP counts := by
  induction pieces with
  | nil => exact Nat.zero_le _
  | cons piece rest ih =>
      have cut := countP_decode_le broken piece rest.flatten
      rw [List.countP_append] at cut
      rw [decodePieces_cons, List.countP_append, List.flatten_cons]
      omega

/-- When a cut splits a unit, more characters are left, of every kind that the replacement is of. -/
theorem countP_decodePieces_lt (counts : γ → Bool) (broken : counts D.broken = true)
    {pieces : List (List β)} (split : ¬D.Whole pieces) :
    (D.decode pieces.flatten).countP counts < (D.decodePieces pieces).countP counts := by
  induction pieces with
  | nil => exact absurd trivial split
  | cons piece rest ih =>
      rw [decodePieces_cons, List.countP_append, List.flatten_cons]
      cases first : D.splits piece rest.flatten with
      | true =>
          have cut := countP_decode_lt broken first
          have later := countP_decodePieces_le broken rest
          rw [List.countP_append] at cut
          omega
      | false =>
          have later := ih fun whole => split ⟨first, whole⟩
          rw [decode_append first, List.countP_append]
          omega

/-! ### Units of one symbol -/

variable (D) in
/-- An open unit decodes to something: what completes it, or what replaces it. -/
theorem exists_decodeFrom_open (s : σ) (bytes : List β) :
    ∃ c rest, D.decodeFrom (some s) bytes = c :: rest ∧
      (c = D.broken ∨ ∃ s' b, D.next s' b = some (.inl c)) := by
  induction bytes generalizing s with
  | nil => exact ⟨D.broken, [], rfl, .inl rfl⟩
  | cons b later ih =>
      cases continued : D.next s b with
      | none => exact ⟨D.broken, _, decodeFrom_breaks continued later, .inl rfl⟩
      | some unit =>
          cases unit with
          | inl c => exact ⟨c, _, decodeFrom_completes continued later, .inr ⟨s, b, continued⟩⟩
          | inr s' =>
              rw [decodeFrom_goesOn continued]
              exact ih s'

theorem decode_ne_nil (b : β) (rest : List β) : D.decode (b :: rest) ≠ [] := by
  unfold decode
  rw [decodeFrom_cons, reads, begins]
  cases D.start b with
  | inl c => exact List.cons_ne_nil _ _
  | inr s =>
      obtain ⟨c, others, first, _⟩ := D.exists_decodeFrom_open s rest
      simp [first]

variable (D) in
/-- A symbol that is a unit by itself wherever it stands, and the only one with its character. -/
structure IsPlain (b : β) (c : γ) : Prop where
  start : D.start b = .inl c
  only : ∀ b', D.start b' = .inl c → b' = b
  inner : ∀ s b', D.next s b' ≠ some (.inl c)
  notBroken : c ≠ D.broken

namespace IsPlain

variable {b : β} {c : γ}

theorem next_eq_none (plain : D.IsPlain b c) (s : σ) : D.next s b = none := by
  cases continued : D.next s b with
  | none => rfl
  | some unit =>
      have stray := D.stray s b (by rw [continued]; rfl)
      rw [plain.start] at stray
      exact absurd (Sum.inl.inj stray) plain.notBroken

theorem decode_cons (plain : D.IsPlain b c) (rest : List β) :
    D.decode (b :: rest) = c :: D.decode rest := by
  simp [decode, decodeFrom_cons, reads, begins, plain.start]

/-- A sequence can be cut before a plain symbol. -/
theorem splits_eq_false (plain : D.IsPlain b c) (first rest : List β) :
    D.splits first (b :: rest) = false := by
  unfold splits
  cases D.openAfter first none with
  | none => rfl
  | some s => simp [plain.next_eq_none s]

theorem decode_append_cons (plain : D.IsPlain b c) (first rest : List β) :
    D.decode (first ++ b :: rest) = D.decode first ++ c :: D.decode rest := by
  rw [decode_append (plain.splits_eq_false first rest), plain.decode_cons]

/-- Only the symbol itself decodes to the character. -/
theorem of_decode_cons (plain : D.IsPlain b c) {bytes : List β} {rest : List γ}
    (decoded : D.decode bytes = c :: rest) :
    ∃ later, bytes = b :: later ∧ rest = D.decode later := by
  cases bytes with
  | nil => cases decoded
  | cons b' later =>
      cases started : D.start b' with
      | inl c' =>
          have whole : D.decode (b' :: later) = c' :: D.decode later := by
            simp [decode, decodeFrom_cons, reads, begins, started]
          rw [whole] at decoded
          rw [(List.cons.inj decoded).1] at started
          exact ⟨later, by rw [plain.only b' started], (List.cons.inj decoded).2.symm⟩
      | inr s =>
          have opened : D.decode (b' :: later) = D.decodeFrom (some s) later := by
            simp [decode, decodeFrom_cons, reads, begins, started]
          obtain ⟨c', others, first, comes⟩ := D.exists_decodeFrom_open s later
          rw [opened, first] at decoded
          rw [(List.cons.inj decoded).1] at comes
          rcases comes with replaced | ⟨s', b'', completes⟩
          · exact absurd replaced plain.notBroken
          · exact absurd completes (plain.inner s' b'')

theorem notMem_reads (plain : D.IsPlain b c) (unit : Option σ) {b' : β} (other : b' ≠ b) :
    c ∉ (D.reads unit b').1 := by
  have notBegun : c ∉ (D.begins b').1 := by
    unfold begins
    cases started : D.start b' with
    | inl c' =>
        intro member
        rw [← List.mem_singleton.mp member] at started
        exact other (plain.only b' started)
    | inr s => exact List.not_mem_nil
  cases unit with
  | none => exact notBegun
  | some s =>
      cases continued : D.next s b' with
      | none =>
          simp only [reads, continued, List.mem_cons, not_or]
          exact ⟨plain.notBroken, notBegun⟩
      | some unit =>
          cases unit with
          | inl c' =>
              simp only [reads, continued, List.mem_singleton]
              rintro rfl
              exact plain.inner s b' continued
          | inr s' => simp [reads, continued]

theorem notMem_decode (plain : D.IsPlain b c) {bytes : List β} (absent : b ∉ bytes) :
    c ∉ D.decode bytes := by
  unfold decode
  generalize (none : Option σ) = unit
  induction bytes generalizing unit with
  | nil =>
      cases unit with
      | none => exact List.not_mem_nil
      | some s => exact fun member => plain.notBroken (List.mem_singleton.mp member)
  | cons b' rest ih =>
      rw [List.mem_cons, not_or] at absent
      rw [decodeFrom_cons, List.mem_append, not_or]
      exact ⟨plain.notMem_reads unit (Ne.symm absent.1), ih absent.2 _⟩

/-! ### A plain symbol in pieces -/

variable {pieces : List (List β)}

theorem exists_decodePieces_cons (plain : D.IsPlain b c) {rest : List β}
    (joined : pieces.flatten = b :: rest) :
    ∃ later, later.flatten = rest ∧ D.decodePieces pieces = c :: D.decodePieces later := by
  induction pieces with
  | nil => cases joined
  | cons piece others ih =>
      cases piece with
      | nil => exact ih joined
      | cons b' piece =>
          cases joined
          refine ⟨piece :: others, rfl, ?_⟩
          rw [decodePieces_cons, plain.decode_cons]
          rfl

theorem exists_of_decodePieces_cons (plain : D.IsPlain b c) {rest : List γ}
    (decoded : D.decodePieces pieces = c :: rest) :
    ∃ later, pieces.flatten = b :: later.flatten ∧ rest = D.decodePieces later := by
  induction pieces with
  | nil => cases decoded
  | cons piece others ih =>
      cases piece with
      | nil => exact ih decoded
      | cons b' piece =>
          obtain ⟨c', first, decodes⟩ := List.exists_cons_of_ne_nil (D.decode_ne_nil b' piece)
          rw [decodePieces_cons, decodes] at decoded
          cases decoded
          obtain ⟨later, same, rfl⟩ := plain.of_decode_cons decodes
          exact ⟨later :: others, by rw [List.flatten_cons, same]; rfl, rfl⟩

end IsPlain

/-- Whether a sequence starts with given plain symbols can be seen from its pieces. -/
theorem isPrefix_decodePieces_iff {word : List (β × γ)}
    (plain : ∀ symbol ∈ word, D.IsPlain symbol.1 symbol.2) (pieces : List (List β)) :
    word.map Prod.snd <+: D.decodePieces pieces ↔ word.map Prod.fst <+: pieces.flatten := by
  induction word generalizing pieces with
  | nil => simp
  | cons symbol word ih =>
      have first := plain symbol List.mem_cons_self
      have others : ∀ symbol ∈ word, D.IsPlain symbol.1 symbol.2 :=
        fun symbol member => plain symbol (List.mem_cons_of_mem _ member)
      simp only [List.map_cons]
      constructor
      · rintro ⟨rest, decoded⟩
        obtain ⟨later, joined, split⟩ := first.exists_of_decodePieces_cons decoded.symm
        rw [joined, List.cons_prefix_cons]
        exact ⟨rfl, (ih others later).mp ⟨rest, split⟩⟩
      · rintro ⟨rest, joined⟩
        obtain ⟨later, split, decoded⟩ := first.exists_decodePieces_cons joined.symm
        rw [decoded, List.cons_prefix_cons]
        exact ⟨rfl, (ih others later).mpr ⟨rest, split.symm⟩⟩

end UnitDecoder

/-! ### Lines

Line breaks are units of one symbol, so that the lines of what is decoded are the decoded lines. -/

section Lines

variable {α : Type*}

/-- The last line of one text goes on with the first line of another. -/
def joinLines : List (List α) → List (List α) → List (List α)
  | [], second => second
  | [last], second => second.modifyHead (last ++ ·)
  | line :: next :: rest, second => line :: joinLines (next :: rest) second

theorem joinLines_cons_cons (line : List α) {rest : List (List α)} (more : rest ≠ [])
    (second : List (List α)) : joinLines (line :: rest) second = line :: joinLines rest second := by
  cases rest with
  | nil => exact absurd rfl more
  | cons next rest => rfl

theorem joinLines_modifyHead (x : α) {first : List (List α)} (some : first ≠ [])
    (second : List (List α)) :
    joinLines (first.modifyHead (x :: ·)) second =
      (joinLines first second).modifyHead (x :: ·) := by
  cases first with
  | nil => exact absurd rfl some
  | cons line rest =>
      cases rest with
      | nil => cases second <;> rfl
      | cons next rest => rfl

theorem splitOn_append [BEq α] (sep : α) (first second : List α) :
    (first ++ second).splitOn sep = joinLines (first.splitOn sep) (second.splitOn sep) := by
  induction first with
  | nil =>
      rw [List.nil_append, List.splitOn_nil, joinLines]
      cases second.splitOn sep <;> rfl
  | cons x first ih =>
      rw [List.cons_append, List.splitOn_cons_eq_if_modifyHead, List.splitOn_cons_eq_if_modifyHead,
        ih]
      split
      · rw [joinLines_cons_cons _ (List.splitOn_ne_nil sep first)]
      · rw [joinLines_modifyHead x (List.splitOn_ne_nil sep first)]

/-- A map that respects joining respects the joining of lines. -/
theorem map_joinLines {γ : Type*} {f : List α → List γ}
    (joins : ∀ first second, f (first ++ second) = f first ++ f second)
    (first second : List (List α)) :
    (joinLines first second).map f = joinLines (first.map f) (second.map f) := by
  induction first with
  | nil => rfl
  | cons line rest ih =>
      cases rest with
      | nil =>
          cases second with
          | nil => rfl
          | cons next later => simp [joinLines, joins]
      | cons next rest => exact congrArg (f line :: ·) ih

end Lines

section PieceLines

variable {β γ σ : Type*} [BEq β]

/-- The lines of a sequence that comes in pieces, each with the pieces that it comes in. -/
def pieceLines (sep : β) : List (List β) → List (List (List β))
  | [] => [[]]
  | piece :: later => joinLines ((piece.splitOn sep).map ([·])) (pieceLines sep later)

theorem pieceLines_flatten (sep : β) (pieces : List (List β)) :
    (pieceLines sep pieces).map List.flatten = pieces.flatten.splitOn sep := by
  induction pieces with
  | nil => simp [pieceLines]
  | cons piece later ih =>
      rw [pieceLines, map_joinLines fun first second => List.flatten_append, ih, List.map_map,
        List.flatten_cons, splitOn_append]
      congr 1
      simp [Function.comp_def]

namespace UnitDecoder

variable [LawfulBEq β] [BEq γ] [LawfulBEq γ] {D : UnitDecoder β γ σ} {b : β} {c : γ}

theorem IsPlain.decode_splitOn (plain : D.IsPlain b c) (bytes : List β) :
    (D.decode bytes).splitOn c = (bytes.splitOn b).map D.decode := by
  induction size : bytes.length using Nat.strongRecOn generalizing bytes with
  | ind length ih =>
      by_cases present : b ∈ bytes
      · obtain ⟨first, rest, rfl⟩ := List.append_of_mem present
        rw [List.length_append, List.length_cons] at size
        rw [plain.decode_append_cons, List.splitOn_append_cons_self,
          List.splitOn_append_cons_self, List.map_append, ih first.length (by omega) first rfl,
          ih rest.length (by omega) rest rfl]
      · rw [List.splitOn_eq_singleton present,
          List.splitOn_eq_singleton (plain.notMem_decode present)]
        rfl

/-- The lines that the pieces decode to are the lines of the pieces, decoded. -/
theorem IsPlain.decodePieces_splitOn (plain : D.IsPlain b c) (pieces : List (List β)) :
    (D.decodePieces pieces).splitOn c = (pieceLines b pieces).map D.decodePieces := by
  induction pieces with
  | nil => simp [pieceLines]
  | cons piece later ih =>
      rw [pieceLines, map_joinLines decodePieces_append, ← ih, List.map_map, decodePieces_cons,
        splitOn_append, plain.decode_splitOn]
      congr 1
      simp [Function.comp_def]

end UnitDecoder

end PieceLines

end ProstheticConscience
