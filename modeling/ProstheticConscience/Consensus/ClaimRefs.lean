/-
Module: ProstheticConscience.Consensus.ClaimRefs
Purpose: Claim references are read back from every form in which they are printed.
Trusted boundary: none
Main exports: parseU64_toString, PrintedAs, ClaimRef.FitsU64, fromJsonValue_printed, RoundTrips,
  claim_refs_round_trip
-/
import ProstheticConscience.Consensus.Format
import ProstheticConscience.Consensus.Tools

namespace ProstheticConscience.Consensus

/-! ### Decimal numbers -/

/-- What is printed for a number is read as that number, unless it needs more than 64 bits. -/
theorem parseU64_toString (n : Nat) :
    parseU64 (toString n) = if n < 2 ^ 64 then some n else none := by
  have digits : (toString n).toList = Nat.toDigits 10 n := Nat.toList_repr
  have allDigits : (Nat.toDigits 10 n).all Char.isDigit = true := by
    apply List.all_eq_true.mpr
    exact fun c member => Nat.isDigit_of_mem_toDigits (by decide) (by decide) member
  have unsigned : ∀ rest, Nat.toDigits 10 n ≠ '+' :: rest := by
    intro rest signed
    rw [signed, List.all_cons] at allDigits
    cases allDigits
  have value : (Nat.toDigits 10 n).foldl
      (fun value digit => 10 * value + (digit.toNat - '0'.toNat)) 0 = n :=
    Nat.ofDigitChars_ten_toDigits
  have nonempty : (Nat.toDigits 10 n).isEmpty = false := by simp
  unfold parseU64
  rw [digits]
  split
  · rename_i rest signed
    exact absurd signed (unsigned rest)
  · dsimp only
    rw [value, nonempty, allDigits]
    rfl

/-! ### Starts -/

/-- A prefix is stripped from what begins with it. -/
theorem stripStart_append (start text : String) :
    stripStart (start ++ text) start = some text := by
  rw [stripStart, String.toList_append]
  induction start.toList with
  | nil => simp
  | cons c rest ih => simpa [List.dropPrefix?] using ih

/-- It is not stripped from what begins with another character. -/
theorem stripStart_other {a b : Char} (differ : a ≠ b) {text start : String}
    {textRest startRest : List Char} (textStarts : text.toList = a :: textRest)
    (startStarts : start.toList = b :: startRest) : stripStart text start = none := by
  rw [stripStart, textStarts, startStarts]
  simp [List.dropPrefix?, differ]

/-! ### The forms of a reference -/

/-- The forms in which a reference is printed: as text, as an object, and a draft also by its
number alone. -/
inductive PrintedAs : ClaimRef → Value → Prop where
  | text (claimRef : ClaimRef) : PrintedAs claimRef (.string (formatClaimRef claimRef))
  | object (claimRef : ClaimRef) : PrintedAs claimRef claimRef.toValue
  | number (draftId : DraftId) : PrintedAs (.draft draftId) (.string ("#" ++ toString draftId))

/-- Draft numbers have 64 bits. -/
def ClaimRef.FitsU64 : ClaimRef → Prop
  | .committed _ => True
  | .draft draftId => draftId < 2 ^ 64

def ClaimRef.isDraft : ClaimRef → Bool
  | .committed _ => false
  | .draft _ => true

/-- A committed claim is marked, so an id that looks like a reference itself is none. -/
theorem fromJsonValue_claim (id : String) :
    ClaimRef.fromJsonValue (.string ("claim:" ++ id)) = some (.committed ⟨id⟩) := by
  have starts : ("claim:" ++ id).toList = 'c' :: ("laim:".toList ++ id.toList) := by
    rw [String.toList_append]
    rfl
  have noDraft : stripStart ("claim:" ++ id) "draft:" = none :=
    stripStart_other (by decide) starts rfl
  have noNumber : stripStart ("claim:" ++ id) "#" = none :=
    stripStart_other (by decide) starts rfl
  unfold ClaimRef.fromJsonValue
  dsimp only [Value.asStr]
  rw [noDraft, noNumber, stripStart_append]

/-- The long form of a draft's reference is read back. -/
theorem fromJsonValue_draft {draftId : DraftId} (fits : draftId < 2 ^ 64) :
    ClaimRef.fromJsonValue (.string ("draft:" ++ toString draftId)) = some (.draft draftId) := by
  unfold ClaimRef.fromJsonValue
  dsimp only [Value.asStr]
  rw [stripStart_append]
  dsimp only
  rw [parseU64_toString, if_pos fits]
  rfl

/-- The short form of a draft's reference is read back. -/
theorem fromJsonValue_number {draftId : DraftId} (fits : draftId < 2 ^ 64) :
    ClaimRef.fromJsonValue (.string ("#" ++ toString draftId)) = some (.draft draftId) := by
  have starts : ("#" ++ toString draftId).toList = '#' :: (toString draftId).toList := by
    rw [String.toList_append]
    rfl
  have noDraft : stripStart ("#" ++ toString draftId) "draft:" = none :=
    stripStart_other (by decide) starts rfl
  unfold ClaimRef.fromJsonValue
  dsimp only [Value.asStr]
  rw [noDraft, stripStart_append]
  dsimp only
  rw [parseU64_toString, if_pos fits]
  rfl

/-- The object written for a reference is read back. -/
theorem fromJsonValue_toValue (claimRef : ClaimRef) :
    ClaimRef.fromJsonValue claimRef.toValue = some claimRef := by
  cases claimRef <;> rfl

/-- What is printed for a reference is read as that reference. -/
theorem fromJsonValue_printed {claimRef : ClaimRef} {value : Value} (fits : claimRef.FitsU64)
    (printed : PrintedAs claimRef value) : ClaimRef.fromJsonValue value = some claimRef := by
  cases printed with
  | text =>
      cases claimRef with
      | committed claimId => exact fromJsonValue_claim claimId.value
      | draft draftId => exact fromJsonValue_draft fits
  | object => exact fromJsonValue_toValue claimRef
  | number draftId => exact fromJsonValue_number fits

/-- A reference is read back from all its forms, shares none of them with another reference, and is
never taken for one of the other kind. -/
structure RoundTrips (claimRef : ClaimRef) : Prop where
  reads : ∀ value, PrintedAs claimRef value → ClaimRef.fromJsonValue value = some claimRef
  distinct : ∀ other value, ClaimRef.FitsU64 other → PrintedAs claimRef value →
    PrintedAs other value → other = claimRef
  sameKind : ∀ value back, PrintedAs claimRef value → ClaimRef.fromJsonValue value = some back →
    back.isDraft = claimRef.isDraft

theorem claim_refs_round_trip {claimRef : ClaimRef} (fits : claimRef.FitsU64) :
    RoundTrips claimRef := by
  refine ⟨fun value printed => fromJsonValue_printed fits printed, ?_, ?_⟩
  · intro other value otherFits printed otherPrinted
    have read := fromJsonValue_printed fits printed
    rw [fromJsonValue_printed otherFits otherPrinted] at read
    exact Option.some.inj read
  · intro value back printed read
    rw [fromJsonValue_printed fits printed] at read
    rw [Option.some.inj read]

/-- The largest draft number, and a claim whose id looks like a draft. -/
theorem largest_draft_round_trips :
    RoundTrips (.draft (2 ^ 64 - 1)) ∧ RoundTrips (.committed ⟨"draft:#7"⟩) :=
  ⟨claim_refs_round_trip (Nat.sub_lt (by decide) (by decide)), claim_refs_round_trip trivial⟩

end ProstheticConscience.Consensus
