/-
Module: ProstheticConscience.Wire
Purpose: Reading typed values from JSON: texts, numbers, and the members of written objects.  The
  messages of the services are objects whose member `type` names the variant.  The derived reader
  also takes a sequence of the tag and the fields, which no service writes; it is left out.
Trusted boundary: none
Main exports: Value.text, Value.natural, Value.anything, Value.written, Value.hasMembers_written,
  Value.absent_written, readObject
-/
import Mathlib.Data.List.Nodup
import ProstheticConscience.Json
import ProstheticConscience.Library.Prism

namespace ProstheticConscience

namespace Value

def text : Prism Value String where
  build := .string
  parse := asStr
  parse_eq_some_iff := by
    intro value text
    cases value <;> simp [asStr]

def natural : Prism Value Nat where
  build index := .number (.posInt index)
  parse := asU64
  parse_eq_some_iff := by
    intro value index
    cases value with
    | number number => cases number <;> simp [asU64]
    | _ => simp [asU64]

/-- A member whose value is kept as it is. -/
def anything : Prism Value Value where
  build := id
  parse := some
  parse_eq_some_iff := Option.some_inj

/-! ### Members of a written object -/

/-- The members of a written object. -/
def written (members : List (String × Value)) : List (String × Value) :=
  members.foldl (fun acc member => insertMember member.1 member.2 acc) []

theorem ofMembers_eq (members : List (String × Value)) :
    ofMembers members = .object (written members) := rfl

/-- Of members of the same name the last one that is written counts. -/
theorem lookup_written (members : List (String × Value)) (key : String) :
    (written members).lookup key = members.reverse.lookup key :=
  get_ofMembers members key

/-- A name is not found exactly when no member has it. -/
theorem lookup_eq_none_iff {members : List (String × Value)} {key : String} :
    members.lookup key = none ↔ key ∉ members.map Prod.fst := by
  induction members with
  | nil => simp
  | cons member rest ih =>
      obtain ⟨k, v⟩ := member
      rw [lookup_member]
      by_cases same : key = k
      · simp [same]
      · simp [same, ih]

/-- When names are distinct, every member is found under its name. -/
theorem lookup_of_mem {members : List (String × Value)} {key : String} {value : Value}
    (distinct : (members.map Prod.fst).Nodup) (member : (key, value) ∈ members) :
    members.lookup key = some value := by
  induction members with
  | nil => cases member
  | cons first rest ih =>
      obtain ⟨k, v⟩ := first
      rw [List.map_cons, List.nodup_cons] at distinct
      rw [lookup_member]
      rcases List.mem_cons.mp member with here | later
      · obtain ⟨rfl, rfl⟩ := Prod.mk.inj here
        rw [if_pos rfl]
      · rw [if_neg, ih distinct.2 later]
        rintro rfl
        exact distinct.1 (List.mem_map.mpr ⟨(key, value), later, rfl⟩)

/-- A written object has the members that were written, when their keys are distinct. -/
theorem hasMembers_written {members : List (String × Value)}
    (distinct : (members.map Prod.fst).Nodup) : HasMembers (written members) members := by
  intro member inside
  rw [lookup_written]
  apply lookup_of_mem
  · rw [List.map_reverse]
    exact List.nodup_reverse.mpr distinct
  · exact List.mem_reverse.mpr inside

/-- What was not written is absent. -/
theorem absent_written {members : List (String × Value)} {key : String}
    (missing : key ∉ members.map Prod.fst) : Prism.Absent null key (written members) := by
  left
  rw [lookup_written, lookup_eq_none_iff, List.map_reverse, List.mem_reverse]
  exact missing

end Value

/-- Read a message from the members of an object. -/
def readObject {A : Type} (read : List (String × Value) → Option A) : Value → Option A
  | .object members => read members
  | _ => none

@[simp] theorem readObject_object {A : Type} (read : List (String × Value) → Option A)
    (members : List (String × Value)) : readObject read (.object members) = read members := rfl

/-- What is read as a record is an object with the members of the record. -/
theorem readObject_eq_some_iff {A : Type} {read : List (String × Value) → Option A} {value : Value}
    {message : A} :
    readObject read value = some message ↔
      ∃ members, value = .object members ∧ read members = some message := by
  cases value with
  | object members => simp
  | _ => simp [readObject]

end ProstheticConscience
