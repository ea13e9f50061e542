/-
Module: ProstheticConscience.Json
Purpose: JSON values as the services exchange them.  An object is a map ordered by key, as in the
  default build of the JSON library.
Trusted boundary: none
Main exports: Number, Value, Value.insertMember, Value.ofMembers, Value.get, Value.asStr,
  Value.asU64, Value.asArray, Value.asObject, Value.get_ofMembers, JsonText
-/
import Mathlib.Data.List.Basic

namespace ProstheticConscience

/-- A JSON number: a natural number, a negative integer, or the bits of a finite float. -/
inductive Number where
  | posInt (value : Nat)
  | negInt (magnitude : Nat)
  | float (bits : Nat)
deriving DecidableEq, Repr, Inhabited

/-- A JSON value.  The members of an object stand in key order. -/
inductive Value where
  | null
  | bool (value : Bool)
  | number (value : Number)
  | string (value : String)
  | array (items : List Value)
  | object (members : List (String × Value))
deriving Repr, Inhabited

namespace Value

mutual

/-- Structural equality test. -/
def beq : Value → Value → Bool
  | .null, .null => true
  | .bool a, .bool b => a == b
  | .number a, .number b => decide (a = b)
  | .string a, .string b => a == b
  | .array a, .array b => beqItems a b
  | .object a, .object b => beqMembers a b
  | _, _ => false

/-- Equality test for array items. -/
def beqItems : List Value → List Value → Bool
  | [], [] => true
  | a :: as, b :: bs => beq a b && beqItems as bs
  | _, _ => false

/-- Equality test for object members. -/
def beqMembers : List (String × Value) → List (String × Value) → Bool
  | [], [] => true
  | (k, a) :: as, (l, b) :: bs => k == l && beq a b && beqMembers as bs
  | _, _ => false

end

mutual

/-- The comparison decides equality; it is proved together with those of items and members, along
the recursion of the type. -/
theorem beq_iff : ∀ a b : Value, beq a b = true ↔ a = b
  | .null, b => by cases b <;> simp [beq]
  | .bool a, b => by cases b <;> simp [beq]
  | .number a, b => by cases b <;> simp [beq]
  | .string a, b => by cases b <;> simp [beq]
  | .array a, b => by
      cases b with
      | array b => simp [beq, beqItems_iff a b]
      | _ => simp [beq]
  | .object a, b => by
      cases b with
      | object b => simp [beq, beqMembers_iff a b]
      | _ => simp [beq]

theorem beqItems_iff : ∀ as bs : List Value, beqItems as bs = true ↔ as = bs
  | [], bs => by cases bs <;> simp [beqItems]
  | a :: as, [] => by simp [beqItems]
  | a :: as, b :: bs => by simp [beqItems, beq_iff a b, beqItems_iff as bs]

theorem beqMembers_iff : ∀ as bs : List (String × Value), beqMembers as bs = true ↔ as = bs
  | [], bs => by cases bs <;> simp [beqMembers]
  | (k, a) :: as, [] => by simp [beqMembers]
  | (k, a) :: as, (l, b) :: bs => by
      simp [beqMembers, beq_iff a b, beqMembers_iff as bs, and_assoc]

end

instance : DecidableEq Value := fun a b => decidable_of_iff _ (beq_iff a b)

/-- Insert a member at its place in key order, replacing a member of the same key. -/
def insertMember (key : String) (value : Value) :
    List (String × Value) → List (String × Value)
  | [] => [(key, value)]
  | (k, v) :: rest =>
      if key = k then (key, value) :: rest
      else if key < k then (key, value) :: (k, v) :: rest
      else (k, v) :: insertMember key value rest

/-- The object with the given members, written in any order. -/
def ofMembers (members : List (String × Value)) : Value :=
  .object (members.foldl (fun acc member => insertMember member.1 member.2 acc) [])

/-- A two-member object is ordered by key whatever the order of writing. -/
example : ofMembers [("type", .string "end"), ("data", .null)] =
    .object [("data", .null), ("type", .string "end")] := by decide

/-! ### Reading a value -/

/-- The member of an object under a key; any other value has none. -/
def get : Value → String → Option Value
  | .object members, key => members.lookup key
  | _, _ => none

def asStr : Value → Option String
  | .string value => some value
  | _ => none

/-- A non-negative integer. -/
def asU64 : Value → Option Nat
  | .number (.posInt value) => some value
  | _ => none

def asArray : Value → Option (List Value)
  | .array items => some items
  | _ => none

def asObject : Value → Option (List (String × Value))
  | .object members => some members
  | _ => none

@[simp] theorem asStr_string (value : String) : (string value).asStr = some value := rfl

@[simp] theorem asArray_array (items : List Value) : (array items).asArray = some items := rfl

/-- Looking up a name in members, of which the first one is known. -/
theorem lookup_member {κ ν : Type} [DecidableEq κ] (k other : κ) (value : ν)
    (rest : List (κ × ν)) :
    List.lookup other ((k, value) :: rest) =
      if other = k then some value else rest.lookup other := by
  rw [List.lookup_cons]
  by_cases same : other = k
  · rw [if_pos same, beq_iff_eq.mpr same]
  · rw [if_neg same, beq_false_of_ne same]

/-- Inserting a member replaces what stood under its name, and leaves the other members as they are.
-/
theorem lookup_insertMember (key other : String) (value : Value)
    (members : List (String × Value)) :
    (insertMember key value members).lookup other =
      if other = key then some value else members.lookup other := by
  induction members with
  | nil => exact lookup_member key other value []
  | cons member rest ih =>
      obtain ⟨k, v⟩ := member
      unfold insertMember
      split
      · rename_i here
        subst here
        rw [lookup_member, lookup_member]
        split <;> rfl
      · rename_i differs
        split
        · exact lookup_member key other value ((k, v) :: rest)
        · rw [lookup_member, lookup_member, ih]
          by_cases there : other = k
          · rw [if_pos there, if_pos there, if_neg fun same => differs (same.symm.trans there)]
          · rw [if_neg there, if_neg there]

/-- Reading a written object: the last member written under the key. -/
theorem get_ofMembers (members : List (String × Value)) (key : String) :
    (ofMembers members).get key = members.reverse.lookup key := by
  rw [ofMembers, get, ← List.foldr_reverse]
  induction members.reverse with
  | nil => rfl
  | cons member rest ih =>
      obtain ⟨k, v⟩ := member
      rw [List.foldr_cons, lookup_insertMember, ih, lookup_member]

end Value

/-- JSON as text: parsing, which may fail with a message, and pretty printing. -/
structure JsonText where
  fromStr : String → Except String Value
  toStringPretty : Value → String

end ProstheticConscience
