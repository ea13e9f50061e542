/-
Module: ProstheticConscience.Library.Prism
Purpose: Writing values of one type into another so that exactly what is written can be read back,
  and reading the members of a record: required ones and ones that may be absent.
Trusted boundary: none
Main exports: Prism, Prism.parse_build, Prism.ofEnum, Prism.comp, Prism.required,
  Prism.optional, HasMembers
-/
import Mathlib.Data.List.Basic
import Mathlib.Logic.Function.Basic

/-- A way to write values of `A` into `S`, and to read from `S` exactly what was written. -/
structure Prism (S A : Type*) where
  build : A → S
  parse : S → Option A
  parse_eq_some_iff : ∀ {s : S} {a : A}, parse s = some a ↔ s = build a

namespace Prism

variable {S A B : Type*}

@[simp] theorem parse_build (prism : Prism S A) (a : A) : prism.parse (prism.build a) = some a :=
  prism.parse_eq_some_iff.mpr rfl

/-- Values that are read by their names. -/
def ofEnum [DecidableEq S] (name : A → S) (all : List A) (complete : ∀ a, a ∈ all)
    (injective : Function.Injective name) : Prism S A where
  build := name
  parse s := all.find? fun a => name a = s
  parse_eq_some_iff := by
    intro s a
    constructor
    · intro found
      have named := List.find?_some found
      exact (of_decide_eq_true named).symm
    · rintro rfl
      cases found : all.find? fun other => name other = name a with
      | none =>
          have missed := List.find?_eq_none.mp found a (complete a)
          exact absurd rfl (of_decide_eq_false (Bool.eq_false_iff.mpr missed))
      | some other =>
          have named := List.find?_some found
          rw [injective (of_decide_eq_true named)]

/-- Read in two steps what was written in two steps. -/
def comp (outer : Prism S A) (inner : Prism A B) : Prism S B where
  build b := outer.build (inner.build b)
  parse s := (outer.parse s).bind inner.parse
  parse_eq_some_iff := by
    intro s b
    rw [Option.bind_eq_some_iff]
    constructor
    · rintro ⟨a, read, readInner⟩
      rw [outer.parse_eq_some_iff.mp read, inner.parse_eq_some_iff.mp readInner]
    · rintro rfl
      exact ⟨inner.build b, outer.parse_build _, inner.parse_build b⟩

end Prism

/-! ### Members of a record -/

section Members

variable {κ V A : Type*} [BEq κ]

/-- The record has all these members, and perhaps others. -/
def HasMembers (members fields : List (κ × V)) : Prop :=
  ∀ field ∈ fields, members.lookup field.1 = some field.2

/-- Every object has the members of an empty record. -/
theorem hasMembers_nil (members : List (κ × V)) : HasMembers members [] :=
  fun _ member => absurd member List.not_mem_nil

/-- An object has the members of a record when it has the first one and all others. -/
theorem hasMembers_cons {members fields : List (κ × V)} {key : κ} {value : V} :
    HasMembers members ((key, value) :: fields) ↔
      members.lookup key = some value ∧ HasMembers members fields :=
  List.forall_mem_cons

/-- The members of two parts of a record are looked up independently of one another. -/
theorem hasMembers_append {members first second : List (κ × V)} :
    HasMembers members (first ++ second) ↔ HasMembers members first ∧ HasMembers members second :=
  List.forall_mem_append

namespace Prism

/-- A member that must be there. -/
def required (prism : Prism V A) (key : κ) (members : List (κ × V)) : Option A :=
  (members.lookup key).bind prism.parse

/-- A required member is read exactly when what is written for it is there. -/
theorem required_eq_some_iff {prism : Prism V A} {key : κ} {members : List (κ × V)} {a : A} :
    prism.required key members = some a ↔ members.lookup key = some (prism.build a) := by
  rw [required, Option.bind_eq_some_iff]
  constructor
  · rintro ⟨value, found, read⟩
    rw [found, prism.parse_eq_some_iff.mp read]
  · intro found
    exact ⟨prism.build a, found, prism.parse_build a⟩

/-- A member that may be absent, or carry the value that stands for an absent one. -/
def optional [DecidableEq V] (prism : Prism V A) (absent : V) (key : κ)
    (members : List (κ × V)) : Option (Option A) :=
  match members.lookup key with
  | none => some none
  | some value => if value = absent then some none else (prism.parse value).map some

/-- The member is left out, or stands for an absent one. -/
def Absent (absent : V) (key : κ) (members : List (κ × V)) : Prop :=
  members.lookup key = none ∨ members.lookup key = some absent

/-- An optional member is read as absent exactly when it is left out or has the value that stands
for absence. -/
theorem optional_eq_none_iff [DecidableEq V] {prism : Prism V A} {absent : V} {key : κ}
    {members : List (κ × V)} :
    prism.optional absent key members = some none ↔ Absent absent key members := by
  unfold optional Absent
  cases found : members.lookup key with
  | none => simp
  | some value => by_cases same : value = absent <;> simp [same]

/-- An optional member is read exactly when what is written for it is there, provided that this
cannot be taken for an absent one. -/
theorem optional_eq_some_iff [DecidableEq V] {prism : Prism V A} {absent : V} {key : κ}
    {members : List (κ × V)} {a : A} (real : prism.build a ≠ absent) :
    prism.optional absent key members = some (some a) ↔
      members.lookup key = some (prism.build a) := by
  unfold optional
  cases found : members.lookup key with
  | none => simp
  | some value =>
      by_cases same : value = absent
      · simp [same, real.symm]
      · simp [same, prism.parse_eq_some_iff]

end Prism

end Members
