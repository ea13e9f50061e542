/-
Module: ProstheticConscience.Library.AssocMap
Purpose: Finite maps as association lists with distinct keys.  The order of the entry list is the
  iteration order of the map, and `Same` identifies maps that differ in that order only.
Trusted boundary: none
Main exports: AssocMap, AssocMap.update, AssocMap.filter, AssocMap.mapValues, AssocMap.Same,
  AssocMap.filterMap_values_alike_iff, AssocMap.lookup_foldl_group, AssocMap.Renamed
-/
import Mathlib.Data.List.AList
import Mathlib.Data.Set.Function

/-- A finite map with a (meaningless) iteration order: the order of `entries`. -/
abbrev AssocMap (κ : Type*) (ν : Type*) := AList fun _ : κ => ν

namespace AssocMap

variable {κ ν : Type*} [DecidableEq κ]

/-- Set the value of a key.  A key that is already present keeps its place in the iteration
order, a new key is put somewhere. -/
def update (m : AssocMap κ ν) (k : κ) (v : ν) : AssocMap κ ν :=
  if k ∈ m then m.replace k v else m.insert k v

/-- Keep the entries that satisfy a test. -/
def filter (test : κ → ν → Bool) (m : AssocMap κ ν) : AssocMap κ ν where
  entries := m.entries.filter fun entry => test entry.1 entry.2
  nodupKeys := m.nodupKeys.sublist List.filter_sublist

/-- The values in iteration order. -/
def values (m : AssocMap κ ν) : List ν :=
  m.entries.map (·.2)

/-- The same map, perhaps iterated in another order. -/
def Same (m₁ m₂ : AssocMap κ ν) : Prop :=
  m₁.entries.Perm m₂.entries

/-! ### Lookups after an operation -/

theorem dlookup_kreplace (k k' : κ) (v : ν) :
    ∀ l : List (Sigma fun _ : κ => ν), k ∈ l.keys →
      (l.kreplace k v).dlookup k' = if k' = k then some v else l.dlookup k'
  | [], present => by simp at present
  | ⟨head, old⟩ :: rest, present => by
      by_cases headEq : k = head
      · subst headEq
        rw [List.kreplace, List.lookmap_cons_some _ _ (b := ⟨k, v⟩) (by simp)]
        by_cases same : k' = k
        · subst same
          simp
        · rw [if_neg same, List.dlookup_cons_ne _ _ same, List.dlookup_cons_ne _ _ same]
      · have inRest : k ∈ List.keys rest := by simpa [headEq] using present
        rw [List.kreplace, List.lookmap_cons_none _ _ (by simp [headEq]), ← List.kreplace]
        by_cases atHead : k' = head
        · subst atHead
          rw [if_neg (Ne.symm headEq), List.dlookup_cons_eq, List.dlookup_cons_eq]
        · rw [List.dlookup_cons_ne _ _ atHead, List.dlookup_cons_ne _ _ atHead]
          exact dlookup_kreplace k k' v rest inRest

@[simp] theorem mem_update {m : AssocMap κ ν} {k k' : κ} {v : ν} :
    k' ∈ m.update k v ↔ k' = k ∨ k' ∈ m := by
  unfold update
  split
  · rename_i present
    rw [AList.mem_replace]
    exact ⟨Or.inr, fun h => h.elim (fun same => same ▸ present) id⟩
  · exact AList.mem_insert m

theorem lookup_insert (m : AssocMap κ ν) (k k' : κ) (v : ν) :
    AList.lookup k' (m.insert k v) = if k' = k then some v else m.lookup k' := by
  by_cases same : k' = k
  · subst same
    rw [AList.lookup_insert, if_pos rfl]
  · rw [AList.lookup_insert_ne same, if_neg same]

theorem lookup_update (m : AssocMap κ ν) (k k' : κ) (v : ν) :
    (m.update k v).lookup k' = if k' = k then some v else m.lookup k' := by
  unfold update
  split
  · rename_i present
    exact dlookup_kreplace k k' v m.entries present
  · exact lookup_insert m k k' v

@[simp] theorem lookup_update_self (m : AssocMap κ ν) (k : κ) (v : ν) :
    (m.update k v).lookup k = some v := by
  simp [lookup_update]

theorem lookup_update_ne (m : AssocMap κ ν) {k k' : κ} (v : ν) (other : k' ≠ k) :
    (m.update k v).lookup k' = m.lookup k' := by
  simp [lookup_update, other]

/-- Writing a known key leaves the keys as they are. -/
theorem keys_update_known {m : AssocMap κ ν} {k : κ} (known : k ∈ m) (v : ν) :
    (m.update k v).keys = m.keys := by
  rw [update, if_pos known, AList.keys_replace]

/-- Writing a new key adds it. -/
theorem keys_length_update_new {m : AssocMap κ ν} {k : κ} (new : k ∉ m) (v : ν) :
    (m.update k v).keys.length = m.keys.length + 1 := by
  rw [update, if_neg new, AList.keys_insert, List.length_cons, List.erase_of_not_mem new]

theorem lookup_without (m : AssocMap κ ν) (k k' : κ) :
    AList.lookup k' (m.erase k) = if k' = k then none else m.lookup k' := by
  by_cases same : k' = k
  · subst same
    simp
  · rw [AList.lookup_erase_ne same, if_neg same]

theorem mem_iff_lookup {m : AssocMap κ ν} {k : κ} : k ∈ m ↔ ∃ v, m.lookup k = some v := by
  rw [← AList.lookup_isSome, Option.isSome_iff_exists]

theorem mem_entries_iff {m : AssocMap κ ν} {k : κ} {v : ν} :
    (⟨k, v⟩ : Sigma fun _ : κ => ν) ∈ m.entries ↔ m.lookup k = some v :=
  (AList.mem_lookup_iff (s := m)).symm

theorem lookup_filter (m : AssocMap κ ν) (test : κ → ν → Bool) (k : κ) :
    (m.filter test).lookup k = (m.lookup k).filter (test k) := by
  ext v
  rw [← mem_entries_iff, filter, List.mem_filter, mem_entries_iff, Option.filter_eq_some_iff]

@[simp] theorem mem_filter {m : AssocMap κ ν} {test : κ → ν → Bool} {k : κ} :
    k ∈ m.filter test ↔ ∃ v, m.lookup k = some v ∧ test k v = true := by
  rw [mem_iff_lookup, lookup_filter]
  simp only [Option.filter_eq_some_iff]

/-- Erasing a list of keys. -/
theorem lookup_foldl_erase (k : κ) (keys : List κ) (m : AssocMap κ ν) :
    (keys.foldl (fun m key => m.erase key) m).lookup k =
      if k ∈ keys then none else m.lookup k := by
  induction keys generalizing m with
  | nil => rfl
  | cons key rest ih =>
      rw [List.foldl_cons, ih, lookup_without]
      by_cases later : k ∈ rest
      · simp [later]
      · by_cases now : k = key <;> simp [now, later]

/-- Writing a list of distinct keys: each key gets its own value, the others are left alone. -/
theorem lookup_foldl_update (k : κ) (v : ν) (entries : List (κ × ν)) (m : AssocMap κ ν)
    (distinct : (entries.map (·.1)).Nodup) :
    (entries.foldl (fun m entry => m.update entry.1 entry.2) m).lookup k = some v ↔
      (k, v) ∈ entries ∨ (k ∉ entries.map (·.1) ∧ m.lookup k = some v) := by
  induction entries generalizing m with
  | nil => simp
  | cons entry rest ih =>
      rw [List.map_cons] at distinct
      obtain ⟨fresh, restDistinct⟩ := List.nodup_cons.mp distinct
      rw [List.foldl_cons, ih _ restDistinct, lookup_update, List.mem_cons, List.map_cons,
        List.mem_cons]
      by_cases same : k = entry.1
      · subst same
        have notLater : (entry.1, v) ∉ rest := fun later =>
          fresh (List.mem_map_of_mem (f := (·.1)) later)
        simp [notLater, fresh, Prod.ext_iff, eq_comm]
      · have notHead : (k, v) ≠ entry := fun head => same (head ▸ rfl)
        simp [same, notHead]

/-! ### Iteration order -/

omit [DecidableEq κ] in
theorem Same.refl (m : AssocMap κ ν) : Same m m :=
  List.Perm.refl _

omit [DecidableEq κ] in
theorem Same.symm {m₁ m₂ : AssocMap κ ν} (same : Same m₁ m₂) : Same m₂ m₁ :=
  List.Perm.symm same

theorem Same.lookup_eq {m₁ m₂ : AssocMap κ ν} (same : Same m₁ m₂) (k : κ) :
    m₁.lookup k = m₂.lookup k :=
  AList.perm_lookup same

omit [DecidableEq κ] in
theorem Same.mem_iff {m₁ m₂ : AssocMap κ ν} (same : Same m₁ m₂) (k : κ) :
    k ∈ m₁ ↔ k ∈ m₂ :=
  AList.mem_of_perm same

/-- Two maps with the same lookups are the same map. -/
theorem same_of_lookup_eq {m₁ m₂ : AssocMap κ ν} (agree : ∀ k, m₁.lookup k = m₂.lookup k) :
    Same m₁ m₂ := by
  refine List.lookup_ext m₁.nodupKeys m₂.nodupKeys fun k v => ?_
  have := agree k
  unfold AList.lookup at this
  rw [this]

omit [DecidableEq κ] in
theorem Same.values_perm {m₁ m₂ : AssocMap κ ν} (same : Same m₁ m₂) :
    m₁.values.Perm m₂.values :=
  List.Perm.map _ same

omit [DecidableEq κ] in
/-- Any value can be the first one. -/
theorem exists_same_first {m : AssocMap κ ν} {v : ν} (member : v ∈ m.values) :
    ∃ m' rest, Same m m' ∧ m'.values = v :: rest := by
  obtain ⟨entry, inside, rfl⟩ := List.mem_map.mp member
  obtain ⟨before, after, split⟩ := List.append_of_mem inside
  have perm : m.entries.Perm (entry :: (before ++ after)) := by
    rw [split]
    exact List.perm_middle
  exact ⟨⟨_, (List.perm_nodupKeys perm).mp m.nodupKeys⟩, _, perm, rfl⟩

omit [DecidableEq κ] in
/-- A list read off the values is the same for every order of iteration exactly if its elements
are all the same. -/
theorem filterMap_values_alike_iff {α : Type*} {m : AssocMap κ ν} {read : ν → Option α} :
    (∀ m', Same m m' → m'.values.filterMap read = m.values.filterMap read) ↔
      ∀ a ∈ m.values.filterMap read, ∀ b ∈ m.values.filterMap read, a = b := by
  constructor
  · intro alike
    have first : ∀ a ∈ m.values.filterMap read, (m.values.filterMap read).head? = some a := by
      intro a member
      obtain ⟨v, inside, reads⟩ := List.mem_filterMap.mp member
      obtain ⟨m', rest, same, values⟩ := exists_same_first inside
      rw [← alike m' same, values, List.filterMap_cons_some reads, List.head?_cons]
    intro a aMember b bMember
    exact Option.some.inj ((first a aMember).symm.trans (first b bMember))
  · intro alike m' same
    have perm : (m'.values.filterMap read).Perm (m.values.filterMap read) :=
      (Same.values_perm same).symm.filterMap read
    have unordered : ∀ list : List α, list.Pairwise fun _ _ => True :=
      fun _ => List.pairwise_of_forall fun _ _ => trivial
    refine perm.eq_of_pairwise ?_ (unordered _) (unordered _)
    intro a b aMember bMember _ _
    exact alike a (perm.mem_iff.mp aMember) b bMember

/-! ### Grouping -/

/-- Appending each item to the group of its key gives every key the items that have it, in
order. -/
theorem lookup_foldl_group {α : Type*} (keyOf : α → κ) (valueOf : α → ν) (items : List α)
    (groups : AssocMap κ (List ν)) (k : κ) :
    (items.foldl
        (fun groups item => groups.update (keyOf item)
          ((groups.lookup (keyOf item)).getD [] ++ [valueOf item]))
        groups).lookup k =
      if items.filter (fun item => decide (keyOf item = k)) = [] then groups.lookup k
      else some ((groups.lookup k).getD [] ++
        (items.filter fun item => decide (keyOf item = k)).map valueOf) := by
  induction items generalizing groups with
  | nil => rfl
  | cons item rest ih =>
      rw [List.foldl_cons, ih, lookup_update]
      by_cases here : keyOf item = k
      · subst here
        rw [if_pos rfl, List.filter_cons_of_pos (by simp), if_neg (List.cons_ne_nil _ _)]
        split
        · rename_i none_later
          rw [none_later]
          rfl
        · simp
      · rw [if_neg (Ne.symm here), List.filter_cons_of_neg (by simpa using here)]

/-! ### Mapping the values -/

section MapValues

variable {ν' : Type*}

/-- Rewrite every value. -/
def mapValues (f : ν → ν') (m : AssocMap κ ν) : AssocMap κ ν' where
  entries := m.entries.map fun entry => ⟨entry.1, f entry.2⟩
  nodupKeys := by
    have keys := m.nodupKeys
    rw [List.NodupKeys, List.keys] at keys ⊢
    rwa [List.map_map]

theorem lookup_mapValues (f : ν → ν') (m : AssocMap κ ν) (k : κ) :
    (m.mapValues f).lookup k = (m.lookup k).map f := by
  ext v
  rw [← mem_entries_iff, mapValues, List.mem_map, Option.map_eq_some_iff]
  constructor
  · rintro ⟨⟨k₀, v₀⟩, member, same⟩
    obtain ⟨rfl, sameValue⟩ := Sigma.mk.inj_iff.mp same
    exact ⟨v₀, mem_entries_iff.mp member, eq_of_heq sameValue⟩
  · rintro ⟨v₀, found, rfl⟩
    exact ⟨⟨k, v₀⟩, mem_entries_iff.mpr found, rfl⟩

end MapValues

/-! ### Renaming keys -/

section Renaming

variable {κ' ν' : Type*} [DecidableEq κ']

/-- `after` is `before` with its keys renamed and its values rewritten, perhaps iterated in another
order. -/
def Renamed (f : κ → κ') (g : ν → ν') (before : AssocMap κ ν) (after : AssocMap κ' ν') : Prop :=
  after.entries.Perm (before.entries.map fun entry => ⟨f entry.1, g entry.2⟩)

variable {f : κ → κ'} {g : ν → ν'} {S : Set κ} {before : AssocMap κ ν} {after : AssocMap κ' ν'}

/-- Where the renaming is injective, lookups commute with it. -/
theorem Renamed.lookup_eq (renamed : Renamed f g before after) (inj : Set.InjOn f S)
    (known : ∀ k ∈ before, k ∈ S) {k : κ} (inside : k ∈ S) :
    after.lookup (f k) = (before.lookup k).map g := by
  ext v
  rw [← mem_entries_iff, renamed.mem_iff, List.mem_map, Option.map_eq_some_iff]
  constructor
  · intro found
    obtain ⟨⟨k₀, v₀⟩, member, same⟩ := found
    obtain ⟨sameKey, sameValue⟩ := Sigma.mk.inj_iff.mp same
    have lookup₀ := mem_entries_iff.mp member
    have k₀Eq : k₀ = k := inj (known k₀ (mem_iff_lookup.mpr ⟨v₀, lookup₀⟩)) inside sameKey
    subst k₀Eq
    exact ⟨v₀, lookup₀, eq_of_heq sameValue⟩
  · intro found
    obtain ⟨v₀, lookup₀, rfl⟩ := found
    exact ⟨⟨k, v₀⟩, mem_entries_iff.mpr lookup₀, rfl⟩

omit [DecidableEq κ] in
/-- Every key of the renamed map is the new name of an old key. -/
theorem Renamed.exists_of_mem (renamed : Renamed f g before after) {k' : κ'}
    (member : k' ∈ after) : ∃ k ∈ before, f k = k' := by
  obtain ⟨v', found⟩ := mem_iff_lookup.mp member
  obtain ⟨entry, entryMem, same⟩ := List.mem_map.mp (renamed.mem_iff.mp (mem_entries_iff.mpr found))
  refine ⟨entry.1, ?_, (Sigma.mk.inj_iff.mp same).1⟩
  exact List.mem_map_of_mem (f := Sigma.fst) entryMem

/-- Conversely, maps whose lookups commute with the renaming are renamed copies. -/
theorem renamed_of_lookup (inj : Set.InjOn f S) (known : ∀ k ∈ before, k ∈ S)
    (lookups : ∀ k ∈ S, after.lookup (f k) = (before.lookup k).map g)
    (named : ∀ k' ∈ after, ∃ k ∈ S, f k = k') : Renamed f g before after := by
  have keyOf : ∀ entry ∈ before.entries, entry.1 ∈ S := by
    intro entry member
    exact known entry.1 (List.mem_map_of_mem (f := Sigma.fst) member)
  have imageNodup : (before.entries.map fun entry =>
      (⟨f entry.1, g entry.2⟩ : Sigma fun _ : κ' => ν')).Nodup := by
    apply List.Nodup.map_on _ before.nodupKeys.nodup
    intro first firstMem second secondMem same
    have sameKey := inj (keyOf first firstMem) (keyOf second secondMem)
      (Sigma.mk.inj_iff.mp same).1
    exact before.nodupKeys.eq_of_fst_eq firstMem secondMem sameKey
  apply (List.perm_ext_iff_of_nodup after.nodupKeys.nodup imageNodup).mpr
  intro entry'
  rw [List.mem_map]
  constructor
  · intro member
    have found := mem_entries_iff.mp member
    obtain ⟨k, inside, same⟩ := named entry'.1 (mem_iff_lookup.mpr ⟨_, found⟩)
    rw [← same, lookups k inside, Option.map_eq_some_iff] at found
    obtain ⟨v, vFound, vEq⟩ := found
    exact ⟨⟨k, v⟩, mem_entries_iff.mpr vFound, Sigma.ext same (heq_of_eq vEq)⟩
  · intro image
    obtain ⟨⟨k, v⟩, member, rfl⟩ := image
    have found := mem_entries_iff.mp member
    apply mem_entries_iff.mpr
    rw [lookups k (keyOf _ member), found]
    rfl

/-- Renaming commutes with writing a key. -/
theorem Renamed.update (renamed : Renamed f g before after) (inj : Set.InjOn f S)
    (known : ∀ k ∈ before, k ∈ S) {k : κ} (inside : k ∈ S) (v : ν) :
    Renamed f g (before.update k v) (after.update (f k) (g v)) := by
  apply renamed_of_lookup inj
  · intro other member
    rcases mem_update.mp member with rfl | old
    · exact inside
    · exact known other old
  · intro other otherIn
    rw [lookup_update, lookup_update]
    by_cases same : other = k
    · rw [if_pos (congrArg f same), if_pos same, Option.map_some]
    · rw [if_neg (fun sameName => same (inj otherIn inside sameName)), if_neg same]
      exact renamed.lookup_eq inj known otherIn
  · intro k' member
    rcases mem_update.mp member with rfl | old
    · exact ⟨k, inside, rfl⟩
    · obtain ⟨other, otherMem, same⟩ := renamed.exists_of_mem old
      exact ⟨other, known other otherMem, same⟩

omit [DecidableEq κ] [DecidableEq κ'] in
/-- The iteration orders do not matter. -/
theorem Renamed.of_same {before' : AssocMap κ ν} {after' : AssocMap κ' ν'}
    (renamed : Renamed f g before after) (sameBefore : Same before before')
    (sameAfter : Same after after') : Renamed f g before' after' :=
  (sameAfter.symm.trans renamed).trans (List.Perm.map _ sameBefore)

end Renaming

end AssocMap
