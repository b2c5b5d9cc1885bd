import Mathlib.Data.Finset.Card
import Mathlib.Data.List.AList

/-!
# Maps with room for so many keys

A hash map that is given its capacity when it is made. An update of a key that is there always
succeeds; a new key needs room, and nothing makes room but a deletion.

* **`updates_isSome_iff`** — updates one after another all succeed exactly when the keys, those
  there before included, fit.
-/

namespace KubeGuardian.Lib

structure BoundedMap (κ β : Type*) [DecidableEq κ] (capacity : Nat) where
  entries : AList fun _ : κ => β
  size_le : entries.keys.length ≤ capacity

namespace BoundedMap

variable {κ β : Type*} [DecidableEq κ] {capacity : Nat}

def empty : BoundedMap κ β capacity := ⟨∅, Nat.zero_le _⟩

def lookup (m : BoundedMap κ β capacity) (k : κ) : Option β := m.entries.lookup k

def keySet (m : BoundedMap κ β capacity) : Finset κ := m.entries.keys.toFinset

/-- Inserting adds a key unless it is there. -/
theorem length_keys_insert {entries : AList fun _ : κ => β} (k : κ) (v : β) :
    (entries.insert k v).keys.length
      = if k ∈ entries then entries.keys.length else entries.keys.length + 1 := by
  rw [AList.keys_insert, List.length_cons]
  split
  · next hmem =>
    have hlength := List.length_erase_of_mem (AList.mem_keys.mp hmem)
    have hpos := List.length_pos_of_mem (AList.mem_keys.mp hmem)
    omega
  · next hmem => rw [List.erase_of_not_mem fun h => hmem (AList.mem_keys.mpr h)]

theorem length_keys_erase_le (entries : AList fun _ : κ => β) (k : κ) :
    (entries.erase k).keys.length ≤ entries.keys.length := by
  rw [AList.keys_erase]
  exact List.length_erase_le

/-- `none` where there is no room for a new key. -/
def update (m : BoundedMap κ β capacity) (k : κ) (v : β) : Option (BoundedMap κ β capacity) :=
  if h : k ∈ m.entries ∨ m.entries.keys.length < capacity then
    some ⟨m.entries.insert k v, by
      have hle := m.size_le
      rw [length_keys_insert]
      split
      · exact hle
      · next hnew => exact h.resolve_left hnew⟩
  else none

def delete (m : BoundedMap κ β capacity) (k : κ) : BoundedMap κ β capacity :=
  ⟨m.entries.erase k, (length_keys_erase_le m.entries k).trans m.size_le⟩

/-- An update whose failure goes unnoticed. -/
def tryUpdate (m : BoundedMap κ β capacity) (k : κ) (v : β) : BoundedMap κ β capacity :=
  (m.update k v).getD m

/-! ## Keys

What a map holds is best told by the set of its keys, since a bound on the number of entries is one
on the size of this set.
-/

variable {m m' : BoundedMap κ β capacity} {k k' : κ} {v : β}

@[simp] theorem lookup_empty : (empty : BoundedMap κ β capacity).lookup k = none := rfl

@[simp] theorem keySet_empty : (empty : BoundedMap κ β capacity).keySet = ∅ := rfl

/-- The keys are those of the entries. -/
theorem mem_keySet_iff_mem : k ∈ m.keySet ↔ k ∈ m.entries := by
  rw [keySet, List.mem_toFinset, AList.mem_keys]

/-- A key has an entry when it is in the set. -/
theorem lookup_isSome_iff : (m.lookup k).isSome ↔ k ∈ m.keySet := by
  rw [lookup, AList.lookup_isSome, mem_keySet_iff_mem]

theorem lookup_eq_none_iff : m.lookup k = none ↔ k ∉ m.keySet := by
  rw [← lookup_isSome_iff, Option.not_isSome_iff_eq_none]

/-- No key is there twice. -/
theorem card_keySet (m : BoundedMap κ β capacity) : m.keySet.card = m.entries.keys.length :=
  List.toFinset_card_of_nodup m.entries.keys_nodup

/-- The bound is one on the number of keys. -/
theorem card_keySet_le (m : BoundedMap κ β capacity) : m.keySet.card ≤ capacity :=
  m.card_keySet ▸ m.size_le

/-! ## Updates

`bpf_map_update_elem` with no flags: an entry that is there is overwritten, a new one needs room.
-/

/-- **An update fails only for want of room**, and never for a key that is there. -/
theorem update_isSome_iff :
    (m.update k v).isSome ↔ k ∈ m.keySet ∨ m.keySet.card < capacity := by
  unfold update
  rw [mem_keySet_iff_mem, card_keySet]
  split
  · next h => simp [h]
  · next h => simp [h]

/-- One that does not fail is an insertion. -/
theorem entries_of_update (h : m.update k v = some m') : m'.entries = m.entries.insert k v := by
  unfold update at h
  split at h
  · obtain rfl := Option.some.inj h
    rfl
  · cases h

/-- It adds the key. -/
theorem keySet_of_update (h : m.update k v = some m') : m'.keySet = insert k m.keySet := by
  ext k'
  rw [Finset.mem_insert, mem_keySet_iff_mem, mem_keySet_iff_mem, entries_of_update h,
    AList.mem_insert]

/-- It puts the value there. -/
theorem lookup_of_update_self (h : m.update k v = some m') : m'.lookup k = some v := by
  rw [lookup, entries_of_update h, AList.lookup_insert]

theorem lookup_of_update_ne (h : m.update k v = some m') (hne : k' ≠ k) :
    m'.lookup k' = m.lookup k' := by
  rw [lookup, entries_of_update h, AList.lookup_insert_ne hne, lookup]

/-- An update whose failure is ignored does nothing, or is one that does not fail. -/
theorem tryUpdate_cases (m : BoundedMap κ β capacity) (k : κ) (v : β) :
    m.tryUpdate k v = m ∨ m.update k v = some (m.tryUpdate k v) := by
  unfold tryUpdate
  cases m.update k v with
  | none => exact .inl rfl
  | some m' => exact .inr rfl

/-- Keys only come. -/
theorem keySet_subset_tryUpdate : m.keySet ⊆ (m.tryUpdate k v).keySet := by
  rcases m.tryUpdate_cases k v with h | h
  · rw [h]
  · rw [keySet_of_update h]
    exact Finset.subset_insert k m.keySet

/-- With room, the value is there. -/
theorem lookup_tryUpdate_self (hroom : m.keySet.card < capacity) :
    (m.tryUpdate k v).lookup k = some v := by
  obtain ⟨m', hm'⟩ := Option.isSome_iff_exists.mp (update_isSome_iff.mpr (.inr hroom))
  rw [tryUpdate, hm', Option.getD_some]
  exact lookup_of_update_self hm'

/-- The other keys have what they had, whether there was room or not. -/
theorem lookup_tryUpdate_ne (hne : k' ≠ k) : (m.tryUpdate k v).lookup k' = m.lookup k' := by
  rcases m.tryUpdate_cases k v with h | h
  · rw [h]
  · exact lookup_of_update_ne h hne

@[simp] theorem lookup_delete_self : (m.delete k).lookup k = none := AList.lookup_erase k m.entries

theorem lookup_delete_ne (hne : k' ≠ k) : (m.delete k).lookup k' = m.lookup k' :=
  AList.lookup_erase_ne hne

/-! ## Many updates

One update after the other, up to the first that fails.
-/

/-- One update after another; `none` from the first one on that finds no room. -/
def updates (m : BoundedMap κ β capacity) (v : β) (ks : List κ) :
    Option (BoundedMap κ β capacity) :=
  ks.foldlM (fun m k => m.update k v) m

theorem updates_cons (m : BoundedMap κ β capacity) (v : β) (k : κ) (ks : List κ) :
    m.updates v (k :: ks) = (m.update k v).bind fun m' => m'.updates v ks := rfl

/-- **Updates all succeed exactly when their keys fit.** Induction on the updates; the keys before
the next one are among those in the end. -/
theorem updates_isSome_iff {ks : List κ} :
    (m.updates v ks).isSome ↔ (m.keySet ∪ ks.toFinset).card ≤ capacity := by
  induction ks generalizing m with
  | nil => simpa [updates] using m.card_keySet_le
  | cons k ks ih =>
    have hkeys : m.keySet ∪ (k :: ks).toFinset = insert k m.keySet ∪ ks.toFinset := by
      rw [List.toFinset_cons, Finset.insert_union, Finset.union_insert]
    rw [updates_cons, hkeys]
    cases hupdate : m.update k v with
    | some m₁ =>
      rw [Option.bind_some, ih, keySet_of_update hupdate]
    | none =>
      -- the map is full and the key is not in it
      have hfull : ¬ (k ∈ m.keySet ∨ m.keySet.card < capacity) := by
        rw [← update_isSome_iff (v := v), hupdate]
        simp
      have hcard : (insert k m.keySet).card = m.keySet.card + 1 :=
        Finset.card_insert_of_notMem fun h => hfull (.inl h)
      have hsubset : (insert k m.keySet).card ≤ (insert k m.keySet ∪ ks.toFinset).card :=
        Finset.card_le_card Finset.subset_union_left
      have hroom : ¬ m.keySet.card < capacity := fun h => hfull (.inr h)
      simp only [Option.bind_none, Option.isSome_none, Bool.false_eq_true, false_iff]
      omega

end BoundedMap

end KubeGuardian.Lib
