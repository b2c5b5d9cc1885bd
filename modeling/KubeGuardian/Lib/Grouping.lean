import Mathlib.Data.List.AList
import Mathlib.Data.List.Induction
import KubeGuardian.Lib.Reordering

/-!
# Grouping a stream by key

A `Grouping` sorts a stream of key–value pairs into one group per key, each value kept once.
That no key heads two groups, that no group is empty and that no group repeats a value are
fields of the structure, so they hold of whatever a program builds through `Grouping.add`.

* **`mem_ofList`** — the groups hold exactly the pairs of the stream, nothing lost and nothing
  moved from one key to another;
* **`regroup_entries_perm`** — collecting groups of distinct keys into a map gives the same
  groups back, in some order.
-/

namespace KubeGuardian.Lib

variable {κ ν : Type*} [DecidableEq κ] [DecidableEq ν]

/-- Put `v` into the first group headed `k`, or open that group at the end. -/
def addTo : List (κ × List ν) → κ → ν → List (κ × List ν)
  | [], k, v => [(k, [v])]
  | g :: gs, k, v =>
    if g.1 = k then (g.1, if v ∈ g.2 then g.2 else g.2 ++ [v]) :: gs else g :: addTo gs k v

/-- Adding makes a new group at the end at most. -/
theorem keys_addTo (gs : List (κ × List ν)) (k : κ) (v : ν) :
    (addTo gs k v).map Prod.fst
      = if k ∈ gs.map Prod.fst then gs.map Prod.fst else gs.map Prod.fst ++ [k] := by
  induction gs with
  | nil => simp [addTo]
  | cons g gs ih =>
    unfold addTo
    by_cases hg : g.1 = k
    · simp [hg]
    · have hg' : k ≠ g.1 := fun h => hg h.symm
      simp only [if_neg hg, List.map_cons, ih, List.mem_cons, hg', false_or]
      split <;> simp

/-- The groups of other keys stay as they are. -/
theorem mem_addTo_of_ne {gs : List (κ × List ν)} {k : κ} {v : ν} {g : κ × List ν} (hg : g.1 ≠ k) :
    g ∈ addTo gs k v ↔ g ∈ gs := by
  induction gs with
  | nil =>
    have hne : g ≠ (k, [v]) := fun h => hg (congrArg Prod.fst h)
    simpa [addTo] using hne
  | cons a gs ih =>
    unfold addTo
    split
    · next hk =>
      have hne : g ≠ (a.1, if v ∈ a.2 then a.2 else a.2 ++ [v]) :=
        fun h => hg ((congrArg Prod.fst h).trans hk)
      have hne' : g ≠ a := fun h => hg ((congrArg Prod.fst h).trans hk)
      rw [List.mem_cons, List.mem_cons, or_iff_right hne, or_iff_right hne']
    · rw [List.mem_cons, List.mem_cons, ih]

/-- What is in a group after adding: an old one, a new one of the value alone, or the group of the
key with the value at its end. -/
theorem mem_addTo_group {gs : List (κ × List ν)} {k : κ} {v : ν} {g : κ × List ν}
    (hg : g ∈ addTo gs k v) :
    g ∈ gs ∨ k ∉ gs.map Prod.fst ∧ g = (k, [v])
      ∨ ∃ vs, (k, vs) ∈ gs ∧ v ∉ vs ∧ g = (k, vs ++ [v]) := by
  induction gs with
  | nil => simpa [addTo] using hg
  | cons a gs ih =>
    unfold addTo at hg
    split at hg
    · -- the first group is headed `k`
      next hk =>
      rcases List.mem_cons.mp hg with rfl | hg
      · split
        · exact .inl (by simp)
        · next hv => exact .inr (.inr ⟨a.2, by simp [← hk], hv, by simp [hk]⟩)
      · exact .inl (List.mem_cons_of_mem _ hg)
    · next hk =>
      rcases List.mem_cons.mp hg with rfl | hg
      · exact .inl (by simp)
      · rcases ih hg with h | ⟨hnew, h⟩ | ⟨vs, hvs, h⟩
        · exact .inl (List.mem_cons_of_mem _ h)
        · exact .inr (.inl ⟨by simpa [eq_comm (a := k), hk] using hnew, h⟩)
        · exact .inr (.inr ⟨vs, List.mem_cons_of_mem _ hvs, h⟩)

def Holds (gs : List (κ × List ν)) (k : κ) (v : ν) : Prop := ∃ vs, (k, vs) ∈ gs ∧ v ∈ vs

omit [DecidableEq κ] [DecidableEq ν] in
/-- The first group holds it, or one of the others. -/
theorem holds_cons {g : κ × List ν} {gs : List (κ × List ν)} {k : κ} {v : ν} :
    Holds (g :: gs) k v ↔ (g.1 = k ∧ v ∈ g.2) ∨ Holds gs k v := by
  constructor
  · rintro ⟨vs, hvs, hv⟩
    rcases List.mem_cons.mp hvs with rfl | hvs
    · exact .inl ⟨rfl, hv⟩
    · exact .inr ⟨vs, hvs, hv⟩
  · rintro (⟨rfl, hv⟩ | ⟨vs, hvs, hv⟩)
    · exact ⟨g.2, by simp, hv⟩
    · exact ⟨vs, List.mem_cons_of_mem _ hvs, hv⟩

/-- **Adding adds the value to its key**, and nothing else. -/
theorem holds_addTo (gs : List (κ × List ν)) (k k' : κ) (v v' : ν) :
    Holds (addTo gs k v) k' v' ↔ (k' = k ∧ v' = v) ∨ Holds gs k' v' := by
  induction gs with
  | nil => simp [addTo, Holds]
  | cons g gs ih =>
    unfold addTo
    split
    · next hk =>
      rw [holds_cons, holds_cons]
      by_cases hv : v ∈ g.2
      · -- a repeated value changes nothing
        rw [if_pos hv]
        constructor
        · exact .inr
        · rintro (⟨rfl, rfl⟩ | h)
          · exact .inl ⟨hk, hv⟩
          · exact h
      · rw [if_neg hv]
        subst hk
        simp only [List.mem_append, List.mem_singleton]
        constructor
        · rintro (⟨rfl, h | rfl⟩ | h)
          · exact .inr (.inl ⟨rfl, h⟩)
          · exact .inl ⟨rfl, rfl⟩
          · exact .inr (.inr h)
        · rintro (⟨rfl, rfl⟩ | ⟨rfl, h⟩ | h)
          · exact .inl ⟨rfl, .inr rfl⟩
          · exact .inl ⟨rfl, .inl h⟩
          · exact .inr h
    · rw [holds_cons, holds_cons, ih]
      tauto

/-- Groups of values, one per key: no key twice, no group empty, no value twice in a group. -/
structure Grouping (κ ν : Type*) where
  groups : List (κ × List ν)
  keys_nodup : (groups.map Prod.fst).Nodup
  ne_nil : ∀ g ∈ groups, g.2 ≠ []
  values_nodup : ∀ g ∈ groups, g.2.Nodup

namespace Grouping

def empty : Grouping κ ν := ⟨[], .nil, by simp, by simp⟩

/-- Add one pair, which keeps every field. -/
def add (G : Grouping κ ν) (k : κ) (v : ν) : Grouping κ ν where
  groups := addTo G.groups k v
  keys_nodup := by
    rw [keys_addTo]
    split
    · exact G.keys_nodup
    · next hk =>
      exact List.nodup_append.mpr ⟨G.keys_nodup, by simp, fun a ha b hb hab => hk (by simp_all)⟩
  ne_nil g hg := by
    rcases mem_addTo_group hg with h | ⟨_, rfl⟩ | ⟨vs, _, _, rfl⟩
    · exact G.ne_nil g h
    · simp
    · simp
  values_nodup g hg := by
    rcases mem_addTo_group hg with h | ⟨_, rfl⟩ | ⟨vs, hvs, hv, rfl⟩
    · exact G.values_nodup g h
    · simp
    · exact List.nodup_append.mpr
        ⟨G.values_nodup _ hvs, by simp, fun a ha b hb hab => hv (by simp_all)⟩

def ofList (l : List (κ × ν)) : Grouping κ ν := l.foldl (fun G p => G.add p.1 p.2) empty

/-- Grouping goes from left to right. -/
theorem ofList_snoc (l : List (κ × ν)) (p : κ × ν) :
    (ofList (l ++ [p])).groups = addTo (ofList l).groups p.1 p.2 := by
  rw [ofList, List.foldl_append]; rfl

/-- **The groups hold exactly the pairs of the stream.** Induction on the stream from its end. -/
theorem mem_ofList (l : List (κ × ν)) (k : κ) (v : ν) :
    Holds (ofList l).groups k v ↔ (k, v) ∈ l := by
  induction l using List.reverseRecOn with
  | nil => simp [ofList, empty, Holds]
  | append_singleton l p ih =>
    rw [ofList_snoc, holds_addTo, ih, List.mem_append, List.mem_singleton, or_comm]
    rw [show (k, v) = p ↔ k = p.1 ∧ v = p.2 from Prod.ext_iff]

/-- A key heads a group exactly when the stream has a pair for it: groups are never empty. -/
theorem mem_keys_ofList (l : List (κ × ν)) (k : κ) :
    k ∈ (ofList l).groups.map Prod.fst ↔ ∃ v, (k, v) ∈ l := by
  constructor
  · intro hk
    obtain ⟨g, hg, rfl⟩ := List.mem_map.mp hk
    obtain ⟨v, hv⟩ := List.exists_mem_of_ne_nil _ ((ofList l).ne_nil g hg)
    exact ⟨v, (mem_ofList l g.1 v).mp ⟨g.2, hg, hv⟩⟩
  · rintro ⟨v, hv⟩
    obtain ⟨vs, hvs, _⟩ := (mem_ofList l k v).mpr hv
    exact List.mem_map.mpr ⟨(k, vs), hvs, rfl⟩

/-- There are no groups of nothing only. -/
theorem groups_ofList_eq_nil_iff (l : List (κ × ν)) : (ofList l).groups = [] ↔ l = [] := by
  constructor
  · intro h
    by_contra hl
    obtain ⟨p, hp⟩ := List.exists_mem_of_ne_nil l hl
    have hk := (mem_keys_ofList l p.1).mpr ⟨p.2, hp⟩
    simp [h] at hk
  · rintro rfl; rfl

/-- **A group holds the values that came with its key.** -/
theorem mem_values_ofList {l : List (κ × ν)} {g : κ × List ν} (hg : g ∈ (ofList l).groups)
    (v : ν) : v ∈ g.2 ↔ (g.1, v) ∈ l := by
  rw [← mem_ofList]
  constructor
  · exact fun hv => ⟨g.2, hg, hv⟩
  · rintro ⟨vs, hvs, hv⟩
    have heq : (g.1, vs) = g :=
      List.inj_on_of_nodup_map (ofList l).keys_nodup hvs hg rfl
    rw [← heq]; exact hv

/-- The values that the stream has for `k`, each where it first comes. -/
def valuesAt (l : List (κ × ν)) (k : κ) : List ν :=
  ((l.filter fun p => p.1 = k).map Prod.snd).eraseDups

/-- What is looked up under a key are the values that the stream has for it. -/
theorem mem_valuesAt {l : List (κ × ν)} {k : κ} {v : ν} : v ∈ valuesAt l k ↔ (k, v) ∈ l := by
  simp [valuesAt]

/-- A value that comes again is not added again. -/
theorem valuesAt_snoc_self (l : List (κ × ν)) (k : κ) (v : ν) :
    valuesAt (l ++ [(k, v)]) k
      = if v ∈ valuesAt l k then valuesAt l k else valuesAt l k ++ [v] := by
  have hsingle : [v].eraseDups = [v] := rfl
  simp only [mem_valuesAt]
  unfold valuesAt
  simp only [List.filter_append, List.filter_singleton, decide_true, cond_true, List.map_append,
    List.map_singleton, List.eraseDups_append, List.cons_removeAll, List.nil_removeAll]
  by_cases hv : (k, v) ∈ l <;> simp [hv, hsingle]

/-- A pair of another key adds nothing. -/
theorem valuesAt_snoc_of_ne (l : List (κ × ν)) {p : κ × ν} {k : κ} (h : k ≠ p.1) :
    valuesAt (l ++ [p]) k = valuesAt l k := by
  simp [valuesAt, h.symm]

/-- **A group lists its values in the order of the stream.** Induction on the stream from its
end: a new pair is added to its own group. -/
theorem values_ofList {l : List (κ × ν)} {g : κ × List ν} (hg : g ∈ (ofList l).groups) :
    g.2 = valuesAt l g.1 := by
  induction l using List.reverseRecOn generalizing g with
  | nil => simp [ofList, empty] at hg
  | append_singleton l p ih =>
    have hmem := mem_values_ofList hg
    obtain ⟨k, v⟩ := p
    rw [ofList_snoc] at hg
    by_cases hk : g.1 = k
    · subst hk
      rw [valuesAt_snoc_self]
      rcases mem_addTo_group hg with hold | ⟨hnew, heq⟩ | ⟨vs, hvs, hv, heq⟩
      · -- the group was left alone because it has the value
        have hv : v ∈ g.2 := (hmem v).mpr (by simp)
        rw [← ih hold, if_pos hv]
      · rw [mem_keys_ofList] at hnew
        have hnil : valuesAt l g.1 = [] := List.eq_nil_iff_forall_not_mem.mpr fun w hw =>
          hnew ⟨w, mem_valuesAt.mp hw⟩
        rw [hnil, if_neg List.not_mem_nil, heq]
        rfl
      · rw [← ih hvs, if_neg hv, heq]
    · rw [valuesAt_snoc_of_ne l hk]
      exact ih ((mem_addTo_of_ne hk).mp hg)

end Grouping

/-! ## Collecting groups into a map

Groups of one key that come one after the other are put together.
-/

/-- Groups collected into a map; those of one key are joined. -/
def regroup (gs : List (κ × List ν)) : AList (fun _ : κ => List ν) :=
  gs.foldl (fun m g => m.insert g.1 ((m.lookup g.1).getD [] ++ g.2)) ∅

omit [DecidableEq ν] in
/-- One more group goes behind what its key has. -/
theorem regroup_snoc (gs : List (κ × List ν)) (g : κ × List ν) :
    regroup (gs ++ [g])
      = (regroup gs).insert g.1 (((regroup gs).lookup g.1).getD [] ++ g.2) := by
  rw [regroup, List.foldl_append]; rfl

omit [DecidableEq ν] in
/-- The keys are those of the groups. -/
theorem mem_regroup (gs : List (κ × List ν)) (k : κ) :
    k ∈ regroup gs ↔ k ∈ gs.map Prod.fst := by
  induction gs using List.reverseRecOn with
  | nil => simp [regroup]
  | append_singleton gs g ih =>
    rw [regroup_snoc, AList.mem_insert, ih]
    simp [or_comm]

omit [DecidableEq ν] in
/-- **Groups of distinct keys come back unchanged.** Each key is new to the map when its group
arrives, so the map holds the groups themselves; in which order is the map's own business. -/
theorem regroup_entries_perm {gs : List (κ × List ν)} (h : (gs.map Prod.fst).Nodup) :
    ((regroup gs).entries.map fun e => (e.1, e.2)).Perm gs := by
  induction gs using List.reverseRecOn with
  | nil => simp [regroup]
  | append_singleton gs g ih =>
    rw [List.map_append, List.nodup_append] at h
    -- `insert` puts a new key in front, hence the permutation
    have hnew : g.1 ∉ regroup gs := by
      rw [mem_regroup]
      exact fun hmem => h.2.2 _ hmem g.1 (by simp) rfl
    rw [regroup_snoc, AList.entries_insert_of_notMem hnew, AList.lookup_eq_none.mpr hnew]
    simp only [Option.getD_none, List.nil_append, List.map_cons]
    exact ((ih h.1).cons g).trans (List.perm_append_singleton g gs).symm

end KubeGuardian.Lib
