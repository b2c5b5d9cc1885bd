import KubeGuardian.Lib.Run

/-!
# A store that drops what it takes for a duplicate

Entries arrive one after another; an entry is appended unless `dup s a` holds for an entry `s`
that is already stored. The store is meant to hold every value of a key `K` that was ever
posted, but `dup` may compare less than `K` does, and then what survives depends on the order
of arrival.

* **`held_iff`** — every posted key is held at the end exactly when no entry is preceded by one
  that `dup` confuses it with, unless its own key was posted before too;
* **`held_pair_iff`** — where `dup` compares one half `k` of the key `(n, k)`, that is the case
  exactly when equal halves `k` never come with different halves `n`.
-/

namespace KubeGuardian.Lib

variable {α κ ν : Type*}

/-- Append `a` unless a stored entry passes for a duplicate of it. -/
def offer (dup : α → α → Bool) (t : List α) (a : α) : List α :=
  if t.any (dup · a) then t else t ++ [a]

def stored (dup : α → α → Bool) (l : List α) : List α := run (offer dup) [] l

variable {dup : α → α → Bool} {D : α → Prop} {K : α → κ}

@[simp] theorem stored_nil : stored dup ([] : List α) = [] := rfl

/-- One more entry is dropped, or stored at the end. -/
theorem stored_snoc (l : List α) (b : α) :
    stored dup (l ++ [b])
      = if (stored dup l).any (dup · b) then stored dup l else stored dup l ++ [b] := by
  unfold stored
  rw [run_snoc]; rfl

/-- It is dropped when there is an entry that it repeats. -/
theorem stored_snoc_of_dup {l : List α} {s b : α} (hs : s ∈ stored dup l) (h : dup s b) :
    stored dup (l ++ [b]) = stored dup l := by
  rw [stored_snoc, if_pos (List.any_eq_true.mpr ⟨s, hs, h⟩)]

/-- What is stored was there before, or repeats nothing that was. -/
theorem mem_stored_snoc {l : List α} {s b : α} :
    s ∈ stored dup (l ++ [b])
      ↔ s ∈ stored dup l ∨ (s = b ∧ ∀ t ∈ stored dup l, dup t b = false) := by
  rw [stored_snoc]
  by_cases h : (stored dup l).any (dup · b) = true
  · obtain ⟨t, ht, htb⟩ := List.any_eq_true.mp h
    rw [if_pos h]
    refine ⟨.inl, fun hs => hs.elim id fun hb => ?_⟩
    simp [hb.2 t ht] at htb
  · have hall : ∀ t ∈ stored dup l, dup t b = false := by simpa using h
    rw [if_neg h, List.mem_append, List.mem_singleton, and_iff_left hall]

/-- Only what was offered is stored. -/
theorem mem_of_mem_stored {l : List α} {s : α} (h : s ∈ stored dup l) : s ∈ l := by
  induction l using List.reverseRecOn with
  | nil => simp at h
  | append_singleton l b ih =>
    rcases mem_stored_snoc.mp h with h | ⟨rfl, _⟩
    · exact List.mem_append_left _ (ih h)
    · simp

/-- What is stored stays. -/
theorem mem_stored_append {l l' : List α} {s : α} (h : s ∈ stored dup l) :
    s ∈ stored dup (l ++ l') := by
  induction l' using List.reverseRecOn with
  | nil => simpa using h
  | append_singleton l' b ih =>
    rw [← List.append_assoc]
    exact mem_stored_snoc.mpr (.inl ih)

/-- Every posted entry is stored, or a stored one passed for its duplicate. -/
theorem mem_stored_or_dup {l : List α} {a : α} (ha : a ∈ l) :
    a ∈ stored dup l ∨ ∃ s ∈ stored dup l, dup s a := by
  induction l using List.reverseRecOn with
  | nil => simp at ha
  | append_singleton l b ih =>
    rcases List.mem_append.mp ha with ha | ha
    · rcases ih ha with h | ⟨s, hs, h⟩
      · exact .inl (mem_stored_append h)
      · exact .inr ⟨s, mem_stored_append hs, h⟩
    · -- the last entry is dropped for a stored one, or stored itself
      obtain rfl := List.mem_singleton.mp ha
      by_cases h : ∃ s ∈ stored dup l, dup s a
      · obtain ⟨s, hs, h⟩ := h
        exact .inr ⟨s, mem_stored_append hs, h⟩
      · push Not at h
        exact .inl (mem_stored_snoc.mpr (.inr ⟨rfl, fun t ht => by simpa using h t ht⟩))

/-! ## Which keys survive

`dup` need not be equality of keys. A key survives when none of its entries is dropped for one of
another key.
-/

def Held (K : α → κ) (t : List α) (a : α) : Prop := ∃ s ∈ t, K s = K a

/-- On the entries in `D`, whether one passes for a duplicate of another is told by the keys. -/
def Congruent (dup : α → α → Bool) (D : α → Prop) (K : α → κ) : Prop :=
  ∀ ⦃s s' a a'⦄, D s → D s' → D a → D a' → K s = K s' → K a = K a' → dup s a = dup s' a'

/-- Whenever an earlier entry passes for a duplicate of a later one, an earlier entry has the
later one's key. -/
def RepeatsOnly (dup : α → α → Bool) (K : α → κ) (l : List α) : Prop :=
  ∀ pre a post, l = pre ++ a :: post → (∃ s ∈ pre, dup s a) → Held K pre a

/-- One more entry repeats nothing of another key, or its key is held already. -/
theorem repeatsOnly_snoc (l : List α) (b : α) :
    RepeatsOnly dup K (l ++ [b])
      ↔ RepeatsOnly dup K l ∧ ((∃ s ∈ l, dup s b) → Held K l b) := by
  constructor
  · intro h
    refine ⟨fun pre a post hl => ?_, h l b [] rfl⟩
    exact h pre a (post ++ [b]) (by simp [hl])
  · rintro ⟨h, hb⟩ pre a post hl
    -- the entry in question is `b`, or it stands in `l` already
    rcases List.eq_nil_or_concat post with rfl | ⟨post', b', rfl⟩
    · obtain ⟨rfl, hab⟩ := List.append_inj' hl rfl
      obtain rfl : b = a := by simpa using hab
      exact hb
    · rw [List.concat_eq_append, ← List.cons_append, ← List.append_assoc] at hl
      exact h pre a post' (List.append_inj' hl rfl).1

/-- One more posting: everything is still held exactly when it was before and the new entry is
not confused with one of another key. -/
theorem held_snoc_iff (hcongr : Congruent dup D K) {l : List α} {b : α}
    (hD : ∀ a ∈ l ++ [b], D a) :
    (∀ a ∈ l ++ [b], Held K (stored dup (l ++ [b])) a)
      ↔ (∀ a ∈ l, Held K (stored dup l) a) ∧ ((∃ s ∈ l, dup s b) → Held K l b) := by
  have hDl : ∀ a ∈ l, D a := fun a ha => hD a (List.mem_append_left _ ha)
  have hDs : ∀ s ∈ stored dup l, D s := fun s hs => hDl s (mem_of_mem_stored hs)
  constructor
  · intro h
    have hl : ∀ a ∈ l, Held K (stored dup l) a := by
      intro a ha
      obtain ⟨s, hs, hsa⟩ := h a (List.mem_append_left _ ha)
      rcases mem_stored_snoc.mp hs with hs | ⟨rfl, hnone⟩
      · exact ⟨s, hs, hsa⟩
      · -- the new entry was stored, so nothing of its key can have been dropped before
        have hstored : a ∈ stored dup l ∨ ∃ t ∈ stored dup l, dup t a := mem_stored_or_dup ha
        rcases hstored with hmem | ⟨t, ht, hta⟩
        · exact ⟨a, hmem, rfl⟩
        · rw [← hcongr (hDs t ht) (hDs t ht) (hD s (by simp)) (hDl a ha) rfl hsa,
            hnone t ht] at hta
          exact absurd hta (by simp)
    refine ⟨hl, ?_⟩
    rintro ⟨s, hs, hsb⟩
    -- what is held for `s` is confused with `b` too, so `b` was dropped and is held by an older one
    obtain ⟨t, ht, hts⟩ := hl s hs
    have htb : dup t b := by
      rw [hcongr (hDs t ht) (hDl s hs) (hD b (by simp)) (hD b (by simp)) hts rfl]
      exact hsb
    obtain ⟨u, hu, hub⟩ := h b (by simp)
    rw [stored_snoc_of_dup ht htb] at hu
    exact ⟨u, mem_of_mem_stored hu, hub⟩
  · rintro ⟨hl, hb⟩ a ha
    rcases List.mem_append.mp ha with ha | ha
    · obtain ⟨s, hs, hsa⟩ := hl a ha
      exact ⟨s, mem_stored_append hs, hsa⟩
    · obtain rfl := List.mem_singleton.mp ha
      by_cases hdup : ∃ s ∈ stored dup l, dup s a
      · -- dropped, but its key came before and is held
        obtain ⟨s, hs, hsa⟩ := hdup
        obtain ⟨t, ht, hta⟩ := hb ⟨s, mem_of_mem_stored hs, hsa⟩
        obtain ⟨u, hu, hut⟩ := hl t ht
        exact ⟨u, mem_stored_append hu, hut.trans hta⟩
      · push Not at hdup
        refine ⟨a, mem_stored_snoc.mpr (.inr ⟨rfl, fun t ht => ?_⟩), rfl⟩
        simpa using hdup t ht

/-- **Which postings lose nothing.** Induction on the postings from the last one. -/
theorem held_iff (hcongr : Congruent dup D K) {l : List α} (hD : ∀ a ∈ l, D a) :
    (∀ a ∈ l, Held K (stored dup l) a) ↔ RepeatsOnly dup K l := by
  induction l using List.reverseRecOn with
  | nil => simp [RepeatsOnly]
  | append_singleton l b ih =>
    rw [held_snoc_iff hcongr hD, repeatsOnly_snoc,
      ih fun a ha => hD a (List.mem_append_left _ ha)]

/-- Where duplicates are told by one half of the key, nothing is confused exactly when that
half determines the other. -/
theorem repeatsOnly_pair_iff {n : α → ν} {k : α → κ} {l : List α}
    (hdup : ∀ s ∈ l, ∀ a ∈ l, (dup s a ↔ k s = k a)) :
    RepeatsOnly dup (fun a => (n a, k a)) l ↔ ∀ s ∈ l, ∀ a ∈ l, k s = k a → n s = n a := by
  induction l using List.reverseRecOn with
  | nil => simp [RepeatsOnly]
  | append_singleton l b ih =>
    have hl : ∀ {a}, a ∈ l → a ∈ l ++ [b] := fun h => List.mem_append_left _ h
    rw [repeatsOnly_snoc, ih fun s hs a ha => hdup s (hl hs) a (hl ha)]
    constructor
    · rintro ⟨hpre, hb⟩
      have hnew : ∀ s ∈ l, k s = k b → n s = n b := by
        intro s hs hsb
        obtain ⟨t, ht, htb⟩ := hb ⟨s, hs, (hdup s (hl hs) b (by simp)).mpr hsb⟩
        obtain ⟨hn, hk⟩ := Prod.mk.inj htb
        exact (hpre s hs t ht (hsb.trans hk.symm)).trans hn
      intro s hs a ha hsa
      -- both old, one of them new, or both the new entry
      rcases List.mem_append.mp hs with hs | hs <;> rcases List.mem_append.mp ha with ha | ha
      · exact hpre s hs a ha hsa
      · rw [List.mem_singleton.mp ha] at hsa ⊢; exact hnew s hs hsa
      · rw [List.mem_singleton.mp hs] at hsa ⊢; exact (hnew a ha hsa.symm).symm
      · rw [List.mem_singleton.mp hs, List.mem_singleton.mp ha]
    · intro h
      refine ⟨fun s hs a ha => h s (hl hs) a (hl ha), ?_⟩
      rintro ⟨s, hs, hsb⟩
      have hk := (hdup s (hl hs) b (by simp)).mp hsb
      exact ⟨s, hs, Prod.ext (h s (hl hs) b (by simp) hk) hk⟩

/-- **A store keyed by half of what it should keep.** -/
theorem held_pair_iff {n : α → ν} {k : α → κ} {l : List α}
    (hdup : ∀ s a, D s → D a → (dup s a ↔ k s = k a)) (hD : ∀ a ∈ l, D a) :
    (∀ a ∈ l, Held (fun a => (n a, k a)) (stored dup l) a)
      ↔ ∀ s ∈ l, ∀ a ∈ l, k s = k a → n s = n a := by
  have hcongr : Congruent dup D (fun a => (n a, k a)) := by
    intro s s' a a' hs hs' ha ha' hss haa
    rw [Bool.eq_iff_iff, hdup s a hs ha, hdup s' a' hs' ha', (Prod.mk.inj hss).2,
      (Prod.mk.inj haa).2]
  rw [held_iff hcongr hD]
  exact repeatsOnly_pair_iff fun s hs a ha => hdup s a (hD s hs) (hD a ha)

/-! ## Keys that need not be posted again

If a store covers a key, offering an entry of that key changes nothing; so whoever remembers covered
keys may leave their entries out.
-/

/-- Entries of one key are dropped for the same entries, and for each other. -/
structure Absorbs (dup : α → α → Bool) (D : α → Prop) (K : α → κ) : Prop where
  congr : ∀ ⦃a b⦄, D a → D b → K a = K b → ∀ s, dup s a = dup s b
  self : ∀ ⦃a b⦄, D a → D b → K a = K b → dup a b

/-- Whatever is posted under the key `k` will be dropped. -/
def Covers (dup : α → α → Bool) (D : α → Prop) (K : α → κ) (t : List α) (k : κ) : Prop :=
  ∀ a, D a → K a = k → t.any (dup · a)

/-- What is covered changes nothing. -/
theorem Covers.offer_eq {t : List α} {a : α} (h : Covers dup D K t (K a)) (ha : D a) :
    offer dup t a = t :=
  if_pos (h a ha rfl)

/-- An offer removes nothing. -/
theorem mem_offer_of_mem {t : List α} {s b : α} (hs : s ∈ t) : s ∈ offer dup t b := by
  unfold offer
  split
  · exact hs
  · exact List.mem_append_left _ hs

/-- Nothing is taken out of the store, so a covered key stays covered. -/
theorem Covers.offer {t : List α} {k : κ} (h : Covers dup D K t k) (b : α) :
    Covers dup D K (offer dup t b) k := by
  intro a ha hk
  obtain ⟨s, hs, hdup⟩ := List.any_eq_true.mp (h a ha hk)
  exact List.any_eq_true.mpr ⟨s, mem_offer_of_mem hs, hdup⟩

/-- **A posted key is covered**, whether its entry was stored or dropped. -/
theorem covers_offer (habs : Absorbs dup D K) {t : List α} {b : α} (hb : D b) :
    Covers dup D K (offer dup t b) (K b) := by
  intro a ha hk
  unfold offer
  split
  · next hany =>
    obtain ⟨s, hs, hdup⟩ := List.any_eq_true.mp hany
    exact List.any_eq_true.mpr ⟨s, hs, by rw [habs.congr ha hb hk]; exact hdup⟩
  · exact List.any_eq_true.mpr ⟨b, by simp, habs.self hb ha hk.symm⟩

/-! ## Stores of the same entries

Two stores that were offered the same entries, in different orders or as often as one likes, keep
the same keys.
-/

/-- The store has nothing but what is `done`, and for all that is, an entry that passes for its
duplicate. How often it has one does not matter. -/
structure Keeps (dup : α → α → Bool) (t : List α) (done : α → Prop) : Prop where
  sound : ∀ s ∈ t, done s
  complete : ∀ a, done a → ∃ s ∈ t, dup s a

namespace Keeps

variable {t : List α} {done done' : α → Prop}

/-- The empty store has been offered nothing. -/
theorem nil : Keeps dup [] fun _ => False := ⟨nofun, fun _ h => h.elim⟩

/-- Only which entries were offered matters. -/
theorem congr (h : Keeps dup t done) (hiff : ∀ a, done' a ↔ done a) : Keeps dup t done' where
  sound s hs := (hiff s).mpr (h.sound s hs)
  complete a ha := h.complete a ((hiff a).mp ha)

/-- An entry is dropped for a stored one. -/
theorem drop (h : Keeps dup t done) {b : α} (hb : ∃ s ∈ t, dup s b) :
    Keeps dup t fun a => done a ∨ a = b where
  sound s hs := .inl (h.sound s hs)
  complete a ha := by
    rcases ha with ha | rfl
    · exact h.complete a ha
    · exact hb

/-- An entry is stored, whatever stands there already. -/
theorem snoc (h : Keeps dup t done) {b : α} (hself : dup b b) :
    Keeps dup (t ++ [b]) fun a => done a ∨ a = b where
  sound s hs := by
    rcases List.mem_append.mp hs with hs | hs
    · exact .inl (h.sound s hs)
    · exact .inr (List.mem_singleton.mp hs)
  complete a ha := by
    rcases ha with ha | rfl
    · obtain ⟨s, hs, hdup⟩ := h.complete a ha
      exact ⟨s, List.mem_append_left _ hs, hdup⟩
    · exact ⟨a, by simp, hself⟩

/-- One more offer of an entry that a copy of itself would repeat. -/
theorem offer (h : Keeps dup t done) {b : α} (hself : dup b b) :
    Keeps dup (offer dup t b) fun a => done a ∨ a = b := by
  unfold Lib.offer
  split
  · next hany => exact h.drop (List.any_eq_true.mp hany)
  · exact h.snoc hself

/-- **A key is in both stores or in neither**, where what is done of it is, and nothing else passes
for a duplicate of it. -/
theorem key_mem {t' : List α} (h : Keeps dup t done) (h' : Keeps dup t' done') {k : κ}
    (hdone : ∀ a, K a = k → done a → done' a)
    (htells : ∀ s a, done' s → done a → K a = k → dup s a → K s = k) :
    (∃ s ∈ t, K s = k) → ∃ s ∈ t', K s = k := by
  rintro ⟨a, ha, hk⟩
  have hadone : done a := h.sound a ha
  obtain ⟨s, hs, hdup⟩ := h'.complete a (hdone a hk hadone)
  exact ⟨s, hs, htells s a (h'.sound s hs) hadone hk hdup⟩

end Keeps

/-! ## Entries of one store

What any two entries have in common of which the second was stored beside the first.
-/

/-- No entry is stored beside one that it passes for a duplicate of. -/
theorem pairwise_offer {t : List α} (ht : t.Pairwise fun s a => dup s a = false) (b : α) :
    (offer dup t b).Pairwise fun s a => dup s a = false := by
  unfold offer
  split
  · exact ht
  · next hany =>
    refine List.pairwise_append.mpr ⟨ht, List.pairwise_singleton _ _, fun s hs a ha => ?_⟩
    rw [List.mem_singleton.mp ha]
    exact (by simpa using hany : ∀ s ∈ t, dup s b = false) s hs

/-- Entries that pass for duplicates of each other are one. -/
theorem eq_of_dup_both {t : List α} (ht : t.Pairwise fun s a => dup s a = false) {s a : α}
    (hs : s ∈ t) (ha : a ∈ t) (hsa : dup s a) (has : dup a s) : s = a := by
  obtain ⟨i, hi, rfl⟩ := List.getElem_of_mem hs
  obtain ⟨j, hj, rfl⟩ := List.getElem_of_mem ha
  have hbefore := List.pairwise_iff_getElem.mp ht
  -- the later one of two would have been dropped
  rcases Nat.lt_trichotomy i j with hij | rfl | hij
  · exact absurd hsa (by simp [hbefore i j hi hj hij])
  · rfl
  · exact absurd has (by simp [hbefore j i hj hi hij])

end KubeGuardian.Lib
