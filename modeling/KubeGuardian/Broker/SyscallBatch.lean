import KubeGuardian.Broker.SyscallRows
import KubeGuardian.Broker.SyscallsKept

/-!
# What a batch of syscall lists leaves

Three columns decide whether an entry has a row, one column decides whether a row can be added.

* **`batch_stored_iff`** — a batch is accepted, leaves under each of its keys the list of its last
  entry of that key, and touches no other key, exactly when the rows and entries of a pod name all
  have one namespace and one architecture.
-/

namespace KubeGuardian.Broker

open Lib

abbrev SyscallKey := String × String × String

/-! ## The property -/

def rowsUnder (key : SyscallKey) (t : List PodSyscalls) : List PodSyscalls := t.filter (·.key = key)

def lastEntry (key : SyscallKey) (ws : List PodInputSyscalls) : Option PodInputSyscalls :=
  (ws.filter (·.key = key)).getLast?

/-- What `result` should be of the batch `ws` on the table `t`. -/
structure BatchStored (t : List PodSyscalls) (ws : List PodInputSyscalls)
    (result : List PodSyscalls × Reply) : Prop where
  /-- No `.expect` failed. -/
  accepted : result.2 = .ok
  own : ∀ key w, lastEntry key ws = some w →
    (rowsUnder key result.1).map (·.syscalls) = [",".intercalate w.syscalls]
  other : ∀ key, key ∉ ws.map (·.key) → rowsUnder key result.1 = rowsUnder key t

theorem lastEntry_cons (key : SyscallKey) (w : PodInputSyscalls) (ws : List PodInputSyscalls) :
    lastEntry key (w :: ws) = (lastEntry key ws).or (if w.key = key then some w else none) := by
  unfold lastEntry
  by_cases hkey : w.key = key
  · rw [List.filter_cons_of_pos (by simpa using hkey), if_pos hkey, List.getLast?_cons,
      Option.or_some]
  · rw [List.filter_cons_of_neg (by simpa using hkey), if_neg hkey, Option.or_none]

theorem lastEntry_eq_none_iff {key : SyscallKey} {ws : List PodInputSyscalls} :
    lastEntry key ws = none ↔ key ∉ ws.map (·.key) := by
  simp [lastEntry]

/-! ## One entry -/

theorem OneRowPerPod.keysAgree {t : List PodSyscalls} (ht : OneRowPerPod t) : KeysAgree t := by
  intro r hr s hs hname
  rw [ht.eq_of_podName hr hs hname]

theorem OneRowPerPod.rowsUnder_eq {t : List PodSyscalls} (ht : OneRowPerPod t) {row : PodSyscalls}
    (hrow : row ∈ t) : rowsUnder row.key t = [row] := by
  have hnodup : t.Nodup := List.Nodup.of_map _ ht
  apply List.perm_singleton.mp
  rw [rowsUnder, List.perm_ext_iff_of_nodup (hnodup.filter _) (List.nodup_singleton row)]
  intro r
  rw [List.mem_filter, List.mem_singleton, decide_eq_true_iff]
  constructor
  · intro h
    exact ht.eq_of_podName h.1 hrow (congrArg Prod.fst h.2)
  · intro h
    rw [h]
    exact ⟨hrow, rfl⟩

section StoreEntry

variable {o : Reordering PodSyscalls} {t t' : List PodSyscalls} {w : PodInputSyscalls}

theorem rowsUnder_storeEntry_self (ht : OneRowPerPod t) (h : storeEntry o t w = some t') :
    (rowsUnder w.key t').map (·.syscalls) = [",".intercalate w.syscalls] := by
  obtain ⟨row, hrow, hkey, hlist⟩ := storeEntry_self h
  rw [← hkey, (storeEntry_oneRowPerPod ht h).rowsUnder_eq hrow, List.map_singleton, hlist]

theorem rowsUnder_storeEntry_other (ht : OneRowPerPod t) (h : storeEntry o t w = some t')
    {key : SyscallKey} (hkey : w.key ≠ key) : rowsUnder key t' = rowsUnder key t := by
  have ht' := storeEntry_oneRowPerPod ht h
  cases hrows : rowsUnder key t with
  | nil =>
    -- a row of the key would have come from a row of the key
    rw [rowsUnder, List.filter_eq_nil_iff] at hrows ⊢
    intro row hrow hrowKey
    rcases storeEntry_cases h with ⟨_, _, _, rfl⟩ | ⟨_, rfl⟩
    · obtain ⟨old, hold, rfl⟩ := List.mem_map.mp hrow
      refine hrows old hold ?_
      split at hrowKey <;> exact hrowKey
    · rcases List.mem_append.mp hrow with hold | hnew
      · exact hrows row hold hrowKey
      · obtain rfl := List.mem_singleton.mp hnew
        exact hkey (of_decide_eq_true hrowKey)
  | cons row rest =>
    have hmem : row ∈ rowsUnder key t := by simp [hrows]
    obtain ⟨hrow, hrowKey⟩ := List.mem_filter.mp hmem
    obtain rfl := of_decide_eq_true hrowKey
    rw [← hrows, ht.rowsUnder_eq hrow]
    exact ht'.rowsUnder_eq (storeEntry_other ht h hrow (Ne.symm hkey))

end StoreEntry

/-- No key is lost with an entry, and the entry's own is there after it. -/
theorem exists_key_of_storeEntry {o : Reordering PodSyscalls} {t t' : List PodSyscalls}
    {w : PodInputSyscalls} (ht : OneRowPerPod t) (h : storeEntry o t w = some t') :
    ∀ r ∈ t ++ [w.row], ∃ r' ∈ t', r'.key = r.key := by
  intro r hr
  obtain ⟨own, hown, hownKey, -⟩ := storeEntry_self h
  rcases List.mem_append.mp hr with hold | hnew
  · by_cases hkey : r.key = w.key
    · exact ⟨own, hown, hownKey.trans hkey.symm⟩
    · exact ⟨r, storeEntry_other ht h hold hkey, rfl⟩
  · obtain rfl := List.mem_singleton.mp hnew
    exact ⟨own, hown, hownKey⟩

/-! ## A batch -/

section Batch

variable (o : Reordering PodSyscalls) {t : List PodSyscalls} {ws : List PodInputSyscalls}

/-- Induction on the batch; the keys of what an entry leaves are those it found and its own. -/
theorem keysAgree_of_accepted (ht : OneRowPerPod t) (h : (createPodSyscalls o t ws).2 = .ok) :
    KeysAgree (t ++ ws.map (·.row)) := by
  induction ws generalizing t with
  | nil => simpa using ht.keysAgree
  | cons w ws ih =>
    unfold createPodSyscalls at h
    cases hentry : storeEntry o t w with
    | none => simp [hentry] at h
    | some t' =>
      simp only [hentry] at h
      rw [List.map_cons, List.append_cons]
      apply (ih (storeEntry_oneRowPerPod ht hentry) h).of_keys
      intro r hr
      rcases List.mem_append.mp hr with hr | hr
      · obtain ⟨r', hr', hkey⟩ := exists_key_of_storeEntry ht hentry r hr
        exact ⟨r', List.mem_append_left _ hr', hkey⟩
      · exact ⟨r, List.mem_append_right _ hr, rfl⟩

/-- Induction on the batch; a key is written by its last entry and passed over by the others. -/
theorem batchStored_of_accepted (ht : OneRowPerPod t) (h : (createPodSyscalls o t ws).2 = .ok) :
    BatchStored t ws (createPodSyscalls o t ws) := by
  induction ws generalizing t with
  | nil => exact ⟨rfl, by simp [lastEntry], fun _ _ => rfl⟩
  | cons w ws ih =>
    unfold createPodSyscalls at h ⊢
    cases hentry : storeEntry o t w with
    | none => simp [hentry] at h
    | some t' =>
      simp only [hentry] at h ⊢
      have hrest := ih (storeEntry_oneRowPerPod ht hentry) h
      refine ⟨h, fun key e he => ?_, fun key hkey => ?_⟩
      · rw [lastEntry_cons] at he
        rcases Option.or_eq_some_iff.mp he with hlater | ⟨hnone, hfirst⟩
        · exact hrest.own key e hlater
        · obtain ⟨rfl, hw⟩ := Option.ite_none_right_eq_some.mp hfirst
          obtain rfl := Option.some.inj hw
          rw [hrest.other _ (lastEntry_eq_none_iff.mp hnone)]
          exact rowsUnder_storeEntry_self ht hentry
      · rw [List.map_cons, List.mem_cons, not_or] at hkey
        rw [hrest.other key hkey.2]
        exact rowsUnder_storeEntry_other ht hentry (Ne.symm hkey.1)

end Batch

/-- **A batch is stored as it should be exactly when the keys agree**, whatever was posted before.
Where they do not, an entry finds its pod name taken by a row of another key. -/
theorem batch_stored_iff (reqs : List (Orders × Post)) (o : Reordering PodSyscalls)
    (ws : List PodInputSyscalls) :
    BatchStored (serve reqs).podSyscalls ws (createPodSyscalls o (serve reqs).podSyscalls ws)
      ↔ KeysAgree ((serve reqs).podSyscalls ++ ws.map (·.row)) := by
  have ht := serve_oneRowPerPod reqs
  constructor
  · intro h
    exact keysAgree_of_accepted o ht h.accepted
  · intro h
    have haccepted : (createPodSyscalls o (serve reqs).podSyscalls ws).2 = .ok := by
      rw [createPodSyscalls_eq o h]
    exact batchStored_of_accepted o ht haccepted

/-- Two pods `web`, then another pod: the second entry fails, and the third is never read. -/
def likeNamedPods : List PodInputSyscalls :=
  [⟨"web", "shop", ["read"], "x86_64", 1⟩, ⟨"web", "data", ["write"], "x86_64", 1⟩,
    ⟨"db", "data", ["read"], "x86_64", 1⟩]

theorem batch_not_stored :
    createPodSyscalls .stored (serve []).podSyscalls likeNamedPods
        = ([⟨"web", "shop", "read", "x86_64", 1⟩], .internalServerError)
      ∧ ¬ BatchStored (serve []).podSyscalls likeNamedPods
          (createPodSyscalls .stored (serve []).podSyscalls likeNamedPods) := by
  have hresult : createPodSyscalls .stored (serve []).podSyscalls likeNamedPods
      = ([⟨"web", "shop", "read", "x86_64", 1⟩], .internalServerError) := by
    decide +kernel
  refine ⟨hresult, fun h => ?_⟩
  have haccepted := h.accepted
  rw [hresult] at haccepted
  cases haccepted

end KubeGuardian.Broker
