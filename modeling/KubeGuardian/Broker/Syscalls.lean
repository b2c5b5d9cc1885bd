import KubeGuardian.Broker.Schema
import KubeGuardian.Lib.Reordering
import Mathlib.Data.List.Nodup

/-!
# The `pod_syscalls` table

A batch of syscall lists is stored entry by entry, with no transaction around it: an entry that
fails ends the request with the entries before it applied. An entry whose pod name, namespace
and architecture have a row replaces the row's list; the primary key is the pod name alone, so
an entry that finds no row of its key but one of its pod name fails in `.expect`.
-/

namespace KubeGuardian.Broker

open Lib

def PodSyscalls.key (row : PodSyscalls) : String × String × String :=
  (row.podName, row.podNamespace, row.arch)

def PodInputSyscalls.key (w : PodInputSyscalls) : String × String × String :=
  (w.podName, w.podNamespace, w.arch)

def PodInputSyscalls.getRow (w : PodInputSyscalls) (o : Reordering PodSyscalls)
    (t : List PodSyscalls) : Option PodSyscalls :=
  o.first (t.filter fun row =>
    row.podName = w.podName && row.podNamespace = w.podNamespace && row.arch = w.arch)

/-- One round of the loop in `create_pod_syscalls`; `none` where an `.expect` fails. The update
goes to every row of the pod name. -/
def storeEntry (o : Reordering PodSyscalls) (t : List PodSyscalls) (w : PodInputSyscalls) :
    Option (List PodSyscalls) :=
  let newSyscallNumber := ",".intercalate w.syscalls
  match w.getRow o t with
  | some row =>
    -- the filter of the update is the pod name alone
    some (t.map fun r =>
      if r.podName = row.podName then { r with syscalls := newSyscallNumber } else r)
  | none =>
    -- the primary key is taken
    if t.any (·.podName = w.podName) then none
    else some (t ++ [⟨w.podName, w.podNamespace, newSyscallNumber, w.arch, w.timeStamp⟩])

/-- `create_pod_syscalls`: the table after the request and the answer to it. -/
def createPodSyscalls (o : Reordering PodSyscalls) (t : List PodSyscalls) :
    List PodInputSyscalls → List PodSyscalls × Reply
  | [] => (t, .ok)
  | w :: ws =>
    match storeEntry o t w with
    | none => (t, .internalServerError)
    | some t' => createPodSyscalls o t' ws

def podSyscallsByName (o : Reordering PodSyscalls) (t : List PodSyscalls) (name : String) :
    Option (List PodSyscalls) :=
  some (o.apply (t.filter (·.podName = name)))

/-! ## What one entry does -/

/-- The primary key: no pod name has two rows. -/
def OneRowPerPod (t : List PodSyscalls) : Prop := (t.map (·.podName)).Nodup

theorem OneRowPerPod.eq_of_podName {t : List PodSyscalls} (h : OneRowPerPod t)
    {r s : PodSyscalls} (hr : r ∈ t) (hs : s ∈ t) (heq : r.podName = s.podName) : r = s :=
  List.inj_on_of_nodup_map h hr hs heq

theorem PodInputSyscalls.mem_of_getRow {w : PodInputSyscalls} {o : Reordering PodSyscalls}
    {t : List PodSyscalls} {row : PodSyscalls} (h : w.getRow o t = some row) :
    row ∈ t ∧ row.key = w.key := by
  have := List.mem_filter.mp (Reordering.mem_of_first h)
  simpa [PodSyscalls.key, PodInputSyscalls.key, and_assoc] using this

theorem PodInputSyscalls.getRow_eq_none_iff {w : PodInputSyscalls} {o : Reordering PodSyscalls}
    {t : List PodSyscalls} : w.getRow o t = none ↔ ∀ row ∈ t, row.key ≠ w.key := by
  simp [PodInputSyscalls.getRow, o.first_eq_none_iff, PodSyscalls.key, PodInputSyscalls.key]

/-- **All that a stored entry can have done**: replaced the list of the one row of its key, or
added that row where its pod name had none. -/
theorem storeEntry_cases {o : Reordering PodSyscalls} {t t' : List PodSyscalls}
    {w : PodInputSyscalls} (h : storeEntry o t w = some t') :
    (∃ row ∈ t, row.key = w.key ∧ t' = t.map fun r =>
        if r.podName = w.podName then { r with syscalls := ",".intercalate w.syscalls } else r)
      ∨ ((∀ row ∈ t, row.podName ≠ w.podName) ∧
        t' = t ++ [⟨w.podName, w.podNamespace, ",".intercalate w.syscalls, w.arch,
          w.timeStamp⟩]) := by
  unfold storeEntry at h
  cases hrow : w.getRow o t with
  | some row =>
    obtain ⟨hmem, hkey⟩ := PodInputSyscalls.mem_of_getRow hrow
    have hname : row.podName = w.podName := congrArg Prod.fst hkey
    simp only [hrow, Option.some.injEq] at h
    exact .inl ⟨row, hmem, hkey, by rw [← h, hname]⟩
  | none =>
    simp only [hrow] at h
    split at h
    · cases h
    · next hfresh =>
      exact .inr ⟨by simpa using hfresh, (Option.some.inj h).symm⟩

theorem storeEntry_oneRowPerPod {o : Reordering PodSyscalls} {t t' : List PodSyscalls}
    {w : PodInputSyscalls} (ht : OneRowPerPod t) (h : storeEntry o t w = some t') :
    OneRowPerPod t' := by
  unfold OneRowPerPod at ht ⊢
  rcases storeEntry_cases h with ⟨_, _, _, rfl⟩ | ⟨hfresh, rfl⟩
  · rw [List.map_map, show ((·.podName) ∘ fun r : PodSyscalls =>
      if r.podName = w.podName then { r with syscalls := ",".intercalate w.syscalls } else r)
        = (·.podName) from by funext r; simp only [Function.comp_apply]; split <;> rfl]
    exact ht
  · rw [List.map_append, List.nodup_append]
    refine ⟨ht, by simp, fun a ha b hb hab => ?_⟩
    obtain ⟨row, hrow, rfl⟩ := List.mem_map.mp ha
    exact hfresh row hrow (by simpa [hab] using hb)

theorem storeEntry_self {o : Reordering PodSyscalls} {t t' : List PodSyscalls}
    {w : PodInputSyscalls} (h : storeEntry o t w = some t') :
    ∃ row ∈ t', row.key = w.key ∧ row.syscalls = ",".intercalate w.syscalls := by
  rcases storeEntry_cases h with ⟨row, hrow, hkey, rfl⟩ | ⟨_, rfl⟩
  · have hname : row.podName = w.podName := congrArg Prod.fst hkey
    refine ⟨_, List.mem_map.mpr ⟨row, hrow, rfl⟩, ?_⟩
    rw [if_pos hname]
    exact ⟨hkey, rfl⟩
  · exact ⟨_, List.mem_append_right _ (List.mem_singleton_self _), rfl, rfl⟩

/-- A row of another key keeps its list: only a row of the entry's own pod name is written, and
that name has one row. -/
theorem storeEntry_other {o : Reordering PodSyscalls} {t t' : List PodSyscalls}
    {w : PodInputSyscalls} (ht : OneRowPerPod t) (h : storeEntry o t w = some t')
    {row : PodSyscalls} (hrow : row ∈ t) (hkey : row.key ≠ w.key) : row ∈ t' := by
  rcases storeEntry_cases h with ⟨own, hown, hownKey, rfl⟩ | ⟨_, rfl⟩
  · have hname : row.podName ≠ w.podName := by
      intro heq
      have hownName : own.podName = w.podName := congrArg Prod.fst hownKey
      obtain rfl := ht.eq_of_podName hrow hown (heq.trans hownName.symm)
      exact hkey hownKey
    exact List.mem_map.mpr ⟨row, hrow, if_neg hname⟩
  · exact List.mem_append_left _ hrow

end KubeGuardian.Broker
