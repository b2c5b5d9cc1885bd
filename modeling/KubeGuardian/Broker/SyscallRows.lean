import KubeGuardian.Broker.Server

/-!
# `pod_syscalls` as a table of upserts

A batch is looked up under three columns and written under one. Where every row and entry of a pod
name has the same namespace and architecture, this comes to the same, and the batch is upserted
entry by entry without a failure (`createPodSyscalls_eq`).
-/

namespace KubeGuardian.Broker

open Lib

/-- The row that an entry is stored as, where its pod has none. -/
def PodInputSyscalls.row (w : PodInputSyscalls) : PodSyscalls where
  podName := w.podName
  podNamespace := w.podNamespace
  syscalls := ",".intercalate w.syscalls
  arch := w.arch
  timeStamp := w.timeStamp

/-- What an update leaves of the old row: all but the list. -/
def PodSyscalls.changeset (old new : PodSyscalls) : PodSyscalls :=
  { old with syscalls := new.syscalls }

theorem PodSyscalls.podName_changeset (a b : PodSyscalls) : (a.changeset b).podName = a.podName :=
  rfl

/-- Rows of one pod name have one namespace and one architecture. -/
def KeysAgree (rows : List PodSyscalls) : Prop :=
  ∀ r ∈ rows, ∀ s ∈ rows, r.podName = s.podName → r.key = s.key

/-- Every row of the table after an upsert has the key of a row before it, or of the report. -/
theorem exists_key_of_mem_upsert {t : List PodSyscalls} {x r : PodSyscalls}
    (h : r ∈ upsert PodSyscalls.podName PodSyscalls.changeset t x) :
    ∃ s ∈ t ++ [x], s.key = r.key := by
  rcases mem_upsert.mp h with ⟨hr, _⟩ | ⟨old, hold, _, rfl⟩ | ⟨_, rfl⟩
  · exact ⟨r, by simp [hr], rfl⟩
  · exact ⟨old, by simp [hold], rfl⟩
  · exact ⟨r, by simp, rfl⟩

/-- Whether keys agree is up to which keys there are. -/
theorem KeysAgree.of_keys {rows rows' : List PodSyscalls} (h : KeysAgree rows)
    (hkeys : ∀ r ∈ rows', ∃ r' ∈ rows, r'.key = r.key) : KeysAgree rows' := by
  intro r hr s hs hname
  obtain ⟨r', hr', hrkey⟩ := hkeys r hr
  obtain ⟨s', hs', hskey⟩ := hkeys s hs
  have hname' : r'.podName = s'.podName :=
    (congrArg Prod.fst hrkey).trans (hname.trans (congrArg Prod.fst hskey).symm)
  rw [← hrkey, ← hskey]
  exact h r' hr' s' hs' hname'

theorem KeysAgree.upsert {t rest : List PodSyscalls} {x : PodSyscalls}
    (h : KeysAgree (t ++ [x] ++ rest)) :
    KeysAgree (upsert PodSyscalls.podName PodSyscalls.changeset t x ++ rest) := by
  apply h.of_keys
  intro r hr
  rcases List.mem_append.mp hr with hr | hr
  · obtain ⟨r', hr', hkey⟩ := exists_key_of_mem_upsert hr
    exact ⟨r', List.mem_append_left _ hr', hkey⟩
  · exact ⟨r, List.mem_append_right _ hr, rfl⟩

theorem KeysAgree.run_upsert {t l rest : List PodSyscalls} (h : KeysAgree (t ++ (l ++ rest))) :
    KeysAgree (run (Lib.upsert PodSyscalls.podName PodSyscalls.changeset) t l ++ rest) := by
  induction l generalizing t with
  | nil => exact h
  | cons x l ih =>
    rw [List.cons_append, List.append_cons] at h
    exact ih h.upsert

theorem KeysAgree.upserts {l rest : List PodSyscalls} (h : KeysAgree (l ++ rest)) :
    KeysAgree (upserts PodSyscalls.podName PodSyscalls.changeset l ++ rest) :=
  KeysAgree.run_upsert (t := []) h

theorem storeEntry_eq_upsert (o : Reordering PodSyscalls) {t : List PodSyscalls}
    {w : PodInputSyscalls} (h : KeysAgree (t ++ [w.row])) :
    storeEntry o t w = some (upsert PodSyscalls.podName PodSyscalls.changeset t w.row) := by
  unfold storeEntry upsert
  cases hrow : w.getRow o t with
  | some row =>
    obtain ⟨hmem, hkey⟩ := PodInputSyscalls.mem_of_getRow hrow
    have hname : row.podName = w.podName := congrArg Prod.fst hkey
    have hany : t.any (·.podName = w.row.podName) = true :=
      List.any_eq_true.mpr ⟨row, hmem, decide_eq_true hname⟩
    rw [if_pos hany]
    simp only [hname]
    rfl
  | none =>
    have hfresh : t.any (·.podName = w.podName) = false := by
      rw [List.any_eq_false]
      intro row hmem hname
      refine PodInputSyscalls.getRow_eq_none_iff.mp hrow row hmem ?_
      exact h row (by simp [hmem]) w.row (by simp) (of_decide_eq_true hname)
    have hfresh' : t.any (·.podName = w.row.podName) = false := hfresh
    rw [hfresh']
    simp only [hfresh]
    rfl

/-- **A batch is upserted entry by entry.** Induction on the batch; after each entry the keys still
agree. -/
theorem createPodSyscalls_eq (o : Reordering PodSyscalls) {t : List PodSyscalls}
    {ws : List PodInputSyscalls} (h : KeysAgree (t ++ ws.map (·.row))) :
    createPodSyscalls o t ws
      = (run (upsert PodSyscalls.podName PodSyscalls.changeset) t (ws.map (·.row)), .ok) := by
  induction ws generalizing t with
  | nil => rfl
  | cons w ws ih =>
    rw [List.map_cons, List.append_cons] at h
    have hfirst : KeysAgree (t ++ [w.row]) := fun r hr s hs =>
      h r (List.mem_append_left _ hr) s (List.mem_append_left _ hs)
    unfold createPodSyscalls
    rw [storeEntry_eq_upsert o hfirst]
    exact ih h.upsert

def getPodSyscallName (db : Db) (o : Orders) (name : String) : GetReply (List PodSyscalls) :=
  answer name (podSyscallsByName o.podSyscalls db.podSyscalls name)

/-- What a pod name is answered with: the one row, where there were reports. -/
theorem podSyscallsByName_upserts (o : Reordering PodSyscalls) (l : List PodSyscalls)
    (name : String) :
    podSyscallsByName o (upserts PodSyscalls.podName PodSyscalls.changeset l) name
      = some (mergeAll PodSyscalls.changeset (reportsOf PodSyscalls.podName name l)).toList := by
  unfold podSyscallsByName
  rw [filter_upserts PodSyscalls.podName_changeset]
  cases mergeAll PodSyscalls.changeset (reportsOf PodSyscalls.podName name l) with
  | none => simp
  | some row => simp [List.perm_singleton.mp (o.perm [row])]

/-- The list of the row is the one reported last. -/
theorem syscalls_mergeAll {l : List PodSyscalls} {row last : PodSyscalls}
    (hrow : mergeAll PodSyscalls.changeset l = some row) (hlast : l.getLast? = some last) :
    row.syscalls = last.syscalls := by
  have hlater : ∀ a b : PodSyscalls,
      some (a.changeset b).syscalls = (some b.syscalls).or (some a.syscalls) := fun _ _ => rfl
  have hcolumn : some row.syscalls = lastSome (fun r => some r.syscalls) l :=
    column_mergeAll (f := fun r : PodSyscalls => some r.syscalls) hlater hrow
  rw [lastSome, ← Function.comp_def, List.filterMap_eq_map, List.getLast?_map, hlast] at hcolumn
  exact Option.some.inj hcolumn

end KubeGuardian.Broker
