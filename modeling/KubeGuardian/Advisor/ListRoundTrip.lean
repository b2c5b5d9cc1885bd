import KubeGuardian.Advisor.Seccomp
import KubeGuardian.Broker.SyscallsKept

/-!
# Do syscall lists come back as they were posted?

A list is joined with commas into one column and split at them by its reader. No list is split into
none: what is joined of an empty list is read as a list of one empty name.

* **`listsOf_serve`** — the column holds what the entry that was stored last has joined, after any
  requests;
* **`list_comes_back_iff`** — the advisor reads that entry's list, and a profile allows it, exactly
  when it is not empty; a pod without a name is not asked about.
-/

namespace KubeGuardian.Broker

open Lib

/-! ## Which entries are stored -/

/-- One that fails ends the batch. -/
def storedEntries (o : Reordering PodSyscalls) (t : List PodSyscalls) :
    List PodInputSyscalls → List PodInputSyscalls
  | [] => []
  | w :: ws =>
    match storeEntry o t w with
    | none => []
    | some t' => w :: storedEntries o t' ws

def entriesOf (db : Db) (req : Orders × Post) : List PodInputSyscalls :=
  match req.2 with
  | .podSyscalls ws => storedEntries req.1.podSyscalls db.podSyscalls ws
  | _ => []

/-- What the requests store, one after another. -/
def storedBy : Db → List (Orders × Post) → List PodInputSyscalls
  | _, [] => []
  | db, req :: reqs => entriesOf db req ++ storedBy (step db req) reqs

/-- The entry for the pod that none has replaced. -/
def lastStored (podName : String) (entries : List PodInputSyscalls) : Option PodInputSyscalls :=
  (entries.filter (·.podName = podName)).getLast?

theorem lastStored_snoc (podName : String) (entries : List PodInputSyscalls)
    (w : PodInputSyscalls) :
    lastStored podName (entries ++ [w])
      = if w.podName = podName then some w else lastStored podName entries := by
  unfold lastStored
  rw [List.filter_append]
  by_cases hname : w.podName = podName <;> simp [hname]

/-! ## What the column holds -/

/-- The columns of the rows of one pod name. -/
def listsOf (podName : String) (t : List PodSyscalls) : List String :=
  (t.filter (·.podName = podName)).map (·.syscalls)

/-- Every pod has the column of its last entry, and no other row. -/
def HoldsLast (entries : List PodInputSyscalls) (t : List PodSyscalls) : Prop :=
  ∀ podName, listsOf podName t
    = ((lastStored podName entries).map fun w => ",".intercalate w.syscalls).toList

theorem holdsLast_nil : HoldsLast [] [] := fun _ => rfl

/-- A row is the only one of its pod. -/
theorem HoldsLast.filter_eq_singleton {entries : List PodInputSyscalls} {t : List PodSyscalls}
    {row : PodSyscalls} (ht : HoldsLast entries t) (hrow : row ∈ t) :
    t.filter (·.podName = row.podName) = [row] := by
  have hmem : row ∈ t.filter (·.podName = row.podName) :=
    List.mem_filter.mpr ⟨hrow, decide_eq_true rfl⟩
  have hlength := congrArg List.length (ht row.podName)
  rw [listsOf, List.length_map] at hlength
  have hle : (t.filter (·.podName = row.podName)).length ≤ 1 := by
    rw [hlength]
    cases lastStored row.podName entries <;> simp
  obtain ⟨r, hone⟩ := List.length_eq_one_iff.mp (le_antisymm hle (List.length_pos_of_mem hmem))
  rw [hone] at hmem ⊢
  rw [List.mem_singleton.mp hmem]

/-- **One entry** sets the column of its pod, whether by the update or by the insert. -/
theorem HoldsLast.storeEntry {entries : List PodInputSyscalls} {o : Reordering PodSyscalls}
    {t t' : List PodSyscalls} {w : PodInputSyscalls} (ht : HoldsLast entries t)
    (h : storeEntry o t w = some t') : HoldsLast (entries ++ [w]) t' := by
  intro podName
  have hrows := ht podName
  rw [lastStored_snoc]
  rcases storeEntry_cases h with ⟨row, hrow, hkey, rfl⟩ | ⟨hfresh, rfl⟩
  · have hkeep : ((fun r : PodSyscalls => decide (r.podName = podName)) ∘ fun r =>
        if r.podName = w.podName then { r with syscalls := ",".intercalate w.syscalls } else r)
          = fun r => decide (r.podName = podName) := by
      funext r
      simp only [Function.comp_apply]
      split <;> rfl
    unfold listsOf at hrows ⊢
    rw [List.filter_map, hkeep]
    by_cases hname : w.podName = podName
    · -- the one row of the pod is written
      obtain rfl := hname
      have hname : row.podName = w.podName := congrArg Prod.fst hkey
      have hone := ht.filter_eq_singleton hrow
      rw [hname] at hone
      rw [hone, if_pos rfl, List.map_singleton, List.map_singleton, if_pos hname]
      rfl
    · rw [if_neg hname, ← hrows, List.map_map]
      refine List.map_congr_left fun r hr => ?_
      have hr : r.podName = podName := of_decide_eq_true (List.mem_filter.mp hr).2
      rw [Function.comp_apply, if_neg fun heq => hname (heq.symm.trans hr)]
  · unfold listsOf at hrows ⊢
    rw [List.filter_append, List.map_append, hrows]
    by_cases hname : w.podName = podName
    · have hnone : t.filter (·.podName = podName) = [] := by
        rw [List.filter_eq_nil_iff]
        intro r hr hrname
        exact hfresh r hr ((of_decide_eq_true hrname).trans hname.symm)
      rw [hnone] at hrows
      rw [if_pos hname, ← hrows]
      simp [hname]
    · simp [hname]

theorem HoldsLast.createPodSyscalls {entries : List PodInputSyscalls}
    (o : Reordering PodSyscalls) {t : List PodSyscalls} (ht : HoldsLast entries t)
    (ws : List PodInputSyscalls) :
    HoldsLast (entries ++ storedEntries o t ws) (createPodSyscalls o t ws).1 := by
  induction ws generalizing t entries with
  | nil => simpa [storedEntries, Broker.createPodSyscalls] using ht
  | cons w ws ih =>
    unfold storedEntries Broker.createPodSyscalls
    cases hentry : Broker.storeEntry o t w with
    | none => simpa using ht
    | some t' =>
      rw [List.append_cons]
      exact ih (ht.storeEntry hentry)

theorem HoldsLast.step {entries : List PodInputSyscalls} {db : Db}
    (hdb : HoldsLast entries db.podSyscalls) (req : Orders × Post) :
    HoldsLast (entries ++ entriesOf db req) (step db req).podSyscalls := by
  obtain ⟨o, post⟩ := req
  cases post with
  | podSyscalls ws => exact hdb.createPodSyscalls o.podSyscalls ws
  | _ => simpa [entriesOf, Broker.step, handle] using hdb

theorem HoldsLast.run {entries : List PodInputSyscalls} {db : Db}
    (hdb : HoldsLast entries db.podSyscalls) (reqs : List (Orders × Post)) :
    HoldsLast (entries ++ storedBy db reqs) (run Broker.step db reqs).podSyscalls := by
  induction reqs generalizing db entries with
  | nil => simpa [storedBy] using hdb
  | cons req reqs ih =>
    rw [storedBy, ← List.append_assoc]
    exact ih (hdb.step req)

/-- **The column holds the list that was stored last.** -/
theorem listsOf_serve (reqs : List (Orders × Post)) (podName : String) :
    listsOf podName (serve reqs).podSyscalls
      = ((lastStored podName (storedBy ⟨[], [], [], []⟩ reqs)).map
          fun w => ",".intercalate w.syscalls).toList := by
  have hempty : HoldsLast [] (⟨[], [], [], []⟩ : Db).podSyscalls := holdsLast_nil
  have hrun := hempty.run reqs
  rw [List.nil_append] at hrun
  exact hrun podName

end KubeGuardian.Broker

namespace KubeGuardian.Advisor

open Lib

/-! ## What the advisor reads -/

/-- The world after these requests. -/
def World.after (w : World) (reqs : List (Broker.Orders × Broker.Post)) : World :=
  { w with db := Broker.serve reqs }

section Read

variable {w : World} {reqs : List (Broker.Orders × Broker.Post)} {podName : String}
  {entry : Broker.PodInputSyscalls}

theorem World.getPodSysCall_after (hfault : w.fault ("/pod/syscalls/" ++ podName) = none)
    (hlast : Broker.lastStored podName (Broker.storedBy ⟨[], [], [], []⟩ reqs) = some entry)
    (hne : podName ≠ "") :
    ∃ arch, (w.after reqs).getPodSysCall podName
      = .ok ⟨fields ',' (",".intercalate entry.syscalls), arch⟩ := by
  have hlists := Broker.listsOf_serve reqs podName
  rw [hlast, Broker.listsOf] at hlists
  obtain ⟨row, hrow, hlist⟩ := List.map_eq_singleton_iff.mp hlists
  refine ⟨row.arch, ?_⟩
  have happly : w.orders.podSyscalls.apply [row] = [row] :=
    List.perm_singleton.mp (w.orders.podSyscalls.perm [row])
  have hquery : Broker.getPodSyscallName (Broker.serve reqs) w.orders podName = .ok [row] := by
    simp only [Broker.getPodSyscallName, Broker.podSyscallsByName, Broker.answer, hrow, happly,
      if_neg hne]
  have hlist : row.syscalls = ",".intercalate entry.syscalls := hlist
  rw [← hlist]
  simp only [World.getPodSysCall, World.httpGet, World.after, hfault, hquery]

/-- Without a name the path meets no handler. -/
theorem World.ne_empty_of_getPodSysCall {podSysCalls : PodSysCall}
    (h : w.getPodSysCall podName = .ok podSysCalls) : podName ≠ "" := by
  unfold World.getPodSysCall at h
  split at h
  · cases h
  · next rows hget => exact (World.answer_eq_ok (World.httpGet_eq_ok hget)).1
  · cases h

/-- A join and a split, of names without a comma. -/
theorem fields_intercalate_eq_iff {syscalls : List String}
    (hcomma : ∀ name ∈ syscalls, ',' ∉ name.toList) :
    fields ',' (",".intercalate syscalls) = syscalls ↔ syscalls ≠ [] := by
  constructor
  · rintro h rfl
    exact absurd h (by decide)
  · exact fields_intercalate rfl hcomma

/-- **A list comes back exactly when it is not empty**, and so do the names of the profile. -/
theorem list_comes_back_iff (w : World) (reqs : List (Broker.Orders × Broker.Post))
    (podName : String) (entry : Broker.PodInputSyscalls)
    (hfault : w.fault ("/pod/syscalls/" ++ podName) = none)
    (hlast : Broker.lastStored podName (Broker.storedBy ⟨[], [], [], []⟩ reqs) = some entry)
    (hcomma : ∀ name ∈ entry.syscalls, ',' ∉ name.toList) :
    (∃ podSysCalls, (w.after reqs).getPodSysCall podName = .ok podSysCalls
        ∧ podSysCalls.syscalls = entry.syscalls
        ∧ (seccompProfile podSysCalls).allowList = entry.syscalls)
      ↔ entry.syscalls ≠ [] ∧ podName ≠ "" := by
  constructor
  · rintro ⟨podSysCalls, hget, hlist, -⟩
    -- an answer was read, so some handler took the path
    have hne : podName ≠ "" := World.ne_empty_of_getPodSysCall hget
    obtain ⟨arch, hread⟩ := World.getPodSysCall_after hfault hlast hne
    obtain rfl := Except.ok.inj (hget.symm.trans hread)
    exact ⟨(fields_intercalate_eq_iff hcomma).mp hlist, hne⟩
  · rintro ⟨hsome, hne⟩
    obtain ⟨arch, hread⟩ := World.getPodSysCall_after hfault hlast hne
    have hback := (fields_intercalate_eq_iff hcomma).mpr hsome
    exact ⟨_, hread, hback, by rw [allowList_seccompProfile, hback]⟩

end Read

/-- Two names come back. -/
theorem twoNames_come_back :
    ∃ podSysCalls, ((World.undisturbed []).after
        [Broker.controllerBatch "web" ["read", "write"]]).getPodSysCall "web" = .ok podSysCalls
      ∧ podSysCalls.syscalls = ["read", "write"]
      ∧ (seccompProfile podSysCalls).allowList = ["read", "write"] :=
  (list_comes_back_iff (World.undisturbed []) [Broker.controllerBatch "web" ["read", "write"]]
    "web" ⟨"web", "", ["read", "write"], "x86_64", 0⟩ rfl (by decide) (by decide)).mpr (by decide)

/-- An empty list is accepted, and read as the list of an empty name. -/
theorem emptyList_not_back :
    (Broker.handle (Broker.serve []) .stored (Broker.controllerBatch "web" []).2).2 = .ok
      ∧ Broker.lastStored "web" (Broker.storedBy ⟨[], [], [], []⟩
          [Broker.controllerBatch "web" []]) = some ⟨"web", "", [], "x86_64", 0⟩
      ∧ ∃ podSysCalls, ((World.undisturbed []).after
          [Broker.controllerBatch "web" []]).getPodSysCall "web" = .ok podSysCalls
        ∧ podSysCalls.syscalls = [""] ∧ (seccompProfile podSysCalls).allowList = [""] := by
  have hlast : Broker.lastStored "web" (Broker.storedBy ⟨[], [], [], []⟩
      [Broker.controllerBatch "web" []]) = some ⟨"web", "", [], "x86_64", 0⟩ := by decide
  obtain ⟨arch, hread⟩ :=
    World.getPodSysCall_after (w := World.undisturbed []) rfl hlast (by decide)
  have hsplit : fields ',' (",".intercalate []) = [""] := by decide
  refine ⟨by decide, hlast, _, hread, hsplit, ?_⟩
  rw [allowList_seccompProfile]
  exact hsplit

end KubeGuardian.Advisor
