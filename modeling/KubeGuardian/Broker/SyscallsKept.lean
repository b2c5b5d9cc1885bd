import KubeGuardian.Broker.Server
import KubeGuardian.Lib.Delimited

/-!
# Which syscall names the table keeps

A posted list replaces the row's list, so a name stays for as long as every later list of its
pod and architecture carries it too.

* **`syscall_kept`** — then the name is read back after any further batches, accepted or not;
* **`syscall_lost`** — one shorter list, such as the first that a restarted controller sends,
  takes the name out.
-/

namespace KubeGuardian.Broker

open Lib

/-- The names that a row lists, as its readers split them. -/
def PodSyscalls.names (row : PodSyscalls) : List String := fields ',' row.syscalls

def Lists (key : String × String × String) (name : String) (t : List PodSyscalls) : Prop :=
  ∃ row ∈ t, row.key = key ∧ name ∈ row.names

/-! ## One entry, one batch -/

/-- An entry leaves a listed name alone unless it is of the row's key and lacks the name. -/
theorem storeEntry_lists {o : Reordering PodSyscalls} {t t' : List PodSyscalls}
    {w : PodInputSyscalls} {key : String × String × String} {name : String}
    (hcomma : ',' ∉ name.toList) (ht : OneRowPerPod t) (h : storeEntry o t w = some t')
    (hlists : w.key = key ∧ name ∈ w.syscalls ∨ w.key ≠ key ∧ Lists key name t) :
    Lists key name t' := by
  rcases hlists with ⟨rfl, hname⟩ | ⟨hkey, row, hrow, hrowKey, hname⟩
  · obtain ⟨row, hrow, hrowKey, hlist⟩ := storeEntry_self h
    refine ⟨row, hrow, hrowKey, ?_⟩
    unfold PodSyscalls.names
    rw [hlist]
    exact mem_fields_intercalate rfl hcomma hname
  · exact ⟨row, storeEntry_other ht h hrow fun h => hkey (h.symm.trans hrowKey), hrowKey, hname⟩

theorem oneRowPerPod_nil : OneRowPerPod [] := List.nodup_nil

/-- Induction on the batch; an entry that fails leaves what the ones before it wrote. -/
theorem createPodSyscalls_oneRowPerPod (o : Reordering PodSyscalls) {t : List PodSyscalls}
    (ht : OneRowPerPod t) (ws : List PodInputSyscalls) :
    OneRowPerPod (createPodSyscalls o t ws).1 := by
  induction ws generalizing t with
  | nil => exact ht
  | cons w ws ih =>
    unfold createPodSyscalls
    cases h : storeEntry o t w with
    | none => exact ht
    | some t' => exact ih (storeEntry_oneRowPerPod ht h)

theorem createPodSyscalls_lists (o : Reordering PodSyscalls) {t : List PodSyscalls}
    {key : String × String × String} {name : String} (hcomma : ',' ∉ name.toList)
    (ht : OneRowPerPod t) (hlists : Lists key name t) {ws : List PodInputSyscalls}
    (hws : ∀ w ∈ ws, w.key = key → name ∈ w.syscalls) :
    Lists key name (createPodSyscalls o t ws).1 := by
  induction ws generalizing t with
  | nil => exact hlists
  | cons w ws ih =>
    unfold createPodSyscalls
    cases h : storeEntry o t w with
    -- the insert fails, and with it the rest of the batch: the table stays
    | none => exact hlists
    | some t' =>
      have hw : w.key = key ∧ name ∈ w.syscalls ∨ w.key ≠ key ∧ Lists key name t := by
        by_cases hkey : w.key = key
        · exact .inl ⟨hkey, hws w (by simp) hkey⟩
        · exact .inr ⟨hkey, hlists⟩
      exact ih (storeEntry_oneRowPerPod ht h) (storeEntry_lists hcomma ht h hw)
        fun e he => hws e (List.mem_cons_of_mem _ he)

/-- What an accepted batch lists, the table lists after it, unless a later entry of the batch
itself takes it out. -/
theorem createPodSyscalls_lists_of_ok {o : Reordering PodSyscalls} {t : List PodSyscalls}
    (ht : OneRowPerPod t) {es es' : List PodInputSyscalls} {w : PodInputSyscalls} {name : String}
    (hok : (createPodSyscalls o t (es ++ w :: es')).2 = .ok) (hname : name ∈ w.syscalls)
    (hcomma : ',' ∉ name.toList) (hes : ∀ e ∈ es', e.key = w.key → name ∈ e.syscalls) :
    Lists w.key name (createPodSyscalls o t (es ++ w :: es')).1 := by
  induction es generalizing t with
  | nil =>
    rw [List.nil_append] at hok ⊢
    unfold createPodSyscalls at hok ⊢
    cases h : storeEntry o t w with
    -- the batch would not be answered with `Ok`
    | none => simp [h] at hok
    | some t' =>
      exact createPodSyscalls_lists o hcomma (storeEntry_oneRowPerPod ht h)
        (storeEntry_lists hcomma ht h (.inl ⟨rfl, hname⟩)) hes
  | cons e es ih =>
    rw [List.cons_append] at hok ⊢
    unfold createPodSyscalls at hok ⊢
    cases h : storeEntry o t e with
    | none => simp [h] at hok
    | some t' =>
      simp only [h] at hok
      exact ih (storeEntry_oneRowPerPod ht h) hok

/-! ## A run of requests -/

def syscallEntries (reqs : List (Orders × Post)) : List PodInputSyscalls :=
  reqs.flatMap fun req =>
    match req.2 with
    | .podSyscalls ws => ws
    | _ => []

theorem step_oneRowPerPod {db : Db} (hdb : OneRowPerPod db.podSyscalls) (req : Orders × Post) :
    OneRowPerPod (step db req).podSyscalls := by
  obtain ⟨o, post⟩ := req
  cases post with
  | podSyscalls ws => exact createPodSyscalls_oneRowPerPod o.podSyscalls hdb ws
  | podTraffic w => exact hdb
  | podSpec w => exact hdb
  | svcSpec w => exact hdb

theorem serve_oneRowPerPod (reqs : List (Orders × Post)) :
    OneRowPerPod (serve reqs).podSyscalls :=
  run_invariant step (P := fun db => OneRowPerPod db.podSyscalls) oneRowPerPod_nil
    (fun _ req h => step_oneRowPerPod h req) reqs

theorem step_lists {db : Db} {key : String × String × String} {name : String}
    (hcomma : ',' ∉ name.toList) (hdb : OneRowPerPod db.podSyscalls)
    (hlists : Lists key name db.podSyscalls) {req : Orders × Post}
    (hreq : ∀ e ∈ syscallEntries [req], e.key = key → name ∈ e.syscalls) :
    Lists key name (step db req).podSyscalls := by
  obtain ⟨o, post⟩ := req
  cases post with
  | podSyscalls ws =>
    exact createPodSyscalls_lists o.podSyscalls hcomma hdb hlists
      (by simpa [syscallEntries] using hreq)
  | podTraffic w => exact hlists
  | podSpec w => exact hlists
  | svcSpec w => exact hlists

/-- Induction on the requests from the first one, each of which keeps the name listed. -/
theorem run_lists {db : Db} {key : String × String × String} {name : String}
    (hcomma : ',' ∉ name.toList) (hdb : OneRowPerPod db.podSyscalls)
    (hlists : Lists key name db.podSyscalls) {reqs : List (Orders × Post)}
    (hreqs : ∀ e ∈ syscallEntries reqs, e.key = key → name ∈ e.syscalls) :
    Lists key name (run step db reqs).podSyscalls := by
  induction reqs generalizing db with
  | nil => exact hlists
  | cons req reqs ih =>
    have hsplit : syscallEntries (req :: reqs) = syscallEntries [req] ++ syscallEntries reqs := by
      simp [syscallEntries]
    simp only [hsplit, List.mem_append] at hreqs
    rw [run_cons]
    exact ih (step_oneRowPerPod hdb req)
      (step_lists hcomma hdb hlists fun e he => hreqs e (.inl he))
      fun e he => hreqs e (.inr he)

theorem podSyscallsByName_eq (o : Reordering PodSyscalls) {t : List PodSyscalls}
    (ht : OneRowPerPod t) {row : PodSyscalls} (hrow : row ∈ t) :
    podSyscallsByName o t row.podName = some [row] := by
  have hall : ∀ r ∈ t.filter (·.podName = row.podName), r = row := by
    intro r hr
    obtain ⟨hmem, hname⟩ := List.mem_filter.mp hr
    exact ht.eq_of_podName hmem hrow (by simpa using hname)
  have hnodup : (t.filter (·.podName = row.podName)).Nodup := (List.Nodup.of_map _ ht).filter _
  have hone : t.filter (·.podName = row.podName) = [row] := by
    rw [← List.perm_singleton, List.perm_ext_iff_of_nodup hnodup (by simp)]
    intro r
    refine ⟨fun hr => by simp [hall r hr], fun hr => ?_⟩
    obtain rfl := List.mem_singleton.mp hr
    exact List.mem_filter.mpr ⟨hrow, by simp⟩
  unfold podSyscallsByName
  rw [hone, List.perm_singleton.mp (o.perm [row])]

/-! ## What is kept and what is lost -/

/-- **A listed name stays while every later list of its pod and architecture has it.** -/
theorem syscall_kept (o : Orders) (o' : Reordering PodSyscalls) (pre post : List (Orders × Post))
    (es es' : List PodInputSyscalls) (w : PodInputSyscalls) (name : String)
    (hok : (handle (serve pre) o (.podSyscalls (es ++ w :: es'))).2 = .ok)
    (hname : name ∈ w.syscalls) (hcomma : ',' ∉ name.toList)
    (hlater : ∀ e ∈ es' ++ syscallEntries post, e.key = w.key → name ∈ e.syscalls) :
    ∃ row, podSyscallsByName o'
          (serve (pre ++ (o, .podSyscalls (es ++ w :: es')) :: post)).podSyscalls w.podName
        = some [row] ∧ row.key = w.key ∧ name ∈ row.names := by
  have hpre : OneRowPerPod (serve pre).podSyscalls := serve_oneRowPerPod pre
  have hbatch : OneRowPerPod (step (serve pre) (o, .podSyscalls (es ++ w :: es'))).podSyscalls :=
    step_oneRowPerPod hpre _
  have hlists : Lists w.key name
      (step (serve pre) (o, .podSyscalls (es ++ w :: es'))).podSyscalls :=
    createPodSyscalls_lists_of_ok hpre hok hname hcomma
      fun e he => hlater e (List.mem_append_left _ he)
  have hrun : Lists w.key name
      (serve (pre ++ (o, .podSyscalls (es ++ w :: es')) :: post)).podSyscalls := by
    rw [serve_append, run_cons]
    exact run_lists hcomma hbatch hlists fun e he => hlater e (List.mem_append_right _ he)
  obtain ⟨row, hrow, hkey, hmem⟩ := hrun
  have hpodName : row.podName = w.podName := congrArg Prod.fst hkey
  exact ⟨row, hpodName ▸ podSyscallsByName_eq o' (serve_oneRowPerPod _) hrow, hkey, hmem⟩

/-- The batch that a controller posts for one pod. -/
def controllerBatch (podName : String) (syscalls : List String) : Orders × Post :=
  (.stored, .podSyscalls [⟨podName, "", syscalls, "x86_64", 0⟩])

/-- A controller that runs on sends lists that only grow. -/
theorem syscall_kept_growing_list :
    ∃ row, podSyscallsByName .stored (serve [controllerBatch "web" ["read"],
        controllerBatch "web" ["read", "write"]]).podSyscalls "web"
        = some [row] ∧ row.key = ("web", "", "x86_64") ∧ "read" ∈ row.names :=
  syscall_kept .stored .stored [] [controllerBatch "web" ["read", "write"]] [] []
    ⟨"web", "", ["read"], "x86_64", 0⟩ "read" (by decide) (by decide) (by decide) (by decide)

/-- Two accepted batches, the second from a controller that has seen less, leave a row without
`write`; and a name with a comma in it is not read back at all. -/
theorem syscall_lost :
    (handle (serve []) .stored (controllerBatch "web" ["read", "write"]).2).2 = .ok
      ∧ (handle (serve [controllerBatch "web" ["read", "write"]]) .stored
          (controllerBatch "web" ["read"]).2).2 = .ok
      ∧ podSyscallsByName .stored (serve [controllerBatch "web" ["read", "write"],
          controllerBatch "web" ["read"]]).podSyscalls "web"
        = some [⟨"web", "", "read", "x86_64", 0⟩]
      ∧ "write" ∉ PodSyscalls.names ⟨"web", "", "read", "x86_64", 0⟩
      ∧ podSyscallsByName .stored (serve [controllerBatch "web" ["read,write"]]).podSyscalls "web"
        = some [⟨"web", "", "read,write", "x86_64", 0⟩]
      ∧ "read,write" ∉ PodSyscalls.names ⟨"web", "", "read,write", "x86_64", 0⟩ := by
  decide

end KubeGuardian.Broker
