import KubeGuardian.Advisor.Seccomp
import KubeGuardian.Controller.SyscallDelivery
import KubeGuardian.System.SyscallPath

/-!
# The recorded syscalls are those that were made

What a tick reads of a pod's set is what the advisor reads of the pod once the tick is over,
provided that no `POST` is lost and no cache entry is dropped.

* **`recorded_syscalls`** — the names are exactly those of the events before the set was read, and a
  tick posts nothing for a set that did not change.
-/

namespace KubeGuardian.System

open Advisor Controller Lib

variable {ν : Type} [DecidableEq ν] {host : ν → Host} {pods : List (RunningPod ν)}

/-! ## Undisturbed runs

No request is lost, no entry is dropped, and every number is one that the handler can convert.
-/

/-- No `POST` is lost, no cache entry is dropped, and syscall numbers are below 2³¹. -/
def ClusterInput.Undisturbed (pods : List (RunningPod ν)) : ClusterInput ν → Prop
  | .syscall pod id => pod ∈ pods ∧ (sysnbrOf id).toNat < 2 ^ 31
  | .visit .. | .post .. => True
  | .lost .. | .evictSyscalls .. | .evictLastSent .. => False

omit [DecidableEq ν] in
/-- Nothing is dropped. -/
theorem ClusterInput.Undisturbed.not_evicts {i : ClusterInput ν} (hi : i.Undisturbed pods)
    {reply : Broker.Reply} : ¬ (i.recorderInput reply).Evicts := by
  cases i with
  | syscall | visit | post => exact fun h => h
  | _ => exact hi.elim

/-- The last row reported of the pod lists these names, in some order. -/
def LastReported (podName : String) (names : List String) (rows : List Broker.PodSyscalls) :
    Prop :=
  ∃ row, (reportsOf Broker.PodSyscalls.podName podName rows).getLast? = some row ∧
    ∃ names', names'.Perm names ∧ row.syscalls = ",".intercalate names'

variable (host pods) in
/-- Nothing is missing on the way: what was made is in the set of the pod, and what was last sent is
what was last reported once the batch has arrived. -/
structure Exact (inputs : List (ClusterInput ν)) (reported : List Broker.PodSyscalls)
    (c : Cluster ν) : Prop extends Sound host pods inputs reported c where
  alive : ∀ node, (c.recorders node).panicked = false
  kept : ∀ node, (c.recorders node).SentIsKept
  recorded : ∀ pod ∈ pods, ∀ name, MadeBy host inputs pod name →
    name ∈ (c.recorders pod.node).syscallCache.get pod.name
  sent : ∀ node podName, ((c.recorders node).lastSentCache.get podName).elems ≠ [] →
    LastReported podName ((c.recorders node).lastSentCache.get podName).elems
      (reported ++ c.pendingRows node)

/-- At the start nothing was made, sent or stored. -/
theorem exact_start : Exact host pods [] [] (Cluster.start pods) where
  toSound := sound_start
  alive _ := rfl
  kept _ _ _ h := h
  recorded _ _ _ h := by
    obtain ⟨id, hmem, _⟩ := h
    simp at hmem
  sent _ _ h := absurd rfl h

/-! ## One input

What is recorded, reported and stored of a name after one more input. Only the node of its pod
matters, since names are apart.
-/

variable {inputs : List (ClusterInput ν)} {reported : List Broker.PodSyscalls} {c : Cluster ν}

/-- What another node is about to report stays the same. -/
theorem pendingRows_step_other {i : ClusterInput ν} {node : ν} (h : node ≠ i.node) :
    (c.step host i).pendingRows node = c.pendingRows node := by
  unfold Cluster.pendingRows
  rw [recorders_step_other h]

/-- Reports of other pods may come in between. -/
theorem LastReported.append_other {podName : String} {names : List String}
    {rows rows' rows'' : List Broker.PodSyscalls} (h : LastReported podName names (rows ++ rows''))
    (hother : ∀ row ∈ rows', row.podName ≠ podName) :
    LastReported podName names (rows ++ rows' ++ rows'') := by
  have hnil : reportsOf Broker.PodSyscalls.podName podName rows' = [] := by
    simpa [reportsOf, List.filter_eq_nil_iff] using hother
  unfold LastReported reportsOf at h ⊢
  rw [reportsOf] at hnil
  rwa [List.filter_append, List.filter_append, hnil, List.append_nil, ← List.filter_append]

theorem LastReported.snoc_other {podName : String} {names : List String}
    {rows : List Broker.PodSyscalls} (h : LastReported podName names rows)
    {row : Broker.PodSyscalls} (hother : row.podName ≠ podName) :
    LastReported podName names (rows ++ [row]) := by
  unfold LastReported
  rwa [reportsOf_snoc, if_neg hother]

/-- Nothing but a `POST` of the pod's own node brings a row of the pod's name. -/
theorem Exact.podName_ne_of_arriving (hnames : NamesApart pods)
    (hc : Exact host pods inputs reported c) {pod : RunningPod ν} (hpod : pod ∈ pods)
    {i : ClusterInput ν} (hi : ∀ order, i ≠ .post pod.node order) :
    ∀ row ∈ c.arriving i, row.podName ≠ pod.name := by
  intro row hrow hname
  cases i with
  | post node order =>
    simp only [Cluster.arriving, hc.alive node, Bool.false_eq_true, if_false] at hrow
    obtain ⟨pod', hpod', hnode', hname', _⟩ := hc.reports_pendingRows hnames node row hrow
    obtain rfl := List.inj_on_of_nodup_map hnames hpod' hpod (hname'.trans hname)
    exact hi order (hnode' ▸ rfl)
  | _ => simp [Cluster.arriving] at hrow

/-- A set that was sent has a pod on its node. -/
theorem Exact.exists_pod (hc : Exact host pods inputs reported c) {node : ν} {podName : String}
    (h : ((c.recorders node).lastSentCache.get podName).elems ≠ []) :
    ∃ pod ∈ pods, pod.node = node ∧ pod.name = podName := by
  obtain ⟨name, hname⟩ := List.exists_mem_of_ne_nil _ h
  obtain ⟨pod, hpod, hnode, hpodName, _⟩ :=
    (hc.recorders node).cache podName name (hc.kept node podName name hname)
  exact ⟨pod, hpod, hnode, hpodName⟩

/-- What another node has marked as sent was reported there. -/
theorem Exact.sent_step_other (hnames : NamesApart pods) (hc : Exact host pods inputs reported c)
    {i : ClusterInput ν} {node : ν} (hnode : node ≠ i.node) {podName : String}
    (h : ((c.recorders node).lastSentCache.get podName).elems ≠ []) :
    LastReported podName ((c.recorders node).lastSentCache.get podName).elems
      (reported ++ c.arriving i ++ c.pendingRows node) := by
  obtain ⟨pod, hpod, rfl, rfl⟩ := hc.exists_pod h
  refine (hc.sent pod.node pod.name h).append_other (hc.podName_ne_of_arriving hnames hpod ?_)
  rintro order rfl
  exact hnode rfl

/-- A row of an entry for the pod is the last one reported. -/
theorem lastReported_snoc (rows : List Broker.PodSyscalls) (data : SyscallData)
    {names : List String} (hperm : data.syscalls.Perm names) :
    LastReported data.podName names (rows ++ [(entry data).row]) := by
  refine ⟨(entry data).row, ?_, data.syscalls, hperm, rfl⟩
  rw [reportsOf_snoc, if_pos (show (entry data).row.podName = data.podName from rfl)]
  simp

/-- A syscall of a pod ends up in its set, under the name that libseccomp has for it. -/
theorem Exact.recorders_syscall (hmonitored : Monitored pods)
    (hc : Exact host pods inputs reported c) {pod : RunningPod ν} {id : Int64}
    (hi : (ClusterInput.syscall pod id).Undisturbed pods) :
    ∃ name, (host pod.node).syscallName (sysnbrOf id) = some name ∧
      (c.step host (.syscall pod id)).recorders pod.node
        = (c.recorders pod.node).record pod.name name :=
  hc.toSound.recorders_syscall hmonitored (hc.alive pod.node) hi.1 hi.2

/-- A visit is one of the sender. -/
theorem Exact.recorders_visit (hc : Exact host pods inputs reported c) (node : ν)
    (podName : String) (order : Reordering String) (timeStamp : Nat) :
    (c.step host (.visit node podName order timeStamp)).recorders node
      = (c.recorders node).visit (host node) podName order timeStamp :=
  recorders_step_alive (.visit node podName order timeStamp) (hc.alive node)

/-- A tick ends with a `POST`. -/
theorem Exact.recorders_post (hc : Exact host pods inputs reported c) (node : ν)
    (order : Reordering Broker.PodSyscalls) :
    ∃ sent, (c.step host (.post node order)).recorders node = (c.recorders node).post sent :=
  ⟨_, recorders_step_alive (.post node order) (hc.alive node)⟩

/-- What arrives is what was about to be reported. -/
theorem Exact.arriving_post (hc : Exact host pods inputs reported c) (node : ν)
    (order : Reordering Broker.PodSyscalls) :
    c.arriving (.post node order) = c.pendingRows node := by
  simp [Cluster.arriving, hc.alive node]

/-- **What is marked as sent has been reported or is about to be**, on the node of the input too. -/
theorem Exact.sent_step_self (hmonitored : Monitored pods) (hc : Exact host pods inputs reported c)
    {i : ClusterInput ν} (hi : i.Undisturbed pods) (podName : String)
    (h : (((c.step host i).recorders i.node).lastSentCache.get podName).elems ≠ []) :
    LastReported podName (((c.step host i).recorders i.node).lastSentCache.get podName).elems
      (reported ++ c.arriving i ++ (c.step host i).pendingRows i.node) := by
  have hold := hc.sent i.node podName
  unfold Cluster.pendingRows at hold ⊢
  cases i with
  | syscall pod id =>
    obtain ⟨name, _, hrecord⟩ := hc.recorders_syscall hmonitored hi
    have harriving : c.arriving (.syscall pod id) = [] := rfl
    rw [harriving, List.append_nil]
    simp only [ClusterInput.node, hrecord, Recorder.record] at h hold ⊢
    -- a syscall changes the recorded set only
    exact hold h
  | visit node visited order timeStamp =>
    have harriving : c.arriving (.visit node visited order timeStamp) = [] := rfl
    rw [harriving, List.append_nil]
    simp only [ClusterInput.node, hc.recorders_visit] at h hold ⊢
    rcases Recorder.visit_cases (host node) (c.recorders node) visited order timeStamp
      with ⟨_, hnext⟩ | ⟨syscalls, _, _, hnext⟩ | ⟨_, _, _, hnext⟩
    · rw [hnext] at h ⊢
      exact hold h
    · rw [hnext] at h ⊢
      simp only [List.map_append, ← List.append_assoc, List.map_cons, List.map_nil]
      -- the visited pod's set is the newest report, and the other pods' reports stay the last of
      -- theirs
      by_cases hpod : podName = visited
      · subst hpod
        simp only [SyscallCache.get_insert]
        exact lastReported_snoc _
          (Recorder.syscallData (host node) podName syscalls order timeStamp)
          (syscalls.perm_iter order)
      · simp only [SyscallCache.get_insert_ne _ _ hpod] at h ⊢
        exact (hold h).snoc_other (fun heq => hpod heq.symm)
    · rw [hnext] at h ⊢
      simp only [SyscallCache.get_insert_get] at h ⊢
      exact hold h
  | post node order =>
    obtain ⟨sent, hpost⟩ := hc.recorders_post node order
    -- what was pending arrives, in the same order
    rw [hc.arriving_post]
    simp only [ClusterInput.node, hpost, Recorder.lastSentCache_post, Recorder.batch_post]
      at h hold ⊢
    simpa [Cluster.pendingRows] using hold h
  | lost node err => exact hi.elim
  | evictSyscalls node podName => exact hi.elim
  | evictLastSent node podName => exact hi.elim

/-- **One undisturbed input keeps the path exact.** -/
theorem Exact.step (hmonitored : Monitored pods) (hnames : NamesApart pods)
    (hc : Exact host pods inputs reported c) {i : ClusterInput ν} (hi : i.Undisturbed pods) :
    Exact host pods (inputs ++ [i]) (reported ++ c.arriving i) (c.step host i) where
  toSound := hc.toSound.step hmonitored hnames (by cases i <;> first | exact hi.1 | trivial)
  alive node := by
    by_cases hnode : node = i.node
    · subst hnode
      -- a number that would bring the recorder down is ruled out
      rw [recorders_step_self, panicked_step_iff (hc.alive i.node)]
      cases i with
      | syscall pod id =>
        intro _ _
        rw [bit31_iff, ← toNat_sysnbrOf]
        exact hi.2
      | _ => trivial
    · rw [recorders_step_other hnode]
      exact hc.alive node
  kept node := by
    by_cases hnode : node = i.node
    · subst hnode
      rw [recorders_step_self]
      exact Recorder.sentIsKept_step (hc.kept i.node) hi.not_evicts
    · rw [recorders_step_other hnode]
      exact hc.kept node
  recorded pod hpod name hmade := by
    obtain ⟨id, hmem, hname⟩ := hmade
    -- a syscall made before is still in the set, and the one made now has just joined it
    rcases List.mem_append.mp hmem with hold | hnew
    · have hset := hc.recorded pod hpod name ⟨id, hold, hname⟩
      by_cases hnode : pod.node = i.node
      · rw [hnode] at hset ⊢
        rw [recorders_step_self]
        exact Recorder.mem_syscallCache_step hset hi.not_evicts
      · rwa [recorders_step_other hnode]
    · obtain rfl := List.mem_singleton.mp hnew
      obtain ⟨name', hname', hrecord⟩ := hc.recorders_syscall hmonitored hi
      obtain rfl := Option.some.inj (hname.symm.trans hname')
      rw [hrecord]
      simp [Recorder.record]
  sent node podName h := by
    by_cases hnode : node = i.node
    · subst hnode
      exact hc.sent_step_self hmonitored hi podName h
    · rw [recorders_step_other hnode] at h ⊢
      rw [pendingRows_step_other hnode]
      exact hc.sent_step_other hnames hnode h

/-! ## From one reading to the next

Between two readings of the advisor a name that was marked as sent has been reported.
-/

/-- What every input of a list keeps, beside exactness, the whole list keeps. Induction on the list
from its first input. -/
theorem Exact.run (hmonitored : Monitored pods) (hnames : NamesApart pods)
    {Q : List Broker.PodSyscalls → Cluster ν → Prop} {is : List (ClusterInput ν)}
    (his : ∀ i ∈ is, i.Undisturbed pods)
    (hQ : ∀ inputs reported c, ∀ i ∈ is, Exact host pods inputs reported c → Q reported c →
      Q (reported ++ c.arriving i) (c.step host i))
    (hc : Exact host pods inputs reported c) (h : Q reported c) :
    ∃ reported', Exact host pods (inputs ++ is) reported' (run (Cluster.step host) c is) ∧
      Q reported' (run (Cluster.step host) c is) := by
  induction is generalizing inputs reported c with
  | nil => exact ⟨reported, by simpa using hc, h⟩
  | cons i is ih =>
    have hnext := hc.step hmonitored hnames (his i (by simp))
    obtain ⟨reported', hexact, hfinal⟩ := ih (fun j hj => his j (by simp [hj]))
      (fun inputs reported c j hj => hQ inputs reported c j (by simp [hj])) hnext
      (hQ inputs reported c i (by simp) hc h)
    exact ⟨reported', by simpa using hexact, hfinal⟩

/-- After a visit, the set last sent is the one that was read. -/
theorem Exact.lastSent_visit (hc : Exact host pods inputs reported c) (node : ν)
    (podName : String) (order : Reordering String) (timeStamp : Nat) :
    (((c.step host (.visit node podName order timeStamp)).recorders node).lastSentCache.get
      podName).Same ((c.recorders node).syscallCache.get podName) := by
  rw [hc.recorders_visit]
  rcases Recorder.visit_cases (host node) (c.recorders node) podName order timeStamp
    with ⟨hlookup, h⟩ | ⟨syscalls, hlookup, _, h⟩ | ⟨syscalls, hlookup, hsame, h⟩
  · -- without a set nothing was sent
    have hempty : (c.recorders node).syscallCache.get podName = ∅ := by
      simp [SyscallCache.get, hlookup]
    rw [h, HashSet.same_iff]
    intro name
    exact ⟨hc.kept node podName name, fun hname => by simp [hempty] at hname⟩
  · rw [h, SyscallCache.get_of_lookup hlookup]
    simp only [SyscallCache.get_insert]
    exact .refl _
  · rw [h, SyscallCache.get_of_lookup hlookup]
    simp only [SyscallCache.get_insert]
    exact hsame.symm

/-- Until the next visit, the set last sent stays. -/
theorem Exact.lastSent_step (hmonitored : Monitored pods) (hc : Exact host pods inputs reported c)
    {i : ClusterInput ν} (hi : i.Undisturbed pods) {node : ν} {podName : String}
    (hvisit : ∀ order timeStamp, i ≠ .visit node podName order timeStamp) :
    ((c.step host i).recorders node).lastSentCache.get podName
      = (c.recorders node).lastSentCache.get podName := by
  by_cases hnode : node = i.node
  · cases i with
    | syscall pod id =>
      obtain rfl : node = pod.node := hnode
      obtain ⟨name, _, hrecord⟩ := hc.recorders_syscall hmonitored hi
      rw [hrecord]
      rfl
    | visit node' visited order timeStamp =>
      obtain rfl : node = node' := hnode
      -- a visit of another pod writes the other pod's entry
      have hpod : podName ≠ visited := by
        rintro rfl
        exact hvisit order timeStamp rfl
      rw [hc.recorders_visit]
      rcases Recorder.visit_cases (host node) (c.recorders node) visited order timeStamp
        with ⟨_, h⟩ | ⟨_, _, _, h⟩ | ⟨_, _, _, h⟩
      · rw [h]
      · rw [h]
        exact SyscallCache.get_insert_ne _ _ hpod
      · rw [h]
        exact SyscallCache.get_insert_ne _ _ hpod
    | post node' order =>
      obtain rfl : node = node' := hnode
      obtain ⟨sent, hpost⟩ := hc.recorders_post node order
      rw [hpost, Recorder.lastSentCache_post]
    | lost node' err => exact hi.elim
    | evictSyscalls node' visited => exact hi.elim
    | evictLastSent node' visited => exact hi.elim
  · rw [recorders_step_other hnode]

/-- From a visit to the next one, the set last sent is the one that the visit read. -/
theorem Exact.lastSent_run (hmonitored : Monitored pods) (hnames : NamesApart pods)
    (hc : Exact host pods inputs reported c) {node : ν} {podName : String}
    (order : Reordering String) (timeStamp : Nat) {mid : List (ClusterInput ν)}
    (hmid : ∀ i ∈ mid, i.Undisturbed pods)
    (hvisit : ∀ order timeStamp, .visit node podName order timeStamp ∉ mid) :
    let later := Lib.run (Cluster.step host) c (.visit node podName order timeStamp :: mid)
    (∃ reported', Exact host pods (inputs ++ .visit node podName order timeStamp :: mid)
        reported' later)
      ∧ ((later.recorders node).lastSentCache.get podName).Same
        ((c.recorders node).syscallCache.get podName) := by
  have hnext := hc.step hmonitored hnames (i := .visit node podName order timeStamp) trivial
  have hsent := hc.lastSent_visit node podName order timeStamp
  obtain ⟨reported', hlater, hlast⟩ := hnext.run hmonitored hnames hmid
    (Q := fun _ c' => (c'.recorders node).lastSentCache.get podName
      = ((c.step host (.visit node podName order timeStamp)).recorders
          node).lastSentCache.get podName)
    (fun inputs reported c' i hi hc' hsame =>
      (hc'.lastSent_step hmonitored (hmid i hi) fun order' timeStamp' heq =>
        hvisit order' timeStamp' (heq ▸ hi)).trans hsame) rfl
  -- what the visit cached is still cached at the end
  rw [← hlast] at hsent
  exact ⟨⟨reported', by simpa using hlater⟩, hsent⟩

/-- A visit to a set that was sent as it is posts nothing. -/
theorem Exact.batch_visit_of_same (hc : Exact host pods inputs reported c) {node : ν}
    {podName : String} (h : ((c.recorders node).syscallCache.get podName).Same
      ((c.recorders node).lastSentCache.get podName))
    (order : Reordering String) (timeStamp : Nat) :
    ((c.step host (.visit node podName order timeStamp)).recorders node).batch
      = (c.recorders node).batch := by
  rw [hc.recorders_visit]
  rcases Recorder.visit_cases (host node) (c.recorders node) podName order timeStamp
    with ⟨_, hvisit⟩ | ⟨syscalls, hlookup, hdiff, _⟩ | ⟨_, _, _, hvisit⟩
  · rw [hvisit]
  · rw [SyscallCache.get_of_lookup hlookup] at h
    exact absurd h hdiff
  · rw [hvisit]

/-- A `POST` of the node delivers the set last sent, and until its next `POST` that is what was
reported last. -/
theorem Exact.lastReported_run (hmonitored : Monitored pods) (hnames : NamesApart pods)
    (hc : Exact host pods inputs reported c) {pod : RunningPod ν} (hpod : pod ∈ pods)
    (hnonempty : ((c.recorders pod.node).lastSentCache.get pod.name).elems ≠ [])
    (order : Reordering Broker.PodSyscalls) {later : List (ClusterInput ν)}
    (hlater : ∀ i ∈ later, i.Undisturbed pods) (hpost : ∀ order, .post pod.node order ∉ later) :
    ∃ reported', Exact host pods (inputs ++ .post pod.node order :: later) reported'
        (Lib.run (Cluster.step host) c (.post pod.node order :: later))
      ∧ LastReported pod.name ((c.recorders pod.node).lastSentCache.get pod.name).elems
        reported' := by
  have hreported := hc.sent pod.node pod.name hnonempty
  rw [← hc.arriving_post pod.node order] at hreported
  have hnext := hc.step hmonitored hnames (i := .post pod.node order) trivial
  obtain ⟨reported', hfinal, hlast⟩ := hnext.run hmonitored hnames hlater
    (Q := fun reported _ => LastReported pod.name
      ((c.recorders pod.node).lastSentCache.get pod.name).elems reported)
    (fun inputs reported c' i hi hc' h => by
      -- without another post of the node, no later row is the pod's
      have hother := hc'.podName_ne_of_arriving hnames hpod
        fun order' heq => hpost order' (heq ▸ hi)
      have h' : LastReported pod.name ((c.recorders pod.node).lastSentCache.get pod.name).elems
          (reported ++ []) := by simpa using h
      simpa using h'.append_other hother)
    hreported
  exact ⟨reported', by simpa using hfinal, hlast⟩

/-! ## What the advisor reads

The row of a pod, taken apart into names again.
-/

/-- No name that an event is recorded under holds a comma, if none of libseccomp's does. -/
theorem comma_notMem_of_syscallName {host : Host}
    (hlibseccomp : ∀ arch number name, host.getNameByArch arch number = some name →
      ',' ∉ name.toList) {sysnbr : UInt32} {name : String}
    (h : host.syscallName sysnbr = some name) : ',' ∉ name.toList := by
  obtain ⟨number, _, rfl⟩ := Option.map_eq_some_iff.mp h
  cases hname : host.getSyscallName number with
  | none => exact notMem_toString (by decide) sysnbr.toNat
  | some name =>
    unfold Host.getSyscallName at hname
    split_ifs at hname
    · exact hlibseccomp _ _ _ hname
    · exact hlibseccomp _ _ _ hname

/-- The advisor reads what was reported last. -/
theorem getPodSysCall_of_lastReported {w : World} {podName : String} {names : List String}
    {rows : List Broker.PodSyscalls} (h : LastReported podName names rows)
    (hdb : w.db.podSyscalls = upserts Broker.PodSyscalls.podName Broker.PodSyscalls.changeset rows)
    (hfault : w.fault ("/pod/syscalls/" ++ podName) = none) (hne : podName ≠ "")
    (hnames : names ≠ []) (hcomma : ∀ name ∈ names, ',' ∉ name.toList) :
    ∃ podSysCalls, w.getPodSysCall podName = .ok podSysCalls ∧
      podSysCalls.syscalls.Perm names := by
  obtain ⟨last, hlast, names', hperm, hlist⟩ := h
  rw [World.getPodSysCall_eq hdb hfault hne]
  cases hrow : mergeAll Broker.PodSyscalls.changeset
      (reportsOf Broker.PodSyscalls.podName podName rows) with
  -- a pod that was reported has a row
  | none =>
    rw [mergeAll_eq_none_iff] at hrow
    simp [hrow] at hlast
  | some row =>
    refine ⟨_, rfl, ?_⟩
    -- the names hold no comma, so the split gives back what was joined
    have hfields : fields ',' row.syscalls = names' := by
      rw [Broker.syscalls_mergeAll hrow hlast, hlist]
      refine fields_intercalate rfl (fun name hname => hcomma name (hperm.mem_iff.mp hname)) ?_
      rintro rfl
      exact hnames hperm.symm.eq_nil
    simpa [hfields] using hperm

/-- The sets are exact: what is read of a pod is what it made. -/
theorem Exact.mem_syscallCache_iff (hnames : NamesApart pods)
    (hc : Exact host pods inputs reported c) {pod : RunningPod ν} (hpod : pod ∈ pods)
    (name : String) : name ∈ (c.recorders pod.node).syscallCache.get pod.name
      ↔ MadeBy host inputs pod name := by
  refine ⟨fun h => ?_, hc.recorded pod hpod name⟩
  obtain ⟨pod', hpod', _, hname', hmade⟩ := (hc.toSound.recorders pod.node).cache pod.name name h
  obtain rfl := List.inj_on_of_nodup_map hnames hpod' hpod hname'
  exact hmade

/-- **The recorded syscalls are those that were made.** After the visit of a pod's set, a later
visit posts nothing unless the set has changed; and once a `POST` of the node has followed, the
advisor reads the names of all events before the visit, each once. -/
theorem recorded_syscalls (hmonitored : Monitored pods) (hnames : NamesApart pods)
    (hlibseccomp : ∀ node arch number name, (host node).getNameByArch arch number = some name →
      ',' ∉ name.toList)
    {pod : RunningPod ν} (hpod : pod ∈ pods) (hne : pod.name ≠ "")
    (pre mid : List (ClusterInput ν)) (order : Reordering String) (timeStamp : Nat)
    (hpre : ∀ i ∈ pre, i.Undisturbed pods) (hmid : ∀ i ∈ mid, i.Undisturbed pods)
    (hvisit : ∀ order timeStamp, .visit pod.node pod.name order timeStamp ∉ mid) :
    let read := run (Cluster.step host) (Cluster.start pods) pre
    let c := run (Cluster.step host) (Cluster.start pods)
      (pre ++ .visit pod.node pod.name order timeStamp :: mid)
    (((c.recorders pod.node).syscallCache.get pod.name).Same
        ((read.recorders pod.node).syscallCache.get pod.name) →
      ∀ order' timeStamp', ((c.step host (.visit pod.node pod.name order' timeStamp')).recorders
        pod.node).batch = (c.recorders pod.node).batch)
    ∧ ((∃ id, .syscall pod id ∈ pre) → ∀ order' later, (∀ i ∈ later, i.Undisturbed pods) →
      (∀ order'', .post pod.node order'' ∉ later) → ∀ w : World,
      w.db.podSyscalls
        = (run (Cluster.step host) c (.post pod.node order' :: later)).podSyscalls →
      w.fault ("/pod/syscalls/" ++ pod.name) = none →
      ∃ podSysCalls, w.getPodSysCall pod.name = .ok podSysCalls ∧ podSysCalls.syscalls.Nodup ∧
        (∀ name, name ∈ podSysCalls.syscalls ↔ MadeBy host pre pod name) ∧
        (seccompProfile podSysCalls).allowList = podSysCalls.syscalls) := by
  intro read c
  obtain ⟨reported₀, hread, -⟩ : ∃ reported, Exact host pods ([] ++ pre) reported read ∧ True :=
    exact_start.run hmonitored hnames hpre (Q := fun _ _ => True) (fun _ _ _ _ _ _ _ => trivial)
      trivial
  rw [List.nil_append] at hread
  obtain ⟨⟨reported₁, hc⟩, hsent⟩ :=
    hread.lastSent_run hmonitored hnames order timeStamp hmid hvisit
  have hrun : run (Cluster.step host) read (.visit pod.node pod.name order timeStamp :: mid) = c :=
    (run_append ..).symm
  rw [hrun] at hc hsent
  constructor
  · intro hunchanged order' timeStamp'
    exact hc.batch_visit_of_same (hunchanged.trans hsent.symm) order' timeStamp'
  · rintro ⟨id, hid⟩ order' later hlater hpost w hdb hfault
    -- the set is not empty, and its names come back
    have hset : ∀ name, name ∈ (c.recorders pod.node).lastSentCache.get pod.name
        ↔ MadeBy host pre pod name := fun name =>
      (HashSet.same_iff.mp hsent name).trans (hread.mem_syscallCache_iff hnames hpod name)
    have hnonempty : ((c.recorders pod.node).lastSentCache.get pod.name).elems ≠ [] := by
      obtain ⟨name, hname, _⟩ := hread.recorders_syscall hmonitored (hpre _ hid)
      exact List.ne_nil_of_mem (HashSet.mem_elems.mpr ((hset name).mpr ⟨id, hid, hname⟩))
    obtain ⟨reported₂, hfinal, hlastReported⟩ :=
      hc.lastReported_run hmonitored hnames hpod hnonempty order' hlater hpost
    obtain ⟨podSysCalls, hanswer, hperm⟩ := getPodSysCall_of_lastReported hlastReported
      (hdb.trans hfinal.podSyscalls) hfault hne hnonempty fun name hname => by
        obtain ⟨_, _, hsyscallName⟩ := (hset name).mp hname
        exact comma_notMem_of_syscallName (hlibseccomp pod.node) hsyscallName
    refine ⟨podSysCalls, hanswer, ?_, fun name => ?_, allowList_seccompProfile podSysCalls⟩
    · exact hperm.nodup_iff.mpr (HashSet.nodup _)
    · exact hperm.mem_iff.trans (hset name)

/-! ## A pod that reads and writes

A run with two different syscalls, of which one is made twice.
-/

/-- The first two syscalls of x86-64. -/
def readWrite : Host where
  arch := "x86_64"
  getNameByArch
    | .x8664, number =>
      if number = 0 then some "read" else if number = 1 then some "write" else none
    | .aarch64, _ => none

/-- Neither of the two names has a comma. -/
theorem comma_notMem_readWrite (node : Unit) (arch : ScmpArch) (number : Int32) (name : String)
    (h : ((fun _ => readWrite) node : Host).getNameByArch arch number = some name) :
    ',' ∉ name.toList := by
  cases arch with
  | x8664 =>
    simp only [readWrite] at h
    split_ifs at h <;> obtain rfl := Option.some.inj h <;> decide
  | aarch64 => simp [readWrite] at h

def onlyPod : RunningPod Unit := ⟨(), 1, webPod⟩

def readWriteRead : List (ClusterInput Unit) :=
  [.syscall onlyPod 0, .syscall onlyPod 1, .syscall onlyPod 0]

/-- The advisor reads the two names, once each. -/
theorem recorded_syscalls_read_write :
    ∃ podSysCalls, (World.undisturbed (run (Cluster.step fun _ => readWrite)
        (Cluster.start [onlyPod]) (readWriteRead ++ [.visit () "web" .stored 1,
          .post () .stored])).podSyscalls).getPodSysCall "web" = .ok podSysCalls
      ∧ podSysCalls.syscalls.Nodup
      ∧ (∀ name, name ∈ podSysCalls.syscalls
        ↔ MadeBy (fun _ => readWrite) readWriteRead onlyPod name)
      ∧ (seccompProfile podSysCalls).allowList = podSysCalls.syscalls := by
  have hmonitored : Monitored [onlyPod] := by
    intro pod hpod
    obtain rfl := List.mem_singleton.mp hpod
    rfl
  -- the pod is monitored, and the numbers it calls are below those that bring the recorder down
  have hpre : ∀ i ∈ readWriteRead, i.Undisturbed [onlyPod] := by
    intro i hi
    fin_cases hi
    all_goals exact ⟨by simp, by decide⟩
  have hmade : ∃ id, .syscall onlyPod id ∈ readWriteRead := ⟨0, by simp [readWriteRead]⟩
  exact (recorded_syscalls hmonitored (by simp [NamesApart]) comma_notMem_readWrite
    (List.mem_singleton_self _) (by decide) readWriteRead [] .stored 1 hpre (by simp) (by simp)).2
    hmade .stored [] (by simp)
    (by simp) (World.undisturbed _) rfl rfl

end KubeGuardian.System
