import KubeGuardian.Broker.SyscallRows
import KubeGuardian.Controller.Syscall
import KubeGuardian.System.Wire

/-!
# From a syscall to its row

The recorders of all nodes beside the broker's `pod_syscalls` table. A pod makes its syscalls on
the node it runs on, and every recorder posts its batches to the one broker.

`sound_run` says where everything on the way comes from: the names in the sets, batches and rows
of a pod are names of syscalls that the pod made.
-/

namespace KubeGuardian.System

open Controller Lib

/-! ## The nodes and the broker

Every node has a recorder of its own, and all of them post to one table.
-/

structure RunningPod (ν : Type) where
  node : ν
  inodeNum : UInt64
  podInspect : PodInspect

def RunningPod.name {ν : Type} (pod : RunningPod ν) : String := pod.podInspect.status.podName

structure Cluster (ν : Type) where
  recorders : ν → Recorder
  podSyscalls : List Broker.PodSyscalls

/-- What can happen next: a pod makes a syscall and the event is handled, the sender of a node
visits a set, its `POST` arrives at the broker or is lost, or one of its caches drops an entry. -/
inductive ClusterInput (ν : Type) where
  | syscall (pod : RunningPod ν) (id : Int64)
  | visit (node : ν) (podName : String) (order : Reordering String) (timeStamp : Nat)
  | post (node : ν) (order : Reordering Broker.PodSyscalls)
  | lost (node : ν) (err : String)
  | evictSyscalls (node : ν) (podName : String)
  | evictLastSent (node : ν) (podName : String)

namespace ClusterInput

variable {ν : Type}

def node : ClusterInput ν → ν
  | .syscall pod _ => pod.node
  | .visit node _ _ _ | .post node _ | .lost node _ | .evictSyscalls node _
  | .evictLastSent node _ => node

/-- What it is to the recorder of the node, if the broker gives the reply. -/
def recorderInput (reply : Broker.Reply) : ClusterInput ν → RecorderInput
  | .syscall pod id => .syscall {pod.inodeNum} pod.inodeNum id
  | .visit _ podName order timeStamp => .visit podName order timeStamp
  | .post _ _ => .post (answered reply)
  | .lost _ err => .post (.error err)
  | .evictSyscalls _ podName => .evictSyscalls podName
  | .evictLastSent _ podName => .evictLastSent podName

end ClusterInput

/-- The body of `POST /pod/syscalls` as the broker reads it, entry by entry. -/
def entry (data : SyscallData) : Broker.PodInputSyscalls where
  podName := data.podName
  podNamespace := data.podNamespace
  syscalls := data.syscalls
  arch := data.arch
  timeStamp := data.timeStamp

namespace Cluster

variable {ν : Type} [DecidableEq ν]

/-- The map of a node's containers, once its pods are registered. -/
def containerMap (pods : List (RunningPod ν)) (node : ν) : AList fun _ : UInt64 => PodInspect :=
  (pods.filter (·.node = node)).foldl
    (fun containerMap pod => containerMap.insert pod.inodeNum pod.podInspect) ∅

def start (pods : List (RunningPod ν)) : Cluster ν :=
  ⟨fun node => .start (containerMap pods node), []⟩

/-- What the broker does about an input. -/
def broker (c : Cluster ν) : ClusterInput ν → List Broker.PodSyscalls × Broker.Reply
  | .post node order =>
    if (c.recorders node).panicked then (c.podSyscalls, .ok)
    else Broker.createPodSyscalls order c.podSyscalls ((c.recorders node).batch.map entry)
  | _ => (c.podSyscalls, .ok)

def step (host : ν → Host) (c : Cluster ν) (i : ClusterInput ν) : Cluster ν :=
  let (podSyscalls, reply) := c.broker i
  { recorders := Function.update c.recorders i.node
      ((c.recorders i.node).step (host i.node) (i.recorderInput reply))
    podSyscalls }

end Cluster

/-! ## What one recorder holds

The names in its sets, in its batch and in what it marks as sent were all made under the pod's name
on that node.
-/

/-- Every name is one that was made, and every entry of the batch is of this architecture. -/
structure Holds (arch : String) (made : String → String → Prop) (s : Recorder) : Prop where
  cache : ∀ podName, ∀ name ∈ s.syscallCache.get podName, made podName name
  nonempty : ∀ podName, ∀ syscalls ∈ s.syscallCache.lookup podName, syscalls.elems ≠ []
  batch : ∀ data ∈ s.batch, data.podNamespace = "" ∧ data.arch = arch ∧ data.syscalls ≠ [] ∧
    data.syscalls.Nodup ∧ ∀ name ∈ data.syscalls, made data.podName name

namespace Holds

variable {arch : String} {made made' : String → String → Prop} {s : Recorder}

/-- What was made stays made. -/
theorem mono (hs : Holds arch made s) (h : ∀ podName name, made podName name → made' podName name) :
    Holds arch made' s where
  cache podName name hname := h _ _ (hs.cache podName name hname)
  nonempty := hs.nonempty
  batch data hdata :=
    have ⟨hns, harch, hne, hnodup, hmade⟩ := hs.batch data hdata
    ⟨hns, harch, hne, hnodup, fun name hname => h _ _ (hmade name hname)⟩

/-- A name that is recorded has just been made. -/
theorem record (hs : Holds arch made s) {podName name : String} (hmade : made podName name) :
    Holds arch made (s.record podName name) where
  cache podName' name' hname' := by
    by_cases hpod : podName' = podName
    · subst hpod
      rcases (by simpa [Recorder.record] using hname' :
        name' ∈ s.syscallCache.get podName' ∨ name' = name) with hold | rfl
      · exact hs.cache _ _ hold
      · exact hmade
    · exact hs.cache _ _
        (by simpa [Recorder.record, SyscallCache.get_insert_ne _ _ hpod] using hname')
  nonempty podName' syscalls hlookup := by
    by_cases hpod : podName' = podName
    · subst hpod
      obtain rfl : _ = syscalls := by simpa [Recorder.record] using hlookup
      exact List.ne_nil_of_mem (HashSet.mem_elems.mpr (HashSet.mem_insert.mpr (.inr rfl)))
    · exact hs.nonempty podName' syscalls (by simpa [Recorder.record, hpod] using hlookup)
  batch := hs.batch

/-- What goes into the batch is in the set. -/
theorem visit {host : Host} (hs : Holds host.arch made s) (podName : String)
    (order : Reordering String) (timeStamp : Nat) :
    Holds host.arch made (s.visit host podName order timeStamp) := by
  rcases Recorder.visit_cases host s podName order timeStamp
    with ⟨_, h⟩ | ⟨syscalls, hlookup, _, h⟩ | ⟨_, _, _, h⟩
  · rw [h]; exact hs
  · rw [h]
    refine ⟨hs.cache, hs.nonempty, fun data hdata => ?_⟩
    rcases List.mem_append.mp hdata with hold | hnew
    · exact hs.batch data hold
    · obtain rfl := List.mem_singleton.mp hnew
      have hperm := syscalls.perm_iter order
      refine ⟨rfl, rfl, fun hnil => ?_, hperm.nodup_iff.mpr syscalls.nodup, fun name hname => ?_⟩
      · exact hs.nonempty podName syscalls hlookup (hperm.symm.trans (hnil ▸ .refl _)).eq_nil
      · refine hs.cache podName name ?_
        rw [SyscallCache.get_of_lookup hlookup]
        exact hperm.mem_iff.mp hname
  · rw [h]; exact ⟨hs.cache, hs.nonempty, hs.batch⟩

/-- What is posted is gone from the batch. -/
theorem post (hs : Holds arch made s) (sent : Sent) : Holds arch made (s.post sent) := by
  unfold Recorder.post
  split
  · exact hs
  · exact ⟨hs.cache, hs.nonempty, by simp⟩

/-- A dropped set has nothing to answer for. -/
theorem evictSyscalls (hs : Holds arch made s) (podName : String) :
    Holds arch made { s with syscallCache := s.syscallCache.erase podName } where
  cache podName' name hname := by
    by_cases hpod : podName' = podName
    · subst hpod
      simp at hname
    · exact hs.cache _ _ (by simpa [SyscallCache.get_erase_ne _ hpod] using hname)
  nonempty podName' syscalls hlookup := by
    by_cases hpod : podName' = podName
    · subst hpod
      simp at hlookup
    · exact hs.nonempty podName' syscalls (by simpa [hpod] using hlookup)
  batch := hs.batch

end Holds

/-! ## What a cluster holds

The same for all nodes, with the table: a row lists what was made under its pod's name on the node
that posted it.
-/

section Sound

variable {ν : Type} (host : ν → Host) (pods : List (RunningPod ν))

def NamesApart : Prop := (pods.map (·.name)).Nodup

/-- The syscall was made by one of the pods. -/
def ClusterInput.Among : ClusterInput ν → Prop
  | .syscall pod _ => pod ∈ pods
  | _ => True

variable (inputs : List (ClusterInput ν))

/-- The pod made a syscall of this name. -/
def MadeBy (pod : RunningPod ν) (name : String) : Prop :=
  ∃ id, .syscall pod id ∈ inputs ∧ (host pod.node).syscallName (sysnbrOf id) = some name

def MadeOn (node : ν) (podName name : String) : Prop :=
  ∃ pod ∈ pods, pod.node = node ∧ pod.name = podName ∧ MadeBy host inputs pod name

/-- The row reports syscalls that a pod of its name made, one by one. -/
def Reports (row : Broker.PodSyscalls) : Prop :=
  ∃ pod ∈ pods, row.key = (pod.name, "", (host pod.node).arch) ∧
    ∃ names : List String, names ≠ [] ∧ names.Nodup ∧ row.syscalls = ",".intercalate names ∧
      ∀ name ∈ names, MadeBy host inputs pod name

variable {host pods inputs}

/-- What a pod has made it has made after one more input. -/
theorem MadeBy.mono {pod : RunningPod ν} {name : String} (h : MadeBy host inputs pod name)
    (i : ClusterInput ν) : MadeBy host (inputs ++ [i]) pod name := by
  obtain ⟨id, hmem, hname⟩ := h
  exact ⟨id, List.mem_append_left _ hmem, hname⟩

theorem MadeOn.mono {node : ν} {podName name : String}
    (h : MadeOn host pods inputs node podName name) (i : ClusterInput ν) :
    MadeOn host pods (inputs ++ [i]) node podName name := by
  obtain ⟨pod, hpod, hnode, hname, hmade⟩ := h
  exact ⟨pod, hpod, hnode, hname, hmade.mono i⟩

/-- A row that reports what was made still does. -/
theorem Reports.mono {row : Broker.PodSyscalls} (h : Reports host pods inputs row)
    (i : ClusterInput ν) : Reports host pods (inputs ++ [i]) row := by
  obtain ⟨pod, hpod, hkey, names, hne, hnodup, hlist, hmade⟩ := h
  exact ⟨pod, hpod, hkey, names, hne, hnodup, hlist, fun name hname => (hmade name hname).mono i⟩

/-- Pods of different names: what is reported of a name has one architecture. -/
theorem keysAgree_of_reports (hnames : NamesApart pods) {rows : List Broker.PodSyscalls}
    (hrows : ∀ row ∈ rows, Reports host pods inputs row) : Broker.KeysAgree rows := by
  intro r hr s hs hname
  obtain ⟨pod, hpod, hkey, _⟩ := hrows r hr
  obtain ⟨pod', hpod', hkey', _⟩ := hrows s hs
  have heq : pod.name = pod'.name :=
    (congrArg Prod.fst hkey).symm.trans (hname.trans (congrArg Prod.fst hkey'))
  obtain rfl := List.inj_on_of_nodup_map hnames hpod hpod' heq
  rw [hkey, hkey']

variable [DecidableEq ν]

/-- Each pod is known by its network namespace, which no later pod of the node shares. -/
def Monitored (pods : List (RunningPod ν)) : Prop :=
  ∀ pod ∈ pods, (Cluster.containerMap pods pod.node).lookup pod.inodeNum = some pod.podInspect

variable (host pods inputs) in
/-- The state after the inputs, when the rows `reported` have arrived at the broker. -/
structure Sound (reported : List Broker.PodSyscalls) (c : Cluster ν) : Prop where
  containerMap : ∀ node, (c.recorders node).containerMap = Cluster.containerMap pods node
  recorders : ∀ node, Holds (host node).arch (MadeOn host pods inputs node) (c.recorders node)
  podSyscalls : c.podSyscalls
    = upserts Broker.PodSyscalls.podName Broker.PodSyscalls.changeset reported
  origin : ∀ row ∈ reported, Reports host pods inputs row

variable {reported : List Broker.PodSyscalls} {c : Cluster ν}

/-- The rows that a batch is stored as, if it is accepted. -/
def Cluster.pendingRows (c : Cluster ν) (node : ν) : List Broker.PodSyscalls :=
  ((c.recorders node).batch.map entry).map (·.row)

/-- The rows that an input brings to the broker. -/
def Cluster.arriving (c : Cluster ν) : ClusterInput ν → List Broker.PodSyscalls
  | .post node _ => if (c.recorders node).panicked then [] else c.pendingRows node
  | _ => []

/-- What a batch carries are reports: every name of it was made on its node. -/
theorem Sound.reports_pendingRows (hnames : NamesApart pods)
    (hc : Sound host pods inputs reported c) (node : ν) :
    ∀ row ∈ c.pendingRows node, ∃ pod ∈ pods, pod.node = node ∧ pod.name = row.podName ∧
      Reports host pods inputs row := by
  intro row hrow
  rw [Cluster.pendingRows, List.map_map, List.mem_map] at hrow
  obtain ⟨data, hdata, rfl⟩ := hrow
  obtain ⟨hns, harch, hne, hnodup, hmade⟩ := (hc.recorders node).batch data hdata
  obtain ⟨name, hname⟩ := List.exists_mem_of_ne_nil _ hne
  obtain ⟨pod, hpod, rfl, hpodName, _⟩ := hmade name hname
  refine ⟨pod, hpod, rfl, hpodName, pod, hpod, ?_, data.syscalls, hne, hnodup, rfl,
    fun name' hname' => ?_⟩
  · simp [Broker.PodSyscalls.key, entry, Broker.PodInputSyscalls.row, hns, harch, hpodName]
  · -- the pod of that name is the one
    obtain ⟨pod', hpod', _, hpodName', hmade'⟩ := hmade name' hname'
    obtain rfl := List.inj_on_of_nodup_map hnames hpod' hpod (hpodName'.trans hpodName.symm)
    exact hmade'

/-- **What arrives reports what was made**: the batch of the node whose request it is. -/
theorem Sound.reports_arriving (hnames : NamesApart pods) (hc : Sound host pods inputs reported c)
    (i : ClusterInput ν) : ∀ row ∈ c.arriving i, Reports host pods inputs row := by
  intro row hrow
  cases i with
  | post node order =>
    simp only [Cluster.arriving] at hrow
    split at hrow
    · simp at hrow
    · obtain ⟨_, _, _, _, hreports⟩ := hc.reports_pendingRows hnames node row hrow
      exact hreports
  | _ => simp [Cluster.arriving] at hrow

/-- **The broker accepts what arrives**, and upserts it. -/
theorem Sound.broker_eq (hnames : NamesApart pods) (hc : Sound host pods inputs reported c)
    (i : ClusterInput ν) :
    c.broker i = (upserts Broker.PodSyscalls.podName Broker.PodSyscalls.changeset
      (reported ++ c.arriving i), .ok) := by
  have hkeys : Broker.KeysAgree (c.podSyscalls ++ c.arriving i) := by
    have hreports : ∀ row ∈ reported ++ c.arriving i, Reports host pods inputs row := by
      intro row hrow
      rcases List.mem_append.mp hrow with hold | hnew
      · exact hc.origin row hold
      · exact hc.reports_arriving hnames i row hnew
    rw [hc.podSyscalls]
    exact Broker.KeysAgree.upserts (keysAgree_of_reports hnames hreports)
  rw [upserts_append, ← hc.podSyscalls]
  cases i with
  | post node order =>
    simp only [Cluster.broker, Cluster.arriving] at hkeys ⊢
    split
    · rfl
    · next halive =>
      rw [if_neg halive] at hkeys
      exact Broker.createPodSyscalls_eq order hkeys
  | _ => rfl

/-- At the start nothing is recorded and nothing was reported. -/
theorem sound_start : Sound host pods [] [] (Cluster.start pods) where
  containerMap _ := rfl
  recorders _ := ⟨by simp [Cluster.start, Recorder.start, SyscallCache.get],
    by simp [Cluster.start, Recorder.start], by simp [Cluster.start, Recorder.start]⟩
  podSyscalls := rfl
  origin := by simp

/-- What the input makes of the recorder of its node. -/
theorem Sound.holds_step (hmonitored : Monitored pods) (hc : Sound host pods inputs reported c)
    {i : ClusterInput ν} (hi : i.Among pods) (reply : Broker.Reply) :
    Holds (host i.node).arch (MadeOn host pods (inputs ++ [i]) i.node)
      ((c.recorders i.node).step (host i.node) (i.recorderInput reply)) := by
  have hs : Holds (host i.node).arch (MadeOn host pods (inputs ++ [i]) i.node)
      (c.recorders i.node) := (hc.recorders i.node).mono fun _ _ h => h.mono i
  unfold Recorder.step
  split
  · exact hs
  · cases i with
    | syscall pod id =>
      show Holds _ _ ((c.recorders pod.node).next (host pod.node)
        (.syscall {pod.inodeNum} pod.inodeNum id))
      rcases Recorder.next_syscall_cases (host pod.node) (c.recorders pod.node) {pod.inodeNum}
        pod.inodeNum id with h | ⟨_, h⟩ | ⟨podInspect, name, _, hlookup, hname, h⟩
      · rw [h]; exact hs
      · rw [h]; exact ⟨hs.cache, hs.nonempty, hs.batch⟩
      · -- the pod that the map knows is the pod that made the syscall
        rw [hc.containerMap, hmonitored pod hi, Option.some.injEq] at hlookup
        subst hlookup
        rw [h]
        exact hs.record ⟨pod, hi, rfl, rfl, id, by simp, hname⟩
    | visit node podName order timeStamp => exact hs.visit podName order timeStamp
    | post node order => exact hs.post _
    | lost node err => exact hs.post _
    | evictSyscalls node podName => exact hs.evictSyscalls podName
    | evictLastSent node podName => exact ⟨hs.cache, hs.nonempty, hs.batch⟩

/-- **One step**, on one node and at the broker. -/
theorem Sound.step (hmonitored : Monitored pods) (hnames : NamesApart pods)
    (hc : Sound host pods inputs reported c) {i : ClusterInput ν} (hi : i.Among pods) :
    Sound host pods (inputs ++ [i]) (reported ++ c.arriving i) (c.step host i) := by
  have hbroker := hc.broker_eq hnames i
  constructor
  · intro node
    by_cases hnode : node = i.node
    · subst hnode
      have hregister : ∀ inodeNum podInspect,
          i.recorderInput (c.broker i).2 ≠ .register inodeNum podInspect := by
        cases i <;> simp [ClusterInput.recorderInput]
      simpa [Cluster.step] using
        (Recorder.containerMap_step (host i.node) _ hregister).trans (hc.containerMap i.node)
    · simpa [Cluster.step, Function.update_of_ne hnode] using hc.containerMap node
  · intro node
    by_cases hnode : node = i.node
    · subst hnode
      simpa [Cluster.step] using hc.holds_step hmonitored hi _
    · simpa [Cluster.step, Function.update_of_ne hnode]
        using (hc.recorders node).mono fun _ _ h => h.mono i
  · simp [Cluster.step, hbroker]
  · intro row hrow
    rcases List.mem_append.mp hrow with hold | hnew
    · exact (hc.origin row hold).mono i
    · exact (hc.reports_arriving hnames i row hnew).mono i

/-- The node of an input goes on with the broker's answer. -/
theorem recorders_step_self (i : ClusterInput ν) :
    (c.step host i).recorders i.node
      = (c.recorders i.node).step (host i.node) (i.recorderInput (c.broker i).2) := by
  simp [Cluster.step]

theorem recorders_step_other {i : ClusterInput ν} {node : ν} (h : node ≠ i.node) :
    (c.step host i).recorders node = c.recorders node := by
  simp [Cluster.step, h]

/-- A node without a panic does what the input says. -/
theorem recorders_step_alive (i : ClusterInput ν)
    (halive : (c.recorders i.node).panicked = false) :
    (c.step host i).recorders i.node
      = (c.recorders i.node).next (host i.node) (i.recorderInput (c.broker i).2) := by
  rw [recorders_step_self, Recorder.step, if_neg (by simp [halive])]

/-- What a syscall that does not panic does on its node. -/
theorem Sound.recorders_syscall (hmonitored : Monitored pods)
    (hc : Sound host pods inputs reported c) {pod : RunningPod ν} {id : Int64}
    (halive : (c.recorders pod.node).panicked = false) (hpod : pod ∈ pods)
    (hlow : (sysnbrOf id).toNat < 2 ^ 31) :
    ∃ name, (host pod.node).syscallName (sysnbrOf id) = some name ∧
      (c.step host (.syscall pod id)).recorders pod.node
        = (c.recorders pod.node).record pod.name name := by
  obtain ⟨name, hname⟩ : ∃ name, (host pod.node).syscallName (sysnbrOf id) = some name := by
    rw [← Option.ne_none_iff_exists', Ne, Host.syscallName_eq_none_iff]
    omega
  refine ⟨name, hname, ?_⟩
  have hlookup := (congrArg (·.lookup pod.inodeNum) (hc.containerMap pod.node)).trans
    (hmonitored pod hpod)
  refine (recorders_step_alive (.syscall pod id) halive).trans ?_
  exact Recorder.next_syscall_eq_record (by simp) hlookup hname

/-- **Everything on the way comes from syscalls that were made.** -/
theorem sound_run (hmonitored : Monitored pods) (hnames : NamesApart pods)
    (inputs : List (ClusterInput ν)) (hinputs : ∀ i ∈ inputs, i.Among pods) :
    ∃ reported, Sound host pods inputs reported
      (run (Cluster.step host) (Cluster.start pods) inputs) := by
  refine run_history_induction (Cluster.step host)
    (P := fun is c => (∀ i ∈ is, i.Among pods) → ∃ reported, Sound host pods is reported c)
    (fun _ => ⟨[], sound_start⟩) (fun is c i ih his => ?_) inputs hinputs
  obtain ⟨reported, hc⟩ := ih fun j hj => his j (List.mem_append_left _ hj)
  exact ⟨_, hc.step hmonitored hnames (his i (by simp))⟩

end Sound

end KubeGuardian.System
