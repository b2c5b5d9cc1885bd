import KubeGuardian.Controller.Network
import Mathlib.Data.Set.Insert

/-!
# What the pod watcher does with a pod

`controller/src/pod_watcher.rs`, for one pod that the cluster reports as applied. What the watcher
leaves behind it leaves in order, with other tasks running in between: the details go to the
broker, the address of a DaemonSet's pod and the number of the network namespace to the eBPF loop,
and the namespace's entry into the map of containers.

* **`mem_watchPods_sendIp`** — which addresses are sent to be ignored;
* **`announced_watchPods`** — the entry of a namespace is written before its number is sent.
-/

namespace KubeGuardian.Controller

/-! ## Pods as the cluster reports them -/

structure PodCondition where
  type_ : String
  status : String
  message : Option String
  deriving DecidableEq

/-- Of a container status only the id is read. -/
structure PodStatus where
  podIp : Option String
  conditions : Option (List PodCondition)
  containerStatuses : Option (List (Option String))
  deriving DecidableEq

/-- A `Pod` of the API, which always has a status; of an owner reference only the kind is read. -/
structure PodObject where
  name : String
  ns : Option String
  ownerReferences : Option (List String)
  status : PodStatus
  deriving DecidableEq

def isBackedByDaemonset (pod : PodObject) : Bool :=
  match pod.ownerReferences with
  | some owners => owners.any (· = "DaemonSet")
  | none => false

/-- `should_process_pod`: a pod without a namespace is never left out. -/
def shouldProcessPod (ns : Option String) (excludedNamespaces : List String) : Bool :=
  match ns with
  | some ns => !excludedNamespaces.contains ns
  | none => true

/-- Despite its name, the container ids of a pod that is not unready. -/
def podUnready (p : PodObject) : Option (List String) :=
  let failed := match p.status.conditions with
    | some conds =>
      let ready := conds.filter fun c => c.type_ = "Ready" ∧ c.status = "False"
      ",".intercalate (ready.map fun c => c.message.getD "")
    | none => ""
  -- the messages are looked at, not the conditions
  if failed ≠ "" then none
  else p.status.containerStatuses.map (·.filterMap id)

def createPodInfo (pod : PodObject) (podIp : String) : PodInfo where
  podName := pod.name
  podNamespace := pod.ns
  podIp := podIp

/-! ## The namespace of a container -/

def regexContainerd : List Char := "containerd://".toList

/-- The first match of `REGEX_CONTAINERD`. -/
def containerId (text : String) : Option String :=
  text.toList.tails.findSome? fun rest =>
    if regexContainerd <+: rest then
      some (.ofList ((rest.drop regexContainerd.length).takeWhile (·.isAlphanum)))
    else none

example : ["containerd://3f9a-x", "docker://3f9a"].map containerId = [some "3f9a", none] := by
  decide +kernel

/-- What containerd and `/proc` know: the network namespace of a container's process. -/
abbrev Runtime := String → Option UInt64

/-- `get_pod_inspect`, as far as its result is used. -/
def containerInode (runtime : Runtime) (conId : String) : Option UInt64 :=
  (containerId conId).bind runtime

/-! ## One pod -/

/-- The body of `POST /pod/spec`. -/
structure PodSpec where
  podIp : String
  podName : String
  podNamespace : Option String
  podObj : PodObject
  deriving DecidableEq

/-- What other tasks, or the broker, see of the watcher. -/
inductive WatcherEffect where
  | postDetails (z : PodSpec)
  | sendIp (podIp : String)
  | insertContainer (inodeNum : UInt64) (podInspect : PodInspect)
  | sendInode (inodeNum : UInt64)

structure WatcherConfig where
  excludedNamespaces : List String
  ignoreDaemonsetTraffic : Bool

/-- `update_pods_details`: the result, and the request before it. -/
def updatePodsDetails (pod : PodObject) : List WatcherEffect × Option String :=
  match pod.status.podIp with
  | some podIp =>
    let z := { podIp, podName := pod.name, podNamespace := pod.ns, podObj := pod }
    ([.postDetails z], some podIp)
  | none => ([], none)

/-- `process_container_ids`: the first container whose namespace can be found is entered, and no
other. -/
def processContainerIds (runtime : Runtime) (conIds : List String) (pod : PodObject)
    (podIp : String) : List WatcherEffect × Option UInt64 :=
  match conIds.findSome? (containerInode runtime) with
  | some inodeNum => ([.insertContainer inodeNum ⟨createPodInfo pod podIp⟩], some inodeNum)
  | none => ([], none)

/-- `process_pod`: what is to be done for a pod, in order, and the inode to be announced. -/
def processPod (cfg : WatcherConfig) (runtime : Runtime) (pod : PodObject) :
    List WatcherEffect × Option UInt64 :=
  match podUnready pod with
  | none => ([], none)
  | some conIds =>
    match updatePodsDetails pod with
    | (posted, none) => (posted, none)
    | (posted, some podIp) =>
      -- before the excluded namespaces are looked at
      let ignored := if cfg.ignoreDaemonsetTraffic ∧ isBackedByDaemonset pod then [.sendIp podIp]
        else []
      if shouldProcessPod pod.ns cfg.excludedNamespaces then
        let (registered, inum) := processContainerIds runtime conIds pod podIp
        (posted ++ ignored ++ registered, inum)
      else (posted ++ ignored, none)

/-- The closure of `watch_pods`. -/
def watchPods (cfg : WatcherConfig) (runtime : Runtime) (pod : PodObject) : List WatcherEffect :=
  let (effects, inum) := processPod cfg runtime pod
  effects ++ inum.toList.map .sendInode

/-! ## What it leaves behind -/

/-- The pod is ready enough, and has an address, for the watcher to go on. -/
def Watched (pod : PodObject) (podIp : String) : Prop :=
  (podUnready pod).isSome ∧ pod.status.podIp = some podIp

/-- The namespace that the pod is registered under. -/
def podInode (cfg : WatcherConfig) (runtime : Runtime) (pod : PodObject) : Option UInt64 :=
  if shouldProcessPod pod.ns cfg.excludedNamespaces then
    (podUnready pod).bind fun conIds => conIds.findSome? (containerInode runtime)
  else none

section Effects

variable {cfg : WatcherConfig} {runtime : Runtime} {pod : PodObject}

theorem watchPods_of_not_watched (h : ∀ podIp, ¬ Watched pod podIp) :
    watchPods cfg runtime pod = [] := by
  unfold watchPods processPod
  cases hready : podUnready pod with
  | none => rfl
  | some conIds =>
    cases hip : pod.status.podIp with
    | none => simp [updatePodsDetails, hip]
    | some podIp => exact absurd ⟨by simp [hready], hip⟩ (h podIp)

/-- **All that the watcher does**, in order. -/
theorem watchPods_of_watched {podIp : String} (h : Watched pod podIp) :
    watchPods cfg runtime pod
      = [.postDetails ⟨podIp, pod.name, pod.ns, pod⟩]
        ++ (if cfg.ignoreDaemonsetTraffic ∧ isBackedByDaemonset pod then [.sendIp podIp] else [])
        ++ (podInode cfg runtime pod).toList.flatMap fun inum =>
          [.insertContainer inum ⟨createPodInfo pod podIp⟩, .sendInode inum] := by
  obtain ⟨hready, hip⟩ := h
  obtain ⟨conIds, hready⟩ := Option.isSome_iff_exists.mp hready
  unfold watchPods processPod podInode processContainerIds
  simp only [hready, updatePodsDetails, hip, Option.bind_some]
  by_cases hprocess : shouldProcessPod pod.ns cfg.excludedNamespaces
  · simp only [hprocess, if_true]
    cases conIds.findSome? (containerInode runtime) <;> simp
  · simp [hprocess]

/-- The watcher goes on with one address at most. -/
theorem Watched.unique {podIp podIp' : String} (h : Watched pod podIp) (h' : Watched pod podIp') :
    podIp' = podIp := Option.some.inj (h'.2.symm.trans h.2)

/-- **The addresses that are sent** are those of DaemonSet pods. -/
theorem mem_watchPods_sendIp {ip : String} :
    .sendIp ip ∈ watchPods cfg runtime pod
      ↔ cfg.ignoreDaemonsetTraffic ∧ isBackedByDaemonset pod ∧ Watched pod ip := by
  by_cases h : ∃ podIp, Watched pod podIp
  · obtain ⟨podIp, h⟩ := h
    have hip : Watched pod ip ↔ ip = podIp := ⟨h.unique, fun heq => heq ▸ h⟩
    rw [watchPods_of_watched h, hip, ← and_assoc]
    cases podInode cfg runtime pod <;> simp
  · rw [watchPods_of_not_watched (not_exists.mp h)]
    simp [not_exists.mp h]

/-- **The entries that are written** are the pod's own. -/
theorem mem_watchPods_insertContainer {inum : UInt64} {podInspect : PodInspect} :
    .insertContainer inum podInspect ∈ watchPods cfg runtime pod
      ↔ podInode cfg runtime pod = some inum
        ∧ ∃ podIp, Watched pod podIp ∧ podInspect = ⟨createPodInfo pod podIp⟩ := by
  by_cases h : ∃ podIp, Watched pod podIp
  · obtain ⟨podIp, h⟩ := h
    have hpod : (∃ podIp', Watched pod podIp' ∧ podInspect = ⟨createPodInfo pod podIp'⟩)
        ↔ podInspect = ⟨createPodInfo pod podIp⟩ := by
      constructor
      · rintro ⟨podIp', h', rfl⟩
        rw [h.unique h']
      · exact fun heq => ⟨podIp, h, heq⟩
    rw [watchPods_of_watched h, hpod]
    cases podInode cfg runtime pod with
    | none => simp
    | some inode => simp [eq_comm (a := inum)]
  · rw [watchPods_of_not_watched (not_exists.mp h)]
    refine iff_of_false (by simp) ?_
    rintro ⟨-, podIp, hwatched, -⟩
    exact h ⟨podIp, hwatched⟩

end Effects

/-! ## The order of an entry and its number -/

/-- A number is sent when its namespace is in `registered`, or has been entered before. -/
def Announced : Set UInt64 → List WatcherEffect → Prop
  | _, [] => True
  | registered, .insertContainer inum _ :: rest => Announced (insert inum registered) rest
  | registered, .sendInode inum :: rest => inum ∈ registered ∧ Announced registered rest
  | registered, .postDetails _ :: rest | registered, .sendIp _ :: rest => Announced registered rest

theorem announced_watchPods (cfg : WatcherConfig) (runtime : Runtime) (pod : PodObject)
    (registered : Set UInt64) : Announced registered (watchPods cfg runtime pod) := by
  by_cases h : ∃ podIp, Watched pod podIp
  · obtain ⟨podIp, h⟩ := h
    rw [watchPods_of_watched h]
    cases podInode cfg runtime pod <;> split <;> simp [Announced]
  · rw [watchPods_of_not_watched (not_exists.mp h)]
    trivial

end KubeGuardian.Controller
