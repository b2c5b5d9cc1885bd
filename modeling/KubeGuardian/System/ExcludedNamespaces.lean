import KubeGuardian.Lib.Delimited
import KubeGuardian.System.Deployment

/-!
# Namespaces that are left out

`main` of `controller/src/main.rs` reads the namespaces to leave out from a variable of the
environment, and the watcher looks at them after it has reported a pod's details. Whatever else the
nodes, the probes and the broker do, no event is handled for a pod of such a namespace.

* **`namesFrom_run`** — every entry and every set of syscalls that a node holds is that of a pod
  which was registered on that node;
* **`excluded_unseen`** — so no traffic row, no entry of a map of containers and no set of syscalls
  is that of a pod in a namespace that its node was told to leave out: neither of the node that has
  posted the row nor of the one that holds the entry or the set.
-/

namespace KubeGuardian

open Lib

/-! ## The environment -/

namespace Controller

/-- The variables that `main` has a default for. -/
structure Settings where
  excludedNamespaces : Option String
  ignoreDaemonsetTraffic : Option String

/-- `parse::<bool>`. -/
def parseBool : String → Option Bool
  | "true" => some true
  | "false" => some false
  | _ => none

namespace Settings

/-- Blanks beside a comma belong to the name. -/
def namespaces (vars : Settings) : List String :=
  fields ',' (vars.excludedNamespaces.getD "kube-system,kube-guardian")

/-- What is no Boolean counts as `true`. -/
def ignoresDaemonsets (vars : Settings) : Bool :=
  (parseBool (vars.ignoreDaemonsetTraffic.getD "true")).getD true

def nodeConfig (vars : Settings) (endian : Endian) (host : Host) : NodeConfig where
  excludedNamespaces := vars.namespaces
  ignoreDaemonsetTraffic := vars.ignoresDaemonsets
  endian := endian
  host := host

/-- **The list is the one that was joined**, as long as no name has a comma. -/
theorem namespaces_intercalate {nss : List String} (hcomma : ∀ ns ∈ nss, ',' ∉ ns.toList)
    (hne : nss ≠ []) (ignoreDaemonsetTraffic : Option String) :
    (Settings.mk (some (",".intercalate nss)) ignoreDaemonsetTraffic).namespaces = nss :=
  fields_intercalate rfl hcomma hne

example : (Settings.mk none none).namespaces = ["kube-system", "kube-guardian"]
    ∧ (Settings.mk (some "shop, data") (some "False")).namespaces = ["shop", " data"]
    ∧ (Settings.mk (some "shop, data") (some "False")).ignoresDaemonsets = true := by
  decide +kernel

end Settings

/-! ## One node -/

/-- The pod's namespace is none of those to leave out. -/
def NodeConfig.Allows (cfg : NodeConfig) (podInspect : PodInspect) : Prop :=
  ∀ ns ∈ podInspect.status.podNamespace, ns ∉ cfg.excludedNamespaces

section Node

variable {τ : Type*} {cfg : NodeConfig} {s : Node τ}

theorem allows_of_registers {i : NodeInput τ} {inum : UInt64} {podInspect : PodInspect}
    (h : i.Registers cfg inum podInspect) : cfg.Allows podInspect := by
  cases i with
  | apply pod runtime =>
    obtain ⟨hinode, podIp, -, rfl⟩ := h
    intro ns hns
    have hprocess : shouldProcessPod pod.ns cfg.excludedNamespaces :=
      (Option.ite_none_right_eq_some.mp hinode).1
    have hpod : pod.ns = some ns := hns
    simpa [shouldProcessPod, hpod] using hprocess
  | _ => exact h.elim

/-- Every set of syscalls is kept under the name of a pod that was registered. -/
structure NamesFrom (registered : UInt64 → PodInspect → Prop) (s : Node τ) : Prop where
  comesFrom : ComesFrom (fun _ _ => True) registered s
  syscalls : ∀ podName ∈ s.syscallCache, ∃ inum podInspect, registered inum podInspect
    ∧ podInspect.status.podName = podName

variable {registered registered' : UInt64 → PodInspect → Prop}

theorem namesFrom_start : NamesFrom registered (Node.start τ) where
  comesFrom := comesFrom_start
  syscalls podName h := absurd h (AList.notMem_empty podName)

theorem NamesFrom.mono (hs : NamesFrom registered s)
    (h : ∀ inum podInspect, registered inum podInspect → registered' inum podInspect) :
    NamesFrom registered' s where
  comesFrom := hs.comesFrom.mono (fun _ _ h => h) h
  syscalls podName hname := by
    obtain ⟨inum, podInspect, hregistered, heq⟩ := hs.syscalls podName hname
    exact ⟨inum, podInspect, h _ _ hregistered, heq⟩

/-- A set is new when an event is handled for the pod of an entry. -/
theorem mem_syscallCache_node {i : NodeInput τ} {podName : String}
    (h : podName ∈ (s.step cfg i).syscallCache) :
    podName ∈ s.syscallCache ∨ ∃ inum podInspect,
      s.handler.containerMap.lookup inum = some podInspect
        ∧ podInspect.status.podName = podName := by
  cases hpanicked : s.panicked with
  | true => exact .inl (by simpa [Node.step, hpanicked] using h)
  | false =>
    rw [Node.step_of_running hpanicked] at h
    cases i with
    | handleSyscall n =>
      have hcache : podName ∈ (s.handleSyscallEvent cfg n).syscallCache := h
      unfold Node.handleSyscallEvent at hcache
      split at hcache
      · exact .inl hcache
      · next data hevent =>
        dsimp only at hcache
        split at hcache
        · exact .inl hcache
        · next podInspect hpod =>
          split at hcache
          · exact .inl hcache
          · next syscallCache hprocess =>
            obtain ⟨syscallName, -, rfl⟩ := Option.map_eq_some_iff.mp hprocess
            rcases (AList.mem_insert _).mp hcache with rfl | hcache
            · exact .inr ⟨_, podInspect, hpod, rfl⟩
            · exact .inl hcache
    | evictSyscalls podName' => exact .inl (AList.mem_erase.mp h).2
    | handleNetwork n stamp sent =>
      exact .inl (syscallCache_handleNetworkEvent cfg s n stamp sent ▸ h)
    | evict key => exact .inl h
    | _ => exact .inl (mem_syscallCache_of_next h trivial)

theorem NamesFrom.step (hs : NamesFrom registered s) {i : NodeInput τ}
    (hregisters : ∀ inum podInspect, i.Registers cfg inum podInspect →
      registered inum podInspect) :
    NamesFrom registered (s.step cfg i) where
  comesFrom := hs.comesFrom.step (fun _ _ _ => trivial) hregisters
  syscalls podName h := by
    rcases mem_syscallCache_node h with h | ⟨inum, podInspect, hpod, rfl⟩
    · exact hs.syscalls podName h
    · exact ⟨inum, podInspect, hs.comesFrom.entries inum podInspect hpod, rfl⟩

end Node

end Controller

/-! ## All nodes -/

namespace System

open Controller

section Nodes

variable {κ τ : Type*} [DecidableEq κ] {cfg : κ → NodeConfig}

/-- The pod was given to the watcher on the node, to be registered under the number. -/
def Registered (cfg : κ → NodeConfig) (inputs : List (DeploymentInput κ τ)) (k : κ)
    (inum : UInt64) (podInspect : PodInspect) : Prop :=
  Occurs (Deployment.step cfg) (Deployment.Registers cfg k inum podInspect) Deployment.start inputs

theorem namesFrom_run (cfg : κ → NodeConfig) (inputs : List (DeploymentInput κ τ)) (k : κ) :
    NamesFrom (Registered cfg inputs k)
      ((run (Deployment.step cfg) Deployment.start inputs).nodes k) := by
  induction inputs using List.reverseRecOn with
  | nil => exact namesFrom_start
  | append_singleton inputs i ih =>
    have hold : NamesFrom (Registered cfg (inputs ++ [i]) k)
        ((run (Deployment.step cfg) Deployment.start inputs).nodes k) :=
      ih.mono fun _ _ h => h.append _
    rw [run_snoc]
    cases i with
    | other orders post => exact hold
    | restart k' =>
      rw [Deployment.nodes_restart]
      split
      · exact namesFrom_start
      · exact hold
    | node k' input exchange =>
      by_cases hk : k = k'
      · subst hk
        rw [Deployment.nodes_step_self]
        refine hold.step fun inum podInspect h => occurs_snoc.mpr (.inr ⟨rfl, ?_⟩)
        cases input <;> exact h
      · rw [Deployment.nodes_step_other hk]
        exact hold

theorem allows_of_occurs {inputs : List (DeploymentInput κ τ)} {k : κ} {inum : UInt64}
    {podInspect : PodInspect}
    (h : Registered cfg inputs k inum podInspect) : (cfg k).Allows podInspect := by
  have hany : Always (Deployment.step cfg) (fun _ => True) Deployment.start inputs :=
    always_of_step trivial (fun _ _ _ => trivial) inputs
  obtain ⟨d, i, -, hregisters⟩ := h.of_always hany
  cases i with
  | node k' input exchange => exact allows_of_registers hregisters.2
  | restart k' => exact hregisters.elim
  | other orders post => exact hregisters.elim

end Nodes

/-- Nothing that the controllers or the traffic table hold is of a pod that its node was told to
leave out. A row goes back to the node that has posted it, and what a node holds to a pod that was
registered there. -/
structure Excludes {κ τ : Type*} [DecidableEq κ] (cfg : κ → NodeConfig)
    (inputs : List (DeploymentInput κ τ)) (d : Deployment κ τ) : Prop where
  rows : ∀ row ∈ d.db.podTraffic, ∃ k o stamp, row = (o.record (cfg k).endian stamp).row
    ∧ Occurs (Deployment.step cfg) (Deployment.Delivers cfg k o) Deployment.start inputs
    ∧ Registered cfg inputs k o.data.inum o.podInspect
    ∧ ∀ ns ∈ row.podNamespace, ns ∉ (cfg k).excludedNamespaces
  containers : ∀ k inum podInspect,
    (d.nodes k).handler.containerMap.lookup inum = some podInspect →
      Registered cfg inputs k inum podInspect ∧ (cfg k).Allows podInspect
  syscalls : ∀ k, ∀ podName ∈ (d.nodes k).syscallCache, ∃ inum podInspect,
    podInspect.status.podName = podName ∧ Registered cfg inputs k inum podInspect
      ∧ (cfg k).Allows podInspect

/-- **Nothing is recorded of a namespace that is left out**, whatever the variables of the nodes
say: a pod is registered only after the watcher has looked at its namespace, and whatever is kept
has come by an entry. -/
theorem excluded_unseen {κ τ : Type*} [DecidableEq κ] (vars : κ → Settings) (endian : κ → Endian)
    (host : κ → Host) (inputs : List (DeploymentInput κ τ)) :
    let cfg := fun k => (vars k).nodeConfig (endian k) (host k)
    Excludes cfg inputs (run (Deployment.step cfg) Deployment.start inputs) := by
  intro cfg
  refine ⟨fun row hrow => ?_, fun k inum podInspect hpod => ?_, fun k podName hname => ?_⟩
  · obtain ⟨k, o, stamp, rfl, -, hdelivers, -, hregisters⟩ :=
      Deployment.rows_sound cfg inputs row hrow
    exact ⟨k, o, stamp, rfl, hdelivers, hregisters, allows_of_occurs hregisters⟩
  · have hregisters : Registered cfg inputs k inum podInspect :=
      (namesFrom_run cfg inputs k).comesFrom.entries inum podInspect hpod
    exact ⟨hregisters, allows_of_occurs hregisters⟩
  · obtain ⟨inum, podInspect, hregisters, hname⟩ := (namesFrom_run cfg inputs k).syscalls _ hname
    exact ⟨inum, podInspect, hname, hregisters, allows_of_occurs hregisters⟩

/-! ## A pod of `kube-system` beside another -/

/-- A node whose variables are left to their defaults. -/
def defaultConfig (_ : Unit) : NodeConfig :=
  (Settings.mk none none).nodeConfig .little ⟨"x86_64", fun _ _ => some "read"⟩

def systemPod : PodObject where
  name := "coredns"
  ns := some "kube-system"
  ownerReferences := some ["ReplicaSet"]
  status := ⟨some "10.0.0.2", none, some [some "containerd://c1"]⟩

/-- A connection from 10.0.0.2 to 10.0.0.9, port 443. -/
def systemSock : Sock := ⟨8, 0x0200000a, 0x0900000a, 40001, 0xbb01⟩

/-- Both pods are given to the watcher, both open a connection and both make a syscall. -/
def besideSystemPod : List (DeploymentInput Unit Unit) :=
  [.node () (.apply systemPod fun _ => some 8) (.lost ""), .node () .watch (.lost ""),
    .node () (.apply shopPod fun _ => some 6) (.lost ""), .node () .watch (.lost ""),
    .node () .watch (.lost ""), .node () .watch (.lost ""), .node () .receiveInode (.lost ""),
    .node () .updateSyscall (.lost ""),
    .node () (.network () (fun _ => systemSock) (.connectEntry 1 1)) (.lost ""),
    .node () (.network () (fun _ => systemSock) (.connectExit 1 0)) (.lost ""),
    .node () (.network () (fun _ => Deployment.shopSock) (.connectEntry 2 1)) (.lost ""),
    .node () (.network () (fun _ => Deployment.shopSock) (.connectExit 2 0)) (.lost ""),
    .node () (.syscall 8 0) (.lost ""), .node () (.syscall 6 0) (.lost ""),
    .node () (.handleNetwork 0 ⟨"u1", 1⟩ (.error "")) (.answered .stored),
    .node () (.handleSyscall 0) (.lost "")]

def afterSystemPod : Deployment Unit Unit :=
  run (Deployment.step defaultConfig) Deployment.start besideSystemPod

/-- The watcher was given `coredns` too, and all that is recorded is of `web`. -/
theorem excluded_unseen_beside_system_pod :
    Excludes defaultConfig besideSystemPod afterSystemPod
      ∧ (afterSystemPod.nodes ()).applied.map (·.name) = ["coredns", "web"]
      ∧ afterSystemPod.db.podTraffic.map (·.podName) = [some "web"]
      ∧ (afterSystemPod.nodes ()).handler.containerMap.keys = [6]
      ∧ (afterSystemPod.nodes ()).syscallCache.keys = ["web"] := by
  refine ⟨excluded_unseen (fun _ => ⟨none, none⟩) (fun _ => .little)
    (fun _ => ⟨"x86_64", fun _ _ => some "read"⟩) besideSystemPod, ?_⟩
  decide +kernel

end System

end KubeGuardian
