import KubeGuardian.Broker.SyscallsKept
import KubeGuardian.System.SeccompIsolation

/-!
# The architecture of a profile

A controller reports the architecture that it was built for under the name that Rust has for it,
and the advisor looks that name up in a map with spellings of its own.

* **`profile_valid_iff`** — the profile made of a row that controllers for `x86_64` and `aarch64`
  have reported is valid, and for the row's architecture, exactly when that is `x86_64`.
-/

namespace KubeGuardian.System

open Advisor Controller Lib

/-! ## Where the architecture of a row comes from -/

/-- An entry changes no architecture: what a table holds, it or the entry held before. -/
theorem exists_arch_of_storeEntry {o : Reordering Broker.PodSyscalls}
    {t t' : List Broker.PodSyscalls} {w : Broker.PodInputSyscalls}
    (h : Broker.storeEntry o t w = some t') :
    ∀ row ∈ t', (∃ old ∈ t, old.arch = row.arch) ∨ row.arch = w.arch := by
  intro row hrow
  rcases Broker.storeEntry_cases h with ⟨_, _, _, rfl⟩ | ⟨_, rfl⟩
  · obtain ⟨old, hold, rfl⟩ := List.mem_map.mp hrow
    refine .inl ⟨old, hold, ?_⟩
    split <;> rfl
  · rcases List.mem_append.mp hrow with hold | hnew
    · exact .inl ⟨row, hold, rfl⟩
    · obtain rfl := List.mem_singleton.mp hnew
      exact .inr rfl

/-- Induction on the batch; where an entry fails, the rows are those of the ones before it. -/
theorem arch_createPodSyscalls {P : String → Prop} (o : Reordering Broker.PodSyscalls)
    {t : List Broker.PodSyscalls} {ws : List Broker.PodInputSyscalls}
    (ht : ∀ row ∈ t, P row.arch) (hws : ∀ w ∈ ws, P w.arch) :
    ∀ row ∈ (Broker.createPodSyscalls o t ws).1, P row.arch := by
  induction ws generalizing t with
  | nil => exact ht
  | cons w ws ih =>
    unfold Broker.createPodSyscalls
    cases hentry : Broker.storeEntry o t w with
    | none => exact ht
    | some t' =>
      refine ih (fun row hrow => ?_) fun w' hw' => hws w' (List.mem_cons_of_mem _ hw')
      rcases exists_arch_of_storeEntry hentry row hrow with ⟨old, hold, harch⟩ | harch
      · exact harch ▸ ht old hold
      · exact harch ▸ hws w (List.mem_cons_self ..)

/-- What a recorder has batched is of its own node's architecture. -/
theorem batch_arch_step {host : Host} {s : Recorder} (hs : ∀ data ∈ s.batch, data.arch = host.arch)
    (i : RecorderInput) : ∀ data ∈ (s.step host i).batch, data.arch = host.arch := by
  unfold Recorder.step
  split
  · exact hs
  · cases i with
    | register inodeNum podInspect => exact hs
    | syscall inodeNum netNs id =>
      rcases Recorder.next_syscall_cases host s inodeNum netNs id
        with h | ⟨_, h⟩ | ⟨_, _, _, _, _, h⟩
      · rw [h]; exact hs
      · rw [h]; exact hs
      · rw [h]; exact hs
    | visit podName order timeStamp =>
      rcases Recorder.visit_cases host s podName order timeStamp
        with ⟨_, h⟩ | ⟨_, _, _, h⟩ | ⟨_, _, _, h⟩
      · rw [Recorder.next, h]; exact hs
      · rw [Recorder.next, h]
        intro data hdata
        rcases List.mem_append.mp hdata with hold | hnew
        · exact hs data hold
        · obtain rfl := List.mem_singleton.mp hnew
          rfl
      · rw [Recorder.next, h]; exact hs
    | post sent => simp [Recorder.next]
    | evictSyscalls podName => exact hs
    | evictLastSent podName => exact hs

section Rows

variable {ν : Type} {host : ν → Host} {c : Cluster ν}

variable (host) in
/-- Every architecture on the way is some node's, and the table keeps its primary key. -/
structure ArchsOfNodes (c : Cluster ν) : Prop where
  batch : ∀ node, ∀ data ∈ (c.recorders node).batch, data.arch = (host node).arch
  rows : ∀ row ∈ c.podSyscalls, ∃ node, row.arch = (host node).arch
  oneRow : Broker.OneRowPerPod c.podSyscalls

theorem ArchsOfNodes.broker (hc : ArchsOfNodes host c) (i : ClusterInput ν) :
    (∀ row ∈ (c.broker i).1, ∃ node, row.arch = (host node).arch)
      ∧ Broker.OneRowPerPod (c.broker i).1 := by
  cases i with
  | post node order =>
    by_cases hpanicked : (c.recorders node).panicked = true
    · simp only [Cluster.broker, if_pos hpanicked]
      exact ⟨hc.rows, hc.oneRow⟩
    · simp only [Cluster.broker, if_neg hpanicked]
      refine ⟨arch_createPodSyscalls (P := fun arch => ∃ node, arch = (host node).arch) order
        hc.rows ?_, Broker.createPodSyscalls_oneRowPerPod order hc.oneRow _⟩
      intro w hw
      obtain ⟨data, hdata, rfl⟩ := List.mem_map.mp hw
      exact ⟨node, hc.batch node data hdata⟩
  | _ => exact ⟨hc.rows, hc.oneRow⟩

variable [DecidableEq ν]

theorem ArchsOfNodes.step (hc : ArchsOfNodes host c) (i : ClusterInput ν) :
    ArchsOfNodes host (c.step host i) where
  batch node := by
    by_cases hnode : node = i.node
    · subst hnode
      rw [recorders_step_self]
      exact batch_arch_step (hc.batch i.node) _
    · rw [recorders_step_other hnode]
      exact hc.batch node
  rows := (hc.broker i).1
  oneRow := (hc.broker i).2

theorem archsOfNodes_run (host : ν → Host) (pods : List (RunningPod ν))
    (inputs : List (ClusterInput ν)) :
    ArchsOfNodes host (run (Cluster.step host) (Cluster.start pods) inputs) :=
  run_invariant (Cluster.step host) (P := ArchsOfNodes host)
    ⟨by simp [Cluster.start, Recorder.start], by simp [Cluster.start], Broker.oneRowPerPod_nil⟩
    (fun _ i hc => hc.step i) inputs

end Rows

/-! ## The profile of a row -/

/-- libseccomp's constant for a target that the controller supports. -/
def scmpConstant (arch : String) : String :=
  if arch = "x86_64" then "SCMP_ARCH_X86_64" else "SCMP_ARCH_AARCH64"

/-- The profile passes `ValidateProfile`, and its one architecture is `arch`. -/
def ValidFor (arch : String) (profile : SeccompProfile) : Prop :=
  validateProfile profile = .ok () ∧ profile.architectures = [scmpConstant arch]

/-- Of the two targets the advisor's map has one; the other is there under another name. -/
theorem validFor_seccompProfile_iff {podSysCalls : PodSysCall}
    (htarget : podSysCalls.arch = "x86_64" ∨ podSysCalls.arch = "aarch64") :
    ValidFor podSysCalls.arch (seccompProfile podSysCalls) ↔ podSysCalls.arch = "x86_64" := by
  have harchs : (seccompProfile podSysCalls).architectures
      = seccompArchitectures podSysCalls.arch := rfl
  unfold ValidFor
  rw [validateProfile_seccompProfile_iff, harchs]
  rcases htarget with harch | harch
  · rw [harch]
    decide
  · rw [harch]
    decide

variable {ν : Type} [DecidableEq ν] {host : ν → Host} {pods : List (RunningPod ν)}
  {inputs : List (ClusterInput ν)}

/-- The rows' architectures are those of the targets, and the answer for a name is its row's. -/
theorem eq_of_getPodSysCall {env : SeccompEnv} {row : Broker.PodSyscalls}
    (hrow : row ∈ recordedRows host pods inputs) {podSysCalls : PodSysCall}
    (hanswer : (env.over (recordedRows host pods inputs)).world.getPodSysCall row.podName
      = .ok podSysCalls) :
    podSysCalls = ⟨fields ',' row.syscalls, row.arch⟩ := by
  have hone := (archsOfNodes_run host pods inputs).oneRow
  obtain ⟨answered, hmem, hname, rfl⟩ := World.exists_row_of_getPodSysCall hanswer
  obtain rfl := hone.eq_of_podName hmem hrow hname
  rfl

/-- **A profile is valid for the architecture of its row exactly on `x86_64`**, whatever the
syscalls are. -/
theorem profile_valid_iff
    (htargets : ∀ node, (host node).arch = "x86_64" ∨ (host node).arch = "aarch64")
    {row : Broker.PodSyscalls} (hrow : row ∈ recordedRows host pods inputs) {env : SeccompEnv}
    {options : GenerateOptions} {pod : KubePod} (hpod : pod ∈ env.getResource options)
    (hname : pod.name = row.podName) {podSysCalls : PodSysCall}
    (hanswer : (env.over (recordedRows host pods inputs)).world.getPodSysCall pod.name
      = .ok podSysCalls)
    (hmkdir : env.mkdirAll = .ok ())
    (hwrite : ∀ p ∈ env.getResource options, p.name = pod.name → env.write p = .written)
    (files : Files SeccompProfile) :
    ∃ profile, generateSeccompProfile (env.over (recordedRows host pods inputs)) options files
        (seccompFile pod.name) = some profile
      ∧ (ValidFor row.arch profile ↔ row.arch = "x86_64") := by
  obtain ⟨node, harch⟩ := (archsOfNodes_run host pods inputs).rows row hrow
  have htarget : row.arch = "x86_64" ∨ row.arch = "aarch64" := harch ▸ htargets node
  have hwritten : generateSeccompProfile (env.over (recordedRows host pods inputs)) options files
      (seccompFile pod.name) = some (seccompProfile podSysCalls) := by
    have hmkdir' : (env.over (recordedRows host pods inputs)).mkdirAll = .ok () := hmkdir
    unfold generateSeccompProfile
    rw [hmkdir']
    exact rounds_written hpod hanswer hwrite files
  rw [hname] at hanswer
  obtain rfl := eq_of_getPodSysCall hrow hanswer
  exact ⟨_, hwritten, validFor_seccompProfile_iff htarget⟩

/-! ## The two targets -/

/-- The first two syscalls of AArch64. -/
def ioSetupDestroy : Host where
  arch := "aarch64"
  getNameByArch
    | .x8664, _ => none
    | .aarch64, number =>
      if number = 0 then some "io_setup" else if number = 1 then some "io_destroy" else none

theorem x86_profile_valid : ∃ profile,
    generateSeccompProfile ((bothListed "db").over (recordedRows (fun _ => readWrite)
        [shopWeb, dataPod "db"] (readAndWrite "db"))) .allPodsInAllNamespaces (fun _ => none)
        (seccompFile "web") = some profile
      ∧ ValidFor "x86_64" profile := by
  have hrow : ⟨"web", "", "read", "x86_64", 1⟩ ∈ recordedRows (fun _ => readWrite)
      [shopWeb, dataPod "db"] (readAndWrite "db") := by decide +kernel
  have hanswer : ((bothListed "db").over (recordedRows (fun _ => readWrite)
      [shopWeb, dataPod "db"] (readAndWrite "db"))).world.getPodSysCall shopWeb.kubePod.name
        = .ok ⟨["read"], "x86_64"⟩ := rfl
  obtain ⟨profile, hprofile, hvalid⟩ := profile_valid_iff (fun _ => .inl rfl) hrow
    (show shopWeb.kubePod ∈ (bothListed "db").getResource .allPodsInAllNamespaces by decide) rfl
    hanswer rfl (fun _ _ _ => rfl) fun _ => none
  exact ⟨profile, hprofile, hvalid.mpr rfl⟩

/-- The profile of a pod on an AArch64 node has no architecture. -/
theorem arm_profile_invalid :
    ⟨"web", "", "io_setup", "aarch64", 1⟩ ∈ recordedRows (fun _ => ioSetupDestroy)
        [shopWeb, dataPod "db"] (readAndWrite "db")
      ∧ (generateSeccompProfile ((bothListed "db").over (recordedRows (fun _ => ioSetupDestroy)
          [shopWeb, dataPod "db"] (readAndWrite "db"))) .allPodsInAllNamespaces (fun _ => none)
          (seccompFile "web")).map validateProfile
        = some (.error "at least one architecture must be specified") := by
  constructor
  · decide +kernel
  · decide +kernel

end KubeGuardian.System
