import KubeGuardian.Advisor.Command
import KubeGuardian.Broker.SyscallRows
import KubeGuardian.Lib.Delimited
import KubeGuardian.Lib.Files

/-!
# Seccomp profiles

`GetPodSysCall` of `advisor/pkg/api/pod_syscall.go` and `GenerateSeccompProfile` of
`advisor/pkg/k8s/seccomp.go`. Marshalling a profile, which holds strings only, does not fail, so a
file is taken to hold the profile that its text encodes. What becomes of a file is up to the pods
of its name (`rounds_written`, `exists_answer_of_rounds`).
-/

namespace KubeGuardian.Advisor

open Lib

structure PodSysCall where
  syscalls : List String
  arch : String

/-- `GetPodSysCall`. -/
def World.getPodSysCall (w : World) (podName : String) : Except ApiError PodSysCall :=
  match w.httpGet ("/pod/syscalls/" ++ podName) (Broker.getPodSyscallName w.db w.orders podName)
    with
  | .error err => .error err
  | .ok (.ok podSysCallsResponse) =>
    match podSysCallsResponse with
    | [] => .error "GetPodSysCall: No pod syscall found in database"
    | response :: _ => .ok ⟨fields ',' response.syscalls, response.arch⟩
  | .ok resp => .error s!"GetPodSysCall: received non-OK HTTP status code: {resp.statusCode}"

/-- What a name is answered with, where the table is made of reports: the list of its one row. -/
theorem World.getPodSysCall_eq {w : World} {l : List Broker.PodSyscalls} {podName : String}
    (hdb : w.db.podSyscalls = upserts Broker.PodSyscalls.podName Broker.PodSyscalls.changeset l)
    (hfault : w.fault ("/pod/syscalls/" ++ podName) = none) (hne : podName ≠ "") :
    w.getPodSysCall podName
      = match mergeAll Broker.PodSyscalls.changeset
          (reportsOf Broker.PodSyscalls.podName podName l) with
        | none => .error "GetPodSysCall: No pod syscall found in database"
        | some row => .ok ⟨fields ',' row.syscalls, row.arch⟩ := by
  simp only [World.getPodSysCall, World.httpGet, hfault, Broker.getPodSyscallName, hdb,
    Broker.podSyscallsByName_upserts, Broker.answer, if_neg hne]
  cases mergeAll Broker.PodSyscalls.changeset
    (reportsOf Broker.PodSyscalls.podName podName l) <;> rfl

/-- An answer is some row's of that name. -/
theorem World.exists_row_of_getPodSysCall {w : World} {podName : String}
    {podSysCalls : PodSysCall} (h : w.getPodSysCall podName = .ok podSysCalls) :
    ∃ row ∈ w.db.podSyscalls, row.podName = podName
      ∧ podSysCalls = ⟨fields ',' row.syscalls, row.arch⟩ := by
  unfold World.getPodSysCall at h
  split at h
  · cases h
  · next rows hget =>
    obtain ⟨_, hrows⟩ := World.answer_eq_ok (World.httpGet_eq_ok hget)
    split at h
    · cases h
    · next row _ =>
      have hmem : row ∈ w.orders.podSyscalls.apply
          (w.db.podSyscalls.filter (·.podName = podName)) := by
        rw [Option.some.inj hrows]
        simp
      rw [Reordering.mem_apply, List.mem_filter] at hmem
      exact ⟨row, hmem.1, of_decide_eq_true hmem.2, (Except.ok.inj h).symm⟩
  · cases h

/-- A run that nothing disturbs, over these rows. -/
def World.undisturbed (podSyscalls : List Broker.PodSyscalls) : World where
  db := ⟨[], [], [], podSyscalls⟩
  orders := .stored
  fault _ := none
  decodePod _ := .ok ⟨∅⟩
  decodeService _ := .ok ⟨∅, []⟩
  order _ := .stored
  marshal _ := .ok ""

/-! ## Profiles -/

structure Rule where
  names : List String
  action : String

structure SeccompProfile where
  defaultAction : String
  architectures : List String
  syscalls : List Rule

/-- The map `Architectures`; a key that is missing yields no architecture. -/
def seccompArchitectures (arch : String) : List String :=
  if arch = "x86_64" then ["SCMP_ARCH_X86_64"]
  else if arch = "ARM64" then ["SCMP_ARCH_ARM64"]
  else []

/-- The profile for a pod: everything is refused but what was recorded. -/
def seccompProfile (podSysCalls : PodSysCall) : SeccompProfile where
  defaultAction := "SCMP_ACT_ERRNO"
  architectures := seccompArchitectures podSysCalls.arch
  syscalls := [⟨podSysCalls.syscalls, "SCMP_ACT_ALLOW"⟩]

/-- `ValidateProfile`, which nothing calls. -/
def validateProfile (profile : SeccompProfile) : Except String Unit :=
  if profile.defaultAction = "" then .error "default action is required"
  else if profile.architectures.length = 0 then
    .error "at least one architecture must be specified"
  else if profile.syscalls.length = 0 then .error "at least one syscall rule must be specified"
  else .ok ()

/-- The default action and the one rule are always there. -/
theorem validateProfile_seccompProfile_iff {podSysCalls : PodSysCall} :
    validateProfile (seccompProfile podSysCalls) = .ok ()
      ↔ seccompArchitectures podSysCalls.arch ≠ [] := by
  simp [validateProfile, seccompProfile]

/-- The syscalls that a profile lets through. -/
def SeccompProfile.allowList (profile : SeccompProfile) : List String :=
  (profile.syscalls.filter (·.action = "SCMP_ACT_ALLOW")).flatMap (·.names)

@[simp] theorem allowList_seccompProfile (podSysCalls : PodSysCall) :
    (seccompProfile podSysCalls).allowList = podSysCalls.syscalls := by
  simp [SeccompProfile.allowList, seccompProfile]

/-- The file of a pod's profile. The name of the pod is all that tells files apart. -/
def seccompFile (podName : String) : String := "seccomp-profiles/" ++ podName ++ "-seccomp.json"

theorem seccompFile_inj {a b : String} (h : seccompFile a = seccompFile b) : a = b := by
  unfold seccompFile at h
  rw [String.append_left_inj, String.append_right_inj] at h
  exact h

/-! ## A run -/

inductive GenerateOptions where
  | singlePod (podName ns : String)
  | allPodsInNamespace (ns : String)
  | allPodsInAllNamespaces

/-- What a run of `gen seccomp` depends on: the Kubernetes API, the broker, and the file system. -/
structure SeccompEnv where
  kube : Kube
  getPod : String → String → Except String KubePod
  world : World
  mkdirAll : Except String Unit
  write : KubePod → WriteOutcome SeccompProfile

/-- The same environment, over these rows. -/
def SeccompEnv.over (env : SeccompEnv) (podSyscalls : List Broker.PodSyscalls) : SeccompEnv :=
  { env with world := { env.world with db := { env.world.db with podSyscalls } } }

/-- `GetResource`: pods that cannot be fetched are no pods. -/
def SeccompEnv.getResource (env : SeccompEnv) : GenerateOptions → List KubePod
  | .singlePod podName ns =>
    match env.getPod ns podName with
    | .error _ => []
    | .ok pod => [pod]
  | .allPodsInNamespace ns =>
    match env.kube.getPodsInNamespace ns with
    | .error _ => []
    | .ok pods => pods
  | .allPodsInAllNamespaces =>
    match env.kube.getAllPodsInAllNamespaces with
    | .error _ => []
    | .ok pods => pods

/-- One round of the loop; an error is logged and the loop goes on. -/
def SeccompEnv.round (env : SeccompEnv) (files : Files SeccompProfile) (pod : KubePod) :
    Files SeccompProfile :=
  match env.world.getPodSysCall pod.name with
  | .error _ => files
  | .ok podSysCalls =>
    -- neither the lookup nor the file name has the namespace
    (files.writeFile (seccompFile pod.name) (seccompProfile podSysCalls) (env.write pod)).1

/-- `GenerateSeccompProfile`; without the output directory it ends the process. -/
def generateSeccompProfile (env : SeccompEnv) (options : GenerateOptions)
    (files : Files SeccompProfile) : Files SeccompProfile :=
  let pods := env.getResource options
  match env.mkdirAll with
  | .error _ => files
  | .ok () => run env.round files pods

/-! ## What becomes of one file -/

variable {env : SeccompEnv}

theorem round_other {files : Files SeccompProfile} {pod : KubePod} {path : String}
    (h : path ≠ seccompFile pod.name) : env.round files pod path = files path := by
  unfold SeccompEnv.round
  cases env.world.getPodSysCall pod.name with
  | error err => rfl
  | ok podSysCalls => exact files.writeFile_other _ _ h

/-- A round without an answer leaves every file. -/
theorem round_of_error {files : Files SeccompProfile} {pod : KubePod} {err : ApiError}
    (h : env.world.getPodSysCall pod.name = .error err) : env.round files pod = files := by
  simp [SeccompEnv.round, h]

/-- **A pod that is answered gets its profile**, if the writes for its name succeed. -/
theorem rounds_written {pods : List KubePod} {pod : KubePod} (hpod : pod ∈ pods)
    {podSysCalls : PodSysCall} (hanswer : env.world.getPodSysCall pod.name = .ok podSysCalls)
    (hwrite : ∀ p ∈ pods, p.name = pod.name → env.write p = .written)
    (files : Files SeccompProfile) :
    run env.round files pods (seccompFile pod.name) = some (seccompProfile podSysCalls) := by
  induction pods using List.reverseRecOn with
  | nil => exact absurd hpod List.not_mem_nil
  | append_singleton pods last ih =>
    rw [run_snoc]
    by_cases hname : last.name = pod.name
    · -- pods of one name are answered alike
      have hlast : env.write last = .written := hwrite last (by simp) hname
      simp [SeccompEnv.round, hname, hanswer, hlast]
    · have hne : pod ≠ last := fun h => hname (congrArg KubePod.name h.symm)
      have hmem : pod ∈ pods := by simpa [hne] using hpod
      rw [round_other fun h => hname (seccompFile_inj h).symm]
      exact ih hmem fun p hp => hwrite p (List.mem_append_left _ hp)

/-- **A pod whose name is its own gets its own profile.** -/
theorem rounds_self {pods : List KubePod} (hnames : (pods.map (·.name)).Nodup) {pod : KubePod}
    (hpod : pod ∈ pods) {podSysCalls : PodSysCall}
    (hanswer : env.world.getPodSysCall pod.name = .ok podSysCalls)
    (hwrite : env.write pod = .written) (files : Files SeccompProfile) :
    run env.round files pods (seccompFile pod.name) = some (seccompProfile podSysCalls) := by
  apply rounds_written hpod hanswer
  intro p hp hname
  obtain rfl := List.inj_on_of_nodup_map hnames hp hpod hname
  exact hwrite

/-- A path that a run fills from an empty directory is that of a pod that was answered. -/
theorem exists_answer_of_rounds {pods : List KubePod} {path : String}
    (h : run env.round (fun _ => none) pods path ≠ none) :
    ∃ pod ∈ pods, path = seccompFile pod.name ∧
      ∃ podSysCalls, env.world.getPodSysCall pod.name = .ok podSysCalls := by
  induction pods using List.reverseRecOn with
  | nil => exact absurd rfl h
  | append_singleton pods pod ih =>
    rw [run_snoc] at h
    cases hanswer : env.world.getPodSysCall pod.name with
    | error err =>
      rw [round_of_error hanswer] at h
      obtain ⟨p, hp, hpath⟩ := ih h
      exact ⟨p, List.mem_append_left _ hp, hpath⟩
    | ok podSysCalls =>
      by_cases hpath : path = seccompFile pod.name
      · exact ⟨pod, by simp, hpath, podSysCalls, hanswer⟩
      · rw [round_other hpath] at h
        obtain ⟨p, hp, hpath⟩ := ih h
        exact ⟨p, List.mem_append_left _ hp, hpath⟩

end KubeGuardian.Advisor
