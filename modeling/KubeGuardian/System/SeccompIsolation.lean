import KubeGuardian.System.RecordedSyscalls

/-!
# Whose syscalls a seccomp profile lets through

A pod goes by its bare name in the caches, the table, the request for its syscalls and the name of
its profile's file, and two pods of different namespaces may share a name.

* **`isolated_of_apart`** — pods whose names are their own get profiles of their own, which no
  syscall of a pod in another namespace changes; and only they do.
-/

namespace KubeGuardian.System

open Advisor Controller Lib

variable {ν : Type}

/-! ## The property and the condition

A pod's profile should hold what that pod has made, whatever other pods do. The table goes by bare
names, so the condition is about pods of one name.
-/

def RunningPod.ns (pod : RunningPod ν) : String := pod.podInspect.status.podNamespace.getD ""

def RunningPod.kubePod (pod : RunningPod ν) : KubePod := ⟨pod.name, pod.ns⟩

/-- The second run is the first without some of the syscalls of pods in other namespaces. -/
inductive SilencesOthers (pods : List (RunningPod ν)) (pod : RunningPod ν) :
    List (ClusterInput ν) → List (ClusterInput ν) → Prop where
  | nil : SilencesOthers pods pod [] []
  | kept (i : ClusterInput ν) {is is' : List (ClusterInput ν)} :
      SilencesOthers pods pod is is' → SilencesOthers pods pod (i :: is) (i :: is')
  | silenced {other : RunningPod ν} (id : Int64) {is is' : List (ClusterInput ν)} :
      other ∈ pods → other.ns ≠ pod.ns → SilencesOthers pods pod is is' →
      SilencesOthers pods pod (.syscall other id :: is) is'

variable [DecidableEq ν] (host : ν → Host) (pods : List (RunningPod ν)) (env : SeccompEnv)
  (inputs : List (ClusterInput ν))

/-- The rows that the inputs leave. -/
def recordedRows : List Broker.PodSyscalls :=
  (run (Cluster.step host) (Cluster.start pods) inputs).podSyscalls

/-- The files after `gen seccomp --all-namespaces`, once the inputs have happened. -/
def profiles (files : Files SeccompProfile) : Files SeccompProfile :=
  generateSeccompProfile (env.over (recordedRows host pods inputs)) .allPodsInAllNamespaces files

/-- **Pods are kept apart**: each has a file of its own, with syscalls that it made itself, and
nothing that the others do changes it. -/
structure Isolated : Prop where
  own_file : (pods.map fun pod => seccompFile pod.name).Nodup
  own_syscalls : ∀ files, ∀ pod ∈ pods, ∃ profile,
    profiles host pods env inputs files (seccompFile pod.name) = some profile ∧
      ∀ name ∈ profile.allowList, MadeBy host inputs pod name
  unmoved : ∀ files, ∀ pod ∈ pods, ∀ inputs', SilencesOthers pods pod inputs inputs' →
    profiles host pods env inputs' files (seccompFile pod.name)
      = profiles host pods env inputs files (seccompFile pod.name)

/-- The pods' names and network namespaces are their own, no syscall ends a controller, a report of
every pod has reached the broker, and nothing goes wrong when the profiles are generated. -/
structure Apart : Prop where
  names : NamesApart pods
  monitored : Monitored pods
  low : ∀ pod id, .syscall pod id ∈ inputs → (sysnbrOf id).toNat < 2 ^ 31
  reported : ∀ pod ∈ pods, ∃ row ∈ recordedRows host pods inputs, row.podName = pod.name
  served : ∀ pod ∈ pods, env.world.fault ("/pod/syscalls/" ++ pod.name) = none
  mkdirAll : env.mkdirAll = .ok ()
  written : ∀ pod ∈ pods, env.write pod.kubePod = .written

/-! ## Two recorders, as one pod's name sees them

A frame condition for runs: what other names do leaves the sets, the marks and the batch of a name
alone.
-/

/-- The recorders agree on what they hold under the name. -/
structure AgreeOn (podName : String) (s s' : Recorder) : Prop where
  alive : s.panicked = false
  alive' : s'.panicked = false
  containerMap : s.containerMap = s'.containerMap
  cache : s.syscallCache.lookup podName = s'.syscallCache.lookup podName
  sent : s.lastSentCache.get podName = s'.lastSentCache.get podName
  batch : s.batch.filter (·.podName = podName) = s'.batch.filter (·.podName = podName)

namespace AgreeOn

variable {podName : String} {s s' : Recorder}

theorem refl (halive : s.panicked = false) : AgreeOn podName s s :=
  ⟨halive, halive, rfl, rfl, rfl, rfl⟩

/-- A name recorded for another pod is out of sight. -/
theorem record_other (h : AgreeOn podName s s') {other : String} (hother : other ≠ podName)
    (name : String) : AgreeOn podName (s.record other name) s' :=
  { h with cache := by simpa [Recorder.record, hother.symm] using h.cache }

/-- The same name goes into the same pod's set. -/
theorem record (h : AgreeOn podName s s') (recorded name : String) :
    AgreeOn podName (s.record recorded name) (s'.record recorded name) :=
  { h with
    cache := by
      by_cases heq : podName = recorded
      · subst heq
        have hget : s.syscallCache.get podName = s'.syscallCache.get podName :=
          congrArg (·.getD ∅) h.cache
        simp [Recorder.record, hget]
      · simpa [Recorder.record, heq] using h.cache }

/-- The same set is dropped. -/
theorem evictSyscalls (h : AgreeOn podName s s') (dropped : String) :
    AgreeOn podName { s with syscallCache := s.syscallCache.erase dropped }
      { s' with syscallCache := s'.syscallCache.erase dropped } :=
  { h with
    cache := by
      by_cases heq : podName = dropped
      · subst heq
        simp
      · simpa [heq] using h.cache }

/-- The same mark is dropped. -/
theorem evictLastSent (h : AgreeOn podName s s') (dropped : String) :
    AgreeOn podName { s with lastSentCache := s.lastSentCache.erase dropped }
      { s' with lastSentCache := s'.lastSentCache.erase dropped } :=
  { h with
    sent := by
      by_cases heq : podName = dropped
      · subst heq
        simp
      · simpa [SyscallCache.get_erase_ne _ heq] using h.sent }

/-- Both batches are posted, whatever the answers. -/
theorem post (h : AgreeOn podName s s') (sent sent' : Sent) :
    AgreeOn podName (s.post sent) (s'.post sent') where
  alive := by simpa using h.alive
  alive' := by simpa using h.alive'
  containerMap := by simpa using h.containerMap
  cache := by simpa using h.cache
  sent := by simpa using h.sent
  batch := by simp

/-- A visit of another pod is out of sight. -/
theorem visit_other {host : Host} (h : AgreeOn podName s s') {visited : String}
    (hvisited : visited ≠ podName) (order : Reordering String) (timeStamp : Nat) :
    AgreeOn podName (s.visit host visited order timeStamp) s' := by
  rcases Recorder.visit_cases host s visited order timeStamp
    with ⟨_, hnext⟩ | ⟨_, _, _, hnext⟩ | ⟨_, _, _, hnext⟩
  · rw [hnext]; exact h
  · rw [hnext]
    exact { h with
      sent := (SyscallCache.get_insert_ne _ _ hvisited.symm).trans h.sent
      batch := by simpa [Recorder.syscallData, hvisited] using h.batch }
  · rw [hnext]
    exact { h with sent := (SyscallCache.get_insert_ne _ _ hvisited.symm).trans h.sent }

theorem symm (h : AgreeOn podName s s') : AgreeOn podName s' s :=
  ⟨h.alive', h.alive, h.containerMap.symm, h.cache.symm, h.sent.symm, h.batch.symm⟩

/-- The same pod is visited: if it is the one in question, both put the same set into the batch. -/
theorem visit {host : Host} (h : AgreeOn podName s s') (visited : String)
    (order : Reordering String) (timeStamp : Nat) :
    AgreeOn podName (s.visit host visited order timeStamp)
      (s'.visit host visited order timeStamp) := by
  by_cases hvisited : visited = podName
  · subst hvisited
    unfold Recorder.visit
    rw [← h.cache, ← h.sent]
    cases s.syscallCache.lookup visited with
    | none => exact h
    | some syscalls =>
      dsimp only
      split
      · exact { h with
          sent := by simp
          batch := by simpa using h.batch }
      · exact { h with sent := by simp }
  · exact ((h.visit_other hvisited order timeStamp).symm.visit_other hvisited order timeStamp).symm

end AgreeOn

/-! ## Two runs, as one pod sees them

One run with the other pods' syscalls and one without; what is reported of the pod is the same in
both.
-/

section TwoRuns

variable {host pods inputs} {inputs' : List (ClusterInput ν)} {podName : String}
  {reported reported' : List Broker.PodSyscalls} {c c' : Cluster ν}

omit [DecidableEq ν] in
/-- What a node is about to report of a pod is what its batch has of it. -/
theorem reportsOf_pendingRows (podName : String) (c : Cluster ν) (node : ν) :
    reportsOf Broker.PodSyscalls.podName podName (c.pendingRows node)
      = (((c.recorders node).batch.filter (·.podName = podName)).map entry).map (·.row) := by
  unfold reportsOf Cluster.pendingRows
  rw [List.filter_map, List.filter_map]
  rfl

variable (host pods) in
/-- Under the name, both clusters hold the same and the same has been reported. -/
structure SameFor (podName : String) (inputs inputs' : List (ClusterInput ν))
    (reported reported' : List Broker.PodSyscalls) (c c' : Cluster ν) : Prop where
  sound : Sound host pods inputs reported c
  sound' : Sound host pods inputs' reported' c'
  recorders : ∀ node, AgreeOn podName (c.recorders node) (c'.recorders node)
  reports : reportsOf Broker.PodSyscalls.podName podName reported
    = reportsOf Broker.PodSyscalls.podName podName reported'

/-- What both runs do, no pod can tell apart. -/
theorem SameFor.agreeOn_step (hmonitored : Monitored pods)
    (h : SameFor host pods podName inputs inputs' reported reported' c c') {i : ClusterInput ν}
    (hi : i.Among pods) (hlow : ∀ pod id, i = .syscall pod id → (sysnbrOf id).toNat < 2 ^ 31) :
    AgreeOn podName ((c.step host i).recorders i.node) ((c'.step host i).recorders i.node) := by
  have hnode := h.recorders i.node
  cases i with
  | syscall pod id =>
    obtain ⟨name, hname, hrecord⟩ :=
      h.sound.recorders_syscall hmonitored hnode.alive hi (hlow pod id rfl)
    obtain ⟨name', hname', hrecord'⟩ :=
      h.sound'.recorders_syscall hmonitored hnode.alive' hi (hlow pod id rfl)
    -- both runs name the syscall alike, as the host is the same
    obtain rfl := Option.some.inj (hname.symm.trans hname')
    simp only [ClusterInput.node, hrecord, hrecord']
    exact hnode.record pod.name name
  | visit node visited order timeStamp =>
    rw [recorders_step_alive _ hnode.alive, recorders_step_alive _ hnode.alive']
    exact hnode.visit visited order timeStamp
  | post node order =>
    rw [recorders_step_alive _ hnode.alive, recorders_step_alive _ hnode.alive']
    exact hnode.post _ _
  | lost node err =>
    rw [recorders_step_alive _ hnode.alive, recorders_step_alive _ hnode.alive']
    exact hnode.post _ _
  | evictSyscalls node dropped =>
    rw [recorders_step_alive _ hnode.alive, recorders_step_alive _ hnode.alive']
    exact hnode.evictSyscalls dropped
  | evictLastSent node dropped =>
    rw [recorders_step_alive _ hnode.alive, recorders_step_alive _ hnode.alive']
    exact hnode.evictLastSent dropped

/-- What arrives of the pod is the same in both runs. -/
theorem SameFor.reports_arriving
    (h : SameFor host pods podName inputs inputs' reported reported' c c') (i : ClusterInput ν) :
    reportsOf Broker.PodSyscalls.podName podName (c.arriving i)
      = reportsOf Broker.PodSyscalls.podName podName (c'.arriving i) := by
  cases i with
  | post node order =>
    have hnode := h.recorders node
    simp only [Cluster.arriving, hnode.alive, hnode.alive', Bool.false_eq_true, if_false]
    rw [reportsOf_pendingRows, reportsOf_pendingRows, hnode.batch]
  | _ => rfl

/-- **One step of both runs.** -/
theorem SameFor.step (hmonitored : Monitored pods) (hnames : NamesApart pods)
    (h : SameFor host pods podName inputs inputs' reported reported' c c') {i : ClusterInput ν}
    (hi : i.Among pods) (hlow : ∀ pod id, i = .syscall pod id → (sysnbrOf id).toNat < 2 ^ 31) :
    SameFor host pods podName (inputs ++ [i]) (inputs' ++ [i]) (reported ++ c.arriving i)
      (reported' ++ c'.arriving i) (c.step host i) (c'.step host i) where
  sound := h.sound.step hmonitored hnames hi
  sound' := h.sound'.step hmonitored hnames hi
  recorders node := by
    by_cases hnode : node = i.node
    · subst hnode
      exact h.agreeOn_step hmonitored hi hlow
    · rw [recorders_step_other hnode, recorders_step_other hnode]
      exact h.recorders node
  reports := by
    have hreports := h.reports
    have harriving := h.reports_arriving i
    unfold reportsOf at hreports harriving ⊢
    rw [List.filter_append, List.filter_append, hreports, harriving]

/-- A syscall of a pod of another name is out of sight. -/
theorem SameFor.silenced (hmonitored : Monitored pods) (hnames : NamesApart pods)
    (h : SameFor host pods podName inputs inputs' reported reported' c c')
    {other : RunningPod ν} (hother : other ∈ pods) (hname : other.name ≠ podName) {id : Int64}
    (hlow : (sysnbrOf id).toNat < 2 ^ 31) :
    SameFor host pods podName (inputs ++ [.syscall other id]) inputs' reported reported'
      (c.step host (.syscall other id)) c' where
  sound := by
    simpa [Cluster.arriving] using
      h.sound.step hmonitored hnames (i := .syscall other id) hother
  sound' := h.sound'
  recorders node := by
    -- only the recorder of the other pod's node hears it, under the other pod's name
    by_cases hnode : node = other.node
    · subst hnode
      obtain ⟨name, _, hrecord⟩ := h.sound.recorders_syscall hmonitored
        (h.recorders other.node).alive hother hlow
      rw [hrecord]
      exact (h.recorders other.node).record_other hname name
    · rw [recorders_step_other (i := .syscall other id) hnode]
      exact h.recorders node
  reports := h.reports

/-- **Silence elsewhere goes unnoticed.** Induction on the inputs that are left out. -/
theorem SameFor.run (hmonitored : Monitored pods) (hnames : NamesApart pods)
    {pod : RunningPod ν} (hpod : pod ∈ pods) {is is' : List (ClusterInput ν)}
    (hsilences : SilencesOthers pods pod is is') (his : ∀ i ∈ is, i.Among pods)
    (hlow : ∀ pod id, .syscall pod id ∈ is → (sysnbrOf id).toNat < 2 ^ 31)
    (h : SameFor host pods pod.name inputs inputs' reported reported' c c') :
    ∃ reported₁ reported₁', SameFor host pods pod.name (inputs ++ is) (inputs' ++ is') reported₁
      reported₁' (run (Cluster.step host) c is) (run (Cluster.step host) c' is') := by
  induction hsilences generalizing inputs inputs' reported reported' c c' with
  | nil => exact ⟨reported, reported', by simpa using h⟩
  -- both runs take the step
  | kept i _ ih =>
    have hnext := h.step hmonitored hnames (his i (by simp))
      fun pod id heq => hlow pod id (by simp [heq])
    obtain ⟨reported₁, reported₁', hrun⟩ := ih (fun j hj => his j (by simp [hj]))
      (fun pod id hmem => hlow pod id (by simp [hmem])) hnext
    exact ⟨reported₁, reported₁', by simpa using hrun⟩
  -- only the louder run does
  | @silenced other id _ _ hother hns _ ih =>
    -- the silenced pod has another name, as names are apart
    have hname : other.name ≠ pod.name := by
      intro heq
      obtain rfl := List.inj_on_of_nodup_map hnames hother hpod heq
      exact hns rfl
    have hnext := h.silenced hmonitored hnames hother hname (hlow other id (by simp))
    obtain ⟨reported₁, reported₁', hrun⟩ := ih (fun j hj => his j (by simp [hj]))
      (fun pod id hmem => hlow pod id (by simp [hmem])) hnext
    exact ⟨reported₁, reported₁', by simpa using hrun⟩

end TwoRuns

/-! ## The profiles

What the advisor makes of the reports.
-/

section Profiles

variable {host pods env inputs} {reported : List Broker.PodSyscalls} {pod : RunningPod ν}

omit [DecidableEq ν] in
/-- A pod with a row is answered with its list. -/
theorem getPodSysCall_over {rows : List Broker.PodSyscalls}
    (hrows : rows = upserts Broker.PodSyscalls.podName Broker.PodSyscalls.changeset reported)
    (hserved : env.world.fault ("/pod/syscalls/" ++ pod.name) = none) (hne : pod.name ≠ "")
    {row : Broker.PodSyscalls} (hrow : mergeAll Broker.PodSyscalls.changeset
      (reportsOf Broker.PodSyscalls.podName pod.name reported) = some row) :
    (env.over rows).world.getPodSysCall pod.name = .ok ⟨fields ',' row.syscalls, row.arch⟩ := by
  rw [World.getPodSysCall_eq (w := (env.over rows).world) hrows hserved hne, hrow]

variable {kubePods : List KubePod}

/-- A pod whose name is its own gets the profile of its own answer. -/
theorem profiles_of_answer (hkube : env.kube.getAllPodsInAllNamespaces = .ok kubePods)
    (hpods : kubePods.Perm (pods.map (·.kubePod))) (hapart : Apart host pods env inputs)
    (hpod : pod ∈ pods) {inputs' : List (ClusterInput ν)} {podSysCalls : PodSysCall}
    (hanswer : (env.over (recordedRows host pods inputs')).world.getPodSysCall pod.name
      = .ok podSysCalls) (files : Files SeccompProfile) :
    profiles host pods env inputs' files (seccompFile pod.name)
      = some (seccompProfile podSysCalls) := by
  have hnames : (kubePods.map (·.name)).Nodup := by
    rw [(hpods.map (·.name)).nodup_iff, List.map_map]
    exact hapart.names
  have hmem : pod.kubePod ∈ kubePods := hpods.mem_iff.mpr (List.mem_map_of_mem hpod)
  have hresource : (env.over (recordedRows host pods inputs')).getResource
      .allPodsInAllNamespaces = kubePods := by
    simp [SeccompEnv.getResource, SeccompEnv.over, hkube]
  have hmkdir : (env.over (recordedRows host pods inputs')).mkdirAll = .ok () := hapart.mkdirAll
  unfold profiles generateSeccompProfile
  rw [hresource, hmkdir]
  exact rounds_self hnames hmem hanswer (hapart.written pod hpod) files

/-- A pod whose syscalls were reported has a row. -/
theorem Apart.exists_answer (hapart : Apart host pods env inputs)
    (hsound : Sound host pods inputs reported
      (run (Cluster.step host) (Cluster.start pods) inputs)) (hpod : pod ∈ pods) :
    ∃ row, mergeAll Broker.PodSyscalls.changeset
      (reportsOf Broker.PodSyscalls.podName pod.name reported) = some row := by
  obtain ⟨row, hrow, hname⟩ := hapart.reported pod hpod
  rw [recordedRows, hsound.podSyscalls,
    mem_upserts_iff Broker.PodSyscalls.podName_changeset, hname] at hrow
  exact ⟨row, hrow⟩

/-- The list of a pod's row is one of names that the pod made. -/
theorem madeBy_of_mem_fields (hnames : NamesApart pods)
    (hlibseccomp : ∀ node arch number name, (host node).getNameByArch arch number = some name →
      ',' ∉ name.toList)
    (hsound : Sound host pods inputs reported
      (run (Cluster.step host) (Cluster.start pods) inputs)) (hpod : pod ∈ pods)
    {row : Broker.PodSyscalls} (hrow : mergeAll Broker.PodSyscalls.changeset
      (reportsOf Broker.PodSyscalls.podName pod.name reported) = some row) {name : String}
    (hname : name ∈ fields ',' row.syscalls) : MadeBy host inputs pod name := by
  -- a row comes of some report, and the last one is the row's list
  have hne : reportsOf Broker.PodSyscalls.podName pod.name reported ≠ [] := by
    intro hnil
    simp [(mergeAll_eq_none_iff Broker.PodSyscalls.changeset _).mpr hnil] at hrow
  obtain ⟨last, hlast⟩ := Option.isSome_iff_exists.mp (List.getLast?_isSome.mpr hne)
  obtain ⟨hmem, hlastName⟩ := List.mem_filter.mp (List.mem_of_getLast? hlast)
  obtain ⟨pod', hpod', hkey, names, hnonempty, _, hlist, hmade⟩ := hsound.origin last hmem
  -- the report's pod is this one, as names are apart
  have hpodName : pod'.name = pod.name :=
    (congrArg Prod.fst hkey).symm.trans (of_decide_eq_true hlastName)
  obtain rfl := List.inj_on_of_nodup_map hnames hpod' hpod hpodName
  -- libseccomp's names hold no comma, so the split undoes the join
  have hcomma : ∀ name ∈ names, ',' ∉ name.toList := by
    intro name hname
    obtain ⟨_, _, hsyscallName⟩ := hmade name hname
    exact comma_notMem_of_syscallName (hlibseccomp pod'.node) hsyscallName
  rw [Broker.syscalls_mergeAll hrow hlast, hlist, fields_intercalate rfl hcomma hnonempty] at hname
  exact hmade name hname

/-- What a pod's profile allows, the pod has made. -/
theorem Apart.own_syscalls (hapart : Apart host pods env inputs)
    (hkube : env.kube.getAllPodsInAllNamespaces = .ok kubePods)
    (hpods : kubePods.Perm (pods.map (·.kubePod))) (hamong : ∀ i ∈ inputs, i.Among pods)
    (hlibseccomp : ∀ node arch number name, (host node).getNameByArch arch number = some name →
      ',' ∉ name.toList) (hpod : pod ∈ pods) (hne : pod.name ≠ "")
    (files : Files SeccompProfile) : ∃ profile,
    profiles host pods env inputs files (seccompFile pod.name) = some profile ∧
      ∀ name ∈ profile.allowList, MadeBy host inputs pod name := by
  obtain ⟨reported, hsound⟩ := sound_run hapart.monitored hapart.names inputs hamong
  obtain ⟨row, hrow⟩ := hapart.exists_answer hsound hpod
  have hanswer := getPodSysCall_over hsound.podSyscalls (hapart.served pod hpod) hne hrow
  refine ⟨_, profiles_of_answer hkube hpods hapart hpod hanswer files, fun name hname => ?_⟩
  rw [allowList_seccompProfile] at hname
  exact madeBy_of_mem_fields hapart.names hlibseccomp hsound hpod hrow hname

/-- A pod's profile is the same without the other pods' syscalls: both runs answer with one row. -/
theorem Apart.unmoved (hapart : Apart host pods env inputs)
    (hkube : env.kube.getAllPodsInAllNamespaces = .ok kubePods)
    (hpods : kubePods.Perm (pods.map (·.kubePod))) (hamong : ∀ i ∈ inputs, i.Among pods)
    (hpod : pod ∈ pods) (hne : pod.name ≠ "") {inputs' : List (ClusterInput ν)}
    (hsilences : SilencesOthers pods pod inputs inputs') (files : Files SeccompProfile) :
    profiles host pods env inputs' files (seccompFile pod.name)
      = profiles host pods env inputs files (seccompFile pod.name) := by
  have hstart : SameFor host pods pod.name [] [] [] [] (Cluster.start pods)
      (Cluster.start pods) := ⟨sound_start, sound_start, fun _ => .refl rfl, rfl⟩
  obtain ⟨reported, reported', hsame⟩ := hstart.run hapart.monitored hapart.names hpod
    hsilences hamong hapart.low
  obtain ⟨row, hrow⟩ := hapart.exists_answer hsame.sound hpod
  have hrow' := hrow
  rw [hsame.reports] at hrow'
  have hserved := hapart.served pod hpod
  have hanswer := getPodSysCall_over hsame.sound.podSyscalls hserved hne hrow
  have hanswer' := getPodSysCall_over hsame.sound'.podSyscalls hserved hne hrow'
  rw [profiles_of_answer hkube hpods hapart hpod hanswer files,
    profiles_of_answer hkube hpods hapart hpod hanswer' files]

/-- A profile comes of a row under the pod's name. -/
theorem exists_row_of_profiles {profile : SeccompProfile} (hprofile : profiles host pods env inputs
    (fun _ => none) (seccompFile pod.name) = some profile) :
    ∃ row ∈ recordedRows host pods inputs, row.podName = pod.name := by
  unfold profiles generateSeccompProfile at hprofile
  cases hmkdir : (env.over (recordedRows host pods inputs)).mkdirAll with
  | error err => simp [hmkdir] at hprofile
  | ok _ =>
    simp only [hmkdir] at hprofile
    have hfilled : run (env.over (recordedRows host pods inputs)).round (fun _ => none)
        ((env.over (recordedRows host pods inputs)).getResource .allPodsInAllNamespaces)
        (seccompFile pod.name) ≠ none := by
      rw [hprofile]; simp
    obtain ⟨kubePod, _, hpath, podSysCalls, hanswer⟩ := exists_answer_of_rounds hfilled
    rw [seccompFile_inj hpath]
    obtain ⟨row, hrow, hname, -⟩ := World.exists_row_of_getPodSysCall hanswer
    exact ⟨row, hrow, hname⟩

/-- **Profiles are isolated where names are the pods' own**, and only there. -/
theorem isolated_of_apart (hkube : env.kube.getAllPodsInAllNamespaces = .ok kubePods)
    (hpods : kubePods.Perm (pods.map (·.kubePod))) (hne : ∀ pod ∈ pods, pod.name ≠ "")
    (hamong : ∀ i ∈ inputs, i.Among pods)
    (hlibseccomp : ∀ node arch number name, (host node).getNameByArch arch number = some name →
      ',' ∉ name.toList) :
    (Apart host pods env inputs → Isolated host pods env inputs)
      ∧ (Isolated host pods env inputs → NamesApart pods
        ∧ ∀ pod ∈ pods, ∃ row ∈ recordedRows host pods inputs, row.podName = pod.name) := by
  constructor
  · intro hapart
    refine ⟨?_, fun files pod hpod => ?_, fun files pod hpod inputs' hsilences => ?_⟩
    · -- two pods of different names get different files
      have hfiles : ((pods.map (·.name)).map seccompFile).Nodup :=
        hapart.names.map fun _ _ => seccompFile_inj
      rwa [List.map_map] at hfiles
    · exact hapart.own_syscalls hkube hpods hamong hlibseccomp hpod (hne pod hpod) files
    · exact hapart.unmoved hkube hpods hamong hpod (hne pod hpod) hsilences files
  · intro hisolated
    -- different files come of different names; a profile comes of a row
    refine ⟨List.Nodup.of_map seccompFile ?_, fun pod hpod => ?_⟩
    · rw [List.map_map]
      exact hisolated.own_file
    · obtain ⟨profile, hprofile, _⟩ := hisolated.own_syscalls (fun _ => none) pod hpod
      exact exists_row_of_profiles hprofile

end Profiles

/-! ## Two pods on one node -/

def shopWeb : RunningPod Unit := ⟨(), 1, ⟨⟨"web", some "shop", "10.0.0.5"⟩⟩⟩

def dataPod (name : String) : RunningPod Unit := ⟨(), 2, ⟨⟨name, some "data", "10.0.0.6"⟩⟩⟩

/-- The pod in `shop` reads, the pod in `data` writes, and one tick reports both. -/
def readAndWrite (name : String) : List (ClusterInput Unit) :=
  [.syscall shopWeb 0, .syscall (dataPod name) 1, .visit () "web" .stored 1,
    .visit () name .stored 1, .post () .stored]

def bothListed (name : String) : SeccompEnv where
  kube := ⟨.error "", fun _ => .error "", .ok [shopWeb.kubePod, (dataPod name).kubePod]⟩
  getPod _ _ := .error ""
  world := .undisturbed []
  mkdirAll := .ok ()
  write _ := .written

/-- Pods of two names. -/
theorem isolated_web_db : Isolated (fun _ => readWrite) [shopWeb, dataPod "db"]
    (bothListed "db") (readAndWrite "db") := by
  have hmonitored : Monitored [shopWeb, dataPod "db"] := by
    intro pod hpod
    fin_cases hpod <;> rfl
  have hlow : ∀ pod id, ClusterInput.syscall pod id ∈ readAndWrite "db" →
      (sysnbrOf id).toNat < 2 ^ 31 := by
    intro pod id hmem
    simp only [readAndWrite, List.mem_cons, ClusterInput.syscall.injEq, reduceCtorEq,
      List.not_mem_nil, or_false] at hmem
    rcases hmem with ⟨_, rfl⟩ | ⟨_, rfl⟩ <;> decide
  have hreported : ∀ pod ∈ [shopWeb, dataPod "db"], ∃ row ∈ recordedRows (fun _ => readWrite)
      [shopWeb, dataPod "db"] (readAndWrite "db"), row.podName = pod.name := by
    decide +kernel
  have hnames : NamesApart [shopWeb, dataPod "db"] :=
    show (["web", "db"] : List String).Nodup by decide
  have hkube : (bothListed "db").kube.getAllPodsInAllNamespaces
      = .ok [shopWeb.kubePod, (dataPod "db").kubePod] := rfl
  have hamong : ∀ i ∈ readAndWrite "db", i.Among [shopWeb, dataPod "db"] := by
    intro i hi
    fin_cases hi
    · exact List.mem_cons_self
    · exact List.mem_cons_of_mem _ (List.mem_singleton_self _)
    all_goals trivial
  exact (isolated_of_apart hkube (.refl _) (by decide) hamong comma_notMem_readWrite).1
    ⟨hnames, hmonitored, hlow, hreported, fun _ _ => rfl, rfl, fun _ _ => rfl⟩

/-- Two pods of one name: both profiles are in one file, and the pod in `shop` may write. -/
theorem not_isolated_web_web : ¬ Isolated (fun _ => readWrite) [shopWeb, dataPod "web"]
    (bothListed "web") (readAndWrite "web") := by
  intro h
  obtain ⟨profile, hprofile, hown⟩ := h.own_syscalls (fun _ => none) shopWeb (by simp)
  have hallow : (profiles (fun _ => readWrite) [shopWeb, dataPod "web"] (bothListed "web")
      (readAndWrite "web") (fun _ => none) (seccompFile shopWeb.name)).map (·.allowList)
      = some ["read", "write"] := by
    decide +kernel
  rw [hprofile, Option.map_some, Option.some.injEq] at hallow
  obtain ⟨id, hmem, hname⟩ := hown "write" (by simp [hallow])
  -- the pod in `shop` made one syscall only, and that was a read
  have hid : id = 0 := by
    simp only [readAndWrite, List.mem_cons, ClusterInput.syscall.injEq, reduceCtorEq,
      List.not_mem_nil, or_false] at hmem
    rcases hmem with ⟨_, h⟩ | ⟨h, _⟩
    · exact h
    · have hinum := congrArg (·.inodeNum) h
      exact absurd hinum (by decide)
  subst hid
  exact absurd hname (by decide)

end KubeGuardian.System
