import KubeGuardian.Controller.Node

/-!
# What the controller on one node takes up and asks for

What waits there are network events, which the probes emit, and the entries of the map of
containers, which the watcher makes of the pods that it is given. A round of
`handle_network_events` brings an event and an entry together, and may end in a request.

* **`ComesFrom.step`** — one step lemma for where both come from, whatever is known of the calls and
  of the pods;
* **`mem_cache_step`** — a key enters the cache when its request was answered.
-/

namespace KubeGuardian.Controller

open Lib

section Sources

variable {τ : Type*} {cfg : NodeConfig} {s s' : Node τ}

/-- The probe of a call emits the event. -/
def NodeInput.Emits (cfg : NodeConfig) (s : Node τ) (tag : τ) (data : NetworkEventData) :
    NodeInput τ → Prop
  | .network tag' mem call => s.panicked = false ∧ s.loop ≠ .ended ∧ tag' = tag
      ∧ (fire cfg.endian s.network mem call).2 = some data
  | _ => False

/-- The watcher is given the pod, to be registered under the number. -/
def NodeInput.Registers (cfg : NodeConfig) (inum : UInt64) (podInspect : PodInspect) :
    NodeInput τ → Prop
  | .apply pod runtime => podInode cfg.toWatcherConfig runtime pod = some inum
      ∧ ∃ podIp, Watched pod podIp ∧ podInspect = ⟨createPodInfo pod podIp⟩
  | _ => False

/-- Every event that waits was emitted, and every entry, written or not, was registered. -/
structure ComesFrom (emitted : τ → NetworkEventData → Prop)
    (registered : UInt64 → PodInspect → Prop) (s : Node τ) : Prop where
  networkEvents : ∀ event ∈ s.networkEvents, emitted event.1 event.2
  entries : ∀ inum podInspect, s.handler.containerMap.lookup inum = some podInspect →
    registered inum podInspect
  watching : ∀ inum podInspect, .insertContainer inum podInspect ∈ s.watching →
    registered inum podInspect

variable {emitted emitted' : τ → NetworkEventData → Prop}
  {registered registered' : UInt64 → PodInspect → Prop}

theorem comesFrom_start : ComesFrom emitted registered (Node.start τ) where
  networkEvents event h := by cases h
  entries inum podInspect h := by cases h
  watching inum podInspect h := by cases h

/-- What has come from somewhere still has when more may have been emitted or registered. -/
theorem ComesFrom.mono (hs : ComesFrom emitted registered s)
    (hemitted : ∀ tag data, emitted tag data → emitted' tag data)
    (hregistered : ∀ inum podInspect, registered inum podInspect → registered' inum podInspect) :
    ComesFrom emitted' registered' s where
  networkEvents event h := hemitted _ _ (hs.networkEvents event h)
  entries inum podInspect h := hregistered _ _ (hs.entries inum podInspect h)
  watching inum podInspect h := hregistered _ _ (hs.watching inum podInspect h)

/-- Most inputs put nothing in. -/
theorem ComesFrom.untouched (hs : ComesFrom emitted registered s) (h : Untouched s s') :
    ComesFrom emitted registered s' where
  networkEvents event hevent := hs.networkEvents event (h.networkEvents hevent)
  entries inum podInspect hpod := hs.entries inum podInspect (h.containerMap ▸ hpod)
  watching inum podInspect hmem := hs.watching inum podInspect (h.watching ▸ hmem)

/-- Addresses have nothing to do with it. -/
theorem ComesFrom.receiveIp (hs : ComesFrom emitted registered s) :
    ComesFrom emitted registered (s.receiveIp cfg) := by
  unfold Node.receiveIp
  split
  · split
    · simp only
      split <;> exact { hs with }
    · exact hs
  · exact hs

/-- The entry that the watcher will write is that of the pod it was given. -/
theorem ComesFrom.apply (hs : ComesFrom emitted registered s) {pod : PodObject}
    {runtime : Runtime}
    (hregisters : ∀ inum podInspect,
      (NodeInput.apply pod runtime : NodeInput τ).Registers cfg inum podInspect →
        registered inum podInspect) :
    ComesFrom emitted registered (s.apply cfg pod runtime) := by
  unfold Node.apply
  split
  · exact { hs with
      watching := fun inum podInspect hmem =>
        hregisters inum podInspect (mem_watchPods_insertContainer.mp hmem) }
  · exact hs

/-- It writes the entry. -/
theorem ComesFrom.watch (hs : ComesFrom emitted registered s) :
    ComesFrom emitted registered s.watch := by
  -- what is left to do was announced with the rest
  have hrest : ∀ {effect rest}, s.watching = effect :: rest → ∀ inum podInspect,
      .insertContainer inum podInspect ∈ rest → registered inum podInspect :=
    fun hwatching inum podInspect hmem => hs.watching inum podInspect (hwatching ▸ .tail _ hmem)
  unfold Node.watch
  split
  · exact hs
  · next hwatching => exact { hs with watching := hrest hwatching }
  · next hwatching => exact { hs with watching := hrest hwatching }
  · next inum podInspect rest hwatching =>
    refine ⟨hs.networkEvents, fun inum' podInspect' hpod => ?_, hrest hwatching⟩
    by_cases hinum : inum' = inum
    · -- the entry that is written now
      subst hinum
      rw [AList.lookup_insert] at hpod
      obtain rfl := Option.some.inj hpod
      exact hs.watching inum' _ (hwatching ▸ .head _)
    · rw [AList.lookup_insert_ne hinum] at hpod
      exact hs.entries inum' podInspect' hpod
  · next hwatching => exact { hs with watching := hrest hwatching }

/-- The event that comes to wait is the one that the probe emits. -/
theorem ComesFrom.networkCall (hs : ComesFrom emitted registered s)
    (hpanicked : s.panicked = false) {tag : τ} {mem : Memory} {call : ProbeCall}
    (hemits : ∀ data, (NodeInput.network tag mem call).Emits cfg s tag data → emitted tag data) :
    ComesFrom emitted registered (s.networkCall cfg tag mem call) := by
  unfold Node.networkCall
  split
  · exact hs
  · next hrunning =>
    refine { hs with networkEvents := fun event hevent => ?_ }
    rcases List.mem_append.mp hevent with hevent | hevent
    · exact hs.networkEvents event hevent
    · obtain ⟨data, hdata, rfl⟩ := List.mem_map.mp hevent
      exact hemits data ⟨hpanicked, hrunning, rfl, Option.mem_toList.mp hdata⟩

/-- Handling an event takes it away. -/
theorem ComesFrom.handleNetworkEvent (hs : ComesFrom emitted registered s) (n : Nat)
    (stamp : Stamp) (sent : Sent) :
    ComesFrom emitted registered (s.handleNetworkEvent cfg n stamp sent) := by
  unfold Node.handleNetworkEvent
  split
  · exact hs
  · next tag data hevent =>
    have hkeep := containerMap_step_event cfg.endian s.handler data stamp sent
    have hrest : ∀ event ∈ s.networkEvents.eraseIdx n, emitted event.1 event.2 :=
      fun event h => hs.networkEvents event (List.mem_of_mem_eraseIdx h)
    simp only
    split
    · exact { hs with networkEvents := hrest }
    · exact ⟨hrest, fun inum podInspect hpod => hs.entries inum podInspect (hkeep ▸ hpod),
        hs.watching⟩

/-- **What a step brings in is what its input emits and registers.** -/
theorem ComesFrom.step (hs : ComesFrom emitted registered s) {i : NodeInput τ}
    (hemits : ∀ tag data, i.Emits cfg s tag data → emitted tag data)
    (hregisters : ∀ inum podInspect, i.Registers cfg inum podInspect →
      registered inum podInspect) :
    ComesFrom emitted registered (s.step cfg i) := by
  cases hpanicked : s.panicked with
  | true => simpa [Node.step, hpanicked] using hs
  | false =>
    rw [Node.step_of_running hpanicked]
    cases i with
    | apply pod runtime => exact hs.apply hregisters
    | watch => exact hs.watch
    | receiveIp => exact hs.receiveIp
    | network tag mem call => exact hs.networkCall hpanicked (hemits tag)
    | handleNetwork n stamp sent => exact hs.handleNetworkEvent n stamp sent
    | _ => exact hs.untouched (untouched_next trivial)

end Sources

/-! ## Requests

What a node asks of the broker in a step, which is decided before the answer is known.
-/

/-- An event, and the pod that it is handled for. -/
structure Observation (τ : Type*) where
  tag : τ
  data : NetworkEventData
  podInspect : PodInspect

namespace Observation

variable {τ : Type*}

def key (host : Endian) (o : Observation τ) : TrafficKey := keyOf host o.data o.podInspect

def Own (host : Endian) (o : Observation τ) : Prop := ownAddress host o.data o.podInspect

instance (host : Endian) (o : Observation τ) : Decidable (o.Own host) :=
  inferInstanceAs (Decidable (ownAddress ..))

def record (host : Endian) (stamp : Stamp) (o : Observation τ) : PodTraffic :=
  recordOf host stamp o.data o.podInspect

end Observation

section Requests

variable {τ : Type*} {cfg : NodeConfig} {s : Node τ} {i : NodeInput τ}

/-- The event that a round of `handle_network_events` takes up, if it finds a pod for it. -/
def Node.observes (s : Node τ) : NodeInput τ → Option (Observation τ × Stamp)
  | .handleNetwork n stamp _ =>
    if s.panicked then none
    else
      match s.networkEvents[n]? with
      | none => none
      | some (tag, data) =>
        (s.handler.containerMap.lookup data.inum).map fun podInspect =>
          (⟨tag, data, podInspect⟩, stamp)
  | _ => none

/-- The record that is posted then, if one is: the answer has no part in that. -/
def Node.request (cfg : NodeConfig) (s : Node τ) (i : NodeInput τ) : Option PodTraffic :=
  (s.observes i).bind fun observed =>
    (processNetworkEvent cfg.endian observed.2 (.error "") s.handler.cache observed.1.data
      observed.1.podInspect).2

/-- The input with an answer of the broker in the place of its own. -/
def NodeInput.withSent (sent : Sent) : NodeInput τ → NodeInput τ
  | .handleNetwork n stamp _ => .handleNetwork n stamp sent
  | i => i

/-- **An event is observed** when it is handled and its namespace has an entry. -/
theorem observes_eq_some_iff {o : Observation τ} {stamp : Stamp} :
    s.observes i = some (o, stamp)
      ↔ s.panicked = false ∧ ∃ n sent, i = .handleNetwork n stamp sent
        ∧ s.networkEvents[n]? = some (o.tag, o.data)
        ∧ s.handler.containerMap.lookup o.data.inum = some o.podInspect := by
  constructor
  · intro h
    unfold Node.observes at h
    split at h
    · next n stamp' sent =>
      obtain ⟨hpanicked, h⟩ := Option.ite_none_left_eq_some.mp h
      split at h
      · cases h
      · next tag data hevent =>
        -- the event's namespace has an entry
        obtain ⟨podInspect, hpod, heq⟩ := Option.map_eq_some_iff.mp h
        obtain ⟨rfl, rfl⟩ := Prod.mk.inj heq
        exact ⟨by simpa using hpanicked, n, sent, rfl, hevent, hpod⟩
    · cases h
  · rintro ⟨hpanicked, n, sent, rfl, hevent, hpod⟩
    simp [Node.observes, hpanicked, hevent, hpod]

/-- **A record is posted** for what is observed, unless the peer is the pod itself or the key is
cached. -/
theorem request_eq_some_iff {record : PodTraffic} :
    s.request cfg i = some record
      ↔ ∃ o stamp, s.observes i = some (o, stamp) ∧ ¬ o.Own cfg.endian
        ∧ o.key cfg.endian ∉ s.handler.cache ∧ record = o.record cfg.endian stamp := by
  unfold Node.request
  rw [Option.bind_eq_some_iff]
  constructor
  · rintro ⟨⟨o, stamp⟩, hobserves, hposted⟩
    obtain ⟨hown, hnew, hrecord⟩ := posted_eq_some_iff.mp hposted
    exact ⟨o, stamp, hobserves, hown, hnew, hrecord⟩
  · rintro ⟨o, stamp, hobserves, hown, hnew, hrecord⟩
    exact ⟨(o, stamp), hobserves, posted_eq_some_iff.mpr ⟨hown, hnew, hrecord⟩⟩

/-- The inputs that neither handle an event nor drop what is cached. -/
def NodeInput.KeepsCaches : NodeInput τ → Prop
  | .handleNetwork _ _ _ | .handleSyscall _ | .evict _ | .evictSyscalls _ => False
  | _ => True

/-- Most inputs leave both caches alone. -/
theorem caches_next (hi : i.KeepsCaches) :
    (s.next cfg i).handler.cache = s.handler.cache
      ∧ (s.next cfg i).syscallCache = s.syscallCache := by
  cases i with
  | apply pod runtime =>
    show (s.apply cfg pod runtime).handler.cache = _ ∧ (s.apply cfg pod runtime).syscallCache = _
    unfold Node.apply
    split <;> exact ⟨rfl, rfl⟩
  | watch =>
    show s.watch.handler.cache = _ ∧ s.watch.syscallCache = _
    unfold Node.watch
    split <;> exact ⟨rfl, rfl⟩
  | receiveInode =>
    show s.receiveInode.handler.cache = _ ∧ s.receiveInode.syscallCache = _
    unfold Node.receiveInode
    repeat' split
    all_goals exact ⟨rfl, rfl⟩
  | updateSyscall =>
    show s.updateSyscall.handler.cache = _ ∧ s.updateSyscall.syscallCache = _
    unfold Node.updateSyscall
    repeat' split
    all_goals exact ⟨rfl, rfl⟩
  | receiveIp =>
    show (s.receiveIp cfg).handler.cache = _ ∧ (s.receiveIp cfg).syscallCache = _
    unfold Node.receiveIp
    dsimp only
    repeat' split
    all_goals exact ⟨rfl, rfl⟩
  | network tag mem call =>
    show (s.networkCall cfg tag mem call).handler.cache = _
      ∧ (s.networkCall cfg tag mem call).syscallCache = _
    unfold Node.networkCall
    split <;> exact ⟨rfl, rfl⟩
  | syscall netNs id =>
    show (s.syscallCall netNs id).handler.cache = _ ∧ (s.syscallCall netNs id).syscallCache = _
    unfold Node.syscallCall
    repeat' split
    all_goals exact ⟨rfl, rfl⟩
  | delete pod => exact ⟨rfl, rfl⟩
  | loseNetwork n => exact ⟨rfl, rfl⟩
  | loseSyscall n => exact ⟨rfl, rfl⟩
  -- the handlers and the evictions do write them
  | _ => exact hi.elim

/-- So a key in the cache was there before. -/
theorem mem_cache_of_next {key : TrafficKey} (h : key ∈ (s.next cfg i).handler.cache)
    (hi : i.KeepsCaches) : key ∈ s.handler.cache :=
  (caches_next hi).1 ▸ h

theorem mem_syscallCache_of_next {podName : String} (h : podName ∈ (s.next cfg i).syscallCache)
    (hi : i.KeepsCaches) : podName ∈ s.syscallCache :=
  (caches_next hi).2 ▸ h

/-- The handler of syscalls does not touch the cache of traffic, nor does that of traffic touch the
sets of syscalls. -/
theorem cache_handleSyscallEvent (cfg : NodeConfig) (s : Node τ) (n : Nat) :
    (s.handleSyscallEvent cfg n).handler.cache = s.handler.cache := by
  unfold Node.handleSyscallEvent
  dsimp only
  repeat' split
  all_goals rfl

/-- Events of the network have nothing to do with syscalls. -/
theorem syscallCache_handleNetworkEvent (cfg : NodeConfig) (s : Node τ) (n : Nat) (stamp : Stamp)
    (sent : Sent) :
    (s.handleNetworkEvent cfg n stamp sent).syscallCache = s.syscallCache := by
  unfold Node.handleNetworkEvent
  dsimp only
  repeat' split
  all_goals rfl

/-- One round of the handler, with the request that it makes. -/
theorem cache_handleNetworkEvent {n : Nat} {stamp : Stamp} {sent : Sent} {key : TrafficKey}
    (hpanicked : s.panicked = false)
    (h : key ∈ (s.handleNetworkEvent cfg n stamp sent).handler.cache) :
    key ∈ s.handler.cache
      ∨ sent.isOk ∧ ∃ o, s.observes (.handleNetwork n stamp sent) = some (o, stamp)
        ∧ ¬ o.Own cfg.endian ∧ o.key cfg.endian ∉ s.handler.cache ∧ key = o.key cfg.endian := by
  unfold Node.handleNetworkEvent at h
  split at h
  · exact .inl h
  · next tag data hevent =>
    dsimp only at h
    split at h
    · exact .inl h
    · next podInspect hpod =>
      simp only [Controller.step, hpod, processNetworkEvent_eq] at h
      split at h
      · exact .inl h
      · next hposted =>
        obtain ⟨hown, hnew⟩ := not_or.mp hposted
        split at h
        · next hok =>
          -- the one key that is added is that of the event, after an answer that is `Ok`
          rcases Finset.mem_insert.mp h with rfl | h
          · exact .inr ⟨hok, ⟨tag, data, podInspect⟩,
              observes_eq_some_iff.mpr ⟨hpanicked, n, sent, rfl, hevent, hpod⟩, hown, hnew, rfl⟩
          · exact .inl h
        · exact .inl h

/-- **A key enters the cache when its record was posted and the request answered.** -/
theorem mem_cache_step {sent : Sent} {key : TrafficKey}
    (h : key ∈ (s.step cfg (i.withSent sent)).handler.cache) :
    key ∈ s.handler.cache
      ∨ sent.isOk ∧ ∃ o stamp, s.observes i = some (o, stamp) ∧ ¬ o.Own cfg.endian
        ∧ o.key cfg.endian ∉ s.handler.cache ∧ key = o.key cfg.endian := by
  cases hpanicked : s.panicked with
  | true => exact .inl (by simpa [Node.step, hpanicked] using h)
  | false =>
    rw [Node.step_of_running hpanicked] at h
    cases i with
    | evict key' => exact .inl (Finset.mem_of_mem_erase h)
    | handleNetwork n stamp sent' =>
      -- the answer that the input came with is not looked at
      rcases cache_handleNetworkEvent hpanicked h with h | ⟨hok, o, ho⟩
      · exact .inl h
      · exact .inr ⟨hok, o, stamp, ho⟩
    | handleSyscall n => exact .inl (cache_handleSyscallEvent cfg s n ▸ h)
    | evictSyscalls podName => exact .inl h
    | _ => exact .inl (mem_cache_of_next h trivial)

end Requests

end KubeGuardian.Controller
