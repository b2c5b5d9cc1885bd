import KubeGuardian.Controller.Node

/-!
# Whose connection a record is

The tag of a network event is the pod whose process made or accepted the connection. The handler
names the pod that the map of containers holds for the namespace's number when the event is
handled; that need not be the same pod where pods share a namespace, or where a number comes back.

* **`attributes_iff`** — all records name the right pod, those of the events that wait included,
  exactly when each event is put in while its own pod has the entry, and no entry is taken over
  while an event of another pod waits.
* **`attributed_of_oneOwner`** — so they do where every number is one pod's for the whole run.
-/

namespace KubeGuardian.Controller

open Lib

/-- What tells pods apart. -/
structure PodId where
  name : String
  ns : Option String
  deriving DecidableEq

def PodObject.podId (pod : PodObject) : PodId := ⟨pod.name, pod.ns⟩

def PodInspect.podId (podInspect : PodInspect) : PodId :=
  ⟨podInspect.status.podName, podInspect.status.podNamespace⟩

def PodTraffic.podId (record : PodTraffic) : PodId := ⟨record.podName, record.podNamespace⟩

/-- Every record that was posted names the pod whose connection it is. -/
def Attributed (s : Node PodId) : Prop := ∀ record ∈ s.posted, record.2.podId = record.1

instance (s : Node PodId) : Decidable (Attributed s) :=
  inferInstanceAs (Decidable (∀ record ∈ s.posted, record.2.podId = record.1))

/-- The inputs of the handler of network events. -/
def NodeInput.Settles {τ : Type*} : NodeInput τ → Prop
  | .handleNetwork _ _ _ | .evict _ => True
  | _ => False

/-- So does every record that is posted from what waits, in whatever order it is handled. -/
def Attributes (cfg : NodeConfig) (s : Node PodId) : Prop :=
  ∀ more : List (NodeInput PodId), (∀ i ∈ more, i.Settles) →
    Attributed (run (Node.step cfg) s more)

/-- An event is of the pod that has the entry, unless it leads to no record. -/
def OwnEntry (endian : Endian) (pod : PodId) (data : NetworkEventData) (podInspect : PodInspect) :
    Prop :=
  ¬ ownAddress endian data podInspect → podInspect.podId = pod

/-- The condition: an event is put in while the pod whose process called has the entry of the
namespace, and an entry is written while no event of another pod waits under its number. -/
def EntriesHold (cfg : NodeConfig) (s : Node PodId) : NodeInput PodId → Prop
  | .network pod mem call => s.panicked = false → s.loop ≠ .ended →
      ∀ data, (fire cfg.endian s.network mem call).2 = some data →
        ∀ podInspect, s.handler.containerMap.lookup data.inum = some podInspect →
          OwnEntry cfg.endian pod data podInspect
  | .watch => s.panicked = false →
      ∀ inum podInspect rest, s.watching = .insertContainer inum podInspect :: rest →
        ∀ event ∈ s.networkEvents, event.2.inum = inum →
          OwnEntry cfg.endian event.1 event.2 podInspect
  | _ => True

/-! ## One step

The invariant `Sound` says that every event that waits is still with the pod whose it is; a step
breaks it only by overwriting the entry of an event's namespace.
-/

section Step

variable {cfg : NodeConfig} {s s' : Node PodId}

/-- The events that wait are those of the pods that have the entries. -/
def WaitingOwn (endian : Endian) (s : Node PodId) : Prop :=
  ∀ event ∈ s.networkEvents, ∀ podInspect,
    s.handler.containerMap.lookup event.2.inum = some podInspect →
      OwnEntry endian event.1 event.2 podInspect

/-- What `Attributes` comes to. -/
structure Sound (endian : Endian) (s : Node PodId) : Prop where
  attributed : Attributed s
  waiting : s.panicked = false → WaitingOwn endian s

/-- Inputs that have nothing to do with entries or events keep it. -/
theorem Sound.untouched (hs : Sound cfg.endian s) (hpanicked : s.panicked = false)
    (h : Untouched s s') : Sound cfg.endian s' where
  attributed := by
    unfold Attributed
    rw [h.posted]
    exact hs.attributed
  waiting _ := by
    intro event hevent
    rw [h.containerMap]
    exact hs.waiting hpanicked event (h.networkEvents hevent)

/-- Addresses have nothing to do with it. -/
theorem Sound.receiveIp (hs : Sound cfg.endian s) : Sound cfg.endian (s.receiveIp cfg) := by
  unfold Node.receiveIp
  split
  · split
    · simp only
      split <;> exact ⟨hs.attributed, hs.waiting⟩
    · exact hs
  · exact hs

/-- A pod that the watcher takes on has no entry yet. -/
theorem Sound.apply (hs : Sound cfg.endian s) (pod : PodObject) (runtime : Runtime) :
    Sound cfg.endian (s.apply cfg pod runtime) := by
  unfold Node.apply
  split
  · exact ⟨hs.attributed, hs.waiting⟩
  · exact hs

/-- Handling an event posts a record of the pod that has the entry. -/
theorem Sound.handleNetworkEvent (hs : Sound cfg.endian s) (hpanicked : s.panicked = false)
    (n : Nat) (stamp : Stamp) (sent : Sent) :
    Sound cfg.endian (s.handleNetworkEvent cfg n stamp sent) := by
  unfold Node.handleNetworkEvent
  split
  · exact hs
  · next pod data hevent =>
    have hrest : ∀ event ∈ s.networkEvents.eraseIdx n, event ∈ s.networkEvents :=
      fun event h => List.mem_of_mem_eraseIdx h
    simp only
    split
    · exact ⟨hs.attributed, fun _ event h => hs.waiting hpanicked event (hrest event h)⟩
    · next podInspect hpod =>
      -- an event of another pod leads to no record
      have hown := hs.waiting hpanicked _ (List.mem_of_getElem? hevent) podInspect hpod
      have hkeep := containerMap_step_event cfg.endian s.handler data stamp sent
      constructor
      · intro record hrecord
        rcases List.mem_append.mp hrecord with hrecord | hrecord
        · exact hs.attributed record hrecord
        · obtain ⟨z, hz, rfl⟩ := List.mem_map.mp hrecord
          obtain ⟨hnot, -, rfl⟩ := posted_eq_some_iff.mp (Option.mem_toList.mp hz)
          exact hown hnot
      · intro _ event h
        simp only [hkeep]
        exact hs.waiting hpanicked event (hrest event h)

/-- An entry keeps it so exactly when it is not taken over from an event that waits. -/
theorem sound_insertContainer_iff (hs : Sound cfg.endian s) (hpanicked : s.panicked = false)
    {inum : UInt64} {podInspect : PodInspect} {rest : List WatcherEffect} :
    Sound cfg.endian { s with
        watching := rest
        handler := { s.handler with
          containerMap := s.handler.containerMap.insert inum podInspect } }
      ↔ ∀ event ∈ s.networkEvents, event.2.inum = inum →
        OwnEntry cfg.endian event.1 event.2 podInspect := by
  constructor
  · rintro hnext event hevent rfl
    exact hnext.waiting hpanicked event hevent podInspect (AList.lookup_insert _)
  · intro hhold
    refine ⟨hs.attributed, fun _ event hevent podInspect' hpod => ?_⟩
    by_cases hinum : event.2.inum = inum
    -- an event under the number now finds the new entry, any other what it found before
    · have hsame : (s.handler.containerMap.insert inum podInspect).lookup event.2.inum
          = some podInspect := by rw [hinum, AList.lookup_insert]
      obtain rfl := Option.some.inj (hsame.symm.trans hpod)
      exact hhold event hevent hinum
    · have hother : (s.handler.containerMap.insert inum podInspect).lookup event.2.inum
          = s.handler.containerMap.lookup event.2.inum := AList.lookup_insert_ne hinum
      exact hs.waiting hpanicked event hevent podInspect' (hother.symm.trans hpod)

/-- **The watcher's next effect keeps it** exactly when it does not overwrite the entry of an event
that waits. -/
theorem sound_watch_iff (hs : Sound cfg.endian s) (hpanicked : s.panicked = false) :
    Sound cfg.endian s.watch ↔ EntriesHold cfg s .watch := by
  have hsame : ∀ rest ips inodes,
      Sound cfg.endian { s with watching := rest, ips := ips, inodes := inodes } :=
    fun _ _ _ => ⟨hs.attributed, hs.waiting⟩
  unfold Node.watch EntriesHold
  split
  · next hwatching => simp [hwatching, hs]
  · next hwatching => simp [hwatching, hsame _ s.ips s.inodes]
  · next hwatching => simp [hwatching, hsame _ _ s.inodes]
  · next hwatching =>
    rw [sound_insertContainer_iff hs hpanicked]
    simp [hwatching, hpanicked]
  · next hwatching => simp [hwatching, hsame _ s.ips]

/-- A call keeps it so exactly when its event is of the pod that has the entry. -/
theorem sound_networkCall_iff (hs : Sound cfg.endian s) (hpanicked : s.panicked = false)
    (pod : PodId) (mem : Memory) (call : ProbeCall) :
    Sound cfg.endian (s.networkCall cfg pod mem call)
      ↔ EntriesHold cfg s (.network pod mem call) := by
  unfold Node.networkCall
  split
  · next hended => exact iff_of_true hs fun _ hnot => absurd hended hnot
  · next hrunning =>
    constructor
    · intro hnext _ _ data hdata podInspect hpod
      refine hnext.waiting hpanicked (pod, data) ?_ podInspect hpod
      simp [hdata]
    · intro hhold
      refine ⟨hs.attributed, fun _ event hevent podInspect hpod => ?_⟩
      rcases List.mem_append.mp hevent with hevent | hevent
      · exact hs.waiting hpanicked event hevent podInspect hpod
      · obtain ⟨data, hdata, rfl⟩ := List.mem_map.mp hevent
        exact hhold hpanicked hrunning data (Option.mem_toList.mp hdata) podInspect hpod

/-- **One step keeps it so exactly when the entries hold.** -/
theorem sound_step_iff_entriesHold (hs : Sound cfg.endian s) (i : NodeInput PodId) :
    Sound cfg.endian (s.step cfg i) ↔ EntriesHold cfg s i := by
  unfold Node.step
  cases hpanicked : s.panicked with
  | true =>
    -- nothing happens any more
    rw [if_pos rfl]
    refine iff_of_true hs ?_
    cases i with
    | network pod mem call => exact fun h => absurd (hpanicked.symm.trans h) (by decide)
    | watch => exact fun h => absurd (hpanicked.symm.trans h) (by decide)
    | _ => trivial
  | false =>
    rw [if_neg Bool.false_ne_true]
    cases i with
    | apply pod runtime => exact iff_of_true (hs.apply pod runtime) trivial
    | watch => exact sound_watch_iff hs hpanicked
    | receiveIp => exact iff_of_true hs.receiveIp trivial
    | network pod mem call => exact sound_networkCall_iff hs hpanicked pod mem call
    | handleNetwork n stamp sent =>
      exact iff_of_true (hs.handleNetworkEvent hpanicked n stamp sent) trivial
    | _ => exact iff_of_true (hs.untouched hpanicked (untouched_next trivial)) trivial

theorem sound_start (endian : Endian) : Sound endian (Node.start PodId) where
  attributed record h := by cases h
  waiting _ event h := by cases h

/-- **It holds all along a run** whose steps meet the condition. -/
theorem always_sound (hs : Sound cfg.endian s) {inputs : List (NodeInput PodId)}
    (h : Meets (Node.step cfg) (EntriesHold cfg) s inputs) :
    Always (Node.step cfg) (Sound cfg.endian) s inputs :=
  always_of_meets (fun _ i ht hhold => (sound_step_iff_entriesHold ht i).mpr hhold) hs h

/-- Handled once its key is not cached, an event leads to a record. -/
theorem posted_handleNetworkEvent {n : Nat} {pod : PodId} {data : NetworkEventData}
    (hevent : s.networkEvents[n]? = some (pod, data)) {podInspect : PodInspect}
    (hpod : s.handler.containerMap.lookup data.inum = some podInspect)
    (hnot : ¬ ownAddress cfg.endian data podInspect)
    (hnew : keyOf cfg.endian data podInspect ∉ s.handler.cache) (stamp : Stamp) (sent : Sent) :
    (s.handleNetworkEvent cfg n stamp sent).posted
      = s.posted ++ [(pod, recordOf cfg.endian stamp data podInspect)] := by
  have hrecord : (processNetworkEvent cfg.endian stamp sent s.handler.cache data podInspect).2
      = some (recordOf cfg.endian stamp data podInspect) :=
    posted_eq_some_iff.mpr ⟨hnot, hnew, rfl⟩
  unfold Node.handleNetworkEvent
  simp only [hevent, hpod, hrecord]
  rfl

/-- **Every record will name the right pod exactly when every event waits for its own.** -/
theorem attributes_iff_sound : Attributes cfg s ↔ Sound cfg.endian s := by
  constructor
  · intro hs
    refine ⟨hs [] (by simp), fun hpanicked event hevent podInspect hpod hnot => ?_⟩
    obtain ⟨n, hn⟩ := List.getElem?_of_mem hevent
    -- the event is handled after the cache has dropped its key
    let key := keyOf cfg.endian event.2 podInspect
    let dropped := s.next cfg (.evict key)
    have hattributed := hs [.evict key, .handleNetwork n ⟨"", 0⟩ (.error "")]
      (by simp [NodeInput.Settles])
    have hrun : run (Node.step cfg) s [.evict key, .handleNetwork n ⟨"", 0⟩ (.error "")]
        = dropped.handleNetworkEvent cfg n ⟨"", 0⟩ (.error "") := by
      have hdropped : dropped.panicked = false := hpanicked
      rw [run_cons, run_cons, run_nil, Node.step_of_running hpanicked,
        Node.step_of_running hdropped]
      rfl
    rw [hrun] at hattributed
    have hposted := posted_handleNetworkEvent (s := dropped) hn hpod hnot
      (Finset.notMem_erase _ _) ⟨"", 0⟩ (.error "")
    unfold Attributed at hattributed
    rw [hposted] at hattributed
    exact hattributed _ (List.mem_append_right _ (List.mem_singleton_self _))
  · intro hs more hmore
    have hmeets : Meets (Node.step cfg) (EntriesHold cfg) s more :=
      meets_of_forall (fun i hi _ => by
        have hsettles := hmore i hi
        cases i <;> trivial) s
    exact (always_sound hs hmeets).last.attributed

end Step

/-- **When every record names the pod whose connection it is**, now and when what waits is
handled. -/
theorem attributes_iff (cfg : NodeConfig) (inputs : List (NodeInput PodId)) :
    Always (Node.step cfg) (Attributes cfg) (Node.start PodId) inputs
      ↔ Meets (Node.step cfg) (EntriesHold cfg) (Node.start PodId) inputs := by
  refine always_iff_meets (fun s i hs => ?_) (attributes_iff_sound.mpr (sound_start cfg.endian))
  rw [attributes_iff_sound] at hs ⊢
  exact sound_step_iff_entriesHold hs i

/-! ## A number for each pod

A condition that a cluster without host networking meets: no two pods that the watcher is given have
one namespace. It is enough, and says nothing about the order of steps.
-/

section OneOwner

variable {cfg : NodeConfig} {owner : UInt64 → PodId} {s s' : Node PodId}

/-- A pod is registered under a number of its own, and a number's events are its pod's. -/
def OneOwner (cfg : NodeConfig) (owner : UInt64 → PodId) (s : Node PodId) :
    NodeInput PodId → Prop
  | .apply pod runtime =>
    ∀ inum ∈ podInode cfg.toWatcherConfig runtime pod, pod.podId = owner inum
  | .network pod mem call =>
    ∀ data ∈ (fire cfg.endian s.network mem call).2, pod = owner data.inum
  | _ => True

/-- Whatever the node knows of a network namespace names the pod that `owner` gives it: the entries
of the container map, the events that wait, and what the watcher is still to enter. -/
structure Owned (owner : UInt64 → PodId) (s : Node PodId) : Prop where
  entries : ∀ inum podInspect, s.handler.containerMap.lookup inum = some podInspect →
    podInspect.podId = owner inum
  networkEvents : ∀ event ∈ s.networkEvents, event.1 = owner event.2.inum
  watching : ∀ inum podInspect, .insertContainer inum podInspect ∈ s.watching →
    podInspect.podId = owner inum

/-- Inputs that have nothing to do with entries or events keep the numbers with their pods. -/
theorem Owned.untouched (hs : Owned owner s) (h : Untouched s s') : Owned owner s' where
  entries inum podInspect hpod := hs.entries inum podInspect (h.containerMap ▸ hpod)
  networkEvents event hevent := hs.networkEvents event (h.networkEvents hevent)
  watching inum podInspect hmem := hs.watching inum podInspect (h.watching ▸ hmem)

/-- Addresses have nothing to do with it. -/
theorem Owned.receiveIp (hs : Owned owner s) : Owned owner (s.receiveIp cfg) := by
  unfold Node.receiveIp
  split
  · split
    · simp only
      split <;> exact ⟨hs.entries, hs.networkEvents, hs.watching⟩
    · exact hs
  · exact hs

/-- The watcher is given a pod that owns its number. -/
theorem Owned.apply (hs : Owned owner s) {pod : PodObject} {runtime : Runtime}
    (hi : OneOwner cfg owner s (.apply pod runtime)) : Owned owner (s.apply cfg pod runtime) := by
  unfold Node.apply
  split
  · refine ⟨hs.entries, hs.networkEvents, fun inum podInspect hmem => ?_⟩
    obtain ⟨hinum, podIp, -, rfl⟩ := mem_watchPods_insertContainer.mp hmem
    exact hi inum hinum
  · exact hs

/-- It writes the entry of the owner. -/
theorem Owned.watch (hs : Owned owner s) : Owned owner s.watch := by
  have hrest : ∀ {effect rest}, s.watching = effect :: rest → ∀ inum podInspect,
      .insertContainer inum podInspect ∈ rest → podInspect.podId = owner inum :=
    fun hwatching inum podInspect hmem => hs.watching inum podInspect (hwatching ▸ .tail _ hmem)
  unfold Node.watch
  split
  · exact hs
  · next hwatching => exact ⟨hs.entries, hs.networkEvents, hrest hwatching⟩
  · next hwatching => exact ⟨hs.entries, hs.networkEvents, hrest hwatching⟩
  · next inum podInspect rest hwatching =>
    refine ⟨fun inum' podInspect' hpod => ?_, hs.networkEvents, hrest hwatching⟩
    -- the entry written now was announced by its owner
    by_cases hinum : inum' = inum
    · subst hinum
      rw [AList.lookup_insert] at hpod
      obtain rfl := Option.some.inj hpod
      exact hs.watching inum' _ (hwatching ▸ .head _)
    · rw [AList.lookup_insert_ne hinum] at hpod
      exact hs.entries inum' podInspect' hpod
  · next hwatching => exact ⟨hs.entries, hs.networkEvents, hrest hwatching⟩

/-- A call in a namespace is one of its owner's. -/
theorem Owned.networkCall (hs : Owned owner s) {pod : PodId} {mem : Memory} {call : ProbeCall}
    (hi : OneOwner cfg owner s (.network pod mem call)) :
    Owned owner (s.networkCall cfg pod mem call) := by
  unfold Node.networkCall
  split
  · exact hs
  · refine ⟨hs.entries, fun event hevent => ?_, hs.watching⟩
    rcases List.mem_append.mp hevent with hevent | hevent
    · exact hs.networkEvents event hevent
    · obtain ⟨data, hdata, rfl⟩ := List.mem_map.mp hevent
      exact hi data (Option.mem_toList.mp hdata)

/-- Handling an event changes no owner. -/
theorem Owned.handleNetworkEvent (hs : Owned owner s) (n : Nat) (stamp : Stamp) (sent : Sent) :
    Owned owner (s.handleNetworkEvent cfg n stamp sent) := by
  unfold Node.handleNetworkEvent
  split
  · exact hs
  · next pod data hevent =>
    have hkeep := containerMap_step_event cfg.endian s.handler data stamp sent
    have hrest : ∀ event ∈ s.networkEvents.eraseIdx n, event.1 = owner event.2.inum :=
      fun event h => hs.networkEvents event (List.mem_of_mem_eraseIdx h)
    simp only
    split
    · exact ⟨hs.entries, hrest, hs.watching⟩
    · exact ⟨fun inum podInspect hpod => hs.entries inum podInspect (hkeep ▸ hpod), hrest,
        hs.watching⟩

/-- **The numbers stay with their owners.** -/
theorem Owned.step (hs : Owned owner s) {i : NodeInput PodId} (hi : OneOwner cfg owner s i) :
    Owned owner (s.step cfg i) := by
  unfold Node.step
  split
  · exact hs
  · cases i with
    | apply pod runtime => exact hs.apply hi
    | watch => exact hs.watch
    | receiveIp => exact hs.receiveIp
    | network pod mem call => exact hs.networkCall hi
    | handleNetwork n stamp sent => exact hs.handleNetworkEvent n stamp sent
    | _ => exact hs.untouched (untouched_next trivial)

/-- Where every number has one pod, every entry holds. -/
theorem Owned.entriesHold (hs : Owned owner s) {i : NodeInput PodId}
    (hi : OneOwner cfg owner s i) : EntriesHold cfg s i := by
  cases i with
  | network pod mem call =>
    intro _ _ data hdata podInspect hpod _
    rw [hs.entries data.inum podInspect hpod, hi data hdata]
  | watch =>
    rintro - inum podInspect rest hwatching event hevent rfl -
    rw [hs.networkEvents event hevent]
    exact hs.watching _ podInspect (hwatching ▸ .head _)
  | _ => trivial

/-- **Where every number is one pod's for the whole run, every record names its pod.** -/
theorem attributed_of_oneOwner {inputs : List (NodeInput PodId)}
    (h : Meets (Node.step cfg) (OneOwner cfg owner) (Node.start PodId) inputs) :
    Always (Node.step cfg) Attributed (Node.start PodId) inputs := by
  have hstart : Owned owner (Node.start PodId) :=
    { entries := fun inum podInspect h => by cases h
      networkEvents := fun event h => by cases h
      watching := fun inum podInspect h => by cases h }
  have hhold : Meets (Node.step cfg) (EntriesHold cfg) (Node.start PodId) inputs :=
    h.of_invariant (fun s i hs hi => ⟨hs.entriesHold hi, hs.step hi⟩) hstart
  exact (always_sound (sound_start cfg.endian) hhold).imp fun s hs => hs.attributed

end OneOwner

/-! ## Two pods on the node's network

Pods with `hostNetwork` share the node's namespace, so the later one takes over the entry.
-/

def hostPod (name container : String) : PodObject where
  name := name
  ns := some "infra"
  ownerReferences := some ["ReplicaSet"]
  status := ⟨some "192.168.1.10", none, some [some container]⟩

/-- The pods `agent` and `proxy` both run on the node's own network, which has the number 7. -/
def hostPods : List (NodeInput PodId) :=
  [.apply (hostPod "agent" "containerd://a1") fun _ => some 7, .watch, .watch, .watch,
    .receiveInode, .updateSyscall,
    .apply (hostPod "proxy" "containerd://b2") fun _ => some 7, .watch, .watch, .watch]

/-- A datagram from the node's address to 10.0.0.9, port 53. -/
def hostSock : Sock := ⟨7, 0x0a01a8c0, 0x0900000a, 40000, 0x3500⟩

/-- A datagram of `agent` is recorded under `proxy`. -/
theorem recorded_under_other_pod :
    ¬ Attributed (run (Node.step shopConfig) (Node.start PodId) (hostPods ++
      [.network ⟨"agent", some "infra"⟩ (fun _ => hostSock) (.udpSend 1),
        .handleNetwork 0 ⟨"u1", 1⟩ (.ok ⟨200⟩)])) := by
  decide +kernel

end KubeGuardian.Controller
