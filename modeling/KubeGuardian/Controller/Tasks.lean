import KubeGuardian.Controller.Node

/-!
# The controller's tasks, lock by lock

`Controller.Node` has every task do its turn in one step. Here a task stands still wherever the code
of `controller/src` awaits or blocks: at the mutex of the map of containers, which the handlers keep
while they post or wait for another mutex; at the mutex of a pod's set of syscalls, which the sender
takes as well; and at a channel that is full, since all of them are bounded. What the sender posts
is in `Controller.Syscall`; here it only takes and gives back its mutexes.

* **`coherent_run`** — in every state of every run, what a task has found under a mutex is still so:
  the watcher is at an entry when it has the map, and the handler of syscalls that has looked up a
  pod finds it again, with the pod's set either the cache's own or gone from it;
* **`acts_on_found`** — so from the handler's lookup to what it writes, the others can do nothing
  about either.
-/

namespace KubeGuardian.Controller

open Lib

/-- How many messages each channel of `main` holds. -/
def capacity : Nat := 1000

/-- A mutex of `SYSCALL_CACHE`: the pod's name, and how many sets of that name had been dropped from
the cache when it was made. -/
abbrev SetMutex := String × Nat

/-! ## Where the tasks stand

One type for each task, with a place for every point at which the code can stand still. The event or
the mutex that a task has in hand is part of its place, so that what it goes on with is what it
stopped with.
-/

/-- Where the watcher stands between two effects: at rest, before the map's lock to look, or inside
it. -/
inductive WatcherAt where
  | free
  /-- Waiting for the map, and with it, for a container without a namespace: nothing is entered. -/
  | looking
  | looked
  | locked
  deriving DecidableEq

inductive NetworkAt (τ : Type*) where
  | receiving
  | locking (event : τ × NetworkEventData)
  /-- Also while the record is posted. -/
  | locked (event : τ × NetworkEventData)

/-- Where the syscall handler stands with its event, the map's lock first and then that of the pod's
set. -/
inductive SyscallAt where
  | receiving
  | locking (data : SyscallEventData)
  | locked (data : SyscallEventData)
  | lockingSet (data : SyscallEventData) (mutex : SetMutex)
  | lockedSet (data : SyscallEventData) (mutex : SetMutex)

/-- The second mutex, that of `LAST_SENT_CACHE`, is nobody else's. -/
inductive RecorderAt where
  | sleeping
  | visiting (podNames : List String)
  | locking (mutex : SetMutex) (podNames : List String)
  | locked (mutex : SetMutex) (podNames : List String)
  | lockedBoth (mutex : SetMutex) (podNames : List String)
  | posting

/-- The thread of `ebpf_handle`: at one of the four things that a turn of its loop does, or in a
callback that sends on an event. -/
inductive EbpfAt (τ : Type*) where
  | network
  | sendingNetwork (event : τ × NetworkEventData)
  | syscall
  | sendingSyscall (data : SyscallEventData)
  | inode
  | ip

def WatcherAt.holdsMap : WatcherAt → Bool
  | .looked | .locked => true
  | _ => false

namespace NetworkAt

variable {τ : Type*}

/-- The event that the handler has received. -/
def held : NetworkAt τ → List (τ × NetworkEventData)
  | .receiving => []
  | .locking event | .locked event => [event]

def holdsMap : NetworkAt τ → Bool
  | .locked _ => true
  | _ => false

end NetworkAt

namespace SyscallAt

def held : SyscallAt → List SyscallEventData
  | .receiving => []
  | .locking data | .locked data | .lockingSet data _ | .lockedSet data _ => [data]

/-- The map is not given back before the set is. -/
def holdsMap : SyscallAt → Bool
  | .locked _ | .lockingSet _ _ | .lockedSet _ _ => true
  | _ => false

def holdsSet (a : SyscallAt) (mutex : SetMutex) : Bool :=
  match a with
  | .lockedSet _ mutex' => mutex' = mutex
  | _ => false

end SyscallAt

namespace RecorderAt

def holdsSet (a : RecorderAt) (mutex : SetMutex) : Bool :=
  match a with
  | .locked mutex' _ | .lockedBoth mutex' _ => mutex' = mutex
  | _ => false

end RecorderAt

namespace EbpfAt

variable {τ : Type*}

def sendsNetwork : EbpfAt τ → List (τ × NetworkEventData)
  | .sendingNetwork event => [event]
  | _ => []

def sendsSyscall : EbpfAt τ → List SyscallEventData
  | .sendingSyscall data => [data]
  | _ => []

end EbpfAt

/-! ## All of them -/

/-- What the tasks share is as in `Controller.Node`, but that its events are those in the buffers of
the probes alone. -/
structure Tasks (τ : Type*) where
  node : Node τ
  watcher : WatcherAt
  networkHandler : NetworkAt τ
  syscallHandler : SyscallAt
  recorder : RecorderAt
  ebpf : EbpfAt τ
  networkChannel : List (τ × NetworkEventData)
  syscallChannel : List SyscallEventData
  /-- How many sets of a name the cache has dropped. -/
  dropped : String → Nat

namespace Tasks

variable {τ : Type*}

def start (τ : Type*) : Tasks τ where
  node := .start τ
  watcher := .free
  networkHandler := .receiving
  syscallHandler := .receiving
  recorder := .sleeping
  ebpf := .network
  networkChannel := []
  syscallChannel := []
  dropped _ := 0

/-- Somebody holds the map of containers. -/
def mapLocked (t : Tasks τ) : Bool :=
  t.watcher.holdsMap || t.networkHandler.holdsMap || t.syscallHandler.holdsMap

end Tasks

/-- What can happen next: something outside the tasks, the timer of the sender with the names that
its cache lists, or one task that goes on if nothing keeps it. -/
inductive TaskInput (τ : Type*) where
  | outside (i : NodeInput τ)
  | tick (podNames : List String)
  | look
  | watcher
  | network (stamp : Stamp) (sent : Sent)
  | syscall
  | recorder
  /-- Where the loop polls: the place of the event that it finds, if it finds one. -/
  | ebpf (n : Option Nat)

/-- What no task of the controller does. -/
def NodeInput.isOutside {τ : Type*} : NodeInput τ → Bool
  | .watch | .receiveInode | .updateSyscall | .receiveIp | .handleNetwork _ _ _
  | .handleSyscall _ => false
  | _ => true

namespace Tasks

variable {τ : Type*}

/-! ## Steps -/

/-- What happens outside the tasks. An eviction drops a set, and a later one of the same pod is
another set. -/
def outside (cfg : NodeConfig) (t : Tasks τ) (i : NodeInput τ) : Tasks τ :=
  if i.isOutside then
    { t with
      node := t.node.next cfg i
      dropped := match i with
        | .evictSyscalls podName =>
          Function.update t.dropped podName (t.dropped podName + 1)
        | _ => t.dropped }
  else t

/-- The recorder wakes up and sets out over these names. -/
def tick (t : Tasks τ) (podNames : List String) : Tasks τ :=
  match t.recorder with
  | .sleeping => { t with recorder := .visiting podNames }
  | _ => t

def look (t : Tasks τ) : Tasks τ :=
  match t.watcher with
  | .free => { t with watcher := .looking }
  | _ => t

/-- `watch_pods`, which gives the map back before it sends the number. -/
def watch (t : Tasks τ) : Tasks τ :=
  match t.watcher, t.node.watching with
  | .looking, _ => if t.mapLocked then t else { t with watcher := .looked }
  | .looked, _ => { t with watcher := .free }
  | .locked, _ => { t with node := t.node.watch, watcher := .free }
  | .free, .insertContainer _ _ :: _ =>
    if t.mapLocked then t else { t with watcher := .locked }
  | .free, .sendIp _ :: _ =>
    if t.node.ips.length < capacity then { t with node := t.node.watch } else t
  | .free, .sendInode _ :: _ =>
    if t.node.inodes.length < capacity then { t with node := t.node.watch } else t
  | .free, .postDetails _ :: _ => { t with node := t.node.watch }
  | .free, [] => t

/-- The event is handled, which is the whole of a round of `handle_network_events`. -/
def commitNetwork (cfg : NodeConfig) (s : Node τ) (event : τ × NetworkEventData) (stamp : Stamp)
    (sent : Sent) : Node τ :=
  { s with networkEvents := event :: s.networkEvents }.handleNetworkEvent cfg 0 stamp sent

/-- One step of the network handler. The record is posted under the lock. -/
def handleNetwork (cfg : NodeConfig) (t : Tasks τ) (stamp : Stamp) (sent : Sent) : Tasks τ :=
  match t.networkHandler with
  | .receiving =>
    match t.networkChannel with
    | [] => t
    | event :: rest => { t with networkHandler := .locking event, networkChannel := rest }
  | .locking event => if t.mapLocked then t else { t with networkHandler := .locked event }
  | .locked event =>
    { t with
      node := commitNetwork cfg t.node event stamp sent
      networkHandler := .receiving }

/-- The work on one event, done as the atomic handler does it. -/
def commitSyscall (cfg : NodeConfig) (s : Node τ) (data : SyscallEventData) : Node τ :=
  { s with syscallEvents := data :: s.syscallEvents }.handleSyscallEvent cfg 0

def handleSyscall (cfg : NodeConfig) (t : Tasks τ) : Tasks τ :=
  match t.syscallHandler with
  | .receiving =>
    match t.syscallChannel with
    | [] => t
    | data :: rest => { t with syscallHandler := .locking data, syscallChannel := rest }
  | .locking data => if t.mapLocked then t else { t with syscallHandler := .locked data }
  | .locked data =>
    match t.node.handler.containerMap.lookup data.inum, cfg.host.syscallName data.sysnbr with
    | some podInspect, some _ =>
      let podName := podInspect.status.podName
      { t with syscallHandler := .lockingSet data (podName, t.dropped podName) }
    -- no pod to handle it for, or a panic
    | _, _ =>
      { t with
        node := commitSyscall cfg t.node data
        syscallHandler := .receiving }
  | .lockingSet data mutex =>
    if t.recorder.holdsSet mutex then t
    else { t with syscallHandler := .lockedSet data mutex }
  | .lockedSet data mutex =>
    if mutex.2 = t.dropped mutex.1 then
      { t with
        node := commitSyscall cfg t.node data
        syscallHandler := .receiving }
    -- the set is the cache's no more, and the name goes with it
    else { t with syscallHandler := .receiving }

/-- `send_syscall_cache_periodically`, between two ticks. -/
def record (t : Tasks τ) : Tasks τ :=
  match t.recorder with
  | .sleeping => t
  | .visiting [] => { t with recorder := .posting }
  | .visiting (podName :: podNames) =>
    { t with recorder := .locking (podName, t.dropped podName) podNames }
  | .locking mutex podNames =>
    if t.syscallHandler.holdsSet mutex then t
    else { t with recorder := .locked mutex podNames }
  | .locked mutex podNames => { t with recorder := .lockedBoth mutex podNames }
  | .lockedBoth _ podNames => { t with recorder := .visiting podNames }
  | .posting => { t with recorder := .sleeping }

def poll (cfg : NodeConfig) (t : Tasks τ) (n : Option Nat) : Tasks τ :=
  if t.node.loop = .ended then t
  else match t.ebpf with
    | .network =>
      match n.bind fun n => (t.node.networkEvents[n]?).map (n, ·) with
      | some (n, event) =>
        { t with
          node := { t.node with networkEvents := t.node.networkEvents.eraseIdx n }
          ebpf := .sendingNetwork event }
      | none => { t with ebpf := .syscall }
    | .sendingNetwork event =>
      if t.networkChannel.length < capacity then
        { t with networkChannel := t.networkChannel ++ [event], ebpf := .network }
      else t
    | .syscall =>
      match n.bind fun n => (t.node.syscallEvents[n]?).map (n, ·) with
      | some (n, data) =>
        { t with
          node := { t.node with syscallEvents := t.node.syscallEvents.eraseIdx n }
          ebpf := .sendingSyscall data }
      | none => { t with ebpf := .inode }
    | .sendingSyscall data =>
      if t.syscallChannel.length < capacity then
        { t with syscallChannel := t.syscallChannel ++ [data], ebpf := .syscall }
      else t
    | .inode =>
      match t.node.loop, t.node.inodes with
      | .halfway _, _ => { t with node := t.node.updateSyscall, ebpf := .ip }
      | _, [] => { t with ebpf := .ip }
      | _, _ :: _ => { t with node := t.node.receiveInode }
    | .ip => { t with node := t.node.receiveIp cfg, ebpf := .network }

def next (cfg : NodeConfig) (t : Tasks τ) : TaskInput τ → Tasks τ
  | .outside i => t.outside cfg i
  | .tick podNames => t.tick podNames
  | .look => t.look
  | .watcher => t.watch
  | .network stamp sent => t.handleNetwork cfg stamp sent
  | .syscall => t.handleSyscall cfg
  | .recorder => t.record
  | .ebpf n => t.poll cfg n

/-- A panic of one task ends all of them. -/
def step (cfg : NodeConfig) (t : Tasks τ) (i : TaskInput τ) : Tasks τ :=
  if t.node.panicked then t else t.next cfg i

end Tasks

/-! ## What comes from outside -/

section Outside

variable {τ : Type*} {cfg : NodeConfig} {s s' : Node τ}

/-- No entry is written, the watcher is left at what it does, and no set of syscalls is made. -/
structure LeftToTasks (s s' : Node τ) : Prop where
  containerMap : s'.handler.containerMap = s.handler.containerMap
  watching : s.watching ≠ [] → s'.watching = s.watching
  syscallCache : ∀ podName ∉ s.syscallCache, podName ∉ s'.syscallCache

theorem LeftToTasks.refl (s : Node τ) : LeftToTasks s s := ⟨rfl, fun _ => rfl, fun _ h => h⟩

/-- What comes from outside leaves the entries alone, the watcher at its effects, and makes no set:
the fields that a task may look at under a mutex. -/
theorem leftToTasks_next {i : NodeInput τ} (hi : i.isOutside) :
    LeftToTasks s (s.next cfg i) := by
  cases i with
  | apply pod runtime =>
    show LeftToTasks s (s.apply cfg pod runtime)
    unfold Node.apply
    split
    · next hdone => exact ⟨rfl, fun hbusy => absurd hdone hbusy, fun _ h => h⟩
    · exact .refl s
  | network tag mem call =>
    show LeftToTasks s (s.networkCall cfg tag mem call)
    unfold Node.networkCall
    split <;> exact ⟨rfl, fun _ => rfl, fun _ h => h⟩
  | syscall netNs id =>
    show LeftToTasks s (s.syscallCall netNs id)
    unfold Node.syscallCall
    repeat' split
    all_goals exact ⟨rfl, fun _ => rfl, fun _ h => h⟩
  -- a set may go; none comes
  | evictSyscalls podName =>
    exact ⟨rfl, fun _ => rfl, fun _ h hmem => h (AList.mem_erase.mp hmem).2⟩
  | delete pod => exact .refl s
  | loseNetwork n => exact ⟨rfl, fun _ => rfl, fun _ h => h⟩
  | loseSyscall n => exact ⟨rfl, fun _ => rfl, fun _ h => h⟩
  | evict key => exact ⟨rfl, fun _ => rfl, fun _ h => h⟩
  | _ => cases hi

end Outside

/-! ## Who holds what

The invariant of the tasks. That no mutex is held twice is what the guards of the steps say; what
the other fields add is that a task which goes on under a mutex still finds what it found when it
stopped.
-/

namespace SyscallAt

/-- What the handler is about to record, and the set's mutex. -/
def records : SyscallAt → Option (SyscallEventData × SetMutex)
  | .lockingSet data mutex | .lockedSet data mutex => some (data, mutex)
  | _ => none

end SyscallAt

namespace Tasks

variable {τ : Type*}

/-- No mutex is held twice. -/
structure Exclusive (t : Tasks τ) : Prop where
  watcher : t.watcher.holdsMap →
    t.networkHandler.holdsMap = false ∧ t.syscallHandler.holdsMap = false
  handlers : t.networkHandler.holdsMap → t.syscallHandler.holdsMap = false
  set : ∀ mutex, t.syscallHandler.holdsSet mutex → t.recorder.holdsSet mutex = false

/-- The watcher holds the map for an entry, and the handler of syscalls a set for a name of the pod
that it has found; the set is the cache's own unless the cache has dropped it since. -/
structure Coherent (cfg : NodeConfig) (t : Tasks τ) : Prop extends Exclusive t where
  entering : t.watcher = .locked →
    ∃ inum podInspect rest, t.node.watching = .insertContainer inum podInspect :: rest
  found : ∀ data mutex, t.syscallHandler.records = some (data, mutex) →
    ∃ podInspect, t.node.handler.containerMap.lookup data.inum = some podInspect
      ∧ podInspect.status.podName = mutex.1 ∧ (cfg.host.syscallName data.sysnbr).isSome
  current : ∀ data mutex, t.syscallHandler.records = some (data, mutex) →
    mutex.2 ≤ t.dropped mutex.1
      ∧ (mutex.2 < t.dropped mutex.1 → mutex.1 ∉ t.node.syscallCache)

variable {cfg : NodeConfig} {t : Tasks τ}

/-- The map is free when none of the three that take it holds it. -/
theorem mapLocked_eq_false_iff : t.mapLocked = false
    ↔ t.watcher.holdsMap = false ∧ t.networkHandler.holdsMap = false
      ∧ t.syscallHandler.holdsMap = false := by
  simp [mapLocked, and_assoc]

/-- At the start no task holds or has found anything. -/
theorem coherent_start : Coherent cfg (Tasks.start τ) where
  watcher h := by cases h
  handlers h := by cases h
  set mutex h := by cases h
  entering h := by cases h
  found data mutex h := by cases h
  current data mutex h := by cases h

/-- Something happens outside. An eviction may drop the very set that the handler of syscalls is
after, which is why `current` allows for sets that are gone. -/
theorem Coherent.outside (ht : Coherent cfg t) (i : NodeInput τ) :
    Coherent cfg (t.outside cfg i) := by
  unfold Tasks.outside
  split
  · next hi =>
    have hleft : LeftToTasks t.node (t.node.next cfg i) := leftToTasks_next hi
    -- no lock changes hands
    refine { ht.toExclusive with
      entering := fun h => ?_
      found := fun data mutex h => ?_
      current := fun data mutex h => ?_ }
    · obtain ⟨inum, podInspect, rest, hwatching⟩ := ht.entering h
      exact ⟨inum, podInspect, rest, (hleft.watching (by simp [hwatching])).trans hwatching⟩
    · obtain ⟨podInspect, hpod, hname⟩ := ht.found data mutex h
      exact ⟨podInspect, hleft.containerMap ▸ hpod, hname⟩
    · obtain ⟨hle, hgone⟩ := ht.current data mutex h
      have hsame : mutex.2 < t.dropped mutex.1 → mutex.1 ∉ (t.node.next cfg i).syscallCache :=
        fun hlt => hleft.syscallCache _ (hgone hlt)
      cases i with
      | evictSyscalls podName =>
        by_cases hname : mutex.1 = podName
        · -- the set that is dropped is this one
          subst hname
          simp only [Function.update_self]
          exact ⟨by omega, fun _ hmem => (AList.mem_erase.mp hmem).1 rfl⟩
        · simp only [Function.update_of_ne hname]
          exact ⟨hle, hsame⟩
      | _ => exact ⟨hle, hsame⟩
  · exact ht

/-- The sender wakes up with no mutex in hand. -/
theorem Coherent.tick (ht : Coherent cfg t) (podNames : List String) :
    Coherent cfg (t.tick podNames) := by
  unfold Tasks.tick
  split
  · exact { ht with set := fun _ _ => rfl }
  · exact ht

/-- A watcher that holds nothing is in nobody's way. -/
theorem Coherent.withWatcher (ht : Coherent cfg t) {watcher : WatcherAt}
    (hmap : watcher.holdsMap = false) : Coherent cfg { t with watcher := watcher } :=
  { ht with
    watcher := fun h => by simp [hmap] at h
    entering := fun h => by
      rw [show watcher = .locked from h] at hmap
      cases hmap }

/-- Waiting for the map is nothing that the others could find. -/
theorem Coherent.look (ht : Coherent cfg t) : Coherent cfg t.look := by
  unfold Tasks.look
  split
  · exact ht.withWatcher rfl
  · exact ht

/-- An effect of the watcher that is no entry, or one under the lock. -/
theorem Coherent.watchNode (ht : Coherent cfg t) (hwatcher : t.watcher ≠ .locked)
    (hmap : t.syscallHandler.holdsMap →
      t.node.watch.handler.containerMap = t.node.handler.containerMap) :
    Coherent cfg { t with node := t.node.watch } where
  watcher := ht.watcher
  handlers := ht.handlers
  set := ht.set
  entering h := absurd h hwatcher
  found data mutex h := by
    have hholds : t.syscallHandler.holdsMap := by
      cases hat : t.syscallHandler <;> simp_all [SyscallAt.records, SyscallAt.holdsMap]
    exact hmap hholds ▸ ht.found data mutex h
  current data mutex h := by
    have hcache : t.node.watch.syscallCache = t.node.syscallCache := by
      unfold Node.watch
      split <;> rfl
    exact hcache ▸ ht.current data mutex h

/-- The map is free, and the watcher takes it. -/
theorem Coherent.lockWatcher (ht : Coherent cfg t) (hmap : t.mapLocked = false)
    {watcher : WatcherAt} (hentering : watcher = .locked →
      ∃ inum podInspect rest, t.node.watching = .insertContainer inum podInspect :: rest) :
    Coherent cfg { t with watcher := watcher } :=
  { ht with
    watcher := fun _ => (mapLocked_eq_false_iff.mp hmap).2
    entering := hentering }

/-- The watcher goes on. It writes an entry only from its place under the lock, and then neither
handler holds the map. -/
theorem Coherent.watch (ht : Coherent cfg t) : Coherent cfg t.watch := by
  unfold Tasks.watch
  split
  · split
    · exact ht
    · next hmap => exact ht.lockWatcher (eq_false_of_ne_true hmap) fun h => by cases h
  · exact ht.withWatcher rfl
  · next hwatcher =>
    have hholds : t.watcher.holdsMap := by rw [hwatcher]; rfl
    -- nobody else holds the map while the entry is written
    have hfree : Coherent cfg { t with watcher := .free } := ht.withWatcher rfl
    refine hfree.watchNode (by simp) fun hsyscall => ?_
    rw [(ht.watcher hholds).2] at hsyscall
    cases hsyscall
  · next hwatching =>
    split
    · exact ht
    · next hmap =>
      exact ht.lockWatcher (eq_false_of_ne_true hmap) fun _ => ⟨_, _, _, hwatching⟩
  · next hfree hwatching =>
    split
    · exact ht.watchNode (by simp [hfree]) fun _ => by simp [Node.watch, hwatching]
    · exact ht
  · next hfree hwatching =>
    split
    · exact ht.watchNode (by simp [hfree]) fun _ => by simp [Node.watch, hwatching]
    · exact ht
  · next hfree hwatching =>
    exact ht.watchNode (by simp [hfree]) fun _ => by simp [Node.watch, hwatching]
  · exact ht

/-- The handler of network events writes no entry, and is not at the watcher's effects. -/
theorem commitNetwork_keeps (cfg : NodeConfig) (s : Node τ) (event : τ × NetworkEventData)
    (stamp : Stamp) (sent : Sent) :
    (commitNetwork cfg s event stamp sent).handler.containerMap = s.handler.containerMap
      ∧ (commitNetwork cfg s event stamp sent).watching = s.watching
      ∧ (commitNetwork cfg s event stamp sent).syscallCache = s.syscallCache := by
  unfold commitNetwork Node.handleNetworkEvent
  dsimp only [List.getElem?_cons_zero]
  split
  · exact ⟨rfl, rfl, rfl⟩
  · exact ⟨containerMap_step_event .., rfl, rfl⟩

/-- Recording a syscall writes no entry and does not move the watcher. -/
theorem commitSyscall_keeps (cfg : NodeConfig) (s : Node τ) (data : SyscallEventData) :
    (commitSyscall cfg s data).handler.containerMap = s.handler.containerMap
      ∧ (commitSyscall cfg s data).watching = s.watching := by
  unfold commitSyscall Node.handleSyscallEvent
  dsimp only [List.getElem?_cons_zero]
  split
  · exact ⟨rfl, rfl⟩
  · split <;> exact ⟨rfl, rfl⟩

/-- The handler of network events goes on: it takes an event, takes the map if nobody has it, or
gives it back with the event handled. -/
theorem Coherent.handleNetwork (ht : Coherent cfg t) (stamp : Stamp) (sent : Sent) :
    Coherent cfg (t.handleNetwork cfg stamp sent) := by
  unfold Tasks.handleNetwork
  split
  · split
    · exact ht
    · exact { ht with
        watcher := fun h => ⟨rfl, (ht.watcher h).2⟩
        handlers := fun h => by cases h }
  · split
    · exact ht
    · next hmap =>
      -- the map was free
      obtain ⟨hwatcher, -, hsyscall⟩ := mapLocked_eq_false_iff.mp (eq_false_of_ne_true hmap)
      exact { ht with
        watcher := fun h => by simp [hwatcher] at h
        handlers := fun _ => hsyscall }
  · next event _ =>
    -- the event is handled, and the map given back as it was
    obtain ⟨hmap, hwatching, hcache⟩ := commitNetwork_keeps cfg t.node event stamp sent
    exact
      { watcher := fun h => ⟨rfl, (ht.watcher h).2⟩
        handlers := fun h => by cases h
        set := ht.set
        entering := fun h => hwatching ▸ ht.entering h
        found := fun data mutex h => hmap ▸ ht.found data mutex h
        current := fun data mutex h => hcache ▸ ht.current data mutex h }

/-- The handler of syscalls gives everything back. -/
theorem Coherent.commitSyscall (ht : Coherent cfg t) (data : SyscallEventData) :
    Coherent cfg
      { t with node := commitSyscall cfg t.node data, syscallHandler := .receiving } where
  watcher h := ⟨(ht.watcher h).1, rfl⟩
  handlers _ := rfl
  set mutex h := by cases h
  entering h := (commitSyscall_keeps cfg t.node data).2 ▸ ht.entering h
  found data mutex h := by cases h
  current data mutex h := by cases h

/-- A handler that holds nothing, and records nothing yet. -/
theorem Coherent.withSyscall (ht : Coherent cfg t) {place : SyscallAt}
    (hmap : place.holdsMap = false)
    (channel : List SyscallEventData) :
    Coherent cfg { t with syscallHandler := place, syscallChannel := channel } := by
  have hrecords : place.records = none := by cases place <;> first | rfl | cases hmap
  have hset : ∀ mutex, place.holdsSet mutex = false := by
    intro mutex
    cases place <;> first | rfl | cases hmap
  exact
    { watcher := fun h => ⟨(ht.watcher h).1, hmap⟩
      handlers := fun _ => hmap
      set := fun mutex h => by simp [hset] at h
      entering := ht.entering
      found := fun data mutex h => by simp [hrecords] at h
      current := fun data mutex h => by simp [hrecords] at h }

/-- The handler of syscalls goes on, through five places. The interesting one is `locked`: it looks
up the pod and picks the mutex of its set, and both stay right from there since it keeps the map. -/
theorem Coherent.handleSyscall (ht : Coherent cfg t) : Coherent cfg (t.handleSyscall cfg) := by
  unfold Tasks.handleSyscall
  split
  · split
    · exact ht
    · exact ht.withSyscall rfl _
  · split
    · exact ht
    · next hmap =>
      obtain ⟨hwatcher, hnetwork, -⟩ := mapLocked_eq_false_iff.mp (eq_false_of_ne_true hmap)
      exact
        { watcher := fun h => by simp [hwatcher] at h
          handlers := fun h => by simp [hnetwork] at h
          set := fun mutex h => by cases h
          entering := ht.entering
          found := fun data mutex h => by cases h
          current := fun data mutex h => by cases h }
  · next data hat =>
    have hholds : t.syscallHandler.holdsMap := by rw [hat]; rfl
    split
    · -- the pod and the name are found: it goes for the pod's set
      next podInspect name hpod hname =>
      exact
        { watcher := fun h => by simp [(ht.watcher h).2] at hholds
          handlers := fun h => by simp [ht.handlers h] at hholds
          set := fun mutex h => by cases h
          entering := ht.entering
          found := fun data' mutex h => by
            obtain ⟨rfl, rfl⟩ := Prod.mk.inj (Option.some.inj h)
            exact ⟨podInspect, hpod, rfl, by simp [hname]⟩
          current := fun data' mutex h => by
            obtain ⟨rfl, rfl⟩ := Prod.mk.inj (Option.some.inj h)
            exact ⟨le_refl _, fun hlt => absurd hlt (lt_irrefl _)⟩ }
    · exact ht.commitSyscall data
  · next data mutex hat =>
    have hholds : t.syscallHandler.holdsMap := by rw [hat]; rfl
    have hrecords : t.syscallHandler.records = some (data, mutex) := by rw [hat]; rfl
    split
    · exact ht
    · next hset =>
      exact
        { watcher := fun h => by simp [(ht.watcher h).2] at hholds
          handlers := fun h => by simp [ht.handlers h] at hholds
          set := fun mutex' h => by
            -- the recorder does not hold this set
            obtain rfl : mutex = mutex' := by simpa [SyscallAt.holdsSet] using h
            exact eq_false_of_ne_true hset
          entering := ht.entering
          found := fun data' mutex' h => ht.found data' mutex' (hrecords.trans h)
          current := fun data' mutex' h => ht.current data' mutex' (hrecords.trans h) }
  · split
    · exact ht.commitSyscall _
    · exact ht.withSyscall rfl _

/-- The sender may move as long as it does not take the set that the handler of syscalls has. -/
theorem Coherent.withRecorder (ht : Coherent cfg t) {recorder : RecorderAt}
    (hset : ∀ mutex, t.syscallHandler.holdsSet mutex → recorder.holdsSet mutex = false) :
    Coherent cfg { t with recorder := recorder } :=
  { ht with set := hset }

/-- The sender goes on. It takes the mutex of a set only if the handler of syscalls does not have
it. -/
theorem Coherent.record (ht : Coherent cfg t) : Coherent cfg t.record := by
  unfold Tasks.record
  split
  · exact ht
  · exact ht.withRecorder fun _ _ => rfl
  · exact ht.withRecorder fun _ _ => rfl
  · next mutex podNames hat =>
    split
    · exact ht
    · -- the handler does not hold the set it takes
      next hset =>
      refine ht.withRecorder fun mutex' h => decide_eq_false fun heq => hset ?_
      rw [show mutex = mutex' from heq]
      exact h
  · next mutex podNames hat =>
    refine ht.withRecorder fun mutex' h => ?_
    have hkept := ht.set mutex' h
    rw [hat] at hkept
    exact hkept
  · exact ht.withRecorder fun _ _ => rfl
  · exact ht.withRecorder fun _ _ => rfl

/-- The loop has no mutex, and leaves alone what the others look at. -/
theorem Coherent.withEbpf (ht : Coherent cfg t) {t' : Tasks τ}
    (hnode : t'.node.handler = t.node.handler ∧ t'.node.watching = t.node.watching
      ∧ t'.node.syscallCache = t.node.syscallCache)
    (hsame : t' = { t with
      node := t'.node
      ebpf := t'.ebpf
      networkChannel := t'.networkChannel
      syscallChannel := t'.syscallChannel }) : Coherent cfg t' := by
  obtain ⟨hhandler, hwatching, hcache⟩ := hnode
  rw [hsame]
  exact
    { ht.toExclusive with
      entering := fun h => hwatching ▸ ht.entering h
      found := fun data mutex h => hhandler ▸ ht.found data mutex h
      current := fun data mutex h => hcache ▸ ht.current data mutex h }

/-- The thread of the loop goes on, which no mutex concerns. -/
theorem Coherent.poll (ht : Coherent cfg t) (n : Option Nat) : Coherent cfg (t.poll cfg n) := by
  unfold Tasks.poll
  split
  · exact ht
  · split
    · -- the maps, the watcher's list and the cache stay
      split <;> exact ht.withEbpf ⟨rfl, rfl, rfl⟩ rfl
    · split
      · exact ht.withEbpf ⟨rfl, rfl, rfl⟩ rfl
      · exact ht
    · split <;> exact ht.withEbpf ⟨rfl, rfl, rfl⟩ rfl
    · split
      · exact ht.withEbpf ⟨rfl, rfl, rfl⟩ rfl
      · exact ht
    · split
      · refine ht.withEbpf ?_ rfl
        dsimp only [Node.updateSyscall]
        repeat' split
        all_goals exact ⟨rfl, rfl, rfl⟩
      · exact ht.withEbpf ⟨rfl, rfl, rfl⟩ rfl
      · refine ht.withEbpf ?_ rfl
        dsimp only [Node.receiveInode]
        repeat' split
        all_goals exact ⟨rfl, rfl, rfl⟩
    · refine ht.withEbpf ?_ rfl
      dsimp only [Node.receiveIp]
      repeat' split
      all_goals exact ⟨rfl, rfl, rfl⟩

/-- **One step keeps the tasks coherent**, whichever task it is that goes on. -/
theorem Coherent.step (ht : Coherent cfg t) (i : TaskInput τ) : Coherent cfg (t.step cfg i) := by
  unfold Tasks.step
  split
  · exact ht
  · cases i with
    | outside i => exact ht.outside i
    | tick podNames => exact ht.tick podNames
    | look => exact ht.look
    | watcher => exact ht.watch
    | network stamp sent => exact ht.handleNetwork stamp sent
    | syscall => exact ht.handleSyscall
    | recorder => exact ht.record
    | ebpf n => exact ht.poll n

/-- **The tasks stay coherent**, in whatever order they go on, by the step lemmas above, of which
there is one for each task. -/
theorem coherent_run (cfg : NodeConfig) (inputs : List (TaskInput τ)) :
    Coherent cfg (run (Tasks.step cfg) (Tasks.start τ) inputs) :=
  run_invariant _ coherent_start (fun _ i ht => ht.step i) inputs

/-! ## What is found under a mutex -/

/-- An effect of the watcher that writes no entry. -/
theorem containerMap_watch_of_not_insert {s : Node τ}
    (h : ∀ inum podInspect rest, s.watching ≠ .insertContainer inum podInspect :: rest) :
    s.watch.handler.containerMap = s.handler.containerMap := by
  unfold Node.watch
  split
  · rfl
  · rfl
  · rfl
  · next hwatching => exact absurd hwatching (h _ _ _)
  · rfl

/-- **Nobody writes an entry while the handler of syscalls holds the map**: the watcher alone writes
entries, and it holds the map when it does. -/
theorem Coherent.containerMap_step (ht : Coherent cfg t) (hheld : t.syscallHandler.holdsMap)
    (i : TaskInput τ) :
    (t.step cfg i).node.handler.containerMap = t.node.handler.containerMap := by
  -- the handler holds the map, so the watcher does not
  have hfree : t.watcher.holdsMap = false := by
    by_contra hlocked
    have hnone := (ht.watcher (by simpa using hlocked)).2
    rw [hheld] at hnone
    cases hnone
  unfold Tasks.step
  split
  · rfl
  · cases i with
    | outside i =>
      show (t.outside cfg i).node.handler.containerMap = _
      unfold Tasks.outside
      split
      · next hi => exact (leftToTasks_next hi).containerMap
      · rfl
    | tick podNames =>
      show (t.tick podNames).node.handler.containerMap = _
      unfold Tasks.tick
      split <;> rfl
    | look =>
      show t.look.node.handler.containerMap = _
      unfold Tasks.look
      split <;> rfl
    | watcher =>
      show t.watch.node.handler.containerMap = _
      unfold Tasks.watch
      split
      · split <;> rfl
      · rfl
      · -- the insert is the one writer, and it needs the lock
        next hlocked => simp [hlocked, WatcherAt.holdsMap] at hfree
      · split <;> rfl
      · next hwatching =>
        split
        · exact containerMap_watch_of_not_insert (by simp [hwatching])
        · rfl
      · next hwatching =>
        split
        · exact containerMap_watch_of_not_insert (by simp [hwatching])
        · rfl
      · next hwatching => exact containerMap_watch_of_not_insert (by simp [hwatching])
      · rfl
    | network stamp sent =>
      show (t.handleNetwork cfg stamp sent).node.handler.containerMap = _
      unfold Tasks.handleNetwork
      split
      · split <;> rfl
      · split <;> rfl
      · exact (commitNetwork_keeps cfg t.node _ stamp sent).1
    | syscall =>
      show (t.handleSyscall cfg).node.handler.containerMap = _
      unfold Tasks.handleSyscall
      split
      · split <;> rfl
      · split <;> rfl
      · split
        · rfl
        · exact (commitSyscall_keeps cfg t.node _).1
      · split <;> rfl
      · split
        · exact (commitSyscall_keeps cfg t.node _).1
        · rfl
    | recorder =>
      show t.record.node.handler.containerMap = _
      unfold Tasks.record
      split
      · rfl
      · rfl
      · rfl
      · split <;> rfl
      · rfl
      · rfl
      · rfl
    | ebpf n =>
      show (t.poll cfg n).node.handler.containerMap = _
      unfold Tasks.poll
      split
      · rfl
      · split
        · split <;> rfl
        · split <;> rfl
        · split <;> rfl
        · split <;> rfl
        · dsimp only [Node.updateSyscall, Node.receiveInode]
          repeat' split
          all_goals rfl
        · dsimp only [Node.receiveIp]
          repeat' split
          all_goals rfl

/-- No other task moves the handler of syscalls. -/
theorem syscallHandler_step {i : TaskInput τ} (hi : i ≠ .syscall) :
    (t.step cfg i).syscallHandler = t.syscallHandler := by
  unfold Tasks.step
  split
  · rfl
  · cases i with
    | outside i =>
      show (t.outside cfg i).syscallHandler = _
      unfold Tasks.outside
      split <;> rfl
    | tick podNames =>
      show (t.tick podNames).syscallHandler = _
      unfold Tasks.tick
      split <;> rfl
    | look =>
      show t.look.syscallHandler = _
      unfold Tasks.look
      split <;> rfl
    | watcher =>
      show t.watch.syscallHandler = _
      unfold Tasks.watch
      repeat' split
      all_goals rfl
    | network stamp sent =>
      show (t.handleNetwork cfg stamp sent).syscallHandler = _
      unfold Tasks.handleNetwork
      repeat' split
      all_goals rfl
    | syscall => exact absurd rfl hi
    | recorder =>
      show t.record.syscallHandler = _
      unfold Tasks.record
      repeat' split
      all_goals rfl
    | ebpf n =>
      show (t.poll cfg n).syscallHandler = _
      unfold Tasks.poll
      repeat' split
      all_goals rfl

/-- The handler of syscalls has the map for the event, and once it has looked, goes for the set of
the pod. -/
structure Pursues (data : SyscallEventData) (podInspect : PodInspect) (t : Tasks τ) : Prop where
  found : t.node.handler.containerMap.lookup data.inum = some podInspect
  place : t.syscallHandler = .locked data ∨ ∃ mutex,
    t.syscallHandler.records = some (data, mutex) ∧ mutex.1 = podInspect.status.podName

/-- All along, it has the map. -/
theorem Pursues.holdsMap {data : SyscallEventData} {podInspect : PodInspect}
    (h : t.Pursues data podInspect) : t.syscallHandler.holdsMap := by
  rcases h.place with hat | ⟨mutex, hrecords, -⟩
  · rw [hat]; rfl
  · cases hat : t.syscallHandler <;> simp_all [SyscallAt.records, SyscallAt.holdsMap]

/-- **One step**: the handler is still after the same set, or it has given the map back. -/
theorem Pursues.step {data : SyscallEventData} {podInspect : PodInspect} (ht : Coherent cfg t)
    (h : t.Pursues data podInspect) {i : TaskInput τ}
    (hheld : (t.step cfg i).syscallHandler.holdsMap) :
    (t.step cfg i).Pursues data podInspect := by
  refine ⟨(ht.containerMap_step h.holdsMap i).symm ▸ h.found, ?_⟩
  by_cases hi : i = .syscall
  · subst hi
    cases hpanicked : t.node.panicked with
    | true =>
      have hsame : t.step cfg .syscall = t := if_pos hpanicked
      rw [hsame]
      exact h.place
    | false =>
      have hstep : t.step cfg .syscall = t.handleSyscall cfg := if_neg (by simp [hpanicked])
      rw [hstep] at hheld ⊢
      unfold Tasks.handleSyscall at hheld ⊢
      rcases h.place with hat | ⟨mutex, hrecords, hname⟩
      · rw [hat] at hheld ⊢
        simp only [h.found] at hheld ⊢
        split at hheld
        · next podInspect' name hpod hname =>
          -- the map has not changed since the look-up, so it is the same pod
          obtain rfl := Option.some.inj hpod
          exact .inr ⟨(podInspect.status.podName, t.dropped podInspect.status.podName), rfl, rfl⟩
        · cases hheld
      · cases hat : t.syscallHandler with
        | lockingSet data' mutex' =>
          rw [hat] at hrecords
          cases hrecords
          dsimp only
          split
          · exact .inr ⟨mutex, by rw [hat]; rfl, hname⟩
          · exact .inr ⟨mutex, rfl, hname⟩
        | lockedSet data' mutex' =>
          rw [hat] at hheld
          dsimp only at hheld
          split at hheld <;> cases hheld
        | _ => simp [hat, SyscallAt.records] at hrecords
  · rw [syscallHandler_step hi]
    exact h.place

/-- So it is in a run in which the handler does not give the map back. -/
theorem pursues_run {data : SyscallEventData} {podInspect : PodInspect} (ht : Coherent cfg t)
    (h : t.Pursues data podInspect) {inputs : List (TaskInput τ)}
    (hheld : Always (Tasks.step cfg) (fun t => t.syscallHandler.holdsMap) t inputs) :
    (run (Tasks.step cfg) t inputs).Pursues data podInspect := by
  induction inputs generalizing t with
  | nil => exact h
  | cons i inputs ih => exact ih (ht.step i) (h.step ht hheld.2.head) hheld.2

/-- What the handler of syscalls writes when it finds the pod and the name. -/
theorem commitSyscall_of_found {s : Node τ} {data : SyscallEventData} {podInspect : PodInspect}
    {syscallName : String} (hpod : s.handler.containerMap.lookup data.inum = some podInspect)
    (hname : cfg.host.syscallName data.sysnbr = some syscallName) :
    commitSyscall cfg s data
      = { s with
          syscallCache := s.syscallCache.insert podInspect.status.podName
            ((SyscallCache.get s.syscallCache podInspect.status.podName).insert syscallName) } := by
  unfold commitSyscall Node.handleSyscallEvent
  simp [hpod, processSyscallEvent, hname]

/-- The pod `web` is registered under the number 6 and makes a syscall, and the handler has received
its event and taken the map. -/
def syscallReceived : List (TaskInput Unit) :=
  [.outside (.apply shopPod fun _ => some 6), .watcher, .watcher, .watcher, .watcher,
    .ebpf none, .ebpf none, .ebpf none, .ebpf none, .ebpf none, .outside (.syscall 6 0),
    .ebpf none, .ebpf (some 0), .ebpf none, .syscall, .syscall]

/-- Another pod with the number comes up, and the watcher has to wait for the map. -/
def otherPodComes : List (TaskInput Unit) :=
  [.outside (.apply { shopPod with name := "proxy" } fun _ => some 6), .syscall, .watcher, .watcher,
    .syscall]

end Tasks

end KubeGuardian.Controller
