import KubeGuardian.Controller.EbpfLoop
import KubeGuardian.Controller.PodWatcher
import KubeGuardian.Controller.Syscall
import KubeGuardian.Controller.TrafficCache

/-!
# The controller on one node

The tasks that `main` of `controller/src/main.rs` joins, with the probes in the kernel: the pod
watcher, the eBPF loop and the two handlers of events take turns with the probes in any order. They
share the map of containers, which is locked for one entry or one event at a time, and otherwise
pass messages: two channels from the watcher to the loop, and the events, which arrive in any order
since every CPU has a buffer of its own, and are lost where a buffer is full.

* **`registerInode_ebpfMaps`**, **`ignoreIp_ebpfMaps`** — what the loop does here with a message,
  update by update, is what `ebpf_handle` does with it;
* **`always_registered`** — every namespace that a probe monitors has its entry in the map of
  containers, and so has every event that waits, in every state of every run.
-/

namespace KubeGuardian.Controller

open Lib

structure NodeConfig extends WatcherConfig where
  endian : Endian
  host : Host

/-- Where the eBPF loop is: a number goes into the map of the network probes first, then into that
of the syscall probe. -/
inductive Loop where
  | waiting
  | halfway (inum : UInt64)
  /-- An `unwrap` has failed; the probes are detached. -/
  | ended
  deriving DecidableEq

/-- The state of all of them. A network event bears a tag for what the run is asked about it, which
the code does not have; nor does it have the fields from `applied` on. -/
structure Node (τ : Type*) where
  handler : Handler
  syscallCache : SyscallCache
  /-- What the watcher has still to do for the pod that it is at. -/
  watching : List WatcherEffect
  inodes : List UInt64
  ips : List String
  loop : Loop
  network : NetworkMaps
  syscallInodeNum : BoundedMap UInt64 UInt32 maxEntries
  networkEvents : List (τ × NetworkEventData)
  syscallEvents : List SyscallEventData
  panicked : Bool
  /-- The pods that the watcher was given. -/
  applied : List PodObject
  /-- The addresses that the loop has received. -/
  taken : List String
  /-- The calls whose events the ignore list has kept back. -/
  suppressed : List τ
  posted : List (τ × PodTraffic)
  /-- The namespaces of events that were handled without an entry in the map of containers. -/
  discarded : List UInt64

def Node.start (τ : Type*) : Node τ where
  handler := .start
  syscallCache := ∅
  watching := []
  inodes := []
  ips := []
  loop := .waiting
  network := .start
  syscallInodeNum := .empty
  networkEvents := []
  syscallEvents := []
  panicked := false
  applied := []
  taken := []
  suppressed := []
  posted := []
  discarded := []

/-- What can happen next. A call of the kernel comes with its tag and with the sockets as they are
then, and the handling of an event with its place in the queue. -/
inductive NodeInput (τ : Type*) where
  | apply (pod : PodObject) (runtime : Runtime)
  | delete (pod : PodObject)
  | watch
  | receiveInode
  | updateSyscall
  | receiveIp
  | network (tag : τ) (mem : Memory) (call : ProbeCall)
  | syscall (netNs : UInt64) (id : Int64)
  | handleNetwork (n : Nat) (stamp : Stamp) (sent : Sent)
  | handleSyscall (n : Nat)
  | loseNetwork (n : Nat)
  | loseSyscall (n : Nat)
  | evict (key : TrafficKey)
  | evictSyscalls (podName : String)

/-! ## Steps

One definition for each thing that a task does in one go. A step that has nothing to do leaves the
state as it is, so every input makes sense in every state.
-/

/-- The call is reported if there is nothing to ignore, and not as it is. -/
def Suppresses (endian : Endian) (maps : NetworkMaps) (mem : Memory) (call : ProbeCall) : Prop :=
  (fire endian maps mem call).2.isNone
    ∧ (fire endian { maps with ignoreIps := .empty } mem call).2.isSome

instance (endian : Endian) (maps : NetworkMaps) (mem : Memory) (call : ProbeCall) :
    Decidable (Suppresses endian maps mem call) :=
  inferInstanceAs (Decidable (_ ∧ _))

namespace Node

variable {τ : Type*}

/-- The watcher takes the next pod when it is done with the one before. -/
def apply (cfg : NodeConfig) (s : Node τ) (pod : PodObject) (runtime : Runtime) : Node τ :=
  if s.watching = [] then
    { s with
      watching := watchPods cfg.toWatcherConfig runtime pod
      applied := s.applied ++ [pod] }
  else s

def watch (s : Node τ) : Node τ :=
  match s.watching with
  | [] => s
  | .postDetails _ :: rest => { s with watching := rest }
  | .sendIp podIp :: rest => { s with watching := rest, ips := s.ips ++ [podIp] }
  -- under the lock; an entry of another pod is overwritten
  | .insertContainer inum podInspect :: rest =>
    { s with
      watching := rest
      handler := { s.handler with
        containerMap := s.handler.containerMap.insert inum podInspect } }
  | .sendInode inum :: rest => { s with watching := rest, inodes := s.inodes ++ [inum] }

/-- The loop takes an inode from the channel and updates the first map with it. -/
def receiveInode (s : Node τ) : Node τ :=
  match s.loop, s.inodes with
  | .waiting, inum :: inodes =>
    match s.network.inodeNum.update inum 1 with
    -- the other map comes in a step of its own
    | some inodeNum =>
      { s with inodes := inodes, network := { s.network with inodeNum }, loop := .halfway inum }
    | none => { s with inodes := inodes, loop := .ended }
  | _, _ => s

/-- The second map follows, in a step of its own. -/
def updateSyscall (s : Node τ) : Node τ :=
  match s.loop with
  | .halfway inum =>
    match s.syscallInodeNum.update inum 1 with
    | some syscallInodeNum => { s with syscallInodeNum, loop := .waiting }
    | none => { s with loop := .ended }
  | _ => s

/-- The loop takes an address from the channel; without the flag there is no such branch. -/
def receiveIp (cfg : NodeConfig) (s : Node τ) : Node τ :=
  match s.loop, s.ips with
  | .waiting, ip :: ips =>
    if cfg.ignoreDaemonsetTraffic then
      -- a text that is no IPv4 address fails as a full map does
      let s := { s with ips := ips, taken := s.taken ++ [ip] }
      match (ipv4FromStr ip).bind fun ip => s.network.ignoreIps.update (toBe cfg.endian ip) 1 with
      | some ignoreIps => { s with network := { s.network with ignoreIps } }
      | none => { s with loop := .ended }
    else s
  | _, _ => s

/-- A call that a network probe is attached to. -/
def networkCall (cfg : NodeConfig) (s : Node τ) (tag : τ) (mem : Memory) (call : ProbeCall) :
    Node τ :=
  if s.loop = .ended then s
  else
    let (network, event) := fire cfg.endian s.network mem call
    { s with
      network := network
      networkEvents := s.networkEvents ++ event.toList.map (tag, ·)
      suppressed := if Suppresses cfg.endian s.network mem call then s.suppressed ++ [tag]
        else s.suppressed }

def syscallCall (s : Node τ) (netNs : UInt64) (id : Int64) : Node τ :=
  if s.loop = .ended then s
  else
    match traceExecve s.syscallInodeNum.keySet netNs id with
    | none => s
    | some data => { s with syscallEvents := s.syscallEvents ++ [.ofBytes data.bytes] }

/-- One round of `handle_network_events`. -/
def handleNetworkEvent (cfg : NodeConfig) (s : Node τ) (n : Nat) (stamp : Stamp) (sent : Sent) :
    Node τ :=
  match s.networkEvents[n]? with
  | none => s
  | some (tag, data) =>
    let s := { s with networkEvents := s.networkEvents.eraseIdx n }
    match s.handler.containerMap.lookup data.inum with
    | none => { s with discarded := s.discarded ++ [data.inum] }
    | some podInspect =>
      { s with
        handler := Controller.step cfg.endian s.handler (.event data stamp sent)
        posted := s.posted ++ (processNetworkEvent cfg.endian stamp sent s.handler.cache data
          podInspect).2.toList.map (tag, ·) }

/-- One round of `handle_syscall_events`. -/
def handleSyscallEvent (cfg : NodeConfig) (s : Node τ) (n : Nat) : Node τ :=
  match s.syscallEvents[n]? with
  | none => s
  | some data =>
    let s := { s with syscallEvents := s.syscallEvents.eraseIdx n }
    match s.handler.containerMap.lookup data.inum with
    | none => { s with discarded := s.discarded ++ [data.inum] }
    | some podInspect =>
      match processSyscallEvent cfg.host s.syscallCache data podInspect with
      -- the join of `main` ends the other tasks with this one
      | none => { s with panicked := true }
      | some syscallCache => { s with syscallCache }

def next (cfg : NodeConfig) (s : Node τ) : NodeInput τ → Node τ
  | .apply pod runtime => s.apply cfg pod runtime
  -- `applied_objects` leaves out what is deleted
  | .delete _ => s
  | .watch => s.watch
  | .receiveInode => s.receiveInode
  | .updateSyscall => s.updateSyscall
  | .receiveIp => s.receiveIp cfg
  | .network tag mem call => s.networkCall cfg tag mem call
  | .syscall netNs id => s.syscallCall netNs id
  | .handleNetwork n stamp sent => s.handleNetworkEvent cfg n stamp sent
  | .handleSyscall n => s.handleSyscallEvent cfg n
  | .loseNetwork n => { s with networkEvents := s.networkEvents.eraseIdx n }
  | .loseSyscall n => { s with syscallEvents := s.syscallEvents.eraseIdx n }
  | .evict key => { s with handler := Controller.step cfg.endian s.handler (.evict key) }
  | .evictSyscalls podName => { s with syscallCache := s.syscallCache.erase podName }

/-- A node that has panicked takes no further step. -/
def step (cfg : NodeConfig) (s : Node τ) (i : NodeInput τ) : Node τ :=
  if s.panicked then s else s.next cfg i

/-- Without a panic a step is what its input says. -/
theorem step_of_running {s : Node τ} (h : s.panicked = false) (cfg : NodeConfig)
    (i : NodeInput τ) : s.step cfg i = s.next cfg i := by
  simp [step, h]

end Node

/-! ## The loop's messages

`Controller.EbpfLoop` has the loop take a whole message at once. Here the two updates of a number
are steps of their own, and together they do the same.
-/

section Messages

variable {τ : Type*} {cfg : NodeConfig} {s : Node τ}

def Node.ebpfMaps (s : Node τ) : EbpfMaps := ⟨s.network, s.syscallInodeNum⟩

/-- **The two updates make up what the loop does with a number**, which it survives together with
both. -/
theorem registerInode_ebpfMaps {inum : UInt64} {inodes : List UInt64} (hloop : s.loop = .waiting)
    (hinodes : s.inodes = inum :: inodes) :
    s.ebpfMaps.registerInode inum
      = if s.receiveInode.updateSyscall.loop = .waiting then
          some s.receiveInode.updateSyscall.ebpfMaps
        else none := by
  unfold EbpfMaps.registerInode Node.ebpfMaps Node.receiveInode
  simp only [hloop, hinodes]
  cases hnetwork : s.network.inodeNum.update inum 1 with
  | none => simp [Node.updateSyscall]
  | some inodeNum =>
    cases hsyscall : s.syscallInodeNum.update inum 1 <;> simp [Node.updateSyscall, hsyscall]

/-- **An address is taken in one step**, which is what the loop does with it. -/
theorem ignoreIp_ebpfMaps {ip : String} {ips : List String} (hloop : s.loop = .waiting)
    (hips : s.ips = ip :: ips) (hflag : cfg.ignoreDaemonsetTraffic = true) :
    s.ebpfMaps.ignoreIp cfg.endian ip
      = if (s.receiveIp cfg).loop = .waiting then some (s.receiveIp cfg).ebpfMaps else none := by
  unfold EbpfMaps.ignoreIp Node.ebpfMaps Node.receiveIp
  simp only [hloop, hips, hflag, if_true]
  cases hparse : ipv4FromStr ip with
  | none => simp
  | some address =>
    cases hupdate : s.network.ignoreIps.update (toBe cfg.endian address) 1 <;>
      simp [hupdate]

end Messages

/-! ## What most inputs leave alone

One frame condition for all the inputs that an invariant about entries, events or addresses has
nothing to do with.
-/

section Untouched

variable {τ : Type*} {cfg : NodeConfig} {s s' : Node τ}

/-- No entry is written, no network event is put in or handled, no pod is taken on, and the ignore
list, with what is on its way to it, is not touched. -/
structure Untouched (s s' : Node τ) : Prop where
  containerMap : s'.handler.containerMap = s.handler.containerMap
  ignoreIps : s'.network.ignoreIps = s.network.ignoreIps
  networkEvents : s'.networkEvents ⊆ s.networkEvents
  watching : s'.watching = s.watching
  ips : s'.ips = s.ips
  applied : s'.applied = s.applied
  taken : s'.taken = s.taken
  suppressed : s'.suppressed = s.suppressed
  posted : s'.posted = s.posted
  loop : s'.loop ≠ .ended → s.loop ≠ .ended

theorem Untouched.refl (s : Node τ) : Untouched s s :=
  ⟨rfl, rfl, List.Subset.refl _, rfl, rfl, rfl, rfl, rfl, rfl, id⟩

/-- Registering a number leaves entries, events and addresses alone. -/
theorem untouched_receiveInode : Untouched s s.receiveInode := by
  unfold Node.receiveInode
  split
  · next inum inodes hloop _ =>
    have hrunning : s.loop ≠ .ended := by simp [hloop]
    split <;> exact { Untouched.refl s with loop := fun _ => hrunning }
  · exact .refl s

theorem untouched_updateSyscall : Untouched s s.updateSyscall := by
  unfold Node.updateSyscall
  split
  · next inum hloop =>
    have hrunning : s.loop ≠ .ended := by simp [hloop]
    split <;> exact { Untouched.refl s with loop := fun _ => hrunning }
  · exact .refl s

/-- A syscall is nothing to the network probes. -/
theorem untouched_syscallCall (netNs : UInt64) (id : Int64) :
    Untouched s (s.syscallCall netNs id) := by
  unfold Node.syscallCall
  split
  · exact .refl s
  · split <;> exact { Untouched.refl s with }

/-- Nor is the handling of its event, which looks at an entry and writes none. -/
theorem untouched_handleSyscallEvent (n : Nat) : Untouched s (s.handleSyscallEvent cfg n) := by
  unfold Node.handleSyscallEvent
  split
  · exact .refl s
  · simp only
    split
    · exact { Untouched.refl s with }
    · split <;> exact { Untouched.refl s with }

/-- The inputs that have to do with neither of the two channels from the watcher nor the network
events that are put in and handled. -/
def NodeInput.Aside : NodeInput τ → Prop
  | .apply _ _ | .watch | .receiveIp | .network _ _ _ | .handleNetwork _ _ _ => False
  | _ => True

/-- **An input aside leaves most of the state alone.** -/
theorem untouched_next {i : NodeInput τ} (hi : i.Aside) : Untouched s (s.next cfg i) := by
  cases i with
  | delete pod => exact .refl s
  | receiveInode => exact untouched_receiveInode
  | updateSyscall => exact untouched_updateSyscall
  | syscall netNs id => exact untouched_syscallCall netNs id
  | handleSyscall n => exact untouched_handleSyscallEvent n
  | loseNetwork n =>
    exact { Untouched.refl s with networkEvents := fun _ h => List.mem_of_mem_eraseIdx h }
  | loseSyscall n => exact { Untouched.refl s with }
  | evict key => exact { Untouched.refl s with }
  | evictSyscalls podName => exact { Untouched.refl s with }
  | _ => exact absurd hi id

end Untouched

/-! ## Entries come first

The order in which the watcher and the loop do things, as an invariant: the entry is written before
the number is sent, and the number is sent before a probe knows it.
-/

section Registered

variable {τ : Type*} {cfg : NodeConfig} {s : Node τ}

/-- Every namespace in the map of either probe has its entry, every event that waits finds it, and
no event was handled without one. -/
structure Registered (s : Node τ) : Prop where
  network : ∀ inum ∈ s.network.inodeNum.keySet, inum ∈ s.handler.containerMap
  syscall : ∀ inum ∈ s.syscallInodeNum.keySet, inum ∈ s.handler.containerMap
  networkEvents : ∀ event ∈ s.networkEvents, (s.handler.containerMap.lookup event.2.inum).isSome
  syscallEvents : ∀ event ∈ s.syscallEvents, (s.handler.containerMap.lookup event.inum).isSome
  discarded : s.discarded = []

/-- What keeps it so: a number is on its way from the watcher to the maps with its entry written. -/
structure EntriesFirst (s : Node τ) : Prop extends Registered s where
  watching : Announced {inum | inum ∈ s.handler.containerMap} s.watching
  inodes : ∀ inum ∈ s.inodes, inum ∈ s.handler.containerMap
  halfway : ∀ inum, s.loop = .halfway inum → inum ∈ s.handler.containerMap

/-- At the start nothing is registered and nothing waits. -/
theorem entriesFirst_start : EntriesFirst (Node.start τ) where
  network inum h := by cases h
  syscall inum h := by cases h
  networkEvents event h := by cases h
  syscallEvents event h := by cases h
  discarded := rfl
  watching := trivial
  inodes inum h := by cases h
  halfway inum h := by cases h

/-- Handling an event writes no entry. -/
theorem containerMap_step_event (host : Endian) (h : Handler) (data : NetworkEventData)
    (stamp : Stamp) (sent : Sent) :
    (step host h (.event data stamp sent)).containerMap = h.containerMap := by
  simp only [step]
  split <;> rfl

/-- With more entries written, what was announced still is. -/
theorem Announced.mono {registered registered' : Set UInt64} (h : registered ⊆ registered')
    {effects : List WatcherEffect} (heffects : Announced registered effects) :
    Announced registered' effects := by
  induction effects generalizing registered registered' with
  | nil => trivial
  | cons effect rest ih =>
    cases effect with
    | postDetails z => exact ih h heffects
    | sendIp podIp => exact ih h heffects
    | insertContainer inum podInspect => exact ih (Set.insert_subset_insert h) heffects
    | sendInode inum => exact ⟨h heffects.1, ih h heffects.2⟩

/-- The watcher takes on a pod. Its effects have the entry before the number. -/
theorem EntriesFirst.apply (hs : EntriesFirst s) (pod : PodObject) (runtime : Runtime) :
    EntriesFirst (s.apply cfg pod runtime) := by
  unfold Node.apply
  split
  · exact { hs with watching := announced_watchPods _ runtime pod _ }
  · exact hs

theorem EntriesFirst.insertContainer (hs : EntriesFirst s) {inum : UInt64}
    {podInspect : PodInspect} {rest : List WatcherEffect}
    (hrest : s.watching = .insertContainer inum podInspect :: rest) :
    EntriesFirst { s with
      watching := rest
      handler := { s.handler with
        containerMap := s.handler.containerMap.insert inum podInspect } } := by
  have hgrow : ∀ {i}, i ∈ s.handler.containerMap →
      i ∈ s.handler.containerMap.insert inum podInspect :=
    fun hi => (AList.mem_insert _).mpr (.inr hi)
  have hfound : ∀ {i}, (s.handler.containerMap.lookup i).isSome →
      ((s.handler.containerMap.insert inum podInspect).lookup i).isSome :=
    fun hi => AList.lookup_isSome.mpr (hgrow (AList.lookup_isSome.mp hi))
  have hwatching := hs.watching
  rw [hrest] at hwatching
  exact
    { network := fun i hi => hgrow (hs.network i hi)
      syscall := fun i hi => hgrow (hs.syscall i hi)
      networkEvents := fun event hevent => hfound (hs.networkEvents event hevent)
      syscallEvents := fun event hevent => hfound (hs.syscallEvents event hevent)
      discarded := hs.discarded
      watching := hwatching.mono fun i hi => (AList.mem_insert _).mpr hi
      inodes := fun i hi => hgrow (hs.inodes i hi)
      halfway := fun i hi => hgrow (hs.halfway i hi) }

/-- It goes through with one of them: the entry is written, or the number sent that has one. -/
theorem EntriesFirst.watch (hs : EntriesFirst s) : EntriesFirst s.watch := by
  have hwatching := hs.watching
  unfold Node.watch
  split
  · exact hs
  · next hrest =>
    rw [hrest] at hwatching
    exact { hs with watching := hwatching }
  · next hrest =>
    rw [hrest] at hwatching
    exact { hs with watching := hwatching }
  · next hrest => exact hs.insertContainer hrest
  · next inum rest hrest =>
    rw [hrest] at hwatching
    -- the number is sent with its entry written
    refine { hs with watching := hwatching.2, inodes := fun i hi => ?_ }
    rcases List.mem_append.mp hi with hi | hi
    · exact hs.inodes i hi
    · rw [List.mem_singleton.mp hi]
      exact hwatching.1

/-- The number goes into the map of the network probes, and is remembered halfway. -/
theorem EntriesFirst.receiveInode (hs : EntriesFirst s) : EntriesFirst s.receiveInode := by
  unfold Node.receiveInode
  split
  · next inum inodes hloop hinodes =>
    have hinum : inum ∈ s.handler.containerMap := hs.inodes inum (by simp [hinodes])
    have hrest : ∀ i ∈ inodes, i ∈ s.handler.containerMap :=
      fun i hi => hs.inodes i (by simp [hinodes, hi])
    split
    · next inodeNum hupdate =>
      refine { hs with network := fun i hi => ?_, inodes := hrest, halfway := ?_ }
      · rw [BoundedMap.keySet_of_update hupdate] at hi
        rcases Finset.mem_insert.mp hi with rfl | hi
        · exact hinum
        · exact hs.network i hi
      · rintro i hi
        cases hi
        exact hinum
    · exact { hs with inodes := hrest, halfway := fun i hi => by cases hi }
  · exact hs

/-- The number that is halfway goes into the map of the syscall probe. -/
theorem EntriesFirst.updateSyscall (hs : EntriesFirst s) : EntriesFirst s.updateSyscall := by
  unfold Node.updateSyscall
  split
  · next inum hloop =>
    split
    · next syscallInodeNum hupdate =>
      refine { hs with syscall := fun i hi => ?_, halfway := fun i hi => by cases hi }
      rw [BoundedMap.keySet_of_update hupdate] at hi
      rcases Finset.mem_insert.mp hi with rfl | hi
      · exact hs.halfway i hloop
      · exact hs.syscall i hi
    · exact { hs with halfway := fun i hi => by cases hi }
  · exact hs

/-- An address has nothing to do with it. -/
theorem EntriesFirst.receiveIp (hs : EntriesFirst s) : EntriesFirst (s.receiveIp cfg) := by
  unfold Node.receiveIp
  split
  · split
    · simp only
      split
      · exact { hs with }
      · exact { hs with halfway := fun i hi => by cases hi }
    · exact hs
  · exact hs

/-- An event comes from a monitored namespace, which has its entry. -/
theorem EntriesFirst.networkCall (hs : EntriesFirst s) (tag : τ) (mem : Memory)
    (call : ProbeCall) : EntriesFirst (s.networkCall cfg tag mem call) := by
  unfold Node.networkCall
  split
  · exact hs
  · refine { hs with network := fun i hi => ?_, networkEvents := fun event hevent => ?_ }
    · have hkeep := (fire_keeps cfg.endian s.network mem call).1
      exact hs.network i (hkeep ▸ hi)
    · rcases List.mem_append.mp hevent with hevent | hevent
      · exact hs.networkEvents event hevent
      -- a new event is of a namespace that the probe has found in its map
      · obtain ⟨data, hdata, rfl⟩ := List.mem_map.mp hevent
        have hmem := mem_inodeNum_of_fire (Option.mem_toList.mp hdata)
        exact AList.lookup_isSome.mpr (hs.network _ hmem)

theorem EntriesFirst.syscallCall (hs : EntriesFirst s) (netNs : UInt64) (id : Int64) :
    EntriesFirst (s.syscallCall netNs id) := by
  unfold Node.syscallCall
  split
  · exact hs
  · by_cases hmem : netNs ∈ s.syscallInodeNum.keySet
    · rw [traceExecve, if_pos hmem]
      refine { hs with syscallEvents := fun event hevent => ?_ }
      rcases List.mem_append.mp hevent with hevent | hevent
      · exact hs.syscallEvents event hevent
      · rw [List.mem_singleton.mp hevent, ofBytes_bytes]
        exact AList.lookup_isSome.mpr (hs.syscall _ hmem)
    · rw [traceExecve, if_neg hmem]
      exact hs

/-- An event that waits has its entry, so none is discarded when it is handled. -/
theorem EntriesFirst.handleNetworkEvent (hs : EntriesFirst s) (n : Nat) (stamp : Stamp)
    (sent : Sent) : EntriesFirst (s.handleNetworkEvent cfg n stamp sent) := by
  unfold Node.handleNetworkEvent
  split
  · exact hs
  · next tag data hevent =>
    obtain ⟨podInspect, hpod⟩ := Option.isSome_iff_exists.mp
      (hs.networkEvents _ (List.mem_of_getElem? hevent))
    -- the event is taken out of the queue, and no entry goes
    have hkeep := containerMap_step_event cfg.endian s.handler data stamp sent
    have hrest : ∀ event ∈ s.networkEvents.eraseIdx n, event ∈ s.networkEvents :=
      fun event h => List.mem_of_mem_eraseIdx h
    simp only [hpod]
    exact
      { network := fun i hi => hkeep ▸ hs.network i hi
        syscall := fun i hi => hkeep ▸ hs.syscall i hi
        networkEvents := fun event h => hkeep ▸ hs.networkEvents event (hrest event h)
        syscallEvents := fun event h => hkeep ▸ hs.syscallEvents event h
        discarded := hs.discarded
        watching := hkeep ▸ hs.watching
        inodes := fun i hi => hkeep ▸ hs.inodes i hi
        halfway := fun i hi => hkeep ▸ hs.halfway i hi }

theorem EntriesFirst.handleSyscallEvent (hs : EntriesFirst s) (n : Nat) :
    EntriesFirst (s.handleSyscallEvent cfg n) := by
  unfold Node.handleSyscallEvent
  split
  · exact hs
  · next data hevent =>
    obtain ⟨podInspect, hpod⟩ := Option.isSome_iff_exists.mp
      (hs.syscallEvents _ (List.mem_of_getElem? hevent))
    have hrest : ∀ event ∈ s.syscallEvents.eraseIdx n,
        (s.handler.containerMap.lookup event.inum).isSome :=
      fun event h => hs.syscallEvents event (List.mem_of_mem_eraseIdx h)
    simp only [hpod]
    split
    · exact { hs with syscallEvents := hrest }
    · exact { hs with syscallEvents := hrest }

/-- **Every step keeps the order**: entry, number, maps, events. -/
theorem EntriesFirst.step (hs : EntriesFirst s) (i : NodeInput τ) :
    EntriesFirst (s.step cfg i) := by
  unfold Node.step
  split
  · exact hs
  · cases i with
    | apply pod runtime => exact hs.apply pod runtime
    | delete pod => exact hs
    | watch => exact hs.watch
    | receiveInode => exact hs.receiveInode
    | updateSyscall => exact hs.updateSyscall
    | receiveIp => exact hs.receiveIp
    | network tag mem call => exact hs.networkCall tag mem call
    | syscall netNs id => exact hs.syscallCall netNs id
    | handleNetwork n stamp sent => exact hs.handleNetworkEvent n stamp sent
    | handleSyscall n => exact hs.handleSyscallEvent n
    | loseNetwork n =>
      exact { hs with
        networkEvents := fun event h => hs.networkEvents event (List.mem_of_mem_eraseIdx h) }
    | loseSyscall n =>
      exact { hs with
        syscallEvents := fun event h => hs.syscallEvents event (List.mem_of_mem_eraseIdx h) }
    | evict key => exact { hs with }
    | evictSyscalls podName => exact { hs with }

/-- **The registration order is safe**, however the tasks and the probes interleave. -/
theorem always_registered (cfg : NodeConfig) (inputs : List (NodeInput τ)) :
    Always (Node.step cfg) Registered (Node.start τ) inputs := by
  have hfirst : Always (Node.step cfg) EntriesFirst (Node.start τ) inputs :=
    always_of_step entriesFirst_start (fun s i hs => hs.step i) inputs
  exact hfirst.imp fun s hs => hs.toRegistered

end Registered

/-! ## One node of a shop -/

/-- The node that the runs on fixed inputs are about, in the modules that import this one. -/
def shopConfig : NodeConfig where
  excludedNamespaces := ["kube-system"]
  ignoreDaemonsetTraffic := true
  endian := .little
  host := ⟨"x86_64", fun _ _ => none⟩

/-- A pod that the watcher of the node is given in most of them. -/
def shopPod : PodObject where
  name := "web"
  ns := some "shop"
  ownerReferences := some ["ReplicaSet"]
  status := ⟨some "10.0.0.5", none, some [some "containerd://a1"]⟩

end KubeGuardian.Controller
