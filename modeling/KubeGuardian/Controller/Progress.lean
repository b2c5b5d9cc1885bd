import KubeGuardian.Controller.Atomic
import KubeGuardian.Lib.Fair

/-!
# The tasks get everything done

A task can have to wait for another at a mutex or at a channel, and hold a mutex while it does: the
handler of syscalls waits for the set of a pod with the map of containers in its hand. None of this
comes to a standstill, since the sender takes no second mutex that somebody else could have, and the
loop of `ebpf_handle`, which the watcher and the handlers wait for, waits for the handlers only.

* **`idle_of_waits`** — so they do not all wait unless there is nothing to do;
* **`finished_of_rounds`** — from every state that can be reached, and however the tasks take turns,
  there is nothing left after as many rounds as there is work for.
-/

namespace KubeGuardian.Controller

open Lib

inductive Task where
  | watcher
  | networkHandler
  | syscallHandler
  | recorder
  | ebpf
  deriving DecidableEq

/-- Whose turn it is. -/
def TaskInput.task {τ : Type*} : TaskInput τ → Option Task
  | .outside _ | .tick _ | .look => none
  | .watcher => some .watcher
  | .network _ _ => some .networkHandler
  | .syscall => some .syscallHandler
  | .recorder => some .recorder
  | .ebpf _ => some .ebpf

/-! ## What the loop finds

The loop polls four things in turn. What it finds at a place decides whether its turn does
something, or only moves it on.
-/

namespace EbpfAt

variable {τ : Type*}

def after : EbpfAt τ → EbpfAt τ
  | .network => .syscall
  | .syscall => .inode
  | .inode => .ip
  | .ip => .network
  -- the buffer is polled again
  | .sendingNetwork _ => .network
  | .sendingSyscall _ => .syscall

def Sending : EbpfAt τ → Prop
  | .sendingNetwork _ | .sendingSyscall _ => True
  | _ => False

/-- There is something at this place of the loop. -/
def finds (cfg : NodeConfig) (s : Node τ) : EbpfAt τ → Bool
  | .network => !s.networkEvents.isEmpty
  | .syscall => !s.syscallEvents.isEmpty
  | .inode =>
    match s.loop with
    | .halfway _ => true
    | _ => !s.inodes.isEmpty
  | .ip => s.loop = .waiting && cfg.ignoreDaemonsetTraffic && !s.ips.isEmpty
  | .sendingNetwork _ | .sendingSyscall _ => true

/-- Neither there nor at the places that follow. -/
def FindsNothing (cfg : NodeConfig) (s : Node τ) (place : EbpfAt τ) : Prop :=
  place.finds cfg s = false ∧ place.after.finds cfg s = false
    ∧ place.after.after.finds cfg s = false ∧ place.after.after.after.finds cfg s = false

/-- How far the loop is from a place where there is something. -/
def distance (cfg : NodeConfig) (s : Node τ) (place : EbpfAt τ) : ℕ :=
  if place.finds cfg s then 0
  else if place.after.finds cfg s then 1
  else if place.after.after.finds cfg s then 2
  else if place.after.after.after.finds cfg s then 3
  else 0

end EbpfAt

namespace Tasks

variable {τ : Type*}

/-- A turn of a task. The loop finds an event in a buffer that is not empty. -/
def OnTurn (t : Tasks τ) : TaskInput τ → Prop
  | .outside _ | .tick _ | .look => False
  | .ebpf n =>
    match t.ebpf with
    | .network => t.node.networkEvents ≠ [] → ∃ m ∈ n, m < t.node.networkEvents.length
    | .syscall => t.node.syscallEvents ≠ [] → ∃ m ∈ n, m < t.node.syscallEvents.length
    | _ => True
  | _ => True

/-! ## Who waits

A task waits when it needs a mutex that another one has, when a channel it sends into is full, or
when it has nothing to do.
-/

/-- Why a task cannot go on. -/
def Waits (cfg : NodeConfig) (t : Tasks τ) : Task → Prop
  | .watcher =>
    match t.watcher, t.node.watching with
    | .looking, _ | .free, .insertContainer _ _ :: _ => t.mapLocked
    | .free, .sendIp _ :: _ => capacity ≤ t.node.ips.length
    | .free, .sendInode _ :: _ => capacity ≤ t.node.inodes.length
    | .free, [] => True
    | _, _ => False
  | .networkHandler =>
    match t.networkHandler with
    | .receiving => t.networkChannel = []
    | .locking _ => t.mapLocked
    | .locked _ => False
  | .syscallHandler =>
    match t.syscallHandler with
    | .receiving => t.syscallChannel = []
    | .locking _ => t.mapLocked
    | .lockingSet _ mutex => t.recorder.holdsSet mutex
    | _ => False
  | .recorder =>
    match t.recorder with
    | .sleeping => True
    | .locking mutex _ => t.syscallHandler.holdsSet mutex
    | _ => False
  | .ebpf => t.node.loop = .ended ∨
    match t.ebpf with
    | .sendingNetwork _ => capacity ≤ t.networkChannel.length
    | .sendingSyscall _ => capacity ≤ t.syscallChannel.length
    | place => place.FindsNothing cfg t.node

/-- The node runs, and the task does not wait. -/
def Able (cfg : NodeConfig) (task : Task) (t : Tasks τ) : Prop :=
  t.node.panicked = false ∧ ¬ Waits cfg t task

/-! ## What is left to do

The measure. Every event, effect and number that is on its way is priced by how many turns it still
takes, so that a turn of any task that is able to go on brings the sum down; the place of the loop
is counted below that, for the turns in which it finds nothing.
-/

end Tasks

/-- An effect is priced at its own steps and at those that empty the channel it fills. -/
def WatcherEffect.work : WatcherEffect → ℕ
  | .postDetails _ => 1
  | .sendIp _ => 2
  | .insertContainer _ _ => 2
  | .sendInode _ => 3

/-- An inode that is in one map only is one step from being in both. -/
def Loop.work : Loop → ℕ
  | .halfway _ => 1
  | _ => 0

def WatcherAt.work : WatcherAt → ℕ
  | .locked => 0
  | .free => 1
  | .looked => 2
  | .looking => 3

def NetworkAt.work {τ : Type*} : NetworkAt τ → ℕ
  | .receiving => 0
  | .locked _ => 1
  | .locking _ => 2

def SyscallAt.work : SyscallAt → ℕ
  | .receiving => 0
  | .lockedSet _ _ => 2
  | .lockingSet _ _ => 3
  | .locked _ => 4
  | .locking _ => 5

def RecorderAt.work : RecorderAt → ℕ
  | .sleeping => 0
  | .posting => 1
  | .visiting podNames => 2 + 4 * podNames.length
  | .lockedBoth _ podNames => 3 + 4 * podNames.length
  | .locked _ podNames => 4 + 4 * podNames.length
  | .locking _ podNames => 5 + 4 * podNames.length

/-- An event in the loop's hands is priced above its place in the channel. -/
def EbpfAt.work {τ : Type*} : EbpfAt τ → ℕ
  | .sendingNetwork _ => 4
  | .sendingSyscall _ => 7
  | _ => 0

/-- What is left to do with what waits, each thing counted by the turns that it still takes. -/
def Node.work {τ : Type*} (s : Node τ) : ℕ :=
  (s.watching.map WatcherEffect.work).sum + 5 * s.networkEvents.length
    + 8 * s.syscallEvents.length + 2 * s.inodes.length + s.ips.length + s.loop.work

namespace Tasks

variable {τ : Type*}

/-- **The measure**: what every task has left to do, with each event priced by the steps that are
still before it. -/
def work (t : Tasks τ) : ℕ :=
  t.node.work + t.watcher.work + t.networkHandler.work + t.syscallHandler.work + t.recorder.work
    + t.ebpf.work + 3 * t.networkChannel.length + 6 * t.syscallChannel.length

/-- A turn in which the loop goes on to where there is something counts as well. -/
def toDo (cfg : NodeConfig) (t : Tasks τ) : ℕ := 4 * t.work + t.ebpf.distance cfg t.node

/-- Nothing waits anywhere. -/
structure Idle (t : Tasks τ) : Prop where
  networkEvents : t.networkWaiting = []
  syscallEvents : t.syscallWaiting = []
  watching : t.node.watching = []
  inodes : t.node.inodes = []
  ips : t.node.ips = []
  loop : t.node.loop = .waiting
  watcher : t.watcher = .free
  recorder : t.recorder = .sleeping

/-- Nothing waits, or the controller is at its end: a task has panicked, or the loop, whose failure
`main` unwraps. -/
def Finished (t : Tasks τ) : Prop := t.node.panicked = true ∨ t.node.loop = .ended ∨ t.Idle

/-! ## One turn

For each task: where it waits, its turn changes nothing, and where it does not, its turn brings the
measure down.
-/

section Turns

variable {cfg : NodeConfig} {t t' : Tasks τ}

/-- From any place it is at most three turns to the one that finds something. -/
theorem distance_le (s : Node τ) (place : EbpfAt τ) : place.distance cfg s ≤ 3 := by
  unfold EbpfAt.distance
  split_ifs <;> omega

/-- Less work is less to do, wherever the loop stands. -/
theorem toDo_lt (h : t'.work < t.work) : t'.toDo cfg < t.toDo cfg := by
  have hle : t'.ebpf.distance cfg t'.node ≤ 3 := distance_le ..
  unfold toDo
  omega

/-- An entry costs the watcher two turns, one of which takes the map. -/
theorem work_insertContainer {s : Node τ} {inum : UInt64} {podInspect : PodInspect}
    {rest : List WatcherEffect} (h : s.watching = .insertContainer inum podInspect :: rest) :
    s.watch.work + 2 = s.work := by
  simp only [Node.work, Node.watch, h, List.map_cons, List.sum_cons, WatcherEffect.work]
  omega

/-- Every effect of the watcher brings the work down: what it sends costs less than sending it. -/
theorem work_watch_lt {s : Node τ} (h : s.watching ≠ []) : s.watch.work < s.work := by
  cases hwatching : s.watching with
  | nil => exact absurd hwatching h
  | cons effect rest =>
    cases effect <;>
      simp only [Node.work, Node.watch, hwatching, List.map_cons, List.sum_cons,
        WatcherEffect.work, List.length_append, List.length_singleton] <;> omega

/-- A watcher that waits does nothing. -/
theorem watch_of_waits (h : Waits cfg t .watcher) : t.watch = t := by
  simp only [Waits] at h
  unfold Tasks.watch
  cases hat : t.watcher with
  | looking =>
    simp only [hat] at h
    -- somebody else holds the map
    exact if_pos h
  | free =>
    simp only [hat] at h
    cases hwatching : t.node.watching with
    | nil => rfl
    | cons effect rest =>
      simp only [hwatching] at h
      cases effect with
      | postDetails z => exact h.elim
      | sendIp podIp => exact if_neg (by omega)
      | insertContainer inum podInspect => exact if_pos h
      | sendInode inum => exact if_neg (by omega)
  | _ => simp [hat] at h

/-- A step of the watcher, and what it does to its part of the work. -/
theorem work_watch (ht : Coherent cfg t) (h : ¬ Waits cfg t .watcher) : t.watch.work < t.work := by
  simp only [Waits] at h
  -- either the watcher moves on in place, or an effect of its list is carried out
  have hstays : ∀ {watcher : WatcherAt}, watcher.work < t.watcher.work →
      { t with watcher := watcher }.work < t.work := by
    intro watcher hlt
    simp only [work]
    omega
  have hnode : t.node.watching ≠ [] → { t with node := t.node.watch }.work < t.work := by
    intro hbusy
    have hlt : t.node.watch.work < t.node.work := work_watch_lt hbusy
    simp only [work]
    omega
  unfold Tasks.watch
  cases hat : t.watcher with
  | looking =>
    simp only [hat] at h ⊢
    rw [if_neg h]
    exact hstays (by simp [hat, WatcherAt.work])
  | looked => exact hstays (by simp [hat, WatcherAt.work])
  | locked =>
    -- entering the pod frees the lock and takes the effect off the list
    obtain ⟨inum, podInspect, rest, hwatching⟩ := ht.entering hat
    have hnode : t.node.watch.work + 2 = t.node.work := work_insertContainer hwatching
    simp only [work, hat, WatcherAt.work]
    omega
  | free =>
    simp only [hat] at h hnode ⊢
    cases hwatching : t.node.watching with
    | nil => simp [hwatching] at h
    | cons effect rest =>
      have hbusy : t.node.watching ≠ [] := by simp [hwatching]
      cases effect with
      | postDetails z => exact hnode hbusy
      | sendIp podIp =>
        simp only [hwatching] at h ⊢
        -- the channel has room, as the watcher does not wait
        rw [if_pos (by omega)]
        exact hnode hbusy
      | insertContainer inum podInspect =>
        simp only [hwatching] at h ⊢
        rw [if_neg h]
        exact hstays (by simp [hat, WatcherAt.work])
      | sendInode inum =>
        simp only [hwatching] at h ⊢
        rw [if_pos (by omega)]
        exact hnode hbusy

/-- A handler that waits for an event or for the map does nothing. -/
theorem handleNetwork_of_waits (h : Waits cfg t .networkHandler) (stamp : Stamp) (sent : Sent) :
    t.handleNetwork cfg stamp sent = t := by
  simp only [Waits] at h
  unfold Tasks.handleNetwork
  cases hat : t.networkHandler with
  | receiving =>
    simp only [hat] at h
    simp only [h]
  | locking event =>
    simp only [hat] at h
    exact if_pos h
  | locked event => simp [hat] at h

/-- Handling an event in hand costs the node's own lists nothing. -/
theorem work_commitNetwork (s : Node τ) (event : τ × NetworkEventData) (stamp : Stamp)
    (sent : Sent) : (commitNetwork cfg s event stamp sent).work = s.work := by
  unfold commitNetwork Node.handleNetworkEvent
  dsimp only [List.getElem?_cons_zero, List.eraseIdx_cons_zero]
  split <;> rfl

theorem work_commitSyscall (s : Node τ) (data : SyscallEventData) :
    (commitSyscall cfg s data).work = s.work := by
  unfold commitSyscall Node.handleSyscallEvent
  dsimp only [List.getElem?_cons_zero, List.eraseIdx_cons_zero]
  split
  · rfl
  · split <;> rfl

/-- **A turn of the handler of network events** that is not waiting moves its event one place on. -/
theorem work_handleNetwork (h : ¬ Waits cfg t .networkHandler) (stamp : Stamp) (sent : Sent) :
    (t.handleNetwork cfg stamp sent).work < t.work := by
  simp only [Waits] at h
  unfold Tasks.handleNetwork
  cases hat : t.networkHandler with
  | receiving =>
    simp only [hat] at h ⊢
    cases hchannel : t.networkChannel with
    -- an empty channel would keep it waiting
    | nil => exact absurd hchannel h
    | cons event rest =>
      simp only [work, hat, hchannel, NetworkAt.work, List.length_cons]
      omega
  | locking event =>
    simp only [hat] at h ⊢
    -- nobody holds the map
    rw [if_neg h]
    simp only [work, hat, NetworkAt.work]
    omega
  | locked event =>
    simp only [work, hat, NetworkAt.work, work_commitNetwork]
    omega

/-- A handler of syscalls that waits for an event, for the map or for a set does nothing. -/
theorem handleSyscall_of_waits (h : Waits cfg t .syscallHandler) : t.handleSyscall cfg = t := by
  simp only [Waits] at h
  unfold Tasks.handleSyscall
  cases hat : t.syscallHandler with
  | receiving =>
    simp only [hat] at h
    simp only [h]
  | locking data =>
    simp only [hat] at h
    exact if_pos h
  | lockingSet data mutex =>
    simp only [hat] at h
    exact if_pos h
  | _ => simp [hat] at h

/-- **A turn of the handler of syscalls** that is not waiting moves its event one place on. -/
theorem work_handleSyscall (h : ¬ Waits cfg t .syscallHandler) :
    (t.handleSyscall cfg).work < t.work := by
  simp only [Waits] at h
  -- the handler moves one lock further, or is done with its event
  have hstays : ∀ {place : SyscallAt}, place.work < t.syscallHandler.work →
      { t with syscallHandler := place }.work < t.work := by
    intro place hlt
    simp only [work]
    omega
  have hcommits : ∀ {data : SyscallEventData}, 0 < t.syscallHandler.work →
      { t with node := commitSyscall cfg t.node data, syscallHandler := .receiving }.work
        < t.work := by
    intro data hbusy
    have hdone : SyscallAt.receiving.work = 0 := rfl
    simp only [work, work_commitSyscall, hdone]
    omega
  unfold Tasks.handleSyscall
  cases hat : t.syscallHandler with
  | receiving =>
    simp only [hat] at h ⊢
    cases hchannel : t.syscallChannel with
    | nil => exact absurd hchannel h
    | cons data rest =>
      simp only [work, hat, hchannel, SyscallAt.work, List.length_cons]
      omega
  | locking data =>
    simp only [hat] at h ⊢
    rw [if_neg h]
    exact hstays (by simp [hat, SyscallAt.work])
  | locked data =>
    dsimp only
    split
    · exact hstays (by simp [hat, SyscallAt.work])
    · -- no pod, or no name: the event is done with
      exact hcommits (by simp [hat, SyscallAt.work])
  | lockingSet data mutex =>
    simp only [hat] at h ⊢
    rw [if_neg h]
    exact hstays (by simp [hat, SyscallAt.work])
  | lockedSet data mutex =>
    dsimp only
    split
    · exact hcommits (by simp [hat, SyscallAt.work])
    · exact hstays (by simp [hat, SyscallAt.work])

/-- A sender that sleeps, or waits for a set, does nothing. -/
theorem record_of_waits (h : Waits cfg t .recorder) : t.record = t := by
  simp only [Waits] at h
  unfold Tasks.record
  cases hat : t.recorder with
  | sleeping => rfl
  | locking mutex podNames =>
    simp only [hat] at h
    exact if_pos h
  | _ => simp [hat] at h

/-- **A turn of the sender** that is not waiting gets it further through the names of its tick. -/
theorem work_record (h : ¬ Waits cfg t .recorder) : t.record.work < t.work := by
  simp only [Waits] at h
  have hstays : ∀ {place : RecorderAt}, place.work < t.recorder.work →
      { t with recorder := place }.work < t.work := by
    intro place hlt
    simp only [work]
    omega
  unfold Tasks.record
  cases hat : t.recorder with
  | sleeping => simp [hat] at h
  | visiting podNames =>
    cases podNames with
    | nil => exact hstays (by simp [hat, RecorderAt.work])
    | cons podName podNames =>
      refine hstays ?_
      -- each name of the round is priced at the locks its visit takes
      simp only [hat, RecorderAt.work, List.length_cons]
      omega
  | locking mutex podNames =>
    simp only [hat] at h ⊢
    rw [if_neg h]
    exact hstays (by simp [hat, RecorderAt.work])
  | locked mutex podNames => exact hstays (by simp [hat, RecorderAt.work])
  | lockedBoth mutex podNames => exact hstays (by simp [hat, RecorderAt.work])
  | posting => exact hstays (by simp [hat, RecorderAt.work])

/-! ## A turn of the loop -/

/-- The loop finds nothing at the network events when none is in the buffer. -/
theorem finds_network {s : Node τ} :
    EbpfAt.network.finds cfg s = false ↔ s.networkEvents = [] := by
  simp [EbpfAt.finds]

theorem finds_syscall {s : Node τ} :
    EbpfAt.syscall.finds cfg s = false ↔ s.syscallEvents = [] := by
  simp [EbpfAt.finds]

/-- At the numbers it finds nothing when it is not halfway through one and none has been sent. -/
theorem finds_inode {s : Node τ} :
    EbpfAt.inode.finds cfg s = false ↔ (∀ inum, s.loop ≠ .halfway inum) ∧ s.inodes = [] := by
  cases hloop : s.loop <;> simp [EbpfAt.finds, hloop]

/-- At the addresses it finds nothing when none has been sent, or they are not to be ignored, or it
cannot take them. -/
theorem finds_ip {s : Node τ} :
    EbpfAt.ip.finds cfg s = false
      ↔ (s.loop = .waiting → cfg.ignoreDaemonsetTraffic = true → s.ips = []) := by
  simp [EbpfAt.finds]

/-- With nothing to be found there, the loop goes on. -/
theorem poll_of_not_finds (hloop : t.node.loop ≠ .ended) (h : t.ebpf.finds cfg t.node = false)
    (n : Option Nat) : t.poll cfg n = { t with ebpf := t.ebpf.after } := by
  unfold Tasks.poll
  rw [if_neg hloop]
  cases hat : t.ebpf with
  | network =>
    rw [hat] at h
    simp [finds_network.mp h, EbpfAt.after]
  | syscall =>
    rw [hat] at h
    simp [finds_syscall.mp h, EbpfAt.after]
  | inode =>
    rw [hat] at h
    obtain ⟨hwaiting, hinodes⟩ := finds_inode.mp h
    cases hat : t.node.loop with
    | halfway inum => exact absurd hat (hwaiting inum)
    | _ => simp [hinodes, EbpfAt.after]
  | ip =>
    rw [hat] at h
    -- with the inode flag up there is no address to take
    have hsame : t.node.receiveIp cfg = t.node := by
      unfold Node.receiveIp
      split
      · next hwaiting hips =>
        split
        · next hflag => simp [finds_ip.mp h hwaiting hflag] at hips
        · rfl
      · rfl
    simp [hsame, EbpfAt.after]
  | sendingNetwork event => simp [hat, EbpfAt.finds] at h
  | sendingSyscall data => simp [hat, EbpfAt.finds] at h

/-- With nothing to be found anywhere, it goes round. -/
theorem poll_of_waits (h : Waits cfg t .ebpf) (n : Option Nat) :
    t.poll cfg n = t
      ∨ t.ebpf.FindsNothing cfg t.node ∧ t.poll cfg n = { t with ebpf := t.ebpf.after } := by
  rcases h with hended | h
  · left
    unfold Tasks.poll
    rw [if_pos hended]
  · by_cases hended : t.node.loop = .ended
    · left
      unfold Tasks.poll
      rw [if_pos hended]
    · cases hat : t.ebpf with
      | sendingNetwork event =>
        left
        simp only [hat] at h
        unfold Tasks.poll
        rw [if_neg hended]
        simp only [hat]
        -- the channel is full
        rw [if_neg (by omega)]
      | sendingSyscall data =>
        left
        simp only [hat] at h
        unfold Tasks.poll
        rw [if_neg hended]
        simp only [hat]
        rw [if_neg (by omega)]
      -- it looks at a source with nothing in it and goes on to the next
      | _ =>
        right
        simp only [hat] at h
        refine ⟨h, ?_⟩
        rw [poll_of_not_finds hended (by rw [hat]; exact h.1), hat]

/-- A number that is received goes halfway into the maps. -/
theorem work_receiveInode {s : Node τ} (hloop : s.loop = .waiting) (hinodes : s.inodes ≠ []) :
    s.receiveInode.work < s.work := by
  cases hat : s.inodes with
  | nil => exact absurd hat hinodes
  | cons inum inodes =>
    unfold Node.receiveInode
    simp only [hloop, hat]
    split <;> simp only [Node.work, Loop.work, hloop, hat, List.length_cons] <;> omega

/-- It goes the other half, and is done with. -/
theorem work_updateSyscall {s : Node τ} {inum : UInt64} (hloop : s.loop = .halfway inum) :
    s.updateSyscall.work < s.work := by
  unfold Node.updateSyscall
  simp only [hloop]
  split <;> simp only [Node.work, Loop.work, hloop] <;> omega

/-- An address that is taken is done with. -/
theorem work_receiveIp {s : Node τ} (hloop : s.loop = .waiting)
    (hflag : cfg.ignoreDaemonsetTraffic = true) (hips : s.ips ≠ []) :
    (s.receiveIp cfg).work < s.work := by
  cases hat : s.ips with
  | nil => exact absurd hat hips
  | cons ip ips =>
    unfold Node.receiveIp
    simp only [hloop, hat, hflag, if_true]
    split <;> simp only [Node.work, Loop.work, hloop, hat, List.length_cons] <;> omega

/-- A turn of the loop finds an event where one waits. -/
theorem found_of_onTurn {α : Type*} {waiting : List α} {n : Option Nat}
    (hn : waiting ≠ [] → ∃ m ∈ n, m < waiting.length) (hbusy : waiting ≠ []) :
    ∃ m a, (n.bind fun n => (waiting[n]?).map (n, ·)) = some (m, a) ∧ m < waiting.length := by
  obtain ⟨m, hm, hlt⟩ := hn hbusy
  obtain rfl := Option.mem_def.mp hm
  exact ⟨m, waiting[m], by simp [hlt], hlt⟩

/-- With something to be found there, it is dealt with. -/
theorem work_poll_of_finds (hloop : t.node.loop ≠ .ended) (hat : ¬ t.ebpf.Sending)
    (h : t.ebpf.finds cfg t.node = true) {n : Option Nat} (hn : t.OnTurn (.ebpf n)) :
    (t.poll cfg n).work < t.work := by
  unfold Tasks.poll
  rw [if_neg hloop]
  cases hplace : t.ebpf with
  | network =>
    rw [hplace] at h
    simp only [OnTurn, hplace] at hn
    have hbusy : t.node.networkEvents ≠ [] := by simpa [EbpfAt.finds] using h
    obtain ⟨m, event, hfound, hlt⟩ := found_of_onTurn hn hbusy
    -- an event moves from the map to the loop's hands
    have hlength := List.length_eraseIdx_of_lt hlt
    simp only [hfound, work, Node.work, hplace, EbpfAt.work, hlength]
    omega
  | syscall =>
    rw [hplace] at h
    simp only [OnTurn, hplace] at hn
    have hbusy : t.node.syscallEvents ≠ [] := by simpa [EbpfAt.finds] using h
    obtain ⟨m, data, hfound, hlt⟩ := found_of_onTurn hn hbusy
    have hlength := List.length_eraseIdx_of_lt hlt
    simp only [hfound, work, Node.work, hplace, EbpfAt.work, hlength]
    omega
  | inode =>
    rw [hplace] at h
    cases hphase : t.node.loop with
    | halfway inum =>
      have hlt : t.node.updateSyscall.work < t.node.work := work_updateSyscall hphase
      simp only [work, hplace, EbpfAt.work]
      omega
    | waiting =>
      have hinodes : t.node.inodes ≠ [] := by simpa [EbpfAt.finds, hphase] using h
      have hlt : t.node.receiveInode.work < t.node.work := work_receiveInode hphase hinodes
      cases hat : t.node.inodes with
      | nil => exact absurd hat hinodes
      | cons inum inodes =>
        simp only [work, hplace, EbpfAt.work]
        omega
    | ended => exact absurd hphase hloop
  | ip =>
    rw [hplace] at h
    obtain ⟨⟨hwaiting, hflag⟩, hips⟩ : (t.node.loop = .waiting ∧ cfg.ignoreDaemonsetTraffic = true)
        ∧ t.node.ips ≠ [] := by simpa [EbpfAt.finds] using h
    have hlt : (t.node.receiveIp cfg).work < t.node.work := work_receiveIp hwaiting hflag hips
    simp only [work, hplace, EbpfAt.work]
    omega
  | sendingNetwork event => simp [hplace, EbpfAt.Sending] at hat
  | sendingSyscall data => simp [hplace, EbpfAt.Sending] at hat

/-- A turn that finds nothing gets the loop closer to where there is something. -/
theorem distance_after {s : Node τ} {place : EbpfAt τ} (hhere : place.finds cfg s = false)
    (hthere : ¬ place.FindsNothing cfg s) :
    place.after.distance cfg s < place.distance cfg s := by
  have hround : place.after.after.after.after.finds cfg s = false := by
    cases place <;> first | exact hhere | cases hhere
  unfold EbpfAt.distance
  simp only [hhere, hround, Bool.false_eq_true, if_false]
  split_ifs with hone htwo hthree
  all_goals try omega
  exact absurd ⟨hhere, eq_false_of_ne_true hone, eq_false_of_ne_true htwo,
    eq_false_of_ne_true hthree⟩ hthere

/-- **A turn of the loop** that is not waiting does something, or gets it closer to something. -/
theorem toDo_poll (h : ¬ Waits cfg t .ebpf) {n : Option Nat} (hn : t.OnTurn (.ebpf n)) :
    (t.poll cfg n).toDo cfg < t.toDo cfg := by
  obtain ⟨hloop, h⟩ := not_or.mp h
  -- a send is priced above the place of the event in the channel
  have hsends : ∀ {networkChannel syscallChannel place}, place.work = 0 →
      3 * networkChannel.length + 6 * syscallChannel.length
        < t.ebpf.work + 3 * t.networkChannel.length + 6 * t.syscallChannel.length →
      { t with
        networkChannel := networkChannel
        syscallChannel := syscallChannel
        ebpf := place }.work < t.work := by
    intro networkChannel syscallChannel place hplace hlt
    simp only [work, hplace]
    omega
  cases hat : t.ebpf with
  | sendingNetwork event =>
    refine toDo_lt ?_
    simp only [hat] at h
    unfold Tasks.poll
    rw [if_neg hloop]
    simp only [hat]
    rw [if_pos (by omega)]
    exact hsends rfl (by simp [hat, EbpfAt.work]; omega)
  | sendingSyscall data =>
    refine toDo_lt ?_
    simp only [hat] at h
    unfold Tasks.poll
    rw [if_neg hloop]
    simp only [hat]
    rw [if_pos (by omega)]
    exact hsends rfl (by simp [hat, EbpfAt.work]; omega)
  | _ =>
    have hplace : ¬ t.ebpf.Sending := by simp [hat, EbpfAt.Sending]
    cases hhere : t.ebpf.finds cfg t.node with
    | true => exact toDo_lt (work_poll_of_finds hloop hplace hhere hn)
    | false =>
      -- it moves on towards a source that holds something
      have hlt : t.ebpf.after.distance cfg t.node < t.ebpf.distance cfg t.node :=
        distance_after hhere fun hnothing => h (by rw [hat] at hnothing ⊢; exact hnothing)
      rw [poll_of_not_finds hloop hhere]
      simp only [toDo, work, hat, EbpfAt.after, EbpfAt.work] at hlt ⊢
      omega

/-! ## Whoever's turn it is

The same for all tasks at once, which is what the rounds are about.
-/

/-- **A turn of a task that is able to go on brings the measure down.** -/
theorem toDo_step_lt (ht : Coherent cfg t) {i : TaskInput τ} {task : Task} (hi : t.OnTurn i)
    (htask : i.task = some task) (hable : Able cfg task t) :
    (t.step cfg i).toDo cfg < t.toDo cfg := by
  obtain ⟨hrunning, hwaits⟩ := hable
  have hnext : t.step cfg i = t.next cfg i := by simp [Tasks.step, hrunning]
  rw [hnext]
  cases i with
  | watcher =>
    -- the input names the task that moves
    obtain rfl : Task.watcher = task := Option.some.inj htask
    exact toDo_lt (work_watch ht hwaits)
  | network stamp sent =>
    obtain rfl : Task.networkHandler = task := Option.some.inj htask
    exact toDo_lt (work_handleNetwork hwaits stamp sent)
  | syscall =>
    obtain rfl : Task.syscallHandler = task := Option.some.inj htask
    exact toDo_lt (work_handleSyscall hwaits)
  | recorder =>
    obtain rfl : Task.recorder = task := Option.some.inj htask
    exact toDo_lt (work_record hwaits)
  | ebpf n =>
    obtain rfl : Task.ebpf = task := Option.some.inj htask
    exact toDo_poll hwaits hi
  | _ => cases htask

/-- A turn of a task that waits: the state is the same, but for the place of a loop that has nothing
to find. -/
theorem step_of_not_able {i : TaskInput τ} {task : Task} (htask : i.task = some task)
    (hable : ¬ Able cfg task t) :
    t.step cfg i = t
      ∨ t.ebpf.FindsNothing cfg t.node ∧ t.step cfg i = { t with ebpf := t.ebpf.after } := by
  unfold Tasks.step
  cases hpanicked : t.node.panicked with
  | true => exact .inl (if_pos rfl)
  | false =>
    -- nobody has panicked, so it is not able because it waits
    have hwaits : Waits cfg t task := by
      by_contra hgoes
      exact hable ⟨hpanicked, hgoes⟩
    rw [if_neg Bool.false_ne_true]
    cases i with
    | watcher =>
      obtain rfl : Task.watcher = task := Option.some.inj htask
      exact .inl (watch_of_waits hwaits)
    | network stamp sent =>
      obtain rfl : Task.networkHandler = task := Option.some.inj htask
      exact .inl (handleNetwork_of_waits hwaits stamp sent)
    | syscall =>
      obtain rfl : Task.syscallHandler = task := Option.some.inj htask
      exact .inl (handleSyscall_of_waits hwaits)
    | recorder =>
      obtain rfl : Task.recorder = task := Option.some.inj htask
      exact .inl (record_of_waits hwaits)
    | ebpf n =>
      obtain rfl : Task.ebpf = task := Option.some.inj htask
      exact poll_of_waits hwaits n
    | _ => cases htask

/-- The places of the loop, from any one of them. -/
theorem findsNothing_iff {s : Node τ} {place : EbpfAt τ} :
    place.FindsNothing cfg s ↔ ¬ place.Sending ∧ EbpfAt.network.finds cfg s = false
      ∧ EbpfAt.syscall.finds cfg s = false ∧ EbpfAt.inode.finds cfg s = false
      ∧ EbpfAt.ip.finds cfg s = false := by
  unfold EbpfAt.FindsNothing
  cases place <;> simp only [EbpfAt.after, EbpfAt.Sending] <;> tauto

/-- If there is nothing to be found at any place, it is so from the next one on, too. -/
theorem findsNothing_after {s : Node τ} {place : EbpfAt τ} (h : place.FindsNothing cfg s) :
    place.after.FindsNothing cfg s :=
  findsNothing_iff.mpr ⟨by cases place <;> exact id, (findsNothing_iff.mp h).2⟩

/-- Where such a loop is makes no difference to who is able to do something. -/
theorem able_withEbpf (h : t.ebpf.FindsNothing cfg t.node) (task : Task) :
    Able cfg task { t with ebpf := t.ebpf.after } ↔ Able cfg task t := by
  have hloop : ∀ {place : EbpfAt τ}, place.FindsNothing cfg t.node →
      Waits cfg { t with ebpf := place } .ebpf := by
    intro place hplace
    refine .inr ?_
    cases place <;> first | exact hplace | cases hplace.1
  cases task with
  | ebpf =>
    exact ⟨fun hable => absurd (hloop (findsNothing_after h)) hable.2,
      fun hable => absurd (hloop h) hable.2⟩
  | _ => exact Iff.rfl

/-- Going round with nothing to be found costs nothing and gains nothing. -/
theorem toDo_withEbpf (h : t.ebpf.FindsNothing cfg t.node) :
    { t with ebpf := t.ebpf.after }.toDo cfg = t.toDo cfg := by
  have hwork : t.ebpf.after.work = t.ebpf.work := by
    cases hat : t.ebpf <;> first | rfl | (rw [hat] at h; cases h.1)
  have hdistance : ∀ {place : EbpfAt τ}, place.FindsNothing cfg t.node →
      place.distance cfg t.node = 0 := by
    rintro place ⟨hzero, hone, htwo, hthree⟩
    simp [EbpfAt.distance, hzero, hone, htwo, hthree]
  simp only [toDo, work, hwork, hdistance h, hdistance (findsNothing_after h)]

/-! ## Somebody can go on

Mutexes and full channels never keep everybody waiting: whoever holds a mutex can go on itself, or
waits for one whose holder can.
-/

/-- Without the flag no address is on its way. -/
def Unsent (cfg : NodeConfig) (s : Node τ) : Prop :=
  cfg.ignoreDaemonsetTraffic = false → s.ips = [] ∧ ∀ ip, .sendIp ip ∉ s.watching

/-- Without the flag no address is ever sent, whatever happens. -/
theorem unsent_step {s : Node τ} (hs : Unsent cfg s) (i : NodeInput τ) :
    Unsent cfg (s.step cfg i) := by
  intro hflag
  obtain ⟨hips, hwatching⟩ := hs hflag
  -- the addresses and the watcher's list stay as they are
  have haside : ∀ {s' : Node τ}, s'.ips = s.ips → s'.watching = s.watching →
      s'.ips = [] ∧ ∀ ip, .sendIp ip ∉ s'.watching :=
    fun h h' => ⟨h.trans hips, h' ▸ hwatching⟩
  unfold Node.step
  split
  · exact ⟨hips, hwatching⟩
  · cases i with
    | apply pod runtime =>
      show (s.apply cfg pod runtime).ips = []
        ∧ ∀ ip, .sendIp ip ∉ (s.apply cfg pod runtime).watching
      unfold Node.apply
      split
      · refine ⟨hips, fun ip hip => ?_⟩
        -- an address is sent under the flag only
        simp [(mem_watchPods_sendIp.mp hip).1] at hflag
      · exact ⟨hips, hwatching⟩
    | watch =>
      show s.watch.ips = [] ∧ ∀ ip, .sendIp ip ∉ s.watch.watching
      unfold Node.watch
      split
      · exact ⟨hips, hwatching⟩
      · next hat => exact ⟨hips, fun ip hip => hwatching ip (hat ▸ .tail _ hip)⟩
      · next podIp _ hat => exact absurd (hat ▸ .head _) (hwatching podIp)
      · next hat => exact ⟨hips, fun ip hip => hwatching ip (hat ▸ .tail _ hip)⟩
      · next hat => exact ⟨hips, fun ip hip => hwatching ip (hat ▸ .tail _ hip)⟩
    | receiveIp =>
      show (s.receiveIp cfg).ips = [] ∧ ∀ ip, .sendIp ip ∉ (s.receiveIp cfg).watching
      unfold Node.receiveIp
      split
      · next hat =>
        rw [hips] at hat
        cases hat
      · exact ⟨hips, hwatching⟩
    | network tag mem call =>
      refine haside ?_ ?_ <;>
        (show _ = _; dsimp only [Node.next, Node.networkCall]; split <;> rfl)
    | handleNetwork n stamp sent =>
      refine haside ?_ ?_ <;>
        (show _ = _; dsimp only [Node.next, Node.handleNetworkEvent]; repeat' split) <;> rfl
    | _ =>
      have huntouched : ∀ {i}, i.Aside → Untouched s (s.next cfg i) := untouched_next
      exact haside (huntouched (by exact trivial)).ips (huntouched (by exact trivial)).watching

/-- Where everybody waits nobody holds a mutex: the handler of syscalls has no set, so the sender is
asleep, and no set is taken that the handler could wait for with the map in its hand. -/
theorem unlocked_of_waits (hwaits : ∀ task, Waits cfg t task) :
    t.recorder = .sleeping ∧ t.mapLocked = false := by
  -- bottom up: no set is held, so the recorder sleeps, so the handlers do not hold the map
  have hset : ∀ mutex, t.syscallHandler.holdsSet mutex = false := by
    intro mutex
    have h : Waits cfg t .syscallHandler := hwaits _
    cases hat : t.syscallHandler <;> simp [Waits, hat, SyscallAt.holdsSet] at h ⊢
  have hrecorder : t.recorder = .sleeping := by
    have h : Waits cfg t .recorder := hwaits _
    cases hat : t.recorder <;> simp [Waits, hat, hset] at h ⊢
  have hsyscall : t.syscallHandler.holdsMap = false := by
    have h : Waits cfg t .syscallHandler := hwaits _
    cases hat : t.syscallHandler <;>
      simp [Waits, hat, hrecorder, SyscallAt.holdsMap, RecorderAt.holdsSet] at h ⊢
  have hnetwork : t.networkHandler.holdsMap = false := by
    have h : Waits cfg t .networkHandler := hwaits _
    cases hat : t.networkHandler <;> simp [Waits, hat, NetworkAt.holdsMap] at h ⊢
  have hwatcher : t.watcher.holdsMap = false := by
    have h : Waits cfg t .watcher := hwaits _
    cases hat : t.watcher <;> simp [Waits, hat, WatcherAt.holdsMap] at h ⊢
  exact ⟨hrecorder, mapLocked_eq_false_iff.mpr ⟨hwatcher, hnetwork, hsyscall⟩⟩

/-- **They do not wait for one another**: where everybody waits there is nothing to be done. -/
theorem idle_of_waits (hloop : t.node.loop ≠ .ended) (hunsent : Unsent cfg t.node)
    (hwaits : ∀ task, Waits cfg t task) : t.Idle := by
  obtain ⟨hrecorder, hmap⟩ := unlocked_of_waits hwaits
  obtain ⟨hnetworkHandler, hnetworkChannel⟩ :
      t.networkHandler = .receiving ∧ t.networkChannel = [] := by
    have h : Waits cfg t .networkHandler := hwaits _
    cases hat : t.networkHandler <;> simp [Waits, hat, hmap] at h ⊢
    exact h
  obtain ⟨hsyscallHandler, hsyscallChannel⟩ :
      t.syscallHandler = .receiving ∧ t.syscallChannel = [] := by
    have h : Waits cfg t .syscallHandler := hwaits _
    cases hat : t.syscallHandler <;>
      simp [Waits, hat, hmap, hrecorder, RecorderAt.holdsSet] at h ⊢
    exact h
  -- the loop finds room in the channels, and nothing to send
  have hnothing : t.ebpf.FindsNothing cfg t.node := by
    have h : Waits cfg t .ebpf := hwaits _
    rcases h with hended | h
    · exact absurd hended hloop
    · cases hat : t.ebpf <;>
        simp [hat, hnetworkChannel, hsyscallChannel, capacity] at h <;> exact h
  obtain ⟨hsending, hevents, hevents', hinodes, hips⟩ := findsNothing_iff.mp hnothing
  rw [finds_network] at hevents
  rw [finds_syscall] at hevents'
  obtain ⟨hhalfway, hinodes⟩ := finds_inode.mp hinodes
  have hwaiting : t.node.loop = .waiting := by
    cases hat : t.node.loop with
    | waiting => rfl
    | halfway inum => exact absurd hat (hhalfway inum)
    | ended => exact absurd hat hloop
  have hips : t.node.ips = [] := by
    cases hflag : cfg.ignoreDaemonsetTraffic with
    | true => exact finds_ip.mp hips hwaiting hflag
    | false => exact (hunsent hflag).1
  -- and the watcher room in its own
  obtain ⟨hfree, hwatching⟩ : t.watcher = .free ∧ t.node.watching = [] := by
    have h : Waits cfg t .watcher := hwaits _
    cases hat : t.watcher <;> cases hat' : t.node.watching with
    | nil => simp [Waits, hat, hat', hmap] at h ⊢
    | cons effect rest =>
      cases effect <;> simp [Waits, hat, hat', hmap, hips, hinodes, capacity] at h
  have hsends : t.ebpf.sendsNetwork = [] ∧ t.ebpf.sendsSyscall = [] := by
    cases hat : t.ebpf <;>
      simp [hat, EbpfAt.Sending, EbpfAt.sendsNetwork, EbpfAt.sendsSyscall] at hsending ⊢
  exact
    { networkEvents := by
        simp [networkWaiting, networkAway, hnetworkHandler, hnetworkChannel, hsends, hevents,
          NetworkAt.held]
      syscallEvents := by
        simp [syscallWaiting, syscallAway, hsyscallHandler, hsyscallChannel, hsends, hevents',
          SyscallAt.held]
      watching := hwatching
      inodes := hinodes
      ips := hips
      loop := hwaiting
      watcher := hfree
      recorder := hrecorder }

/-- **No deadlock**: as long as the tasks are not finished one of them can go on. -/
theorem exists_able (hunsent : Unsent cfg t.node) (hbusy : ¬ t.Finished) :
    ∃ task, Able cfg task t := by
  by_contra hnobody
  simp only [Finished, not_or] at hbusy
  obtain ⟨hrunning, hloop, hidle⟩ := hbusy
  refine hidle (idle_of_waits hloop hunsent fun task => ?_)
  by_contra hgoes
  exact hnobody ⟨task, eq_false_of_ne_true hrunning, hgoes⟩

/-! ## What is finished stays so

Once everything is at rest a turn finds nothing, so nothing starts again by itself.
-/

/-- The watcher does not end the loop. -/
theorem loop_watch (s : Node τ) : s.watch.loop = s.loop := by
  unfold Node.watch
  split <;> rfl

/-- Nor does the handler of network events. -/
theorem loop_commitNetwork (s : Node τ) (event : τ × NetworkEventData) (stamp : Stamp)
    (sent : Sent) : (commitNetwork cfg s event stamp sent).loop = s.loop := by
  unfold commitNetwork Node.handleNetworkEvent
  dsimp only [List.getElem?_cons_zero, List.eraseIdx_cons_zero]
  split <;> rfl

theorem loop_commitSyscall (s : Node τ) (data : SyscallEventData) :
    (commitSyscall cfg s data).loop = s.loop := by
  unfold commitSyscall Node.handleSyscallEvent
  dsimp only [List.getElem?_cons_zero, List.eraseIdx_cons_zero]
  split
  · rfl
  · split <;> rfl

/-- A loop that has ended stays so. -/
theorem loop_step_of_ended (hended : t.node.loop = .ended) {i : TaskInput τ} (hi : t.OnTurn i) :
    (t.step cfg i).node.loop = .ended := by
  unfold Tasks.step
  split
  · exact hended
  · cases i with
    | watcher =>
      show t.watch.node.loop = .ended
      unfold Tasks.watch
      repeat' split
      all_goals first | exact hended | exact (loop_watch t.node).trans hended
    | network stamp sent =>
      show (t.handleNetwork cfg stamp sent).node.loop = .ended
      unfold Tasks.handleNetwork
      repeat' split
      all_goals first | exact hended | exact (loop_commitNetwork ..).trans hended
    | syscall =>
      show (t.handleSyscall cfg).node.loop = .ended
      unfold Tasks.handleSyscall
      repeat' split
      all_goals first | exact hended | exact (loop_commitSyscall ..).trans hended
    | recorder =>
      show t.record.node.loop = .ended
      unfold Tasks.record
      repeat' split
      all_goals exact hended
    | ebpf n =>
      show (t.poll cfg n).node.loop = .ended
      unfold Tasks.poll
      rw [if_pos hended]
      exact hended
    | _ => exact hi.elim

/-- When nothing waits anywhere the loop finds nothing. -/
theorem findsNothing_of_idle (h : t.Idle) : t.ebpf.FindsNothing cfg t.node := by
  have hnetwork := h.networkEvents
  have hsyscall := h.syscallEvents
  simp only [networkWaiting, networkAway, syscallWaiting, syscallAway,
    List.append_eq_nil_iff] at hnetwork hsyscall
  have hsending : ¬ t.ebpf.Sending := by
    cases hat : t.ebpf <;>
      simp [hat, EbpfAt.Sending, EbpfAt.sendsNetwork, EbpfAt.sendsSyscall] at hnetwork hsyscall ⊢
  exact findsNothing_iff.mpr ⟨hsending, finds_network.mpr hnetwork.2,
    finds_syscall.mpr hsyscall.2, finds_inode.mpr ⟨by simp [h.loop], h.inodes⟩,
    finds_ip.mpr fun _ _ => h.ips⟩

/-- Then every task waits. -/
theorem waits_of_idle (h : t.Idle) (task : Task) : Waits cfg t task := by
  have hnetwork := h.networkEvents
  have hsyscall := h.syscallEvents
  simp only [networkWaiting, networkAway, syscallWaiting, syscallAway,
    List.append_eq_nil_iff] at hnetwork hsyscall
  cases task with
  | watcher => simp [Waits, h.watcher, h.watching]
  | networkHandler =>
    cases hat : t.networkHandler <;> simp [Waits, hat, NetworkAt.held] at hnetwork ⊢
    -- nothing is in its channel
    exact hnetwork.1.1
  | syscallHandler =>
    cases hat : t.syscallHandler <;> simp [Waits, hat, SyscallAt.held] at hsyscall ⊢
    exact hsyscall.1.1
  | recorder => simp [Waits, h.recorder]
  | ebpf =>
    have hnothing : t.ebpf.FindsNothing cfg t.node := findsNothing_of_idle h
    refine .inr ?_
    cases hat : t.ebpf <;> rw [hat] at hnothing <;> first | exact hnothing | cases hnothing.1

/-- An idle loop goes round. -/
theorem Idle.after (h : t.Idle) (hnothing : t.ebpf.FindsNothing cfg t.node) :
    { t with ebpf := t.ebpf.after }.Idle := by
  have hnetwork := h.networkEvents
  have hsyscall := h.syscallEvents
  have hsends : ∀ {place : EbpfAt τ}, place.FindsNothing cfg t.node →
      place.sendsNetwork = [] ∧ place.sendsSyscall = [] := by
    intro place hplace
    cases place <;> first | exact ⟨rfl, rfl⟩ | cases hplace.1
  simp only [networkWaiting, networkAway, syscallWaiting, syscallAway, hsends hnothing]
    at hnetwork hsyscall
  have hafter := hsends (findsNothing_after hnothing)
  exact { h with
    networkEvents := by simpa only [networkWaiting, networkAway, hafter] using hnetwork
    syscallEvents := by simpa only [syscallWaiting, syscallAway, hafter] using hsyscall }

/-- A turn is that of some task. -/
theorem exists_task_of_onTurn {i : TaskInput τ} (hi : t.OnTurn i) :
    ∃ task, i.task = some task := by
  cases i <;> first | exact ⟨_, rfl⟩ | exact hi.elim

/-- **What is finished stays finished**, turn by turn. -/
theorem Finished.step (h : t.Finished) {i : TaskInput τ} (hi : t.OnTurn i) :
    (t.step cfg i).Finished := by
  rcases h with hpanicked | hended | hidle
  · have hsame : t.step cfg i = t := if_pos hpanicked
    rw [hsame]
    exact .inl hpanicked
  · exact .inr (.inl (loop_step_of_ended hended hi))
  · obtain ⟨task, htask⟩ := exists_task_of_onTurn hi
    have hable : ¬ Able cfg task t := fun hable => hable.2 (waits_of_idle hidle task)
    rcases step_of_not_able htask hable with hsame | ⟨hnothing, hsame⟩
    · rw [hsame]
      exact .inr (.inr hidle)
    · rw [hsame]
      exact .inr (.inr (hidle.after hnothing))

/-! ## Rounds

A round in which every task comes up once contains a turn of one that was able to go on, so it
brings the measure down by one at least.
-/

/-- Some run ends in this state. -/
def Reached (cfg : NodeConfig) (t : Tasks τ) : Prop :=
  ∃ inputs, t = run (Tasks.step cfg) (Tasks.start τ) inputs

/-- What is reached stays reached with one more input. -/
theorem Reached.step (ht : Reached cfg t) (i : TaskInput τ) : Reached cfg (t.step cfg i) := by
  obtain ⟨inputs, rfl⟩ := ht
  exact ⟨inputs ++ [i], (run_snoc ..).symm⟩

/-- Every reachable state is coherent. -/
theorem Reached.coherent (ht : Reached cfg t) : Coherent cfg t := by
  obtain ⟨inputs, rfl⟩ := ht
  exact coherent_run cfg inputs

/-- At the start no address has been sent. -/
theorem unsent_start : Unsent cfg (Node.start τ) := fun _ => ⟨rfl, fun _ h => by cases h⟩

/-- No run of the node sends an address without the flag, so neither do the tasks. -/
theorem Reached.unsent (ht : Reached cfg t) : Unsent cfg t.node := by
  obtain ⟨inputs, rfl⟩ := ht
  have hstart : Coherent cfg (Tasks.start τ) := coherent_start
  obtain ⟨inputs', -, l, l', hs, -, -⟩ := abstracts_start.run hstart inputs
  have hunsent : Unsent cfg (run (Node.step cfg) (Node.start τ) inputs') :=
    run_invariant _ unsent_start (fun _ i hs => unsent_step hs i) inputs'
  rw [hs] at hunsent
  exact hunsent

/-- **Turn by turn there is less to do.** -/
theorem drains (cfg : NodeConfig) :
    Drains (Tasks.step (τ := τ) cfg) (fun task i => i.task = some task) (Able cfg) OnTurn
      (Reached cfg) Finished (toDo cfg) where
  turn _ _ hi := exists_task_of_onTurn hi
  keeps _ i ht _ := ht.step i
  stays _ _ _ hi h := h.step hi
  lowers _ _ _ ht hi htask hable := toDo_step_lt ht.coherent hi htask hable
  idles t i task _ _ htask hable := by
    rcases step_of_not_able htask hable with hsame | ⟨hnothing, hsame⟩
    · rw [hsame]
      exact ⟨le_refl _, fun _ h => h⟩
    · rw [hsame]
      exact ⟨(toDo_withEbpf hnothing).le, fun task' h => (able_withEbpf hnothing task').mpr h⟩
  able _ ht hbusy := exists_able ht.unsent hbusy

/-- **The tasks come to rest**, from every state that can be reached and in whatever order they take
turns, after as many rounds as there is work for: nothing waits any more, unless one has failed.
What the broker answers does not matter. -/
theorem finished_of_rounds (cfg : NodeConfig) (inputs : List (TaskInput τ))
    {rounds : List (List (TaskInput τ))}
    (hfair : ∀ round ∈ rounds, ∀ task, ∃ i ∈ round, i.task = some task)
    (hturns : Meets (Tasks.step cfg) OnTurn (run (Tasks.step cfg) (Tasks.start τ) inputs)
      rounds.flatten)
    (hmany : (run (Tasks.step cfg) (Tasks.start τ) inputs).toDo cfg < rounds.length) :
    (run (Tasks.step cfg) (Tasks.start τ) (inputs ++ rounds.flatten)).Finished := by
  rw [run_append]
  exact (drains cfg).finishes ⟨inputs, rfl⟩ hfair hturns hmany

end Turns

/-! ## A pod that has just started -/

/-- The watcher is given the pod, and the sender has woken up. -/
def podStarted : List (TaskInput Unit) :=
  [.outside (.apply shopPod fun _ => some 6), .tick ["db"]]

def roundRobin : List (TaskInput Unit) :=
  [.recorder, .syscall, .ebpf (some 0), .network ⟨"u1", 1⟩ (.error "refused"), .watcher]

/-- Every input of the round is a turn, whatever the state. -/
theorem onTurn_roundRobin {t : Tasks Unit} {i : TaskInput Unit} (hi : i ∈ roundRobin) :
    t.OnTurn i := by
  simp only [roundRobin, List.mem_cons, List.not_mem_nil, or_false] at hi
  rcases hi with rfl | rfl | rfl | rfl | rfl
  · trivial
  · trivial
  · unfold OnTurn
    dsimp only
    split
    · exact fun hbusy => ⟨0, rfl, List.length_pos_iff.mpr hbusy⟩
    · exact fun hbusy => ⟨0, rfl, List.length_pos_iff.mpr hbusy⟩
    · trivial
  · trivial
  · trivial

/-- Fifty-three rounds are enough for one pod that has just started. -/
theorem finished_of_rounds_pod_started :
    (run (Tasks.step shopConfig) (Tasks.start Unit)
      (podStarted ++ (List.replicate 53 roundRobin).flatten)).Finished := by
  refine finished_of_rounds shopConfig podStarted (fun round hround task => ?_) ?_ ?_
  · rw [List.eq_of_mem_replicate hround]
    cases task <;> decide
  · refine meets_of_forall (fun i hi t => onTurn_roundRobin ?_) _
    obtain ⟨round, hround, hi⟩ := List.mem_flatten.mp hi
    rwa [List.eq_of_mem_replicate hround] at hi
  · decide +kernel

end Tasks

end KubeGuardian.Controller
