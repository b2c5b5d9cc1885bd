import KubeGuardian.Controller.Tasks
import Mathlib.Data.List.Perm.Basic

/-!
# The tasks, turn by turn

A task of `Controller.Tasks` stops between any two of its steps, and others go on. What it has done
to what they share is still what `Controller.Node` does in one step, at the moment when it is done
with a mutex: the events that are on their way are those that wait there.

* **`abstracts_run`** — to every run of the tasks there is a run of the node that ends in the same
  state, with the events of all buffers and channels put together;
* **`registered_run`** — so what every run of the node keeps, the tasks keep.
-/

namespace KubeGuardian.Controller

open Lib

/-! ## Nodes with other events

The tasks keep an event apart while it is on its way, where the node of `Controller.Node` has it in
its buffer until it is handled. So the two differ in their lists of events, and most effects do not
look at these.
-/

section WithEvents

variable {τ : Type*}

def Node.withEvents (s : Node τ) (networkEvents : List (τ × NetworkEventData))
    (syscallEvents : List SyscallEventData) : Node τ :=
  { s with networkEvents, syscallEvents }

/-- The step neither looks at the events that wait nor changes them. -/
def Blind (g : Node τ → Node τ) : Prop :=
  ∀ s l l', g (s.withEvents l l') = (g s).withEvents l l'

/-- Such an effect leaves both lists as they are. -/
theorem Blind.events {g : Node τ → Node τ} (hg : Blind g) (s : Node τ) :
    (g s).networkEvents = s.networkEvents ∧ (g s).syscallEvents = s.syscallEvents := by
  have hsame : g s = (g s).withEvents s.networkEvents s.syscallEvents :=
    hg s s.networkEvents s.syscallEvents
  rw [hsame]
  exact ⟨rfl, rfl⟩

/-- The watcher takes on a pod without a look at the events. -/
theorem blind_apply (cfg : NodeConfig) (pod : PodObject) (runtime : Runtime) :
    Blind fun s : Node τ => s.apply cfg pod runtime := by
  intro s l l'
  show (s.withEvents l l').apply cfg pod runtime = (s.apply cfg pod runtime).withEvents l l'
  unfold Node.apply Node.withEvents
  dsimp only
  split <;> rfl

/-- Nor do its effects look at them. -/
theorem blind_watch : Blind (Node.watch (τ := τ)) := by
  intro s l l'
  unfold Node.watch Node.withEvents
  dsimp only
  split <;> rfl

/-- The loop registers a number for the network probes. -/
theorem blind_receiveInode : Blind (Node.receiveInode (τ := τ)) := by
  intro s l l'
  unfold Node.receiveInode Node.withEvents
  dsimp only
  repeat' split
  all_goals rfl

/-- It registers it for the syscall probe. -/
theorem blind_updateSyscall : Blind (Node.updateSyscall (τ := τ)) := by
  intro s l l'
  unfold Node.updateSyscall Node.withEvents
  dsimp only
  repeat' split
  all_goals rfl

/-- It takes an address for the ignore list. -/
theorem blind_receiveIp (cfg : NodeConfig) : Blind (Node.receiveIp (τ := τ) cfg) := by
  intro s l l'
  unfold Node.receiveIp Node.withEvents
  dsimp only
  repeat' split
  all_goals rfl

/-! ## Events that are handled

Two ways of handling an event are compared: the node's, which finds it at some place of its buffer,
and that of the tasks, which have it in hand.
-/

/-- An event is handled alike wherever it waits. -/
theorem handleNetworkEvent_withEvents (cfg : NodeConfig) (s : Node τ)
    {l : List (τ × NetworkEventData)} {n : Nat} {event : τ × NetworkEventData}
    (hn : l[n]? = some event) (l' : List SyscallEventData) (stamp : Stamp) (sent : Sent) :
    (s.withEvents l l').handleNetworkEvent cfg n stamp sent
      = (Tasks.commitNetwork cfg s event stamp sent).withEvents (l.eraseIdx n) l' := by
  unfold Tasks.commitNetwork Node.handleNetworkEvent Node.withEvents
  dsimp only [List.getElem?_cons_zero]
  rw [hn]
  dsimp only
  split <;> rfl

theorem handleSyscallEvent_withEvents (cfg : NodeConfig) (s : Node τ)
    (l : List (τ × NetworkEventData)) {l' : List SyscallEventData} {n : Nat}
    {data : SyscallEventData} (hn : l'[n]? = some data) :
    (s.withEvents l l').handleSyscallEvent cfg n
      = (Tasks.commitSyscall cfg s data).withEvents l (l'.eraseIdx n) := by
  unfold Tasks.commitSyscall Node.handleSyscallEvent Node.withEvents
  dsimp only [List.getElem?_cons_zero]
  rw [hn]
  dsimp only
  split
  · rfl
  · split <;> rfl

/-- Handling an event that is in hand leaves those in the buffers alone. -/
theorem events_commitNetwork (cfg : NodeConfig) (s : Node τ) (event : τ × NetworkEventData)
    (stamp : Stamp) (sent : Sent) :
    (Tasks.commitNetwork cfg s event stamp sent).networkEvents = s.networkEvents
      ∧ (Tasks.commitNetwork cfg s event stamp sent).syscallEvents = s.syscallEvents := by
  unfold Tasks.commitNetwork Node.handleNetworkEvent
  dsimp only [List.getElem?_cons_zero, List.eraseIdx_cons_zero]
  split <;> exact ⟨rfl, rfl⟩

theorem events_commitSyscall (cfg : NodeConfig) (s : Node τ) (data : SyscallEventData) :
    (Tasks.commitSyscall cfg s data).networkEvents = s.networkEvents
      ∧ (Tasks.commitSyscall cfg s data).syscallEvents = s.syscallEvents := by
  unfold Tasks.commitSyscall Node.handleSyscallEvent
  dsimp only [List.getElem?_cons_zero, List.eraseIdx_cons_zero]
  split
  · exact ⟨rfl, rfl⟩
  · split <;> exact ⟨rfl, rfl⟩

/-- A name that goes into a set that was dropped is lost, as if the set were dropped after it. -/
theorem evictSyscalls_commitSyscall {cfg : NodeConfig} {s : Node τ} {data : SyscallEventData}
    {podInspect : PodInspect}
    (hpod : s.handler.containerMap.lookup data.inum = some podInspect)
    (hname : (cfg.host.syscallName data.sysnbr).isSome)
    (hgone : podInspect.status.podName ∉ s.syscallCache) :
    { Tasks.commitSyscall cfg s data with
        syscallCache := (Tasks.commitSyscall cfg s data).syscallCache.erase
          podInspect.status.podName } = s
      ∧ (Tasks.commitSyscall cfg s data).panicked = s.panicked := by
  obtain ⟨name, hname⟩ := Option.isSome_iff_exists.mp hname
  -- erasing the pod's set takes the new entry out again, and there was none before
  have hback : ((s.syscallCache.insert podInspect.status.podName
      ((SyscallCache.get s.syscallCache podInspect.status.podName).insert name)).erase
        podInspect.status.podName) = s.syscallCache := by
    apply AList.ext
    show List.kerase _ (AList.insert _ _ _).entries = _
    have hkeys : podInspect.status.podName ∉ s.syscallCache.entries.keys := hgone
    rw [AList.entries_insert, List.kerase_of_notMem_keys hkeys]
    exact List.kerase_cons_eq rfl
  unfold Tasks.commitSyscall Node.handleSyscallEvent
  simp only [List.getElem?_cons_zero, hpod, processSyscallEvent, hname, Option.map_some,
    List.eraseIdx_cons_zero]
  exact ⟨by rw [hback], trivial⟩

end WithEvents

/-! ## The node that the tasks make up

Events may pass each other on their way, so what is compared are permutations of lists.
-/

/-- An element and the others make up the list. -/
theorem perm_of_getElem? {α : Type*} {l : List α} {n : Nat} {a : α} (hn : l[n]? = some a) :
    l.Perm (a :: l.eraseIdx n) := by
  obtain ⟨hlt, rfl⟩ := List.getElem?_eq_some_iff.mp hn
  exact (List.getElem_cons_eraseIdx_perm hlt).symm

/-- What comes first in a permutation of a list is somewhere in the list, and the others are what is
left. -/
theorem exists_getElem?_of_perm {α : Type*} {l rest : List α} {a : α} (h : l.Perm (a :: rest)) :
    ∃ n, l[n]? = some a ∧ (l.eraseIdx n).Perm rest := by
  obtain ⟨n, hn⟩ := List.getElem?_of_mem (h.mem_iff.mpr (List.mem_cons_self ..))
  exact ⟨n, hn, List.Perm.cons_inv ((perm_of_getElem? hn).symm.trans h)⟩

/-- The place of an event among all those on their way. -/
theorem exists_getElem?_of_perm_append {α : Type*} {l away waiting : List α} {n : Nat} {a : α}
    (h : l.Perm (away ++ waiting)) (hn : waiting[n]? = some a) :
    ∃ m, l[m]? = some a ∧ (l.eraseIdx m).Perm (away ++ waiting.eraseIdx n) :=
  exists_getElem?_of_perm
    (h.trans (((perm_of_getElem? hn).append_left away).trans List.perm_middle))

/-- An event that has left the buffer is on its way. -/
theorem perm_append_eraseIdx {α : Type*} (away : List α) {waiting : List α} {n : Nat} {a : α}
    (hn : waiting[n]? = some a) :
    (away ++ waiting).Perm (away ++ [a] ++ waiting.eraseIdx n) := by
  rw [List.append_assoc]
  exact (perm_of_getElem? hn).append_left away

/-- An event that is emitted waits behind the others. -/
theorem perm_append_emitted {α : Type*} {l away waiting emitted : List α}
    (h : l.Perm (away ++ waiting)) : (l ++ emitted).Perm (away ++ (waiting ++ emitted)) := by
  rw [← List.append_assoc]
  exact h.append_right emitted

/-- The place that the loop is given is one at which an event waits. -/
theorem found_of_bind_eq_some {α : Type*} {waiting : List α} {n : Option Nat} {m : Nat} {a : α}
    (h : (n.bind fun n => (waiting[n]?).map (n, ·)) = some (m, a)) : waiting[m]? = some a := by
  obtain ⟨k, -, h⟩ := Option.bind_eq_some_iff.mp h
  obtain ⟨b, hb, heq⟩ := Option.map_eq_some_iff.mp h
  obtain ⟨rfl, rfl⟩ := Prod.mk.inj heq
  exact hb

namespace Tasks

variable {τ : Type*}

/-- The events that have left the buffers. -/
def networkAway (t : Tasks τ) : List (τ × NetworkEventData) :=
  t.networkHandler.held ++ t.networkChannel ++ t.ebpf.sendsNetwork

/-- The syscall events that have left the kernel's buffer and are not handled yet: in the handler's
hands, in the channel, in the loop's hands. -/
def syscallAway (t : Tasks τ) : List SyscallEventData :=
  t.syscallHandler.held ++ t.syscallChannel ++ t.ebpf.sendsSyscall

/-! ## Events that are on their way

An event goes from the buffer through a callback, a channel and a handler that waits for the map.
Each turn of a task passes events on along this way without losing any, or is done with one.
-/

/-- Those that the tasks have, and those that they are still to get. -/
def networkWaiting (t : Tasks τ) : List (τ × NetworkEventData) :=
  t.networkAway ++ t.node.networkEvents

def syscallWaiting (t : Tasks τ) : List SyscallEventData := t.syscallAway ++ t.node.syscallEvents

/-- The event that the handler's next step is done with. -/
def doneNetwork (t : Tasks τ) : List (τ × NetworkEventData) :=
  match t.networkHandler with
  | .locked event => [event]
  | _ => []

def doneSyscall (cfg : NodeConfig) (t : Tasks τ) : List SyscallEventData :=
  match t.syscallHandler with
  | .locked data =>
    match t.node.handler.containerMap.lookup data.inum, cfg.host.syscallName data.sysnbr with
    | some _, some _ => []
    | _, _ => [data]
  | .lockedSet data _ => [data]
  | _ => []

/-- From `t` to `t'` these are dealt with, and the others are still on their way. -/
structure Passes (t t' : Tasks τ) (network : List (τ × NetworkEventData))
    (syscall : List SyscallEventData) : Prop where
  network : t.networkWaiting.Perm (network ++ t'.networkWaiting)
  syscall : t.syscallWaiting.Perm (syscall ++ t'.syscallWaiting)

variable {cfg : NodeConfig} {t t' : Tasks τ} {s : Node τ}

/-- Nothing is passed on and nothing is done with. -/
theorem Passes.refl (t : Tasks τ) : Passes t t [] [] := ⟨.refl _, .refl _⟩

/-- The watcher has to do with no event. -/
theorem passes_watch : Passes t t.watch [] [] := by
  have hevents := blind_watch.events t.node
  have hnode : ∀ {watcher : WatcherAt},
      Passes t { t with node := t.node.watch, watcher := watcher } [] [] := by
    intro watcher
    refine ⟨.of_eq ?_, .of_eq ?_⟩
    · show t.networkWaiting = t.networkAway ++ t.node.watch.networkEvents
      rw [hevents.1]
      rfl
    · show t.syscallWaiting = t.syscallAway ++ t.node.watch.syscallEvents
      rw [hevents.2]
      rfl
  unfold Tasks.watch
  repeat' split
  all_goals first | exact hnode | exact .refl t | exact ⟨.refl _, .refl _⟩

/-- The handler of network events takes one out of its channel, holds on to it, or is done with it.
-/
theorem passes_handleNetwork (stamp : Stamp) (sent : Sent) :
    Passes t (t.handleNetwork cfg stamp sent) t.doneNetwork [] := by
  unfold Tasks.handleNetwork doneNetwork
  cases hat : t.networkHandler with
  -- taken off the channel, into the handler's hands
  | receiving =>
    cases hchannel : t.networkChannel with
    | nil => exact .refl t
    | cons event rest =>
      refine ⟨.of_eq ?_, .refl _⟩
      simp [networkWaiting, networkAway, hat, hchannel, NetworkAt.held]
  | locking event =>
    dsimp only
    split
    · exact .refl t
    · refine ⟨.of_eq ?_, .refl _⟩
      simp [networkWaiting, networkAway, hat, NetworkAt.held]
  -- done with: the event leaves the node
  | locked event =>
    obtain ⟨hevents, hevents'⟩ := events_commitNetwork cfg t.node event stamp sent
    refine ⟨.of_eq ?_, .of_eq ?_⟩
    · simp [networkWaiting, networkAway, hat, hevents, NetworkAt.held]
    · simp [syscallWaiting, syscallAway, hevents']

/-- So does the handler of syscalls, which is also done with an event whose pod has no entry or
whose set is gone. -/
theorem passes_handleSyscall : Passes t (t.handleSyscall cfg) [] (t.doneSyscall cfg) := by
  -- the event stays with the handler, or is the one it is done with
  have hmoves : ∀ {place : SyscallAt}, place.held = t.syscallHandler.held →
      Passes t { t with syscallHandler := place } [] [] := fun hheld =>
    ⟨.refl _, .of_eq (by simp [syscallWaiting, syscallAway, hheld])⟩
  have hcommits : ∀ {data : SyscallEventData}, t.syscallHandler.held = [data] →
      Passes t { t with node := commitSyscall cfg t.node data, syscallHandler := .receiving } []
        [data] := by
    intro data hheld
    obtain ⟨hevents, hevents'⟩ := events_commitSyscall cfg t.node data
    refine ⟨.of_eq ?_, .of_eq ?_⟩
    · simp [networkWaiting, networkAway, hevents]
    · show t.syscallHandler.held ++ _ ++ _ ++ _ = [data] ++ ([] ++ _ ++ _ ++ _)
      simp [hheld, hevents']
  unfold Tasks.handleSyscall doneSyscall
  cases hat : t.syscallHandler with
  | receiving =>
    cases hchannel : t.syscallChannel with
    | nil => exact .refl t
    | cons data rest =>
      refine ⟨.refl _, .of_eq ?_⟩
      simp [syscallWaiting, syscallAway, hat, hchannel, SyscallAt.held]
  | locking data =>
    dsimp only
    split
    · exact .refl t
    · exact hmoves (by rw [hat]; rfl)
  | locked data =>
    have hheld : t.syscallHandler.held = [data] := by rw [hat]; rfl
    dsimp only
    -- without a pod or a name the event is dropped at once
    cases t.node.handler.containerMap.lookup data.inum with
    | none => exact hcommits hheld
    | some podInspect =>
      cases cfg.host.syscallName data.sysnbr with
      | none => exact hcommits hheld
      | some name => exact hmoves hheld.symm
  | lockingSet data mutex =>
    dsimp only
    split
    · exact .refl t
    · exact hmoves (by rw [hat]; rfl)
  | lockedSet data mutex =>
    dsimp only
    split
    · exact hcommits (by rw [hat]; rfl)
    · refine ⟨.refl _, .of_eq ?_⟩
      simp [syscallWaiting, syscallAway, hat, SyscallAt.held]

theorem passes_record : Passes t t.record [] [] := by
  unfold Tasks.record
  repeat' split
  all_goals exact ⟨.refl _, .refl _⟩

/-- The loop takes an event from the buffers into its callback, or puts it into a channel. -/
theorem passes_poll (n : Option Nat) : Passes t (t.poll cfg n) [] [] := by
  -- no event changes hands
  have hmoves : ∀ {node : Node τ} {place : EbpfAt τ},
      node.networkEvents = t.node.networkEvents ∧ node.syscallEvents = t.node.syscallEvents →
      place.sendsNetwork = t.ebpf.sendsNetwork → place.sendsSyscall = t.ebpf.sendsSyscall →
      Passes t { t with node := node, ebpf := place } [] [] := by
    rintro node place ⟨hevents, hevents'⟩ hsends hsends'
    refine ⟨.of_eq ?_, .of_eq ?_⟩
    · simp [networkWaiting, networkAway, hevents, hsends]
    · simp [syscallWaiting, syscallAway, hevents', hsends']
  unfold Tasks.poll
  split
  · exact .refl t
  · cases hat : t.ebpf with
    | network =>
      dsimp only
      split
      · -- off the map and into the loop's hands, from the middle of the list
        next hfound =>
        refine ⟨?_, .of_eq ?_⟩
        · simpa [networkWaiting, networkAway, hat, EbpfAt.sendsNetwork] using
            perm_append_eraseIdx (t.networkHandler.held ++ t.networkChannel)
              (found_of_bind_eq_some hfound)
        · simp [syscallWaiting, syscallAway, hat, EbpfAt.sendsSyscall]
      · exact hmoves ⟨rfl, rfl⟩ (by rw [hat]; rfl) (by rw [hat]; rfl)
    -- out of the loop's hands and onto the end of the channel
    | sendingNetwork event =>
      dsimp only
      split
      · refine ⟨.of_eq ?_, .of_eq ?_⟩
        · simp [networkWaiting, networkAway, hat, EbpfAt.sendsNetwork]
        · simp [syscallWaiting, syscallAway, hat, EbpfAt.sendsSyscall]
      · exact .refl t
    | syscall =>
      dsimp only
      split
      · next hfound =>
        refine ⟨.of_eq ?_, ?_⟩
        · simp [networkWaiting, networkAway, hat, EbpfAt.sendsNetwork]
        · simpa [syscallWaiting, syscallAway, hat, EbpfAt.sendsSyscall] using
            perm_append_eraseIdx (t.syscallHandler.held ++ t.syscallChannel)
              (found_of_bind_eq_some hfound)
      · exact hmoves ⟨rfl, rfl⟩ (by rw [hat]; rfl) (by rw [hat]; rfl)
    | sendingSyscall data =>
      dsimp only
      split
      · refine ⟨.of_eq ?_, .of_eq ?_⟩
        · simp [networkWaiting, networkAway, hat, EbpfAt.sendsNetwork]
        · simp [syscallWaiting, syscallAway, hat, EbpfAt.sendsSyscall]
      · exact .refl t
    | inode =>
      dsimp only
      split
      · exact hmoves (blind_updateSyscall.events t.node) (by rw [hat]; rfl) (by rw [hat]; rfl)
      · exact hmoves ⟨rfl, rfl⟩ (by rw [hat]; rfl) (by rw [hat]; rfl)
      · exact hmoves (blind_receiveInode.events t.node) (by rw [hat]) (by rw [hat])
    | ip =>
      exact hmoves ((blind_receiveIp cfg).events t.node) (by rw [hat]; rfl) (by rw [hat]; rfl)

/-! ## The node follows

The relation of the simulation, and for each effect the step by which the node keeps up with the
tasks.
-/

/-- The node is what the tasks share, with all the events that are on their way. -/
def Abstracts (t : Tasks τ) (s : Node τ) : Prop :=
  ∃ l l', s = t.node.withEvents l l' ∧ l.Perm t.networkWaiting ∧ l'.Perm t.syscallWaiting

/-- A panic of a task is one of the node. -/
theorem Abstracts.panicked (h : Abstracts t s) : s.panicked = t.node.panicked := by
  obtain ⟨l, l', rfl, -, -⟩ := h
  rfl

/-- But for the events nothing is done. -/
theorem Abstracts.stay (h : Abstracts t s)
    (hnode : ∀ l l', t'.node.withEvents l l' = t.node.withEvents l l')
    (hpasses : Passes t t' [] []) : Abstracts t' s := by
  obtain ⟨l, l', rfl, hl, hl'⟩ := h
  exact ⟨l, l', (hnode l l').symm, hl.trans hpasses.network, hl'.trans hpasses.syscall⟩

/-- What is done is what a step of the node does with no eye to the events. -/
theorem Abstracts.blind (h : Abstracts t s) (hrunning : t.node.panicked = false)
    {g : Node τ → Node τ} {i : NodeInput τ} (hg : Blind g) (hi : ∀ s, Node.next cfg s i = g s)
    (hnode : t'.node = g t.node) (hpasses : Passes t t' [] []) : Abstracts t' (s.step cfg i) := by
  rw [Node.step_of_running (h.panicked.trans hrunning), hi]
  obtain ⟨l, l', rfl, hl, hl'⟩ := h
  refine ⟨l, l', ?_, hl.trans hpasses.network, hl'.trans hpasses.syscall⟩
  rw [hg, hnode]

/-- A call that the network probes see is the same call to the node, and its event comes to wait in
both. -/
theorem Abstracts.networkCall (h : Abstracts t s) (hrunning : t.node.panicked = false) (tag : τ)
    (mem : Memory) (call : ProbeCall) :
    Abstracts { t with node := t.node.networkCall cfg tag mem call }
      (s.step cfg (.network tag mem call)) := by
  rw [Node.step_of_running (h.panicked.trans hrunning)]
  obtain ⟨l, l', rfl, hl, hl'⟩ := h
  show Abstracts _ ((t.node.withEvents l l').networkCall cfg tag mem call)
  unfold Node.networkCall
  by_cases hended : t.node.loop = .ended
  · rw [if_pos hended, if_pos (show (t.node.withEvents l l').loop = .ended from hended)]
    exact ⟨l, l', rfl, hl, hl'⟩
  · rw [if_neg hended, if_neg (show ¬ (t.node.withEvents l l').loop = .ended from hended)]
    exact ⟨_, _, rfl, perm_append_emitted hl, hl'⟩

theorem Abstracts.syscallCall (h : Abstracts t s) (hrunning : t.node.panicked = false)
    (netNs : UInt64) (id : Int64) :
    Abstracts { t with node := t.node.syscallCall netNs id } (s.step cfg (.syscall netNs id)) := by
  rw [Node.step_of_running (h.panicked.trans hrunning)]
  obtain ⟨l, l', rfl, hl, hl'⟩ := h
  show Abstracts _ ((t.node.withEvents l l').syscallCall netNs id)
  unfold Node.syscallCall
  by_cases hended : t.node.loop = .ended
  · rw [if_pos hended, if_pos (show (t.node.withEvents l l').loop = .ended from hended)]
    exact ⟨l, l', rfl, hl, hl'⟩
  · rw [if_neg hended, if_neg (show ¬ (t.node.withEvents l l').loop = .ended from hended)]
    dsimp only [Node.withEvents]
    cases traceExecve t.node.syscallInodeNum.keySet netNs id with
    | none => exact ⟨l, l', rfl, hl, hl'⟩
    | some data => exact ⟨_, _, rfl, hl, perm_append_emitted hl'⟩

/-- The event that the buffer drops, wherever it stands among those on their way. -/
theorem Abstracts.loseNetwork (h : Abstracts t s) (hrunning : t.node.panicked = false) (n : Nat) :
    ∃ m, Abstracts
      { t with node := { t.node with networkEvents := t.node.networkEvents.eraseIdx n } }
      (s.step cfg (.loseNetwork m)) := by
  cases hn : t.node.networkEvents[n]? with
  | none =>
    rw [List.eraseIdx_of_length_le (List.getElem?_eq_none_iff.mp hn)]
    obtain ⟨l, l', rfl, hl, hl'⟩ := h
    refine ⟨l.length, ?_⟩
    rw [Node.step_of_running (by exact hrunning)]
    exact ⟨l, l', congrArg (t.node.withEvents · l') (List.eraseIdx_of_length_le (le_refl _)), hl,
      hl'⟩
  | some event =>
    obtain ⟨l, l', rfl, hl, hl'⟩ := h
    obtain ⟨m, -, hrest⟩ := exists_getElem?_of_perm_append hl hn
    refine ⟨m, l.eraseIdx m, l', ?_, hrest, hl'⟩
    rw [Node.step_of_running (by exact hrunning)]
    rfl

/-- An event that drops out of the buffer of the syscall probe is at some place of the node's. -/
theorem Abstracts.loseSyscall (h : Abstracts t s) (hrunning : t.node.panicked = false) (n : Nat) :
    ∃ m, Abstracts
      { t with node := { t.node with syscallEvents := t.node.syscallEvents.eraseIdx n } }
      (s.step cfg (.loseSyscall m)) := by
  cases hn : t.node.syscallEvents[n]? with
  | none =>
    rw [List.eraseIdx_of_length_le (List.getElem?_eq_none_iff.mp hn)]
    obtain ⟨l, l', rfl, hl, hl'⟩ := h
    refine ⟨l'.length, ?_⟩
    rw [Node.step_of_running (by exact hrunning)]
    exact ⟨l, l', congrArg (t.node.withEvents l) (List.eraseIdx_of_length_le (le_refl _)), hl, hl'⟩
  | some data =>
    obtain ⟨l, l', rfl, hl, hl'⟩ := h
    obtain ⟨m, -, hrest⟩ := exists_getElem?_of_perm_append hl' hn
    refine ⟨m, l, l'.eraseIdx m, ?_, hl, hrest⟩
    rw [Node.step_of_running (by exact hrunning)]
    rfl

/-- An effect that is blind to the events passes none on. -/
theorem passes_blind {g : Node τ → Node τ} (hg : Blind g) (dropped : String → Nat) :
    Passes t { t with node := g t.node, dropped := dropped } [] [] := by
  obtain ⟨hevents, hevents'⟩ := hg.events t.node
  refine ⟨.of_eq ?_, .of_eq ?_⟩
  · simp [networkWaiting, networkAway, hevents]
  · simp [syscallWaiting, syscallAway, hevents']

/-- The handler is done with an event, wherever it stands among those on their way. -/
theorem Abstracts.commitNetwork (h : Abstracts t s) (hrunning : t.node.panicked = false)
    {event : τ × NetworkEventData} (hat : t.networkHandler = .locked event) (stamp : Stamp) :
    ∃ n, s.networkEvents[n]? = some event ∧ ∀ sent,
      Abstracts (t.handleNetwork cfg stamp sent) (s.step cfg (.handleNetwork n stamp sent)) := by
  have hdone : t.doneNetwork = [event] := by simp [doneNetwork, hat]
  have hpasses : ∀ sent, Passes t (t.handleNetwork cfg stamp sent) [event] [] := fun sent =>
    hdone ▸ passes_handleNetwork stamp sent
  have hnetwork : ∀ sent, t.networkWaiting.Perm
      (event :: (t.handleNetwork cfg stamp sent).networkWaiting) :=
    fun sent => (hpasses sent).network
  obtain ⟨l, l', rfl, hl, hl'⟩ := h
  obtain ⟨n, hn, -⟩ := exists_getElem?_of_perm (hl.trans (hnetwork (.error "")))
  refine ⟨n, hn, fun sent => ⟨l.eraseIdx n, l', ?_, ?_, hl'.trans (hpasses sent).syscall⟩⟩
  · rw [Node.step_of_running (by exact hrunning)]
    unfold Tasks.handleNetwork
    rw [hat]
    exact handleNetworkEvent_withEvents cfg t.node hn l' stamp sent
  · exact List.Perm.cons_inv ((perm_of_getElem? hn).symm.trans (hl.trans (hnetwork sent)))

/-- Until then it only takes the event, and the map. -/
theorem Abstracts.takeNetwork (h : Abstracts t s)
    (hat : ∀ event, t.networkHandler ≠ .locked event) (stamp : Stamp) (sent : Sent) :
    Abstracts (t.handleNetwork cfg stamp sent) s := by
  have hpasses : Passes t (t.handleNetwork cfg stamp sent) t.doneNetwork [] :=
    passes_handleNetwork stamp sent
  have hnode : (t.handleNetwork cfg stamp sent).node = t.node ∧ t.doneNetwork = [] := by
    unfold Tasks.handleNetwork doneNetwork
    cases hplace : t.networkHandler with
    | locked event => exact absurd hplace (hat event)
    | _ =>
      dsimp only
      split <;> exact ⟨rfl, rfl⟩
  rw [hnode.2] at hpasses
  exact h.stay (fun l l' => by rw [hnode.1]) hpasses

/-- The handler has recorded a name in the cache. -/
theorem Abstracts.commitSyscall (h : Abstracts t s) (hrunning : t.node.panicked = false)
    {data : SyscallEventData} (hnode : t'.node = Tasks.commitSyscall cfg t.node data)
    (hpasses : Passes t t' [] [data]) : ∃ n, Abstracts t' (s.step cfg (.handleSyscall n)) := by
  obtain ⟨l, l', rfl, hl, hl'⟩ := h
  obtain ⟨n, hn, hrest⟩ := exists_getElem?_of_perm (hl'.trans hpasses.syscall)
  refine ⟨n, l, l'.eraseIdx n, ?_, hl.trans hpasses.network, hrest⟩
  rw [Node.step_of_running (by exact hrunning), hnode]
  exact handleSyscallEvent_withEvents cfg t.node l hn

/-- It has done so in a set that is the cache's no more: the set of the name is dropped after it. -/
theorem Abstracts.loseName (ht : Coherent cfg t) (h : Abstracts t s)
    (hrunning : t.node.panicked = false) {data : SyscallEventData} {mutex : SetMutex}
    (hat : t.syscallHandler = .lockedSet data mutex) (hgone : mutex.2 ≠ t.dropped mutex.1)
    (hpasses : Passes t { t with syscallHandler := .receiving } [] [data]) :
    ∃ n podName, Abstracts { t with syscallHandler := .receiving }
      ((s.step cfg (.handleSyscall n)).step cfg (.evictSyscalls podName)) := by
  have hrecords : t.syscallHandler.records = some (data, mutex) := by rw [hat]; rfl
  obtain ⟨podInspect, hpod, hpodName, hname⟩ := ht.found data mutex hrecords
  obtain ⟨hle, hdropped⟩ := ht.current data mutex hrecords
  -- the set was replaced since it was looked up, so its pod is out of the cache
  have hmem : podInspect.status.podName ∉ t.node.syscallCache :=
    hpodName ▸ hdropped (by omega)
  obtain ⟨hback, hpanicked⟩ := evictSyscalls_commitSyscall hpod hname hmem
  obtain ⟨hevents, hevents'⟩ := events_commitSyscall cfg t.node data
  -- the atomic model records the name and evicts the set again
  have hrecorded : ∃ n, Abstracts
      { t with node := Tasks.commitSyscall cfg t.node data, syscallHandler := .receiving }
      (s.step cfg (.handleSyscall n)) := by
    refine h.commitSyscall hrunning rfl ⟨?_, ?_⟩
    · exact hpasses.network.trans (.of_eq (by simp [networkWaiting, networkAway, hevents]))
    · exact hpasses.syscall.trans (.of_eq (by simp [syscallWaiting, syscallAway, hevents']))
  obtain ⟨n, l, l', hs, hl, hl'⟩ := hrecorded
  refine ⟨n, podInspect.status.podName, l, l', ?_, ?_, ?_⟩
  · rw [hs, Node.step_of_running (by exact hpanicked.trans hrunning)]
    show ({ Tasks.commitSyscall cfg t.node data with
        syscallCache := (Tasks.commitSyscall cfg t.node data).syscallCache.erase
          podInspect.status.podName }).withEvents l l' = t.node.withEvents l l'
    rw [hback]
  · exact hl.trans (.of_eq (by simp [networkWaiting, networkAway, hevents]))
  · exact hl'.trans (.of_eq (by simp [syscallWaiting, syscallAway, hevents']))

/-! ## With the same calls and pods

What the node is given in its run is what the tasks were given in theirs, in the same order; what it
does by itself is up to the simulation.
-/

end Tasks

/-- What the node is given from outside; that a buffer or a cache drops something is not. -/
def NodeInput.heard {τ : Type*} : NodeInput τ → List (NodeInput τ)
  | .apply pod runtime => [.apply pod runtime]
  | .delete pod => [.delete pod]
  | .network tag mem call => [.network tag mem call]
  | .syscall netNs id => [.syscall netNs id]
  | _ => []

def TaskInput.heard {τ : Type*} : TaskInput τ → List (NodeInput τ)
  | .outside i => i.heard
  | _ => []

/-- It is no round of the handler of network events, which alone has to do with the broker. -/
def NodeInput.Quiet {τ : Type*} : NodeInput τ → Prop
  | .handleNetwork _ _ _ => False
  | _ => True

namespace Tasks

variable {τ : Type*} {cfg : NodeConfig} {t t' : Tasks τ} {s : Node τ}

/-- The node gets to what the tasks have come to, hearing the same, with no word to the broker. -/
def Follows (cfg : NodeConfig) (s : Node τ) (t' : Tasks τ) (heard : List (NodeInput τ)) : Prop :=
  ∃ is, is.flatMap NodeInput.heard = heard ∧ (∀ i ∈ is, i.Quiet)
    ∧ Abstracts t' (run (Node.step cfg) s is)

/-- Where the tasks have changed nothing that the node has, it follows by doing nothing. -/
theorem Abstracts.follows (h : Abstracts t' s) : Follows cfg s t' [] := ⟨[], rfl, by simp, h⟩

/-- It may follow with one step of its own. -/
theorem follows_of_step {i : NodeInput τ} (hi : i.Quiet) (h : Abstracts t' (s.step cfg i)) :
    Follows cfg s t' i.heard :=
  ⟨[i], List.flatMap_singleton _ _, by simpa using hi, h⟩

/-- What happens outside happens to the node as well. -/
theorem Abstracts.outside (h : Abstracts t s) (hrunning : t.node.panicked = false)
    (i : NodeInput τ) : Follows cfg s (t.outside cfg i) i.heard := by
  unfold Tasks.outside
  split
  · next hi =>
    -- what touches no event goes through as it is
    have hblind : ∀ {g : Node τ → Node τ}, Blind g → (∀ s, Node.next cfg s i = g s) → i.Quiet →
        ∀ dropped, Follows cfg s { t with node := g t.node, dropped := dropped } i.heard :=
      fun hg hnext hquiet dropped =>
        follows_of_step hquiet (h.blind hrunning hg hnext rfl (passes_blind hg dropped))
    cases i with
    | apply pod runtime => exact hblind (blind_apply cfg pod runtime) (fun _ => rfl) trivial _
    | delete pod => exact hblind (g := id) (fun _ _ _ => rfl) (fun _ => rfl) trivial _
    | evict key => exact hblind (fun _ _ _ => rfl) (fun _ => rfl) trivial _
    | evictSyscalls podName => exact hblind (fun _ _ _ => rfl) (fun _ => rfl) trivial _
    | network tag mem call => exact follows_of_step trivial (h.networkCall hrunning tag mem call)
    | syscall netNs id => exact follows_of_step trivial (h.syscallCall hrunning netNs id)
    | loseNetwork n =>
      obtain ⟨m, hlost⟩ := h.loseNetwork hrunning n
      exact follows_of_step (i := .loseNetwork m) trivial hlost
    | loseSyscall n =>
      obtain ⟨m, hlost⟩ := h.loseSyscall hrunning n
      exact follows_of_step (i := .loseSyscall m) trivial hlost
    | _ => cases hi
  · next hi =>
    have hheard : i.heard = [] := by cases i <;> first | rfl | exact absurd rfl hi
    rw [hheard]
    exact h.follows

/-- But for the events nothing is done, or what a quiet step of the node does with no eye to
them. -/
def Apart (cfg : NodeConfig) (s s' : Node τ) : Prop :=
  (∀ l l', s'.withEvents l l' = s.withEvents l l')
    ∨ ∃ g i, Blind g ∧ (∀ s, Node.next cfg s i = g s) ∧ i.Quiet ∧ i.heard = [] ∧ s' = g s

theorem Apart.of_eq {s s' : Node τ} (h : s' = s) : Apart cfg s s' := .inl fun _ _ => by rw [h]

/-- An effect that is blind, and passes no event, is matched by the same effect of the node. -/
theorem Abstracts.apart (h : Abstracts t s) (hrunning : t.node.panicked = false)
    (hnode : Apart cfg t.node t'.node) (hpasses : Passes t t' [] []) : Follows cfg s t' [] := by
  rcases hnode with hsame | ⟨g, i, hg, hi, hquiet, hheard, hnode⟩
  · exact (h.stay hsame hpasses).follows
  · rw [← hheard]
    exact follows_of_step hquiet (h.blind hrunning hg hi hnode hpasses)

/-- The watcher's effects are of this kind: the mutexes that it waits for are nothing to the node.
-/
theorem apart_watch : Apart cfg t.node t.watch.node := by
  have hnode : Apart cfg t.node t.node.watch :=
    .inr ⟨_, .watch, blind_watch, fun _ => rfl, trivial, rfl, rfl⟩
  unfold Tasks.watch
  repeat' split
  all_goals first | exact hnode | exact .of_eq rfl

/-- So is what the loop does, apart from the events that it passes on. -/
theorem apart_poll (n : Option Nat) : Apart cfg t.node (t.poll cfg n).node := by
  unfold Tasks.poll
  split
  · exact .of_eq rfl
  · split
    · split
      · exact .inl fun _ _ => rfl
      · exact .of_eq rfl
    · split <;> exact .of_eq rfl
    · split
      · exact .inl fun _ _ => rfl
      · exact .of_eq rfl
    · split <;> exact .of_eq rfl
    · split
      · exact .inr ⟨_, .updateSyscall, blind_updateSyscall, fun _ => rfl, trivial, rfl, rfl⟩
      · exact .of_eq rfl
      · exact .inr ⟨_, .receiveInode, blind_receiveInode, fun _ => rfl, trivial, rfl, rfl⟩
    · exact .inr ⟨_, .receiveIp, blind_receiveIp cfg, fun _ => rfl, trivial, rfl, rfl⟩

/-- **The handler of syscalls is followed at its last place.** Until then the node has the event
waiting; a name that goes into a set which was dropped is matched by handling the event and dropping
the set after it. -/
theorem Abstracts.handleSyscall (ht : Coherent cfg t) (h : Abstracts t s)
    (hrunning : t.node.panicked = false) : Follows cfg s (t.handleSyscall cfg) [] := by
  have hpasses : Passes t (t.handleSyscall cfg) [] (t.doneSyscall cfg) := passes_handleSyscall
  -- a commit in the task model is the whole handler in the atomic one
  have hcommits : ∀ {t' : Tasks τ} {data}, t'.node = Tasks.commitSyscall cfg t.node data →
      Passes t t' [] [data] → Follows cfg s t' [] := by
    intro t' data hnode hpasses
    obtain ⟨n, hcommitted⟩ := h.commitSyscall hrunning hnode hpasses
    exact follows_of_step (i := .handleSyscall n) trivial hcommitted
  unfold Tasks.handleSyscall doneSyscall at hpasses
  unfold Tasks.handleSyscall
  cases hat : t.syscallHandler with
  | locked data =>
    simp only [hat] at hpasses ⊢
    cases hpod : t.node.handler.containerMap.lookup data.inum with
    | none =>
      simp only [hpod] at hpasses ⊢
      exact hcommits rfl hpasses
    | some podInspect =>
      cases hname : cfg.host.syscallName data.sysnbr with
      | none =>
        simp only [hpod, hname] at hpasses ⊢
        exact hcommits rfl hpasses
      | some name =>
        simp only [hpod, hname] at hpasses ⊢
        exact h.apart hrunning (.of_eq rfl) hpasses
  -- the set is still the cached one, or its name is lost with it
  | lockedSet data mutex =>
    simp only [hat] at hpasses ⊢
    split
    · next hsame =>
      rw [if_pos hsame] at hpasses
      exact hcommits rfl hpasses
    · next hgone =>
      rw [if_neg hgone] at hpasses
      obtain ⟨n, podName, hlost⟩ := h.loseName ht hrunning hat hgone hpasses
      exact ⟨[.handleSyscall n, .evictSyscalls podName], rfl, by simp [NodeInput.Quiet], hlost⟩
  | _ =>
    simp only [hat] at hpasses ⊢
    refine h.apart hrunning (.of_eq ?_) hpasses
    split <;> rfl

/-- A node that has panicked hears, and does nothing. -/
theorem Abstracts.deaf (h : Abstracts t s) (hpanicked : t.node.panicked = true) (i : TaskInput τ) :
    Follows cfg s t i.heard := by
  have hdeaf : ∀ i, s.step cfg i = s := fun i => if_pos (h.panicked.trans hpanicked)
  cases i with
  | outside i =>
    show Follows cfg s t i.heard
    by_cases hquiet : i.Quiet
    · exact follows_of_step hquiet ((hdeaf i).symm ▸ h)
    · cases i with
      | handleNetwork n stamp sent => exact h.follows
      | _ => exact absurd trivial hquiet
  | _ => exact h.follows

/-- **A step of any task but the handler of network events.** -/
theorem Abstracts.quietStep (ht : Coherent cfg t) (h : Abstracts t s) {i : TaskInput τ}
    (hi : ∀ stamp sent, i ≠ .network stamp sent) : Follows cfg s (t.step cfg i) i.heard := by
  cases hpanicked : t.node.panicked with
  | true =>
    -- a node that panicked is deaf, and so is its abstraction
    have hsame : t.step cfg i = t := if_pos hpanicked
    rw [hsame]
    exact h.deaf hpanicked i
  | false =>
    have hnext : t.step cfg i = t.next cfg i := if_neg (by simp [hpanicked])
    rw [hnext]
    cases i with
    | outside i => exact h.outside hpanicked i
    | tick podNames =>
      show Follows cfg s (t.tick podNames) []
      unfold Tasks.tick
      split <;> exact Abstracts.follows h
    | look =>
      show Follows cfg s t.look []
      unfold Tasks.look
      split <;> exact Abstracts.follows h
    | watcher => exact h.apart hpanicked apart_watch passes_watch
    | network stamp sent => exact absurd rfl (hi stamp sent)
    | syscall => exact h.handleSyscall ht hpanicked
    | recorder =>
      have hnode : t.record.node = t.node := by
        unfold Tasks.record
        repeat' split
        all_goals rfl
      exact h.apart hpanicked (.of_eq hnode) passes_record
    | ebpf n => exact h.apart hpanicked (apart_poll n) (passes_poll n)

/-- **One turn of a task is a run of the node**, of no step, one or two. -/
theorem Abstracts.step (ht : Coherent cfg t) (h : Abstracts t s) (i : TaskInput τ) :
    ∃ is, is.flatMap NodeInput.heard = i.heard
      ∧ Abstracts (t.step cfg i) (run (Node.step cfg) s is) := by
  -- only the network handler's step asks the broker
  by_cases hi : ∃ stamp sent, i = .network stamp sent
  · obtain ⟨stamp, sent, rfl⟩ := hi
    cases hpanicked : t.node.panicked with
    | true =>
      have hsame : t.step cfg (.network stamp sent) = t := if_pos hpanicked
      exact ⟨[], rfl, hsame.symm ▸ h⟩
    | false =>
      have hnext : t.step cfg (.network stamp sent) = t.handleNetwork cfg stamp sent :=
        if_neg (by simp [hpanicked])
      rw [hnext]
      cases hat : t.networkHandler with
      -- the commit, answered as the broker answered it
      | locked event =>
        obtain ⟨n, -, hcommitted⟩ := h.commitNetwork hpanicked hat stamp
        exact ⟨[.handleNetwork n stamp sent], rfl, hcommitted sent⟩
      | _ => exact ⟨[], rfl, h.takeNetwork (by simp [hat]) stamp sent⟩
  · obtain ⟨is, hheard, -, habstracts⟩ :=
      h.quietStep ht fun stamp sent heq => hi ⟨stamp, sent, heq⟩
    exact ⟨is, hheard, habstracts⟩

/-- At the start nothing is on its way. -/
theorem abstracts_start : Abstracts (Tasks.start τ) (Node.start τ) :=
  ⟨[], [], rfl, .refl _, .refl _⟩

/-- From related states on, every run of the tasks is matched. Coherence is carried along, since the
handler of syscalls needs it. -/
theorem Abstracts.run (ht : Coherent cfg t) (h : Abstracts t s) (inputs : List (TaskInput τ)) :
    ∃ inputs', inputs'.flatMap NodeInput.heard = inputs.flatMap TaskInput.heard
      ∧ Abstracts (run (Tasks.step cfg) t inputs) (run (Node.step cfg) s inputs') :=
  exists_run_of_follows ht h (fun _ i ht => ht.step i) (fun _ _ i ht h => h.step ht i) inputs

/-- **The tasks do what the node does**: whatever order their turns and what happens around them
come in, some run of `Controller.Node` ends in the same state. An event waits there from when its
probe emitted it until its handler is done with it. -/
theorem abstracts_run (cfg : NodeConfig) (inputs : List (TaskInput τ)) :
    ∃ inputs', Abstracts (run (Tasks.step cfg) (Tasks.start τ) inputs)
      (run (Node.step cfg) (Node.start τ) inputs') := by
  obtain ⟨inputs', -, habstracts⟩ := abstracts_start.run coherent_start inputs
  exact ⟨inputs', habstracts⟩

/-- So no event is ever handled without a pod, and none that is on its way would be. -/
theorem registered_run (cfg : NodeConfig) (inputs : List (TaskInput τ)) :
    let t := run (Tasks.step cfg) (Tasks.start τ) inputs
    t.node.discarded = []
      ∧ (∀ event ∈ t.networkWaiting, (t.node.handler.containerMap.lookup event.2.inum).isSome)
      ∧ ∀ event ∈ t.syscallWaiting, (t.node.handler.containerMap.lookup event.inum).isSome := by
  intro t
  have hstart : Coherent cfg (Tasks.start τ) := coherent_start
  obtain ⟨inputs', -, l, l', hs, hl, hl'⟩ := abstracts_start.run hstart inputs
  have hfirst : EntriesFirst (run (Node.step cfg) (Node.start τ) inputs') :=
    run_invariant _ entriesFirst_start (fun _ i hs => hs.step i) inputs'
  rw [hs] at hfirst
  exact ⟨hfirst.discarded, fun event h => hfirst.networkEvents event (hl.mem_iff.mpr h),
    fun event h => hfirst.syscallEvents event (hl'.mem_iff.mpr h)⟩

end Tasks

end KubeGuardian.Controller
