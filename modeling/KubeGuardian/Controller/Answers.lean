import KubeGuardian.Controller.Atomic
import KubeGuardian.Controller.Sources

/-!
# While a record is posted

The handler of network events keeps the map of containers while it awaits the answer of the broker,
and the other tasks go on as far as they can.

* **`due_step`** — the record that it posts is the same for as long as it waits;
* **`handleNetwork_step`** — whatever else happens until the answer is there might as well happen
  after it.
-/

namespace KubeGuardian.Controller

open Lib

/-! ## Answers

While a handler waits for the answer to its request it stands still with the map in hand. Here the
answer is put into the node before anything else that happens meanwhile, and that is shown to make
no difference.
-/

section Settled

variable {τ : Type*}

/-- The record was posted, and this is how it went. -/
def Node.settled (s : Node τ) (tag : τ) (record : PodTraffic) (sent : Sent) : Node τ :=
  { s with
    handler := { s.handler with
      cache := if sent.isOk then insert record.key s.handler.cache else s.handler.cache
      exchanges := s.handler.exchanges ++ [(record, sent)] }
    posted := s.posted ++ [(tag, record)] }

/-- The step neither looks at the cache of traffic nor posts. -/
def Indifferent (g : Node τ → Node τ) : Prop :=
  ∀ s tag record sent, g (s.settled tag record sent) = (g s).settled tag record sent

/-- The watcher takes on a pod. -/
theorem indifferent_apply (cfg : NodeConfig) (pod : PodObject) (runtime : Runtime) :
    Indifferent fun s : Node τ => s.apply cfg pod runtime := by
  intro s tag record sent
  show (s.settled tag record sent).apply cfg pod runtime
    = (s.apply cfg pod runtime).settled tag record sent
  unfold Node.apply Node.settled
  dsimp only
  split <;> rfl

theorem indifferent_watch : Indifferent (Node.watch (τ := τ)) := by
  intro s tag record sent
  unfold Node.watch Node.settled
  dsimp only
  split <;> rfl

/-- The loop registers a number for the network probes. -/
theorem indifferent_receiveInode : Indifferent (Node.receiveInode (τ := τ)) := by
  intro s tag record sent
  unfold Node.receiveInode Node.settled
  dsimp only
  repeat' split
  all_goals rfl

/-- It registers it for the syscall probe. -/
theorem indifferent_updateSyscall : Indifferent (Node.updateSyscall (τ := τ)) := by
  intro s tag record sent
  unfold Node.updateSyscall Node.settled
  dsimp only
  repeat' split
  all_goals rfl

/-- It takes an address for the ignore list. -/
theorem indifferent_receiveIp (cfg : NodeConfig) :
    Indifferent (Node.receiveIp (τ := τ) cfg) := by
  intro s tag record sent
  unfold Node.receiveIp Node.settled
  dsimp only
  repeat' split
  all_goals rfl

/-- The kernel makes a call that the network probes see. -/
theorem indifferent_networkCall (cfg : NodeConfig) (tag : τ) (mem : Memory) (call : ProbeCall) :
    Indifferent fun s : Node τ => s.networkCall cfg tag mem call := by
  intro s tag' record sent
  show (s.settled tag' record sent).networkCall cfg tag mem call
    = (s.networkCall cfg tag mem call).settled tag' record sent
  unfold Node.networkCall Node.settled
  dsimp only
  split <;> rfl

theorem indifferent_syscallCall (netNs : UInt64) (id : Int64) :
    Indifferent fun s : Node τ => s.syscallCall netNs id := by
  intro s tag record sent
  show (s.settled tag record sent).syscallCall netNs id
    = (s.syscallCall netNs id).settled tag record sent
  unfold Node.syscallCall Node.settled
  dsimp only
  repeat' split
  all_goals rfl

/-- An entry of another key is dropped alike before and after. -/
theorem evict_settled (cfg : NodeConfig) (s : Node τ) {key : TrafficKey} (tag : τ)
    {record : PodTraffic} (hkey : key ≠ record.key) (sent : Sent) :
    (s.settled tag record sent).next cfg (.evict key)
      = (s.next cfg (.evict key)).settled tag record sent := by
  have hcache : (if sent.isOk then insert record.key s.handler.cache else s.handler.cache).erase key
      = if sent.isOk then insert record.key (s.handler.cache.erase key)
        else s.handler.cache.erase key := by
    split
    · exact Finset.erase_insert_of_ne (Ne.symm hkey)
    · rfl
  show { s.settled tag record sent with
    handler := { (s.settled tag record sent).handler with
      cache := (s.settled tag record sent).handler.cache.erase key } } = _
  unfold Node.settled
  dsimp only
  rw [hcache]
  rfl

end Settled

namespace Tasks

variable {τ : Type*}

/-- The record that the handler has to post, once it has the map. -/
def due (cfg : NodeConfig) (t : Tasks τ) (stamp : Stamp) : Option PodTraffic :=
  if t.node.panicked then none
  else
    match t.networkHandler with
    | .locked event =>
      (t.node.handler.containerMap.lookup event.2.inum).bind fun podInspect =>
        (processNetworkEvent cfg.endian stamp (.error "") t.node.handler.cache event.2
          podInspect).2
    | _ => none

/-- The handler has its answer, and gives the map back. -/
def settled (t : Tasks τ) (tag : τ) (record : PodTraffic) (sent : Sent) : Tasks τ :=
  { t with node := t.node.settled tag record sent, networkHandler := .receiving }

variable {cfg : NodeConfig} {t : Tasks τ} {stamp : Stamp} {record : PodTraffic}

/-- **A record is due** when the handler has the map, finds the event's pod, and the event is
neither the pod's own nor cached already. -/
theorem due_eq_some_iff :
    t.due cfg stamp = some record
      ↔ t.node.panicked = false ∧ ∃ event podInspect, t.networkHandler = .locked event
        ∧ t.node.handler.containerMap.lookup event.2.inum = some podInspect
        ∧ ¬ ownAddress cfg.endian event.2 podInspect
        ∧ keyOf cfg.endian event.2 podInspect ∉ t.node.handler.cache
        ∧ record = recordOf cfg.endian stamp event.2 podInspect := by
  unfold due
  rw [Option.ite_none_left_eq_some, Bool.not_eq_true]
  refine and_congr_right fun _ => ?_
  -- only a handler that holds the map has a request to make
  cases t.networkHandler with
  | locked event =>
    dsimp only
    rw [Option.bind_eq_some_iff]
    simp only [posted_eq_some_iff]
    constructor
    · rintro ⟨podInspect, hposts⟩
      exact ⟨event, podInspect, rfl, hposts⟩
    · rintro ⟨event', podInspect, hat, hposts⟩
      cases hat
      exact ⟨podInspect, hposts⟩
  | _ => simp

/-- **What the answer does.** -/
theorem handleNetwork_of_due (hdue : t.due cfg stamp = some record) {event : τ × NetworkEventData}
    (hat : t.networkHandler = .locked event) (sent : Sent) :
    t.handleNetwork cfg stamp sent = t.settled event.1 record sent := by
  obtain ⟨-, event', podInspect, hat', hpod, hown, hnew, rfl⟩ := due_eq_some_iff.mp hdue
  obtain rfl := NetworkAt.locked.inj (hat.symm.trans hat')
  have hposts : processNetworkEvent cfg.endian stamp sent t.node.handler.cache event.2 podInspect
      = (if sent.isOk then insert (keyOf cfg.endian event.2 podInspect) t.node.handler.cache
          else t.node.handler.cache, some (recordOf cfg.endian stamp event.2 podInspect)) := by
    rw [processNetworkEvent_eq, if_neg (not_or.mpr ⟨hown, hnew⟩)]
  have hcommits : commitNetwork cfg t.node event stamp sent
      = t.node.settled event.1 (recordOf cfg.endian stamp event.2 podInspect) sent := by
    unfold commitNetwork Node.handleNetworkEvent Controller.step
    simp only [List.getElem?_cons_zero, List.eraseIdx_cons_zero, hpod, hposts]
    rfl
  unfold handleNetwork
  rw [hat]
  dsimp only
  rw [hcommits]
  rfl

/-- It is what the node would post in its place. -/
theorem request_of_abstracts {s : Node τ} (h : t.Abstracts s) {event : τ × NetworkEventData}
    (hat : t.networkHandler = .locked event) {n : Nat} (hn : s.networkEvents[n]? = some event)
    (sent : Sent) : s.request cfg (.handleNetwork n stamp sent) = t.due cfg stamp := by
  obtain ⟨l, l', rfl, -, -⟩ := h
  have hn' : l[n]? = some event := hn
  unfold Node.request Node.observes due
  rw [hat]
  cases hpanicked : t.node.panicked with
  | true => simp [Node.withEvents, hpanicked]
  | false =>
    simp only [Node.withEvents, hpanicked, hn', Bool.false_eq_true, if_false]
    cases t.node.handler.containerMap.lookup event.2.inum <;> rfl

/-! ## Steps of the other tasks

The steps that can come between the broker's handling of a request and the handler's hearing of it.
None of them writes an entry or puts a key into the cache, so what the handler is due to post stays
the same.
-/

/-- What a handler that has the map finds as it was: no entry of a pod changes, and no key comes
into the cache. -/
structure Withheld (s s' : Node τ) : Prop where
  containerMap : s'.handler.containerMap = s.handler.containerMap
  cache : s'.handler.cache ⊆ s.handler.cache
  panicked : s'.panicked = s.panicked

/-- It is so where the handler's part of the state is left alone. -/
theorem Withheld.of_handler {s s' : Node τ} (hhandler : s'.handler = s.handler)
    (hpanicked : s'.panicked = s.panicked) : Withheld s s' where
  containerMap := by rw [hhandler]
  cache := by rw [hhandler]
  panicked := hpanicked

theorem Withheld.refl (s : Node τ) : Withheld s s := .of_handler rfl rfl

/-- What happens outside takes keys out of the cache at most. -/
theorem withheld_outside {s : Node τ} {i : NodeInput τ} (hi : i.isOutside) :
    Withheld s (s.next cfg i) := by
  cases i with
  | apply pod runtime =>
    show Withheld s (s.apply cfg pod runtime)
    unfold Node.apply
    split <;> exact .of_handler rfl rfl
  | network tag mem call =>
    show Withheld s (s.networkCall cfg tag mem call)
    unfold Node.networkCall
    split <;> exact .of_handler rfl rfl
  | syscall netNs id =>
    show Withheld s (s.syscallCall netNs id)
    unfold Node.syscallCall
    repeat' split
    all_goals exact .of_handler rfl rfl
  -- an eviction is the one thing outside that touches the cache, and it only shrinks it
  | evict key => exact ⟨rfl, Finset.erase_subset _ _, rfl⟩
  | delete pod => exact .refl s
  | loseNetwork n => exact .of_handler rfl rfl
  | loseSyscall n => exact .of_handler rfl rfl
  | evictSyscalls podName => exact .of_handler rfl rfl
  | _ => cases hi

/-- The loop has to do with neither entries nor keys. -/
theorem withheld_poll (n : Option Nat) : Withheld t.node (t.poll cfg n).node := by
  unfold Tasks.poll
  split
  · exact .refl _
  · split
    · -- the network poll, its send, the syscall poll and its send leave the handler's maps alone
      split <;> exact .of_handler rfl rfl
    · split <;> exact .of_handler rfl rfl
    · split <;> exact .of_handler rfl rfl
    · split <;> exact .of_handler rfl rfl
    · split
      · dsimp only [Node.updateSyscall]
        repeat' split
        all_goals exact .of_handler rfl rfl
      · exact .refl _
      · dsimp only [Node.receiveInode]
        repeat' split
        all_goals exact .of_handler rfl rfl
    · dsimp only [Node.receiveIp]
      repeat' split
      all_goals exact .of_handler rfl rfl

/-- Nobody writes an entry while the handler has the map. -/
theorem withheld_watch (ht : Coherent cfg t) (hmap : t.networkHandler.holdsMap) :
    Withheld t.node t.watch.node := by
  have hlocked : t.mapLocked = true := by simp [mapLocked, hmap]
  unfold Tasks.watch
  split
  · split <;> exact .refl _
  · exact .refl _
  · -- the watcher would hold the map too
    next hwatcher =>
    have hholds : t.watcher.holdsMap := by rw [hwatcher]; rfl
    simp [(ht.watcher hholds).1] at hmap
  · -- the insert waits for the map
    rw [if_pos hlocked]
    exact .refl _
  · next hwatching =>
    split
    · exact .of_handler (by simp [Node.watch, hwatching]) (by simp [Node.watch, hwatching])
    · exact .refl _
  · next hwatching =>
    split
    · exact .of_handler (by simp [Node.watch, hwatching]) (by simp [Node.watch, hwatching])
    · exact .refl _
  · next hwatching =>
    exact .of_handler (by simp [Node.watch, hwatching]) (by simp [Node.watch, hwatching])
  · exact .refl _

/-- The handler of syscalls gets no further than to the map. -/
theorem handleSyscall_of_locked (ht : Coherent cfg t) (hmap : t.networkHandler.holdsMap) :
    t.handleSyscall cfg = t ∨ ∃ data rest, t.syscallHandler = .receiving
      ∧ t.syscallChannel = data :: rest
      ∧ t.handleSyscall cfg
        = { t with syscallHandler := .locking data, syscallChannel := rest } := by
  have hlocked : t.mapLocked = true := by simp [mapLocked, hmap]
  have hholds : t.syscallHandler.holdsMap = false := ht.handlers hmap
  unfold Tasks.handleSyscall
  cases hat : t.syscallHandler with
  | receiving =>
    cases hchannel : t.syscallChannel with
    | nil => exact .inl rfl
    | cons data rest => exact .inr ⟨data, rest, rfl, rfl, rfl⟩
  | locking data => exact .inl (if_pos hlocked)
  | _ => simp [hat, SyscallAt.holdsMap] at hholds

theorem networkHandler_poll (n : Option Nat) :
    (t.poll cfg n).networkHandler = t.networkHandler := by
  unfold Tasks.poll
  repeat' split
  all_goals rfl

/-- **The handler stays where it is, with what it has found.** -/
theorem withheld_step (ht : Coherent cfg t) (hmap : t.networkHandler.holdsMap) {i : TaskInput τ}
    (hi : ∀ stamp sent, i ≠ .network stamp sent) :
    (t.step cfg i).networkHandler = t.networkHandler ∧ Withheld t.node (t.step cfg i).node := by
  have hstays : ∀ {t' : Tasks τ}, t'.networkHandler = t.networkHandler ∧ t'.node = t.node →
      t'.networkHandler = t.networkHandler ∧ Withheld t.node t'.node :=
    fun h => ⟨h.1, h.2 ▸ .refl _⟩
  unfold Tasks.step
  split
  · exact hstays ⟨rfl, rfl⟩
  · cases i with
    | outside i =>
      show (t.outside cfg i).networkHandler = _ ∧ Withheld t.node (t.outside cfg i).node
      unfold Tasks.outside
      split
      · next hi => exact ⟨rfl, withheld_outside hi⟩
      · exact hstays ⟨rfl, rfl⟩
    | tick podNames =>
      show (t.tick podNames).networkHandler = _ ∧ Withheld t.node (t.tick podNames).node
      unfold Tasks.tick
      split <;> exact hstays ⟨rfl, rfl⟩
    | look =>
      show t.look.networkHandler = _ ∧ Withheld t.node t.look.node
      unfold Tasks.look
      split <;> exact hstays ⟨rfl, rfl⟩
    | watcher =>
      refine ⟨?_, withheld_watch ht hmap⟩
      show t.watch.networkHandler = t.networkHandler
      unfold Tasks.watch
      repeat' split
      all_goals rfl
    | network stamp sent => exact absurd rfl (hi stamp sent)
    | syscall =>
      show (t.handleSyscall cfg).networkHandler = _ ∧ Withheld t.node (t.handleSyscall cfg).node
      -- the map is taken: the handler at most takes the next event
      rcases handleSyscall_of_locked ht hmap with hsame | ⟨data, rest, -, -, hnext⟩
      · exact hstays ⟨by rw [hsame], by rw [hsame]⟩
      · exact hstays ⟨by rw [hnext], by rw [hnext]⟩
    | recorder =>
      show t.record.networkHandler = _ ∧ Withheld t.node t.record.node
      unfold Tasks.record
      repeat' split
      all_goals exact hstays ⟨rfl, rfl⟩
    | ebpf n => exact ⟨networkHandler_poll n, withheld_poll n⟩

/-- The handler has the map when a record is due. -/
theorem holdsMap_of_due (hdue : t.due cfg stamp = some record) : t.networkHandler.holdsMap := by
  obtain ⟨-, event, podInspect, hat, -⟩ := due_eq_some_iff.mp hdue
  rw [hat]
  rfl

/-- **What is due stays due.** -/
theorem due_step (ht : Coherent cfg t) (hdue : t.due cfg stamp = some record) {i : TaskInput τ}
    (hi : ∀ stamp sent, i ≠ .network stamp sent) : (t.step cfg i).due cfg stamp = some record := by
  obtain ⟨hnetwork, hkept⟩ := withheld_step ht (holdsMap_of_due hdue) hi
  obtain ⟨hrunning, event, podInspect, hat, hpod, hown, hnew, rfl⟩ := due_eq_some_iff.mp hdue
  refine due_eq_some_iff.mpr ⟨hkept.panicked.trans hrunning, event, podInspect,
    hnetwork.trans hat, hkept.containerMap ▸ hpod, hown, fun hmem => hnew (hkept.cache hmem), rfl⟩

/-- A record that is due has a key that is not cached. -/
theorem not_mem_cache_of_due (hdue : t.due cfg stamp = some record) :
    record.key ∉ t.node.handler.cache := by
  obtain ⟨-, event, podInspect, -, -, -, hnew, rfl⟩ := due_eq_some_iff.mp hdue
  exact hnew

section Settled

variable {tag : τ} {sent : Sent}

/-- Of what comes from outside, only a drop of the very key that is to come in is not the same
afterwards; it drops nothing. -/
theorem outside_settled (hnew : record.key ∉ t.node.handler.cache) (i : NodeInput τ) :
    t.outside cfg i = t ∧ i.heard = []
      ∨ (t.settled tag record sent).outside cfg i = (t.outside cfg i).settled tag record sent := by
  cases i with
  | apply pod runtime =>
    exact .inr (congrArg (fun s => { t with node := s, networkHandler := .receiving })
      (indifferent_apply cfg pod runtime t.node tag record sent))
  | network tag' mem call =>
    exact .inr (congrArg (fun s => { t with node := s, networkHandler := .receiving })
      (indifferent_networkCall cfg tag' mem call t.node tag record sent))
  | syscall netNs id =>
    exact .inr (congrArg (fun s => { t with node := s, networkHandler := .receiving })
      (indifferent_syscallCall netNs id t.node tag record sent))
  | evict key =>
    -- before the request is settled its key is not cached, so its eviction does nothing
    by_cases hkey : key = record.key
    · have hsame : t.node.next cfg (.evict key) = t.node := by
        show { t.node with handler := { t.node.handler with
          cache := t.node.handler.cache.erase key } } = t.node
        rw [hkey, Finset.erase_eq_of_notMem hnew]
      exact .inl ⟨congrArg (fun s => { t with node := s }) hsame, rfl⟩
    · exact .inr (congrArg (fun s => { t with node := s, networkHandler := .receiving })
        (evict_settled cfg t.node tag hkey sent))
  | _ => exact .inr rfl

/-- The watcher too might as well go on afterwards, if it goes on. -/
theorem watch_settled (ht : Coherent cfg t) (hmap : t.networkHandler.holdsMap) :
    t.watch = t ∨ (t.settled tag record sent).watch = t.watch.settled tag record sent := by
  have hlocked : t.mapLocked = true := by simp [mapLocked, hmap]
  have hwatcher : (t.settled tag record sent).watcher = t.watcher := rfl
  have hwatching : (t.settled tag record sent).node.watching = t.node.watching := rfl
  -- the effects of the watcher go through alike whether the request is settled or not
  have hgoes : ({ t.settled tag record sent with
      node := (t.node.settled tag record sent).watch, watcher := .free } : Tasks τ)
      = ({ t with node := t.node.watch, watcher := .free } : Tasks τ).settled tag record sent :=
    congrArg (fun s => { t with node := s, watcher := .free, networkHandler := .receiving })
      (indifferent_watch t.node tag record sent)
  unfold Tasks.watch
  rw [hwatcher, hwatching]
  cases hat : t.watcher with
  -- it waits for the map
  | looking => exact .inl (if_pos hlocked)
  | looked => exact .inr rfl
  | locked =>
    have hholds : t.watcher.holdsMap := by rw [hat]; rfl
    -- two holders of one map
    simp [(ht.watcher hholds).1] at hmap
  | free =>
    cases t.node.watching with
    | nil => exact .inl rfl
    | cons effect rest =>
      cases effect with
      | insertContainer inum podInspect => exact .inl (if_pos hlocked)
      | postDetails z => exact .inr hgoes
      | sendIp podIp =>
        by_cases hroom : t.node.ips.length < capacity
        · refine .inr ?_
          dsimp only
          rw [if_pos hroom, if_pos (show (t.settled tag record sent).node.ips.length < capacity
            from hroom)]
          exact hgoes
        · exact .inl (if_neg hroom)
      | sendInode inum =>
        by_cases hroom : t.node.inodes.length < capacity
        · refine .inr ?_
          dsimp only
          rw [if_pos hroom, if_pos (show (t.settled tag record sent).node.inodes.length < capacity
            from hroom)]
          exact hgoes
        · exact .inl (if_neg hroom)

/-- The loop does the same whether the answer is there or not. -/
theorem poll_settled (n : Option Nat) :
    (t.settled tag record sent).poll cfg n = (t.poll cfg n).settled tag record sent := by
  have hinode : (t.node.settled tag record sent).receiveInode
      = t.node.receiveInode.settled tag record sent :=
    indifferent_receiveInode t.node tag record sent
  have hsyscall : (t.node.settled tag record sent).updateSyscall
      = t.node.updateSyscall.settled tag record sent :=
    indifferent_updateSyscall t.node tag record sent
  have hip : (t.node.settled tag record sent).receiveIp cfg
      = (t.node.receiveIp cfg).settled tag record sent :=
    indifferent_receiveIp cfg t.node tag record sent
  have hsettled : t.settled tag record sent
      = { t with node := t.node.settled tag record sent, networkHandler := .receiving } := rfl
  have hloop : (t.node.settled tag record sent).loop = t.node.loop := rfl
  have hinodes : (t.node.settled tag record sent).inodes = t.node.inodes := rfl
  have hevents : (t.node.settled tag record sent).networkEvents = t.node.networkEvents := rfl
  have hevents' : (t.node.settled tag record sent).syscallEvents = t.node.syscallEvents := rfl
  unfold Tasks.poll
  rw [hsettled]
  dsimp only
  rw [hloop, hinodes, hevents, hevents', hinode, hsyscall, hip]
  -- with the poll's own effects rewritten, each branch is the same record update on both sides
  repeat' split
  all_goals rfl

/-- A step of another task might as well come after the answer, unless it is none. -/
theorem settled_step (ht : Coherent cfg t) (hdue : t.due cfg stamp = some record)
    {i : TaskInput τ} (hi : ∀ stamp sent, i ≠ .network stamp sent) :
    t.step cfg i = t ∧ i.heard = []
      ∨ (t.settled tag record sent).step cfg i = (t.step cfg i).settled tag record sent := by
  have hmap : t.networkHandler.holdsMap := holdsMap_of_due hdue
  have hrunning : ¬ t.node.panicked := by simp [(due_eq_some_iff.mp hdue).1]
  -- nobody has panicked, or nothing would be due
  have hnext : t.step cfg i = t.next cfg i := if_neg hrunning
  have hnext' : (t.settled tag record sent).step cfg i = (t.settled tag record sent).next cfg i :=
    if_neg hrunning
  rw [hnext, hnext']
  cases i with
  | outside i => exact outside_settled (not_mem_cache_of_due hdue) i
  | tick podNames =>
    refine .inr ?_
    show (t.settled tag record sent).tick podNames = (t.tick podNames).settled tag record sent
    unfold Tasks.tick settled
    dsimp only
    split <;> rfl
  | look =>
    refine .inr ?_
    show (t.settled tag record sent).look = t.look.settled tag record sent
    unfold Tasks.look settled
    dsimp only
    split <;> rfl
  | watcher => exact (watch_settled ht hmap).imp_left fun hsame => ⟨hsame, rfl⟩
  | network stamp sent => exact absurd rfl (hi stamp sent)
  | syscall =>
    -- it waits for the map, or takes the next event
    rcases handleSyscall_of_locked ht hmap with hsame | ⟨data, rest, hat, hchannel, hnext⟩
    · exact .inl ⟨hsame, rfl⟩
    · refine .inr ?_
      show (t.settled tag record sent).handleSyscall cfg
        = (t.handleSyscall cfg).settled tag record sent
      rw [hnext]
      simp [Tasks.handleSyscall, settled, hat, hchannel]
  | recorder =>
    refine .inr ?_
    show (t.settled tag record sent).record = t.record.settled tag record sent
    unfold Tasks.record settled
    dsimp only
    repeat' split
    all_goals rfl
  | ebpf n => exact .inr (poll_settled n)

end Settled

/-- **The answer might as well have come before.** -/
theorem handleNetwork_step (ht : Coherent cfg t) (hdue : t.due cfg stamp = some record)
    (sent : Sent) {i : TaskInput τ} (hi : ∀ stamp sent, i ≠ .network stamp sent) :
    t.step cfg i = t ∧ i.heard = []
      ∨ (t.handleNetwork cfg stamp sent).step cfg i
        = (t.step cfg i).handleNetwork cfg stamp sent := by
  obtain ⟨-, event, podInspect, hat, -⟩ := due_eq_some_iff.mp hdue
  have hat' : (t.step cfg i).networkHandler = .locked event :=
    (withheld_step ht (holdsMap_of_due hdue) hi).1.trans hat
  rw [handleNetwork_of_due hdue hat, handleNetwork_of_due (due_step ht hdue hi) hat']
  exact settled_step ht hdue hi

end Tasks

end KubeGuardian.Controller
