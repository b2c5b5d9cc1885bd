import KubeGuardian.Controller.Node

/-!
# Whose traffic is ignored

The tag of a call says which of its two ends is a pod of a DaemonSet at that time. The ignore list
holds addresses, not pods, and no address ever leaves it; an address need not be the DaemonSet's
pod's alone, and need not stay with it.

* **`spared_iff`** — nothing but traffic of DaemonSets is kept back exactly when no other call has
  an address that was taken before;
* **`taken_of_daemonset`** — what is taken are the addresses of DaemonSet pods that were applied.
-/

namespace KubeGuardian.Controller

open Lib

/-! ## The ignore test of the probes

Each probe compares the two addresses of its socket with the list. Read backwards: with an empty
list it would report the same events and those that it keeps back.
-/

/-- The maps of the probes with nothing to ignore. -/
def NetworkMaps.ignoringNone (maps : NetworkMaps) : NetworkMaps :=
  { maps with ignoreIps := .empty }

/-- An address of the event is in the ignore list. -/
def NetworkMaps.IgnoresEvent (maps : NetworkMaps) (data : NetworkEventData) : Prop :=
  (maps.ignoreIps.lookup data.saddr).isSome ∨ (maps.ignoreIps.lookup data.daddr).isSome

instance (maps : NetworkMaps) (data : NetworkEventData) : Decidable (maps.IgnoresEvent data) :=
  inferInstanceAs (Decidable (_ ∨ _))

section Test

variable {host : Endian} {maps : NetworkMaps} {mem : Memory} {key : UInt64} {s : Sock}
  {data : NetworkEventData}

/-- With nothing to ignore, nothing is ignored. -/
theorem not_ignores_ignoringNone : ¬ maps.ignoringNone.Ignores s := by
  simp [NetworkMaps.Ignores, NetworkMaps.ignoringNone]

/-- The probe of datagrams reports what it would with nothing to ignore, unless an address of the
event is on the list. -/
theorem udpEvent_ignores :
    udpEvent host maps key s = some data
      ↔ udpEvent host maps.ignoringNone key s = some data ∧ ¬ maps.IgnoresEvent data := by
  rw [udpEvent_eq_some_iff, udpEvent_eq_some_iff]
  constructor
  · rintro ⟨hloopback, hany, hnot, hne, rfl⟩
    exact ⟨⟨hloopback, hany, not_ignores_ignoringNone, hne, rfl⟩, hnot⟩
  · rintro ⟨⟨hloopback, hany, -, hne, rfl⟩, hnot⟩
    exact ⟨hloopback, hany, hnot, hne, rfl⟩

/-- So does the probe of connections that are opened. -/
theorem connectEvent_ignores :
    connectEvent host maps key s = some data
      ↔ connectEvent host maps.ignoringNone key s = some data ∧ ¬ maps.IgnoresEvent data := by
  rw [connectEvent_eq_some_iff, connectEvent_eq_some_iff]
  constructor
  · rintro ⟨hnot, hsaddr, hdaddr, hne, rfl⟩
    exact ⟨⟨not_ignores_ignoringNone, hsaddr, hdaddr, hne, rfl⟩, hnot⟩
  · rintro ⟨⟨-, hsaddr, hdaddr, hne, rfl⟩, hnot⟩
    exact ⟨hnot, hsaddr, hdaddr, hne, rfl⟩

/-- So does the probe of connections that are accepted. -/
theorem acceptEvent_ignores :
    acceptEvent host maps key s = some data
      ↔ acceptEvent host maps.ignoringNone key s = some data ∧ ¬ maps.IgnoresEvent data := by
  rw [acceptEvent_eq_some_iff, acceptEvent_eq_some_iff]
  constructor
  · rintro ⟨hnot, hne, rfl⟩
    exact ⟨⟨not_ignores_ignoringNone, hne, rfl⟩, hnot⟩
  · rintro ⟨⟨-, hne, rfl⟩, hnot⟩
    exact ⟨hnot, hne, rfl⟩

/-- **The ignore list keeps back the events that have one of its addresses**, and does nothing
else, in each of the probes. -/
theorem fire_ignores {call : ProbeCall} :
    (fire host maps mem call).2 = some data
      ↔ (fire host maps.ignoringNone mem call).2 = some data ∧ ¬ maps.IgnoresEvent data := by
  cases call with
  | udpSend sk =>
    show traceUdpSend _ _ _ _ = _ ↔ traceUdpSend _ _ _ _ = _ ∧ _
    rw [traceUdpSend_eq, traceUdpSend_eq, Option.ite_none_right_eq_some,
      Option.ite_none_right_eq_some, udpEvent_ignores]
    exact and_assoc.symm
  | connectEntry tid sk => simp [fire]
  | connectExit tid ret =>
    show (tcpV4ConnectExit _ _ _ _ _).2 = _ ↔ (tcpV4ConnectExit _ _ _ _ _).2 = _ ∧ _
    cases hsk : maps.sockets.lookup tid with
    | none =>
      have hsk' : maps.ignoringNone.sockets.lookup tid = none := hsk
      simp [tcpV4ConnectExit_of_none hsk, tcpV4ConnectExit_of_none hsk']
    | some sk =>
      have hsk' : maps.ignoringNone.sockets.lookup tid = some sk := hsk
      rw [tcpV4ConnectExit_of_some hsk, tcpV4ConnectExit_of_some hsk',
        Option.ite_none_right_eq_some, Option.ite_none_right_eq_some, connectEvent_ignores]
      exact and_assoc.symm
  | acceptEntry tid sk => simp [fire]
  | acceptExit tid newSk =>
    show (tcpAcceptExit _ _ _ _ _).2 = _ ↔ (tcpAcceptExit _ _ _ _ _).2 = _ ∧ _
    cases hsk : maps.acceptedSockets.lookup tid with
    | none =>
      have hsk' : maps.ignoringNone.acceptedSockets.lookup tid = none := hsk
      simp [tcpAcceptExit_of_none hsk, tcpAcceptExit_of_none hsk']
    | some sk =>
      have hsk' : maps.ignoringNone.acceptedSockets.lookup tid = some sk := hsk
      rw [tcpAcceptExit_of_some hsk, tcpAcceptExit_of_some hsk', Option.ite_none_right_eq_some,
        Option.ite_none_right_eq_some, acceptEvent_ignores]
      exact and_assoc.symm

/-- A call is kept back when its event has an address of the list. -/
theorem suppresses_iff {call : ProbeCall} :
    Suppresses host maps mem call
      ↔ ∃ data, (fire host maps.ignoringNone mem call).2 = some data ∧ maps.IgnoresEvent data := by
  show (fire host maps mem call).2.isNone ∧ (fire host maps.ignoringNone mem call).2.isSome ↔ _
  rw [Option.isSome_iff_exists, Option.isNone_iff_eq_none, Option.eq_none_iff_forall_ne_some]
  constructor
  · rintro ⟨hnone, data, hdata⟩
    refine ⟨data, hdata, ?_⟩
    by_contra hnot
    exact hnone data (fire_ignores.mpr ⟨hdata, hnot⟩)
  · rintro ⟨data, hdata, hignored⟩
    refine ⟨fun data' hdata' => ?_, data, hdata⟩
    obtain ⟨hsame, hnot⟩ := fire_ignores.mp hdata'
    obtain rfl := Option.some.inj (hdata.symm.trans hsame)
    exact hnot hignored

end Test

/-! ## The property and the condition

The tag of a call tells what the code has no way of knowing, namely whether one of its ends is a pod
of a DaemonSet at that time.
-/

/-- The two ends of a call: the pod whose process called, and its peer. -/
structure Ends where
  podDaemonset : Bool
  peerDaemonset : Bool
  deriving DecidableEq

def Ends.OfDaemonset (ends : Ends) : Prop := ends.podDaemonset ∨ ends.peerDaemonset

instance (ends : Ends) : Decidable ends.OfDaemonset := inferInstanceAs (Decidable (_ ∨ _))

/-- What the ignore list has kept back was traffic of DaemonSets. -/
def Spared (s : Node Ends) : Prop := ∀ ends ∈ s.suppressed, ends.OfDaemonset

instance (s : Node Ends) : Decidable (Spared s) :=
  inferInstanceAs (Decidable (∀ ends ∈ s.suppressed, ends.OfDaemonset))

/-- The address that a text stands for, as the kernel has it. -/
def addressOf (endian : Endian) (ip : String) : Option UInt32 := (ipv4FromStr ip).map (toBe endian)

/-- The condition: a call with no DaemonSet at either end, and of which there is something to
report, has none of the addresses that the loop has taken. -/
def AddressesApart (cfg : NodeConfig) (s : Node Ends) : NodeInput Ends → Prop
  | .network ends mem call => s.panicked = false → s.loop ≠ .ended → ¬ ends.OfDaemonset →
      ∀ data, (fire cfg.endian s.network.ignoringNone mem call).2 = some data →
        ∀ ip ∈ s.taken, addressOf cfg.endian ip ≠ some data.saddr
          ∧ addressOf cfg.endian ip ≠ some data.daddr
  | _ => True

/-! ## What the list holds

While the loop runs, the list holds the addresses that the loop has taken, as words in network
order.
-/

section Step

variable {cfg : NodeConfig} {s s' : Node Ends}

/-- As long as the loop runs, the list holds the addresses that it has taken. -/
def HoldsTaken (endian : Endian) (s : Node Ends) : Prop :=
  s.loop ≠ .ended → ∀ address, address ∈ s.network.ignoreIps.keySet
    ↔ ∃ ip ∈ s.taken, addressOf endian ip = some address

/-- The loop puts what it takes onto the list, or ends. -/
theorem holdsTaken_receiveIp (hs : HoldsTaken cfg.endian s) :
    HoldsTaken cfg.endian (s.receiveIp cfg) := by
  unfold Node.receiveIp
  split
  · next ip ips hloop _ =>
    split
    · simp only
      split
      -- the parse and the update have both succeeded
      · next ignoreIps hupdate =>
        rintro - address
        have hbefore := hs (by simp [hloop]) address
        obtain ⟨x, hx, hupdate⟩ := Option.bind_eq_some_iff.mp hupdate
        rw [BoundedMap.keySet_of_update hupdate, Finset.mem_insert, hbefore]
        simp [addressOf, hx, eq_comm, or_comm, or_and_right, exists_or]
      -- or the loop has ended, and there is nothing to say about the list
      · exact fun hnot => absurd rfl hnot
    · exact hs
  · exact hs

/-! ## One step

What one input does to the property, and when.
-/

/-- An input that has nothing to do with addresses keeps it so. -/
theorem HoldsTaken.untouched {endian : Endian} (hs : HoldsTaken endian s) (h : Untouched s s') :
    HoldsTaken endian s' := by
  intro hloop address
  rw [h.ignoreIps, h.taken]
  exact hs (h.loop hloop) address

/-- It keeps back nothing either. -/
theorem Spared.untouched (hs : Spared s) (h : Untouched s s') : Spared s' := by
  unfold Spared
  rw [h.suppressed]
  exact hs

/-- What is kept back are the events that have an address which was taken. -/
theorem suppresses_iff_taken (hs : HoldsTaken cfg.endian s) (hrunning : s.loop ≠ .ended)
    {mem : Memory} {call : ProbeCall} :
    Suppresses cfg.endian s.network mem call
      ↔ ∃ data, (fire cfg.endian s.network.ignoringNone mem call).2 = some data
        ∧ ∃ ip ∈ s.taken, addressOf cfg.endian ip = some data.saddr
          ∨ addressOf cfg.endian ip = some data.daddr := by
  have hheld : ∀ address, (s.network.ignoreIps.lookup address).isSome
      ↔ ∃ ip ∈ s.taken, addressOf cfg.endian ip = some address := fun address => by
    rw [BoundedMap.lookup_isSome_iff, hs hrunning address]
  simp only [suppresses_iff, NetworkMaps.IgnoresEvent, hheld, and_or_left, exists_or]

/-- **The condition in terms of the probes**: a call that is kept back is one of a DaemonSet's pod.
-/
theorem addressesApart_iff (hs : HoldsTaken cfg.endian s) (hpanicked : s.panicked = false)
    (hrunning : s.loop ≠ .ended) {ends : Ends} {mem : Memory} {call : ProbeCall} :
    AddressesApart cfg s (.network ends mem call)
      ↔ (Suppresses cfg.endian s.network mem call → ends.OfDaemonset) := by
  rw [suppresses_iff_taken hs hrunning]
  constructor
  · rintro h ⟨data, hdata, ip, hip, haddress⟩
    by_contra hnot
    obtain ⟨hsaddr, hdaddr⟩ := h hpanicked hrunning hnot data hdata ip hip
    exact haddress.elim hsaddr hdaddr
  · intro h _ _ hnot data hdata ip hip
    exact ⟨fun heq => hnot (h ⟨data, hdata, ip, hip, .inl heq⟩),
      fun heq => hnot (h ⟨data, hdata, ip, hip, .inr heq⟩)⟩

/-- **A call keeps the property exactly when it meets the condition.** -/
theorem spared_networkCall_iff (hspared : Spared s) (hs : HoldsTaken cfg.endian s)
    (hpanicked : s.panicked = false) (ends : Ends) (mem : Memory) (call : ProbeCall) :
    Spared (s.networkCall cfg ends mem call)
      ↔ AddressesApart cfg s (.network ends mem call) := by
  unfold Node.networkCall
  split
  · next hended => exact iff_of_true hspared fun _ hnot => absurd hended hnot
  · next hrunning =>
    rw [addressesApart_iff hs hpanicked hrunning]
    by_cases hsuppresses : Suppresses cfg.endian s.network mem call
    -- the tag joins those that were kept back before
    · simp only [Spared, hsuppresses, if_true, List.forall_mem_append, forall_const,
        List.forall_mem_singleton]
      exact and_iff_right hspared
    · simpa [Spared, hsuppresses] using hspared

/-- A call leaves the list alone. -/
theorem holdsTaken_networkCall (hs : HoldsTaken cfg.endian s) (ends : Ends) (mem : Memory)
    (call : ProbeCall) : HoldsTaken cfg.endian (s.networkCall cfg ends mem call) := by
  unfold Node.networkCall
  split
  · exact hs
  · intro hrunning address
    have hkeep := (fire_keeps cfg.endian s.network mem call).2
    show address ∈ (fire cfg.endian s.network mem call).1.ignoreIps.keySet ↔ _
    rw [hkeep]
    exact hs hrunning address

/-- Taking an address keeps nothing back by itself. -/
theorem suppressed_receiveIp : (s.receiveIp cfg).suppressed = s.suppressed := by
  unfold Node.receiveIp
  split
  · split
    · simp only
      split <;> rfl
    · rfl
  · rfl

/-- **A step keeps back traffic of DaemonSets only exactly when the addresses are apart.** -/
theorem spared_step_iff (hspared : Spared s) (hs : HoldsTaken cfg.endian s)
    (i : NodeInput Ends) :
    (Spared (s.step cfg i) ↔ AddressesApart cfg s i) ∧ HoldsTaken cfg.endian (s.step cfg i) := by
  cases hpanicked : s.panicked with
  | true =>
    have hsame : s.step cfg i = s := by simp [Node.step, hpanicked]
    rw [hsame]
    refine ⟨iff_of_true hspared ?_, hs⟩
    cases i with
    | network ends mem call => exact fun h => absurd (hpanicked.symm.trans h) (by decide)
    | _ => trivial
  | false =>
    rw [Node.step_of_running hpanicked]
    cases i with
    | apply pod runtime =>
      show (Spared (s.apply cfg pod runtime) ↔ True) ∧ HoldsTaken _ (s.apply cfg pod runtime)
      unfold Node.apply
      split <;> exact ⟨iff_of_true hspared trivial, hs⟩
    | watch =>
      show (Spared s.watch ↔ True) ∧ HoldsTaken _ s.watch
      unfold Node.watch
      split <;> exact ⟨iff_of_true hspared trivial, hs⟩
    | handleNetwork n stamp sent =>
      show (Spared (s.handleNetworkEvent cfg n stamp sent) ↔ True) ∧
        HoldsTaken _ (s.handleNetworkEvent cfg n stamp sent)
      unfold Node.handleNetworkEvent
      split
      · exact ⟨iff_of_true hspared trivial, hs⟩
      · simp only
        split <;> exact ⟨iff_of_true hspared trivial, hs⟩
    | receiveIp =>
      refine ⟨iff_of_true ?_ trivial, holdsTaken_receiveIp hs⟩
      show ∀ ends ∈ (s.receiveIp cfg).suppressed, ends.OfDaemonset
      rw [suppressed_receiveIp]
      exact hspared
    | network ends mem call =>
      exact ⟨spared_networkCall_iff hspared hs hpanicked ends mem call,
        holdsTaken_networkCall hs ends mem call⟩
    | _ =>
      exact ⟨iff_of_true (hspared.untouched (untouched_next trivial)) trivial,
        hs.untouched (untouched_next trivial)⟩

end Step

theorem holdsTaken_start (endian : Endian) : HoldsTaken endian (Node.start Ends) := by
  intro _ address
  simp [Node.start, NetworkMaps.start]

/-- **When the ignore list keeps back nothing but traffic of DaemonSets.** -/
theorem spared_iff (cfg : NodeConfig) (inputs : List (NodeInput Ends)) :
    Always (Node.step cfg) Spared (Node.start Ends) inputs
      ↔ Meets (Node.step cfg) (AddressesApart cfg) (Node.start Ends) inputs := by
  have hstart : Spared (Node.start Ends) := fun ends h => by cases h
  exact always_iff_meets_of_invariant (fun s i hspared hs => spared_step_iff hspared hs i) hstart
    (holdsTaken_start cfg.endian)

/-! ## An address that comes back -/

def podAt (name owner container : String) : PodObject where
  name := name
  ns := some "shop"
  ownerReferences := some [owner]
  status := ⟨some "10.0.0.5", none, some [some container]⟩

/-- The pod `collector` of a DaemonSet is deleted, and its address given to the pod `web`. -/
def addressReused {τ : Type*} : List (NodeInput τ) :=
  [.apply (podAt "collector" "DaemonSet" "containerd://c1") fun _ => some 5,
    .watch, .watch, .watch, .watch, .receiveInode, .updateSyscall, .receiveIp,
    .delete (podAt "collector" "DaemonSet" "containerd://c1"),
    .apply (podAt "web" "ReplicaSet" "containerd://d2") fun _ => some 6,
    .watch, .watch, .watch, .receiveInode, .updateSyscall]

/-- A datagram from 10.0.0.5 to 10.0.0.9, port 53. -/
def webSock : Sock := ⟨6, 0x0500000a, 0x0900000a, 40000, 0x3500⟩

/-- What `web` sends is not seen. -/
theorem suppressed_by_former_address :
    ¬ Spared (run (Node.step shopConfig) (Node.start Ends) (addressReused ++
      [.network ⟨false, false⟩ (fun _ => webSock) (.udpSend 1)])) := by
  decide +kernel

/-! ## Where the addresses come from

From the pods that the watcher was given, by way of its effects and the channel of the loop.
-/

section Sources

variable {cfg : NodeConfig} {s s' : Node Ends}

/-- The address is one of a DaemonSet's pod that the watcher was given. -/
def FromDaemonset (cfg : NodeConfig) (s : Node Ends) (ip : String) : Prop :=
  ∃ pod ∈ s.applied, cfg.ignoreDaemonsetTraffic ∧ isBackedByDaemonset pod ∧ Watched pod ip

/-- So are all addresses on their way. -/
structure Sourced (cfg : NodeConfig) (s : Node Ends) : Prop where
  watching : ∀ ip, .sendIp ip ∈ s.watching → FromDaemonset cfg s ip
  ips : ∀ ip ∈ s.ips, FromDaemonset cfg s ip
  taken : ∀ ip ∈ s.taken, FromDaemonset cfg s ip

/-- An input that has nothing to do with addresses keeps their sources. -/
theorem Sourced.untouched (hs : Sourced cfg s) (h : Untouched s s') : Sourced cfg s' := by
  have hfrom : FromDaemonset cfg s' = FromDaemonset cfg s := by
    unfold FromDaemonset
    rw [h.applied]
  constructor
  · rw [h.watching, hfrom]
    exact hs.watching
  · rw [h.ips, hfrom]
    exact hs.ips
  · rw [h.taken, hfrom]
    exact hs.taken

/-- The watcher takes on a pod, which is the source of the address that it may send. -/
theorem Sourced.apply (hs : Sourced cfg s) (pod : PodObject) (runtime : Runtime) :
    Sourced cfg (s.apply cfg pod runtime) := by
  unfold Node.apply
  split
  · have hmore : ∀ {ip}, FromDaemonset cfg s ip →
        ∃ p ∈ s.applied ++ [pod], cfg.ignoreDaemonsetTraffic ∧ isBackedByDaemonset p ∧
          Watched p ip := by
      rintro ip ⟨p, hp, hof⟩
      exact ⟨p, List.mem_append_left _ hp, hof⟩
    refine ⟨fun ip hip => ?_, fun ip hip => hmore (hs.ips ip hip),
      fun ip hip => hmore (hs.taken ip hip)⟩
    exact ⟨pod, by simp, mem_watchPods_sendIp.mp hip⟩
  · exact hs

/-- An address goes from its effects to the channel. -/
theorem Sourced.watch (hs : Sourced cfg s) : Sourced cfg s.watch := by
  have hrest : ∀ {effect rest}, s.watching = effect :: rest →
      ∀ ip, .sendIp ip ∈ rest → FromDaemonset cfg s ip :=
    fun hwatching ip hip => hs.watching ip (hwatching ▸ .tail _ hip)
  unfold Node.watch
  split
  · exact hs
  · next hwatching => exact ⟨hrest hwatching, hs.ips, hs.taken⟩
  · next podIp rest hwatching =>
    refine ⟨hrest hwatching, fun ip hip => ?_, hs.taken⟩
    rcases List.mem_append.mp hip with hip | hip
    · exact hs.ips ip hip
    · rw [List.mem_singleton.mp hip]
      exact hs.watching podIp (hwatching ▸ .head _)
  · next hwatching => exact ⟨hrest hwatching, hs.ips, hs.taken⟩
  · next hwatching => exact ⟨hrest hwatching, hs.ips, hs.taken⟩

/-- It goes from the channel to what was taken. -/
theorem Sourced.receiveIp (hs : Sourced cfg s) : Sourced cfg (s.receiveIp cfg) := by
  unfold Node.receiveIp
  split
  · next ip ips _ hips =>
    have hrest : ∀ ip' ∈ ips, FromDaemonset cfg s ip' :=
      fun ip' h => hs.ips ip' (hips ▸ .tail _ h)
    have htaken : ∀ ip' ∈ s.taken ++ [ip], FromDaemonset cfg s ip' := by
      intro ip' h
      rcases List.mem_append.mp h with h | h
      · exact hs.taken ip' h
      · rw [List.mem_singleton.mp h]
        exact hs.ips ip (hips ▸ .head _)
    split
    · simp only
      split <;> exact ⟨hs.watching, hrest, htaken⟩
    · exact hs
  · exact hs

theorem Sourced.handleNetworkEvent (hs : Sourced cfg s) (n : Nat) (stamp : Stamp) (sent : Sent) :
    Sourced cfg (s.handleNetworkEvent cfg n stamp sent) := by
  unfold Node.handleNetworkEvent
  split
  · exact hs
  · simp only
    split <;> exact ⟨hs.watching, hs.ips, hs.taken⟩

/-- **Every address on its way has a source**, step by step. -/
theorem Sourced.step (hs : Sourced cfg s) (i : NodeInput Ends) : Sourced cfg (s.step cfg i) := by
  unfold Node.step
  split
  · exact hs
  · cases i with
    | apply pod runtime => exact hs.apply pod runtime
    | watch => exact hs.watch
    | receiveIp => exact hs.receiveIp
    | network ends mem call =>
      show Sourced cfg (s.networkCall cfg ends mem call)
      unfold Node.networkCall
      split <;> exact ⟨hs.watching, hs.ips, hs.taken⟩
    | handleNetwork n stamp sent => exact hs.handleNetworkEvent n stamp sent
    | _ => exact hs.untouched (untouched_next trivial)

/-- **Every address that the loop has taken is one of a DaemonSet's pod**, though perhaps of one
that is gone. -/
theorem taken_of_daemonset (cfg : NodeConfig) (inputs : List (NodeInput Ends)) :
    Always (Node.step cfg) (fun s => ∀ ip ∈ s.taken, FromDaemonset cfg s ip) (Node.start Ends)
      inputs := by
  have hstart : Sourced cfg (Node.start Ends) :=
    { watching := fun ip h => by cases h
      ips := fun ip h => by cases h
      taken := fun ip h => by cases h }
  exact (always_of_step hstart (fun s i hs => hs.step i) inputs).imp fun s hs => hs.taken

end Sources

end KubeGuardian.Controller
