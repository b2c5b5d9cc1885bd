import KubeGuardian.Controller.NetworkProbe
import KubeGuardian.Lib.Run

/-!
# Entries and exits belong together

Any number of threads enter and leave `tcp_v4_connect` and `inet_csk_accept` while the controller
registers namespaces and addresses and the kernel writes to its sockets. Beside the maps a state
carries what the probes do not see: the call that each thread is in, and whether its socket was
monitored when it entered.

* **`probes_paired`** — the two socket maps hold a thread exactly while it is in a call that it
  entered with a monitored socket, and an exit emits an event, made of that call's socket, exactly
  under the conditions of its probe.
-/

namespace KubeGuardian.Controller

open Lib

/-! ## The kernel

Threads enter and leave calls in any order between each other, each one call at a time. The probes
at entry and exit share a map by thread.
-/

/-- What a thread is doing; `monitored` is what the entry found of its socket. -/
inductive Call where
  | outside
  | connecting (sk : SockPtr) (monitored : Bool)
  | accepting (sk : SockPtr) (monitored : Bool)
  deriving DecidableEq

namespace Call

def socket : Call → Option SockPtr
  | .outside => none
  | .connecting sk _ | .accepting sk _ => some sk

/-- The socket of a connect that was entered with a monitored one. -/
def connectSocket : Call → Option SockPtr
  | .connecting sk true => some sk
  | _ => none

/-- The listening socket of an accept that was entered with a monitored one. -/
def acceptSocket : Call → Option SockPtr
  | .accepting sk true => some sk
  | _ => none

/-- A call that the probes see has a socket. -/
theorem socket_of_monitored {call : Call} {sk : SockPtr}
    (h : call.connectSocket = some sk ∨ call.acceptSocket = some sk) : call.socket = some sk := by
  rcases h with h | h
  · cases call with
    | connecting sk' monitored => cases monitored <;> first | exact h | cases h
    | _ => cases h
  · cases call with
    | accepting sk' monitored => cases monitored <;> first | exact h | cases h
    | _ => cases h

end Call

/-- The kernel as the probes see it: their maps, the sockets in memory, and what each thread is in
the middle of. -/
structure Kernel where
  maps : NetworkMaps
  mem : Memory
  call : UInt32 → Call

def Kernel.start (mem : Memory) : Kernel := ⟨.start, mem, fun _ => .outside⟩

inductive KernelStep where
  | probe (call : ProbeCall)
  | register (inum : UInt64)
  | ignore (ip : UInt32)
  | write (sk : SockPtr) (s : Sock)

namespace Kernel

/-- Where the threads are after a probe has fired. -/
def callsAfter (k : Kernel) : ProbeCall → UInt32 → Call
  | .udpSend _ => k.call
  | .connectEntry tid sk =>
    Function.update k.call tid (.connecting sk (decide (k.maps.Monitors (k.mem.read sk))))
  | .acceptEntry tid sk =>
    Function.update k.call tid (.accepting sk (decide (k.maps.Monitors (k.mem.read sk))))
  | .connectExit tid _ | .acceptExit tid _ => Function.update k.call tid .outside

/-- One step of the kernel. A probe reads memory as it is at that moment. -/
def step (host : Endian) (k : Kernel) : KernelStep → Kernel
  | .probe call =>
    { k with
      maps := (fire host k.maps k.mem call).1
      call := k.callsAfter call }
  | .register inum =>
    { k with maps := { k.maps with inodeNum := k.maps.inodeNum.tryUpdate inum 1 } }
  | .ignore ip => { k with maps := { k.maps with ignoreIps := k.maps.ignoreIps.tryUpdate ip 1 } }
  | .write sk s => { k with mem := Function.update k.mem sk s }

/-- What the kernel keeps to, and room in the socket maps: a thread is in one call at a time and
leaves the call it is in, and a socket that is in use stays in its namespace. -/
def Permits (k : Kernel) : KernelStep → Prop
  | .probe (.udpSend _) | .register _ | .ignore _ => True
  | .probe (.connectEntry tid _) =>
    k.call tid = .outside ∧ k.maps.sockets.keySet.card < maxEntries
  | .probe (.acceptEntry tid _) =>
    k.call tid = .outside ∧ k.maps.acceptedSockets.keySet.card < maxEntries
  | .probe (.connectExit tid _) => ∃ sk monitored, k.call tid = .connecting sk monitored
  | .probe (.acceptExit tid _) => ∃ sk monitored, k.call tid = .accepting sk monitored
  | .write sk s => ∀ tid, (k.call tid).socket = some sk → s.inum = (k.mem sk).inum

end Kernel

/-! ## The property

At the exit of a call the probe finds the socket of this very call, and emits an event exactly when
the call was a monitored one that succeeded.
-/

/-- The two maps hold a thread exactly while it is in a call entered with a monitored socket. -/
structure SocketsInUse (k : Kernel) : Prop where
  sockets : ∀ tid, k.maps.sockets.lookup tid = (k.call tid).connectSocket
  acceptedSockets : ∀ tid, k.maps.acceptedSockets.lookup tid = (k.call tid).acceptSocket

/-- What the exit of a call emits, by the socket that the call was entered with. -/
structure ExitsEmit (host : Endian) (k : Kernel) : Prop where
  connect : ∀ tid sk monitored, k.call tid = .connecting sk monitored → ∀ ret data,
    (fire host k.maps k.mem (.connectExit tid ret)).2 = some data
      ↔ monitored = true ∧ ret = 0
        ∧ (k.mem.read sk).skcRcvSaddr ≠ 0 ∧ (k.mem.read sk).skcDaddr ≠ 0
        ∧ ¬ k.maps.Ignores (k.mem.read sk)
        ∧ (k.mem.read sk).skcRcvSaddr ≠ (k.mem.read sk).skcDaddr
        ∧ data = ⟨(k.mem.read sk).inum.toUInt64, (k.mem.read sk).skcRcvSaddr,
          ntohs host (k.mem.read sk).skcNum, (k.mem.read sk).skcDaddr,
          ntohs host (k.mem.read sk).skcDport, 1⟩
  accept : ∀ tid sk monitored, k.call tid = .accepting sk monitored → ∀ newSk data,
    (fire host k.maps k.mem (.acceptExit tid newSk)).2 = some data
      ↔ monitored = true ∧ newSk ≠ 0
        ∧ ¬ k.maps.Ignores (k.mem.read newSk)
        ∧ (k.mem.read newSk).skcRcvSaddr ≠ (k.mem.read newSk).skcDaddr
        ∧ data = ⟨(k.mem.read sk).inum.toUInt64, (k.mem.read newSk).skcRcvSaddr,
          (k.mem.read newSk).skcNum, (k.mem.read newSk).skcDaddr,
          ntohs host (k.mem.read newSk).skcDport, 2⟩

/-! ## One thread

What the maps hold for a thread, by where the thread is. This is the invariant, one field for each
map.
-/

/-- The maps are right about a thread in `call`, whose socket is monitored still if it was. -/
structure InCall (maps : NetworkMaps) (mem : Memory) (tid : UInt32) (call : Call) : Prop where
  sockets : maps.sockets.lookup tid = call.connectSocket
  acceptedSockets : maps.acceptedSockets.lookup tid = call.acceptSocket
  monitors : ∀ sk, call.connectSocket = some sk ∨ call.acceptSocket = some sk →
    maps.Monitors (mem.read sk)

section InCall

variable {host : Endian} {maps maps' : NetworkMaps} {mem : Memory} {tid : UInt32} {call : Call}

/-- A thread is none the wiser while its own entries stay and namespaces are only added. -/
theorem InCall.mono (h : InCall maps mem tid call)
    (hsockets : maps'.sockets.lookup tid = maps.sockets.lookup tid)
    (haccepted : maps'.acceptedSockets.lookup tid = maps.acceptedSockets.lookup tid)
    (hinode : maps.inodeNum.keySet ⊆ maps'.inodeNum.keySet) : InCall maps' mem tid call where
  sockets := hsockets.trans h.sockets
  acceptedSockets := haccepted.trans h.acceptedSockets
  monitors sk hsk := hinode (h.monitors sk hsk)

/-- Outside of a call neither map has an entry of the thread. -/
theorem InCall.outside (hsockets : maps.sockets.lookup tid = none)
    (haccepted : maps.acceptedSockets.lookup tid = none) : InCall maps mem tid .outside where
  sockets := hsockets
  acceptedSockets := haccepted
  monitors sk hsk := by rcases hsk with hsk | hsk <;> cases hsk

/-- Entering a `connect` of a monitored namespace puts its socket into the map, for which there is
room. -/
theorem InCall.connectEntry (h : InCall maps mem tid .outside) (sk : SockPtr)
    (hroom : maps.sockets.keySet.card < maxEntries) :
    InCall (tcpV4ConnectEntry maps mem tid sk) mem tid
      (.connecting sk (decide (maps.Monitors (mem.read sk)))) := by
  rw [tcpV4ConnectEntry_eq]
  by_cases hmon : maps.Monitors (mem.read sk)
  · rw [if_pos hmon, decide_eq_true hmon]
    refine ⟨BoundedMap.lookup_tryUpdate_self hroom, h.acceptedSockets, fun sk' hsk' => ?_⟩
    rcases hsk' with hsk' | hsk'
    · obtain rfl := Option.some.inj hsk'
      exact hmon
    · cases hsk'
  · rw [if_neg hmon, decide_eq_false hmon]
    exact ⟨h.sockets, h.acceptedSockets, h.monitors⟩

theorem InCall.acceptEntry (h : InCall maps mem tid .outside) (sk : SockPtr)
    (hroom : maps.acceptedSockets.keySet.card < maxEntries) :
    InCall (tcpAcceptEntry maps mem tid sk) mem tid
      (.accepting sk (decide (maps.Monitors (mem.read sk)))) := by
  rw [tcpAcceptEntry_eq]
  by_cases hmon : maps.Monitors (mem.read sk)
  · rw [if_pos hmon, decide_eq_true hmon]
    refine ⟨h.sockets, BoundedMap.lookup_tryUpdate_self hroom, fun sk' hsk' => ?_⟩
    rcases hsk' with hsk' | hsk'
    · cases hsk'
    · obtain rfl := Option.some.inj hsk'
      exact hmon
  · rw [if_neg hmon, decide_eq_false hmon]
    exact ⟨h.sockets, h.acceptedSockets, h.monitors⟩

/-- An exit takes what the entry has left, if it has left anything. -/
theorem InCall.connectExit {sk : SockPtr} {monitored : Bool}
    (h : InCall maps mem tid (.connecting sk monitored)) (ret : Int32) :
    InCall (tcpV4ConnectExit host maps mem tid ret).1 mem tid .outside := by
  cases monitored with
  | true =>
    rw [tcpV4ConnectExit_of_some h.sockets]
    exact .outside BoundedMap.lookup_delete_self h.acceptedSockets
  | false =>
    rw [tcpV4ConnectExit_of_none h.sockets]
    exact ⟨h.sockets, h.acceptedSockets, h.monitors⟩

/-- Leaving an `accept` takes the entry away, whatever it returns. -/
theorem InCall.acceptExit {sk : SockPtr} {monitored : Bool}
    (h : InCall maps mem tid (.accepting sk monitored)) (newSk : SockPtr) :
    InCall (tcpAcceptExit host maps mem tid newSk).1 mem tid .outside := by
  cases monitored with
  | true =>
    rw [tcpAcceptExit_of_some h.acceptedSockets]
    exact .outside h.sockets BoundedMap.lookup_delete_self
  | false =>
    rw [tcpAcceptExit_of_none h.acceptedSockets]
    exact ⟨h.sockets, h.acceptedSockets, h.monitors⟩

end InCall

/-! ## All threads

A probe works on the entry of its own thread, so what it does for one is nothing to the others.
-/

/-- Every thread's entry in the maps is that of the call it is in. -/
def Paired (k : Kernel) : Prop := ∀ tid, InCall k.maps k.mem tid (k.call tid)

theorem paired_start (mem : Memory) : Paired (Kernel.start mem) := fun _ => .outside rfl rfl

section Step

variable {host : Endian} {k : Kernel}

/-- What the invariant says of one thread. -/
theorem Paired.inCall (hk : Paired k) {tid : UInt32} {call : Call} (h : k.call tid = call) :
    InCall k.maps k.mem tid call := h ▸ hk tid

/-- A write that keeps the namespace of the socket goes unnoticed. -/
theorem inum_read_update {mem : Memory} {sk sk' : SockPtr} {s : Sock}
    (h : sk' = sk → s.inum = (mem sk).inum) :
    (Memory.read (Function.update mem sk s) sk').inum = (mem.read sk').inum := by
  unfold Memory.read
  by_cases hnull : sk' = 0
  · rw [if_pos hnull, if_pos hnull]
  · rw [if_neg hnull, if_neg hnull]
    by_cases hsame : sk' = sk
    · rw [hsame, Function.update_self]
      exact h hsame
    · rw [Function.update_of_ne hsame]

/-- Where the other threads are does not change. -/
theorem callsAfter_other {call : ProbeCall} {t : UInt32} (h : call.thread ≠ some t) :
    k.callsAfter call t = k.call t := by
  cases call with
  | udpSend sk => rfl
  | _ =>
    simp only [ProbeCall.thread, ne_eq, Option.some.injEq] at h
    exact Function.update_of_ne (Ne.symm h) _ _

/-- **A probe keeps the pairing**: the entry of its own thread goes in or out, with the call. -/
theorem Paired.probe (hk : Paired k) {call : ProbeCall} (hcall : k.Permits (.probe call)) :
    Paired (k.step host (.probe call)) := by
  intro t
  show InCall (fire host k.maps k.mem call).1 k.mem t (k.callsAfter call t)
  -- the call is this thread's own, or leaves its entries alone
  by_cases ht : call.thread = some t
  · cases call with
    | udpSend sk => cases ht
    | connectEntry tid sk =>
      obtain rfl := Option.some.inj ht
      simp only [Kernel.callsAfter, Function.update_self]
      exact (hk.inCall hcall.1).connectEntry sk hcall.2
    | connectExit tid ret =>
      obtain rfl := Option.some.inj ht
      obtain ⟨sk, monitored, hin⟩ := hcall
      simp only [Kernel.callsAfter, Function.update_self]
      exact (hk.inCall hin).connectExit ret
    | acceptEntry tid sk =>
      obtain rfl := Option.some.inj ht
      simp only [Kernel.callsAfter, Function.update_self]
      exact (hk.inCall hcall.1).acceptEntry sk hcall.2
    | acceptExit tid newSk =>
      obtain rfl := Option.some.inj ht
      obtain ⟨sk, monitored, hin⟩ := hcall
      simp only [Kernel.callsAfter, Function.update_self]
      exact (hk.inCall hin).acceptExit newSk
  · rw [callsAfter_other ht]
    have hother := fire_other host k.maps k.mem ht
    refine (hk t).mono hother.1 hother.2 ?_
    rw [(fire_keeps host k.maps k.mem call).1]

/-- **Every step that the kernel takes keeps entries and exits together.** -/
theorem Paired.step (hk : Paired k) {i : KernelStep} (hi : k.Permits i) :
    Paired (k.step host i) := by
  cases i with
  | probe call => exact hk.probe hi
  | register inum =>
    intro t
    exact (hk t).mono rfl rfl BoundedMap.keySet_subset_tryUpdate
  | ignore ip =>
    intro t
    exact (hk t).mono rfl rfl (Finset.Subset.refl _)
  | write sk s =>
    intro t
    refine ⟨(hk t).sockets, (hk t).acceptedSockets, fun sk' hsk' => ?_⟩
    -- the kernel does not move a socket in use to another namespace
    have hinum : (Memory.read (Function.update k.mem sk s) sk').inum = (k.mem.read sk').inum := by
      apply inum_read_update
      rintro rfl
      exact hi t (Call.socket_of_monitored hsk')
    unfold NetworkMaps.Monitors
    show (Memory.read (Function.update k.mem sk s) sk').inum.toUInt64 ∈ k.maps.inodeNum.keySet
    rw [hinum]
    exact (hk t).monitors sk' hsk'

/-! ## What the exits emit

The same invariant read at an exit.
-/

/-- The exit of a connect: a socket without addresses is none that was connected. -/
theorem Paired.connect_emits (hk : Paired k) {tid : UInt32} {sk : SockPtr} {monitored : Bool}
    (hcall : k.call tid = .connecting sk monitored) (ret : Int32) (data : NetworkEventData) :
    (fire host k.maps k.mem (.connectExit tid ret)).2 = some data
      ↔ monitored = true ∧ ret = 0
        ∧ (k.mem.read sk).skcRcvSaddr ≠ 0 ∧ (k.mem.read sk).skcDaddr ≠ 0
        ∧ ¬ k.maps.Ignores (k.mem.read sk)
        ∧ (k.mem.read sk).skcRcvSaddr ≠ (k.mem.read sk).skcDaddr
        ∧ data = ⟨(k.mem.read sk).inum.toUInt64, (k.mem.read sk).skcRcvSaddr,
          ntohs host (k.mem.read sk).skcNum, (k.mem.read sk).skcDaddr,
          ntohs host (k.mem.read sk).skcDport, 1⟩ := by
  have hin := hk.inCall hcall
  rw [fire]
  cases monitored with
  | false =>
    rw [tcpV4ConnectExit_of_none hin.sockets]
    simp
  | true =>
    have hmon := hin.monitors sk (.inl rfl)
    -- the null socket reads as zeros
    have hnull : (k.mem.read sk).skcRcvSaddr ≠ 0 → sk ≠ 0 := by
      intro h hsk
      exact h (by rw [hsk]; rfl)
    rw [tcpV4ConnectExit_of_some hin.sockets, Option.ite_none_right_eq_some,
      connectEvent_eq_some_iff]
    constructor
    · rintro ⟨⟨_, hret, _⟩, hignores, hsaddr, hdaddr, hsame, hdata⟩
      exact ⟨rfl, hret, hsaddr, hdaddr, hignores, hsame, hdata⟩
    · rintro ⟨_, hret, hsaddr, hdaddr, hignores, hsame, hdata⟩
      exact ⟨⟨hnull hsaddr, hret, hmon⟩, hignores, hsaddr, hdaddr, hsame, hdata⟩

/-- **The exit of an `accept`** emits an event of the new socket, if the call was monitored and
there is one that is not ignored. -/
theorem Paired.accept_emits (hk : Paired k) {tid : UInt32} {sk : SockPtr} {monitored : Bool}
    (hcall : k.call tid = .accepting sk monitored) (newSk : SockPtr) (data : NetworkEventData) :
    (fire host k.maps k.mem (.acceptExit tid newSk)).2 = some data
      ↔ monitored = true ∧ newSk ≠ 0
        ∧ ¬ k.maps.Ignores (k.mem.read newSk)
        ∧ (k.mem.read newSk).skcRcvSaddr ≠ (k.mem.read newSk).skcDaddr
        ∧ data = ⟨(k.mem.read sk).inum.toUInt64, (k.mem.read newSk).skcRcvSaddr,
          (k.mem.read newSk).skcNum, (k.mem.read newSk).skcDaddr,
          ntohs host (k.mem.read newSk).skcDport, 2⟩ := by
  have hin := hk.inCall hcall
  rw [fire]
  cases monitored with
  | false =>
    rw [tcpAcceptExit_of_none hin.acceptedSockets]
    simp
  | true =>
    have hmon := hin.monitors sk (.inr rfl)
    rw [tcpAcceptExit_of_some hin.acceptedSockets, Option.ite_none_right_eq_some,
      acceptEvent_eq_some_iff]
    constructor
    · rintro ⟨⟨hnew, _⟩, hignores, hsame, hdata⟩
      exact ⟨rfl, hnew, hignores, hsame, hdata⟩
    · rintro ⟨_, hnew, hignores, hsame, hdata⟩
      exact ⟨⟨hnew, hmon⟩, hignores, hsame, hdata⟩

/-- So every socket in the maps is that of a call under way. -/
theorem Paired.socketsInUse (hk : Paired k) : SocketsInUse k :=
  ⟨fun tid => (hk tid).sockets, fun tid => (hk tid).acceptedSockets⟩

/-- And every exit emits what it should. -/
theorem Paired.exitsEmit (hk : Paired k) : ExitsEmit host k :=
  ⟨fun _ _ _ hcall => hk.connect_emits hcall, fun _ _ _ hcall => hk.accept_emits hcall⟩

end Step

/-- **Entries and exits are paired in every run**, however the threads interleave with each other
and with what the controller registers. -/
theorem probes_paired (host : Endian) (mem : Memory) {is : List KernelStep}
    (his : Meets (Kernel.step host) Kernel.Permits (Kernel.start mem) is) :
    Always (Kernel.step host) (fun k => SocketsInUse k ∧ ExitsEmit host k) (Kernel.start mem)
      is := by
  have hpaired : Always (Kernel.step host) Paired (Kernel.start mem) is :=
    always_of_meets (fun _ _ hk hi => hk.step hi) (paired_start mem) his
  exact hpaired.imp fun _ hk => ⟨hk.socketsInUse, hk.exitsEmit⟩

/-- From 10.0.0.5 to 10.96.0.10:443, wherever it is read. -/
def oneNamespace : Memory := fun _ => ⟨7, 0x0500000a, 0x0a00600a, 40000, 0xbb01⟩

/-- The namespace is registered while thread 2 waits in an accept, so that only thread 1 leaves a
socket behind. -/
def twoThreads : List KernelStep :=
  [.probe (.acceptEntry 2 0x20), .register 7, .probe (.connectEntry 1 0x10),
    .probe (.acceptExit 2 0x30), .probe (.connectExit 1 0)]

/-- Two threads whose calls overlap do not get into each other's way. -/
theorem probes_paired_two_threads :
    Always (Kernel.step .little) (fun k => SocketsInUse k ∧ ExitsEmit .little k)
      (Kernel.start oneNamespace) twoThreads := by
  apply probes_paired
  exact ⟨⟨rfl, by decide⟩, trivial, ⟨by decide, by decide⟩, ⟨0x20, false, by decide⟩,
    ⟨0x10, true, by decide⟩, trivial⟩

end KubeGuardian.Controller
