import KubeGuardian.Controller.Network
import KubeGuardian.Lib.BoundedMap

/-!
# The network probes

`controller/src/bpf/network_probe.bpf.c`. A probe reads the socket it is given, the maps that the
controller fills, and for a call in two halves the socket that its first half has left under the
thread's id. What is read of a socket is its network namespace, its addresses and its ports; a read
through a null pointer fails and leaves zeros.

* **`mem_inodeNum_of_fire`** — an event is of a namespace that is monitored when it is emitted;
* **`fire_keeps`** — no probe touches the maps that the controller fills.
-/

namespace KubeGuardian.Controller

open Lib

/-! ## Byte order -/

/-- The same swap as `from_be`. -/
def htonl (host : Endian) (x : UInt32) : UInt32 := fromBe host x

def ntohs (host : Endian) (x : UInt16) : UInt16 :=
  match host with
  | .little => x <<< 8 ||| x >>> 8
  | .big => x

/-! ## Sockets -/

/-- What the probes read of a `struct sock`: the addresses and the remote port are in network order,
the local port is in the host's. -/
structure Sock where
  inum : UInt32
  skcRcvSaddr : UInt32
  skcDaddr : UInt32
  skcNum : UInt16
  skcDport : UInt16
  deriving DecidableEq

/-- A `struct sock *`; 0 is the null pointer. -/
abbrev SockPtr := UInt64

/-- The kernel's memory, as far as it holds sockets. -/
abbrev Memory := SockPtr → Sock

/-- `BPF_CORE_READ` of the socket's fields: a null pointer reads as zeros. -/
def Memory.read (mem : Memory) (sk : SockPtr) : Sock :=
  if sk = 0 then ⟨0, 0, 0, 0, 0⟩ else mem sk

/-! ## Maps -/

/-- `max_entries` of every hash map, here and in `syscall.bpf.c`. -/
def maxEntries : Nat := 10240

/-- The maps of the network programs. The two of sockets are keyed by thread. -/
structure NetworkMaps where
  inodeNum : BoundedMap UInt64 UInt32 maxEntries
  ignoreIps : BoundedMap UInt32 UInt32 maxEntries
  sockets : BoundedMap UInt32 SockPtr maxEntries
  acceptedSockets : BoundedMap UInt32 SockPtr maxEntries

def NetworkMaps.start : NetworkMaps := ⟨.empty, .empty, .empty, .empty⟩

/-- An address of the socket is in the ignore list. -/
def NetworkMaps.Ignores (maps : NetworkMaps) (s : Sock) : Prop :=
  (maps.ignoreIps.lookup s.skcRcvSaddr).isSome ∨ (maps.ignoreIps.lookup s.skcDaddr).isSome

instance (maps : NetworkMaps) (s : Sock) : Decidable (maps.Ignores s) :=
  inferInstanceAs (Decidable (_ ∨ _))

/-- The key of the socket's namespace, and what is found under it. -/
def getUserSpaceInumPtr (maps : NetworkMaps) (s : Sock) : UInt64 × Option UInt32 :=
  let key := s.inum.toUInt64
  (key, maps.inodeNum.lookup key)

/-! ## Events -/

/-- The end of `trace_udp_send`. -/
def udpEvent (host : Endian) (maps : NetworkMaps) (key : UInt64) (s : Sock) :
    Option NetworkEventData :=
  if s.skcDaddr = htonl host 0x7F000001 ∨ s.skcDaddr = htonl host 0 then none
  else if maps.Ignores s then none
  else if s.skcRcvSaddr = s.skcDaddr then none
  else some
    { inum := key
      saddr := s.skcRcvSaddr
      sport := s.skcNum
      daddr := s.skcDaddr
      dport := ntohs host s.skcDport
      kind := 3 }

/-- The end of `tcp_v4_connect_exit`. -/
def connectEvent (host : Endian) (maps : NetworkMaps) (key : UInt64) (s : Sock) :
    Option NetworkEventData :=
  if maps.Ignores s then none
  else if s.skcRcvSaddr = 0 ∨ s.skcDaddr = 0 then none
  else if s.skcRcvSaddr = s.skcDaddr then none
  else some
    { inum := key
      saddr := s.skcRcvSaddr
      -- converted although it is in host order
      sport := ntohs host s.skcNum
      daddr := s.skcDaddr
      dport := ntohs host s.skcDport
      kind := 1 }

/-- The end of `tcp_accept_exit`; no address is turned away for what it is. -/
def acceptEvent (host : Endian) (maps : NetworkMaps) (key : UInt64) (s : Sock) :
    Option NetworkEventData :=
  if maps.Ignores s then none
  else if s.skcRcvSaddr = s.skcDaddr then none
  else some
    { inum := key
      saddr := s.skcRcvSaddr
      sport := s.skcNum
      daddr := s.skcDaddr
      dport := ntohs host s.skcDport
      kind := 2 }

/-! ## Probes -/

/-- `trace_udp_send`: an event for a datagram of a monitored namespace. -/
def traceUdpSend (host : Endian) (maps : NetworkMaps) (mem : Memory) (sk : SockPtr) :
    Option NetworkEventData :=
  if sk = 0 then none
  else
    match getUserSpaceInumPtr maps (mem.read sk) with
    | (_, none) => none
    | (key, some _) => udpEvent host maps key (mem.read sk)

/-- The result of the update is not looked at. -/
def tcpV4ConnectEntry (maps : NetworkMaps) (mem : Memory) (tid : UInt32) (sk : SockPtr) :
    NetworkMaps :=
  match getUserSpaceInumPtr maps (mem.read sk) with
  | (_, none) => maps
  | (_, some _) => { maps with sockets := maps.sockets.tryUpdate tid sk }

/-- The return of `tcp_v4_connect`: the thread's entry is taken away in any case, and makes an event
where the call succeeded. -/
def tcpV4ConnectExit (host : Endian) (maps : NetworkMaps) (mem : Memory) (tid : UInt32)
    (ret : Int32) : NetworkMaps × Option NetworkEventData :=
  match maps.sockets.lookup tid with
  | none => (maps, none)
  | some sk =>
    let maps := { maps with sockets := maps.sockets.delete tid }
    if sk = 0 ∨ ret ≠ 0 then (maps, none)
    else
      match getUserSpaceInumPtr maps (mem.read sk) with
      | (_, none) => (maps, none)
      | (key, some _) => (maps, connectEvent host maps key (mem.read sk))

/-- The entry of `inet_csk_accept`: the listening socket is kept for the thread, if its namespace is
monitored. -/
def tcpAcceptEntry (maps : NetworkMaps) (mem : Memory) (tid : UInt32) (sk : SockPtr) :
    NetworkMaps :=
  match getUserSpaceInumPtr maps (mem.read sk) with
  | (_, none) => maps
  | (_, some _) => { maps with acceptedSockets := maps.acceptedSockets.tryUpdate tid sk }

/-- The namespace is that of the listening socket, the rest is read of the new one. -/
def tcpAcceptExit (host : Endian) (maps : NetworkMaps) (mem : Memory) (tid : UInt32)
    (newSk : SockPtr) : NetworkMaps × Option NetworkEventData :=
  match maps.acceptedSockets.lookup tid with
  | none => (maps, none)
  | some sk =>
    let maps := { maps with acceptedSockets := maps.acceptedSockets.delete tid }
    match getUserSpaceInumPtr maps (mem.read sk) with
    | (_, none) => (maps, none)
    | (key, some _) =>
      if newSk = 0 then (maps, none)
      else (maps, acceptEvent host maps key (mem.read newSk))

/-- A call of the kernel that a probe is attached to: `tid` is the thread, as the low half of
`bpf_get_current_pid_tgid`. -/
inductive ProbeCall where
  | udpSend (sk : SockPtr)
  | connectEntry (tid : UInt32) (sk : SockPtr)
  | connectExit (tid : UInt32) (ret : Int32)
  | acceptEntry (tid : UInt32) (sk : SockPtr)
  | acceptExit (tid : UInt32) (newSk : SockPtr)

/-- The thread whose entry a probe writes or takes. -/
def ProbeCall.thread : ProbeCall → Option UInt32
  | .udpSend _ => none
  | .connectEntry tid _ | .connectExit tid _ | .acceptEntry tid _ | .acceptExit tid _ => some tid

/-- What the probe of a call leaves in the maps, and the event that it outputs. -/
def fire (host : Endian) (maps : NetworkMaps) (mem : Memory) :
    ProbeCall → NetworkMaps × Option NetworkEventData
  | .udpSend sk => (maps, traceUdpSend host maps mem sk)
  | .connectEntry tid sk => (tcpV4ConnectEntry maps mem tid sk, none)
  | .connectExit tid ret => tcpV4ConnectExit host maps mem tid ret
  | .acceptEntry tid sk => (tcpAcceptEntry maps mem tid sk, none)
  | .acceptExit tid newSk => tcpAcceptExit host maps mem tid newSk

/-! ## When an event is emitted -/

section Events

variable {host : Endian} {maps : NetworkMaps} {key : UInt64} {s : Sock} {data : NetworkEventData}

theorem udpEvent_eq_some_iff :
    udpEvent host maps key s = some data
      ↔ s.skcDaddr ≠ htonl host 0x7F000001 ∧ s.skcDaddr ≠ htonl host 0 ∧ ¬ maps.Ignores s
        ∧ s.skcRcvSaddr ≠ s.skcDaddr
        ∧ data = ⟨key, s.skcRcvSaddr, s.skcNum, s.skcDaddr, ntohs host s.skcDport, 3⟩ := by
  unfold udpEvent
  rw [Option.ite_none_left_eq_some, Option.ite_none_left_eq_some, Option.ite_none_left_eq_some,
    not_or, Option.some.injEq, and_assoc, eq_comm (b := data)]

theorem connectEvent_eq_some_iff :
    connectEvent host maps key s = some data
      ↔ ¬ maps.Ignores s ∧ s.skcRcvSaddr ≠ 0 ∧ s.skcDaddr ≠ 0 ∧ s.skcRcvSaddr ≠ s.skcDaddr
        ∧ data = ⟨key, s.skcRcvSaddr, ntohs host s.skcNum, s.skcDaddr, ntohs host s.skcDport,
            1⟩ := by
  unfold connectEvent
  rw [Option.ite_none_left_eq_some, Option.ite_none_left_eq_some, Option.ite_none_left_eq_some,
    not_or, Option.some.injEq, and_assoc, eq_comm (b := data)]

theorem acceptEvent_eq_some_iff :
    acceptEvent host maps key s = some data
      ↔ ¬ maps.Ignores s ∧ s.skcRcvSaddr ≠ s.skcDaddr
        ∧ data = ⟨key, s.skcRcvSaddr, s.skcNum, s.skcDaddr, ntohs host s.skcDport, 2⟩ := by
  unfold acceptEvent
  rw [Option.ite_none_left_eq_some, Option.ite_none_left_eq_some, Option.some.injEq,
    eq_comm (b := data)]

end Events

section Fire

variable {host : Endian} {maps : NetworkMaps} {mem : Memory} {data : NetworkEventData}

/-- The namespace of the socket is among those that the controller monitors. -/
def NetworkMaps.Monitors (maps : NetworkMaps) (s : Sock) : Prop :=
  s.inum.toUInt64 ∈ maps.inodeNum.keySet

instance (maps : NetworkMaps) (s : Sock) : Decidable (maps.Monitors s) :=
  inferInstanceAs (Decidable (_ ∈ _))

theorem getUserSpaceInumPtr_of_monitors {s : Sock} (h : maps.Monitors s) :
    ∃ v, getUserSpaceInumPtr maps s = (s.inum.toUInt64, some v) := by
  obtain ⟨v, hv⟩ := Option.isSome_iff_exists.mp (BoundedMap.lookup_isSome_iff.mpr h)
  exact ⟨v, by simp [getUserSpaceInumPtr, hv]⟩

theorem getUserSpaceInumPtr_of_not_monitors {s : Sock} (h : ¬ maps.Monitors s) :
    getUserSpaceInumPtr maps s = (s.inum.toUInt64, none) := by
  rw [getUserSpaceInumPtr, BoundedMap.lookup_eq_none_iff.mpr h]

theorem traceUdpSend_eq (host : Endian) (maps : NetworkMaps) (mem : Memory) (sk : SockPtr) :
    traceUdpSend host maps mem sk
      = if sk ≠ 0 ∧ maps.Monitors (mem.read sk) then
          udpEvent host maps (mem.read sk).inum.toUInt64 (mem.read sk)
        else none := by
  unfold traceUdpSend
  by_cases hsk : sk = 0
  · simp [hsk]
  · by_cases hmon : maps.Monitors (mem.read sk)
    · obtain ⟨v, hv⟩ := getUserSpaceInumPtr_of_monitors hmon
      simp [hsk, hmon, hv]
    · simp [hsk, hmon, getUserSpaceInumPtr_of_not_monitors hmon]

theorem tcpV4ConnectEntry_eq (maps : NetworkMaps) (mem : Memory) (tid : UInt32) (sk : SockPtr) :
    tcpV4ConnectEntry maps mem tid sk
      = if maps.Monitors (mem.read sk) then
          { maps with sockets := maps.sockets.tryUpdate tid sk }
        else maps := by
  unfold tcpV4ConnectEntry
  by_cases hmon : maps.Monitors (mem.read sk)
  · obtain ⟨v, hv⟩ := getUserSpaceInumPtr_of_monitors hmon
    simp [hmon, hv]
  · simp [hmon, getUserSpaceInumPtr_of_not_monitors hmon]

theorem tcpAcceptEntry_eq (maps : NetworkMaps) (mem : Memory) (tid : UInt32) (sk : SockPtr) :
    tcpAcceptEntry maps mem tid sk
      = if maps.Monitors (mem.read sk) then
          { maps with acceptedSockets := maps.acceptedSockets.tryUpdate tid sk }
        else maps := by
  unfold tcpAcceptEntry
  by_cases hmon : maps.Monitors (mem.read sk)
  · obtain ⟨v, hv⟩ := getUserSpaceInumPtr_of_monitors hmon
    simp [hmon, hv]
  · simp [hmon, getUserSpaceInumPtr_of_not_monitors hmon]

/-- The entries of the threads do not matter for what is monitored. -/
theorem getUserSpaceInumPtr_congr {maps' : NetworkMaps} (h : maps'.inodeNum = maps.inodeNum)
    (s : Sock) : getUserSpaceInumPtr maps' s = getUserSpaceInumPtr maps s := by
  rw [getUserSpaceInumPtr, h, getUserSpaceInumPtr]

/-- The exit of a connect whose socket was left behind. -/
theorem tcpV4ConnectExit_of_some {tid : UInt32} {sk : SockPtr}
    (h : maps.sockets.lookup tid = some sk) (ret : Int32) :
    tcpV4ConnectExit host maps mem tid ret
      = ({ maps with sockets := maps.sockets.delete tid },
        if sk ≠ 0 ∧ ret = 0 ∧ maps.Monitors (mem.read sk) then
          connectEvent host maps (mem.read sk).inum.toUInt64 (mem.read sk)
        else none) := by
  -- the entry is deleted before the filters, and they do not read it
  have hfound : getUserSpaceInumPtr { maps with sockets := maps.sockets.delete tid }
      (mem.read sk) = getUserSpaceInumPtr maps (mem.read sk) := getUserSpaceInumPtr_congr rfl _
  unfold tcpV4ConnectExit
  simp only [h, hfound]
  by_cases hfailed : sk = 0 ∨ ret ≠ 0
  · have hnot : ¬ (sk ≠ 0 ∧ ret = 0 ∧ maps.Monitors (mem.read sk)) := by tauto
    rw [if_pos hfailed, if_neg hnot]
  · rw [not_or, not_not] at hfailed
    -- a socket outside the monitored namespaces makes no event
    by_cases hmon : maps.Monitors (mem.read sk)
    · obtain ⟨v, hv⟩ := getUserSpaceInumPtr_of_monitors hmon
      simp only [hfailed, hv, hmon, ne_eq, not_false_eq_true, not_true_eq_false, or_self,
        and_self, if_true, if_false]
      rfl
    · simp [hfailed, getUserSpaceInumPtr_of_not_monitors hmon, hmon]

/-- The exit of an accept whose listening socket was left behind. -/
theorem tcpAcceptExit_of_some {tid : UInt32} {sk : SockPtr}
    (h : maps.acceptedSockets.lookup tid = some sk) (newSk : SockPtr) :
    tcpAcceptExit host maps mem tid newSk
      = ({ maps with acceptedSockets := maps.acceptedSockets.delete tid },
        if newSk ≠ 0 ∧ maps.Monitors (mem.read sk) then
          acceptEvent host maps (mem.read sk).inum.toUInt64 (mem.read newSk)
        else none) := by
  have hfound : getUserSpaceInumPtr
      { maps with acceptedSockets := maps.acceptedSockets.delete tid } (mem.read sk)
        = getUserSpaceInumPtr maps (mem.read sk) := getUserSpaceInumPtr_congr rfl _
  unfold tcpAcceptExit
  simp only [h, hfound]
  by_cases hmon : maps.Monitors (mem.read sk)
  · obtain ⟨v, hv⟩ := getUserSpaceInumPtr_of_monitors hmon
    by_cases hnew : newSk = 0
    · simp [hv, hnew]
    · simp only [hv, hnew, hmon, ne_eq, not_false_eq_true, and_self, if_true, if_false]
      rfl
  · simp [getUserSpaceInumPtr_of_not_monitors hmon, hmon]

/-- Without a socket left behind, an exit does nothing. -/
theorem tcpV4ConnectExit_of_none {tid : UInt32} (h : maps.sockets.lookup tid = none)
    (ret : Int32) : tcpV4ConnectExit host maps mem tid ret = (maps, none) := by
  simp [tcpV4ConnectExit, h]

theorem tcpAcceptExit_of_none {tid : UInt32} (h : maps.acceptedSockets.lookup tid = none)
    (newSk : SockPtr) : tcpAcceptExit host maps mem tid newSk = (maps, none) := by
  simp [tcpAcceptExit, h]

/-- **No probe touches the maps that the controller fills.** -/
theorem fire_keeps (host : Endian) (maps : NetworkMaps) (mem : Memory) (call : ProbeCall) :
    (fire host maps mem call).1.inodeNum = maps.inodeNum
      ∧ (fire host maps mem call).1.ignoreIps = maps.ignoreIps := by
  cases call with
  | udpSend sk => exact ⟨rfl, rfl⟩
  | connectEntry tid sk =>
    rw [fire, tcpV4ConnectEntry_eq]
    split <;> exact ⟨rfl, rfl⟩
  | connectExit tid ret =>
    rw [fire]
    cases hsk : maps.sockets.lookup tid with
    | none => rw [tcpV4ConnectExit_of_none hsk]; exact ⟨rfl, rfl⟩
    | some sk => rw [tcpV4ConnectExit_of_some hsk]; exact ⟨rfl, rfl⟩
  | acceptEntry tid sk =>
    rw [fire, tcpAcceptEntry_eq]
    split <;> exact ⟨rfl, rfl⟩
  | acceptExit tid newSk =>
    rw [fire]
    cases hsk : maps.acceptedSockets.lookup tid with
    | none => rw [tcpAcceptExit_of_none hsk]; exact ⟨rfl, rfl⟩
    | some sk => rw [tcpAcceptExit_of_some hsk]; exact ⟨rfl, rfl⟩

/-- No probe touches another thread's entries. -/
theorem fire_other (host : Endian) (maps : NetworkMaps) (mem : Memory) {call : ProbeCall}
    {t : UInt32} (h : call.thread ≠ some t) :
    (fire host maps mem call).1.sockets.lookup t = maps.sockets.lookup t
      ∧ (fire host maps mem call).1.acceptedSockets.lookup t = maps.acceptedSockets.lookup t := by
  cases call with
  | udpSend sk => exact ⟨rfl, rfl⟩
  | connectEntry tid sk =>
    have ht : t ≠ tid := fun heq => h (congrArg some heq.symm)
    rw [fire, tcpV4ConnectEntry_eq]
    split
    · exact ⟨BoundedMap.lookup_tryUpdate_ne ht, rfl⟩
    · exact ⟨rfl, rfl⟩
  | connectExit tid ret =>
    have ht : t ≠ tid := fun heq => h (congrArg some heq.symm)
    rw [fire]
    cases hsk : maps.sockets.lookup tid with
    | none => rw [tcpV4ConnectExit_of_none hsk]; exact ⟨rfl, rfl⟩
    | some sk =>
      rw [tcpV4ConnectExit_of_some hsk]
      exact ⟨BoundedMap.lookup_delete_ne ht, rfl⟩
  | acceptEntry tid sk =>
    have ht : t ≠ tid := fun heq => h (congrArg some heq.symm)
    rw [fire, tcpAcceptEntry_eq]
    split
    · exact ⟨rfl, BoundedMap.lookup_tryUpdate_ne ht⟩
    · exact ⟨rfl, rfl⟩
  | acceptExit tid newSk =>
    have ht : t ≠ tid := fun heq => h (congrArg some heq.symm)
    rw [fire]
    cases hsk : maps.acceptedSockets.lookup tid with
    | none => rw [tcpAcceptExit_of_none hsk]; exact ⟨rfl, rfl⟩
    | some sk =>
      rw [tcpAcceptExit_of_some hsk]
      exact ⟨rfl, BoundedMap.lookup_delete_ne ht⟩

/-- **An event is of a namespace that is monitored when it is emitted.** -/
theorem mem_inodeNum_of_fire {call : ProbeCall} (h : (fire host maps mem call).2 = some data) :
    data.inum ∈ maps.inodeNum.keySet := by
  cases call with
  | udpSend sk =>
    rw [fire, traceUdpSend_eq] at h
    obtain ⟨⟨_, hmon⟩, h⟩ := Option.ite_none_right_eq_some.mp h
    obtain ⟨_, _, _, _, rfl⟩ := udpEvent_eq_some_iff.mp h
    exact hmon
  | connectEntry tid sk => cases h
  | connectExit tid ret =>
    rw [fire] at h
    cases hsk : maps.sockets.lookup tid with
    | none => simp [tcpV4ConnectExit_of_none hsk] at h
    | some sk =>
      rw [tcpV4ConnectExit_of_some hsk] at h
      -- the namespace of the event is the one that was found monitored
      obtain ⟨⟨_, _, hmon⟩, h⟩ := Option.ite_none_right_eq_some.mp h
      obtain ⟨_, _, _, _, rfl⟩ := connectEvent_eq_some_iff.mp h
      exact hmon
  | acceptEntry tid sk => cases h
  | acceptExit tid newSk =>
    rw [fire] at h
    cases hsk : maps.acceptedSockets.lookup tid with
    | none => simp [tcpAcceptExit_of_none hsk] at h
    | some sk =>
      rw [tcpAcceptExit_of_some hsk] at h
      obtain ⟨⟨_, hmon⟩, h⟩ := Option.ite_none_right_eq_some.mp h
      obtain ⟨_, _, rfl⟩ := acceptEvent_eq_some_iff.mp h
      exact hmon

end Fire

end KubeGuardian.Controller
