import KubeGuardian.Controller.NetworkProbe

/-!
# Three probes, one socket

The ends of the three probes filter the same socket and convert the same fields, each in its own
words.

* **`treatedAlike_iff`** — they come to the same exactly for a socket that all of them pass over, or
  that has no address which one of them turns away and a local port which reads the same in both
  byte orders.
-/

namespace KubeGuardian.Controller

open Lib

/-! ## The property -/

/-- The same ends, addresses and ports. -/
def SameEnds (a b : NetworkEventData) : Prop :=
  a.saddr = b.saddr ∧ a.daddr = b.daddr ∧ a.sport = b.sport ∧ a.dport = b.dport

/-- The addresses of the socket as they are, and its ports in the host's byte order. -/
def EndsOf (host : Endian) (s : Sock) (data : NetworkEventData) : Prop :=
  data.saddr = s.skcRcvSaddr ∧ data.daddr = s.skcDaddr ∧ data.sport = s.skcNum
    ∧ data.dport = ntohs host s.skcDport

/-- No event at all, or three with the same ends, which are the socket's. -/
def TreatedAlike (host : Endian) (s : Sock) (udp connect accept : Option NetworkEventData) : Prop :=
  (udp = none ∧ connect = none ∧ accept = none)
    ∨ ∃ u c a, udp = some u ∧ connect = some c ∧ accept = some a
      ∧ SameEnds u c ∧ SameEnds u a ∧ EndsOf host s u

@[simp] theorem htonl_zero (host : Endian) : htonl host 0 = 0 := by
  cases host <;> rfl

/-! ## What each probe makes of a socket -/

section Ends

variable {host : Endian} {maps : NetworkMaps} {s : Sock} {key key' key'' : UInt64}

theorem acceptEvent_eq_none_iff :
    acceptEvent host maps key s = none ↔ maps.Ignores s ∨ s.skcRcvSaddr = s.skcDaddr := by
  unfold acceptEvent
  by_cases hignores : maps.Ignores s
  · simp [hignores]
  · simp [hignores]

/-- What the accept passes over, all pass over. -/
theorem all_none (hpass : maps.Ignores s ∨ s.skcRcvSaddr = s.skcDaddr) :
    udpEvent host maps key s = none ∧ connectEvent host maps key' s = none
      ∧ acceptEvent host maps key'' s = none := by
  refine ⟨?_, ?_, acceptEvent_eq_none_iff.mpr hpass⟩
  · rw [Option.eq_none_iff_forall_ne_some]
    intro data hdata
    obtain ⟨_, _, hignores, hsame, _⟩ := udpEvent_eq_some_iff.mp hdata
    exact hpass.elim hignores hsame
  · rw [Option.eq_none_iff_forall_ne_some]
    intro data hdata
    obtain ⟨hignores, _, _, hsame, _⟩ := connectEvent_eq_some_iff.mp hdata
    exact hpass.elim hignores hsame

/-- The three ends agree where the accept passes the socket over, and where no other does and the
connect's conversion of the local port changes nothing. -/
theorem treatedAlike_ends_iff :
    TreatedAlike host s (udpEvent host maps key s) (connectEvent host maps key' s)
        (acceptEvent host maps key'' s)
      ↔ (maps.Ignores s ∨ s.skcRcvSaddr = s.skcDaddr)
        ∨ (s.skcRcvSaddr ≠ 0 ∧ s.skcDaddr ≠ 0 ∧ s.skcDaddr ≠ htonl host 0x7F000001
          ∧ ntohs host s.skcNum = s.skcNum) := by
  constructor
  · rintro (⟨_, _, hnone⟩ | ⟨u, c, a, hu, hc, ha, hsame, -, -⟩)
    · exact .inl (acceptEvent_eq_none_iff.mp hnone)
    · obtain ⟨hlocal, hzero, _, _, rfl⟩ := udpEvent_eq_some_iff.mp hu
      obtain ⟨_, hsaddr, hdaddr, _, rfl⟩ := connectEvent_eq_some_iff.mp hc
      obtain ⟨_, _, hsport, _⟩ := hsame
      exact .inr ⟨hsaddr, hdaddr, hlocal, hsport.symm⟩
  · rintro (hpass | ⟨hsaddr, hdaddr, hlocal, hsport⟩)
    · exact .inl (all_none hpass)
    · by_cases hpass : maps.Ignores s ∨ s.skcRcvSaddr = s.skcDaddr
      · exact .inl (all_none hpass)
      · rw [not_or] at hpass
        have hzero : s.skcDaddr ≠ htonl host 0 := by rwa [htonl_zero]
        refine .inr ⟨_, _, _, udpEvent_eq_some_iff.mpr ⟨hlocal, hzero, hpass.1, hpass.2, rfl⟩,
          connectEvent_eq_some_iff.mpr ⟨hpass.1, hsaddr, hdaddr, hpass.2, rfl⟩,
          acceptEvent_eq_some_iff.mpr ⟨hpass.1, hpass.2, rfl⟩, ?_, ?_, ?_⟩
        · exact ⟨rfl, rfl, hsport.symm, rfl⟩
        · exact ⟨rfl, rfl, rfl, rfl⟩
        · exact ⟨rfl, rfl, rfl, rfl⟩

end Ends

/-! ## The three probes -/

/-- **When the three probes treat a socket alike**: the send over it, the exit of a connect that
succeeded with it, and the exit of an accept that returned it. -/
theorem treatedAlike_iff (host : Endian) {maps : NetworkMaps} {mem : Memory}
    {sk listener : SockPtr} {tid tid' : UInt32} (hsk : sk ≠ 0)
    (hmon : maps.Monitors (mem.read sk)) (hconnect : maps.sockets.lookup tid = some sk)
    (haccept : maps.acceptedSockets.lookup tid' = some listener)
    (hlistener : maps.Monitors (mem.read listener)) :
    TreatedAlike host (mem.read sk) (traceUdpSend host maps mem sk)
        (tcpV4ConnectExit host maps mem tid 0).2 (tcpAcceptExit host maps mem tid' sk).2
      ↔ (maps.Ignores (mem.read sk) ∨ (mem.read sk).skcRcvSaddr = (mem.read sk).skcDaddr)
        ∨ ((mem.read sk).skcRcvSaddr ≠ 0 ∧ (mem.read sk).skcDaddr ≠ 0
          ∧ (mem.read sk).skcDaddr ≠ htonl host 0x7F000001
          ∧ ntohs host (mem.read sk).skcNum = (mem.read sk).skcNum) := by
  have hudp : traceUdpSend host maps mem sk = _ :=
    (traceUdpSend_eq host maps mem sk).trans (if_pos ⟨hsk, hmon⟩)
  have hconnectExit : (tcpV4ConnectExit host maps mem tid 0).2 = _ :=
    (congrArg Prod.snd (tcpV4ConnectExit_of_some hconnect 0)).trans (if_pos ⟨hsk, rfl, hmon⟩)
  have hacceptExit : (tcpAcceptExit host maps mem tid' sk).2 = _ :=
    (congrArg Prod.snd (tcpAcceptExit_of_some haccept sk)).trans (if_pos ⟨hsk, hlistener⟩)
  rw [hudp, hconnectExit, hacceptExit]
  exact treatedAlike_ends_iff

/-! ## Samples -/

/-- Thread 1 is in a connect and thread 2 in an accept, both in the monitored namespace 7. -/
def twoCalls : NetworkMaps where
  inodeNum := BoundedMap.empty.tryUpdate 7 1
  ignoreIps := .empty
  sockets := BoundedMap.empty.tryUpdate 1 0x10
  acceptedSockets := BoundedMap.empty.tryUpdate 2 0x20

/-- From 10.0.0.5 to 10.96.0.10:443 (on a little-endian host). -/
def openedFrom (skcNum : UInt16) : Memory := fun _ =>
  ⟨7, 0x0500000a, 0x0a00600a, skcNum, 0xbb01⟩

theorem treatedAlike_port_257 :
    TreatedAlike .little ((openedFrom 257).read 0x10)
      (traceUdpSend .little twoCalls (openedFrom 257) 0x10)
      (tcpV4ConnectExit .little twoCalls (openedFrom 257) 1 0).2
      (tcpAcceptExit .little twoCalls (openedFrom 257) 2 0x10).2 :=
  (treatedAlike_iff .little (by decide) (by decide) rfl rfl (by decide)).mpr
    (.inr (by decide))

/-- Of one socket with the local port 40000 the connect reports the port 16540. -/
theorem not_treatedAlike_port_40000 :
    (traceUdpSend .little twoCalls (openedFrom 40000) 0x10).map (·.sport) = some 40000
      ∧ (tcpV4ConnectExit .little twoCalls (openedFrom 40000) 1 0).2.map (·.sport) = some 16540
      ∧ ¬ TreatedAlike .little ((openedFrom 40000).read 0x10)
        (traceUdpSend .little twoCalls (openedFrom 40000) 0x10)
        (tcpV4ConnectExit .little twoCalls (openedFrom 40000) 1 0).2
        (tcpAcceptExit .little twoCalls (openedFrom 40000) 2 0x10).2 := by
  have hudp : (traceUdpSend .little twoCalls (openedFrom 40000) 0x10).map (·.sport)
      = some 40000 := by decide
  have hconnect : (tcpV4ConnectExit .little twoCalls (openedFrom 40000) 1 0).2.map (·.sport)
      = some 16540 := by decide
  refine ⟨hudp, hconnect, ?_⟩
  rintro (⟨hnone, -, -⟩ | ⟨u, c, a, hu, hc, -, ⟨-, -, hsport, -⟩, -, -⟩)
  · rw [hnone] at hudp
    cases hudp
  · rw [hu, Option.map_some, Option.some.injEq] at hudp
    rw [hc, Option.map_some, Option.some.injEq] at hconnect
    rw [hudp, hconnect] at hsport
    exact absurd hsport (by decide)

end KubeGuardian.Controller
