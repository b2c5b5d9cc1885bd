import KubeGuardian.Advisor.ExactRules
import KubeGuardian.System.ObservedPolicy

/-!
# The ports of datagrams

The broker looks a UDP record up a second time by the pod's own port, which the controller reports
as 0 for whatever a pod sends. So a UDP record is stored only as the first that leaves the pod for
its peer, and no other port of the peer is ever recorded for UDP.

* **`one_udp_port`** — in a policy made after any run, a rule has one UDP port at most, and that
  port for no other protocol.
-/

namespace KubeGuardian.System

open Controller Advisor Lib

/-! ## Rows that hide each other -/

section Rows

variable {κ τ : Type*} [DecidableEq κ] {cfg : κ → NodeConfig}

/-- However requests and answers get lost, no row hides a later one. -/
theorem Deployment.pairwise_podTraffic (cfg : κ → NodeConfig)
    (inputs : List (DeploymentInput κ τ)) :
    (run (Deployment.step cfg) Deployment.start inputs).db.podTraffic.Pairwise
      fun s r => Broker.hides s r = false := by
  refine run_invariant (Deployment.step cfg)
    (P := fun d => d.db.podTraffic.Pairwise fun s r => Broker.hides s r = false) .nil
    (fun d i hd => ?_) inputs
  cases i with
  | restart k => exact hd
  | other orders post =>
    rw [podTraffic_other]
    exact hd
  | node k i exchange =>
    show (d.exchanged cfg k i exchange).1.podTraffic.Pairwise _
    -- stored or not, heard or not: the table keeps no row that a row before it hides
    rw [podTraffic_exchanged]
    split
    · exact Broker.createPodTraffic_pairwise _ hd _
    · exact Broker.createPodTraffic_pairwise _ hd _
    · exact hd

variable {host host' : Endian} {o o' : Observation τ}

/-- A datagram's record hides, and is hidden by, one of the same way that is a datagram's too or has
its port. -/
theorem hides_datagram (stamp stamp' : Stamp) (hkind' : KnownKind o'.data)
    (hudp : o.data.kind = 3) (hdir : eventDirection o'.data = eventDirection o.data)
    (hip : o'.podInspect.status.podIp = o.podInspect.status.podIp)
    (hpeer : peer host' o'.data = peer host o.data)
    (hlike : o'.data.kind = 3 ∨ relevantPort o'.data = relevantPort o.data) :
    Broker.hides (o'.record host' stamp').row (o.record host stamp).row
      ∧ Broker.hides (o.record host stamp).row (o'.record host' stamp').row := by
  -- the two nodes write the peer alike, each in its own byte order
  have hpeers :
      ipv4String (fromBe host' o'.data.daddr) = ipv4String (fromBe host o.data.daddr) := by
    rw [ipv4String_fromBe, ipv4String_fromBe]
    exact hpeer
  rcases hkind' with hk | hk | hk
  · -- a connection that was opened to the port
    have hport : o'.data.dport = o.data.dport := by
      simpa [relevantPort, hk, hudp] using hlike
    simp [Broker.hides, Broker.peerPortQuery, Broker.bothPortsQuery, Observation.record,
      recordOf, Controller.PodTraffic.row, classify, hudp, hk, hip, hpeers, hport]
  · -- an accepted connection goes the other way
    simp [eventDirection, hk, hudp] at hdir
  · simp [Broker.hides, Broker.podPortQuery, Observation.record, recordOf,
      Controller.PodTraffic.row, classify, hudp, hk, hip, hpeers]

end Rows

/-! ## Rules -/

section Rules

variable {κ τ : Type*} [DecidableEq κ] {cfg : κ → NodeConfig}
  {inputs : List (DeploymentInput κ τ)} {w : World} {podName podIp : String}

theorem kind_of_eventProtocol {data : NetworkEventData} (h : eventProtocol data = .udp) :
    data.kind = 3 := by
  unfold eventProtocol at h
  split at h
  · assumption
  · cases h

/-- Two usable records of one peer, of which one is a datagram's and the other is too or has its
port, are one record. -/
theorem eq_of_datagram (hdb : w.db = (run (Deployment.step cfg) Deployment.start inputs).db)
    (haddress : OneAddress cfg inputs podName podIp) {podTraffic : List Advisor.PodTraffic}
    (htraffic : w.getRealPodTraffic podName = .ok podTraffic) {dir : Direction}
    {podDetail : PodDetail} {traffic traffic' : Advisor.PodTraffic} {portInt portInt' : Int}
    (hmem : traffic ∈ podTraffic) (hmem' : traffic' ∈ podTraffic)
    (hu : Usable dir podDetail traffic portInt) (hu' : Usable dir podDetail traffic' portInt')
    (hpeer : traffic'.dstIP = traffic.dstIP) (hudp : protocolPtr traffic.protocol = .udp)
    (hlike : protocolPtr traffic'.protocol = .udp ∨ portInt' = portInt) : traffic' = traffic := by
  have hrows := (World.getRealPodTraffic_eq_ok htraffic).2.2
  obtain ⟨row, hrow, hname, rfl⟩ := (hrows traffic).mp hmem
  obtain ⟨row', hrow', hname', rfl⟩ := (hrows traffic').mp hmem'
  rw [hdb] at hrow hrow'
  obtain ⟨k, o, stamp, rfl, -, hdelivers, -⟩ := Deployment.rows_sound cfg inputs row hrow
  obtain ⟨k', o', stamp', rfl, -, hdelivers', -⟩ := Deployment.rows_sound cfg inputs row' hrow'
  have hobserves := Deployment.observes_of_delivers hdelivers
  have hobserves' := Deployment.observes_of_delivers hdelivers'
  have hkind := Deployment.knownKind_of_observes hobserves
  have hkind' := Deployment.knownKind_of_observes hobserves'
  obtain ⟨hdst, hproto⟩ := peer_arrived (cfg k).endian stamp hkind
  obtain ⟨hdst', hproto'⟩ := peer_arrived (cfg k').endian stamp' hkind'
  obtain ⟨hdir, -, -, hport⟩ := (usable_arrived_iff hkind).mp hu
  obtain ⟨hdir', -, -, hport'⟩ := (usable_arrived_iff hkind').mp hu'
  -- both rows carry the address the details give the pod
  have hip : o'.podInspect.status.podIp = o.podInspect.status.podIp :=
    (haddress k' o' hobserves' (Option.some.inj hname')).trans
      (haddress k o hobserves (Option.some.inj hname)).symm
  have hlikeEvents : o'.data.kind = 3 ∨ relevantPort o'.data = relevantPort o.data :=
    hlike.imp (fun h => kind_of_eventProtocol (hproto'.symm.trans h))
      fun h => UInt16.toNat_inj.mp (by omega)
  -- each of the two rows would hide the other, whichever came first
  obtain ⟨hafter, hbefore⟩ := hides_datagram stamp stamp' hkind'
    (kind_of_eventProtocol (hproto.symm.trans hudp)) (hdir'.trans hdir.symm) hip
    (hdst'.symm.trans (hpeer.trans hdst)) hlikeEvents
  exact congrArg World.decodeTraffic
    (eq_of_dup_both (Deployment.pairwise_podTraffic cfg inputs) hrow' hrow hafter hbefore)

/-- What two ports of one rule are. -/
theorem ports_of_rule (hdb : w.db = (run (Deployment.step cfg) Deployment.start inputs).db)
    (haddress : OneAddress cfg inputs podName podIp) {podTraffic : List Advisor.PodTraffic}
    (htraffic : w.getRealPodTraffic podName = .ok podTraffic) {dir : Direction}
    {podDetail : PodDetail} {ρ π : Type} {isFor : String → ρ → Prop} {ports : ρ → List π}
    {port : Int → Protocol → π} {rules : List ρ}
    (h : ExactRules dir podDetail podTraffic isFor ports port rules) {rule : ρ}
    (hrule : rule ∈ rules) {p q : π} (hp : p ∈ ports rule) (hq : q ∈ ports rule) :
    ∃ m n protocol protocol', p = port m protocol ∧ q = port n protocol'
      ∧ (0 < m ∧ m ≤ 65535) ∧ (0 < n ∧ n ≤ 65535)
      ∧ (protocol = .udp → protocol' = .udp ∨ n = m → q = p) := by
  obtain ⟨ip, -, -, hports⟩ := h.exists_peer hrule
  obtain ⟨traffic, hmem, m, hu, hip, rfl⟩ := (hports p).mp hp
  obtain ⟨traffic', hmem', n, hu', hip', rfl⟩ := (hports q).mp hq
  refine ⟨m, n, _, _, rfl, rfl, parsePort_range hu.port, parsePort_range hu'.port,
    fun hudp hlike => ?_⟩
  -- a rule has one peer, so its UDP port comes of one record
  have hsame := eq_of_datagram hdb haddress htraffic hmem hmem' hu hu' (hip'.trans hip.symm) hudp
    hlike
  subst hsame
  rw [Except.ok.inj (hu'.port.symm.trans hu.port)]

end Rules

/-! ## Two datagrams to one peer -/

section TwoDatagrams

open Deployment

def datagram (skcDport : UInt16) : Memory := fun _ => { shopSock with skcDport := skcDport }

/-- The pod `web` sends to port 53 of a peer, and then to port 123. -/
def twoDatagrams : List (DeploymentInput Unit Unit) :=
  oneConnection.take 7
    ++ [.node () (.network () (datagram 0x3500) (.udpSend 1)) (.lost ""),
      .node () (.network () (datagram 0x7b00) (.udpSend 1)) (.lost ""),
      .node () (.handleNetwork 0 ⟨"u1", 1⟩ (.error "")) (.answered .stored),
      .node () (.handleNetwork 0 ⟨"u2", 2⟩ (.error "")) (.answered .stored)]

def datagramRow : Broker.PodTraffic where
  uuid := "u1"
  podName := some "web"
  podNamespace := some "shop"
  podIp := some "10.0.0.5"
  podPort := some "0"
  ipProtocol := some "UDP"
  trafficType := some "EGRESS"
  trafficInOutIp := some "10.0.0.9"
  trafficInOutPort := some "53"
  timeStamp := 1

/-- Port 123 is not recorded. -/
example : (run (Deployment.step fun _ => shopConfig) start twoDatagrams).db.podTraffic
    = [datagramRow] := by
  decide +kernel

/-- The one pod that is registered has one address. -/
theorem oneAddress_twoDatagrams :
    OneAddress (fun _ => shopConfig) twoDatagrams "web" "10.0.0.5" := by
  intro k o hobserves _
  have hregisters := ((sourced_run (fun _ => shopConfig) twoDatagrams).observed k o hobserves).2
  simp only [twoDatagrams, oneConnection, List.take, List.cons_append, List.nil_append, Occurs,
    Registers, NodeInput.Registers, and_false, or_false] at hregisters
  obtain ⟨-, -, podIp, hwatched, hpod⟩ := hregisters
  rw [hpod]
  exact Option.some.inj hwatched.2.symm

end TwoDatagrams

end KubeGuardian.System
