import KubeGuardian.Controller.Address
import KubeGuardian.System.Wire

/-!
# From an event to a rule

Which of an event's two ports counts depends on its kind; the controller blanks the other one, and
the advisor picks a column by the traffic type.

* **`event_to_rule`** — the record of an event adds exactly one entry to the rules, of the event's
  direction, peer, port and protocol, and none where that port is 0; and it tells the kind, the
  peer and the port of the event and nothing else about it.
-/

namespace KubeGuardian.System

open Controller Advisor Lib

/-! ## What an event calls for -/

/-- Direction, peer and port (with its protocol) of a rule. -/
abbrev RuleEntry := Direction × String × NetworkPolicyPort

def ruleEntries (rules : List NetworkPolicyRule × List NetworkPolicyRule) : List RuleEntry :=
  (rules.1.flatMap fun rule => rule.ports.map fun port => (.ingress, rule.peerIP, port))
    ++ rules.2.flatMap fun rule => rule.ports.map fun port => (.egress, rule.peerIP, port)

/-- An accepted connection, an opened one or a datagram that was sent. -/
def KnownKind (data : NetworkEventData) : Prop :=
  data.kind = 1 ∨ data.kind = 2 ∨ data.kind = 3

/-- The port that a rule for the event would be about: the pod's own where the connection was
accepted. -/
def relevantPort (data : NetworkEventData) : UInt16 :=
  if data.kind = 2 then data.sport else data.dport

/-- The peer's address, from the bytes as they lie in memory. -/
def peer (host : Endian) (data : NetworkEventData) : String := dottedQuad (memory host data.daddr)

/-- An accepted connection comes in; everything else goes out. -/
def eventDirection (data : NetworkEventData) : Direction :=
  if data.kind = 2 then .ingress else .egress

def eventProtocol (data : NetworkEventData) : Protocol := if data.kind = 3 then .udp else .tcp

def eventEntry (host : Endian) (data : NetworkEventData) : RuleEntry :=
  (eventDirection data, peer host data,
    ⟨some (.fromInt (relevantPort data).toNat), some (eventProtocol data)⟩)

abbrev TrafficRules :=
  List Advisor.PodTraffic → PodDetail → List NetworkPolicyRule × List NetworkPolicyRule

/-- `traffic` adds `entry` to whatever rules the records around it make, and nothing else. -/
structure AddsOnly (processTrafficRules : TrafficRules) (podDetail : PodDetail)
    (traffic : Advisor.PodTraffic) (entry : RuleEntry) : Prop where
  alone : ruleEntries (processTrafficRules [traffic] podDetail) = [entry]
  among : ∀ pre post e, e ∈ ruleEntries (processTrafficRules (pre ++ traffic :: post) podDetail)
    ↔ e ∈ ruleEntries (processTrafficRules (pre ++ post) podDetail) ∨ e = entry

/-- The record leaves the rules as they are, wherever it stands. -/
def AddsNothing (processTrafficRules : TrafficRules) (podDetail : PodDetail)
    (traffic : Advisor.PodTraffic) : Prop :=
  ∀ pre post, processTrafficRules (pre ++ traffic :: post) podDetail
    = processTrafficRules (pre ++ post) podDetail

/-- A record without what is drawn afresh for each. -/
def unstamped (record : Controller.PodTraffic) : Controller.PodTraffic :=
  { record with uuid := "", timeStamp := 0 }

/-! ## What the rules are made of -/

theorem mem_ruleEntries {podTraffic : List Advisor.PodTraffic} {podDetail : PodDetail}
    {e : RuleEntry} :
    e ∈ ruleEntries (processTrafficRules podTraffic podDetail)
      ↔ ∃ ob ∈ observations e.1 podDetail podTraffic, e.2 = (ob.1, ob.2.toPort) := by
  -- on each side the rules' ports are the observations, grouped by peer
  have hside : ∀ dir (p : String × NetworkPolicyPort),
      (∃ rule ∈ rulesOf dir podDetail podTraffic, ∃ port ∈ rule.ports, (rule.peerIP, port) = p)
        ↔ ∃ ob ∈ observations dir podDetail podTraffic, p = (ob.1, ob.2.toPort) := by
    intro dir p
    unfold rulesOf groupsOf
    constructor
    · rintro ⟨rule, hrule, port, hport, rfl⟩
      obtain ⟨g, hg, rfl⟩ := List.mem_map.mp hrule
      obtain ⟨v, hv, rfl⟩ := List.mem_map.mp hport
      exact ⟨(g.1, v), (Grouping.mem_values_ofList hg v).mp hv, rfl⟩
    · rintro ⟨ob, hob, rfl⟩
      obtain ⟨vs, hg, hv⟩ := (Grouping.mem_ofList _ ob.1 ob.2).mpr hob
      exact ⟨toRule (ob.1, vs), List.mem_map_of_mem hg, ob.2.toPort, List.mem_map_of_mem hv, rfl⟩
  obtain ⟨dir, p⟩ := e
  rw [processTrafficRules_eq, ruleEntries, List.mem_append]
  simp only [List.mem_flatMap, List.mem_map, Prod.mk.injEq]
  cases dir with
  | ingress => simp [← hside]
  | egress => simp [← hside]

theorem observations_append_cons (dir : Direction) (podDetail : PodDetail)
    (pre post : List Advisor.PodTraffic) (traffic : Advisor.PodTraffic) :
    observations dir podDetail (pre ++ traffic :: post)
      = observations dir podDetail pre ++ (observation dir podDetail traffic).toList
        ++ observations dir podDetail post := by
  unfold observations
  cases h : observation dir podDetail traffic <;> simp [h]

/-- A record with one observation adds what it observes. -/
theorem addsOnly_of_observation {podDetail : PodDetail} {traffic : Advisor.PodTraffic}
    {dir : Direction} {ip : String} {v : PortValue}
    (hobs : ∀ dir', observation dir' podDetail traffic
      = if dir' = dir then some (ip, v) else none) :
    AddsOnly processTrafficRules podDetail traffic (dir, ip, v.toPort) := by
  -- the record makes one observation, on one side
  have hsingle : ∀ dir', observations dir' podDetail [traffic]
      = if dir' = dir then [(ip, v)] else [] := by
    intro dir'
    by_cases h : dir' = dir <;> simp [observations, hobs, h]
  constructor
  · rw [processTrafficRules_eq, ruleEntries]
    unfold rulesOf groupsOf
    rw [hsingle, hsingle]
    cases dir <;> rfl
  · intro pre post e
    simp only [mem_ruleEntries, observations_append_cons]
    have happend : observations e.1 podDetail (pre ++ post)
        = observations e.1 podDetail pre ++ observations e.1 podDetail post :=
      List.filterMap_append
    rw [happend, hobs]
    obtain ⟨dir', p⟩ := e
    by_cases h : dir' = dir
    · simp only [h, if_true, Option.toList_some, List.mem_append, List.mem_singleton, Prod.mk.injEq,
        true_and]
      constructor
      · rintro ⟨ob, (hob | rfl) | hob, hp⟩
        · exact .inl ⟨ob, .inl hob, hp⟩
        · exact .inr hp
        · exact .inl ⟨ob, .inr hob, hp⟩
      · rintro (⟨ob, hob, hp⟩ | hp)
        · exact ⟨ob, hob.elim (fun h => .inl (.inl h)) .inr, hp⟩
        · exact ⟨(ip, v), .inl (.inr rfl), hp⟩
    · simp [h]

theorem addsNothing_of_observation {podDetail : PodDetail} {traffic : Advisor.PodTraffic}
    (hobs : ∀ dir, observation dir podDetail traffic = none) :
    AddsNothing processTrafficRules podDetail traffic := by
  intro pre post
  have hsame : ∀ dir, observations dir podDetail (pre ++ traffic :: post)
      = observations dir podDetail (pre ++ post) := by
    intro dir
    rw [observations_append_cons, hobs]
    simp [observations]
  simp only [processTrafficRules_eq, rulesOf, groupsOf, hsame]

/-! ## The record of an event -/

/-- The record as the advisor has it in the end. -/
def arrived (record : Controller.PodTraffic) : Advisor.PodTraffic := World.decodeTraffic record.row

theorem arrived_columns (host : Endian) (stamp : Stamp) (data : NetworkEventData)
    (podInspect : PodInspect) (hkind : KnownKind data) :
    let traffic := arrived (recordOf host stamp data podInspect)
    traffic.trafficType = (eventDirection data).trafficType
      ∧ traffic.portStr (eventDirection data) = toString (relevantPort data)
      ∧ traffic.dstIP = peer host data
      ∧ protocolPtr traffic.protocol = eventProtocol data := by
  have hpeer : (arrived (recordOf host stamp data podInspect)).dstIP = peer host data :=
    ipv4String_fromBe host data.daddr
  have hcols : (arrived (recordOf host stamp data podInspect)).trafficType
        = (classify data).trafficType
      ∧ (arrived (recordOf host stamp data podInspect)).srcPodPort
        = toString (classify data).podPort
      ∧ (arrived (recordOf host stamp data podInspect)).dstPort
        = toString (classify data).trafficInOutPort
      ∧ (arrived (recordOf host stamp data podInspect)).protocol = (classify data).protocol :=
    ⟨rfl, rfl, rfl, rfl⟩
  refine ⟨?_, ?_, hpeer, ?_⟩ <;>
    rcases hkind with h | h | h <;>
    simp [hcols, classify, eventDirection, eventProtocol, relevantPort, h, PodTraffic.portStr,
      Direction.trafficType, protocolPtr]

theorem peer_ne_empty (host : Endian) (data : NetworkEventData) : peer host data ≠ "" := by
  intro h
  have hlength : (memory host data.daddr).length = 4 := by cases host <;> simp [memory]
  cases hmem : memory host data.daddr with
  | nil => simp [hmem] at hlength
  | cons a rest =>
    cases rest with
    | nil => simp [hmem] at hlength
    | cons b rest =>
      -- two numbers have a dot between them
      have hdot : '.' ∈ (peer host data).toList := by
        rw [peer, hmem, dottedQuad, String.toList_intercalate]
        simp
      simp [h] at hdot

/-- **What the record of an event is an observation of.** -/
theorem observation_arrived {host : Endian} {data : NetworkEventData} {podDetail : PodDetail}
    (podInspect : PodInspect) (stamp : Stamp) (hkind : KnownKind data)
    (hdetail : podDetail.podIP ≠ peer host data) (dir : Direction) :
    observation dir podDetail (arrived (recordOf host stamp data podInspect))
      = if dir = eventDirection data ∧ relevantPort data ≠ 0 then
          some (peer host data, Int32.ofInt (relevantPort data).toNat, eventProtocol data)
        else none := by
  obtain ⟨htype, hport, hip, hprotocol⟩ := arrived_columns host stamp data podInspect hkind
  unfold observation
  by_cases hdir : dir = eventDirection data
  · subst hdir
    have hparse : parsePort (toString (relevantPort data)) = _ :=
      parsePort_toString (Nat.le_of_lt_succ (relevantPort data).toNat_lt)
    have hzero : (relevantPort data).toNat = 0 ↔ relevantPort data = 0 := by
      rw [← UInt16.toNat_inj]; rfl
    rw [if_pos ⟨htype, hip ▸ peer_ne_empty host data, hip ▸ hdetail.symm⟩, hport, hparse, hprotocol,
      hip]
    by_cases hport0 : relevantPort data = 0
    · simp [hport0]
    · rw [if_neg (mt hzero.mp hport0), if_pos ⟨rfl, hport0⟩]
  · -- a record of the other direction
    have hother : dir.trafficType ≠ (eventDirection data).trafficType := by
      cases dir <;> cases h : eventDirection data <;> simp_all [Direction.trafficType]
    rw [if_neg fun h => hother (h.1.symm.trans htype), if_neg fun h => hdir h.1]

/-- Kind, peer and port make the record, and are told by it. -/
theorem unstamped_recordOf_eq_iff {host : Endian} {data data' : NetworkEventData}
    {podInspect : PodInspect} (stamp stamp' : Stamp) (hkind : KnownKind data)
    (hkind' : KnownKind data') :
    unstamped (recordOf host stamp' data' podInspect)
        = unstamped (recordOf host stamp data podInspect)
      ↔ data'.kind = data.kind ∧ data'.daddr = data.daddr
        ∧ relevantPort data' = relevantPort data := by
  have hprinted : ∀ p q : UInt16, toString p = toString q ↔ p = q := by
    intro p q
    refine ⟨fun h => UInt16.toNat_inj.mp (Nat.repr_injective h), fun h => by rw [h]⟩
  have hdaddr : ipv4String (fromBe host data'.daddr) = ipv4String (fromBe host data.daddr)
      ↔ data'.daddr = data.daddr := ⟨ipv4String_fromBe_inj, fun h => by rw [h]⟩
  simp only [unstamped, recordOf, Controller.PodTraffic.mk.injEq, Option.some.injEq, true_and,
    and_true, hprinted, hdaddr]
  rcases hkind with h | h | h <;> rcases hkind' with h' | h' | h' <;>
    simp [classify, relevantPort, h, h', and_comm]

/-! ## End to end -/

/-- **Event, record and rule agree.** -/
theorem event_to_rule (host : Endian) {data : NetworkEventData} (podInspect : PodInspect)
    {podDetail : PodDetail} (cache : Finset TrafficKey) (stamp : Stamp) (sent : Sent)
    (hkind : KnownKind data) (hown : podInspect.status.podIp ≠ peer host data)
    (hdetail : podDetail.podIP ≠ peer host data) (hnew : keyOf host data podInspect ∉ cache) :
    ∃ record row traffic,
      (processNetworkEvent host stamp sent cache data podInspect).2 = some record
      ∧ Broker.PodTraffic.ofJson record.toJson = some row
      ∧ Advisor.PodTraffic.ofJson row.toJson = some traffic
      ∧ (∀ processTrafficRules ∈ [StandardPolicyGenerator.processTrafficRules,
          CiliumPolicyGenerator.processTrafficRules],
        (relevantPort data ≠ 0 →
          AddsOnly processTrafficRules podDetail traffic (eventEntry host data))
        ∧ (relevantPort data = 0 → AddsNothing processTrafficRules podDetail traffic))
      ∧ ∀ stamp' sent' cache' data' record', KnownKind data' →
        (processNetworkEvent host stamp' sent' cache' data' podInspect).2 = some record' →
        (unstamped record' = unstamped record ↔ data'.kind = data.kind ∧ data'.daddr = data.daddr
          ∧ relevantPort data' = relevantPort data) := by
  have hposted : ∀ stamp sent (cache : Finset TrafficKey) data record,
      (processNetworkEvent host stamp sent cache data podInspect).2 = some record →
      record = recordOf host stamp data podInspect :=
    fun _ _ _ _ _ h => (posted_eq_some_iff.mp h).2.2
  have hnotOwn : ¬ ownAddress host data podInspect := by
    rwa [ownAddress, ipv4String_fromBe]
  have hrecord : (processNetworkEvent host stamp sent cache data podInspect).2
      = some (recordOf host stamp data podInspect) :=
    posted_eq_some_iff.mpr ⟨hnotOwn, hnew, rfl⟩
  have hobs := observation_arrived podInspect stamp hkind hdetail
  refine ⟨_, _, _, hrecord, ofJson_controller_toJson _, ofJson_broker_toJson _, ?_, ?_⟩
  · have hrules : (relevantPort data ≠ 0 → AddsOnly Advisor.processTrafficRules podDetail
          (arrived (recordOf host stamp data podInspect)) (eventEntry host data))
        ∧ (relevantPort data = 0 → AddsNothing Advisor.processTrafficRules podDetail
          (arrived (recordOf host stamp data podInspect))) := by
      constructor
      · intro hport
        exact addsOnly_of_observation fun dir => by simpa [hport] using hobs dir
      · intro hport
        exact addsNothing_of_observation fun dir => by simpa [hport] using hobs dir
    -- the two generators run one function
    intro process hprocess
    rcases List.mem_cons.mp hprocess with rfl | hprocess
    · exact hrules
    · obtain rfl := List.mem_singleton.mp hprocess
      exact hrules
  · intro stamp' sent' cache' data' record' hkind' h'
    rw [hposted _ _ _ _ _ h']
    exact unstamped_recordOf_eq_iff stamp stamp' hkind hkind'

/-- A pod at 10.0.0.5 opens a connection to 10.96.0.10:443. -/
def openedConnection : NetworkEventData := ⟨1, 0x0500000a, 40000, 0x0a00600a, 443, 1⟩

def openingPod : PodInspect := ⟨⟨"web", some "shop", "10.0.0.5"⟩⟩

theorem event_to_rule_opened_connection :
    ∃ record row traffic,
      (processNetworkEvent .little ⟨"u1", 1⟩ (.ok ⟨200⟩) ∅ openedConnection openingPod).2
        = some record
      ∧ Broker.PodTraffic.ofJson record.toJson = some row
      ∧ Advisor.PodTraffic.ofJson row.toJson = some traffic
      ∧ AddsOnly StandardPolicyGenerator.processTrafficRules ⟨"10.0.0.5", "web", "shop", ⟨∅⟩⟩
        traffic (.egress, "10.96.0.10", ⟨some (.fromInt 443), some .tcp⟩) := by
  have hpeer : peer .little openedConnection = "10.96.0.10" := by decide +kernel
  have hdetail : (⟨"10.0.0.5", "web", "shop", ⟨∅⟩⟩ : PodDetail).podIP
      ≠ peer .little openedConnection := by rw [hpeer]; decide
  obtain ⟨record, row, traffic, hrecord, hrow, htraffic, hrules, -⟩ :=
    event_to_rule .little openingPod ∅ ⟨"u1", 1⟩ (.ok ⟨200⟩) (.inl rfl) hdetail hdetail (by simp)
  have hadds := (hrules StandardPolicyGenerator.processTrafficRules (by simp)).1 (by decide)
  rw [eventEntry, hpeer] at hadds
  exact ⟨record, row, traffic, hrecord, hrow, htraffic, hadds⟩

end KubeGuardian.System
