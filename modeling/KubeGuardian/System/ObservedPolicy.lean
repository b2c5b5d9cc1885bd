import KubeGuardian.Advisor.LeastPrivilege
import KubeGuardian.Advisor.PolicyService
import KubeGuardian.System.Deployment

/-!
# Policies of what was observed

A run of all controllers and the broker, and a policy that the advisor makes of the tables that the
run has left. What the policy lets through in a direction that it restricts goes back to events
that some probe emitted, and what was observed and not lost on the way is let through.

* **`admitted_was_observed`** — nothing is admitted but what some node has handled for a pod of the
  name that was asked for;
* **`observed_is_admitted`** — every connection that was handled is admitted, as long as its request
  was not lost, the broker stores what it is given and tells its record from the others, and the
  generators do not leave its record out.
-/

namespace KubeGuardian

open Lib

/-! ## Policies of either kind

Both generators make policies whose meaning is the same in terms of usable records; they differ in
what becomes of the peers' namespaces. So one statement can be made about both.
-/

namespace Advisor

def Policy.Restricts : Policy → Direction → Prop
  | .standard policy, dir => dir ∈ policy.spec.policyTypes
  | .cilium policy, dir => policy.Restricts dir

def Policy.Admits (c : Cluster) : Policy → Direction → Connection → Prop
  | .standard policy, dir, conn => policy.Admits c dir conn
  | .cilium policy, dir, conn => policy.Admits c dir conn

/-- What a policy in the namespace makes of the pods that an address resolves to. -/
def Policy.view (policyNs : String) : Policy → String × LabelMap → String × LabelMap
  | .standard _ => id
  | .cilium _ => ciliumView policyNs

/-- The record stands for the connection. -/
def Justifies (c : Cluster) (env : Lookups) (view : String × LabelMap → String × LabelMap)
    (dir : Direction) (podDetail : PodDetail) (conn : Connection) (traffic : PodTraffic) : Prop :=
  Usable dir podDetail traffic conn.port ∧ protocolPtr traffic.protocol = conn.protocol
    ∧ Reaches c traffic.dstIP ((resolvePod env traffic.dstIP).map view) conn.peer

section GeneratedBy

variable {env : Env} {podName : String} {podTraffic : List PodTraffic} {podDetail : PodDetail}
  {policy : Policy} {dir : Direction}

/-- **What a policy of either generator restricts**: the directions with usable records, or both
where there is none. -/
theorem Policy.GeneratedBy.restricts_iff
    (h : policy.GeneratedBy env podName podTraffic podDetail) :
    policy.Restricts dir
      ↔ HasUsable dir podDetail podTraffic ∨ ∀ dir, ¬ HasUsable dir podDetail podTraffic := by
  cases h with
  | standard h => exact StandardPolicyGenerator.policyTypes_of_generate h dir
  | cilium h => exact CiliumPolicyGenerator.restricts_iff h dir

/-- **What a policy of either generator admits.** -/
theorem Policy.GeneratedBy.admits_iff (h : policy.GeneratedBy env podName podTraffic podDetail)
    (c : Cluster) (conn : Connection) :
    policy.Admits c dir conn
      ↔ (policy.Restricts dir → ∃ traffic ∈ podTraffic,
          Justifies c env.toLookups (policy.view podDetail.podNamespace) dir podDetail conn
            traffic) := by
  rw [h.restricts_iff]
  cases h with
  | standard h => exact StandardPolicyGenerator.admits_iff h c dir conn
  | cilium h => exact CiliumPolicyGenerator.admits_iff h c dir conn

/-- A standard policy is one of the standard generator. -/
theorem Policy.GeneratedBy.generate_standard {policy : NetworkPolicy}
    (h : (Policy.standard policy).GeneratedBy env podName podTraffic podDetail) :
    StandardPolicyGenerator.generate env podName podTraffic (some podDetail) = .ok policy := by
  cases h with
  | standard h => exact h

/-- A Cilium policy is one of the other. -/
theorem Policy.GeneratedBy.generate_cilium {policy : CiliumNetworkPolicy}
    (h : (Policy.cilium policy).GeneratedBy env podName podTraffic podDetail) :
    CiliumPolicyGenerator.generate env podName podTraffic (some podDetail) = .ok policy := by
  cases h with
  | cilium h => exact h

/-- The two directions have different texts. -/
theorem Direction.trafficType_inj {dir dir' : Direction} (h : dir.trafficType = dir'.trafficType) :
    dir = dir' := by
  cases dir <;> cases dir' <;> first | rfl | exact absurd h (by decide)

/-- A record's id and namespace have no part in what it stands for. -/
theorem Justifies.congr {c : Cluster} {env : Lookups}
    {view : String × LabelMap → String × LabelMap} {conn : Connection} {traffic : PodTraffic}
    (h : Justifies c env view dir podDetail conn traffic) (uuid srcNamespace : String) :
    Justifies c env view dir podDetail conn
      { traffic with uuid := uuid, srcNamespace := srcNamespace } := by
  obtain ⟨hu, hprotocol, hreaches⟩ := h
  refine ⟨⟨hu.trafficType, hu.peer_ne_empty, hu.peer_ne_self, ?_⟩, hprotocol, hreaches⟩
  cases dir <;> exact hu.port

end GeneratedBy

end Advisor

namespace System

open Controller Advisor

/-! ## What an event calls for

The chain from an event to a rule, read at the record in the middle: the controller makes a record
of the event, and the record is usable or not.
-/

/-- The event, handled for a pod of the name, is of the connection, and neither the controller nor
a generator leaves it out: the peer is not the pod's own address (`not_own`), it is not the address
of the details that the policy is made for (`peer_ne_self`), the port is not 0, and what the address
resolves to reaches the connection's peer. -/
structure Backs (c : Advisor.Cluster) (env : Lookups)
    (view : String × LabelMap → String × LabelMap) (podName : String) (podDetail : PodDetail)
    (dir : Direction) (conn : Connection) {τ : Type*} (host : Endian) (o : Observation τ) :
    Prop where
  pod : o.podInspect.status.podName = podName
  not_own : ¬ o.Own host
  direction : eventDirection o.data = dir
  port_ne_zero : relevantPort o.data ≠ 0
  port : (relevantPort o.data).toNat = conn.port
  protocol : eventProtocol o.data = conn.protocol
  peer_ne_self : podDetail.podIP ≠ peer host o.data
  reaches : Reaches c (peer host o.data) ((resolvePod env (peer host o.data)).map view) conn.peer

section Events

variable {c : Advisor.Cluster} {env : Lookups} {view : String × LabelMap → String × LabelMap}
  {podName : String} {podDetail : PodDetail} {dir : Direction} {conn : Connection} {τ : Type*}
  {host host' : Endian} {o o' : Observation τ} {stamp stamp' : Stamp}

/-- A port of an event can be read from its text, unless it is 0. -/
theorem parsePort_relevantPort {data : NetworkEventData} {portInt : Int} :
    parsePort (toString (relevantPort data)) = .ok portInt
      ↔ relevantPort data ≠ 0 ∧ ((relevantPort data).toNat : Int) = portInt := by
  have hparse : parsePort (toString (relevantPort data)) = _ :=
    parsePort_toString (Nat.le_of_lt_succ (relevantPort data).toNat_lt)
  have hzero : (relevantPort data).toNat = 0 ↔ relevantPort data = 0 := by
    rw [← UInt16.toNat_inj]; rfl
  rw [hparse]
  by_cases hport : relevantPort data = 0
  · simp [hport]
  · rw [if_neg (mt hzero.mp hport)]
    simp [hport]

/-- **When the record of an event is usable** for a direction: it is of that direction, not about
the address of the details, and its port is not 0. -/
theorem usable_arrived_iff (hkind : KnownKind o.data) {portInt : Int} :
    Usable dir podDetail (arrived (o.record host stamp)) portInt
      ↔ eventDirection o.data = dir ∧ podDetail.podIP ≠ peer host o.data
        ∧ relevantPort o.data ≠ 0 ∧ ((relevantPort o.data).toNat : Int) = portInt := by
  obtain ⟨htype, hport, hpeer, -⟩ := arrived_columns host stamp o.data o.podInspect hkind
  rw [← parsePort_relevantPort, ← hport, ← hpeer]
  constructor
  · intro hu
    obtain rfl := Direction.trafficType_inj (htype.symm.trans hu.trafficType)
    exact ⟨rfl, hu.peer_ne_self.symm, hu.port⟩
  · rintro ⟨rfl, hself, hparse⟩
    exact ⟨htype, hpeer ▸ peer_ne_empty host o.data, hself.symm, hparse⟩

/-- The record has the event's peer and protocol. -/
theorem peer_arrived (host : Endian) (stamp : Stamp) (hkind : KnownKind o.data) :
    (arrived (o.record host stamp)).dstIP = peer host o.data
      ∧ protocolPtr (arrived (o.record host stamp)).protocol = eventProtocol o.data :=
  (arrived_columns host stamp o.data o.podInspect hkind).2.2

/-- **The record of an event stands for the connections that the event calls for.** -/
theorem justifies_arrived_iff (hkind : KnownKind o.data) :
    Justifies c env view dir podDetail conn (arrived (o.record host stamp))
      ↔ (eventDirection o.data = dir ∧ podDetail.podIP ≠ peer host o.data
          ∧ relevantPort o.data ≠ 0 ∧ ((relevantPort o.data).toNat : Int) = conn.port)
        ∧ eventProtocol o.data = conn.protocol
        ∧ Reaches c (peer host o.data) ((resolvePod env (peer host o.data)).map view)
          conn.peer := by
  obtain ⟨hpeer, hprotocol⟩ := peer_arrived host stamp hkind
  rw [Justifies, usable_arrived_iff hkind, hpeer, hprotocol]

/-- Records of one key differ in what does not count. -/
theorem arrived_of_key_eq (stamp stamp' : Stamp) (h : o'.key host' = o.key host) :
    arrived (o'.record host' stamp')
      = { arrived (o.record host stamp) with
          uuid := stamp'.uuid
          srcNamespace := o'.podInspect.status.podNamespace.getD "" } := by
  simp only [Observation.key, keyOf, recordOf, Controller.PodTraffic.key, Option.getD_some,
    TrafficKey.mk.injEq] at h
  obtain ⟨hname, hip, hpodPort, hpeer, hport, htype, hprotocol⟩ := h
  simp only [arrived, Observation.record, recordOf, Controller.PodTraffic.row,
    World.decodeTraffic, Option.getD_some, hname, hip, hpodPort, hpeer, hport, htype, hprotocol]

end Events

/-! ## Both directions

The policy is made of the table, and the table of what was delivered. `Deployment.rows_sound` gives
the one direction and `Deployment.rows_complete` the other.
-/

section Policies

variable {κ τ : Type*} [DecidableEq κ] {cfg : κ → NodeConfig}
  {inputs : List (DeploymentInput κ τ)} {w : World} {podName : String}
  {defaultType policyType : PolicyType} {output : PolicyOutput}

/-- The details that the advisor found for the policy. -/
def DetailsOf (w : World) (podName : String) (output : PolicyOutput) (podDetail : PodDetail) :
    Prop :=
  output.podName = podDetail.name ∧ ∃ first rest podTraffic,
    w.getRealPodTraffic podName = .ok podTraffic ∧ podTraffic = first :: rest
    ∧ w.getRealPodSpec (lookupIP first) = .ok (some podDetail)
    ∧ output.policy.GeneratedBy w.env podName podTraffic podDetail

/-- Whatever is returned was made from some details. -/
theorem exists_detailsOf
    (h : (createPolicyService defaultType).generatePolicy w podName policyType = .ok output) :
    ∃ podDetail, DetailsOf w podName output podDetail := by
  obtain ⟨first, rest, podDetail, htraffic, -, hspec, hname, hgenerated⟩ := generatePolicy_inv h
  exact ⟨podDetail, hname, first, rest, _, htraffic, rfl, hspec, hgenerated⟩

/-- No pod of the name was seen at another address. -/
def OneAddress (cfg : κ → NodeConfig) (inputs : List (DeploymentInput κ τ))
    (podName podIp : String) : Prop :=
  ∀ k o, Occurs (Deployment.step cfg) (Deployment.Observes k o) Deployment.start inputs →
    o.podInspect.status.podName = podName → o.podInspect.status.podIp = podIp

/-- The details of a pod that was seen at one address are looked up there. -/
theorem getRealPodSpec_of_detailsOf
    (hdb : w.db = (run (Deployment.step cfg) Deployment.start inputs).db) {podIp : String}
    (haddress : OneAddress cfg inputs podName podIp) (hne : podIp ≠ "") {podDetail : PodDetail}
    (h : DetailsOf w podName output podDetail) :
    w.getRealPodSpec podIp = .ok (some podDetail) := by
  obtain ⟨-, first, rest, podTraffic, htraffic, rfl, hspec, -⟩ := h
  obtain ⟨row, hrow, hname, rfl⟩ :=
    ((World.getRealPodTraffic_eq_ok htraffic).2.2 first).mp (List.mem_cons_self ..)
  rw [hdb] at hrow
  obtain ⟨k, o, stamp, rfl, -, hdelivers, -⟩ := Deployment.rows_sound cfg inputs row hrow
  have hip : o.podInspect.status.podIp = podIp :=
    haddress k o (Deployment.observes_of_delivers hdelivers) (Option.some.inj hname)
  have hlookup : lookupIP (arrived (o.record (cfg k).endian stamp)) = podIp := by
    have hsrc : (arrived (o.record (cfg k).endian stamp)).srcIP = podIp := hip
    rw [lookupIP, hsrc, if_pos hne]
  exact hlookup ▸ hspec

/-- A record that stands for a connection is the record of an event of the connection, which a node
has handled for a pod of the name, and whose request was not lost. -/
theorem exists_backs_of_justifies
    (hdb : w.db = (run (Deployment.step cfg) Deployment.start inputs).db)
    {podTraffic : List Advisor.PodTraffic} (htraffic : w.getRealPodTraffic podName = .ok podTraffic)
    {c : Advisor.Cluster} {env : Lookups} {view : String × LabelMap → String × LabelMap}
    {dir : Direction} {podDetail : PodDetail} {conn : Connection} {traffic : Advisor.PodTraffic}
    (hmem : traffic ∈ podTraffic) (h : Justifies c env view dir podDetail conn traffic) :
    ∃ k o,
      Occurs (Deployment.step cfg) (Deployment.Emits cfg k o.tag o.data) Deployment.start inputs
      ∧ Occurs (Deployment.step cfg) (Deployment.Registers cfg k o.data.inum o.podInspect)
        Deployment.start inputs
      ∧ Occurs (Deployment.step cfg) (Deployment.Delivers cfg k o) Deployment.start inputs
      ∧ Backs c env view podName podDetail dir conn (cfg k).endian o := by
  obtain ⟨row, hrow, hname, rfl⟩ := ((World.getRealPodTraffic_eq_ok htraffic).2.2 traffic).mp hmem
  rw [hdb] at hrow
  obtain ⟨k, o, stamp, rfl, hown, hdelivers, hemits, hregisters⟩ :=
    Deployment.rows_sound cfg inputs row hrow
  have hobserves := Deployment.observes_of_delivers hdelivers
  obtain ⟨⟨hdir, hself, hport0, hport⟩, hprotocol, hreaches⟩ :=
    (justifies_arrived_iff (Deployment.knownKind_of_observes hobserves)).mp h
  exact ⟨k, o, hemits, hregisters, hdelivers,
    { pod := Option.some.inj hname
      not_own := hown
      direction := hdir
      port_ne_zero := hport0
      port := hport
      protocol := hprotocol
      peer_ne_self := hself
      reaches := hreaches }⟩

/-- An event of a connection that was handled, and whose request was not lost, has left a record
that stands for the connection. -/
theorem exists_justifies_of_backs
    (hok : Meets (Deployment.step cfg) (fun d i => Deployment.Accepts cfg d i) Deployment.start
      inputs)
    (hdb : w.db = (run (Deployment.step cfg) Deployment.start inputs).db)
    {podTraffic : List Advisor.PodTraffic} (htraffic : w.getRealPodTraffic podName = .ok podTraffic)
    {k : κ} {o : Observation τ}
    (hdelivers : Occurs (Deployment.step cfg) (Deployment.Delivers cfg k o) Deployment.start inputs)
    (htcp : o.data.kind ≠ 3) (hdistinct : Deployment.Distinct cfg inputs k o)
    {c : Advisor.Cluster} {env : Lookups} {view : String × LabelMap → String × LabelMap}
    {dir : Direction} {podDetail : PodDetail} {conn : Connection}
    (h : Backs c env view podName podDetail dir conn (cfg k).endian o) :
    ∃ traffic ∈ podTraffic, Justifies c env view dir podDetail conn traffic := by
  obtain ⟨row, hrow, k', o', stamp, rfl, hkey⟩ :=
    Deployment.rows_complete hok hdelivers h.not_own htcp hdistinct
  have hname : o'.podInspect.status.podName = podName :=
    (congrArg TrafficKey.podName hkey).trans h.pod
  refine ⟨arrived (o'.record (cfg k').endian stamp),
    ((World.getRealPodTraffic_eq_ok htraffic).2.2 _).mpr ⟨_, hdb ▸ hrow, congrArg some hname, rfl⟩,
    ?_⟩
  -- its own record stands for the connection, and so does one of the same key
  rw [arrived_of_key_eq ⟨"", 0⟩ stamp hkey]
  refine Justifies.congr ((justifies_arrived_iff ?_).mpr ?_) _ _
  · exact Deployment.knownKind_of_observes (Deployment.observes_of_delivers hdelivers)
  · exact ⟨⟨h.direction, h.peer_ne_self, h.port_ne_zero, h.port⟩, h.protocol, h.reaches⟩

/-- **What is admitted was observed**: in a direction that the policy restricts, an event of the
connection was emitted by a probe on some node, and handled there, with a request that was not lost,
for a registered pod of the name that the policy was asked for. The name of the policy itself is
that of the details, which need not be the same. -/
theorem admitted_was_observed
    (hdb : w.db = (run (Deployment.step cfg) Deployment.start inputs).db)
    (h : (createPolicyService defaultType).generatePolicy w podName policyType = .ok output) :
    ∃ podDetail, DetailsOf w podName output podDetail ∧ ∀ c dir conn, output.policy.Restricts dir →
      output.policy.Admits c dir conn → ∃ k o,
        Occurs (Deployment.step cfg) (Deployment.Emits cfg k o.tag o.data) Deployment.start inputs
        ∧ Occurs (Deployment.step cfg) (Deployment.Registers cfg k o.data.inum o.podInspect)
          Deployment.start inputs
        ∧ Occurs (Deployment.step cfg) (Deployment.Delivers cfg k o) Deployment.start inputs
        ∧ Backs c w.env.toLookups (output.policy.view podDetail.podNamespace) podName podDetail dir
          conn (cfg k).endian o := by
  obtain ⟨podDetail, hdetails⟩ := exists_detailsOf h
  refine ⟨podDetail, hdetails, fun c dir conn hrestricts hadmits => ?_⟩
  obtain ⟨-, first, rest, podTraffic, htraffic, -, -, hgenerated⟩ := hdetails
  obtain ⟨traffic, hmem, hjustifies⟩ := (hgenerated.admits_iff c conn).mp hadmits hrestricts
  exact exists_backs_of_justifies hdb htraffic hmem hjustifies

/-- **What was observed is admitted**: a TCP connection of which an event was handled and its
request not lost. The broker stores what it is given and has no reason to take the record for
another's, as no other pod was seen at the address, nor a datagram from there to where a connection
was opened (`Distinct`); and the record is none that is left out on the way (`Backs`). -/
theorem observed_is_admitted
    (hok : Meets (Deployment.step cfg) (fun d i => Deployment.Accepts cfg d i) Deployment.start
      inputs)
    (hdb : w.db = (run (Deployment.step cfg) Deployment.start inputs).db)
    (h : (createPolicyService defaultType).generatePolicy w podName policyType = .ok output) :
    ∃ podDetail, DetailsOf w podName output podDetail ∧ ∀ k o,
      Occurs (Deployment.step cfg) (Deployment.Delivers cfg k o) Deployment.start inputs →
      o.data.kind ≠ 3 → Deployment.Distinct cfg inputs k o →
      ∀ c dir conn, Backs c w.env.toLookups (output.policy.view podDetail.podNamespace) podName
          podDetail dir conn (cfg k).endian o →
        output.policy.Admits c dir conn := by
  obtain ⟨podDetail, hdetails⟩ := exists_detailsOf h
  refine ⟨podDetail, hdetails, fun k o hdelivers htcp hdistinct c dir conn hbacks => ?_⟩
  obtain ⟨-, first, rest, podTraffic, htraffic, -, -, hgenerated⟩ := hdetails
  exact (hgenerated.admits_iff c conn).mpr fun _ =>
    exists_justifies_of_backs hok hdb htraffic hdelivers htcp hdistinct hbacks

end Policies

/-! ## The policy of one connection

The run of `Deployment.oneConnection`, with the policy that is made afterwards.
-/

section OneConnection

open Deployment

/-- What a run on the one node of the shop has left, with `app=web` for the labels of every pod. -/
def shopWorldAfter (inputs : List (DeploymentInput Unit Unit)) (row : Broker.PodTraffic) : World :=
  World.picking (run (Deployment.step fun _ => shopConfig) start inputs).db
    (fun _ => .ok ⟨(∅ : LabelMap).insert "app" "web"⟩) row shopDetail

/-- A policy is returned for `web` after a run that has left its details and a row of it. -/
theorem exists_shopOutput {inputs : List (DeploymentInput Unit Unit)} {row : Broker.PodTraffic}
    (hrow : row ∈ (run (Deployment.step fun _ => shopConfig) start inputs).db.podTraffic)
    (hdetail : shopDetail ∈ (run (Deployment.step fun _ => shopConfig) start inputs).db.podDetails)
    (hname : row.podName = some "web") (hip : row.podIp = some "10.0.0.5") :
    (∃ rest, (shopWorldAfter inputs row).getRealPodTraffic "web"
        = .ok (World.decodeTraffic row :: rest))
      ∧ (shopWorldAfter inputs row).getRealPodSpec (lookupIP (World.decodeTraffic row))
        = .ok (some ⟨"10.0.0.5", "web", "shop", ⟨(∅ : LabelMap).insert "app" "web"⟩⟩)
      ∧ ∃ policy output, output.policy = .standard policy
        ∧ (createPolicyService standardPolicy).generatePolicy (shopWorldAfter inputs row) "web"
          standardPolicy = .ok output := by
  have hlookup : lookupIP (World.decodeTraffic row) = "10.0.0.5" := by
    simp [lookupIP, World.decodeTraffic, hip]
  have htraffic : ∃ rest, (shopWorldAfter inputs row).getRealPodTraffic "web"
      = .ok (World.decodeTraffic row :: rest) :=
    World.getRealPodTraffic_picking hrow hname (by decide)
  have hspec : (shopWorldAfter inputs row).getRealPodSpec (lookupIP (World.decodeTraffic row))
      = .ok (some ⟨"10.0.0.5", "web", "shop", ⟨(∅ : LabelMap).insert "app" "web"⟩⟩) := by
    rw [hlookup]
    exact World.getRealPodSpec_picking hdetail rfl (by decide) rfl
  refine ⟨htraffic, hspec, ?_⟩
  obtain ⟨rest, htraffic⟩ := htraffic
  obtain ⟨policy, output, -, houtput, hpolicy, -⟩ := exists_standard_output htraffic
    (by rw [hlookup]; decide) hspec (fun _ => rfl)
  exact ⟨policy, output, hpolicy, houtput⟩

def shopRow : Broker.PodTraffic := (shopObservation.record .little ⟨"u1", 1⟩).row

def shopWorld : World := shopWorldAfter oneConnection shopRow

/-- The broker knows `web` and its record. -/
theorem shopWorld_answers :
    (∃ rest, shopWorld.getRealPodTraffic "web" = .ok (World.decodeTraffic shopRow :: rest))
      ∧ shopWorld.getRealPodSpec (lookupIP (World.decodeTraffic shopRow))
        = .ok (some ⟨"10.0.0.5", "web", "shop", ⟨(∅ : LabelMap).insert "app" "web"⟩⟩)
      ∧ ∃ policy output, output.policy = .standard policy
        ∧ (createPolicyService standardPolicy).generatePolicy shopWorld "web" standardPolicy
          = .ok output :=
  exists_shopOutput (by decide +kernel) (by decide +kernel) rfl rfl

/-- What is found for `web` are its own details. -/
theorem podIP_of_detailsOf_shopWorld {output : PolicyOutput} {podDetail : PodDetail}
    (h : DetailsOf shopWorld "web" output podDetail) : podDetail.podIP = "10.0.0.5" := by
  obtain ⟨⟨rest, htraffic⟩, hspec, -⟩ := shopWorld_answers
  obtain ⟨-, first, rest', podTraffic, htraffic', rfl, hspec', -⟩ := h
  obtain ⟨rfl, -⟩ := List.cons.inj (Except.ok.inj (htraffic'.symm.trans htraffic))
  rw [hspec] at hspec'
  rw [← Option.some.inj (Except.ok.inj hspec')]

def shopConnection : Connection := ⟨.address "10.0.0.9", 443, .tcp⟩

/-- It knows nobody at the peer's address. -/
theorem resolvePod_shopWorld : resolvePod shopWorld.env.toLookups "10.0.0.9" = none := by
  decide +kernel

/-- So the peer is that address. -/
theorem reaches_shopConnection (view : String × LabelMap → String × LabelMap) :
    Reaches namedCluster "10.0.0.9"
      ((resolvePod shopWorld.env.toLookups "10.0.0.9").map view) shopConnection.peer := by
  rw [resolvePod_shopWorld]
  exact rfl

/-- The policy is for egress, and has the connection. -/
theorem admits_shopConnection {output : PolicyOutput} {podDetail : PodDetail}
    (h : DetailsOf shopWorld "web" output podDetail) :
    output.policy.Restricts .egress
      ∧ output.policy.Admits namedCluster .egress shopConnection := by
  have hip := podIP_of_detailsOf_shopWorld h
  obtain ⟨⟨rest, htraffic⟩, -⟩ := shopWorld_answers
  obtain ⟨-, first, rest', podTraffic, htraffic', -, -, hgenerated⟩ := h
  obtain rfl := Except.ok.inj (htraffic'.symm.trans htraffic)
  have husable : Usable .egress podDetail (World.decodeTraffic shopRow) 443 :=
    ⟨by decide, by decide +kernel, by rw [hip]; decide +kernel, by decide +kernel⟩
  refine ⟨hgenerated.restricts_iff.mpr (.inl ⟨_, by simp, 443, husable⟩), ?_⟩
  have hpeer : (World.decodeTraffic shopRow).dstIP = "10.0.0.9" := by decide +kernel
  refine (hgenerated.admits_iff _ _).mpr fun _ => ⟨_, by simp, husable, by decide, ?_⟩
  rw [hpeer]
  exact reaches_shopConnection _

/-- What the policy of `web` admits is the connection that was handled. -/
theorem admitted_was_observed_one_connection : ∃ (k : Unit) (o : Observation Unit),
    Occurs (Deployment.step fun _ => shopConfig) (Emits (fun _ => shopConfig) k o.tag o.data) start
        oneConnection
      ∧ Occurs (Deployment.step fun _ => shopConfig) (Delivers (fun _ => shopConfig) k o) start
        oneConnection
      ∧ o.podInspect.status.podName = "web" ∧ (relevantPort o.data).toNat = 443 := by
  obtain ⟨-, -, policy, output, -, houtput⟩ := shopWorld_answers
  have hdb : shopWorld.db
      = (run (Deployment.step fun _ => shopConfig) start oneConnection).db := rfl
  obtain ⟨podDetail, hdetails, hobserved⟩ := admitted_was_observed hdb houtput
  obtain ⟨hrestricts, hadmits⟩ := admits_shopConnection hdetails
  obtain ⟨k, o, hemits, -, hdelivers, hbacks⟩ := hobserved _ _ _ hrestricts hadmits
  exact ⟨k, o, hemits, hdelivers, hbacks.pod, Int.ofNat.inj hbacks.port⟩

/-- It is admitted although the controller has not heard of its record. -/
theorem observed_is_admitted_one_connection : ∃ output,
    (createPolicyService standardPolicy).generatePolicy shopWorld "web" standardPolicy = .ok output
      ∧ output.policy.Admits namedCluster .egress shopConnection := by
  obtain ⟨-, -, policy, output, -, houtput⟩ := shopWorld_answers
  obtain ⟨podDetail, hdetails, hadmitted⟩ :=
    observed_is_admitted accepts_oneConnection rfl houtput
  have hip := podIP_of_detailsOf_shopWorld hdetails
  have hpeer : peer .little shopObservation.data = "10.0.0.9" := by decide +kernel
  refine ⟨output, houtput, hadmitted () shopObservation delivers_oneConnection (by decide)
    distinct_oneConnection _ _ _ ?_⟩
  exact
    { pod := rfl
      not_own := by decide +kernel
      direction := by decide
      port_ne_zero := by decide
      port := by decide
      protocol := by decide
      peer_ne_self := by
        rw [hip]
        exact fun h => absurd (h.trans hpeer) (by decide)
      reaches := by
        show Reaches _ (peer .little shopObservation.data) _ _
        rw [hpeer]
        exact reaches_shopConnection _ }

end OneConnection

end System

end KubeGuardian
