import KubeGuardian.Advisor.PolicySets
import KubeGuardian.System.ObservedPolicy

/-!
# Connections between two monitored pods

A connection from one pod to another is seen twice: where it is opened, and where it is accepted.
With the policies of both pods installed it has to be let out of the one and into the other, and
the two policies are made of different records, possibly of controllers on different nodes.

* **`flow_admitted`** — a connection that was handled at both ends is admitted at both, beside
  whatever other policies, as long as the broker tells its two records from others and both pods
  have kept their addresses.
-/

namespace KubeGuardian.System

open Controller Advisor Lib

/-! ## Ends of a connection -/

/-- An event, and the node that it was seen on. -/
structure Endpoint (κ τ : Type*) where
  node : κ
  event : Observation τ

namespace Endpoint

variable {κ τ : Type*}

def name (e : Endpoint κ τ) : String := e.event.podInspect.status.podName

def ip (e : Endpoint κ τ) : String := e.event.podInspect.status.podIp

/-- The event was handled and has arrived; its record is told from others, and its pod was seen at
no other address. -/
structure Handled [DecidableEq κ] (cfg : κ → NodeConfig) (inputs : List (DeploymentInput κ τ))
    (e : Endpoint κ τ) : Prop where
  delivered : Occurs (Deployment.step cfg) (Deployment.Delivers cfg e.node e.event)
    Deployment.start inputs
  distinct : Deployment.Distinct cfg inputs e.node e.event
  address : OneAddress cfg inputs e.name e.ip

/-- The client has opened a connection to the server, and the server has accepted it. -/
structure Connects (cfg : κ → NodeConfig) (client server : Endpoint κ τ) : Prop where
  opened : client.event.data.kind = 1
  accepted : server.event.data.kind = 2
  toServer : peer (cfg client.node).endian client.event.data = server.ip
  toClient : peer (cfg server.node).endian server.event.data = client.ip
  port : server.event.data.sport = client.event.data.dport
  port_ne_zero : client.event.data.dport ≠ 0
  apart : client.ip ≠ server.ip

end Endpoint

/-! ## Policies of the ends -/

section Ends

variable {κ τ : Type*} [DecidableEq κ] {cfg : κ → NodeConfig}
  {inputs : List (DeploymentInput κ τ)} {w : World}

/-- The policy was returned for the end's pod, which has labels and whose address is no Service's
with a selector. -/
structure PolicyFor (w : World) (e : Endpoint κ τ) (policy : NetworkPolicy)
    (podDetail : PodDetail) : Prop where
  generated : ∃ defaultType policyType output,
    (createPolicyService defaultType).generatePolicy w e.name policyType = .ok output
      ∧ output.policy = .standard policy ∧ DetailsOf w e.name output podDetail
  labelled : podDetail.pod.labels.entries ≠ []
  no_service : selectedBy w.env.toLookups e.ip = none

variable {e e' : Endpoint κ τ} {policy : NetworkPolicy} {podDetail podDetail' : PodDetail}

theorem PolicyFor.getRealPodSpec (h : PolicyFor w e policy podDetail)
    (hdb : w.db = (run (Deployment.step cfg) Deployment.start inputs).db)
    (hhandled : e.Handled cfg inputs) (hne : e.ip ≠ "") :
    w.getRealPodSpec e.ip = .ok (some podDetail) := by
  obtain ⟨_, _, output, -, -, hdetails⟩ := h.generated
  exact getRealPodSpec_of_detailsOf hdb hhandled.address hne hdetails

/-- The end's address stands for its pod. -/
theorem PolicyFor.resolvePod (h : PolicyFor w e policy podDetail)
    (hdb : w.db = (run (Deployment.step cfg) Deployment.start inputs).db)
    (hhandled : e.Handled cfg inputs) (hne : e.ip ≠ "") :
    resolvePod w.env.toLookups e.ip = some (podDetail.podNamespace, podDetail.pod.labels) := by
  have hspec : w.env.toLookups.getPodSpec e.ip = .ok (some podDetail) :=
    h.getRealPodSpec hdb hhandled hne
  have hlabelled : labelledPod w.env.toLookups e.ip
      = some (podDetail.podNamespace, podDetail.pod.labels) := by
    rw [labelledPod, hspec]
    exact if_pos (List.length_pos_iff.mpr h.labelled)
  rw [Advisor.resolvePod, h.no_service, hlabelled, Option.none_or]

/-- **What one end's policy does for the connection**, beside any other policies. -/
theorem PolicyFor.admitted (h : PolicyFor w e policy podDetail)
    (hok : Meets (Deployment.step cfg) (fun d i => Deployment.Accepts cfg d i) Deployment.start
      inputs)
    (hdb : w.db = (run (Deployment.step cfg) Deployment.start inputs).db)
    (hhandled : e.Handled cfg inputs) {dir : Direction} (hdir : eventDirection e.event.data = dir)
    (htcp : e.event.data.kind ≠ 3) (hport : relevantPort e.event.data ≠ 0)
    (hpeer : peer (cfg e.node).endian e.event.data = e'.ip) (happart : e.ip ≠ e'.ip)
    (hne : e.ip ≠ "")
    (hresolve : Advisor.resolvePod w.env.toLookups e'.ip
      = some (podDetail'.podNamespace, podDetail'.pod.labels))
    (c : Advisor.Cluster) {policies : List NetworkPolicy} (hmem : policy ∈ policies)
    {labels labels' : LabelMap} (hlabels : podDetail.pod.labels.Sub labels)
    (hlabels' : podDetail'.pod.labels.Sub labels') :
    Admitted c policies podDetail.podNamespace labels dir
      ⟨.pod podDetail'.podNamespace labels', (relevantPort e.event.data).toNat, .tcp⟩ := by
  have hspec := h.getRealPodSpec hdb hhandled hne
  obtain ⟨_, _, output, -, hpolicy, -, first, rest, podTraffic, htraffic, -, -, hgenerated⟩ :=
    h.generated
  obtain ⟨-, -, -, hip, -⟩ := World.getRealPodSpec_eq_some hspec
  rw [hpolicy] at hgenerated
  -- the connection is backed by the event, and so by a row of the pod
  have hbacks : Backs c w.env.toLookups id e.name podDetail dir
      ⟨.pod podDetail'.podNamespace labels', (relevantPort e.event.data).toNat, .tcp⟩
      (cfg e.node).endian e.event :=
    { pod := rfl
      not_own := by
        show ¬ e.ip = ipv4String (fromBe (cfg e.node).endian e.event.data.daddr)
        rw [ipv4String_fromBe]
        exact fun hown => happart (hown.trans hpeer)
      direction := hdir
      port_ne_zero := hport
      port := rfl
      protocol := if_neg htcp
      peer_ne_self := by
        rw [hip, hpeer]
        exact happart
      reaches := by
        rw [hpeer, hresolve]
        exact ⟨rfl, hlabels'⟩ }
  obtain ⟨traffic, htmem, hjustifies⟩ := exists_justifies_of_backs hok hdb htraffic
    hhandled.delivered htcp hhandled.distinct hbacks
  exact admitted_of_recorded ⟨_, _, _, _, hgenerated.generate_standard⟩ hmem ⟨rfl, hlabels⟩
    ⟨traffic, htmem, hjustifies⟩

/-- **No connection between two monitored pods is cut**: it is let out of the client and into the
server, whatever is installed beside the policies of the two. Both ends were handled, no record of
either can be taken for another's (`Handled.distinct`: no pod of another name at the address, no
datagram from the client to the server's port), and neither pod was seen at a second address
(`Handled.address`). -/
theorem flow_admitted
    (hok : Meets (Deployment.step cfg) (fun d i => Deployment.Accepts cfg d i) Deployment.start
      inputs)
    (hdb : w.db = (run (Deployment.step cfg) Deployment.start inputs).db)
    {client server : Endpoint κ τ} (hclient : client.Handled cfg inputs)
    (hserver : server.Handled cfg inputs) (hconnects : client.Connects cfg server)
    {policy policy' : NetworkPolicy} {podDetail podDetail' : PodDetail}
    (hpolicy : PolicyFor w client policy podDetail)
    (hpolicy' : PolicyFor w server policy' podDetail') (c : Advisor.Cluster)
    {policies : List NetworkPolicy} (hmem : policy ∈ policies) (hmem' : policy' ∈ policies)
    {labels labels' : LabelMap} (hlabels : podDetail.pod.labels.Sub labels)
    (hlabels' : podDetail'.pod.labels.Sub labels') :
    Admitted c policies podDetail.podNamespace labels .egress
        ⟨.pod podDetail'.podNamespace labels', client.event.data.dport.toNat, .tcp⟩
      ∧ Admitted c policies podDetail'.podNamespace labels' .ingress
        ⟨.pod podDetail.podNamespace labels, client.event.data.dport.toNat, .tcp⟩ := by
  have hne : client.ip ≠ "" := hconnects.toClient ▸ peer_ne_empty _ _
  have hne' : server.ip ≠ "" := hconnects.toServer ▸ peer_ne_empty _ _
  -- both ends report the port of the server
  have hport : relevantPort client.event.data = client.event.data.dport := by
    rw [relevantPort, if_neg (by rw [hconnects.opened]; decide)]
  have hport' : relevantPort server.event.data = client.event.data.dport := by
    rw [relevantPort, if_pos hconnects.accepted, hconnects.port]
  constructor
  · rw [← hport]
    exact hpolicy.admitted hok hdb hclient
      (if_neg (by rw [hconnects.opened]; decide)) (by rw [hconnects.opened]; decide)
      (hport ▸ hconnects.port_ne_zero) hconnects.toServer hconnects.apart hne
      (hpolicy'.resolvePod hdb hserver hne') c hmem hlabels hlabels'
  · rw [← hport']
    exact hpolicy'.admitted hok hdb hserver
      (if_pos hconnects.accepted) (by rw [hconnects.accepted]; decide)
      (hport' ▸ hconnects.port_ne_zero) hconnects.toClient hconnects.apart.symm hne'
      (hpolicy.resolvePod hdb hclient hne) c hmem' hlabels' hlabels

end Ends

/-! ## One connection between two nodes -/

section TwoEnds

open Deployment

def apiPod : PodObject where
  name := "api"
  ns := some "data"
  ownerReferences := some ["ReplicaSet"]
  status := ⟨some "10.0.0.9", none, some [some "containerd://b1"]⟩

def apiDetail : Broker.PodDetail := ⟨"api", "10.0.0.9", some "data", some "app=api", 0⟩

/-- What is accepted at 10.0.0.9 when 10.0.0.5 connects to port 443. -/
def apiSock : Sock := ⟨7, 0x0900000a, 0x0500000a, 443, 0x409c⟩

/-- The pod `web` connects to the pod `api` on the other node. -/
def twoEnds : List (DeploymentInput Bool Unit) :=
  [.node false (.apply shopPod fun _ => some 6) (.lost ""), .other .stored (.podSpec shopDetail),
    .node false .watch (.lost ""), .node false .watch (.lost ""), .node false .watch (.lost ""),
    .node false .receiveInode (.lost ""), .node false .updateSyscall (.lost ""),
    .node true (.apply apiPod fun _ => some 7) (.lost ""), .other .stored (.podSpec apiDetail),
    .node true .watch (.lost ""), .node true .watch (.lost ""), .node true .watch (.lost ""),
    .node true .receiveInode (.lost ""), .node true .updateSyscall (.lost ""),
    .node true (.network () (fun _ => apiSock) (.acceptEntry 2 1)) (.lost ""),
    .node false (.network () (fun _ => shopSock) (.connectEntry 1 1)) (.lost ""),
    .node false (.network () (fun _ => shopSock) (.connectExit 1 0)) (.lost ""),
    .node true (.network () (fun _ => apiSock) (.acceptExit 2 1)) (.lost ""),
    .node true (.handleNetwork 0 ⟨"u1", 1⟩ (.error "")) (.answered .stored),
    .node false (.handleNetwork 0 ⟨"u2", 2⟩ (.error "")) (.answered .stored)]

def webEnd : Endpoint Bool Unit := ⟨false, shopObservation⟩

def apiEnd : Endpoint Bool Unit :=
  ⟨true, (), ⟨7, 0x0900000a, 443, 0x0500000a, 40000, 2⟩, ⟨⟨"api", some "data", "10.0.0.9"⟩⟩⟩

theorem observes_twoEnds :
    ((run (Deployment.step fun _ => shopConfig) start (twoEnds.take 18)).nodes true).observes
        (.handleNetwork 0 ⟨"u1", 1⟩ (.error "")) = some (apiEnd.event, ⟨"u1", 1⟩)
      ∧ ((run (Deployment.step fun _ => shopConfig) start (twoEnds.take 19)).nodes false).observes
        (.handleNetwork 0 ⟨"u2", 2⟩ (.error "")) = some (webEnd.event, ⟨"u2", 2⟩) := by
  exact ⟨rfl, rfl⟩

def decodeLabel (text : String) : Except ApiError Pod :=
  .ok ⟨(∅ : LabelMap).insert "app" (if text = "app=web" then "web" else "api")⟩

def twoEndsRow (e : Endpoint Bool Unit) (stamp : Stamp) : Broker.PodTraffic :=
  (e.event.record .little stamp).row

/-- Nothing else is handled. -/
theorem eq_of_observes_twoEnds {k : Bool} {o : Observation Unit}
    (h : Occurs (Deployment.step fun _ => shopConfig) (Observes k o) start twoEnds) :
    (k = true ∧ o = apiEnd.event) ∨ (k = false ∧ o = webEnd.event) := by
  have hsplit : twoEnds = (twoEnds.take 18 ++ [_]) ++ [_] := rfl
  rw [hsplit, occurs_snoc, occurs_snoc] at h
  rcases h with (h | ⟨rfl, stamp, h⟩) | ⟨rfl, stamp, h⟩
  · simp [twoEnds, Occurs, Observes, Node.observes] at h
  · rw [observes_twoEnds.1] at h
    cases h
    exact .inl ⟨rfl, rfl⟩
  · have hobserves := observes_twoEnds.2.symm.trans h
    cases hobserves
    exact .inr ⟨rfl, rfl⟩

theorem delivers_twoEnds :
    Occurs (Deployment.step fun _ => shopConfig) (Delivers (fun _ => shopConfig) true apiEnd.event)
        start twoEnds
      ∧ Occurs (Deployment.step fun _ => shopConfig)
        (Delivers (fun _ => shopConfig) false webEnd.event) start twoEnds := by
  have hsplit : twoEnds = (twoEnds.take 18 ++ [_]) ++ [_] := rfl
  rw [hsplit]
  constructor
  · refine Occurs.append (occurs_snoc.mpr (.inr ⟨rfl, ⟨_, observes_twoEnds.1⟩, ?_⟩)) _
    exact fun _ err h => by cases h
  · refine occurs_snoc.mpr (.inr ⟨rfl, ⟨_, observes_twoEnds.2⟩, ?_⟩)
    exact fun _ err h => by cases h

theorem handled_of_twoEnds {e : Endpoint Bool Unit} (he : e = apiEnd ∨ e = webEnd) :
    e.Handled (fun _ => shopConfig) twoEnds where
  delivered := by
    rcases he with rfl | rfl
    · exact delivers_twoEnds.1
    · exact delivers_twoEnds.2
  distinct :=
    { pod := fun k' o' h hip => by
        rcases he with rfl | rfl <;> rcases eq_of_observes_twoEnds h with ⟨-, rfl⟩ | ⟨-, rfl⟩ <;>
          first | rfl | exact absurd hip (by decide)
      datagram := fun k' o' h _ hkind => by
        rcases eq_of_observes_twoEnds h with ⟨-, rfl⟩ | ⟨-, rfl⟩ <;>
          exact absurd hkind (by decide) }
  address := fun k' o' h hname => by
    rcases he with rfl | rfl <;> rcases eq_of_observes_twoEnds h with ⟨-, rfl⟩ | ⟨-, rfl⟩ <;>
      first | rfl | exact absurd hname (by decide)

theorem connects_twoEnds : webEnd.Connects (fun _ => shopConfig) apiEnd where
  opened := rfl
  accepted := rfl
  toServer := by decide +kernel
  toClient := by decide +kernel
  port := rfl
  port_ne_zero := by decide
  apart := by decide

def twoEndsWorld : World :=
  World.picking (run (Deployment.step fun _ => shopConfig) start twoEnds).db decodeLabel
    (twoEndsRow webEnd ⟨"u2", 2⟩) shopDetail

/-- A policy is returned for either end. -/
theorem exists_policyFor {e : Endpoint Bool Unit} {stamp : Stamp} {podDetail : PodDetail}
    (htraffic : ∃ rest, twoEndsWorld.getRealPodTraffic e.name
      = .ok (World.decodeTraffic (twoEndsRow e stamp) :: rest))
    (hne : e.ip ≠ "") (hspec : twoEndsWorld.getRealPodSpec e.ip = .ok (some podDetail))
    (hlabelled : podDetail.pod.labels.entries ≠ [])
    (hsvc : selectedBy twoEndsWorld.env.toLookups e.ip = none) :
    ∃ policy, PolicyFor twoEndsWorld e policy podDetail := by
  obtain ⟨rest, htraffic⟩ := htraffic
  have hlookup : lookupIP (World.decodeTraffic (twoEndsRow e stamp)) = e.ip := if_pos hne
  obtain ⟨policy, output, hgenerate, houtput, hpolicy, hname⟩ :=
    exists_standard_output htraffic (by rw [hlookup]; exact hne) (by rw [hlookup]; exact hspec)
      (fun _ => rfl)
  refine ⟨policy, ⟨⟨_, _, output, houtput, hpolicy, hname, _, _, _, htraffic, rfl, ?_, ?_⟩,
    hlabelled, hsvc⟩⟩
  · rw [hlookup]
    exact hspec
  · rw [hpolicy]
    exact .standard hgenerate

theorem flow_admitted_two_ends : ∃ policy policy', ∃ labels labels' : LabelMap,
    ∀ others : List NetworkPolicy,
      Admitted namedCluster (policy :: policy' :: others) "shop" labels .egress
          ⟨.pod "data" labels', 443, .tcp⟩
        ∧ Admitted namedCluster (policy :: policy' :: others) "data" labels' .ingress
          ⟨.pod "shop" labels, 443, .tcp⟩ := by
  obtain ⟨policy, hpolicy⟩ := exists_policyFor
    (show ∃ rest, twoEndsWorld.getRealPodTraffic webEnd.name
      = .ok (World.decodeTraffic (twoEndsRow webEnd ⟨"u2", 2⟩) :: rest) from ⟨[], rfl⟩)
    (by decide) (show twoEndsWorld.getRealPodSpec webEnd.ip
      = .ok (some ⟨"10.0.0.5", "web", "shop", ⟨(∅ : LabelMap).insert "app" "web"⟩⟩) from rfl)
    (by decide) rfl
  obtain ⟨policy', hpolicy'⟩ := exists_policyFor
    (show ∃ rest, twoEndsWorld.getRealPodTraffic apiEnd.name
      = .ok (World.decodeTraffic (twoEndsRow apiEnd ⟨"u1", 1⟩) :: rest) from ⟨[], rfl⟩)
    (by decide) (show twoEndsWorld.getRealPodSpec apiEnd.ip
      = .ok (some ⟨"10.0.0.9", "api", "data", ⟨(∅ : LabelMap).insert "app" "api"⟩⟩) from rfl)
    (by decide) rfl
  refine ⟨policy, policy', (∅ : LabelMap).insert "app" "web", (∅ : LabelMap).insert "app" "api",
    fun others => ?_⟩
  exact flow_admitted (by decide +kernel) rfl (handled_of_twoEnds (.inr rfl))
    (handled_of_twoEnds (.inl rfl)) connects_twoEnds hpolicy hpolicy' namedCluster
    (by simp) (by simp) (fun _ _ h => h) (fun _ _ h => h)

end TwoEnds

end KubeGuardian.System
