import KubeGuardian.Advisor.Api
import KubeGuardian.Lib.Grouping

/-!
# From traffic records to rules

The pipeline that both generators run before they build their own policy object: filter the
records and merge them into one rule per peer (`processTrafficRules`), collect the rules into a
map from peer to ports, and range over that map. Each generator repeats these functions in the
source, so they are defined once here.

The bridge to the library is `processTrafficRules_eq`: the merged rules are the `Grouping` of
the observations that the records stand for. `eachPeer_perm` then says what the range over
the map yields, whatever its order.
-/

namespace KubeGuardian.Advisor

open Lib

/-! ## Merging records into rules

Both generators go through the records once and collect, for each peer address, the ports seen with
it. The loop of the source appends to a list of rules that it searches each time.
-/

structure NetworkPolicyRule where
  peerIP : String
  ports : List NetworkPolicyPort
  deriving DecidableEq

/-- `portExists`: ports are compared as texts, and a port with a field missing equals none. -/
def portExists (ports : List NetworkPolicyPort) (port : IntOrString) (protocol : Protocol) :
    Bool :=
  ports.any fun existingPort =>
    match existingPort.port, existingPort.protocol with
    | some p, some proto => p.string = port.string && proto = protocol
    | _, _ => false

/-- `addOrUpdateRule`: the port goes to the rule of its peer, which is made if there is none. A port
that the rule has is not added again. -/
def addOrUpdateRule (rules : List NetworkPolicyRule) (peer : String) (port : IntOrString)
    (protocolStr : String) : List NetworkPolicyRule :=
  let protocol := protocolPtr protocolStr
  match rules with
  | [] => [⟨peer, [⟨some port, some protocol⟩]⟩]
  | rule :: rules =>
    if rule.peerIP = peer then
      if portExists rule.ports port protocol then rule :: rules
      else { rule with ports := rule.ports ++ [⟨some port, some protocol⟩] } :: rules
    else rule :: addOrUpdateRule rules peer port protocolStr

/-- One round of the loop in `processTrafficRules`: the ingress and the egress rules after it. -/
def processRecord (podDetail : PodDetail)
    (acc : List NetworkPolicyRule × List NetworkPolicyRule) (traffic : PodTraffic) :
    List NetworkPolicyRule × List NetworkPolicyRule :=
  let (ingressRules, egressRules) := acc
  if isIngressTraffic traffic podDetail then
    -- the peer is in the `Dst` fields for both directions
    let peer := traffic.dstIP
    if peer = "" then acc
    else if peer = podDetail.podIP then acc
    else match parsePort traffic.srcPodPort with
      | .error _ => acc
      | .ok portInt =>
        (addOrUpdateRule ingressRules peer (.fromInt portInt) traffic.protocol, egressRules)
  else if isEgressTraffic traffic podDetail then
    let peer := traffic.dstIP
    if peer = "" then acc
    else if peer = podDetail.podIP then acc
    else match parsePort traffic.dstPort with
      | .error _ => acc
      | .ok portInt =>
        (ingressRules, addOrUpdateRule egressRules peer (.fromInt portInt) traffic.protocol)
  else acc

/-- `processTrafficRules`: one pass over the records, with a list of rules for each direction. -/
def processTrafficRules (podTraffic : List PodTraffic) (podDetail : PodDetail) :
    List NetworkPolicyRule × List NetworkPolicyRule :=
  podTraffic.foldl (processRecord podDetail) ([], [])

/-! ## Ranging over the peers

Go ranges over a map in any order, so the order is a parameter.
-/

def peerRules (rules : List NetworkPolicyRule) : AList fun _ : String => List NetworkPolicyPort :=
  regroup (rules.map fun rule => (rule.peerIP, rule.ports))

/-- What `range peerRules` yields, in the map's order of the moment. -/
def eachPeer (o : Reordering (String × List NetworkPolicyPort)) (rules : List NetworkPolicyRule) :
    List (String × List NetworkPolicyPort) :=
  o.apply ((peerRules rules).entries.map fun entry => (entry.1, entry.2))

def portKey (port : IntOrString) (protocol : Protocol) : String :=
  port.string ++ "-" ++ protocol.string

/-- One round of the loop in `deduplicatePorts`. Of the map `uniquePorts` only the keys are ever
looked at. -/
def deduplicatePort (acc : List String × List NetworkPolicyPort) (port : NetworkPolicyPort) :
    List String × List NetworkPolicyPort :=
  let (uniquePorts, result) := acc
  match port.port, port.protocol with
  | some p, some proto =>
    -- a port without a number or a protocol is dropped, below
    if portKey p proto ∈ uniquePorts then (uniquePorts, result)
    else (portKey p proto :: uniquePorts, result ++ [port])
  | _, _ => (uniquePorts, result)

/-- `deduplicatePorts`: the first port of each key, in their order. -/
def deduplicatePorts (ports : List NetworkPolicyPort) : List NetworkPolicyPort :=
  (ports.foldl deduplicatePort ([], [])).2

/-! ## Usable records

What makes a record count for a direction, as one predicate: the loop tests it in several places.
-/

def Direction.trafficType : Direction → String
  | .ingress => "INGRESS"
  | .egress => "EGRESS"

/-- The port a rule is about: the pod's own for ingress, the peer's for egress. -/
def PodTraffic.portStr (traffic : PodTraffic) : Direction → String
  | .ingress => traffic.srcPodPort
  | .egress => traffic.dstPort

/-- The record makes a rule in direction `dir`, for port `portInt`. -/
structure Usable (dir : Direction) (podDetail : PodDetail) (traffic : PodTraffic) (portInt : Int) :
    Prop where
  trafficType : traffic.trafficType = dir.trafficType
  peer_ne_empty : traffic.dstIP ≠ ""
  peer_ne_self : traffic.dstIP ≠ podDetail.podIP
  port : parsePort (traffic.portStr dir) = .ok portInt

/-- What a port of a rule says, when neither of its fields is missing. -/
abbrev PortValue := Int32 × Protocol

def PortValue.toPort (v : PortValue) : NetworkPolicyPort := ⟨some (.int v.1), some v.2⟩

/-- What one record says about a direction, if it says anything: the peer, the port and the
protocol. One definition for the tests that the loop makes one after another. -/
def observation (dir : Direction) (podDetail : PodDetail) (traffic : PodTraffic) :
    Option (String × PortValue) :=
  if traffic.trafficType = dir.trafficType ∧ traffic.dstIP ≠ ""
      ∧ traffic.dstIP ≠ podDetail.podIP then
    match parsePort (traffic.portStr dir) with
    | .error _ => none
    | .ok portInt => some (traffic.dstIP, Int32.ofInt portInt, protocolPtr traffic.protocol)
  else none

def observations (dir : Direction) (podDetail : PodDetail) (podTraffic : List PodTraffic) :
    List (String × PortValue) :=
  podTraffic.filterMap (observation dir podDetail)

/-- **What a usable record says**: a peer, a port and a protocol. -/
theorem observation_eq_some_iff {dir : Direction} {podDetail : PodDetail} {traffic : PodTraffic}
    {ob : String × PortValue} :
    observation dir podDetail traffic = some ob
      ↔ ∃ portInt, Usable dir podDetail traffic portInt
        ∧ ob = (traffic.dstIP, Int32.ofInt portInt, protocolPtr traffic.protocol) := by
  unfold observation
  constructor
  · intro h
    split at h
    · next hcond =>
      split at h
      · cases h
      · next portInt hport =>
        exact ⟨portInt, ⟨hcond.1, hcond.2.1, hcond.2.2, hport⟩, (Option.some.inj h).symm⟩
    · cases h
  · rintro ⟨portInt, hu, rfl⟩
    rw [if_pos ⟨hu.trafficType, hu.peer_ne_empty, hu.peer_ne_self⟩, hu.port]

/-- The observations are those of the usable records. -/
theorem mem_observations {dir : Direction} {podDetail : PodDetail} {podTraffic : List PodTraffic}
    {ob : String × PortValue} :
    ob ∈ observations dir podDetail podTraffic
      ↔ ∃ traffic ∈ podTraffic, ∃ portInt, Usable dir podDetail traffic portInt
        ∧ ob = (traffic.dstIP, Int32.ofInt portInt, protocolPtr traffic.protocol) := by
  simp only [observations, List.mem_filterMap, observation_eq_some_iff]

/-! ## The merged rules are a grouping

The loop does what grouping the usable records by their peer does.
-/

/-- A port of a rule tells its number and protocol. -/
theorem PortValue.toPort_inj {v w : PortValue} (h : v.toPort = w.toPort) : v = w := by
  obtain ⟨a, p⟩ := v
  obtain ⟨b, q⟩ := w
  simp only [PortValue.toPort, NetworkPolicyPort.mk.injEq, Option.some.injEq,
    IntOrString.int.injEq] at h
  exact Prod.ext h.1 h.2

def toRule (g : String × List PortValue) : NetworkPolicyRule := ⟨g.1, g.2.map PortValue.toPort⟩

/-- Looking for a port among the rule's is looking for its value. -/
theorem portExists_map (vs : List PortValue) (n : Int32) (protocol : Protocol) :
    portExists (vs.map PortValue.toPort) (.int n) protocol = decide ((n, protocol) ∈ vs) := by
  rw [Bool.eq_iff_iff, decide_eq_true_iff, portExists, List.any_map, List.any_eq_true]
  constructor
  · rintro ⟨v, hv, h⟩
    simp only [Function.comp_apply, PortValue.toPort, Bool.and_eq_true, decide_eq_true_iff] at h
    have heq : v = (n, protocol) := Prod.ext (IntOrString.string_int_inj h.1) h.2
    exact heq ▸ hv
  · intro hv
    exact ⟨(n, protocol), hv, by simp [PortValue.toPort]⟩

/-- Adding to the list of rules is adding to the group of the peer. -/
theorem addOrUpdateRule_map (gs : List (String × List PortValue)) (peer : String) (n : Int32)
    (protocolStr : String) :
    addOrUpdateRule (gs.map toRule) peer (.int n) protocolStr
      = (addTo gs peer (n, protocolPtr protocolStr)).map toRule := by
  induction gs with
  | nil => rfl
  | cons g gs ih =>
    rw [List.map_cons, addOrUpdateRule, addTo]
    by_cases hpeer : g.1 = peer
    · -- the first rule of the peer takes the port, unless it has it
      rw [if_pos (show (toRule g).peerIP = peer from hpeer), if_pos hpeer]
      simp only [toRule, portExists_map, decide_eq_true_iff]
      split <;> simp [toRule, PortValue.toPort]
    · rw [if_neg (show (toRule g).peerIP ≠ peer from hpeer), if_neg hpeer, ih]
      rfl

def addObservation (gs : List (String × List PortValue)) (ob : Option (String × PortValue)) :
    List (String × List PortValue) :=
  match ob with
  | none => gs
  | some ob => addTo gs ob.1 ob.2

/-- A record of the other direction says nothing. -/
theorem observation_eq_none {dir : Direction} {podDetail : PodDetail} {traffic : PodTraffic}
    (h : traffic.trafficType ≠ dir.trafficType) : observation dir podDetail traffic = none := by
  rw [Option.eq_none_iff_forall_ne_some]
  intro ob hob
  obtain ⟨_, hu, _⟩ := observation_eq_some_iff.mp hob
  exact h hu.trafficType

/-- The checks that both branches of the loop make, and the rule they lead to. -/
theorem addObservation_map {dir : Direction} {podDetail : PodDetail} {traffic : PodTraffic}
    (htype : traffic.trafficType = dir.trafficType) (gs : List (String × List PortValue)) :
    (addObservation gs (observation dir podDetail traffic)).map toRule
      = if traffic.dstIP = "" then gs.map toRule
        else if traffic.dstIP = podDetail.podIP then gs.map toRule
        else match parsePort (traffic.portStr dir) with
          | .error _ => gs.map toRule
          | .ok portInt =>
            addOrUpdateRule (gs.map toRule) traffic.dstIP (.fromInt portInt) traffic.protocol := by
  unfold observation
  -- the source's tests in their order
  by_cases hempty : traffic.dstIP = ""
  · rw [if_neg fun h => h.2.1 hempty, if_pos hempty]
    rfl
  · by_cases hself : traffic.dstIP = podDetail.podIP
    · rw [if_neg fun h => h.2.2 hself, if_neg hempty, if_pos hself]
      rfl
    · rw [if_pos ⟨htype, hempty, hself⟩, if_neg hempty, if_neg hself]
      cases parsePort (traffic.portStr dir) with
      | error _ => rfl
      | ok portInt => exact (addOrUpdateRule_map gs _ _ _).symm

/-- One round of the loop adds the record's observation in each direction. -/
theorem processRecord_map (podDetail : PodDetail) (ins egs : List (String × List PortValue))
    (traffic : PodTraffic) :
    processRecord podDetail (ins.map toRule, egs.map toRule) traffic
      = ((addObservation ins (observation .ingress podDetail traffic)).map toRule,
        (addObservation egs (observation .egress podDetail traffic)).map toRule) := by
  unfold processRecord isIngressTraffic isEgressTraffic
  dsimp only
  by_cases hin : traffic.trafficType = "INGRESS"
  · -- the egress side of the accumulator is handed through
    have heg : traffic.trafficType ≠ Direction.egress.trafficType := by rw [hin]; decide
    rw [observation_eq_none heg, addObservation_map hin, if_pos (decide_eq_true hin)]
    dsimp only [PodTraffic.portStr, addObservation]
    split_ifs
    · rfl
    · rfl
    · cases parsePort traffic.srcPodPort <;> rfl
  · have hnone : observation .ingress podDetail traffic = none := observation_eq_none hin
    rw [hnone, if_neg (by simpa using hin)]
    by_cases heg : traffic.trafficType = "EGRESS"
    · rw [addObservation_map heg, if_pos (decide_eq_true heg)]
      dsimp only [PodTraffic.portStr, addObservation]
      split_ifs
      · rfl
      · rfl
      · cases parsePort traffic.dstPort <;> rfl
    · rw [observation_eq_none heg, if_neg (by simpa using heg)]
      rfl

/-- One more record adds what it says. -/
theorem ofList_observations_snoc (dir : Direction) (podDetail : PodDetail)
    (podTraffic : List PodTraffic) (traffic : PodTraffic) :
    (Grouping.ofList (observations dir podDetail (podTraffic ++ [traffic]))).groups
      = addObservation (Grouping.ofList (observations dir podDetail podTraffic)).groups
          (observation dir podDetail traffic) := by
  unfold observations
  rw [List.filterMap_append]
  cases h : observation dir podDetail traffic with
  | none => simp [h, addObservation]
  | some ob =>
    rw [show List.filterMap (observation dir podDetail) [traffic] = [ob] from by simp [h],
      Grouping.ofList_snoc]
    rfl

/-- The groups that one direction should end up with. -/
def groupsOf (dir : Direction) (podDetail : PodDetail) (podTraffic : List PodTraffic) :
    Grouping String PortValue :=
  Grouping.ofList (observations dir podDetail podTraffic)

/-- The same, as the code holds them. -/
def rulesOf (dir : Direction) (podDetail : PodDetail) (podTraffic : List PodTraffic) :
    List NetworkPolicyRule :=
  (groupsOf dir podDetail podTraffic).groups.map toRule

/-- **The merged rules are the grouping of the observations**, in either direction. Induction on
the records from the last one. -/
theorem processTrafficRules_eq (podTraffic : List PodTraffic) (podDetail : PodDetail) :
    processTrafficRules podTraffic podDetail
      = (rulesOf .ingress podDetail podTraffic, rulesOf .egress podDetail podTraffic) := by
  unfold rulesOf groupsOf
  induction podTraffic using List.reverseRecOn with
  | nil => rfl
  | append_singleton podTraffic traffic ih =>
    -- the last round of the loop, on what the rounds before it have left
    rw [ofList_observations_snoc, ofList_observations_snoc, ← processRecord_map, ← ih]
    unfold processTrafficRules
    rw [List.foldl_append]
    rfl

def HasUsable (dir : Direction) (podDetail : PodDetail) (podTraffic : List PodTraffic) : Prop :=
  ∃ traffic ∈ podTraffic, ∃ portInt, Usable dir podDetail traffic portInt

/-- There are no rules where no record is usable. -/
theorem rulesOf_eq_nil_iff {dir : Direction} {podDetail : PodDetail}
    {podTraffic : List PodTraffic} :
    rulesOf dir podDetail podTraffic = [] ↔ ¬ HasUsable dir podDetail podTraffic := by
  unfold rulesOf groupsOf
  rw [List.map_eq_nil_iff, Grouping.groups_ofList_eq_nil_iff, List.eq_nil_iff_forall_not_mem,
    HasUsable]
  constructor
  · rintro h ⟨traffic, hmem, portInt, hu⟩
    exact h _ (mem_observations.mpr ⟨traffic, hmem, portInt, hu, rfl⟩)
  · intro h ob hob
    obtain ⟨traffic, hmem, portInt, hu, _⟩ := mem_observations.mp hob
    exact h ⟨traffic, hmem, portInt, hu⟩

/-- There are none in either direction where no record is usable at all. -/
theorem rulesOf_eq_nil_both {podDetail : PodDetail} {podTraffic : List PodTraffic} :
    rulesOf .ingress podDetail podTraffic = [] ∧ rulesOf .egress podDetail podTraffic = []
      ↔ ∀ dir, ¬ HasUsable dir podDetail podTraffic := by
  rw [rulesOf_eq_nil_iff, rulesOf_eq_nil_iff]
  exact ⟨fun h dir => by cases dir; exacts [h.1, h.2], fun h => ⟨h _, h _⟩⟩

/-! ## What ranging over the peers yields

The order of the map decides nothing but the order of the rules.
-/

/-- **The map hands the groups back**, in an order of its own. -/
theorem eachPeer_perm (o : Reordering (String × List NetworkPolicyPort)) (dir : Direction)
    (podDetail : PodDetail) (podTraffic : List PodTraffic) :
    (eachPeer o (rulesOf dir podDetail podTraffic)).Perm
      ((groupsOf dir podDetail podTraffic).groups.map
        fun g => (g.1, g.2.map PortValue.toPort)) := by
  unfold eachPeer peerRules rulesOf
  rw [List.map_map, show ((fun rule : NetworkPolicyRule => (rule.peerIP, rule.ports)) ∘ toRule)
    = fun g => (g.1, g.2.map PortValue.toPort) from rfl]
  refine (o.perm _).trans (regroup_entries_perm ?_)
  rw [List.map_map]
  exact (groupsOf dir podDetail podTraffic).keys_nodup

/-- Ranging over something yields something. -/
theorem eachPeer_eq_nil_iff (o : Reordering (String × List NetworkPolicyPort)) (dir : Direction)
    (podDetail : PodDetail) (podTraffic : List PodTraffic) :
    eachPeer o (rulesOf dir podDetail podTraffic) = [] ↔ rulesOf dir podDetail podTraffic = [] := by
  have hlength := (eachPeer_perm o dir podDetail podTraffic).length_eq
  rw [List.length_map] at hlength
  rw [← List.length_eq_zero_iff, hlength, rulesOf, List.map_eq_nil_iff, List.length_eq_zero_iff]

@[simp] theorem eachPeer_nil (o : Reordering (String × List NetworkPolicyPort)) :
    eachPeer o [] = [] := by
  simp [eachPeer, peerRules, regroup]

def PortValue.key (v : PortValue) : String := portKey (.int v.1) v.2

/-- The text that ports are told apart by tells number and protocol. -/
theorem PortValue.key_inj {v w : PortValue} (h : v.key = w.key) : v = w := by
  obtain ⟨a, p⟩ := v
  obtain ⟨b, q⟩ := w
  -- read from its end, a key shows the protocol first
  have hrev := congrArg (fun s => s.toList.reverse) h
  have hpq : p = q := by
    cases p <;> cases q <;>
      first | rfl | simp [PortValue.key, portKey, Protocol.string] at hrev
  subst hpq
  have hstr : (IntOrString.int a).string = (IntOrString.int b).string := by
    cases p <;>
      simpa [PortValue.key, portKey, Protocol.string, String.toList_inj] using hrev
  rw [IntOrString.string_int_inj hstr]

/-- **Deduplication changes nothing**: a group repeats no port, so no key is found in the map. -/
theorem deduplicatePorts_map {vs : List PortValue} (h : vs.Nodup) :
    deduplicatePorts (vs.map PortValue.toPort) = vs.map PortValue.toPort := by
  have hloop : (vs.map PortValue.toPort).foldl deduplicatePort ([], [])
      = ((vs.map PortValue.key).reverse, vs.map PortValue.toPort) := by
    induction vs using List.reverseRecOn with
    | nil => rfl
    | append_singleton vs v ih =>
      obtain ⟨hvs, _, hnew⟩ := List.nodup_append.mp h
      -- the map holds the keys of the ports before, and those are other ports
      have hkey : v.key ∉ (vs.map PortValue.key).reverse := by
        rw [List.mem_reverse]
        intro hmem
        obtain ⟨w, hw, hwv⟩ := List.mem_map.mp hmem
        exact hnew w hw v (by simp) (PortValue.key_inj hwv)
      have hround : deduplicatePort ((vs.map PortValue.key).reverse, vs.map PortValue.toPort)
          v.toPort = _ := if_neg hkey
      rw [List.map_append, List.foldl_append, ih hvs, List.map_singleton, List.foldl_cons,
        List.foldl_nil, hround]
      simp [PortValue.key]
  unfold deduplicatePorts
  rw [hloop]

end KubeGuardian.Advisor
