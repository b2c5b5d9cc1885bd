import KubeGuardian.Advisor.Admission
import KubeGuardian.Advisor.Command

/-!
# Whose traffic is it?

A pod is known by namespace and name, and the command is asked for pods of a namespace; the broker
is then asked for the records of the name. The records of a like-named pod of another namespace
come along.

* **`rules_justified_iff`** — every rule that any run makes for a pod goes back to a record of that
  pod exactly when each record that a rule can be made of repeats one of the pod's own.
* **`repeatsOwn_of_posts`** — so it is where only pods of one namespace ever report under the
  name.
-/

namespace KubeGuardian.Advisor

open Lib Broker

/-! ## The property -/

def namedTraffic (db : Db) (podName : String) : List PodTraffic :=
  (db.podTraffic.filter fun row => row.podName = some podName).map World.decodeTraffic

/-- The records of a pod: those with its name and its namespace. -/
def ownTraffic (db : Db) (pod : KubePod) : List PodTraffic :=
  (db.podTraffic.filter fun row =>
    row.podName = some pod.name ∧ row.podNamespace = some pod.ns).map World.decodeTraffic

/-- Every port of every rule goes back to a record of `own`, of the direction of the rules and
with the rule's peer. -/
def JustifiedRules {ρ π : Type} (dir : Direction) (own : List PodTraffic)
    (isFor : String → ρ → Prop) (ports : ρ → List π) (port : Int → Protocol → π)
    (rules : List ρ) : Prop :=
  ∀ rule ∈ rules, ∀ p ∈ ports rule, ∃ traffic ∈ own,
    traffic.trafficType = dir.trafficType ∧ isFor traffic.dstIP rule
      ∧ ∃ portInt, parsePort (traffic.portStr dir) = .ok portInt
        ∧ p = port portInt (protocolPtr traffic.protocol)

/-- The policy has rules for records of `own` only. -/
def Policy.JustifiedBy (env : Lookups) (own : List PodTraffic) : Policy → Prop
  | .standard policy => ∀ dir, JustifiedRules dir own
      (fun ip rule => ∃ peer, StandardPolicyGenerator.createNetworkPolicyPeer env ip = some peer
        ∧ rule.peers = [peer])
      PolicyRule.ports (fun portInt protocol => ⟨some (.fromInt portInt), some protocol⟩)
      (policy.rules dir)
  | .cilium policy => ∀ dir, JustifiedRules dir own
      (fun ip rule =>
        (rule.endpoints, rule.cidr) = CiliumPolicyGenerator.resolvePeerForCilium env ip)
      CiliumRule.toPorts
      (fun portInt protocol => ⟨[⟨(IntOrString.fromInt portInt).string, protocol.string⟩]⟩)
      (policy.rules dir)

/-- Whatever runs are made of the command, the rules they make for `pod` are for its own
records. -/
def RulesAreOwn (decodePod : String → Except ApiError Pod) (db : Db) (pod : KubePod) : Prop :=
  ∀ w : World, w.db = db → w.decodePod = decodePod →
    ∀ kube flags args pods outcomes, requestedPods kube flags args = .ok pods →
      networkPolicyCmd kube w flags args = .ok outcomes →
      ∀ output, (pod, .ok output) ∈ pods.zip outcomes →
        output.policy.JustifiedBy w.env.toLookups (ownTraffic w.db pod)

/-! ## The condition -/

/-- For a rule of direction `dir`, the records `own` and `traffic` are one. -/
structure PodTraffic.Repeats (dir : Direction) (own traffic : PodTraffic) : Prop where
  trafficType : own.trafficType = traffic.trafficType
  peer : own.dstIP = traffic.dstIP
  port : parsePort (own.portStr dir) = parsePort (traffic.portStr dir)
  protocol : protocolPtr own.protocol = protocolPtr traffic.protocol

def Known (decodePod : String → Except ApiError Pod) (db : Db) (ip : String) : Prop :=
  ip ≠ "" ∧ ∃ detail ∈ db.podDetails, detail.podIp = ip
    ∧ ∃ pod, World.decodePodObj decodePod detail.podObj = .ok pod

/-- Whichever record `first` the target is looked up by, each record under the name that a rule
can be made of repeats one of the pod's own. -/
def RepeatsOwn (decodePod : String → Except ApiError Pod) (db : Db) (pod : KubePod) : Prop :=
  pod.name ≠ "" →
    ∀ first ∈ namedTraffic db pod.name, Known decodePod db (lookupIP first) →
      ∀ dir, ∀ traffic ∈ namedTraffic db pod.name, traffic.trafficType = dir.trafficType →
        traffic.dstIP ≠ "" → traffic.dstIP ≠ lookupIP first →
        (∃ portInt, parsePort (traffic.portStr dir) = .ok portInt) →
        ∃ own ∈ ownTraffic db pod, own.Repeats dir traffic

theorem mem_namedTraffic {db : Db} {podName : String} {traffic : PodTraffic} :
    traffic ∈ namedTraffic db podName
      ↔ ∃ row ∈ db.podTraffic, row.podName = some podName ∧ World.decodeTraffic row = traffic := by
  simp [namedTraffic, and_assoc]

/-! ## From the records to the rules -/

section Rules

variable {ρ π : Type} {dir : Direction} {podDetail : PodDetail} {podTraffic own : List PodTraffic}
  {isFor : String → ρ → Prop} {ports : ρ → List π} {port : Int → Protocol → π} {rules : List ρ}

/-- Exact rules of `podTraffic` go back to `own` where its usable records do. -/
theorem ExactRules.justifiedRules
    (h : ExactRules dir podDetail podTraffic isFor ports port rules)
    (hown : ∀ traffic ∈ podTraffic, ∀ portInt, Usable dir podDetail traffic portInt →
      ∃ t ∈ own, t.Repeats dir traffic) :
    JustifiedRules dir own isFor ports port rules := by
  intro rule hrule p hp
  obtain ⟨ip, hfor, _, hports⟩ := h.exists_peer hrule
  obtain ⟨traffic, htraffic, portInt, hu, rfl, rfl⟩ := (hports p).mp hp
  obtain ⟨t, ht, hrep⟩ := hown traffic htraffic portInt hu
  refine ⟨t, ht, hrep.trafficType.trans hu.trafficType, hrep.peer ▸ hfor, portInt,
    hrep.port.trans hu.port, ?_⟩
  rw [hrep.protocol]

/-- And only there, if a rule is told by its address and a port by its number and protocol. -/
theorem ExactRules.repeats_of_justifiedRules
    (h : ExactRules dir podDetail podTraffic isFor ports port rules)
    (hj : JustifiedRules dir own isFor ports port rules) {traffic : PodTraffic}
    (htraffic : traffic ∈ podTraffic) {portInt : Int} (hu : Usable dir podDetail traffic portInt)
    (hpeer : ∀ ip rule, isFor ip rule → isFor traffic.dstIP rule → ip = traffic.dstIP)
    (hport : ∀ p p' protocol protocol', 0 < p ∧ p ≤ 65535 → 0 < p' ∧ p' ≤ 65535 →
      port p protocol = port p' protocol' → p = p' ∧ protocol = protocol') :
    ∃ t ∈ own, t.Repeats dir traffic := by
  obtain ⟨rule, hrule, hfor, hp⟩ := h.exists_rule htraffic hu
  obtain ⟨t, ht, htype, htfor, portInt', hparse, heq⟩ := hj rule hrule _ hp
  obtain ⟨rfl, hproto⟩ := hport _ _ _ _ (parsePort_range hu.port) (parsePort_range hparse) heq
  exact ⟨t, ht, htype.trans hu.trafficType.symm, hpeer _ _ htfor hfor, hparse.trans hu.port.symm,
    hproto.symm⟩

end Rules

theorem Policy.GeneratedBy.justifiedBy {env : Env} {podName : String}
    {podTraffic own : List PodTraffic} {podDetail : PodDetail} {policy : Policy}
    (h : policy.GeneratedBy env podName podTraffic podDetail)
    (hown : ∀ dir, ∀ traffic ∈ podTraffic, ∀ portInt, Usable dir podDetail traffic portInt →
      ∃ t ∈ own, t.Repeats dir traffic) :
    policy.JustifiedBy env.toLookups own := by
  cases h with
  | standard h =>
    intro dir
    rw [StandardPolicyGenerator.rules_of_generate h]
    exact (StandardPolicyGenerator.transformRules_exact env dir podDetail podTraffic).justifiedRules
      (hown dir)
  | cilium h =>
    intro dir rule hrule p hp
    rw [CiliumPolicyGenerator.rules_of_generate h] at hrule
    have hexact := CiliumPolicyGenerator.transformRules_exact env dir podDetail podTraffic
    obtain ⟨t, ht, htype, hfor, hport⟩ := hexact.justifiedRules (hown dir) rule hrule p hp
    exact ⟨t, ht, htype, hfor.1, hport⟩

/-! ## A run that loses the lookups of one peer -/

namespace World

/-- A run like `picking`, but for the lookups of the address `ip`, which do not get through. -/
def losing (db : Db) (decodePod : String → Except ApiError Pod) (row : Broker.PodTraffic)
    (detail : Broker.PodDetail) (ip : String) : World :=
  { picking db decodePod row detail with
    fault := fun path =>
      if path = "/svc/ip/" ++ ip ∨ path = "/pod/ip/" ++ ip then some (.transport "") else none }

variable {db : Db} {decodePod : String → Except ApiError Pod} {row : Broker.PodTraffic}
  {detail : Broker.PodDetail} {ip : String}

theorem getRealPodTraffic_losing {podName : String} :
    (losing db decodePod row detail ip).getRealPodTraffic podName
      = (picking db decodePod row detail).getRealPodTraffic podName := by
  have hsvc : "/pod/traffic/" ++ podName ≠ "/svc/ip/" ++ ip := by simp [← String.toList_inj]
  have hpod : "/pod/traffic/" ++ podName ≠ "/pod/ip/" ++ ip := by simp [← String.toList_inj]
  simp [getRealPodTraffic, httpGet, losing, picking, hsvc, hpod]

theorem getRealPodSpec_losing {target : String} (h : target ≠ ip) :
    (losing db decodePod row detail ip).getRealPodSpec target
      = (picking db decodePod row detail).getRealPodSpec target := by
  have hsvc : "/pod/ip/" ++ target ≠ "/svc/ip/" ++ ip := by simp [← String.toList_inj]
  have hpod : "/pod/ip/" ++ target ≠ "/pod/ip/" ++ ip := by simpa using h
  simp [getRealPodSpec, httpGet, losing, picking, hsvc, hpod]

/-- The lost address is left to stand for itself. -/
theorem createNetworkPolicyPeer_losing :
    StandardPolicyGenerator.createNetworkPolicyPeer
        (losing db decodePod row detail ip).env.toLookups ip
      = some ⟨none, none, some ⟨ip ++ "/32"⟩⟩ := by
  have hsvc : (losing db decodePod row detail ip).getRealSvcSpec ip = .error "" := by
    simp [getRealSvcSpec, httpGet, losing]
  have hpod : (losing db decodePod row detail ip).getRealPodSpec ip = .error "" := by
    simp [getRealPodSpec, httpGet, losing]
  simp [StandardPolicyGenerator.createNetworkPolicyPeer, StandardPolicyGenerator.podOrIPBlock, env,
    hsvc, hpod]

end World

/-- A peer by address is a peer by the address that was looked up. -/
theorem StandardPolicyGenerator.eq_of_createNetworkPolicyPeer_eq_ipBlock {env : Lookups}
    {ip peerIP : String}
    (h : createNetworkPolicyPeer env ip = some ⟨none, none, some ⟨peerIP ++ "/32"⟩⟩) :
    ip = peerIP := by
  rw [createNetworkPolicyPeer_eq, peerOf_eq] at h
  cases hres : resolvePod env ip with
  | some resolved => simp [hres, selectorPeer] at h
  | none => simpa [hres] using h

/-! ## The two directions -/

theorem fromInt_port_inj {p p' : Int} {protocol protocol' : Protocol} (hp : 0 < p ∧ p ≤ 65535)
    (hp' : 0 < p' ∧ p' ≤ 65535)
    (h : (⟨some (.fromInt p), some protocol⟩ : NetworkPolicyPort)
      = ⟨some (.fromInt p'), some protocol'⟩) : p = p' ∧ protocol = protocol' := by
  obtain ⟨hport, hproto⟩ := NetworkPolicyPort.mk.inj h
  have hval := congrArg IntOrString.intValue (Option.some.inj hport)
  rw [IntOrString.intValue_fromInt hp, IntOrString.intValue_fromInt hp'] at hval
  exact ⟨Option.some.inj hval, Option.some.inj hproto⟩

/-- A record that does not repeat one of the pod's own makes a rule of its own in some run: one
that looks the target up by `first` and loses the lookups of the record's peer. -/
theorem repeatsOwn_of_rulesAreOwn {decodePod : String → Except ApiError Pod} {db : Db}
    {pod : KubePod} (h : RulesAreOwn decodePod db pod) : RepeatsOwn decodePod db pod := by
  rintro hne first hfirst ⟨hip, detail, hdetail, hdetailIp, p, hpod⟩ dir traffic hmem htype hempty
    hself ⟨portInt, hparse⟩
  obtain ⟨row, hrow, hname, rfl⟩ := mem_namedTraffic.mp hfirst
  obtain ⟨rest, htraffic⟩ : ∃ rest,
      (World.losing db decodePod row detail traffic.dstIP).getRealPodTraffic pod.name
        = .ok (World.decodeTraffic row :: rest) := by
    rw [World.getRealPodTraffic_losing]
    exact World.getRealPodTraffic_picking hrow hname hne
  obtain ⟨podDetail, hspec, hpodIP⟩ : ∃ podDetail,
      (World.losing db decodePod row detail traffic.dstIP).getRealPodSpec
          (lookupIP (World.decodeTraffic row)) = .ok (some podDetail)
        ∧ podDetail.podIP = lookupIP (World.decodeTraffic row) := by
    rw [World.getRealPodSpec_losing (Ne.symm hself)]
    exact ⟨_, World.getRealPodSpec_picking hdetail hdetailIp hip hpod, rfl⟩
  obtain ⟨policy, output, hgen, hout, hpolicy, -⟩ :=
    exists_standard_output htraffic hip hspec fun _ => rfl
  obtain ⟨kube, flags, args, pods, outcomes, hpods, hrun, hzip⟩ := exists_run_of_generatePolicy hout
  have hjust := h _ rfl rfl kube flags args pods outcomes hpods hrun output hzip
  rw [hpolicy] at hjust
  have hmem : traffic ∈ World.decodeTraffic row :: rest :=
    ((World.getRealPodTraffic_eq_ok htraffic).2.2 traffic).mpr (mem_namedTraffic.mp hmem)
  have hu : Usable dir podDetail traffic portInt := ⟨htype, hempty, hpodIP ▸ hself, hparse⟩
  have hexact := StandardPolicyGenerator.transformRules_exact
    (World.losing db decodePod row detail traffic.dstIP).env dir podDetail
    (World.decodeTraffic row :: rest)
  rw [← StandardPolicyGenerator.rules_of_generate hgen] at hexact
  refine hexact.repeats_of_justifiedRules (hjust dir) hmem hu ?_
    fun _ _ _ _ hp hp' => fromInt_port_inj hp hp'
  -- a rule by the record's address is for no other address
  rintro ip rule ⟨peer, hpeer, hrule⟩ ⟨peer', hpeer', hrule'⟩
  rw [hrule, List.singleton_inj] at hrule'
  rw [hrule', ← hpeer', World.createNetworkPolicyPeer_losing] at hpeer
  exact StandardPolicyGenerator.eq_of_createNetworkPolicyPeer_eq_ipBlock hpeer

/-- **When the rules made for a pod are for its own traffic**, whatever the runs. -/
theorem rules_justified_iff (decodePod : String → Except ApiError Pod)
    (reqs : List (Orders × Post)) (pod : KubePod) :
    RulesAreOwn decodePod (serve reqs) pod ↔ RepeatsOwn decodePod (serve reqs) pod := by
  refine ⟨repeatsOwn_of_rulesAreOwn, ?_⟩
  rintro hown w hdb rfl kube flags args pods outcomes hpods hrun output hmem
  have hout := generatePolicy_of_mem_zip hpods hrun hmem
  obtain ⟨first, rest, podDetail, htraffic, hip, hspec, -, hpolicy⟩ := generatePolicy_inv hout
  obtain ⟨hne, _, hnamed⟩ := World.getRealPodTraffic_eq_ok htraffic
  obtain ⟨detail, hdetail, hdetailIp, hpodIP, _, _, hpod⟩ := World.getRealPodSpec_eq_some hspec
  simp only [← mem_namedTraffic] at hnamed
  rw [hdb] at hnamed hdetail ⊢
  have hknown : Known w.decodePod (serve reqs) (lookupIP first) :=
    ⟨hip, detail, hdetail, hdetailIp, _, hpod⟩
  refine hpolicy.justifiedBy fun dir traffic htraffic portInt hu => ?_
  have hself : traffic.dstIP ≠ lookupIP first := fun h => hu.peer_ne_self (h.trans hpodIP.symm)
  exact hown hne first ((hnamed first).mp (List.mem_cons_self ..)) hknown dir traffic
    ((hnamed traffic).mp htraffic) hu.trafficType hu.peer_ne_empty hself ⟨portInt, hu.port⟩

/-- A name that only pods of one namespace report under keeps its rules to itself. -/
theorem repeatsOwn_of_posts (decodePod : String → Except ApiError Pod)
    {reqs : List (Orders × Post)} {pod : KubePod}
    (h : ∀ o row, (o, Post.podTraffic row) ∈ reqs → row.podName = some pod.name →
      row.podNamespace = some pod.ns) : RepeatsOwn decodePod (serve reqs) pod := by
  rintro - first - - dir traffic hmem - - - -
  obtain ⟨row, hrow, hname, rfl⟩ := mem_namedTraffic.mp hmem
  obtain ⟨o, hpost⟩ := mem_podTraffic_serve hrow
  have hns : row.podNamespace = some pod.ns := h o row hpost hname
  refine ⟨_, List.mem_map_of_mem (List.mem_filter.mpr ⟨hrow, ?_⟩), rfl, rfl, rfl, rfl⟩
  simp [hname, hns]

def twoNamespaces : List (Orders × Post) :=
  [.podSpec ⟨"web-0", "10.0.0.5", some "shop", none, 1⟩,
    .podTraffic ⟨"u1", some "web-0", some "shop", some "10.0.0.5", some "0", some "TCP",
      some "EGRESS", some "10.96.0.10", some "443", 2⟩,
    .podTraffic ⟨"u2", some "web-0", some "data", some "10.0.0.6", some "0", some "TCP",
      some "EGRESS", some "10.96.0.20", some "5432", 3⟩].map (Orders.stored, ·)

/-- What `web-0` of `data` was seen to reach is opened for `web-0` of `shop`. -/
theorem rules_leak_between_namespaces :
    ¬ RulesAreOwn (fun _ => .error "") (serve twoNamespaces) ⟨"web-0", "shop"⟩ := by
  intro h
  have hknown : Known (fun _ => .error "") (serve twoNamespaces) "10.0.0.5" :=
    ⟨by decide, _,
      List.mem_of_getElem? (show (serve twoNamespaces).podDetails[0]? = some _ from rfl),
      rfl, ⟨∅⟩, rfl⟩
  have hfirst : (namedTraffic (serve twoNamespaces) "web-0")[0]? = some _ := rfl
  have htraffic : (namedTraffic (serve twoNamespaces) "web-0")[1]? = some _ := rfl
  obtain ⟨own, hown, hrep⟩ := repeatsOwn_of_rulesAreOwn h (by decide) _
    (List.mem_of_getElem? hfirst) hknown .egress _ (List.mem_of_getElem? htraffic) rfl (by decide)
    (by decide) ⟨5432, by decide⟩
  have honly : ownTraffic (serve twoNamespaces) ⟨"web-0", "shop"⟩ = [_] := rfl
  rw [honly, List.mem_singleton] at hown
  exact absurd (hown ▸ hrep.peer) (by decide)

end KubeGuardian.Advisor
