import KubeGuardian.Advisor.LeastPrivilege

/-!
# Peers on the host network

The traffic of a `hostNetwork` pod carries the address of its node, and no pod selector matches
it; an address block does. The generators resolve an address without a look at that field of the
pod's spec, which the broker stores with the rest of the pod.

* **`hostNetwork_rule_admits_iff`** — the rule for such a peer admits the connection that was
  recorded exactly when neither a Service with a selector nor a pod with labels is found at the
  address, so that the rule is for the address itself.
-/

namespace KubeGuardian.Advisor

/-- A pod as the broker stores it, with the field of its spec that no generator reads. -/
structure StoredPod extends PodDetail where
  hostNetwork : Bool

/-- What the pod's connections come from, or go to, as enforcement sees it. -/
def StoredPod.peer (known : StoredPod) : Peer :=
  if known.hostNetwork then .address known.podIP
  else .pod known.podNamespace known.pod.labels

/-! ## What is found at an address -/

/-- Nothing with labels to select by is found at `ip`: a lookup that fails finds nothing. -/
structure Unselectable (env : Lookups) (ip : String) : Prop where
  service : ∀ svc, env.getSvcSpec ip = .ok (some svc) → svc.service.selector.entries = []
  pod : ∀ podSpec, env.getPodSpec ip = .ok (some podSpec) → podSpec.pod.labels.entries = []

theorem selectedBy_eq_none_iff {env : Lookups} {ip : String} :
    selectedBy env ip = none
      ↔ ∀ svc, env.getSvcSpec ip = .ok (some svc) → svc.service.selector.entries = [] := by
  unfold selectedBy
  rcases env.getSvcSpec ip with _ | (_ | svcSpec) <;> simp

theorem labelledPod_eq_none_iff {env : Lookups} {ip : String} :
    labelledPod env ip = none
      ↔ ∀ podSpec, env.getPodSpec ip = .ok (some podSpec) → podSpec.pod.labels.entries = [] := by
  unfold labelledPod
  rcases env.getPodSpec ip with _ | (_ | podSpec) <;> simp

theorem resolvePod_eq_none_iff {env : Lookups} {ip : String} :
    resolvePod env ip = none ↔ Unselectable env ip := by
  rw [resolvePod, Option.or_eq_none_iff, selectedBy_eq_none_iff, labelledPod_eq_none_iff]
  exact ⟨fun h => ⟨h.1, h.2⟩, fun h => ⟨h.service, h.pod⟩⟩

/-- A host-network pod is reached by the block made of its address, and never by labels. -/
theorem reaches_hostNetwork_iff {c : Cluster} {known : StoredPod} {ip : String}
    (hhost : known.hostNetwork = true) (hip : known.podIP = ip) (hcidr : c.inCIDR (ip ++ "/32") ip)
    (resolved : Option (String × LabelMap)) :
    Reaches c ip resolved known.peer ↔ resolved = none := by
  rw [StoredPod.peer, if_pos hhost, hip]
  cases resolved with
  | none => simp [Reaches, hcidr]
  | some resolved => simp [Reaches]

/-! ## The rule of a record -/

section Rules

variable {env : Env} {podName : String} {podTraffic : List PodTraffic} {podDetail : PodDetail}
  {dir : Direction} {traffic : PodTraffic} {portInt : Int}

namespace StandardPolicyGenerator

/-- The rule is for the peer address of `traffic`, and its recorded port is among the rule's. -/
structure HasRecorded (env : Lookups) (traffic : PodTraffic) (portInt : Int) (rule : PolicyRule) :
    Prop where
  peer : ∃ peer, createNetworkPolicyPeer env traffic.dstIP = some peer ∧ rule.peers = [peer]
  port : ⟨some (.fromInt portInt), some (protocolPtr traffic.protocol)⟩ ∈ rule.ports

theorem exists_hasRecorded {policy : NetworkPolicy}
    (h : generate env podName podTraffic (some podDetail) = .ok policy)
    (hmem : traffic ∈ podTraffic) (hu : Usable dir podDetail traffic portInt) :
    ∃ rule ∈ policy.rules dir, HasRecorded env.toLookups traffic portInt rule := by
  rw [rules_of_generate h]
  obtain ⟨rule, hrule, hfor, hport⟩ :=
    (transformRules_exact env dir podDetail podTraffic).exists_rule hmem hu
  exact ⟨rule, hrule, hfor, hport⟩

theorem HasRecorded.admits_iff {rule : PolicyRule}
    (h : HasRecorded env.toLookups traffic portInt rule) (hport : 0 < portInt ∧ portInt ≤ 65535)
    (c : Cluster) (policyNs : String) (peer : Peer) :
    rule.Admits c policyNs ⟨peer, portInt, protocolPtr traffic.protocol⟩
      ↔ Reaches c traffic.dstIP (resolvePod env.toLookups traffic.dstIP) peer := by
  obtain ⟨rulePeer, hpeer, hpeers⟩ := h.peer
  rw [createNetworkPolicyPeer_eq] at hpeer
  obtain rfl := Option.some.inj hpeer
  have hmatch : rule.ports = [] ∨ ∃ p ∈ rule.ports,
      p.Matches ⟨peer, portInt, protocolPtr traffic.protocol⟩ :=
    .inr ⟨_, h.port, (port_matches_iff _ _ hport).mpr ⟨rfl, rfl⟩⟩
  simp only [PolicyRule.Admits, hmatch, and_true, hpeers, List.cons_ne_nil, false_or,
    List.mem_singleton, exists_eq_left, peerOf_matches_iff]

end StandardPolicyGenerator

namespace CiliumPolicyGenerator

/-- The rule is for the peer address of `traffic`, and its recorded port is among the rule's. -/
structure HasRecorded (env : Lookups) (traffic : PodTraffic) (portInt : Int) (rule : CiliumRule) :
    Prop where
  peer : (rule.endpoints, rule.cidr) = resolvePeerForCilium env traffic.dstIP
  port : ⟨[⟨(IntOrString.fromInt portInt).string, (protocolPtr traffic.protocol).string⟩]⟩
    ∈ rule.toPorts

theorem exists_hasRecorded {policy : CiliumNetworkPolicy}
    (h : generate env podName podTraffic (some podDetail) = .ok policy)
    (hmem : traffic ∈ podTraffic) (hu : Usable dir podDetail traffic portInt) :
    ∃ rule ∈ policy.rules dir, HasRecorded env.toLookups traffic portInt rule := by
  rw [rules_of_generate h]
  obtain ⟨rule, hrule, hfor, hport⟩ :=
    (transformRules_exact env dir podDetail podTraffic).exists_rule hmem hu
  exact ⟨rule, hrule, hfor.1, hport⟩

theorem HasRecorded.admits_iff {rule : CiliumRule}
    (h : HasRecorded env.toLookups traffic portInt rule) (hport : 0 < portInt ∧ portInt ≤ 65535)
    (c : Cluster) (policyNs : String) (peer : Peer) :
    rule.Admits c policyNs ⟨peer, portInt, protocolPtr traffic.protocol⟩
      ↔ Reaches c traffic.dstIP
          ((resolvePod env.toLookups traffic.dstIP).map (ciliumView policyNs)) peer := by
  have hpeer := h.peer
  rw [resolvePeerForCilium_eq] at hpeer
  have hmatch : rule.toPorts = [] ∨ ∃ p ∈ rule.toPorts,
      p.Matches ⟨peer, portInt, protocolPtr traffic.protocol⟩ :=
    .inr ⟨_, h.port, (port_matches_iff _ _ hport).mpr ⟨rfl, rfl⟩⟩
  simp only [CiliumRule.Admits, hmatch, and_true]
  cases hresolved : resolvePod env.toLookups traffic.dstIP with
  | none =>
    obtain ⟨hendpoints, hcidr⟩ : rule.endpoints = [] ∧ rule.cidr = [traffic.dstIP ++ "/32"] := by
      simpa [hresolved] using hpeer
    rw [hendpoints, hcidr]
    cases peer <;> simp [Reaches]
  | some resolved =>
    obtain ⟨hendpoints, hcidr⟩ :
        rule.endpoints = [createEndpointSelector resolved.2] ∧ rule.cidr = [] := by
      simpa [hresolved] using hpeer
    have hne := labels_ne_nil_of_resolvePod hresolved
    rw [hendpoints, hcidr, Option.map_some, ← createEndpointSelector_matches_iff hne]
    simp

end CiliumPolicyGenerator

end Rules

/-- **Whether the rules made for a host-network peer admit what was recorded of it.** Both
generators have such a rule, and it does exactly when nothing that can be selected is found at the
peer's address. -/
theorem hostNetwork_rule_admits_iff (c : Cluster) (env : Env) (podName : String)
    {podTraffic : List PodTraffic} {podDetail : PodDetail} {dir : Direction}
    {traffic : PodTraffic} (hmem : traffic ∈ podTraffic) {portInt : Int}
    (hu : Usable dir podDetail traffic portInt) {known : StoredPod}
    (hhost : known.hostNetwork = true) (hip : known.podIP = traffic.dstIP)
    (hcidr : c.inCIDR (traffic.dstIP ++ "/32") traffic.dstIP) :
    (∃ policy, StandardPolicyGenerator.generate env podName podTraffic (some podDetail)
        = .ok policy
      ∧ (∃ rule ∈ policy.rules dir,
          StandardPolicyGenerator.HasRecorded env.toLookups traffic portInt rule)
      ∧ ∀ rule ∈ policy.rules dir,
          StandardPolicyGenerator.HasRecorded env.toLookups traffic portInt rule →
          (rule.Admits c podDetail.podNamespace
              ⟨known.peer, portInt, protocolPtr traffic.protocol⟩
            ↔ Unselectable env.toLookups traffic.dstIP))
    ∧ ∃ policy, CiliumPolicyGenerator.generate env podName podTraffic (some podDetail)
        = .ok policy
      ∧ (∃ rule ∈ policy.rules dir,
          CiliumPolicyGenerator.HasRecorded env.toLookups traffic portInt rule)
      ∧ ∀ rule ∈ policy.rules dir,
          CiliumPolicyGenerator.HasRecorded env.toLookups traffic portInt rule →
          (rule.Admits c podDetail.podNamespace
              ⟨known.peer, portInt, protocolPtr traffic.protocol⟩
            ↔ Unselectable env.toLookups traffic.dstIP) := by
  have hport := parsePort_range hu.port
  constructor
  · have hgen := StandardPolicyGenerator.generate_eq env podName podTraffic podDetail
    refine ⟨_, hgen, StandardPolicyGenerator.exists_hasRecorded hgen hmem hu, fun rule _ h => ?_⟩
    -- such a pod is reached by its address only, so by a rule that is not a selector
    rw [h.admits_iff hport, reaches_hostNetwork_iff hhost hip hcidr, resolvePod_eq_none_iff]
  · have hgen := CiliumPolicyGenerator.generate_eq env podName podTraffic podDetail
    refine ⟨_, hgen, CiliumPolicyGenerator.exists_hasRecorded hgen hmem hu, fun rule _ h => ?_⟩
    rw [h.admits_iff hport, reaches_hostNetwork_iff hhost hip hcidr, Option.map_eq_none_iff,
      resolvePod_eq_none_iff]

/-! ## Samples -/

/-- A node's monitoring agent, on the host network at the node's address. -/
def nodeAgent (labels : LabelMap) : StoredPod where
  podIP := "192.168.1.10"
  name := "node-agent"
  podNamespace := "monitoring"
  pod := ⟨labels⟩
  hostNetwork := true

def podEnv (known : StoredPod) : Env where
  getSvcSpec _ := .ok none
  getPodSpec ip := .ok (if ip = known.podIP then some known.toPodDetail else none)
  order _ := .stored

theorem webRecord_usable : Usable .ingress webPod (webRecord "INGRESS" "9090" "192.168.1.10" "0")
    9090 :=
  ⟨by decide, by decide, by decide, by decide⟩

/-- An agent without labels can go on scraping `web`. -/
theorem hostNetwork_rule_admits_unlabelled :
    ∃ policy, StandardPolicyGenerator.generate (podEnv (nodeAgent ∅)) "web"
        [webRecord "INGRESS" "9090" "192.168.1.10" "0"] (some webPod) = .ok policy
      ∧ ∃ rule ∈ policy.rules .ingress,
        rule.Admits namedCluster "default" ⟨(nodeAgent ∅).peer, 9090, .tcp⟩ := by
  obtain ⟨⟨policy, hgen, ⟨rule, hrule, hrec⟩, hadmits⟩, -⟩ :=
    hostNetwork_rule_admits_iff namedCluster (podEnv (nodeAgent ∅)) "web"
      (List.mem_singleton_self _) webRecord_usable
      (show (nodeAgent ∅).hostNetwork = true from rfl) rfl rfl
  refine ⟨policy, hgen, rule, hrule, (hadmits rule hrule hrec).mpr ⟨fun svc h => ?_, ?_⟩⟩
  · cases h
  · rintro podSpec h
    obtain rfl := Option.some.inj (Except.ok.inj h)
    rfl

/-- The sample agent, labelled as agents are. -/
def labelledAgent : StoredPod := nodeAgent ((∅ : LabelMap).insert "app" "node-agent")

theorem not_unselectable_labelledAgent :
    ¬ Unselectable (podEnv labelledAgent).toLookups "192.168.1.10" := by
  intro h
  have hnil : labelledAgent.pod.labels.entries = [] := h.pod labelledAgent.toPodDetail rfl
  exact absurd hnil (by decide)

/-- With the label it cannot, under either policy: the rules made of the record select pods. -/
theorem hostNetwork_peer_refused :
    (∃ policy, StandardPolicyGenerator.generate (podEnv labelledAgent) "web"
        [webRecord "INGRESS" "9090" "192.168.1.10" "0"] (some webPod) = .ok policy
      ∧ ∃ rule ∈ policy.rules .ingress,
        StandardPolicyGenerator.HasRecorded (podEnv labelledAgent).toLookups
            (webRecord "INGRESS" "9090" "192.168.1.10" "0") 9090 rule
          ∧ ¬ rule.Admits namedCluster "default" ⟨labelledAgent.peer, 9090, .tcp⟩)
    ∧ ∃ policy, CiliumPolicyGenerator.generate (podEnv labelledAgent) "web"
        [webRecord "INGRESS" "9090" "192.168.1.10" "0"] (some webPod) = .ok policy
      ∧ ∃ rule ∈ policy.rules .ingress,
        CiliumPolicyGenerator.HasRecorded (podEnv labelledAgent).toLookups
            (webRecord "INGRESS" "9090" "192.168.1.10" "0") 9090 rule
          ∧ ¬ rule.Admits namedCluster "default" ⟨labelledAgent.peer, 9090, .tcp⟩ := by
  have hmem := List.mem_singleton_self (webRecord "INGRESS" "9090" "192.168.1.10" "0")
  have hport := parsePort_range webRecord_usable.port
  have hhost : labelledAgent.hostNetwork = true := rfl
  have hcidr : namedCluster.inCIDR ("192.168.1.10" ++ "/32") "192.168.1.10" := rfl
  constructor
  · have hgen := StandardPolicyGenerator.generate_eq (podEnv labelledAgent) "web"
      [webRecord "INGRESS" "9090" "192.168.1.10" "0"] webPod
    obtain ⟨rule, hrule, hrec⟩ :=
      StandardPolicyGenerator.exists_hasRecorded hgen hmem webRecord_usable
    refine ⟨_, hgen, rule, hrule, hrec, fun hadmits => not_unselectable_labelledAgent ?_⟩
    have hreaches := (hrec.admits_iff hport namedCluster "default" labelledAgent.peer).mp hadmits
    exact resolvePod_eq_none_iff.mp ((reaches_hostNetwork_iff hhost rfl hcidr _).mp hreaches)
  · have hgen := CiliumPolicyGenerator.generate_eq (podEnv labelledAgent) "web"
      [webRecord "INGRESS" "9090" "192.168.1.10" "0"] webPod
    obtain ⟨rule, hrule, hrec⟩ :=
      CiliumPolicyGenerator.exists_hasRecorded hgen hmem webRecord_usable
    refine ⟨_, hgen, rule, hrule, hrec, fun hadmits => not_unselectable_labelledAgent ?_⟩
    have hreaches := (hrec.admits_iff hport namedCluster "default" labelledAgent.peer).mp hadmits
    have hnone := (reaches_hostNetwork_iff hhost rfl hcidr _).mp hreaches
    exact resolvePod_eq_none_iff.mp (Option.map_eq_none_iff.mp hnone)

end KubeGuardian.Advisor
