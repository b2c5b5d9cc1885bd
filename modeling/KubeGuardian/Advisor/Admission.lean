import KubeGuardian.Advisor.ExactRules

/-!
# What a policy admits

The enforcement side, as Kubernetes and Cilium document it: a policy restricts a direction of its
pods' traffic or leaves it alone, and a restricted direction admits what some rule matches. The
two `admits_iff` say what that comes to for a generated policy, record by record.

* **`StandardPolicyGenerator.admits_iff`**, **`CiliumPolicyGenerator.admits_iff`** — a direction
  is left alone exactly when the other one alone has usable records; otherwise a connection is
  admitted exactly when a usable record is for its port and protocol and resolves to a peer that
  matches.
-/

namespace KubeGuardian.Advisor

/-- The far end of a connection: a pod, by its namespace and labels, or an address that is no
pod's. -/
inductive Peer where
  | pod (ns : String) (labels : LabelMap)
  | address (ip : String)

/-- One connection seen from the pod that a policy is for: the other end, the port that is dialled
(the pod's own for ingress, the peer's for egress) and the protocol. -/
structure Connection where
  peer : Peer
  port : Int
  protocol : Protocol

/-- What enforcement knows beside the policy: the labels of the namespaces, which always carry
the namespace's name, and which addresses a CIDR text covers. -/
structure Cluster where
  namespaceLabels : String → LabelMap
  metadataName : ∀ ns, (namespaceLabels ns).lookup "kubernetes.io/metadata.name" = some ns
  inCIDR : String → String → Prop

/-! ## Kubernetes -/

/-- A selector without a namespace selector stays in the policy's namespace. -/
def NetworkPolicyPeer.Matches (c : Cluster) (policyNs : String) (p : NetworkPolicyPeer) :
    Peer → Prop
  | .pod ns labels =>
    p.ipBlock = none
      ∧ (match p.namespaceSelector with
        | none => ns = policyNs ∧ p.podSelector.isSome
        | some s => s.matchLabels.Sub (c.namespaceLabels ns))
      ∧ ∀ s, p.podSelector = some s → s.matchLabels.Sub labels
  | .address ip => ∃ block, p.ipBlock = some block ∧ c.inCIDR block.cidr ip

/-- A missing port stands for every port; a port that is a name would have to be looked up in the
pod and matches no number here. A missing protocol is TCP, as the API has it. -/
def NetworkPolicyPort.Matches (p : NetworkPolicyPort) (conn : Connection) : Prop :=
  (∀ port, p.port = some port → port.intValue = some conn.port)
    ∧ p.protocol.getD .tcp = conn.protocol

/-- No peers means any peer, and no ports any port. -/
def PolicyRule.Admits (c : Cluster) (policyNs : String) (rule : PolicyRule) (conn : Connection) :
    Prop :=
  (rule.peers = [] ∨ ∃ p ∈ rule.peers, p.Matches c policyNs conn.peer)
    ∧ (rule.ports = [] ∨ ∃ p ∈ rule.ports, p.Matches conn)

/-- A policy has a say in a direction only where its `policyTypes` list it, and then some rule of
that direction must let the connection through. -/
def NetworkPolicy.Admits (c : Cluster) (policy : NetworkPolicy) (dir : Direction)
    (conn : Connection) : Prop :=
  dir ∈ policy.spec.policyTypes →
    ∃ rule ∈ policy.rules dir, rule.Admits c policy.objectMeta.ns conn

/-! ## Cilium -/

/-- The label under which Cilium knows an endpoint's namespace. -/
def namespaceLabel : String := "io.kubernetes.pod.namespace"

/-- A selector that carries no namespace label stays in the policy's namespace. -/
def EndpointSelector.Matches (policyNs : String) : EndpointSelector → Peer → Prop
  | _, .address _ => False
  | .zero, .pod ns _ => ns = policyNs
  | .newESFromLabels labelArray, .pod ns labels =>
    (∀ l ∈ labelArray, if l.key = namespaceLabel then l.value = ns
        else labels.lookup l.key = some l.value)
      ∧ ((∀ l ∈ labelArray, l.key ≠ namespaceLabel) → ns = policyNs)

/-- Cilium spells port and protocol out as texts, and some entry of the list must be the
connection's. -/
def PortRule.Matches (rule : PortRule) (conn : Connection) : Prop :=
  ∃ p ∈ rule.ports, p.port = toString conn.port ∧ p.protocol = conn.protocol.string

/-- A rule without endpoints and without CIDRs is about every peer; else one of them must match. The
ports of the rule restrict it further, if it has any. -/
def CiliumRule.Admits (c : Cluster) (policyNs : String) (rule : CiliumRule) (conn : Connection) :
    Prop :=
  (rule.endpoints = [] ∧ rule.cidr = []
      ∨ (∃ s ∈ rule.endpoints, s.Matches policyNs conn.peer)
      ∨ ∃ cidr ∈ rule.cidr, ∃ ip, conn.peer = .address ip ∧ c.inCIDR cidr ip)
    ∧ (rule.toPorts = [] ∨ ∃ p ∈ rule.toPorts, p.Matches conn)

def DefaultDenyConfig.get (config : DefaultDenyConfig) : Direction → Option Bool
  | .ingress => config.ingress
  | .egress => config.egress

/-- Where nothing is configured, a direction is restricted when it has rules. -/
def CiliumNetworkPolicy.Restricts (policy : CiliumNetworkPolicy) (dir : Direction) : Prop :=
  match policy.spec.enableDefaultDeny.get dir with
  | some deny => deny = true
  | none => policy.rules dir ≠ []

/-- As for the standard policy, with Cilium's own sense of being restricted in a direction. -/
def CiliumNetworkPolicy.Admits (c : Cluster) (policy : CiliumNetworkPolicy) (dir : Direction)
    (conn : Connection) : Prop :=
  policy.Restricts dir → ∃ rule ∈ policy.rules dir, rule.Admits c policy.objectMeta.ns conn

/-! ## What an address resolves to -/

/-- The first answer for an address: the namespace and the selector of its Service, unless there is
no Service or its selector is empty. A failed look-up counts as none found. -/
def selectedBy (env : Lookups) (ip : String) : Option (String × LabelMap) :=
  match env.getSvcSpec ip with
  | .ok (some svcSpec) =>
    if svcSpec.service.selector.entries.length > 0 then
      some (svcSpec.svcNamespace, svcSpec.service.selector)
    else none
  | _ => none

/-- The second answer for an address: the namespace and the labels of its pod, unless there is no
pod or it carries no label. -/
def labelledPod (env : Lookups) (ip : String) : Option (String × LabelMap) :=
  match env.getPodSpec ip with
  | .ok (some podSpec) =>
    if podSpec.pod.labels.entries.length > 0 then some (podSpec.podNamespace, podSpec.pod.labels)
    else none
  | _ => none

/-- What both generators make of an address: the Service behind it first, the pod second, and
nothing otherwise. -/
def resolvePod (env : Lookups) (ip : String) : Option (String × LabelMap) :=
  (selectedBy env ip).or (labelledPod env ip)

/-- A peer that stands for the pods `resolved`, or for the address `ip` itself. -/
def Reaches (c : Cluster) (ip : String) : Option (String × LabelMap) → Peer → Prop
  | some resolved, .pod ns labels => ns = resolved.1 ∧ resolved.2.Sub labels
  | none, .address a => c.inCIDR (ip ++ "/32") a
  | _, _ => False

/-- What Cilium makes of a namespace and labels of which it is only given the labels: a namespace
label among them names the namespace, else it is the policy's own. -/
def ciliumView (policyNs : String) (resolved : String × LabelMap) : String × LabelMap :=
  ((resolved.2.lookup namespaceLabel).getD policyNs, resolved.2.erase namespaceLabel)

theorem labels_ne_nil_of_resolvePod {env : Lookups} {ip : String} {resolved : String × LabelMap}
    (h : resolvePod env ip = some resolved) : resolved.2.entries ≠ [] := by
  rcases Option.or_eq_some_iff.mp h with h | ⟨_, h⟩
  · unfold selectedBy at h
    split at h
    · obtain ⟨hpos, h⟩ := Option.ite_none_right_eq_some.mp h
      obtain rfl := Option.some.inj h
      exact List.length_pos_iff.mp hpos
    · cases h
  · unfold labelledPod at h
    split at h
    · obtain ⟨hpos, h⟩ := Option.ite_none_right_eq_some.mp h
      obtain rfl := Option.some.inj h
      exact List.length_pos_iff.mp hpos
    · cases h

/-! ## From rules to records -/

/-- Some rule admits exactly when some usable record does: the peer condition `A` of a rule is the
condition `Q` on the address it is for, and its ports are those of the address's records. -/
theorem ExactRules.exists_rule_iff {ρ π : Type} {dir : Direction} {podDetail : PodDetail}
    {podTraffic : List PodTraffic} {isFor : String → ρ → Prop} {ports : ρ → List π}
    {port : Int → Protocol → π} {rules : List ρ}
    (h : ExactRules dir podDetail podTraffic isFor ports port rules) {A : ρ → Prop}
    {Q : String → Prop} (hA : ∀ ip rule, isFor ip rule → (A rule ↔ Q ip)) {R : π → Prop}
    {conn : Connection} (hR : ∀ portInt protocol, 0 < portInt ∧ portInt ≤ 65535 →
      (R (port portInt protocol) ↔ portInt = conn.port ∧ protocol = conn.protocol)) :
    (∃ rule ∈ rules, A rule ∧ (ports rule = [] ∨ ∃ p ∈ ports rule, R p))
      ↔ ∃ traffic ∈ podTraffic, Usable dir podDetail traffic conn.port
        ∧ protocolPtr traffic.protocol = conn.protocol ∧ Q traffic.dstIP := by
  constructor
  · rintro ⟨rule, hrule, hpeer, hport⟩
    obtain ⟨ip, hfor, hne, hmem⟩ := h.exists_peer hrule
    obtain ⟨p, hp, hRp⟩ := hport.resolve_left hne
    obtain ⟨traffic, htraffic, portInt, hu, rfl, rfl⟩ := (hmem p).mp hp
    obtain ⟨rfl, hproto⟩ := (hR _ _ (parsePort_range hu.port)).mp hRp
    exact ⟨traffic, htraffic, hu, hproto, (hA _ rule hfor).mp hpeer⟩
  · rintro ⟨traffic, htraffic, hu, hproto, hQ⟩
    obtain ⟨rule, hrule, hfor, hport⟩ := h.exists_rule htraffic hu
    refine ⟨rule, hrule, (hA _ rule hfor).mpr hQ, .inr ⟨_, hport, ?_⟩⟩
    exact (hR _ _ (parsePort_range hu.port)).mpr ⟨rfl, hproto⟩

/-- A usable record stands for the connection: right port, right protocol, and a peer that
`view` of what its address resolves to reaches. -/
def Justified (c : Cluster) (env : Lookups) (view : String × LabelMap → String × LabelMap)
    (dir : Direction) (podDetail : PodDetail) (podTraffic : List PodTraffic)
    (conn : Connection) : Prop :=
  ∃ traffic ∈ podTraffic, Usable dir podDetail traffic conn.port
    ∧ protocolPtr traffic.protocol = conn.protocol
    ∧ Reaches c traffic.dstIP ((resolvePod env traffic.dstIP).map view) conn.peer

namespace StandardPolicyGenerator

theorem podOrIPBlock_eq (env : Lookups) (ip : String) :
    podOrIPBlock env ip
      = match labelledPod env ip with
        | some resolved => selectorPeer resolved.2 resolved.1
        | none => ⟨none, none, some ⟨ip ++ "/32"⟩⟩ := by
  unfold podOrIPBlock labelledPod
  rcases env.getPodSpec ip with _ | (_ | podSpec)
  · rfl
  · rfl
  · dsimp only
    split <;> rfl

theorem peerOf_eq (env : Lookups) (ip : String) :
    peerOf env ip
      = match resolvePod env ip with
        | some resolved => selectorPeer resolved.2 resolved.1
        | none => ⟨none, none, some ⟨ip ++ "/32"⟩⟩ := by
  unfold peerOf createNetworkPolicyPeer resolvePod selectedBy
  rcases env.getSvcSpec ip with _ | (_ | svcSpec)
  · exact podOrIPBlock_eq env ip
  · exact podOrIPBlock_eq env ip
  · dsimp only
    split
    · rfl
    · exact podOrIPBlock_eq env ip

theorem metadataName_sub_iff (c : Cluster) (name ns : String) :
    LabelMap.Sub ((∅ : LabelMap).insert "kubernetes.io/metadata.name" name) (c.namespaceLabels ns)
      ↔ ns = name := by
  constructor
  · intro h
    have hname := h _ _ (AList.lookup_insert _)
    rw [c.metadataName] at hname
    exact Option.some.inj hname
  · rintro rfl key value h
    by_cases hkey : key = "kubernetes.io/metadata.name"
    · subst hkey
      rw [AList.lookup_insert] at h
      rw [c.metadataName, h]
    · rw [AList.lookup_insert_ne hkey] at h
      simp at h

theorem peerOf_matches_iff (c : Cluster) (policyNs : String) (env : Lookups) (ip : String)
    (peer : Peer) :
    (peerOf env ip).Matches c policyNs peer ↔ Reaches c ip (resolvePod env ip) peer := by
  rw [peerOf_eq]
  cases resolvePod env ip with
  | none => cases peer <;> simp [NetworkPolicyPeer.Matches, Reaches]
  | some resolved =>
    cases peer with
    | address a => simp [NetworkPolicyPeer.Matches, Reaches, selectorPeer]
    | pod ns labels =>
      simp only [NetworkPolicyPeer.Matches, selectorPeer, metadataName_sub_iff, true_and,
        Option.some.injEq, forall_eq', Reaches]

theorem port_matches_iff {conn : Connection} (portInt : Int) (protocol : Protocol)
    (h : 0 < portInt ∧ portInt ≤ 65535) :
    NetworkPolicyPort.Matches ⟨some (.fromInt portInt), some protocol⟩ conn
      ↔ portInt = conn.port ∧ protocol = conn.protocol := by
  simp [NetworkPolicyPort.Matches, IntOrString.intValue_fromInt h]

/-- **What a generated Kubernetes policy admits.** -/
theorem admits_iff {env : Env} {podName : String} {podTraffic : List PodTraffic}
    {podDetail : PodDetail} {policy : NetworkPolicy}
    (h : generate env podName podTraffic (some podDetail) = .ok policy) (c : Cluster)
    (dir : Direction) (conn : Connection) :
    policy.Admits c dir conn
      ↔ (HasUsable dir podDetail podTraffic ∨ (∀ dir, ¬ HasUsable dir podDetail podTraffic)) →
        Justified c env.toLookups id dir podDetail podTraffic conn := by
  unfold NetworkPolicy.Admits PolicyRule.Admits
  rw [policyTypes_of_generate h, rules_of_generate h]
  refine imp_congr_right fun _ => ?_
  rw [(transformRules_exact env dir podDetail podTraffic).exists_rule_iff
    (Q := fun ip => Reaches c ip (resolvePod env.toLookups ip) conn.peer) ?_ port_matches_iff]
  · simp only [Justified, Option.map_id_fun, id_eq]
  · -- the one peer of a rule matches where its address reaches
    rintro ip rule ⟨peer, hpeer, hrule⟩
    rw [createNetworkPolicyPeer_eq] at hpeer
    obtain rfl := Option.some.inj hpeer
    simp [hrule, peerOf_matches_iff]

end StandardPolicyGenerator

namespace CiliumPolicyGenerator

theorem podOrCIDR_eq (env : Lookups) (ip : String) :
    podOrCIDR env ip
      = match labelledPod env ip with
        | some resolved => ([createEndpointSelector resolved.2], [])
        | none => ([], [ip ++ "/32"]) := by
  unfold podOrCIDR labelledPod
  rcases env.getPodSpec ip with _ | (_ | podSpec)
  · rfl
  · rfl
  · dsimp only
    split <;> rfl

theorem resolvePeerForCilium_eq (env : Lookups) (ip : String) :
    resolvePeerForCilium env ip
      = match resolvePod env ip with
        | some resolved => ([createEndpointSelector resolved.2], [])
        | none => ([], [ip ++ "/32"]) := by
  unfold resolvePeerForCilium resolvePod selectedBy
  rcases env.getSvcSpec ip with _ | (_ | svcSpec)
  · exact podOrCIDR_eq env ip
  · exact podOrCIDR_eq env ip
  · dsimp only
    split
    · rfl
    · exact podOrCIDR_eq env ip

/-- **Cilium's reading of a selector made from labels alone.** -/
theorem createEndpointSelector_matches_iff {resolved : String × LabelMap}
    (hne : resolved.2.entries ≠ []) (c : Cluster) (ip policyNs : String) (peer : Peer) :
    (createEndpointSelector resolved.2).Matches policyNs peer
      ↔ Reaches c ip (some (ciliumView policyNs resolved)) peer := by
  obtain ⟨_, labels⟩ := resolved
  rw [createEndpointSelector, if_neg fun h => hne (List.length_eq_zero_iff.mp h)]
  cases peer with
  | address a => simp [EndpointSelector.Matches, Reaches]
  | pod ns podLabels =>
    simp only [EndpointSelector.Matches, Reaches, ciliumView, List.forall_mem_map, LabelMap.Sub,
      LabelMap.lookup_erase_eq_some_iff]
    rw [LabelMap.forall_entries_iff (P := fun key value =>
        if key = namespaceLabel then value = ns else podLabels.lookup key = some value),
      LabelMap.forall_entries_iff (P := fun key _ => key ≠ namespaceLabel)]
    constructor
    · rintro ⟨hall, hown⟩
      -- the namespace is the label's where there is one, and the policy's own otherwise
      refine ⟨?_, fun key value h => by simpa [h.1] using hall key value h.2⟩
      cases hlabel : labels.lookup namespaceLabel with
      | none =>
        refine hown fun key value h hkey => ?_
        rw [hkey, hlabel] at h
        cases h
      | some value => simpa [eq_comm] using hall _ _ hlabel
    · rintro ⟨hns, hsub⟩
      refine ⟨fun key value h => ?_, fun hnone => ?_⟩
      · split
        · next hkey =>
          rw [hns, ← hkey, h, Option.getD_some]
        · next hkey => exact hsub key value ⟨hkey, h⟩
      · rw [hns, Option.eq_none_iff_forall_ne_some.mpr fun value h => hnone _ value h rfl,
          Option.getD_none]

theorem port_matches_iff {conn : Connection} (portInt : Int) (protocol : Protocol)
    (h : 0 < portInt ∧ portInt ≤ 65535) :
    PortRule.Matches ⟨[⟨(IntOrString.fromInt portInt).string, protocol.string⟩]⟩ conn
      ↔ portInt = conn.port ∧ protocol = conn.protocol := by
  simp only [PortRule.Matches, List.mem_singleton, exists_eq_left, IntOrString.string_fromInt h]
  exact ⟨fun hm => ⟨Int.repr_injective hm.1, Protocol.string_inj hm.2⟩,
    fun hm => ⟨congrArg toString hm.1, congrArg Protocol.string hm.2⟩⟩

/-- A direction of a generated policy is restricted just as in the Kubernetes policy. -/
theorem restricts_iff {env : Env} {podName : String} {podTraffic : List PodTraffic}
    {podDetail : PodDetail} {policy : CiliumNetworkPolicy}
    (h : generate env podName podTraffic (some podDetail) = .ok policy) (dir : Direction) :
    policy.Restricts dir
      ↔ HasUsable dir podDetail podTraffic ∨ ∀ dir, ¬ HasUsable dir podDetail podTraffic := by
  unfold CiliumNetworkPolicy.Restricts
  have hrules : policy.rules dir ≠ [] ↔ HasUsable dir podDetail podTraffic := by
    rw [rules_of_generate h, ne_eq, transformRules_eq_nil_iff, rulesOf_eq_nil_iff, not_not]
  rw [enableDefaultDeny_of_generate h, hrules]
  split_ifs with hnil
  · -- the deny-all policy says so itself
    rw [rulesOf_eq_nil_both] at hnil
    cases dir <;> simp [DefaultDenyConfig.get, hnil]
  · rw [rulesOf_eq_nil_both] at hnil
    cases dir <;> simp [DefaultDenyConfig.get, hnil]

/-- **What a generated Cilium policy admits.** -/
theorem admits_iff {env : Env} {podName : String} {podTraffic : List PodTraffic}
    {podDetail : PodDetail} {policy : CiliumNetworkPolicy}
    (h : generate env podName podTraffic (some podDetail) = .ok policy) (c : Cluster)
    (dir : Direction) (conn : Connection) :
    policy.Admits c dir conn
      ↔ (HasUsable dir podDetail podTraffic ∨ (∀ dir, ¬ HasUsable dir podDetail podTraffic)) →
        Justified c env.toLookups (ciliumView podDetail.podNamespace) dir podDetail podTraffic
          conn := by
  unfold CiliumNetworkPolicy.Admits CiliumRule.Admits
  rw [restricts_iff h, rules_of_generate h, (target_of_generate h).1]
  refine imp_congr_right fun _ => ?_
  rw [(transformRules_exact env dir podDetail podTraffic).exists_rule_iff
    (Q := fun ip => Reaches c ip
      ((resolvePod env.toLookups ip).map (ciliumView podDetail.podNamespace)) conn.peer)
    ?_ port_matches_iff]
  · rfl
  · rintro ip rule ⟨hrule, -⟩
    rw [resolvePeerForCilium_eq] at hrule
    cases hresolved : resolvePod env.toLookups ip with
    | none =>
      -- an address range, which no pod falls under
      obtain ⟨hendpoints, hcidr⟩ : rule.endpoints = [] ∧ rule.cidr = [ip ++ "/32"] := by
        simpa [hresolved] using hrule
      rw [hendpoints, hcidr]
      cases conn.peer <;> simp [Reaches]
    | some resolved =>
      obtain ⟨hendpoints, hcidr⟩ :
          rule.endpoints = [createEndpointSelector resolved.2] ∧ rule.cidr = [] := by
        simpa [hresolved] using hrule
      have hne := labels_ne_nil_of_resolvePod hresolved
      rw [hendpoints, hcidr, Option.map_some, ← createEndpointSelector_matches_iff hne]
      simp

end CiliumPolicyGenerator

end KubeGuardian.Advisor
