import KubeGuardian.Advisor.Admission
import Mathlib.Data.Finmap

/-!
# What a policy says

Two policies say the same when they differ in nothing but the order of a map's entries, which is
how they are written to a file. The rules of a direction are compared as a list, order and all, or
as a collection. Either way they come down to the peers that usable records name, to what is found
at each of them and to the ports that each was seen on.
-/

namespace KubeGuardian.Advisor

open Lib

/-! ## Contents

Two policies that differ in the order of their labels only are the same to Kubernetes. The content
of a policy forgets that order and keeps everything else.
-/

/-- Labels without an order. -/
abbrev Labels := Finmap fun _ : String => String

def LabelMap.content (labels : LabelMap) : Labels := labels.toFinmap

structure PeerContent where
  podSelector : Option Labels
  namespaceSelector : Option Labels
  ipBlock : Option IPBlock
  deriving DecidableEq

/-- A rule without the order of its labels; its ports keep theirs. -/
structure RuleContent where
  peers : List PeerContent
  ports : List NetworkPolicyPort
  deriving DecidableEq

def NetworkPolicyPeer.content (peer : NetworkPolicyPeer) : PeerContent where
  podSelector := peer.podSelector.map (·.matchLabels.content)
  namespaceSelector := peer.namespaceSelector.map (·.matchLabels.content)
  ipBlock := peer.ipBlock

def PolicyRule.content (rule : PolicyRule) : RuleContent :=
  ⟨rule.peers.map (·.content), rule.ports⟩

/-- What a selector says: the labels it was made of, as a multiset, or nothing for the zero value.
-/
def EndpointSelector.content : EndpointSelector → Option (Multiset Label)
  | .zero => none
  | .newESFromLabels labelArray => some labelArray

structure CiliumRuleContent where
  endpoints : List (Option (Multiset Label))
  cidr : List String
  toPorts : List PortRule
  deriving DecidableEq

def CiliumRule.content (rule : CiliumRule) : CiliumRuleContent :=
  ⟨rule.endpoints.map (·.content), rule.cidr, rule.toPorts⟩

/-- All of a policy but its rules. -/
def NetworkPolicy.header (policy : NetworkPolicy) :
    TypeMeta × ObjectMeta × LabelSelector × List Direction :=
  (policy.typeMeta, policy.objectMeta, policy.spec.podSelector, policy.spec.policyTypes)

def CiliumNetworkPolicy.header (policy : CiliumNetworkPolicy) :
    TypeMeta × ObjectMeta × EndpointSelector × String × DefaultDenyConfig :=
  (policy.typeMeta, policy.objectMeta, policy.spec.endpointSelector, policy.spec.description,
    policy.spec.enableDefaultDeny)

/-- The same rules in the same order, and all else the same. -/
def NetworkPolicy.SameContent (p q : NetworkPolicy) : Prop :=
  p.header = q.header ∧ ∀ dir, (p.rules dir).map (·.content) = (q.rules dir).map (·.content)

/-- The same policy up to the order of labels: rule by rule, the two say the same. -/
def CiliumNetworkPolicy.SameContent (p q : CiliumNetworkPolicy) : Prop :=
  p.header = q.header ∧ ∀ dir, (p.rules dir).map (·.content) = (q.rules dir).map (·.content)

/-- The same rules in any order, and all else the same. -/
def NetworkPolicy.SameRules (p q : NetworkPolicy) : Prop :=
  p.header = q.header
    ∧ ∀ dir, ((p.rules dir).map (·.content)).Perm ((q.rules dir).map (·.content))

/-- The same policy up to the order of labels and of rules. -/
def CiliumNetworkPolicy.SameRules (p q : CiliumNetworkPolicy) : Prop :=
  p.header = q.header
    ∧ ∀ dir, ((p.rules dir).map (·.content)).Perm ((q.rules dir).map (·.content))

/-! ## Peers and their ports

The records of a direction as a table from peer addresses to the ports seen with them, which does
not depend on the order in which the generator ranges over its map.
-/

/-- The addresses that the usable records name as peers. -/
def peerIPs (dir : Direction) (podDetail : PodDetail) (podTraffic : List PodTraffic) :
    Finset String :=
  ((observations dir podDetail podTraffic).map Prod.fst).toFinset

/-- The ports that usable records show for a peer, each where it first comes. -/
def portsSeen (dir : Direction) (podDetail : PodDetail) (podTraffic : List PodTraffic)
    (ip : String) : List PortValue :=
  Grouping.valuesAt (observations dir podDetail podTraffic) ip

/-- What is found at an address to select by: a namespace and labels, or but the address. -/
def found (env : Lookups) (ip : String) : (String × Labels) ⊕ String :=
  match resolvePod env ip with
  | some resolved => .inl (resolved.1, resolved.2.content)
  | none => .inr ip

section EachPeer

variable {dir : Direction} {podDetail : PodDetail} {podTraffic : List PodTraffic}

/-- Each peer comes with the ports seen for it. -/
theorem groups_eq :
    (groupsOf dir podDetail podTraffic).groups
      = ((groupsOf dir podDetail podTraffic).groups.map Prod.fst).map
        fun ip => (ip, portsSeen dir podDetail podTraffic ip) := by
  rw [List.map_map]
  refine (List.map_id' _).symm.trans (List.map_congr_left fun g hg => ?_)
  exact Prod.ext rfl (Grouping.values_ofList hg)

theorem keys_groupsOf :
    (((groupsOf dir podDetail podTraffic).groups.map Prod.fst : List String) : Multiset String)
      = (peerIPs dir podDetail podTraffic).val := by
  have hnodup := (groupsOf dir podDetail podTraffic).keys_nodup
  have hmem : ((groupsOf dir podDetail podTraffic).groups.map Prod.fst).toFinset
      = peerIPs dir podDetail podTraffic := by
    ext ip
    rw [List.mem_toFinset, groupsOf, Grouping.mem_keys_ofList, peerIPs, List.mem_toFinset]
    simp
  rw [← hmem, List.toFinset_val, hnodup.dedup]

/-- **The range over the peers, as a collection.** -/
theorem eachPeer_map_coe {γ : Type} (o : Reordering (String × List NetworkPolicyPort))
    (F : String × List NetworkPolicyPort → γ) :
    (((eachPeer o (rulesOf dir podDetail podTraffic)).map F : List γ) : Multiset γ)
      = (peerIPs dir podDetail podTraffic).val.map
        fun ip => F (ip, (portsSeen dir podDetail podTraffic ip).map PortValue.toPort) := by
  have hperm := (eachPeer_perm o dir podDetail podTraffic).map F
  rw [Multiset.coe_eq_coe.mpr hperm, groups_eq, ← keys_groupsOf, Multiset.map_coe]
  simp only [List.map_map]
  rfl

/-- The same, of entries that come to what is found at their addresses and to their ports. -/
theorem eachPeer_map_content {γ φ : Type} {find : String → φ}
    {entryContent : String × List NetworkPolicyPort → γ} {ruleContent : φ × List PortValue → γ}
    (hentry : ∀ ip ∈ peerIPs dir podDetail podTraffic,
      entryContent (ip, (portsSeen dir podDetail podTraffic ip).map PortValue.toPort)
        = ruleContent (find ip, portsSeen dir podDetail podTraffic ip))
    (o : Reordering (String × List NetworkPolicyPort)) :
    (((eachPeer o (rulesOf dir podDetail podTraffic)).map entryContent : List γ) : Multiset γ)
      = ((peerIPs dir podDetail podTraffic).val.map
          fun ip => (find ip, portsSeen dir podDetail podTraffic ip)).map ruleContent := by
  rw [eachPeer_map_coe, Multiset.map_map]
  exact Multiset.map_congr rfl hentry

/-- **Whether the order of the range shows**: it does unless all peers come to the same. -/
theorem eachPeer_map_eq_iff {γ : Type} (F : String × List NetworkPolicyPort → γ) :
    (∀ o o', (eachPeer o (rulesOf dir podDetail podTraffic)).map F
        = (eachPeer o' (rulesOf dir podDetail podTraffic)).map F)
      ↔ ∀ ip ∈ peerIPs dir podDetail podTraffic, ∀ ip' ∈ peerIPs dir podDetail podTraffic,
        F (ip, (portsSeen dir podDetail podTraffic ip).map PortValue.toPort)
          = F (ip', (portsSeen dir podDetail podTraffic ip').map PortValue.toPort) := by
  have hmem : ∀ y, y ∈ (eachPeer .stored (rulesOf dir podDetail podTraffic)).map F
      ↔ ∃ ip ∈ peerIPs dir podDetail podTraffic,
        F (ip, (portsSeen dir podDetail podTraffic ip).map PortValue.toPort) = y := fun y => by
    rw [← Multiset.mem_coe, eachPeer_map_coe, Multiset.mem_map]
    rfl
  unfold eachPeer at hmem ⊢
  rw [Reordering.map_apply_eq_iff]
  constructor
  · intro h ip hip ip' hip'
    obtain ⟨a, ha, haF⟩ := List.mem_map.mp ((hmem _).mpr ⟨ip, hip, rfl⟩)
    obtain ⟨b, hb, hbF⟩ := List.mem_map.mp ((hmem _).mpr ⟨ip', hip', rfl⟩)
    rw [← haF, ← hbF]
    exact h a ha b hb
  · intro h a ha b hb
    obtain ⟨ip, hip, hipF⟩ := (hmem (F a)).mp (List.mem_map_of_mem ha)
    obtain ⟨ip', hip', hipF'⟩ := (hmem (F b)).mp (List.mem_map_of_mem hb)
    rw [← hipF, ← hipF']
    exact h ip hip ip' hip'

/-- No port is seen twice for a peer, as both generators drop repetitions. -/
theorem portsSeen_nodup {ip : String} (hip : ip ∈ peerIPs dir podDetail podTraffic) :
    (portsSeen dir podDetail podTraffic ip).Nodup := by
  rw [← Finset.mem_val, ← keys_groupsOf, Multiset.mem_coe, List.mem_map] at hip
  obtain ⟨g, hg, rfl⟩ := hip
  have hvalues : g.2 = portsSeen dir podDetail podTraffic g.1 := Grouping.values_ofList hg
  rw [← hvalues]
  exact (groupsOf dir podDetail podTraffic).values_nodup g hg

end EachPeer

/-! ## The rules of the two generators

For each of them: what a rule says as a function of what its peer's address was resolved to and of
the ports, and that this function is injective.
-/

/-- Labels with the same content are the same but for their order. -/
theorem content_inj {a b : LabelMap} (h : a.content = b.content) : a.entries.Perm b.entries :=
  AList.toFinmap_eq.mp h

namespace StandardPolicyGenerator

def peerContent : (String × Labels) ⊕ String → PeerContent
  | .inl (ns, labels) =>
    ⟨some labels,
      some (LabelMap.content ((∅ : LabelMap).insert "kubernetes.io/metadata.name" ns)), none⟩
  | .inr ip => ⟨none, none, some ⟨ip ++ "/32"⟩⟩

/-- Different resolutions make for different peers. -/
theorem peerContent_injective : Function.Injective peerContent := by
  rintro (⟨ns, labels⟩ | ip) (⟨ns', labels'⟩ | ip') h
  · simp only [peerContent, PeerContent.mk.injEq, Option.some.injEq, and_true] at h
    obtain ⟨rfl, hns⟩ := h
    have hperm := content_inj hns
    rw [AList.entries_insert_of_notMem (AList.notMem_empty _),
      AList.entries_insert_of_notMem (AList.notMem_empty _)] at hperm
    simpa using hperm
  · simp [peerContent] at h
  · simp [peerContent] at h
  · simpa [peerContent] using h

/-- What a peer says is what its address was resolved to. -/
theorem content_peerOf (env : Lookups) (ip : String) :
    (peerOf env ip).content = peerContent (found env ip) := by
  rw [peerOf_eq, found]
  cases resolvePod env ip <;> rfl

def ruleContent (entry : ((String × Labels) ⊕ String) × List PortValue) : RuleContent :=
  ⟨[peerContent entry.1], entry.2.map PortValue.toPort⟩

/-- A rule tells its peer's resolution and its ports. -/
theorem ruleContent_injective : Function.Injective ruleContent := by
  rintro ⟨a, vs⟩ ⟨b, ws⟩ h
  simp only [ruleContent, RuleContent.mk.injEq, List.cons.injEq, and_true] at h
  obtain ⟨hpeer, hports⟩ := h
  have hvalues : vs = ws := List.map_injective_iff.mpr (fun _ _ => PortValue.toPort_inj) hports
  rw [peerContent_injective hpeer, hvalues]

/-- The content of the rule that an entry of the map makes. -/
def entryContent (env : Lookups) (entry : String × List NetworkPolicyPort) : RuleContent :=
  PolicyRule.content ⟨[peerOf env entry.1], deduplicatePorts entry.2⟩

/-- What a rule says of an address that was seen. -/
theorem entryContent_eq {env : Lookups} {dir : Direction} {podDetail : PodDetail}
    {podTraffic : List PodTraffic} {ip : String} (hip : ip ∈ peerIPs dir podDetail podTraffic) :
    entryContent env (ip, (portsSeen dir podDetail podTraffic ip).map PortValue.toPort)
      = ruleContent (found env ip, portsSeen dir podDetail podTraffic ip) := by
  unfold entryContent PolicyRule.content ruleContent
  rw [deduplicatePorts_map (portsSeen_nodup hip), List.map_singleton, content_peerOf]

/-- The rules of a direction say what the entries of the map say, in the order in which it is ranged
over. -/
theorem rules_map_content {env : Env} {podName : String} {podTraffic : List PodTraffic}
    {podDetail : PodDetail} {policy : NetworkPolicy}
    (h : generate env podName podTraffic (some podDetail) = .ok policy) (dir : Direction) :
    (policy.rules dir).map (·.content)
      = (eachPeer (env.order dir) (rulesOf dir podDetail podTraffic)).map
          (entryContent env.toLookups) := by
  rw [rules_of_generate h, transformRules_eq, List.map_map]
  rfl

/-- The rules as a collection. -/
theorem rules_content_coe {env : Env} {podName : String} {podTraffic : List PodTraffic}
    {podDetail : PodDetail} {policy : NetworkPolicy}
    (h : generate env podName podTraffic (some podDetail) = .ok policy) (dir : Direction) :
    (((policy.rules dir).map (·.content) : List RuleContent) : Multiset RuleContent)
      = ((peerIPs dir podDetail podTraffic).val.map
          fun ip => (found env.toLookups ip, portsSeen dir podDetail podTraffic ip)).map
            ruleContent := by
  rw [rules_map_content h]
  exact eachPeer_map_content (fun ip hip => entryContent_eq hip) (env.order dir)

/-- The lookups and the orders show in the rules and nowhere else. -/
theorem header_of_generate {env env' : Env} {podName : String} {podTraffic : List PodTraffic}
    {podDetail : PodDetail} {p q : NetworkPolicy}
    (hp : generate env podName podTraffic (some podDetail) = .ok p)
    (hq : generate env' podName podTraffic (some podDetail) = .ok q) : p.header = q.header := by
  rw [generate_eq] at hp hq
  obtain rfl := Except.ok.inj hp
  obtain rfl := Except.ok.inj hq
  unfold addIngress addEgress
  split_ifs <;> rfl

section Compared

variable {env env' : Env} {podName : String} {podTraffic : List PodTraffic}
  {podDetail : PodDetail} {p q : NetworkPolicy}

/-- **Two policies made of the same records have the same content** exactly when their rules say the
same in the same order. -/
theorem sameContent_iff (hp : generate env podName podTraffic (some podDetail) = .ok p)
    (hq : generate env' podName podTraffic (some podDetail) = .ok q) :
    p.SameContent q ↔ ∀ dir,
      (eachPeer (env.order dir) (rulesOf dir podDetail podTraffic)).map
          (entryContent env.toLookups)
        = (eachPeer (env'.order dir) (rulesOf dir podDetail podTraffic)).map
          (entryContent env'.toLookups) := by
  unfold NetworkPolicy.SameContent
  simp only [rules_map_content hp, rules_map_content hq, header_of_generate hp hq, true_and]

/-- **They have the same rules in whatever order** exactly when the peers resolve alike, as often as
they occur. -/
theorem sameRules_iff (hp : generate env podName podTraffic (some podDetail) = .ok p)
    (hq : generate env' podName podTraffic (some podDetail) = .ok q) :
    p.SameRules q ↔ ∀ dir,
      (peerIPs dir podDetail podTraffic).val.map
          (fun ip => (found env.toLookups ip, portsSeen dir podDetail podTraffic ip))
        = (peerIPs dir podDetail podTraffic).val.map
          fun ip => (found env'.toLookups ip, portsSeen dir podDetail podTraffic ip) := by
  unfold NetworkPolicy.SameRules
  simp only [← Multiset.coe_eq_coe, rules_content_coe hp, rules_content_coe hq,
    header_of_generate hp hq, true_and, (Multiset.map_injective ruleContent_injective).eq_iff]

end Compared

end StandardPolicyGenerator

namespace CiliumPolicyGenerator

def peerContent : Labels ⊕ String → List (Option (Multiset Label)) × List String
  | .inl labels =>
    ([if labels.entries.card = 0 then none
      else some (labels.entries.map fun entry => ⟨entry.1, entry.2, "k8s"⟩)], [])
  | .inr ip => ([], [ip ++ "/32"])

theorem peerContent_injective : Function.Injective peerContent := by
  have hlabel : Function.Injective
      fun entry : (_ : String) × String => Label.mk entry.1 entry.2 "k8s" := by
    rintro ⟨key, value⟩ ⟨key', value'⟩ h
    simpa using h
  rintro (labels | ip) (labels' | ip') h
  · simp only [peerContent, Prod.mk.injEq, List.cons.injEq, and_true] at h
    refine congrArg Sum.inl (Finmap.ext ?_)
    split_ifs at h with hnone hnone' hnone'
    · rw [Multiset.card_eq_zero.mp hnone, Multiset.card_eq_zero.mp hnone']
    · exact Multiset.map_injective hlabel (Option.some.inj h)
  · simp [peerContent] at h
  · simp [peerContent] at h
  · simpa [peerContent] using h

/-- Of what is found the namespace does not go into a rule. -/
def foundLabels (env : Lookups) (ip : String) : Labels ⊕ String := (found env ip).map Prod.snd id

/-- What a peer of a Cilium rule says is what its address was resolved to, without the namespace. -/
theorem content_resolvePeer (env : Lookups) (ip : String) :
    ((resolvePeerForCilium env ip).1.map (·.content), (resolvePeerForCilium env ip).2)
      = peerContent (foundLabels env ip) := by
  rw [resolvePeerForCilium_eq, foundLabels, found]
  cases resolvePod env ip with
  | none => rfl
  | some resolved =>
    have hcard : (resolved.2.content.entries).card = resolved.2.entries.length := rfl
    simp only [Sum.map_inl, peerContent, hcard, createEndpointSelector, List.map_singleton]
    split <;> rfl

def ruleContent (entry : (Labels ⊕ String) × List PortValue) : CiliumRuleContent :=
  ⟨(peerContent entry.1).1, (peerContent entry.1).2, entry.2.map toPortRule⟩

theorem ruleContent_injective : Function.Injective ruleContent := by
  rintro ⟨a, vs⟩ ⟨b, ws⟩ h
  simp only [ruleContent, CiliumRuleContent.mk.injEq] at h
  obtain ⟨hendpoints, hcidr, hports⟩ := h
  have hvalues : vs = ws := List.map_injective_iff.mpr (fun _ _ => toPortRule_inj) hports
  rw [peerContent_injective (Prod.ext hendpoints hcidr), hvalues]

def entryContent (env : Lookups) (entry : String × List NetworkPolicyPort) : CiliumRuleContent :=
  CiliumRule.content ⟨(resolvePeerForCilium env entry.1).1, (resolvePeerForCilium env entry.1).2,
    convertPortsToCiliumPortRules entry.2⟩

theorem entryContent_eq (env : Lookups) (ip : String) (vs : List PortValue) :
    entryContent env (ip, vs.map PortValue.toPort) = ruleContent (foundLabels env ip, vs) := by
  have hpeer := content_resolvePeer env ip
  unfold entryContent CiliumRule.content ruleContent
  rw [convertPorts_map, ← hpeer]

theorem rules_map_content {env : Env} {podName : String} {podTraffic : List PodTraffic}
    {podDetail : PodDetail} {policy : CiliumNetworkPolicy}
    (h : generate env podName podTraffic (some podDetail) = .ok policy) (dir : Direction) :
    (policy.rules dir).map (·.content)
      = (eachPeer (env.order dir) (rulesOf dir podDetail podTraffic)).map
          (entryContent env.toLookups) := by
  rw [rules_of_generate h, transformRules_eq, List.map_map]
  rfl

/-- In whatever order, the rules say what the peers of the records were resolved to. -/
theorem rules_content_coe {env : Env} {podName : String} {podTraffic : List PodTraffic}
    {podDetail : PodDetail} {policy : CiliumNetworkPolicy}
    (h : generate env podName podTraffic (some podDetail) = .ok policy) (dir : Direction) :
    (((policy.rules dir).map (·.content) : List CiliumRuleContent) : Multiset CiliumRuleContent)
      = ((peerIPs dir podDetail podTraffic).val.map
          fun ip => (foundLabels env.toLookups ip, portsSeen dir podDetail podTraffic ip)).map
            ruleContent := by
  rw [rules_map_content h]
  exact eachPeer_map_content (fun ip _ => entryContent_eq env.toLookups ip _) (env.order dir)

/-- Everything but the rules is the same for the same records. -/
theorem header_of_generate {env env' : Env} {podName : String} {podTraffic : List PodTraffic}
    {podDetail : PodDetail} {p q : CiliumNetworkPolicy}
    (hp : generate env podName podTraffic (some podDetail) = .ok p)
    (hq : generate env' podName podTraffic (some podDetail) = .ok q) : p.header = q.header := by
  rw [generate_eq] at hp hq
  obtain rfl := Except.ok.inj hp
  obtain rfl := Except.ok.inj hq
  unfold addIngress addEgress
  split_ifs <;> rfl

section Compared

variable {env env' : Env} {podName : String} {podTraffic : List PodTraffic}
  {podDetail : PodDetail} {p q : CiliumNetworkPolicy}

theorem sameContent_iff (hp : generate env podName podTraffic (some podDetail) = .ok p)
    (hq : generate env' podName podTraffic (some podDetail) = .ok q) :
    p.SameContent q ↔ ∀ dir,
      (eachPeer (env.order dir) (rulesOf dir podDetail podTraffic)).map
          (entryContent env.toLookups)
        = (eachPeer (env'.order dir) (rulesOf dir podDetail podTraffic)).map
          (entryContent env'.toLookups) := by
  unfold CiliumNetworkPolicy.SameContent
  simp only [rules_map_content hp, rules_map_content hq, header_of_generate hp hq, true_and]

theorem sameRules_iff (hp : generate env podName podTraffic (some podDetail) = .ok p)
    (hq : generate env' podName podTraffic (some podDetail) = .ok q) :
    p.SameRules q ↔ ∀ dir,
      (peerIPs dir podDetail podTraffic).val.map
          (fun ip => (foundLabels env.toLookups ip, portsSeen dir podDetail podTraffic ip))
        = (peerIPs dir podDetail podTraffic).val.map
          fun ip => (foundLabels env'.toLookups ip, portsSeen dir podDetail podTraffic ip) := by
  unfold CiliumNetworkPolicy.SameRules
  simp only [← Multiset.coe_eq_coe, rules_content_coe hp, rules_content_coe hq,
    header_of_generate hp hq, true_and, (Multiset.map_injective ruleContent_injective).eq_iff]

end Compared

end CiliumPolicyGenerator

end KubeGuardian.Advisor
