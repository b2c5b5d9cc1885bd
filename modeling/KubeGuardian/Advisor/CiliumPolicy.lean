import KubeGuardian.Advisor.Types

/-!
# The generator of Cilium policies

`advisor/pkg/network/cilium_policy.go`.
-/

namespace KubeGuardian.Advisor.CiliumPolicyGenerator

open Lib

def getType : PolicyType := ciliumPolicy

abbrev addOrUpdateRule := @Advisor.addOrUpdateRule

abbrev processTrafficRules := @Advisor.processTrafficRules

/-- `createEndpointSelector`: one label of source `k8s` for each pod label. -/
def createEndpointSelector (podLabels : LabelMap) : EndpointSelector :=
  if podLabels.entries.length = 0 then .zero
  else .newESFromLabels (podLabels.entries.map fun entry => ⟨entry.1, entry.2, "k8s"⟩)

/-- What `resolvePeerForCilium` falls back on where no Service was found: the labels of the pod at
the address, or a block of the one address. -/
def podOrCIDR (env : Lookups) (peerIP : String) : List EndpointSelector × List String :=
  match env.getPodSpec peerIP with
  | .ok (some podSpec) =>
    if podSpec.pod.labels.entries.length > 0 then
      ([createEndpointSelector podSpec.pod.labels], [])
    else ([], [peerIP ++ "/32"])
  | _ => ([], [peerIP ++ "/32"])

/-- `resolvePeerForCilium`: endpoints or CIDRs, never both. The namespace of what was found is
dropped. -/
def resolvePeerForCilium (env : Lookups) (peerIP : String) :
    List EndpointSelector × List String :=
  match env.getSvcSpec peerIP with
  | .ok (some svcSpec) =>
    if svcSpec.service.selector.entries.length > 0 then
      ([createEndpointSelector svcSpec.service.selector], [])
    else podOrCIDR env peerIP
  | _ => podOrCIDR env peerIP

/-- `convertPortsToCiliumPortRules`: one rule for each port; a port without a number or a protocol
is left out. -/
def convertPortsToCiliumPortRules (ports : List NetworkPolicyPort) : List PortRule :=
  ports.filterMap fun port =>
    match port.port, port.protocol with
    | some p, some proto => some ⟨[⟨p.string, proto.string⟩]⟩
    | _, _ => none

/-- The body of `createCiliumIngressRuleForPeer` and of `createCiliumEgressRuleForPeer`. -/
def createCiliumRuleForPeer (env : Lookups) (peerIP : String) (ports : List NetworkPolicyPort) :
    Option CiliumRule :=
  let (endpoints, cidr) := resolvePeerForCilium env peerIP
  if endpoints.length > 0 then some ⟨endpoints, [], convertPortsToCiliumPortRules ports⟩
  -- endpoints win; both lists empty is a nil rule, which the loop skips
  else if cidr.length > 0 then some ⟨[], cidr, convertPortsToCiliumPortRules ports⟩
  else none

abbrev createCiliumIngressRuleForPeer := createCiliumRuleForPeer

abbrev createCiliumEgressRuleForPeer := createCiliumRuleForPeer

/-- The loop over the peers of `transformToCiliumIngressRules` and of
`transformToCiliumEgressRules`. -/
def transformRules (env : Env) (dir : Direction) (rules : List NetworkPolicyRule) :
    List CiliumRule :=
  (eachPeer (env.order dir) rules).filterMap fun (peerIP, ports) =>
    createCiliumRuleForPeer env.toLookups peerIP ports

def transformToCiliumIngressRules (env : Env) (rules : List NetworkPolicyRule) :
    List CiliumRule :=
  transformRules env .ingress rules

def transformToCiliumEgressRules (env : Env) (rules : List NetworkPolicyRule) :
    List CiliumRule :=
  transformRules env .egress rules

/-- `generateDefaultDenyPolicy`: no rules, and both directions denied by default. -/
def generateDefaultDenyPolicy (podDetail : PodDetail) : CiliumNetworkPolicy where
  typeMeta := createTypeMeta "CiliumNetworkPolicy" "cilium.io/v2"
  objectMeta := createObjectMeta (getPolicyName podDetail.name "cilium-policy-deny-all")
    podDetail.podNamespace (createStandardLabels podDetail.name "cilium-policy-deny-all")
  spec :=
    { endpointSelector := createEndpointSelector podDetail.pod.labels
      description := "Default-deny Cilium network policy for pod " ++ podDetail.name
      ingress := []
      egress := []
      enableDefaultDeny := ⟨some true, some true⟩ }

/-- The policy before any rule is added: both directions are left alone. -/
def emptyPolicy (podDetail : PodDetail) : CiliumNetworkPolicy where
  typeMeta := createTypeMeta "CiliumNetworkPolicy" "cilium.io/v2"
  objectMeta := createObjectMeta (getPolicyName podDetail.name "cilium-policy")
    podDetail.podNamespace (createStandardLabels podDetail.name "cilium-policy")
  spec :=
    { endpointSelector := createEndpointSelector podDetail.pod.labels
      description := "Cilium network policy for pod " ++ podDetail.name
        ++ " generated by xentra-advisor"
      ingress := []
      egress := []
      enableDefaultDeny := ⟨none, none⟩ }

/-- `addIngress` and `addEgress` are the two `if len(rules) > 0` statements of `Generate`. -/
def addIngress (env : Env) (ingressRules : List NetworkPolicyRule)
    (policy : CiliumNetworkPolicy) : CiliumNetworkPolicy :=
  if ingressRules.length > 0 then
    { policy with
      spec := { policy.spec with ingress := transformToCiliumIngressRules env ingressRules } }
  else policy

def addEgress (env : Env) (egressRules : List NetworkPolicyRule)
    (policy : CiliumNetworkPolicy) : CiliumNetworkPolicy :=
  if egressRules.length > 0 then
    { policy with
      spec := { policy.spec with egress := transformToCiliumEgressRules env egressRules } }
  else policy

/-- `Generate`: the deny-all policy where there is no traffic, or no rule came of it, and otherwise
the policy with the rules of both directions. -/
def generate (env : Env) (podName : String) (podTraffic : List PodTraffic)
    (podDetail : Option PodDetail) : Except String CiliumNetworkPolicy :=
  match podDetail with
  | none => .error s!"pod detail is nil for pod {podName}"
  | some podDetail =>
    if podTraffic.length = 0 then .ok (generateDefaultDenyPolicy podDetail)
    else
      let (ingressRules, egressRules) := processTrafficRules podTraffic podDetail
      let policy := addEgress env egressRules (addIngress env ingressRules (emptyPolicy podDetail))
      if policy.spec.ingress.length = 0 ∧ policy.spec.egress.length = 0 then
        .ok (generateDefaultDenyPolicy podDetail)
      else .ok policy

/-! ## What `generate` returns -/

theorem resolvePeerForCilium_cases (env : Lookups) (peerIP : String) :
    (∃ selector, resolvePeerForCilium env peerIP = ([selector], []))
      ∨ resolvePeerForCilium env peerIP = ([], [peerIP ++ "/32"]) := by
  unfold resolvePeerForCilium podOrCIDR
  split
  · split
    · exact .inl ⟨_, rfl⟩
    · split
      · split
        · exact .inl ⟨_, rfl⟩
        · exact .inr rfl
      · exact .inr rfl
  · split
    · split
      · exact .inl ⟨_, rfl⟩
      · exact .inr rfl
    · exact .inr rfl

theorem createCiliumRuleForPeer_eq (env : Lookups) (peerIP : String)
    (ports : List NetworkPolicyPort) :
    createCiliumRuleForPeer env peerIP ports
      = some ⟨(resolvePeerForCilium env peerIP).1, (resolvePeerForCilium env peerIP).2,
          convertPortsToCiliumPortRules ports⟩ := by
  unfold createCiliumRuleForPeer
  rcases resolvePeerForCilium_cases env peerIP with ⟨selector, h⟩ | h <;> rw [h] <;> rfl

theorem transformRules_eq (env : Env) (dir : Direction) (rules : List NetworkPolicyRule) :
    transformRules env dir rules
      = (eachPeer (env.order dir) rules).map fun entry =>
          ⟨(resolvePeerForCilium env.toLookups entry.1).1,
            (resolvePeerForCilium env.toLookups entry.1).2,
            convertPortsToCiliumPortRules entry.2⟩ := by
  unfold transformRules
  rw [← List.filterMap_eq_map']
  congr 1
  funext entry
  simp only [createCiliumRuleForPeer_eq]

theorem transformRules_eq_nil_iff (env : Env) (dir : Direction) (podDetail : PodDetail)
    (podTraffic : List PodTraffic) :
    transformRules env dir (rulesOf dir podDetail podTraffic) = []
      ↔ rulesOf dir podDetail podTraffic = [] := by
  rw [transformRules_eq, List.map_eq_nil_iff, eachPeer_eq_nil_iff]

/-- **`Generate` as one expression**: the deny-all policy where no record is usable, and the rules
of each direction that has some otherwise. -/
theorem generate_eq (env : Env) (podName : String) (podTraffic : List PodTraffic)
    (podDetail : PodDetail) :
    generate env podName podTraffic (some podDetail)
      = .ok (if rulesOf .ingress podDetail podTraffic = []
            ∧ rulesOf .egress podDetail podTraffic = []
          then generateDefaultDenyPolicy podDetail
          else addEgress env (rulesOf .egress podDetail podTraffic)
            (addIngress env (rulesOf .ingress podDetail podTraffic) (emptyPolicy podDetail))) := by
  unfold generate
  by_cases hnone : podTraffic = []
  · subst hnone
    rfl
  · have hlen : podTraffic.length ≠ 0 := fun h => hnone (List.length_eq_zero_iff.mp h)
    -- here the test is on the transformed rules, of which there are as many as peers
    have hnil := transformRules_eq_nil_iff env
    simp only [if_neg hlen, processTrafficRules_eq]
    unfold addIngress addEgress emptyPolicy
    by_cases hin : rulesOf .ingress podDetail podTraffic = [] <;>
      by_cases heg : rulesOf .egress podDetail podTraffic = [] <;>
      simp [hin, heg, hnil, List.length_pos_iff, transformToCiliumIngressRules,
        transformToCiliumEgressRules]

section Generated

variable {env : Env} {podName : String} {podTraffic : List PodTraffic} {podDetail : PodDetail}
  {policy : CiliumNetworkPolicy}

/-- The rules of a direction are those of its usable records, in the deny-all policy too. -/
theorem rules_of_generate (h : generate env podName podTraffic (some podDetail) = .ok policy)
    (dir : Direction) :
    policy.rules dir = transformRules env dir (rulesOf dir podDetail podTraffic) := by
  rw [generate_eq] at h
  obtain rfl := Except.ok.inj h
  have hnil : ∀ dir, transformRules env dir [] = [] := fun dir => by simp [transformRules_eq]
  by_cases hin : rulesOf .ingress podDetail podTraffic = [] <;>
    by_cases heg : rulesOf .egress podDetail podTraffic = [] <;>
    cases dir <;>
    simp [hin, heg, hnil, generateDefaultDenyPolicy, addIngress, addEgress, emptyPolicy,
      CiliumNetworkPolicy.rules, List.length_pos_iff, transformToCiliumIngressRules,
      transformToCiliumEgressRules]

/-- The explicit deny of both directions is set exactly where no record is usable. -/
theorem enableDefaultDeny_of_generate
    (h : generate env podName podTraffic (some podDetail) = .ok policy) :
    policy.spec.enableDefaultDeny
      = if rulesOf .ingress podDetail podTraffic = [] ∧ rulesOf .egress podDetail podTraffic = []
        then ⟨some true, some true⟩ else ⟨none, none⟩ := by
  rw [generate_eq] at h
  obtain rfl := Except.ok.inj h
  unfold addIngress addEgress
  split_ifs <;> rfl

theorem target_of_generate (h : generate env podName podTraffic (some podDetail) = .ok policy) :
    policy.objectMeta.ns = podDetail.podNamespace
      ∧ policy.spec.endpointSelector = createEndpointSelector podDetail.pod.labels := by
  rw [generate_eq] at h
  obtain rfl := Except.ok.inj h
  unfold addIngress addEgress
  split_ifs <;> exact ⟨rfl, rfl⟩

end Generated

end KubeGuardian.Advisor.CiliumPolicyGenerator
