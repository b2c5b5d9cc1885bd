import KubeGuardian.Advisor.Types

/-!
# The generator of Kubernetes policies

`advisor/pkg/network/standard_policy.go`.
-/

namespace KubeGuardian.Advisor.StandardPolicyGenerator

open Lib

def getType : PolicyType := standardPolicy

abbrev addOrUpdateRule := @Advisor.addOrUpdateRule

abbrev processTrafficRules := @Advisor.processTrafficRules

def selectorPeer (matchLabels : LabelMap) (ns : String) : NetworkPolicyPeer where
  podSelector := some ⟨matchLabels⟩
  namespaceSelector := some ⟨(∅ : LabelMap).insert "kubernetes.io/metadata.name" ns⟩
  ipBlock := none

/-- What is fallen back on where no Service was found: the pod at the address, or a block of the one
address. -/
def podOrIPBlock (env : Lookups) (peerIP : String) : NetworkPolicyPeer :=
  let ipBlock : NetworkPolicyPeer := ⟨none, none, some ⟨peerIP ++ "/32"⟩⟩
  match env.getPodSpec peerIP with
  | .ok (some podSpec) =>
    if podSpec.pod.labels.entries.length > 0 then
      selectorPeer podSpec.pod.labels podSpec.podNamespace
    else ipBlock
  | _ => ipBlock

/-- `createNetworkPolicyPeer`: the Service's selector first, then the pod's labels, then the
address. The pointer it returns is never nil. -/
def createNetworkPolicyPeer (env : Lookups) (peerIP : String) : Option NetworkPolicyPeer :=
  match env.getSvcSpec peerIP with
  | .ok (some svcSpec) =>
    if svcSpec.service.selector.entries.length > 0 then
      some (selectorPeer svcSpec.service.selector svcSpec.svcNamespace)
    else some (podOrIPBlock env peerIP)
  | _ => some (podOrIPBlock env peerIP)

/-- The loop over the peers of `transformToNetworkPolicyIngressRules` and of
`transformToNetworkPolicyEgressRules`. -/
def transformRules (env : Env) (dir : Direction) (rules : List NetworkPolicyRule) :
    List PolicyRule :=
  (eachPeer (env.order dir) rules).filterMap fun (peerIP, ports) =>
    match createNetworkPolicyPeer env.toLookups peerIP with
    -- a peer that cannot be determined is skipped
    | none => none
    | some peerPolicy => some ⟨[peerPolicy], deduplicatePorts ports⟩

def transformToNetworkPolicyIngressRules (env : Env) (rules : List NetworkPolicyRule) :
    List PolicyRule :=
  transformRules env .ingress rules

def transformToNetworkPolicyEgressRules (env : Env) (rules : List NetworkPolicyRule) :
    List PolicyRule :=
  transformRules env .egress rules

/-- `generateDefaultDenyPolicy`: both directions are listed and neither has a rule. -/
def generateDefaultDenyPolicy (podDetail : PodDetail) : NetworkPolicy where
  typeMeta := createTypeMeta "NetworkPolicy" "networking.k8s.io/v1"
  objectMeta := createObjectMeta (getPolicyName podDetail.name "standard-policy-deny-all")
    podDetail.podNamespace (createStandardLabels podDetail.name "standard-policy-deny-all")
  spec :=
    { podSelector := ⟨podDetail.pod.labels⟩
      policyTypes := [.ingress, .egress]
      ingress := []
      egress := [] }

/-- The policy before any rule is added: no direction is listed. -/
def emptyPolicy (podDetail : PodDetail) : NetworkPolicy where
  typeMeta := createTypeMeta "NetworkPolicy" "networking.k8s.io/v1"
  objectMeta := createObjectMeta (getPolicyName podDetail.name "standard-policy")
    podDetail.podNamespace (createStandardLabels podDetail.name "standard-policy")
  spec :=
    { podSelector := ⟨podDetail.pod.labels⟩
      policyTypes := []
      ingress := []
      egress := [] }

/-- `addIngress` and `addEgress` are the two `if len(rules) > 0` statements of `Generate`. -/
def addIngress (env : Env) (ingressRules : List NetworkPolicyRule) (policy : NetworkPolicy) :
    NetworkPolicy :=
  if ingressRules.length > 0 then
    { policy with
      spec :=
        { policy.spec with
          policyTypes := policy.spec.policyTypes ++ [.ingress]
          ingress := transformToNetworkPolicyIngressRules env ingressRules } }
  else policy

/-- The egress half of `Generate`: the direction is listed only where it has rules. -/
def addEgress (env : Env) (egressRules : List NetworkPolicyRule) (policy : NetworkPolicy) :
    NetworkPolicy :=
  if egressRules.length > 0 then
    { policy with
      spec :=
        { policy.spec with
          policyTypes := policy.spec.policyTypes ++ [.egress]
          egress := transformToNetworkPolicyEgressRules env egressRules } }
  else policy

/-- `Generate`: the deny-all policy where there is no traffic, or no rule came of it, and otherwise
the policy with the rules of both directions. -/
def generate (env : Env) (podName : String) (podTraffic : List PodTraffic)
    (podDetail : Option PodDetail) : Except String NetworkPolicy :=
  match podDetail with
  | none => .error s!"pod detail is nil for pod {podName}"
  | some podDetail =>
    if podTraffic.length = 0 then .ok (generateDefaultDenyPolicy podDetail)
    else
      let (ingressRules, egressRules) := processTrafficRules podTraffic podDetail
      let policy := addEgress env egressRules (addIngress env ingressRules (emptyPolicy podDetail))
      if policy.spec.policyTypes.length = 0 then .ok (generateDefaultDenyPolicy podDetail)
      else .ok policy

/-! ## What `generate` returns -/

def peerOf (env : Lookups) (peerIP : String) : NetworkPolicyPeer :=
  (createNetworkPolicyPeer env peerIP).getD (podOrIPBlock env peerIP)

theorem createNetworkPolicyPeer_eq (env : Lookups) (peerIP : String) :
    createNetworkPolicyPeer env peerIP = some (peerOf env peerIP) := by
  unfold peerOf createNetworkPolicyPeer
  split
  · split <;> rfl
  · rfl

theorem transformRules_eq (env : Env) (dir : Direction) (rules : List NetworkPolicyRule) :
    transformRules env dir rules
      = (eachPeer (env.order dir) rules).map fun entry =>
          ⟨[peerOf env.toLookups entry.1], deduplicatePorts entry.2⟩ := by
  unfold transformRules
  rw [← List.filterMap_eq_map']
  congr 1
  funext entry
  simp only [createNetworkPolicyPeer_eq]

/-- **`Generate` as one expression**: the deny-all policy where no record is usable, and the rules
of each direction that has some otherwise. -/
theorem generate_eq (env : Env) (podName : String) (podTraffic : List PodTraffic)
    (podDetail : PodDetail) :
    generate env podName podTraffic (some podDetail)
      = .ok (if rulesOf .ingress podDetail podTraffic = []
            ∧ rulesOf .egress podDetail podTraffic = []
          then generateDefaultDenyPolicy podDetail
          else addEgress env (rulesOf .egress podDetail podTraffic)
            (addIngress env (rulesOf .ingress podDetail podTraffic) (emptyPolicy podDetail))) := by
  unfold generate
  by_cases hnone : podTraffic = []
  · subst hnone
    rfl
  · have hlen : podTraffic.length ≠ 0 := fun h => hnone (List.length_eq_zero_iff.mp h)
    simp only [if_neg hlen, processTrafficRules_eq]
    -- a policy type is listed exactly where its direction has rules, so none means no rules
    unfold addIngress addEgress emptyPolicy
    by_cases hin : rulesOf .ingress podDetail podTraffic = [] <;>
      by_cases heg : rulesOf .egress podDetail podTraffic = [] <;>
      simp [hin, heg, List.length_pos_iff]

section Generated

variable {env : Env} {podName : String} {podTraffic : List PodTraffic} {podDetail : PodDetail}
  {policy : NetworkPolicy}

/-- The rules of a direction are those of its usable records, in the deny-all policy too. -/
theorem rules_of_generate (h : generate env podName podTraffic (some podDetail) = .ok policy)
    (dir : Direction) :
    policy.rules dir = transformRules env dir (rulesOf dir podDetail podTraffic) := by
  rw [generate_eq] at h
  obtain rfl := Except.ok.inj h
  -- a direction that `Generate` passes over would have come to no rules
  have hnil : ∀ dir, transformRules env dir [] = [] := fun dir => by simp [transformRules_eq]
  by_cases hin : rulesOf .ingress podDetail podTraffic = [] <;>
    by_cases heg : rulesOf .egress podDetail podTraffic = [] <;>
    cases dir <;>
    simp [hin, heg, hnil, generateDefaultDenyPolicy, addIngress, addEgress, emptyPolicy,
      NetworkPolicy.rules, List.length_pos_iff, transformToNetworkPolicyIngressRules,
      transformToNetworkPolicyEgressRules]

/-- A direction is restricted when it has a usable record, or when neither has one. -/
theorem policyTypes_of_generate
    (h : generate env podName podTraffic (some podDetail) = .ok policy) (dir : Direction) :
    dir ∈ policy.spec.policyTypes
      ↔ HasUsable dir podDetail podTraffic ∨ ∀ dir, ¬ HasUsable dir podDetail podTraffic := by
  rw [generate_eq] at h
  obtain rfl := Except.ok.inj h
  rw [← rulesOf_eq_nil_both, ← not_not (a := HasUsable dir podDetail podTraffic),
    ← rulesOf_eq_nil_iff]
  by_cases hin : rulesOf .ingress podDetail podTraffic = [] <;>
    by_cases heg : rulesOf .egress podDetail podTraffic = [] <;>
    cases dir <;>
    simp [hin, heg, generateDefaultDenyPolicy, addIngress, addEgress, emptyPolicy,
      List.length_pos_iff]

theorem target_of_generate (h : generate env podName podTraffic (some podDetail) = .ok policy) :
    policy.objectMeta.ns = podDetail.podNamespace
      ∧ policy.spec.podSelector = ⟨podDetail.pod.labels⟩ := by
  rw [generate_eq] at h
  obtain rfl := Except.ok.inj h
  unfold addIngress addEgress
  split_ifs <;> exact ⟨rfl, rfl⟩

end Generated

end KubeGuardian.Advisor.StandardPolicyGenerator
