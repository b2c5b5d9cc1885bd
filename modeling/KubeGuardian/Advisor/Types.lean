import KubeGuardian.Advisor.Rules

/-!
# Policy objects

The parts of the Kubernetes and Cilium API types that the generators fill in, with the helpers
of `advisor/pkg/network/types.go`. A rule for ingress names its peers `From`, one for egress
`To`; apart from that word they are one type, here and in the Cilium API.
-/

namespace KubeGuardian.Advisor

open Lib

/-- `PolicyType`, the type of policy that is asked for: any text may be. -/
abbrev PolicyType := String

def standardPolicy : PolicyType := "standard"
def ciliumPolicy : PolicyType := "cilium"

/-! ## Metadata -/

structure TypeMeta where
  kind : String
  apiVersion : String
  deriving DecidableEq

structure ObjectMeta where
  name : String
  ns : String
  labels : LabelMap
  deriving DecidableEq

def getPolicyName (podName policyType : String) : String := podName ++ "-" ++ policyType

/-- `CreateStandardLabels`: the labels of the policy object itself. -/
def createStandardLabels (podName resourceType : String) : LabelMap :=
  (((∅ : LabelMap).insert "app.kubernetes.io/name" podName).insert
    "app.kubernetes.io/component" resourceType).insert
    "app.kubernetes.io/part-of" "xentra-advisor"

def createTypeMeta (kind apiVersion : String) : TypeMeta := ⟨kind, apiVersion⟩

def createObjectMeta (name ns : String) (labels : LabelMap) : ObjectMeta := ⟨name, ns, labels⟩

/-! ## `networking.k8s.io/v1` -/

/-- A `metav1.LabelSelector` with match labels only. -/
structure LabelSelector where
  matchLabels : LabelMap
  deriving DecidableEq

/-- A block of addresses. No exceptions are ever set. -/
structure IPBlock where
  cidr : String
  deriving DecidableEq

structure NetworkPolicyPeer where
  podSelector : Option LabelSelector
  namespaceSelector : Option LabelSelector
  ipBlock : Option IPBlock
  deriving DecidableEq

structure PolicyRule where
  peers : List NetworkPolicyPeer
  ports : List NetworkPolicyPort
  deriving DecidableEq

/-- The spec of a standard policy. What it leaves out of `policyTypes` it leaves alone. -/
structure NetworkPolicySpec where
  podSelector : LabelSelector
  policyTypes : List Direction
  ingress : List PolicyRule
  egress : List PolicyRule
  deriving DecidableEq

structure NetworkPolicy where
  typeMeta : TypeMeta
  objectMeta : ObjectMeta
  spec : NetworkPolicySpec
  deriving DecidableEq

def NetworkPolicy.rules (policy : NetworkPolicy) : Direction → List PolicyRule
  | .ingress => policy.spec.ingress
  | .egress => policy.spec.egress

/-! ## `cilium.io/v2` -/

/-- A label, by the arguments of `labels.NewLabel`. -/
structure Label where
  key : String
  value : String
  source : String
  deriving DecidableEq

/-- A selector, by how it was made: the zero value, or `NewESFromLabels` of an array of labels.
The array is a set to Cilium. -/
inductive EndpointSelector where
  | zero
  | newESFromLabels (labelArray : List Label)
  deriving DecidableEq

structure PortProtocol where
  port : String
  protocol : String
  deriving DecidableEq

structure PortRule where
  ports : List PortProtocol
  deriving DecidableEq

/-- An `IngressRule` or an `EgressRule` of Cilium. -/
structure CiliumRule where
  endpoints : List EndpointSelector
  cidr : List String
  toPorts : List PortRule
  deriving DecidableEq

/-- `DefaultDenyConfig`: for each direction, whether what no rule admits is denied. Unset, Cilium
decides it by the rules. -/
structure DefaultDenyConfig where
  ingress : Option Bool
  egress : Option Bool
  deriving DecidableEq

structure CiliumSpec where
  endpointSelector : EndpointSelector
  description : String
  ingress : List CiliumRule
  egress : List CiliumRule
  enableDefaultDeny : DefaultDenyConfig
  deriving DecidableEq

structure CiliumNetworkPolicy where
  typeMeta : TypeMeta
  objectMeta : ObjectMeta
  spec : CiliumSpec
  deriving DecidableEq

def CiliumNetworkPolicy.rules (policy : CiliumNetworkPolicy) : Direction → List CiliumRule
  | .ingress => policy.spec.ingress
  | .egress => policy.spec.egress

/-! ## What a generator depends on -/

/-- The lookups, and the orders in which the maps of the two transformations are ranged over. -/
structure Env extends Lookups where
  order : Direction → Reordering (String × List NetworkPolicyPort)

end KubeGuardian.Advisor
