import KubeGuardian.Advisor.PolicyContent

/-!
# Cilium policies of the `k8s` package

`advisor/pkg/k8s/labels.go` and `transformToCiliumNetworkPolicy` of
`advisor/pkg/k8s/cilium_networkpolicies.go`, which ask the cluster for the controller of a pod
where the other generators use its labels as they are.
-/

namespace KubeGuardian.Advisor.K8s

open Lib

/-! ## How a function ends -/

structure OwnerReference where
  kind : String
  name : String
  deriving DecidableEq

/-- The errors this path hands up, by where they come from: a text of its own, an answer of the API,
or an owner of a kind it does not know. -/
inductive GoError where
  | msg (text : String)
  | api (err : ApiError)
  | unsupportedOwner (owner : OwnerReference)
  deriving DecidableEq

/-- Other than by returning a value. A nil pointer that is followed panics, and so does an index
out of range. -/
inductive Stop where
  | error (err : GoError)
  | panic
  deriving DecidableEq

/-- Following a pointer: `nil` is a panic. -/
def deref {α : Type} : Option α → Except Stop α
  | some a => .ok a
  | none => .error .panic

/-- A call of the Kubernetes API, its failure taken as an error of this path. -/
def request {α : Type} (answer : Except ApiError α) : Except Stop α :=
  answer.mapError fun err => .error (.api err)

theorem bind_eq_ok_iff {α β : Type} {x : Except Stop α} {f : α → Except Stop β} {b : β} :
    (x >>= f) = .ok b ↔ ∃ a, x = .ok a ∧ f a = .ok b := by
  cases x <;> simp [bind, Except.bind]

/-! ## Selector labels -/

/-- Of a pod this older path reads more than the generators: the namespace, the owners, and whether
it is on the host's network. -/
structure Pod where
  ns : String
  labels : LabelMap
  ownerReferences : List OwnerReference
  hostNetwork : Bool

structure PodDetail where
  name : String
  podNamespace : String
  pod : Pod

structure Service where
  ns : String
  selector : LabelMap

structure SvcDetail where
  service : Service

/-- The requests that are made of it: the owners of a ReplicaSet, and the selectors of the
controllers, which are pointers. -/
structure Clientset where
  replicaSets : String → String → Except ApiError (List OwnerReference)
  deployments : String → String → Except ApiError (Option LabelMap)
  statefulSets : String → String → Except ApiError (Option LabelMap)
  daemonSets : String → String → Except ApiError (Option LabelMap)
  jobs : String → String → Except ApiError (Option LabelMap)

/-- The selector of a controller of the pod, by the request `get`. -/
def matchLabelsOf (clientset : Option Clientset) (pod : Pod) (name : String)
    (get : Clientset → String → String → Except ApiError (Option LabelMap)) :
    Except Stop LabelMap := do
  let client ← deref clientset
  let selector ← request (get client pod.ns name)
  deref selector

/-- `GetOwnerRef`: the labels to select a pod by are those of its controller, found by the first
owner reference. A pod without an owner is selected by its own labels. -/
def getOwnerRef (clientset : Option Clientset) (pod : Pod) : Except Stop LabelMap :=
  match pod.ownerReferences with
  | [] => .ok pod.labels
  | owner :: _ =>
    match owner.kind with
    | "ReplicaSet" => do
      let client ← deref clientset
      let owners ← request (client.replicaSets pod.ns owner.name)
      -- a ReplicaSet without an owner: `OwnerReferences[0]` is out of range
      let deployment ← deref owners.head?
      matchLabelsOf clientset pod deployment.name (·.deployments)
    | "StatefulSet" => matchLabelsOf clientset pod owner.name (·.statefulSets)
    | "DaemonSet" => matchLabelsOf clientset pod owner.name (·.daemonSets)
    | "Job" => matchLabelsOf clientset pod owner.name (·.jobs)
    | _ => .error (.error (.unsupportedOwner owner))

/-- What an address is found to belong to. -/
inductive Origin where
  | pod (podDetail : PodDetail)
  | svc (svcDetail : SvcDetail)

/-- The namespace in the object's own metadata, and not the one of the details row. -/
def Origin.metadataNamespace : Origin → String
  | .pod podDetail => podDetail.pod.ns
  | .svc svcDetail => svcDetail.service.ns

/-- `detectSelectorLabels`: a Service is selected by its selector, a pod by its controller's labels.
-/
def detectSelectorLabels (clientset : Option Clientset) : Origin → Except Stop LabelMap
  | .pod podDetail => getOwnerRef clientset podDetail.pod
  | .svc svcDetail => .ok svcDetail.service.selector

/-! ## Endpoints -/

structure Lookups where
  getPodSpec : String → Except ApiError (Option PodDetail)
  getSvcSpec : String → Except ApiError (Option SvcDetail)

/-- The lookups, `unicode.ToUpper`, and the `Version` that a build sets. -/
structure Env extends Lookups where
  toUpperRune : Char → Char
  version : String

/-- `strings.ToUpper`, rune by rune. -/
def Env.toUpper (env : Env) (s : String) : String := String.ofList (s.toList.map env.toUpperRune)

/-- The part of the configuration that is handed down: the clientset, which may be missing. -/
structure Config where
  clientset : Option Clientset

/-- A selector that is made of match labels. -/
structure EndpointSelector where
  matchLabels : LabelMap
  deriving DecidableEq

/-- An error of the service lookup is logged, and the address taken to be external. -/
def svcOrigin (env : Lookups) (ip : String) : Option Origin :=
  match env.getSvcSpec ip with
  | .ok (some svcDetail) => some (.svc svcDetail)
  | _ => none

/-- Where both lookups leave `origin`. With `hostNetwork` the address is the node's, and the
function returns before it asks for a service. -/
def originOf (env : Lookups) (ip : String) : Option Origin :=
  match env.getPodSpec ip with
  | .ok (some podDetail) =>
    if podDetail.pod.hostNetwork then none else some (.pod podDetail)
  | _ => svcOrigin env ip

/-- `determineCiliumEndpointForTraffic`: the selectors for the peer of a record. An address that
nothing is known of, and one whose labels cannot be found, have none. -/
def determineCiliumEndpointForTraffic (env : Env) (traffic : PodTraffic)
    (config : Option Config) : Except Stop (List EndpointSelector) :=
  match config with
  | none => .error (.error (.msg "kubernetes configuration is nil"))
  | some config =>
    if config.clientset.isNone then .error (.error (.msg "kubernetes clientset is nil"))
    else if traffic.dstIP = "" then .ok []
    else match originOf env.toLookups traffic.dstIP with
    | none => .ok []
    | some origin =>
      match detectSelectorLabels config.clientset origin with
      | .error .panic => .error .panic
      | .error (.error _) => .ok []
      | .ok peerSelectorLabels =>
        if peerSelectorLabels.entries.length = 0 then .ok []
        else if origin.metadataNamespace ≠ "" then
          .ok [⟨peerSelectorLabels⟩,
            ⟨(∅ : LabelMap).insert "io.kubernetes.pod.namespace" origin.metadataNamespace⟩]
        else .ok [⟨peerSelectorLabels⟩]

/-! ## Rules -/

structure CiliumRule where
  endpoints : List EndpointSelector
  cidr : List String
  toPorts : List PortRule
  deriving DecidableEq

/-- `strconv.Atoi`: nothing but digits after the sign. -/
def atoi (s : String) : Option Int :=
  let (negative, digits) := splitSign s.toList
  if digits = [] ∨ ¬ digits.all Char.isDigit then none
  else
    let i : Int := if negative then -decimal digits else decimal digits
    if -2 ^ 63 ≤ i ∧ i < 2 ^ 63 then some i else none

/-- An ingress rule names endpoints and nothing else: for a peer without selectors it names no peer
at all. -/
def ingressRule (_traffic : PodTraffic) (endpointSelectors : List EndpointSelector)
    (ports : List PortRule) : CiliumRule :=
  ⟨endpointSelectors, [], ports⟩

/-- `ToCIDR` is for destinations that no selector was found for. -/
def egressRule (traffic : PodTraffic) (endpointSelectors : List EndpointSelector)
    (ports : List PortRule) : CiliumRule :=
  if endpointSelectors.length = 0 then ⟨endpointSelectors, [traffic.dstIP ++ "/32"], ports⟩
  else ⟨endpointSelectors, [], ports⟩

def ruleOf : Direction → PodTraffic → List EndpointSelector → List PortRule → CiliumRule
  | .ingress => ingressRule
  | .egress => egressRule

/-- One round of the loop in `processCiliumIngressRules` and `processCiliumEgressRules`: the rule
that it appends, if any. -/
def processRecord (env : Env) (config : Option Config) (dir : Direction) (traffic : PodTraffic) :
    Except Stop (Option CiliumRule) :=
  if env.toUpper traffic.trafficType ≠ dir.trafficType then .ok none
  else match determineCiliumEndpointForTraffic env traffic config with
  | .error .panic => .error .panic
  | .error (.error _) => .ok none
  | .ok endpointSelectors =>
    match atoi (traffic.portStr dir) with
    | none => .ok none
    | some port =>
      .ok (some (ruleOf dir traffic endpointSelectors
        [⟨[⟨toString port, env.toUpper traffic.protocol⟩]⟩]))

/-- The loop over the records. An error of one ends it, and the rules so far are dropped with it. -/
def processRecords (env : Env) (config : Option Config) (dir : Direction) :
    List PodTraffic → Except Stop (List CiliumRule)
  | [] => .ok []
  | traffic :: podTraffic => do
    let rule ← processRecord env config dir traffic
    let rules ← processRecords env config dir podTraffic
    .ok (rule.toList ++ rules)

/-- The JSON of a rule. The keys of an object are written in a fixed order, and a list that is empty
is left out. -/
structure RuleJson where
  endpoints : Option (List Labels)
  cidr : Option (List String)
  toPorts : Option (List PortRule)
  deriving DecidableEq

/-- The `omitempty` of a slice: an empty one is not encoded. -/
def omitEmpty {α : Type} : List α → Option (List α)
  | [] => none
  | l => some l

def CiliumRule.json (rule : CiliumRule) : RuleJson where
  endpoints := omitEmpty (rule.endpoints.map (·.matchLabels.content))
  cidr := omitEmpty rule.cidr
  toPorts := omitEmpty rule.toPorts

/-- One round of the loop in `deduplicateCiliumIngressRules` and `deduplicateCiliumEgressRules`. -/
def deduplicateRule (acc : List RuleJson × List CiliumRule) (rule : CiliumRule) :
    List RuleJson × List CiliumRule :=
  let (seen, deduplicated) := acc
  if rule.json ∈ seen then (seen, deduplicated)
  else (rule.json :: seen, deduplicated ++ [rule])

/-- `deduplicateCiliumIngressRules` and its egress twin: the first rule of each encoding, in their
order. -/
def deduplicateCiliumRules (rules : List CiliumRule) : List CiliumRule :=
  (rules.foldl deduplicateRule ([], [])).2

/-- The two functions for ingress and egress rules, which differ in the word they look for and the
rule they make. -/
def processCiliumRules (env : Env) (dir : Direction) (podTraffic : List PodTraffic)
    (config : Option Config) : Except Stop (List CiliumRule) :=
  match config with
  | none => .error (.error (.msg "kubernetes configuration is nil"))
  | some config =>
    if podTraffic.length = 0 then .ok []
    else do
      let rules ← processRecords env (some config) dir podTraffic
      .ok (deduplicateCiliumRules rules)

def processCiliumIngressRules (env : Env) : List PodTraffic → Option Config →
    Except Stop (List CiliumRule) :=
  processCiliumRules env .ingress

def processCiliumEgressRules (env : Env) : List PodTraffic → Option Config →
    Except Stop (List CiliumRule) :=
  processCiliumRules env .egress

/-! ## The policy -/

/-- The spec of the policy that this path writes: it sets no default deny. -/
structure CiliumSpec where
  endpointSelector : EndpointSelector
  ingress : List CiliumRule
  egress : List CiliumRule

structure CiliumNetworkPolicy where
  typeMeta : TypeMeta
  objectMeta : ObjectMeta
  spec : CiliumSpec

def CiliumNetworkPolicy.rules (policy : CiliumNetworkPolicy) : Direction → List CiliumRule
  | .ingress => policy.spec.ingress
  | .egress => policy.spec.egress

/-- `transformToCiliumNetworkPolicy`: both rule lists, then the labels of the pod itself, and the
policy around them. An error on the way is handed up. -/
def transformToCiliumNetworkPolicy (env : Env) (podTraffic : List PodTraffic)
    (podDetail : Option PodDetail) (config : Option Config) : Except Stop CiliumNetworkPolicy :=
  match config, podDetail with
  | none, _ => .error (.error (.msg "kubernetes configuration is nil"))
  | some _, none => .error (.error (.msg "pod detail is nil"))
  | some config, some podDetail => do
    let ingressRules ← processCiliumIngressRules env podTraffic (some config)
    let egressRules ← processCiliumEgressRules env podTraffic (some config)
    let podSelectorLabels ← detectSelectorLabels config.clientset (.pod podDetail)
    .ok
      { typeMeta := ⟨"CiliumNetworkPolicy", "cilium.io/v2"⟩
        objectMeta := ⟨podDetail.name, podDetail.podNamespace,
          ((∅ : LabelMap).insert "advisor.xentra.ai/managed-by" "xentra").insert
            "advisor.xentra.ai/version" env.version⟩
        spec :=
          { endpointSelector :=
              ⟨if podSelectorLabels.entries.length = 0 then
                  (∅ : LabelMap).insert "app" podDetail.name
                else podSelectorLabels⟩
            ingress := ingressRules
            egress := egressRules } }

end KubeGuardian.Advisor.K8s
