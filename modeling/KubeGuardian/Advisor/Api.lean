import KubeGuardian.Advisor.Port
import Mathlib.Data.List.AList

/-!
# What the advisor reads

The records of `advisor/pkg/api` and the two lookups that resolve an address, a Service first and
a pod second. A lookup is a fixed function of the address; it answers a value, nothing, or an
error. Of the Kubernetes objects only the fields that are read are kept.
-/

namespace KubeGuardian.Advisor

/-- A Go `map[string]string`, as an association list without a repeated key. -/
abbrev LabelMap := AList fun _ : String => String

/-- Every label of `sub` stands in `l` with its value. -/
def LabelMap.Sub (sub l : LabelMap) : Prop :=
  ∀ key value, sub.lookup key = some value → l.lookup key = some value

theorem LabelMap.Sub.refl (l : LabelMap) : l.Sub l := fun _ _ h => h

theorem LabelMap.Sub.trans {a b c : LabelMap} (hab : a.Sub b) (hbc : b.Sub c) : a.Sub c :=
  fun key value h => hbc key value (hab key value h)

theorem LabelMap.forall_entries_iff {labels : LabelMap} {P : String → String → Prop} :
    (∀ entry ∈ labels.entries, P entry.1 entry.2)
      ↔ ∀ key value, labels.lookup key = some value → P key value :=
  ⟨fun h key value hl => h ⟨key, value⟩ (AList.mem_lookup_iff.mp hl),
    fun h entry he => h entry.1 entry.2 (AList.mem_lookup_iff.mpr he)⟩

theorem LabelMap.lookup_erase_eq_some_iff {labels : LabelMap} {erased key value : String} :
    (labels.erase erased).lookup key = some value
      ↔ key ≠ erased ∧ labels.lookup key = some value := by
  by_cases hkey : key = erased
  · subst hkey
    simp
  · simp [hkey]

/-- A `pod_traffic` row as the advisor decodes it: the `Src` fields are the target pod, the `Dst`
fields its peer. A missing column decodes to the empty string. -/
structure PodTraffic where
  uuid : String
  srcPodName : String
  srcIP : String
  srcNamespace : String
  srcPodPort : String
  trafficType : String
  dstIP : String
  dstPort : String
  protocol : String
  deriving DecidableEq, Repr

structure Pod where
  labels : LabelMap
  deriving DecidableEq

structure PodDetail where
  podIP : String
  name : String
  podNamespace : String
  pod : Pod
  deriving DecidableEq

/-- An entry of a Service's `spec.ports`: the Service's own port and what it is mapped to in the
pods behind it. -/
structure ServicePort where
  port : Int
  targetPort : IntOrString
  protocol : Protocol
  deriving DecidableEq

structure Service where
  selector : LabelMap
  ports : List ServicePort
  deriving DecidableEq

structure SvcDetail where
  svcIp : String
  svcName : String
  svcNamespace : String
  service : Service
  deriving DecidableEq

abbrev ApiError := String

/-- The two look-ups of the generators, by address. `some` is an answer, `none` one that says there
is nothing, and an error one that could not be had. -/
structure Lookups where
  getSvcSpec : String → Except ApiError (Option SvcDetail)
  getPodSpec : String → Except ApiError (Option PodDetail)

/-! ## Directions -/

/-- Seen from the pod that a policy is for. -/
inductive Direction where
  | ingress
  | egress
  deriving DecidableEq, Repr

/-- The direction is what the controller wrote into the record; the pod's details are handed over
and not looked at. -/
def isIngressTraffic (traffic : PodTraffic) (_podDetail : PodDetail) : Bool :=
  traffic.trafficType = "INGRESS"

def isEgressTraffic (traffic : PodTraffic) (_podDetail : PodDetail) : Bool :=
  traffic.trafficType = "EGRESS"

end KubeGuardian.Advisor
