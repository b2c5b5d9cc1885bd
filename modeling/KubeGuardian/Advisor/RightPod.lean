import KubeGuardian.Advisor.PolicyService

/-!
# Whose policy is it?

The service asks for traffic by pod name but for the pod's details by address, and addresses move
from pod to pod.

* **`generated_for_pod_iff`** — a policy asked for by a pod's name is that pod's, whichever rows
  come first, exactly when no other pod's detail holds an address that a record of the name can
  be looked up by.
-/

namespace KubeGuardian.Advisor

open Lib Broker

def Policy.IsFor (ns : String) (labels : LabelMap) : Policy → Prop
  | .standard policy => policy.objectMeta.ns = ns ∧ policy.spec.podSelector = ⟨labels⟩
  | .cilium policy => policy.objectMeta.ns = ns
      ∧ policy.spec.endpointSelector = CiliumPolicyGenerator.createEndpointSelector labels

theorem Policy.GeneratedBy.isFor {env : Env} {podName : String} {podTraffic : List PodTraffic}
    {podDetail : PodDetail} {policy : Policy}
    (h : policy.GeneratedBy env podName podTraffic podDetail) :
    policy.IsFor podDetail.podNamespace podDetail.pod.labels := by
  cases h with
  | standard h => exact StandardPolicyGenerator.target_of_generate h
  | cilium h => exact CiliumPolicyGenerator.target_of_generate h

def lastNamespace (podName : String) (reqs : List (Orders × Post)) : String :=
  (lastSome (·.podNamespace) (specsOf podName (podSpecs reqs))).getD ""

def lastPodObj (podName : String) (reqs : List (Orders × Post)) : Option String :=
  lastSome (·.podObj) (specsOf podName (podSpecs reqs))

/-- The output is about the pod `podName` as it was last reported. -/
def PolicyOutput.IsForPod (decodePod : String → Except ApiError Pod)
    (reqs : List (Orders × Post)) (podName : String) (output : PolicyOutput) : Prop :=
  output.podName = podName
    ∧ ∃ pod, World.decodePodObj decodePod (lastPodObj podName reqs) = .ok pod
      ∧ output.policy.IsFor (lastNamespace podName reqs) pod.labels

/-- Whatever the policies made for `podName`, they are about that pod. -/
def PoliciesAreForPod (decodePod : String → Except ApiError Pod) (reqs : List (Orders × Post))
    (podName : String) : Prop :=
  ∀ w : World, w.db = serve reqs → w.decodePod = decodePod →
    ∀ defaultType policyType output,
      (createPolicyService defaultType).generatePolicy w podName policyType = .ok output →
      output.IsForPod decodePod reqs podName

/-- No pod but `podName` holds an address by which its details can be looked up. -/
def LookupsOwn (decodePod : String → Except ApiError Pod) (db : Db) (podName : String) : Prop :=
  ∀ row ∈ db.podTraffic, row.podName = some podName → podName ≠ "" →
    ∀ detail ∈ db.podDetails, detail.podIp = lookupIP (World.decodeTraffic row) →
      detail.podIp ≠ "" → (∃ pod, World.decodePodObj decodePod detail.podObj = .ok pod) →
      detail.podName = podName

/-- The details that a lookup can find are those last reported for the pod that holds them. -/
theorem isForPod_of_mem {decodePod : String → Except ApiError Pod} {reqs : List (Orders × Post)}
    {row : Broker.PodDetail} (hrow : row ∈ (serve reqs).podDetails) {output : PolicyOutput}
    {pod : Pod} (hname : output.podName = row.podName)
    (hpod : World.decodePodObj decodePod row.podObj = .ok pod)
    (hpolicy : output.policy.IsFor (row.podNamespace.getD "") pod.labels) :
    output.IsForPod decodePod reqs row.podName := by
  rw [podDetails_serve] at hrow
  obtain ⟨-, hns, hobj⟩ := podDetail_of_mem hrow
  rw [hobj] at hpod
  rw [hns] at hpolicy
  exact ⟨hname, pod, hpod, hpolicy⟩

/-- A detail that holds an address of the name's traffic can end up as the policy's pod. -/
theorem exists_output_picking {db : Db} (decodePod : String → Except ApiError Pod)
    {podName : String} {row : Broker.PodTraffic} (hrow : row ∈ db.podTraffic)
    (hname : row.podName = some podName) (hne : podName ≠ "") {detail : Broker.PodDetail}
    (hdetail : detail ∈ db.podDetails) (hip : detail.podIp = lookupIP (World.decodeTraffic row))
    (hipne : detail.podIp ≠ "") {pod : Pod}
    (hpod : World.decodePodObj decodePod detail.podObj = .ok pod) :
    ∃ output, (createPolicyService standardPolicy).generatePolicy
        (World.picking db decodePod row detail) podName standardPolicy = .ok output
      ∧ output.podName = detail.podName := by
  have htraffic : ∃ rest, (World.picking db decodePod row detail).getRealPodTraffic podName
      = .ok (World.decodeTraffic row :: rest) := World.getRealPodTraffic_picking hrow hname hne
  obtain ⟨rest, htraffic⟩ := htraffic
  have hspec : (World.picking db decodePod row detail).getRealPodSpec
      (lookupIP (World.decodeTraffic row)) = _ :=
    World.getRealPodSpec_picking hdetail hip (hip ▸ hipne) hpod
  obtain ⟨_, output, _, hout, _, hpodName⟩ :=
    exists_standard_output htraffic (hip ▸ hipne) hspec fun _ => rfl
  exact ⟨output, hout, hpodName⟩

/-- **A policy is for the pod it was asked for, whichever rows come first, exactly when the
lookups are its own.** -/
theorem generated_for_pod_iff (decodePod : String → Except ApiError Pod)
    (reqs : List (Orders × Post)) (podName : String) :
    PoliciesAreForPod decodePod reqs podName ↔ LookupsOwn decodePod (serve reqs) podName := by
  constructor
  · rintro h row hrow hname hne detail hdetail hip hipne ⟨pod, hpod⟩
    -- the run in which the database happens to yield `row` and `detail` first
    obtain ⟨output, hout, hpodName⟩ :=
      exists_output_picking decodePod hrow hname hne hdetail hip hipne hpod
    have hfor := h _ rfl rfl standardPolicy standardPolicy output hout
    exact hpodName.symm.trans hfor.1
  · rintro hown w hdb rfl defaultType policyType output hout
    obtain ⟨first, rest, podDetail, htraffic, hip, hspec, houtName, hpolicy⟩ :=
      generatePolicy_inv hout
    obtain ⟨hne, _, hmem⟩ := World.getRealPodTraffic_eq_ok htraffic
    obtain ⟨row, hrow, hname, rfl⟩ := (hmem first).mp (List.mem_cons_self ..)
    obtain ⟨detail, hdetail, hdetailIp, _, hpodName, hns, hpod⟩ :=
      World.getRealPodSpec_eq_some hspec
    rw [hdb] at hrow hdetail
    have hsame : detail.podName = podName :=
      hown row hrow hname hne detail hdetail hdetailIp (hdetailIp ▸ hip) ⟨_, hpod⟩
    rw [← hsame]
    have hfor := hpolicy.isFor
    rw [hns] at hfor
    exact isForPod_of_mem hdetail (houtName.trans hpodName) hpod hfor

/-- `web` sends a request from 10.0.0.5 and comes back at 10.0.0.8; then `db` is given the address
that `web` left. -/
def addressReassigned : List (Orders × Post) :=
  [.podSpec ⟨"web", "10.0.0.5", some "shop", none, 1⟩,
    .podTraffic ⟨"u1", some "web", some "shop", some "10.0.0.5", some "0", some "TCP",
      some "EGRESS", some "10.96.0.10", some "443", 2⟩,
    .podSpec ⟨"web", "10.0.0.8", some "shop", none, 3⟩,
    .podSpec ⟨"db", "10.0.0.5", some "data", none, 4⟩].map (Orders.stored, ·)

/-- The policy that `web` asks for is issued for `db`. -/
theorem policy_for_other_pod :
    ¬ PoliciesAreForPod (fun _ => .error "") addressReassigned "web" := by
  intro h
  have hrow : (serve addressReassigned).podTraffic[0]? = some _ := rfl
  have hdetail : (serve addressReassigned).podDetails[1]? = some _ := rfl
  have hpod : World.decodePodObj (fun _ => .error "") none = .ok ⟨∅⟩ := rfl
  obtain ⟨output, hout, hpodName⟩ := exists_output_picking _ (List.mem_of_getElem? hrow) rfl
    (by decide) (List.mem_of_getElem? hdetail) rfl (by decide) hpod
  have hfor := h _ rfl rfl standardPolicy standardPolicy output hout
  exact absurd (hpodName.symm.trans hfor.1) (by decide)

end KubeGuardian.Advisor
