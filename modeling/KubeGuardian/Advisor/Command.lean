import KubeGuardian.Advisor.PolicyService

/-!
# `gen networkpolicy`

`advisor/cmd/networkpolicy.go`: which pods a run of the command is asked for, and what it asks the
policy service in turn. Saving the policies and waiting for the port forwarding are in modules of
their own.

`networkPolicyCmd_eq` is the whole of it: the namespace of a pod decides whether the pod is in the
list and is not passed on.
-/

namespace KubeGuardian.Advisor

/-- A running pod, as the Kubernetes API lists it. -/
structure KubePod where
  name : String
  ns : String
  deriving DecidableEq

structure Kube where
  getCurrentNamespace : Except String String
  getPodsInNamespace : String → Except String (List KubePod)
  getAllPodsInAllNamespaces : Except String (List KubePod)

structure Flags where
  ns : String
  allNamespaces : Bool
  allInNamespace : Bool
  policyType : String

/-- The namespace that the pods are listed in: the flag's, or the current one where neither flag is
set. -/
def targetNamespace (kube : Kube) (flags : Flags) : Except String String :=
  if flags.ns = "" ∧ ¬ flags.allNamespaces then kube.getCurrentNamespace else .ok flags.ns

/-- Any text but `cilium` asks for standard policies. -/
def policyServiceType (flags : Flags) : PolicyType :=
  if flags.policyType = "cilium" then ciliumPolicy else standardPolicy

/-- The generations of `BatchGenerateAndHandlePolicies`: one that fails does not end the batch. -/
def PolicyService.batchGeneratePolicies (s : PolicyService) (w : World) (podNames : List String)
    (policyType : PolicyType) : List (Except String PolicyOutput) :=
  podNames.map fun podName => s.generatePolicy w podName policyType

/-- The loop of the command. What it hands on of a pod is its name. -/
def processPods (w : World) (pods : List KubePod) (policyService : PolicyService)
    (policyType : PolicyType) : List (Except String PolicyOutput) :=
  let podNames := pods.map (·.name)
  policyService.batchGeneratePolicies w podNames policyType

/-- One run: the generations it makes, in their order, or the error that ends it before. -/
def networkPolicyCmd (kube : Kube) (w : World) (flags : Flags) (args : List String) :
    Except String (List (Except String PolicyOutput)) := do
  let targetNamespace ← targetNamespace kube flags
  let policyService := createPolicyService (policyServiceType flags)
  if flags.allNamespaces then
    let pods ← kube.getAllPodsInAllNamespaces
    return processPods w pods policyService (policyServiceType flags)
  else if flags.allInNamespace then
    let pods ← kube.getPodsInNamespace targetNamespace
    return processPods w pods policyService (policyServiceType flags)
  else match args with
    | [podName] => return [policyService.generatePolicy w podName (policyServiceType flags)]
    | _ => throw "Pod name is required when not using --all or --all-namespaces flags"

/-- The pods that a run is asked for, each in its namespace. -/
def requestedPods (kube : Kube) (flags : Flags) (args : List String) :
    Except String (List KubePod) := do
  let targetNamespace ← targetNamespace kube flags
  if flags.allNamespaces then kube.getAllPodsInAllNamespaces
  else if flags.allInNamespace then kube.getPodsInNamespace targetNamespace
  else match args with
    | [podName] => return [⟨podName, targetNamespace⟩]
    | _ => throw "Pod name is required when not using --all or --all-namespaces flags"

/-- **A run makes one generation for each requested pod**, by the name alone. -/
theorem networkPolicyCmd_eq (kube : Kube) (w : World) (flags : Flags) (args : List String) :
    networkPolicyCmd kube w flags args
      = (requestedPods kube flags args).map fun pods => pods.map fun pod =>
          (createPolicyService (policyServiceType flags)).generatePolicy w pod.name
            (policyServiceType flags) := by
  unfold networkPolicyCmd requestedPods processPods PolicyService.batchGeneratePolicies
  cases targetNamespace kube flags with
  | error err => rfl
  | ok ns =>
    dsimp only [bind, Except.bind]
    split_ifs
    · cases kube.getAllPodsInAllNamespaces with
      | error err => rfl
      | ok pods => simp [Except.map, pure, Except.pure]
    · cases kube.getPodsInNamespace ns with
      | error err => rfl
      | ok pods => simp [Except.map, pure, Except.pure]
    · match args with
      | [] => rfl
      | [podName] => rfl
      | _ :: _ :: _ => rfl

theorem generatePolicy_of_mem_zip {kube : Kube} {w : World} {flags : Flags} {args : List String}
    {pods : List KubePod} (hpods : requestedPods kube flags args = .ok pods)
    {outcomes : List (Except String PolicyOutput)}
    (hrun : networkPolicyCmd kube w flags args = .ok outcomes) {pod : KubePod}
    {outcome : Except String PolicyOutput} (hmem : (pod, outcome) ∈ pods.zip outcomes) :
    (createPolicyService (policyServiceType flags)).generatePolicy w pod.name
      (policyServiceType flags) = outcome := by
  rw [networkPolicyCmd_eq, hpods] at hrun
  obtain rfl := Except.ok.inj hrun
  rw [← List.map_prod_left_eq_zip, List.mem_map] at hmem
  obtain ⟨_, _, heq⟩ := hmem
  obtain ⟨rfl, rfl⟩ := Prod.mk.inj heq
  rfl

/-- Every pod can be asked for by itself. -/
theorem exists_run_of_generatePolicy {w : World} {pod : KubePod} {output : PolicyOutput}
    (h : (createPolicyService standardPolicy).generatePolicy w pod.name standardPolicy
      = .ok output) :
    ∃ kube flags args pods outcomes, requestedPods kube flags args = .ok pods
      ∧ networkPolicyCmd kube w flags args = .ok outcomes
      ∧ (pod, .ok output) ∈ pods.zip outcomes := by
  -- without `-n` the namespace is the current one
  let kube : Kube := ⟨.ok pod.ns, fun _ => .error "", .error ""⟩
  let flags : Flags := ⟨"", false, false, "kubernetes"⟩
  have hpods : requestedPods kube flags [pod.name] = .ok [pod] := rfl
  refine ⟨kube, flags, [pod.name], [pod], [.ok output], hpods, ?_, by simp⟩
  rw [networkPolicyCmd_eq, hpods, ← h]
  rfl

end KubeGuardian.Advisor
