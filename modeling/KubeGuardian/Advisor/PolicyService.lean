import KubeGuardian.Advisor.Client

/-!
# The policy service

`advisor/pkg/network/generator.go`: the traffic is asked for by pod name, the pod's details by an
address found in the first traffic record, and a generator makes the policy from the two.

`PolicyService.generatePolicy_eq_ok_iff` says all that a returned policy can have come from.
-/

namespace KubeGuardian.Advisor

structure PolicyGenerator where
  getType : PolicyType
  generate : Env → String → List PodTraffic → Option PodDetail → Except String Policy

/-- The two implementations of the interface. -/
def newStandardPolicyGenerator : PolicyGenerator where
  getType := StandardPolicyGenerator.getType
  generate env podName podTraffic podDetail :=
    (StandardPolicyGenerator.generate env podName podTraffic podDetail).map .standard

def newCiliumPolicyGenerator : PolicyGenerator where
  getType := CiliumPolicyGenerator.getType
  generate env podName podTraffic podDetail :=
    (CiliumPolicyGenerator.generate env podName podTraffic podDetail).map .cilium

structure PolicyService where
  generators : AList fun _ : PolicyType => PolicyGenerator
  defaultType : PolicyType

def newPolicyService (defaultType : PolicyType) : PolicyService := ⟨∅, defaultType⟩

structure PolicyOutput where
  policy : Policy
  yaml : String
  podName : String
  ns : String
  policyType : PolicyType

/-- The address by which the pod's details are looked up. -/
def lookupIP (traffic : PodTraffic) : String :=
  if traffic.srcIP ≠ "" then traffic.srcIP else traffic.dstIP

namespace PolicyService

/-- `RegisterGenerator`: a second generator of a type replaces the first. -/
def registerGenerator (s : PolicyService) (generator : PolicyGenerator) : PolicyService :=
  { s with generators := s.generators.insert generator.getType generator }

/-- The generator of the type that was asked for, else that of the default type. -/
def selectGenerator (s : PolicyService) (policyType : PolicyType) : Option PolicyGenerator :=
  (s.generators.lookup policyType).or (s.generators.lookup s.defaultType)

/-- `GeneratePolicy`: traffic by pod name, then the pod by the address of the first record, then the
generator of the type, then the text. Each of the four may end it with an error. -/
def generatePolicy (s : PolicyService) (w : World) (podName : String) (policyType : PolicyType) :
    Except String PolicyOutput :=
  match w.getRealPodTraffic podName with
  | .error err => .error err
  | .ok [] => .error s!"no traffic data found for pod {podName}"
  | .ok (first :: rest) =>
    -- the first record stands for all; nothing below compares the name again
    let ip := lookupIP first
    if ip = "" then .error s!"could not determine IP for pod spec lookup for pod {podName}"
    else match w.getRealPodSpec ip with
      | .error err => .error err
      | .ok none => .error s!"pod details not found using IP {ip} for pod {podName}"
      | .ok (some podDetail) =>
        match s.selectGenerator policyType with
        | none => .error s!"no generator available for policy type {policyType}"
        | some generator =>
          match generator.generate w.env podName (first :: rest) (some podDetail) with
          | .error err => .error err
          | .ok policy =>
            match w.marshal policy with
            | .error err => .error err
            | .ok policyYAML =>
              .ok ⟨policy, policyYAML, podDetail.name, podDetail.podNamespace, generator.getType⟩

/-- **All that a returned policy can have come from.** -/
theorem generatePolicy_eq_ok_iff {s : PolicyService} {w : World} {podName : String}
    {policyType : PolicyType} {output : PolicyOutput} :
    s.generatePolicy w podName policyType = .ok output
      ↔ ∃ first rest podDetail generator policy yaml,
        w.getRealPodTraffic podName = .ok (first :: rest)
        ∧ lookupIP first ≠ ""
        ∧ w.getRealPodSpec (lookupIP first) = .ok (some podDetail)
        ∧ s.selectGenerator policyType = some generator
        ∧ generator.generate w.env podName (first :: rest) (some podDetail) = .ok policy
        ∧ w.marshal policy = .ok yaml
        ∧ output = ⟨policy, yaml, podDetail.name, podDetail.podNamespace, generator.getType⟩ := by
  unfold generatePolicy
  constructor
  · intro h
    split at h
    · cases h
    · cases h
    · next first rest htraffic =>
      dsimp only at h
      split at h
      · cases h
      · next hip =>
        split at h
        · cases h
        · cases h
        · next podDetail hspec =>
          split at h
          · cases h
          · next generator hgen =>
            split at h
            · cases h
            · next policy hpolicy =>
              split at h
              · cases h
              · next yaml hyaml =>
                exact ⟨first, rest, podDetail, generator, policy, yaml, htraffic, hip, hspec, hgen,
                  hpolicy, hyaml, (Except.ok.inj h).symm⟩
  · rintro ⟨first, rest, podDetail, generator, policy, yaml, htraffic, hip, hspec, hgen, hpolicy,
      hyaml, rfl⟩
    simp only [htraffic, hip, hspec, hgen, hpolicy, hyaml, if_false]

end PolicyService

/-- `createPolicyService`: a service with both generators. -/
def createPolicyService (defaultType : PolicyType) : PolicyService :=
  ((newPolicyService defaultType).registerGenerator newStandardPolicyGenerator).registerGenerator
    newCiliumPolicyGenerator

/-! ## Where the policies of the command's service come from -/

theorem selectGenerator_createPolicyService {defaultType policyType : PolicyType}
    {generator : PolicyGenerator}
    (h : (createPolicyService defaultType).selectGenerator policyType = some generator) :
    generator = newStandardPolicyGenerator ∨ generator = newCiliumPolicyGenerator := by
  have hlookup : ∀ key g, (createPolicyService defaultType).generators.lookup key = some g →
      g = newStandardPolicyGenerator ∨ g = newCiliumPolicyGenerator := by
    intro key g hg
    unfold createPolicyService PolicyService.registerGenerator newPolicyService at hg
    by_cases hcilium : key = newCiliumPolicyGenerator.getType
    · rw [hcilium, AList.lookup_insert] at hg
      exact .inr (Option.some.inj hg).symm
    · rw [AList.lookup_insert_ne hcilium] at hg
      by_cases hstandard : key = newStandardPolicyGenerator.getType
      · rw [hstandard, AList.lookup_insert] at hg
        exact .inl (Option.some.inj hg).symm
      · -- no third generator was registered
        rw [AList.lookup_insert_ne hstandard] at hg
        simp at hg
  rcases Option.or_eq_some_iff.mp h with h | ⟨_, h⟩
  · exact hlookup _ _ h
  · exact hlookup _ _ h

theorem Except.map_eq_ok {ε α β : Type} {f : α → β} {x : Except ε α} {b : β}
    (h : x.map f = .ok b) : ∃ a, x = .ok a ∧ f a = b := by
  cases x with
  | error err => cases h
  | ok a => exact ⟨a, rfl, Except.ok.inj h⟩

inductive Policy.GeneratedBy (env : Env) (podName : String) (podTraffic : List PodTraffic)
    (podDetail : PodDetail) : Policy → Prop where
  | standard {policy : NetworkPolicy}
      (h : StandardPolicyGenerator.generate env podName podTraffic (some podDetail) = .ok policy) :
      GeneratedBy env podName podTraffic podDetail (.standard policy)
  | cilium {policy : CiliumNetworkPolicy}
      (h : CiliumPolicyGenerator.generate env podName podTraffic (some podDetail) = .ok policy) :
      GeneratedBy env podName podTraffic podDetail (.cilium policy)

theorem Policy.generatedBy_of_selectGenerator {defaultType policyType : PolicyType}
    {generator : PolicyGenerator}
    (hgen : (createPolicyService defaultType).selectGenerator policyType = some generator)
    {env : Env} {podName : String} {podTraffic : List PodTraffic} {podDetail : PodDetail}
    {policy : Policy}
    (h : generator.generate env podName podTraffic (some podDetail) = .ok policy) :
    policy.GeneratedBy env podName podTraffic podDetail := by
  rcases selectGenerator_createPolicyService hgen with rfl | rfl
  · obtain ⟨policy, hpolicy, rfl⟩ := Except.map_eq_ok h
    exact .standard hpolicy
  · obtain ⟨policy, hpolicy, rfl⟩ := Except.map_eq_ok h
    exact .cilium hpolicy

/-- **What the command's service returns**: a policy of one of the two generators, for the traffic
of the name and the details at the address of the first record. -/
theorem generatePolicy_inv {w : World} {podName : String} {defaultType policyType : PolicyType}
    {output : PolicyOutput}
    (h : (createPolicyService defaultType).generatePolicy w podName policyType = .ok output) :
    ∃ first rest podDetail, w.getRealPodTraffic podName = .ok (first :: rest)
      ∧ lookupIP first ≠ "" ∧ w.getRealPodSpec (lookupIP first) = .ok (some podDetail)
      ∧ output.podName = podDetail.name
      ∧ output.policy.GeneratedBy w.env podName (first :: rest) podDetail := by
  obtain ⟨first, rest, podDetail, generator, policy, yaml, htraffic, hip, hspec, hgen, hpolicy, _,
    rfl⟩ := PolicyService.generatePolicy_eq_ok_iff.mp h
  exact ⟨first, rest, podDetail, htraffic, hip, hspec, rfl,
    Policy.generatedBy_of_selectGenerator hgen hpolicy⟩

/-- A standard policy is returned wherever the traffic and the details are found. -/
theorem exists_standard_output {w : World} {podName : String} {first : PodTraffic}
    {rest : List PodTraffic} {podDetail : PodDetail}
    (htraffic : w.getRealPodTraffic podName = .ok (first :: rest)) (hip : lookupIP first ≠ "")
    (hspec : w.getRealPodSpec (lookupIP first) = .ok (some podDetail))
    (hmarshal : ∀ policy, w.marshal policy = .ok "") :
    ∃ policy output,
      StandardPolicyGenerator.generate w.env podName (first :: rest) (some podDetail) = .ok policy
      ∧ (createPolicyService standardPolicy).generatePolicy w podName standardPolicy = .ok output
      ∧ output.policy = .standard policy ∧ output.podName = podDetail.name := by
  have hpolicy := StandardPolicyGenerator.generate_eq w.env podName (first :: rest) podDetail
  have hgen : (createPolicyService standardPolicy).selectGenerator standardPolicy
      = some newStandardPolicyGenerator := rfl
  have hout := PolicyService.generatePolicy_eq_ok_iff.mpr
    ⟨first, rest, podDetail, _, _, "", htraffic, hip, hspec, hgen,
      congrArg (Except.map Policy.standard) hpolicy, hmarshal _, rfl⟩
  exact ⟨_, _, hpolicy, hout, rfl, rfl⟩

end KubeGuardian.Advisor
