import KubeGuardian.Advisor.LeastPrivilege

/-!
# A policy and the pods it is not for

Policies add up in Kubernetes: a pod is isolated in a direction as soon as one policy that applies
to it lists the direction, and is then open to what any of them admits. A policy applies to the
pods of its namespace that its selector matches, and an empty selector matches all of them.

* **`leavesAlone_iff`** — the policy generated for a pod leaves the pods alone that share no label
  with it, exactly when the pod has a label at all.
-/

namespace KubeGuardian.Advisor

/-! ## Which pods a policy is for -/

/-- The policy is for the pods of its namespace that its selector matches; the empty selector
matches them all. -/
def NetworkPolicy.AppliesTo (policy : NetworkPolicy) (ns : String) (labels : LabelMap) : Prop :=
  policy.objectMeta.ns = ns ∧ policy.spec.podSelector.matchLabels.Sub labels

/-- Some policy applies to the pod and lists the direction, which is what isolates a pod in
Kubernetes. -/
def Isolated (policies : List NetworkPolicy) (ns : String) (labels : LabelMap)
    (dir : Direction) : Prop :=
  ∃ policy ∈ policies, policy.AppliesTo ns labels ∧ dir ∈ policy.spec.policyTypes

/-- What the installed policies let the pod with `labels` in `ns` receive or send. -/
def Admitted (c : Cluster) (policies : List NetworkPolicy) (ns : String) (labels : LabelMap)
    (dir : Direction) (conn : Connection) : Prop :=
  Isolated policies ns labels dir →
    ∃ policy ∈ policies, policy.AppliesTo ns labels ∧ dir ∈ policy.spec.policyTypes
      ∧ ∃ rule ∈ policy.rules dir, rule.Admits c policy.objectMeta.ns conn

section Admitted

variable {c : Cluster} {policy : NetworkPolicy} {policies : List NetworkPolicy} {ns : String}
  {labels : LabelMap} {dir : Direction} {conn : Connection}

theorem admitted_cons_of_not_appliesTo (h : ¬ policy.AppliesTo ns labels) :
    Admitted c (policy :: policies) ns labels dir conn
      ↔ Admitted c policies ns labels dir conn := by
  simp only [Admitted, Isolated, List.mem_cons, exists_eq_or_imp, h, false_and, false_or]

theorem admitted_singleton_of_appliesTo (h : policy.AppliesTo ns labels) :
    Admitted c [policy] ns labels dir conn ↔ policy.Admits c dir conn := by
  simp only [Admitted, Isolated, List.mem_singleton, exists_eq_left, h, true_and,
    NetworkPolicy.Admits]
  -- the restricted direction is named on both sides of the implication
  exact ⟨fun hadm hdir => (hadm hdir).2, fun hadm hdir => ⟨hdir, hadm hdir⟩⟩

theorem admitted_nil : Admitted c [] ns labels dir conn := by
  simp [Admitted, Isolated]

end Admitted

/-! ## Pods with nothing in common -/

/-- No label, key and value, is on both. -/
def LabelMap.Apart (l l' : LabelMap) : Prop :=
  ∀ key value, l.lookup key = some value → l'.lookup key ≠ some value

theorem LabelMap.apart_empty (l : LabelMap) : l.Apart ∅ := by
  intro key value _
  simp

/-- Of two label sets apart only an empty one is among the other's labels. -/
theorem LabelMap.Apart.not_sub {l l' : LabelMap} (h : l.Apart l') (hne : l.entries ≠ []) :
    ¬ l.Sub l' := by
  intro hsub
  obtain ⟨entry, hentry⟩ := List.exists_mem_of_ne_nil _ hne
  have hl : l.lookup entry.1 = some entry.2 := AList.mem_lookup_iff.mpr hentry
  exact h _ _ hl (hsub _ _ hl)

theorem LabelMap.sub_of_entries_eq_nil {l : LabelMap} (h : l.entries = []) (l' : LabelMap) :
    l.Sub l' := by
  intro key value hl
  have hentry : (⟨key, value⟩ : Sigma fun _ : String => String) ∈ l.entries :=
    AList.mem_lookup_iff.mp hl
  rw [h] at hentry
  exact absurd hentry List.not_mem_nil

/-! ## The policy of one pod -/

/-- With the policy or without it, among whatever other policies, the pods of the target's
namespace that share no label with it receive and send the same. -/
def NetworkPolicy.LeavesAlone (c : Cluster) (policy : NetworkPolicy) (podDetail : PodDetail) :
    Prop :=
  ∀ (others : List NetworkPolicy) (labels : LabelMap), podDetail.pod.labels.Apart labels →
    ∀ dir conn, Admitted c (policy :: others) podDetail.podNamespace labels dir conn
      ↔ Admitted c others podDetail.podNamespace labels dir conn

section Generated

variable {env : Env} {podName : String} {podTraffic : List PodTraffic} {podDetail : PodDetail}
  {policy : NetworkPolicy}

theorem appliesTo_iff_of_generate
    (h : StandardPolicyGenerator.generate env podName podTraffic (some podDetail) = .ok policy)
    (ns : String) (labels : LabelMap) :
    policy.AppliesTo ns labels ↔ podDetail.podNamespace = ns ∧ podDetail.pod.labels.Sub labels := by
  obtain ⟨hns, hselector⟩ := StandardPolicyGenerator.target_of_generate h
  rw [NetworkPolicy.AppliesTo, hns, hselector]

/-- Every generated policy closes something: no port is 0, so a restricted direction refuses it. -/
theorem exists_not_admits
    (h : StandardPolicyGenerator.generate env podName podTraffic (some podDetail) = .ok policy)
    (c : Cluster) : ∃ dir conn, ¬ policy.Admits c dir conn := by
  let conn : Connection := ⟨.address "", 0, .tcp⟩
  obtain ⟨dir, hdir⟩ : ∃ dir, HasUsable dir podDetail podTraffic
      ∨ ∀ dir, ¬ HasUsable dir podDetail podTraffic := by
    by_cases hsome : ∃ dir, HasUsable dir podDetail podTraffic
    · obtain ⟨dir, hdir⟩ := hsome
      exact ⟨dir, .inl hdir⟩
    · exact ⟨.ingress, .inr fun dir hdir => hsome ⟨dir, hdir⟩⟩
  refine ⟨dir, conn, fun hadmits => ?_⟩
  rw [StandardPolicyGenerator.admits_iff h] at hadmits
  obtain ⟨traffic, _, hu, _⟩ := hadmits hdir
  have hpos : 0 < (0 : Int) := (parsePort_range hu.port).1
  omega

end Generated

/-- **A generated policy leaves unrelated pods alone exactly when its target has a label.** The
labels of the target are the selector, on every path of `Generate`, and no labels select the
whole namespace. -/
theorem leavesAlone_iff (c : Cluster) (env : Env) (podName : String)
    (podTraffic : List PodTraffic) (podDetail : PodDetail) :
    ∃ policy, StandardPolicyGenerator.generate env podName podTraffic (some podDetail)
        = .ok policy
      ∧ (policy.LeavesAlone c podDetail ↔ podDetail.pod.labels.entries ≠ []) := by
  have hgen := StandardPolicyGenerator.generate_eq env podName podTraffic podDetail
  refine ⟨_, hgen, ?_⟩
  constructor
  · intro halone hnil
    -- a pod without labels is unrelated, selected, and open while nothing else is installed
    obtain ⟨dir, conn, hclosed⟩ := exists_not_admits hgen c
    have happlies := (appliesTo_iff_of_generate hgen podDetail.podNamespace ∅).mpr
      ⟨rfl, LabelMap.sub_of_entries_eq_nil hnil ∅⟩
    have hadmitted := (halone [] ∅ (LabelMap.apart_empty _) dir conn).mpr admitted_nil
    exact hclosed ((admitted_singleton_of_appliesTo happlies).mp hadmitted)
  · intro hne others labels hapart dir conn
    apply admitted_cons_of_not_appliesTo
    rw [appliesTo_iff_of_generate hgen]
    exact fun happlies => hapart.not_sub hne happlies.2

/-- The pod `web`, but created without labels. -/
def barePod : PodDetail := { webPod with pod := ⟨∅⟩ }

/-- The deny-all policy made for a pod without labels cuts off the pod `app=db` beside it. -/
theorem policy_for_whole_namespace :
    ∃ policy, StandardPolicyGenerator.generate
        (serviceEnv ⟨"10.96.0.10", "api", "default", ⟨∅, []⟩⟩) "web" [] (some barePod) = .ok policy
      ∧ barePod.pod.labels.Apart ((∅ : LabelMap).insert "app" "db")
      ∧ Admitted namedCluster [] "default" ((∅ : LabelMap).insert "app" "db") .ingress
          ⟨.address "10.0.0.9", 5432, .tcp⟩
      ∧ ¬ Admitted namedCluster [policy] "default" ((∅ : LabelMap).insert "app" "db") .ingress
          ⟨.address "10.0.0.9", 5432, .tcp⟩ := by
  have hgen : StandardPolicyGenerator.generate
      (serviceEnv ⟨"10.96.0.10", "api", "default", ⟨∅, []⟩⟩) "web" [] (some barePod)
        = .ok (StandardPolicyGenerator.generateDefaultDenyPolicy barePod) := rfl
  refine ⟨_, hgen, fun key value h => by simp [barePod] at h, admitted_nil, fun hadmitted => ?_⟩
  have happlies : (StandardPolicyGenerator.generateDefaultDenyPolicy barePod).AppliesTo "default"
      ((∅ : LabelMap).insert "app" "db") := ⟨rfl, LabelMap.sub_of_entries_eq_nil rfl _⟩
  rw [admitted_singleton_of_appliesTo happlies] at hadmitted
  obtain ⟨rule, hrule, _⟩ := hadmitted (by decide)
  exact absurd hrule List.not_mem_nil

end KubeGuardian.Advisor
