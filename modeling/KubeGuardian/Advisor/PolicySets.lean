import KubeGuardian.Advisor.UnrelatedPods

/-!
# Generated policies side by side

Any number of policies of the Kubernetes generator, installed together. A pod is under all those
whose selector it matches, whatever pods they were made for: the replicas of one workload share
their policies, and so does every pod that carries the labels of another.

* **`admitted_generated_iff`** — the set admits what was recorded for any of the pods whose policy
  selects the pod in question, once one of these policies restricts the direction;
* **`set_least_privilege_iff`** — nothing beyond that is admitted exactly when one does.
-/

namespace KubeGuardian.Advisor

/-- A policy, with what it was made of. -/
structure Generated (env : Env) where
  podName : String
  podTraffic : List PodTraffic
  podDetail : PodDetail
  policy : NetworkPolicy
  generated : StandardPolicyGenerator.generate env podName podTraffic (some podDetail) = .ok policy

namespace Generated

variable {env : Env}

/-- The policy is for the pod with `labels` in `ns`, too. -/
def Selects (g : Generated env) (ns : String) (labels : LabelMap) : Prop :=
  g.podDetail.podNamespace = ns ∧ g.podDetail.pod.labels.Sub labels

/-- The policy restricts the direction. -/
def Closes (g : Generated env) (dir : Direction) : Prop :=
  HasUsable dir g.podDetail g.podTraffic ∨ ∀ dir, ¬ HasUsable dir g.podDetail g.podTraffic

/-- A record of the policy's own pod stands for the connection. -/
def Recorded (g : Generated env) (c : Cluster) (dir : Direction) (conn : Connection) : Prop :=
  Justified c env.toLookups id dir g.podDetail g.podTraffic conn

variable {g : Generated env} {c : Cluster} {ns : String} {labels : LabelMap} {dir : Direction}
  {conn : Connection}

theorem appliesTo_iff : g.policy.AppliesTo ns labels ↔ g.Selects ns labels :=
  appliesTo_iff_of_generate g.generated ns labels

theorem closes_iff : dir ∈ g.policy.spec.policyTypes ↔ g.Closes dir :=
  StandardPolicyGenerator.policyTypes_of_generate g.generated dir

theorem Recorded.closes (h : g.Recorded c dir conn) : g.Closes dir :=
  .inl (HasUsable.of_justified h)

/-- What a restricted direction is opened to. -/
theorem opens_iff :
    (dir ∈ g.policy.spec.policyTypes
        ∧ ∃ rule ∈ g.policy.rules dir, rule.Admits c g.policy.objectMeta.ns conn)
      ↔ g.Recorded c dir conn := by
  have hadmits : g.policy.Admits c dir conn ↔ (g.Closes dir → g.Recorded c dir conn) :=
    StandardPolicyGenerator.admits_iff g.generated c dir conn
  constructor
  · rintro ⟨hdir, hrule⟩
    exact hadmits.mp (fun _ => hrule) (closes_iff.mp hdir)
  · intro h
    have hdir := closes_iff.mpr h.closes
    exact ⟨hdir, hadmits.mpr (fun _ => h) hdir⟩

end Generated

/-! ## Sets of policies -/

section Sets

variable {env : Env} {c : Cluster} {ns : String} {labels : LabelMap} {dir : Direction}
  {conn : Connection}

theorem isolated_generated_iff {gs : List (Generated env)} :
    Isolated (gs.map (·.policy)) ns labels dir ↔ ∃ g ∈ gs, g.Selects ns labels ∧ g.Closes dir := by
  simp only [Isolated, List.mem_map, exists_exists_and_eq_and, Generated.appliesTo_iff,
    Generated.closes_iff]

theorem admitted_iff_isolated_imp {gs : List (Generated env)} :
    Admitted c (gs.map (·.policy)) ns labels dir conn
      ↔ (Isolated (gs.map (·.policy)) ns labels dir →
          ∃ g ∈ gs, g.Selects ns labels ∧ g.Recorded c dir conn) := by
  simp only [Admitted, List.mem_map, exists_exists_and_eq_and, Generated.appliesTo_iff,
    Generated.opens_iff]

/-- **What a set of generated policies admits**: everything, or what was recorded for the pods of
the policies that select the pod. -/
theorem admitted_generated_iff (c : Cluster) (gs : List (Generated env)) (ns : String)
    (labels : LabelMap) (dir : Direction) (conn : Connection) :
    Admitted c (gs.map (·.policy)) ns labels dir conn
      ↔ (∀ g ∈ gs, g.Selects ns labels → ¬ g.Closes dir)
        ∨ ∃ g ∈ gs, g.Selects ns labels ∧ g.Recorded c dir conn := by
  rw [admitted_iff_isolated_imp, isolated_generated_iff, imp_iff_not_or]
  simp only [not_exists, not_and]

/-- **A set keeps to what was recorded exactly when it restricts the direction.** -/
theorem set_least_privilege_iff (c : Cluster) (gs : List (Generated env)) (ns : String)
    (labels : LabelMap) (dir : Direction) :
    (∀ conn, Admitted c (gs.map (·.policy)) ns labels dir conn →
        ∃ g ∈ gs, g.Selects ns labels ∧ g.Recorded c dir conn)
      ↔ ∃ g ∈ gs, g.Selects ns labels ∧ g.Closes dir := by
  rw [← isolated_generated_iff]
  constructor
  · intro h
    by_contra hopen
    -- no record is for port 0, and yet a connection to it is let through
    have hadmitted : Admitted c (gs.map (·.policy)) ns labels dir ⟨.address "", 0, .tcp⟩ :=
      fun hisolated => absurd hisolated hopen
    obtain ⟨g, -, -, traffic, -, husable, -⟩ := h _ hadmitted
    have hpos : 0 < (0 : Int) := (parsePort_range husable.port).1
    omega
  · intro hisolated conn hadmitted
    exact admitted_iff_isolated_imp.mp hadmitted hisolated

/-- Beside whatever else is installed, a pod is let have what was recorded for it. -/
theorem admitted_of_recorded {policies : List NetworkPolicy} (g : Generated env)
    (hmem : g.policy ∈ policies) (hselects : g.Selects ns labels)
    (hrecorded : g.Recorded c dir conn) : Admitted c policies ns labels dir conn := fun _ =>
  ⟨g.policy, hmem, Generated.appliesTo_iff.mpr hselects, Generated.opens_iff.mpr hrecorded⟩

end Sets

/-! ## Two replicas of one workload -/

/-- The policy that `Generate` makes. There is one for whatever it is given. -/
def Generated.of (env : Env) (podName : String) (podTraffic : List PodTraffic)
    (podDetail : PodDetail) : Generated env :=
  ⟨podName, podTraffic, podDetail, _, StandardPolicyGenerator.generate_eq env podName podTraffic
    podDetail⟩

/-- The policies of `web` and of `web-1`, which carries the same labels. -/
def replicas : List (Generated (serviceEnv apiService)) :=
  [.of _ "web" [webRecord "EGRESS" "0" "10.0.0.9" "443"] webPod,
    .of _ "web-1" [webRecord "EGRESS" "0" "10.0.0.8" "5432"]
      { webPod with name := "web-1", podIP := "10.0.0.6" }]

/-- Either replica is let have what was recorded for the other one, and nothing is put together
from the records of both. -/
theorem admitted_generated_iff_two_replicas :
    Admitted namedCluster (replicas.map (·.policy)) "default" webPod.pod.labels .egress
        ⟨.address "10.0.0.9", 443, .tcp⟩
      ∧ Admitted namedCluster (replicas.map (·.policy)) "default" webPod.pod.labels .egress
        ⟨.address "10.0.0.8", 5432, .tcp⟩
      ∧ ¬ Admitted namedCluster (replicas.map (·.policy)) "default" webPod.pod.labels .egress
        ⟨.address "10.0.0.8", 443, .tcp⟩ := by
  simp only [admitted_generated_iff]
  have hselects : ∀ g ∈ replicas, g.Selects "default" webPod.pod.labels := by
    simp only [replicas, List.forall_mem_cons, List.not_mem_nil]
    exact ⟨⟨rfl, fun _ _ h => h⟩, ⟨rfl, fun _ _ h => h⟩, fun _ h => h.elim⟩
  have husable : Usable .egress webPod (webRecord "EGRESS" "0" "10.0.0.9" "443") 443 :=
    ⟨by decide, by decide, by decide, by decide⟩
  refine ⟨.inr ⟨_, .head _, hselects _ (.head _), _, .head _, husable, by decide, rfl⟩,
    .inr ⟨_, .tail _ (.head _), hselects _ (.tail _ (.head _)), _, .head _,
      ⟨by decide, by decide, by decide, by decide⟩, by decide, rfl⟩, ?_⟩
  rintro (hopen | ⟨g, hg, -, traffic, hmem, hu, -, hreaches⟩)
  · exact hopen _ (.head _) (hselects _ (.head _)) (.inl ⟨_, .head _, _, husable⟩)
  · simp only [replicas, List.mem_cons, List.not_mem_nil, or_false] at hg
    rcases hg with rfl | rfl
    · obtain rfl := List.mem_singleton.mp hmem
      -- the port is that of the record, and the address is not
      have hcidr : "10.0.0.9" ++ "/32" = "10.0.0.8" ++ "/32" := hreaches
      exact absurd hcidr (by decide)
    · obtain rfl := List.mem_singleton.mp hmem
      exact absurd hu.port (by decide)

end KubeGuardian.Advisor
