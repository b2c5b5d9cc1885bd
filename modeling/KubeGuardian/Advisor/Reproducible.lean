import KubeGuardian.Advisor.LeastPrivilege
import KubeGuardian.Advisor.PolicyContent

/-!
# Are generated policies reproducible?

The ports of a rule stand in the order of the records, the rules in the order in which Go ranges
over a map, which is another one on every run.

* **`reproducible_iff`** — two runs on the same data give the same policies, of either kind, exactly
  when in each direction all peers were seen on the same ports in the same order and are found
  under the same labels of the same namespace; a single peer is, two addresses never are.
-/

namespace KubeGuardian.Advisor

open Lib

/-! ## The property and the condition -/

def SameOutcome {π : Type} (Same : π → π → Prop) : Except String π → Except String π → Prop
  | .ok p, .ok q => Same p q
  | .error err, .error err' => err = err'
  | _, _ => False

/-- Whichever orders Go picks for the maps, each generator returns the same. -/
def Reproducible (lookups : Lookups) (podName : String) (podTraffic : List PodTraffic)
    (podDetail : Option PodDetail) : Prop :=
  ∀ order order' : Direction → Reordering (String × List NetworkPolicyPort),
    SameOutcome NetworkPolicy.SameContent
        (StandardPolicyGenerator.generate ⟨lookups, order⟩ podName podTraffic podDetail)
        (StandardPolicyGenerator.generate ⟨lookups, order'⟩ podName podTraffic podDetail)
      ∧ SameOutcome CiliumNetworkPolicy.SameContent
        (CiliumPolicyGenerator.generate ⟨lookups, order⟩ podName podTraffic podDetail)
        (CiliumPolicyGenerator.generate ⟨lookups, order'⟩ podName podTraffic podDetail)

/-- The peers of a direction, as far as `find` tells, are all found as the same and were seen on the
same ports. -/
def PeersAlike {φ : Type} (find : String → φ) (dir : Direction) (podDetail : PodDetail)
    (podTraffic : List PodTraffic) : Prop :=
  ∀ ip ∈ peerIPs dir podDetail podTraffic, ∀ ip' ∈ peerIPs dir podDetail podTraffic,
    find ip = find ip'
      ∧ portsSeen dir podDetail podTraffic ip = portsSeen dir podDetail podTraffic ip'

/-! ## One generator at a time -/

/-- A generator whose results differ where the ranges over its peers do. -/
theorem sameOutcome_iff_peersAlike {π γ φ : Type} {Same : π → π → Prop}
    {gen : (Direction → Reordering (String × List NetworkPolicyPort)) → Except String π}
    {podDetail : PodDetail} {podTraffic : List PodTraffic} {find : String → φ}
    {entryContent : String × List NetworkPolicyPort → γ} {ruleContent : φ × List PortValue → γ}
    (hinj : Function.Injective ruleContent)
    (hentry : ∀ dir, ∀ ip ∈ peerIPs dir podDetail podTraffic,
      entryContent (ip, (portsSeen dir podDetail podTraffic ip).map PortValue.toPort)
        = ruleContent (find ip, portsSeen dir podDetail podTraffic ip))
    (hsame : ∀ order order', SameOutcome Same (gen order) (gen order') ↔ ∀ dir,
      (eachPeer (order dir) (rulesOf dir podDetail podTraffic)).map entryContent
        = (eachPeer (order' dir) (rulesOf dir podDetail podTraffic)).map entryContent) :
    (∀ order order', SameOutcome Same (gen order) (gen order'))
      ↔ ∀ dir, PeersAlike find dir podDetail podTraffic := by
  -- rules come out alike in every order when any two peers' rules are alike
  have halike : ∀ dir, PeersAlike find dir podDetail podTraffic ↔ ∀ o o',
      (eachPeer o (rulesOf dir podDetail podTraffic)).map entryContent
        = (eachPeer o' (rulesOf dir podDetail podTraffic)).map entryContent := by
    intro dir
    rw [eachPeer_map_eq_iff]
    refine forall₂_congr fun ip hip => forall₂_congr fun ip' hip' => ?_
    rw [hentry dir ip hip, hentry dir ip' hip', hinj.eq_iff, Prod.mk.injEq]
  simp only [hsame, halike]
  constructor
  · intro h dir o o'
    exact h (fun _ => o) (fun _ => o') dir
  · intro h order order' dir
    exact h dir (order dir) (order' dir)

section Generators

variable (lookups : Lookups) (podName : String) (podTraffic : List PodTraffic)
  (podDetail : PodDetail)

theorem standard_reproducible_iff :
    (∀ order order' : Direction → Reordering (String × List NetworkPolicyPort),
        SameOutcome NetworkPolicy.SameContent
          (StandardPolicyGenerator.generate ⟨lookups, order⟩ podName podTraffic (some podDetail))
          (StandardPolicyGenerator.generate ⟨lookups, order'⟩ podName podTraffic
            (some podDetail)))
      ↔ ∀ dir, PeersAlike (found lookups) dir podDetail podTraffic := by
  apply sameOutcome_iff_peersAlike StandardPolicyGenerator.ruleContent_injective
    (fun dir ip hip => StandardPolicyGenerator.entryContent_eq hip)
  intro order order'
  have hp := StandardPolicyGenerator.generate_eq ⟨lookups, order⟩ podName podTraffic podDetail
  have hq := StandardPolicyGenerator.generate_eq ⟨lookups, order'⟩ podName podTraffic podDetail
  rw [hp, hq]
  exact StandardPolicyGenerator.sameContent_iff hp hq

/-- The rules of Cilium tell less: nothing of the namespaces. -/
theorem cilium_reproducible_iff :
    (∀ order order' : Direction → Reordering (String × List NetworkPolicyPort),
        SameOutcome CiliumNetworkPolicy.SameContent
          (CiliumPolicyGenerator.generate ⟨lookups, order⟩ podName podTraffic (some podDetail))
          (CiliumPolicyGenerator.generate ⟨lookups, order'⟩ podName podTraffic (some podDetail)))
      ↔ ∀ dir, PeersAlike (CiliumPolicyGenerator.foundLabels lookups) dir podDetail
          podTraffic := by
  apply sameOutcome_iff_peersAlike CiliumPolicyGenerator.ruleContent_injective
    (fun dir ip _ => CiliumPolicyGenerator.entryContent_eq lookups ip _)
  intro order order'
  have hp := CiliumPolicyGenerator.generate_eq ⟨lookups, order⟩ podName podTraffic podDetail
  have hq := CiliumPolicyGenerator.generate_eq ⟨lookups, order'⟩ podName podTraffic podDetail
  rw [hp, hq]
  exact CiliumPolicyGenerator.sameContent_iff hp hq

end Generators

/-! ## Both generators -/

/-- **When policies are reproducible.** Cilium's are wherever those of Kubernetes are. -/
theorem reproducible_iff (lookups : Lookups) (podName : String) (podTraffic : List PodTraffic)
    (podDetail : Option PodDetail) :
    Reproducible lookups podName podTraffic podDetail
      ↔ ∀ detail, podDetail = some detail → ∀ dir,
        PeersAlike (found lookups) dir detail podTraffic := by
  cases podDetail with
  | none => exact iff_of_true (fun order order' => ⟨rfl, rfl⟩) (by simp)
  | some detail =>
    have hcilium : (∀ dir, PeersAlike (found lookups) dir detail podTraffic) → ∀ dir,
        PeersAlike (CiliumPolicyGenerator.foundLabels lookups) dir detail podTraffic := by
      intro h dir ip hip ip' hip'
      obtain ⟨hfound, hports⟩ := h dir ip hip ip' hip'
      exact ⟨congrArg (Sum.map Prod.snd id) hfound, hports⟩
    simp only [Option.some.injEq, forall_eq']
    constructor
    · intro h
      exact (standard_reproducible_iff lookups podName podTraffic detail).mp
        fun order order' => (h order order').1
    · intro h order order'
      exact ⟨(standard_reproducible_iff lookups podName podTraffic detail).mpr h order order',
        (cilium_reproducible_iff lookups podName podTraffic detail).mpr (hcilium h) order order'⟩

/-- Connections to two addresses outside of the cluster. -/
def outsideRecords : List PodTraffic :=
  [webRecord "EGRESS" "0" "1.1.1.1" "443", webRecord "EGRESS" "0" "8.8.8.8" "443"]

def nothingFound : Lookups := ⟨fun _ => .ok none, fun _ => .ok none⟩

theorem outsideRecords_not_reproducible :
    ¬ Reproducible nothingFound "web" outsideRecords (some webPod) := by
  intro h
  have hfirst : "1.1.1.1" ∈ peerIPs .egress webPod outsideRecords := by decide +kernel
  have hsecond : "8.8.8.8" ∈ peerIPs .egress webPod outsideRecords := by decide +kernel
  have halike := (standard_reproducible_iff nothingFound "web" outsideRecords webPod).mp
    fun order order' => (h order order').1
  obtain ⟨hfound, -⟩ := halike .egress _ hfirst _ hsecond
  -- each address stands for itself
  exact absurd (Sum.inr.inj hfound) (by decide)

end KubeGuardian.Advisor
