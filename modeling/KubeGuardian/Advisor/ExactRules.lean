import KubeGuardian.Advisor.CiliumPolicy
import KubeGuardian.Advisor.StandardPolicy

/-!
# Generated rules are exact

Either generator turns the usable records of a direction into one rule per peer address, with
the peer that the address resolves to and with the ports of that peer's records and no others.
Nothing that was observed is lost, nothing else is added, and no rule comes out without a peer
or without a port, which Kubernetes would read as "any".

* **`generators_exact`** — both generators, whatever the lookups answer and in whatever order
  the maps are ranged over.
-/

namespace KubeGuardian.Advisor

open Lib

/-- `rules` are exactly the rules that the usable records of direction `dir` call for: one for
each peer address, which is a rule `isFor` that address and whose `ports` are, each once, those
of the address's records. -/
def ExactRules {ρ π : Type} (dir : Direction) (podDetail : PodDetail)
    (podTraffic : List PodTraffic) (isFor : String → ρ → Prop) (ports : ρ → List π)
    (port : Int → Protocol → π) (rules : List ρ) : Prop :=
  ∃ ips : List String, ips.Nodup
    ∧ (∀ ip, ip ∈ ips ↔ ∃ traffic ∈ podTraffic, ∃ portInt,
        Usable dir podDetail traffic portInt ∧ traffic.dstIP = ip)
    ∧ List.Forall₂ (fun ip rule => isFor ip rule ∧ ports rule ≠ [] ∧ (ports rule).Nodup
        ∧ ∀ p, p ∈ ports rule ↔ ∃ traffic ∈ podTraffic, ∃ portInt,
            Usable dir podDetail traffic portInt ∧ traffic.dstIP = ip
              ∧ p = port portInt (protocolPtr traffic.protocol)) ips rules

theorem exists_left_of_forall₂ {α β : Type} {R : α → β → Prop} {l : List α} {l' : List β}
    (h : List.Forall₂ R l l') {b : β} (hb : b ∈ l') : ∃ a ∈ l, R a b := by
  induction h with
  | nil => simp at hb
  | cons hR _ ih =>
    rcases List.mem_cons.mp hb with rfl | hb
    · exact ⟨_, by simp, hR⟩
    · obtain ⟨a, ha, hR⟩ := ih hb
      exact ⟨a, List.mem_cons_of_mem _ ha, hR⟩

/-! ## From rules to records and back -/

section ExactRules

variable {ρ π : Type} {dir : Direction} {podDetail : PodDetail} {podTraffic : List PodTraffic}
  {isFor : String → ρ → Prop} {ports : ρ → List π} {port : Int → Protocol → π} {rules : List ρ}

/-- A rule is for some address, and every port of it goes back to a usable record. -/
theorem ExactRules.exists_peer
    (h : ExactRules dir podDetail podTraffic isFor ports port rules) {rule : ρ}
    (hrule : rule ∈ rules) :
    ∃ ip, isFor ip rule ∧ ports rule ≠ []
      ∧ ∀ p, p ∈ ports rule ↔ ∃ traffic ∈ podTraffic, ∃ portInt,
          Usable dir podDetail traffic portInt ∧ traffic.dstIP = ip
            ∧ p = port portInt (protocolPtr traffic.protocol) := by
  obtain ⟨ips, _, _, hrules⟩ := h
  obtain ⟨ip, _, hfor, hne, _, hmem⟩ := exists_left_of_forall₂ hrules hrule
  exact ⟨ip, hfor, hne, hmem⟩

/-- A usable record has its port in some rule for its peer. -/
theorem ExactRules.exists_rule
    (h : ExactRules dir podDetail podTraffic isFor ports port rules) {traffic : PodTraffic}
    (htraffic : traffic ∈ podTraffic) {portInt : Int} (hu : Usable dir podDetail traffic portInt) :
    ∃ rule ∈ rules, isFor traffic.dstIP rule
      ∧ port portInt (protocolPtr traffic.protocol) ∈ ports rule := by
  obtain ⟨ips, _, hips, hrules⟩ := h
  have hip : traffic.dstIP ∈ ips := (hips _).mpr ⟨traffic, htraffic, portInt, hu, rfl⟩
  obtain ⟨rule, hrule, hfor, _, _, hmem⟩ := exists_left_of_forall₂ hrules.flip hip
  exact ⟨rule, hrule, hfor, (hmem _).mpr ⟨traffic, htraffic, portInt, hu, rfl, rfl⟩⟩

end ExactRules

/-! ## The rules that are made of the map -/

theorem mem_group_iff {dir : Direction} {podDetail : PodDetail} {podTraffic : List PodTraffic}
    {g : String × List PortValue} (hg : g ∈ (groupsOf dir podDetail podTraffic).groups)
    (v : PortValue) :
    v ∈ g.2 ↔ ∃ traffic ∈ podTraffic, ∃ portInt, Usable dir podDetail traffic portInt
      ∧ traffic.dstIP = g.1 ∧ v = (Int32.ofInt portInt, protocolPtr traffic.protocol) := by
  unfold groupsOf at hg
  rw [Grouping.mem_values_ofList hg, mem_observations]
  simp only [Prod.ext_iff (x := (g.1, v)), eq_comm (a := g.1)]

/-- Rules made entry by entry from the map are exact, provided that the ports of a rule tell the
values of its group apart. -/
theorem exactRules_map {ρ π : Type} (o : Reordering (String × List NetworkPolicyPort))
    (dir : Direction) (podDetail : PodDetail) (podTraffic : List PodTraffic)
    {isFor : String → ρ → Prop} {ports : ρ → List π} (portOf : PortValue → π)
    {f : String × List NetworkPolicyPort → ρ} (hinj : ∀ v w, portOf v = portOf w → v = w)
    (hpeer : ∀ entry, isFor entry.1 (f entry))
    (hports : ∀ ip (vs : List PortValue), vs.Nodup →
      ports (f (ip, vs.map PortValue.toPort)) = vs.map portOf) :
    ExactRules dir podDetail podTraffic isFor ports
      (fun portInt protocol => portOf (Int32.ofInt portInt, protocol))
      ((eachPeer o (rulesOf dir podDetail podTraffic)).map f) := by
  have hperm := eachPeer_perm o dir podDetail podTraffic
  have hkeys : ((eachPeer o (rulesOf dir podDetail podTraffic)).map Prod.fst).Perm
      ((groupsOf dir podDetail podTraffic).groups.map Prod.fst) := by
    rw [show (groupsOf dir podDetail podTraffic).groups.map Prod.fst
      = ((groupsOf dir podDetail podTraffic).groups.map
          fun g => (g.1, g.2.map PortValue.toPort)).map Prod.fst from by rw [List.map_map]; rfl]
    exact hperm.map Prod.fst
  refine ⟨_, hkeys.nodup_iff.mpr (groupsOf dir podDetail podTraffic).keys_nodup, ?_, ?_⟩
  · -- the addresses are the keys of the groups
    intro ip
    rw [hkeys.mem_iff, groupsOf, Grouping.mem_keys_ofList]
    simp only [mem_observations, Prod.mk.injEq]
    constructor
    · rintro ⟨_, traffic, hmem, portInt, hu, hip, _⟩
      exact ⟨traffic, hmem, portInt, hu, hip.symm⟩
    · rintro ⟨traffic, hmem, portInt, hu, hip⟩
      exact ⟨_, traffic, hmem, portInt, hu, hip.symm, rfl⟩
  · -- and each entry of the map makes the rule of its address
    rw [List.forall₂_map_left_iff, List.forall₂_map_right_iff, List.forall₂_same]
    intro entry hentry
    obtain ⟨g, hg, rfl⟩ := List.mem_map.mp (hperm.mem_iff.mp hentry)
    have hnodup := (groupsOf dir podDetail podTraffic).values_nodup g hg
    refine ⟨hpeer _, ?_⟩
    rw [hports g.1 g.2 hnodup]
    refine ⟨?_, hnodup.map fun v w => hinj v w, fun p => ?_⟩
    · simpa using (groupsOf dir podDetail podTraffic).ne_nil g hg
    · simp only [List.mem_map, mem_group_iff hg]
      constructor
      · rintro ⟨v, ⟨traffic, hmem, portInt, hu, hip, rfl⟩, rfl⟩
        exact ⟨traffic, hmem, portInt, hu, hip, rfl⟩
      · rintro ⟨traffic, hmem, portInt, hu, hip, rfl⟩
        exact ⟨_, ⟨traffic, hmem, portInt, hu, hip, rfl⟩, rfl⟩

/-! ## The two generators -/

namespace StandardPolicyGenerator

theorem transformRules_exact (env : Env) (dir : Direction) (podDetail : PodDetail)
    (podTraffic : List PodTraffic) :
    ExactRules dir podDetail podTraffic
      (fun ip rule => ∃ peer, createNetworkPolicyPeer env.toLookups ip = some peer
        ∧ rule.peers = [peer])
      PolicyRule.ports (fun portInt protocol => ⟨some (.fromInt portInt), some protocol⟩)
      (transformRules env dir (rulesOf dir podDetail podTraffic)) := by
  rw [transformRules_eq]
  exact exactRules_map (env.order dir) dir podDetail podTraffic PortValue.toPort
    (fun v w h => PortValue.toPort_inj h)
    (fun entry => ⟨_, createNetworkPolicyPeer_eq _ _, rfl⟩)
    fun ip vs h => deduplicatePorts_map h

theorem generate_eq_deny_iff {env : Env} {podName : String} {podTraffic : List PodTraffic}
    {podDetail : PodDetail} {policy : NetworkPolicy}
    (h : generate env podName podTraffic (some podDetail) = .ok policy) :
    policy = generateDefaultDenyPolicy podDetail
      ↔ ∀ dir, ¬ HasUsable dir podDetail podTraffic := by
  rw [generate_eq] at h
  obtain rfl := Except.ok.inj h
  rw [← rulesOf_eq_nil_both]
  split_ifs with hnil
  · simp [hnil]
  · refine iff_of_false (fun h => ?_) hnil
    have hname := congrArg (·.objectMeta.name) h
    unfold addIngress addEgress at hname
    split_ifs at hname <;>
      simp [emptyPolicy, generateDefaultDenyPolicy, createObjectMeta, getPolicyName] at hname

end StandardPolicyGenerator

namespace CiliumPolicyGenerator

def toPortRule (v : PortValue) : PortRule := ⟨[⟨(IntOrString.int v.1).string, v.2.string⟩]⟩

theorem toPortRule_inj {v w : PortValue} (h : toPortRule v = toPortRule w) : v = w := by
  simp only [toPortRule, PortRule.mk.injEq, List.cons.injEq, PortProtocol.mk.injEq,
    and_true] at h
  exact Prod.ext (IntOrString.string_int_inj h.1) (Protocol.string_inj h.2)

theorem convertPorts_map (vs : List PortValue) :
    convertPortsToCiliumPortRules (vs.map PortValue.toPort) = vs.map toPortRule := by
  unfold convertPortsToCiliumPortRules
  rw [List.filterMap_map, ← List.filterMap_eq_map']
  rfl

theorem transformRules_exact (env : Env) (dir : Direction) (podDetail : PodDetail)
    (podTraffic : List PodTraffic) :
    ExactRules dir podDetail podTraffic
      (fun ip rule => (rule.endpoints, rule.cidr) = resolvePeerForCilium env.toLookups ip
        ∧ rule.endpoints.length + rule.cidr.length = 1)
      CiliumRule.toPorts
      (fun portInt protocol => ⟨[⟨(IntOrString.fromInt portInt).string, protocol.string⟩]⟩)
      (transformRules env dir (rulesOf dir podDetail podTraffic)) := by
  rw [transformRules_eq]
  refine exactRules_map (env.order dir) dir podDetail podTraffic toPortRule
    (fun v w h => toPortRule_inj h) (fun entry => ⟨rfl, ?_⟩) fun ip vs _ => convertPorts_map vs
  rcases resolvePeerForCilium_cases env.toLookups entry.1 with ⟨_, h⟩ | h <;> rw [h] <;> rfl

theorem generate_eq_deny_iff {env : Env} {podName : String} {podTraffic : List PodTraffic}
    {podDetail : PodDetail} {policy : CiliumNetworkPolicy}
    (h : generate env podName podTraffic (some podDetail) = .ok policy) :
    policy = generateDefaultDenyPolicy podDetail
      ↔ ∀ dir, ¬ HasUsable dir podDetail podTraffic := by
  rw [generate_eq] at h
  obtain rfl := Except.ok.inj h
  rw [← rulesOf_eq_nil_both]
  split_ifs with hnil
  · simp [hnil]
  · refine iff_of_false (fun h => ?_) hnil
    have hname := congrArg (·.objectMeta.name) h
    unfold addIngress addEgress at hname
    split_ifs at hname <;>
      simp [emptyPolicy, generateDefaultDenyPolicy, createObjectMeta, getPolicyName] at hname

end CiliumPolicyGenerator

/-- **Both generators are exact in both directions**, and deny everything exactly where no record
is usable. -/
theorem generators_exact (env : Env) (podName : String) (podTraffic : List PodTraffic)
    (podDetail : PodDetail) :
    (∃ policy, StandardPolicyGenerator.generate env podName podTraffic (some podDetail)
        = .ok policy
      ∧ (∀ dir, ExactRules dir podDetail podTraffic
          (fun ip rule => ∃ peer,
            StandardPolicyGenerator.createNetworkPolicyPeer env.toLookups ip = some peer
              ∧ rule.peers = [peer])
          PolicyRule.ports (fun portInt protocol => ⟨some (.fromInt portInt), some protocol⟩)
          (policy.rules dir))
      ∧ (policy = StandardPolicyGenerator.generateDefaultDenyPolicy podDetail
          ↔ ∀ dir, ¬ HasUsable dir podDetail podTraffic))
    ∧ ∃ policy, CiliumPolicyGenerator.generate env podName podTraffic (some podDetail)
        = .ok policy
      ∧ (∀ dir, ExactRules dir podDetail podTraffic
          (fun ip rule =>
            (rule.endpoints, rule.cidr) = CiliumPolicyGenerator.resolvePeerForCilium
              env.toLookups ip
              ∧ rule.endpoints.length + rule.cidr.length = 1)
          CiliumRule.toPorts
          (fun portInt protocol => ⟨[⟨(IntOrString.fromInt portInt).string, protocol.string⟩]⟩)
          (policy.rules dir))
      ∧ (policy = CiliumPolicyGenerator.generateDefaultDenyPolicy podDetail
          ↔ ∀ dir, ¬ HasUsable dir podDetail podTraffic) := by
  constructor
  · have h := StandardPolicyGenerator.generate_eq env podName podTraffic podDetail
    refine ⟨_, h, fun dir => ?_, StandardPolicyGenerator.generate_eq_deny_iff h⟩
    rw [StandardPolicyGenerator.rules_of_generate h]
    exact StandardPolicyGenerator.transformRules_exact env dir podDetail podTraffic
  · have h := CiliumPolicyGenerator.generate_eq env podName podTraffic podDetail
    refine ⟨_, h, fun dir => ?_, CiliumPolicyGenerator.generate_eq_deny_iff h⟩
    rw [CiliumPolicyGenerator.rules_of_generate h]
    exact CiliumPolicyGenerator.transformRules_exact env dir podDetail podTraffic

end KubeGuardian.Advisor
