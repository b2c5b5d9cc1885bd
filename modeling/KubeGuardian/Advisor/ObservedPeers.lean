import KubeGuardian.Advisor.CiliumNetworkPolicies

/-!
# Do Cilium policies admit but observed peers?

A rule without a peer field admits every peer, and the selectors of a rule are alternatives: a
selector for the labels and one for the namespace admit the whole namespace.

* **`rules_of_transform`** — what the rules of a policy come from: the records that make one, each
  with what is found at its address;
* **`onlyObserved_iff`** — every rule admits the peer of one record only, exactly when a record that
  makes a rule is for egress and its address is found to be nobody's, or names a peer whose
  namespace is not known and that the policy's own namespace covers.
-/

namespace KubeGuardian.Advisor.K8s

open Lib

/-! ## What is found at an address -/

/-- The namespace and the selector labels of the pod or the Service at an address. A pod on the
host's network is found at none. -/
def detected (env : Lookups) (clientset : Clientset) (ip : String) : Option (String × LabelMap) :=
  if ip = "" then none
  else match originOf env ip with
  | none => none
  | some origin =>
    match detectSelectorLabels (some clientset) origin with
    | .error _ => none
    | .ok labels =>
      if labels.entries.length = 0 then none else some (origin.metadataNamespace, labels)

/-- The selectors for what an address resolved to. Labels and namespace come as two selectors, which
stand side by side. -/
def selectorsFor : Option (String × LabelMap) → List EndpointSelector
  | none => []
  | some (ns, labels) =>
    if ns ≠ "" then [⟨labels⟩, ⟨(∅ : LabelMap).insert namespaceLabel ns⟩] else [⟨labels⟩]

theorem labels_ne_nil_of_detected {env : Lookups} {clientset : Clientset} {ip : String}
    {r : String × LabelMap} (h : detected env clientset ip = some r) : r.2.entries ≠ [] := by
  unfold detected at h
  split at h
  · cases h
  · split at h
    · cases h
    · split at h
      · cases h
      · split at h
        · cases h
        · next hlen =>
          obtain rfl := Option.some.inj h
          exact fun hnil => hlen (List.length_eq_zero_iff.mpr hnil)

/-- **With a clientset, an address comes to its selectors**, unless a panic ends the process. -/
theorem determineCiliumEndpointForTraffic_cases (env : Env) (clientset : Clientset)
    (traffic : PodTraffic) :
    determineCiliumEndpointForTraffic env traffic (some ⟨some clientset⟩) = .error .panic
      ∨ determineCiliumEndpointForTraffic env traffic (some ⟨some clientset⟩)
        = .ok (selectorsFor (detected env.toLookups clientset traffic.dstIP)) := by
  unfold determineCiliumEndpointForTraffic detected
  simp only [Option.isNone_some, Bool.false_eq_true, if_false]
  by_cases hip : traffic.dstIP = ""
  · right
    rw [if_pos hip, if_pos hip]
    rfl
  · rw [if_neg hip, if_neg hip]
    cases originOf env.toLookups traffic.dstIP with
    | none => exact .inr rfl
    | some origin =>
      -- an error is logged and leaves no labels; only a panic gets out
      cases hlabels : detectSelectorLabels (some clientset) origin with
      | error stop =>
        cases stop with
        | error err => simp [hlabels, selectorsFor]
        | panic => simp [hlabels]
      | ok labels =>
        right
        simp only [hlabels]
        by_cases hnil : labels.entries.length = 0
        · simp only [if_pos hnil]
          rfl
        · simp only [if_neg hnil, selectorsFor]
          split_ifs <;> rfl

/-! ## What the rules come from -/

/-- The record is of the direction and its port is a number. -/
structure MakesRule (env : Env) (dir : Direction) (traffic : PodTraffic) (port : Int) : Prop where
  trafficType : env.toUpper traffic.trafficType = dir.trafficType
  port : atoi (traffic.portStr dir) = some port

/-- The rule for a record at whose address `found` is found. -/
def ruleFor (env : Env) (dir : Direction) (traffic : PodTraffic)
    (found : Option (String × LabelMap)) (port : Int) : CiliumRule :=
  ruleOf dir traffic (selectorsFor found) [⟨[⟨toString port, env.toUpper traffic.protocol⟩]⟩]

variable {env : Env} {clientset : Clientset} {podTraffic : List PodTraffic}

theorem processRecord_eq_ok {dir : Direction} {traffic : PodTraffic} {o : Option CiliumRule}
    (h : processRecord env (some ⟨some clientset⟩) dir traffic = .ok o) (rule : CiliumRule) :
    o = some rule ↔ ∃ port, MakesRule env dir traffic port
      ∧ ruleFor env dir traffic (detected env.toLookups clientset traffic.dstIP) port = rule := by
  unfold processRecord at h
  -- a record of the other direction makes no rule
  by_cases htype : env.toUpper traffic.trafficType = dir.trafficType
  · rw [if_neg (not_not.mpr htype)] at h
    rcases determineCiliumEndpointForTraffic_cases env clientset traffic with hend | hend
    · rw [hend] at h
      cases h
    · rw [hend] at h
      cases hport : atoi (traffic.portStr dir) with
      | none =>
        simp only [hport] at h
        obtain rfl := Except.ok.inj h
        constructor
        · intro hsome
          cases hsome
        · rintro ⟨port, hmakes, -⟩
          cases hport.symm.trans hmakes.port
      | some port =>
        simp only [hport] at h
        obtain rfl := Except.ok.inj h
        rw [Option.some_inj]
        constructor
        · intro hrule
          exact ⟨port, ⟨htype, hport⟩, hrule⟩
        · rintro ⟨port', hmakes, hrule⟩
          obtain rfl := Option.some.inj (hport.symm.trans hmakes.port)
          exact hrule
  · rw [if_pos htype] at h
    obtain rfl := Except.ok.inj h
    constructor
    · intro hsome
      cases hsome
    · rintro ⟨_, hmakes, -⟩
      exact absurd hmakes.trafficType htype

theorem mem_processRecords {dir : Direction} {rules : List CiliumRule}
    (h : processRecords env (some ⟨some clientset⟩) dir podTraffic = .ok rules)
    (rule : CiliumRule) :
    rule ∈ rules ↔ ∃ traffic ∈ podTraffic, ∃ port, MakesRule env dir traffic port
      ∧ ruleFor env dir traffic (detected env.toLookups clientset traffic.dstIP) port = rule := by
  induction podTraffic generalizing rules with
  | nil =>
    obtain rfl := Except.ok.inj h
    simp
  | cons traffic rest ih =>
    obtain ⟨o, ho, h⟩ := bind_eq_ok_iff.mp h
    obtain ⟨tail, htail, h⟩ := bind_eq_ok_iff.mp h
    obtain rfl := Except.ok.inj h
    rw [List.mem_append, Option.mem_toList, processRecord_eq_ok ho, ih htail,
      List.exists_mem_cons_iff]

/-- Of the rules that are written alike the first stays, and `seen` is what is written so far. -/
theorem deduplicate_run (rules : List CiliumRule) (acc : List RuleJson × List CiliumRule)
    (hacc : ∀ json, json ∈ acc.1 ↔ ∃ rule ∈ acc.2, rule.json = json) (json : RuleJson) :
    (∃ rule ∈ (rules.foldl deduplicateRule acc).2, rule.json = json)
      ↔ (∃ rule ∈ acc.2, rule.json = json) ∨ ∃ rule ∈ rules, rule.json = json := by
  induction rules generalizing acc with
  | nil => simp
  | cons rule rules ih =>
    obtain ⟨seen, deduplicated⟩ := acc
    rw [List.foldl_cons]
    -- a rule is added unless its encoding has been seen
    by_cases hseen : rule.json ∈ seen
    · have hstep : deduplicateRule (seen, deduplicated) rule = (seen, deduplicated) :=
        if_pos hseen
      rw [hstep, ih _ hacc, List.exists_mem_cons_iff, or_left_comm]
      refine (or_iff_right_of_imp ?_).symm
      rintro rfl
      exact .inl ((hacc _).mp hseen)
    · have hstep : deduplicateRule (seen, deduplicated) rule
          = (rule.json :: seen, deduplicated ++ [rule]) := if_neg hseen
      -- what is seen stays what is encoded
      have hacc' : ∀ json, json ∈ rule.json :: seen
          ↔ ∃ r ∈ deduplicated ++ [rule], r.json = json := by
        intro json
        rw [List.mem_cons, hacc json]
        simp only [List.mem_append, List.mem_singleton, or_and_right, exists_or, exists_eq_left]
        rw [or_comm, eq_comm (a := json)]
      rw [hstep, ih _ hacc', List.exists_mem_cons_iff]
      simp only [List.mem_append, List.mem_singleton, or_and_right, exists_or, exists_eq_left,
        or_assoc]

theorem mem_deduplicateCiliumRules (rules : List CiliumRule) (json : RuleJson) :
    (∃ rule ∈ deduplicateCiliumRules rules, rule.json = json)
      ↔ ∃ rule ∈ rules, rule.json = json := by
  rw [deduplicateCiliumRules, deduplicate_run rules ([], []) (by simp)]
  simp

theorem processCiliumRules_eq_ok {dir : Direction} {rules : List CiliumRule}
    (h : processCiliumRules env dir podTraffic (some ⟨some clientset⟩) = .ok rules)
    (json : RuleJson) :
    (∃ rule ∈ rules, rule.json = json)
      ↔ ∃ traffic ∈ podTraffic, ∃ port, MakesRule env dir traffic port
        ∧ (ruleFor env dir traffic (detected env.toLookups clientset traffic.dstIP) port).json
          = json := by
  unfold processCiliumRules at h
  dsimp only at h
  split at h
  · next hlen =>
    obtain rfl := Except.ok.inj h
    simp [List.length_eq_zero_iff.mp hlen]
  · obtain ⟨all, hall, h⟩ := bind_eq_ok_iff.mp h
    obtain rfl := Except.ok.inj h
    rw [mem_deduplicateCiliumRules]
    simp only [mem_processRecords hall]
    constructor
    · rintro ⟨_, ⟨traffic, htraffic, port, hmakes, rfl⟩, hjson⟩
      exact ⟨traffic, htraffic, port, hmakes, hjson⟩
    · rintro ⟨traffic, htraffic, port, hmakes, hjson⟩
      exact ⟨_, ⟨traffic, htraffic, port, hmakes, rfl⟩, hjson⟩

/-- **The rules of a policy**, as they are written. -/
theorem rules_of_transform {podDetail : Option PodDetail} {policy : CiliumNetworkPolicy}
    (h : transformToCiliumNetworkPolicy env podTraffic podDetail (some ⟨some clientset⟩)
      = .ok policy) (dir : Direction) (json : RuleJson) :
    (∃ rule ∈ policy.rules dir, rule.json = json)
      ↔ ∃ traffic ∈ podTraffic, ∃ port, MakesRule env dir traffic port
        ∧ (ruleFor env dir traffic (detected env.toLookups clientset traffic.dstIP) port).json
          = json := by
  cases podDetail with
  | none => cases h
  | some podDetail =>
    obtain ⟨ingressRules, hingress, h⟩ := bind_eq_ok_iff.mp h
    obtain ⟨egressRules, hegress, h⟩ := bind_eq_ok_iff.mp h
    obtain ⟨labels, -, h⟩ := bind_eq_ok_iff.mp h
    obtain rfl := Except.ok.inj h
    cases dir with
    | ingress => exact processCiliumRules_eq_ok hingress json
    | egress => exact processCiliumRules_eq_ok hegress json

/-! ## What a rule admits -/

/-- A selector that carries no namespace label stays in the policy's namespace. -/
def SelectorMatches (policyNs : String) (selector : Labels) : Peer → Prop
  | .address _ => False
  | .pod ns labels =>
    ns = (selector.lookup namespaceLabel).getD policyNs
      ∧ ∀ key value, key ≠ namespaceLabel → selector.lookup key = some value →
        labels.lookup key = some value

/-- The entries of each field are alternatives, and a rule without a peer field is for every
peer. -/
def RuleJson.AdmitsPeer (c : Cluster) (policyNs : String) (rule : RuleJson) (peer : Peer) : Prop :=
  (rule.endpoints = none ∧ rule.cidr = none)
    ∨ (∃ selectors, rule.endpoints = some selectors
      ∧ ∃ selector ∈ selectors, SelectorMatches policyNs selector peer)
    ∨ ∃ cidrs, rule.cidr = some cidrs
      ∧ ∃ cidr ∈ cidrs, ∃ ip, peer = .address ip ∧ c.inCIDR cidr ip

/-- A selector reaches what Cilium makes of its labels. -/
theorem selectorMatches_content (c : Cluster) (ip policyNs ns : String) (labels : LabelMap)
    (peer : Peer) :
    SelectorMatches policyNs labels.content peer
      ↔ Reaches c ip (some (ciliumView policyNs (ns, labels))) peer := by
  cases peer with
  | address a => exact Iff.rfl
  | pod podNs podLabels =>
    simp only [SelectorMatches, Reaches, ciliumView, LabelMap.Sub,
      LabelMap.lookup_erase_eq_some_iff, LabelMap.content, Finmap.lookup_toFinmap, and_imp]

theorem selectorMatches_namespace (policyNs ns : String) (peer : Peer) :
    SelectorMatches policyNs (LabelMap.content ((∅ : LabelMap).insert namespaceLabel ns)) peer
      ↔ ∃ labels, peer = .pod ns labels := by
  cases peer with
  | address a => simp [SelectorMatches]
  | pod podNs podLabels =>
    simp only [SelectorMatches, LabelMap.content, Finmap.lookup_toFinmap, AList.lookup_insert,
      Option.getD_some, Peer.pod.injEq]
    constructor
    · rintro ⟨rfl, -⟩
      exact ⟨podLabels, rfl, rfl⟩
    · rintro ⟨_, rfl, -⟩
      refine ⟨rfl, fun key value hkey hlookup => ?_⟩
      rw [AList.lookup_insert_ne hkey] at hlookup
      cases hlookup

/-- **What a rule of a policy admits**: everything or the one address where nothing was found, and
where something was, the pods of the labels or else of the whole namespace. -/
theorem admitsPeer_ruleFor (c : Cluster) (policyNs : String) (dir : Direction)
    (traffic : PodTraffic) (found : Option (String × LabelMap)) (port : Int) (peer : Peer) :
    (ruleFor env dir traffic found port).json.AdmitsPeer c policyNs peer
      ↔ match found with
        | none => dir = .egress → Reaches c traffic.dstIP none peer
        | some (ns, labels) =>
          Reaches c traffic.dstIP (some (ciliumView policyNs (ns, labels))) peer
            ∨ ns ≠ "" ∧ ∃ labels, peer = .pod ns labels := by
  cases found with
  | none =>
    cases dir with
    | ingress => simp [RuleJson.AdmitsPeer, ruleFor, ruleOf, ingressRule, selectorsFor,
        CiliumRule.json, omitEmpty]
    | egress =>
      have hrule : (ruleFor env .egress traffic none port).json
          = ⟨none, some [traffic.dstIP ++ "/32"],
            some [⟨[⟨toString port, env.toUpper traffic.protocol⟩]⟩]⟩ := rfl
      rw [hrule]
      cases peer <;> simp [RuleJson.AdmitsPeer, Reaches]
  | some r =>
    obtain ⟨ns, labels⟩ := r
    -- with a selector there is no address, for either direction
    have hrule : (ruleFor env dir traffic (some (ns, labels)) port).json
        = ⟨some ((selectorsFor (some (ns, labels))).map (·.matchLabels.content)), none,
          some [⟨[⟨toString port, env.toUpper traffic.protocol⟩]⟩]⟩ := by
      by_cases hns : ns = "" <;> cases dir <;>
        simp [ruleFor, ruleOf, ingressRule, egressRule, selectorsFor, CiliumRule.json, omitEmpty,
          hns]
    rw [hrule]
    have hlabels := selectorMatches_content c traffic.dstIP policyNs ns labels peer
    have hnamespace := selectorMatches_namespace policyNs ns peer
    by_cases hns : ns = ""
    · simp only [RuleJson.AdmitsPeer, selectorsFor, if_neg (not_not.mpr hns)]
      simp [hlabels, hns]
    · simp only [RuleJson.AdmitsPeer, selectorsFor, if_pos hns, List.map_cons, List.map_nil,
        Option.some.injEq, exists_eq_left', List.mem_cons, List.not_mem_nil, or_false,
        exists_eq_or_imp, exists_eq_left, hlabels, hnamespace]
      simp [hns]

/-! ## The property and the condition -/

/-- Whatever the rule admits is the peer of one record of the direction. -/
def OnlyObserved (c : Cluster) (env : Env) (clientset : Clientset) (policyNs : String)
    (dir : Direction) (podTraffic : List PodTraffic) (rule : CiliumRule) : Prop :=
  ∃ traffic ∈ podTraffic, env.toUpper traffic.trafficType = dir.trafficType
    ∧ ∀ peer, rule.json.AdmitsPeer c policyNs peer →
      Reaches c traffic.dstIP (detected env.toLookups clientset traffic.dstIP) peer

/-- The pods that carry `labels` in the policy's namespace are all some record's peers. -/
def CoveredBy (env : Env) (clientset : Clientset) (policyNs : String) (dir : Direction)
    (podTraffic : List PodTraffic) (labels : LabelMap) : Prop :=
  ∃ traffic ∈ podTraffic, env.toUpper traffic.trafficType = dir.trafficType
    ∧ ∃ r, detected env.toLookups clientset traffic.dstIP = some r
      ∧ r.1 = (ciliumView policyNs ("", labels)).1
      ∧ r.2.Sub (ciliumView policyNs ("", labels)).2

/-- What is found at the address of a record for which the rule is not too wide. -/
def Narrow (env : Env) (clientset : Clientset) (policyNs : String) (dir : Direction)
    (podTraffic : List PodTraffic) : Option (String × LabelMap) → Prop
  | none => dir = .egress
  | some (ns, labels) => ns = "" ∧ CoveredBy env clientset policyNs dir podTraffic labels

/-- No record's peers include a pod without labels. -/
theorem not_reaches_unlabelled {c : Cluster} {ip ns : String} :
    ¬ Reaches c ip (detected env.toLookups clientset ip) (.pod ns ∅) := by
  intro h
  cases hfound : detected env.toLookups clientset ip with
  | none =>
    rw [hfound] at h
    exact h
  | some r =>
    rw [hfound] at h
    have hsub : r.2.Sub ∅ := h.2
    apply labels_ne_nil_of_detected hfound
    apply List.eq_nil_iff_forall_not_mem.mpr
    intro entry hentry
    have hlookup := hsub entry.1 entry.2 (AList.mem_lookup_iff.mpr hentry)
    simp at hlookup

/-- **One record's rule** is narrow exactly when what is found at its address is. -/
theorem onlyObserved_ruleFor (c : Cluster) (policyNs : String) {dir : Direction}
    {traffic : PodTraffic} (htraffic : traffic ∈ podTraffic)
    (htype : env.toUpper traffic.trafficType = dir.trafficType) (port : Int) :
    OnlyObserved c env clientset policyNs dir podTraffic
        (ruleFor env dir traffic (detected env.toLookups clientset traffic.dstIP) port)
      ↔ Narrow env clientset policyNs dir podTraffic
        (detected env.toLookups clientset traffic.dstIP) := by
  unfold OnlyObserved
  simp only [admitsPeer_ruleFor]
  cases hfound : detected env.toLookups clientset traffic.dstIP with
  | none =>
    constructor
    · rintro ⟨other, -, -, hall⟩
      -- else the rule is for every peer, one without labels among them
      by_contra hingress
      exact not_reaches_unlabelled (hall (.pod "" ∅) fun hegress => absurd hegress hingress)
    · intro hegress
      refine ⟨traffic, htraffic, htype, fun peer hpeer => ?_⟩
      rw [hfound]
      exact hpeer hegress
  | some r =>
    obtain ⟨ns, labels⟩ := r
    constructor
    · rintro ⟨other, hother, hdir, hall⟩
      have hns : ns = "" := by
        by_contra hne
        exact not_reaches_unlabelled (hall (.pod ns ∅) (.inr ⟨hne, _, rfl⟩))
      refine ⟨hns, other, hother, hdir, ?_⟩
      -- the pod that carries nothing but the labels is admitted
      have hpod := hall (.pod (ciliumView policyNs ("", labels)).1
        (ciliumView policyNs ("", labels)).2) (.inl ⟨rfl, LabelMap.Sub.refl _⟩)
      cases hfound' : detected env.toLookups clientset other.dstIP with
      | none =>
        rw [hfound'] at hpod
        exact hpod.elim
      | some r =>
        rw [hfound'] at hpod
        exact ⟨r, rfl, hpod.1.symm, hpod.2⟩
    · rintro ⟨hns, other, hother, hdir, r, hfound', hr, hsub⟩
      refine ⟨other, hother, hdir, fun peer hpeer => ?_⟩
      rw [hfound']
      rcases hpeer with hpeer | ⟨hne, -⟩
      · cases peer with
        | address a => exact hpeer
        | pod podNs podLabels => exact ⟨hpeer.1.trans hr.symm, hsub.trans hpeer.2⟩
      · exact absurd hns hne

/-- **Which policies admit observed peers only.** -/
theorem onlyObserved_iff (c : Cluster) {env : Env} {clientset : Clientset}
    {podTraffic : List PodTraffic} {podDetail : Option PodDetail} {policy : CiliumNetworkPolicy}
    (h : transformToCiliumNetworkPolicy env podTraffic podDetail (some ⟨some clientset⟩)
      = .ok policy) :
    (∀ dir, ∀ rule ∈ policy.rules dir,
        OnlyObserved c env clientset policy.objectMeta.ns dir podTraffic rule)
      ↔ ∀ dir, ∀ traffic ∈ podTraffic, ∀ port, MakesRule env dir traffic port →
        Narrow env clientset policy.objectMeta.ns dir podTraffic
          (detected env.toLookups clientset traffic.dstIP) := by
  refine forall_congr' fun dir => ?_
  have hrules := rules_of_transform h dir
  constructor
  · intro hall traffic htraffic port hmakes
    obtain ⟨rule, hrule, hjson⟩ := (hrules _).mpr ⟨traffic, htraffic, port, hmakes, rfl⟩
    have honly := hall rule hrule
    rw [OnlyObserved, hjson] at honly
    -- rules are compared by their encoding
    exact (onlyObserved_ruleFor c _ htraffic hmakes.trafficType port).mp honly
  · intro hall rule hrule
    obtain ⟨traffic, htraffic, port, hmakes, hjson⟩ := (hrules _).mp ⟨rule, hrule, rfl⟩
    rw [OnlyObserved, ← hjson]
    exact (onlyObserved_ruleFor c _ htraffic hmakes.trafficType port).mpr
      (hall traffic htraffic port hmakes)

/-! ## A pod that talks to a database and to the outside -/

def detailOf (name ns : String) : PodDetail :=
  ⟨name, ns, ⟨ns, (∅ : LabelMap).insert "app" name, [], false⟩⟩

def noControllers : Clientset where
  replicaSets _ _ := .error "not found"
  deployments _ _ := .error "not found"
  statefulSets _ _ := .error "not found"
  daemonSets _ _ := .error "not found"
  jobs _ _ := .error "not found"

/-- `10.0.0.7` is a database pod of namespace `prod`, and no other address is known. -/
def dbEnv : Env where
  getPodSpec ip := .ok (if ip = "10.0.0.7" then some (detailOf "db" "prod") else none)
  getSvcSpec _ := .ok none
  toUpperRune := Char.toUpper
  version := "development"

def egressTo (ip port : String) : PodTraffic :=
  ⟨"1", "web", "10.0.0.5", "shop", "0", "EGRESS", ip, port, "TCP"⟩

/-- The rule for the database is not for the database alone. -/
theorem dbRule_not_onlyObserved :
    ∃ policy, transformToCiliumNetworkPolicy dbEnv [egressTo "10.0.0.7" "5432"]
        (some (detailOf "web" "shop")) (some ⟨some noControllers⟩) = .ok policy
      ∧ ∀ c : Cluster, ∃ rule ∈ policy.rules .egress,
        ¬ OnlyObserved c dbEnv noControllers policy.objectMeta.ns .egress
          [egressTo "10.0.0.7" "5432"] rule := by
  obtain ⟨policy, hpolicy⟩ : ∃ policy, transformToCiliumNetworkPolicy dbEnv
      [egressTo "10.0.0.7" "5432"] (some (detailOf "web" "shop")) (some ⟨some noControllers⟩)
        = .ok policy := ⟨_, rfl⟩
  refine ⟨policy, hpolicy, fun c => ?_⟩
  have hmakes : MakesRule dbEnv .egress (egressTo "10.0.0.7" "5432") 5432 := ⟨by decide, by decide⟩
  have hmem := List.mem_singleton_self (egressTo "10.0.0.7" "5432")
  obtain ⟨rule, hrule, hjson⟩ :=
    (rules_of_transform hpolicy .egress _).mpr ⟨_, hmem, 5432, hmakes, rfl⟩
  refine ⟨rule, hrule, fun honly => ?_⟩
  rw [OnlyObserved, hjson] at honly
  have hnarrow := (onlyObserved_ruleFor c _ hmem hmakes.trafficType 5432).mp honly
  -- the database is found in a namespace
  have hns : "prod" = "" := hnarrow.1
  exact absurd hns (by decide)

/-- To an address that nothing is known of, the rule is for that address. -/
theorem externalRule_onlyObserved :
    ∃ policy, transformToCiliumNetworkPolicy dbEnv [egressTo "93.184.216.34" "443"]
        (some (detailOf "web" "shop")) (some ⟨some noControllers⟩) = .ok policy
      ∧ ∀ (c : Cluster) dir, ∀ rule ∈ policy.rules dir,
        OnlyObserved c dbEnv noControllers policy.objectMeta.ns dir
          [egressTo "93.184.216.34" "443"] rule := by
  obtain ⟨policy, hpolicy⟩ : ∃ policy, transformToCiliumNetworkPolicy dbEnv
      [egressTo "93.184.216.34" "443"] (some (detailOf "web" "shop")) (some ⟨some noControllers⟩)
        = .ok policy := ⟨_, rfl⟩
  refine ⟨policy, hpolicy, fun c => (onlyObserved_iff c hpolicy).mpr ?_⟩
  rintro dir traffic htraffic port hmakes
  obtain rfl := List.mem_singleton.mp htraffic
  show dir = .egress
  cases dir with
  | ingress => exact absurd hmakes.trafficType (by decide)
  | egress => rfl

end KubeGuardian.Advisor.K8s
