import KubeGuardian.Advisor.Agreement
import KubeGuardian.Advisor.Client
import KubeGuardian.Advisor.PolicyContent

/-!
# Lookups that fail

A lookup that does not get through is an error, one that is answered with any status but 200 finds
nothing, and to a generator both come to the same: the peer is looked for elsewhere, and in the end
it is its address.

* **`policies_kept_iff`** — with lookups that fail, both generators return what they would return
  if those found nothing, which is what they would return otherwise, up to the order of the rules,
  exactly when no peer is reduced to its address and the pods that stand in for Services have the
  labels, namespaces and ports of those Services;
* **`World.toLookups_env`** — the lookups of a run against the broker are of this kind.
-/

namespace KubeGuardian.Advisor

open Lib

/-! ## Answers and failures

The broker's answers as they would be, and which of the requests for them fail. A lookup that fails
finds nothing, and the generator goes on with what is left.
-/

/-- What the broker has for an address, or a 404. -/
structure Answers where
  svc : String → Option SvcDetail
  pod : String → Option PodDetail

/-- A request that ends in an error, or is answered with some other status. -/
inductive LookupFailure where
  | error (err : ApiError)
  | errorStatus (statusCode : Nat)

/-- The failures that strike, by the address asked for. They are fixed for one generation. -/
structure Failures where
  svc : String → Option LookupFailure
  pod : String → Option LookupFailure

def Failures.none : Failures := ⟨fun _ => .none, fun _ => .none⟩

/-- `getRealSvcSpec` and `getRealPodSpec`, by what becomes of the request. -/
def getReal {α : Type} (answer : Option α) : Option LookupFailure → Except ApiError (Option α)
  | some (.error err) => .error err
  -- no error: the status is told by the log alone
  | some (.errorStatus _) => .ok none
  | none => .ok answer

/-- The look-ups where `answers` would be given and `failures` strike: a failure hides the answer.
-/
def Answers.lookups (answers : Answers) (failures : Failures) : Lookups where
  getSvcSpec ip := getReal (answers.svc ip) (failures.svc ip)
  getPodSpec ip := getReal (answers.pod ip) (failures.pod ip)

/-! ## The property and the condition

Policies made with failures are compared with those made without, as contents, since the order of
the rules is not what matters.
-/

def ErrorOrSame {π : Type} (Same : π → π → Prop) : Except String π → Except String π → Prop
  | .error _, _ => True
  | .ok p, .ok q => Same p q
  | .ok _, .error _ => False

/-- Each generator returns an error, or the rules that it returns when no lookup fails. -/
def PoliciesKept (answers : Answers) (failures : Failures) (podName : String)
    (podTraffic : List PodTraffic) (podDetail : Option PodDetail) : Prop :=
  ∀ order order' : Direction → Reordering (String × List NetworkPolicyPort),
    ErrorOrSame NetworkPolicy.SameRules
        (StandardPolicyGenerator.generate ⟨answers.lookups failures, order⟩ podName podTraffic
          podDetail)
        (StandardPolicyGenerator.generate ⟨answers.lookups .none, order'⟩ podName podTraffic
          podDetail)
      ∧ ErrorOrSame CiliumNetworkPolicy.SameRules
        (CiliumPolicyGenerator.generate ⟨answers.lookups failures, order⟩ podName podTraffic
          podDetail)
        (CiliumPolicyGenerator.generate ⟨answers.lookups .none, order'⟩ podName podTraffic
          podDetail)

/-- The answers that are left when those to failing requests are taken away. -/
def Answers.without (answers : Answers) (failures : Failures) : Answers where
  svc ip := if (failures.svc ip).isNone then answers.svc ip else none
  pod ip := if (failures.pod ip).isNone then answers.pod ip else none

/-- Each generator returns what it does when the broker has nothing to answer such a request. -/
def FailedFindNothing (answers : Answers) (failures : Failures) (podName : String)
    (podTraffic : List PodTraffic) (podDetail : Option PodDetail) : Prop :=
  ∀ order : Direction → Reordering (String × List NetworkPolicyPort),
    StandardPolicyGenerator.generate ⟨answers.lookups failures, order⟩ podName podTraffic podDetail
        = StandardPolicyGenerator.generate ⟨(answers.without failures).lookups .none, order⟩
          podName podTraffic podDetail
      ∧ CiliumPolicyGenerator.generate ⟨answers.lookups failures, order⟩ podName podTraffic
          podDetail
        = CiliumPolicyGenerator.generate ⟨(answers.without failures).lookups .none, order⟩ podName
          podTraffic podDetail

/-- The namespace and the selector of the Service at an address, if it has a selector. -/
def Answers.service (answers : Answers) (ip : String) : Option (String × Labels) :=
  (answers.svc ip).bind fun svc =>
    if svc.service.selector.entries = [] then none
    else some (svc.svcNamespace, svc.service.selector.content)

/-- The namespace and the labels of the pod at an address, if it has labels. -/
def Answers.labelled (answers : Answers) (ip : String) : Option (String × Labels) :=
  (answers.pod ip).bind fun podSpec =>
    if podSpec.pod.labels.entries = [] then none
    else some (podSpec.podNamespace, podSpec.pod.labels.content)

/-- The failures do no harm to the rules of a direction. -/
structure Harmless (answers : Answers) (failures : Failures) (dir : Direction)
    (podDetail : PodDetail) (podTraffic : List PodTraffic) : Prop where
  /-- No peer that would be found is reduced to its address. -/
  still_found : ∀ ip ∈ peerIPs dir podDetail podTraffic,
    (answers.service ip).isSome ∨ (answers.labelled ip).isSome →
      (answers.service ip).isSome ∧ (failures.svc ip).isNone
        ∨ (answers.labelled ip).isSome ∧ (failures.pod ip).isNone
  /-- The pods that stand in for Services are, all together, found as those are. -/
  standIns :
    let stoodIn := (peerIPs dir podDetail podTraffic).val.filter fun ip =>
      (answers.service ip).isSome ∧ (failures.svc ip).isSome
    stoodIn.map (fun ip => (answers.labelled ip, portsSeen dir podDetail podTraffic ip))
      = stoodIn.map fun ip => (answers.service ip, portsSeen dir podDetail podTraffic ip)

/-! ## What is found in spite of failures

An address is resolved by a Service first and by a pod after it. So a failure may make the pod stand
in for the Service, or the address for either.
-/

section Found

variable {answers : Answers} {failures : Failures} {ip : String}

/-- A failed lookup of a Service is as good as a missing one. -/
theorem selectedBy_lookups :
    selectedBy (answers.lookups failures) ip
      = selectedBy ((answers.without failures).lookups .none) ip := by
  simp only [selectedBy, Answers.lookups, Answers.without]
  cases failures.svc ip with
  | none => rfl
  | some failure => cases failure <;> rfl

theorem labelledPod_lookups :
    labelledPod (answers.lookups failures) ip
      = labelledPod ((answers.without failures).lookups .none) ip := by
  simp only [labelledPod, Answers.lookups, Answers.without]
  cases failures.pod ip with
  | none => rfl
  | some failure => cases failure <;> rfl

/-- **A failed lookup is one that finds nothing.** -/
theorem resolvePod_lookups :
    resolvePod (answers.lookups failures) ip
      = resolvePod ((answers.without failures).lookups .none) ip := by
  rw [resolvePod, resolvePod, selectedBy_lookups, labelledPod_lookups]

/-- What the answers say of a Service. -/
theorem service_eq :
    answers.service ip
      = (selectedBy (answers.lookups .none) ip).map fun r => (r.1, r.2.content) := by
  have hlookup : (answers.lookups .none).getSvcSpec ip = .ok (answers.svc ip) := rfl
  rw [selectedBy, hlookup, Answers.service]
  cases answers.svc ip with
  | none => rfl
  | some svc =>
    by_cases hnil : svc.service.selector.entries = [] <;> simp [hnil, List.length_pos_iff]

theorem labelled_eq :
    answers.labelled ip
      = (labelledPod (answers.lookups .none) ip).map fun r => (r.1, r.2.content) := by
  have hlookup : (answers.lookups .none).getPodSpec ip = .ok (answers.pod ip) := rfl
  rw [labelledPod, hlookup, Answers.labelled]
  cases answers.pod ip with
  | none => rfl
  | some podSpec =>
    by_cases hnil : podSpec.pod.labels.entries = [] <;> simp [hnil, List.length_pos_iff]

/-- Without failures the Service comes first, then the pod, then the address itself. -/
theorem found_none :
    found (answers.lookups .none) ip
      = ((answers.service ip).or (answers.labelled ip)).elim (.inr ip) .inl := by
  rw [service_eq, labelled_eq, found, resolvePod]
  cases selectedBy (answers.lookups .none) ip with
  | some resolved => rfl
  | none => cases labelledPod (answers.lookups .none) ip <;> rfl

/-- **With failures** each of the two is passed over whose lookup fails. -/
theorem found_lookups :
    found (answers.lookups failures) ip
      = ((if (failures.svc ip).isNone then answers.service ip else none).or
          (if (failures.pod ip).isNone then answers.labelled ip else none)).elim
        (.inr ip) .inl := by
  have hservice : (answers.without failures).service ip
      = if (failures.svc ip).isNone then answers.service ip else none := by
    simp only [Answers.service, Answers.without]
    cases failures.svc ip <;> rfl
  have hlabelled : (answers.without failures).labelled ip
      = if (failures.pod ip).isNone then answers.labelled ip else none := by
    simp only [Answers.labelled, Answers.without]
    cases failures.pod ip <;> rfl
  rw [← hservice, ← hlabelled, ← found_none, found, found, resolvePod_lookups]

/-- What can be found is not left as an address. -/
theorem found_none_ne_inr {x : String}
    (h : (answers.service ip).isSome ∨ (answers.labelled ip).isSome) :
    found (answers.lookups .none) ip ≠ .inr x := by
  rw [found_none]
  cases hservice : answers.service ip with
  | some resolved => simp
  | none =>
    obtain ⟨resolved, hlabelled⟩ :=
      Option.isSome_iff_exists.mp (h.resolve_left (by simp [hservice]))
    simp [hlabelled]

/-- A peer of which no lookup has found anything to select by. -/
theorem found_lookups_of_lost
    (h : ¬ ((answers.service ip).isSome ∧ (failures.svc ip).isNone
      ∨ (answers.labelled ip).isSome ∧ (failures.pod ip).isNone)) :
    found (answers.lookups failures) ip = .inr ip := by
  have hnone : ∀ {a : Option (String × Labels)} {failure : Option LookupFailure},
      ¬ (a.isSome ∧ failure.isNone) → (if failure.isNone then a else none) = none := by
    intro a failure hnot
    cases a with
    | none => exact ite_self none
    | some resolved => exact if_neg fun hreached => hnot ⟨rfl, hreached⟩
  rw [not_or] at h
  rw [found_lookups, hnone h.1, hnone h.2]
  rfl

/-- An address that is not found stands for itself. -/
theorem eq_of_found_inr {env : Lookups} {ip' : String} (h : found env ip = .inr ip') :
    ip' = ip := by
  unfold found at h
  split at h
  · cases h
  · exact (Sum.inr.inj h).symm

end Found

/-! ## The rules, collected

What a policy says of all its peers together, as a multiset.
-/

section Collected

variable {answers : Answers} {failures : Failures} {dir : Direction} {podDetail : PodDetail}
  {podTraffic : List PodTraffic}

/-- A rule for what is found and the ports. -/
def asFound (entry : Option (String × Labels) × List PortValue) :
    ((String × Labels) ⊕ String) × List PortValue :=
  (entry.1.elim (.inr "") .inl, entry.2)

/-- Nothing is lost by taking an address as found. -/
theorem asFound_injective : Function.Injective asFound := by
  rintro ⟨_ | a, vs⟩ ⟨_ | b, ws⟩ h <;> simp_all [asFound]

/-- Where nobody is reduced to an address, only Services that are stood in for are found
otherwise. -/
theorem found_eq_of_not_stoodIn {ip : String}
    (hfound : (answers.service ip).isSome ∨ (answers.labelled ip).isSome →
      (answers.service ip).isSome ∧ (failures.svc ip).isNone
        ∨ (answers.labelled ip).isSome ∧ (failures.pod ip).isNone)
    (hnot : ¬ ((answers.service ip).isSome ∧ (failures.svc ip).isSome)) :
    found (answers.lookups failures) ip = found (answers.lookups .none) ip := by
  rw [found_lookups, found_none]
  cases hservice : answers.service ip with
  | some resolved =>
    have hreached : failures.svc ip = none := by simpa [hservice] using hnot
    simp [hreached]
  | none =>
    cases hlabelled : answers.labelled ip with
    | none => simp
    | some resolved =>
      have hreached : (failures.pod ip).isNone := by simpa [hservice, hlabelled] using hfound
      simp [hreached]

/-- Where nobody is reduced to an address, a peer that is stood in for is found as its pod. -/
theorem found_of_stoodIn {ip : String}
    (hfound : (answers.service ip).isSome ∧ (failures.svc ip).isNone
      ∨ (answers.labelled ip).isSome ∧ (failures.pod ip).isNone)
    (hstood : (answers.service ip).isSome ∧ (failures.svc ip).isSome) (vs : List PortValue) :
    (found (answers.lookups failures) ip, vs) = asFound (answers.labelled ip, vs)
      ∧ (found (answers.lookups .none) ip, vs) = asFound (answers.service ip, vs) := by
  obtain ⟨service, hservice⟩ := Option.isSome_iff_exists.mp hstood.1
  obtain ⟨failure, hfailure⟩ := Option.isSome_iff_exists.mp hstood.2
  rw [found_lookups, found_none]
  rcases hfound with ⟨-, hnone⟩ | ⟨hlabelled, hnone⟩
  · simp [hfailure] at hnone
  · obtain ⟨labelled, hlabelled⟩ := Option.isSome_iff_exists.mp hlabelled
    simp [hservice, hfailure, hlabelled, hnone, asFound]

/-- Where nobody is reduced to an address, the rules differ in the Services that are stood in for,
if at all. -/
theorem harmless_iff_of_still_found
    (hfound : ∀ ip ∈ peerIPs dir podDetail podTraffic,
      (answers.service ip).isSome ∨ (answers.labelled ip).isSome →
        (answers.service ip).isSome ∧ (failures.svc ip).isNone
          ∨ (answers.labelled ip).isSome ∧ (failures.pod ip).isNone) :
    ((peerIPs dir podDetail podTraffic).val.map fun ip =>
          (found (answers.lookups failures) ip, portsSeen dir podDetail podTraffic ip))
        = ((peerIPs dir podDetail podTraffic).val.map fun ip =>
          (found (answers.lookups .none) ip, portsSeen dir podDetail podTraffic ip))
      ↔ Harmless answers failures dir podDetail podTraffic := by
  have hiff : Harmless answers failures dir podDetail podTraffic ↔ _ :=
    ⟨fun h => h.standIns, fun h => ⟨hfound, h⟩⟩
  -- only the peers whose service look-up failed can change
  rw [hiff, map_eq_map_iff_filter _ fun ip =>
    (answers.service ip).isSome ∧ (failures.svc ip).isSome]
  · rw [← (Multiset.map_injective asFound_injective).eq_iff, Multiset.map_map, Multiset.map_map]
    refine Eq.congr (Multiset.map_congr rfl fun ip hip => ?_)
      (Multiset.map_congr rfl fun ip hip => ?_)
    all_goals
      obtain ⟨hmem, hstood⟩ := Multiset.mem_filter.mp hip
      have hboth := found_of_stoodIn (hfound ip hmem (.inl hstood.1)) hstood
        (portsSeen dir podDetail podTraffic ip)
    · exact hboth.1
    · exact hboth.2
  · intro ip hip hnot
    rw [found_eq_of_not_stoodIn (hfound ip hip) hnot]

/-- **The rules are the same, taken together, exactly when the failures do no harm.** An address
stands for itself only, so it cannot make up for a peer that is found elsewhere. -/
theorem harmless_iff :
    ((peerIPs dir podDetail podTraffic).val.map fun ip =>
          (found (answers.lookups failures) ip, portsSeen dir podDetail podTraffic ip))
        = ((peerIPs dir podDetail podTraffic).val.map fun ip =>
          (found (answers.lookups .none) ip, portsSeen dir podDetail podTraffic ip))
      ↔ Harmless answers failures dir podDetail podTraffic := by
  constructor
  · intro h
    refine (harmless_iff_of_still_found fun ip hip hsome => ?_).mp h
    by_contra hlost
    -- then the address itself is among what is found under the failures, and nowhere else
    have haddress := found_lookups_of_lost hlost
    have hmem : (found (answers.lookups failures) ip, portsSeen dir podDetail podTraffic ip)
        ∈ (peerIPs dir podDetail podTraffic).val.map fun ip =>
          (found (answers.lookups .none) ip, portsSeen dir podDetail podTraffic ip) :=
      h ▸ Multiset.mem_map_of_mem _ hip
    obtain ⟨ip', -, heq⟩ := Multiset.mem_map.mp hmem
    have hfound := (congrArg Prod.fst heq).trans haddress
    obtain rfl := eq_of_found_inr hfound
    exact found_none_ne_inr hsome hfound
  · intro h
    exact (harmless_iff_of_still_found h.still_found).mpr h

end Collected

/-! ## Policies

Both generators log a failure and fall back, so what a failure costs is what the fallback differs
in.
-/

section Policies

variable {answers : Answers} {failures : Failures} {podName : String}
  {podTraffic : List PodTraffic} {detail : PodDetail}

/-- Policies that are kept, whatever the order, tell that the failures did no harm. -/
theorem harmless_of_policiesKept
    (h : PoliciesKept answers failures podName podTraffic (some detail)) (dir : Direction) :
    Harmless answers failures dir detail podTraffic := by
  have hgen := fun lookups =>
    StandardPolicyGenerator.generate_eq ⟨lookups, fun _ => .stored⟩ podName podTraffic detail
  have hsame := (h (fun _ => .stored) (fun _ => .stored)).1
  rw [hgen, hgen] at hsame
  rw [← harmless_iff]
  exact (StandardPolicyGenerator.sameRules_iff (hgen _) (hgen _)).mp hsame dir

/-- Failures that do no harm leave the policies as they are. -/
theorem policiesKept_of_harmless (h : ∀ dir, Harmless answers failures dir detail podTraffic) :
    PoliciesKept answers failures podName podTraffic (some detail) := by
  simp only [← harmless_iff] at h
  intro order order'
  have hstandard := fun lookups order =>
    StandardPolicyGenerator.generate_eq ⟨lookups, order⟩ podName podTraffic detail
  have hcilium := fun lookups order =>
    CiliumPolicyGenerator.generate_eq ⟨lookups, order⟩ podName podTraffic detail
  rw [hstandard, hstandard, hcilium, hcilium]
  refine ⟨(StandardPolicyGenerator.sameRules_iff (hstandard _ _) (hstandard _ _)).mpr h,
    (CiliumPolicyGenerator.sameRules_iff (hcilium _ _) (hcilium _ _)).mpr fun dir => ?_⟩
  -- the rules of Cilium leave out the namespaces
  have hlabels := congrArg (Multiset.map (Prod.map (Sum.map Prod.snd id) id)) (h dir)
  rw [Multiset.map_map, Multiset.map_map] at hlabels
  exact hlabels

end Policies

/-- To the generators the lookups are what they resolve. -/
theorem failedFindNothing (answers : Answers) (failures : Failures) (podName : String)
    (podTraffic : List PodTraffic) (podDetail : Option PodDetail) :
    FailedFindNothing answers failures podName podTraffic podDetail := by
  intro order
  have hresolve : ∀ ip, resolvePod (answers.lookups failures) ip
      = resolvePod ((answers.without failures).lookups .none) ip := fun ip => resolvePod_lookups
  cases podDetail with
  | none => exact ⟨rfl, rfl⟩
  | some detail =>
    rw [StandardPolicyGenerator.generate_eq, StandardPolicyGenerator.generate_eq,
      CiliumPolicyGenerator.generate_eq, CiliumPolicyGenerator.generate_eq]
    constructor
    · simp only [StandardPolicyGenerator.addIngress, StandardPolicyGenerator.addEgress,
        StandardPolicyGenerator.transformToNetworkPolicyIngressRules,
        StandardPolicyGenerator.transformToNetworkPolicyEgressRules,
        StandardPolicyGenerator.transformRules_eq, StandardPolicyGenerator.peerOf_eq,
        hresolve]
    · simp only [CiliumPolicyGenerator.addIngress, CiliumPolicyGenerator.addEgress,
        CiliumPolicyGenerator.transformToCiliumIngressRules,
        CiliumPolicyGenerator.transformToCiliumEgressRules,
        CiliumPolicyGenerator.transformRules_eq, CiliumPolicyGenerator.resolvePeerForCilium_eq,
        hresolve]

/-- Both together; without details there are no policies to lose. -/
theorem policiesKept_iff (answers : Answers) (failures : Failures) (podName : String)
    (podTraffic : List PodTraffic) (podDetail : Option PodDetail) :
    PoliciesKept answers failures podName podTraffic podDetail
      ↔ ∀ detail, podDetail = some detail → ∀ dir,
        Harmless answers failures dir detail podTraffic := by
  cases podDetail with
  | none => exact iff_of_true (fun order order' => ⟨trivial, trivial⟩) (by simp)
  | some detail =>
    simp only [Option.some.injEq, forall_eq']
    exact ⟨harmless_of_policiesKept, policiesKept_of_harmless⟩

/-- **What failing lookups make of the policies**, and when they leave them as they are. -/
theorem policies_kept_iff (answers : Answers) (failures : Failures) (podName : String)
    (podTraffic : List PodTraffic) (podDetail : Option PodDetail) :
    FailedFindNothing answers failures podName podTraffic podDetail
      ∧ (PoliciesKept answers failures podName podTraffic podDetail
        ↔ ∀ detail, podDetail = some detail → ∀ dir,
          Harmless answers failures dir detail podTraffic) :=
  ⟨failedFindNothing answers failures podName podTraffic podDetail,
    policiesKept_iff answers failures podName podTraffic podDetail⟩

/-- The Service `db` is there, and no pod at its address. -/
def dbAnswers : Answers where
  svc ip := if ip = dbService.svcIp then some dbService else none
  pod _ := none

/-- The request for the Service does not get through, and the rule is for its address. -/
theorem dbService_lookup_lost :
    ¬ PoliciesKept dbAnswers ⟨fun _ => some (.error "connection refused"), fun _ => none⟩ "web"
      [webRecord "EGRESS" "0" "10.96.0.20" "5432"] (some webPod) := by
  intro h
  have hpeer : "10.96.0.20" ∈ peerIPs .egress webPod
      [webRecord "EGRESS" "0" "10.96.0.20" "5432"] := by decide +kernel
  have hservice : (dbAnswers.service "10.96.0.20").isSome := rfl
  rcases (harmless_of_policiesKept h .egress).still_found _ hpeer (.inl hservice) with
    ⟨-, hreached⟩ | ⟨hlabelled, -⟩
  · cases hreached
  · cases hlabelled

/-! ## Lookups against the broker

The lookups are requests to the broker, and the answers are what its tables have.
-/

namespace World

variable (w : World)

def Fault.failure : Fault → LookupFailure
  | .transport err => .error err
  | .internalServerError => .errorStatus 500

section Reply

variable {α β γ : Type} (decode : α → Except ApiError β) (make : α → β → γ)

/-- What a reply of the broker has to say: a row that decodes. Everything else says nothing. -/
def replyAnswer : Broker.GetReply α → Option γ
  | .ok row =>
    match decode row with
    | .ok body => some (make row body)
    | .error _ => none
  | _ => none

/-- A body that does not decode is an error like one of the transport. -/
def replyFailure : Broker.GetReply α → Option LookupFailure
  | .ok row =>
    match decode row with
    | .ok _ => none
    | .error err => some (.error err)
  | .notFound => none
  | .internalServerError => some (.errorStatus 500)

end Reply

def svcOf (row : Broker.SvcDetail) (service : Service) : SvcDetail :=
  ⟨row.svcIp, row.svcName.getD "", row.svcNamespace.getD "", service⟩

def podOf (row : Broker.PodDetail) (pod : Pod) : PodDetail :=
  ⟨row.podIp, row.podName, row.podNamespace.getD "", pod⟩

def answers : Answers where
  svc ip := replyAnswer (fun row => w.decodeServiceSpec row.serviceSpec) svcOf
    (Broker.getSvcByIp w.db w.orders ip)
  pod ip := replyAnswer (fun row => decodePodObj w.decodePod row.podObj) podOf
    (Broker.getPodByIp w.db w.orders ip)

/-- The look-ups that fail in this world: on the way, in the broker, or in the decoding. -/
def failures : Failures where
  svc ip := ((w.fault ("/svc/ip/" ++ ip)).map Fault.failure).or
    (replyFailure (fun row => w.decodeServiceSpec row.serviceSpec)
      (Broker.getSvcByIp w.db w.orders ip))
  pod ip := ((w.fault ("/pod/ip/" ++ ip)).map Fault.failure).or
    (replyFailure (fun row => decodePodObj w.decodePod row.podObj)
      (Broker.getPodByIp w.db w.orders ip))

/-- **The lookups of a run** are those of its answers and its failures. -/
theorem toLookups_env : w.env.toLookups = w.answers.lookups w.failures := by
  have hsvc : ∀ ip, w.getRealSvcSpec ip = getReal (w.answers.svc ip) (w.failures.svc ip) := by
    intro ip
    unfold getRealSvcSpec httpGet
    simp only [answers, failures]
    cases w.fault ("/svc/ip/" ++ ip) with
    | some fault => cases fault <;> rfl
    | none =>
      cases Broker.getSvcByIp w.db w.orders ip with
      | ok row =>
        cases hdecode : w.decodeServiceSpec row.serviceSpec <;>
          simp [replyAnswer, replyFailure, getReal, hdecode, svcOf]
      | notFound => rfl
      | internalServerError => rfl
  have hpod : ∀ ip, w.getRealPodSpec ip = getReal (w.answers.pod ip) (w.failures.pod ip) := by
    intro ip
    unfold getRealPodSpec httpGet
    simp only [answers, failures]
    cases w.fault ("/pod/ip/" ++ ip) with
    | some fault => cases fault <;> rfl
    | none =>
      cases Broker.getPodByIp w.db w.orders ip with
      | ok row =>
        cases hdecode : decodePodObj w.decodePod row.podObj <;>
          simp [replyAnswer, replyFailure, getReal, hdecode, podOf]
      | notFound => rfl
      | internalServerError => rfl
  exact congrArg₂ Lookups.mk (funext hsvc) (funext hpod)

end World

end KubeGuardian.Advisor
