import KubeGuardian.Advisor.LeastPrivilege

/-!
# Where the two generators agree

A Kubernetes rule names its peers by namespace and labels, a Cilium rule by labels alone, which
Cilium completes with the policy's own namespace. So the two policies of one pod admit the same
connections only as far as that completion gives back what was resolved.

* **`agree_iff`** — they admit the same exactly when each reading of the resolved peers covers the
  other; where no resolved peer carries a namespace label of Cilium's, that is to say when every
  resolved peer lives in the policy's own namespace.
-/

namespace KubeGuardian.Advisor

/-- The pods that usable records of direction `dir` with this port and protocol resolve to. -/
def ResolvedPeer (env : Lookups) (dir : Direction) (podDetail : PodDetail)
    (podTraffic : List PodTraffic) (port : Int) (protocol : Protocol)
    (resolved : String × LabelMap) : Prop :=
  ∃ traffic ∈ podTraffic, Usable dir podDetail traffic port
    ∧ protocolPtr traffic.protocol = protocol
    ∧ resolvePod env traffic.dstIP = some resolved

/-- Every peer in `P` is also meant by some peer in `Q`: one of its namespace that asks for no
more labels. -/
def CoveredBy (P Q : String × LabelMap → Prop) : Prop :=
  ∀ p, P p → ∃ q, Q q ∧ q.1 = p.1 ∧ q.2.Sub p.2

/-- Some recorded peer of this port and protocol resolves to `viewed`, as seen through `view`. -/
def Viewed (env : Lookups) (view : String × LabelMap → String × LabelMap) (dir : Direction)
    (podDetail : PodDetail) (podTraffic : List PodTraffic) (port : Int) (protocol : Protocol)
    (viewed : String × LabelMap) : Prop :=
  ∃ p, ResolvedPeer env dir podDetail podTraffic port protocol p ∧ view p = viewed

/-- Cilium's view of the peers, which forgets their namespaces, comes to the same connections as the
peers themselves: each is covered by the other. -/
def ViewsCover (env : Lookups) (podDetail : PodDetail) (podTraffic : List PodTraffic) : Prop :=
  ∀ dir port protocol,
    let peers := Viewed env id dir podDetail podTraffic port protocol
    let views := Viewed env (ciliumView podDetail.podNamespace) dir podDetail podTraffic port
      protocol
    CoveredBy peers views ∧ CoveredBy views peers

/-- No usable record resolves to a peer that carries Cilium's namespace label. -/
def NoNamespaceLabel (env : Lookups) (podDetail : PodDetail) (podTraffic : List PodTraffic) :
    Prop :=
  ∀ dir port protocol p, ResolvedPeer env dir podDetail podTraffic port protocol p →
    p.2.lookup namespaceLabel = none

/-- Every usable record that resolves to pods resolves to pods of the policy's own namespace. -/
def OwnNamespaceOnly (env : Lookups) (podDetail : PodDetail) (podTraffic : List PodTraffic) :
    Prop :=
  ∀ dir port protocol p, ResolvedPeer env dir podDetail podTraffic port protocol p →
    p.1 = podDetail.podNamespace

/-- A connection is justified by what the records resolve to, or by an address that resolves to
no pod, which is not a matter of the view. -/
theorem justified_iff {c : Cluster} {env : Lookups} {view : String × LabelMap → String × LabelMap}
    {dir : Direction} {podDetail : PodDetail} {podTraffic : List PodTraffic}
    {conn : Connection} :
    Justified c env view dir podDetail podTraffic conn
      ↔ (∃ p, ResolvedPeer env dir podDetail podTraffic conn.port conn.protocol p
          ∧ ∃ ns labels, conn.peer = .pod ns labels ∧ ns = (view p).1 ∧ (view p).2.Sub labels)
        ∨ ∃ traffic ∈ podTraffic, Usable dir podDetail traffic conn.port
          ∧ protocolPtr traffic.protocol = conn.protocol ∧ resolvePod env traffic.dstIP = none
          ∧ ∃ ip, conn.peer = .address ip ∧ c.inCIDR (traffic.dstIP ++ "/32") ip := by
  constructor
  · rintro ⟨traffic, hmem, hu, hproto, hreach⟩
    cases hresolved : resolvePod env traffic.dstIP with
    | none =>
      rw [hresolved] at hreach
      refine .inr ⟨traffic, hmem, hu, hproto, hresolved, ?_⟩
      cases hpeer : conn.peer with
      | pod ns labels => simp [hpeer, Reaches] at hreach
      | address ip => exact ⟨ip, rfl, by simpa [hpeer, Reaches] using hreach⟩
    | some p =>
      rw [hresolved] at hreach
      refine .inl ⟨p, ⟨traffic, hmem, hu, hproto, hresolved⟩, ?_⟩
      cases hpeer : conn.peer with
      | pod ns labels => exact ⟨ns, labels, rfl, by simpa [hpeer, Reaches] using hreach⟩
      | address ip => simp [hpeer, Reaches] at hreach
  · rintro (⟨p, ⟨traffic, hmem, hu, hproto, hresolved⟩, ns, labels, hpeer, hreach⟩ |
      ⟨traffic, hmem, hu, hproto, hresolved, ip, hpeer, hreach⟩)
    · exact ⟨traffic, hmem, hu, hproto, by rw [hresolved, hpeer]; exact hreach⟩
    · exact ⟨traffic, hmem, hu, hproto, by rw [hresolved, hpeer]; exact hreach⟩

section Cover

variable {c : Cluster} {env : Lookups} {view view' : String × LabelMap → String × LabelMap}
  {dir : Direction} {podDetail : PodDetail} {podTraffic : List PodTraffic}

theorem justified_of_coveredBy {conn : Connection}
    (h : Justified c env view dir podDetail podTraffic conn)
    (hcover : CoveredBy (Viewed env view dir podDetail podTraffic conn.port conn.protocol)
      (Viewed env view' dir podDetail podTraffic conn.port conn.protocol)) :
    Justified c env view' dir podDetail podTraffic conn := by
  rw [justified_iff] at h ⊢
  refine h.imp_left ?_
  rintro ⟨p, hp, ns, labels, hpeer, hns, hsub⟩
  obtain ⟨_, ⟨q, hq, rfl⟩, hqns, hqsub⟩ := hcover _ ⟨p, hp, rfl⟩
  exact ⟨q, hq, ns, labels, hpeer, hns.trans hqns.symm, hqsub.trans hsub⟩

/-- The pod that is just what a resolved peer asks for tells whether another view covers it. -/
theorem coveredBy_of_justified {port : Int} {protocol : Protocol}
    (h : ∀ peer, Justified c env view dir podDetail podTraffic ⟨peer, port, protocol⟩ →
      Justified c env view' dir podDetail podTraffic ⟨peer, port, protocol⟩) :
    CoveredBy (Viewed env view dir podDetail podTraffic port protocol)
      (Viewed env view' dir podDetail podTraffic port protocol) := by
  rintro _ ⟨p, hp, rfl⟩
  have hself : Justified c env view dir podDetail podTraffic
      ⟨.pod (view p).1 (view p).2, port, protocol⟩ :=
    justified_iff.mpr (.inl ⟨p, hp, _, _, rfl, rfl, LabelMap.Sub.refl _⟩)
  rcases justified_iff.mp (h _ hself) with ⟨q, hq, ns, labels, hpeer, hns, hsub⟩ |
    ⟨_, _, _, _, _, ip, hpeer, _⟩
  · -- the peer that justifies it there is the cover
    obtain ⟨rfl, rfl⟩ := Peer.pod.inj hpeer
    exact ⟨_, ⟨q, hq, rfl⟩, hns.symm, hsub⟩
  · cases hpeer

end Cover

/-- Without namespace labels Cilium's view of a peer differs from the peer in the namespace only,
which is then the policy's own. -/
theorem ciliumView_of_lookup_eq_none (policyNs : String) {p : String × LabelMap}
    (h : p.2.lookup namespaceLabel = none) :
    (ciliumView policyNs p).1 = policyNs ∧ p.2.Sub (ciliumView policyNs p).2
      ∧ (ciliumView policyNs p).2.Sub p.2 := by
  refine ⟨by simp [ciliumView, h], fun key value hl => ?_, fun key value hl => ?_⟩
  · refine LabelMap.lookup_erase_eq_some_iff.mpr ⟨?_, hl⟩
    rintro rfl
    rw [h] at hl
    cases hl
  · exact (LabelMap.lookup_erase_eq_some_iff.mp hl).2

theorem viewsCover_iff_ownNamespaceOnly {env : Lookups} {podDetail : PodDetail}
    {podTraffic : List PodTraffic} (hlabel : NoNamespaceLabel env podDetail podTraffic) :
    ViewsCover env podDetail podTraffic ↔ OwnNamespaceOnly env podDetail podTraffic := by
  constructor
  · intro h dir port protocol p hp
    obtain ⟨_, ⟨q, hq, rfl⟩, hns, _⟩ := (h dir port protocol).1 p ⟨p, hp, rfl⟩
    rw [← hns]
    exact (ciliumView_of_lookup_eq_none _ (hlabel dir port protocol q hq)).1
  · intro h dir port protocol
    refine ⟨?_, ?_⟩ <;> rintro _ ⟨p, hp, rfl⟩
    all_goals
      obtain ⟨hns, hsub, hsub'⟩ := ciliumView_of_lookup_eq_none podDetail.podNamespace
        (hlabel dir port protocol p hp)
      have hown := h dir port protocol p hp
    · exact ⟨_, ⟨p, hp, rfl⟩, hns.trans hown.symm, hsub'⟩
    · exact ⟨_, ⟨p, hp, rfl⟩, hown.trans hns.symm, hsub⟩

/-- **When the two policies of a pod admit the same connections.** -/
theorem agree_iff (c : Cluster) (env : Env) (podName : String) (podTraffic : List PodTraffic)
    (podDetail : PodDetail) :
    ∃ standard cilium,
      StandardPolicyGenerator.generate env podName podTraffic (some podDetail) = .ok standard
      ∧ CiliumPolicyGenerator.generate env podName podTraffic (some podDetail) = .ok cilium
      ∧ ((∀ dir conn, standard.Admits c dir conn ↔ cilium.Admits c dir conn)
          ↔ ViewsCover env.toLookups podDetail podTraffic)
      ∧ (NoNamespaceLabel env.toLookups podDetail podTraffic →
          (ViewsCover env.toLookups podDetail podTraffic
            ↔ OwnNamespaceOnly env.toLookups podDetail podTraffic)) := by
  have hstandard := StandardPolicyGenerator.generate_eq env podName podTraffic podDetail
  have hcilium := CiliumPolicyGenerator.generate_eq env podName podTraffic podDetail
  refine ⟨_, _, hstandard, hcilium, ?_, viewsCover_iff_ownNamespaceOnly⟩
  simp only [StandardPolicyGenerator.admits_iff hstandard, CiliumPolicyGenerator.admits_iff hcilium]
  constructor
  · intro h dir port protocol
    -- whatever is justified restricts the direction, so there the two are compared
    refine ⟨coveredBy_of_justified (c := c) fun peer hj => ?_,
      coveredBy_of_justified (c := c) fun peer hj => ?_⟩
    · exact (h dir _).mp (fun _ => hj) (.inl (HasUsable.of_justified hj))
    · exact (h dir _).mpr (fun _ => hj) (.inl (HasUsable.of_justified hj))
  · intro h dir conn
    obtain ⟨hcover, hcover'⟩ := h dir conn.port conn.protocol
    exact ⟨fun hs hres => justified_of_coveredBy (hs hres) hcover,
      fun hc hres => justified_of_coveredBy (hc hres) hcover'⟩

def dbService : SvcDetail where
  svcIp := "10.96.0.20"
  svcName := "db"
  svcNamespace := "data"
  service := ⟨(∅ : LabelMap).insert "app" "db", []⟩

/-- `web` of `default` reaches `db` of `data`: the Kubernetes policy admits those pods, the Cilium
policy admits pods of `default` with their labels instead. -/
theorem agree_lost :
    ∃ standard cilium,
      StandardPolicyGenerator.generate (serviceEnv dbService) "web"
          [webRecord "EGRESS" "0" "10.96.0.20" "5432"] (some webPod) = .ok standard
      ∧ CiliumPolicyGenerator.generate (serviceEnv dbService) "web"
          [webRecord "EGRESS" "0" "10.96.0.20" "5432"] (some webPod) = .ok cilium
      ∧ standard.Admits namedCluster .egress
          ⟨.pod "data" ((∅ : LabelMap).insert "app" "db"), 5432, .tcp⟩
      ∧ ¬ cilium.Admits namedCluster .egress
          ⟨.pod "data" ((∅ : LabelMap).insert "app" "db"), 5432, .tcp⟩ := by
  have hu : Usable .egress webPod (webRecord "EGRESS" "0" "10.96.0.20" "5432") 5432 :=
    ⟨by decide, by decide, by decide, by decide⟩
  have hstandard := StandardPolicyGenerator.generate_eq (serviceEnv dbService) "web"
    [webRecord "EGRESS" "0" "10.96.0.20" "5432"] webPod
  have hcilium := CiliumPolicyGenerator.generate_eq (serviceEnv dbService) "web"
    [webRecord "EGRESS" "0" "10.96.0.20" "5432"] webPod
  refine ⟨_, _, hstandard, hcilium, ?_, fun hadmits => ?_⟩
  · refine (StandardPolicyGenerator.admits_iff hstandard _ _ _).mpr fun _ => ?_
    exact ⟨_, List.mem_singleton_self _, hu, rfl, rfl, LabelMap.Sub.refl _⟩
  · obtain ⟨traffic, hmem, _, _, hreach⟩ := (CiliumPolicyGenerator.admits_iff hcilium _ _ _).mp
      hadmits (.inl ⟨_, List.mem_singleton_self _, _, hu⟩)
    obtain rfl := List.mem_singleton.mp hmem
    have hns : "data" = (ciliumView "default" ("data", (∅ : LabelMap).insert "app" "db")).1 :=
      hreach.1
    exact absurd hns (by decide)

end KubeGuardian.Advisor
