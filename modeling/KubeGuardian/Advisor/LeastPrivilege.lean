import KubeGuardian.Advisor.Admission

/-!
# Least privilege, and the ports of Services

Two questions about what a generated policy lets through, both settled by `admits_iff`.

* **`least_privilege_iff`** — everything that a Kubernetes policy admits was observed, exactly
  when usable records exist in both directions or in neither;
* **`service_port_admitted`** — the pods behind a Service address are admitted on the port that was
  recorded, which is the Service's; on the port the Service forwards to only where that number
  was recorded as well.
-/

namespace KubeGuardian.Advisor

/-! ## Sample inputs -/

/-- A cluster whose namespaces carry no label but their names, where `ip/32` is the one address. -/
def namedCluster : Cluster where
  namespaceLabels ns := (∅ : LabelMap).insert "kubernetes.io/metadata.name" ns
  metadataName _ := AList.lookup_insert _
  inCIDR cidr ip := cidr = ip ++ "/32"

def webPod : PodDetail where
  podIP := "10.0.0.5"
  name := "web"
  podNamespace := "default"
  pod := ⟨(∅ : LabelMap).insert "app" "web"⟩

def webRecord (trafficType srcPodPort dstIP dstPort : String) : PodTraffic where
  uuid := "u1"
  srcPodName := "web"
  srcIP := "10.0.0.5"
  srcNamespace := "default"
  srcPodPort := srcPodPort
  trafficType := trafficType
  dstIP := dstIP
  dstPort := dstPort
  protocol := "TCP"

def serviceEnv (svc : SvcDetail) : Env where
  getSvcSpec ip := .ok (if ip = svc.svcIp then some svc else none)
  getPodSpec _ := .ok none
  order _ := .stored

/-! ## Least privilege -/

/-- The connection was observed: a usable record has its port and protocol, and the peer that the
record's address resolves to matches it. -/
def Observed (c : Cluster) (env : Lookups) (dir : Direction) (podDetail : PodDetail)
    (podTraffic : List PodTraffic) (conn : Connection) : Prop :=
  ∃ traffic ∈ podTraffic, Usable dir podDetail traffic conn.port
    ∧ protocolPtr traffic.protocol = conn.protocol
    ∧ ∃ peer, StandardPolicyGenerator.createNetworkPolicyPeer env traffic.dstIP = some peer
      ∧ peer.Matches c podDetail.podNamespace conn.peer

theorem observed_iff_justified {c : Cluster} {env : Lookups} {dir : Direction}
    {podDetail : PodDetail} {podTraffic : List PodTraffic} {conn : Connection} :
    Observed c env dir podDetail podTraffic conn
      ↔ Justified c env id dir podDetail podTraffic conn := by
  simp only [Observed, Justified, Option.map_id_fun, id_eq,
    StandardPolicyGenerator.createNetworkPolicyPeer_eq, Option.some.injEq, exists_eq_left',
    StandardPolicyGenerator.peerOf_matches_iff]

theorem HasUsable.of_justified {c : Cluster} {env : Lookups}
    {view : String × LabelMap → String × LabelMap} {dir : Direction} {podDetail : PodDetail}
    {podTraffic : List PodTraffic} {conn : Connection}
    (h : Justified c env view dir podDetail podTraffic conn) :
    HasUsable dir podDetail podTraffic := by
  obtain ⟨traffic, hmem, hu, _⟩ := h
  exact ⟨traffic, hmem, _, hu⟩

/-- **Least privilege holds exactly when both directions have usable records, or neither.** A
direction without any is left out of `policyTypes` while the other one is restricted. -/
theorem least_privilege_iff (c : Cluster) (env : Env) (podName : String)
    (podTraffic : List PodTraffic) (podDetail : PodDetail) :
    ∃ policy, StandardPolicyGenerator.generate env podName podTraffic (some podDetail)
        = .ok policy
      ∧ ((∀ dir conn, policy.Admits c dir conn →
            Observed c env.toLookups dir podDetail podTraffic conn)
          ↔ (HasUsable .ingress podDetail podTraffic
            ↔ HasUsable .egress podDetail podTraffic)) := by
  have hgen := StandardPolicyGenerator.generate_eq env podName podTraffic podDetail
  refine ⟨_, hgen, ?_⟩
  simp only [StandardPolicyGenerator.admits_iff hgen, observed_iff_justified]
  constructor
  · intro h
    -- a direction that is left alone admits any connection, and that one is not observed
    have hfree : ∀ dir dir', HasUsable dir podDetail podTraffic →
        HasUsable dir' podDetail podTraffic := by
      intro dir dir' hdir
      by_contra hnone
      let conn : Connection := ⟨.address "", 0, .tcp⟩
      exact hnone (HasUsable.of_justified (h dir' conn fun hres =>
        (hres.elim hnone fun hall => hall dir hdir).elim))
    exact ⟨hfree .ingress .egress, hfree .egress .ingress⟩
  · intro hboth dir conn hadmits
    refine hadmits ?_
    by_cases hdir : HasUsable dir podDetail podTraffic
    · exact .inl hdir
    · -- then neither direction has any, and both are closed
      refine .inr fun dir' hdir' => hdir ?_
      cases dir <;> cases dir' <;> tauto

/-- A pod that was only ever reached is free to reach anything: one ingress record leaves egress
unrestricted. -/
theorem least_privilege_lost :
    ∃ policy, StandardPolicyGenerator.generate
        (serviceEnv ⟨"10.96.0.10", "api", "default", ⟨∅, []⟩⟩) "web"
        [webRecord "INGRESS" "8080" "10.0.0.9" "0"] (some webPod) = .ok policy
      ∧ policy.Admits namedCluster .egress ⟨.address "1.1.1.1", 443, .tcp⟩
      ∧ ¬ Observed namedCluster
          (serviceEnv ⟨"10.96.0.10", "api", "default", ⟨∅, []⟩⟩).toLookups .egress webPod
          [webRecord "INGRESS" "8080" "10.0.0.9" "0"] ⟨.address "1.1.1.1", 443, .tcp⟩ := by
  have hin : HasUsable .ingress webPod [webRecord "INGRESS" "8080" "10.0.0.9" "0"] :=
    ⟨webRecord "INGRESS" "8080" "10.0.0.9" "0", by simp, 8080, by decide, by decide, by decide,
      by decide⟩
  -- nothing was recorded on the egress side, and the policy is silent there
  have heg : ¬ HasUsable .egress webPod [webRecord "INGRESS" "8080" "10.0.0.9" "0"] := by
    rintro ⟨traffic, hmem, _, hu⟩
    obtain rfl := List.mem_singleton.mp hmem
    exact absurd hu.trafficType (by decide)
  have hgen := StandardPolicyGenerator.generate_eq
    (serviceEnv ⟨"10.96.0.10", "api", "default", ⟨∅, []⟩⟩) "web"
    [webRecord "INGRESS" "8080" "10.0.0.9" "0"] webPod
  refine ⟨_, hgen, ?_, fun hobs => heg (HasUsable.of_justified (observed_iff_justified.mp hobs))⟩
  exact (StandardPolicyGenerator.admits_iff hgen namedCluster _ _).mpr fun hres =>
    (hres.elim heg fun hall => hall .ingress hin).elim

/-! ## Services -/

/-- The number of a `targetPort`; a name stands for a port of the container. -/
def ServicePort.target (containerPort : String → Option Int) (entry : ServicePort) : Option Int :=
  match entry.targetPort with
  | .int intVal => some intVal.toInt
  | .str name => containerPort name

/-- The port of the pods behind a Service that its entry for this port and protocol is mapped to. A
target port may be a name, which `containerPort` looks up. -/
def Service.targetPort (service : Service) (containerPort : String → Option Int) (port : Int)
    (protocol : Protocol) : Option Int :=
  (service.ports.find? fun entry => entry.port = port && entry.protocol = protocol).bind
    (·.target containerPort)

theorem resolvePod_of_service {env : Lookups} {ip : String} {svc : SvcDetail}
    (hsvc : env.getSvcSpec ip = .ok (some svc)) (hsel : svc.service.selector.entries ≠ []) :
    resolvePod env ip = some (svc.svcNamespace, svc.service.selector) := by
  have hpos : svc.service.selector.entries.length > 0 := List.length_pos_iff.mpr hsel
  simp [resolvePod, selectedBy, hsvc, hpos]

/-- **The pods behind a Service are admitted on the recorded port**; on the port that the Service
forwards to exactly when an egress record justifies that port too. -/
theorem service_port_admitted (c : Cluster) (env : Env) (podName : String)
    {podTraffic : List PodTraffic} {podDetail : PodDetail} {traffic : PodTraffic}
    (hmem : traffic ∈ podTraffic) {portInt : Int} (hu : Usable .egress podDetail traffic portInt)
    {svc : SvcDetail} (hsvc : env.getSvcSpec traffic.dstIP = .ok (some svc))
    (hsel : svc.service.selector.entries ≠ []) {labels : LabelMap}
    (hlabels : svc.service.selector.Sub labels) :
    (∃ policy, StandardPolicyGenerator.generate env podName podTraffic (some podDetail)
        = .ok policy
      ∧ policy.Admits c .egress
          ⟨.pod svc.svcNamespace labels, portInt, protocolPtr traffic.protocol⟩
      ∧ ∀ containerPort target,
          svc.service.targetPort containerPort portInt (protocolPtr traffic.protocol)
            = some target →
          (policy.Admits c .egress
              ⟨.pod svc.svcNamespace labels, target, protocolPtr traffic.protocol⟩
            ↔ Justified c env.toLookups id .egress podDetail podTraffic
                ⟨.pod svc.svcNamespace labels, target, protocolPtr traffic.protocol⟩))
    ∧ (svc.svcNamespace = podDetail.podNamespace →
        svc.service.selector.lookup namespaceLabel = none →
      ∃ policy, CiliumPolicyGenerator.generate env podName podTraffic (some podDetail)
          = .ok policy
        ∧ policy.Admits c .egress
            ⟨.pod svc.svcNamespace labels, portInt, protocolPtr traffic.protocol⟩
        ∧ ∀ containerPort target,
            svc.service.targetPort containerPort portInt (protocolPtr traffic.protocol)
              = some target →
            (policy.Admits c .egress
                ⟨.pod svc.svcNamespace labels, target, protocolPtr traffic.protocol⟩
              ↔ Justified c env.toLookups (ciliumView podDetail.podNamespace) .egress podDetail
                  podTraffic
                  ⟨.pod svc.svcNamespace labels, target, protocolPtr traffic.protocol⟩)) := by
  have hres : HasUsable .egress podDetail podTraffic
      ∨ ∀ dir, ¬ HasUsable dir podDetail podTraffic := .inl ⟨traffic, hmem, portInt, hu⟩
  have hresolved := resolvePod_of_service hsvc hsel
  constructor
  · have hgen := StandardPolicyGenerator.generate_eq env podName podTraffic podDetail
    refine ⟨_, hgen, ?_, fun _ target _ => ?_⟩
    · refine (StandardPolicyGenerator.admits_iff hgen c _ _).mpr fun _ => ?_
      exact ⟨traffic, hmem, hu, rfl, by rw [hresolved]; exact ⟨rfl, hlabels⟩⟩
    · rw [StandardPolicyGenerator.admits_iff hgen, imp_iff_right hres]
  · intro hns hnone
    have hgen := CiliumPolicyGenerator.generate_eq env podName podTraffic podDetail
    refine ⟨_, hgen, ?_, fun _ target _ => ?_⟩
    · refine (CiliumPolicyGenerator.admits_iff hgen c _ _).mpr fun _ => ?_
      refine ⟨traffic, hmem, hu, rfl, ?_⟩
      rw [hresolved]
      -- in its own namespace and without a namespace label, Cilium's view is the selector
      refine ⟨?_, fun key value h => hlabels key value (LabelMap.lookup_erase_eq_some_iff.mp h).2⟩
      simp only [ciliumView, hnone, Option.getD_none, hns]
    · rw [CiliumPolicyGenerator.admits_iff hgen, imp_iff_right hres]

/-- The Service `api` takes port 80 and forwards it to port 8080. -/
def apiService : SvcDetail where
  svcIp := "10.96.0.10"
  svcName := "api"
  svcNamespace := "default"
  service := ⟨(∅ : LabelMap).insert "app" "api", [⟨80, .int 8080, .tcp⟩]⟩

theorem service_port_admitted_api :
    (∃ policy, StandardPolicyGenerator.generate (serviceEnv apiService) "web"
        [webRecord "EGRESS" "0" "10.96.0.10" "80"] (some webPod) = .ok policy
      ∧ policy.Admits namedCluster .egress
          ⟨.pod "default" ((∅ : LabelMap).insert "app" "api"), 80, .tcp⟩)
    ∧ ∃ policy, CiliumPolicyGenerator.generate (serviceEnv apiService) "web"
        [webRecord "EGRESS" "0" "10.96.0.10" "80"] (some webPod) = .ok policy
      ∧ policy.Admits namedCluster .egress
          ⟨.pod "default" ((∅ : LabelMap).insert "app" "api"), 80, .tcp⟩ := by
  have hu : Usable .egress webPod (webRecord "EGRESS" "0" "10.96.0.10" "80") 80 :=
    ⟨by decide, by decide, by decide, by decide⟩
  obtain ⟨hstandard, hcilium⟩ := service_port_admitted namedCluster (serviceEnv apiService) "web"
    (List.mem_singleton_self _) hu
    (show (serviceEnv apiService).getSvcSpec "10.96.0.10" = .ok (some apiService) from rfl)
    (by decide) (LabelMap.Sub.refl _)
  obtain ⟨policy, hgen, hadmits, _⟩ := hstandard
  obtain ⟨policy', hgen', hadmits', _⟩ := hcilium rfl (by decide)
  exact ⟨⟨policy, hgen, hadmits⟩, policy', hgen', hadmits'⟩

/-- `web` was seen to reach `api`, and either policy cuts it off: what arrives at the pods of the
Service arrives on port 8080. -/
theorem service_target_blocked :
    apiService.service.targetPort (fun _ => none) 80 .tcp = some 8080
      ∧ (∃ policy, StandardPolicyGenerator.generate (serviceEnv apiService) "web"
          [webRecord "EGRESS" "0" "10.96.0.10" "80"] (some webPod) = .ok policy
        ∧ ¬ policy.Admits namedCluster .egress
            ⟨.pod "default" ((∅ : LabelMap).insert "app" "api"), 8080, .tcp⟩)
      ∧ ∃ policy, CiliumPolicyGenerator.generate (serviceEnv apiService) "web"
          [webRecord "EGRESS" "0" "10.96.0.10" "80"] (some webPod) = .ok policy
        ∧ ¬ policy.Admits namedCluster .egress
            ⟨.pod "default" ((∅ : LabelMap).insert "app" "api"), 8080, .tcp⟩ := by
  have heg : HasUsable .egress webPod [webRecord "EGRESS" "0" "10.96.0.10" "80"] :=
    ⟨webRecord "EGRESS" "0" "10.96.0.10" "80", by simp, 80, by decide, by decide, by decide,
      by decide⟩
  -- the record names the port of the service and no other
  have hport : ∀ view, ¬ Justified namedCluster (serviceEnv apiService).toLookups view .egress
      webPod [webRecord "EGRESS" "0" "10.96.0.10" "80"]
      ⟨.pod "default" ((∅ : LabelMap).insert "app" "api"), 8080, .tcp⟩ := by
    rintro view ⟨traffic, hmem, hu, _⟩
    obtain rfl := List.mem_singleton.mp hmem
    exact absurd hu.port (by decide)
  have hstandard := StandardPolicyGenerator.generate_eq (serviceEnv apiService) "web"
    [webRecord "EGRESS" "0" "10.96.0.10" "80"] webPod
  have hcilium := CiliumPolicyGenerator.generate_eq (serviceEnv apiService) "web"
    [webRecord "EGRESS" "0" "10.96.0.10" "80"] webPod
  refine ⟨by decide, ⟨_, hstandard, ?_⟩, ⟨_, hcilium, ?_⟩⟩
  · rw [StandardPolicyGenerator.admits_iff hstandard]
    exact fun h => hport _ (h (.inl heg))
  · rw [CiliumPolicyGenerator.admits_iff hcilium]
    exact fun h => hport _ (h (.inl heg))

end KubeGuardian.Advisor
