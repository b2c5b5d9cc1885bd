import KubeGuardian.Broker.Server

/-!
# Which traffic records the table keeps

A record that `get_row` takes for a stored one is dropped with an ordinary `200`. The two
results below say exactly when that loses something, whatever else is posted in between:

* **`combinations_held_iff`** — the records of one pod: every combination of traffic type, peer,
  ports and protocol survives exactly when none of them is hidden by an earlier one of another
  combination;
* **`tcp_records_readable_iff`** — TCP records of many pods: each can be read back under its pod
  name exactly when no two pods posted like records from the same address.
-/

namespace KubeGuardian.Broker

open Lib

def PodTraffic.combination (r : PodTraffic) :
    Option String × Option String × Option String × Option String × Option String :=
  (r.trafficType, r.trafficInOutIp, r.podPort, r.trafficInOutPort, r.ipProtocol)

def PodTraffic.OfPod (podName podIp : String) (r : PodTraffic) : Prop :=
  r.podName = some podName ∧ r.podIp = some podIp

instance (podName podIp : String) (r : PodTraffic) : Decidable (r.OfPod podName podIp) :=
  inferInstanceAs (Decidable (_ ∧ _))

structure PodTraffic.AllColumns (r : PodTraffic) : Prop where
  podName : r.podName.isSome
  podNamespace : r.podNamespace.isSome
  podIp : r.podIp.isSome
  podPort : r.podPort.isSome
  ipProtocol : r.ipProtocol.isSome
  trafficType : r.trafficType.isSome
  trafficInOutIp : r.trafficInOutIp.isSome
  trafficInOutPort : r.trafficInOutPort.isSome

/-- An egress record of a pod of the namespace `default`, as the controller posts it: the pod's
own port is not reported for egress and reads `"0"`. -/
def egressRecord (uuid podName podIp peer port protocol : String) : PodTraffic where
  uuid := uuid
  podName := some podName
  podNamespace := some "default"
  podIp := some podIp
  podPort := some "0"
  ipProtocol := some protocol
  trafficType := some "EGRESS"
  trafficInOutIp := some peer
  trafficInOutPort := some port
  timeStamp := 0

theorem egressRecord_allColumns (uuid podName podIp peer port protocol : String) :
    (egressRecord uuid podName podIp peer port protocol).AllColumns := by
  constructor <;> rfl

def posted (rs : List PodTraffic) : List (Orders × Post) :=
  rs.map fun r => (Orders.stored, Post.podTraffic r)

theorem trafficRecords_posted (rs : List PodTraffic) : trafficRecords (posted rs) = rs := by
  simp [trafficRecords, posted, List.filterMap_map]

/-! ## One pod -/

/-- Among the records of one pod the queries look at nothing beyond the combination. -/
theorem hides_congruent (podName podIp : String) :
    Congruent hides (PodTraffic.OfPod podName podIp) PodTraffic.combination := by
  intro s s' a a' hs hs' ha ha' hss haa
  simp only [PodTraffic.combination, Prod.mk.injEq] at hss haa
  simp only [hides, peerPortQuery, podPortQuery, bothPortsQuery, hs.2, hs'.2, ha.2, ha'.2,
    hss, haa]

/-- **When a pod's combinations are all kept.** -/
theorem combinations_held_iff (podName podIp : String) {reqs : List (Orders × Post)}
    (hpod : ∀ r ∈ trafficRecords reqs, r.OfPod podName podIp)
    (huuid : ((trafficRecords reqs).map (·.uuid)).Nodup) :
    (∀ r ∈ trafficRecords reqs, ∃ row ∈ (serve reqs).podTraffic, row.combination = r.combination)
      ↔ ∀ pre r post, trafficRecords reqs = pre ++ r :: post →
          (∃ s ∈ pre, hides s r) → ∃ s ∈ pre, s.combination = r.combination := by
  rw [podTraffic_serve huuid]
  exact held_iff (hides_congruent podName podIp) hpod

def twoPeers : List PodTraffic :=
  [egressRecord "u1" "web" "10.0.0.5" "10.96.0.10" "53" "UDP",
    egressRecord "u2" "web" "10.0.0.5" "10.96.0.11" "53" "UDP"]

theorem combinations_held_two_peers :
    (∃ row ∈ (serve (posted twoPeers)).podTraffic, row.combination
        = (egressRecord "u1" "web" "10.0.0.5" "10.96.0.10" "53" "UDP").combination)
      ∧ ∃ row ∈ (serve (posted twoPeers)).podTraffic, row.combination
        = (egressRecord "u2" "web" "10.0.0.5" "10.96.0.11" "53" "UDP").combination := by
  have hpod : ∀ r ∈ trafficRecords (posted twoPeers), r.OfPod "web" "10.0.0.5" := by decide
  have hheld := (combinations_held_iff "web" "10.0.0.5" hpod (by decide)).mpr ?_
  · rw [trafficRecords_posted] at hheld
    exact ⟨hheld _ (by simp [twoPeers]), hheld _ (by simp [twoPeers])⟩
  · rw [trafficRecords_posted]
    intro pre r post hsplit hhides
    match pre, hsplit with
    | [], _ => simp at hhides
    | [s], hsplit =>
      obtain ⟨rfl, rfl, rfl⟩ : s = _ ∧ r = _ ∧ post = [] := by
        simpa [twoPeers, eq_comm] using hsplit
      revert hhides
      decide
    | _ :: _ :: _, hsplit => simp [twoPeers] at hsplit

/-- The second UDP port of a peer is dropped because the pod ports agree, and a TCP record
because its protocol is never looked at: three postings leave one row. -/
theorem combinations_lost :
    ¬ ∀ r ∈ [egressRecord "u1" "web" "10.0.0.5" "10.96.0.10" "53" "UDP",
        egressRecord "u2" "web" "10.0.0.5" "10.96.0.10" "123" "UDP",
        egressRecord "u3" "web" "10.0.0.5" "10.96.0.10" "53" "TCP"],
      ∃ row ∈ (serve (posted
          [egressRecord "u1" "web" "10.0.0.5" "10.96.0.10" "53" "UDP",
            egressRecord "u2" "web" "10.0.0.5" "10.96.0.10" "123" "UDP",
            egressRecord "u3" "web" "10.0.0.5" "10.96.0.10" "53" "TCP"])).podTraffic,
        row.combination = r.combination := by
  decide

/-! ## Many pods -/

/-- The columns that the query for TCP records compares. -/
def PodTraffic.tcpKey (r : PodTraffic) :
    Option String × Option String × Option String × Option String × Option String :=
  (r.podIp, r.podPort, r.trafficType, r.trafficInOutIp, r.trafficInOutPort)

theorem hides_tcp_iff {s r : PodTraffic} (hcols : s.AllColumns)
    (htcp : r.ipProtocol = some "TCP") : hides s r ↔ s.tcpKey = r.tcpKey := by
  have hnotUdp : r.ipProtocol ≠ some "UDP" := by rw [htcp]; simp
  unfold hides
  rw [if_neg hnotUdp]
  simp only [bothPortsQuery, Bool.and_eq_true, PodTraffic.tcpKey, Prod.mk.injEq,
    sqlEq_iff_of_isSome hcols.podIp, sqlEq_iff_of_isSome hcols.podPort,
    sqlEq_iff_of_isSome hcols.trafficType, sqlEq_iff_of_isSome hcols.trafficInOutIp,
    sqlEq_iff_of_isSome hcols.trafficInOutPort]
  tauto

/-- **When every TCP record can be read back under its pod's name.** Rows are written under a
check on `pod_ip` and read by `pod_name`, so the second has to follow from what the check
compares. -/
theorem tcp_records_readable_iff (o : Reordering PodTraffic) {reqs : List (Orders × Post)}
    (hcols : ∀ r ∈ trafficRecords reqs, r.AllColumns)
    (htcp : ∀ r ∈ trafficRecords reqs, r.ipProtocol = some "TCP")
    (huuid : ((trafficRecords reqs).map (·.uuid)).Nodup) :
    (∀ r ∈ trafficRecords reqs, ∀ name, r.podName = some name →
        ∃ rows, podTrafficByName o (serve reqs).podTraffic name = some rows
          ∧ ∃ row ∈ rows, row.tcpKey = r.tcpKey)
      ↔ ∀ s ∈ trafficRecords reqs, ∀ r ∈ trafficRecords reqs,
          s.tcpKey = r.tcpKey → s.podName = r.podName := by
  -- a TCP row hides the records of its key, and the pod's name is not in it
  have hdup : ∀ s r : PodTraffic, s.AllColumns ∧ s.ipProtocol = some "TCP" →
      r.AllColumns ∧ r.ipProtocol = some "TCP" → (hides s r ↔ s.tcpKey = r.tcpKey) :=
    fun s r hs hr => hides_tcp_iff hs.1 hr.2
  rw [← held_pair_iff (n := PodTraffic.podName) hdup fun r hr => ⟨hcols r hr, htcp r hr⟩,
    podTraffic_serve huuid]
  constructor
  · intro h r hr
    obtain ⟨name, hname⟩ := Option.isSome_iff_exists.mp (hcols r hr).podName
    obtain ⟨rows, hrows, row, hrow, hkey⟩ := h r hr name hname
    obtain ⟨hmem, hrowName⟩ := (mem_podTrafficByName hrows row).mp hrow
    exact ⟨row, hmem, Prod.ext (hrowName.trans hname.symm) hkey⟩
  · intro h r hr name hname
    obtain ⟨row, hmem, hrow⟩ := h r hr
    obtain ⟨hrowName, hkey⟩ := Prod.mk.inj hrow
    exact ⟨_, rfl, row, (mem_podTrafficByName rfl row).mpr ⟨hmem, hrowName.trans hname⟩, hkey⟩

def twoPods : List PodTraffic :=
  [egressRecord "u1" "web-0" "10.0.0.5" "10.96.0.10" "443" "TCP",
    egressRecord "u2" "web-1" "10.0.0.6" "10.96.0.10" "443" "TCP"]

theorem tcp_records_readable_two_pods :
    ∃ rows, podTrafficByName .stored (serve (posted twoPods)).podTraffic "web-1" = some rows
      ∧ ∃ row ∈ rows, row.tcpKey
        = (egressRecord "u2" "web-1" "10.0.0.6" "10.96.0.10" "443" "TCP").tcpKey := by
  have hcols : ∀ r ∈ trafficRecords (posted twoPods), r.AllColumns := by
    rw [trafficRecords_posted]
    simp [twoPods, egressRecord_allColumns]
  have hread := (tcp_records_readable_iff .stored hcols (by decide) (by decide)).mpr (by decide)
  rw [trafficRecords_posted] at hread
  exact hread _ (by simp [twoPods]) "web-1" rfl

/-- The address of `web-0` passes to `web-1`, whose like record is then dropped: nothing can be
read back under `web-1`. -/
theorem tcp_record_swallowed :
    ¬ ∀ r ∈ [egressRecord "u1" "web-0" "10.0.0.5" "10.96.0.10" "443" "TCP",
        egressRecord "u2" "web-1" "10.0.0.5" "10.96.0.10" "443" "TCP"],
      ∀ name, r.podName = some name →
        ∃ rows, podTrafficByName .stored (serve (posted
            [egressRecord "u1" "web-0" "10.0.0.5" "10.96.0.10" "443" "TCP",
              egressRecord "u2" "web-1" "10.0.0.5" "10.96.0.10" "443" "TCP"])).podTraffic name
            = some rows
          ∧ ∃ row ∈ rows, row.tcpKey = r.tcpKey := by
  intro h
  obtain ⟨rows, hrows, row, hrow, -⟩ := h
    (egressRecord "u2" "web-1" "10.0.0.5" "10.96.0.10" "443" "TCP") (by simp) "web-1" rfl
  obtain rfl : rows = [] := Option.some.inj (hrows.symm.trans (by decide))
  simp at hrow

end KubeGuardian.Broker
