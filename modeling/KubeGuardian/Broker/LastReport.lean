import KubeGuardian.Broker.Server

/-!
# Is a row the last report?

An insert writes every column, the conflict branch only those that the report carries.

* **`lastReport_iff`** — after any requests every row of `pod_details` and of `svc_details` is the
  body that was posted last for its key, exactly when no such body leaves out an optional column
  that an earlier one of the key carried.
-/

namespace KubeGuardian.Broker

open Lib

/-! ## Reports of Services -/

def svcSpecs (reqs : List (Orders × Post)) : List SvcDetail :=
  reqs.filterMap fun req =>
    match req.2 with
    | .svcSpec w => some w
    | _ => none

/-- So is `svc_details`, of what is reported of Services. -/
theorem svcDetails_serve (reqs : List (Orders × Post)) :
    (serve reqs).svcDetails = upserts SvcDetail.svcIp SvcDetail.changeset (svcSpecs reqs) := by
  refine run_part (fun (db : Db) (req : Orders × Post) => ?_) _ reqs
  obtain ⟨o, post⟩ := req
  cases post <;> rfl

abbrev svcSpecsOf (svcIp : String) (specs : List SvcDetail) : List SvcDetail :=
  reportsOf SvcDetail.svcIp svcIp specs

theorem changeset_svcIp (old new : SvcDetail) : (old.changeset new).svcIp = old.svcIp := rfl

/-! ## The property and the condition -/

/-- Each key has the row that was posted last for it, and no other. -/
structure LastReported (reqs : List (Orders × Post)) : Prop where
  pod : ∀ podName, (serve reqs).podDetails.filter (·.podName = podName)
    = (specsOf podName (podSpecs reqs)).getLast?.toList
  svc : ∀ svcIp, (serve reqs).svcDetails.filter (·.svcIp = svcIp)
    = (svcSpecsOf svcIp (svcSpecs reqs)).getLast?.toList

/-- The last report of a pod gives every column that an earlier one gave. -/
structure WholePod (specs : List PodDetail) : Prop where
  podNamespace : SaidLast PodDetail.podNamespace specs
  podObj : SaidLast PodDetail.podObj specs

/-- The last report of a Service gives every column that an earlier one gave. -/
structure WholeSvc (specs : List SvcDetail) : Prop where
  svcName : SaidLast SvcDetail.svcName specs
  svcNamespace : SaidLast SvcDetail.svcNamespace specs
  serviceSpec : SaidLast SvcDetail.serviceSpec specs

/-- **The merge of a pod's reports** is the last of them exactly when that one is whole. -/
theorem mergeAll_eq_last_pod {l : List PodDetail} {row last : PodDetail} {podName : String}
    (hkeys : ∀ x ∈ l, x.podName = podName)
    (hrow : mergeAll PodDetail.changeset l = some row) (hlast : l.getLast? = some last) :
    row = last ↔ WholePod l := by
  -- the key, the address and the time are always those of the last report
  have hname : row.podName = last.podName :=
    (key_mergeAll changeset_podName hkeys hrow).trans (hkeys last (List.mem_of_getLast? hlast)).symm
  have hip : row.podIp = last.podIp := column_eq_last hrow hlast fun _ _ => rfl
  have htime : row.timeStamp = last.timeStamp := column_eq_last hrow hlast fun _ _ => rfl
  have hns : row.podNamespace = lastSome PodDetail.podNamespace l :=
    column_mergeAll (fun _ _ => rfl) hrow
  have hobj : row.podObj = lastSome PodDetail.podObj l := column_mergeAll (fun _ _ => rfl) hrow
  constructor
  · rintro rfl
    exact ⟨(lastSome_eq_iff hlast).mp hns.symm, (lastSome_eq_iff hlast).mp hobj.symm⟩
  · intro h
    have hns' := hns.trans ((lastSome_eq_iff hlast).mpr h.podNamespace)
    have hobj' := hobj.trans ((lastSome_eq_iff hlast).mpr h.podObj)
    obtain ⟨_, _, _, _, _⟩ := row
    obtain ⟨_, _, _, _, _⟩ := last
    exact (PodDetail.mk.injEq ..).mpr ⟨hname, hip, hns', hobj', htime⟩

theorem mergeAll_eq_last_svc {l : List SvcDetail} {row last : SvcDetail} {svcIp : String}
    (hkeys : ∀ x ∈ l, x.svcIp = svcIp)
    (hrow : mergeAll SvcDetail.changeset l = some row) (hlast : l.getLast? = some last) :
    row = last ↔ WholeSvc l := by
  -- the key and the time are always those of the last report
  have hkey : row.svcIp = last.svcIp :=
    (key_mergeAll changeset_svcIp hkeys hrow).trans (hkeys last (List.mem_of_getLast? hlast)).symm
  have htime : row.timeStamp = last.timeStamp := column_eq_last hrow hlast fun _ _ => rfl
  have hname : row.svcName = lastSome SvcDetail.svcName l :=
    column_mergeAll (fun _ _ => rfl) hrow
  have hns : row.svcNamespace = lastSome SvcDetail.svcNamespace l :=
    column_mergeAll (fun _ _ => rfl) hrow
  have hspec : row.serviceSpec = lastSome SvcDetail.serviceSpec l :=
    column_mergeAll (fun _ _ => rfl) hrow
  constructor
  · rintro rfl
    exact ⟨(lastSome_eq_iff hlast).mp hname.symm, (lastSome_eq_iff hlast).mp hns.symm,
      (lastSome_eq_iff hlast).mp hspec.symm⟩
  · intro h
    have hname' := hname.trans ((lastSome_eq_iff hlast).mpr h.svcName)
    have hns' := hns.trans ((lastSome_eq_iff hlast).mpr h.svcNamespace)
    have hspec' := hspec.trans ((lastSome_eq_iff hlast).mpr h.serviceSpec)
    obtain ⟨_, _, _, _, _⟩ := row
    obtain ⟨_, _, _, _, _⟩ := last
    exact (SvcDetail.mk.injEq ..).mpr ⟨hkey, hname', hns', hspec', htime⟩

/-- **When every row is the last report of its key.** -/
theorem lastReport_iff (reqs : List (Orders × Post)) :
    LastReported reqs
      ↔ (∀ podName, WholePod (specsOf podName (podSpecs reqs)))
        ∧ ∀ svcIp, WholeSvc (svcSpecsOf svcIp (svcSpecs reqs)) := by
  have hpod : ∀ podName, (serve reqs).podDetails.filter (·.podName = podName)
      = (specsOf podName (podSpecs reqs)).getLast?.toList
        ↔ WholePod (specsOf podName (podSpecs reqs)) := by
    intro podName
    rw [podDetails_serve]
    exact filter_upserts_eq_getLast_iff changeset_podName ⟨saidLast_nil _, saidLast_nil _⟩
      (fun _ _ _ hkeys hrow hlast => mergeAll_eq_last_pod hkeys hrow hlast) _
  have hsvc : ∀ svcIp, (serve reqs).svcDetails.filter (·.svcIp = svcIp)
      = (svcSpecsOf svcIp (svcSpecs reqs)).getLast?.toList
        ↔ WholeSvc (svcSpecsOf svcIp (svcSpecs reqs)) := by
    intro svcIp
    rw [svcDetails_serve]
    exact filter_upserts_eq_getLast_iff changeset_svcIp
      ⟨saidLast_nil _, saidLast_nil _, saidLast_nil _⟩
      (fun _ _ _ hkeys hrow hlast => mergeAll_eq_last_svc hkeys hrow hlast) _
  constructor
  · intro h
    exact ⟨fun podName => (hpod podName).mp (h.pod podName),
      fun svcIp => (hsvc svcIp).mp (h.svc svcIp)⟩
  · intro h
    exact ⟨fun podName => (hpod podName).mpr (h.1 podName),
      fun svcIp => (hsvc svcIp).mpr (h.2 svcIp)⟩

/-- A Service's address goes to another one, whose report has no name. -/
def addressTaken : List (Orders × Post) :=
  [(.stored, .svcSpec ⟨"10.96.0.7", some "db", some "prod", some "{}", 1⟩),
    (.stored, .svcSpec ⟨"10.96.0.7", none, some "dev", some "{}", 2⟩)]

/-- The row has the name of the first and the namespace of the second. -/
theorem mixed_row :
    (serve addressTaken).svcDetails = [⟨"10.96.0.7", some "db", some "dev", some "{}", 2⟩]
      ∧ ¬ LastReported addressTaken := by
  refine ⟨by decide, fun h => ?_⟩
  have hrow := h.svc "10.96.0.7"
  exact absurd hrow (by decide)

end KubeGuardian.Broker
