import KubeGuardian.Broker.Schema
import KubeGuardian.Lib.Reordering
import KubeGuardian.Lib.Table

/-!
# The `pod_details` and `svc_details` tables

Both tables are written by upserts only. The conflict branch sets the columns of the derived
`AsChangeset`: not the primary key, and not a column that the report leaves out, which keeps its
older value. So a row holds, column by column, the last value reported for its key
(`podDetail_of_mem`).
-/

namespace KubeGuardian.Broker

open Lib

/-- The row `old` after `do_update().set(new)`. -/
def PodDetail.changeset (old new : PodDetail) : PodDetail where
  podName := old.podName
  podIp := new.podIp
  podNamespace := new.podNamespace.or old.podNamespace
  podObj := new.podObj.or old.podObj
  timeStamp := new.timeStamp

def upsertPodDetails (t : List PodDetail) (w : PodDetail) : List PodDetail × Reply :=
  (upsert PodDetail.podName PodDetail.changeset t w, .ok)

/-- `pod_ip`: a row with the address `ip`, whichever the database yields first. -/
def podIp (o : Reordering PodDetail) (t : List PodDetail) (ip : String) : Option PodDetail :=
  o.first (t.filter (·.podIp = ip))

/-- The columns of a changeset that are null are left as they were. -/
def SvcDetail.changeset (old new : SvcDetail) : SvcDetail where
  svcIp := old.svcIp
  svcName := new.svcName.or old.svcName
  svcNamespace := new.svcNamespace.or old.svcNamespace
  serviceSpec := new.serviceSpec.or old.serviceSpec
  timeStamp := new.timeStamp

def upsertSvcDetails (t : List SvcDetail) (w : SvcDetail) : List SvcDetail × Reply :=
  (upsert SvcDetail.svcIp SvcDetail.changeset t w, .ok)

def svcIp (o : Reordering SvcDetail) (t : List SvcDetail) (ip : String) : Option SvcDetail :=
  o.first (t.filter (·.svcIp = ip))

theorem mem_of_podIp {o : Reordering PodDetail} {t : List PodDetail} {ip : String}
    {d : PodDetail} (h : podIp o t ip = some d) : d ∈ t ∧ d.podIp = ip := by
  simpa using List.mem_filter.mp (Reordering.mem_of_first h)

/-- Every row with the address can be the one that comes first. -/
theorem podIp_favouring {t : List PodDetail} {ip : String} {d : PodDetail} (hd : d ∈ t)
    (hip : d.podIp = ip) : podIp (.favouring d) t ip = some d :=
  Reordering.first_favouring (List.mem_filter.mpr ⟨hd, by simpa using hip⟩)

/-! ## What a row holds -/

theorem changeset_podName (old new : PodDetail) :
    (old.changeset new).podName = old.podName := rfl

abbrev specsOf (name : String) (specs : List PodDetail) : List PodDetail :=
  reportsOf PodDetail.podName name specs

/-- **A row is the last report of its pod, column by column.** -/
theorem podDetail_of_mem {specs : List PodDetail} {d : PodDetail}
    (hd : d ∈ upserts PodDetail.podName PodDetail.changeset specs) :
    some d.podIp = lastSome (some ·.podIp) (specsOf d.podName specs)
      ∧ d.podNamespace = lastSome (·.podNamespace) (specsOf d.podName specs)
      ∧ d.podObj = lastSome (·.podObj) (specsOf d.podName specs) := by
  have hmerge := (mem_upserts_iff changeset_podName specs d).mp hd
  have hip : ∀ a b : PodDetail, some (a.changeset b).podIp = (some b.podIp).or (some a.podIp) :=
    fun _ _ => rfl
  refine ⟨column_mergeAll (f := fun r : PodDetail => some r.podIp) hip hmerge,
    column_mergeAll (f := fun r : PodDetail => r.podNamespace) ?_ hmerge,
    column_mergeAll (f := fun r : PodDetail => r.podObj) ?_ hmerge⟩ <;> exact fun _ _ => rfl

end KubeGuardian.Broker
