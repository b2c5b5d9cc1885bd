import KubeGuardian.Broker.Schema
import KubeGuardian.Lib.DuplicateStore
import KubeGuardian.Lib.Reordering
import KubeGuardian.Lib.Table

/-!
# The `pod_traffic` table

`create_pod_traffic` stores a record unless `PodTraffic::get_row` finds a row that passes for
the same record, and `pod_traffic_by_name` reads the rows of a pod back. The queries carry no
`ORDER BY`, so each takes the `Reordering` in which the database hands its rows out; whether a
record is stored does not depend on it (`PodTraffic.getRow_eq_none_iff`).

The bridge to the library is `createPodTraffic_fst`: a record with a uuid of its own is offered to a
duplicate store whose notion of duplicate is `hides`.
-/

namespace KubeGuardian.Broker

open Lib

/-! ## The queries of `get_row` -/

/-- The query for every protocol but UDP: both ports, not the protocol. -/
def bothPortsQuery (w row : PodTraffic) : Bool :=
  sqlEq row.podIp w.podIp && sqlEq row.podPort w.podPort && sqlEq row.trafficType w.trafficType
    && sqlEq row.trafficInOutIp w.trafficInOutIp
    && sqlEq row.trafficInOutPort w.trafficInOutPort

/-- The first UDP query leaves out `pod_port`. -/
def peerPortQuery (w row : PodTraffic) : Bool :=
  sqlEq row.podIp w.podIp && sqlEq row.trafficType w.trafficType
    && sqlEq row.trafficInOutIp w.trafficInOutIp
    && sqlEq row.trafficInOutPort w.trafficInOutPort

/-- The second UDP query leaves out `traffic_in_out_port`. -/
def podPortQuery (w row : PodTraffic) : Bool :=
  sqlEq row.podIp w.podIp && sqlEq row.podPort w.podPort && sqlEq row.trafficType w.trafficType
    && sqlEq row.trafficInOutIp w.trafficInOutIp

/-- `get_row`: for UDP a row that agrees but for the pod's port, then one that agrees but for the
peer's; for the rest a row that agrees in both. -/
def PodTraffic.getRow (w : PodTraffic) (o : Reordering PodTraffic) (t : List PodTraffic) :
    Option PodTraffic :=
  if w.ipProtocol = some "UDP" then
    match o.first (t.filter (peerPortQuery w)) with
    | none => o.first (t.filter (podPortQuery w))
    | some out => some out
  else o.first (t.filter (bothPortsQuery w))

/-- The row `row`, once stored, keeps `w` from being stored. -/
def hides (row w : PodTraffic) : Bool :=
  if w.ipProtocol = some "UDP" then peerPortQuery w row || podPortQuery w row
  else bothPortsQuery w row

/-- `get_row` finds nothing exactly when no stored row hides the record. -/
theorem PodTraffic.getRow_eq_none_iff (w : PodTraffic) (o : Reordering PodTraffic)
    (t : List PodTraffic) : w.getRow o t = none ↔ t.any (hides · w) = false := by
  unfold PodTraffic.getRow hides
  split
  · next hudp =>
    cases hfirst : o.first (t.filter (peerPortQuery w)) with
    | none =>
      rw [o.first_eq_none_iff, List.filter_eq_nil_iff] at hfirst
      simp only [o.first_eq_none_iff, List.filter_eq_nil_iff, List.any_eq_false,
        Bool.or_eq_true, not_or]
      exact ⟨fun h s hs => ⟨hfirst s hs, h s hs⟩, fun h s hs => (h s hs).2⟩
    | some out =>
      -- the first query has found a row, which hides the record
      have hmem := List.mem_filter.mp (Reordering.mem_of_first hfirst)
      simp only [reduceCtorEq, false_iff, Bool.not_eq_false, List.any_eq_true, Bool.or_eq_true]
      exact ⟨out, hmem.1, .inl hmem.2⟩
  · rw [o.first_eq_none_iff, List.filter_eq_nil_iff, List.any_eq_false]

/-! ## Posting and reading -/

/-- `create_pod_traffic`: the table after the request and the answer to it. The primary key is
the uuid; an insert that violates it fails in `.expect`. -/
def createPodTraffic (o : Reordering PodTraffic) (t : List PodTraffic) (w : PodTraffic) :
    List PodTraffic × Reply :=
  if (w.getRow o t).isNone then
    if t.any (·.uuid = w.uuid) then (t, .internalServerError) else (t ++ [w], .ok)
  else (t, .ok)

def podTrafficByName (o : Reordering PodTraffic) (t : List PodTraffic) (name : String) :
    Option (List PodTraffic) :=
  some (o.apply (t.filter fun row => sqlEq row.podName (some name)))

theorem mem_podTrafficByName {o : Reordering PodTraffic} {t rows : List PodTraffic}
    {name : String} (h : podTrafficByName o t name = some rows) (row : PodTraffic) :
    row ∈ rows ↔ row ∈ t ∧ row.podName = some name := by
  obtain rfl := Option.some.inj h
  rw [o.mem_apply, List.mem_filter]
  cases row.podName <;> simp

theorem createPodTraffic_fst (o : Reordering PodTraffic) {t : List PodTraffic} {w : PodTraffic}
    (hnew : ∀ row ∈ t, row.uuid ≠ w.uuid) :
    (createPodTraffic o t w).1 = offer hides t w := by
  unfold createPodTraffic offer
  have hfresh : t.any (·.uuid = w.uuid) = false := by simpa using hnew
  cases hany : t.any (hides · w) with
  | false => simp [(w.getRow_eq_none_iff o t).mpr hany, hfresh]
  | true =>
    have hfound : w.getRow o t ≠ none := by
      rw [Ne, w.getRow_eq_none_iff, hany]; simp
    simp [hfound]

/-- A request handled alone stores no record beside a row that hides it, accepted or not. -/
theorem createPodTraffic_pairwise (o : Reordering PodTraffic) {t : List PodTraffic}
    (ht : t.Pairwise fun s r => hides s r = false) (w : PodTraffic) :
    (createPodTraffic o t w).1.Pairwise fun s r => hides s r = false := by
  by_cases huuid : t.any (·.uuid = w.uuid) = true
  · have hsame : (createPodTraffic o t w).1 = t := by
      unfold createPodTraffic
      rw [if_pos huuid]
      split <;> rfl
    rw [hsame]
    exact ht
  · rw [createPodTraffic_fst o (by simpa using huuid)]
    exact pairwise_offer ht w

end KubeGuardian.Broker
