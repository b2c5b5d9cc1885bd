import KubeGuardian.Advisor.CiliumPolicy
import KubeGuardian.Advisor.StandardPolicy
import KubeGuardian.Broker.Server

/-!
# The advisor's view of the broker

`advisor/pkg/api` over HTTP: what each of the three requests makes of the broker's answer. Names
and addresses are taken to pass through a URL unchanged, which those of Kubernetes do.
-/

namespace KubeGuardian.Advisor

open Lib

inductive Policy where
  | standard (policy : NetworkPolicy)
  | cilium (policy : CiliumNetworkPolicy)

/-- A request that does not reach the broker, or that the broker fails to serve. -/
inductive Fault where
  | transport (err : ApiError)
  | internalServerError

/-- Everything outside the advisor that a run of it depends on: the broker's state and the orders
in which it answers, the requests that fail (by path), how the JSON texts of Kubernetes objects
decode and policies encode, and the orders of the generators' maps. -/
structure World where
  db : Broker.Db
  orders : Broker.Orders
  fault : String → Option Fault
  decodePod : String → Except ApiError Pod
  decodeService : String → Except ApiError Service
  order : Direction → Reordering (String × List NetworkPolicyPort)
  marshal : Policy → Except String String

namespace World

variable (w : World)

/-- A GET of the broker: the broker's reply, unless a fault strikes this path. -/
def httpGet {α : Type} (path : String) (reply : Broker.GetReply α) :
    Except ApiError (Broker.GetReply α) :=
  match w.fault path with
  | none => .ok reply
  | some (.transport err) => .error err
  | some .internalServerError => .ok .internalServerError

/-- A row as `json.Unmarshal` fills it in: `null` leaves a field empty. -/
def decodeTraffic (row : Broker.PodTraffic) : PodTraffic where
  uuid := row.uuid
  srcPodName := row.podName.getD ""
  srcIP := row.podIp.getD ""
  srcNamespace := row.podNamespace.getD ""
  srcPodPort := row.podPort.getD ""
  trafficType := row.trafficType.getD ""
  dstIP := row.trafficInOutIp.getD ""
  dstPort := row.trafficInOutPort.getD ""
  protocol := row.ipProtocol.getD ""

/-- The `pod_obj` column; `null` is a pod without labels. -/
def decodePodObj (decodePod : String → Except ApiError Pod) (podObj : Option String) :
    Except ApiError Pod :=
  match podObj with
  | none => .ok ⟨∅⟩
  | some text => decodePod text

/-- The decoding of the `service_spec` column. A column that is null leaves the zero value. -/
def decodeServiceSpec (serviceSpec : Option String) : Except ApiError Service :=
  match serviceSpec with
  | none => .ok ⟨∅, []⟩
  | some text => w.decodeService text

/-- `GetPodTraffic`: the rows of that pod name. No row is an error here, not an empty answer. -/
def getRealPodTraffic (podName : String) : Except ApiError (List PodTraffic) :=
  match w.httpGet ("/pod/traffic/" ++ podName) (Broker.getPodTrafficName w.db w.orders podName) with
  | .error err => .error err
  | .ok (.ok rows) =>
    let podTraffic := rows.map decodeTraffic
    if podTraffic.length = 0 then .error "GetPodTraffic: No pod traffic found in database"
    else .ok podTraffic
  -- only here is another status an error; the two lookups below answer nil to it
  | .ok resp => .error s!"GetPodTraffic: received non-OK HTTP status code: {resp.statusCode}"

/-- `GetPodSpec`: the details row of an address, its pod object decoded. A missing row is no error.
-/
def getRealPodSpec (ip : String) : Except ApiError (Option PodDetail) :=
  match w.httpGet ("/pod/ip/" ++ ip) (Broker.getPodByIp w.db w.orders ip) with
  | .error err => .error err
  | .ok (.ok row) =>
    match decodePodObj w.decodePod row.podObj with
    | .error err => .error err
    | .ok pod => .ok (some ⟨row.podIp, row.podName, row.podNamespace.getD "", pod⟩)
  | .ok _ => .ok none

def getRealSvcSpec (svcIp : String) : Except ApiError (Option SvcDetail) :=
  match w.httpGet ("/svc/ip/" ++ svcIp) (Broker.getSvcByIp w.db w.orders svcIp) with
  | .error err => .error err
  | .ok (.ok row) =>
    match w.decodeServiceSpec row.serviceSpec with
    | .error err => .error err
    | .ok service => .ok (some ⟨row.svcIp, row.svcName.getD "", row.svcNamespace.getD "", service⟩)
  | .ok _ => .ok none

def env : Env where
  getSvcSpec := w.getRealSvcSpec
  getPodSpec := w.getRealPodSpec
  order := w.order

/-! ## What an answer says about the tables -/

variable {w}

theorem httpGet_eq_ok {α : Type} {path : String} {reply : Broker.GetReply α} {body : α}
    (h : w.httpGet path reply = .ok (.ok body)) : reply = .ok body := by
  unfold httpGet at h
  split at h
  · exact Except.ok.inj h
  · cases h
  · cases h

theorem answer_eq_ok {α : Type} {segment : String} {found : Option α} {body : α}
    (h : Broker.answer segment found = .ok body) : segment ≠ "" ∧ found = some body := by
  unfold Broker.answer at h
  split at h
  · cases h
  · next hne =>
    split at h
    · exact ⟨hne, congrArg some (Broker.GetReply.ok.inj h)⟩
    · cases h

/-- The traffic that a pod name is answered with: its rows, and at least one. -/
theorem getRealPodTraffic_eq_ok {podName : String} {podTraffic : List PodTraffic}
    (h : w.getRealPodTraffic podName = .ok podTraffic) :
    podName ≠ "" ∧ podTraffic ≠ [] ∧ ∀ traffic, traffic ∈ podTraffic
      ↔ ∃ row ∈ w.db.podTraffic, row.podName = some podName ∧ decodeTraffic row = traffic := by
  unfold getRealPodTraffic at h
  split at h
  · cases h
  · next rows hget =>
    obtain ⟨hne, hrows⟩ := answer_eq_ok (httpGet_eq_ok hget)
    dsimp only at h
    split at h
    · cases h
    · next hlen =>
      obtain rfl := Except.ok.inj h
      refine ⟨hne, fun hnil => hlen (List.length_eq_zero_iff.mpr hnil), fun traffic => ?_⟩
      simp only [List.mem_map, Broker.mem_podTrafficByName hrows, and_assoc]
  · cases h

/-- The detail that an address is answered with: some row that holds the address. -/
theorem getRealPodSpec_eq_some {ip : String} {podDetail : PodDetail}
    (h : w.getRealPodSpec ip = .ok (some podDetail)) :
    ∃ row ∈ w.db.podDetails, row.podIp = ip ∧ podDetail.podIP = ip
      ∧ podDetail.name = row.podName ∧ podDetail.podNamespace = row.podNamespace.getD ""
      ∧ decodePodObj w.decodePod row.podObj = .ok podDetail.pod := by
  unfold getRealPodSpec at h
  split at h
  · cases h
  · next row hget =>
    obtain ⟨_, hrow⟩ := answer_eq_ok (httpGet_eq_ok hget)
    obtain ⟨hmem, hip⟩ := Broker.mem_of_podIp hrow
    split at h
    · cases h
    · next pod hpod =>
      obtain rfl := Option.some.inj (Except.ok.inj h)
      exact ⟨row, hmem, hip, hip, rfl, rfl, hpod⟩
  · cases h

/-! ## Runs in which given rows come first -/

section Picking

variable (db : Broker.Db) (decodePod : String → Except ApiError Pod) (row : Broker.PodTraffic)
  (detail : Broker.PodDetail)

/-- A run that nothing disturbs, in which the database yields `row` and `detail` before any other
row that qualifies. -/
def picking : World where
  db := db
  orders := { Broker.Orders.stored with
    podTraffic := .favouring row
    podDetails := .favouring detail }
  fault _ := none
  decodePod := decodePod
  decodeService _ := .error ""
  order _ := .stored
  marshal _ := .ok ""

variable {db decodePod row detail}

theorem getRealPodTraffic_picking {podName : String} (hrow : row ∈ db.podTraffic)
    (hname : row.podName = some podName) (hne : podName ≠ "") :
    ∃ rest, (picking db decodePod row detail).getRealPodTraffic podName
      = .ok (decodeTraffic row :: rest) := by
  have hmem : row ∈ db.podTraffic.filter fun r => sqlEq r.podName (some podName) :=
    List.mem_filter.mpr ⟨hrow, by simp [hname]⟩
  refine ⟨((db.podTraffic.filter fun r => sqlEq r.podName (some podName)).erase row).map
    decodeTraffic, ?_⟩
  simp [getRealPodTraffic, httpGet, picking, Broker.getPodTrafficName, Broker.podTrafficByName,
    Broker.answer, Reordering.favouring, hmem, hne]

theorem getRealPodSpec_picking {ip : String} (hdetail : detail ∈ db.podDetails)
    (hip : detail.podIp = ip) (hne : ip ≠ "") {pod : Pod}
    (hpod : decodePodObj decodePod detail.podObj = .ok pod) :
    (picking db decodePod row detail).getRealPodSpec ip
      = .ok (some ⟨ip, detail.podName, detail.podNamespace.getD "", pod⟩) := by
  have hfirst := Broker.podIp_favouring hdetail hip
  simp [getRealPodSpec, httpGet, picking, Broker.getPodByIp, Broker.answer, hfirst, hne, hpod, hip]

end Picking

end World

end KubeGuardian.Advisor
