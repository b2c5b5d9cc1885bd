import Mathlib.Data.Finset.Basic

/-!
# One network event

`process_network_event` of `controller/src/network.rs` and `api_post_call` of
`controller/src/client.rs`. The answer to the `POST`, and the fresh id and time of the record, come
with the event; of a `PodInspect` only the fields that are read here are kept.

`processNetworkEvent_eq` says what of the event goes into which part: the key decides whether the
record is posted, and the answer whether the key is cached.
-/

namespace KubeGuardian.Controller

/-! ## Events and pods -/

/-- `network_event_data`, as the programs submit it: the addresses as they stand in memory, the
ports as each program writes them, and the kind by which probe it comes from. -/
structure NetworkEventData where
  inum : UInt64
  saddr : UInt32
  sport : UInt16
  daddr : UInt32
  dport : UInt16
  kind : UInt16

structure PodInfo where
  podName : String
  podNamespace : Option String
  podIp : String

structure PodInspect where
  status : PodInfo

/-- A `PodTraffic` of `controller/src/models.rs`, the body of `POST /pod/traffic`. -/
structure PodTraffic where
  uuid : String
  podName : String
  podNamespace : Option String
  podIp : String
  podPort : Option String
  trafficType : Option String
  trafficInOutIp : Option String
  trafficInOutPort : Option String
  ipProtocol : Option String
  timeStamp : Nat
  deriving DecidableEq

/-- What the traffic cache tells records apart by. The protocol is not part of it. -/
structure TrafficKey where
  podName : String
  podIp : String
  podPort : String
  trafficInOutIp : String
  trafficInOutPort : String
  trafficType : String
  ipProtocol : String
  deriving DecidableEq

/-! ## Addresses -/

inductive Endian where
  | little
  | big

def swapBytes (x : UInt32) : UInt32 :=
  let mask : UInt32 := 0xff
  (x &&& mask) <<< 24 ||| (x >>> 8 &&& mask) <<< 16 ||| (x >>> 16 &&& mask) <<< 8 ||| x >>> 24

/-- `u32::from_be`: nothing to do on a big-endian node. -/
def fromBe (host : Endian) (x : UInt32) : UInt32 :=
  match host with
  | .little => swapBytes x
  | .big => x

/-- `Ipv4Addr::from(u32)` and its `to_string`. -/
def ipv4String (x : UInt32) : String :=
  ".".intercalate ([x >>> 24, (x >>> 16) &&& 0xff, (x >>> 8) &&& 0xff, x &&& 0xff].map toString)

example : ipv4String (fromBe .little 0x0500000a) = "10.0.0.5" := by decide +kernel

/-! ## The broker's answer -/

structure Response where
  status : UInt16

def Response.isSuccess (res : Response) : Prop := 200 ≤ res.status ∧ res.status < 300

instance (res : Response) : Decidable res.isSuccess :=
  inferInstanceAs (Decidable (_ ∧ _))

/-- The result of `send`: a request that does not get through is an error, any answer is not. -/
abbrev Sent := Except String Response

inductive Error where
  | apiError (msg : String)

/-- `api_post_call`: an error only where no response came. -/
def apiPostCall (sent : Sent) : Except Error Unit :=
  match sent with
  | .error e => .error (.apiError e)
  -- the status is logged and not looked at
  | .ok _res => .ok ()

/-! ## Processing -/

/-- The local variables of `process_network_event` that depend on the kind of the event. -/
structure Traffic where
  trafficType : String
  podPort : UInt16
  trafficInOutPort : UInt16
  protocol : String

/-- Kind 2 is an accepted connection, 1 an opened one and 3 a datagram that was sent. -/
def classify (data : NetworkEventData) : Traffic :=
  if data.kind = 2 then ⟨"INGRESS", data.sport, 0, "TCP"⟩
  else if data.kind = 1 then ⟨"EGRESS", 0, data.dport, "TCP"⟩
  else if data.kind = 3 then ⟨"EGRESS", 0, data.dport, "UDP"⟩
  else ⟨"", data.sport, data.dport, ""⟩

/-- What a record gets of the moment it is made: an id and a time. -/
structure Stamp where
  uuid : String
  timeStamp : Nat

/-- `process_network_event`: the cache after the event, and the record that was posted, if any. -/
def processNetworkEvent (host : Endian) (stamp : Stamp) (sent : Sent) (cache : Finset TrafficKey)
    (data : NetworkEventData) (podData : PodInspect) : Finset TrafficKey × Option PodTraffic :=
  let traffic := classify data
  let trafficInOutIp := ipv4String (fromBe host data.daddr)
  let podName := podData.status.podName
  let podNamespace := podData.status.podNamespace
  let podIp := podData.status.podIp
  let podPort := toString traffic.podPort
  let trafficInOutPort := toString traffic.trafficInOutPort
  if podIp = trafficInOutIp then (cache, none)
  else
    let cacheKey : TrafficKey :=
      { podName, podIp, podPort, trafficInOutIp, trafficInOutPort
        trafficType := traffic.trafficType
        ipProtocol := traffic.protocol }
    -- the namespace is in the record but not in the key
    if cacheKey ∉ cache then
      let z : PodTraffic :=
        { uuid := stamp.uuid
          podName, podNamespace, podIp
          podPort := some podPort
          trafficInOutIp := some trafficInOutIp
          trafficInOutPort := some trafficInOutPort
          trafficType := some traffic.trafficType
          ipProtocol := some traffic.protocol
          timeStamp := stamp.timeStamp }
      match apiPostCall sent with
      | .error _ => (cache, some z)
      | .ok () => (insert cacheKey cache, some z)
    else (cache, none)

/-! ## What processing depends on -/

/-- The cache key of a record; a column that is missing is the empty text. -/
def PodTraffic.key (record : PodTraffic) : TrafficKey where
  podName := record.podName
  podIp := record.podIp
  podPort := record.podPort.getD ""
  trafficInOutIp := record.trafficInOutIp.getD ""
  trafficInOutPort := record.trafficInOutPort.getD ""
  trafficType := record.trafficType.getD ""
  ipProtocol := record.ipProtocol.getD ""

/-- The record of an event, posted or not. -/
def recordOf (host : Endian) (stamp : Stamp) (data : NetworkEventData) (podData : PodInspect) :
    PodTraffic where
  uuid := stamp.uuid
  podName := podData.status.podName
  podNamespace := podData.status.podNamespace
  podIp := podData.status.podIp
  podPort := some (toString (classify data).podPort)
  trafficType := some (classify data).trafficType
  trafficInOutIp := some (ipv4String (fromBe host data.daddr))
  trafficInOutPort := some (toString (classify data).trafficInOutPort)
  ipProtocol := some (classify data).protocol
  timeStamp := stamp.timeStamp

def ownAddress (host : Endian) (data : NetworkEventData) (podData : PodInspect) : Prop :=
  podData.status.podIp = ipv4String (fromBe host data.daddr)

instance (host : Endian) (data : NetworkEventData) (podData : PodInspect) :
    Decidable (ownAddress host data podData) :=
  inferInstanceAs (Decidable (_ = _))

/-- The key of an event, which neither the id nor the time has a part in. -/
def keyOf (host : Endian) (data : NetworkEventData) (podData : PodInspect) : TrafficKey :=
  (recordOf host ⟨"", 0⟩ data podData).key

theorem key_recordOf (host : Endian) (stamp : Stamp) (data : NetworkEventData)
    (podData : PodInspect) : (recordOf host stamp data podData).key = keyOf host data podData := rfl

/-- **Processing as one expression.** -/
theorem processNetworkEvent_eq (host : Endian) (stamp : Stamp) (sent : Sent)
    (cache : Finset TrafficKey) (data : NetworkEventData) (podData : PodInspect) :
    processNetworkEvent host stamp sent cache data podData
      = if ownAddress host data podData ∨ keyOf host data podData ∈ cache then (cache, none)
        else (if sent.isOk then insert (keyOf host data podData) cache else cache,
          some (recordOf host stamp data podData)) := by
  unfold processNetworkEvent
  by_cases hown : ownAddress host data podData
  · refine Eq.trans ?_ (if_pos (Or.inl hown)).symm
    exact if_pos hown
  · by_cases hcached : keyOf host data podData ∈ cache
    · refine Eq.trans ?_ (if_pos (Or.inr hcached)).symm
      exact (if_neg hown).trans (if_neg (not_not.mpr hcached))
    · refine Eq.trans ?_ (if_neg (not_or.mpr ⟨hown, hcached⟩)).symm
      refine (if_neg hown).trans ((if_pos hcached).trans ?_)
      cases sent with
      | error e => rfl
      | ok res => rfl

/-- What is posted, and when. -/
theorem posted_eq_some_iff {host : Endian} {stamp : Stamp} {sent : Sent}
    {cache : Finset TrafficKey} {data : NetworkEventData} {podData : PodInspect}
    {record : PodTraffic} :
    (processNetworkEvent host stamp sent cache data podData).2 = some record
      ↔ ¬ ownAddress host data podData ∧ keyOf host data podData ∉ cache
        ∧ record = recordOf host stamp data podData := by
  rw [processNetworkEvent_eq]
  split
  · next hskip =>
    refine iff_of_false (by simp) ?_
    rintro ⟨hown, hnew, -⟩
    exact hskip.elim hown hnew
  · next hpost =>
    rw [not_or] at hpost
    simp only [Option.some.injEq, hpost, not_false_eq_true, true_and]
    exact eq_comm

end KubeGuardian.Controller
