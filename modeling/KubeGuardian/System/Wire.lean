import KubeGuardian.Advisor.Client
import KubeGuardian.Controller.Network

/-!
# What goes over the wire

A traffic record is written in JSON by the controller, read and written by the broker and read by
the advisor, each under field names of its own struct. `ofJson_controller_toJson` and
`ofJson_broker_toJson` say what arrives.
-/

namespace KubeGuardian

/-- What a field of a record holds in JSON. The text of a time stamp is kept apart: nobody reads it
as a string. -/
inductive JsonValue where
  | null
  | string (s : String)
  | timeStamp (t : Nat)

abbrev JsonObject := List (String × JsonValue)

namespace JsonValue

/-- An `Option<String>`, as `serde` writes it. -/
def ofOption : Option String → JsonValue
  | none => .null
  | some s => .string s

/-! A field as `serde` reads it, into a `String`, an `Option<String>` and a `NaiveDateTime`. -/

def asString : Option JsonValue → Option String
  | some (.string s) => some s
  | _ => none

def asOption : Option JsonValue → Option (Option String)
  | none | some .null => some none
  | some (.string s) => some (some s)
  | some (.timeStamp _) => none

def asTimeStamp : Option JsonValue → Option Nat
  | some (.timeStamp t) => some t
  | _ => none

/-- A field as `encoding/json` reads it into a `string`, which `null` leaves empty. -/
def intoString : Option JsonValue → Option String
  | none | some .null => some ""
  | some (.string s) => some s
  | some (.timeStamp _) => none

end JsonValue

open JsonValue

def Controller.PodTraffic.toJson (r : Controller.PodTraffic) : JsonObject :=
  [("uuid", .string r.uuid), ("pod_name", .string r.podName),
    ("pod_namespace", ofOption r.podNamespace), ("pod_ip", .string r.podIp),
    ("pod_port", ofOption r.podPort), ("traffic_type", ofOption r.trafficType),
    ("traffic_in_out_ip", ofOption r.trafficInOutIp),
    ("traffic_in_out_port", ofOption r.trafficInOutPort), ("ip_protocol", ofOption r.ipProtocol),
    ("time_stamp", .timeStamp r.timeStamp)]

def Broker.PodTraffic.ofJson (o : JsonObject) : Option Broker.PodTraffic := do
  let uuid ← asString (o.lookup "uuid")
  let podName ← asOption (o.lookup "pod_name")
  let podNamespace ← asOption (o.lookup "pod_namespace")
  let podIp ← asOption (o.lookup "pod_ip")
  let podPort ← asOption (o.lookup "pod_port")
  let ipProtocol ← asOption (o.lookup "ip_protocol")
  let trafficType ← asOption (o.lookup "traffic_type")
  let trafficInOutIp ← asOption (o.lookup "traffic_in_out_ip")
  let trafficInOutPort ← asOption (o.lookup "traffic_in_out_port")
  let timeStamp ← asTimeStamp (o.lookup "time_stamp")
  return ⟨uuid, podName, podNamespace, podIp, podPort, ipProtocol, trafficType, trafficInOutIp,
    trafficInOutPort, timeStamp⟩

def Broker.PodTraffic.toJson (row : Broker.PodTraffic) : JsonObject :=
  [("uuid", .string row.uuid), ("pod_name", ofOption row.podName),
    ("pod_namespace", ofOption row.podNamespace), ("pod_ip", ofOption row.podIp),
    ("pod_port", ofOption row.podPort), ("ip_protocol", ofOption row.ipProtocol),
    ("traffic_type", ofOption row.trafficType),
    ("traffic_in_out_ip", ofOption row.trafficInOutIp),
    ("traffic_in_out_port", ofOption row.trafficInOutPort),
    ("time_stamp", .timeStamp row.timeStamp)]

/-- By the `json` tags of the struct, which has no field for the time stamp. -/
def Advisor.PodTraffic.ofJson (o : JsonObject) : Option Advisor.PodTraffic := do
  let uuid ← intoString (o.lookup "uuid")
  let srcPodName ← intoString (o.lookup "pod_name")
  let srcIP ← intoString (o.lookup "pod_ip")
  let srcNamespace ← intoString (o.lookup "pod_namespace")
  let srcPodPort ← intoString (o.lookup "pod_port")
  let trafficType ← intoString (o.lookup "traffic_type")
  let dstIP ← intoString (o.lookup "traffic_in_out_ip")
  let dstPort ← intoString (o.lookup "traffic_in_out_port")
  let protocol ← intoString (o.lookup "ip_protocol")
  return ⟨uuid, srcPodName, srcIP, srcNamespace, srcPodPort, trafficType, dstIP, dstPort,
    protocol⟩

/-- The row that a record of the controller is stored as. -/
def Controller.PodTraffic.row (r : Controller.PodTraffic) : Broker.PodTraffic where
  uuid := r.uuid
  podName := some r.podName
  podNamespace := r.podNamespace
  podIp := some r.podIp
  podPort := r.podPort
  ipProtocol := r.ipProtocol
  trafficType := r.trafficType
  trafficInOutIp := r.trafficInOutIp
  trafficInOutPort := r.trafficInOutPort
  timeStamp := r.timeStamp

@[simp] theorem asOption_string (s : String) : asOption (some (.string s)) = some (some s) := rfl

@[simp] theorem intoString_string (s : String) : intoString (some (.string s)) = some s := rfl

@[simp] theorem asOption_ofOption (s : Option String) : asOption (some (ofOption s)) = some s := by
  cases s <;> rfl

@[simp] theorem intoString_ofOption (s : Option String) :
    intoString (some (ofOption s)) = some (s.getD "") := by
  cases s <;> rfl

/-- **The broker reads the controller's record**, field by field. -/
theorem ofJson_controller_toJson (r : Controller.PodTraffic) :
    Broker.PodTraffic.ofJson r.toJson = some r.row := by
  simp [Broker.PodTraffic.ofJson, Controller.PodTraffic.toJson, List.lookup, asString, asTimeStamp,
    Controller.PodTraffic.row]

/-- **The advisor reads the broker's row**, with empty text where a column is missing. -/
theorem ofJson_broker_toJson (row : Broker.PodTraffic) :
    Advisor.PodTraffic.ofJson row.toJson = some (Advisor.World.decodeTraffic row) := by
  simp [Advisor.PodTraffic.ofJson, Broker.PodTraffic.toJson, List.lookup,
    Advisor.World.decodeTraffic]

/-! ## The answer to a `POST` -/

/-- The broker's answer, as it reaches the controller. -/
def System.answered : Broker.Reply → Controller.Sent
  | .ok => .ok ⟨200⟩
  | .internalServerError => .ok ⟨500⟩

end KubeGuardian
