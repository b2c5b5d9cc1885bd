/-!
# The broker's rows

The four row types of `broker/src/types.rs`, column by column, under the nullability of the
structs. A row is also the body of the request that reports it: the handlers insert what they
decoded.
-/

namespace KubeGuardian.Broker

/-- A `chrono::NaiveDateTime`. The broker stores time stamps and never looks at one. -/
abbrev NaiveDateTime := Nat

/-- A `pod_traffic` row and the body of `POST /pod/traffic`. -/
structure PodTraffic where
  uuid : String
  podName : Option String
  podNamespace : Option String
  podIp : Option String
  podPort : Option String
  ipProtocol : Option String
  trafficType : Option String
  trafficInOutIp : Option String
  trafficInOutPort : Option String
  timeStamp : NaiveDateTime
  deriving DecidableEq, Repr

/-- A `pod_details` row and the body of `POST /pod/spec`. `podObj` is the text of a JSON
column. -/
structure PodDetail where
  podName : String
  podIp : String
  podNamespace : Option String
  podObj : Option String
  timeStamp : NaiveDateTime
  deriving DecidableEq, Repr

structure SvcDetail where
  svcIp : String
  svcName : Option String
  svcNamespace : Option String
  serviceSpec : Option String
  timeStamp : NaiveDateTime
  deriving DecidableEq, Repr

/-- A row of `pod_syscalls`: the list is one text, its names joined by commas. -/
structure PodSyscalls where
  podName : String
  podNamespace : String
  syscalls : String
  arch : String
  timeStamp : NaiveDateTime
  deriving DecidableEq, Repr

/-- One entry of the body of `POST /pod/syscalls`. -/
structure PodInputSyscalls where
  podName : String
  podNamespace : String
  syscalls : List String
  arch : String
  timeStamp : NaiveDateTime
  deriving DecidableEq, Repr

/-- How a `POST` is answered: `200`, or `500` where a handler failed or panicked. -/
inductive Reply where
  | ok
  | internalServerError
  deriving DecidableEq, Repr

end KubeGuardian.Broker
