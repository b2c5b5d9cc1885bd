import KubeGuardian.Lib.Run
import KubeGuardian.Lib.Fair
import KubeGuardian.Lib.Account
import KubeGuardian.Lib.Past
import KubeGuardian.Lib.Reordering
import KubeGuardian.Lib.Grouping
import KubeGuardian.Lib.DuplicateStore
import KubeGuardian.Lib.Table
import KubeGuardian.Lib.Delimited
import KubeGuardian.Lib.Sender
import KubeGuardian.Lib.Bytes
import KubeGuardian.Lib.HashSet
import KubeGuardian.Lib.Files
import KubeGuardian.Lib.FilePath
import KubeGuardian.Lib.Serial
import KubeGuardian.Lib.BoundedMap
import KubeGuardian.Controller.Address
import KubeGuardian.Controller.TrafficCache
import KubeGuardian.Controller.SyscallPanic
import KubeGuardian.Controller.SyscallDelivery
import KubeGuardian.Controller.ProbesAlike
import KubeGuardian.Controller.ProbePairing
import KubeGuardian.Controller.EbpfLoop
import KubeGuardian.Controller.PodWatcher
import KubeGuardian.Controller.Node
import KubeGuardian.Controller.Attribution
import KubeGuardian.Controller.IgnoredTraffic
import KubeGuardian.Controller.IgnoredPeers
import KubeGuardian.Controller.Readiness
import KubeGuardian.Controller.Sources
import KubeGuardian.Controller.Calls
import KubeGuardian.Controller.Tasks
import KubeGuardian.Controller.Atomic
import KubeGuardian.Controller.Answers
import KubeGuardian.Controller.Progress
import KubeGuardian.Controller.Delivery
import KubeGuardian.Broker.TrafficKept
import KubeGuardian.Broker.Server
import KubeGuardian.Broker.SyscallsKept
import KubeGuardian.Broker.PodByIp
import KubeGuardian.Broker.SyscallRows
import KubeGuardian.Broker.SyscallBatch
import KubeGuardian.Broker.LastReport
import KubeGuardian.Broker.TrafficRace
import KubeGuardian.Broker.SyscallRace
import KubeGuardian.Broker.Concurrent
import KubeGuardian.Advisor.LeastPrivilege
import KubeGuardian.Advisor.UnrelatedPods
import KubeGuardian.Advisor.HostNetwork
import KubeGuardian.Advisor.Agreement
import KubeGuardian.Advisor.RightPod
import KubeGuardian.Advisor.Isolation
import KubeGuardian.Advisor.PortNumeral
import KubeGuardian.Advisor.Reproducible
import KubeGuardian.Advisor.FailingLookups
import KubeGuardian.Advisor.ObservedPeers
import KubeGuardian.Advisor.Seccomp
import KubeGuardian.Advisor.ListRoundTrip
import KubeGuardian.Advisor.Batch
import KubeGuardian.Advisor.PortForward
import KubeGuardian.Advisor.PolicySets
import KubeGuardian.System.RecordToRule
import KubeGuardian.System.CacheTransparent
import KubeGuardian.System.RecordedSyscalls
import KubeGuardian.System.SeccompIsolation
import KubeGuardian.System.ProfileArchitecture
import KubeGuardian.System.Deployment
import KubeGuardian.System.ObservedPolicy
import KubeGuardian.System.DatagramPorts
import KubeGuardian.System.Flows
import KubeGuardian.System.ExcludedNamespaces
import KubeGuardian.System.Provenance
import KubeGuardian.System.Fleet
import KubeGuardian.System.Emitted
import KubeGuardian.System.Overlapping
