import HubAgent.Collector
import HubAgent.Tech
/-!
# The records of the inventory (`model.rs`)

What the snapshot shows of the objects of the cluster, and what the plugins read of it.
-/
namespace HubAgent

open Collector (KV)

structure WorkloadRef where
  namespace_ : String
  name : String
  replicasDesired : Option Int := none
  replicasReady : Option Int := none
  deriving DecidableEq

structure Workloads where
  deployments : List WorkloadRef := []
  statefulsets : List WorkloadRef := []
  daemonsets : List WorkloadRef := []
  deriving DecidableEq

structure ResourceSpec where
  requestsCpu : Option String := none
  requestsMemory : Option String := none
  limitsCpu : Option String := none
  limitsMemory : Option String := none
  deriving DecidableEq

structure ContainerInfo where
  name : String
  image : String
  imagePullPolicy : Option String := none
  technology : Tech.Technology
  resources : ResourceSpec := {}
  deriving DecidableEq

structure PodInfo where
  namespace_ : String
  name : String
  ageSeconds : Option Nat := none
  node : Option String := none
  phase : Option String := none
  usageCpu : Option String := none
  usageMemory : Option String := none
  ownerKind : Option String := none
  ownerName : Option String := none
  containers : List ContainerInfo := []
  deriving DecidableEq

structure ServicePortInfo where
  name : Option String := none
  protocol : Option String := none
  port : Int
  targetPort : Option String := none
  nodePort : Option Int := none
  deriving DecidableEq

structure ServiceInfo where
  namespace_ : String
  name : String
  type_ : String := "ClusterIP"
  clusterIp : Option String := none
  externalIps : List String := []
  selector : List KV := []
  ports : List ServicePortInfo := []
  loadBalancerIngress : List String := []
  deriving DecidableEq

structure IngressRuleInfo where
  host : Option String
  path : Option String
  pathType : Option String
  backendService : Option String
  backendPort : Option String
  deriving DecidableEq

structure IngressTlsInfo where
  hosts : List String
  secretName : Option String
  deriving DecidableEq

structure IngressInfo where
  namespace_ : String
  name : String
  className : Option String := none
  hosts : List String := []
  rules : List IngressRuleInfo := []
  tls : List IngressTlsInfo := []
  loadBalancerIngress : List String := []
  deriving DecidableEq

structure PersistentVolumeClaimInfo where
  namespace_ : String
  name : String
  storageClass : Option String := none
  volumeName : Option String := none
  deriving DecidableEq

structure InvolvedObjectInfo where
  kind : Option String := none
  name : Option String := none
  namespace_ : Option String := none
  uid : Option String := none
  deriving DecidableEq

structure EventInfo where
  namespace_ : String
  name : String
  type_ : Option String := none
  reason : Option String := none
  message : Option String := none
  count : Option Int := none
  firstTimestamp : Option String := none
  lastTimestamp : Option String := none
  reportingController : Option String := none
  reportingInstance : Option String := none
  involvedObject : InvolvedObjectInfo := {}
  deriving DecidableEq

end HubAgent
