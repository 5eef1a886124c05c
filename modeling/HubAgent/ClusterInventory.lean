import HubAgent.AppMetrics
import HubAgent.PodUsage
import HubAgent.SnapshotCaps
import HubAgent.TechStack
/-!
# What a snapshot shows of the cluster (`collector.rs`)

Each kind of object that is listed is mapped to what the snapshot shows of it.  The records of this module are the
objects with the fields that their mapping reads; the inventories are the parts of the snapshot that `collect` builds
from them.
-/
namespace HubAgent
namespace Collector

open Ranked (sortBy)
open Tech (PodContainer containerTechnology)

/-! ## Nodes, namespaces and workloads -/

structure NodeSystemInfo where
  kubeletVersion : String
  osImage : String
  containerRuntimeVersion : String
  architecture : String

structure NodeCondition where
  type_ : String
  status : String

structure NodeStatus where
  nodeInfo : Option NodeSystemInfo := none
  capacity : Option (StrMap String) := none
  allocatable : Option (StrMap String) := none
  conditions : Option (List NodeCondition) := none

structure ListedNode where
  metadata : ObjectMeta := {}
  status : Option NodeStatus := none

structure NodeInfo where
  name : String
  kubeletVersion : Option String
  osImage : Option String
  containerRuntime : Option String
  architecture : Option String
  capacityCpu : Option String
  capacityMemory : Option String
  allocatableCpu : Option String
  allocatableMemory : Option String
  ready : Bool
  roles : List String
  deriving DecidableEq

structure ClusterInfo where
  kubernetesVersion : Option String
  platform : Option String
  openshiftVersion : Option String
  nodeCount : Nat
  nodes : List NodeInfo
  deriving DecidableEq

def labelKeys (metadata : ObjectMeta) : List String := KeyOrder.keysInOrder (metadata.labels.getD ∅)

def nodeRolePrefix : String := "node-role.kubernetes.io/"

def mapNode (n : ListedNode) : NodeInfo :=
  let info := n.status.bind (·.nodeInfo)
  let cap := n.status.bind (·.capacity)
  let alloc := n.status.bind (·.allocatable)
  { name := n.metadata.name.getD ""
    kubeletVersion := info.map (·.kubeletVersion)
    osImage := info.map (·.osImage)
    containerRuntime := info.map (·.containerRuntimeVersion)
    architecture := info.map (·.architecture)
    capacityCpu := cap.bind (·.lookup "cpu")
    capacityMemory := cap.bind (·.lookup "memory")
    allocatableCpu := alloc.bind (·.lookup "cpu")
    allocatableMemory := alloc.bind (·.lookup "memory")
    ready := ((n.status.bind (·.conditions)).getD []).any (fun c => c.type_ == "Ready" && c.status == "True")
    roles := (labelKeys n.metadata).filterMap (fun k =>
      (RustStr.stripPrefix nodeRolePrefix.toList k.toList).map String.ofList) }

/-- On the version of the API server, if it told one. -/
def detectPlatform (casing : Casing) (gitVersion : Option String) (nodes : List ListedNode) : Option String :=
  let named (mark : String) : Bool :=
    (gitVersion.map (fun gv => Tech.containsText mark (casing.toLowercase gv).toList)).getD false
  if named "eks" then some "eks"
  else if named "gke" then some "gke"
  else if named "aks" then some "aks"
  else if nodes.any (fun n => (labelKeys n.metadata).any (fun k =>
      "node.openshift.io/".toList.isPrefixOf k.toList)) then
    some "openshift"
  else some "vanilla"

def buildClusterInfo (casing : Casing) (gitVersion : Option String) (nodes : List ListedNode) : ClusterInfo where
  kubernetesVersion := gitVersion
  platform := detectPlatform casing gitVersion nodes
  openshiftVersion := none
  nodeCount := nodes.length
  nodes := nodes.map mapNode

/-- The member `0` that a pointer names: the first item of an array. -/
def memberZero : Json → Option Json
  | .arr items => items.head?
  | value => value.get "0"

def extractOpenshiftVersion (value : Json) : Option String :=
  ((value.pointer ["status", "desired", "version"]).bind Json.asStr).or
    ((((value.pointer ["status", "history"]).bind memberZero).bind (·.get "version")).bind Json.asStr)

structure ListedNamespace extends Namespace where
  phase : Option String := none

structure NamespaceInfo where
  name : String
  phase : Option String
  labels : List KV
  deriving DecidableEq

def mapNamespace (n : ListedNamespace) : NamespaceInfo where
  name := n.metadata.name.getD ""
  phase := n.phase
  labels := mapMetadataPairs (n.metadata.labels.getD ∅)

/-- A `Deployment` with `spec.selector.matchLabels`, absent also when there is no spec. -/
structure ListedDeployment extends Workload .deployment where
  matchLabels : Option (StrMap String) := none

def mapDeployment (d : ListedDeployment) : WorkloadRef where
  namespace_ := d.metadata.namespace_.getD ""
  name := d.metadata.name.getD ""
  replicasDesired := d.spec.bind (·.replicas)
  replicasReady := (d.status : Option DeploymentStatus).bind (·.readyReplicas)

def mapStatefulset (s : Workload .statefulSet) : WorkloadRef where
  namespace_ := s.metadata.namespace_.getD ""
  name := s.metadata.name.getD ""
  replicasDesired := s.spec.bind (·.replicas)
  replicasReady := (s.status : Option StatefulSetStatus).bind (·.readyReplicas)

def mapDaemonset (d : Workload .daemonSet) : WorkloadRef where
  namespace_ := d.metadata.namespace_.getD ""
  name := d.metadata.name.getD ""
  replicasDesired := (d.status : Option DaemonSetStatus).map (·.desiredNumberScheduled)
  replicasReady := (d.status : Option DaemonSetStatus).map (·.numberReady)

/-! ## Pods -/

/-- A `Pod` with its containers; there are none where it has no spec. -/
structure ListedPod extends Pod where
  creationTimestamp : Option Time := none
  phase : Option String := none
  containers : List PodContainer := []

def mapResources (r : Option ResourceRequirements) : ResourceSpec :=
  let requests := r.bind (·.requests)
  let limits := r.bind (·.limits)
  { requestsCpu := requests.bind (·.lookup "cpu")
    requestsMemory := requests.bind (·.lookup "memory")
    limitsCpu := limits.bind (·.lookup "cpu")
    limitsMemory := limits.bind (·.lookup "memory") }

/-- On the reading of the clock, which has none before 1970. -/
def podAgeSeconds (createdAt : Option Time) (nowSecs : Option Nat) : Option Nat :=
  createdAt.bind (fun created => nowSecs.map (fun now => ((now : Int) - created.asSecond).toNat))

abbrev PodUsage := List ((String × String) × PodUsageTotals)

def buildPodUsageIndex (podMetrics : List DynamicObject) : PodUsage := podMetrics.filterMap mapPodMetrics

/-- Of the entries under a key the last one stands. -/
def PodUsage.get (usage : PodUsage) (key : String × String) : Option PodUsageTotals :=
  (usage.reverse.find? (fun e => e.1 == key)).map Prod.snd

def metadataEntries (map : Option (StrMap String)) : List (String × String) := KeyOrder.inOrder (map.getD ∅)

def mapContainer (casing : Casing) (p : ListedPod) (techDetectProcess : Bool) (c : PodContainer) : ContainerInfo where
  name := c.name
  image := c.image.getD ""
  imagePullPolicy := c.imagePullPolicy
  technology := containerTechnology casing c (metadataEntries p.metadata.labels)
    (metadataEntries p.metadata.annotations) techDetectProcess
  resources := mapResources c.resources

def mapPod (casing : Casing) (podUsage : PodUsage) (techDetectProcess : Bool) (nowSecs : Option Nat) (p : ListedPod) :
    PodInfo :=
  let owner := (p.metadata.ownerReferences.getD []).head?
  let namespace_ := p.metadata.namespace_.getD ""
  let name := p.metadata.name.getD ""
  let usage := podUsage.get (namespace_, name)
  { namespace_, name
    ageSeconds := podAgeSeconds p.creationTimestamp nowSecs
    node := p.nodeName
    phase := p.phase
    usageCpu := usage.bind (fun u => formatCpuQuantity u.cpuNano)
    usageMemory := usage.bind (fun u => formatMemoryQuantity u.memoryBytes)
    ownerKind := owner.map (·.kind)
    ownerName := owner.map (·.name)
    containers := p.containers.map (mapContainer casing p techDetectProcess) }

end Collector
end HubAgent
