import HubAgent.ClusterInventory
/-!
# The network, the security and the storage of a snapshot (`collector.rs`)

Services, ingresses, network policies and role bindings are listed by the API server in an order of its own, and so are
the ports, rules and subjects within them.  The snapshot shows them sorted.
-/
namespace HubAgent
namespace Collector

open Ranked (sortBy)

/-! ## Services -/

inductive IntOrString where
  | int (number : Int)
  | string (text : String)

def formatIntOrString : IntOrString → String
  | .int number => toString number
  | .string text => text

structure ServicePort where
  name : Option String := none
  protocol : Option String := none
  port : Int
  targetPort : Option IntOrString := none
  nodePort : Option Int := none

structure LoadBalancerIngress where
  hostname : Option String := none
  ip : Option String := none
  ipMode : Option String := none

/-- A `Service`; what its spec holds is absent also where there is none. -/
structure ListedService extends Service where
  type_ : Option String := none
  externalIps : Option (List String) := none
  selector : Option (StrMap String) := none
  servicePorts : Option (List ServicePort) := none
  loadBalancer : Option (List LoadBalancerIngress) := none

/-- The same service, as the discovery of metrics reads it. -/
def ListedService.metered (s : ListedService) : MeteredService :=
  { toService := s.toService, ports := s.servicePorts.map (·.map ServicePort.port) }

def servicePortCmp (a b : ServicePortInfo) : Ordering :=
  (compare a.port b.port).then ((compare a.name b.name).then (compare a.protocol b.protocol))

def mapServicePort (p : ServicePort) : ServicePortInfo where
  name := p.name
  protocol := p.protocol
  port := p.port
  targetPort := p.targetPort.map formatIntOrString
  nodePort := p.nodePort

def mapService (svc : ListedService) : ServiceInfo where
  namespace_ := svc.metadata.namespace_.getD ""
  name := svc.metadata.name.getD ""
  type_ := svc.type_.getD "ClusterIP"
  clusterIp := svc.clusterIp
  externalIps := sortBy compare (svc.externalIps.getD [])
  selector := sortBy (fun a b : KV => (compare a.key b.key).then (compare a.value b.value))
    ((KeyOrder.inOrder (svc.selector.getD ∅)).map (fun e => ⟨e.1, e.2⟩))
  ports := sortBy servicePortCmp ((svc.servicePorts.getD []).map mapServicePort)
  loadBalancerIngress := sortBy compare ((svc.loadBalancer.getD []).filterMap (fun entry =>
    (entry.hostname.or (entry.ip.or entry.ipMode)).filter (· ≠ "")))

def sortServicesForSnapshot (services : List ListedService) : List ListedService :=
  sortBy (fun a b => snapshotCmp a.metadata b.metadata) services

/-! ## Ingresses -/

structure ServiceBackendPort where
  name : Option String := none
  number : Option Int := none

structure IngressServiceBackend where
  name : String
  port : Option ServiceBackendPort := none

structure HttpIngressPath where
  path : Option String := none
  pathType : String
  service : Option IngressServiceBackend := none

structure IngressRule where
  host : Option String := none
  /-- The paths, where the rule has any `http`. -/
  http : Option (List HttpIngressPath) := none

structure IngressTls where
  hosts : Option (List String) := none
  secretName : Option String := none

structure Ingress where
  metadata : ObjectMeta := {}
  className : Option String := none
  rules : Option (List IngressRule) := none
  tls : Option (List IngressTls) := none
  loadBalancer : Option (List LoadBalancerIngress) := none

def backendPort (port : ServiceBackendPort) : String :=
  match port.name, port.number with
  | some name, _ => name
  | none, some number => toString number
  | none, none => ""

/-- The rows of one rule: one for each path, or one for the host alone. -/
def ingressRows (rule : IngressRule) : List IngressRuleInfo :=
  match rule.http with
  | some paths => paths.map (fun path =>
    { host := rule.host
      path := path.path
      pathType := some path.pathType
      backendService := path.service.map (·.name)
      backendPort := ((path.service.bind (·.port)).map backendPort).filter (· ≠ "") })
  | none => [{ host := rule.host, path := none, pathType := none, backendService := none, backendPort := none }]

def ingressRuleCmp (a b : IngressRuleInfo) : Ordering :=
  (compare a.host b.host).then ((compare a.path b.path).then
    ((compare a.backendService b.backendService).then (compare a.backendPort b.backendPort)))

def ingressTlsCmp (a b : IngressTlsInfo) : Ordering :=
  (compare a.secretName b.secretName).then (compare a.hosts b.hosts)

/-- `Vec::dedup`: neighbours that are equal become one. -/
def dedup : List String → List String
  | a :: b :: l => if a = b then dedup (b :: l) else a :: dedup (b :: l)
  | l => l

def mapIngress (ingress : Ingress) : IngressInfo where
  namespace_ := ingress.metadata.namespace_.getD ""
  name := ingress.metadata.name.getD ""
  className := ingress.className
  hosts := dedup (sortBy compare ((ingress.rules.getD []).filterMap (·.host)))
  rules := sortBy ingressRuleCmp ((ingress.rules.getD []).flatMap ingressRows)
  tls := sortBy ingressTlsCmp ((ingress.tls.getD []).map (fun entry =>
    { hosts := sortBy compare (entry.hosts.getD []), secretName := entry.secretName }))
  loadBalancerIngress := sortBy compare ((ingress.loadBalancer.getD []).filterMap (fun entry =>
    (entry.hostname.or entry.ip).filter (· ≠ "")))

def sortIngressesForSnapshot (ingresses : List Ingress) : List Ingress :=
  sortBy (fun a b => snapshotCmp a.metadata b.metadata) ingresses

structure NetworkInventory where
  services : List ServiceInfo
  ingresses : List IngressInfo
  deriving DecidableEq

/-! ## Security -/

/-- `NetworkPolicySpec`; of the rules their number is read. -/
structure NetworkPolicySpec where
  podSelector : Option LabelSelector := none
  policyTypes : Option (List String) := none
  ingress : Option Nat := none
  egress : Option Nat := none

structure NetworkPolicy where
  metadata : ObjectMeta := {}
  spec : Option NetworkPolicySpec := none

structure NetworkPolicyInfo where
  namespace_ : String
  name : String
  policyTypes : List String
  podSelector : List KV
  ingressRulesCount : Nat
  egressRulesCount : Nat
  deriving DecidableEq

/-- The types that are stated, or else those that have rules. -/
def networkPolicyTypes (spec : NetworkPolicySpec) : List String :=
  let stated := spec.policyTypes.getD []
  let types :=
    if stated = [] then
      (if 0 < spec.ingress.getD 0 then ["Ingress"] else []) ++ (if 0 < spec.egress.getD 0 then ["Egress"] else [])
    else stated
  dedup (sortBy compare types)

def mapNetworkPolicy (policy : NetworkPolicy) : NetworkPolicyInfo where
  namespace_ := policy.metadata.namespace_.getD ""
  name := policy.metadata.name.getD ""
  policyTypes := (policy.spec.map networkPolicyTypes).getD []
  podSelector := (policy.spec.map (fun spec =>
    mapMetadataPairs ((spec.podSelector.bind (·.matchLabels)).getD ∅))).getD []
  ingressRulesCount := (policy.spec.bind (·.ingress)).getD 0
  egressRulesCount := (policy.spec.bind (·.egress)).getD 0

def sortNetworkPoliciesForSnapshot (policies : List NetworkPolicy) : List NetworkPolicy :=
  sortBy (fun a b => snapshotCmp a.metadata b.metadata) policies

structure Subject where
  kind : String
  name : String
  namespace_ : Option String := none

structure ClusterRoleBinding where
  metadata : ObjectMeta := {}
  roleRefKind : String
  roleRefName : String
  subjects : Option (List Subject) := none

structure SecuritySubjectInfo where
  kind : String
  name : String
  namespace_ : Option String
  deriving DecidableEq

structure ClusterRoleBindingInfo where
  name : String
  roleRefName : String
  roleRefKind : String
  riskLevel : String
  subjects : List SecuritySubjectInfo
  deriving DecidableEq

def isHighRiskRole (roleName : String) : Bool :=
  roleName == "cluster-admin" || roleName == "admin" || roleName == "edit"

def shouldIncludeClusterRoleBinding (roleRefKind roleRefName : String) : Bool :=
  isHighRiskRole roleRefName || (roleRefKind == "ClusterRole" && !"system:".toList.isPrefixOf roleRefName.toList)

def subjectCmp (a b : SecuritySubjectInfo) : Ordering :=
  (compare a.kind b.kind).then ((compare a.name b.name).then (compare a.namespace_ b.namespace_))

def mapClusterRoleBinding (binding : ClusterRoleBinding) : Option ClusterRoleBindingInfo :=
  if !shouldIncludeClusterRoleBinding binding.roleRefKind binding.roleRefName then none
  else some
    { name := binding.metadata.name.getD ""
      roleRefName := binding.roleRefName
      roleRefKind := binding.roleRefKind
      riskLevel := if isHighRiskRole binding.roleRefName then "high" else "review"
      subjects := sortBy subjectCmp ((binding.subjects.getD []).map (fun s => ⟨s.kind, s.name, s.namespace_⟩)) }

structure PodSecurityNamespaceInfo where
  namespace_ : String
  enforce : Option String
  audit : Option String
  warn : Option String
  deriving DecidableEq

def psaEnforceLabel : String := "pod-security.kubernetes.io/enforce"
def psaAuditLabel : String := "pod-security.kubernetes.io/audit"
def psaWarnLabel : String := "pod-security.kubernetes.io/warn"

/-- Of the labels under a key the last one stands. -/
def labelValue (labels : List KV) (key : String) : Option String :=
  (labels.reverse.find? (fun label => label.key == key)).map (·.value)

def buildPodSecurityAdmission (namespaces : List NamespaceInfo) : List PodSecurityNamespaceInfo :=
  sortBy (fun a b => compare a.namespace_ b.namespace_) (namespaces.map (fun n =>
    { namespace_ := n.name
      enforce := labelValue n.labels psaEnforceLabel
      audit := labelValue n.labels psaAuditLabel
      warn := labelValue n.labels psaWarnLabel }))

structure SecurityInventory where
  networkPolicies : List NetworkPolicyInfo
  clusterRoleBindings : List ClusterRoleBindingInfo
  podSecurityAdmission : List PodSecurityNamespaceInfo
  deriving DecidableEq

def collectSecurity (policies : List NetworkPolicy) (bindings : List ClusterRoleBinding)
    (namespaces : List NamespaceInfo) : SecurityInventory where
  networkPolicies := (sortNetworkPoliciesForSnapshot policies).map mapNetworkPolicy
  clusterRoleBindings := sortBy (fun a b => compare a.name b.name) (bindings.filterMap mapClusterRoleBinding)
  podSecurityAdmission := buildPodSecurityAdmission namespaces

/-! ## Operational maturity -/

structure DeschedulerInfo where
  installed : Bool := false
  detectedBy : Option String := none
  namespace_ : Option String := none
  strategy : Option String := none
  schedule : Option String := none
  deriving DecidableEq

def deschedulerDeploymentNames : List String := ["descheduler", "openshift-descheduler", "kube-descheduler"]
def deschedulerNs : String := "openshift-kube-descheduler-operator"

def detectDescheduler (deployments : List ListedDeployment) : DeschedulerInfo :=
  match deployments.find? (fun dep => deschedulerDeploymentNames.contains (dep.metadata.name.getD "")) with
  | some dep =>
    { installed := true
      detectedBy := some "deployment"
      namespace_ := dep.metadata.namespace_
      strategy := dep.matchLabels.bind (fun labels => (labels.lookup "descheduler").or (labels.lookup "app")) }
  | none =>
    if deployments.any (fun dep => dep.metadata.namespace_ == some deschedulerNs) then
      { installed := true, detectedBy := some "namespace", namespace_ := some deschedulerNs }
    else {}

structure VpaInfo where
  installed : Bool
  objectsCount : Nat
  updateModes : List String
  deriving DecidableEq

/-- An object that cannot be serialized says nothing. -/
def valueOf (object : DynamicObject) : Json :=
  match object.toValue with
  | .ok value => value
  | .error _ => .null

def vpaUpdateMode (vpa : DynamicObject) : String :=
  (((valueOf vpa).pointer ["spec", "updatePolicy", "updateMode"]).bind Json.asStr).getD "Auto"

/-- The modes are a set, read in its order. -/
def buildVpaInfo (vpaObjects : List DynamicObject) : VpaInfo where
  installed := !vpaObjects.isEmpty
  objectsCount := vpaObjects.length
  updateModes := dedup (sortBy compare (vpaObjects.map vpaUpdateMode))

/-! ## Storage -/

structure StorageClass where
  metadata : ObjectMeta := {}
  provisioner : String
  parameters : Option (StrMap String) := none

/-- A `PersistentVolume` with `spec.storageClassName`. -/
structure PersistentVolume where
  metadata : ObjectMeta := {}
  storageClassName : Option String := none

structure PersistentVolumeClaim where
  metadata : ObjectMeta := {}
  storageClassName : Option String := none
  volumeName : Option String := none

structure StorageClassInfo where
  name : String
  provisioner : String
  parameters : List KV
  deriving DecidableEq

structure PersistentVolumeInfo where
  name : String
  storageClass : Option String
  deriving DecidableEq

structure VolumeSnapshotClassInfo where
  name : String
  driver : String
  deriving DecidableEq

structure VolumeSnapshotInfo where
  namespace_ : String
  name : String
  snapshotClass : Option String
  boundContentName : Option String
  deriving DecidableEq

def storageClassParameterAllowlist : List String :=
  ["type", "fsType", "skuName", "storageaccounttype", "iopsPerGB", "throughput", "pool", "backendType", "datastore",
    "encrypted", "csi.storage.k8s.io/fstype"]

def filterStorageClassParameters (parameters : StrMap String) : List KV :=
  storageClassParameterAllowlist.filterMap (fun key => (parameters.lookup key).map (fun value => ⟨key, value⟩))

def mapStorageClass (sc : StorageClass) : StorageClassInfo where
  name := sc.metadata.name.getD ""
  provisioner := sc.provisioner
  parameters := filterStorageClassParameters (sc.parameters.getD ∅)

def mapPersistentVolume (pv : PersistentVolume) : PersistentVolumeInfo where
  name := pv.metadata.name.getD ""
  storageClass := pv.storageClassName

def mapPersistentVolumeClaim (pvc : PersistentVolumeClaim) : PersistentVolumeClaimInfo where
  namespace_ := pvc.metadata.namespace_.getD ""
  name := pvc.metadata.name.getD ""
  storageClass := pvc.storageClassName
  volumeName := pvc.volumeName

def textAt (value : Json) (path : List String) : Option String := (value.pointer path).bind Json.asStr

def mapVolumeSnapshotClass (vsc : DynamicObject) : VolumeSnapshotClassInfo where
  name := (textAt (valueOf vsc) ["metadata", "name"]).getD ""
  driver := (textAt (valueOf vsc) ["driver"]).getD ""

def mapVolumeSnapshot (vs : DynamicObject) : VolumeSnapshotInfo where
  namespace_ := (textAt (valueOf vs) ["metadata", "namespace"]).getD ""
  name := (textAt (valueOf vs) ["metadata", "name"]).getD ""
  snapshotClass := textAt (valueOf vs) ["spec", "volumeSnapshotClassName"]
  boundContentName := textAt (valueOf vs) ["status", "boundVolumeSnapshotContentName"]

structure StorageInventory where
  storageClasses : List StorageClassInfo
  persistentVolumes : List PersistentVolumeInfo
  persistentVolumeClaims : List PersistentVolumeClaimInfo
  volumeSnapshotClasses : List VolumeSnapshotClassInfo
  volumeSnapshots : List VolumeSnapshotInfo
  deriving DecidableEq

end Collector
end HubAgent
