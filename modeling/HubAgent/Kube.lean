import Mathlib.Data.List.AList
import HubAgent.Json
/-!
# The Kubernetes objects, as far as the agent reads them

The records keep the fields of `k8s_openapi` that some modelled function looks at.  A label or annotation map is an
`AList`: keys are distinct by construction.
-/
namespace HubAgent

/-- `BTreeMap<String, _>`. -/
abbrev StrMap (α : Type) := AList (fun _ : String => α)

structure OwnerReference where
  kind : String
  name : String
  deriving DecidableEq

structure ObjectMeta where
  name : Option String := none
  namespace_ : Option String := none
  labels : Option (StrMap String) := none
  annotations : Option (StrMap String) := none
  ownerReferences : Option (List OwnerReference) := none
  generation : Option Int := none
  resourceVersion : Option String := none

structure Namespace where
  metadata : ObjectMeta

/-! ## Configuration -/

abbrev ByteString := List UInt8

structure ConfigMap where
  metadata : ObjectMeta := {}
  immutable : Option Bool := none
  data : Option (StrMap String) := none
  binaryData : Option (StrMap ByteString) := none

structure Secret where
  metadata : ObjectMeta := {}
  type_ : Option String := none
  immutable : Option Bool := none
  data : Option (StrMap ByteString) := none

/-! ## Label selectors -/

structure LabelSelectorRequirement where
  key : String
  operator : String
  values : Option (List String) := none

structure LabelSelector where
  matchLabels : Option (StrMap String) := none
  matchExpressions : Option (List LabelSelectorRequirement) := none

/-- One `matchExpressions` entry; an operator it does not know matches nothing. -/
def requirementMatches (labels : StrMap String) (r : LabelSelectorRequirement) : Bool :=
  let value := labels.lookup r.key
  let values := r.values.getD []
  match r.operator with
  | "In" => match value with
    | some v => values.any (· == v)
    | none => false
  | "NotIn" => match value with
    | some v => values.all (· != v)
    | none => true
  | "Exists" => value.isSome
  | "DoesNotExist" => value.isNone
  | _ => false

/-- `label_selector_matches`: no selector matches everything. -/
def labelSelectorMatches (selector : Option LabelSelector) (labels : StrMap String) : Bool :=
  match selector with
  | none => true
  | some s =>
    (match s.matchLabels with
      | none => true
      | some m => m.entries.all (fun e => labels.lookup e.1 == some e.2)) &&
    (match s.matchExpressions with
      | none => true
      | some es => es.all (requirementMatches labels))

/-! ## Workloads, pods and nodes -/

structure ResourceRequirements where
  requests : Option (StrMap String) := none
  limits : Option (StrMap String) := none

structure Container where
  name : String
  image : Option String := none
  resources : Option ResourceRequirements := none

/-- `PodTemplateSpec`; `containers` is there when the template has a pod spec. -/
structure PodTemplate where
  metadata : Option ObjectMeta := none
  containers : Option (List Container) := none

structure WorkloadSpec where
  replicas : Option Int := none
  template : PodTemplate := {}

inductive WorkloadKind where
  | deployment
  | statefulSet
  | daemonSet
  deriving DecidableEq, Repr

def WorkloadKind.name : WorkloadKind → String
  | .deployment => "Deployment"
  | .statefulSet => "StatefulSet"
  | .daemonSet => "DaemonSet"

/-- The kinds the handlers match on; every other text falls through. -/
def WorkloadKind.ofString : String → Option WorkloadKind
  | "Deployment" => some .deployment
  | "StatefulSet" => some .statefulSet
  | "DaemonSet" => some .daemonSet
  | _ => none

theorem WorkloadKind.ofString_eq_some {s : String} {k : WorkloadKind} (h : ofString s = some k) : s = k.name := by
  unfold ofString at h
  split at h <;> cases h <;> rfl

structure DeploymentStatus where
  replicas : Option Int := none
  updatedReplicas : Option Int := none
  availableReplicas : Option Int := none
  readyReplicas : Option Int := none
  observedGeneration : Option Int := none

structure StatefulSetStatus where
  replicas : Int := 0
  updatedReplicas : Option Int := none
  readyReplicas : Option Int := none
  currentReplicas : Option Int := none
  observedGeneration : Option Int := none

structure DaemonSetStatus where
  desiredNumberScheduled : Int := 0
  currentNumberScheduled : Int := 0
  numberReady : Int := 0
  updatedNumberScheduled : Option Int := none
  numberAvailable : Option Int := none
  observedGeneration : Option Int := none

abbrev WorkloadStatus : WorkloadKind → Type
  | .deployment => DeploymentStatus
  | .statefulSet => StatefulSetStatus
  | .daemonSet => DaemonSetStatus

structure Workload (kind : WorkloadKind) where
  metadata : ObjectMeta := {}
  spec : Option WorkloadSpec := none
  status : Option (WorkloadStatus kind) := none

/-- The `Scale` subresource: `spec.replicas` and `status.replicas`. -/
structure Scale where
  spec : Option (Option Int) := none
  status : Option Int := none

structure Pod where
  metadata : ObjectMeta := {}
  nodeName : Option String := none
  /-- `status.podIP`, absent also when there is no status. -/
  podIp : Option String := none

structure Service where
  metadata : ObjectMeta := {}
  /-- `spec.clusterIP`, absent also when there is no spec. -/
  clusterIp : Option String := none

structure Node where
  metadata : ObjectMeta := {}
  unschedulable : Option Bool := none

structure DeleteOptions where
  gracePeriodSeconds : Option Int := none
  deriving DecidableEq

structure Eviction where
  deleteOptions : Option DeleteOptions
  name : String
  namespace_ : String
  deriving DecidableEq

structure HorizontalPodAutoscaler where
  metadata : ObjectMeta := {}
  /-- `spec.scaleTargetRef`: kind and name. -/
  scaleTargetRef : Option (String × String) := none

structure PodDisruptionBudget where
  metadata : ObjectMeta := {}
  /-- `spec.selector`, absent also when there is no spec. -/
  selector : Option LabelSelector := none

/-- A `DynamicObject` with what `serde_json::to_value` makes of it. -/
structure DynamicObject where
  metadata : ObjectMeta := {}
  toValue : Except String Json

/-- `kube::Error`: the `Status` that the API server answers, with what `Debug` shows of it, or anything else with its
text. -/
inductive KubeError where
  | api (code : Nat) (reason message debug : String)
  | other (text : String)
  deriving DecidableEq, Repr

def KubeError.display : KubeError → String
  | .api _ reason message debug => s!"ApiError: {message}: {reason} ({debug})"
  | .other text => text

/-- The answer whose `Status` says no more than this. -/
def KubeError.failure (code : Nat) (reason message : String) : KubeError :=
  .api code reason message (s!"Status \x7b status: Some(Failure), code: {code}, message: {repr message}, metadata: None, "
    ++ s!"reason: {repr reason}, details: None \x7d")

abbrev ApiResult (α : Type) := Except KubeError α

end HubAgent
