import Mathlib.Data.List.Sort
import HubAgent.Api
/-!
# Reading workloads: containers, labels, rollout state and the preflight checks (`executor.rs`)

The source has one copy of each reader for Deployments, StatefulSets and DaemonSets; they differ in the kind they name,
so each is one definition here with the kind as its argument.  The rollout predicates differ in what they compare, and
keep a body each.
-/
namespace HubAgent
namespace Executor

open Json (ofInt ofOptInt ofOptStr)

/-! ## Containers -/

def quantityMapToValue (resources : StrMap String) : Json :=
  .obj (resources.entries.map (fun e => (e.1, .str e.2)))

def resourceRequirementsToValue : Option ResourceRequirements → Json
  | none => .obj []
  | some r =>
    .obj (((r.requests.map (fun m => ("requests", quantityMapToValue m))).toList) ++
      ((r.limits.map (fun m => ("limits", quantityMapToValue m))).toList))

def containerResources (containers : List Container) (container : String) : Except String Json :=
  match containers.find? (fun c => c.name == container) with
  | none => .error s!"container not found in workload pod template: {container}"
  | some found => .ok (resourceRequirementsToValue found.resources)

/-- `deployment_container_resources` and its two siblings. -/
def workloadContainerResources {kind : WorkloadKind} (w : Workload kind) (container : String) : Except String Json :=
  match w.spec.bind (fun s => s.template.containers) with
  | none =>
    let kindName := kind.name
    .error s!"{kindName} has no pod template spec: {container}"
  | some containers => containerResources containers container

def daemonsetContainerImage (w : Workload .daemonSet) (container : String) : Except String String :=
  match w.spec.bind (fun s => s.template.containers) with
  | none => .error s!"target DaemonSet has no pod template spec for container {container}"
  | some containers =>
    match containers.find? (fun c => c.name == container) with
    | none => .error s!"target DaemonSet missing expected container {container}"
    | some found =>
      match found.image with
      | none => .error s!"target DaemonSet container {container} has no image field"
      | some image => .ok image

/-- `deployment_pod_labels` and its two siblings. -/
def workloadPodLabels {kind : WorkloadKind} (w : Workload kind) : StrMap String :=
  ((w.spec.bind (fun s => s.template.metadata)).bind ObjectMeta.labels).getD ∅

/-- The annotation a rollout restart sets, as `observed_before` reports it. -/
def restartedAtOf {kind : WorkloadKind} (w : Workload kind) : Json :=
  .obj [("restartedAt", ofOptStr ((((w.spec.bind (fun s => s.template.metadata)).bind ObjectMeta.annotations).bind
    (fun a => a.lookup "kubectl.kubernetes.io/restartedAt"))))]

/-! ## Rollout state -/

/-- `verify_deployment_rollout`, on the object read. -/
def deploymentRollout (w : Workload .deployment) : Json :=
  let specReplicas := (w.spec.bind WorkloadSpec.replicas).getD 1
  let status : Option DeploymentStatus := w.status
  let updated := (status.bind DeploymentStatus.updatedReplicas).getD 0
  let available := (status.bind DeploymentStatus.availableReplicas).getD 0
  let observed := (status.bind DeploymentStatus.observedGeneration).getD 0
  let ready := decide (updated ≥ specReplicas) && decide (available ≥ specReplicas) &&
    decide (observed ≥ w.metadata.generation.getD 0)
  .obj [("ready", .bool ready),
    ("replicas", ofOptInt ((status.map DeploymentStatus.replicas).getD none)),
    ("updated_replicas", ofInt updated),
    ("available_replicas", ofInt available),
    ("ready_replicas", ofInt ((status.bind DeploymentStatus.readyReplicas).getD 0)),
    ("observed_generation", ofInt observed)]

/-- `verify_statefulset_rollout`, on the object read. -/
def statefulsetRollout (w : Workload .statefulSet) : Json :=
  let specReplicas := (w.spec.bind WorkloadSpec.replicas).getD 1
  let status : Option StatefulSetStatus := w.status
  let updated := (status.bind StatefulSetStatus.updatedReplicas).getD 0
  let readyReplicas := (status.bind StatefulSetStatus.readyReplicas).getD 0
  let observed := (status.bind StatefulSetStatus.observedGeneration).getD 0
  let ready := decide (updated ≥ specReplicas) && decide (readyReplicas ≥ specReplicas) &&
    decide (observed ≥ w.metadata.generation.getD 0)
  .obj [("ready", .bool ready),
    ("replicas", ofInt ((status.map StatefulSetStatus.replicas).getD 0)),
    ("updated_replicas", ofInt updated),
    ("ready_replicas", ofInt readyReplicas),
    ("current_replicas", ofInt ((status.bind StatefulSetStatus.currentReplicas).getD 0)),
    ("observed_generation", ofInt observed)]

/-- `verify_daemonset_rollout`, on the object read. -/
def daemonsetRollout (w : Workload .daemonSet) : Json :=
  let status : Option DaemonSetStatus := w.status
  let desired := (status.map DaemonSetStatus.desiredNumberScheduled).getD 0
  let updated := (status.bind DaemonSetStatus.updatedNumberScheduled).getD 0
  let available := (status.bind DaemonSetStatus.numberAvailable).getD 0
  let observed := (status.bind DaemonSetStatus.observedGeneration).getD 0
  let ready := decide (desired > 0) && decide (updated ≥ desired) && decide (available ≥ desired) &&
    decide (observed ≥ w.metadata.generation.getD 0)
  .obj [("ready", .bool ready),
    ("desired_number_scheduled", ofInt desired),
    ("current_number_scheduled", ofInt ((status.map DaemonSetStatus.currentNumberScheduled).getD 0)),
    ("number_ready", ofInt ((status.map DaemonSetStatus.numberReady).getD 0)),
    ("updated_number_scheduled", ofOptInt ((status.map DaemonSetStatus.updatedNumberScheduled).getD none)),
    ("number_available", ofOptInt ((status.map DaemonSetStatus.numberAvailable).getD none)),
    ("observed_generation", ofOptInt ((status.map DaemonSetStatus.observedGeneration).getD none))]

def workloadRollout : (kind : WorkloadKind) → Workload kind → Json
  | .deployment, w => deploymentRollout w
  | .statefulSet, w => statefulsetRollout w
  | .daemonSet, w => daemonsetRollout w

/-! ## Preflight checks -/

def vpaModeIsConflicting (mode : Option String) : Bool :=
  let mode := mode.getD "Auto"
  mode == "Auto" || mode == "Recreate"

def preflightCheckHpa (spec : WorkloadResourcesSpec) : Exec (Except String (List String)) := do
  let list ← api (.listHpas spec.namespace_)
  match list with
  | .error e => return .error e.display
  | .ok list =>
    let names := (list.filterMap (fun hpa => match hpa.scaleTargetRef with
      | some (kind, name) =>
        if kind = spec.workloadKind ∧ name = spec.name then some (hpa.metadata.name.getD "<unknown>") else none
      | none => none)).insertionSort (· ≤ ·)
    return .ok (names.map (fun name =>
      s!"preflight.hpa.targeted: HPA {name} targets {spec.workloadKind}/{spec.name}; " ++
        "resource changes may affect autoscaling behavior"))

/-- What `preflight_check_vpa` says of one VPA. -/
def vpaWarning (spec : WorkloadResourcesSpec) (vpa : DynamicObject) : Except String (Option String) := do
  let name := vpa.metadata.name.getD "<unknown>"
  let asValue ← vpa.toValue
  let targetKind := ((asValue.pointer ["spec", "targetRef", "kind"]).bind Json.asStr).getD ""
  let targetName := ((asValue.pointer ["spec", "targetRef", "name"]).bind Json.asStr).getD ""
  if targetKind ≠ spec.workloadKind ∨ targetName ≠ spec.name then return none
  else
    let mode := (asValue.pointer ["spec", "updatePolicy", "updateMode"]).bind Json.asStr
    if vpaModeIsConflicting mode then
      let mode := mode.getD "Auto"
      return some (s!"preflight.vpa.auto_mode: VPA {name} targets {spec.workloadKind}/{spec.name} " ++
        s!"with updateMode={mode}; manual resources may be overwritten")
    else return none

def preflightCheckVpa (spec : WorkloadResourcesSpec) : Exec (Except String (List String)) := do
  let list ← api (.listVpas spec.namespace_)
  match list with
  | .error e => return .error e.display
  | .ok list =>
    match list.mapM (vpaWarning spec) with
    | .error message => return .error message
    | .ok warnings => return .ok (warnings.reduceOption.insertionSort (· ≤ ·))

def preflightCheckLimitrange (spec : WorkloadResourcesSpec) : Exec (Except String (List String)) := do
  let list ← api (.listLimitRanges spec.namespace_)
  match list with
  | .error e => return .error e.display
  | .ok count =>
    if count = 0 then return .ok []
    else return .ok [s!"preflight.limitrange.present: namespace {spec.namespace_} has {count} LimitRange object(s); " ++
      "requested values may be constrained"]

def preflightCheckResourcequota (spec : WorkloadResourcesSpec) : Exec (Except String (List String)) := do
  let list ← api (.listResourceQuotas spec.namespace_)
  match list with
  | .error e => return .error e.display
  | .ok count =>
    if count = 0 then return .ok []
    else return .ok [s!"preflight.resourcequota.present: namespace {spec.namespace_} has {count} " ++
      "ResourceQuota object(s); requested values may exceed quota"]

def preflightCheckPdb (spec : WorkloadResourcesSpec) (podLabels : StrMap String) :
    Exec (Except String (List String)) := do
  let list ← api (.listPdbs spec.namespace_)
  match list with
  | .error e => return .error e.display
  | .ok list =>
    let names := (list.filterMap (fun pdb =>
      if labelSelectorMatches pdb.selector podLabels then some (pdb.metadata.name.getD "<unknown>")
      else none)).insertionSort (· ≤ ·)
    return .ok (names.map (fun name =>
      s!"preflight.pdb.selector_overlap: PDB {name} selector matches {spec.workloadKind}/{spec.name} " ++
        "pod labels; rollout may be constrained"))

/-- `merge_check`: a check that failed becomes a warning. -/
def mergeCheck (checkName : String) : Except String (List String) → List String
  | .ok warnings => warnings
  | .error reason => [s!"preflight.check.unavailable: {checkName} unavailable: {reason}"]

def collectPreflightWarnings (spec : WorkloadResourcesSpec) (podLabels : StrMap String) : Exec (List String) := do
  let hpa ← preflightCheckHpa spec
  let vpa ← preflightCheckVpa spec
  let limitrange ← preflightCheckLimitrange spec
  let resourcequota ← preflightCheckResourcequota spec
  let pdb ← preflightCheckPdb spec podLabels
  return mergeCheck "hpa" hpa ++ mergeCheck "vpa" vpa ++ mergeCheck "limitrange" limitrange ++
    mergeCheck "resourcequota" resourcequota ++ mergeCheck "pdb" pdb

end Executor
end HubAgent
