import HubAgent.Gate
import HubAgent.Workload
/-!
# The command handlers (`executor.rs`)

Each handler is a program over `ApiCall`: which calls it makes, in which order, and what it returns, is read off its
text.  An early return of the source is the branch that ends there.  The two loops that wait (a rollout, a drain) take
fuel and are `pending` when it is spent, so a run with any fuel is a prefix of the unbounded one.  A definition named
like a function of the source, in camel case, is that function; the others are parts of one and say which.

`Externals` holds what is not in this model: the YAML printer, and the inventory behind the PostgreSQL diagnosis, which
can only read.
-/
namespace HubAgent
namespace Executor

open Interaction (Prog)
open Json (ofInt ofOptInt ofOptStr)

structure Externals where
  /-- `serde_yaml::to_string`. -/
  yamlToString : Json → Except String String
  /-- The inventory collection, the live probe and the report of `plugins::diagnose_postgresql`. -/
  diagnose : Config → PostgresqlDiagnosticSpec → Prog ReadCall (fun _ => Except String Json) PostgresqlDiagnosticReport

def updateAgentAllowedPrefix : String := "us-east1-docker.pkg.dev/sentinella-hub/kubernetes-agent/"
def updateAgentDaemonset : String := "sentinella-hub-k8s-agent"
def updateAgentContainer : String := "agent"
def drainNodeDefaultTimeoutSeconds : Nat := 300
def drainNodeMaxTimeoutSeconds : Nat := 3600
def resourceYamlMaxBytes : Nat := 512 * 1024

/-! ## Results -/

/-- `CommandResult::simple`: it reads the clock. -/
def simple (commandId : String) (status : ResultStatus) (message : Option String) : Exec CommandResult := do
  let finishedAtMs ← nowMs
  return { commandId, status, message, finishedAtMs }

def commandError (commandId : String) (mode : ExecutionMode) (message : String) : Exec CommandResult := do
  let result ← simple commandId .error (some message)
  return { result with dryRun := some (mode == ExecutionMode.preview) }

def updateAgentError (commandId message : String) : Exec CommandResult := do
  let result ← simple commandId .error (some message)
  return { result with dryRun := some false }

def specError (cmd : Command) (message : String) : Exec CommandResult := simple cmd.id .error (some message)

def resourceYamlError (commandId message : String) : Exec CommandResult := simple commandId .error (some message)

/-! ## `get_resource_yaml` -/

structure ResourceYamlTarget where
  apiVersion : String
  kind : String
  namespaced : Bool

def resourceYamlSupportedTargets : List ResourceYamlTarget :=
  [⟨"v1", "Pod", true⟩, ⟨"v1", "Service", true⟩, ⟨"v1", "ConfigMap", true⟩, ⟨"v1", "PersistentVolumeClaim", true⟩,
    ⟨"v1", "PersistentVolume", false⟩, ⟨"v1", "Namespace", false⟩, ⟨"apps/v1", "Deployment", true⟩,
    ⟨"apps/v1", "StatefulSet", true⟩, ⟨"apps/v1", "DaemonSet", true⟩, ⟨"apps/v1", "ReplicaSet", true⟩,
    ⟨"batch/v1", "Job", true⟩, ⟨"batch/v1", "CronJob", true⟩, ⟨"networking.k8s.io/v1", "Ingress", true⟩,
    ⟨"networking.k8s.io/v1", "NetworkPolicy", true⟩]

def resourceYamlTarget (apiVersion kind : String) : Option ResourceYamlTarget :=
  resourceYamlSupportedTargets.find? (fun t => t.apiVersion == apiVersion && t.kind == kind)

def splitApiVersion (apiVersion : String) : Option (String × String) :=
  match RustStr.splitOnce '/' apiVersion.toList with
  | some (group, version) =>
    if group = [] ∨ version = [] then none else some (String.ofList group, String.ofList version)
  | none => if apiVersion = "" then none else some ("", apiVersion)

def sanitizeManifestLikeYaml : Json → Except String Json
  | .obj members =>
    match Json.lookup members "metadata" with
    | none => .ok (.obj (Json.removeMember members "status"))
    | some (.obj metadata) =>
      let cleaned := ["managedFields", "resourceVersion", "uid", "creationTimestamp", "generation",
        "selfLink"].foldl Json.removeMember metadata
      .ok (.obj (Json.removeMember
        (members.map (fun m => if m.1 = "metadata" then (m.1, .obj cleaned) else m)) "status"))
    | some _ => .error "expected Kubernetes metadata object"
  | _ => .error "expected Kubernetes object payload"

def resourceYamlReadError (kind namespace_ name : String) (err : KubeError) : String :=
  let scope := if namespace_ = "" then s!"{kind} {name}" else s!"{kind} {namespace_}/{name}"
  match err with
  | .api code reason _ _ =>
    if code = 403 then s!"forbidden to read {scope}"
    else if code = 404 then s!"resource {scope} not found"
    else s!"failed to read {scope}: kube API error {code} {reason}"
  | .other text => s!"failed to read {scope}: {text}"

/-- The namespace the read is made in: required or refused according to the scope of the kind. -/
def resourceYamlNamespace (kind : String) (namespaced : Bool) (namespace_ : Option String) : Except String String :=
  match namespaced, namespace_ with
  | true, some ns => .ok ns
  | true, none => .error s!"namespace is required for namespaced resource kind {kind}"
  | false, some _ => .error s!"namespace must be omitted for cluster-scoped resource kind {kind}"
  | false, none => .ok ""

/-- The end of `get_resource_yaml`: from the object read to the result. -/
def renderResourceYaml (env : Externals) (cfg : Config) (commandId apiVersion kind namespace_ name : String)
    (object : DynamicObject) : Exec CommandResult :=
  match object.toValue with
  | .error err => resourceYamlError commandId s!"failed to serialize {kind} {name} to JSON: {err}"
  | .ok jsonValue =>
    match sanitizeManifestLikeYaml jsonValue with
    | .error err => resourceYamlError commandId err
    | .ok sanitized =>
      match env.yamlToString sanitized with
      | .error err => resourceYamlError commandId s!"failed to serialize {kind} {name} to YAML: {err}"
      | .ok yaml =>
        if yaml.utf8ByteSize > resourceYamlMaxBytes then
          let size := yaml.utf8ByteSize
          resourceYamlError commandId
            s!"resource YAML exceeds maximum size of {resourceYamlMaxBytes} bytes (got {size})"
        else do
          let result ← simple commandId .ok none
          let fetchedAt ← nowRfc3339
          let reported := if namespace_ = "" then none else some namespace_
          return { result with
            requestedState := some (.obj [("apiVersion", .str apiVersion), ("kind", .str kind),
              ("namespace", ofOptStr reported), ("name", .str name)])
            resourceYaml := some
              { clusterId := cfg.clusterId
                resource := ⟨apiVersion, kind, reported, name, object.metadata.resourceVersion⟩
                format := "yaml", mode := "manifest", content := yaml, fetchedAt, warnings := [] } }

def getResourceYaml (env : Externals) (cfg : Config) (commandId : String) (spec : ResourceYamlSpec) :
    Exec CommandResult :=
  let apiVersion := RustStr.trim spec.apiVersion
  let kind := RustStr.trim spec.kind
  let name := RustStr.trim spec.name
  let namespace_ := (spec.namespace_.map RustStr.trim).filter (· ≠ "")
  if apiVersion = "" then resourceYamlError commandId "apiVersion is required"
  else if kind = "" then resourceYamlError commandId "kind is required"
  else if name = "" then resourceYamlError commandId "name is required"
  else if kind = "Secret" then resourceYamlError commandId "Secret retrieval is disabled"
  else
    match resourceYamlTarget apiVersion kind with
    | none => resourceYamlError commandId s!"unsupported resource kind {kind} with apiVersion {apiVersion}"
    | some target =>
      match resourceYamlNamespace kind target.namespaced namespace_ with
      | .error message => resourceYamlError commandId message
      | .ok namespace_ =>
        match splitApiVersion apiVersion with
        | none => resourceYamlError commandId s!"unsupported apiVersion format {apiVersion}"
        | some (group, version) => do
          let object ← api (.getDynamic group version kind (if target.namespaced then some namespace_ else none) name)
          match object with
          | .error err => resourceYamlError commandId (resourceYamlReadError kind namespace_ name err)
          | .ok object => renderResourceYaml env cfg commandId apiVersion kind namespace_ name object

/-- The end either reports an error, or reads both clocks and keeps the command's id. -/
theorem renderResourceYaml_cases (env : Externals) (cfg : Config)
    (commandId apiVersion kind namespace_ name : String) (object : DynamicObject) :
    (∃ message, renderResourceYaml env cfg commandId apiVersion kind namespace_ name object =
      resourceYamlError commandId message) ∨
    ∃ finish : CommandResult → String → CommandResult,
      (∀ result fetchedAt, (finish result fetchedAt).commandId = result.commandId) ∧
      renderResourceYaml env cfg commandId apiVersion kind namespace_ name object = (do
        let result ← simple commandId .ok none
        let fetchedAt ← nowRfc3339
        return finish result fetchedAt) := by
  unfold renderResourceYaml
  split
  · exact .inl ⟨_, rfl⟩
  split
  · exact .inl ⟨_, rfl⟩
  split
  · exact .inl ⟨_, rfl⟩
  split
  · exact .inl ⟨_, rfl⟩
  · refine .inr ⟨_, ?_, rfl⟩
    exact fun _ _ => rfl

/-- The handler either reports an error, or makes the one read of a listed target in the requested scope. -/
theorem getResourceYaml_cases (env : Externals) (cfg : Config) (commandId : String) (spec : ResourceYamlSpec) :
    (∃ message, getResourceYaml env cfg commandId spec = resourceYamlError commandId message) ∨
    ∃ target namespace_ group version, ∃ after : ApiResult DynamicObject → Exec CommandResult,
      resourceYamlTarget (RustStr.trim spec.apiVersion) (RustStr.trim spec.kind) = some target ∧
      resourceYamlNamespace (RustStr.trim spec.kind) target.namespaced
        ((spec.namespace_.map RustStr.trim).filter (· ≠ "")) = .ok namespace_ ∧
      splitApiVersion (RustStr.trim spec.apiVersion) = some (group, version) ∧
      (∀ err, after (.error err) = resourceYamlError commandId
        (resourceYamlReadError (RustStr.trim spec.kind) namespace_ (RustStr.trim spec.name) err)) ∧
      (∀ object, after (.ok object) = renderResourceYaml env cfg commandId (RustStr.trim spec.apiVersion)
        (RustStr.trim spec.kind) namespace_ (RustStr.trim spec.name) object) ∧
      getResourceYaml env cfg commandId spec =
        api (.getDynamic group version (RustStr.trim spec.kind)
          (if target.namespaced then some namespace_ else none) (RustStr.trim spec.name)) >>= after := by
  unfold getResourceYaml
  dsimp only
  split
  · exact .inl ⟨_, rfl⟩
  split
  · exact .inl ⟨_, rfl⟩
  split
  · exact .inl ⟨_, rfl⟩
  split
  · exact .inl ⟨_, rfl⟩
  split
  · exact .inl ⟨_, rfl⟩
  rename_i target htarget
  split
  · exact .inl ⟨_, rfl⟩
  rename_i namespace_ hnamespace
  split
  · exact .inl ⟨_, rfl⟩
  rename_i group version hsplit
  refine .inr ⟨target, namespace_, group, version, _, htarget, hnamespace, hsplit, ?_, ?_, rfl⟩
  · exact fun _ => rfl
  · exact fun _ => rfl

/-! ## `preview_workload_resources` and `apply_workload_resources` -/

/-- `resource_map_to_value`: an empty side is `null`, which clears it. -/
def resourceMapToValue (resources : ResourceMap) : Json :=
  if resources.cpu.isNone && resources.memory.isNone then .null
  else .obj ((resources.cpu.map (fun v => ("cpu", Json.str v))).toList ++
    (resources.memory.map (fun v => ("memory", Json.str v))).toList)

/-- The strategic-merge patch that sets members of one container of the pod template. -/
def containerPatch (members : List (String × Json)) : Json :=
  .obj [("spec", .obj [("template", .obj [("spec", .obj [("containers", .arr [.obj members])])])])]

def buildWorkloadResourcesPatch (spec : WorkloadResourcesSpec) : Except String Json :=
  if spec.requests.isNone && spec.limits.isNone then
    .error "at least one of requests or limits must be provided"
  else
    .ok (containerPatch [("name", .str spec.container),
      ("resources", .obj ((spec.requests.map (fun m => ("requests", resourceMapToValue m))).toList ++
        (spec.limits.map (fun m => ("limits", resourceMapToValue m))).toList))])

structure ResourcePreview where
  patch : Json
  observedBefore : Json
  observedAfter : Json
  warnings : List String

/-- The part of `execute_workload_resources_inner` that runs once the kind is known. -/
def patchWorkloadResources (kind : WorkloadKind) (spec : WorkloadResourcesSpec) (patch : Json) (dryRun : Bool) :
    Exec (Except String ResourcePreview) := do
  let kindName := kind.name
  let opName := if dryRun then "dry-run patch" else "apply patch"
  let before ← getWorkload kind spec.namespace_ spec.name
  match before with
  | .error e =>
    let shown := e.display
    return .error s!"failed to get {kindName} {spec.name}: {shown}"
  | .ok before =>
    match workloadContainerResources before spec.container with
    | .error message => return .error message
    | .ok observedBefore =>
      let warnings ← collectPreflightWarnings spec (workloadPodLabels before)
      let after ← patchWorkload kind spec.namespace_ spec.name dryRun patch
      match after with
      | .error e =>
        let shown := e.display
        return .error s!"{opName} failed for {kindName} {spec.name}: {shown}"
      | .ok after =>
        match workloadContainerResources after spec.container with
        | .error message => return .error message
        | .ok observedAfter => return .ok ⟨patch, observedBefore, observedAfter, warnings⟩

def executeWorkloadResourcesInner (cfg : Config) (spec : WorkloadResourcesSpec) (dryRun : Bool) :
    Exec (Except String ResourcePreview) := do
  let gate ← ensureEffectivePolicyAllows cfg spec.namespace_
    (if dryRun then "preview_workload_resources" else "apply_workload_resources") (some spec.workloadKind) (some spec)
  match gate with
  | .error message => return .error message
  | .ok _ =>
    match buildWorkloadResourcesPatch spec with
    | .error message => return .error message
    | .ok patch =>
      match WorkloadKind.ofString spec.workloadKind with
      | none =>
        return .error (s!"unsupported workload_kind {spec.workloadKind}; " ++
          "expected Deployment, StatefulSet, or DaemonSet")
      | some kind => patchWorkloadResources kind spec patch dryRun

/-- `preview_workload_resources` and `apply_workload_resources`, which differ in `dryRun`. -/
def runWorkloadResources (cfg : Config) (commandId : String) (spec : WorkloadResourcesSpec) (dryRun : Bool) :
    Exec CommandResult := do
  let outcome ← executeWorkloadResourcesInner cfg spec dryRun
  match outcome with
  | .ok preview =>
    let r ← simple commandId .ok none
    return { r with
      dryRun := some dryRun
      appliedPatch := some preview.patch
      observedBefore := some preview.observedBefore
      observedAfter := some preview.observedAfter
      warnings := preview.warnings }
  | .error message =>
    let r ← simple commandId .error (some message)
    return { r with dryRun := some dryRun }

def previewWorkloadResources (cfg : Config) (commandId : String) (spec : WorkloadResourcesSpec) :
    Exec CommandResult :=
  runWorkloadResources cfg commandId spec true

def applyWorkloadResources (cfg : Config) (commandId : String) (spec : WorkloadResourcesSpec) : Exec CommandResult :=
  runWorkloadResources cfg commandId spec false

/-! ## `rollout_restart` -/

def rolloutRestartPatch (restartAt : String) : Json :=
  .obj [("spec", .obj [("template", .obj [("metadata", .obj [("annotations",
    .obj [("kubectl.kubernetes.io/restartedAt", .str restartAt)])])])])]

def applyRolloutRestartPatch (kind namespace_ name : String) (patch : Json) (dryRun : Bool) :
    Exec (Except String Json) :=
  match WorkloadKind.ofString kind with
  | none =>
    return .error (s!"unsupported rollout_restart target kind {kind}; " ++
      "expected Deployment, StatefulSet, or DaemonSet")
  | some k => do
    let before ← getWorkload k namespace_ name
    match before with
    | .error e =>
      let shown := e.display
      return .error s!"failed to get {kind} {name}: {shown}"
    | .ok before =>
      let patched ← patchWorkload k namespace_ name dryRun patch
      match patched with
      | .error e =>
        let opName := if dryRun then "dry-run" else "apply"
        let shown := e.display
        return .error s!"{opName} patch failed for {kind} {name}: {shown}"
      | .ok _ => return .ok (restartedAtOf before)

/-- The last instant a `SystemTime` holds, in nanoseconds. -/
def systemTimeMax : Nat := 9223372036854775808 * 1000000000 - 1

/-- The loop of `wait_for_rollout_completion`. -/
def awaitRollout (deadline : Nat) (kind namespace_ name : String) : Nat → Exec (Except String ActionVerification)
  | 0 => .pending
  | fuel + 1 => do
    let now ← systemTimeNow
    if now > deadline then
      return .error s!"rollout verification timed out for {namespace_}/{kind} {name}"
    else
      match WorkloadKind.ofString kind with
      | none =>
        return .error (s!"unsupported rollout verification target kind {kind}; " ++
          "expected Deployment, StatefulSet, or DaemonSet")
      | some k =>
        let workload ← getWorkload k namespace_ name
        match workload with
        | .error e =>
          let shown := e.display
          return .error s!"failed to read {kind} {name} for rollout verification: {shown}"
        | .ok workload =>
          let observed := workloadRollout k workload
          if ((observed.get "ready").bind Json.asBool).getD false then
            return .ok ⟨"ready", some "workload rollout completed successfully", some observed⟩
          else
            sleep 2
            awaitRollout deadline kind namespace_ name fuel

def waitForRolloutCompletion (fuel : Nat) (kind namespace_ name : String) :
    Exec (Except String ActionVerification) := do
  let now ← systemTimeNow
  if now + 120 * 1000000000 > systemTimeMax then return .error "failed to compute rollout deadline"
  else awaitRollout (now + 120 * 1000000000) kind namespace_ name fuel

def targetJson (target : WorkloadTargetRef) : Json :=
  .obj [("kind", .str target.kind), ("namespace", .str target.namespace_), ("name", .str target.name)]

def rolloutRestart (fuel : Nat) (cfg : Config) (commandId : String) (spec : RolloutRestartSpec) :
    Exec CommandResult := do
  let mode := spec.execution.mode
  let target := spec.target
  let gate ← ensureEffectivePolicyAllows cfg target.namespace_ "rollout_restart" (some target.kind) none
  match gate with
  | .error message => commandError commandId mode message
  | .ok _ =>
    let restartAt ← nowRfc3339
    let patch := rolloutRestartPatch restartAt
    let result ← simple commandId .ok none
    let result := { result with requestedState := some (.obj [("execution", .obj [("mode", .str mode.text)]),
      ("target", targetJson target), ("restartedAt", .str restartAt)]) }
    let dryRun ← applyRolloutRestartPatch target.kind target.namespace_ target.name patch true
    match dryRun with
    | .error message => commandError commandId mode message
    | .ok observedBefore =>
      let result := { result with
        dryRun := some true
        appliedPatch := some patch
        observedBefore := some observedBefore
        observedAfter := some observedBefore }
      match mode with
      | .preview => return result
      | .execute =>
        let applied ← applyRolloutRestartPatch target.kind target.namespace_ target.name patch false
        match applied with
        | .error message => commandError commandId mode message
        | .ok after =>
          let result := { result with dryRun := some false, observedAfter := some after }
          let verified ← waitForRolloutCompletion fuel target.kind target.namespace_ target.name
          match verified with
          | .ok verification => return { result with verification := some verification }
          | .error message =>
            return { result with
              status := .error
              message := some message
              verification := some ⟨"failed", some "rollout verification failed", none⟩ }

/-! ## `scale` -/

def scaleSpecReplicas (s : Scale) : Int := (s.spec.bind id).getD 0

def scaleJson (s : Scale) : Json :=
  .obj [("desired_replicas", ofInt (scaleSpecReplicas s)), ("current_replicas", ofInt (s.status.getD 0))]

def scalePatch (replicas : Int) : Json := .obj [("spec", .obj [("replicas", ofInt replicas)])]

def scaleWorkload (cfg : Config) (commandId : String) (spec : ScaleSpec) : Exec CommandResult := do
  let mode := spec.execution.mode
  let target := spec.target
  let gate ← ensureEffectivePolicyAllows cfg target.namespace_ "scale" (some target.kind) none
  match gate with
  | .error message => commandError commandId mode message
  | .ok _ =>
    if spec.replicas < 0 then
      commandError commandId mode "scale replicas must be greater than or equal to 0"
    else if target.kind ≠ "Deployment" then
      commandError commandId mode s!"unsupported scale target kind {target.kind}; expected Deployment"
    else
      let before ← getWorkload .deployment target.namespace_ target.name
      match before with
      | .error e =>
        let shown := e.display
        commandError commandId mode s!"failed to get Deployment {target.name}: {shown}"
      | .ok before =>
        let beforeScale ← getScale target.namespace_ target.name
        match beforeScale with
        | .error e =>
          let shown := e.display
          commandError commandId mode s!"failed to get scale for Deployment {target.name}: {shown}"
        | .ok beforeScale =>
          let result ← simple commandId .ok none
          let status : Option DeploymentStatus := before.status
          let result := { result with
            requestedState := some (.obj [("execution", .obj [("mode", .str mode.text)]),
              ("target", targetJson target), ("replicas", ofInt spec.replicas)])
            dryRun := some (mode == ExecutionMode.preview)
            observedBefore := some (.obj [("replicas", ofOptInt (beforeScale.spec.getD none)),
              ("ready_replicas", ofOptInt ((status.map DeploymentStatus.readyReplicas).getD none)),
              ("available_replicas", ofOptInt ((status.map DeploymentStatus.availableReplicas).getD none))]) }
          let patch := scalePatch spec.replicas
          let dryRun ← patchScale target.namespace_ target.name true patch
          match dryRun with
          | .error e =>
            let shown := e.display
            commandError commandId mode s!"scale dry-run failed for Deployment {target.name}: {shown}"
          | .ok dryRun =>
            let result := { result with appliedPatch := some patch, observedAfter := some (scaleJson dryRun) }
            match mode with
            | .preview => return result
            | .execute =>
              let applied ← patchScale target.namespace_ target.name false patch
              match applied with
              | .error e =>
                let shown := e.display
                commandError commandId mode s!"scale apply failed for Deployment {target.name}: {shown}"
              | .ok applied =>
                return { result with
                  dryRun := some false
                  observedAfter := some (scaleJson applied)
                  verification := some ⟨"accepted",
                    some "scale request applied; stabilization is tracked separately", some (scaleJson applied)⟩ }

/-! ## `drain_node` -/

/-- `drain_timeout_duration`, in seconds. -/
def drainTimeoutDuration (spec : DrainNodeSpec) : Except String Nat :=
  let timeoutSeconds := spec.timeoutSeconds.getD drainNodeDefaultTimeoutSeconds
  if timeoutSeconds = 0 then .error "timeout_seconds must be greater than 0"
  else if timeoutSeconds > drainNodeMaxTimeoutSeconds then
    .error s!"timeout_seconds must be less than or equal to {drainNodeMaxTimeoutSeconds}"
  else .ok timeoutSeconds

def drainDeleteOptions (spec : DrainNodeSpec) : Except String (Option DeleteOptions) :=
  match spec.gracePeriodSeconds with
  | none => .ok none
  | some 0 => .error "grace_period_seconds must be greater than 0"
  | some n =>
    if n ≤ 9223372036854775807 then .ok (some ⟨some (Int.ofNat n)⟩)
    else .error "grace_period_seconds is too large"

def podIsMirror (pod : Pod) : Bool :=
  (pod.metadata.annotations.bind (fun a => a.lookup "kubernetes.io/config.mirror")).isSome

def podOwnerKinds (pod : Pod) : List String := (pod.metadata.ownerReferences.getD []).map (·.kind)

structure PodClasses where
  daemonset : List String := []
  unmanaged : List String := []
  drainable : List (String × String) := []

/-- The body of the loop of `classify_pods_on_node`. -/
def classifyPod (nodeName : String) (force : Bool) (acc : PodClasses) (pod : Pod) : PodClasses :=
  if pod.nodeName ≠ some nodeName then acc
  else
    let namespace_ := pod.metadata.namespace_.getD ""
    let name := pod.metadata.name.getD ""
    let displayName := s!"{namespace_}/{name}"
    if podIsMirror pod then { acc with daemonset := acc.daemonset ++ [s!"ignored mirror pod {displayName}"] }
    else if (podOwnerKinds pod).contains "DaemonSet" then
      { acc with daemonset := acc.daemonset ++ [s!"ignored DaemonSet pod {displayName}"] }
    else if podOwnerKinds pod = [] then
      { acc with
        unmanaged := acc.unmanaged ++ [displayName]
        drainable := if force then acc.drainable ++ [(namespace_, name)] else acc.drainable }
    else { acc with drainable := acc.drainable ++ [(namespace_, name)] }

def classifyPodsOnNode (nodeName : String) (pods : List Pod) (force : Bool) : PodClasses :=
  pods.foldl (classifyPod nodeName force) {}

def forcedWarnings (unmanaged : List String) : List String :=
  unmanaged.map (fun pod => s!"forced unmanaged pod {pod}")

/-- The eviction loop of `drain_node`: it stops at the first eviction that fails. -/
def evictPods (nodeName : String) (deleteOptions : Option DeleteOptions) :
    List (String × String) → List String → Exec (Except String (List String))
  | [], evicted => return .ok evicted
  | (namespace_, name) :: rest, evicted => do
    let answer ← createEviction namespace_ name ⟨deleteOptions, name, namespace_⟩
    match answer with
    | .error e =>
      let shown := e.display
      return .error s!"failed to evict Pod {namespace_}/{name} while draining Node {nodeName}: {shown}"
    | .ok _ => evictPods nodeName deleteOptions rest (evicted ++ [s!"{namespace_}/{name}"])

/-- The polling loop of `drain_node`; it returns the warnings and the pods last seen remaining. -/
def awaitDrained (nodeName fieldSelector : String) (force : Bool) (deadline : Nat) :
    Nat → List String → List String → Exec (Except String (List String × List String))
  | 0, _, _ => .pending
  | fuel + 1, warnings, remaining => do
    let podList ← listPods fieldSelector
    match podList with
    | .error e =>
      let shown := e.display
      return .error s!"failed to poll Pods while draining Node {nodeName}: {shown}"
    | .ok pods =>
      let still := classifyPodsOnNode nodeName pods force
      if still.unmanaged ≠ [] ∧ force = false then
        let joined := ", ".intercalate still.unmanaged
        return .error s!"Node {nodeName} gained unmanaged Pods during drain: {joined}"
      else
        let warnings := warnings ++ forcedWarnings still.unmanaged
        if still.drainable = [] then return .ok (warnings, remaining)
        else
          let remaining := still.drainable.map (fun p => s!"{p.1}/{p.2}")
          let now ← instantNow
          if now ≥ deadline then
            let joined := ", ".intercalate remaining
            return .error s!"timed out waiting for Node {nodeName} to drain; remaining Pods: {joined}"
          else
            sleep 5
            awaitDrained nodeName fieldSelector force deadline fuel warnings remaining

def cordonPatch : Json := .obj [("spec", .obj [("unschedulable", .bool true)])]

def strArray (items : List String) : Json := .arr (items.map Json.str)

/-- The part of `drain_node` from the cordon on. -/
def cordonAndEvict (fuel : Nat) (commandId nodeName fieldSelector : String) (force : Bool) (timeoutSeconds : Nat)
    (deleteOptions : Option DeleteOptions) (beforeUnschedulable : Bool) (classes : PodClasses) :
    Exec CommandResult := do
  let warnings := classes.daemonset ++ (if force then forcedWarnings classes.unmanaged else [])
  let cordoned ← patchNode nodeName false cordonPatch
  match cordoned with
  | .error e =>
    let shown := e.display
    simple commandId .error (some s!"failed to cordon Node {nodeName}: {shown}")
  | .ok _ =>
    let evictions ← evictPods nodeName deleteOptions classes.drainable []
    match evictions with
    | .error message => simple commandId .error (some message)
    | .ok evictedPods =>
      let start ← instantNow
      let waited ← awaitDrained nodeName fieldSelector force (start + timeoutSeconds * 1000000000) fuel warnings []
      match waited with
      | .error message => simple commandId .error (some message)
      | .ok (warnings, remainingPods) =>
        let result ← simple commandId .ok none
        return { result with
          dryRun := some false
          requestedState := some (.obj [("nodeName", .str nodeName)])
          observedBefore := some (.obj [("unschedulable", .bool beforeUnschedulable),
            ("drainablePods", ofInt evictedPods.length)])
          observedAfter := some (.obj [("unschedulable", .bool true), ("evictedPods", strArray evictedPods),
            ("remainingPods", strArray remainingPods), ("warnings", strArray warnings)])
          warnings := warnings
          verification := some ⟨"accepted", some "node cordoned and pod eviction completed",
            some (.obj [("unschedulable", .bool true), ("evictedPods", strArray evictedPods)])⟩ }

def drainNode (fuel : Nat) (cfg : Config) (commandId : String) (spec : DrainNodeSpec) : Exec CommandResult :=
  let nodeName := RustStr.trim spec.nodeName
  if nodeName = "" then simple commandId .error (some "node_name is required")
  else do
    let gate ← ensureClusterActionAllowed cfg "drain_node"
    match gate with
    | .error message => simple commandId .error (some message)
    | .ok _ =>
      match drainTimeoutDuration spec with
      | .error message => simple commandId .error (some message)
      | .ok timeoutSeconds =>
        match drainDeleteOptions spec with
        | .error message => simple commandId .error (some message)
        | .ok deleteOptions =>
          let node ← getNode nodeName
          match node with
          | .error e =>
            let shown := e.display
            simple commandId .error (some s!"failed to get Node {nodeName}: {shown}")
          | .ok node =>
            let fieldSelector := s!"spec.nodeName={nodeName}"
            let podList ← listPods fieldSelector
            match podList with
            | .error e =>
              let shown := e.display
              simple commandId .error (some s!"failed to list Pods for drain {nodeName}: {shown}")
            | .ok pods =>
              let classes := classifyPodsOnNode nodeName pods spec.force
              if spec.force = false ∧ classes.unmanaged ≠ [] then
                let joined := ", ".intercalate classes.unmanaged
                simple commandId .error (some (s!"refusing to drain Node {nodeName} because unmanaged Pods " ++
                  s!"require an explicit force path: {joined}"))
              else
                cordonAndEvict fuel commandId nodeName fieldSelector spec.force timeoutSeconds deleteOptions
                  (node.unschedulable.getD false) classes

/-! ## `self_update` and `update_agent` -/

def selfUpdate (cfg : Config) (commandId : String) (spec : SelfUpdateSpec) : Exec CommandResult := do
  let gate ← ensureEffectivePolicyAllows cfg updateAgentNamespace "self_update" none none
  match gate with
  | .error message => commandError commandId .execute message
  | .ok _ =>
    let strategy := spec.strategy.getD "restart_pod"
    let target := spec.targetVersion.getD "<unspecified>"
    let reason := spec.reason.getD "<none>"
    let r ← simple commandId .ok
      (some s!"self_update accepted: strategy={strategy}, target_version={target}, reason={reason}")
    return { r with restartRequested := some true }

def validateUpdateAgentImage (image : String) : Except String String :=
  let image := RustStr.trim image
  if image = "" then .error "update_agent image must be non-empty"
  else if !updateAgentAllowedPrefix.toList.isPrefixOf image.toList then
    .error s!"update_agent image must start with allowed prefix {updateAgentAllowedPrefix}"
  else
    let suffix := image.toList.drop updateAgentAllowedPrefix.toList.length
    if suffix = [] ∨ suffix = ['/'] then
      .error "update_agent image must include an image name after allowed prefix"
    else
      match RustStr.rsplitOnceStr "@sha256:".toList suffix with
      | some (_, digest) =>
        if digest.length = 64 ∧ digest.all RustStr.isAsciiHexdigit then .ok image
        else .error "update_agent image has invalid sha256 digest format"
      | none =>
        match RustStr.rsplitOnceStr [':'] suffix with
        | some (name, tag) =>
          if name = [] ∨ tag = [] then
            .error "update_agent image must include non-empty image name and tag"
          else .ok image
        | none => .error "update_agent image must include either :<tag> or @sha256:<digest>"

def updateAgentPatch (image : String) : Json :=
  containerPatch [("name", .str updateAgentContainer), ("image", .str image)]

def updateAgent (cfg : Config) (commandId : String) (spec : UpdateAgentSpec) : Exec CommandResult := do
  let gate ← ensureEffectivePolicyAllows cfg updateAgentNamespace "update_agent" none none
  match gate with
  | .error message => updateAgentError commandId message
  | .ok _ =>
    match validateUpdateAgentImage spec.image with
    | .error message => updateAgentError commandId message
    | .ok image =>
      let before ← getWorkload .daemonSet updateAgentNamespace updateAgentDaemonset
      match before with
      | .error e =>
        let shown := e.display
        updateAgentError commandId
          s!"failed to get target DaemonSet {updateAgentNamespace}/{updateAgentDaemonset}: {shown}"
      | .ok before =>
        match daemonsetContainerImage before updateAgentContainer with
        | .error message => updateAgentError commandId message
        | .ok beforeImage =>
          let warnings ← collectPreflightWarnings
            { workloadKind := "DaemonSet", namespace_ := updateAgentNamespace, name := updateAgentDaemonset,
              container := updateAgentContainer } (workloadPodLabels before)
          let patch := updateAgentPatch image
          let dryRun ← patchWorkload .daemonSet updateAgentNamespace updateAgentDaemonset true patch
          match dryRun with
          | .error e =>
            let shown := e.display
            updateAgentError commandId ("update_agent dry-run failed for target DaemonSet " ++
              s!"{updateAgentNamespace}/{updateAgentDaemonset}: {shown}")
          | .ok _ =>
            let after ← patchWorkload .daemonSet updateAgentNamespace updateAgentDaemonset false patch
            match after with
            | .error e =>
              let shown := e.display
              updateAgentError commandId
                s!"failed to patch target DaemonSet {updateAgentNamespace}/{updateAgentDaemonset}: {shown}"
            | .ok after =>
              match daemonsetContainerImage after updateAgentContainer with
              | .error message => updateAgentError commandId message
              | .ok afterImage =>
                let result ← simple commandId .ok
                  (some (s!"update_agent applied on {updateAgentNamespace}/{updateAgentDaemonset} " ++
                    s!"container {updateAgentContainer}: {beforeImage} -> {afterImage}"))
                return { result with
                  dryRun := some false
                  appliedPatch := some patch
                  observedBefore := some (.obj [("image", .str beforeImage)])
                  observedAfter := some (.obj [("image", .str afterImage)])
                  warnings := warnings }

/-! ## `diagnose_postgresql` -/

/-- `diagnostic_report_error`, without hints. -/
def diagnosticReportError (namespace_ message : String) : PostgresqlDiagnosticReport :=
  { namespace_, status := "unknown", summary := message
    findings := [⟨"PostgreSQL diagnosis failed", "unknown", message, message,
      "retry after the underlying collection or configuration issue is resolved"⟩]
    evidence := [], missingData := []
    recommendedActions := ["retry after resolving the underlying collection or configuration issue"] }

/-- `plugins::diagnose_postgresql`. -/
def pluginDiagnosePostgresql (env : Externals) (cfg : Config) (spec : PostgresqlDiagnosticSpec) :
    Exec PostgresqlDiagnosticReport :=
  if RustStr.trim spec.namespace_ = "" then return diagnosticReportError "" "namespace is required"
  else (env.diagnose cfg spec).lift ApiCall.read (fun _ answer => answer)

def diagnosePostgresql (env : Externals) (cfg : Config) (commandId : String) (spec : PostgresqlDiagnosticSpec) :
    Exec CommandResult := do
  let gate ← ensureEffectivePolicyAllows cfg spec.namespace_ "diagnose_postgresql" none none
  match gate with
  | .error message => commandError commandId .execute message
  | .ok _ =>
    let report ← pluginDiagnosePostgresql env cfg spec
    let result ← simple commandId .ok none
    return { result with diagnostic := some report }

/-! ## Dispatch -/

/-- One arm of the dispatch: the switch is read before the spec is parsed. -/
def dispatch {α : Type} (enabled : Bool) (off : String) (d : Decoder α) (cmd : Command)
    (handler : α → Exec CommandResult) : Exec CommandResult :=
  if !enabled then simple cmd.id .skipped (some off)
  else
    match parseSpec d cmd with
    | .ok spec => handler spec
    | .error e => specError cmd e

def actionsOff : String := "agent in read-only mode (ACTION_OPERATOR_ENABLED=false)"

def readonlyOff : String := "agent read-only commands disabled (POSTGRESQL_READONLY_COMMANDS_ENABLED=false)"

/-- `Executor::execute_inner`. -/
def executeInner (env : Externals) (fuel : Nat) (cfg : Config) (cmd : Command) : Exec CommandResult :=
  let actions := cfg.actionsEnabled
  match cmd.kind with
  | "get_resource_yaml" => dispatch true "" Decode.resourceYamlSpec cmd (getResourceYaml env cfg cmd.id)
  | "diagnose_postgresql" =>
    dispatch cfg.readonlyCommandsEnabled readonlyOff Decode.postgresqlDiagnosticSpec cmd
      (diagnosePostgresql env cfg cmd.id)
  | "preview_workload_resources" =>
    dispatch actions actionsOff Decode.workloadResourcesSpec cmd (previewWorkloadResources cfg cmd.id)
  | "apply_workload_resources" =>
    dispatch actions actionsOff Decode.workloadResourcesSpec cmd (applyWorkloadResources cfg cmd.id)
  | "rollout_restart" => dispatch actions actionsOff Decode.rolloutRestartSpec cmd (rolloutRestart fuel cfg cmd.id)
  | "scale" => dispatch actions actionsOff Decode.scaleSpec cmd (scaleWorkload cfg cmd.id)
  | "drain_node" => dispatch actions actionsOff Decode.drainNodeSpec cmd (drainNode fuel cfg cmd.id)
  | "self_update" => dispatch actions actionsOff Decode.selfUpdateSpec cmd (selfUpdate cfg cmd.id)
  | "update_agent" => dispatch actions actionsOff Decode.updateAgentSpec cmd (updateAgent cfg cmd.id)
  | other => simple cmd.id .unknown (some s!"unknown command kind: {other}")

end Executor
end HubAgent
