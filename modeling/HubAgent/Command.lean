import HubAgent.Json
/-!
# Commands, their specs and their results (`model.rs`)

A command names its kind in text and carries its spec as JSON; each kind's spec has its own decoder.  `scale` is
written in two shapes: the envelope with `target`, and the flat legacy one, tried in that order.
-/
namespace HubAgent

structure Command where
  id : String
  kind : String
  spec : Json := .null

inductive ExecutionMode where
  | preview
  | execute
  deriving DecidableEq, Repr

def ExecutionMode.text : ExecutionMode → String
  | .preview => "preview"
  | .execute => "execute"

structure ExecutionSpec where
  mode : ExecutionMode := .preview
  approvalId : Option String := none
  previewResourceVersion : Option String := none

structure WorkloadTargetRef where
  kind : String
  namespace_ : String
  name : String

structure RolloutRestartSpec where
  execution : ExecutionSpec
  target : WorkloadTargetRef

structure DrainNodeSpec where
  nodeName : String
  timeoutSeconds : Option Nat := none
  gracePeriodSeconds : Option Nat := none
  force : Bool := false

structure ScaleSpec where
  execution : ExecutionSpec
  target : WorkloadTargetRef
  replicas : Int

structure ResourceYamlSpec where
  apiVersion : String
  kind : String
  namespace_ : Option String := none
  name : String

structure PostgresqlDiagnosticSpec where
  namespace_ : String
  serviceName : Option String := none
  podSelector : Option String := none
  secretName : Option String := none

structure ResourceMap where
  cpu : Option String := none
  memory : Option String := none

structure WorkloadResourcesSpec where
  workloadKind : String
  namespace_ : String
  name : String
  container : String
  requests : Option ResourceMap := none
  limits : Option ResourceMap := none

structure SelfUpdateSpec where
  targetVersion : Option String := none
  reason : Option String := none
  strategy : Option String := none

structure UpdateAgentSpec where
  image : String

/-! ## Decoding a spec -/

namespace Decode

def executionMode : Decoder ExecutionMode
  | .str "preview" => .ok .preview
  | .str "execute" => .ok .execute
  | .str "apply" => .ok .execute
  | .str other => .error (.unknownVariant other "one of `preview`, `execute`, `apply`")
  | j => .error (.invalidType j.unexpected "preview, execute, or apply")

def executionSpec : Decoder ExecutionSpec := fun j => do
  let f ← fieldsOf "ExecutionSpec" ["mode", "approval_id", "preview_resource_version"] j
  let mode ← fieldOr f "mode" executionMode .preview
  let approvalId ← fieldOr f "approval_id" (option string) none
  let previewResourceVersion ← fieldOr f "preview_resource_version" (option string) none
  return ⟨mode, approvalId, previewResourceVersion⟩

def workloadTargetRef : Decoder WorkloadTargetRef := fun j => do
  let f ← fieldsOf "WorkloadTargetRef" ["kind", "namespace", "name"] j
  let kind ← field f "kind" string
  let namespace_ ← field f "namespace" string
  let name ← field f "name" string
  return ⟨kind, namespace_, name⟩

def rolloutRestartSpec : Decoder RolloutRestartSpec := fun j => do
  let f ← fieldsOf "RolloutRestartSpec" ["execution", "target"] j
  let execution ← field f "execution" executionSpec
  let target ← field f "target" workloadTargetRef
  return ⟨execution, target⟩

def drainNodeSpec : Decoder DrainNodeSpec := fun j => do
  let f ← fieldsOf "DrainNodeSpec" ["nodeName", "timeoutSeconds", "gracePeriodSeconds", "force"] j
  let nodeName ← field f "nodeName" string
  let timeoutSeconds ← fieldOr f "timeoutSeconds" (option u64) none
  let gracePeriodSeconds ← fieldOr f "gracePeriodSeconds" (option u64) none
  let force ← fieldOr f "force" bool false
  return ⟨nodeName, timeoutSeconds, gracePeriodSeconds, force⟩

/-- `ScaleSpecNested`. -/
def scaleSpecNested : Decoder ScaleSpec := fun j => do
  let f ← fieldsOf "ScaleSpecNested" ["execution", "target", "replicas"] j
  let execution ← fieldOr f "execution" executionSpec {}
  let target ← field f "target" workloadTargetRef
  let replicas ← field f "replicas" i32
  return ⟨execution, target, replicas⟩

def defaultExecuteExecutionSpec : ExecutionSpec := { mode := .execute }

/-- `ScaleSpecLegacy`, without an envelope executed at once. -/
def scaleSpecLegacy : Decoder ScaleSpec := fun j => do
  let f ← fieldsOf "ScaleSpecLegacy" ["execution", "kind", "namespace", "name", "replicas"] j
  let execution ← fieldOr f "execution" (option executionSpec) none
  let kind ← field f "kind" string
  let namespace_ ← field f "namespace" string
  let name ← field f "name" string
  let replicas ← field f "replicas" i32
  return ⟨execution.getD defaultExecuteExecutionSpec, ⟨kind, namespace_, name⟩, replicas⟩

/-- The untagged `Repr`: the first variant that decodes. -/
def scaleSpec : Decoder ScaleSpec := fun j =>
  match scaleSpecNested j with
  | .ok spec => .ok spec
  | .error _ =>
    match scaleSpecLegacy j with
    | .ok spec => .ok spec
    | .error _ => .error (.noVariant "Repr")

def resourceYamlSpec : Decoder ResourceYamlSpec := fun j => do
  let f ← fieldsOf "ResourceYamlSpec" ["apiVersion", "kind", "namespace", "name"] j
  let apiVersion ← field f "apiVersion" string
  let kind ← field f "kind" string
  let namespace_ ← fieldOr f "namespace" (option string) none
  let name ← field f "name" string
  return ⟨apiVersion, kind, namespace_, name⟩

def postgresqlDiagnosticSpec : Decoder PostgresqlDiagnosticSpec := fun j => do
  let f ← fieldsOf "PostgresqlDiagnosticSpec" ["namespace", "service_name", "pod_selector", "secret_name"] j
  let namespace_ ← field f "namespace" string
  let serviceName ← fieldOr f "service_name" (option string) none
  let podSelector ← fieldOr f "pod_selector" (option string) none
  let secretName ← fieldOr f "secret_name" (option string) none
  return ⟨namespace_, serviceName, podSelector, secretName⟩

def resourceMap : Decoder ResourceMap := fun j => do
  let f ← fieldsOf "ResourceMap" ["cpu", "memory"] j
  let cpu ← fieldOr f "cpu" (option string) none
  let memory ← fieldOr f "memory" (option string) none
  return ⟨cpu, memory⟩

def workloadResourcesSpec : Decoder WorkloadResourcesSpec := fun j => do
  let f ← fieldsOf "WorkloadResourcesSpec"
    ["workload_kind", "namespace", "name", "container", "requests", "limits"] j
  let workloadKind ← field f "workload_kind" string
  let namespace_ ← field f "namespace" string
  let name ← field f "name" string
  let container ← field f "container" string
  let requests ← fieldOr f "requests" (option resourceMap) none
  let limits ← fieldOr f "limits" (option resourceMap) none
  return ⟨workloadKind, namespace_, name, container, requests, limits⟩

def selfUpdateSpec : Decoder SelfUpdateSpec := fun j => do
  let f ← fieldsOf "SelfUpdateSpec" ["target_version", "reason", "strategy"] j
  let targetVersion ← fieldOr f "target_version" (option string) none
  let reason ← fieldOr f "reason" (option string) none
  let strategy ← fieldOr f "strategy" (option string) none
  return ⟨targetVersion, reason, strategy⟩

def updateAgentSpec : Decoder UpdateAgentSpec := fun j => do
  let f ← fieldsOf "UpdateAgentSpec" ["image"] j
  let image ← field f "image" string
  return ⟨image⟩

end Decode

def parseSpec {α : Type} (d : Decoder α) (cmd : Command) : Except String α :=
  match d cmd.spec with
  | .ok spec => .ok spec
  | .error e => .error s!"invalid spec for kind {cmd.kind}: {e.describe}"

/-! ## Results -/

inductive ResultStatus where
  | ok
  | error
  | skipped
  | unknown
  deriving DecidableEq, Repr

structure ActionVerification where
  status : String
  message : Option String
  observedState : Option Json

structure ResourceYamlMetadata where
  apiVersion : String
  kind : String
  namespace_ : Option String
  name : String
  resourceVersion : Option String

structure ResourceYamlResult where
  clusterId : String
  resource : ResourceYamlMetadata
  format : String
  mode : String
  content : String
  fetchedAt : String
  warnings : List String

structure PostgresqlDiagnosticFinding where
  title : String
  severity : String
  description : String
  evidence : String
  recommendation : String

structure TitledValue where
  title : String
  value : String

structure PostgresqlDiagnosticReport where
  namespace_ : String
  status : String
  summary : String
  findings : List PostgresqlDiagnosticFinding
  evidence : List TitledValue
  missingData : List TitledValue
  recommendedActions : List String

structure CommandResult where
  commandId : String
  status : ResultStatus
  message : Option String
  finishedAtMs : Nat
  dryRun : Option Bool := none
  appliedPatch : Option Json := none
  observedBefore : Option Json := none
  observedAfter : Option Json := none
  warnings : List String := []
  diagnostic : Option PostgresqlDiagnosticReport := none
  restartRequested : Option Bool := none
  requestedState : Option Json := none
  verification : Option ActionVerification := none
  resourceYaml : Option ResourceYamlResult := none

end HubAgent
