import Mathlib.Data.String.Basic
import HubAgent.Lib.KeyOrder
import HubAgent.Config
import HubAgent.Kube
/-!
# The configuration inventory (`collector.rs`)

ConfigMaps and Secrets are listed, sorted and mapped to what the snapshot shows of them: names, labels, annotations and
the keys of their data.  From the agent's own ConfigMaps the values of the listed variables are shown too.  A list that
fails counts as empty.
-/
namespace HubAgent
namespace Collector

/-! ## What the snapshot shows -/

structure KV where
  key : String
  value : String
  deriving DecidableEq

structure ConfigMapInfo where
  namespace_ : String
  name : String
  immutable : Option Bool
  labels : List KV
  annotations : List KV
  dataKeys : List String
  binaryDataKeys : List String
  deriving DecidableEq

structure SecretInfo where
  namespace_ : String
  name : String
  type_ : Option String
  immutable : Option Bool
  labels : List KV
  annotations : List KV
  dataKeys : List String
  deriving DecidableEq

structure ConfigurationInventory where
  configmaps : List ConfigMapInfo
  secrets : List SecretInfo
  agentRuntimeEnv : List KV
  agentConfiguredEnv : List KV
  deriving DecidableEq

/-! ## Metadata -/

def metadataAnnotationDenylistExact : List String := []
def metadataAnnotationDenylistPrefix : List String := []

/-- On the entries in the order of the map. -/
def sanitizeMetadataMap (entries : List (String × String)) : List (String × String) :=
  (entries.filter (fun e => !metadataAnnotationDenylistExact.contains e.1)).filter
    (fun e => !metadataAnnotationDenylistPrefix.any (fun p => p.toList.isPrefixOf e.1.toList))

def mapMetadataPairs (map : StrMap String) : List KV :=
  (sanitizeMetadataMap (KeyOrder.inOrder map)).map (fun e => ⟨e.1, e.2⟩)

def mapDataKeys {α : Type} (map : StrMap α) : List String := KeyOrder.keysInOrder map

def mapConfigmap (cm : ConfigMap) : ConfigMapInfo where
  namespace_ := cm.metadata.namespace_.getD ""
  name := cm.metadata.name.getD ""
  immutable := cm.immutable
  labels := mapMetadataPairs (cm.metadata.labels.getD ∅)
  annotations := mapMetadataPairs (cm.metadata.annotations.getD ∅)
  dataKeys := mapDataKeys (cm.data.getD ∅)
  binaryDataKeys := mapDataKeys (cm.binaryData.getD ∅)

def mapSecret (secret : Secret) : SecretInfo where
  namespace_ := secret.metadata.namespace_.getD ""
  name := secret.metadata.name.getD ""
  type_ := secret.type_
  immutable := secret.immutable
  labels := mapMetadataPairs (secret.metadata.labels.getD ∅)
  annotations := mapMetadataPairs (secret.metadata.annotations.getD ∅)
  dataKeys := mapDataKeys (secret.data.getD ∅)

/-! ## The agent's own configuration (`config.rs`) -/

def agentConfigEnvAllowlist : List String :=
  ["ACTION_OPERATOR_ENABLED", "ACTION_OPERATOR_POLL_INTERVAL_SECS", "ACTION_OPERATOR_EXCLUDED_NAMESPACES",
    "AGENT_HTTP_DEBUG", "AGENT_HTTP_DEBUG_BODIES", "AGENT_LOG", "AGENT_VERSION_OVERRIDE", "CLUSTER_ID",
    "COLLECT_DEPENDENCIES_TETRAGON", "COLLECT_INTERVAL_SECS", "COLLECT_SECRETS", "FULL_DEBUG", "HTTP_TIMEOUT_SECS",
    "HUB_URL", "LEASE_NAME", "LEASE_TTL_SECS", "POLL_WAIT_SECS", "POSTGRESQL_READONLY_COMMANDS_ENABLED",
    "POSTGRESQL_MONITORING_DATABASE", "POSTGRESQL_MONITORING_ENABLED", "POSTGRESQL_MONITORING_HOST",
    "POSTGRESQL_MONITORING_PORT", "POSTGRESQL_MONITORING_SECRET_NAME", "POSTGRESQL_MONITORING_NAMESPACES",
    "POSTGRESQL_MONITORING_SSLMODE", "POSTGRESQL_MONITORING_USER", "APP_METRICS_ENABLED",
    "APP_METRICS_DISCOVERY_ENABLED", "APP_METRICS_NAMESPACES", "APP_METRICS_ALLOWLIST", "APP_METRICS_TIMEOUT_SECS",
    "APP_METRICS_MAX_SAMPLES", "TETRAGON_ENDPOINT_DISCOVERY_ENABLED", "TETRAGON_GRPC_ADDRESS", "TETRAGON_GRPC_PORT",
    "TETRAGON_SERVICE_NAME", "TETRAGON_SERVICE_NAMESPACE", "TECH_DETECT_PROCESS", "WORKLOAD_MONITORING_ENABLED",
    "WORKLOAD_MONITORING_NAMESPACES", "WORKLOAD_MONITORING_TARGETS"]

def boolString (value : Bool) : String := if value then "true" else "false"

def parseNonEmptyValue (value : String) : Option String :=
  let trimmed := RustStr.trim value
  if trimmed = "" ∨ trimmed.utf8ByteSize > 128 then none else some trimmed

/-- A number up to `hi` in its decimal text, and any other text as it is. -/
def numberOrText (hi : Nat) (trimmed : String) : String :=
  match RustStr.parseUnsigned hi trimmed.toList with
  | .ok n => n.repr
  | .error _ => trimmed

def configuredEnvValue (key value : String) : Option String :=
  let trimmed := RustStr.trim value
  if key ∈ ["ACTION_OPERATOR_ENABLED", "ACTION_OPERATOR_EXCLUDED_NAMESPACES", "AGENT_HTTP_DEBUG",
      "AGENT_HTTP_DEBUG_BODIES", "COLLECT_DEPENDENCIES_TETRAGON", "TETRAGON_ENDPOINT_DISCOVERY_ENABLED",
      "COLLECT_SECRETS", "FULL_DEBUG", "POSTGRESQL_READONLY_COMMANDS_ENABLED", "POSTGRESQL_MONITORING_ENABLED",
      "APP_METRICS_ENABLED", "APP_METRICS_DISCOVERY_ENABLED", "TECH_DETECT_PROCESS"] then
    some (boolString (trimmed == "true" || trimmed == "1"))
  else if key = "AGENT_LOG" then some (if trimmed = "" then "info" else trimmed)
  else if key = "AGENT_VERSION_OVERRIDE" then parseNonEmptyValue trimmed
  else if key ∈ ["POSTGRESQL_MONITORING_NAMESPACES", "APP_METRICS_NAMESPACES", "WORKLOAD_MONITORING_NAMESPACES"] then
    some trimmed
  else if key ∈ ["COLLECT_INTERVAL_SECS", "ACTION_OPERATOR_POLL_INTERVAL_SECS", "HTTP_TIMEOUT_SECS", "LEASE_TTL_SECS",
      "POLL_WAIT_SECS", "TETRAGON_GRPC_PORT"] then
    some (numberOrText 65535 trimmed)
  else if key ∈ ["APP_METRICS_TIMEOUT_SECS", "APP_METRICS_MAX_SAMPLES"] then
    some (numberOrText 18446744073709551615 trimmed)
  else if key = "POSTGRESQL_MONITORING_PORT" then some (numberOrText 65535 trimmed)
  else if key ∈ ["POSTGRESQL_MONITORING_DATABASE", "POSTGRESQL_MONITORING_HOST", "POSTGRESQL_MONITORING_SECRET_NAME",
      "POSTGRESQL_MONITORING_SSLMODE", "POSTGRESQL_MONITORING_USER"] then
    parseNonEmptyValue trimmed
  else if key = "HUB_URL" then some (String.ofList (RustStr.trimEndMatches ['/'] trimmed.toList))
  else some trimmed

def agentConfiguredEnv (values : StrMap String) : List KV :=
  agentConfigEnvAllowlist.filterMap (fun key =>
    (values.lookup key).bind (fun value => (configuredEnvValue key value).map (fun value => ⟨key, value⟩)))

def agentConfigmapName : String := "sentinella-hub-k8s-agent-config"
def appMetricsConfigmapName : String := "sentinella-hub-app-metrics-config"
def workloadMonitoringConfigmapName : String := "sentinella-hub-workload-monitoring-config"

/-- A later map goes over an earlier one. -/
def collectAgentConfiguredEnv (configmaps : List ConfigMap) : List KV :=
  agentConfiguredEnv
    ([agentConfigmapName, appMetricsConfigmapName, workloadMonitoringConfigmapName].foldl
      (fun values name =>
        match (configmaps.find? (fun cm => cm.metadata.name == some name)).bind (·.data) with
        | some data => data ∪ values
        | none => values) ∅)

/-! ## The collection -/

structure Listing where
  configmaps : Except String (List ConfigMap)
  secrets : Except String (List Secret)

def softUnwrap {α : Type} (r : Except String (List α)) : List α :=
  match r with
  | .ok l => l
  | .error _ => []

/-- By namespace and then by name. -/
def SnapshotLe (a b : ObjectMeta) : Prop :=
  a.namespace_.getD "" < b.namespace_.getD "" ∨
    a.namespace_.getD "" = b.namespace_.getD "" ∧ a.name.getD "" ≤ b.name.getD ""

instance (a b : ObjectMeta) : Decidable (SnapshotLe a b) := inferInstanceAs (Decidable (_ ∨ _ ∧ _))

def sortConfigmapsForSnapshot (configmaps : List ConfigMap) : List ConfigMap :=
  configmaps.insertionSort (fun a b => SnapshotLe a.metadata b.metadata)

def sortSecretsForSnapshot (secrets : List Secret) : List Secret :=
  secrets.insertionSort (fun a b => SnapshotLe a.metadata b.metadata)

/-- The part of `collect` that builds the configuration inventory. -/
def collectConfiguration (cfg : Config) (listing : Listing) : ConfigurationInventory :=
  let configmaps := sortConfigmapsForSnapshot (softUnwrap listing.configmaps)
  let secrets := sortSecretsForSnapshot (softUnwrap (if cfg.collectSecrets then listing.secrets else .ok []))
  { configmaps := configmaps.map mapConfigmap
    secrets := if cfg.collectSecrets then secrets.map mapSecret else []
    agentRuntimeEnv := []
    agentConfiguredEnv := collectAgentConfiguredEnv configmaps }

end Collector
end HubAgent
