import Mathlib.Algebra.GroupWithZero.Nat
import HubAgent.Collector
import HubAgent.ConfigReaders
/-!
# The configuration from the environment (`config.rs`)

`fromEnvForMode` reads each variable once with the parser of its kind, and `agentRuntimeEnv` reports the variables of
the allowlist back from the configuration that came of it.  The parsers take the value of a variable, if it is set.
`serde_yaml` is a parameter.
-/
namespace HubAgent

open Collector (KV boolString agentConfigEnvAllowlist)

/-- `serde_yaml` on lists of strings. -/
structure SerdeYaml where
  fromStr : String → Option (List String)
  write : List String → Option String

/-- The fields of `Config` that only its report reads, next to the others. -/
structure AgentConfig extends Config where
  agentVersionOverride : Option String
  collectInterval : Duration
  actionOperatorEnabled : Bool
  collectDependenciesTetragon : Bool
  tetragonEndpointDiscoveryEnabled : Bool
  tetragonGrpcAddress : String
  tetragonGrpcPort : Nat
  tetragonServiceNamespace : String
  tetragonServiceName : String
  httpTimeout : Duration
  httpDebug : Bool
  agentLog : String
  techDetectProcess : Bool
  leaseName : String
  leaseTtl : Duration
  workloadMonitoringEnabled : Bool
  workloadMonitoringNamespaces : List String
  workloadMonitoringTargets : List String
  postgresqlMonitoringEnabled : Bool
  postgresqlMonitoringNamespaces : List String
  postgresqlMonitoringSecretName : Option String
  postgresqlMonitoringHost : Option String
  postgresqlMonitoringPort : Option Nat
  postgresqlMonitoringUser : Option String
  postgresqlMonitoringDatabase : Option String
  postgresqlMonitoringSslmode : Option String
  appMetricsEnabled : Bool
  appMetricsDiscoveryEnabled : Bool
  appMetricsNamespaces : List String
  appMetricsAllowlist : List String
  appMetricsTimeout : Duration
  appMetricsMaxSamples : Nat

/-! ## The parsers -/

instance neZero_u16 : NeZero 65536 := ⟨by decide⟩

/-- `str::parse` at an unsigned type with the maximum `hi`. -/
def parseBounded (hi : Nat) (text : List Char) : Option (Fin (hi + 1)) :=
  match h : RustStr.parseUnsigned hi text with
  | .ok n => some ⟨n, Nat.lt_succ_of_le (RustStr.parseUnsigned_ok h).1⟩
  | .error _ => none

def parseU64 (text : List Char) : Option (Fin 18446744073709551616) := parseBounded 18446744073709551615 text

def parseU16 (text : List Char) : Option (Fin 65536) := parseBounded 65535 text

def parseSecs (value : Option String) (default : Fin 18446744073709551616) : Duration :=
  .fromSecs ((value.bind (fun v => parseU64 v.toList)).getD default)

def parseCsvEnv (value : Option String) : List String := (value.map parseCsvValues).getD []

def parseCsvEnvOr (value : Option String) (default : List String) : List String :=
  let parsed := parseCsvEnv value
  if parsed = [] then default else parsed

def yamlListString (yaml : SerdeYaml) (values : List String) : String :=
  if values = [] then ""
  else
    match yaml.write values with
    | some text => RustStr.trimEnd text
    | none => ",".intercalate values

def parseU16Env (value : Option String) : Option (Fin 65536) := value.bind (fun v => parseU16 (RustStr.trim v).toList)

def parseU64Env (value : Option String) : Option (Fin 18446744073709551616) :=
  value.bind (fun v => parseU64 (RustStr.trim v).toList)

def envFlagWithDefault (value : Option String) (default : Bool) : Bool :=
  match value with
  | some v => v == "true" || v == "1"
  | none => default

def parseNonEmptyEnv (value : Option String) : Option String :=
  ((value.map RustStr.trim).filter (· ≠ "")).filter (fun v => v.utf8ByteSize ≤ 128)

/-! ## The configuration -/

inductive RuntimeMode where
  | agent
  | operator

def defaultGrpcAddress : String := "tetragon-grpc.tetragon.svc.cluster.local:54321"

def defaultMonitoringTargets : List String := ["angular", "spring_boot", "oracle_database"]

def defaultMetricsAllowlist : List String :=
  ["demo_usuarios_activos", "demo_cola_tramites_pendientes", "demo_operaciones_negocio_total",
    "demo_lecturas_bd_total", "demo_escrituras_bd_total", "http_server_requests_seconds_*", "jvm_memory_used_bytes",
    "jvm_gc_pause_seconds_*", "process_cpu_usage", "system_cpu_usage", "hikaricp_connections_*",
    "jdbc_connections_*", "tomcat_threads_*", "tomcat_sessions_active_current"]

def requiredVar (mode : RuntimeMode) (env : StrMap String) (key : String) : Except String String :=
  match mode, env.lookup key with
  | _, some v => .ok v
  | .agent, none => .error s!"{key} not set"
  | .operator, none => .ok ""

def configFrom (yaml : SerdeYaml) (env : StrMap String) (hubUrl clusterId : String) : AgentConfig where
  clusterId := clusterId
  actionsEnabled := envFlag (env.lookup "ACTION_OPERATOR_ENABLED")
  readonlyCommandsEnabled := envFlag (env.lookup "POSTGRESQL_READONLY_COMMANDS_ENABLED")
  actionOperatorPollInterval := parseSecs (env.lookup "ACTION_OPERATOR_POLL_INTERVAL_SECS") 60
  actionOperatorExcludedNamespaces :=
    parseYamlListEnv yaml.fromStr (env.lookup "ACTION_OPERATOR_EXCLUDED_NAMESPACES")
  hubUrl := String.ofList (RustStr.trimEndMatches ['/'] hubUrl.toList)
  pollWait := parseSecs (env.lookup "POLL_WAIT_SECS") 30
  httpDebugBodies := envFlag (env.lookup "FULL_DEBUG") || envFlag (env.lookup "AGENT_HTTP_DEBUG_BODIES")
  fullDebug := envFlag (env.lookup "FULL_DEBUG")
  collectSecrets := envFlag (env.lookup "COLLECT_SECRETS")
  agentVersionOverride := parseNonEmptyEnv (env.lookup "AGENT_VERSION_OVERRIDE")
  collectInterval := parseSecs (env.lookup "COLLECT_INTERVAL_SECS") 60
  actionOperatorEnabled := envFlag (env.lookup "ACTION_OPERATOR_ENABLED")
  collectDependenciesTetragon := envFlag (env.lookup "COLLECT_DEPENDENCIES_TETRAGON")
  tetragonEndpointDiscoveryEnabled := envFlagWithDefault (env.lookup "TETRAGON_ENDPOINT_DISCOVERY_ENABLED") true
  tetragonGrpcAddress := (env.lookup "TETRAGON_GRPC_ADDRESS").getD defaultGrpcAddress
  tetragonGrpcPort := (parseU16Env (env.lookup "TETRAGON_GRPC_PORT")).getD 54321
  tetragonServiceNamespace := (env.lookup "TETRAGON_SERVICE_NAMESPACE").getD "tetragon"
  tetragonServiceName := (env.lookup "TETRAGON_SERVICE_NAME").getD "tetragon-grpc"
  httpTimeout := parseSecs (env.lookup "HTTP_TIMEOUT_SECS") 20
  httpDebug := envFlag (env.lookup "FULL_DEBUG") || envFlag (env.lookup "AGENT_HTTP_DEBUG")
  agentLog := (((env.lookup "AGENT_LOG").map RustStr.trim).filter (· ≠ "")).getD "info"
  techDetectProcess := envFlag (env.lookup "TECH_DETECT_PROCESS")
  leaseName := (env.lookup "LEASE_NAME").getD "sentinella-hub-k8s-agent-leader"
  leaseTtl := parseSecs (env.lookup "LEASE_TTL_SECS") 30
  workloadMonitoringEnabled := envFlag (env.lookup "WORKLOAD_MONITORING_ENABLED")
  workloadMonitoringNamespaces := parseCsvEnv (env.lookup "WORKLOAD_MONITORING_NAMESPACES")
  workloadMonitoringTargets := parseCsvEnvOr (env.lookup "WORKLOAD_MONITORING_TARGETS") defaultMonitoringTargets
  postgresqlMonitoringEnabled := envFlag (env.lookup "POSTGRESQL_MONITORING_ENABLED")
  postgresqlMonitoringNamespaces := parseCsvEnv (env.lookup "POSTGRESQL_MONITORING_NAMESPACES")
  postgresqlMonitoringSecretName := parseNonEmptyEnv (env.lookup "POSTGRESQL_MONITORING_SECRET_NAME")
  postgresqlMonitoringHost := parseNonEmptyEnv (env.lookup "POSTGRESQL_MONITORING_HOST")
  postgresqlMonitoringPort := (parseU16Env (env.lookup "POSTGRESQL_MONITORING_PORT")).map Fin.val
  postgresqlMonitoringUser := parseNonEmptyEnv (env.lookup "POSTGRESQL_MONITORING_USER")
  postgresqlMonitoringDatabase := parseNonEmptyEnv (env.lookup "POSTGRESQL_MONITORING_DATABASE")
  postgresqlMonitoringSslmode := parseNonEmptyEnv (env.lookup "POSTGRESQL_MONITORING_SSLMODE")
  appMetricsEnabled := envFlag (env.lookup "APP_METRICS_ENABLED")
  appMetricsDiscoveryEnabled := envFlagWithDefault (env.lookup "APP_METRICS_DISCOVERY_ENABLED") true
  appMetricsNamespaces := parseCsvEnv (env.lookup "APP_METRICS_NAMESPACES")
  appMetricsAllowlist := parseCsvEnvOr (env.lookup "APP_METRICS_ALLOWLIST") defaultMetricsAllowlist
  appMetricsTimeout := .fromSecs ((parseU64Env (env.lookup "APP_METRICS_TIMEOUT_SECS")).getD 3)
  appMetricsMaxSamples := (parseU64Env (env.lookup "APP_METRICS_MAX_SAMPLES")).getD 500

def fromEnvForMode (yaml : SerdeYaml) (mode : RuntimeMode) (env : StrMap String) : Except String AgentConfig := do
  let hubUrl ← requiredVar mode env "HUB_URL"
  let clusterId ← requiredVar mode env "CLUSTER_ID"
  return configFrom yaml env hubUrl clusterId

def fromEnv (yaml : SerdeYaml) (env : StrMap String) : Except String AgentConfig := fromEnvForMode yaml .agent env

/-! ## The report -/

def runtimeEnvValue (yaml : SerdeYaml) (cfg : AgentConfig) (key : String) : Option String :=
  match key with
  | "ACTION_OPERATOR_ENABLED" => some (boolString cfg.actionOperatorEnabled)
  | "ACTION_OPERATOR_POLL_INTERVAL_SECS" => some cfg.actionOperatorPollInterval.secs.repr
  | "ACTION_OPERATOR_EXCLUDED_NAMESPACES" => some (yamlListString yaml cfg.actionOperatorExcludedNamespaces)
  | "POSTGRESQL_READONLY_COMMANDS_ENABLED" => some (boolString cfg.readonlyCommandsEnabled)
  | "AGENT_HTTP_DEBUG" => some (boolString cfg.httpDebug)
  | "AGENT_HTTP_DEBUG_BODIES" => some (boolString cfg.httpDebugBodies)
  | "AGENT_LOG" => some cfg.agentLog
  | "AGENT_VERSION_OVERRIDE" => cfg.agentVersionOverride
  | "CLUSTER_ID" => some cfg.clusterId
  | "COLLECT_DEPENDENCIES_TETRAGON" => some (boolString cfg.collectDependenciesTetragon)
  | "TETRAGON_ENDPOINT_DISCOVERY_ENABLED" => some (boolString cfg.tetragonEndpointDiscoveryEnabled)
  | "COLLECT_INTERVAL_SECS" => some cfg.collectInterval.secs.repr
  | "COLLECT_SECRETS" => some (boolString cfg.collectSecrets)
  | "FULL_DEBUG" => some (boolString cfg.fullDebug)
  | "HTTP_TIMEOUT_SECS" => some cfg.httpTimeout.secs.repr
  | "HUB_URL" => some cfg.hubUrl
  | "LEASE_NAME" => some cfg.leaseName
  | "LEASE_TTL_SECS" => some cfg.leaseTtl.secs.repr
  | "POLL_WAIT_SECS" => some cfg.pollWait.secs.repr
  | "POSTGRESQL_MONITORING_DATABASE" => cfg.postgresqlMonitoringDatabase
  | "TETRAGON_GRPC_ADDRESS" => some cfg.tetragonGrpcAddress
  | "TETRAGON_GRPC_PORT" => some cfg.tetragonGrpcPort.repr
  | "TETRAGON_SERVICE_NAME" => some cfg.tetragonServiceName
  | "TETRAGON_SERVICE_NAMESPACE" => some cfg.tetragonServiceNamespace
  | "TECH_DETECT_PROCESS" => some (boolString cfg.techDetectProcess)
  | "POSTGRESQL_MONITORING_HOST" => cfg.postgresqlMonitoringHost
  | "POSTGRESQL_MONITORING_PORT" => cfg.postgresqlMonitoringPort.map Nat.repr
  | "POSTGRESQL_MONITORING_ENABLED" => some (boolString cfg.postgresqlMonitoringEnabled)
  | "POSTGRESQL_MONITORING_SECRET_NAME" => cfg.postgresqlMonitoringSecretName
  | "POSTGRESQL_MONITORING_NAMESPACES" => some (",".intercalate cfg.postgresqlMonitoringNamespaces)
  | "POSTGRESQL_MONITORING_SSLMODE" => cfg.postgresqlMonitoringSslmode
  | "POSTGRESQL_MONITORING_USER" => cfg.postgresqlMonitoringUser
  | "APP_METRICS_ENABLED" => some (boolString cfg.appMetricsEnabled)
  | "APP_METRICS_DISCOVERY_ENABLED" => some (boolString cfg.appMetricsDiscoveryEnabled)
  | "APP_METRICS_NAMESPACES" => some (",".intercalate cfg.appMetricsNamespaces)
  | "APP_METRICS_ALLOWLIST" => some (",".intercalate cfg.appMetricsAllowlist)
  | "APP_METRICS_TIMEOUT_SECS" => some cfg.appMetricsTimeout.secs.repr
  | "APP_METRICS_MAX_SAMPLES" => some cfg.appMetricsMaxSamples.repr
  | "WORKLOAD_MONITORING_ENABLED" => some (boolString cfg.workloadMonitoringEnabled)
  | "WORKLOAD_MONITORING_NAMESPACES" => some (",".intercalate cfg.workloadMonitoringNamespaces)
  | "WORKLOAD_MONITORING_TARGETS" => some (",".intercalate cfg.workloadMonitoringTargets)
  | _ => none

def agentRuntimeEnv (yaml : SerdeYaml) (cfg : AgentConfig) : List KV :=
  agentConfigEnvAllowlist.filterMap (fun key => (runtimeEnvValue yaml cfg key).map (fun value => ⟨key, value⟩))

end HubAgent
