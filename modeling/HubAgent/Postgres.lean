import HubAgent.Lib.Interaction
import HubAgent.Command
import HubAgent.Inventory
/-!
# The PostgreSQL monitoring plugin (`plugins/mod.rs`)

The plugin filters the inventory to what looks like PostgreSQL in the allowlisted namespaces, probes the one service
that clearly is one, and derives a status from what it found.  The probe is a call of its program, so every run shows
which service was probed and what came back.
-/
namespace HubAgent

/-- What `collect` lists, of which the plugin takes these. -/
structure Inventory where
  workloads : Workloads := {}
  pods : List PodInfo := []
  services : List ServiceInfo := []
  persistentVolumeClaims : List PersistentVolumeClaimInfo := []
  events : List EventInfo := []

/-- The settings of the plugin (`config.rs`). -/
structure PostgresqlConfig where
  enabled : Bool := false
  namespaces : List String := []
  secretName : Option String := none
  host : Option String := none
  port : Option Nat := none
  user : Option String := none
  password : Option String := none
  database : Option String := none
  sslmode : Option String := none
  sslrootcert : Option String := none

structure PostgresqlMonitoringPlugin where
  enabled : Bool
  namespaces : List String
  schemaVersion : Nat
  generatedAtMs : Nat
  status : String
  summary : String
  detail : List TitledValue
  evidence : List TitledValue
  missingData : List TitledValue

namespace Plugins

open Interaction (Prog)

/-! ## What looks like PostgreSQL -/

def toAsciiLowercase (value : String) : List Char := value.toList.map Char.toLower

def matchesPostgresqlName (value : String) : Bool :=
  let value := toAsciiLowercase value
  decide ("postgres".toList <:+: value) || decide ("postgresql".toList <:+: value) || decide ("pgsql".toList <:+: value)

/-- No letter or digit stands there. -/
def isBoundary (c : Option Char) : Bool := (c.map (fun c => !c.isAlphanum)).getD true

/-- The loop of `contains_token`, from an offset on: `before` is the text in front of it. -/
def containsTokenFrom (needle : List Char) : Nat → List Char → List Char → Bool
  | 0, _, _ => false
  | fuel + 1, before, rest =>
    match RustStr.splitOnceStr needle rest with
    | none => false
    | some (gap, after) =>
      if isBoundary (before ++ gap).getLast? && isBoundary after.head? then true
      else containsTokenFrom needle fuel (before ++ gap ++ needle) after

/-- Every turn of the loop takes the needle off the text, so there are no more turns than letters. -/
def containsToken (value needle : String) : Bool :=
  let lower := toAsciiLowercase value
  containsTokenFrom needle.toList (lower.length + 1) [] lower

def matchesClearPostgresqlName (value : String) : Bool :=
  ["postgresql", "postgres", "pgsql"].any (containsToken value)

def matchesOptional (value : Option String) : Bool := (value.map matchesPostgresqlName).getD false

def matchesPostgresqlPod (pod : PodInfo) : Bool :=
  matchesPostgresqlName pod.name || matchesOptional pod.ownerName ||
    pod.containers.any (fun container =>
      matchesPostgresqlName container.image || matchesPostgresqlName (container.technology.product.getD "") ||
        matchesPostgresqlName (container.technology.subtype.getD ""))

def isPostgresqlPort (port : ServicePortInfo) : Bool := port.port == 5432 || port.targetPort == some "5432"

def matchesPostgresqlService (service : ServiceInfo) : Bool :=
  matchesPostgresqlName service.name ||
    service.selector.any (fun kv => matchesPostgresqlName kv.key || matchesPostgresqlName kv.value) ||
    service.ports.any isPostgresqlPort

def matchesPostgresqlPvc (pvc : PersistentVolumeClaimInfo) : Bool :=
  matchesPostgresqlName pvc.name || matchesOptional pvc.volumeName || matchesOptional pvc.storageClass

def matchesPostgresqlEvent (event : EventInfo) : Bool :=
  matchesPostgresqlName event.name || matchesOptional event.reason || matchesOptional event.message ||
    matchesOptional event.involvedObject.name

def isClearPostgresqlService (service : ServiceInfo) : Bool :=
  let nameOrSelector := matchesClearPostgresqlName service.name ||
    service.selector.any (fun kv => matchesClearPostgresqlName kv.key || matchesClearPostgresqlName kv.value)
  let hasPostgresqlPort := service.ports.any isPostgresqlPort
  nameOrSelector && hasPostgresqlPort

def pvcMatchReason (pvc : PersistentVolumeClaimInfo) : String :=
  let reasons := (if matchesPostgresqlName pvc.name then ["name"] else []) ++
    (if matchesOptional pvc.volumeName then ["volume_name"] else []) ++
    (if matchesOptional pvc.storageClass then ["storage_class"] else [])
  if reasons.isEmpty then "unknown" else ",".intercalate reasons

/-! ## What is found -/

inductive PostgresqlProbeResult where
  | connected (host : String) (port latencyMs : Nat)
  | failed (host : String) (port : Nat) (classification : String)

def PostgresqlProbeResult.isConnected : PostgresqlProbeResult → Bool
  | connected _ _ _ => true
  | failed _ _ _ => false

def filterWorkloads (items : List WorkloadRef) (allow : List String) : List WorkloadRef :=
  items.filter (fun workload => allow.contains workload.namespace_)

/-- The `filtered_*` collections. -/
structure Found where
  deployments : List WorkloadRef
  statefulsets : List WorkloadRef
  daemonsets : List WorkloadRef
  pods : List PodInfo
  services : List ServiceInfo
  pvcs : List PersistentVolumeClaimInfo
  events : List EventInfo

def findPostgresql (allow : List String) (inventory : Inventory) : Found where
  deployments := (filterWorkloads inventory.workloads.deployments allow).filter (fun w => matchesPostgresqlName w.name)
  statefulsets := (filterWorkloads inventory.workloads.statefulsets allow).filter (fun w => matchesPostgresqlName w.name)
  daemonsets := (filterWorkloads inventory.workloads.daemonsets allow).filter (fun w => matchesPostgresqlName w.name)
  pods := (inventory.pods.filter (fun pod => allow.contains pod.namespace_)).filter matchesPostgresqlPod
  services := (inventory.services.filter (fun service => allow.contains service.namespace_)).filter
    matchesPostgresqlService
  pvcs := (inventory.persistentVolumeClaims.filter (fun pvc => allow.contains pvc.namespace_)).filter
    matchesPostgresqlPvc
  events := (inventory.events.filter (fun event => allow.contains event.namespace_)).filter matchesPostgresqlEvent

namespace Found

def workloads (found : Found) : List WorkloadRef := found.deployments ++ found.statefulsets ++ found.daemonsets

def readyPods (found : Found) : Nat := (found.pods.filter (fun pod => pod.phase == some "Running")).length

def servicePorts (found : Found) : Nat := ((found.services.flatMap (·.ports)).filter isPostgresqlPort).length

def clearCandidates (found : Found) : List ServiceInfo := found.services.filter isClearPostgresqlService

def weakCandidates (found : Found) : List ServiceInfo :=
  found.services.filter (fun service => matchesPostgresqlService service && !isClearPostgresqlService service)

def probeNote (found : Found) : Option String :=
  match found.clearCandidates with
  | [_] => none
  | [] =>
    if !found.services.isEmpty then some "Service did not clearly match PostgreSQL heuristics; live probe skipped"
    else none
  | _ => some "Multiple services matched PostgreSQL heuristics; live probe skipped"

/-- The status, with the correction for a failed probe at its end. -/
def status (found : Found) (probeResult : Option PostgresqlProbeResult) : String :=
  let status :=
    if found.clearCandidates.length > 1 then "unknown"
    else if found.clearCandidates.length = 1 then
      if found.readyPods > 0 && found.servicePorts > 0 && !found.pvcs.isEmpty then
        if probeResult.any (·.isConnected) then "healthy" else "warning"
      else "warning"
    else if !found.services.isEmpty || !found.workloads.isEmpty || !found.pods.isEmpty || !found.pvcs.isEmpty then
      "warning"
    else if found.events.isEmpty then "critical"
    else "unknown"
  if probeResult.any (fun result => !result.isConnected) && status == "healthy" then "warning" else status

end Found

/-! ## What is reported -/

def summaryOf (allow : List String) (found : Found) (probeResult : Option PostgresqlProbeResult) : String :=
  let status := found.status probeResult
  match probeResult with
  | some (.connected _ _ latencyMs) =>
    if status = "healthy" then
      "PostgreSQL workload found in " ++ toString allow.length ++ " namespace(s) with " ++ toString found.readyPods ++
        " running pod(s); live SELECT 1 succeeded in " ++ toString latencyMs ++ " ms"
    else "PostgreSQL workload found, live SELECT 1 succeeded in " ++ toString latencyMs ++
      " ms, but one or more signals are incomplete"
  | some (.failed _ _ classification) => "PostgreSQL workload found, but live SELECT 1 " ++ classification
  | none =>
    match status with
    | "healthy" => "PostgreSQL workload found in " ++ toString allow.length ++ " namespace(s) with " ++
        toString found.readyPods ++ " running pod(s)"
    | "warning" => "PostgreSQL workload found, but one or more signals are incomplete"
    | "unknown" =>
      "PostgreSQL-related activity was seen, but the workload could not be classified confidently"
    | _ => "No PostgreSQL workload found in the configured namespaces"

def probeText : PostgresqlProbeResult → String
  | .connected host port latencyMs =>
    "SELECT 1 succeeded on " ++ host ++ ":" ++ toString port ++ " in " ++ toString latencyMs ++ " ms"
  | .failed host port classification => "SELECT 1 " ++ classification ++ " on " ++ host ++ ":" ++ toString port

def detailOf (allow : List String) (found : Found) (probeResult : Option PostgresqlProbeResult) : List TitledValue :=
  [⟨"namespaces", ", ".intercalate allow⟩,
    ⟨"matched workloads", toString found.workloads.length⟩,
    ⟨"matched pods", toString found.pods.length⟩,
    ⟨"running pods", toString found.readyPods⟩,
    ⟨"matched services", toString found.services.length⟩,
    ⟨"clear services", toString found.clearCandidates.length⟩,
    ⟨"weak services", toString found.weakCandidates.length⟩,
    ⟨"service ports on 5432", toString found.servicePorts⟩,
    ⟨"matched pvcs", toString found.pvcs.length⟩] ++
  found.probeNote.toList.map (fun note => ⟨"live probe", note⟩) ++
  probeResult.toList.map (fun result => ⟨"live probe", probeText result⟩) ++
  (if found.workloads.isEmpty && found.pods.isEmpty && found.services.isEmpty && found.pvcs.isEmpty then
    [⟨"classification", found.status probeResult⟩] else [])

def ownerText (pod : PodInfo) : String :=
  match pod.ownerKind, pod.ownerName with
  | some kind, some name => "owner=" ++ kind ++ " name=" ++ name
  | some kind, none => "owner=" ++ kind
  | none, some name => "name=" ++ name
  | none, none => "owner=unknown"

def podText (pod : PodInfo) : String :=
  pod.namespace_ ++ "/" ++ pod.name ++ " " ++ ownerText pod ++ " phase=" ++ pod.phase.getD "unknown" ++ " image=" ++
    (pod.containers.head?.map (·.image)).getD "unknown"

def serviceText (kind : String) (service : ServiceInfo) : String :=
  kind ++ " " ++ service.namespace_ ++ "/" ++ service.name ++ " ports=" ++
    ",".intercalate (service.ports.map (fun port => toString port.port)) ++ " selector=" ++
    toString service.selector.length

def pvcText (pvc : PersistentVolumeClaimInfo) : String :=
  pvc.namespace_ ++ "/" ++ pvc.name ++ " match=" ++ pvcMatchReason pvc ++ " storage_class=" ++
    pvc.storageClass.getD "unknown" ++ " volume=" ++ pvc.volumeName.getD "unknown"

def eventText (event : EventInfo) : String :=
  event.namespace_ ++ "/" ++ event.name ++ " reason=" ++ event.reason.getD "unknown" ++ " message=" ++
    event.message.getD "unknown"

def workloadText (kind : String) (workload : WorkloadRef) : String :=
  kind ++ " " ++ workload.namespace_ ++ "/" ++ workload.name ++ " match=name"

def evidenceOf (found : Found) (probeResult : Option PostgresqlProbeResult) : List TitledValue :=
  found.deployments.map (fun workload => ⟨"workload_name", workloadText "deployment" workload⟩) ++
  found.statefulsets.map (fun workload => ⟨"workload_owner", workloadText "statefulset" workload⟩) ++
  found.daemonsets.map (fun workload => ⟨"workload_name", workloadText "daemonset" workload⟩) ++
  found.pods.map (fun pod => ⟨"pod", podText pod⟩) ++
  found.clearCandidates.map (fun service => ⟨"service", serviceText "clear" service⟩) ++
  found.weakCandidates.map (fun service => ⟨"service", serviceText "weak" service⟩) ++
  found.pvcs.map (fun pvc => ⟨"pvc", pvcText pvc⟩) ++
  found.events.map (fun event => ⟨"event", eventText event⟩) ++
  probeResult.toList.map (fun result => ⟨"probe", probeText result⟩)

def missingIf (empty : Bool) (title value : String) : List TitledValue := if empty then [⟨title, value⟩] else []

def missingDataOf (found : Found) (probeResult : Option PostgresqlProbeResult) : List TitledValue :=
  found.probeNote.toList.map (fun note => ⟨"live probe", note⟩) ++
  (probeResult.filter (fun result => !result.isConnected)).toList.map
    (fun result => ⟨"live probe", probeText result⟩) ++
  missingIf found.workloads.isEmpty "workload discovery"
    "No PostgreSQL-like workload name was found in the configured namespaces" ++
  missingIf found.pods.isEmpty "pods" "No pod matched the PostgreSQL discovery heuristics" ++
  missingIf found.services.isEmpty "service" "No service matched the PostgreSQL discovery heuristics" ++
  missingIf found.pvcs.isEmpty "persistent volume claims" "No PVC matched the PostgreSQL discovery heuristics" ++
  missingIf found.events.isEmpty "events"
    "No PostgreSQL-related warning events were observed in the configured namespaces"

/-! ## The program -/

abbrev Probing := Prog ServiceInfo (fun _ => PostgresqlProbeResult)

/-- The one clear service is probed. -/
def probeClear (found : Found) : Probing (Option PostgresqlProbeResult) :=
  match found.clearCandidates with
  | [service] => do
    let result ← Prog.ask service
    return some result
  | _ => return none

def pluginOf (cfg : PostgresqlConfig) (found : Found) (probeResult : Option PostgresqlProbeResult) (now : Nat) :
    PostgresqlMonitoringPlugin where
  enabled := true
  namespaces := cfg.namespaces
  schemaVersion := 1
  generatedAtMs := now
  status := found.status probeResult
  summary := summaryOf cfg.namespaces found probeResult
  detail := detailOf cfg.namespaces found probeResult
  evidence := evidenceOf found probeResult
  missingData := missingDataOf found probeResult

/-- `build_postgresql_monitoring_with_probe`; the clock is read at its end. -/
def buildPostgresqlMonitoringWithProbe (cfg : PostgresqlConfig) (inventory : Inventory) (now : Nat) :
    Probing (Option PostgresqlMonitoringPlugin) :=
  if !cfg.enabled then return none
  else if cfg.namespaces.isEmpty then return none
  else do
    let found := findPostgresql cfg.namespaces inventory
    let probeResult ← probeClear found
    return some (pluginOf cfg found probeResult now)

end Plugins
end HubAgent
