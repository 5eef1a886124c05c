import HubAgent.Dependencies
import HubAgent.PostgresSpec
/-!
# The PostgreSQL diagnosis (`plugins/mod.rs`)

`diagnose_postgresql` narrows the inventory to a namespace and the hints of its spec, runs the plugin on it, and makes
a report of the block.  Whatever the block lists as missing overrides its status, and that no event matched is listed
as missing: a report is healthy only when some event is there (`diagnosis_healthy_iff`).
-/
namespace HubAgent
namespace Plugins

open Interaction (Prog Oracle)
open Collector (Casing)

/-! ## The scope of a diagnosis -/

structure PostgresqlDiagnosticScope where
  inventory : Inventory
  hintMissingData : List TitledValue
  hintFindings : List PostgresqlDiagnosticFinding

def postgresHintMatches (casing : Casing) (hint value : String) : Bool :=
  decide ((casing.toLowercase hint).toList <:+: (casing.toLowercase value).toList)

def optionalHintMatches (casing : Casing) (hint : String) (value : Option String) : Bool :=
  (value.map (postgresHintMatches casing hint)).getD false

def postgresPodMatches (casing : Casing) (hint : String) (pod : PodInfo) : Bool :=
  postgresHintMatches casing hint pod.name || optionalHintMatches casing hint pod.ownerName ||
    optionalHintMatches casing hint pod.ownerKind ||
    pod.containers.any (fun container =>
      postgresHintMatches casing hint container.name || postgresHintMatches casing hint container.image)

def postgresEventMatchesHint (casing : Casing) (hint : String) (event : EventInfo) : Bool :=
  postgresHintMatches casing hint event.name || optionalHintMatches casing hint event.reason ||
    optionalHintMatches casing hint event.message || optionalHintMatches casing hint event.involvedObject.name

/-- A hint that is given: trimmed and not empty. -/
def hintOf (value : Option String) : Option String := (value.map RustStr.trim).filter (· ≠ "")

/-- A filter that only a given hint applies. -/
def hinted {α : Type} (hint : Option String) (looks : String → α → Bool) (x : α) : Bool :=
  (hint.map (fun hint => looks hint x)).getD true

def scopeWorkloads (casing : Casing) (namespace_ : String) (podSelector : Option String) (items : List WorkloadRef) :
    List WorkloadRef :=
  (items.filter (fun workload => workload.namespace_ == namespace_)).filter
    (hinted podSelector (fun hint workload => postgresHintMatches casing hint workload.name))

def serviceHintText (serviceName namespace_ : String) : String :=
  "no Service named `" ++ serviceName ++ "` matched namespace `" ++ namespace_ ++ "`"

def podSelectorText (podSelector namespace_ : String) : String :=
  "no Pod or workload name matched `" ++ podSelector ++ "` in namespace `" ++ namespace_ ++ "`"

/-- The services of a scope, and the missing data and findings of a name that is none of theirs. -/
def scopeServices (namespace_ : String) (serviceName : Option String) (services : List ServiceInfo) :
    Except (List TitledValue × List PostgresqlDiagnosticFinding) (List ServiceInfo) :=
  let services := services.filter (fun service => service.namespace_ == namespace_)
  match serviceName with
  | none => .ok services
  | some serviceName =>
    let matched := services.filter (fun service => service.name == serviceName)
    if matched.isEmpty then
      .error ([⟨"service hint", serviceHintText serviceName namespace_⟩],
        [{ title := "Service hint not resolved", severity := "unknown"
           description := serviceHintText serviceName namespace_
           evidence := "service hint did not match any namespace-local Service"
           recommendation := "double-check the service_name hint or omit it to use heuristic discovery" }])
    else .ok matched

def scopePostgresqlDiagnostic (casing : Casing) (namespace_ : String) (spec : PostgresqlDiagnosticSpec)
    (inventory : Inventory) : PostgresqlDiagnosticScope :=
  let serviceName := hintOf spec.serviceName
  let podSelector := hintOf spec.podSelector
  let workloads : Workloads :=
    { deployments := scopeWorkloads casing namespace_ podSelector inventory.workloads.deployments
      statefulsets := scopeWorkloads casing namespace_ podSelector inventory.workloads.statefulsets
      daemonsets := scopeWorkloads casing namespace_ podSelector inventory.workloads.daemonsets }
  let pods := (inventory.pods.filter (fun pod => pod.namespace_ == namespace_)).filter
    (hinted podSelector (postgresPodMatches casing))
  let pvcs := inventory.persistentVolumeClaims.filter (fun pvc => pvc.namespace_ == namespace_)
  let events := (inventory.events.filter (fun event => event.namespace_ == namespace_)).filter
    (hinted podSelector (postgresEventMatchesHint casing))
  match scopeServices namespace_ serviceName inventory.services with
  | .error (hintMissingData, hintFindings) =>
    { inventory := { workloads, pods, services := [], persistentVolumeClaims := pvcs, events }
      hintMissingData, hintFindings }
  | .ok services =>
    let hintMissingData := if podSelector.isSome && pods.isEmpty then
        [⟨"pod selector hint", podSelectorText (podSelector.getD "") namespace_⟩] else []
    let hintFindings := hintMissingData.head?.toList.map (fun item =>
      { title := "Discovery hint not resolved", severity := "unknown", description := item.value
        evidence := "discovery hint filtered out all candidate pods/workloads"
        recommendation := "double-check the pod_selector hint or omit it to use heuristic discovery" })
    { inventory := { workloads, pods, services, persistentVolumeClaims := pvcs, events }
      hintMissingData, hintFindings }

/-! ## Reports -/

def diagnosticReportError (namespace_ message : String) (hintMissingData : List TitledValue)
    (hintFindings : List PostgresqlDiagnosticFinding) : PostgresqlDiagnosticReport where
  namespace_ := namespace_
  status := "unknown"
  summary := message
  findings := hintFindings ++
    [{ title := "PostgreSQL diagnosis failed", severity := "unknown", description := message, evidence := message
       recommendation := "retry after the underlying collection or configuration issue is resolved" }]
  evidence := []
  missingData := hintMissingData
  recommendedActions := ["retry after resolving the underlying collection or configuration issue"]

def diagnosticReportUnknown (namespace_ summary : String) (hintMissingData : List TitledValue)
    (hintFindings : List PostgresqlDiagnosticFinding) : PostgresqlDiagnosticReport where
  namespace_ := namespace_
  status := "unknown"
  summary := summary
  findings := hintFindings ++
    [{ title := "PostgreSQL diagnosis", severity := "unknown", description := summary, evidence := summary
       recommendation := "review the missing data and discovery hints, then retry" }]
  evidence := []
  missingData := hintMissingData
  recommendedActions := ["review the missing data and discovery hints, then retry"]

def diagnosticSeverity : String → String
  | "healthy" => "info"
  | "warning" => "warning"
  | "critical" => "critical"
  | _ => "unknown"

def diagnosticRecommendation : String → String
  | "healthy" => "continue monitoring and re-run if symptoms change"
  | "warning" => "review the warnings and missing data, then re-run the diagnosis"
  | "critical" => "treat this as an active incident and inspect the identified evidence"
  | _ => "resolve the missing data or discovery issues, then re-run the diagnosis"

/-- Sorted, and without repetitions side by side. -/
def diagnosticRecommendations (status : String) (findings : List PostgresqlDiagnosticFinding) : List String :=
  let recommendations := diagnosticRecommendation status ::
    (if findings.any (fun finding => finding.severity == "unknown") then
      ["double-check discovery hints and permissions"] else [])
  (recommendations.insertionSort (· ≤ ·)).destutter (· ≠ ·)

def evidenceLine (evidence : List TitledValue) : String :=
  "; ".intercalate (evidence.map (fun item => item.title ++ ": " ++ item.value))

def diagnosticReportFromPlugin (namespace_ : String) (plugin : PostgresqlMonitoringPlugin)
    (hintMissingData : List TitledValue) (hintFindings : List PostgresqlDiagnosticFinding) :
    PostgresqlDiagnosticReport :=
  let missingData := plugin.missingData ++ hintMissingData
  let status := if !missingData.isEmpty then "unknown" else plugin.status
  let summary := if !missingData.isEmpty then
      plugin.summary ++ " Discovery hints or missing data prevented a fully resolved diagnosis."
    else plugin.summary
  let findings : List PostgresqlDiagnosticFinding :=
    { title := "PostgreSQL diagnosis", severity := diagnosticSeverity status, description := summary
      evidence := evidenceLine plugin.evidence, recommendation := diagnosticRecommendation status } ::
    plugin.detail.map (fun item =>
      { title := item.title, severity := diagnosticSeverity status, description := item.value
        evidence := evidenceLine plugin.evidence, recommendation := diagnosticRecommendation status }) ++
    hintFindings
  { namespace_, status, summary, findings
    evidence := plugin.evidence
    missingData
    recommendedActions := diagnosticRecommendations status findings }

def probeConfig (cfg : PostgresqlConfig) (spec : PostgresqlDiagnosticSpec) (namespace_ : String) : PostgresqlConfig :=
  { cfg with
    enabled := true
    namespaces := [namespace_]
    secretName := (hintOf spec.secretName).or cfg.secretName }

/-- `diagnose_postgresql`, from the collected inventory or the error of its collection. -/
def diagnosePostgresql (casing : Casing) (cfg : PostgresqlConfig) (spec : PostgresqlDiagnosticSpec)
    (collected : Except String Inventory) (now : Nat) : Probing PostgresqlDiagnosticReport :=
  let namespace_ := RustStr.trim spec.namespace_
  if namespace_ = "" then return diagnosticReportError namespace_ "namespace is required" [] []
  else
    match collected with
    | .error err => return diagnosticReportError namespace_ ("failed to collect cluster inventory: " ++ err) [] []
    | .ok inventory => do
      let scope := scopePostgresqlDiagnostic casing namespace_ spec inventory
      let plugin ← buildPostgresqlMonitoringWithProbe (probeConfig cfg spec namespace_) scope.inventory now
      match plugin with
      | some plugin =>
        return diagnosticReportFromPlugin namespace_ plugin scope.hintMissingData scope.hintFindings
      | none =>
        return diagnosticReportUnknown namespace_ "postgresql diagnosis unavailable" scope.hintMissingData
          scope.hintFindings

/-! ## When a report is healthy -/

section Healthy

variable {casing : Casing} {cfg : PostgresqlConfig} {spec : PostgresqlDiagnosticSpec} {inventory : Inventory}
  {now : Nat} {probe : Oracle ServiceInfo (fun _ => PostgresqlProbeResult)} {found : Found}
  {probeResult : Option PostgresqlProbeResult}

def diagnosedStatus (casing : Casing) (cfg : PostgresqlConfig) (spec : PostgresqlDiagnosticSpec)
    (inventory : Inventory) (now : Nat) (probe : Oracle ServiceInfo (fun _ => PostgresqlProbeResult)) : Option String :=
  ((diagnosePostgresql casing cfg spec (.ok inventory) now).run probe []).1.map (·.status)

def inScope (casing : Casing) (spec : PostgresqlDiagnosticSpec) (inventory : Inventory) : Inventory :=
  (scopePostgresqlDiagnostic casing (RustStr.trim spec.namespace_) spec inventory).inventory

/-- **Everything but an event is there**: the probe of the one clear service connects, a pod runs, a volume claim and a
workload match, and the hints are resolved. -/
structure OtherwiseHealthy (casing : Casing) (spec : PostgresqlDiagnosticSpec) (inventory : Inventory)
    (probe : Oracle ServiceInfo (fun _ => PostgresqlProbeResult)) : Prop where
  namespace_ : RustStr.trim spec.namespace_ ≠ ""
  connected : ∃ service, clearServices [RustStr.trim spec.namespace_] (inScope casing spec inventory) = [service] ∧
    (probe [] service).isConnected = true
  running : RunningPodMatched [RustStr.trim spec.namespace_] (inScope casing spec inventory)
  pvc : PvcMatched [RustStr.trim spec.namespace_] (inScope casing spec inventory)
  workload : WorkloadMatched [RustStr.trim spec.namespace_] (inScope casing spec inventory)
  hints : (scopePostgresqlDiagnostic casing (RustStr.trim spec.namespace_) spec inventory).hintMissingData = []

theorem missingIf_eq_nil_iff {α : Type} {l : List α} {title value : String} :
    missingIf l.isEmpty title value = [] ↔ l ≠ [] := by
  cases l <;> simp [missingIf]

/-- **Nothing is missing** exactly when the probe was not skipped and did not fail, and every kind was found. -/
theorem missingDataOf_eq_nil_iff (found : Found) (probeResult : Option PostgresqlProbeResult) :
    missingDataOf found probeResult = [] ↔ found.probeNote = none ∧
      probeResult.filter (fun result => !result.isConnected) = none ∧ found.workloads ≠ [] ∧ found.pods ≠ [] ∧
      found.services ≠ [] ∧ found.pvcs ≠ [] ∧ found.events ≠ [] := by
  unfold missingDataOf
  simp only [List.append_eq_nil_iff, List.map_eq_nil_iff, Option.toList_eq_nil_iff, missingIf_eq_nil_iff, and_assoc]

theorem pods_ne_nil_of_ready (h : 0 < found.readyPods) : found.pods ≠ [] := by
  rintro hnil
  unfold Found.readyPods at h
  rw [hnil] at h
  exact absurd h (by decide)

theorem missing_of_healthy (hone : found.clearCandidates.length = 1) (hfull : found.Complete)
    (hconnected : probeResult.any (·.isConnected) = true) :
    missingDataOf found probeResult = [] ↔ found.workloads ≠ [] ∧ found.events ≠ [] := by
  obtain ⟨service, hservice⟩ := List.length_eq_one_iff.1 hone
  have hnote : found.probeNote = none := by
    unfold Found.probeNote
    rw [hservice]
  have hfailed : probeResult.filter (fun result => !result.isConnected) = none := by
    cases probeResult with
    | none => rfl
    | some result =>
      rw [Option.any_some] at hconnected
      simp [hconnected]
  have hservices : found.services ≠ [] := by
    intro hnil
    unfold Found.clearCandidates at hservice
    rw [hnil] at hservice
    cases hservice
  rw [missingDataOf_eq_nil_iff]
  simp [hnote, hfailed, pods_ne_nil_of_ready hfull.1, hservices, hfull.2]

theorem status_from_plugin (namespace_ : String) (plugin : PostgresqlMonitoringPlugin)
    (hintMissingData : List TitledValue) (hintFindings : List PostgresqlDiagnosticFinding) :
    (diagnosticReportFromPlugin namespace_ plugin hintMissingData hintFindings).status = "healthy" ↔
      plugin.status = "healthy" ∧ plugin.missingData = [] ∧ hintMissingData = [] := by
  unfold diagnosticReportFromPlugin
  dsimp only
  by_cases hnil : plugin.missingData ++ hintMissingData = []
  · rw [if_neg (by rw [hnil]; decide)]
    rw [List.append_eq_nil_iff] at hnil
    simp [hnil]
  · rw [if_pos (by rwa [Bool.not_eq_true', List.isEmpty_eq_false_iff])]
    rw [List.append_eq_nil_iff] at hnil
    exact iff_of_false (by decide) (fun h => hnil h.2)

theorem diagnosedStatus_unnamed (h : RustStr.trim spec.namespace_ = "") :
    diagnosedStatus casing cfg spec inventory now probe = some "unknown" := by
  unfold diagnosedStatus diagnosePostgresql
  dsimp only
  rw [if_pos h]
  rfl

theorem diagnosedStatus_eq (h : RustStr.trim spec.namespace_ ≠ "") :
    diagnosedStatus casing cfg spec inventory now probe =
      some (diagnosticReportFromPlugin (RustStr.trim spec.namespace_)
        (pluginOf (probeConfig cfg spec (RustStr.trim spec.namespace_))
          (findPostgresql [RustStr.trim spec.namespace_] (inScope casing spec inventory))
          (probeResultOf (clearServices [RustStr.trim spec.namespace_] (inScope casing spec inventory)) probe) now)
        (scopePostgresqlDiagnostic casing (RustStr.trim spec.namespace_) spec inventory).hintMissingData
        (scopePostgresqlDiagnostic casing (RustStr.trim spec.namespace_) spec inventory).hintFindings).status := by
  have henabled : (probeConfig cfg spec (RustStr.trim spec.namespace_)).enabled = true := rfl
  obtain ⟨trace, hrun, -⟩ := run_build (inScope casing spec inventory) now probe henabled (List.cons_ne_nil _ _)
  unfold inScope at hrun ⊢
  unfold diagnosedStatus diagnosePostgresql
  dsimp only
  rw [if_neg h, Interaction.run_bind probe _ _ hrun]
  rfl

/-- **A report is healthy exactly when an event is there, and everything else.** -/
theorem diagnosis_healthy_iff : diagnosedStatus casing cfg spec inventory now probe = some "healthy" ↔
    OtherwiseHealthy casing spec inventory probe ∧
      EventMatched [RustStr.trim spec.namespace_] (inScope casing spec inventory) := by
  by_cases hnamespace : RustStr.trim spec.namespace_ = ""
  · rw [diagnosedStatus_unnamed hnamespace]
    exact iff_of_false (by simp) (fun h => h.1.namespace_ hnamespace)
  rw [diagnosedStatus_eq hnamespace, Option.some.injEq, status_from_plugin]
  generalize hallow : [RustStr.trim spec.namespace_] = allow
  have hclear := clearCandidates_eq allow (inScope casing spec inventory)
  have hstatus := (statusSays (findPostgresql allow (inScope casing spec inventory))
    (probeResultOf (clearServices allow (inScope casing spec inventory)) probe)).healthy
  constructor
  · rintro ⟨hhealthy, hmissing, hhints⟩
    obtain ⟨⟨hone, hconnected⟩, hfull⟩ := hstatus.1 hhealthy
    obtain ⟨hworkload, hevent⟩ := (missing_of_healthy hone hfull hconnected).1 hmissing
    rw [hclear] at hone
    obtain ⟨hrunning, hpvc⟩ := (complete_iff _ _).1 hfull
    subst hallow
    exact ⟨⟨hnamespace, (connected_probeResultOf_iff _ _).1 ⟨hone, hconnected⟩, hrunning, hpvc,
      (workloads_ne_nil_iff _ _).1 hworkload, hhints⟩, (events_ne_nil_iff _ _).1 hevent⟩
  · rintro ⟨⟨-, hprobed, hrunning, hpvc, hworkload, hhints⟩, hevent⟩
    rw [hallow] at hprobed hrunning hpvc hworkload
    obtain ⟨hone, hconnected⟩ := (connected_probeResultOf_iff _ _).2 hprobed
    rw [← hclear] at hone
    have hfull := (complete_iff _ _).2 ⟨hrunning, hpvc⟩
    exact ⟨hstatus.2 ⟨⟨hone, hconnected⟩, hfull⟩, (missing_of_healthy hone hfull hconnected).2
      ⟨(workloads_ne_nil_iff _ _).2 hworkload, (events_ne_nil_iff _ _).2 hevent⟩, hhints⟩

end Healthy

/-! ## One more event -/

section OneMoreEvent

variable {casing : Casing} {cfg : PostgresqlConfig} {spec : PostgresqlDiagnosticSpec} {inventory : Inventory}
  {now : Nat} {probe : Oracle ServiceInfo (fun _ => PostgresqlProbeResult)}

/-- A diagnosis sees the event: it is of the namespace, fits the hint, and looks like PostgreSQL. -/
structure Seen (casing : Casing) (spec : PostgresqlDiagnosticSpec) (event : EventInfo) : Prop where
  namespace_ : event.namespace_ = RustStr.trim spec.namespace_
  hinted : hinted (hintOf spec.podSelector) (postgresEventMatchesHint casing) event = true
  matched : matchesPostgresqlEvent event = true

theorem scope_events (casing : Casing) (namespace_ : String) (spec : PostgresqlDiagnosticSpec) (inventory : Inventory)
    (events : List EventInfo) : scopePostgresqlDiagnostic casing namespace_ spec { inventory with events } =
      { scopePostgresqlDiagnostic casing namespace_ spec inventory with
        inventory := { (scopePostgresqlDiagnostic casing namespace_ spec inventory).inventory with
          events := (events.filter (fun event => event.namespace_ == namespace_)).filter
            (hinted (hintOf spec.podSelector) (postgresEventMatchesHint casing)) } } := by
  unfold scopePostgresqlDiagnostic
  dsimp only
  cases scopeServices namespace_ (hintOf spec.serviceName) inventory.services <;> rfl

theorem eventMatched_iff (inventory : Inventory) (events : List EventInfo) :
    EventMatched [RustStr.trim spec.namespace_] (inScope casing spec { inventory with events }) ↔
      ∃ event ∈ events, Seen casing spec event := by
  unfold EventMatched SomeMatched inScope
  rw [scope_events]
  constructor
  · rintro ⟨event, hmem, -, hmatched⟩
    obtain ⟨hmem, hhinted⟩ := List.mem_filter.1 hmem
    obtain ⟨hmem, hnamespace⟩ := List.mem_filter.1 hmem
    exact ⟨event, hmem, beq_iff_eq.1 hnamespace, hhinted, hmatched⟩
  · rintro ⟨event, hmem, hnamespace, hhinted, hmatched⟩
    exact ⟨event, List.mem_filter.2 ⟨List.mem_filter.2 ⟨hmem, beq_iff_eq.2 hnamespace⟩, hhinted⟩,
      List.mem_singleton.2 hnamespace, hmatched⟩

theorem otherwiseHealthy_events (inventory : Inventory) (events : List EventInfo) :
    OtherwiseHealthy casing spec { inventory with events } probe ↔ OtherwiseHealthy casing spec inventory probe := by
  have hscope := scope_events casing (RustStr.trim spec.namespace_) spec inventory events
  have hhints := congrArg PostgresqlDiagnosticScope.hintMissingData hscope
  have hinScope : inScope casing spec { inventory with events } =
      { inScope casing spec inventory with events := (inScope casing spec { inventory with events }).events } := by
    unfold inScope
    rw [hscope]
  constructor
  · rintro ⟨hnamespace, hconnected, hrunning, hpvc, hworkload, hnone⟩
    rw [hinScope] at hconnected hrunning hpvc hworkload
    exact ⟨hnamespace, hconnected, hrunning, hpvc, hworkload, hhints.symm.trans hnone⟩
  · rintro ⟨hnamespace, hconnected, hrunning, hpvc, hworkload, hnone⟩
    refine ⟨hnamespace, ?_, ?_, ?_, ?_, hhints.trans hnone⟩
    · rw [hinScope]
      exact hconnected
    · rw [hinScope]
      exact hrunning
    · rw [hinScope]
      exact hpvc
    · rw [hinScope]
      exact hworkload

/-- One more PostgreSQL-related event of the namespace does not make a report healthy that was not. -/
def NotImproved (casing : Casing) (cfg : PostgresqlConfig) (spec : PostgresqlDiagnosticSpec) (inventory : Inventory)
    (now : Nat) (probe : Oracle ServiceInfo (fun _ => PostgresqlProbeResult)) (event : EventInfo) : Prop :=
  event.namespace_ = RustStr.trim spec.namespace_ → matchesPostgresqlEvent event = true →
    ∀ before after, inventory.events = before ++ after →
      diagnosedStatus casing cfg spec inventory now probe ≠ some "healthy" →
      diagnosedStatus casing cfg spec { inventory with events := before ++ event :: after } now probe ≠ some "healthy"

/-- **A diagnosis improves on an event exactly when only an event was missing**, and this one is seen. -/
theorem not_improved_iff (casing : Casing) (cfg : PostgresqlConfig) (spec : PostgresqlDiagnosticSpec)
    (inventory : Inventory) (now : Nat) (probe : Oracle ServiceInfo (fun _ => PostgresqlProbeResult))
    (event : EventInfo) : NotImproved casing cfg spec inventory now probe event ↔
      ¬ (OtherwiseHealthy casing spec inventory probe ∧ Seen casing spec event ∧
        ∀ earlier ∈ inventory.events, ¬ Seen casing spec earlier) := by
  have hold : diagnosedStatus casing cfg spec inventory now probe = some "healthy" ↔
      OtherwiseHealthy casing spec inventory probe ∧ ∃ earlier ∈ inventory.events, Seen casing spec earlier := by
    rw [diagnosis_healthy_iff]
    exact and_congr_right (fun _ => eventMatched_iff inventory inventory.events)
  have hnew : ∀ events, diagnosedStatus casing cfg spec { inventory with events } now probe = some "healthy" ↔
      OtherwiseHealthy casing spec inventory probe ∧ ∃ earlier ∈ events, Seen casing spec earlier := by
    intro events
    rw [diagnosis_healthy_iff, otherwiseHealthy_events, eventMatched_iff]
  constructor
  · rintro h ⟨hotherwise, hseen, hnone⟩
    refine h hseen.namespace_ hseen.matched [] inventory.events rfl (fun hhealthy => ?_) ?_
    · obtain ⟨-, earlier, hmem, hearlier⟩ := hold.1 hhealthy
      exact hnone earlier hmem hearlier
    · exact (hnew _).2 ⟨hotherwise, event, List.mem_cons_self, hseen⟩
  · intro h _ _ before after hevents hnot hhealthy
    obtain ⟨hotherwise, seen, hmem, hseen⟩ := (hnew _).1 hhealthy
    have hnone : ∀ earlier ∈ inventory.events, ¬ Seen casing spec earlier :=
      fun earlier hearlier hsee => hnot (hold.2 ⟨hotherwise, earlier, hearlier, hsee⟩)
    rw [List.mem_append, List.mem_cons] at hmem
    rcases hmem with hbefore | rfl | hafter
    · exact hnone seen (hevents ▸ List.mem_append_left _ hbefore) hseen
    · exact h ⟨hotherwise, hseen, hnone⟩
    · exact hnone seen (hevents ▸ List.mem_append_right _ hafter) hseen

end OneMoreEvent

/-- A database that runs, and of which there is no event. -/
def quietSpec : PostgresqlDiagnosticSpec := { namespace_ := "prod" }

def crashEvent : EventInfo := { namespace_ := "prod", name := "postgres-0.1", reason := some "BackOff" }

/-- Its diagnosis is unknown, and healthy once a container of it fails. -/
theorem quiet_improves : ¬ NotImproved ⟨String.toLower, String.toUpper⟩ prodConfig quietSpec prodInventory 0
    (fun _ service => reached service) crashEvent := by
  intro h
  refine h (by decide +kernel) (by decide +kernel) [] [] rfl ?_ ?_
  · decide +kernel
  · decide +kernel

end Plugins
end HubAgent
