import HubAgent.Dependencies
import HubAgent.Environment
import HubAgent.PostgresSpec
/-!
# The workload monitoring plugin (`plugins/mod.rs`, `SPEC.md` WorkloadMonitoringSignals)

The plugin shows the part of the inventory that lies in the namespaces of its allowlist: the workloads of the three
kinds in a row, pods, services, ingresses and events by their namespace, and the dependency edges with an end in one of
them.  What lies outside shows nowhere in these lists (`monitoredLists_eq_of_edited`).  The block of dependencies is to
be left out when it is empty, and is not: `exact_iff`.
-/
namespace HubAgent

open Collector (DependencyEdge DependencyEndpoint DependencyInventory)

structure MonitoredInventory extends Inventory where
  ingresses : List IngressInfo := []
  dependencies : DependencyInventory := {}

structure WorkloadMonitoringSignals (Metrics : Type) where
  workloads : List WorkloadRef
  pods : List PodInfo
  services : List ServiceInfo
  ingresses : List IngressInfo
  events : List EventInfo
  dependencies : Option DependencyInventory
  appMetrics : Option Metrics

/-- The metrics and the log tails are taken over as they are. -/
structure WorkloadMonitoringPlugin (Metrics Logs : Type) where
  enabled : Bool
  namespaces : List String
  technologyTargets : List String
  schemaVersion : Nat
  generatedAtMs : Nat
  signals : WorkloadMonitoringSignals Metrics
  logs : Logs

namespace Plugins

/-- An endpoint without a namespace is in none. -/
def endpointAllowed (allow : List String) (endpoint : DependencyEndpoint) : Bool :=
  (endpoint.namespace_.map (fun ns => allow.contains ns)).getD false

def buildWorkloadMonitoring {Metrics Logs : Type} (cfg : AgentConfig) (inventory : MonitoredInventory)
    (appMetrics : Metrics) (logs : Logs) (nowMs : Nat) : Option (WorkloadMonitoringPlugin Metrics Logs) :=
  if !cfg.workloadMonitoringEnabled then none
  else if cfg.workloadMonitoringNamespaces.isEmpty then none
  else
    let allow := cfg.workloadMonitoringNamespaces
    let filteredWorkloads : Workloads :=
      { deployments := filterWorkloads inventory.workloads.deployments allow
        statefulsets := filterWorkloads inventory.workloads.statefulsets allow
        daemonsets := filterWorkloads inventory.workloads.daemonsets allow }
    let filteredDependencies :=
      if cfg.collectDependenciesTetragon then
        some { inventory.dependencies with
          edges := inventory.dependencies.edges.filter (fun edge =>
            endpointAllowed allow edge.from_ || endpointAllowed allow edge.to_) }
      else none
    some
      { enabled := true
        namespaces := cfg.workloadMonitoringNamespaces
        technologyTargets := cfg.workloadMonitoringTargets
        schemaVersion := 1
        generatedAtMs := nowMs
        signals :=
          { workloads := mergeWorkloadRefs filteredWorkloads
            pods := inventory.pods.filter (fun p => allow.any (fun ns => ns == p.namespace_))
            services := inventory.services.filter (fun s => allow.any (fun ns => ns == s.namespace_))
            ingresses := inventory.ingresses.filter (fun i => allow.any (fun ns => ns == i.namespace_))
            events := inventory.events.filter (fun e => allow.any (fun ns => ns == e.namespace_))
            dependencies := filteredDependencies
            appMetrics := if cfg.appMetricsEnabled then some appMetrics else none }
        logs := logs }

/-! ## The exact projection -/

/-- The edge has an end in a namespace of the allowlist. -/
def Touches (allow : List String) (edge : DependencyEdge) : Prop :=
  (∃ ns ∈ allow, edge.from_.namespace_ = some ns) ∨ ∃ ns ∈ allow, edge.to_.namespace_ = some ns

theorem endpointAllowed_iff {allow : List String} {endpoint : DependencyEndpoint} :
    endpointAllowed allow endpoint = true ↔ ∃ ns ∈ allow, endpoint.namespace_ = some ns := by
  cases h : endpoint.namespace_ with
  | none => simp [endpointAllowed, h]
  | some ns => simp [endpointAllowed, h]

instance (allow : List String) (edge : DependencyEdge) : Decidable (Touches allow edge) :=
  decidable_of_iff ((endpointAllowed allow edge.from_ || endpointAllowed allow edge.to_) = true)
    (by rw [Bool.or_eq_true, endpointAllowed_iff, endpointAllowed_iff, Touches])

structure MonitoredLists where
  workloads : List WorkloadRef
  pods : List PodInfo
  services : List ServiceInfo
  ingresses : List IngressInfo
  events : List EventInfo
  edges : List DependencyEdge

/-- Of each collection what lies in the allowlist, in its order. -/
def monitoredLists (allow : List String) (inventory : MonitoredInventory) : MonitoredLists where
  workloads := (inventory.workloads.deployments ++ inventory.workloads.statefulsets ++
    inventory.workloads.daemonsets).filter (fun w => w.namespace_ ∈ allow)
  pods := inventory.pods.filter (fun p => p.namespace_ ∈ allow)
  services := inventory.services.filter (fun s => s.namespace_ ∈ allow)
  ingresses := inventory.ingresses.filter (fun i => i.namespace_ ∈ allow)
  events := inventory.events.filter (fun e => e.namespace_ ∈ allow)
  edges := inventory.dependencies.edges.filter (fun edge => Touches allow edge)

/-! ## Edits outside the allowlist -/

/-- The list is changed only by taking out and putting in entries that are not of this kind. -/
inductive Edited {α : Type} (kind : α → Prop) : List α → List α → Prop
  | nil : Edited kind [] []
  | kept {l l' : List α} (a : α) : Edited kind l l' → Edited kind (a :: l) (a :: l')
  | removed {l l' : List α} (a : α) : ¬ kind a → Edited kind l l' → Edited kind (a :: l) l'
  | added {l l' : List α} (a : α) : ¬ kind a → Edited kind l l' → Edited kind l (a :: l')

theorem Edited.filter_eq {α : Type} {kind : α → Prop} [DecidablePred kind] {l l' : List α} (h : Edited kind l l') :
    l'.filter (fun a => kind a) = l.filter (fun a => kind a) := by
  induction h with
  | nil => rfl
  | kept a _ ih => rw [List.filter_cons, List.filter_cons, ih]
  | removed a hnot _ ih => rw [List.filter_cons_of_neg (by simpa using hnot), ih]
  | added a hnot _ ih => rw [List.filter_cons_of_neg (by simpa using hnot), ih]

/-- The inventory is changed only in what touches no namespace of the allowlist. -/
structure EditedOutside (allow : List String) (inventory inventory' : MonitoredInventory) : Prop where
  deployments : Edited (·.namespace_ ∈ allow) inventory.workloads.deployments inventory'.workloads.deployments
  statefulsets : Edited (·.namespace_ ∈ allow) inventory.workloads.statefulsets inventory'.workloads.statefulsets
  daemonsets : Edited (·.namespace_ ∈ allow) inventory.workloads.daemonsets inventory'.workloads.daemonsets
  pods : Edited (·.namespace_ ∈ allow) inventory.pods inventory'.pods
  services : Edited (·.namespace_ ∈ allow) inventory.services inventory'.services
  ingresses : Edited (·.namespace_ ∈ allow) inventory.ingresses inventory'.ingresses
  events : Edited (·.namespace_ ∈ allow) inventory.events inventory'.events
  edges : Edited (Touches allow) inventory.dependencies.edges inventory'.dependencies.edges

/-- **Nothing outside the allowlist shows.** -/
theorem monitoredLists_eq_of_edited {allow : List String} {inventory inventory' : MonitoredInventory}
    (h : EditedOutside allow inventory inventory') : monitoredLists allow inventory' = monitoredLists allow inventory := by
  rw [monitoredLists, monitoredLists, List.filter_append, List.filter_append, h.deployments.filter_eq,
    h.statefulsets.filter_eq, h.daemonsets.filter_eq, h.pods.filter_eq, h.services.filter_eq, h.ingresses.filter_eq,
    h.events.filter_eq, h.edges.filter_eq, List.filter_append, List.filter_append]

/-! ## What the plugin shows -/

section shown

variable {Metrics Logs : Type} (cfg : AgentConfig) (inventory : MonitoredInventory) (appMetrics : Metrics) (logs : Logs)
  (nowMs : Nat)

/-- The lists of a plugin block; a missing block of dependencies has no edges. -/
def shownLists (plugin : WorkloadMonitoringPlugin Metrics Logs) : MonitoredLists where
  workloads := plugin.signals.workloads
  pods := plugin.signals.pods
  services := plugin.signals.services
  ingresses := plugin.signals.ingresses
  events := plugin.signals.events
  edges := (plugin.signals.dependencies.map (·.edges)).getD []

/-- The block that an enabled plugin builds, with its lists as the projection of the inventory. -/
def projectedPlugin : WorkloadMonitoringPlugin Metrics Logs :=
  let lists := monitoredLists cfg.workloadMonitoringNamespaces inventory
  { enabled := true
    namespaces := cfg.workloadMonitoringNamespaces
    technologyTargets := cfg.workloadMonitoringTargets
    schemaVersion := 1
    generatedAtMs := nowMs
    signals :=
      { workloads := lists.workloads
        pods := lists.pods
        services := lists.services
        ingresses := lists.ingresses
        events := lists.events
        dependencies :=
          if cfg.collectDependenciesTetragon then some { inventory.dependencies with edges := lists.edges } else none
        appMetrics := if cfg.appMetricsEnabled then some appMetrics else none }
    logs := logs }

theorem any_eq_decide_mem (allow : List String) (namespace_ : String) :
    allow.any (fun ns => ns == namespace_) = decide (namespace_ ∈ allow) := by
  rw [Bool.eq_iff_iff, List.any_eq_true, decide_eq_true_eq]
  simp only [beq_iff_eq, exists_eq_right]

theorem filterWorkloads_eq (items : List WorkloadRef) (allow : List String) :
    filterWorkloads items allow = items.filter (fun w => w.namespace_ ∈ allow) := by
  simp only [filterWorkloads, List.contains_eq_mem]

theorem touches_eq (allow : List String) (edge : DependencyEdge) :
    (endpointAllowed allow edge.from_ || endpointAllowed allow edge.to_) = decide (Touches allow edge) := by
  rw [Bool.eq_iff_iff, Bool.or_eq_true, endpointAllowed_iff, endpointAllowed_iff, decide_eq_true_eq, Touches]

/-- **An enabled plugin shows the projection of the inventory.** -/
theorem buildWorkloadMonitoring_eq (enabled : cfg.workloadMonitoringEnabled = true)
    (listed : cfg.workloadMonitoringNamespaces ≠ []) :
    buildWorkloadMonitoring cfg inventory appMetrics logs nowMs =
      some (projectedPlugin cfg inventory appMetrics logs nowMs) := by
  have hlisted : cfg.workloadMonitoringNamespaces.isEmpty = false := by simpa using listed
  rw [buildWorkloadMonitoring, enabled, hlisted]
  simp only [any_eq_decide_mem, filterWorkloads_eq, touches_eq, mergeWorkloadRefs, Bool.not_true, Bool.false_eq_true,
    if_false, projectedPlugin, monitoredLists, List.filter_append]

/-- The block shows exactly what is monitored, and dependencies when there are any. -/
structure Exact (plugin : WorkloadMonitoringPlugin Metrics Logs) (lists : MonitoredLists) : Prop where
  workloads : plugin.signals.workloads = lists.workloads
  pods : plugin.signals.pods = lists.pods
  services : plugin.signals.services = lists.services
  ingresses : plugin.signals.ingresses = lists.ingresses
  events : plugin.signals.events = lists.events
  edges : ∀ deps, plugin.signals.dependencies = some deps → deps.edges = lists.edges
  present : plugin.signals.dependencies.isSome ↔ cfg.collectDependenciesTetragon = true ∧ lists.edges ≠ []

/-- The plugin shows exactly what is monitored, and the same for every inventory that differs only outside. -/
def ExactProjection : Prop :=
  ∃ plugin, buildWorkloadMonitoring cfg inventory appMetrics logs nowMs = some plugin ∧
    Exact cfg plugin (monitoredLists cfg.workloadMonitoringNamespaces inventory) ∧
    ∀ inventory', EditedOutside cfg.workloadMonitoringNamespaces inventory inventory' →
      ∃ plugin', buildWorkloadMonitoring cfg inventory' appMetrics logs nowMs = some plugin' ∧
        shownLists plugin' = shownLists plugin

theorem shownLists_projectedPlugin : shownLists (projectedPlugin cfg inventory appMetrics logs nowMs) =
    { monitoredLists cfg.workloadMonitoringNamespaces inventory with
      edges := if cfg.collectDependenciesTetragon then
        (monitoredLists cfg.workloadMonitoringNamespaces inventory).edges else [] } := by
  rw [shownLists, projectedPlugin]
  cases cfg.collectDependenciesTetragon <;> rfl

/-- **The projection is exact exactly when dependencies are not collected or an edge remains**: with none left the block
of dependencies is there all the same. -/
theorem exactProjection_iff (enabled : cfg.workloadMonitoringEnabled = true)
    (listed : cfg.workloadMonitoringNamespaces ≠ []) :
    ExactProjection cfg inventory appMetrics logs nowMs ↔ cfg.collectDependenciesTetragon = false ∨
      ∃ edge ∈ inventory.dependencies.edges, Touches cfg.workloadMonitoringNamespaces edge := by
  have hremains : (monitoredLists cfg.workloadMonitoringNamespaces inventory).edges ≠ [] ↔
      ∃ edge ∈ inventory.dependencies.edges, Touches cfg.workloadMonitoringNamespaces edge := by
    simp only [monitoredLists, ne_eq, List.filter_eq_nil_iff, decide_eq_true_eq, not_forall, not_not, exists_prop]
  rw [← hremains]
  constructor
  · rintro ⟨plugin, hbuild, hexact, -⟩
    rw [buildWorkloadMonitoring_eq cfg inventory appMetrics logs nowMs enabled listed] at hbuild
    obtain rfl := Option.some.inj hbuild
    cases hcollect : cfg.collectDependenciesTetragon with
    | false => exact Or.inl rfl
    | true =>
      refine Or.inr (hexact.present.1 ?_).2
      rw [projectedPlugin, hcollect]
      rfl
  · intro h
    refine ⟨_, buildWorkloadMonitoring_eq cfg inventory appMetrics logs nowMs enabled listed, ?_, ?_⟩
    · refine ⟨rfl, rfl, rfl, rfl, rfl, ?_, ?_⟩
      · intro deps hdeps
        obtain ⟨-, hdeps⟩ := Option.ite_none_right_eq_some.1 hdeps
        rw [← Option.some.inj hdeps]
      · rcases h with hcollect | hedges
        · rw [projectedPlugin, hcollect]
          simp
        · rw [projectedPlugin]
          cases cfg.collectDependenciesTetragon <;> simp [hedges]
    · intro inventory' hedited
      refine ⟨_, buildWorkloadMonitoring_eq cfg inventory' appMetrics logs nowMs enabled listed, ?_⟩
      rw [shownLists_projectedPlugin, shownLists_projectedPlugin, monitoredLists_eq_of_edited hedited]

def monitoringConfig : AgentConfig :=
  configFrom ⟨fun _ => none, fun _ => none⟩
    (((AList.singleton "WORKLOAD_MONITORING_ENABLED" "true").insert "WORKLOAD_MONITORING_NAMESPACES" "shop").insert
      "COLLECT_DEPENDENCIES_TETRAGON" "true") "https://hub" "c"

def elsewhere : MonitoredInventory where
  dependencies :=
    { edges :=
        [{ from_ := ⟨"pod", some "kube-system", some "a", none, none, none⟩
           to_ := ⟨"pod", some "kube-system", some "b", none, none, none⟩
           protocol := "TCP", destinationPort := 53, direction := "egress", bytes := 1, packets := 1, connections := 1
           firstSeenUnixMs := 0, lastSeenUnixMs := 0 }] }

theorem exactProjection_iff_elsewhere : ExactProjection monitoringConfig elsewhere () () 0 ↔
    monitoringConfig.collectDependenciesTetragon = false ∨
      ∃ edge ∈ elsewhere.dependencies.edges, Touches monitoringConfig.workloadMonitoringNamespaces edge :=
  exactProjection_iff monitoringConfig elsewhere () () 0 (by decide) (by decide)

/-- No edge remains, and the block of dependencies is there. -/
theorem empty_dependencies_shown : ¬ ∀ (cfg : AgentConfig) (inventory : MonitoredInventory),
    cfg.workloadMonitoringEnabled = true → cfg.workloadMonitoringNamespaces ≠ [] →
      ExactProjection cfg inventory () () 0 := by
  intro h
  obtain ⟨plugin, hbuild, hexact, -⟩ := h monitoringConfig elsewhere (by decide) (by decide)
  have hshown : plugin.signals.dependencies.isSome := by
    obtain rfl := Option.some.inj hbuild
    decide
  exact (hexact.present.1 hshown).2 (by decide)

end shown

end Plugins
end HubAgent
