import HubAgent.Lib.StrParts
import HubAgent.Postgres
/-!
# What the PostgreSQL status says (`plugins/mod.rs`)

The status is read off the inventory itself: which services of the allowlisted namespaces are clear, and whether
anything there looks like PostgreSQL (`postgresql_classification`).  The collections of the plugin are the steps in
between: a clear service has the port, so it is a matched one and counts for the ports.
-/
namespace HubAgent
namespace Plugins

open Interaction (Prog Oracle)

variable {cfg : PostgresqlConfig} {inventory : Inventory} {found : Found} {probeResult : Option PostgresqlProbeResult}

/-! ## What is in the allowlisted namespaces -/

/-- Something of a kind is in an allowlisted namespace and looks like PostgreSQL. -/
def SomeMatched {α : Type} (allow : List String) (namespaceOf : α → String) (looks : α → Bool) (items : List α) : Prop :=
  ∃ x ∈ items, namespaceOf x ∈ allow ∧ looks x = true

def mergeWorkloadRefs (workloads : Workloads) : List WorkloadRef :=
  workloads.deployments ++ workloads.statefulsets ++ workloads.daemonsets

def clearServices (allow : List String) (inventory : Inventory) : List ServiceInfo :=
  inventory.services.filter (fun service => decide (service.namespace_ ∈ allow) && isClearPostgresqlService service)

def ServiceMatched (allow : List String) (inventory : Inventory) : Prop :=
  SomeMatched allow ServiceInfo.namespace_ matchesPostgresqlService inventory.services

def WorkloadMatched (allow : List String) (inventory : Inventory) : Prop :=
  SomeMatched allow WorkloadRef.namespace_ (fun workload => matchesPostgresqlName workload.name)
    (mergeWorkloadRefs inventory.workloads)

def PodMatched (allow : List String) (inventory : Inventory) : Prop :=
  SomeMatched allow PodInfo.namespace_ matchesPostgresqlPod inventory.pods

def RunningPodMatched (allow : List String) (inventory : Inventory) : Prop :=
  SomeMatched allow PodInfo.namespace_ (fun pod => matchesPostgresqlPod pod && pod.phase == some "Running")
    inventory.pods

def PvcMatched (allow : List String) (inventory : Inventory) : Prop :=
  SomeMatched allow PersistentVolumeClaimInfo.namespace_ matchesPostgresqlPvc inventory.persistentVolumeClaims

def EventMatched (allow : List String) (inventory : Inventory) : Prop :=
  SomeMatched allow EventInfo.namespace_ matchesPostgresqlEvent inventory.events

/-- Nothing but an event can have matched. -/
def OnlyEvents (allow : List String) (inventory : Inventory) : Prop :=
  ¬ ServiceMatched allow inventory ∧ ¬ WorkloadMatched allow inventory ∧ ¬ PodMatched allow inventory ∧
    ¬ PvcMatched allow inventory

/-- **The classification**, of a plugin block and the calls of the probe with their answers. -/
structure Classified (allow : List String) (inventory : Inventory) (plugin : PostgresqlMonitoringPlugin)
    (probes : List (ServiceInfo × PostgresqlProbeResult)) : Prop where
  atMostOnce : probes.length ≤ 1
  probed : ∀ service, (∃ result, (service, result) ∈ probes) ↔ clearServices allow inventory = [service]
  healthy : plugin.status = "healthy" ↔ (∃ service result, clearServices allow inventory = [service] ∧
    (service, result) ∈ probes ∧ result.isConnected = true) ∧ RunningPodMatched allow inventory ∧
      PvcMatched allow inventory
  unknown : plugin.status = "unknown" ↔ 1 < (clearServices allow inventory).length ∨
    (OnlyEvents allow inventory ∧ EventMatched allow inventory)
  critical : plugin.status = "critical" ↔ OnlyEvents allow inventory ∧ ¬ EventMatched allow inventory
  warning : plugin.status = "warning" ↔
    plugin.status ≠ "healthy" ∧ plugin.status ≠ "unknown" ∧ plugin.status ≠ "critical"
  clear_matched : ∀ service ∈ clearServices allow inventory, matchesPostgresqlService service = true
  /-- The clear and the weak candidates are the matched services, each once. -/
  partition : ((findPostgresql allow inventory).clearCandidates ++
    (findPostgresql allow inventory).weakCandidates).Perm (findPostgresql allow inventory).services
  disjoint : ∀ service ∈ (findPostgresql allow inventory).weakCandidates, isClearPostgresqlService service = false

/-! ## Names -/

/-- More turns than letters change nothing: every turn takes the needle off the text. -/
theorem containsTokenFrom_fuel {needle : List Char} (hne : needle ≠ []) : ∀ {fuel fuel' : Nat} {before rest : List Char},
    rest.length < fuel → rest.length < fuel' →
    containsTokenFrom needle fuel before rest = containsTokenFrom needle fuel' before rest
  | fuel + 1, fuel' + 1, before, rest, h, h' => by
    unfold containsTokenFrom
    cases hfound : RustStr.splitOnceStr needle rest with
    | none => rfl
    | some parts =>
      obtain ⟨gap, after⟩ := parts
      obtain ⟨rfl, -⟩ := (RustStr.splitOnceStr_eq_some_iff hne).1 hfound
      have hpos := List.length_pos_iff.2 hne
      simp only [List.length_append] at h h'
      have hrest : containsTokenFrom needle fuel (before ++ gap ++ needle) after =
          containsTokenFrom needle fuel' (before ++ gap ++ needle) after :=
        containsTokenFrom_fuel hne (by omega) (by omega)
      simp only [hrest]

theorem part_of_containsToken {value needle : String} (hne : needle.toList ≠ []) (h : containsToken value needle = true) :
    needle.toList <:+: toAsciiLowercase value := by
  by_contra hnot
  unfold containsToken containsTokenFrom at h
  dsimp only at h
  rw [(RustStr.splitOnceStr_eq_none_iff hne).2 hnot] at h
  cases h

theorem matchesPostgresqlName_iff {value : String} : matchesPostgresqlName value = true ↔
    ("postgres".toList <:+: toAsciiLowercase value ∨ "postgresql".toList <:+: toAsciiLowercase value) ∨
      "pgsql".toList <:+: toAsciiLowercase value := by
  unfold matchesPostgresqlName
  dsimp only
  rw [Bool.or_eq_true, Bool.or_eq_true, decide_eq_true_iff, decide_eq_true_iff, decide_eq_true_iff]

/-- **A name that clearly matches, matches.** -/
theorem matches_of_matchesClear {value : String} (h : matchesClearPostgresqlName value = true) :
    matchesPostgresqlName value = true := by
  simp only [matchesClearPostgresqlName, List.any_cons, List.any_nil, Bool.or_eq_true, Bool.or_false] at h
  rw [matchesPostgresqlName_iff]
  rcases h with htoken | htoken | htoken
  · have hpart := part_of_containsToken (by decide) htoken
    exact .inl (.inr hpart)
  · have hpart := part_of_containsToken (by decide) htoken
    exact .inl (.inl hpart)
  · have hpart := part_of_containsToken (by decide) htoken
    exact .inr hpart

/-! ## The collections -/

theorem clear_port {service : ServiceInfo} (h : isClearPostgresqlService service = true) :
    service.ports.any isPostgresqlPort = true := by
  unfold isClearPostgresqlService at h
  exact (Bool.and_eq_true_iff.1 h).2

/-- **A clear service is a matched one.** -/
theorem matches_of_clear {service : ServiceInfo} (h : isClearPostgresqlService service = true) :
    matchesPostgresqlService service = true := by
  unfold matchesPostgresqlService
  rw [clear_port h, Bool.or_true]

theorem filter_ne_nil_iff {α : Type} (allow : List String) (namespaceOf : α → String) (looks : α → Bool)
    (items : List α) : (items.filter (fun x => allow.contains (namespaceOf x))).filter looks ≠ [] ↔
      SomeMatched allow namespaceOf looks items := by
  rw [ne_eq, List.filter_eq_nil_iff]
  unfold SomeMatched
  simp [List.mem_filter]

theorem clearCandidates_eq (allow : List String) (inventory : Inventory) :
    (findPostgresql allow inventory).clearCandidates = clearServices allow inventory := by
  unfold Found.clearCandidates findPostgresql clearServices
  dsimp only
  rw [List.filter_filter, List.filter_filter]
  apply List.filter_congr
  intro service _
  cases hclear : isClearPostgresqlService service with
  | false => simp
  | true => simp [matches_of_clear hclear]

theorem services_ne_nil_iff (allow : List String) (inventory : Inventory) :
    (findPostgresql allow inventory).services ≠ [] ↔ ServiceMatched allow inventory :=
  filter_ne_nil_iff _ _ _ _

theorem pods_ne_nil_iff (allow : List String) (inventory : Inventory) :
    (findPostgresql allow inventory).pods ≠ [] ↔ PodMatched allow inventory :=
  filter_ne_nil_iff _ _ _ _

theorem pvcs_ne_nil_iff (allow : List String) (inventory : Inventory) :
    (findPostgresql allow inventory).pvcs ≠ [] ↔ PvcMatched allow inventory :=
  filter_ne_nil_iff _ _ _ _

theorem events_ne_nil_iff (allow : List String) (inventory : Inventory) :
    (findPostgresql allow inventory).events ≠ [] ↔ EventMatched allow inventory :=
  filter_ne_nil_iff _ _ _ _

theorem workloads_ne_nil_iff (allow : List String) (inventory : Inventory) :
    (findPostgresql allow inventory).workloads ≠ [] ↔ WorkloadMatched allow inventory := by
  have hall : (findPostgresql allow inventory).workloads = ((mergeWorkloadRefs inventory.workloads).filter
      (fun workload => allow.contains workload.namespace_)).filter (fun workload => matchesPostgresqlName workload.name) := by
    unfold Found.workloads findPostgresql filterWorkloads mergeWorkloadRefs
    simp only [List.filter_append]
  rw [hall]
  exact filter_ne_nil_iff _ _ _ _

theorem readyPods_pos_iff (allow : List String) (inventory : Inventory) :
    0 < (findPostgresql allow inventory).readyPods ↔ RunningPodMatched allow inventory := by
  unfold Found.readyPods RunningPodMatched
  rw [List.length_pos_iff, ← filter_ne_nil_iff]
  unfold findPostgresql
  dsimp only
  rw [List.filter_filter]
  simp only [Bool.and_comm]

theorem servicePorts_pos {service : ServiceInfo} (h : service ∈ found.clearCandidates) : 0 < found.servicePorts := by
  obtain ⟨hmem, hclear⟩ := List.mem_filter.1 h
  obtain ⟨port, hport, hlooks⟩ := List.any_eq_true.1 (clear_port hclear)
  unfold Found.servicePorts
  rw [List.length_pos_iff]
  exact List.ne_nil_of_mem (List.mem_filter.2 ⟨List.mem_flatMap.2 ⟨service, hmem, hport⟩, hlooks⟩)

theorem mem_services {service : ServiceInfo} {allow : List String}
    (h : service ∈ (findPostgresql allow inventory).services) : matchesPostgresqlService service = true :=
  (List.mem_filter.1 h).2

/-- **The clear and the weak candidates partition the matched services.** -/
theorem candidates_perm (allow : List String) (inventory : Inventory) :
    ((findPostgresql allow inventory).clearCandidates ++ (findPostgresql allow inventory).weakCandidates).Perm
      (findPostgresql allow inventory).services := by
  have hweak : (findPostgresql allow inventory).weakCandidates =
      (findPostgresql allow inventory).services.filter (fun service => !isClearPostgresqlService service) := by
    apply List.filter_congr
    intro service hmem
    rw [mem_services hmem, Bool.true_and]
  rw [hweak]
  exact List.filter_append_perm _ _

theorem not_clear_of_weak {service : ServiceInfo} (h : service ∈ found.weakCandidates) :
    isClearPostgresqlService service = false := by
  have hboth := Bool.and_eq_true_iff.1 (List.mem_filter.1 h).2
  simpa using hboth.2

/-! ## The status -/

/-- No collection but the events has anything. -/
def Found.Bare (found : Found) : Prop :=
  found.services = [] ∧ found.workloads = [] ∧ found.pods = [] ∧ found.pvcs = []

/-- The signals that make a connected probe healthy. -/
def Found.Complete (found : Found) : Prop := 0 < found.readyPods ∧ found.pvcs ≠ []

/-- The correction at the end changes nothing: only a connected probe is healthy. -/
theorem corrected_eq {status : String} (h : status = "healthy" → probeResult.any (·.isConnected) = true) :
    (if probeResult.any (fun result => !result.isConnected) && status == "healthy" then "warning" else status) =
      status := by
  rw [if_neg]
  intro hboth
  obtain ⟨hfailed, hstatus⟩ := Bool.and_eq_true_iff.1 hboth
  have hconnected := h (beq_iff_eq.1 hstatus)
  cases probeResult with
  | none => cases hconnected
  | some result =>
    simp only [Option.any_some] at hfailed hconnected
    rw [hconnected] at hfailed
    cases hfailed

theorem some_found_iff (found : Found) :
    (!found.services.isEmpty || !found.workloads.isEmpty || !found.pods.isEmpty || !found.pvcs.isEmpty) = true ↔
      ¬ found.Bare := by
  simp only [Found.Bare, Bool.or_eq_true, Bool.not_eq_true', List.isEmpty_eq_false_iff]
  tauto

/-- **The status, case by case.** -/
theorem status_cases (found : Found) (probeResult : Option PostgresqlProbeResult) :
    (1 < found.clearCandidates.length ∧ found.status probeResult = "unknown") ∨
    (found.clearCandidates.length = 1 ∧ found.Complete ∧ probeResult.any (·.isConnected) = true ∧
      found.status probeResult = "healthy") ∨
    (found.clearCandidates.length = 1 ∧ ¬ (found.Complete ∧ probeResult.any (·.isConnected) = true) ∧
      found.status probeResult = "warning") ∨
    (found.clearCandidates = [] ∧ ¬ found.Bare ∧ found.status probeResult = "warning") ∨
    (found.clearCandidates = [] ∧ found.Bare ∧ found.events ≠ [] ∧ found.status probeResult = "unknown") ∨
    (found.clearCandidates = [] ∧ found.Bare ∧ found.events = [] ∧ found.status probeResult = "critical") := by
  by_cases hmany : found.clearCandidates.length > 1
  · refine .inl ⟨hmany, ?_⟩
    simp only [Found.status, if_pos hmany]
    exact corrected_eq (fun h => absurd h (by decide))
  by_cases hone : found.clearCandidates.length = 1
  · obtain ⟨service, hservice⟩ := List.length_eq_one_iff.1 hone
    have hports : 0 < found.servicePorts := servicePorts_pos (hservice ▸ List.mem_singleton_self service)
    have hcomplete : (found.readyPods > 0 && found.servicePorts > 0 && !found.pvcs.isEmpty) = true ↔
        found.Complete := by
      simp [Found.Complete, hports, List.isEmpty_eq_false_iff]
    by_cases hfull : found.Complete
    · by_cases hconnected : probeResult.any (·.isConnected) = true
      · refine .inr (.inl ⟨hone, hfull, hconnected, ?_⟩)
        simp only [Found.status, if_neg hmany, if_pos hone, if_pos (hcomplete.2 hfull), if_pos hconnected]
        exact corrected_eq (fun _ => hconnected)
      · refine .inr (.inr (.inl ⟨hone, fun h => hconnected h.2, ?_⟩))
        simp only [Found.status, if_neg hmany, if_pos hone, if_pos (hcomplete.2 hfull), if_neg hconnected]
        exact corrected_eq (fun h => absurd h (by decide))
    · refine .inr (.inr (.inl ⟨hone, fun h => hfull h.1, ?_⟩))
      simp only [Found.status, if_neg hmany, if_pos hone, if_neg (fun h => hfull (hcomplete.1 h))]
      exact corrected_eq (fun h => absurd h (by decide))
  have hnone : found.clearCandidates = [] := List.length_eq_zero_iff.1 (by omega)
  by_cases hbare : found.Bare
  · have hnot := fun h => (some_found_iff found).1 h hbare
    by_cases hevents : found.events = []
    · refine .inr (.inr (.inr (.inr (.inr ⟨hnone, hbare, hevents, ?_⟩))))
      simp only [Found.status, if_neg hmany, if_neg hone, if_neg hnot, if_pos (List.isEmpty_iff.2 hevents)]
      exact corrected_eq (fun h => absurd h (by decide))
    · refine .inr (.inr (.inr (.inr (.inl ⟨hnone, hbare, hevents, ?_⟩))))
      simp only [Found.status, if_neg hmany, if_neg hone, if_neg hnot,
        if_neg (fun h => hevents (List.isEmpty_iff.1 h))]
      exact corrected_eq (fun h => absurd h (by decide))
  · refine .inr (.inr (.inr (.inl ⟨hnone, hbare, ?_⟩)))
    simp only [Found.status, if_neg hmany, if_neg hone, if_pos ((some_found_iff found).2 hbare)]
    exact corrected_eq (fun h => absurd h (by decide))

/-! ## The program -/

/-- The calls of the probe in a run, with their answers. -/
def probesOf (trace : Interaction.Trace ServiceInfo (fun _ => PostgresqlProbeResult)) :
    List (ServiceInfo × PostgresqlProbeResult) :=
  trace.map (fun e => (e.call, e.answer))

/-- How the calls of the probe and its result belong together. -/
def Probed (clear : List ServiceInfo) (probes : List (ServiceInfo × PostgresqlProbeResult))
    (probeResult : Option PostgresqlProbeResult) : Prop :=
  (probes = [] ∧ probeResult = none ∧ clear.length ≠ 1) ∨
    ∃ service result, probes = [(service, result)] ∧ probeResult = some result ∧ clear = [service]

namespace Probed

variable {clear : List ServiceInfo} {probes : List (ServiceInfo × PostgresqlProbeResult)}

theorem length_le (h : Probed clear probes probeResult) : probes.length ≤ 1 := by
  rcases h with ⟨rfl, -, -⟩ | ⟨service, result, rfl, -, -⟩
  · exact Nat.zero_le 1
  · exact Nat.le_refl 1

theorem mem_iff (h : Probed clear probes probeResult) (service : ServiceInfo) :
    (∃ result, (service, result) ∈ probes) ↔ clear = [service] := by
  rcases h with ⟨rfl, -, hlength⟩ | ⟨service', result, rfl, -, rfl⟩
  · constructor
    · rintro ⟨result, hmem⟩
      cases hmem
    · rintro rfl
      exact absurd rfl hlength
  · constructor
    · rintro ⟨result', hmem⟩
      rw [(Prod.mk.inj (List.mem_singleton.1 hmem)).1]
    · intro heq
      rw [List.singleton_inj.1 heq]
      exact ⟨result, List.mem_singleton_self _⟩

theorem connected_iff (h : Probed clear probes probeResult) :
    (∃ service result, clear = [service] ∧ (service, result) ∈ probes ∧ result.isConnected = true) ↔
      clear.length = 1 ∧ probeResult.any (·.isConnected) = true := by
  rcases h with ⟨rfl, rfl, hlength⟩ | ⟨service, result, rfl, rfl, rfl⟩
  · simp
  · simp

end Probed

theorem bare_iff (allow : List String) (inventory : Inventory) :
    (findPostgresql allow inventory).Bare ↔ OnlyEvents allow inventory := by
  unfold Found.Bare OnlyEvents
  rw [← services_ne_nil_iff, ← workloads_ne_nil_iff, ← pods_ne_nil_iff, ← pvcs_ne_nil_iff]
  simp only [ne_eq, Decidable.not_not]

theorem complete_iff (allow : List String) (inventory : Inventory) :
    (findPostgresql allow inventory).Complete ↔ RunningPodMatched allow inventory ∧ PvcMatched allow inventory := by
  unfold Found.Complete
  rw [readyPods_pos_iff, pvcs_ne_nil_iff]

theorem not_bare_of_clear (h : found.clearCandidates ≠ []) : ¬ found.Bare := by
  rintro ⟨hservices, -⟩
  apply h
  unfold Found.clearCandidates
  rw [hservices]
  rfl

/-- **What a status says**, of the collections. -/
structure StatusSays (found : Found) (probeResult : Option PostgresqlProbeResult) (status : String) : Prop where
  healthy : status = "healthy" ↔
    (found.clearCandidates.length = 1 ∧ probeResult.any (·.isConnected) = true) ∧ found.Complete
  unknown : status = "unknown" ↔ 1 < found.clearCandidates.length ∨ (found.Bare ∧ found.events ≠ [])
  critical : status = "critical" ↔ found.Bare ∧ found.events = []
  warning : status = "warning" ↔ status ≠ "healthy" ∧ status ≠ "unknown" ∧ status ≠ "critical"

theorem statusSays (found : Found) (probeResult : Option PostgresqlProbeResult) :
    StatusSays found probeResult (found.status probeResult) := by
  have hbare : 1 ≤ found.clearCandidates.length → ¬ found.Bare :=
    fun h => not_bare_of_clear (List.length_pos_iff.1 h)
  rcases status_cases found probeResult with ⟨hmany, hs⟩ | ⟨hone, hfull, hconnected, hs⟩ | ⟨hone, hnot, hs⟩ |
      ⟨hnone, hsome, hs⟩ | ⟨hnone, hbare', hevents, hs⟩ | ⟨hnone, hbare', hevents, hs⟩
  · have hnot := hbare (by omega)
    have hne : ¬ found.clearCandidates.length = 1 := by omega
    constructor <;> simp [hs, hmany, hne, hnot]
  · have hnot := hbare (by omega)
    constructor <;> simp [hs, hone, hconnected, hfull, hnot]
  · have hbare' := hbare (by omega)
    constructor
    · simp only [hs, hone, true_and]
      exact iff_of_false (by decide) (fun h => hnot ⟨h.2, h.1⟩)
    · simp [hs, hone, hbare']
    · simp [hs, hbare']
    · simp [hs]
  · constructor <;> simp [hs, hnone, hsome]
  · constructor <;> simp [hs, hnone, hbare', hevents]
  · constructor <;> simp [hs, hnone, hbare', hevents]

theorem classified_of_status {plugin : PostgresqlMonitoringPlugin} {allow : List String}
    {probes : List (ServiceInfo × PostgresqlProbeResult)}
    (hstatus : plugin.status = (findPostgresql allow inventory).status probeResult)
    (hprobes : Probed (clearServices allow inventory) probes probeResult) :
    Classified allow inventory plugin probes := by
  have hsays := statusSays (findPostgresql allow inventory) probeResult
  have hclear := clearCandidates_eq allow inventory
  rw [← hstatus] at hsays
  have hhealthy := hsays.healthy
  have hunknown := hsays.unknown
  have hcritical := hsays.critical
  rw [hclear, ← hprobes.connected_iff, complete_iff] at hhealthy
  rw [hclear, bare_iff, events_ne_nil_iff] at hunknown
  rw [bare_iff, ← not_not (a := (findPostgresql allow inventory).events = []), ← ne_eq, events_ne_nil_iff] at hcritical
  exact {
    atMostOnce := hprobes.length_le
    probed := hprobes.mem_iff
    healthy := hhealthy
    unknown := hunknown
    critical := hcritical
    warning := hsays.warning
    clear_matched := fun service hmem => matches_of_clear (Bool.and_eq_true_iff.1 (List.mem_filter.1 hmem).2).2
    partition := candidates_perm allow inventory
    disjoint := fun service hmem => not_clear_of_weak hmem }

def probeResultOf (clear : List ServiceInfo) (probe : Oracle ServiceInfo (fun _ => PostgresqlProbeResult)) :
    Option PostgresqlProbeResult :=
  match clear with
  | [service] => some (probe [] service)
  | _ => none

theorem connected_probeResultOf_iff (clear : List ServiceInfo)
    (probe : Oracle ServiceInfo (fun _ => PostgresqlProbeResult)) :
    (clear.length = 1 ∧ (probeResultOf clear probe).any (·.isConnected) = true) ↔
      ∃ service, clear = [service] ∧ (probe [] service).isConnected = true := by
  constructor
  · rintro ⟨hone, hconnected⟩
    obtain ⟨service, rfl⟩ := List.length_eq_one_iff.1 hone
    exact ⟨service, rfl, hconnected⟩
  · rintro ⟨service, rfl, hconnected⟩
    exact ⟨rfl, hconnected⟩

/-- **The run of an enabled plugin**: its block, from the answer of the probe. -/
theorem run_build (inventory : Inventory) (now : Nat) (probe : Oracle ServiceInfo (fun _ => PostgresqlProbeResult))
    (henabled : cfg.enabled = true) (hnamespaces : cfg.namespaces ≠ []) :
    ∃ trace, (buildPostgresqlMonitoringWithProbe cfg inventory now).run probe [] =
        (some (some (pluginOf cfg (findPostgresql cfg.namespaces inventory)
          (probeResultOf (clearServices cfg.namespaces inventory) probe) now)), trace) ∧
      Probed (clearServices cfg.namespaces inventory) (probesOf trace)
        (probeResultOf (clearServices cfg.namespaces inventory) probe) := by
  unfold buildPostgresqlMonitoringWithProbe
  rw [if_neg (by simp [henabled]), if_neg (by simpa using hnamespaces)]
  have hclear := clearCandidates_eq cfg.namespaces inventory
  unfold probeClear
  dsimp only
  split
  · rename_i service hservice
    rw [← hclear, hservice]
    exact ⟨_, rfl, .inr ⟨service, _, rfl, rfl, rfl⟩⟩
  · rename_i hnot
    rw [hclear] at hnot
    have hnone : probeResultOf (clearServices cfg.namespaces inventory) probe = none := by
      unfold probeResultOf
      split
      · rename_i service hservice
        exact absurd hservice (hnot service)
      · rfl
    rw [hnone]
    refine ⟨_, rfl, .inl ⟨rfl, rfl, fun hone => ?_⟩⟩
    obtain ⟨service, hservice⟩ := List.length_eq_one_iff.1 hone
    exact hnot service hservice

/-- **PostgreSQL classification.** -/
theorem postgresql_classification (cfg : PostgresqlConfig) (inventory : Inventory) (now : Nat)
    (probe : Oracle ServiceInfo (fun _ => PostgresqlProbeResult)) (henabled : cfg.enabled = true)
    (hnamespaces : cfg.namespaces ≠ []) :
    ∃ plugin trace, (buildPostgresqlMonitoringWithProbe cfg inventory now).run probe [] = (some (some plugin), trace) ∧
      Classified cfg.namespaces inventory plugin (probesOf trace) := by
  obtain ⟨trace, hrun, hprobed⟩ := run_build inventory now probe henabled hnamespaces
  exact ⟨_, trace, hrun, classified_of_status rfl hprobed⟩

def prodConfig : PostgresqlConfig := { enabled := true, namespaces := ["prod"] }

def prodInventory : Inventory where
  workloads := { statefulsets := [{ namespace_ := "prod", name := "postgres" }] }
  pods := [{ namespace_ := "prod", name := "postgres-0", phase := some "Running" }]
  services := [{ namespace_ := "prod", name := "postgres", ports := [{ port := 5432 }] }]
  persistentVolumeClaims := [{ namespace_ := "prod", name := "data-postgres-0" }]

def reached (service : ServiceInfo) : PostgresqlProbeResult := .connected service.name 5432 3

theorem postgresql_classification_prod : ∃ plugin trace,
    (buildPostgresqlMonitoringWithProbe prodConfig prodInventory 0).run (fun _ service => reached service) [] =
      (some (some plugin), trace) ∧ Classified ["prod"] prodInventory plugin (probesOf trace) :=
  postgresql_classification prodConfig prodInventory 0 (fun _ service => reached service) rfl (by decide)

end Plugins
end HubAgent
