import HubAgent.Environment
import HubAgent.Lib.Gather
import HubAgent.Postgres
/-!
# The log tails of a pass (`collect_workload_monitoring_logs`)

Each pod of the allowlist is read by a task of its own, container after container; what a task gives is placed by the
index of its pod.  The tails are in the order of the pods, whenever their tasks end, and a log that keeps below both limits
is shown whole and not said to be truncated (`pod_logs_in_order`).
-/
namespace HubAgent
namespace Collector

open Ranked (sortBy)

@[irreducible] def workloadMonitoringLogTailLines : Nat := 200

def workloadMonitoringLogLimitBytes : Nat := 65536

structure WorkloadMonitoringContainerLogs where
  name : String
  truncated : Bool
  lines : List String

structure WorkloadMonitoringPodLogs where
  namespace_ : String
  name : String
  containers : List WorkloadMonitoringContainerLogs

def splitLogOutput (output : String) : List String × Bool :=
  let lines := (RustStr.lines output.toList).map String.ofList
  (lines, decide (workloadMonitoringLogLimitBytes ≤ output.utf8ByteSize) ||
    decide (workloadMonitoringLogTailLines ≤ lines.length))

/-- What the API server answers to a request for the tail of a container's log: its namespace, pod and name. -/
abbrev LogAnswers := String → String → String → Except String String

section Collect

variable (answers : LogAnswers)

def collectWorkloadMonitoringContainerLogs (namespace_ podName containerName : String) :
    Option WorkloadMonitoringContainerLogs :=
  match answers namespace_ podName containerName with
  | .ok output =>
    let split := splitLogOutput output
    some { name := containerName, truncated := split.2, lines := split.1 }
  | .error _ => none

def collectWorkloadMonitoringPodLogs (namespace_ podName : String) (containers : List String) :
    Option WorkloadMonitoringPodLogs :=
  let containerLogs := containers.filterMap (collectWorkloadMonitoringContainerLogs answers namespace_ podName)
  if containerLogs.isEmpty then none else some { namespace_, name := podName, containers := containerLogs }

def podLogTaskOf (cfg : AgentConfig) (listed : PodInfo × Nat) : Option (Nat × PodInfo) :=
  if listed.1.namespace_ ∈ cfg.workloadMonitoringNamespaces ∧ listed.1.containers ≠ [] then some (listed.2, listed.1)
  else none

def podLogTasks (cfg : AgentConfig) (pods : List PodInfo) : List (Nat × PodInfo) :=
  if cfg.workloadMonitoringEnabled = false ∨ cfg.workloadMonitoringNamespaces = [] then []
  else pods.zipIdx.filterMap (podLogTaskOf cfg)

def podLogTask (task : Nat × PodInfo) : Option (Nat × WorkloadMonitoringPodLogs) :=
  (collectWorkloadMonitoringPodLogs answers task.2.namespace_ task.2.name (task.2.containers.map (·.name))).map
    (fun logs => (task.1, logs))

def indexCmp (a b : Nat × WorkloadMonitoringPodLogs) : Ordering := compare a.1 b.1

/-- `collect_workload_monitoring_logs`, its tasks ending in the order of `finished`. -/
def collectWorkloadMonitoringLogs (finished : List (Nat × PodInfo)) : List WorkloadMonitoringPodLogs :=
  (sortBy indexCmp (finished.filterMap (podLogTask answers))).map Prod.snd

/-! ## In the order of the pods -/

def loggedPods (cfg : AgentConfig) (pods : List PodInfo) : List PodInfo :=
  if cfg.workloadMonitoringEnabled = false ∨ cfg.workloadMonitoringNamespaces = [] then []
  else pods.filter (fun pod => decide (pod.namespace_ ∈ cfg.workloadMonitoringNamespaces ∧ pod.containers ≠ []))

theorem map_snd_podLogTasks (cfg : AgentConfig) (pods : List PodInfo) :
    (podLogTasks cfg pods).map Prod.snd = loggedPods cfg pods := by
  unfold podLogTasks loggedPods
  split_ifs
  · rfl
  · have hpods : pods = pods.zipIdx.map Prod.fst := (List.zipIdx_map_fst _ _).symm
    conv_rhs => rw [hpods, ← List.filterMap_eq_filter, List.filterMap_map]
    rw [List.map_filterMap]
    refine List.filterMap_congr (fun listed _ => ?_)
    unfold podLogTaskOf
    by_cases h : listed.1.namespace_ ∈ cfg.workloadMonitoringNamespaces ∧ listed.1.containers ≠ []
    · rw [if_pos h]
      simp [Option.guard, h]
    · rw [if_neg h]
      simp only [Function.comp_apply, Option.guard, decide_eq_true_eq, if_neg h, Option.map_none]

theorem podLogTasks_ascend (cfg : AgentConfig) (pods : List PodInfo) :
    ((podLogTasks cfg pods).map Prod.fst).Pairwise (· < ·) := by
  unfold podLogTasks
  split_ifs
  · exact List.Pairwise.nil
  · have hindex : ∀ (listed : PodInfo × Nat) task, podLogTaskOf cfg listed = some task → task.1 = listed.2 := by
      intro listed task h
      unfold podLogTaskOf at h
      split_ifs at h
      cases h
      rfl
    refine List.Pairwise.sublist (Gather.keys_sublist hindex pods.zipIdx) ?_
    rw [show pods.zipIdx.map (fun listed => listed.2) = _ from List.zipIdx_map_snd _ _]
    exact List.pairwise_lt_range'

instance : Std.TransCmp indexCmp :=
  inferInstanceAs (Std.TransCmp (compareOn (fun placed : Nat × WorkloadMonitoringPodLogs => placed.1)))

theorem podLogs_keyed : Gather.Keyed (fun task : Nat × PodInfo => task.1) (fun placed => placed.1)
    (podLogTask answers) indexCmp where
  carried task placed h := by
    obtain ⟨logs, -, rfl⟩ := Option.map_eq_some_iff.1 h
    rfl
  decided a b h := compare_eq_iff_eq.1 h

/-- **The pods stand as they were listed.** -/
theorem collectWorkloadMonitoringLogs_eq (cfg : AgentConfig) (pods : List PodInfo) {finished : List (Nat × PodInfo)}
    (hends : finished.Perm (podLogTasks cfg pods)) : collectWorkloadMonitoringLogs answers finished =
      (loggedPods cfg pods).filterMap (fun pod =>
        collectWorkloadMonitoringPodLogs answers pod.namespace_ pod.name (pod.containers.map (·.name))) := by
  have hascend := podLogTasks_ascend cfg pods
  have hnodup : ((podLogTasks cfg pods).map Prod.fst).Nodup := hascend.imp (fun h => Nat.ne_of_lt h)
  have hsorted : ((podLogTasks cfg pods).filterMap (podLogTask answers)).Pairwise
      (fun a b => (indexCmp a b).isLE = true) := by
    have hplaced := hascend.sublist (Gather.keys_sublist (podLogs_keyed answers).carried (podLogTasks cfg pods))
    refine (List.pairwise_map.1 hplaced).imp (fun h => ?_)
    exact Std.isLE_compare.2 (Nat.le_of_lt h)
  unfold collectWorkloadMonitoringLogs
  rw [(podLogs_keyed answers).forget hnodup hends,
    Ranked.sortBy_eq_of_pairwise ((podLogs_keyed answers).separates hnodup) (List.Perm.refl _) hsorted,
    ← map_snd_podLogTasks, List.map_filterMap, List.filterMap_map]
  refine List.filterMap_congr (fun task _ => ?_)
  unfold podLogTask
  rw [Option.map_map]
  exact Option.map_id'

def readContainers (pod : PodInfo) : List String :=
  (pod.containers.map (·.name)).filter (fun container => (answers pod.namespace_ pod.name container).toOption.isSome)

/-- A pod and its containers, by their names. -/
def WorkloadMonitoringPodLogs.outline (pod : WorkloadMonitoringPodLogs) : String × String × List String :=
  (pod.namespace_, pod.name, pod.containers.map (·.name))

theorem map_name_containerLogs (namespace_ podName : String) (containers : List String) :
    (containers.filterMap (collectWorkloadMonitoringContainerLogs answers namespace_ podName)).map (·.name) =
      containers.filter (fun container => (answers namespace_ podName container).toOption.isSome) := by
  rw [List.map_filterMap, ← List.filterMap_eq_filter]
  refine List.filterMap_congr (fun container _ => ?_)
  unfold collectWorkloadMonitoringContainerLogs
  cases hanswer : answers namespace_ podName container <;> simp [Option.guard, hanswer, Except.toOption]

theorem outline_podLogs (pod : PodInfo) :
    (collectWorkloadMonitoringPodLogs answers pod.namespace_ pod.name (pod.containers.map (·.name))).map
      WorkloadMonitoringPodLogs.outline =
        if readContainers answers pod = [] then none else some (pod.namespace_, pod.name, readContainers answers pod) := by
  have hnames := map_name_containerLogs answers pod.namespace_ pod.name (pod.containers.map (·.name))
  unfold collectWorkloadMonitoringPodLogs readContainers
  dsimp only
  rw [← hnames]
  generalize (pod.containers.map (·.name)).filterMap
    (collectWorkloadMonitoringContainerLogs answers pod.namespace_ pod.name) = logs
  cases logs <;> rfl

theorem outline_collectLogs (cfg : AgentConfig) (pods : List PodInfo) {finished : List (Nat × PodInfo)}
    (hends : finished.Perm (podLogTasks cfg pods)) :
    (collectWorkloadMonitoringLogs answers finished).map WorkloadMonitoringPodLogs.outline =
      ((loggedPods cfg pods).map (fun pod => (pod.namespace_, pod.name, readContainers answers pod))).filter
        (fun pod => pod.2.2 ≠ []) := by
  rw [collectWorkloadMonitoringLogs_eq answers cfg pods hends, List.map_filterMap, ← List.filterMap_eq_filter,
    List.filterMap_map]
  refine List.filterMap_congr (fun pod _ => ?_)
  rw [outline_podLogs]
  by_cases hnone : readContainers answers pod = [] <;> simp [Option.guard, hnone]

theorem container_of_collectLogs (cfg : AgentConfig) (pods : List PodInfo) {finished : List (Nat × PodInfo)}
    (hends : finished.Perm (podLogTasks cfg pods)) {pod : WorkloadMonitoringPodLogs}
    (hpod : pod ∈ collectWorkloadMonitoringLogs answers finished) {container : WorkloadMonitoringContainerLogs}
    (hcontainer : container ∈ pod.containers) : ∃ output,
      answers pod.namespace_ pod.name container.name = .ok output ∧ container.lines = (splitLogOutput output).1 ∧
        container.truncated = (splitLogOutput output).2 := by
  rw [collectWorkloadMonitoringLogs_eq answers cfg pods hends] at hpod
  obtain ⟨listed, -, hread⟩ := List.mem_filterMap.1 hpod
  unfold collectWorkloadMonitoringPodLogs at hread
  dsimp only at hread
  split_ifs at hread
  cases hread
  obtain ⟨name, -, hanswer⟩ := List.mem_filterMap.1 hcontainer
  unfold collectWorkloadMonitoringContainerLogs at hanswer
  split at hanswer
  · rename_i output houtput
    cases hanswer
    exact ⟨output, houtput, rfl, rfl⟩
  · cases hanswer

end Collect

/-! ## What is missing -/

/-- The text of a log: its lines, each with its end. -/
def logText (log : List String) : String := String.ofList (log.flatMap (fun line => line.toList ++ ['\n']))

/-- The last lines of a log, as many as are asked for. -/
def tailText (log : List String) : String := logText (log.drop (log.length - workloadMonitoringLogTailLines))

/-- What the API server serves of a log, asked for a tail of lines and a limit of bytes: of the text of the last lines a
beginning, which is cut only about the limit.  The limit is not exact: an answer may be longer or shorter by some
`slack`. -/
structure Served (slack : Nat) (log : List String) (output : String) : Prop where
  beginning : output.toList <+: (tailText log).toList
  limited : output.utf8ByteSize ≤ workloadMonitoringLogLimitBytes + slack
  cut : output ≠ tailText log → workloadMonitoringLogLimitBytes ≤ output.utf8ByteSize + slack

/-- The log comes up to one of the limits: it has as many lines as are asked for, or about as many bytes. -/
def Reaches (slack : Nat) (log : List String) : Prop :=
  workloadMonitoringLogTailLines ≤ log.length ∨ workloadMonitoringLogLimitBytes ≤ (tailText log).utf8ByteSize + slack

/-- The server stopped short of the limit of bytes: nothing in the answer tells it from a log that ended there. -/
def StopsShort (slack : Nat) (log : List String) (output : String) : Prop :=
  output ≠ tailText log ∧ output.utf8ByteSize < workloadMonitoringLogLimitBytes ∧
    workloadMonitoringLogLimitBytes ≤ output.utf8ByteSize + slack

/-- The lines of a log, but for a return at their end. -/
def logLines (log : List String) : List String := log.map (fun line => String.ofList (RustStr.dropReturn line.toList))

theorem lines_logText {log : List String} (h : ∀ line ∈ log, '\n' ∉ line.toList) :
    RustStr.lines (logText log).toList = log.map (fun line => RustStr.dropReturn line.toList) := by
  have hnone : ∀ l ∈ log.map String.toList, '\n' ∉ l := by
    intro l hl
    obtain ⟨line, hline, rfl⟩ := List.mem_map.1 hl
    exact h line hline
  have hended := RustStr.lines_ended hnone
  rw [List.flatMap_map, List.map_map] at hended
  rw [logText, String.toList_ofList]
  exact hended

section Output

variable {slack : Nat} {log : List String} {output : String}

/-- The whole tail: its lines, and whether they or their bytes come up to a limit. -/
theorem splitLogOutput_tail (hlines : ∀ line ∈ log, '\n' ∉ line.toList) :
    (splitLogOutput (tailText log)).1 = logLines (log.drop (log.length - workloadMonitoringLogTailLines)) ∧
      ((splitLogOutput (tailText log)).2 = true ↔ workloadMonitoringLogTailLines ≤ log.length ∨
        workloadMonitoringLogLimitBytes ≤ (tailText log).utf8ByteSize) := by
  have hread : (splitLogOutput (tailText log)).1 =
      logLines (log.drop (log.length - workloadMonitoringLogTailLines)) := by
    unfold splitLogOutput tailText
    dsimp only
    rw [lines_logText (fun line hline => hlines line (List.mem_of_mem_drop hline)), List.map_map]
    rfl
  refine ⟨hread, ?_⟩
  have hflag : (splitLogOutput (tailText log)).2 =
      (decide (workloadMonitoringLogLimitBytes ≤ (tailText log).utf8ByteSize) ||
        decide (workloadMonitoringLogTailLines ≤ (splitLogOutput (tailText log)).1.length)) := rfl
  rw [hflag, hread, logLines, List.length_map, List.length_drop, Bool.or_eq_true, decide_eq_true_eq, decide_eq_true_eq]
  omega

theorem Served.whole (h : Served slack log output) (hbelow : ¬ Reaches slack log) : output = tailText log := by
  by_contra hcut
  have hsize := h.cut hcut
  have hle := RustStr.utf8ByteSize_le_of_prefix h.beginning
  exact hbelow (.inr (by omega))

theorem drop_of_below (hbelow : log.length < workloadMonitoringLogTailLines) :
    log.drop (log.length - workloadMonitoringLogTailLines) = log := by
  rw [Nat.sub_eq_zero_of_le (Nat.le_of_lt hbelow), List.drop_zero]

/-- **A log below both limits is shown whole, and not said to be truncated.** -/
theorem split_of_below (hlines : ∀ line ∈ log, '\n' ∉ line.toList) (h : Served slack log output)
    (hbelow : ¬ Reaches slack log) :
    (splitLogOutput output).2 = false ∧ (splitLogOutput output).1 = logLines log := by
  obtain ⟨hread, hflag⟩ := splitLogOutput_tail hlines
  rw [h.whole hbelow]
  rw [Reaches, not_or, not_le, not_le] at hbelow
  rw [drop_of_below hbelow.1] at hread
  refine ⟨?_, hread⟩
  rw [Bool.eq_false_iff, ne_eq, hflag, not_or, not_le, not_le]
  exact ⟨hbelow.1, by omega⟩

/-- **What is not said to be truncated is the whole log**, unless the server stopped short of the limit. -/
theorem split_of_untruncated (hlines : ∀ line ∈ log, '\n' ∉ line.toList) (h : Served slack log output)
    (huncut : (splitLogOutput output).2 = false) :
    (splitLogOutput output).1 = logLines log ∨ StopsShort slack log output := by
  by_cases hwhole : output = tailText log
  · left
    obtain ⟨hread, hflag⟩ := splitLogOutput_tail hlines
    rw [hwhole] at huncut ⊢
    have hfew : log.length < workloadMonitoringLogTailLines := by
      by_contra hmany
      rw [hflag.2 (.inl (not_lt.1 hmany))] at huncut
      cases huncut
    rw [hread, drop_of_below hfew]
  · right
    refine ⟨hwhole, ?_, h.cut hwhole⟩
    by_contra hfull
    have hcut : (splitLogOutput output).2 = true := by
      unfold splitLogOutput
      dsimp only
      rw [decide_eq_true (not_lt.1 hfull), Bool.true_or]
    rw [hcut] at huncut
    cases huncut

end Output

/-- What a container that is reported says of its log. -/
structure LogTold (slack : Nat) (log : List String) (container : WorkloadMonitoringContainerLogs) (output : String) : Prop where
  /-- Below both limits it is shown whole. -/
  below : ¬ Reaches slack log → container.truncated = false ∧ container.lines = logLines log
  /-- Said to be whole, it is shown whole, unless the server stopped short of the limit. -/
  untruncated : container.truncated = false → container.lines = logLines log ∨ StopsShort slack log output

/-- **The log tails of a pass**, in whatever order its tasks end: the pods of the allowlist that have containers stand as
they were listed, each with the containers whose logs could be read, in their order, and those of which none could be are
left out.  And a container whose log was served as it is documented tells of that log: what keeps below both limits is
shown whole and not said to be truncated; what is not said to be truncated is shown whole, but for a return at the end of
a line, unless the server stopped short of its limit of bytes. -/
theorem pod_logs_in_order (cfg : AgentConfig) (pods : List PodInfo) (answers : LogAnswers) (slack : Nat)
    (log : String → String → String → List String) {finished : List (Nat × PodInfo)}
    (hends : finished.Perm (podLogTasks cfg pods))
    (hlines : ∀ namespace_ pod container, ∀ line ∈ log namespace_ pod container, '\n' ∉ line.toList)
    (hserved : ∀ namespace_ pod container output, answers namespace_ pod container = .ok output →
      Served slack (log namespace_ pod container) output) :
    (collectWorkloadMonitoringLogs answers finished).map WorkloadMonitoringPodLogs.outline =
        ((loggedPods cfg pods).map (fun pod => (pod.namespace_, pod.name, readContainers answers pod))).filter
          (fun pod => pod.2.2 ≠ []) ∧
      ∀ pod ∈ collectWorkloadMonitoringLogs answers finished, ∀ container ∈ pod.containers, ∃ output,
        answers pod.namespace_ pod.name container.name = .ok output ∧
          LogTold slack (log pod.namespace_ pod.name container.name) container output := by
  refine ⟨outline_collectLogs answers cfg pods hends, fun pod hpod container hcontainer => ?_⟩
  obtain ⟨output, hanswer, hshown, htruncated⟩ := container_of_collectLogs answers cfg pods hends hpod hcontainer
  have hsplit := hserved _ _ _ _ hanswer
  refine ⟨output, hanswer, fun hbelow => ?_, fun huncut => ?_⟩
  · rw [hshown, htruncated]
    exact split_of_below (hlines _ _ _) hsplit hbelow
  · rw [htruncated] at huncut
    rw [hshown]
    exact split_of_untruncated (hlines _ _ _) hsplit huncut

def loggingConfig : AgentConfig :=
  configFrom ⟨fun _ => none, fun _ => none⟩
    ((AList.singleton "WORKLOAD_MONITORING_ENABLED" "true").insert "WORKLOAD_MONITORING_NAMESPACES" "shop")
    "https://hub" "c"

/-- A pod of one container. -/
def podOfApp (name : String) : PodInfo where
  namespace_ := "shop"
  name := name
  containers := [{ name := "app", image := "repo/app:1", technology := ⟨none, none, none, none, "image", none⟩ }]

/-- Two pods whose tasks end the other way round; both logs have two lines. -/
theorem pod_logs_in_order_shop :
    let pods := ["web", "db"].map podOfApp
    let reported := collectWorkloadMonitoringLogs (fun _ _ _ => .ok "up\ndown\n") (podLogTasks loggingConfig pods).reverse
    reported.map (·.outline) = [("shop", "web", ["app"]), ("shop", "db", ["app"])] ∧
      ∀ pod ∈ reported, ∀ container ∈ pod.containers,
        container.truncated = false ∧ container.lines = ["up", "down"] := by
  have hserved : Served 64 ["up", "down"] "up\ndown\n" := by
    have htail : "up\ndown\n" = tailText ["up", "down"] := by
      unfold tailText workloadMonitoringLogTailLines
      decide +kernel
    refine ⟨by rw [htail], by decide +kernel, fun hcut => absurd htail hcut⟩
  have hbelow : ¬ Reaches 64 ["up", "down"] := by
    unfold Reaches tailText workloadMonitoringLogTailLines
    decide +kernel
  have horder := pod_logs_in_order loggingConfig
    (["web", "db"].map podOfApp)
    (fun _ _ _ => .ok "up\ndown\n") 64 (fun _ _ _ => ["up", "down"]) (List.reverse_perm _)
    (fun _ _ _ => by decide) (fun _ _ _ _ h => by cases h; exact hserved)
  refine ⟨by rw [horder.1]; rfl, fun pod hpod container hcontainer => ?_⟩
  obtain ⟨output, -, htells⟩ := horder.2 pod hpod container hcontainer
  exact htells.below hbelow

end Collector
end HubAgent
