import HubAgent.Collect
/-!
# The statuses of the probes (`MetricsStatus` and `SnapshotApiStatus` of `model.rs`)

Two sections can be empty because an API is not there, may not be read, is not ready or failed; the statuses are to tell
which, by the answer to the list that decided.  `statuses_told` says that they do, for every run of a pass: the state is
the documented one, a reason is given exactly where something is wrong, the counts are those of what was listed, and
nothing is shown that was not listed.
-/
namespace HubAgent
namespace Collector

open Interaction

/-! ## What the answers mean -/

/-- The state of an API, as the documentation of the statuses has it, by the answer to its list. -/
def documentedState : Except ListError (List DynamicObject) → String
  | .ok _ => "ok"
  | .error (.kube (.api code _ _ _)) =>
    if code = 404 then "missing"
    else if code = 403 then "forbidden"
    else if code = 503 ∨ code = 504 then "unavailable"
    else "error"
  | .error _ => "error"

abbrev CollectTrace := Trace CollectCall CollectAnswer

def CollectCall.forMetrics : CollectCall → Bool
  | .listDynamic .podMetricsV1 | .listDynamic .podMetricsV1beta1 => true
  | _ => false

def CollectCall.forSnapshotApi : CollectCall → Bool
  | .listDynamic .volumeSnapshotClass | .listDynamic .volumeSnapshot => true
  | _ => false

/-- The calls of a kind in a history. -/
def asked (p : CollectCall → Bool) (tr : CollectTrace) : CollectTrace := tr.filter (fun e => p e.call)

def dynamicEvent (kind : DynamicKind) (answer : Except ListError (List DynamicObject)) :
    Interaction.Event CollectCall CollectAnswer :=
  ⟨.listDynamic kind, answer⟩

/-- The lists of metrics that are asked for, and the one that decides: `v1beta1` after a 404 alone. -/
inductive MetricsAsked : CollectTrace → String → Except ListError (List DynamicObject) → Prop
  | v1 {answer : Except ListError (List DynamicObject)}
      (served : ∀ reason message debug, answer ≠ .error (.kube (.api 404 reason message debug))) :
      MetricsAsked [dynamicEvent .podMetricsV1 answer] "metrics.k8s.io/v1" answer
  | v1beta1 {reason message debug : String} {answer : Except ListError (List DynamicObject)} :
      MetricsAsked [dynamicEvent .podMetricsV1 (.error (.kube (.api 404 reason message debug))),
        dynamicEvent .podMetricsV1beta1 answer] "metrics.k8s.io/v1beta1" answer

/-- The status of the metrics API tells what the list that decided was answered. -/
structure MetricsStatusTold (source : String) (answer : Except ListError (List DynamicObject))
    (status : MetricsStatus) : Prop where
  source : status.source = source
  state : status.state = documentedState answer
  reason : status.reason = none ↔ status.state = "ok"
  count : status.podMetricsCount = (softList answer).length

/-- The item is the usage of a pod, by its own metadata, with quantities that add up. -/
def IsUsageOf (item : DynamicObject) (namespace_ name : String) : Prop :=
  ∃ value containers, item.toValue = .ok value ∧ value.pointer ["metadata", "namespace"] = some (.str namespace_) ∧
    value.pointer ["metadata", "name"] = some (.str name) ∧ value.pointer ["containers"] = some (.arr containers) ∧
    (sumUsage {} containers).isSome

/-- The status is told, and no usage is shown but of a pod that was listed. -/
def MetricsTold {F : Type} (tr : CollectTrace) (snapshot : Collected F) : Prop :=
  ∃ source answer, MetricsAsked (asked CollectCall.forMetrics tr) source answer ∧
    MetricsStatusTold source answer snapshot.metricsStatus ∧
    ∀ pod ∈ snapshot.pods, pod.usageCpu.isSome ∨ pod.usageMemory.isSome →
      ∃ item ∈ softList answer, IsUsageOf item pod.namespace_ pod.name

/-- Volume snapshots are asked for once their classes were listed. -/
inductive SnapshotApiAsked : CollectTrace → Except ListError (List DynamicObject) →
    Except ListError (List DynamicObject) → Prop
  | refused {error : ListError} :
      SnapshotApiAsked [dynamicEvent .volumeSnapshotClass (.error error)] (.error error) (.ok [])
  | served {classes : List DynamicObject} {snapshots : Except ListError (List DynamicObject)} :
      SnapshotApiAsked [dynamicEvent .volumeSnapshotClass (.ok classes), dynamicEvent .volumeSnapshot snapshots]
        (.ok classes) snapshots

structure SnapshotApiStatusTold (classes snapshots : Except ListError (List DynamicObject))
    (status : SnapshotApiStatus) : Prop where
  source : status.source = "snapshot.storage.k8s.io/v1"
  state : status.state = documentedState classes
  reason : status.reason = none ↔ status.state = "ok"
  classesCount : status.volumesnapshotclassesCount = (softList classes).length
  snapshotsCount : status.volumesnapshotsCount = (softList snapshots).length

/-- The status is told, and what is shown is what was listed. -/
def SnapshotApiTold {F : Type} (tr : CollectTrace) (snapshot : Collected F) : Prop :=
  ∃ classes snapshots, SnapshotApiAsked (asked CollectCall.forSnapshotApi tr) classes snapshots ∧
    SnapshotApiStatusTold classes snapshots snapshot.snapshotApiStatus ∧
    snapshot.storage.volumeSnapshotClasses = (softList classes).map mapVolumeSnapshotClass ∧
    snapshot.storage.volumeSnapshots = (softList snapshots).map mapVolumeSnapshot

/-! ## The classifiers -/

section Classifiers

variable (casing : Casing)

theorem classifyTransientError_told (error : KubeError) :
    (classifyTransientError casing error).1 = "error" ∧ (classifyTransientError casing error).2 ≠ "" := by
  refine ⟨rfl, ?_⟩
  unfold classifyTransientError
  dsimp only
  split_ifs <;> decide

theorem classifyApiError_told {forbidden missing notReady timeout : String} (hforbidden : forbidden ≠ "")
    (hmissing : missing ≠ "") (hnotReady : notReady ≠ "") (htimeout : timeout ≠ "") (error : KubeError) :
    (classifyApiError casing forbidden missing notReady timeout error).1 = documentedState (.error (.kube error)) ∧
      (classifyApiError casing forbidden missing notReady timeout error).2 ≠ "" := by
  cases error with
  | other text => exact classifyTransientError_told casing _
  | api code reason message debug =>
    unfold classifyApiError
    split
    case h_6 hnone => exact absurd rfl (hnone code reason message debug)
    all_goals simp_all [documentedState]

theorem classifyMetricsError_told (error : KubeError) :
    (classifyMetricsError casing error).1 = documentedState (.error (.kube error)) ∧
      (classifyMetricsError casing error).2 ≠ "" :=
  classifyApiError_told casing (by simp) (by simp) (by simp) (by simp) error

theorem classifySnapshotApiError_told (error : KubeError) :
    (classifySnapshotApiError casing error).1 = documentedState (.error (.kube error)) ∧
      (classifySnapshotApiError casing error).2 ≠ "" :=
  classifyApiError_told casing (by simp) (by simp) (by simp) (by simp) error

theorem classifyAnyhow_told (error : ListError) : (classifyAnyhow casing error).1 = documentedState (.error error) ∧
    (classifyAnyhow casing error).2 ≠ "" := by
  cases error with
  | kube error => exact classifyMetricsError_told casing error
  | other text => exact ⟨rfl, by simp [classifyAnyhow]⟩

end Classifiers

theorem documentedState_eq_ok {answer : Except ListError (List DynamicObject)} :
    documentedState answer = "ok" ↔ ∃ items, answer = .ok items := by
  match answer with
  | .ok items => simp [documentedState]
  | .error (.other text) => simp [documentedState]
  | .error (.kube (.other text)) => simp [documentedState]
  | .error (.kube (.api code reason message debug)) =>
    unfold documentedState
    dsimp only
    split_ifs <;> simp

theorem statusReason_eq_none {reason : String} : statusReason reason = none ↔ reason = "" := by
  unfold statusReason
  split_ifs with h <;> simp [h]

/-! ## The probes -/

section Probes

variable {p : CollectCall → Bool} {tr : CollectTrace}

theorem asked_append (tr later : CollectTrace) : asked p (tr ++ later) = asked p tr ++ asked p later :=
  List.filter_append ..

theorem asked_eq_nil {later : CollectTrace} (h : ∀ e ∈ later, p e.call = false) : asked p later = [] :=
  List.filter_eq_nil_iff.2 (fun e he => by simp [h e he])

theorem asked_concat {call : CollectCall} (h : p call = false) (answer : CollectAnswer call) (tr : CollectTrace) :
    asked p (tr ++ [⟨call, answer⟩]) = asked p tr := by
  simp [asked, h]

/-- A part that makes no such calls leaves them as they were. -/
theorem meets_unasked {α : Type} {m : Collecting α} (hm : m.Brief (fun call => p call = false)) (tr : CollectTrace) :
    m.Meets (fun _ _ => True) (fun _ tr' => asked p tr' = asked p tr) tr := by
  refine (hm.only.meets (fun _ _ _ => trivial) tr).mono (fun _ _ h => h) ?_
  rintro _ _ ⟨later, rfl, hlater⟩
  rw [asked_append, asked_eq_nil hlater, List.append_nil]

/-- No call of either probe is made in between. -/
structure Unprobed (tr tr' : CollectTrace) : Prop where
  metrics : asked CollectCall.forMetrics tr' = asked CollectCall.forMetrics tr
  snapshotApi : asked CollectCall.forSnapshotApi tr' = asked CollectCall.forSnapshotApi tr

theorem Unprobed.trans {tr' tr'' : CollectTrace} (h : Unprobed tr tr') (h' : Unprobed tr' tr'') : Unprobed tr tr'' :=
  ⟨h'.metrics.trans h.metrics, h'.snapshotApi.trans h.snapshotApi⟩

theorem meets_unprobed {α : Type} {m : Collecting α}
    (hm : m.Brief (fun call => call.forMetrics = false ∧ call.forSnapshotApi = false)) (tr : CollectTrace) :
    m.Meets (fun _ _ => True) (fun _ tr' => Unprobed tr tr') tr := by
  have hmetrics := meets_unasked (p := CollectCall.forMetrics) (hm.mono (fun _ h => h.1)) tr
  have hsnapshotApi := meets_unasked (p := CollectCall.forSnapshotApi) (hm.mono (fun _ h => h.2)) tr
  exact (hmetrics.and hsnapshotApi).mono (fun _ _ _ => trivial) (fun _ _ h => ⟨h.1, h.2⟩)

def MetricsProbed (a : List DynamicObject × MetricsStatus) (tr : CollectTrace) : Prop :=
  ∃ source answer, MetricsAsked (asked CollectCall.forMetrics tr) source answer ∧
    MetricsStatusTold source answer a.2 ∧ a.1 = softList answer

theorem meets_statusFrom (verdict : String × String) (source : String) (count : Nat) (tr : CollectTrace) :
    (statusFrom verdict source count).Meets (fun _ _ => True)
      (fun status tr' => asked CollectCall.forMetrics tr' = asked CollectCall.forMetrics tr ∧ status.source = source ∧
        status.state = verdict.1 ∧ status.reason = statusReason verdict.2 ∧ status.podMetricsCount = count) tr := by
  refine (meets_ask_bind _ _).2 ⟨trivial, fun now => ?_⟩
  refine And.intro ?_ ⟨rfl, rfl, rfl, rfl⟩
  exact asked_concat rfl now tr

theorem meets_noMetrics {source : String} {error : ListError} {verdict : String × String}
    (hasked : MetricsAsked (asked CollectCall.forMetrics tr) source (.error error))
    (hverdict : verdict.1 = documentedState (.error error) ∧ verdict.2 ≠ "") :
    (noMetrics verdict source).Meets (fun _ _ => True) MetricsProbed tr := by
  refine (meets_statusFrom verdict source 0 tr).bind (fun status tr' h => ?_)
  obtain ⟨hquiet, hsource, hstate, hreason, hcount⟩ := h
  show MetricsProbed ([], status) tr'
  refine ⟨source, .error error, hquiet ▸ hasked, ⟨hsource, hstate.trans hverdict.1, ?_, hcount⟩, rfl⟩
  rw [hreason, hstate, statusReason_eq_none, hverdict.1, documentedState_eq_ok]
  simp [hverdict.2]

theorem meets_someMetrics {source : String} {items : List DynamicObject}
    (hasked : MetricsAsked (asked CollectCall.forMetrics tr) source (.ok items)) :
    (someMetrics items source).Meets (fun _ _ => True) MetricsProbed tr := by
  refine (meets_statusFrom ("ok", "") source items.length tr).bind (fun status tr' h => ?_)
  obtain ⟨hquiet, hsource, hstate, hreason, hcount⟩ := h
  show MetricsProbed (items, status) tr'
  refine ⟨source, .ok items, hquiet ▸ hasked, ⟨hsource, hstate, ?_, hcount⟩, rfl⟩
  rw [hreason, hstate]
  simp [statusReason]

theorem meets_probePodMetrics (casing : Casing) (h : asked CollectCall.forMetrics tr = []) :
    (probePodMetrics casing).Meets (fun _ _ => True) MetricsProbed tr := by
  refine (meets_ask_bind _ _).2 ⟨trivial, fun v1 => ?_⟩
  have hv1 : asked CollectCall.forMetrics (tr ++ [⟨.listDynamic .podMetricsV1, v1⟩]) =
      [dynamicEvent .podMetricsV1 v1] := by
    rw [asked_append, h]
    rfl
  match v1, hv1 with
  | .ok items, hv1 =>
    refine meets_someMetrics ?_
    rw [hv1]
    exact .v1 (fun _ _ _ hnot => by cases hnot)
  | .error (.other text), hv1 =>
    have hasked : MetricsAsked
        (asked CollectCall.forMetrics (tr ++ [dynamicEvent .podMetricsV1 (.error (.other text))])) metricsV1
        (.error (.other text)) := by
      rw [dynamicEvent, hv1]
      exact .v1 (fun _ _ _ hnot => by cases hnot)
    exact meets_noMetrics hasked ⟨rfl, by simp⟩
  | .error (.kube error), hv1 =>
    dsimp only
    by_cases hfound : isNotFound error = true
    · rw [if_pos hfound]
      match error with
      | .other text => cases hfound
      | .api code reason message debug =>
        have hcode : code = 404 := by simpa [isNotFound] using hfound
        subst hcode
        refine (meets_ask_bind _ _).2 ⟨trivial, fun v1beta1 => ?_⟩
        have hboth : asked CollectCall.forMetrics (tr ++
            [⟨.listDynamic .podMetricsV1, .error (.kube (.api 404 reason message debug))⟩] ++
            [⟨.listDynamic .podMetricsV1beta1, v1beta1⟩]) =
            [dynamicEvent .podMetricsV1 (.error (.kube (.api 404 reason message debug))),
              dynamicEvent .podMetricsV1beta1 v1beta1] := by
          rw [asked_append, hv1]
          rfl
        match v1beta1, hboth with
        | .ok items, hboth => exact meets_someMetrics (hboth ▸ .v1beta1)
        | .error error, hboth => exact meets_noMetrics (hboth ▸ .v1beta1) (classifyAnyhow_told casing error)
    · rw [if_neg hfound]
      refine meets_noMetrics ?_ (classifyMetricsError_told casing error)
      rw [hv1]
      refine .v1 (fun _ _ _ hnot => hfound ?_)
      cases hnot
      rfl

theorem meets_probePodMetrics_alone (casing : Casing) (h : asked CollectCall.forMetrics tr = []) :
    (probePodMetrics casing).Meets (fun _ _ => True) (fun a tr' => MetricsProbed a tr' ∧
      asked CollectCall.forSnapshotApi tr' = asked CollectCall.forSnapshotApi tr) tr := by
  have hother := meets_unasked (p := CollectCall.forSnapshotApi) (brief_probePodMetrics casing rfl rfl rfl) tr
  exact ((meets_probePodMetrics casing h).and hother).mono (fun _ _ _ => trivial) (fun _ _ h => h)

def SnapshotApiProbed (a : SnapshotApi) (tr : CollectTrace) : Prop :=
  ∃ classes snapshots, SnapshotApiAsked (asked CollectCall.forSnapshotApi tr) classes snapshots ∧
    SnapshotApiStatusTold classes snapshots a.status ∧ a.classes = softList classes ∧ a.snapshots = softList snapshots

theorem meets_statusSnapshotFrom {verdict : String × String} {classes snapshots : Except ListError (List DynamicObject)}
    (hasked : SnapshotApiAsked (asked CollectCall.forSnapshotApi tr) classes snapshots)
    (hstate : verdict.1 = documentedState classes) (hreason : verdict.2 = "" ↔ verdict.1 = "ok") :
    (statusSnapshotFrom verdict (softList classes) (softList snapshots)).Meets (fun _ _ => True) SnapshotApiProbed
      tr := by
  refine (meets_ask_bind _ _).2 ⟨trivial, fun now => ?_⟩
  have hquiet : asked CollectCall.forSnapshotApi (tr ++ [⟨.snapshotApiNowMs, now⟩]) =
      asked CollectCall.forSnapshotApi tr := asked_concat rfl now tr
  exact Exists.intro classes ⟨snapshots, hquiet ▸ hasked, ⟨rfl, hstate, statusReason_eq_none.trans hreason, rfl, rfl⟩,
    rfl, rfl⟩

theorem meets_probeSnapshotApi (casing : Casing) (h : asked CollectCall.forSnapshotApi tr = []) :
    (probeSnapshotApi casing).Meets (fun _ _ => True) SnapshotApiProbed tr := by
  refine (meets_ask_bind _ _).2 ⟨trivial, fun classes => ?_⟩
  have hclasses : asked CollectCall.forSnapshotApi (tr ++ [⟨.listDynamic .volumeSnapshotClass, classes⟩]) =
      [dynamicEvent .volumeSnapshotClass classes] := by
    rw [asked_append, h]
    rfl
  have hrefused {error : ListError} {verdict : String × String}
      (hasked : asked CollectCall.forSnapshotApi (tr ++ [dynamicEvent .volumeSnapshotClass (.error error)]) =
        [dynamicEvent .volumeSnapshotClass (.error error)])
      (hverdict : verdict.1 = documentedState (.error error) ∧ verdict.2 ≠ "") :
      (statusSnapshotFrom verdict [] []).Meets (fun _ _ => True) SnapshotApiProbed
        (tr ++ [dynamicEvent .volumeSnapshotClass (.error error)]) := by
    have hrefused : SnapshotApiAsked (asked CollectCall.forSnapshotApi
        (tr ++ [dynamicEvent .volumeSnapshotClass (.error error)])) (.error error) (.ok []) := by
      rw [hasked]
      exact .refused
    refine meets_statusSnapshotFrom hrefused hverdict.1 ?_
    rw [hverdict.1, documentedState_eq_ok]
    simp [hverdict.2]
  match classes, hclasses with
  | .ok classes, hclasses =>
    refine (meets_ask_bind _ _).2 ⟨trivial, fun snapshots => ?_⟩
    have hboth : asked CollectCall.forSnapshotApi (tr ++ [⟨.listDynamic .volumeSnapshotClass, .ok classes⟩] ++
        [⟨.listDynamic .volumeSnapshot, snapshots⟩]) =
        [dynamicEvent .volumeSnapshotClass (.ok classes), dynamicEvent .volumeSnapshot snapshots] := by
      rw [asked_append, hclasses]
      rfl
    show (statusSnapshotFrom ("ok", "") (softList (.ok classes)) (softList snapshots)).Meets _ _ _
    exact meets_statusSnapshotFrom (hboth ▸ .served) rfl ⟨fun _ => rfl, fun _ => rfl⟩
  | .error (.other text), hclasses =>
    show (statusSnapshotFrom ("error", "transient: io") [] []).Meets _ _ _
    exact hrefused hclasses ⟨rfl, by simp⟩
  | .error (.kube error), hclasses =>
    dsimp only
    by_cases hfound : isNotFound error = true
    · rw [if_pos hfound]
      match error with
      | .other text => cases hfound
      | .api code reason message debug =>
        have hcode : code = 404 := by simpa [isNotFound] using hfound
        subst hcode
        show (statusSnapshotFrom ("missing", "CSI snapshot CRDs not installed") [] []).Meets _ _ _
        exact hrefused hclasses ⟨rfl, by simp⟩
    · rw [if_neg hfound]
      exact hrefused hclasses (classifySnapshotApiError_told casing error)

theorem meets_probeSnapshotApi_alone (casing : Casing) (h : asked CollectCall.forSnapshotApi tr = []) :
    (probeSnapshotApi casing).Meets (fun _ _ => True) (fun a tr' => SnapshotApiProbed a tr' ∧
      asked CollectCall.forMetrics tr' = asked CollectCall.forMetrics tr) tr := by
  have hother := meets_unasked (p := CollectCall.forMetrics) (brief_probeSnapshotApi casing rfl rfl rfl) tr
  exact ((meets_probeSnapshotApi casing h).and hother).mono (fun _ _ _ => trivial) (fun _ _ h => h)

/-! ## The usage of the pods -/

theorem meets_mapPods (casing : Casing) (podUsage : PodUsage) (techDetectProcess : Bool) :
    ∀ (pods : List ListedPod) (tr : CollectTrace), (mapPods casing podUsage techDetectProcess pods).Meets
      (fun _ _ => True) (fun infos tr' => Unprobed tr tr' ∧ ∀ info ∈ infos,
        info.usageCpu.isSome ∨ info.usageMemory.isSome → (podUsage.get (info.namespace_, info.name)).isSome) tr
  | [], _ => And.intro ⟨rfl, rfl⟩ (fun _ hinfo => absurd hinfo List.not_mem_nil)
  | pod :: pods, tr => by
    refine (meets_unprobed (brief_podNowSecs pod ⟨rfl, rfl⟩) tr).bind (fun now tr' hnow => ?_)
    refine (meets_mapPods casing podUsage techDetectProcess pods tr').bind (fun infos tr'' hinfos => ?_)
    refine And.intro (hnow.trans hinfos.1) ?_
    intro info hinfo hshown
    rcases List.mem_cons.1 hinfo with rfl | hlater
    · unfold mapPod at hshown ⊢
      dsimp only at hshown ⊢
      cases hget : podUsage.get (pod.metadata.namespace_.getD "", pod.metadata.name.getD "") with
      | some totals => rfl
      | none => simp [hget] at hshown
    · exact hinfos.2 info hlater hshown

theorem isUsageOf_of_mapPodMetrics {item : DynamicObject} {namespace_ name : String} {totals : PodUsageTotals}
    (h : mapPodMetrics item = some ((namespace_, name), totals)) : IsUsageOf item namespace_ name := by
  have asStr_eq {j : Json} {text : String} (hj : j.asStr = some text) : j = .str text := by
    cases j <;> cases hj
    rfl
  simp only [mapPodMetrics, Option.bind_eq_bind, Option.bind_eq_some_iff, Option.pure_def, Option.some.injEq,
    Prod.mk.injEq] at h
  obtain ⟨value, hvalue, ns, ⟨j, hj, hns⟩, n, ⟨j', hj', hn⟩, containers, ⟨j'', hj'', hcontainers⟩, sums, hsums, ⟨rfl, rfl⟩,
    rfl⟩ := h
  cases asStr_eq hns
  cases asStr_eq hn
  cases j'' <;> cases hcontainers
  refine ⟨value, _, ?_, hj, hj', hj'', Option.isSome_iff_exists.2 ⟨_, hsums⟩⟩
  cases hitem : item.toValue <;> rw [hitem] at hvalue <;> cases hvalue
  rfl

theorem exists_of_podUsage {items : List DynamicObject} {namespace_ name : String}
    (h : ((buildPodUsageIndex items).get (namespace_, name)).isSome) : ∃ item ∈ items, IsUsageOf item namespace_ name := by
  obtain ⟨totals, htotals⟩ := Option.isSome_iff_exists.1 h
  obtain ⟨⟨key', totals'⟩, hfound, -⟩ := Option.map_eq_some_iff.1 htotals
  have hkey : key' = (namespace_, name) := by simpa using List.find?_some hfound
  obtain ⟨item, hitem, hread⟩ := List.mem_filterMap.1 (List.mem_reverse.1 (List.mem_of_find?_eq_some hfound))
  rw [hkey] at hread
  exact ⟨item, hitem, isUsageOf_of_mapPodMetrics hread⟩

end Probes

/-! ## The pass -/

section Pass

variable {F : Type} (env : DependencyExternals) (f64 : F64 F) (cfg : AgentConfig)

theorem meets_collect : (collect env f64 cfg).Meets (fun _ _ => True)
    (fun snapshot tr => MetricsTold tr snapshot ∧ SnapshotApiTold tr snapshot) [] := by
  refine (meets_unprobed (brief_listAll (fun _ => ⟨rfl, rfl⟩) _ _) []).bind (fun lists tr hlists => ?_)
  refine (meets_unprobed (brief_apiserverVersion ⟨rfl, rfl⟩) tr).bind (fun version tr₁ hversion => ?_)
  refine (meets_unprobed (brief_kubeSystemUid ⟨rfl, rfl⟩) tr₁).bind (fun k8sUid tr₂ huid => ?_)
  have hstart : Unprobed [] tr₂ := (hlists.trans hversion).trans huid
  refine (meets_probePodMetrics_alone env.casing hstart.metrics).bind (fun podMetrics tr₃ hprobed => ?_)
  refine (meets_probeSnapshotApi_alone env.casing (hprobed.2.trans hstart.snapshotApi)).bind
    (fun snapshotApi tr₄ hprobed' => ?_)
  refine (meets_unprobed (brief_probeOpenshiftVersion _ ⟨rfl, rfl⟩) tr₄).bind (fun openshift tr₅ h₅ => ?_)
  refine (meets_unprobed (brief_dependenciesOf env cfg _ _ ⟨rfl, rfl⟩) tr₅).bind (fun dependencies tr₆ h₆ => ?_)
  refine (meets_unprobed (brief_appMetricsOf f64 cfg _ (fun _ => ⟨rfl, rfl⟩)) tr₆).bind (fun appMetrics tr₇ h₇ => ?_)
  refine (meets_mapPods _ _ _ _ tr₇).bind (fun pods tr₈ h₈ => ?_)
  have hquiet : Unprobed tr₄ tr₈ := ((h₅.trans h₆).trans h₇).trans h₈.1
  obtain ⟨⟨source, answer, hasked, htold, hitems⟩, -⟩ := hprobed
  obtain ⟨⟨classes, snapshots, hasked', htold', hclasses, hsnapshots⟩, hmetrics⟩ := hprobed'
  refine And.intro ⟨source, answer, (hquiet.metrics.trans hmetrics) ▸ hasked, htold, fun pod hpod hshown => ?_⟩
    ⟨classes, snapshots, hquiet.snapshotApi ▸ hasked', htold', ?_, ?_⟩
  · rw [← hitems]
    exact exists_of_podUsage (h₈.2 pod hpod hshown)
  · exact congrArg (List.map mapVolumeSnapshotClass) hclasses
  · exact congrArg (List.map mapVolumeSnapshot) hsnapshots

/-- **The statuses tell what happened.**  In every run of a pass, whatever it is answered: the metrics are listed at
`v1`, and at `v1beta1` after a 404 alone; the volume snapshots are listed once their classes were; each status has the
state that is documented for the answer that decided, a reason exactly where the state is not `ok`, and the counts of
what was listed; and of usage and of volume snapshots nothing is shown that was not. -/
theorem statuses_told (o : CollectOracle) : ∃ snapshot, ((collect env f64 cfg).run o []).1 = some snapshot ∧
    MetricsTold ((collect env f64 cfg).trace o) snapshot ∧
    SnapshotApiTold ((collect env f64 cfg).trace o) snapshot := by
  obtain ⟨snapshot, hsnapshot⟩ := collect_ends env f64 cfg o
  exact ⟨snapshot, hsnapshot, result_meets o _ (meets_collect env f64 cfg) snapshot hsnapshot⟩

end Pass

end Collector
end HubAgent
