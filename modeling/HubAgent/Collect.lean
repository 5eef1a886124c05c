import HubAgent.AppMetrics
import HubAgent.Lib.Alike
import HubAgent.NetworkInventory
import HubAgent.WarnSuppression
/-!
# Collecting a snapshot (`collect` of `collector.rs`)

A pass lists every kind of object, asks for the version of the API server and for the identity of the cluster, and
probes two APIs that a cluster need not have.  A list that fails counts as empty.  What it then asks for depends on the
answers: the OpenShift version on the platform, the scrapes on the services.
-/
namespace HubAgent
namespace Collector

open Interaction
open Interaction.Prog (ask)

/-! ## What is asked -/

inductive ListKind where
  | nodes
  | namespaces
  | deployments
  | statefulsets
  | daemonsets
  | pods
  | services
  | ingresses
  | networkPolicies
  | clusterRoleBindings
  | configmaps
  | secrets
  | storageClasses
  | persistentVolumes
  | persistentVolumeClaims
  | vpa
  | cronjobs
  | events
  deriving DecidableEq

abbrev Obj : ListKind → Type
  | .nodes => ListedNode
  | .namespaces => ListedNamespace
  | .deployments => ListedDeployment
  | .statefulsets => Workload .statefulSet
  | .daemonsets => Workload .daemonSet
  | .pods => ListedPod
  | .services => ListedService
  | .ingresses => Ingress
  | .networkPolicies => NetworkPolicy
  | .clusterRoleBindings => ClusterRoleBinding
  | .configmaps => ConfigMap
  | .secrets => Secret
  | .storageClasses => StorageClass
  | .persistentVolumes => PersistentVolume
  | .persistentVolumeClaims => PersistentVolumeClaim
  | .vpa => DynamicObject
  | .cronjobs => CronJob
  | .events => Event

/-- `anyhow::Error` of a list: an error of the client, or any other with its text. -/
inductive ListError where
  | kube (error : KubeError)
  | other (text : String)
  deriving DecidableEq

def ListError.text : ListError → String
  | .kube error => error.display
  | .other text => text

inductive DynamicKind where
  | podMetricsV1
  | podMetricsV1beta1
  | volumeSnapshotClass
  | volumeSnapshot
  | clusterVersion
  deriving DecidableEq

inductive CollectCall where
  | list (kind : ListKind)
  | listDynamic (kind : DynamicKind)
  | apiserverVersion
  | getKubeSystem
  /-- The clock, as the status of the metrics API takes it down. -/
  | metricsNowMs
  /-- The clock, as the status of the snapshot API takes it down. -/
  | snapshotApiNowMs
  /-- The clock, as the age of a pod is told; it has no reading before 1970. -/
  | nowSecs
  /-- `tetragon::snapshot_ndjson` and `tetragon::coverage_snapshot`. -/
  | tetragonSnapshot
  /-- A scrape of each of the targets; there is none where the HTTP client cannot be built. -/
  | scrape (targets : List AppMetricsTargetSpec)

/-- Of a scrape, the targets in the order in which their tasks end, and what each meets with. -/
def CollectAnswer : CollectCall → Type
  | .list kind => Except ListError (List (Obj kind))
  | .listDynamic _ => Except ListError (List DynamicObject)
  | .apiserverVersion => Option String
  | .getKubeSystem => Option String
  | .metricsNowMs | .snapshotApiNowMs => Nat
  | .nowSecs => Option Nat
  | .tetragonSnapshot => String × CoverageSnapshot
  | .scrape _ => Option (List AppMetricsTargetSpec × (AppMetricsTargetSpec → ScrapeAnswer))

abbrev Collecting := Prog CollectCall CollectAnswer
abbrev CollectOracle := Oracle CollectCall CollectAnswer

abbrev asking (call : CollectCall) : Collecting (CollectAnswer call) := ask call

def listOf (kind : ListKind) : Collecting (Except ListError (List (Obj kind))) := asking (.list kind)

def listDynamicAll (kind : DynamicKind) : Collecting (Except ListError (List DynamicObject)) :=
  asking (.listDynamic kind)

def apiserverVersion : Collecting (Option String) := asking .apiserverVersion
def kubeSystemUid : Collecting (Option String) := asking .getKubeSystem
def metricsNowMs : Collecting Nat := asking .metricsNowMs
def snapshotApiNowMs : Collecting Nat := asking .snapshotApiNowMs
def nowSecs : Collecting (Option Nat) := asking .nowSecs
def tetragonSnapshot : Collecting (String × CoverageSnapshot) := asking .tetragonSnapshot

def scrapeAll (targets : List AppMetricsTargetSpec) :
    Collecting (Option (List AppMetricsTargetSpec × (AppMetricsTargetSpec → ScrapeAnswer))) :=
  asking (.scrape targets)

/-! ## Lists -/

abbrev Lists := (kind : ListKind) → Except ListError (List (Obj kind))

def softList {α : Type} : Except ListError (List α) → List α
  | .ok items => items
  | .error _ => []

/-- The kinds that a pass lists; Secrets only where the configuration has it. -/
def listKinds (cfg : Config) : List ListKind :=
  [.nodes, .namespaces, .deployments, .statefulsets, .daemonsets, .pods, .services, .ingresses, .networkPolicies,
    .clusterRoleBindings, .configmaps] ++ (if cfg.collectSecrets then [.secrets] else []) ++
  [.storageClasses, .persistentVolumes, .persistentVolumeClaims, .vpa, .cronjobs, .events]

/-- The lists, one after the other; what was not asked for is empty. -/
def listAll : List ListKind → Lists → Collecting Lists
  | [], lists => pure lists
  | kind :: kinds, lists => do
    let items ← listOf kind
    listAll kinds (Function.update lists kind items)

/-! ## The probes -/

structure MetricsStatus extends Agent.MetricsStatus where
  lastAttemptAtMs : Nat

structure SnapshotApiStatus extends Agent.SnapshotApiStatus where
  lastAttemptAtMs : Nat

def isNotFound : KubeError → Bool
  | .api code _ _ _ => code == 404
  | .other _ => false

def classifyTransientError (casing : Casing) (error : KubeError) : String × String :=
  let msg := (casing.toLowercase error.display).toList
  ("error",
    if Tech.containsText "timeout" msg || Tech.containsText "timed out" msg then "transient: timeout"
    else if Tech.containsText "connection refused" msg then "transient: connection refused"
    else if Tech.containsText "dns" msg || Tech.containsText "name resolution" msg then "transient: dns"
    else if Tech.containsText "tls" msg || Tech.containsText "certificate" msg then "transient: tls"
    else "transient: io")

/-- An answer of the API server is told by its code, with a reason for each; anything else is transient. -/
def classifyApiError (casing : Casing) (forbidden missing notReady timeout : String) : KubeError → String × String
  | .api 403 _ _ _ => ("forbidden", forbidden)
  | .api 404 _ _ _ => ("missing", missing)
  | .api 503 _ _ _ => ("unavailable", notReady)
  | .api 504 _ _ _ => ("unavailable", timeout)
  | .api _ _ _ _ => ("error", "kube API error")
  | error => classifyTransientError casing error

def classifyMetricsError (casing : Casing) : KubeError → String × String :=
  classifyApiError casing "ServiceAccount missing metrics.k8s.io RBAC" "metrics-server not installed"
    "metrics-server registered but not ready" "metrics-server timeout"

def classifySnapshotApiError (casing : Casing) : KubeError → String × String :=
  classifyApiError casing "ServiceAccount missing snapshot.storage.k8s.io RBAC" "CSI snapshot CRDs not installed"
    "CSI snapshot API registered but not ready" "CSI snapshot API timeout"

def classifyAnyhow (casing : Casing) : ListError → String × String
  | .kube error => classifyMetricsError casing error
  | .other _ => ("error", "transient: io")

def metricsV1 : String := "metrics.k8s.io/v1"
def metricsV1beta1 : String := "metrics.k8s.io/v1beta1"
def snapshotV1 : String := "snapshot.storage.k8s.io/v1"

def statusReason (reason : String) : Option String := if reason = "" then none else some reason

def statusFrom (verdict : String × String) (source : String) (podMetricsCount : Nat) : Collecting MetricsStatus := do
  let lastAttemptAtMs ← metricsNowMs
  return { state := verdict.1, reason := statusReason verdict.2, source, podMetricsCount, lastAttemptAtMs }

/-- What is told of the metrics API where a list of it failed. -/
def noMetrics (verdict : String × String) (source : String) : Collecting (List DynamicObject × MetricsStatus) := do
  let status ← statusFrom verdict source 0
  return ([], status)

def someMetrics (items : List DynamicObject) (source : String) : Collecting (List DynamicObject × MetricsStatus) := do
  let status ← statusFrom ("ok", "") source items.length
  return (items, status)

def probePodMetrics (casing : Casing) : Collecting (List DynamicObject × MetricsStatus) := do
  let v1 ← listDynamicAll .podMetricsV1
  match v1 with
  | .ok items => someMetrics items metricsV1
  | .error (.kube error) =>
    if isNotFound error then
      let v1beta1 ← listDynamicAll .podMetricsV1beta1
      match v1beta1 with
      | .ok items => someMetrics items metricsV1beta1
      | .error error => noMetrics (classifyAnyhow casing error) metricsV1beta1
    else noMetrics (classifyMetricsError casing error) metricsV1
  | .error (.other _) => noMetrics ("error", "transient: io") metricsV1

structure SnapshotApi where
  classes : List DynamicObject
  snapshots : List DynamicObject
  status : SnapshotApiStatus

def statusSnapshotFrom (verdict : String × String) (classes snapshots : List DynamicObject) :
    Collecting SnapshotApi := do
  let lastAttemptAtMs ← snapshotApiNowMs
  return {
    classes, snapshots
    status :=
      { state := verdict.1, reason := statusReason verdict.2, source := snapshotV1
        volumesnapshotclassesCount := classes.length, volumesnapshotsCount := snapshots.length, lastAttemptAtMs } }

def probeSnapshotApi (casing : Casing) : Collecting SnapshotApi := do
  let classes ← listDynamicAll .volumeSnapshotClass
  match classes with
  | .ok classes =>
    let snapshots ← listDynamicAll .volumeSnapshot
    statusSnapshotFrom ("ok", "") classes (softList snapshots)
  | .error (.kube error) =>
    if isNotFound error then statusSnapshotFrom ("missing", "CSI snapshot CRDs not installed") [] []
    else statusSnapshotFrom (classifySnapshotApiError casing error) [] []
  | .error (.other _) => statusSnapshotFrom ("error", "transient: io") [] []

/-- Asked for on OpenShift alone. -/
def probeOpenshiftVersion (platform : Option String) : Collecting (Option String) :=
  if platform = some "openshift" then do
    let versions ← listDynamicAll .clusterVersion
    return (softList versions).findSome? (fun item => item.toValue.toOption.bind extractOpenshiftVersion)
  else pure none

/-! ## The snapshot -/

structure OperationalMaturity extends OperationalMaturityInventory where
  descheduler : DeschedulerInfo
  vpa : VpaInfo

/-- What `collect` returns. -/
structure Collected (F : Type) where
  k8sUid : Option String
  cluster : ClusterInfo
  namespaces : List NamespaceInfo
  workloads : Workloads
  pods : List PodInfo
  network : NetworkInventory
  security : SecurityInventory
  operationalMaturity : OperationalMaturity
  dependencies : DependencyInventory
  appMetrics : List (AppMetricsTarget F)
  configuration : ConfigurationInventory
  storage : StorageInventory
  events : List EventInfo
  metricsStatus : MetricsStatus
  snapshotApiStatus : SnapshotApiStatus

section Collect

variable {F : Type} (env : DependencyExternals) (f64 : F64 F) (cfg : AgentConfig)

def dependenciesOf (pods : List ListedPod) (services : List ListedService) : Collecting DependencyInventory :=
  let inventory := fun (snapshot : String × CoverageSnapshot) => collectDependencyInventory env
    cfg.collectDependenciesTetragon snapshot.1 snapshot.2 (pods.map ListedPod.toPod)
    (services.map ListedService.toService)
  if cfg.collectDependenciesTetragon then do
    let snapshot ← tetragonSnapshot
    return inventory snapshot
  else pure (inventory ("", {}))

def appMetricsOf (services : List ListedService) : Collecting (List (AppMetricsTarget F)) :=
  match appMetricsTargets cfg (services.map ListedService.metered) with
  | [] => pure []
  | targets => do
    let scraped ← scrapeAll targets
    return match scraped with
      | some (finished, answers) =>
        collectAppMetrics f64 cfg.appMetricsAllowlist cfg.appMetricsMaxSamples answers finished
      | none => []

def podNowSecs (pod : ListedPod) : Collecting (Option Nat) :=
  if pod.creationTimestamp.isSome then nowSecs else pure none

def mapPods (casing : Casing) (podUsage : PodUsage) (techDetectProcess : Bool) :
    List ListedPod → Collecting (List PodInfo)
  | [] => pure []
  | pod :: pods => do
    let now ← podNowSecs pod
    let infos ← mapPods casing podUsage techDetectProcess pods
    return mapPod casing podUsage techDetectProcess now pod :: infos

def workloadsOf (lists : Lists) : Workloads where
  deployments := (softList (lists .deployments)).map mapDeployment
  statefulsets := (softList (lists .statefulsets)).map mapStatefulset
  daemonsets := (softList (lists .daemonsets)).map mapDaemonset

def networkOf (lists : Lists) : NetworkInventory where
  services := (sortServicesForSnapshot (softList (lists .services))).map mapService
  ingresses := (sortIngressesForSnapshot (softList (lists .ingresses))).map mapIngress

def securityOf (lists : Lists) : SecurityInventory :=
  collectSecurity (softList (lists .networkPolicies)) (softList (lists .clusterRoleBindings))
    ((softList (lists .namespaces)).map mapNamespace)

def operationalMaturityOf (lists : Lists) : OperationalMaturity where
  toOperationalMaturityInventory := collectScheduledJobs (softList (lists .cronjobs))
  descheduler := detectDescheduler (softList (lists .deployments))
  vpa := buildVpaInfo (softList (lists .vpa))

def configurationOf (lists : Lists) : ConfigurationInventory :=
  collectConfiguration cfg.toConfig
    ⟨(lists .configmaps).mapError ListError.text, (lists .secrets).mapError ListError.text⟩

def storageOf (lists : Lists) (snapshotApi : SnapshotApi) : StorageInventory where
  storageClasses := (softList (lists .storageClasses)).map mapStorageClass
  persistentVolumes := (softList (lists .persistentVolumes)).map mapPersistentVolume
  persistentVolumeClaims := (softList (lists .persistentVolumeClaims)).map mapPersistentVolumeClaim
  volumeSnapshotClasses := snapshotApi.classes.map mapVolumeSnapshotClass
  volumeSnapshots := snapshotApi.snapshots.map mapVolumeSnapshot

def collect : Collecting (Collected F) := do
  let lists ← listAll (listKinds cfg.toConfig) (fun _ => .ok [])
  let version ← apiserverVersion
  let k8sUid ← kubeSystemUid
  let podMetrics ← probePodMetrics env.casing
  let snapshotApi ← probeSnapshotApi env.casing
  let cluster := buildClusterInfo env.casing version (softList (lists .nodes))
  let openshiftVersion ← probeOpenshiftVersion cluster.platform
  let services := sortServicesForSnapshot (softList (lists .services))
  let dependencies ← dependenciesOf env cfg (softList (lists .pods)) services
  let appMetrics ← appMetricsOf f64 cfg services
  let pods ← mapPods env.casing (buildPodUsageIndex podMetrics.1) cfg.techDetectProcess (softList (lists .pods))
  return {
    k8sUid
    cluster := { cluster with openshiftVersion }
    namespaces := (softList (lists .namespaces)).map mapNamespace
    workloads := workloadsOf lists
    pods
    network := networkOf lists
    security := securityOf lists
    operationalMaturity := operationalMaturityOf lists
    dependencies, appMetrics
    configuration := configurationOf cfg lists
    storage := storageOf lists snapshotApi
    events := collectEvents (softList (lists .events))
    metricsStatus := podMetrics.2
    snapshotApiStatus := snapshotApi.status }

/-! ## What the parts ask -/

variable {C : CollectCall → Prop}

theorem brief_apiserverVersion (h : C .apiserverVersion) : apiserverVersion.Brief C := brief_ask h

theorem brief_kubeSystemUid (h : C .getKubeSystem) : kubeSystemUid.Brief C := brief_ask h

theorem brief_listAll (h : ∀ kind, C (.list kind)) : ∀ (kinds : List ListKind) (lists : Lists),
    (listAll kinds lists).Brief C
  | [], _ => brief_pure _
  | kind :: kinds, _ => brief_bind (fun _ => brief_listAll h kinds _) (brief_ask (h kind))

theorem brief_probePodMetrics (casing : Casing) (hv1 : C (.listDynamic .podMetricsV1))
    (hv1beta1 : C (.listDynamic .podMetricsV1beta1)) (hclock : C .metricsNowMs) : (probePodMetrics casing).Brief C := by
  have hstatus (verdict : String × String) (source : String) (count : Nat) :
      (statusFrom verdict source count).Brief C := brief_bind (fun _ => brief_pure _) (brief_ask hclock)
  have hnone (verdict : String × String) (source : String) : (noMetrics verdict source).Brief C :=
    brief_bind (fun _ => brief_pure _) (hstatus _ _ _)
  have hsome (items : List DynamicObject) (source : String) : (someMetrics items source).Brief C :=
    brief_bind (fun _ => brief_pure _) (hstatus _ _ _)
  refine brief_bind (fun v1 => ?_) (brief_ask hv1)
  match v1 with
  | .ok items => exact hsome _ _
  | .error (.other text) => exact hnone _ _
  | .error (.kube error) =>
    dsimp only
    split
    · refine brief_bind (fun v1beta1 => ?_) (brief_ask hv1beta1)
      cases v1beta1 with
      | ok items => exact hsome _ _
      | error error => exact hnone _ _
    · exact hnone _ _

theorem brief_probeSnapshotApi (casing : Casing) (hclasses : C (.listDynamic .volumeSnapshotClass))
    (hsnapshots : C (.listDynamic .volumeSnapshot)) (hclock : C .snapshotApiNowMs) :
    (probeSnapshotApi casing).Brief C := by
  have hstatus (verdict : String × String) (classes snapshots : List DynamicObject) :
      (statusSnapshotFrom verdict classes snapshots).Brief C := brief_bind (fun _ => brief_pure _) (brief_ask hclock)
  refine brief_bind (fun classes => ?_) (brief_ask hclasses)
  match classes with
  | .ok classes => exact brief_bind (fun _ => hstatus _ _ _) (brief_ask hsnapshots)
  | .error (.other text) => exact hstatus _ _ _
  | .error (.kube error) =>
    dsimp only
    split <;> exact hstatus _ _ _

theorem brief_probeOpenshiftVersion (platform : Option String) (h : C (.listDynamic .clusterVersion)) :
    (probeOpenshiftVersion platform).Brief C := by
  unfold probeOpenshiftVersion
  split
  · exact brief_bind (fun _ => brief_pure _) (brief_ask h)
  · exact brief_pure _

theorem brief_dependenciesOf (pods : List ListedPod) (services : List ListedService) (h : C .tetragonSnapshot) :
    (dependenciesOf env cfg pods services).Brief C := by
  unfold dependenciesOf
  dsimp only
  split
  · exact brief_bind (fun _ => brief_pure _) (brief_ask h)
  · exact brief_pure _

theorem brief_appMetricsOf (services : List ListedService) (h : ∀ targets, C (.scrape targets)) :
    (appMetricsOf f64 cfg services).Brief C := by
  unfold appMetricsOf
  split
  · exact brief_pure _
  · exact brief_bind (fun _ => brief_pure _) (brief_ask (h _))

theorem brief_podNowSecs (pod : ListedPod) (h : C .nowSecs) : (podNowSecs pod).Brief C := by
  unfold podNowSecs
  split
  · exact brief_ask h
  · exact brief_pure _

theorem brief_mapPods (casing : Casing) (podUsage : PodUsage) (techDetectProcess : Bool) (h : C .nowSecs) :
    ∀ pods : List ListedPod, (mapPods casing podUsage techDetectProcess pods).Brief C
  | [] => brief_pure _
  | pod :: pods => brief_bind
      (fun _ => brief_bind (fun _ => brief_pure _) (brief_mapPods casing podUsage techDetectProcess h pods))
      (brief_podNowSecs pod h)

/-- **A pass ends whatever it is answered.** -/
theorem brief_collect : (collect env f64 cfg).Brief (fun _ => True) := by
  refine brief_bind (fun lists => ?_) (brief_listAll (fun _ => trivial) _ _)
  refine brief_bind (fun version => ?_) (brief_apiserverVersion trivial)
  refine brief_bind (fun k8sUid => ?_) (brief_kubeSystemUid trivial)
  refine brief_bind (fun podMetrics => ?_) (brief_probePodMetrics _ trivial trivial trivial)
  refine brief_bind (fun snapshotApi => ?_) (brief_probeSnapshotApi _ trivial trivial trivial)
  refine brief_bind (fun openshiftVersion => ?_) (brief_probeOpenshiftVersion _ trivial)
  refine brief_bind (fun dependencies => ?_) (brief_dependenciesOf env cfg _ _ trivial)
  refine brief_bind (fun appMetrics => ?_) (brief_appMetricsOf f64 cfg _ (fun _ => trivial))
  exact brief_bind (fun pods => brief_pure _) (brief_mapPods _ _ _ trivial _)

theorem collect_ends (o : CollectOracle) : ∃ snapshot, ((collect env f64 cfg).run o []).1 = some snapshot := by
  have hends := (brief_collect env f64 cfg).endsUnder (fun _ _ _ => True) []
  obtain ⟨snapshot, hsnapshot, -⟩ := run_endsUnder (o := o) (fun _ _ => trivial) hends
  exact ⟨snapshot, hsnapshot⟩

/-! ## Lists that are answered alike -/

variable {advises : CollectCall → Bool} {Rel : (call : CollectCall) → CollectAnswer call → CollectAnswer call → Prop}

/-- Where the answers to the lists that are no advice are related, so is what comes of all of them. -/
theorem listAll_alike : ∀ (kinds : List ListKind) {lists lists' : Lists},
    (∀ kind, advises (.list kind) = false → Rel (.list kind) (lists kind) (lists' kind)) →
    Alike advises Rel (fun a b => ∀ kind, advises (.list kind) = false → Rel (.list kind) (a kind) (b kind))
      (listAll kinds lists) (listAll kinds lists')
  | [], _, _, h => .ret h
  | kind :: kinds, lists, lists', h => by
    have hupdate (x x' : Except ListError (List (Obj kind))) (hx : advises (.list kind) = false → Rel (.list kind) x x')
        (other : ListKind) (hother : advises (.list other) = false) :
        Rel (.list other) (Function.update lists kind x other) (Function.update lists' kind x' other) := by
      by_cases hsame : other = kind
      · subst hsame
        simpa using hx hother
      · rw [Function.update_of_ne hsame, Function.update_of_ne hsame]
        exact h other hother
    cases hadvice : advises (.list kind) with
    | false => exact alike_ask_bind hadvice (fun x x' hx => listAll_alike kinds (hupdate x x' (fun _ => hx)))
    | true =>
      refine alike_advice (brief_ask hadvice) (brief_ask hadvice) (fun x x' => listAll_alike kinds (hupdate x x' ?_))
      exact fun hread => absurd (hadvice.symm.trans hread) (by decide)

end Collect

/-! ## A quiet cluster -/

def clusterOf (lists : Lists) : CollectOracle := fun _ call =>
  match call with
  | .list kind => lists kind
  | .listDynamic _ => (.error (.other "connection closed") : Except ListError (List DynamicObject))
  | .apiserverVersion => (none : Option String)
  | .getKubeSystem => (none : Option String)
  | .metricsNowMs => (0 : Nat)
  | .snapshotApiNowMs => (0 : Nat)
  | .nowSecs => (none : Option Nat)
  | .tetragonSnapshot => (("", {}) : String × CoverageSnapshot)
  | .scrape _ => (none : Option (List AppMetricsTargetSpec × (AppMetricsTargetSpec → ScrapeAnswer)))

def unreadEnv : DependencyExternals := ⟨⟨id, id⟩, fun _ => none, fun _ => 0⟩

end Collector
end HubAgent
