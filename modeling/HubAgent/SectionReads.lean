import HubAgent.Collect
/-!
# What the sections of a snapshot rest on

Lists fail one by one: `collect` goes on with what it has.  Each section of the snapshot rests on the answers to some
calls (`Part.reads`), and two passes that are answered these alike show it alike, whatever becomes of everything else
(`section_rests_on_its_answers`).  So a list that fails, or lies, is felt in the sections that show it and in no other.
-/
namespace HubAgent
namespace Collector

open Interaction

inductive Part where
  | k8sUid
  | cluster
  | namespaces
  | workloads
  | pods
  | network
  | security
  | operationalMaturity
  | dependencies
  | appMetrics
  | configuration
  | storage
  | events
  | metricsStatus
  | snapshotApiStatus
  deriving DecidableEq

/-- The calls that a section rests on. -/
def Part.reads : Part → CollectCall → Bool
  | .k8sUid, .getKubeSystem => true
  | .cluster, .list .nodes | .cluster, .apiserverVersion | .cluster, .listDynamic .clusterVersion => true
  | .namespaces, .list .namespaces => true
  | .workloads, .list .deployments | .workloads, .list .statefulsets | .workloads, .list .daemonsets => true
  | .pods, .list .pods | .pods, .nowSecs => true
  | .pods, .listDynamic .podMetricsV1 | .pods, .listDynamic .podMetricsV1beta1 => true
  | .network, .list .services | .network, .list .ingresses => true
  | .security, .list .networkPolicies | .security, .list .clusterRoleBindings | .security, .list .namespaces => true
  | .operationalMaturity, .list .deployments | .operationalMaturity, .list .vpa => true
  | .operationalMaturity, .list .cronjobs => true
  | .dependencies, .list .pods | .dependencies, .list .services | .dependencies, .tetragonSnapshot => true
  | .appMetrics, .list .services | .appMetrics, .scrape _ => true
  | .configuration, .list .configmaps | .configuration, .list .secrets => true
  | .storage, .list .storageClasses | .storage, .list .persistentVolumes => true
  | .storage, .list .persistentVolumeClaims | .storage, .listDynamic .volumeSnapshotClass => true
  | .storage, .listDynamic .volumeSnapshot => true
  | .events, .list .events => true
  | .metricsStatus, .listDynamic .podMetricsV1 | .metricsStatus, .listDynamic .podMetricsV1beta1 => true
  | .metricsStatus, .metricsNowMs => true
  | .snapshotApiStatus, .listDynamic .volumeSnapshotClass | .snapshotApiStatus, .listDynamic .volumeSnapshot => true
  | .snapshotApiStatus, .snapshotApiNowMs => true
  | _, _ => false

def SamePart {F : Type} (a b : Collected F) : Part → Prop
  | .k8sUid => a.k8sUid = b.k8sUid
  | .cluster => a.cluster = b.cluster
  | .namespaces => a.namespaces = b.namespaces
  | .workloads => a.workloads = b.workloads
  | .pods => a.pods = b.pods
  | .network => a.network = b.network
  | .security => a.security = b.security
  | .operationalMaturity => a.operationalMaturity = b.operationalMaturity
  | .dependencies => a.dependencies = b.dependencies
  | .appMetrics => a.appMetrics = b.appMetrics
  | .configuration => a.configuration = b.configuration
  | .storage => a.storage = b.storage
  | .events => a.events = b.events
  | .metricsStatus => a.metricsStatus = b.metricsStatus
  | .snapshotApiStatus => a.snapshotApiStatus = b.snapshotApiStatus

/-! ## The parts of a pass -/

section Parts

variable {α : Type} {part : Part} {C : CollectCall → Prop}

/-- All but what a section rests on is advice. -/
abbrev Resting (part : Part) (R : α → α → Prop) (m m' : Collecting α) : Prop :=
  Alike (fun call => !part.reads call) Same R m m'

/-- Of calls that one section alone rests on, that section sees all and the others nothing. -/
theorem resting_owned {m m' : Collecting α} (owner : Part)
    (howner : ∀ call, C call → part.reads call = decide (part = owner)) (hm : m.Brief C) (hm' : m'.Brief C)
    (hsame : part = owner → m = m') : Resting part (fun a b => part = owner → a = b) m m' := by
  by_cases h : part = owner
  · rw [hsame h]
    refine alike_same (fun _ _ => rfl) (hm'.only.mono (fun call hcall => ?_))
    rw [howner call hcall, decide_eq_true h]
    rfl
  · have hadvice {m : Collecting α} (hm : m.Brief C) : m.Brief (fun call => (!part.reads call) = true) :=
      hm.mono (fun call hcall => by simp [howner call hcall, h])
    exact alike_of_advice (hadvice hm) (hadvice hm') (fun _ _ hpart => absurd hpart h)

/-- A call that makes no difference to what follows may be advice or not. -/
theorem resting_either {call : CollectCall} {R : α → α → Prop} {f f' : CollectAnswer call → Collecting α}
    (h : ∀ x x', Resting part R (f x) (f' x')) : Resting part R (Prog.ask call >>= f) (Prog.ask call >>= f') := by
  by_cases hread : part.reads call = true
  · exact alike_ask_same (by simp [hread]) (fun x => h x x)
  · refine alike_advice ?_ ?_ h
    · exact brief_ask (by simpa using hread)
    · exact brief_ask (by simpa using hread)

theorem resting_podMetrics (casing : Casing) (hv1 : part.reads (.listDynamic .podMetricsV1) = true)
    (hv1beta1 : part.reads (.listDynamic .podMetricsV1beta1) = true) :
    Resting part (fun a b => a.1 = b.1) (probePodMetrics casing) (probePodMetrics casing) := by
  have hnone (verdict : String × String) (source : String) :
      Resting part (fun a b => a.1 = b.1) (noMetrics verdict source) (noMetrics verdict source) :=
    resting_either (fun _ _ => .ret rfl)
  have hsome (items : List DynamicObject) (source : String) :
      Resting part (fun a b => a.1 = b.1) (someMetrics items source) (someMetrics items source) :=
    resting_either (fun _ _ => .ret rfl)
  refine alike_ask_same (by simp [hv1]) (fun v1 => ?_)
  match v1 with
  | .ok items => exact hsome _ _
  | .error (.other text) => exact hnone _ _
  | .error (.kube error) =>
    dsimp only
    split
    · refine alike_ask_same (by simp [hv1beta1]) (fun v1beta1 => ?_)
      cases v1beta1 with
      | ok items => exact hsome _ _
      | error error => exact hnone _ _
    · exact hnone _ _

theorem resting_volumeSnapshots (casing : Casing) (hclasses : part.reads (.listDynamic .volumeSnapshotClass) = true)
    (hsnapshots : part.reads (.listDynamic .volumeSnapshot) = true) :
    Resting part (fun a b => a.classes = b.classes ∧ a.snapshots = b.snapshots) (probeSnapshotApi casing)
      (probeSnapshotApi casing) := by
  have hstatus (verdict : String × String) (classes snapshots : List DynamicObject) :
      Resting part (fun a b => a.classes = b.classes ∧ a.snapshots = b.snapshots)
        (statusSnapshotFrom verdict classes snapshots) (statusSnapshotFrom verdict classes snapshots) :=
    resting_either (fun _ _ => .ret ⟨rfl, rfl⟩)
  refine alike_ask_same (by simp [hclasses]) (fun classes => ?_)
  match classes with
  | .ok classes => exact alike_ask_same (by simp [hsnapshots]) (fun _ => hstatus _ _ _)
  | .error (.other text) => exact hstatus _ _ _
  | .error (.kube error) =>
    dsimp only
    split <;> exact hstatus _ _ _

theorem resting_probePodMetrics (part : Part) (casing : Casing) :
    Resting part (fun a b => (part = .pods → a.1 = b.1) ∧ (part = .metricsStatus → a.2 = b.2))
      (probePodMetrics casing) (probePodMetrics casing) := by
  by_cases hpods : part = .pods
  · subst hpods
    exact (resting_podMetrics casing rfl rfl).mono (fun _ _ h => ⟨fun _ => h, fun hother => by cases hother⟩)
  by_cases hstatus : part = .metricsStatus
  · subst hstatus
    have hread : (probePodMetrics casing).Brief (fun call => (!Part.metricsStatus.reads call) = false) :=
      brief_probePodMetrics casing rfl rfl rfl
    exact alike_same (fun _ => ⟨fun _ => rfl, fun _ => rfl⟩) hread.only
  · have hadvice : (probePodMetrics casing).Brief (fun call => (!part.reads call) = true) :=
      brief_probePodMetrics casing (by cases part <;> simp_all [Part.reads]) (by cases part <;> simp_all [Part.reads])
        (by cases part <;> simp_all [Part.reads])
    exact alike_of_advice hadvice hadvice (fun _ _ => ⟨fun h => absurd h hpods, fun h => absurd h hstatus⟩)

theorem resting_probeSnapshotApi (part : Part) (casing : Casing) :
    Resting part (fun a b => (part = .storage → a.classes = b.classes ∧ a.snapshots = b.snapshots) ∧
        (part = .snapshotApiStatus → a.status = b.status))
      (probeSnapshotApi casing) (probeSnapshotApi casing) := by
  by_cases hstorage : part = .storage
  · subst hstorage
    exact (resting_volumeSnapshots casing rfl rfl).mono (fun _ _ h => ⟨fun _ => h, fun hother => by cases hother⟩)
  by_cases hstatus : part = .snapshotApiStatus
  · subst hstatus
    have hread : (probeSnapshotApi casing).Brief (fun call => (!Part.snapshotApiStatus.reads call) = false) :=
      brief_probeSnapshotApi casing rfl rfl rfl
    exact alike_same (fun _ => ⟨fun _ => ⟨rfl, rfl⟩, fun _ => rfl⟩) hread.only
  · have hadvice : (probeSnapshotApi casing).Brief (fun call => (!part.reads call) = true) :=
      brief_probeSnapshotApi casing (by cases part <;> simp_all [Part.reads]) (by cases part <;> simp_all [Part.reads])
        (by cases part <;> simp_all [Part.reads])
    exact alike_of_advice hadvice hadvice (fun _ _ => ⟨fun h => absurd h hstorage, fun h => absurd h hstatus⟩)

end Parts

/-! ## The pass -/

section Pass

variable {F : Type} (env : DependencyExternals) (f64 : F64 F) (cfg : AgentConfig)

theorem resting_collect (part : Part) :
    Resting part (fun a b => SamePart a b part) (collect env f64 cfg) (collect env f64 cfg) := by
  refine (listAll_alike _ (fun _ _ => rfl)).bind (fun lists lists' hread => ?_)
  have hlists (kind : ListKind) (h : part.reads (.list kind) = true) : lists kind = lists' kind :=
    hread kind (by simp [h])
  refine (resting_owned (C := (· = .apiserverVersion)) .cluster ?_ (brief_apiserverVersion rfl)
    (brief_apiserverVersion rfl) (fun _ => rfl)).bind (fun version version' hversion => ?_)
  · rintro _ rfl
    cases part <;> rfl
  refine (resting_owned (C := (· = .getKubeSystem)) .k8sUid ?_ (brief_kubeSystemUid rfl)
    (brief_kubeSystemUid rfl) (fun _ => rfl)).bind (fun k8sUid k8sUid' huid => ?_)
  · rintro _ rfl
    cases part <;> rfl
  refine (resting_probePodMetrics part env.casing).bind (fun podMetrics podMetrics' hmetrics => ?_)
  refine (resting_probeSnapshotApi part env.casing).bind (fun snapshotApi snapshotApi' hsnapshotApi => ?_)
  have hcluster (h : part = .cluster) : buildClusterInfo env.casing version (softList (lists .nodes)) =
      buildClusterInfo env.casing version' (softList (lists' .nodes)) := by
    rw [hversion h, hlists .nodes (by rw [h]; rfl)]
  refine (resting_owned (C := (· = .listDynamic .clusterVersion)) .cluster ?_ (brief_probeOpenshiftVersion _ rfl)
    (brief_probeOpenshiftVersion _ rfl) (fun h => by rw [hcluster h])).bind (fun openshift openshift' hopenshift => ?_)
  · rintro _ rfl
    cases part <;> rfl
  refine (resting_owned (C := (· = .tetragonSnapshot)) .dependencies ?_ (brief_dependenciesOf env cfg _ _ rfl)
    (brief_dependenciesOf env cfg _ _ rfl) ?_).bind (fun dependencies dependencies' hdependencies => ?_)
  · rintro _ rfl
    cases part <;> rfl
  · rintro rfl
    rw [hlists .pods rfl, hlists .services rfl]
  refine (resting_owned (C := fun call => ∃ targets, call = .scrape targets) .appMetrics ?_
    (brief_appMetricsOf f64 cfg _ (fun targets => ⟨targets, rfl⟩))
    (brief_appMetricsOf f64 cfg _ (fun targets => ⟨targets, rfl⟩)) ?_).bind
    (fun appMetrics appMetrics' happMetrics => ?_)
  · rintro _ ⟨targets, rfl⟩
    cases part <;> rfl
  · rintro rfl
    rw [hlists .services rfl]
  refine (resting_owned (C := (· = .nowSecs)) .pods ?_ (brief_mapPods (C := (· = .nowSecs)) _ _ _ rfl _)
    (brief_mapPods (C := (· = .nowSecs)) _ _ _ rfl _) ?_).bind (fun pods pods' hpods => .ret ?_)
  · rintro _ rfl
    cases part <;> rfl
  · intro h
    rw [hmetrics.1 h, hlists .pods (by rw [h]; rfl)]
  cases part with
  | k8sUid => exact huid rfl
  | cluster =>
    show { buildClusterInfo env.casing version (softList (lists .nodes)) with openshiftVersion := openshift } =
      { buildClusterInfo env.casing version' (softList (lists' .nodes)) with openshiftVersion := openshift' }
    rw [hcluster rfl, hopenshift rfl]
  | namespaces =>
    show (softList (lists .namespaces)).map mapNamespace = (softList (lists' .namespaces)).map mapNamespace
    rw [hlists .namespaces rfl]
  | workloads =>
    show workloadsOf lists = workloadsOf lists'
    rw [workloadsOf, workloadsOf, hlists .deployments rfl, hlists .statefulsets rfl, hlists .daemonsets rfl]
  | pods => exact hpods rfl
  | network =>
    show networkOf lists = networkOf lists'
    rw [networkOf, networkOf, hlists .services rfl, hlists .ingresses rfl]
  | security =>
    show securityOf lists = securityOf lists'
    rw [securityOf, securityOf, hlists .networkPolicies rfl, hlists .clusterRoleBindings rfl, hlists .namespaces rfl]
  | operationalMaturity =>
    show operationalMaturityOf lists = operationalMaturityOf lists'
    rw [operationalMaturityOf, operationalMaturityOf, hlists .cronjobs rfl, hlists .deployments rfl, hlists .vpa rfl]
  | dependencies => exact hdependencies rfl
  | appMetrics => exact happMetrics rfl
  | configuration =>
    show configurationOf cfg lists = configurationOf cfg lists'
    rw [configurationOf, configurationOf, hlists .configmaps rfl, hlists .secrets rfl]
  | storage =>
    obtain ⟨hclasses, hsnapshots⟩ := hsnapshotApi.1 rfl
    show storageOf lists snapshotApi = storageOf lists' snapshotApi'
    rw [storageOf, storageOf, hclasses, hsnapshots, hlists .storageClasses rfl, hlists .persistentVolumes rfl,
      hlists .persistentVolumeClaims rfl]
  | events =>
    show collectEvents (softList (lists .events)) = collectEvents (softList (lists' .events))
    rw [hlists .events rfl]
  | metricsStatus => exact hmetrics.2 rfl
  | snapshotApiStatus => exact hsnapshotApi.2 rfl

/-- **A section rests on its own answers.**  Two passes that are answered the same by all that a section rests on both
end, and show that section alike.  Whatever else they are answered, by lists that fail, by an API that is not there, by
a clock or by a service that is scraped, is not felt in it. -/
theorem section_rests_on_its_answers (part : Part) {o o' : CollectOracle}
    (hagree : AgreeBesides (fun call => !part.reads call) Same o o') :
    ∃ snapshot snapshot', ((collect env f64 cfg).run o []).1 = some snapshot ∧
      ((collect env f64 cfg).run o' []).1 = some snapshot' ∧ SamePart snapshot snapshot' part := by
  obtain ⟨snapshot, hsnapshot⟩ := collect_ends env f64 cfg o
  obtain ⟨snapshot', hsnapshot'⟩ := collect_ends env f64 cfg o'
  have hresult := (trace_alike hagree (resting_collect env f64 cfg part)).2
  rw [hsnapshot, hsnapshot'] at hresult
  refine ⟨snapshot, snapshot', hsnapshot, hsnapshot', ?_⟩
  cases hresult with
  | some hsame => exact hsame

end Pass

def shopLists : Lists
  | .services => .ok [{ metadata := { name := some "shop", namespace_ := some "prod" } }]
  | .pods => .ok [{ metadata := { name := some "shop-0", namespace_ := some "prod" } }]
  | _ => .ok []

def podsForbidden : Lists
  | .pods => .error (.kube (.failure 403 "Forbidden" "pods is forbidden"))
  | kind => shopLists kind

theorem podsForbidden_agree :
    AgreeBesides (fun call => !Part.network.reads call) Same (clusterOf shopLists) (clusterOf podsForbidden) := by
  intro tr tr' call _ hread
  cases call with
  | list kind =>
    cases kind with
    | pods => cases hread
    | _ => rfl
  | _ => rfl

/-- The section has the service. -/
theorem section_rests_on_its_answers_forbidden : ∃ snapshot snapshot',
    ((collect unreadEnv wholeF64 meteredConfig).run (clusterOf shopLists) []).1 = some snapshot ∧
      ((collect unreadEnv wholeF64 meteredConfig).run (clusterOf podsForbidden) []).1 = some snapshot' ∧
      SamePart snapshot snapshot' .network ∧ snapshot.network.services.map (·.name) = ["shop"] := by
  obtain ⟨snapshot, snapshot', hrun, hrun', hsame⟩ :=
    section_rests_on_its_answers unreadEnv wholeF64 meteredConfig .network podsForbidden_agree
  have hservices : ((collect unreadEnv wholeF64 meteredConfig).run (clusterOf shopLists) []).1.map
      (fun snapshot => snapshot.network.services.map (·.name)) = some ["shop"] := by decide +kernel
  rw [hrun] at hservices
  exact ⟨snapshot, snapshot', hrun, hrun', hsame, Option.some.inj hservices⟩

end Collector
end HubAgent
