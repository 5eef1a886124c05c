import HubAgent.Collect
import HubAgent.ConfiguredEnv
import HubAgent.Lib.Rearranged
import HubAgent.SecretValues
/-!
# What a snapshot shows

Some of what a pass reads is not to be told by what it sends: the order in which the API server lists what is sorted,
the values of Secrets and of other people's ConfigMaps, the parameters of a storage class that are not on the list, the
end of a long message, and the command line of a container unless the configuration lets the agent look at it.
`ListedAlike` says this list by list, and `snapshot_shows_no_more` that two passes that differ in nothing else ask the
same and send the same snapshot.
-/
namespace HubAgent
namespace Collector

open Interaction
open Ranked (Blind Rearranged map_eq_of_forall₂ find?_of_forall₂)
open Tech (PodContainer containerTechnology)

/-! ## Objects that are shown alike -/

/-- What a container is started with is kept back unless it may be looked at. -/
structure ContainerAlike (looksAtCommands : Bool) (c c' : PodContainer) : Prop where
  container : c.toContainer = c'.toContainer
  imagePullPolicy : c.imagePullPolicy = c'.imagePullPolicy
  commandLine : looksAtCommands = true → c.command = c'.command ∧ c.args = c'.args

structure PodAlike (looksAtCommands : Bool) (p p' : ListedPod) : Prop where
  pod : p.toPod = p'.toPod
  creationTimestamp : p.creationTimestamp = p'.creationTimestamp
  phase : p.phase = p'.phase
  containers : List.Forall₂ (ContainerAlike looksAtCommands) p.containers p'.containers

/-- The keys are shown, and of the agent's own ConfigMaps the values of the listed variables. -/
structure ConfigMapAlike (cm cm' : ConfigMap) : Prop where
  metadata : cm.metadata = cm'.metadata
  immutable : cm.immutable = cm'.immutable
  dataKeys : ∀ key, key ∈ cm.data.getD ∅ ↔ key ∈ cm'.data.getD ∅
  binaryDataKeys : ∀ key, key ∈ cm.binaryData.getD ∅ ↔ key ∈ cm'.binaryData.getD ∅
  ownValues : ∀ name ∈ agentConfigmapNames, cm.metadata.name = some name → ∀ key ∈ agentConfigEnvAllowlist,
    cm.data.bind (·.lookup key) = cm'.data.bind (·.lookup key)

/-- The keys are shown, and no value but what `kubectl apply` has noted down of one. -/
structure SecretAlike (s s' : Secret) : Prop where
  values : DifferInValues s s'
  lastApplied : annotation s lastApplied = annotation s' lastApplied

/-- Of the parameters, those on the list are shown. -/
structure StorageClassAlike (sc sc' : StorageClass) : Prop where
  name : sc.metadata.name = sc'.metadata.name
  provisioner : sc.provisioner = sc'.provisioner
  parameters : ∀ key ∈ storageClassParameterAllowlist,
    (sc.parameters.getD ∅).lookup key = (sc'.parameters.getD ∅).lookup key

/-- Messages that are the same, or that are both cut and the same up to there. -/
def MessageAlike (m m' : String) : Prop :=
  m = m' ∨ maxEventMessageChars < m.length ∧ maxEventMessageChars < m'.length ∧
    m.toList.take (maxEventMessageChars - 3) = m'.toList.take (maxEventMessageChars - 3)

structure EventAlike (e e' : Event) : Prop where
  besides : { e with message := none } = { e' with message := none }
  message : Option.Rel MessageAlike e.message e'.message

/-! ## Lists that are shown alike -/

/-- What two answers to a list have in common when the snapshot shows them alike.  What is sorted may come in any order,
as long as the objects are told apart by their names. -/
def ListedAlike (cfg : AgentConfig) : (kind : ListKind) → List (Obj kind) → List (Obj kind) → Prop
  | .pods => List.Forall₂ (PodAlike cfg.techDetectProcess)
  | .services => Rearranged (fun s => snapshotName s.metadata) Eq
  | .ingresses => Rearranged (fun i => snapshotName i.metadata) Eq
  | .networkPolicies => Rearranged (fun p => snapshotName p.metadata) Eq
  | .clusterRoleBindings => Rearranged (fun b => b.metadata.name.getD "") Eq
  | .configmaps => Rearranged (fun cm => snapshotName cm.metadata) ConfigMapAlike
  | .secrets => Rearranged (fun s => snapshotName s.metadata) SecretAlike
  | .storageClasses => List.Forall₂ StorageClassAlike
  | .vpa => List.Perm
  | .cronjobs => Rearranged (fun c => snapshotName c.metadata) Eq
  | .events => Rearranged (fun e => snapshotName e.metadata) EventAlike
  | _ => Eq

/-- Answers that are shown alike.  A list that fails is shown as an empty one. -/
def ShownAlike (cfg : AgentConfig) : (call : CollectCall) → CollectAnswer call → CollectAnswer call → Prop
  | .list kind => fun x x' => ListedAlike cfg kind (softList x) (softList x')
  | _ => Eq

abbrev ListsAlike (cfg : AgentConfig) (lists lists' : Lists) : Prop :=
  ∀ kind, ListedAlike cfg kind (softList (lists kind)) (softList (lists' kind))

/-! ## The sections -/

theorem blind_eq {α : Type} (cmp : α → α → Ordering) : Blind cmp Eq := by
  rintro a _ b _ rfl rfl
  rfl

theorem sortBy_snapshotCmp_eq {α : Type} (metadata : α → ObjectMeta) {l l' : List α}
    (h : Rearranged (fun a => snapshotName (metadata a)) Eq l l') :
    Ranked.sortBy (fun a b => snapshotCmp (metadata a) (metadata b)) l =
      Ranked.sortBy (fun a b => snapshotCmp (metadata a) (metadata b)) l' := by
  rw [← List.forall₂_eq_eq_eq]
  exact h.sortBy (fun _ _ => snapshotName_eq_of_snapshotCmp) (blind_eq _)

section Sections

variable {cfg : AgentConfig} {lists lists' : Lists}

theorem sortServices_alike (h : ListsAlike cfg lists lists') :
    sortServicesForSnapshot (softList (lists .services)) = sortServicesForSnapshot (softList (lists' .services)) :=
  sortBy_snapshotCmp_eq (fun s : ListedService => s.metadata) (h .services)

theorem networkOf_alike (h : ListsAlike cfg lists lists') : networkOf lists = networkOf lists' := by
  have hingresses := sortBy_snapshotCmp_eq Ingress.metadata (h .ingresses)
  rw [networkOf, networkOf, sortServices_alike h, sortIngressesForSnapshot, sortIngressesForSnapshot, hingresses]

theorem workloadsOf_alike (h : ListsAlike cfg lists lists') : workloadsOf lists = workloadsOf lists' := by
  have hdeployments : softList (lists .deployments) = softList (lists' .deployments) := h .deployments
  have hstatefulsets : softList (lists .statefulsets) = softList (lists' .statefulsets) := h .statefulsets
  have hdaemonsets : softList (lists .daemonsets) = softList (lists' .daemonsets) := h .daemonsets
  rw [workloadsOf, workloadsOf, hdeployments, hstatefulsets, hdaemonsets]

theorem mapClusterRoleBinding_name {b : ClusterRoleBinding} {info : ClusterRoleBindingInfo}
    (h : mapClusterRoleBinding b = some info) : info.name = b.metadata.name.getD "" := by
  unfold mapClusterRoleBinding at h
  split_ifs at h <;> cases h <;> rfl

theorem clusterRoleBindings_keyed : Gather.Keyed (fun b : ClusterRoleBinding => b.metadata.name.getD "")
    ClusterRoleBindingInfo.name mapClusterRoleBinding (fun a b => compare a.name b.name) where
  carried _ _ := mapClusterRoleBinding_name
  decided _ _ h := compare_eq_iff_eq.1 h

theorem securityOf_alike (h : ListsAlike cfg lists lists') : securityOf lists = securityOf lists' := by
  have hnamespaces : softList (lists .namespaces) = softList (lists' .namespaces) := h .namespaces
  have hpolicies := sortBy_snapshotCmp_eq NetworkPolicy.metadata (h .networkPolicies)
  have hbindings : Rearranged (fun b : ClusterRoleBinding => b.metadata.name.getD "") Eq
    (softList (lists .clusterRoleBindings)) (softList (lists' .clusterRoleBindings)) := h .clusterRoleBindings
  have : Std.TransCmp (fun a b : ClusterRoleBindingInfo => compare a.name b.name) :=
    inferInstanceAs (Std.TransCmp (compareOn ClusterRoleBindingInfo.name))
  have hsorted := clusterRoleBindings_keyed.forget hbindings.keyed hbindings.perm
  rw [securityOf, securityOf, hnamespaces, collectSecurity, collectSecurity, sortNetworkPoliciesForSnapshot,
    sortNetworkPoliciesForSnapshot, hpolicies, hsorted]

theorem operationalMaturityOf_alike (h : ListsAlike cfg lists lists') :
    operationalMaturityOf lists = operationalMaturityOf lists' := by
  have hdeployments : softList (lists .deployments) = softList (lists' .deployments) := h .deployments
  have hcronjobs := sortBy_snapshotCmp_eq CronJob.metadata (h .cronjobs)
  have hvpa : (softList (lists .vpa)).Perm (softList (lists' .vpa)) := h .vpa
  have hmodes : Ranked.sortBy compare ((softList (lists' .vpa)).map vpaUpdateMode) =
      Ranked.sortBy compare ((softList (lists .vpa)).map vpaUpdateMode) :=
    Ranked.sortBy_eq_of_perm (fun _ _ _ _ => compare_eq_iff_eq.1) (hvpa.map vpaUpdateMode).symm
  rw [operationalMaturityOf, operationalMaturityOf, hdeployments, collectScheduledJobs, collectScheduledJobs,
    sortCronjobsForSnapshot, sortCronjobsForSnapshot, hcronjobs, buildVpaInfo, buildVpaInfo, hmodes,
    hvpa.isEmpty_eq, hvpa.length_eq]

theorem mapStorageClass_alike {sc sc' : StorageClass} (h : StorageClassAlike sc sc') :
    mapStorageClass sc = mapStorageClass sc' := by
  have hparameters : filterStorageClassParameters (sc.parameters.getD ∅) =
      filterStorageClassParameters (sc'.parameters.getD ∅) := by
    unfold filterStorageClassParameters
    apply List.filterMap_congr
    intro key hkey
    rw [h.parameters key hkey]
  rw [mapStorageClass, mapStorageClass, h.name, h.provisioner, hparameters]

theorem storageOf_alike (h : ListsAlike cfg lists lists') (snapshotApi : SnapshotApi) :
    storageOf lists snapshotApi = storageOf lists' snapshotApi := by
  have hlisted : List.Forall₂ StorageClassAlike (softList (lists .storageClasses))
    (softList (lists' .storageClasses)) := h .storageClasses
  have hclasses := map_eq_of_forall₂ hlisted (fun _ _ => mapStorageClass_alike)
  have hvolumes : softList (lists .persistentVolumes) = softList (lists' .persistentVolumes) := h .persistentVolumes
  have hclaims : softList (lists .persistentVolumeClaims) = softList (lists' .persistentVolumeClaims) :=
    h .persistentVolumeClaims
  rw [storageOf, storageOf, hclasses, hvolumes, hclaims]

/-! ### The configuration -/

theorem softUnwrap_mapError {α : Type} (x : Except ListError (List α)) :
    softUnwrap (x.mapError ListError.text) = softList x := by
  cases x <;> rfl

theorem sortSecretsForSnapshot_eq (secrets : List Secret) :
    sortSecretsForSnapshot secrets = Ranked.sortBy (fun a b => snapshotCmp a.metadata b.metadata) secrets := by
  rw [sortSecretsForSnapshot, Ranked.sortBy]
  congr!
  exact snapshotLe_iff _ _

theorem mapConfigmap_alike {cm cm' : ConfigMap} (h : ConfigMapAlike cm cm') : mapConfigmap cm = mapConfigmap cm' := by
  have hdata : mapDataKeys (cm.data.getD ∅) = mapDataKeys (cm'.data.getD ∅) := KeyOrder.keysInOrder_eq_iff.2 h.dataKeys
  have hbinary : mapDataKeys (cm.binaryData.getD ∅) = mapDataKeys (cm'.binaryData.getD ∅) :=
    KeyOrder.keysInOrder_eq_iff.2 h.binaryDataKeys
  rw [mapConfigmap, mapConfigmap, h.metadata, h.immutable, hdata, hbinary]

theorem valueIn_alike {cms cms' : List ConfigMap} (h : List.Forall₂ ConfigMapAlike cms cms') {name key : String}
    (hname : name ∈ agentConfigmapNames) (hkey : key ∈ agentConfigEnvAllowlist) :
    valueIn cms key name = valueIn cms' key name := by
  have hfound := find?_of_forall₂ (p := fun cm => cm.metadata.name == some name) h (fun _ _ hcm => by rw [hcm.metadata])
  have hnamed (cm : ConfigMap) (hcm : cms.find? (fun cm => cm.metadata.name == some name) = some cm) :
      cm.metadata.name = some name := by simpa using List.find?_some hcm
  unfold valueIn
  cases hcm : cms.find? (fun cm => cm.metadata.name == some name) with
  | none =>
    rw [hcm] at hfound
    cases hcm' : cms'.find? (fun cm => cm.metadata.name == some name) with
    | none => rfl
    | some cm' =>
      rw [hcm'] at hfound
      cases hfound
  | some cm =>
    rw [hcm] at hfound
    cases hcm' : cms'.find? (fun cm => cm.metadata.name == some name) with
    | none =>
      rw [hcm'] at hfound
      cases hfound
    | some cm' =>
      rw [hcm'] at hfound
      cases hfound with
      | some halike => exact halike.ownValues name hname (hnamed cm hcm) key hkey

theorem lastValue_alike {cms cms' : List ConfigMap} (h : List.Forall₂ ConfigMapAlike cms cms') {key : String}
    (hkey : key ∈ agentConfigEnvAllowlist) : ∀ names : List String, (∀ name ∈ names, name ∈ agentConfigmapNames) →
      lastValue cms key names = lastValue cms' key names
  | [], _ => rfl
  | name :: names, hown => by
    rw [lastValue, lastValue, lastValue_alike h hkey names (fun n hn => hown n (List.mem_cons_of_mem name hn)),
      valueIn_alike h (hown name List.mem_cons_self) hkey]

theorem configurationOf_alike (h : ListsAlike cfg lists lists') :
    configurationOf cfg lists = configurationOf cfg lists' := by
  have hconfigmaps : List.Forall₂ ConfigMapAlike (sortConfigmapsForSnapshot (softList (lists .configmaps)))
      (sortConfigmapsForSnapshot (softList (lists' .configmaps))) := by
    have hlisted : Rearranged (fun cm : ConfigMap => snapshotName cm.metadata) ConfigMapAlike
      (softList (lists .configmaps)) (softList (lists' .configmaps)) := h .configmaps
    rw [sortConfigmapsForSnapshot_eq, sortConfigmapsForSnapshot_eq]
    refine hlisted.sortBy (fun _ _ => snapshotName_eq_of_snapshotCmp) ?_
    intro a a' b b' ha hb
    rw [configmapCmp, configmapCmp, ha.metadata, hb.metadata]
  have hsecrets : List.Forall₂ SecretAlike (sortSecretsForSnapshot (softList (lists .secrets)))
      (sortSecretsForSnapshot (softList (lists' .secrets))) := by
    have hlisted : Rearranged (fun s : Secret => snapshotName s.metadata) SecretAlike
      (softList (lists .secrets)) (softList (lists' .secrets)) := h .secrets
    rw [sortSecretsForSnapshot_eq, sortSecretsForSnapshot_eq]
    refine hlisted.sortBy (fun _ _ => snapshotName_eq_of_snapshotCmp) ?_
    intro a a' b b' ha hb
    show snapshotCmp a.metadata b.metadata = snapshotCmp a'.metadata b'.metadata
    rw [snapshotCmp, snapshotCmp, ha.values.namespace_, ha.values.name, hb.values.namespace_, hb.values.name]
  have henv := collect_eq_of_lastValue (fun key hkey =>
    lastValue_alike hconfigmaps hkey agentConfigmapNames (fun _ hname => hname))
  have hshown := map_eq_of_forall₂ hconfigmaps (fun _ _ => mapConfigmap_alike)
  have hnames := map_eq_of_forall₂ hsecrets (fun _ _ hs => (mapSecret_eq_iff hs.values).2 hs.lastApplied)
  unfold configurationOf collectConfiguration
  dsimp only
  rw [softUnwrap_mapError, softUnwrap_mapError, hshown, henv]
  cases cfg.collectSecrets with
  | false => rfl
  | true =>
    rw [if_pos rfl, if_pos rfl, if_pos rfl, if_pos rfl, softUnwrap_mapError, softUnwrap_mapError, hnames]

/-! ### Events -/

theorem truncateChars_alike {m m' : String} (h : MessageAlike m m') :
    truncateChars m maxEventMessageChars = truncateChars m' maxEventMessageChars := by
  rcases h with rfl | ⟨hlong, hlong', hsame⟩
  · rfl
  · rw [truncateChars, truncateChars, if_neg (not_le.2 hlong), if_neg (not_le.2 hlong'), hsame]

theorem truncated_alike {m m' : Option String} (h : Option.Rel MessageAlike m m') :
    m.map (fun m => truncateChars m maxEventMessageChars) = m'.map (fun m => truncateChars m maxEventMessageChars) := by
  cases h with
  | none => rfl
  | some halike => rw [Option.map_some, Option.map_some, truncateChars_alike halike]

theorem mapEvent_alike {e e' : Event} (h : EventAlike e e') : mapEvent e = mapEvent e' := by
  have hbesides (e : Event) : mapEvent e = { mapEvent { e with message := none } with
      message := e.message.map (fun m => truncateChars m maxEventMessageChars) } := rfl
  rw [hbesides e, hbesides e', h.besides, truncated_alike h.message]

theorem eventCmp_alike : Blind eventCmp EventAlike := by
  have hbesides (a b : Event) : eventCmp a b = eventCmp { a with message := none } { b with message := none } := rfl
  intro a a' b b' ha hb
  rw [hbesides a b, hbesides a' b', ha.besides, hb.besides]

theorem collectEvents_alike (h : ListsAlike cfg lists lists') :
    collectEvents (softList (lists .events)) = collectEvents (softList (lists' .events)) := by
  have hlisted : Rearranged (fun e : Event => snapshotName e.metadata) EventAlike
    (softList (lists .events)) (softList (lists' .events)) := h .events
  have hsorted := hlisted.sortBy (fun _ _ => snapshotName_eq_of_eventCmp) eventCmp_alike
  rw [collectEvents, collectEvents, sortEventsForSnapshot, sortEventsForSnapshot]
  exact map_eq_of_forall₂ (List.forall₂_take maxEvents hsorted) (fun _ _ => mapEvent_alike)

/-! ### Pods -/

theorem mapContainer_alike (casing : Casing) {p p' : ListedPod} (hpod : p.toPod = p'.toPod) {c c' : PodContainer}
    (h : ContainerAlike cfg.techDetectProcess c c') : mapContainer casing p cfg.techDetectProcess c =
      mapContainer casing p' cfg.techDetectProcess c' := by
  have htech (labels annotations : List (String × String)) :
      containerTechnology casing c labels annotations cfg.techDetectProcess =
        containerTechnology casing c' labels annotations cfg.techDetectProcess := by
    rw [containerTechnology, containerTechnology, h.container]
    cases hlooks : cfg.techDetectProcess with
    | false => rfl
    | true =>
      obtain ⟨hcommand, hargs⟩ := h.commandLine hlooks
      rw [hcommand, hargs]
  rw [mapContainer, mapContainer, htech, hpod, h.container, h.imagePullPolicy]

theorem mapPod_alike (casing : Casing) (podUsage : PodUsage) (now : Option Nat) {p p' : ListedPod}
    (h : PodAlike cfg.techDetectProcess p p') : mapPod casing podUsage cfg.techDetectProcess now p =
      mapPod casing podUsage cfg.techDetectProcess now p' := by
  have hcontainers : p.containers.map (mapContainer casing p cfg.techDetectProcess) =
      p'.containers.map (mapContainer casing p' cfg.techDetectProcess) :=
    map_eq_of_forall₂ h.containers (fun _ _ => mapContainer_alike casing h.pod)
  rw [mapPod, mapPod, hcontainers, h.pod, h.creationTimestamp, h.phase]

end Sections

/-! ## The pass -/

section Pass

variable {F : Type} (env : DependencyExternals) (f64 : F64 F) (cfg : AgentConfig)

/-- All that is asked counts, up to what is shown. -/
abbrev ShownSame {α : Type} (m m' : Collecting α) : Prop := Alike (fun _ => false) (ShownAlike cfg) Eq m m'

/-- A call that lists nothing that the snapshot sorts or keeps back. -/
def CollectCall.Plain : CollectCall → Prop
  | .list _ => False
  | _ => True

theorem shownSame_of_plain {α : Type} {m : Collecting α} (h : m.Only CollectCall.Plain) : ShownSame cfg m m := by
  refine alike_refl (fun _ => rfl) (h.mono (fun call hplain => ⟨rfl, ?_⟩))
  cases call with
  | list kind => exact hplain.elim
  | _ => exact fun _ _ hsame => hsame

theorem shownSame_bind {α β : Type} {m : Collecting α} (h : m.Brief CollectCall.Plain) {f f' : α → Collecting β}
    (hf : ∀ a, ShownSame cfg (f a) (f' a)) : ShownSame cfg (m >>= f) (m >>= f') := by
  refine (shownSame_of_plain cfg h.only).bind ?_
  rintro a _ rfl
  exact hf a

theorem shownSame_mapPods (casing : Casing) (podUsage : PodUsage) {pods pods' : List ListedPod}
    (h : List.Forall₂ (PodAlike cfg.techDetectProcess) pods pods') :
    ShownSame cfg (mapPods casing podUsage cfg.techDetectProcess pods)
      (mapPods casing podUsage cfg.techDetectProcess pods') := by
  induction h with
  | nil => exact .ret rfl
  | @cons pod pod' pods pods' hpod _ ih =>
    have hclock : podNowSecs pod = podNowSecs pod' := by rw [podNowSecs, podNowSecs, hpod.creationTimestamp]
    rw [mapPods, mapPods, hclock]
    refine shownSame_bind cfg (brief_podNowSecs pod' trivial) (fun now => ih.bind ?_)
    rintro infos _ rfl
    rw [mapPod_alike casing podUsage now hpod]
    exact .ret rfl

theorem listedAlike_nil : ∀ kind, ListedAlike cfg kind [] []
  | .pods => .nil
  | .services => ⟨List.nodup_nil, [], .refl [], .nil⟩
  | .ingresses => ⟨List.nodup_nil, [], .refl [], .nil⟩
  | .networkPolicies => ⟨List.nodup_nil, [], .refl [], .nil⟩
  | .clusterRoleBindings => ⟨List.nodup_nil, [], .refl [], .nil⟩
  | .configmaps => ⟨List.nodup_nil, [], .refl [], .nil⟩
  | .secrets => ⟨List.nodup_nil, [], .refl [], .nil⟩
  | .storageClasses => .nil
  | .vpa => .refl []
  | .cronjobs => ⟨List.nodup_nil, [], .refl [], .nil⟩
  | .events => ⟨List.nodup_nil, [], .refl [], .nil⟩
  | .nodes => rfl
  | .namespaces => rfl
  | .deployments => rfl
  | .statefulsets => rfl
  | .daemonsets => rfl
  | .persistentVolumes => rfl
  | .persistentVolumeClaims => rfl

theorem shownSame_collect : ShownSame cfg (collect env f64 cfg) (collect env f64 cfg) := by
  have hstart (kind : ListKind) : false = false →
      ShownAlike cfg (.list kind) (.ok [] : Except ListError (List (Obj kind)))
        (.ok [] : Except ListError (List (Obj kind))) := fun _ => listedAlike_nil cfg kind
  refine (listAll_alike _ hstart).bind (fun lists lists' hlists => ?_)
  have h : ListsAlike cfg lists lists' := fun kind => hlists kind rfl
  have hnodes : softList (lists .nodes) = softList (lists' .nodes) := h .nodes
  have hnamespaces : softList (lists .namespaces) = softList (lists' .namespaces) := h .namespaces
  have hpods : List.Forall₂ (PodAlike cfg.techDetectProcess) (softList (lists .pods)) (softList (lists' .pods)) :=
    h .pods
  have hdependencies (services : List ListedService) : dependenciesOf env cfg (softList (lists .pods)) services =
      dependenciesOf env cfg (softList (lists' .pods)) services := by
    rw [dependenciesOf, dependenciesOf, map_eq_of_forall₂ hpods (fun _ _ hp => hp.pod)]
  dsimp only
  rw [hnodes, sortServices_alike h, hdependencies, hnamespaces, workloadsOf_alike h, networkOf_alike h,
    securityOf_alike h, operationalMaturityOf_alike h, configurationOf_alike h, collectEvents_alike h]
  simp only [storageOf_alike h]
  refine shownSame_bind cfg (brief_apiserverVersion trivial) (fun version => ?_)
  refine shownSame_bind cfg (brief_kubeSystemUid trivial) (fun k8sUid => ?_)
  refine shownSame_bind cfg (brief_probePodMetrics _ trivial trivial trivial) (fun podMetrics => ?_)
  refine shownSame_bind cfg (brief_probeSnapshotApi _ trivial trivial trivial) (fun snapshotApi => ?_)
  refine shownSame_bind cfg (brief_probeOpenshiftVersion _ trivial) (fun openshiftVersion => ?_)
  refine shownSame_bind cfg (brief_dependenciesOf env cfg _ _ trivial) (fun dependencies => ?_)
  refine shownSame_bind cfg (brief_appMetricsOf f64 cfg _ (fun _ => trivial)) (fun appMetrics => ?_)
  refine (shownSame_mapPods cfg _ _ hpods).bind ?_
  rintro pods _ rfl
  exact .ret rfl

/-- **A snapshot shows no more.**  Two passes are given answers that differ only in what `ListedAlike` leaves open: in
the order of what is sorted, in the values of Secrets and of ConfigMaps that are not the agent's own, in storage
parameters off the list, past the cap of a message, and, unless the configuration looks at them, in the command lines of
containers.  Then both ask for the same, in the same order, and both end with the same snapshot. -/
theorem snapshot_shows_no_more {o o' : CollectOracle}
    (hagree : AgreeBesides (fun _ => false) (ShownAlike cfg) o o') :
    ((collect env f64 cfg).trace o).map Event.call = ((collect env f64 cfg).trace o').map Event.call ∧
      ∃ snapshot, ((collect env f64 cfg).run o []).1 = some snapshot ∧
        ((collect env f64 cfg).run o' []).1 = some snapshot := by
  obtain ⟨hcalls, hresult⟩ := trace_alike hagree (shownSame_collect env f64 cfg)
  obtain ⟨snapshot, hsnapshot⟩ := collect_ends env f64 cfg o
  obtain ⟨snapshot', hsnapshot'⟩ := collect_ends env f64 cfg o'
  rw [besides_none, besides_none] at hcalls
  rw [hsnapshot, hsnapshot'] at hresult
  refine ⟨calls_of_matched hcalls, snapshot, hsnapshot, ?_⟩
  cases hresult with
  | some hsame => rw [hsnapshot', hsame]

end Pass

/-! ## Another password, listed in another order -/

def secretsAlone (secrets : List Secret) : (kind : ListKind) → List (Obj kind)
  | .secrets => secrets
  | _ => []

def clusterWith (secrets : List Secret) : CollectOracle := clusterOf (fun kind => .ok (secretsAlone secrets kind))

theorem clusterWith_agree (cfg : AgentConfig) {secrets secrets' : List Secret}
    (h : Rearranged (fun s : Secret => snapshotName s.metadata) SecretAlike secrets secrets') :
    AgreeBesides (fun _ => false) (ShownAlike cfg) (clusterWith secrets) (clusterWith secrets') := by
  intro tr tr' call _ _
  cases call with
  | list kind =>
    show ListedAlike cfg kind (secretsAlone secrets kind) (secretsAlone secrets' kind)
    by_cases hkind : kind = .secrets
    · subst hkind
      exact h
    · have hnone (secrets : List Secret) : secretsAlone secrets kind = [] := by
        cases kind <;> first | rfl | exact absurd rfl hkind
      rw [hnone, hnone]
      exact listedAlike_nil cfg kind
  | _ => rfl

def cacheAuth : Secret where
  metadata := { namespace_ := some "prod", name := some "cache-auth" }

def secretsConfig : AgentConfig := { meteredConfig with collectSecrets := true }

theorem auths_alike : Rearranged (fun s : Secret => snapshotName s.metadata) SecretAlike
    [dbAuth "hunter2" none, cacheAuth] [cacheAuth, dbAuth "swordfish" none] where
  keyed := by decide
  arranged := ⟨[cacheAuth, dbAuth "hunter2" none], List.Perm.swap _ _ [],
    .cons ⟨⟨rfl, rfl, rfl, fun _ _ => rfl, rfl, rfl, fun _ => Iff.rfl⟩, rfl⟩
      (.cons ⟨dbAuth_differ _ _ (fun _ _ => rfl), rfl⟩ .nil)⟩

theorem snapshot_shows_no_more_password :
    ∃ snapshot, ((collect unreadEnv wholeF64 secretsConfig).run
        (clusterWith [dbAuth "hunter2" none, cacheAuth]) []).1 = some snapshot ∧
      ((collect unreadEnv wholeF64 secretsConfig).run
        (clusterWith [cacheAuth, dbAuth "swordfish" none]) []).1 = some snapshot :=
  (snapshot_shows_no_more unreadEnv wholeF64 secretsConfig (clusterWith_agree secretsConfig auths_alike)).2

end Collector
end HubAgent
