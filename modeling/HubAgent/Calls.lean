import HubAgent.GateSpec
import HubAgent.Executor
/-!
# What the parts of a handler call

One lemma for each part, stated against any condition `P` on calls that leaves the reading ones free: which calls the
part makes, and what its result says about the history.  `ReadOnly` parts change nothing in the cluster; a gate that
lets a command pass leaves a listed policy that admits it (`ListedAdmits`); a restart patch that succeeds leaves the
event of its patch.
-/
namespace HubAgent

/-- The calls that have nothing to do with the object of a command: the policies, the clocks it is stamped with, and the
lists of the preflight checks. -/
def ApiCall.preliminary : ApiCall → Bool
  | .nowMs | .nowRfc3339 | .listActionPolicies => true
  | .listHpas _ | .listVpas _ | .listLimitRanges _ | .listResourceQuotas _ | .listPdbs _ => true
  | _ => false

namespace Executor

open Interaction

def AllowsReads (P : ApiTrace → ApiCall → Prop) : Prop := ∀ tr op, op.mutatesLive = false → P tr op

/-- **A part that changes nothing in the cluster.** -/
def ReadOnly {α : Type} (m : Exec α) : Prop :=
  ∀ tr, m.Meets (fun _ op => op.mutatesLive = false) (fun _ _ => True) tr

/-- The policy lists answered in a history, and the clock read with them, admit something by `A`. -/
def ListedAdmits (A : Nat → SentinellaHubActionPolicy → Prop) (tr : ApiTrace) : Prop :=
  ∃ items now policy, (⟨.listActionPolicies, .ok items⟩ : ApiEvent) ∈ tr ∧ (⟨.nowMs, now⟩ : ApiEvent) ∈ tr ∧
    .ok policy ∈ items ∧ A now policy

theorem ListedAdmits.mono {A : Nat → SentinellaHubActionPolicy → Prop} {tr tr' : ApiTrace} (hsub : tr <+: tr')
    (h : ListedAdmits A tr) : ListedAdmits A tr' := by
  obtain ⟨items, now, policy, h1, h2, h3, h4⟩ := h
  exact ⟨items, now, policy, hsub.subset h1, hsub.subset h2, h3, h4⟩

def podListAnswer : ApiEvent → Option (ApiResult (List Pod))
  | ⟨.listPods _, answer⟩ => some answer
  | _ => none

def podLists (tr : ApiTrace) : List (ApiResult (List Pod)) := tr.filterMap podListAnswer

@[simp] theorem podLists_append (tr later : ApiTrace) : podLists (tr ++ later) = podLists tr ++ podLists later := by
  simp [podLists]

/-! ## Reading parts -/

section Reading

variable {α β : Type}

theorem readOnly_pure (a : α) : ReadOnly (pure a : Exec α) := fun _ => trivial

theorem readOnly_pending : ReadOnly (Prog.pending : Exec α) := fun _ => trivial

theorem readOnly_ask {op : ApiCall} (h : op.mutatesLive = false) : ReadOnly (api op) :=
  fun _ => ⟨h, fun _ => trivial⟩

theorem readOnly_bind {m : Exec α} {f : α → Exec β} (hm : ReadOnly m) (hf : ∀ a, ReadOnly (f a)) :
    ReadOnly (m >>= f) :=
  fun tr => (hm tr).bind (fun a tr' _ => hf a tr')

theorem ReadOnly.meets {P : ApiTrace → ApiCall → Prop} (hP : AllowsReads P) {m : Exec α} (h : ReadOnly m)
    (tr : ApiTrace) : m.Meets P (fun _ tr' => tr <+: tr') tr :=
  ((h tr).grows).mono (fun tr op hop => hP tr op hop) (fun _ _ hq => hq.2)

theorem ReadOnly.allowed {P : ApiTrace → ApiCall → Prop} (hP : AllowsReads P) {m : Exec α} (h : ReadOnly m)
    (tr : ApiTrace) : m.Meets P (fun _ _ => True) tr :=
  (h.meets hP tr).mono (fun _ _ hp => hp) (fun _ _ _ => trivial)

abbrev Preliminary {α : Type} (m : Exec α) : Prop := m.Only (fun op => op.preliminary = true)

theorem readOnly_of_preliminary {m : Exec α} (h : Preliminary m) : ReadOnly m :=
  h.mono (fun op hop => by cases op <;> first | rfl | cases hop)

theorem preliminary_simple (id : String) (s : ResultStatus) (msg : Option String) : Preliminary (simple id s msg) :=
  only_bind (only_ask rfl) (fun _ => only_pure _)

theorem readOnly_simple (id : String) (s : ResultStatus) (msg : Option String) : ReadOnly (simple id s msg) :=
  readOnly_of_preliminary (preliminary_simple id s msg)

theorem readOnly_commandError (id : String) (mode : ExecutionMode) (msg : String) :
    ReadOnly (commandError id mode msg) :=
  readOnly_bind (readOnly_simple _ _ _) (fun _ => readOnly_pure _)

theorem readOnly_updateAgentError (id msg : String) : ReadOnly (updateAgentError id msg) :=
  readOnly_bind (readOnly_simple _ _ _) (fun _ => readOnly_pure _)

theorem preliminary_listActionPolicies : Preliminary listActionPolicies := by
  refine only_bind (only_ask rfl) (fun list => ?_)
  cases list <;> exact only_pure _

theorem preliminary_ensureEffectivePolicyAllows (cfg : Config) (ns kind : String) (target : Option String)
    (rs : Option WorkloadResourcesSpec) : Preliminary (ensureEffectivePolicyAllows cfg ns kind target rs) := by
  refine only_bind preliminary_listActionPolicies (fun policies => ?_)
  cases policies with
  | error e => exact only_pure _
  | ok policies => exact only_bind (only_ask rfl) (fun _ => only_pure _)

theorem preliminary_ensureClusterActionAllowed (cfg : Config) (kind : String) :
    Preliminary (ensureClusterActionAllowed cfg kind) := by
  refine only_bind preliminary_listActionPolicies (fun policies => ?_)
  cases policies with
  | error e => exact only_pure _
  | ok policies => exact only_bind (only_ask rfl) (fun _ => only_pure _)

theorem readOnly_ensureEffectivePolicyAllows (cfg : Config) (ns kind : String) (target : Option String)
    (rs : Option WorkloadResourcesSpec) : ReadOnly (ensureEffectivePolicyAllows cfg ns kind target rs) :=
  readOnly_of_preliminary (preliminary_ensureEffectivePolicyAllows cfg ns kind target rs)

theorem preliminary_collectPreflightWarnings (spec : WorkloadResourcesSpec) (labels : StrMap String) :
    Preliminary (collectPreflightWarnings spec labels) := by
  have hpa : Preliminary (preflightCheckHpa spec) :=
    only_bind (only_ask rfl) (fun list => by cases list <;> exact only_pure _)
  have vpa : Preliminary (preflightCheckVpa spec) := by
    refine only_bind (only_ask rfl) (fun list => ?_)
    cases list with
    | error e => exact only_pure _
    | ok list =>
      dsimp only
      split <;> exact only_pure _
  have limitrange : Preliminary (preflightCheckLimitrange spec) := by
    refine only_bind (only_ask rfl) (fun list => ?_)
    cases list with
    | error e => exact only_pure _
    | ok count =>
      dsimp only
      split <;> exact only_pure _
  have resourcequota : Preliminary (preflightCheckResourcequota spec) := by
    refine only_bind (only_ask rfl) (fun list => ?_)
    cases list with
    | error e => exact only_pure _
    | ok count =>
      dsimp only
      split <;> exact only_pure _
  have pdb : Preliminary (preflightCheckPdb spec labels) :=
    only_bind (only_ask rfl) (fun list => by cases list <;> exact only_pure _)
  exact only_bind hpa (fun _ => only_bind vpa (fun _ => only_bind limitrange (fun _ =>
    only_bind resourcequota (fun _ => only_bind pdb (fun _ => only_pure _)))))

theorem readOnly_collectPreflightWarnings (spec : WorkloadResourcesSpec) (labels : StrMap String) :
    ReadOnly (collectPreflightWarnings spec labels) :=
  readOnly_of_preliminary (preliminary_collectPreflightWarnings spec labels)

theorem only_awaitRollout {C : ApiCall → Prop} (hnow : C .systemTimeNow)
    (hget : ∀ k ns name, C (.getWorkload k ns name)) (hsleep : ∀ secs, C (.sleep secs)) (deadline : Nat) (kind ns name : String) :
    ∀ fuel, (awaitRollout deadline kind ns name fuel).Only C
  | 0 => fun _ => trivial
  | fuel + 1 => by
    refine only_bind (only_ask hnow) (fun now => ?_)
    split
    · exact only_pure _
    split
    · exact only_pure _
    refine only_bind (only_ask (hget _ _ _)) (fun workload => ?_)
    cases workload with
    | error e => exact only_pure _
    | ok workload =>
      dsimp only
      split
      · exact only_pure _
      · exact only_bind (only_ask (hsleep _)) (fun _ => only_awaitRollout hnow hget hsleep deadline kind ns name fuel)

theorem only_waitForRolloutCompletion {C : ApiCall → Prop} (hnow : C .systemTimeNow)
    (hget : ∀ k ns name, C (.getWorkload k ns name)) (hsleep : ∀ secs, C (.sleep secs)) (fuel : Nat)
    (kind ns name : String) : (waitForRolloutCompletion fuel kind ns name).Only C := by
  refine only_bind (only_ask hnow) (fun now => ?_)
  split
  · exact only_pure _
  · exact only_awaitRollout hnow hget hsleep _ _ _ _ _

theorem readOnly_waitForRolloutCompletion (fuel : Nat) (kind ns name : String) :
    ReadOnly (waitForRolloutCompletion fuel kind ns name) :=
  only_waitForRolloutCompletion (C := fun op => op.mutatesLive = false) rfl (fun _ _ _ => rfl) (fun _ => rfl) fuel kind
    ns name

theorem readOnly_awaitDrained (node sel : String) (force : Bool) (deadline : Nat) :
    ∀ fuel warnings remaining, ReadOnly (awaitDrained node sel force deadline fuel warnings remaining)
  | 0, _, _ => readOnly_pending
  | fuel + 1, warnings, remaining => by
    refine readOnly_bind (readOnly_ask rfl) (fun pods => ?_)
    cases pods with
    | error e => exact readOnly_pure _
    | ok pods =>
      dsimp only
      split
      · exact readOnly_pure _
      split
      · exact readOnly_pure _
      refine readOnly_bind (readOnly_ask rfl) (fun now => ?_)
      split
      · exact readOnly_pure _
      · exact readOnly_bind (readOnly_ask rfl) (fun _ => readOnly_awaitDrained node sel force deadline fuel _ _)

theorem readOnly_getResourceYaml (env : Externals) (cfg : Config) (id : String) (spec : ResourceYamlSpec) :
    ReadOnly (getResourceYaml env cfg id spec) := by
  have err : ∀ msg, ReadOnly (resourceYamlError id msg) := fun msg => readOnly_simple _ _ _
  have render : ∀ v k ns n object, ReadOnly (renderResourceYaml env cfg id v k ns n object) := by
    intro v k ns n object
    obtain ⟨message, heq⟩ | ⟨finish, -, heq⟩ := renderResourceYaml_cases env cfg id v k ns n object
    · rw [heq]
      exact err message
    · rw [heq]
      exact readOnly_bind (readOnly_simple _ _ _)
        (fun _ => readOnly_bind (readOnly_ask rfl) (fun _ => readOnly_pure _))
  obtain ⟨message, heq⟩ | ⟨target, ns, group, version, after, -, -, -, hfail, hread, heq⟩ :=
    getResourceYaml_cases env cfg id spec
  · rw [heq]
    exact err message
  rw [heq]
  refine readOnly_bind (readOnly_ask rfl) (fun answer => ?_)
  cases answer with
  | error e =>
    rw [hfail]
    exact err _
  | ok object =>
    rw [hread]
    exact render _ _ _ _ _

theorem readOnly_diagnosePostgresql (env : Externals) (cfg : Config) (id : String) (spec : PostgresqlDiagnosticSpec) :
    ReadOnly (diagnosePostgresql env cfg id spec) := by
  refine readOnly_bind (readOnly_ensureEffectivePolicyAllows _ _ _ _ _) (fun gate => ?_)
  cases gate with
  | error e => exact readOnly_commandError _ _ _
  | ok e =>
    have hplugin : ReadOnly (pluginDiagnosePostgresql env cfg spec) := by
      unfold pluginDiagnosePostgresql
      split
      · exact readOnly_pure _
      · exact fun tr => meets_lift ApiCall.read _ (fun _ _ => rfl) _
    -- what the plugin does plays no further part, and is slow to unfold
    generalize pluginDiagnosePostgresql env cfg spec = plugin at hplugin ⊢
    exact readOnly_bind hplugin (fun _ => readOnly_bind (readOnly_simple _ _ _) (fun _ => readOnly_pure _))

theorem readOnly_selfUpdate (cfg : Config) (id : String) (spec : SelfUpdateSpec) :
    ReadOnly (selfUpdate cfg id spec) := by
  refine readOnly_bind (readOnly_ensureEffectivePolicyAllows _ _ _ _ _) (fun gate => ?_)
  cases gate with
  | error e => exact readOnly_commandError _ _ _
  | ok e => exact readOnly_bind (readOnly_simple _ _ _) (fun _ => readOnly_pure _)

end Reading

/-! ## The gates -/

section Gates

variable {P : ApiTrace → ApiCall → Prop}

theorem readPolicies_mem : ∀ {items : List (Except PolicyReadError SentinellaHubActionPolicy)}
    {policies : List SentinellaHubActionPolicy}, readPolicies items = .ok policies →
      ∀ policy ∈ policies, .ok policy ∈ items
  | [], policies, h, policy, hp => by
    cases h
    cases hp
  | .error (.serialize text) :: _, policies, h, policy, hp => by cases h
  | .error (.deserialize text) :: _, policies, h, policy, hp => by cases h
  | .ok first :: rest, policies, h, policy, hp => by
    rw [readPolicies] at h
    cases hr : readPolicies rest with
    | error e => simp [hr, Except.map] at h
    | ok more =>
      simp only [hr, Except.map, Except.ok.injEq] at h
      subst h
      rcases List.mem_cons.1 hp with rfl | hp
      · exact List.mem_cons_self
      · exact List.mem_cons_of_mem _ (readPolicies_mem hr policy hp)

theorem listActionPolicies_meets (hP : AllowsReads P) (tr : ApiTrace) :
    listActionPolicies.Meets P (fun r tr' => ∀ policies : List SentinellaHubActionPolicy, r = .ok policies →
      ∃ items : List (Except PolicyReadError SentinellaHubActionPolicy),
        tr' = tr ++ [⟨.listActionPolicies, .ok items⟩] ∧ ∀ policy ∈ policies, .ok policy ∈ items) tr := by
  refine (meets_ask_bind _ _).2 ⟨hP _ _ rfl, fun list => ?_⟩
  cases list with
  | error e => exact fun policies h => by cases h
  | ok items => exact fun policies h => ⟨items, rfl, readPolicies_mem h⟩

/-- **The gate of a namespaced command**: it lists the policies and reads the clock, and when it lets the command pass a
listed policy admits it. -/
theorem ensureEffectivePolicyAllows_meets (hP : AllowsReads P) (cfg : Config) (ns kind : String)
    (target : Option String) (rs : Option WorkloadResourcesSpec) (tr : ApiTrace) :
    (ensureEffectivePolicyAllows cfg ns kind target rs).Meets P (fun r tr' => ∀ e, r = .ok e →
      ListedAdmits (fun now policy => Admits ns kind target rs now cfg.staleAfterMs policy e) tr') tr := by
  refine (listActionPolicies_meets hP tr).bind (fun r tr₁ hr => ?_)
  cases r with
  | error msg => exact fun e h => by cases h
  | ok policies =>
    obtain ⟨items, rfl, hmem⟩ := hr policies rfl
    refine (meets_ask_bind _ _).2 ⟨hP _ _ rfl, fun now e h => ?_⟩
    obtain ⟨pre, policy, post, rfl, hadm, -⟩ := selectEffectivePolicy_ok_iff.1 h
    exact ⟨items, now, policy, by simp, by simp, hmem policy (by simp), hadm⟩

/-- **The gate of a cluster action**; it lists no pods. -/
theorem ensureClusterActionAllowed_meets (hP : AllowsReads P) (cfg : Config) (kind : String) (tr : ApiTrace) :
    (ensureClusterActionAllowed cfg kind).Meets P (fun r tr' => ∀ e, r = .ok e →
      podLists tr' = podLists tr ∧
        ListedAdmits (fun now policy => AdmitsCluster kind now cfg.staleAfterMs policy e) tr') tr := by
  refine (listActionPolicies_meets hP tr).bind (fun r tr₁ hr => ?_)
  cases r with
  | error msg => exact fun e h => by cases h
  | ok policies =>
    obtain ⟨items, rfl, hmem⟩ := hr policies rfl
    refine (meets_ask_bind _ _).2 ⟨hP _ _ rfl, fun now e h => ?_⟩
    obtain ⟨pre, policy, post, rfl, hadm, -⟩ := selectClusterActionPolicy_ok_iff.1 h
    refine ⟨by simp [podLists, podListAnswer], items, now, policy, by simp, by simp, hmem policy (by simp), hadm⟩

end Gates

/-! ## The patches -/

section Patches

variable {P : ApiTrace → ApiCall → Prop}

/-- **A resource patch**: the one call that may be live is the patch itself, made on the workload named. -/
theorem patchWorkloadResources_meets (hP : AllowsReads P) (kind : WorkloadKind) (spec : WorkloadResourcesSpec)
    (patch : Json) (dryRun : Bool) (tr : ApiTrace)
    (hpatch : ∀ tr', tr <+: tr' → P tr' (.patchWorkload kind spec.namespace_ spec.name dryRun patch)) :
    (patchWorkloadResources kind spec patch dryRun).Meets P (fun _ _ => True) tr := by
  refine (meets_ask_bind _ _).2 ⟨hP _ _ rfl, fun before => ?_⟩
  cases before with
  | error e => exact trivial
  | ok before =>
    dsimp only
    split
    · exact trivial
    refine ((readOnly_collectPreflightWarnings _ _).meets hP _).bind (fun warnings tr' htr' => ?_)
    refine (meets_ask_bind _ _).2 ⟨hpatch _ ((List.prefix_append _ _).trans htr'), fun after => ?_⟩
    cases after with
    | error e => exact trivial
    | ok after =>
      dsimp only
      split <;> exact trivial

/-- **A restart patch**: one patch of the workload named, whose success is on record. -/
theorem applyRolloutRestartPatch_meets (hP : AllowsReads P) (kind ns name : String) (patch : Json) (dryRun : Bool)
    (tr : ApiTrace)
    (hpatch : ∀ k tr', WorkloadKind.ofString kind = some k → tr <+: tr' →
      P tr' (.patchWorkload k ns name dryRun patch)) :
    (applyRolloutRestartPatch kind ns name patch dryRun).Meets P (fun r tr' => tr <+: tr' ∧ ∀ v, r = .ok v →
      ∃ k w, WorkloadKind.ofString kind = some k ∧
        (⟨.patchWorkload k ns name dryRun patch, .ok w⟩ : ApiEvent) ∈ tr') tr := by
  unfold applyRolloutRestartPatch
  split
  · exact ⟨List.prefix_refl _, fun v h => by cases h⟩
  rename_i k hk
  refine (meets_ask_bind _ _).2 ⟨hP _ _ rfl, fun before => ?_⟩
  cases before with
  | error e => exact ⟨List.prefix_append _ _, fun v h => by cases h⟩
  | ok before =>
    refine (meets_ask_bind _ _).2 ⟨hpatch k _ hk (List.prefix_append _ _), fun patched => ?_⟩
    cases patched with
    | error e => exact ⟨by simp [List.append_assoc], fun v h => by cases h⟩
    | ok w => exact ⟨by simp [List.append_assoc], fun v _ => ⟨k, w, hk, by simp⟩⟩

end Patches

/-! ## Pods on a node -/

/-- A pod bound to the node that no controller owns. -/
structure UnmanagedOn (nodeName : String) (pod : Pod) : Prop where
  onNode : pod.nodeName = some nodeName
  notMirror : podIsMirror pod = false
  unowned : podOwnerKinds pod = []

theorem classifyPod_unmanaged_ne_nil {nodeName : String} {force : Bool} {acc : PodClasses} {pod : Pod}
    (h : acc.unmanaged ≠ [] ∨ UnmanagedOn nodeName pod) : (classifyPod nodeName force acc pod).unmanaged ≠ [] := by
  unfold classifyPod
  rcases h with h | ⟨h1, h2, h3⟩
  · repeat' split
    all_goals simp [h]
  · simp [h1, h2, h3]

theorem foldl_classifyPod_unmanaged {nodeName : String} {force : Bool} : ∀ (pods : List Pod) (acc : PodClasses),
    (acc.unmanaged ≠ [] ∨ ∃ pod ∈ pods, UnmanagedOn nodeName pod) →
      (pods.foldl (classifyPod nodeName force) acc).unmanaged ≠ []
  | [], acc, h => by simpa using h
  | pod :: pods, acc, h => by
    rw [List.foldl_cons]
    refine foldl_classifyPod_unmanaged pods _ ?_
    rcases h with h | ⟨p, hp, hu⟩
    · exact .inl (classifyPod_unmanaged_ne_nil (.inl h))
    · rcases List.mem_cons.1 hp with rfl | hp
      · exact .inl (classifyPod_unmanaged_ne_nil (.inr hu))
      · exact .inr ⟨p, hp, hu⟩

/-- **A node whose pods classify with none unmanaged has none.** -/
theorem classifyPodsOnNode_none_unmanaged {nodeName : String} {pods : List Pod} {force : Bool}
    (h : (classifyPodsOnNode nodeName pods force).unmanaged = []) : ∀ pod ∈ pods, ¬ UnmanagedOn nodeName pod :=
  fun pod hp hu => foldl_classifyPod_unmanaged pods {} (.inr ⟨pod, hp, hu⟩) h

theorem evictPods_meets {P : ApiTrace → ApiCall → Prop} (nodeName : String) (opts : Option DeleteOptions) :
    ∀ (pods : List (String × String)) (evicted : List String) (tr : ApiTrace),
      (∀ tr' ns name ev, tr <+: tr' → P tr' (.createEviction ns name ev)) →
      (evictPods nodeName opts pods evicted).Meets P (fun _ tr' => tr <+: tr') tr
  | [], _, tr, _ => List.prefix_refl _
  | (ns, name) :: rest, evicted, tr, h => by
    refine (meets_ask_bind _ _).2 ⟨h _ _ _ _ (List.prefix_refl _), fun answer => ?_⟩
    cases answer with
    | error e => exact List.prefix_append _ _
    | ok _ =>
      refine (evictPods_meets nodeName opts rest _ _ (fun tr' ns name ev htr => ?_)).mono (fun _ _ h => h)
        (fun _ tr' htr => (List.prefix_append _ _).trans htr)
      exact h tr' ns name ev ((List.prefix_append _ _).trans htr)

end Executor
end HubAgent
