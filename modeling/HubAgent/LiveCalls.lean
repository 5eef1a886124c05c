import HubAgent.Calls
/-!
# Every live call is guarded

For each handler, what has happened before a call of it that changes the cluster: the gate has let the command pass,
the same patch has succeeded as a dry run where the handler rehearses, and the mode is `Execute` where it has one.  The
lemmas are stated against any condition `P` on calls, so that the other results about runs of a handler use them too.
`executeInner_live_calls_guarded` puts them together for every command, every configuration and every oracle.
-/
namespace HubAgent
namespace Executor

open Interaction

/-! ## One handler at a time -/

section Handlers

variable {P : ApiTrace → ApiCall → Prop}

theorem executeWorkloadResourcesInner_meets (hP : AllowsReads P) (cfg : Config) (spec : WorkloadResourcesSpec)
    (dryRun : Bool) (tr : ApiTrace)
    (hpatch : ∀ tr' k e patch, WorkloadKind.ofString spec.workloadKind = some k →
      ListedAdmits (fun now policy => Admits spec.namespace_
        (if dryRun then "preview_workload_resources" else "apply_workload_resources") (some spec.workloadKind)
        (some spec) now cfg.staleAfterMs policy e) tr' →
      P tr' (.patchWorkload k spec.namespace_ spec.name dryRun patch)) :
    (executeWorkloadResourcesInner cfg spec dryRun).Meets P (fun _ _ => True) tr := by
  refine (ensureEffectivePolicyAllows_meets hP _ _ _ _ _ tr).bind (fun gate tr' hgate => ?_)
  cases gate with
  | error msg => exact trivial
  | ok e =>
    dsimp only
    split
    · exact trivial
    rename_i patch _
    split
    · exact trivial
    rename_i k hk
    exact patchWorkloadResources_meets hP k spec patch dryRun tr'
      (fun tr'' hsub => hpatch tr'' k e patch hk ((hgate e rfl).mono hsub))

theorem runWorkloadResources_meets (hP : AllowsReads P) (cfg : Config) (id : String) (spec : WorkloadResourcesSpec)
    (dryRun : Bool) (tr : ApiTrace)
    (hpatch : ∀ tr' k e patch, WorkloadKind.ofString spec.workloadKind = some k →
      ListedAdmits (fun now policy => Admits spec.namespace_
        (if dryRun then "preview_workload_resources" else "apply_workload_resources") (some spec.workloadKind)
        (some spec) now cfg.staleAfterMs policy e) tr' →
      P tr' (.patchWorkload k spec.namespace_ spec.name dryRun patch)) :
    (runWorkloadResources cfg id spec dryRun).Meets P (fun _ _ => True) tr := by
  refine (executeWorkloadResourcesInner_meets hP cfg spec dryRun tr hpatch).bind (fun outcome tr' _ => ?_)
  have hr : ∀ s msg (f : CommandResult → CommandResult), ReadOnly (simple id s msg >>= fun r => pure (f r)) :=
    fun s msg f => readOnly_bind (readOnly_simple _ _ _) (fun _ => readOnly_pure _)
  cases outcome with
  | error msg => exact (hr _ _ _).allowed hP _
  | ok preview => exact (hr _ _ _).allowed hP _

theorem readOnly_previewWorkloadResources (cfg : Config) (id : String) (spec : WorkloadResourcesSpec) :
    ReadOnly (previewWorkloadResources cfg id spec) :=
  fun tr => runWorkloadResources_meets (fun _ _ h => h) cfg id spec true tr (fun _ _ _ _ _ _ => rfl)

/-- **A restart is live only in execute mode, admitted and rehearsed.** -/
theorem rolloutRestart_meets (hP : AllowsReads P) (fuel : Nat) (cfg : Config) (id : String) (spec : RolloutRestartSpec)
    (tr : ApiTrace)
    (hlive : ∀ tr' k e patch w, spec.execution.mode = .execute → WorkloadKind.ofString spec.target.kind = some k →
      ListedAdmits (fun now policy => Admits spec.target.namespace_ "rollout_restart" (some spec.target.kind) none now
        cfg.staleAfterMs policy e) tr' →
      (⟨.patchWorkload k spec.target.namespace_ spec.target.name true patch, .ok w⟩ : ApiEvent) ∈ tr' →
      P tr' (.patchWorkload k spec.target.namespace_ spec.target.name false patch)) :
    (rolloutRestart fuel cfg id spec).Meets P (fun _ _ => True) tr := by
  refine (ensureEffectivePolicyAllows_meets hP _ _ _ _ _ tr).bind (fun gate tr₁ hgate => ?_)
  cases gate with
  | error msg => exact (readOnly_commandError _ _ _).allowed hP _
  | ok e =>
    refine (meets_ask_bind _ _).2 ⟨hP _ _ rfl, fun restartAt => ?_⟩
    refine ((readOnly_simple _ _ _).meets hP _).bind (fun result tr₂ h₂ => ?_)
    have hgate₂ := (hgate e rfl).mono ((List.prefix_append _ _).trans h₂)
    refine (applyRolloutRestartPatch_meets hP _ _ _ _ true tr₂ (fun k tr' _ _ => hP _ _ rfl)).bind
      (fun dry tr₃ h₃ => ?_)
    cases dry with
    | error msg => exact (readOnly_commandError _ _ _).allowed hP _
    | ok before =>
      obtain ⟨k, w, hk, hev⟩ := h₃.2 before rfl
      dsimp only
      split
      · exact trivial
      rename_i hmode
      refine (applyRolloutRestartPatch_meets hP _ _ _ _ false tr₃ (fun k' tr' hk' hsub => ?_)).bind
        (fun applied tr₄ _ => ?_)
      · obtain rfl : k = k' := Option.some.inj (hk.symm.trans hk')
        exact hlive tr' k e _ w hmode hk (hgate₂.mono (h₃.1.trans hsub)) (hsub.subset hev)
      · cases applied with
        | error msg => exact (readOnly_commandError _ _ _).allowed hP _
        | ok after =>
          refine (readOnly_bind (readOnly_waitForRolloutCompletion _ _ _ _) (fun v => ?_)).allowed hP _
          cases v <;> exact readOnly_pure _

/-- **A scale is live only in execute mode, admitted and rehearsed.** -/
theorem scaleWorkload_meets (hP : AllowsReads P) (cfg : Config) (id : String) (spec : ScaleSpec) (tr : ApiTrace)
    (hlive : ∀ tr' e s, spec.execution.mode = .execute →
      ListedAdmits (fun now policy => Admits spec.target.namespace_ "scale" (some spec.target.kind) none now
        cfg.staleAfterMs policy e) tr' →
      (⟨.patchScale spec.target.namespace_ spec.target.name true (scalePatch spec.replicas), .ok s⟩ : ApiEvent) ∈ tr' →
      P tr' (.patchScale spec.target.namespace_ spec.target.name false (scalePatch spec.replicas))) :
    (scaleWorkload cfg id spec).Meets P (fun _ _ => True) tr := by
  have herr : ∀ msg tr, (commandError id spec.execution.mode msg).Meets P (fun _ _ => True) tr :=
    fun msg tr => (readOnly_commandError _ _ _).allowed hP tr
  refine (ensureEffectivePolicyAllows_meets hP _ _ _ _ _ tr).bind (fun gate tr₁ hgate => ?_)
  cases gate with
  | error msg => exact herr _ _
  | ok e =>
    dsimp only
    split
    · exact herr _ _
    split
    · exact herr _ _
    refine (meets_ask_bind _ _).2 ⟨hP _ _ rfl, fun before => ?_⟩
    cases before with
    | error err => exact herr _ _
    | ok before =>
      refine (meets_ask_bind _ _).2 ⟨hP _ _ rfl, fun beforeScale => ?_⟩
      cases beforeScale with
      | error err => exact herr _ _
      | ok beforeScale =>
        refine ((readOnly_simple _ _ _).meets hP _).bind (fun result tr₂ h₂ => ?_)
        have hgate₂ := (hgate e rfl).mono (((List.prefix_append _ _).trans (List.prefix_append _ _)).trans h₂)
        refine (meets_ask_bind _ _).2 ⟨hP _ _ rfl, fun dry => ?_⟩
        cases dry with
        | error err => exact herr _ _
        | ok s =>
          dsimp only
          split
          · exact trivial
          rename_i hmode
          refine (meets_ask_bind _ _).2 ⟨hlive _ e s hmode (hgate₂.mono (List.prefix_append _ _)) (by simp),
            fun applied => ?_⟩
          cases applied with
          | error err => exact herr _ _
          | ok s => exact trivial

/-- **An agent update is live only when admitted and rehearsed.** -/
theorem updateAgent_meets (hP : AllowsReads P) (cfg : Config) (id : String) (spec : UpdateAgentSpec) (tr : ApiTrace)
    (hlive : ∀ tr' e image w, validateUpdateAgentImage spec.image = .ok image →
      ListedAdmits (fun now policy => Admits updateAgentNamespace "update_agent" none none now
        cfg.staleAfterMs policy e) tr' →
      (⟨.patchWorkload .daemonSet updateAgentNamespace updateAgentDaemonset true (updateAgentPatch image), .ok w⟩ :
        ApiEvent) ∈ tr' →
      P tr' (.patchWorkload .daemonSet updateAgentNamespace updateAgentDaemonset false (updateAgentPatch image))) :
    (updateAgent cfg id spec).Meets P (fun _ _ => True) tr := by
  have herr : ∀ msg tr, (updateAgentError id msg).Meets P (fun _ _ => True) tr :=
    fun msg tr => (readOnly_updateAgentError _ _).allowed hP tr
  refine (ensureEffectivePolicyAllows_meets hP _ _ _ _ _ tr).bind (fun gate tr₁ hgate => ?_)
  cases gate with
  | error msg => exact herr _ _
  | ok e =>
    dsimp only
    split
    · exact herr _ _
    rename_i image hvalid
    refine (meets_ask_bind _ _).2 ⟨hP _ _ rfl, fun before => ?_⟩
    cases before with
    | error err => exact herr _ _
    | ok before =>
      dsimp only
      split
      · exact herr _ _
      refine ((readOnly_collectPreflightWarnings _ _).meets hP _).bind (fun warnings tr₂ h₂ => ?_)
      have hgate₂ := (hgate e rfl).mono ((List.prefix_append _ _).trans h₂)
      refine (meets_ask_bind _ _).2 ⟨hP _ _ rfl, fun dry => ?_⟩
      cases dry with
      | error err => exact herr _ _
      | ok w =>
        refine (meets_ask_bind _ _).2 ⟨hlive _ e image w hvalid (hgate₂.mono (List.prefix_append _ _)) (by simp),
          fun after => ?_⟩
        cases after with
        | error err => exact herr _ _
        | ok after =>
          dsimp only
          split
          · exact herr _ _
          · exact (readOnly_bind (readOnly_simple _ _ _) (fun _ => readOnly_pure _)).allowed hP _

def DrainCleared (cfg : Config) (spec : DrainNodeSpec) (tr : ApiTrace) : Prop :=
  (∃ e, ListedAdmits (fun now policy => AdmitsCluster "drain_node" now cfg.staleAfterMs policy e) tr) ∧
  ∃ pods rest, podLists tr = .ok pods :: rest ∧
    (spec.force = false → ∀ pod ∈ pods, ¬ UnmanagedOn (RustStr.trim spec.nodeName) pod)

theorem DrainCleared.mono {cfg : Config} {spec : DrainNodeSpec} {tr tr' : ApiTrace} (hsub : tr <+: tr')
    (h : DrainCleared cfg spec tr) : DrainCleared cfg spec tr' := by
  obtain ⟨⟨e, he⟩, pods, rest, hp, hu⟩ := h
  refine ⟨⟨e, he.mono hsub⟩, pods, ?_⟩
  obtain ⟨later, rfl⟩ := hsub
  exact ⟨rest ++ podLists later, by rw [podLists_append, hp, List.cons_append], hu⟩

theorem cordonAndEvict_meets (hP : AllowsReads P) (fuel : Nat) (cfg : Config) (id : String) (spec : DrainNodeSpec)
    (sel : String) (timeout : Nat) (opts : Option DeleteOptions) (before : Bool) (classes : PodClasses) (tr : ApiTrace)
    (hcordon : ∀ tr', DrainCleared cfg spec tr' → P tr' (.patchNode (RustStr.trim spec.nodeName) false cordonPatch))
    (hevict : ∀ tr' ns name ev, DrainCleared cfg spec tr' → P tr' (.createEviction ns name ev))
    (hc : DrainCleared cfg spec tr) :
    (cordonAndEvict fuel id (RustStr.trim spec.nodeName) sel spec.force timeout opts before classes).Meets P
      (fun _ _ => True) tr := by
  refine (meets_ask_bind _ _).2 ⟨hcordon tr hc, fun cordoned => ?_⟩
  cases cordoned with
  | error err => exact (readOnly_simple _ _ _).allowed hP _
  | ok node =>
    refine (evictPods_meets _ _ _ _ _ (fun tr' ns name ev hsub =>
      hevict tr' ns name ev (hc.mono ((List.prefix_append _ _).trans hsub)))).bind (fun evictions tr' _ => ?_)
    cases evictions with
    | error msg => exact (readOnly_simple _ _ _).allowed hP _
    | ok evicted =>
      refine ReadOnly.allowed hP (readOnly_bind (readOnly_ask rfl) (fun start =>
        readOnly_bind (readOnly_awaitDrained _ _ _ _ _ _ _) (fun waited => ?_))) _
      cases waited with
      | error msg => exact readOnly_simple _ _ _
      | ok p => exact readOnly_bind (readOnly_simple _ _ _) (fun _ => readOnly_pure _)

/-- **A drain changes the cluster only once it is cleared**: admitted, and its first pod list without unmanaged pods
unless forced. -/
theorem drainNode_meets (hP : AllowsReads P) (fuel : Nat) (cfg : Config) (id : String) (spec : DrainNodeSpec)
    (tr : ApiTrace) (htr : podLists tr = [])
    (hcordon : ∀ tr', DrainCleared cfg spec tr' → P tr' (.patchNode (RustStr.trim spec.nodeName) false cordonPatch))
    (hevict : ∀ tr' ns name ev, DrainCleared cfg spec tr' → P tr' (.createEviction ns name ev)) :
    (drainNode fuel cfg id spec).Meets P (fun _ _ => True) tr := by
  have herr : ∀ msg tr, (simple id .error msg).Meets P (fun _ _ => True) tr :=
    fun msg tr => (readOnly_simple _ _ _).allowed hP tr
  unfold drainNode
  dsimp only
  rcases eq_or_ne (RustStr.trim spec.nodeName) "" with hname | hname
  · rw [if_pos hname]
    exact herr _ _
  rw [if_neg hname]
  refine (ensureClusterActionAllowed_meets hP _ _ tr).bind (fun gate tr₁ hgate => ?_)
  cases gate with
  | error msg => exact herr _ _
  | ok e =>
    obtain ⟨hpods, hadm⟩ := hgate e rfl
    dsimp only
    split
    · exact herr _ _
    split
    · exact herr _ _
    refine (meets_ask_bind _ _).2 ⟨hP _ _ rfl, fun node => ?_⟩
    cases node with
    | error err => exact herr _ _
    | ok node =>
      refine (meets_ask_bind _ _).2 ⟨hP _ _ rfl, fun podList => ?_⟩
      cases podList with
      | error err => exact herr _ _
      | ok pods =>
        dsimp only
        split
        · exact herr _ _
        rename_i hun
        refine cordonAndEvict_meets hP fuel cfg id spec _ _ _ _ _ _ hcordon hevict
          ⟨⟨e, hadm.mono ?_⟩, pods, [], ?_, fun hforce => ?_⟩
        · exact (List.prefix_append _ _).trans (List.prefix_append _ _)
        · rw [podLists_append, podLists_append, hpods, htr]
          rfl
        · exact classifyPodsOnNode_none_unmanaged (by simpa [hforce] using hun)

end Handlers

/-! ## Every command -/

def asDryRun : ApiCall → ApiCall
  | .patchWorkload kind ns name _ patch => .patchWorkload kind ns name true patch
  | .patchScale ns name _ patch => .patchScale ns name true patch
  | .patchNode name _ patch => .patchNode name true patch
  | op => op

def patchSucceeded : ApiEvent → Bool
  | ⟨.patchWorkload _ _ _ _ _, .ok _⟩ => true
  | ⟨.patchScale _ _ _ _, .ok _⟩ => true
  | ⟨.patchNode _ _ _, .ok _⟩ => true
  | _ => false

/-- **A policy accepted by the gate for exactly this command**: its kind, and the target and quantities of its spec,
which are the ones the live call `op` is made with. -/
inductive AcceptedFor (cfg : Config) (cmd : Command) (now : Nat) (policy : SentinellaHubActionPolicy) :
    ApiCall → Prop
  | applyResources (spec : WorkloadResourcesSpec) (e : EffectivePolicy) (k : WorkloadKind) (patch : Json)
      (kind : cmd.kind = "apply_workload_resources")
      (parsed : parseSpec Decode.workloadResourcesSpec cmd = .ok spec) (target : spec.workloadKind = k.name)
      (admits : Admits spec.namespace_ cmd.kind (some spec.workloadKind) (some spec) now cfg.staleAfterMs policy e) :
      AcceptedFor cfg cmd now policy (.patchWorkload k spec.namespace_ spec.name false patch)
  | rolloutRestart (spec : RolloutRestartSpec) (e : EffectivePolicy) (k : WorkloadKind) (patch : Json)
      (kind : cmd.kind = "rollout_restart") (parsed : parseSpec Decode.rolloutRestartSpec cmd = .ok spec)
      (target : spec.target.kind = k.name)
      (admits : Admits spec.target.namespace_ cmd.kind (some spec.target.kind) none now cfg.staleAfterMs policy e) :
      AcceptedFor cfg cmd now policy (.patchWorkload k spec.target.namespace_ spec.target.name false patch)
  | scale (spec : ScaleSpec) (e : EffectivePolicy) (kind : cmd.kind = "scale")
      (parsed : parseSpec Decode.scaleSpec cmd = .ok spec)
      (admits : Admits spec.target.namespace_ cmd.kind (some spec.target.kind) none now cfg.staleAfterMs policy e) :
      AcceptedFor cfg cmd now policy
        (.patchScale spec.target.namespace_ spec.target.name false (scalePatch spec.replicas))
  | cordon (spec : DrainNodeSpec) (e : EffectivePolicy) (kind : cmd.kind = "drain_node")
      (parsed : parseSpec Decode.drainNodeSpec cmd = .ok spec)
      (admits : AdmitsCluster cmd.kind now cfg.staleAfterMs policy e) :
      AcceptedFor cfg cmd now policy (.patchNode (RustStr.trim spec.nodeName) false cordonPatch)
  | evict (spec : DrainNodeSpec) (e : EffectivePolicy) (ns name : String) (eviction : Eviction)
      (kind : cmd.kind = "drain_node") (parsed : parseSpec Decode.drainNodeSpec cmd = .ok spec)
      (admits : AdmitsCluster cmd.kind now cfg.staleAfterMs policy e) :
      AcceptedFor cfg cmd now policy (.createEviction ns name eviction)
  | updateAgent (e : EffectivePolicy) (patch : Json) (kind : cmd.kind = "update_agent")
      (admits : Admits updateAgentNamespace cmd.kind none none now cfg.staleAfterMs policy e) :
      AcceptedFor cfg cmd now policy (.patchWorkload .daemonSet updateAgentNamespace updateAgentDaemonset false patch)

/-- **What stands before a live call.** -/
structure LiveCallGuard (cfg : Config) (cmd : Command) (pre : ApiTrace) (op : ApiCall) : Prop where
  actionsEnabled : cfg.actionsEnabled = true
  admitted : ListedAdmits (fun now policy => AcceptedFor cfg cmd now policy op) pre
  rehearsed : cmd.kind = "rollout_restart" ∨ cmd.kind = "scale" ∨ cmd.kind = "update_agent" →
    ∃ e ∈ pre, e.call = asDryRun op ∧ patchSucceeded e = true
  restartExecutes : ∀ spec, cmd.kind = "rollout_restart" → parseSpec Decode.rolloutRestartSpec cmd = .ok spec →
    spec.execution.mode = .execute
  scaleExecutes : ∀ spec, cmd.kind = "scale" → parseSpec Decode.scaleSpec cmd = .ok spec →
    spec.execution.mode = .execute
  notPreview : cmd.kind ≠ "preview_workload_resources"
  drainCleared : ∀ spec, cmd.kind = "drain_node" → parseSpec Decode.drainNodeSpec cmd = .ok spec →
    DrainCleared cfg spec pre

def Guarded (cfg : Config) (cmd : Command) (pre : ApiTrace) (op : ApiCall) : Prop :=
  op.mutatesLive = true → LiveCallGuard cfg cmd pre op

theorem allowsReads_guarded (cfg : Config) (cmd : Command) : AllowsReads (Guarded cfg cmd) := by
  intro tr op h hlive
  rw [h] at hlive
  cases hlive

theorem ListedAdmits.imp {A B : Nat → SentinellaHubActionPolicy → Prop} {tr : ApiTrace}
    (h : ListedAdmits A tr) (hAB : ∀ now policy, A now policy → B now policy) : ListedAdmits B tr := by
  obtain ⟨items, now, policy, h1, h2, h3, h4⟩ := h
  exact ⟨items, now, policy, h1, h2, h3, hAB now policy h4⟩

theorem dispatch_meets {α : Type} {cfg : Config} {cmd : Command} {enabled : Bool} {off : String} {d : Decoder α}
    {handler : α → Exec CommandResult}
    (h : ∀ spec, enabled = true → parseSpec d cmd = .ok spec →
      (handler spec).Meets (Guarded cfg cmd) (fun _ _ => True) []) :
    (dispatch enabled off d cmd handler).Meets (Guarded cfg cmd) (fun _ _ => True) [] := by
  have hsimple : ∀ s msg, (simple cmd.id s msg).Meets (Guarded cfg cmd) (fun _ _ => True) [] :=
    fun s msg => (readOnly_simple _ _ _).allowed (allowsReads_guarded cfg cmd) []
  unfold dispatch
  split
  · exact hsimple _ _
  rename_i hen
  split
  · exact h _ (by simpa using hen) ‹_›
  · exact hsimple _ _

theorem dispatch_readOnly {α : Type} {cfg : Config} {cmd : Command} {enabled : Bool} {off : String} {d : Decoder α}
    {handler : α → Exec CommandResult} (h : ∀ spec, ReadOnly (handler spec)) :
    (dispatch enabled off d cmd handler).Meets (Guarded cfg cmd) (fun _ _ => True) [] :=
  dispatch_meets (fun spec _ _ => (h spec).allowed (allowsReads_guarded cfg cmd) [])

section Handled

-- What is known of these handlers is in their lemmas.
attribute [local irreducible] drainNode getResourceYaml

/-- **Every call of every command is guarded**, whatever the API answers. -/
theorem executeInner_meets (env : Externals) (fuel : Nat) (cfg : Config) (cmd : Command) :
    (executeInner env fuel cfg cmd).Meets (Guarded cfg cmd) (fun _ _ => True) [] := by
  have hP := allowsReads_guarded cfg cmd
  unfold executeInner
  dsimp only
  split
  · exact dispatch_readOnly (readOnly_getResourceYaml env cfg cmd.id)
  · exact dispatch_readOnly (readOnly_diagnosePostgresql env cfg cmd.id)
  · exact dispatch_readOnly (readOnly_previewWorkloadResources cfg cmd.id)
  · rename_i hk
    refine dispatch_meets (fun spec hen hparse => ?_)
    refine runWorkloadResources_meets hP _ _ spec false [] (fun tr k e patch hkind hadm _ => ?_)
    exact { actionsEnabled := hen
            admitted := hadm.imp (fun now policy ha => .applyResources spec e k patch hk hparse
              (WorkloadKind.ofString_eq_some hkind) (hk ▸ ha))
            rehearsed := fun h => by simp [hk] at h
            restartExecutes := fun s h => by simp [hk] at h
            scaleExecutes := fun s h => by simp [hk] at h
            notPreview := by simp [hk]
            drainCleared := fun s h => by simp [hk] at h }
  · rename_i hk
    refine dispatch_meets (fun spec hen hparse => ?_)
    refine rolloutRestart_meets hP fuel _ _ spec [] (fun tr k e patch w hmode hkind hadm hdry _ => ?_)
    exact { actionsEnabled := hen
            admitted := hadm.imp (fun now policy ha => .rolloutRestart spec e k patch hk hparse
              (WorkloadKind.ofString_eq_some hkind) (hk ▸ ha))
            rehearsed := fun _ => ⟨_, hdry, rfl, rfl⟩
            restartExecutes := fun s _ hs => by
              rw [hparse] at hs
              cases hs
              exact hmode
            scaleExecutes := fun s h => by simp [hk] at h
            notPreview := by simp [hk]
            drainCleared := fun s h => by simp [hk] at h }
  · rename_i hk
    refine dispatch_meets (fun spec hen hparse => ?_)
    refine scaleWorkload_meets hP _ _ spec [] (fun tr e s hmode hadm hdry _ => ?_)
    exact { actionsEnabled := hen
            admitted := hadm.imp (fun now policy ha => .scale spec e hk hparse (hk ▸ ha))
            rehearsed := fun _ => ⟨_, hdry, rfl, rfl⟩
            restartExecutes := fun s h => by simp [hk] at h
            scaleExecutes := fun s _ hs => by
              rw [hparse] at hs
              cases hs
              exact hmode
            notPreview := by simp [hk]
            drainCleared := fun s h => by simp [hk] at h }
  · rename_i hk
    refine dispatch_meets (fun spec hen hparse => ?_)
    have hguard : ∀ tr op, DrainCleared cfg spec tr →
        (∀ now policy e, AdmitsCluster cmd.kind now cfg.staleAfterMs policy e → AcceptedFor cfg cmd now policy op) →
        LiveCallGuard cfg cmd tr op := by
      intro tr op hc hop
      obtain ⟨e, hadm⟩ := hc.1
      exact { actionsEnabled := hen
              admitted := hadm.imp (fun now policy ha => hop now policy e (hk ▸ ha))
              rehearsed := fun h => by simp [hk] at h
              restartExecutes := fun s h => by simp [hk] at h
              scaleExecutes := fun s h => by simp [hk] at h
              notPreview := by simp [hk]
              drainCleared := fun s _ hs => by
                rw [hparse] at hs
                cases hs
                exact hc }
    exact drainNode_meets hP fuel _ _ spec [] rfl
      (fun tr hc _ => hguard tr _ hc (fun now policy e ha => .cordon spec e hk hparse ha))
      (fun tr ns name ev hc _ => hguard tr _ hc (fun now policy e ha => .evict spec e ns name ev hk hparse ha))
  · exact dispatch_readOnly (readOnly_selfUpdate cfg cmd.id)
  · rename_i hk
    refine dispatch_meets (fun spec hen hparse => ?_)
    refine updateAgent_meets hP _ _ spec [] (fun tr e image w _ hadm hdry _ => ?_)
    exact { actionsEnabled := hen
            admitted := hadm.imp (fun now policy ha => .updateAgent e _ hk (hk ▸ ha))
            rehearsed := fun _ => ⟨_, hdry, rfl, rfl⟩
            restartExecutes := fun s h => by simp [hk] at h
            scaleExecutes := fun s h => by simp [hk] at h
            notPreview := by simp [hk]
            drainCleared := fun s h => by simp [hk] at h }
  · exact (readOnly_simple _ _ _).allowed hP _

end Handled

/-- **Live calls are guarded**: in the trace of every command, whatever the configuration, the spec and the answers,
each call that changes the cluster comes after its gate, its rehearsal and its mode test; and a drain that is not forced
makes none at all once its first pod list shows an unmanaged pod. -/
theorem executeInner_live_calls_guarded (env : Externals) (fuel : Nat) (cfg : Config) (cmd : Command) (o : ApiOracle) :
    (∀ pre e post, (executeInner env fuel cfg cmd).trace o = pre ++ e :: post → e.call.mutatesLive = true →
      LiveCallGuard cfg cmd pre e.call) ∧
    (∀ spec, cmd.kind = "drain_node" → parseSpec Decode.drainNodeSpec cmd = .ok spec → spec.force = false →
      ∀ pods rest, podLists ((executeInner env fuel cfg cmd).trace o) = .ok pods :: rest →
        (∃ pod ∈ pods, UnmanagedOn (RustStr.trim spec.nodeName) pod) →
        ∀ e ∈ (executeInner env fuel cfg cmd).trace o, e.call.mutatesLive = false) := by
  have hguard := fun pre e post hs => trace_meets o _ (executeInner_meets env fuel cfg cmd) pre post e hs
  refine ⟨hguard, ?_⟩
  rintro spec hk hparse hforce pods rest hpods ⟨pod, hpod, hun⟩ e he
  obtain ⟨pre, post, hs⟩ := List.append_of_mem he
  refine Bool.eq_false_iff.2 (fun hlive => ?_)
  -- the pod list the drain was cleared with is the first of the whole trace
  obtain ⟨-, pods', rest', hp', hclear⟩ := (hguard pre e post hs hlive).drainCleared spec hk hparse
  rw [hs, podLists_append, hp', List.cons_append] at hpods
  simp only [List.cons.injEq, Except.ok.injEq] at hpods
  obtain ⟨rfl, -⟩ := hpods
  exact hclear hforce pod hpod hun

/-- An API server that lists the policies given at the time `t`, and accepts everything else. -/
def calmOracle (t : Nat) (policies : List SentinellaHubActionPolicy) : ApiOracle := fun _ op =>
  match op with
  | .nowMs => t
  | .nowRfc3339 => "2024-01-01T00:00:00Z"
  | .systemTimeNow => t
  | .instantNow => t
  | .sleep _ => ()
  | .listActionPolicies => .ok (policies.map .ok)
  | .getWorkload _ _ _ => .ok {}
  | .patchWorkload _ _ _ _ _ => .ok {}
  | .getScale _ _ => .ok {}
  | .patchScale _ _ _ _ => .ok {}
  | .getNode _ => .ok {}
  | .patchNode _ _ _ => .ok {}
  | .listPods _ => .ok []
  | .createEviction _ _ _ => .ok ()
  | .listHpas _ => .ok []
  | .listVpas _ => .ok []
  | .listLimitRanges _ => .ok 0
  | .listResourceQuotas _ => .ok 0
  | .listPdbs _ => .ok []
  | .getDynamic _ _ _ _ _ => .ok { toValue := .ok .null }
  | .read _ => .ok .null

def noExternals : Externals :=
  { yamlToString := fun _ => .ok "", diagnose := fun _ spec => .ret (diagnosticReportError spec.namespace_ "off") }

def actingConfig : Config := { clusterId := "c", actionsEnabled := true }

/-- A `scale` of `api` in the namespace `app`, executed under the approval given, if any. -/
def scaleCommand (approvalId : Json) : Command :=
  { id := "1", kind := "scale"
    spec := .obj [("execution", .obj [("mode", .str "execute"), ("approval_id", approvalId)]),
      ("target", .obj [("kind", .str "Deployment"), ("namespace", .str "app"), ("name", .str "api")]),
      ("replicas", .num (.int 3))] }

/-- The live patch of an executed scale is the seventh call, and is guarded. -/
theorem executeInner_live_calls_guarded_scale :
    ∃ pre post, (executeInner noExternals 0 actingConfig (scaleCommand .null)).trace
        (calmOracle 5 [readyPolicy 0 ["scale"] ["Deployment"] ["app"]]) =
      pre ++ ⟨.patchScale "app" "api" false (scalePatch 3), .ok {}⟩ :: post ∧
      LiveCallGuard actingConfig (scaleCommand .null) pre (.patchScale "app" "api" false (scalePatch 3)) := by
  have hs : (executeInner noExternals 0 actingConfig (scaleCommand .null)).trace
        (calmOracle 5 [readyPolicy 0 ["scale"] ["Deployment"] ["app"]]) =
      [⟨.listActionPolicies, .ok [.ok (readyPolicy 0 ["scale"] ["Deployment"] ["app"])]⟩, ⟨.nowMs, (5 : Nat)⟩,
        ⟨.getWorkload .deployment "app" "api", .ok {}⟩, ⟨.getScale "app" "api", .ok {}⟩, ⟨.nowMs, (5 : Nat)⟩,
        ⟨.patchScale "app" "api" true (scalePatch 3), .ok {}⟩] ++
      ⟨.patchScale "app" "api" false (scalePatch 3), .ok {}⟩ :: [] := rfl
  exact ⟨_, _, hs, (executeInner_live_calls_guarded noExternals 0 actingConfig _ _).1 _ _ _ hs rfl⟩

end Executor
end HubAgent
