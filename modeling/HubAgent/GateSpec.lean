import HubAgent.Gate
/-!
# What the gate accepts

`StatusAdmits` and `CommandAdmits` say, test by test, when a policy passes; `Admits` is the two with the namespace, and
`AdmitsCluster` without it.  The loops of the two gates return the first policy of the list that passes
(`selectEffectivePolicy_ok_iff`, `selectClusterActionPolicy_ok_iff`), and one that does not pass may be taken out of the
list.
-/
namespace HubAgent
namespace Executor

open Screening (Verdict screen screen_ok_iff screen_singleton_iff screen_isOk_iff screen_toOption screen_toOption_remove)

/-- **The tests on a policy's name and status.** -/
structure StatusAdmits (now staleAfterMs : Nat) (policy : SentinellaHubActionPolicy) (name : String)
    (status : PolicyStatus) : Prop where
  named : policy.metadata.name = some name
  hasStatus : policy.status = some status
  fresh : ∃ last, status.lastReconciledAtMs = some last ∧ now ≤ last + staleAfterMs
  ready : ∃ c ∈ status.conditions, c.type_ = "Ready" ∧ RustStr.eqIgnoreAsciiCase c.status "true" = true

/-- **The tests on a policy's own lists and limits**, for a command with its target and its quantities. -/
structure CommandAdmits (policy : SentinellaHubActionPolicy) (commandKind : String) (targetKind : Option String)
    (resourceSpec : Option WorkloadResourcesSpec) : Prop where
  listed : commandKind ∈ policy.spec.allowedActions
  supported : ∀ action ∈ policy.spec.allowedActions, policyActionIsSupported action = true
  target : policyActionTargetsWorkload commandKind = true →
    ∃ kind, targetKind = some kind ∧ kind ∈ policy.spec.allowedResources ∧
      ∀ resource ∈ policy.spec.allowedResources, policyResourceIsSupported resource = true
  limits : isResourceCommand commandKind = true →
    ∃ spec, resourceSpec = some spec ∧ policyLimitsViolationReason policy.spec.limits spec = none

/-- **A policy that admits a namespaced command.** -/
structure Admits (namespace_ commandKind : String) (targetKind : Option String)
    (resourceSpec : Option WorkloadResourcesSpec) (now staleAfterMs : Nat) (policy : SentinellaHubActionPolicy)
    (e : EffectivePolicy) : Prop where
  isPolicy : e.policy = policy
  status : StatusAdmits now staleAfterMs policy e.name e.status
  effective : namespace_ ∈ e.status.effectiveNamespaces ∨
    (commandKind = "update_agent" ∧ namespace_ = updateAgentNamespace)
  command : CommandAdmits policy commandKind targetKind resourceSpec

/-- **A policy that admits a cluster action.** -/
structure AdmitsCluster (commandKind : String) (now staleAfterMs : Nat) (policy : SentinellaHubActionPolicy)
    (e : EffectivePolicy) : Prop where
  isPolicy : e.policy = policy
  status : StatusAdmits now staleAfterMs policy e.name e.status
  command : CommandAdmits policy commandKind none none

/-! ## One policy -/

theorem conditionTrue_iff {conditions : List PolicyCondition} {t : String} :
    conditionTrue conditions t = true ↔
      ∃ c ∈ conditions, c.type_ = t ∧ RustStr.eqIgnoreAsciiCase c.status "true" = true := by
  simp [conditionTrue, List.any_eq_true]

theorem namespaceIsEffectiveForCommand_iff {ns kind : String} {eff : List String} :
    namespaceIsEffectiveForCommand ns kind eff = true ↔
      ns ∈ eff ∨ (kind = "update_agent" ∧ ns = updateAgentNamespace) := by
  simp [namespaceIsEffectiveForCommand]

theorem statusVerdict_accept {now w : Nat} {policy : SentinellaHubActionPolicy} {name : String}
    {status : PolicyStatus} :
    statusVerdict now w policy = .accept (name, status) ↔ StatusAdmits now w policy name status := by
  constructor
  · intro h
    unfold statusVerdict at h
    split at h
    · cases h
    rename_i n hn
    split at h
    · cases h
    rename_i s hs
    split at h
    · cases h
    rename_i last hlast
    split at h
    · cases h
    rename_i hstale
    split at h
    · cases h
    rename_i hready
    simp only [Verdict.accept.injEq, Prod.mk.injEq] at h
    obtain ⟨rfl, rfl⟩ := h
    refine ⟨hn, hs, ⟨last, hlast, policyStatusIsStale_some.1 (by simpa using hstale)⟩, ?_⟩
    exact conditionTrue_iff.1 (by simpa using hready)
  · rintro ⟨hn, hs, ⟨last, hlast, hfresh⟩, hready⟩
    have h1 := policyStatusIsStale_some.2 hfresh
    have h2 := conditionTrue_iff.2 hready
    simp [statusVerdict, hn, hs, hlast, h1, h2]

theorem targetRejectionReason_eq_none {policy : SentinellaHubActionPolicy} {target : Option String} :
    targetRejectionReason policy target = none ↔
      ∃ kind, target = some kind ∧ kind ∈ policy.spec.allowedResources ∧
        ∀ resource ∈ policy.spec.allowedResources, policyResourceIsSupported resource = true := by
  cases target with
  | none => simp [targetRejectionReason]
  | some kind =>
    simp only [targetRejectionReason, Option.some.injEq, exists_eq_left']
    constructor
    · intro h
      split at h
      · cases h
      rename_i h1
      split at h
      · cases h
      rename_i h2
      simp only [Bool.or_eq_true, Bool.not_eq_true', not_or, Bool.not_eq_false, List.all_eq_true] at h1
      refine ⟨by simpa using h2, h1.1⟩
    · rintro ⟨hmem, hall⟩
      have hne : policy.spec.allowedResources ≠ [] := List.ne_nil_of_mem hmem
      rw [if_neg (by simpa [hne] using hall), if_neg (by simpa using hmem)]

theorem resourcesRejectionReason_eq_none {policy : SentinellaHubActionPolicy} {rs : Option WorkloadResourcesSpec} :
    resourcesRejectionReason policy rs = none ↔
      ∃ spec, rs = some spec ∧ policyLimitsViolationReason policy.spec.limits spec = none := by
  cases rs <;> simp [resourcesRejectionReason]

/-- **A policy has no reason to refuse exactly when it admits the command.** -/
theorem policyRejectionReasonForCommand_eq_none {policy : SentinellaHubActionPolicy} {kind : String}
    {target : Option String} {rs : Option WorkloadResourcesSpec} :
    policyRejectionReasonForCommand policy kind target rs = none ↔ CommandAdmits policy kind target rs := by
  constructor
  · intro h
    unfold policyRejectionReasonForCommand at h
    split at h
    · cases h
    rename_i h1
    split at h
    · cases h
    rename_i h2
    simp only [Bool.or_eq_true, Bool.not_eq_true', not_or, Bool.not_eq_false, List.all_eq_true] at h1
    split at h
    · cases h
    rename_i h3
    refine ⟨by simpa using h2, h1.1, fun hw => ?_, fun hr => ?_⟩
    · rw [if_pos hw] at h3
      exact targetRejectionReason_eq_none.1 h3
    · rw [if_pos hr] at h
      exact resourcesRejectionReason_eq_none.1 h
  · rintro ⟨hl, hs, ht, hr⟩
    have hne : policy.spec.allowedActions ≠ [] := List.ne_nil_of_mem hl
    have h3 : (if policyActionTargetsWorkload kind then targetRejectionReason policy target else none) = none := by
      split
      · exact targetRejectionReason_eq_none.2 (ht ‹_›)
      · rfl
    unfold policyRejectionReasonForCommand
    rw [if_neg (by simpa [hne] using hs), if_neg (by simpa using hl), h3]
    simp only
    split
    · exact resourcesRejectionReason_eq_none.2 (hr ‹_›)
    · rfl

theorem commandVerdict_accept {name : String} {policy : SentinellaHubActionPolicy} {status : PolicyStatus}
    {kind : String} {target : Option String} {rs : Option WorkloadResourcesSpec} {e : EffectivePolicy} :
    commandVerdict name policy status kind target rs = .accept e ↔
      CommandAdmits policy kind target rs ∧ e = ⟨name, policy, status⟩ := by
  rw [← policyRejectionReasonForCommand_eq_none, commandVerdict]
  cases policyRejectionReasonForCommand policy kind target rs with
  | some reason => simp
  | none => simp [eq_comm]

theorem effectivePolicyVerdict_accept {ns kind : String} {target : Option String} {rs : Option WorkloadResourcesSpec}
    {now w : Nat} {policy : SentinellaHubActionPolicy} {e : EffectivePolicy} :
    effectivePolicyVerdict ns kind target rs now w policy = .accept e ↔ Admits ns kind target rs now w policy e := by
  constructor
  · intro h
    unfold effectivePolicyVerdict at h
    split at h
    · cases h
    · cases h
    rename_i name status hs
    split at h
    · cases h
    rename_i hns
    obtain ⟨hc, rfl⟩ := commandVerdict_accept.1 h
    exact ⟨rfl, statusVerdict_accept.1 hs, namespaceIsEffectiveForCommand_iff.1 (by simpa using hns), hc⟩
  · rintro ⟨rfl, hs, hns, hc⟩
    have h1 := namespaceIsEffectiveForCommand_iff.2 hns
    simp only [effectivePolicyVerdict, statusVerdict_accept.2 hs, h1]
    exact commandVerdict_accept.2 ⟨hc, rfl⟩

theorem clusterActionVerdict_accept {kind : String} {now w : Nat} {policy : SentinellaHubActionPolicy}
    {e : EffectivePolicy} :
    clusterActionVerdict kind now w policy = .accept e ↔ AdmitsCluster kind now w policy e := by
  constructor
  · intro h
    unfold clusterActionVerdict at h
    split at h
    · cases h
    · cases h
    rename_i name status hs
    obtain ⟨hc, rfl⟩ := commandVerdict_accept.1 h
    exact ⟨rfl, statusVerdict_accept.1 hs, hc⟩
  · rintro ⟨rfl, hs, hc⟩
    simp only [clusterActionVerdict, statusVerdict_accept.2 hs]
    exact commandVerdict_accept.2 ⟨hc, rfl⟩

/-! ## The list -/

theorem accepted_eq_none_iff {α : Type} {v : Verdict String α} : v.accepted = none ↔ ∀ e, v ≠ .accept e := by
  cases v <;> simp

theorem selectEffectivePolicy_eq_ok {policies : List SentinellaHubActionPolicy} {ns kind : String}
    {target : Option String} {rs : Option WorkloadResourcesSpec} {now w : Nat} {e : EffectivePolicy} :
    selectEffectivePolicy policies ns kind target rs now w = .ok e ↔
      screen (effectivePolicyVerdict ns kind target rs now w) policies [] = .ok e := by
  unfold selectEffectivePolicy
  split <;> simp_all

theorem selectClusterActionPolicy_eq_ok {policies : List SentinellaHubActionPolicy} {kind : String} {now w : Nat}
    {e : EffectivePolicy} :
    selectClusterActionPolicy policies kind now w = .ok e ↔
      screen (clusterActionVerdict kind now w) policies [] = .ok e := by
  unfold selectClusterActionPolicy
  split <;> simp_all

/-- **The gate returns the first policy that admits the command.** -/
theorem selectEffectivePolicy_ok_iff {policies : List SentinellaHubActionPolicy} {ns kind : String}
    {target : Option String} {rs : Option WorkloadResourcesSpec} {now w : Nat} {e : EffectivePolicy} :
    selectEffectivePolicy policies ns kind target rs now w = .ok e ↔
      ∃ pre policy post, policies = pre ++ policy :: post ∧ Admits ns kind target rs now w policy e ∧
        ∀ q ∈ pre, ∀ e', ¬ Admits ns kind target rs now w q e' := by
  rw [selectEffectivePolicy_eq_ok, screen_ok_iff]
  simp only [accepted_eq_none_iff, ne_eq, effectivePolicyVerdict_accept]

theorem selectEffectivePolicy_isOk_iff {policies : List SentinellaHubActionPolicy} {ns kind : String}
    {target : Option String} {rs : Option WorkloadResourcesSpec} {now w : Nat} :
    (∃ e, selectEffectivePolicy policies ns kind target rs now w = .ok e) ↔
      ∃ policy ∈ policies, ∃ e, Admits ns kind target rs now w policy e := by
  simp only [selectEffectivePolicy_eq_ok, screen_isOk_iff, effectivePolicyVerdict_accept]

/-- **The cluster gate returns the first policy that admits the action.** -/
theorem selectClusterActionPolicy_ok_iff {policies : List SentinellaHubActionPolicy} {kind : String} {now w : Nat}
    {e : EffectivePolicy} :
    selectClusterActionPolicy policies kind now w = .ok e ↔
      ∃ pre policy post, policies = pre ++ policy :: post ∧ AdmitsCluster kind now w policy e ∧
        ∀ q ∈ pre, ∀ e', ¬ AdmitsCluster kind now w q e' := by
  rw [selectClusterActionPolicy_eq_ok, screen_ok_iff]
  simp only [accepted_eq_none_iff, ne_eq, clusterActionVerdict_accept]

theorem selectClusterActionPolicy_isOk_iff {policies : List SentinellaHubActionPolicy} {kind : String} {now w : Nat} :
    (∃ e, selectClusterActionPolicy policies kind now w = .ok e) ↔
      ∃ policy ∈ policies, ∃ e, AdmitsCluster kind now w policy e := by
  simp only [selectClusterActionPolicy_eq_ok, screen_isOk_iff, clusterActionVerdict_accept]

theorem selectEffectivePolicy_singleton {policy : SentinellaHubActionPolicy} {ns kind : String}
    {target : Option String} {rs : Option WorkloadResourcesSpec} {now w : Nat} {e : EffectivePolicy} :
    selectEffectivePolicy [policy] ns kind target rs now w = .ok e ↔ Admits ns kind target rs now w policy e := by
  rw [selectEffectivePolicy_eq_ok, screen_singleton_iff, effectivePolicyVerdict_accept]

theorem selectClusterActionPolicy_singleton {policy : SentinellaHubActionPolicy} {kind : String} {now w : Nat}
    {e : EffectivePolicy} :
    selectClusterActionPolicy [policy] kind now w = .ok e ↔ AdmitsCluster kind now w policy e := by
  rw [selectClusterActionPolicy_eq_ok, screen_singleton_iff, clusterActionVerdict_accept]

theorem selectEffectivePolicy_toOption (policies : List SentinellaHubActionPolicy) (ns kind : String)
    (target : Option String) (rs : Option WorkloadResourcesSpec) (now w : Nat) :
    (selectEffectivePolicy policies ns kind target rs now w).toOption =
      (screen (effectivePolicyVerdict ns kind target rs now w) policies []).toOption := by
  unfold selectEffectivePolicy
  split <;> simp_all [Except.toOption]

theorem selectClusterActionPolicy_toOption (policies : List SentinellaHubActionPolicy) (kind : String) (now w : Nat) :
    (selectClusterActionPolicy policies kind now w).toOption =
      (screen (clusterActionVerdict kind now w) policies []).toOption := by
  unfold selectClusterActionPolicy
  split <;> simp_all [Except.toOption]

/-- **The two gates**: each accepts exactly when some policy of the list admits, returns the first that does, and its
choice is the same without any policy that does not admit. -/
theorem gates_choose_the_first_admitting_policy (policies : List SentinellaHubActionPolicy) (ns kind : String)
    (target : Option String) (rs : Option WorkloadResourcesSpec) (now w : Nat) :
    ((∃ e, selectEffectivePolicy policies ns kind target rs now w = .ok e) ↔
      ∃ policy ∈ policies, ∃ e, Admits ns kind target rs now w policy e) ∧
    (∀ e, selectEffectivePolicy policies ns kind target rs now w = .ok e ↔
      ∃ pre policy post, policies = pre ++ policy :: post ∧ Admits ns kind target rs now w policy e ∧
        ∀ q ∈ pre, ∀ e', ¬ Admits ns kind target rs now w q e') ∧
    ((∃ e, selectClusterActionPolicy policies kind now w = .ok e) ↔
      ∃ policy ∈ policies, ∃ e, AdmitsCluster kind now w policy e) ∧
    (∀ e, selectClusterActionPolicy policies kind now w = .ok e ↔
      ∃ pre policy post, policies = pre ++ policy :: post ∧ AdmitsCluster kind now w policy e ∧
        ∀ q ∈ pre, ∀ e', ¬ AdmitsCluster kind now w q e') ∧
    (∀ pre policy post, policies = pre ++ policy :: post →
      ((∀ e, ¬ Admits ns kind target rs now w policy e) →
        (selectEffectivePolicy policies ns kind target rs now w).toOption =
          (selectEffectivePolicy (pre ++ post) ns kind target rs now w).toOption) ∧
      ((∀ e, ¬ AdmitsCluster kind now w policy e) →
        (selectClusterActionPolicy policies kind now w).toOption =
          (selectClusterActionPolicy (pre ++ post) kind now w).toOption)) := by
  refine ⟨selectEffectivePolicy_isOk_iff, fun e => selectEffectivePolicy_ok_iff, selectClusterActionPolicy_isOk_iff,
    fun e => selectClusterActionPolicy_ok_iff, ?_⟩
  rintro pre policy post rfl
  refine ⟨fun hno => ?_, fun hno => ?_⟩
  · rw [selectEffectivePolicy_toOption, selectEffectivePolicy_toOption]
    refine screen_toOption_remove _ pre post policy [] (accepted_eq_none_iff.2 (fun e he => ?_))
    exact hno e (effectivePolicyVerdict_accept.1 he)
  · rw [selectClusterActionPolicy_toOption, selectClusterActionPolicy_toOption]
    refine screen_toOption_remove _ pre post policy [] (accepted_eq_none_iff.2 (fun e he => ?_))
    exact hno e (clusterActionVerdict_accept.1 he)

def readyStatus (t : Nat) (namespaces : List String) : PolicyStatus :=
  { effectiveNamespaces := namespaces
    conditions := [⟨"Ready", "True", some "ready", none, none, some t⟩]
    observedGeneration := none
    lastReconciledAtMs := some t
    stale := false }

def readyPolicy (t : Nat) (actions resources namespaces : List String) : SentinellaHubActionPolicy :=
  { metadata := { name := some "p" }
    spec := { allowedActions := actions, allowedResources := resources }
    status := some (readyStatus t namespaces) }

/-- A cluster gate asked for a workload action refuses a policy that lists it: it has no target kind to show.  And a
refused policy does leave its trace, in the text of the refusal. -/
theorem cluster_gate_refuses_a_listed_workload_action :
    StatusAdmits 0 0 (readyPolicy 0 ["scale"] ["Deployment"] ["app"]) "p" (readyStatus 0 ["app"]) ∧
    "scale" ∈ (readyPolicy 0 ["scale"] ["Deployment"] ["app"]).spec.allowedActions ∧
    (∀ a ∈ (readyPolicy 0 ["scale"] ["Deployment"] ["app"]).spec.allowedActions, policyActionIsSupported a = true) ∧
    selectClusterActionPolicy [readyPolicy 0 ["scale"] ["Deployment"] ["app"]] "scale" 0 0 =
      .error "cluster action scale is not eligible: policy p is missing a workload target kind" ∧
    selectClusterActionPolicy [] "scale" 0 0 =
      .error "cluster action scale is not eligible: no Ready policy matched the cluster action" := by
  refine ⟨⟨rfl, rfl, ⟨0, rfl, Nat.le_refl 0⟩, ⟨_, List.mem_singleton.2 rfl, rfl, by decide⟩⟩, ?_, ?_, rfl, rfl⟩
  · exact List.mem_singleton.2 rfl
  · intro a ha
    rw [List.mem_singleton.1 ha]
    decide

end Executor
end HubAgent
