import HubAgent.GateSpec
import HubAgent.Operator
/-!
# What a written status says

A namespace is effective when it is listed, not excluded and labelled (`mem_effectiveNamespaces`); the policy itself is
not asked, so its selector is enforced only where every namespace opted in happens to match it
(`selector_enforced_iff_opted_in_match`).  `Ready` is the conjunction of the gates (`statusReady_buildPolicyStatus`),
and `ReadyGates` names what that gives the executor.
-/
namespace HubAgent
namespace Operator

open Executor (conditionTrue conditionTrue_iff selectEffectivePolicy selectEffectivePolicy_ok_iff readyStatus
  EffectivePolicy updateAgentNamespace)

def StatusReady (status : PolicyStatus) : Prop := ∃ c ∈ status.conditions, c.type_ = "Ready" ∧ c.status = "True"

/-- A policy as the cluster holds it once `status` is written to it. -/
def published (policy : SentinellaHubActionPolicy) (status : PolicyStatus) : SentinellaHubActionPolicy :=
  { policy with status := some status }

/-! ## Effective namespaces -/

/-- A listed namespace that is named so, is not excluded and is labelled for action mode. -/
structure OptedIn (excluded : Finset String) (ns : Namespace) (name : String) : Prop where
  named : ns.metadata.name = some name
  notExcluded : namespaceIsExcluded name excluded = false
  labelled : namespaceActionModeEnabled ns = true

theorem effectiveName_eq_some {excluded : Finset String} {ns : Namespace} {name : String} :
    effectiveName excluded ns = some name ↔ OptedIn excluded ns name := by
  unfold effectiveName
  constructor
  · intro h
    split at h
    · cases h
    rename_i n hn
    split at h
    · rename_i hc
      cases h
      simp only [Bool.and_eq_true, Bool.not_eq_true'] at hc
      exact ⟨hn, hc.1, hc.2⟩
    · cases h
  · rintro ⟨hn, hx, hl⟩
    simp [hn, hx, hl]

theorem mem_effectiveNamespaces {namespaces : List Namespace} {excluded : Finset String} {name : String} :
    name ∈ effectiveNamespaces namespaces excluded ↔ ∃ ns ∈ namespaces, OptedIn excluded ns name := by
  unfold effectiveNamespaces
  rw [List.mem_insertionSort, List.mem_filterMap]
  simp only [effectiveName_eq_some]

/-- A pattern without a `*` excludes the namespace it names. -/
theorem namespaceIsExcluded_of_mem {name : String} {excluded : Finset String} (hmem : name ∈ excluded)
    (hplain : namespaceMatchesPattern name name = true) : namespaceIsExcluded name excluded = true :=
  decide_eq_true ⟨name, hmem, hplain⟩

/-- **The agent's own namespace is excluded under every configuration.** -/
theorem agentNamespace_excluded (extra : List String) :
    namespaceIsExcluded updateAgentNamespace (combinedExcludedNamespaces extra) = true := by
  refine namespaceIsExcluded_of_mem ?_ (by decide)
  rw [combinedExcludedNamespaces, List.mem_toFinset, List.mem_filter]
  exact ⟨List.mem_append_left _ (by decide), by decide⟩

theorem agentNamespace_not_effective (namespaces : List Namespace) (extra : List String) :
    updateAgentNamespace ∉ effectiveNamespaces namespaces (combinedExcludedNamespaces extra) := by
  intro h
  obtain ⟨ns, -, hopt⟩ := mem_effectiveNamespaces.1 h
  have hx := hopt.notExcluded
  rw [agentNamespace_excluded extra] at hx
  cases hx

/-! ## Readiness -/

theorem PolicyGates.ready_eq (g : PolicyGates) : g.ready = (g.othersPass && !g.stale) := by
  unfold PolicyGates.ready PolicyGates.othersPass
  cases g.stale <;> simp

/-- The written conditions have one `Ready`, and it is the conjunction of the gates. -/
theorem statusReady_buildPolicyStatus {policy : SentinellaHubActionPolicy} {namespaces : List Namespace}
    {excluded : Finset String} {binding : BindingReconcileOutcome} {t w : Nat} :
    StatusReady (buildPolicyStatus policy namespaces excluded binding t w) ↔
      (policyGates policy namespaces excluded binding t w).ready = true := by
  simp only [StatusReady, buildPolicyStatus, buildPolicyConditions, policyCondition, List.mem_cons, List.not_mem_nil,
    or_false, exists_eq_or_imp, exists_eq_left]
  simp

/-- The executor reads `Ready` off a written status as the operator meant it. -/
theorem conditionTrue_ready {policy : SentinellaHubActionPolicy} {namespaces : List Namespace}
    {excluded : Finset String} {binding : BindingReconcileOutcome} {t w : Nat} :
    conditionTrue (buildPolicyStatus policy namespaces excluded binding t w).conditions "Ready" =
      (policyGates policy namespaces excluded binding t w).ready := by
  have htrue : RustStr.eqIgnoreAsciiCase "True" "true" = true := by decide
  have hfalse : RustStr.eqIgnoreAsciiCase "False" "true" = false := by decide
  simp only [conditionTrue, buildPolicyStatus, buildPolicyConditions, policyCondition, List.any_cons, List.any_nil]
  cases (policyGates policy namespaces excluded binding t w).ready <;> simp [htrue, hfalse]

/-- **What `Ready` promises about a policy.** -/
structure ReadyGates (policy : SentinellaHubActionPolicy) (namespaces : List Namespace) (excluded : Finset String)
    (binding : BindingReconcileOutcome) (t w : Nat) : Prop where
  actions : ∀ action ∈ policy.spec.allowedActions, policyActionIsSupported action = true
  resources : policy.spec.allowedActions.any policyActionTargetsWorkload = true →
    ∀ resource ∈ policy.spec.allowedResources, policyResourceIsSupported resource = true
  limits : policyLimitsAreValid policy.spec.limits = true
  eligible : effectiveNamespaces namespaces excluded ≠ []
  granted : binding.permissionGranted = true
  noError : binding.reconciliationError = none
  fresh : policyStatusIsStale (policy.status.bind PolicyStatus.lastReconciledAtMs) t w = false

theorem readyGates_of_ready {policy : SentinellaHubActionPolicy} {namespaces : List Namespace}
    {excluded : Finset String} {binding : BindingReconcileOutcome} {t w : Nat}
    (h : (policyGates policy namespaces excluded binding t w).ready = true) :
    ReadyGates policy namespaces excluded binding t w := by
  simp only [PolicyGates.ready, policyGates, Bool.and_eq_true, Bool.not_eq_true', Option.isNone_iff_eq_none,
    List.isEmpty_eq_false_iff, List.all_eq_true] at h
  obtain ⟨⟨⟨⟨⟨⟨⟨-, hns⟩, hperm⟩, hact⟩, hres⟩, hlim⟩, hfresh⟩, herr⟩ := h
  refine ⟨hact.1, fun hw => ?_, hlim, hns, hperm, herr, hfresh⟩
  rw [if_pos hw] at hres
  simp only [Bool.and_eq_true, List.all_eq_true] at hres
  exact hres.2

/-! ## The selector -/

/-- The policy's selector matches a listed namespace of that name. -/
def SelectorAccepts (policy : SentinellaHubActionPolicy) (namespaces : List Namespace) (name : String) : Prop :=
  ∃ ns ∈ namespaces, ns.metadata.name = some name ∧
    labelSelectorMatches policy.spec.namespaceSelector (ns.metadata.labels.getD ∅) = true

/-- **The selector is enforced** through a status: every effective namespace is accepted by it, and so is every
namespace in which the gate admits a command through the policy.  `update_agent` names no namespace. -/
structure SelectorEnforced (policy : SentinellaHubActionPolicy) (namespaces : List Namespace) (status : PolicyStatus) :
    Prop where
  effective : ∀ name ∈ status.effectiveNamespaces, SelectorAccepts policy namespaces name
  admitted : ∀ policies name kind target resources now w e,
    selectEffectivePolicy policies name kind target resources now w = .ok e → e.policy = published policy status →
    kind ≠ "update_agent" → SelectorAccepts policy namespaces name

/-- **When the selector is enforced**: exactly when it accepts every namespace that opted in. -/
theorem selector_enforced_iff_opted_in_match (policy : SentinellaHubActionPolicy) (namespaces : List Namespace)
    (excluded : Finset String) (binding : BindingReconcileOutcome) (t w : Nat) :
    SelectorEnforced policy namespaces (buildPolicyStatus policy namespaces excluded binding t w) ↔
      ∀ ns ∈ namespaces, ∀ name, OptedIn excluded ns name → SelectorAccepts policy namespaces name := by
  constructor
  · intro h ns hns name hopt
    exact h.effective name (mem_effectiveNamespaces.2 ⟨ns, hns, hopt⟩)
  · intro h
    have heff : ∀ name ∈ effectiveNamespaces namespaces excluded, SelectorAccepts policy namespaces name := by
      intro name hname
      obtain ⟨ns, hns, hopt⟩ := mem_effectiveNamespaces.1 hname
      exact h ns hns name hopt
    refine ⟨heff, ?_⟩
    intro policies name kind target resources now w' e hgate hpol hkind
    obtain ⟨-, q, -, -, hadm, -⟩ := selectEffectivePolicy_ok_iff.1 hgate
    -- the status the gate read is the one written to the policy
    have hstatus : e.status = buildPolicyStatus policy namespaces excluded binding t w := by
      have hs := hadm.status.hasStatus
      rw [← hadm.isPolicy, hpol] at hs
      exact (Option.some.inj hs).symm
    rcases hadm.effective with hmem | ⟨hk, -⟩
    · rw [hstatus] at hmem
      exact heff name hmem
    · exact absurd hk hkind

def labelsOf (pairs : List (String × String)) : StrMap String := pairs.foldr (fun p m => m.insert p.1 p.2) ∅

def namespaceOf (name : String) (pairs : List (String × String)) : Namespace :=
  ⟨{ name := some name, labels := some (labelsOf pairs) }⟩

def paymentsPolicy : SentinellaHubActionPolicy :=
  { metadata := { name := some "p" }
    spec := { namespaceSelector := some { matchLabels := some (labelsOf [("team", "payments")]) }
              allowedActions := ["scale"], allowedResources := ["Deployment"] }
    status := some (readyStatus 0 []) }

/-- `app` belongs to another team, is effective for the policy of `payments` all the same, and the gate admits a scale
of a workload in it through that policy. -/
theorem selector_not_enforced :
    ¬ ∀ policy namespaces excluded binding t w,
      SelectorEnforced policy namespaces (buildPolicyStatus policy namespaces excluded binding t w) := by
  intro h
  have henf := h paymentsPolicy [namespaceOf "app" [("team", "web"), ("sentinella.io/action-mode", "true")]]
    (combinedExcludedNamespaces []) ⟨true, none⟩ 0 180000
  have hadmitted := henf.admitted [published paymentsPolicy (buildPolicyStatus paymentsPolicy
      [namespaceOf "app" [("team", "web"), ("sentinella.io/action-mode", "true")]] (combinedExcludedNamespaces [])
      ⟨true, none⟩ 0 180000)] "app" "scale" (some "Deployment") none 0 180000 _ rfl rfl (by decide)
  obtain ⟨ns, hns, -, hmatch⟩ := hadmitted
  rw [List.mem_singleton.1 hns] at hmatch
  revert hmatch
  decide

end Operator
end HubAgent
