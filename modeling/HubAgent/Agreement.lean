import HubAgent.StatusSpec
/-!
# The operator and the executor agree

The operator computes `Ready` with one set of tests, the executor's gate repeats them with another.  A status that is
written Ready is accepted by the gate as long as it is fresh, for every action, namespace, kind and quantity the policy
allows; one that is not written Ready, or that was stale when it was written, is never accepted.

The two commands for the agent itself are the exception: the operator never publishes their namespace, and the gate
opens it to `update_agent` alone.
-/
namespace HubAgent
namespace Operator

open Executor

/-! ## Quantities within the limits -/

/-- A quantity of one side of a spec, where it is given, parses to a value that is not negative and does not exceed the
parsed limit, where there is one. -/
def QuantityWithin (parse : String → Option Int) (limit : Option String) (side : Option ResourceMap)
    (get : ResourceMap → Option String) : Prop :=
  ∀ m quantity, side = some m → get m = some quantity →
    ∃ v, parse quantity = some v ∧ 0 ≤ v ∧ ∀ text bound, limit = some text → parse text = some bound → v ≤ bound

/-- **Every quantity of a spec is within the limits of a policy.** -/
structure WithinLimits (limits : Option PolicyLimits) (spec : WorkloadResourcesSpec) : Prop where
  cpuRequest : QuantityWithin parseCpuQuantity (limits.bind PolicyLimits.maxCpuLimit) spec.requests ResourceMap.cpu
  cpuLimit : QuantityWithin parseCpuQuantity (limits.bind PolicyLimits.maxCpuLimit) spec.limits ResourceMap.cpu
  memoryRequest :
    QuantityWithin parseMemoryQuantity (limits.bind PolicyLimits.maxMemoryLimit) spec.requests ResourceMap.memory
  memoryLimit :
    QuantityWithin parseMemoryQuantity (limits.bind PolicyLimits.maxMemoryLimit) spec.limits ResourceMap.memory

theorem quantityExceedsLimit_eq_none {label quantity text : String} {parse : String → Option Int} {v bound : Int}
    (hq : parse quantity = some v) (hv : 0 ≤ v) (hl : parse text = some bound) (hle : v ≤ bound) :
    quantityExceedsLimit label quantity text parse = none := by
  have hmin : i128Min < 0 := by decide
  simp only [quantityExceedsLimit, hq, hl, Option.getD_some]
  rw [if_neg (by omega), if_neg (by omega), if_neg (by omega)]

theorem sideViolation_eq_none {label : String} {limit : Option String} {side : Option ResourceMap}
    {get : ResourceMap → Option String} {parse : String → Option Int}
    (hvalid : limit.all (fun text => (parse text).isSome) = true) (h : QuantityWithin parse limit side get) :
    sideViolation label limit side get parse = none := by
  cases limit with
  | none => rfl
  | some text =>
    cases side with
    | none => rfl
    | some m =>
      cases hget : get m with
      | none => simp [sideViolation, hget]
      | some quantity =>
        obtain ⟨v, hv, h0, hle⟩ := h m quantity rfl hget
        obtain ⟨bound, hb⟩ := Option.isSome_iff_exists.1 (by simpa using hvalid)
        simp only [sideViolation, Option.bind_eq_bind, Option.bind_some, hget]
        exact quantityExceedsLimit_eq_none hv h0 hb (hle text bound rfl hb)

theorem policyLimitsViolationReason_eq_none {limits : Option PolicyLimits} {spec : WorkloadResourcesSpec}
    (hvalid : policyLimitsAreValid limits = true) (h : WithinLimits limits spec) :
    policyLimitsViolationReason limits spec = none := by
  cases limits with
  | none => rfl
  | some limits =>
    simp only [policyLimitsAreValid, Bool.and_eq_true] at hvalid
    simp only [policyLimitsViolationReason, sideViolation_eq_none hvalid.1 h.cpuRequest,
      sideViolation_eq_none hvalid.1 h.cpuLimit, sideViolation_eq_none hvalid.2 h.memoryRequest,
      sideViolation_eq_none hvalid.2 h.memoryLimit]
    rfl

/-! ## The gate on a written status -/

section Written

variable {policy : SentinellaHubActionPolicy} {namespaces : List Namespace} {excluded : Finset String}
  {binding : BindingReconcileOutcome} {t w : Nat}

/-- A written status passes the executor's tests on it exactly while it is fresh, if it was written Ready. -/
theorem statusAdmits_published {now stale : Nat} {name : String} {status : PolicyStatus} :
    StatusAdmits now stale (published policy (buildPolicyStatus policy namespaces excluded binding t w)) name status ↔
      policy.metadata.name = some name ∧ status = buildPolicyStatus policy namespaces excluded binding t w ∧
        now ≤ t + stale ∧ StatusReady (buildPolicyStatus policy namespaces excluded binding t w) := by
  constructor
  · rintro ⟨hn, hs, ⟨last, hlast, hfresh⟩, hready⟩
    obtain rfl := Option.some.inj hs
    obtain rfl : t = last := Option.some.inj hlast
    refine ⟨hn, rfl, hfresh, statusReady_buildPolicyStatus.2 ?_⟩
    rw [← conditionTrue_ready]
    exact conditionTrue_iff.2 hready
  · rintro ⟨hn, rfl, hfresh, hready⟩
    refine ⟨hn, rfl, ⟨t, rfl, hfresh⟩, conditionTrue_iff.1 ?_⟩
    rw [conditionTrue_ready]
    exact statusReady_buildPolicyStatus.1 hready

/-- **The second copy of the tests follows from the first**: what `Ready` promises is what the gate asks of a listed
action, given a kind the policy lists and quantities within its limits. -/
theorem commandAdmits_of_readyGates (hg : ReadyGates policy namespaces excluded binding t w) {action : String}
    (hlisted : action ∈ policy.spec.allowedActions) {target : Option String} {rs : Option WorkloadResourcesSpec}
    (htarget : policyActionTargetsWorkload action = true → ∃ kind ∈ policy.spec.allowedResources, target = some kind)
    (hwithin : isResourceCommand action = true → ∃ spec, rs = some spec ∧ WithinLimits policy.spec.limits spec)
    (status : PolicyStatus) : CommandAdmits (published policy status) action target rs := by
  refine ⟨hlisted, hg.actions, fun hw => ?_, fun hr => ?_⟩
  · obtain ⟨kind, hkind, rfl⟩ := htarget hw
    exact ⟨kind, rfl, hkind, hg.resources (List.any_eq_true.2 ⟨action, hlisted, hw⟩)⟩
  · obtain ⟨spec, rfl, hspec⟩ := hwithin hr
    exact ⟨spec, rfl, policyLimitsViolationReason_eq_none hg.limits hspec⟩

end Written

theorem isResourceCommand_targetsWorkload {action : String} (h : isResourceCommand action = true) :
    policyActionTargetsWorkload action = true := by
  simp only [isResourceCommand, Bool.or_eq_true, beq_iff_eq] at h
  rcases h with rfl | rfl <;> decide

/-- **The operator and the executor agree** on every policy the operator writes a status to. -/
theorem gate_agrees_with_written_status (policy : SentinellaHubActionPolicy) (name : String)
    (hname : policy.metadata.name = some name) (namespaces : List Namespace) (excluded : Finset String)
    (binding : BindingReconcileOutcome) (t w : Nat) (status : PolicyStatus)
    (hstatus : status = buildPolicyStatus policy namespaces excluded binding t w) :
    (StatusReady status → ∀ t', t ≤ t' → t' ≤ t + w →
      ∀ action ∈ policy.spec.allowedActions, action ≠ "self_update" → action ≠ "update_agent" →
        (∀ ns ∈ status.effectiveNamespaces, ∀ target rs,
          (policyActionTargetsWorkload action = true → ∃ kind ∈ policy.spec.allowedResources, target = some kind) →
          (isResourceCommand action = true → ∃ spec, rs = some spec ∧ WithinLimits policy.spec.limits spec) →
          selectEffectivePolicy [published policy status] ns action target rs t' w =
            .ok ⟨name, published policy status, status⟩) ∧
        (policyActionTargetsWorkload action = false →
          selectClusterActionPolicy [published policy status] action t' w =
            .ok ⟨name, published policy status, status⟩)) ∧
    (status.stale = true ∨ ¬ StatusReady status → ∀ action t' w',
      (∀ ns target rs e, selectEffectivePolicy [published policy status] ns action target rs t' w' ≠ .ok e) ∧
      ∀ e, selectClusterActionPolicy [published policy status] action t' w' ≠ .ok e) := by
  subst hstatus
  refine ⟨fun hready t' _ hle action haction _ _ => ⟨fun ns hns target rs htarget hwithin => ?_, fun hcluster => ?_⟩,
    fun hno action t' w' => ?_⟩
  · have hg := readyGates_of_ready (statusReady_buildPolicyStatus.1 hready)
    exact selectEffectivePolicy_singleton.2 ⟨rfl, statusAdmits_published.2 ⟨hname, rfl, hle, hready⟩, .inl hns,
      commandAdmits_of_readyGates hg haction htarget hwithin _⟩
  · have hg := readyGates_of_ready (statusReady_buildPolicyStatus.1 hready)
    refine selectClusterActionPolicy_singleton.2 ⟨rfl, statusAdmits_published.2 ⟨hname, rfl, hle, hready⟩,
      commandAdmits_of_readyGates hg haction (fun hw => ?_) (fun hr => ?_) _⟩
    · rw [hcluster] at hw
      cases hw
    · rw [isResourceCommand_targetsWorkload hr] at hcluster
      cases hcluster
  · -- a status written stale was not written Ready, so both cases are the second
    have hnot : ¬ StatusReady (buildPolicyStatus policy namespaces excluded binding t w) := by
      rcases hno with hstale | hnot
      · intro hready
        have hfresh := (readyGates_of_ready (statusReady_buildPolicyStatus.1 hready)).fresh
        have hstale' : policyStatusIsStale (policy.status.bind PolicyStatus.lastReconciledAtMs) t w = true := hstale
        rw [hstale'] at hfresh
        cases hfresh
      · exact hnot
    refine ⟨fun ns target rs e h => ?_, fun e h => ?_⟩
    · exact hnot (statusAdmits_published.1 (selectEffectivePolicy_singleton.1 h).status).2.2.2
    · exact hnot (statusAdmits_published.1 (selectClusterActionPolicy_singleton.1 h).status).2.2.2

def limitedPolicy : SentinellaHubActionPolicy :=
  { metadata := { name := some "p" }
    spec := { allowedActions := ["apply_workload_resources", "drain_node"], allowedResources := ["Deployment"]
              limits := some { maxCpuLimit := some "2", maxMemoryLimit := some "1Gi" } }
    status := some (readyStatus 0 []) }

def halfCore : WorkloadResourcesSpec :=
  { workloadKind := "Deployment", namespace_ := "app", name := "api", container := "api"
    requests := some { cpu := some "500m" } }

/-- At the last moment of its window a Ready status is still accepted, for a resource command within the limits and for
a cluster action. -/
theorem gate_agrees_with_written_status_at_window_end :
    ∃ status, status = buildPolicyStatus limitedPolicy [namespaceOf "app" [("sentinella.io/action-mode", "true")]]
        (combinedExcludedNamespaces []) ⟨true, none⟩ 60000 180000 ∧ StatusReady status ∧
      selectEffectivePolicy [published limitedPolicy status] "app" "apply_workload_resources" (some "Deployment")
        (some halfCore) 240000 180000 = .ok ⟨"p", published limitedPolicy status, status⟩ ∧
      selectClusterActionPolicy [published limitedPolicy status] "drain_node" 240000 180000 =
        .ok ⟨"p", published limitedPolicy status, status⟩ := by
  have hready : StatusReady (buildPolicyStatus limitedPolicy [namespaceOf "app" [("sentinella.io/action-mode", "true")]]
      (combinedExcludedNamespaces []) ⟨true, none⟩ 60000 180000) := statusReady_buildPolicyStatus.2 (by decide)
  have hagree := (gate_agrees_with_written_status limitedPolicy "p" rfl
    [namespaceOf "app" [("sentinella.io/action-mode", "true")]] (combinedExcludedNamespaces []) ⟨true, none⟩ 60000
    180000 _ rfl).1 hready 240000 (by decide) (by decide)
  have hwithin : WithinLimits limitedPolicy.spec.limits halfCore := by
    refine ⟨fun m q hm hq => ?_, fun m q hm => ?_, fun m q hm hq => ?_, fun m q hm => ?_⟩
    · cases hm
      cases hq
      refine ⟨500000000, by decide, by decide, fun text bound ht hb => ?_⟩
      cases ht
      have htwo : parseCpuQuantity "2" = some 2000000000 := by decide
      rw [htwo] at hb
      cases hb
      decide
    · cases hm
    · cases hm
      cases hq
    · cases hm
  refine ⟨_, rfl, hready, ?_, ?_⟩
  · exact (hagree "apply_workload_resources" (by decide) (by decide) (by decide)).1 "app" (by decide)
      (some "Deployment") (some halfCore) (fun _ => ⟨"Deployment", by decide, rfl⟩) (fun _ => ⟨halfCore, rfl, hwithin⟩)
  · exact (hagree "drain_node" (by decide) (by decide) (by decide)).2 (by decide)

/-! ## The commands for the agent itself -/

/-- **In the agent's namespace only `update_agent` is accepted**, of all the actions a Ready and fresh policy lists: no
configuration publishes that namespace, and the other command for the agent itself, `self_update`, has no bypass. -/
theorem agent_command_accepted_iff_update_agent (policy : SentinellaHubActionPolicy) (name : String)
    (hname : policy.metadata.name = some name) (namespaces : List Namespace) (extra : List String)
    (binding : BindingReconcileOutcome) (t w now : Nat) (status : PolicyStatus)
    (hstatus : status = buildPolicyStatus policy namespaces (combinedExcludedNamespaces extra) binding t w)
    (hready : StatusReady status) (hfresh : now ≤ t + w) (kind : String)
    (hlisted : kind ∈ policy.spec.allowedActions) :
    (∃ e, selectEffectivePolicy [published policy status] updateAgentNamespace kind none none now w = .ok e) ↔
      kind = "update_agent" := by
  subst hstatus
  constructor
  · rintro ⟨e, he⟩
    have hadm := selectEffectivePolicy_singleton.1 he
    obtain ⟨-, hes, -⟩ := statusAdmits_published.1 hadm.status
    rcases hadm.effective with hmem | ⟨hk, -⟩
    · rw [hes] at hmem
      exact absurd hmem (agentNamespace_not_effective namespaces extra)
    · exact hk
  · intro hk
    have hg := readyGates_of_ready (statusReady_buildPolicyStatus.1 hready)
    refine ⟨⟨name, _, _⟩, selectEffectivePolicy_singleton.2 ⟨rfl, statusAdmits_published.2 ⟨hname, rfl, hfresh, hready⟩,
      .inr ⟨hk, rfl⟩, commandAdmits_of_readyGates hg hlisted (fun hw => ?_) (fun hr => ?_) _⟩⟩
    · rw [hk] at hw
      exact absurd hw (by decide)
    · rw [hk] at hr
      exact absurd hr (by decide)

/-- `desired_default_action_policy`, reconciled at the time 0. -/
def desiredDefaultActionPolicy : SentinellaHubActionPolicy :=
  { metadata := { name := some "sentinella-default-action-policy" }
    spec := { allowedActions := ["diagnose_postgresql", "preview_workload_resources", "apply_workload_resources",
                "get_resource_yaml", "rollout_restart", "scale", "self_update", "update_agent"]
              allowedResources := ["Deployment", "StatefulSet", "DaemonSet"] }
    status := some (readyStatus 0 []) }

/-- The default policy lists `self_update`, is written Ready, and the gate of `self_update` refuses it. -/
theorem default_policy_refuses_self_update :
    "self_update" ∈ desiredDefaultActionPolicy.spec.allowedActions ∧
    StatusReady (buildPolicyStatus desiredDefaultActionPolicy
      [namespaceOf "app" [("sentinella.io/action-mode", "true")]] (combinedExcludedNamespaces []) ⟨true, none⟩ 60000
      180000) ∧
    selectEffectivePolicy [published desiredDefaultActionPolicy (buildPolicyStatus desiredDefaultActionPolicy
        [namespaceOf "app" [("sentinella.io/action-mode", "true")]] (combinedExcludedNamespaces []) ⟨true, none⟩ 60000
        180000)] updateAgentNamespace "self_update" none none 60000 180000 =
      .error "namespace sentinella is not eligible for action: no Ready policy matched the namespace" := by
  refine ⟨by decide, statusReady_buildPolicyStatus.2 (by decide), rfl⟩

/-- The same policy's `update_agent` is accepted. -/
theorem default_policy_accepts_update_agent :
    ∃ e, selectEffectivePolicy [published desiredDefaultActionPolicy (buildPolicyStatus desiredDefaultActionPolicy
        [namespaceOf "app" [("sentinella.io/action-mode", "true")]] (combinedExcludedNamespaces []) ⟨true, none⟩ 60000
        180000)] updateAgentNamespace "update_agent" none none 60000 180000 = .ok e :=
  (agent_command_accepted_iff_update_agent desiredDefaultActionPolicy _ rfl
    [namespaceOf "app" [("sentinella.io/action-mode", "true")]] [] ⟨true, none⟩ 60000 180000 60000 _ rfl
    (statusReady_buildPolicyStatus.2 (by decide)) (by decide) "update_agent" (by decide)).2 rfl

end Operator
end HubAgent
