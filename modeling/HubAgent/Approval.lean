import HubAgent.LiveCalls
/-!
# Approval is decided elsewhere

A policy carries `approvalRequired` and an execution envelope carries an `approval_id`; the gate and the handlers read
neither.  What stands between a command and a live call is the mode, the gate and the rehearsal, and these are the same
whatever the two fields hold.
-/
namespace HubAgent
namespace Executor

open Interaction
open Screening (Verdict screen screen_map)

def withApproval (flag : SentinellaHubActionPolicy → Bool) (policy : SentinellaHubActionPolicy) :
    SentinellaHubActionPolicy :=
  { policy with spec := { policy.spec with approvalRequired := flag policy } }

def EffectivePolicy.withApproval (flag : SentinellaHubActionPolicy → Bool) (e : EffectivePolicy) : EffectivePolicy :=
  { e with policy := Executor.withApproval flag e.policy }

/-! ## The gate -/

section Flag

variable (flag : SentinellaHubActionPolicy → Bool)

theorem commandVerdict_withApproval (name : String) (policy : SentinellaHubActionPolicy) (status : PolicyStatus)
    (kind : String) (target : Option String) (rs : Option WorkloadResourcesSpec) :
    commandVerdict name (withApproval flag policy) status kind target rs =
      (commandVerdict name policy status kind target rs).map (EffectivePolicy.withApproval flag) := by
  have hreason : policyRejectionReasonForCommand (withApproval flag policy) kind target rs =
      policyRejectionReasonForCommand policy kind target rs := rfl
  unfold commandVerdict
  rw [hreason]
  cases policyRejectionReasonForCommand policy kind target rs <;> rfl

theorem effectivePolicyVerdict_withApproval (ns kind : String) (target : Option String)
    (rs : Option WorkloadResourcesSpec) (now w : Nat) (policy : SentinellaHubActionPolicy) :
    effectivePolicyVerdict ns kind target rs now w (withApproval flag policy) =
      (effectivePolicyVerdict ns kind target rs now w policy).map (EffectivePolicy.withApproval flag) := by
  have hstatus : statusVerdict now w (withApproval flag policy) = statusVerdict now w policy := rfl
  unfold effectivePolicyVerdict
  rw [hstatus]
  cases statusVerdict now w policy with
  | skip => rfl
  | reject reason => rfl
  | accept p =>
    obtain ⟨name, status⟩ := p
    dsimp only
    split
    · rfl
    · exact commandVerdict_withApproval flag name policy status kind target rs

/-- **The gate decides alike whatever `approvalRequired` says.** -/
theorem selectEffectivePolicy_withApproval (policies : List SentinellaHubActionPolicy) (ns kind : String)
    (target : Option String) (rs : Option WorkloadResourcesSpec) (now w : Nat) :
    selectEffectivePolicy (policies.map (withApproval flag)) ns kind target rs now w =
      (selectEffectivePolicy policies ns kind target rs now w).map (EffectivePolicy.withApproval flag) := by
  unfold selectEffectivePolicy
  rw [screen_map (withApproval flag) (EffectivePolicy.withApproval flag)
    (effectivePolicyVerdict_withApproval flag ns kind target rs now w)]
  cases screen (effectivePolicyVerdict ns kind target rs now w) policies [] <;> rfl

end Flag

/-! ## The handlers -/

def ExecutionSpec.withApprovalId (execution : ExecutionSpec) (approvalId : Option String) : ExecutionSpec :=
  { execution with approvalId }

/-- What stands before a live call of a restart or a scale: the mode, an accepted policy, and the same patch as a
successful dry run. -/
structure Cleared (cfg : Config) (cmd : Command) (mode : ExecutionMode) (pre : ApiTrace) (op : ApiCall) : Prop where
  executes : mode = .execute
  admitted : ListedAdmits (fun now policy => AcceptedFor cfg cmd now policy op) pre
  rehearsed : ∃ d ∈ pre, d.call = asDryRun op ∧ patchSucceeded d = true

/-- **Approval plays no part**: a scale or a restart goes live only under its mode, its gate and its rehearsal, on
every policy list and with every answer; the gate returns the same policy whatever `approvalRequired` says, and the
handler is the same program whatever approval the envelope carries. -/
theorem approval_plays_no_part (env : Externals) (fuel : Nat) (cfg : Config) (cmd : Command) (o : ApiOracle) :
    (∀ spec, cmd.kind = "scale" → parseSpec Decode.scaleSpec cmd = .ok spec →
      ∀ pre e post, (executeInner env fuel cfg cmd).trace o = pre ++ e :: post → e.call.mutatesLive = true →
        Cleared cfg cmd spec.execution.mode pre e.call) ∧
    (∀ spec, cmd.kind = "rollout_restart" → parseSpec Decode.rolloutRestartSpec cmd = .ok spec →
      ∀ pre e post, (executeInner env fuel cfg cmd).trace o = pre ++ e :: post → e.call.mutatesLive = true →
        Cleared cfg cmd spec.execution.mode pre e.call) ∧
    (∀ flag policies ns kind target rs now w,
      selectEffectivePolicy (policies.map (withApproval flag)) ns kind target rs now w =
        (selectEffectivePolicy policies ns kind target rs now w).map (EffectivePolicy.withApproval flag)) ∧
    (∀ (spec : ScaleSpec) approvalId,
      scaleWorkload cfg cmd.id { spec with execution := ExecutionSpec.withApprovalId spec.execution approvalId } =
        scaleWorkload cfg cmd.id spec) ∧
    ∀ (spec : RolloutRestartSpec) approvalId,
      rolloutRestart fuel cfg cmd.id { spec with execution := ExecutionSpec.withApprovalId spec.execution approvalId } =
        rolloutRestart fuel cfg cmd.id spec := by
  have hguard := fun pre e post hs => trace_meets o _ (executeInner_meets env fuel cfg cmd) pre post e hs
  refine ⟨fun spec hk hparse pre e post hs hlive => ?_, fun spec hk hparse pre e post hs hlive => ?_,
    fun flag policies ns kind target rs now w => ?_, fun _ _ => rfl, fun _ _ => rfl⟩
  · have h := hguard pre e post hs hlive
    exact ⟨h.scaleExecutes spec hk hparse, h.admitted, h.rehearsed (.inr (.inl hk))⟩
  · have h := hguard pre e post hs hlive
    exact ⟨h.restartExecutes spec hk hparse, h.admitted, h.rehearsed (.inl hk)⟩
  · exact selectEffectivePolicy_withApproval flag policies ns kind target rs now w

def approvalPolicy : SentinellaHubActionPolicy :=
  withApproval (fun _ => true) (readyPolicy 0 ["scale"] ["Deployment"] ["app"])

theorem unapproved_scale_trace : (executeInner noExternals 0 actingConfig (scaleCommand .null)).trace
      (calmOracle 5 [approvalPolicy]) =
    [⟨.listActionPolicies, .ok [.ok approvalPolicy]⟩, ⟨.nowMs, (5 : Nat)⟩,
      ⟨.getWorkload .deployment "app" "api", .ok {}⟩, ⟨.getScale "app" "api", .ok {}⟩, ⟨.nowMs, (5 : Nat)⟩,
      ⟨.patchScale "app" "api" true (scalePatch 3), .ok {}⟩] ++
    ⟨.patchScale "app" "api" false (scalePatch 3), .ok {}⟩ :: [] := rfl

/-- The policy requires approval, the gate admits the command through it, the envelope carries none, and the live patch
is made. -/
theorem unapproved_scale_is_live :
    approvalPolicy.spec.approvalRequired = true ∧
    (∃ e, selectEffectivePolicy [approvalPolicy] "app" "scale" (some "Deployment") none 5 actingConfig.staleAfterMs =
      .ok e ∧ e.policy = approvalPolicy) ∧
    (∃ spec, parseSpec Decode.scaleSpec (scaleCommand .null) = .ok spec ∧ spec.execution.approvalId = none) ∧
    ∃ e ∈ (executeInner noExternals 0 actingConfig (scaleCommand .null)).trace (calmOracle 5 [approvalPolicy]),
      e.call.mutatesLive = true := by
  refine ⟨rfl, ⟨_, rfl, rfl⟩, ⟨_, rfl, rfl⟩, ⟨.patchScale "app" "api" false (scalePatch 3), .ok {}⟩, ?_, rfl⟩
  rw [unapproved_scale_trace]
  simp

/-- The same live patch comes after its gate and its rehearsal. -/
theorem unapproved_scale_is_cleared : ∃ pre,
    Cleared actingConfig (scaleCommand .null) .execute pre (.patchScale "app" "api" false (scalePatch 3)) := by
  have hcleared := (approval_plays_no_part noExternals 0 actingConfig (scaleCommand .null)
    (calmOracle 5 [approvalPolicy])).1 _ rfl rfl _ _ _ unapproved_scale_trace rfl
  exact ⟨_, hcleared⟩

end Executor
end HubAgent
