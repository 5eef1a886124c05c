import HubAgent.Lib.Screening
import HubAgent.Api
/-!
# The policy gate (`executor.rs`)

Every action is admitted by one policy.  The gate walks the listed policies in order, returns the first that passes its
tests, and collects why the others did not.  The gate of a namespaced command and the one of a cluster action share the
tests on the status (`statusVerdict`) and on the policy's own lists (`policyRejectionReasonForCommand`); only the first
asks for the namespace.
-/
namespace HubAgent
namespace Executor

open Interaction (Prog)
open Screening (Verdict screen)

def updateAgentNamespace : String := "sentinella"
def actionPolicyKind : String := "SentinellaHubActionPolicy"

structure EffectivePolicy where
  name : String
  policy : SentinellaHubActionPolicy
  status : PolicyStatus

def conditionTrue (conditions : List PolicyCondition) (conditionType : String) : Bool :=
  conditions.any (fun c => c.type_ == conditionType && RustStr.eqIgnoreAsciiCase c.status "true")

/-- `namespace_is_effective_for_command`: the agent's own namespace is open to `update_agent` alone. -/
def namespaceIsEffectiveForCommand (namespace_ commandKind : String) (effectiveNamespaces : List String) : Bool :=
  effectiveNamespaces.any (· == namespace_) || (commandKind == "update_agent" && namespace_ == updateAgentNamespace)

/-! ## The limits -/

/-- `quantity_exceeds_limit`: text that does not parse is read as `i128::MIN`, which is then reported as invalid. -/
def quantityExceedsLimit (label quantity limit : String) (parse : String → Option Int) : Option String :=
  let quantityValue := (parse quantity).getD i128Min
  let limitValue := (parse limit).getD i128Min
  if quantityValue = i128Min then some s!"{label} {quantity} is not a valid quantity"
  else if limitValue = i128Min then some s!"policy limit {limit} is not a valid quantity"
  else if quantityValue > limitValue then some s!"{label} {quantity} exceeds max {limit}"
  else none

/-- One side (requests or limits) of a spec against one limit of the policy. -/
def sideViolation (label : String) (limit : Option String) (side : Option ResourceMap)
    (get : ResourceMap → Option String) (parse : String → Option Int) : Option String := do
  let l ← limit
  let m ← side
  let q ← get m
  quantityExceedsLimit label q l parse

def policyLimitsViolationReason (limits : Option PolicyLimits) (spec : WorkloadResourcesSpec) : Option String :=
  match limits with
  | none => none
  | some limits =>
    let violations := List.reduceOption
      [sideViolation "cpu request" limits.maxCpuLimit spec.requests ResourceMap.cpu parseCpuQuantity,
        sideViolation "cpu limit" limits.maxCpuLimit spec.limits ResourceMap.cpu parseCpuQuantity,
        sideViolation "memory request" limits.maxMemoryLimit spec.requests ResourceMap.memory parseMemoryQuantity,
        sideViolation "memory limit" limits.maxMemoryLimit spec.limits ResourceMap.memory parseMemoryQuantity]
    if violations = [] then none
    else
      let joined := ", ".intercalate violations
      some s!"limits exceeded: {joined}"

/-! ## One policy -/

/-- The two commands that carry resource quantities. -/
def isResourceCommand (commandKind : String) : Bool :=
  commandKind == "preview_workload_resources" || commandKind == "apply_workload_resources"

/-- The part of `policy_rejection_reason_for_command` about the target of a workload action. -/
def targetRejectionReason (policy : SentinellaHubActionPolicy) (targetKind : Option String) : Option String :=
  match targetKind with
  | none => some "is missing a workload target kind"
  | some targetKind =>
    if !policy.spec.allowedResources.all policyResourceIsSupported || policy.spec.allowedResources.isEmpty then
      some "does not declare any supported workload resources"
    else if !policy.spec.allowedResources.any (· == targetKind) then
      some s!"does not allow resource {targetKind}"
    else none

/-- The part of `policy_rejection_reason_for_command` about the quantities of a resource command. -/
def resourcesRejectionReason (policy : SentinellaHubActionPolicy) (resourceSpec : Option WorkloadResourcesSpec) :
    Option String :=
  match resourceSpec with
  | none => some "is missing a workload resources spec"
  | some spec => policyLimitsViolationReason policy.spec.limits spec

def policyRejectionReasonForCommand (policy : SentinellaHubActionPolicy) (commandKind : String)
    (targetKind : Option String) (resourceSpec : Option WorkloadResourcesSpec) : Option String :=
  if !policy.spec.allowedActions.all policyActionIsSupported || policy.spec.allowedActions.isEmpty then
    some "does not declare any supported actions"
  else if !policy.spec.allowedActions.any (· == commandKind) then
    some s!"does not allow action {commandKind}"
  else
    match (if policyActionTargetsWorkload commandKind then targetRejectionReason policy targetKind else none) with
    | some reason => some reason
    | none => if isResourceCommand commandKind then resourcesRejectionReason policy resourceSpec else none

/-- The tests on a policy's name and status that both gates begin with. -/
def statusVerdict (now staleAfterMs : Nat) (policy : SentinellaHubActionPolicy) :
    Verdict String (String × PolicyStatus) :=
  match policy.metadata.name with
  | none => .skip
  | some policyName =>
    match policy.status with
    | none => .reject s!"policy {policyName} has no status"
    | some status =>
      match status.lastReconciledAtMs with
      | none => .reject s!"policy {policyName} status has no freshness timestamp"
      | some last =>
        if policyStatusIsStale (some last) now staleAfterMs then .reject s!"policy {policyName} status is stale"
        else if !conditionTrue status.conditions "Ready" then .reject s!"policy {policyName} is not Ready"
        else .accept (policyName, status)

/-- The last test of both gates. -/
def commandVerdict (policyName : String) (policy : SentinellaHubActionPolicy) (status : PolicyStatus)
    (commandKind : String) (targetKind : Option String) (resourceSpec : Option WorkloadResourcesSpec) :
    Verdict String EffectivePolicy :=
  match policyRejectionReasonForCommand policy commandKind targetKind resourceSpec with
  | some reason => .reject s!"policy {policyName} {reason}"
  | none => .accept ⟨policyName, policy, status⟩

/-- The body of the loop of `ensure_effective_policy_allows`. -/
def effectivePolicyVerdict (namespace_ commandKind : String) (targetKind : Option String)
    (resourceSpec : Option WorkloadResourcesSpec) (now staleAfterMs : Nat) (policy : SentinellaHubActionPolicy) :
    Verdict String EffectivePolicy :=
  match statusVerdict now staleAfterMs policy with
  | .skip => .skip
  | .reject reason => .reject reason
  | .accept (policyName, status) =>
    if !namespaceIsEffectiveForCommand namespace_ commandKind status.effectiveNamespaces then .skip
    else commandVerdict policyName policy status commandKind targetKind resourceSpec

/-- The body of the loop of `select_cluster_action_policy`. -/
def clusterActionVerdict (commandKind : String) (now staleAfterMs : Nat) (policy : SentinellaHubActionPolicy) :
    Verdict String EffectivePolicy :=
  match statusVerdict now staleAfterMs policy with
  | .skip => .skip
  | .reject reason => .reject reason
  | .accept (policyName, status) => commandVerdict policyName policy status commandKind none none

/-! ## The loops -/

def joinReasons (reasons : List String) (ifNone : String) : String :=
  if reasons = [] then ifNone else "; ".intercalate reasons

/-- `ensure_effective_policy_allows`, once the policies are listed and the clock is read. -/
def selectEffectivePolicy (policies : List SentinellaHubActionPolicy) (namespace_ commandKind : String)
    (targetKind : Option String) (resourceSpec : Option WorkloadResourcesSpec) (now staleAfterMs : Nat) :
    Except String EffectivePolicy :=
  match screen (effectivePolicyVerdict namespace_ commandKind targetKind resourceSpec now staleAfterMs) policies [] with
  | .ok effective => .ok effective
  | .error reasons =>
    let why := joinReasons reasons "no Ready policy matched the namespace"
    .error s!"namespace {namespace_} is not eligible for action: {why}"

def selectClusterActionPolicy (policies : List SentinellaHubActionPolicy) (commandKind : String)
    (now staleAfterMs : Nat) : Except String EffectivePolicy :=
  match screen (clusterActionVerdict commandKind now staleAfterMs) policies [] with
  | .ok effective => .ok effective
  | .error reasons =>
    let why := joinReasons reasons "no Ready policy matched the cluster action"
    .error s!"cluster action {commandKind} is not eligible: {why}"

/-! ## With the API -/

/-- The loop of `list_action_policies`: the first object that is not a policy fails the whole list. -/
def readPolicies : List (Except PolicyReadError SentinellaHubActionPolicy) →
    Except String (List SentinellaHubActionPolicy)
  | [] => .ok []
  | .error (.serialize text) :: _ => .error text
  | .error (.deserialize text) :: _ => .error s!"failed to deserialize {actionPolicyKind}: {text}"
  | .ok policy :: rest => (readPolicies rest).map (policy :: ·)

def listActionPolicies : Exec (Except String (List SentinellaHubActionPolicy)) := do
  let list ← api .listActionPolicies
  match list with
  | .error e => return .error s!"failed to list {actionPolicyKind}: {e.display}"
  | .ok items => return readPolicies items

def ensureEffectivePolicyAllows (cfg : Config) (namespace_ commandKind : String) (targetKind : Option String)
    (resourceSpec : Option WorkloadResourcesSpec) : Exec (Except String EffectivePolicy) := do
  let policies ← listActionPolicies
  match policies with
  | .error message => return .error message
  | .ok policies =>
    let now ← nowMs
    return selectEffectivePolicy policies namespace_ commandKind targetKind resourceSpec now cfg.staleAfterMs

def ensureClusterActionAllowed (cfg : Config) (commandKind : String) : Exec (Except String EffectivePolicy) := do
  let policies ← listActionPolicies
  match policies with
  | .error message => return .error message
  | .ok policies =>
    let now ← nowMs
    return selectClusterActionPolicy policies commandKind now cfg.staleAfterMs

end Executor
end HubAgent
