import Mathlib.Data.Finset.Basic
import Mathlib.Data.Finset.Image
import Mathlib.Data.List.Sort
import HubAgent.Lib.Interaction
import HubAgent.Policy
/-!
# The action operator (`operator.rs`)

One pass lists the namespaces and the policies, reconciles a role binding in every namespace, and then writes a status
to every policy.  The callbacks of the pass are its calls: what they answer, success or failure, is the environment's.
An exclusion is a name, or a non-empty prefix followed by `*`.
-/
namespace HubAgent
namespace Operator

open Interaction (Prog)

def actionModeNamespaceLabel : String := "sentinella.io/action-mode"
def actionModeNamespaceLabelEnabled : String := "true"

def systemExcludedNamespaces : List String :=
  ["kube-system", "kube-public", "kube-node-lease", "sentinella", "tetragon", "openshift-*"]

def combinedExcludedNamespaces (extra : List String) : Finset String :=
  ((systemExcludedNamespaces ++ extra.map RustStr.trim).filter (· ≠ "")).toFinset

/-- `namespace_matches_pattern`: a lone `*` matches nothing. -/
def namespaceMatchesPattern (name pattern : String) : Bool :=
  match RustStr.stripSuffix ['*'] pattern.toList with
  | some pre => if pre = [] then false else pre.isPrefixOf name.toList
  | none => name == pattern

def namespaceIsExcluded (name : String) (excluded : Finset String) : Bool :=
  decide (∃ pattern ∈ excluded, namespaceMatchesPattern name pattern = true)

def namespaceActionModeEnabled (ns : Namespace) : Bool :=
  (ns.metadata.labels.bind (fun labels => labels.lookup actionModeNamespaceLabel)) ==
    some actionModeNamespaceLabelEnabled

/-- The body of the loop of `effective_namespaces`. -/
def effectiveName (excluded : Finset String) (ns : Namespace) : Option String :=
  match ns.metadata.name with
  | none => none
  | some name => if !namespaceIsExcluded name excluded && namespaceActionModeEnabled ns then some name else none

def effectiveNamespaces (namespaces : List Namespace) (excluded : Finset String) : List String :=
  (namespaces.filterMap (effectiveName excluded)).insertionSort (· ≤ ·)

structure BindingReconcileOutcome where
  permissionGranted : Bool
  reconciliationError : Option String

/-! ## The status of a policy -/

def policyCondition (type_ : String) (isTrue : Bool) (reason : String) (message : Option String)
    (observedGeneration : Option Int) (nowMs : Nat) : PolicyCondition :=
  { type_, status := if isTrue then "True" else "False", reason := some reason, message, observedGeneration
    lastTransitionTimeMs := some nowMs }

structure PolicyGates where
  policyMatched : Bool
  namespacesEligible : Bool
  permissionGranted : Bool
  actionAllowed : Bool
  resourceAllowed : Bool
  limitsSatisfied : Bool
  reconciliationError : Option String
  stale : Bool

/-- Every gate but freshness. -/
def PolicyGates.othersPass (g : PolicyGates) : Bool :=
  g.policyMatched && g.namespacesEligible && g.permissionGranted && g.actionAllowed && g.resourceAllowed &&
    g.limitsSatisfied && g.reconciliationError.isNone

/-- The conjunction that `build_policy_status` calls `ready`. -/
def PolicyGates.ready (g : PolicyGates) : Bool :=
  g.policyMatched && g.namespacesEligible && g.permissionGranted && g.actionAllowed && g.resourceAllowed &&
    g.limitsSatisfied && !g.stale && g.reconciliationError.isNone

def buildPolicyConditions (generation : Option Int) (g : PolicyGates) (nowMs : Nat) : List PolicyCondition :=
  [policyCondition "NamespacesEligible" g.namespacesEligible
      (if g.namespacesEligible then "eligible_namespaces_found" else "all_namespaces_excluded")
      (some (if g.namespacesEligible then
        "At least one namespace is enabled for action mode after applying the operator exclude list"
        else "No namespaces are enabled for action-mode reconciliation")) generation nowMs,
    policyCondition "PolicyMatched" g.policyMatched "global_exclude_list_active"
      (some "Policy is evaluated under the operator-managed action-mode model") generation nowMs,
    policyCondition "PermissionGranted" g.permissionGranted
      (if g.permissionGranted then "rolebinding_reconciled" else "rolebinding_reconcile_failed")
      (some (if g.permissionGranted then "Managed RoleBindings were reconciled successfully"
        else "Managed RoleBindings are not fully reconciled")) generation nowMs,
    policyCondition "ActionAllowed" g.actionAllowed
      (if g.actionAllowed then "action_allowed" else "action_not_allowed")
      (some (if g.actionAllowed then "At least one declared action is supported"
        else "No supported actions are declared")) generation nowMs,
    policyCondition "ResourceAllowed" g.resourceAllowed
      (if g.resourceAllowed then "resource_allowed" else "resource_not_allowed")
      (some (if g.resourceAllowed then "Declared resources are compatible with declared actions"
        else "Declared resources do not permit the declared actions")) generation nowMs,
    policyCondition "LimitsSatisfied" g.limitsSatisfied
      (if g.limitsSatisfied then "limits_satisfied" else "limits_exceeded")
      (some (if g.limitsSatisfied then "Declared limits are valid" else "Declared limits are invalid"))
      generation nowMs,
    policyCondition "ReconciliationError" g.reconciliationError.isSome
      (if g.reconciliationError.isSome then "reconcile_error" else "reconcile_ok")
      (g.reconciliationError.map (fun msg => s!"Reconciliation error: {msg}")) generation nowMs,
    policyCondition "Stale" g.stale (if g.stale then "status_stale" else "status_fresh")
      (some (if g.stale then "Policy status is stale" else "Policy status is fresh")) generation nowMs,
    policyCondition "Ready" g.ready (if g.ready then "ready" else "not_ready")
      (some (if g.ready then "Policy is Ready for global agent action checks"
        else "Policy is not Ready for global agent action checks")) generation nowMs]

/-- The gates `build_policy_status` computes; `policyMatched` is constant, and nothing reads the selector. -/
def policyGates (policy : SentinellaHubActionPolicy) (namespaces : List Namespace) (excluded : Finset String)
    (binding : BindingReconcileOutcome) (nowMs staleAfterMs : Nat) : PolicyGates :=
  { policyMatched := true
    namespacesEligible := !(effectiveNamespaces namespaces excluded).isEmpty
    permissionGranted := binding.permissionGranted
    actionAllowed := policy.spec.allowedActions.all policyActionIsSupported && !policy.spec.allowedActions.isEmpty
    resourceAllowed :=
      if policy.spec.allowedActions.any policyActionTargetsWorkload then
        !policy.spec.allowedResources.isEmpty && policy.spec.allowedResources.all policyResourceIsSupported
      else true
    limitsSatisfied := policyLimitsAreValid policy.spec.limits
    reconciliationError := binding.reconciliationError
    stale := policyStatusIsStale (policy.status.bind PolicyStatus.lastReconciledAtMs) nowMs staleAfterMs }

def buildPolicyStatus (policy : SentinellaHubActionPolicy) (namespaces : List Namespace) (excluded : Finset String)
    (binding : BindingReconcileOutcome) (nowMs staleAfterMs : Nat) : PolicyStatus :=
  let gates := policyGates policy namespaces excluded binding nowMs staleAfterMs
  { effectiveNamespaces := effectiveNamespaces namespaces excluded
    conditions := buildPolicyConditions policy.metadata.generation gates nowMs
    observedGeneration := policy.metadata.generation
    lastReconciledAtMs := some nowMs
    stale := gates.stale }

/-! ## One pass -/

inductive OperatorCall where
  | listNamespaces
  | listPolicies
  | ensure (namespace_ : String)
  | remove (namespace_ : String)
  | patchStatus (name : String) (status : PolicyStatus)

@[reducible] def OperatorAnswer : OperatorCall → Type
  | .listNamespaces => Except String (List Namespace)
  | .listPolicies => Except String (List SentinellaHubActionPolicy)
  | .ensure _ => Except String Unit
  | .remove _ => Except String Unit
  | .patchStatus _ _ => Except String Unit

abbrev Pass (α : Type) := Prog OperatorCall OperatorAnswer α

abbrev PassTrace := Interaction.Trace OperatorCall OperatorAnswer

abbrev PassOracle := Interaction.Oracle OperatorCall OperatorAnswer

abbrev callback (op : OperatorCall) : Pass (OperatorAnswer op) := Prog.ask op

def errorText : Except String Unit → List String
  | .ok _ => []
  | .error e => [e]

/-- The loop of `reconcile_action_role_bindings_with`: a failure is noted and the loop goes on. -/
def reconcileBindings (excluded : Finset String) : List Namespace → List String → Pass (List String)
  | [], errors => return errors
  | ns :: rest, errors =>
    match ns.metadata.name with
    | none => reconcileBindings excluded rest errors
    | some name =>
      if !namespaceIsExcluded name excluded && namespaceActionModeEnabled ns then do
        let answer ← callback (.ensure name)
        reconcileBindings excluded rest (errors ++ errorText answer)
      else do
        let answer ← callback (.remove name)
        reconcileBindings excluded rest (errors ++ errorText answer)

def reconcileActionRoleBindingsWith (namespaces : List Namespace) (excluded : Finset String) :
    Pass BindingReconcileOutcome := do
  let errors ← reconcileBindings excluded namespaces []
  return { permissionGranted := errors.isEmpty
           reconciliationError := if errors = [] then none else some ("; ".intercalate errors) }

/-- The loop of `reconcile_action_policies_with`: the answer of a patch is only logged. -/
def patchStatuses (namespaces : List Namespace) (excluded : Finset String) (binding : BindingReconcileOutcome)
    (nowMs staleAfterMs : Nat) : List SentinellaHubActionPolicy → Pass Unit
  | [] => return ()
  | policy :: rest =>
    match policy.metadata.name with
    | none => patchStatuses namespaces excluded binding nowMs staleAfterMs rest
    | some name => do
      let _ ← callback (.patchStatus name (buildPolicyStatus policy namespaces excluded binding nowMs staleAfterMs))
      patchStatuses namespaces excluded binding nowMs staleAfterMs rest

/-- `reconcile_action_policies_with`, with `reconcile_action_role_bindings_with` as its binding step. -/
def reconcileActionPoliciesWith (nowMs staleAfterMs : Nat) (excluded : Finset String) : Pass (Except String Unit) := do
  let namespaces ← callback .listNamespaces
  match namespaces with
  | .error e => return .error e
  | .ok namespaces =>
    let policies ← callback .listPolicies
    match policies with
    | .error e => return .error e
    | .ok policies =>
      let binding ← reconcileActionRoleBindingsWith namespaces excluded
      patchStatuses namespaces excluded binding nowMs staleAfterMs policies
      return .ok ()

example : namespaceMatchesPattern "openshift-dns" "openshift-*" = true := by decide
example : namespaceMatchesPattern "app" "*" = false := by decide
example : effectiveNamespaces [⟨{ name := some "app" }⟩] ∅ = [] := by decide

end Operator
end HubAgent
