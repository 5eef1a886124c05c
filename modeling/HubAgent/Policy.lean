import Mathlib.Algebra.Group.Int.Defs
import HubAgent.Kube
/-!
# The action policy (`model.rs`)

The custom resource with its status, the lists of supported actions and resources, the freshness of a status and the
quantities a policy's limits are written in.  Timestamps are `u128` milliseconds; the only arithmetic on them is a
saturating subtraction, which is the one of `Nat`.  A quantity is an `i128`, and every step of its parser that could
leave that range is checked.
-/
namespace HubAgent

structure PolicyCondition where
  type_ : String
  status : String
  reason : Option String
  message : Option String
  observedGeneration : Option Int
  lastTransitionTimeMs : Option Nat
  deriving DecidableEq

structure PolicyLimits where
  maxCpuLimit : Option String := none
  maxMemoryLimit : Option String := none

structure PolicySpec where
  namespaceSelector : Option LabelSelector := none
  allowedActions : List String := []
  allowedResources : List String := []
  approvalRequired : Bool := false
  limits : Option PolicyLimits := none

structure PolicyStatus where
  effectiveNamespaces : List String
  conditions : List PolicyCondition
  observedGeneration : Option Int
  lastReconciledAtMs : Option Nat
  stale : Bool

structure SentinellaHubActionPolicy where
  metadata : ObjectMeta := {}
  spec : PolicySpec := {}
  status : Option PolicyStatus := none

/-- `policy_status_is_stale`: a missing timestamp is stale, one exactly at the window is not. -/
def policyStatusIsStale (lastReconciledAtMs : Option Nat) (nowMs staleAfterMs : Nat) : Bool :=
  match lastReconciledAtMs with
  | some last => decide (nowMs - last > staleAfterMs)
  | none => true

theorem policyStatusIsStale_some {last now w : Nat} :
    policyStatusIsStale (some last) now w = false ↔ now ≤ last + w := by
  simp only [policyStatusIsStale, decide_eq_false_iff_not]
  omega

theorem policyStatusIsStale_eq_false {last : Option Nat} {now w : Nat} :
    policyStatusIsStale last now w = false ↔ ∃ l, last = some l ∧ now ≤ l + w := by
  cases last with
  | none => simp [policyStatusIsStale]
  | some l => simpa using policyStatusIsStale_some

/-- **Staleness only sets in**: what is stale now is stale later. -/
theorem policyStatusIsStale_mono {last : Option Nat} {now now' w : Nat} (hle : now ≤ now')
    (h : policyStatusIsStale last now w = true) : policyStatusIsStale last now' w = true := by
  cases last with
  | none => rfl
  | some l =>
    simp only [policyStatusIsStale, decide_eq_true_eq] at h ⊢
    omega

/-! ## What a policy may list -/

def actionPolicySupportedActions : List String :=
  ["diagnose_postgresql", "get_resource_yaml", "drain_node", "preview_workload_resources",
    "apply_workload_resources", "rollout_restart", "scale", "self_update", "update_agent"]

def actionPolicyWorkloadActions : List String :=
  ["preview_workload_resources", "apply_workload_resources", "rollout_restart", "scale"]

def actionPolicySupportedResources : List String := ["Deployment", "StatefulSet", "DaemonSet"]

def policyActionIsSupported (action : String) : Bool := actionPolicySupportedActions.contains action

def policyActionTargetsWorkload (action : String) : Bool := actionPolicyWorkloadActions.contains action

def policyResourceIsSupported (resource : String) : Bool := actionPolicySupportedResources.contains resource

/-! ## Quantities -/

def i128Min : Int := -170141183460469231731687303715884105728
def i128Max : Int := 170141183460469231731687303715884105727

/-- The checked operations of `i128`: `none` outside the range. -/
def checkedI128 (n : Int) : Option Int := if i128Min ≤ n ∧ n ≤ i128Max then some n else none

/-- `parse_decimal_scaled`.  The fraction is scaled on its own and divided with truncation; its length is cast to
`u32`, as the exponent of the denominator. -/
def parseDecimalScaled (number : List Char) (scale : Int) : Option Int :=
  let trimmed := RustStr.trimChars number
  if trimmed = [] then none
  else do
    let (whole, frac) := (RustStr.splitOnce '.' trimmed).getD (trimmed, [])
    let wholeValue ← RustStr.parseInt i128Min i128Max whole
    let total ← checkedI128 (wholeValue * scale)
    if frac = [] then some total
    else do
      let fracValue ← RustStr.parseInt i128Min i128Max frac
      let denom ← checkedI128 (10 ^ (frac.length % 4294967296))
      let scaled ← checkedI128 (fracValue * scale)
      checkedI128 (total + scaled.tdiv denom)

/-- `parse_scaled_decimal`: the first suffix that leaves a number decides, also when that number does not parse. -/
def parseScaledDecimal (quantity : List Char) : List (List Char × Int) → Option Int
  | [] => none
  | (suf, scale) :: rest =>
    match RustStr.stripSuffix suf quantity with
    | some number =>
      if suf = [] ∨ number ≠ [] then parseDecimalScaled number scale else parseScaledDecimal quantity rest
    | none => parseScaledDecimal quantity rest

def cpuSuffixes : List (List Char × Int) :=
  [("n".toList, 1), ("u".toList, 1000), ("m".toList, 1000000), ([], 1000000000)]

def memorySuffixes : List (List Char × Int) :=
  [("Ki".toList, 1024), ("Mi".toList, 1024 ^ 2), ("Gi".toList, 1024 ^ 3), ("Ti".toList, 1024 ^ 4),
    ("Pi".toList, 1024 ^ 5), ("Ei".toList, 1024 ^ 6), ("k".toList, 1000), ("M".toList, 1000000),
    ("G".toList, 1000000000), ("T".toList, 1000000000000), ("P".toList, 1000000000000000),
    ("E".toList, 1000000000000000000), ([], 1)]

def parseCpuQuantity (quantity : String) : Option Int := parseScaledDecimal quantity.toList cpuSuffixes

def parseMemoryQuantity (quantity : String) : Option Int := parseScaledDecimal quantity.toList memorySuffixes

def policyLimitsAreValid : Option PolicyLimits → Bool
  | none => true
  | some limits =>
    limits.maxCpuLimit.all (fun v => (parseCpuQuantity v).isSome) &&
      limits.maxMemoryLimit.all (fun v => (parseMemoryQuantity v).isSome)

example : parseCpuQuantity "500m" = some 500000000 := by decide
example : parseMemoryQuantity "1.5Gi" = some 1610612736 := by decide
example : parseMemoryQuantity "Gi" = none := by decide

end HubAgent
