import HubAgent.Lib.Alike
import HubAgent.BoundedWaits
import HubAgent.ResourcePatch
/-!
# Preflight checks advise, and decide nothing (`executor.rs`)

Before a workload's resources or the agent's image are patched, five lists are read: autoscalers, limit ranges, quotas
and disruption budgets that may stand in the way.  Whatever they say, and also where they fail, the command goes on:
what they said is in the warnings of its result, and nowhere else (`preflight_decides_nothing`).
-/
namespace HubAgent

open Interaction

/-- The lists of the preflight checks. -/
def ApiCall.preflight : ApiCall → Bool
  | .listHpas _ | .listVpas _ | .listLimitRanges _ | .listResourceQuotas _ | .listPdbs _ => true
  | _ => false

namespace Executor

def advisedKinds : List String := ["preview_workload_resources", "apply_workload_resources", "update_agent"]

/-- Two results that say the same, but for the warnings. -/
def SameButWarnings (a b : CommandResult) : Prop := { a with warnings := [] } = { b with warnings := [] }

/-- Two results of a command that say the same, but for the warnings of its checks, if it makes any. -/
def SameAdvised (kind : String) (a b : CommandResult) : Prop :=
  if kind ∈ advisedKinds then SameButWarnings a b else a = b

/-! ## The parts that make no checks -/

section Unadvised

variable {α β : Type}

/-- A part that makes no preflight check. -/
abbrev Unadvised (m : Exec α) : Prop := m.Only (fun op => op.preflight = false)

theorem compositional_unadvised : Compositional (fun op => op.plain = true) (fun {α} (m : Exec α) => Unadvised m) :=
  compositional_only (fun op hop => by cases op <;> first | rfl | cases hop)

theorem unadvised_diagnosePostgresql (env : Externals) (cfg : Config) (id : String) (spec : PostgresqlDiagnosticSpec) :
    Unadvised (diagnosePostgresql env cfg id spec) := by
  refine diagnosePostgresql_walked compositional_unadvised ?_ id
  unfold pluginDiagnosePostgresql
  split
  · exact only_pure _
  · exact fun tr => meets_lift ApiCall.read _ (fun _ _ => rfl) _

theorem unadvised_rolloutRestart (fuel : Nat) (cfg : Config) (id : String) (spec : RolloutRestartSpec) :
    Unadvised (rolloutRestart fuel cfg id spec) := by
  have herr (msg : String) : Unadvised (commandError id spec.execution.mode msg) := commandError_walked compositional_unadvised _ _ _
  refine only_bind (ensureEffectivePolicyAllows_walked compositional_unadvised _ _ _ _ _) (fun gate => ?_)
  cases gate with
  | error e => exact herr _
  | ok e =>
    refine only_bind (only_ask rfl) (fun restartAt => only_bind (simple_walked compositional_unadvised _ _ _) (fun result => ?_))
    refine only_bind (applyRolloutRestartPatch_walked compositional_unadvised _ _ _ _ _) (fun dry => ?_)
    cases dry with
    | error e => exact herr _
    | ok before =>
      dsimp only
      split
      · exact only_pure _
      refine only_bind (applyRolloutRestartPatch_walked compositional_unadvised _ _ _ _ _) (fun applied => ?_)
      cases applied with
      | error e => exact herr _
      | ok after =>
        have hwait := only_waitForRolloutCompletion (C := fun op => op.preflight = false) rfl (fun _ _ _ => rfl)
          (fun _ => rfl) fuel spec.target.kind spec.target.namespace_ spec.target.name
        refine only_bind hwait (fun verified => ?_)
        cases verified <;> exact only_pure _

theorem unadvised_awaitDrained (node sel : String) (force : Bool) (deadline : Nat) (fuel : Nat) :
    ∀ warnings remaining, Unadvised (awaitDrained node sel force deadline fuel warnings remaining) := by
  induction fuel with
  | zero => exact fun _ _ _ => trivial
  | succ fuel ih =>
    intro warnings remaining
    refine only_bind (only_ask rfl) (fun pods => ?_)
    cases pods with
    | error e => exact only_pure _
    | ok pods =>
      dsimp only
      split
      · exact only_pure _
      split
      · exact only_pure _
      refine only_bind (only_ask rfl) (fun now => ?_)
      split
      · exact only_pure _
      · exact only_bind (only_ask rfl) (fun _ => ih _ _)

theorem unadvised_cordonAndEvict (fuel : Nat) (id node sel : String) (force : Bool) (secs : Nat)
    (opts : Option DeleteOptions) (before : Bool) (classes : PodClasses) :
    Unadvised (cordonAndEvict fuel id node sel force secs opts before classes) := by
  refine only_bind (only_ask rfl) (fun cordoned => ?_)
  cases cordoned with
  | error e => exact simple_walked compositional_unadvised _ _ _
  | ok n =>
    refine only_bind (evictPods_walked compositional_unadvised _ _ _ _) (fun evictions => ?_)
    cases evictions with
    | error e => exact simple_walked compositional_unadvised _ _ _
    | ok evicted =>
      refine only_bind (only_ask rfl) (fun start => only_bind (unadvised_awaitDrained _ _ _ _ _ _ _) (fun waited => ?_))
      cases waited with
      | error e => exact simple_walked compositional_unadvised _ _ _
      | ok p => exact only_bind (simple_walked compositional_unadvised _ _ _) (fun _ => only_pure _)

theorem unadvised_drainNode (fuel : Nat) (cfg : Config) (id : String) (spec : DrainNodeSpec) :
    Unadvised (drainNode fuel cfg id spec) := by
  have herr (msg : Option String) : Unadvised (simple id .error msg) := simple_walked compositional_unadvised _ _ _
  unfold drainNode
  dsimp only
  split
  · exact herr _
  refine only_bind (ensureClusterActionAllowed_walked compositional_unadvised _ _) (fun gate => ?_)
  cases gate with
  | error e => exact herr _
  | ok e =>
    dsimp only
    split
    · exact herr _
    split
    · exact herr _
    refine only_bind (only_ask rfl) (fun node => ?_)
    cases node with
    | error e => exact herr _
    | ok node =>
      refine only_bind (only_ask rfl) (fun pods => ?_)
      cases pods with
      | error e => exact herr _
      | ok pods =>
        dsimp only
        split
        · exact herr _
        · exact unadvised_cordonAndEvict _ _ _ _ _ _ _ _ _

end Unadvised

/-! ## The handlers that make them -/

section Advised

/-- The same answer, whatever is advised, up to `R` in what it holds. -/
abbrev Unmoved {α : Type} (R : α → α → Prop) (m : Exec α) : Prop := Alike ApiCall.preflight Same R m m

/-- Two outcomes that say the same, but for the warnings. -/
def SamePreview : Except String ResourcePreview → Except String ResourcePreview → Prop
  | .ok a, .ok b => { a with warnings := [] } = { b with warnings := [] }
  | a, b => a = b

theorem unmoved_of_unadvised {α : Type} {R : α → α → Prop} (hR : ∀ a, R a a) {m : Exec α} (h : Unadvised m) :
    Unmoved R m :=
  alike_same hR h

theorem brief_preflight (spec : WorkloadResourcesSpec) (labels : StrMap String) :
    (collectPreflightWarnings spec labels).Brief (fun op => op.preflight = true) :=
  brief_collectPreflightWarnings (fun _ => rfl) (fun _ => rfl) (fun _ => rfl) (fun _ => rfl) (fun _ => rfl) spec labels

theorem unmoved_patchWorkloadResources (kind : WorkloadKind) (spec : WorkloadResourcesSpec) (patch : Json)
    (dryRun : Bool) : Unmoved SamePreview (patchWorkloadResources kind spec patch dryRun) := by
  refine alike_ask_same rfl (fun before => ?_)
  cases before with
  | error e => exact .ret rfl
  | ok before =>
    dsimp only
    split
    · exact .ret rfl
    refine alike_advice (brief_preflight _ _) (brief_preflight _ _) (fun warnings warnings' => ?_)
    refine alike_ask_same rfl (fun after => ?_)
    cases after with
    | error e => exact .ret rfl
    | ok after =>
      dsimp only
      split <;> exact .ret rfl

theorem unmoved_executeWorkloadResourcesInner (cfg : Config) (spec : WorkloadResourcesSpec) (dryRun : Bool) :
    Unmoved SamePreview (executeWorkloadResourcesInner cfg spec dryRun) := by
  refine alike_bind_same (ensureEffectivePolicyAllows_walked compositional_unadvised _ _ _ _ _) (fun gate => ?_)
  cases gate with
  | error e => exact .ret rfl
  | ok e =>
    dsimp only
    split
    · exact .ret rfl
    split
    · exact .ret rfl
    · exact unmoved_patchWorkloadResources _ _ _ _

theorem unmoved_runWorkloadResources (cfg : Config) (id : String) (spec : WorkloadResourcesSpec) (dryRun : Bool) :
    Unmoved SameButWarnings (runWorkloadResources cfg id spec dryRun) := by
  refine (unmoved_executeWorkloadResourcesInner cfg spec dryRun).bind (fun a b hab => ?_)
  cases a with
  | error message =>
    cases b with
    | error message' =>
      cases hab
      exact alike_bind_same (simple_walked compositional_unadvised _ _ _) (fun r => .ret rfl)
    | ok preview => cases hab
  | ok preview =>
    cases b with
    | error message => cases hab
    | ok preview' =>
      obtain ⟨patch, before, after, warnings⟩ := preview
      obtain ⟨patch', before', after', warnings'⟩ := preview'
      cases hab
      exact alike_bind_same (simple_walked compositional_unadvised _ _ _) (fun r => .ret rfl)

theorem unmoved_updateAgent (cfg : Config) (id : String) (spec : UpdateAgentSpec) :
    Unmoved SameButWarnings (updateAgent cfg id spec) := by
  have herr (msg : String) : Unmoved SameButWarnings (updateAgentError id msg) :=
    unmoved_of_unadvised (R := SameButWarnings) (fun _ => rfl) (updateAgentError_walked compositional_unadvised id msg)
  refine alike_bind_same (ensureEffectivePolicyAllows_walked compositional_unadvised _ _ _ _ _) (fun gate => ?_)
  cases gate with
  | error e => exact herr _
  | ok e =>
    dsimp only
    split
    · exact herr _
    refine alike_ask_same rfl (fun before => ?_)
    cases before with
    | error e => exact herr _
    | ok before =>
      dsimp only
      split
      · exact herr _
      refine alike_advice (brief_preflight _ _) (brief_preflight _ _) (fun warnings warnings' => ?_)
      refine alike_ask_same rfl (fun dry => ?_)
      cases dry with
      | error e => exact herr _
      | ok w =>
        refine alike_ask_same rfl (fun after => ?_)
        cases after with
        | error e => exact herr _
        | ok after =>
          dsimp only
          split
          · exact herr _
          · exact alike_bind_same (simple_walked compositional_unadvised _ _ _) (fun r => .ret rfl)

end Advised

/-! ## Every command -/

theorem unmoved_dispatch {α : Type} {R : CommandResult → CommandResult → Prop} (hR : ∀ a, R a a) {enabled : Bool}
    {off : String} {d : Decoder α} {cmd : Command} {handler : α → Exec CommandResult}
    (h : ∀ spec, Unmoved R (handler spec)) : Unmoved R (dispatch enabled off d cmd handler) := by
  unfold dispatch
  split
  · exact unmoved_of_unadvised hR (simple_walked compositional_unadvised _ _ _)
  split
  · exact h _
  · exact unmoved_of_unadvised hR (simple_walked compositional_unadvised _ _ _)

section Commands

-- What is known of these handlers is in their lemmas.
attribute [local irreducible] drainNode rolloutRestart getResourceYaml diagnosePostgresql

theorem unmoved_executeInner (env : Externals) (fuel : Nat) (cfg : Config) (cmd : Command) :
    Unmoved (SameAdvised cmd.kind) (executeInner env fuel cfg cmd) := by
  have hsame (a : CommandResult) : SameAdvised cmd.kind a a := by
    unfold SameAdvised
    split <;> rfl
  have hplain {m : Exec CommandResult} (h : Unadvised m) : Unmoved (SameAdvised cmd.kind) m :=
    unmoved_of_unadvised hsame h
  have hadvised (hkind : cmd.kind ∈ advisedKinds) {m : Exec CommandResult} (h : Unmoved SameButWarnings m) :
      Unmoved (SameAdvised cmd.kind) m :=
    h.mono (fun a b hab => (if_pos hkind).mpr hab)
  unfold executeInner
  dsimp only
  split
  · exact unmoved_dispatch hsame (fun spec => hplain (getResourceYaml_walked compositional_unadvised _ _ _ _))
  · exact unmoved_dispatch hsame (fun spec => hplain (unadvised_diagnosePostgresql _ _ _ _))
  · rename_i hkind
    have hmem : cmd.kind ∈ advisedKinds := by simp [hkind, advisedKinds]
    exact unmoved_dispatch hsame (fun spec => hadvised hmem (unmoved_runWorkloadResources _ _ _ _))
  · rename_i hkind
    have hmem : cmd.kind ∈ advisedKinds := by simp [hkind, advisedKinds]
    exact unmoved_dispatch hsame (fun spec => hadvised hmem (unmoved_runWorkloadResources _ _ _ _))
  · exact unmoved_dispatch hsame (fun spec => hplain (unadvised_rolloutRestart _ _ _ _))
  · exact unmoved_dispatch hsame (fun spec => hplain (scaleWorkload_walked compositional_unadvised _ _ _))
  · exact unmoved_dispatch hsame (fun spec => hplain (unadvised_drainNode _ _ _ _))
  · exact unmoved_dispatch hsame (fun spec => hplain (selfUpdate_walked compositional_unadvised _ _ _))
  · rename_i hkind
    have hmem : cmd.kind ∈ advisedKinds := by simp [hkind, advisedKinds]
    exact unmoved_dispatch hsame (fun spec => hadvised hmem (unmoved_updateAgent _ _ _))
  · exact hplain (simple_walked compositional_unadvised _ _ _)

/-- **What the preflight checks are answered decides nothing.**  Of any command, under two environments that agree on
all but the lists of the checks: every other call is the same, in the same order and with the same answers, patches
included; and so is the result, but for the warnings of the three kinds of command that make the checks. -/
theorem preflight_decides_nothing (env : Externals) (fuel : Nat) (cfg : Config) (cmd : Command) {o o' : ApiOracle}
    (hagree : AgreeBesides ApiCall.preflight Same o o') :
    besides ApiCall.preflight ((executeInner env fuel cfg cmd).trace o) =
      besides ApiCall.preflight ((executeInner env fuel cfg cmd).trace o') ∧
    Option.Rel (SameAdvised cmd.kind) ((executeInner env fuel cfg cmd).run o []).1
      ((executeInner env fuel cfg cmd).run o' []).1 := by
  obtain ⟨htrace, hresult⟩ := trace_alike hagree (unmoved_executeInner env fuel cfg cmd)
  exact ⟨eq_of_matched htrace, hresult⟩

end Commands

/-- An API server that lets nobody list what the checks read. -/
def refusesChecks (o : ApiOracle) : ApiOracle := fun tr op =>
  match op with
  | .listHpas _ => .error (.failure 403 "Forbidden" "")
  | .listVpas _ => .error (.failure 403 "Forbidden" "")
  | .listLimitRanges _ => .error (.failure 403 "Forbidden" "")
  | .listResourceQuotas _ => .error (.failure 403 "Forbidden" "")
  | .listPdbs _ => .error (.failure 403 "Forbidden" "")
  | op => o tr op

def applyResources : Command :=
  { id := "1", kind := "apply_workload_resources"
    spec := .obj [("workload_kind", .str "Deployment"), ("namespace", .str "app"), ("name", .str "api"),
      ("container", .str "api"), ("limits", .obj [("cpu", .str "1")])] }

theorem preflight_decides_nothing_refused :
    besides ApiCall.preflight ((executeInner noExternals 0 actingConfig applyResources).trace proxyAndApiOracle) =
      besides ApiCall.preflight
        ((executeInner noExternals 0 actingConfig applyResources).trace (refusesChecks proxyAndApiOracle)) ∧
    Option.Rel (SameAdvised applyResources.kind)
      ((executeInner noExternals 0 actingConfig applyResources).run proxyAndApiOracle []).1
      ((executeInner noExternals 0 actingConfig applyResources).run (refusesChecks proxyAndApiOracle) []).1 := by
  refine preflight_decides_nothing noExternals 0 actingConfig applyResources (fun tr tr' op _ hop => ?_)
  cases op with
  | getWorkload kind ns name => cases kind <;> rfl
  | listHpas ns => cases hop
  | listVpas ns => cases hop
  | listLimitRanges ns => cases hop
  | listResourceQuotas ns => cases hop
  | listPdbs ns => cases hop
  | _ => rfl

end Executor
end HubAgent
