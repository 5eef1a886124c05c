import HubAgent.Lib.Waiting
import HubAgent.LiveCalls
/-!
# The handlers, call by call

What every command may do is to ask and to patch; some of them also sleep, or read the lists of the preflight checks.  A
property of programs that holds of each of the plain calls and goes through sequences holds of the handlers that make no
other, whatever the property is; those that poll or check take their plain parts from here.
-/
namespace HubAgent

open Interaction

/-- A call that neither sleeps nor reads a list of the preflight checks. -/
def ApiCall.plain : ApiCall → Bool
  | .sleep _ | .listHpas _ | .listVpas _ | .listLimitRanges _ | .listResourceQuotas _ | .listPdbs _ => false
  | _ => true

namespace Executor

section Handlers

variable {W : {α : Type} → Exec α → Prop} (hW : Compositional (fun op => op.plain = true) W)

include hW

theorem simple_walked (id : String) (s : ResultStatus) (msg : Option String) : W (simple id s msg) :=
  hW.bind (hW.ask rfl) (fun _ => hW.pure _)

theorem commandError_walked (id : String) (mode : ExecutionMode) (msg : String) : W (commandError id mode msg) :=
  hW.bind (simple_walked hW _ _ _) (fun _ => hW.pure _)

theorem updateAgentError_walked (id msg : String) : W (updateAgentError id msg) :=
  hW.bind (simple_walked hW _ _ _) (fun _ => hW.pure _)

theorem listActionPolicies_walked : W listActionPolicies := by
  refine hW.bind (hW.ask rfl) (fun list => ?_)
  cases list <;> exact hW.pure _

theorem ensureEffectivePolicyAllows_walked (cfg : Config) (ns kind : String) (target : Option String)
    (rs : Option WorkloadResourcesSpec) : W (ensureEffectivePolicyAllows cfg ns kind target rs) := by
  refine hW.bind (listActionPolicies_walked hW) (fun policies => ?_)
  cases policies with
  | error e => exact hW.pure _
  | ok policies => exact hW.bind (hW.ask rfl) (fun _ => hW.pure _)

theorem ensureClusterActionAllowed_walked (cfg : Config) (kind : String) :
    W (ensureClusterActionAllowed cfg kind) := by
  refine hW.bind (listActionPolicies_walked hW) (fun policies => ?_)
  cases policies with
  | error e => exact hW.pure _
  | ok policies => exact hW.bind (hW.ask rfl) (fun _ => hW.pure _)

theorem getResourceYaml_walked (env : Externals) (cfg : Config) (id : String) (spec : ResourceYamlSpec) :
    W (getResourceYaml env cfg id spec) := by
  have render (v k ns n : String) (object : DynamicObject) : W (renderResourceYaml env cfg id v k ns n object) := by
    have hcases := renderResourceYaml_cases env cfg id v k ns n object
    generalize renderResourceYaml env cfg id v k ns n object = shown at hcases ⊢
    obtain ⟨message, heq⟩ | ⟨finish, -, heq⟩ := hcases
    · rw [heq]
      exact simple_walked hW _ _ _
    · rw [heq]
      exact hW.bind (simple_walked hW _ _ _) (fun _ => hW.bind (hW.ask rfl) (fun _ => hW.pure _))
  have hcases := getResourceYaml_cases env cfg id spec
  generalize getResourceYaml env cfg id spec = m at hcases ⊢
  obtain ⟨message, heq⟩ | ⟨target, ns, group, version, after, -, -, -, hfail, hread, heq⟩ := hcases
  · rw [heq]
    exact simple_walked hW _ _ _
  rw [heq]
  refine hW.bind (hW.ask rfl) (fun answer => ?_)
  cases answer with
  | error e =>
    rw [hfail]
    exact simple_walked hW _ _ _
  | ok object =>
    rw [hread]
    exact render _ _ _ _ _

theorem diagnosePostgresql_walked {env : Externals} {cfg : Config} {spec : PostgresqlDiagnosticSpec}
    (hplugin : W (pluginDiagnosePostgresql env cfg spec)) (id : String) :
    W (diagnosePostgresql env cfg id spec) := by
  refine hW.bind (ensureEffectivePolicyAllows_walked hW _ _ _ _ _) (fun gate => ?_)
  cases gate with
  | error e => exact commandError_walked hW _ _ _
  | ok e =>
    -- what the plugin does plays no further part, and is slow to unfold
    generalize pluginDiagnosePostgresql env cfg spec = plugin at hplugin ⊢
    exact hW.bind hplugin (fun _ => hW.bind (simple_walked hW _ _ _) (fun _ => hW.pure _))

theorem applyRolloutRestartPatch_walked (kind ns name : String) (patch : Json) (dryRun : Bool) :
    W (applyRolloutRestartPatch kind ns name patch dryRun) := by
  unfold applyRolloutRestartPatch
  split
  · exact hW.pure _
  refine hW.bind (hW.ask rfl) (fun before => ?_)
  cases before with
  | error e => exact hW.pure _
  | ok before =>
    refine hW.bind (hW.ask rfl) (fun patched => ?_)
    cases patched <;> exact hW.pure _

theorem evictPods_walked (nodeName : String) (opts : Option DeleteOptions) (pods : List (String × String))
    (evicted : List String) : W (evictPods nodeName opts pods evicted) := by
  induction pods generalizing evicted with
  | nil => exact hW.pure _
  | cons pod pods ih =>
    refine hW.bind (hW.ask rfl) (fun answer => ?_)
    cases answer with
    | error e => exact hW.pure _
    | ok u => exact ih _

theorem scaleWorkload_walked (cfg : Config) (id : String) (spec : ScaleSpec) : W (scaleWorkload cfg id spec) := by
  have herr (msg : String) : W (commandError id spec.execution.mode msg) := commandError_walked hW _ _ _
  refine hW.bind (ensureEffectivePolicyAllows_walked hW _ _ _ _ _) (fun gate => ?_)
  cases gate with
  | error e => exact herr _
  | ok e =>
    dsimp only
    split
    · exact herr _
    split
    · exact herr _
    refine hW.bind (hW.ask rfl) (fun before => ?_)
    cases before with
    | error e => exact herr _
    | ok before =>
      refine hW.bind (hW.ask rfl) (fun beforeScale => ?_)
      cases beforeScale with
      | error e => exact herr _
      | ok beforeScale =>
        refine hW.bind (simple_walked hW _ _ _) (fun result => hW.bind (hW.ask rfl) (fun dry => ?_))
        cases dry with
        | error e => exact herr _
        | ok dry =>
          dsimp only
          split
          · exact hW.pure _
          refine hW.bind (hW.ask rfl) (fun applied => ?_)
          cases applied with
          | error e => exact herr _
          | ok applied => exact hW.pure _

theorem selfUpdate_walked (cfg : Config) (id : String) (spec : SelfUpdateSpec) : W (selfUpdate cfg id spec) := by
  refine hW.bind (ensureEffectivePolicyAllows_walked hW _ _ _ _ _) (fun gate => ?_)
  cases gate with
  | error e => exact commandError_walked hW _ _ _
  | ok e => exact hW.bind (simple_walked hW _ _ _) (fun _ => hW.pure _)

end Handlers

end Executor
end HubAgent
