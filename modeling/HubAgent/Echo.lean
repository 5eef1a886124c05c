import HubAgent.Executor
/-!
# Every result carries the id of its command

Whatever the API answers, a handler that returns does so with the `command_id` it was given, on every path: the error
paths, the early returns and the results that are filled in step by step.
-/
namespace HubAgent
namespace Executor

open Interaction

/-- **Every result of the program is for the command `id`.** -/
def Echoes (id : String) (m : Exec CommandResult) : Prop :=
  ∀ tr, m.Meets (fun _ _ => True) (fun r _ => r.commandId = id) tr

section Rules

variable {id : String} {α : Type}

theorem echoes_pure {r : CommandResult} (h : r.commandId = id) : Echoes id (pure r) := fun _ => h

/-- Only the end of a program decides what it returns. -/
theorem echoes_bind {m : Exec α} {f : α → Exec CommandResult} (h : ∀ a, Echoes id (f a)) : Echoes id (m >>= f) := by
  intro tr
  exact (meets_true m tr).bind (fun a tr' _ => h a tr')

/-- A result that begins as `simple` keeps its id through the changes made to it. -/
theorem echoes_simple_bind {s : ResultStatus} {msg : Option String} {f : CommandResult → Exec CommandResult}
    (h : ∀ r, r.commandId = id → Echoes id (f r)) : Echoes id (simple id s msg >>= f) :=
  echoes_bind (m := nowMs) (f := fun finishedAtMs => f { commandId := id, status := s, message := msg, finishedAtMs })
    (fun _ => h _ rfl)

theorem echoes_simple (s : ResultStatus) (msg : Option String) : Echoes id (simple id s msg) :=
  echoes_bind (fun _ => echoes_pure rfl)

theorem echoes_commandError (mode : ExecutionMode) (msg : String) : Echoes id (commandError id mode msg) :=
  echoes_simple_bind (fun _ h => echoes_pure h)

theorem echoes_updateAgentError (msg : String) : Echoes id (updateAgentError id msg) :=
  echoes_simple_bind (fun _ h => echoes_pure h)

end Rules

section Handlers

variable (cfg : Config) (id : String)

theorem echoes_getResourceYaml (env : Externals) (spec : ResourceYamlSpec) :
    Echoes id (getResourceYaml env cfg id spec) := by
  have err : ∀ msg, Echoes id (resourceYamlError id msg) := fun msg => echoes_simple _ _
  have render : ∀ v k ns n object, Echoes id (renderResourceYaml env cfg id v k ns n object) := by
    intro v k ns n object
    obtain ⟨message, heq⟩ | ⟨finish, hfinish, heq⟩ := renderResourceYaml_cases env cfg id v k ns n object
    · rw [heq]
      exact err message
    · rw [heq]
      exact echoes_simple_bind (fun r hr => echoes_bind (fun at_ => echoes_pure ((hfinish r at_).trans hr)))
  obtain ⟨message, heq⟩ | ⟨target, ns, group, version, after, -, -, -, hfail, hread, heq⟩ :=
    getResourceYaml_cases env cfg id spec
  · rw [heq]
    exact err message
  rw [heq]
  refine echoes_bind (fun answer => ?_)
  cases answer with
  | error e =>
    rw [hfail]
    exact err _
  | ok object =>
    rw [hread]
    exact render _ _ _ _ _

theorem echoes_diagnosePostgresql (env : Externals) (spec : PostgresqlDiagnosticSpec) :
    Echoes id (diagnosePostgresql env cfg id spec) := by
  refine echoes_bind (fun gate => ?_)
  cases gate with
  | error e => exact echoes_commandError _ _
  | ok e =>
    -- whatever the plugin does
    generalize pluginDiagnosePostgresql env cfg spec = plugin
    exact echoes_bind (fun _ => echoes_simple_bind (fun _ hr => echoes_pure hr))

theorem echoes_runWorkloadResources (spec : WorkloadResourcesSpec) (dryRun : Bool) :
    Echoes id (runWorkloadResources cfg id spec dryRun) := by
  refine echoes_bind (fun outcome => ?_)
  cases outcome with
  | error e => exact echoes_simple_bind (fun _ hr => echoes_pure hr)
  | ok preview => exact echoes_simple_bind (fun _ hr => echoes_pure hr)

theorem echoes_rolloutRestart (fuel : Nat) (spec : RolloutRestartSpec) :
    Echoes id (rolloutRestart fuel cfg id spec) := by
  refine echoes_bind (fun gate => ?_)
  cases gate with
  | error e => exact echoes_commandError _ _
  | ok e =>
    refine echoes_bind (fun restartAt => echoes_simple_bind (fun result hr => echoes_bind (fun dry => ?_)))
    cases dry with
    | error e => exact echoes_commandError _ _
    | ok before =>
      dsimp only
      split
      · exact echoes_pure hr
      refine echoes_bind (fun applied => ?_)
      cases applied with
      | error e => exact echoes_commandError _ _
      | ok after =>
        refine echoes_bind (fun verified => ?_)
        cases verified <;> exact echoes_pure hr

theorem echoes_scaleWorkload (spec : ScaleSpec) : Echoes id (scaleWorkload cfg id spec) := by
  refine echoes_bind (fun gate => ?_)
  cases gate with
  | error e => exact echoes_commandError _ _
  | ok e =>
    dsimp only
    split
    · exact echoes_commandError _ _
    split
    · exact echoes_commandError _ _
    refine echoes_bind (fun before => ?_)
    cases before with
    | error e => exact echoes_commandError _ _
    | ok before =>
      refine echoes_bind (fun beforeScale => ?_)
      cases beforeScale with
      | error e => exact echoes_commandError _ _
      | ok beforeScale =>
        refine echoes_simple_bind (fun result hr => echoes_bind (fun dry => ?_))
        cases dry with
        | error e => exact echoes_commandError _ _
        | ok dry =>
          dsimp only
          split
          · exact echoes_pure hr
          refine echoes_bind (fun applied => ?_)
          cases applied with
          | error e => exact echoes_commandError _ _
          | ok applied => exact echoes_pure hr

theorem echoes_drainNode (fuel : Nat) (spec : DrainNodeSpec) : Echoes id (drainNode fuel cfg id spec) := by
  have cordoned : ∀ node sel force timeout opts before classes,
      Echoes id (cordonAndEvict fuel id node sel force timeout opts before classes) := by
    intro node sel force timeout opts before classes
    refine echoes_bind (fun answer => ?_)
    cases answer with
    | error e => exact echoes_simple _ _
    | ok _ =>
      refine echoes_bind (fun evictions => ?_)
      cases evictions with
      | error e => exact echoes_simple _ _
      | ok evicted =>
        refine echoes_bind (fun start => echoes_bind (fun waited => ?_))
        cases waited with
        | error e => exact echoes_simple _ _
        | ok p => exact echoes_simple_bind (fun _ hr => echoes_pure hr)
  unfold drainNode
  dsimp only
  split
  · exact echoes_simple _ _
  refine echoes_bind (fun gate => ?_)
  cases gate with
  | error e => exact echoes_simple _ _
  | ok e =>
    dsimp only
    split
    · exact echoes_simple _ _
    split
    · exact echoes_simple _ _
    refine echoes_bind (fun node => ?_)
    cases node with
    | error e => exact echoes_simple _ _
    | ok node =>
      refine echoes_bind (fun pods => ?_)
      cases pods with
      | error e => exact echoes_simple _ _
      | ok pods =>
        dsimp only
        split
        · exact echoes_simple _ _
        · exact cordoned _ _ _ _ _ _ _

theorem echoes_selfUpdate (spec : SelfUpdateSpec) : Echoes id (selfUpdate cfg id spec) := by
  refine echoes_bind (fun gate => ?_)
  cases gate with
  | error e => exact echoes_commandError _ _
  | ok e => exact echoes_simple_bind (fun _ hr => echoes_pure hr)

theorem echoes_updateAgent (spec : UpdateAgentSpec) : Echoes id (updateAgent cfg id spec) := by
  refine echoes_bind (fun gate => ?_)
  cases gate with
  | error e => exact echoes_updateAgentError _
  | ok e =>
    dsimp only
    split
    · exact echoes_updateAgentError _
    refine echoes_bind (fun before => ?_)
    cases before with
    | error e => exact echoes_updateAgentError _
    | ok before =>
      dsimp only
      split
      · exact echoes_updateAgentError _
      refine echoes_bind (fun warnings => echoes_bind (fun dry => ?_))
      cases dry with
      | error e => exact echoes_updateAgentError _
      | ok dry =>
        refine echoes_bind (fun after => ?_)
        cases after with
        | error e => exact echoes_updateAgentError _
        | ok after =>
          dsimp only
          split
          · exact echoes_updateAgentError _
          · exact echoes_simple_bind (fun _ hr => echoes_pure hr)

end Handlers

theorem echoes_dispatch {α : Type} {enabled : Bool} {off : String} {d : Decoder α} {cmd : Command}
    {handler : α → Exec CommandResult} (h : ∀ spec, Echoes cmd.id (handler spec)) :
    Echoes cmd.id (dispatch enabled off d cmd handler) := by
  unfold dispatch
  split
  · exact echoes_simple _ _
  split
  · exact h _
  · exact echoes_simple _ _

section Handled

-- What is known of these handlers is in their lemmas.
attribute [local irreducible] drainNode getResourceYaml

/-- **Every command is answered under its own id**, on every path and whatever the API answers. -/
theorem executeInner_echoes (env : Externals) (fuel : Nat) (cfg : Config) (cmd : Command) :
    Echoes cmd.id (executeInner env fuel cfg cmd) := by
  unfold executeInner
  dsimp only
  split
  · exact echoes_dispatch (fun spec => echoes_getResourceYaml _ _ _ _)
  · exact echoes_dispatch (fun spec => echoes_diagnosePostgresql _ _ _ _)
  · exact echoes_dispatch (fun spec => echoes_runWorkloadResources _ _ _ _)
  · exact echoes_dispatch (fun spec => echoes_runWorkloadResources _ _ _ _)
  · exact echoes_dispatch (fun spec => echoes_rolloutRestart _ _ _ _)
  · exact echoes_dispatch (fun spec => echoes_scaleWorkload _ _ _)
  · exact echoes_dispatch (fun spec => echoes_drainNode _ _ _ _)
  · exact echoes_dispatch (fun spec => echoes_selfUpdate _ _ _)
  · exact echoes_dispatch (fun spec => echoes_updateAgent _ _ _)
  · exact echoes_simple _ _

end Handled

theorem executeInner_result_commandId (env : Externals) (fuel : Nat) (cfg : Config) (cmd : Command) (o : ApiOracle)
    {r : CommandResult} (h : ((executeInner env fuel cfg cmd).run o []).1 = some r) : r.commandId = cmd.id :=
  result_meets o _ (executeInner_echoes env fuel cfg cmd []) r h

end Executor
end HubAgent
