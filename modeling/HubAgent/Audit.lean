import HubAgent.LiveCalls
/-!
# What the audit fields show (`executor.rs`)

A result carries two snapshots: `observed_before` is of the object before the command, `observed_after` of what the
last patch of the command returned, a dry run in preview mode and the live patch otherwise.  `AuditView` says for each
command what is read off the history, `Truthful` that a result shows it.  The handlers that patch resources, scale and
update the agent are truthful under every API server; a rollout restart shows twice what it read before its patch, so
that it is truthful exactly when the patch left the annotation as it was (`audit_truthful_iff`).
-/
namespace HubAgent

open Interaction

def ApiCall.patchDryRun : ApiCall → Option Bool
  | .patchWorkload _ _ _ dryRun _ => some dryRun
  | .patchScale _ _ dryRun _ => some dryRun
  | .patchNode _ dryRun _ => some dryRun
  | _ => none

def ApiCall.isPatch (op : ApiCall) : Bool := op.patchDryRun.isSome

namespace Executor

/-! ## What a command is to show -/

/-- What is read off the history before the first patch of a command, and off the answer of its last. -/
structure AuditView where
  mode : ExecutionMode
  before : ApiTrace → Option Json
  after : ApiEvent → Option Json

section Views

variable (target : WorkloadTargetRef) (shown : (kind : WorkloadKind) → Workload kind → Option Json)

def readShows : ApiEvent → Option Json
  | ⟨.getWorkload kind namespace_ name, .ok w⟩ =>
    if kind.name = target.kind ∧ namespace_ = target.namespace_ ∧ name = target.name then shown kind w else none
  | _ => none

def patchShows : ApiEvent → Option Json
  | ⟨.patchWorkload kind namespace_ name _ _, .ok w⟩ =>
    if kind.name = target.kind ∧ namespace_ = target.namespace_ ∧ name = target.name then shown kind w else none
  | _ => none

def workloadAudit (mode : ExecutionMode) : AuditView := ⟨mode, lastOf (readShows target shown), patchShows target shown⟩

end Views

def resourcesAudit (mode : ExecutionMode) (spec : WorkloadResourcesSpec) : AuditView :=
  workloadAudit ⟨spec.workloadKind, spec.namespace_, spec.name⟩
    (fun _ w => (workloadContainerResources w spec.container).toOption) mode

def restartAudit (spec : RolloutRestartSpec) : AuditView :=
  workloadAudit spec.target (fun _ w => some (restartedAtOf w)) spec.execution.mode

def imageShown : (kind : WorkloadKind) → Workload kind → Option Json
  | .daemonSet, w =>
    (daemonsetContainerImage w updateAgentContainer).toOption.map (fun image => .obj [("image", .str image)])
  | _, _ => none

def updateAgentAudit : AuditView :=
  workloadAudit ⟨"DaemonSet", updateAgentNamespace, updateAgentDaemonset⟩ imageShown .execute

def deploymentRead (target : WorkloadTargetRef) : ApiEvent → Option (Workload .deployment)
  | ⟨.getWorkload .deployment namespace_ name, .ok w⟩ =>
    if namespace_ = target.namespace_ ∧ name = target.name then some w else none
  | _ => none

def scaleRead (target : WorkloadTargetRef) : ApiEvent → Option Scale
  | ⟨.getScale namespace_ name, .ok s⟩ =>
    if namespace_ = target.namespace_ ∧ name = target.name then some s else none
  | _ => none

def scalePatched (target : WorkloadTargetRef) : ApiEvent → Option Json
  | ⟨.patchScale namespace_ name _ _, .ok s⟩ =>
    if namespace_ = target.namespace_ ∧ name = target.name then some (scaleJson s) else none
  | _ => none

/-- The replicas that are asked for, with those that the Deployment counts. -/
def scaleBefore (w : Workload .deployment) (s : Scale) : Json :=
  let status : Option DeploymentStatus := w.status
  .obj [("replicas", Json.ofOptInt (s.spec.getD none)),
    ("ready_replicas", Json.ofOptInt ((status.map DeploymentStatus.readyReplicas).getD none)),
    ("available_replicas", Json.ofOptInt ((status.map DeploymentStatus.availableReplicas).getD none))]

def scaleAudit (spec : ScaleSpec) : AuditView where
  mode := spec.execution.mode
  before tr := (lastOf (deploymentRead spec.target) tr).bind (fun w =>
    (lastOf (scaleRead spec.target) tr).map (scaleBefore w))
  after := scalePatched spec.target

/-- **The commands whose results carry the two snapshots**, with what these are to show. -/
inductive Audited : Command → AuditView → Prop
  | preview {cmd : Command} {spec : WorkloadResourcesSpec} (kind : cmd.kind = "preview_workload_resources")
      (parsed : parseSpec Decode.workloadResourcesSpec cmd = .ok spec) : Audited cmd (resourcesAudit .preview spec)
  | apply {cmd : Command} {spec : WorkloadResourcesSpec} (kind : cmd.kind = "apply_workload_resources")
      (parsed : parseSpec Decode.workloadResourcesSpec cmd = .ok spec) : Audited cmd (resourcesAudit .execute spec)
  | restart {cmd : Command} {spec : RolloutRestartSpec} (kind : cmd.kind = "rollout_restart")
      (parsed : parseSpec Decode.rolloutRestartSpec cmd = .ok spec) : Audited cmd (restartAudit spec)
  | scale {cmd : Command} {spec : ScaleSpec} (kind : cmd.kind = "scale")
      (parsed : parseSpec Decode.scaleSpec cmd = .ok spec) : Audited cmd (scaleAudit spec)
  | updateAgent {cmd : Command} {spec : UpdateAgentSpec} (kind : cmd.kind = "update_agent")
      (parsed : parseSpec Decode.updateAgentSpec cmd = .ok spec) : Audited cmd updateAgentAudit

/-! ## What a result shows -/

/-- A result shows the object as it was before the first patch, the last patch ran in the command's mode and returned
the object, and the other snapshot is the one given. -/
structure Observed (view : AuditView) (tr : ApiTrace) (result : CommandResult) (after : Option Json) : Prop where
  before : ∃ v, view.before (beforeFirst ApiCall.isPatch tr) = some v ∧ result.observedBefore = some v
  patched : ∃ e v, lastCall ApiCall.isPatch tr = some e ∧ e.call.patchDryRun = some (view.mode == .preview) ∧
    view.after e = some v
  after : result.observedAfter = after

/-- **The audit fields are truthful**: the second snapshot is of what the last patch returned. -/
def Truthful (view : AuditView) (tr : ApiTrace) (result : CommandResult) : Prop :=
  Observed view tr result ((lastCall ApiCall.isPatch tr).bind view.after)

/-- What was read last before the last patch is what that patch returned. -/
def Unchanged (view : AuditView) (tr : ApiTrace) : Prop :=
  view.before (beforeLast ApiCall.isPatch tr) = (lastCall ApiCall.isPatch tr).bind view.after

theorem isPatch_of_patchDryRun {op : ApiCall} {dryRun : Bool} (h : op.patchDryRun = some dryRun) :
    op.isPatch = true := by
  rw [ApiCall.isPatch, h]
  rfl

theorem truthful_of_last {view : AuditView} {result : CommandResult} {tr pre : ApiTrace} {e : ApiEvent}
    {before after : Json} (hfirst : beforeFirst ApiCall.isPatch tr = pre)
    (hlast : lastCall ApiCall.isPatch tr = some e) (hmode : e.call.patchDryRun = some (view.mode == .preview))
    (hbefore : view.before pre = some before) (hafter : view.after e = some after)
    (hresultBefore : result.observedBefore = some before) (hresultAfter : result.observedAfter = some after) :
    Truthful view tr result := by
  refine ⟨⟨before, ?_, hresultBefore⟩, ⟨e, after, hlast, hmode, hafter⟩, ?_⟩
  · rw [hfirst, hbefore]
  · rw [hlast, Option.bind_some, hafter, hresultAfter]

/-! ## The handlers -/

section Handlers

variable {view : AuditView} {shown : ApiTrace → Option Json} {tr : ApiTrace}

/-- What a handler promises of its result: if it is `ok`, it shows what it is to show. -/
def Reports (view : AuditView) (shown : ApiTrace → Option Json) (result : CommandResult) (tr : ApiTrace) : Prop :=
  result.status = .ok → Observed view tr result (shown tr)

theorem commandError_reports (id : String) (mode : ExecutionMode) (msg : String) :
    (commandError id mode msg).Meets (fun _ _ => True) (Reports view shown) tr := ⟨trivial, fun _ h => nomatch h⟩

theorem updateAgentError_reports (id msg : String) :
    (updateAgentError id msg).Meets (fun _ _ => True) (Reports view shown) tr := ⟨trivial, fun _ h => nomatch h⟩

def Preliminaries (tr : ApiTrace) : Prop := ∀ e ∈ tr, e.call.preliminary = true

def Unpatched (tr : ApiTrace) : Prop := ∀ e ∈ tr, e.call.isPatch = false

theorem Preliminaries.unpatched (h : Preliminaries tr) : Unpatched tr := by
  intro e he
  have hcall := h e he
  generalize e.call = op at hcall ⊢
  cases op <;> first | rfl | cases hcall

theorem Unpatched.append {later : ApiTrace} (h : Unpatched tr) (hlater : Unpatched later) : Unpatched (tr ++ later) := by
  intro e he
  rcases List.mem_append.1 he with he | he
  · exact h e he
  · exact hlater e he

theorem Unpatched.concat {e : ApiEvent} (h : Unpatched tr) (he : e.call.isPatch = false) : Unpatched (tr ++ [e]) :=
  h.append (fun _ hx => List.mem_singleton.1 hx ▸ he)

theorem preliminary_meets {α : Type} {m : Exec α} (h : Preliminary m) (tr : ApiTrace) :
    m.Meets (fun _ _ => True) (fun _ tr' => ∃ later, tr' = tr ++ later ∧ Preliminaries later) tr :=
  h.meets (fun _ _ _ => trivial) tr

theorem readShows_of_preliminary {target : WorkloadTargetRef}
    {view : (kind : WorkloadKind) → Workload kind → Option Json} {e : ApiEvent} (h : e.call.preliminary = true) :
    readShows target view e = none := by
  obtain ⟨op, answer⟩ := e
  cases op <;> first | rfl | cases h

theorem lastOf_readShows {target : WorkloadTargetRef} {view : (kind : WorkloadKind) → Workload kind → Option Json}
    {kind : WorkloadKind} (hkind : kind.name = target.kind) (w : Workload kind) {later : ApiTrace} (pre : ApiTrace)
    (hlater : Preliminaries later) {v : Json} (hv : view kind w = some v) :
    lastOf (readShows target view) (pre ++ [⟨.getWorkload kind target.namespace_ target.name, .ok w⟩] ++ later) =
      some v := by
  rw [lastOf_append_of_none _ (fun e he => readShows_of_preliminary (hlater e he)), lastOf_concat, readShows,
    if_pos ⟨hkind, rfl, rfl⟩, hv, Option.some_or]

/-! ### Resources -/

theorem patchWorkloadResources_shows {kind : WorkloadKind} {spec : WorkloadResourcesSpec}
    (hkind : kind.name = spec.workloadKind) (mode : ExecutionMode) (patch : Json) (htr : Preliminaries tr) :
    (patchWorkloadResources kind spec patch (mode == .preview)).Meets (fun _ _ => True)
      (fun r tr' => ∀ preview, r = .ok preview → ∃ pre e, tr' = pre ++ [e] ∧ Unpatched pre ∧
        e.call.patchDryRun = some (mode == .preview) ∧
        (resourcesAudit mode spec).before pre = some preview.observedBefore ∧
        (resourcesAudit mode spec).after e = some preview.observedAfter) tr := by
  refine (meets_ask_bind _ _).2 ⟨trivial, fun before => ?_⟩
  cases before with
  | error e => exact fun _ h => nomatch h
  | ok before =>
    dsimp only
    cases hbefore : workloadContainerResources before spec.container with
    | error msg => exact fun _ h => nomatch h
    | ok observedBefore =>
      refine (preliminary_meets (preliminary_collectPreflightWarnings spec _) _).bind (fun warnings tr₂ hwarnings => ?_)
      obtain ⟨later, rfl, hlater⟩ := hwarnings
      refine (meets_ask_bind _ _).2 ⟨trivial, fun after => ?_⟩
      cases after with
      | error e => exact fun _ h => nomatch h
      | ok after =>
        dsimp only
        cases hafter : workloadContainerResources after spec.container with
        | error msg => exact fun _ h => nomatch h
        | ok observedAfter =>
          rintro preview ⟨⟩
          refine ⟨_, _, rfl, (htr.unpatched.concat rfl).append hlater.unpatched, rfl, ?_, ?_⟩
          · exact lastOf_readShows hkind before tr hlater (by rw [hbefore]; rfl)
          · exact (if_pos ⟨hkind, rfl, rfl⟩).trans (by rw [hafter]; rfl)

theorem executeWorkloadResourcesInner_shows (cfg : Config) (spec : WorkloadResourcesSpec) (mode : ExecutionMode) :
    (executeWorkloadResourcesInner cfg spec (mode == .preview)).Meets (fun _ _ => True)
      (fun r tr' => ∀ preview, r = .ok preview → ∃ pre e, tr' = pre ++ [e] ∧ Unpatched pre ∧
        e.call.patchDryRun = some (mode == .preview) ∧
        (resourcesAudit mode spec).before pre = some preview.observedBefore ∧
        (resourcesAudit mode spec).after e = some preview.observedAfter) [] := by
  refine (preliminary_meets (preliminary_ensureEffectivePolicyAllows cfg _ _ _ _) []).bind (fun gate tr hgate => ?_)
  obtain ⟨later, rfl, hlater⟩ := hgate
  cases gate with
  | error msg => exact fun _ h => nomatch h
  | ok policy =>
    cases buildWorkloadResourcesPatch spec with
    | error msg => exact fun _ h => nomatch h
    | ok patch =>
      dsimp only
      cases hkind : WorkloadKind.ofString spec.workloadKind with
      | none => exact fun _ h => nomatch h
      | some kind => exact patchWorkloadResources_shows (WorkloadKind.ofString_eq_some hkind).symm mode patch hlater

/-- **A change of resources shows the container before and after its patch.** -/
theorem runWorkloadResources_truthful (cfg : Config) (id : String) (spec : WorkloadResourcesSpec)
    (mode : ExecutionMode) :
    (runWorkloadResources cfg id spec (mode == .preview)).Meets (fun _ _ => True)
      (fun result tr => result.status = .ok → Truthful (resourcesAudit mode spec) tr result) [] := by
  refine (executeWorkloadResourcesInner_shows cfg spec mode).bind (fun outcome tr houtcome => ?_)
  cases outcome with
  | error msg => exact ⟨trivial, fun _ h => nomatch h⟩
  | ok preview =>
    obtain ⟨pre, e, rfl, hpre, hmode, hbefore, hafter⟩ := houtcome preview rfl
    refine ⟨trivial, fun now _ => ?_⟩
    rw [List.append_assoc, List.singleton_append]
    have hpatch := isPatch_of_patchDryRun hmode
    refine truthful_of_last (beforeFirst_eq hpatch hpre) (lastCall_eq hpatch ?_) hmode hbefore hafter rfl rfl
    intro x hx
    rw [List.mem_singleton.1 hx]
    rfl

/-! ### Restarts -/

theorem applyRolloutRestartPatch_shows (spec : RolloutRestartSpec) (patch : Json) (dryRun : Bool) :
    (applyRolloutRestartPatch spec.target.kind spec.target.namespace_ spec.target.name patch dryRun).Meets
      (fun _ _ => True)
      (fun r tr' => ∀ v, r = .ok v → ∃ read e after, tr' = tr ++ [read] ++ [e] ∧ read.call.isPatch = false ∧
        readShows spec.target (fun _ w => some (restartedAtOf w)) read = some v ∧
        e.call.patchDryRun = some dryRun ∧ (restartAudit spec).after e = some after) tr := by
  unfold applyRolloutRestartPatch
  cases hkind : WorkloadKind.ofString spec.target.kind with
  | none => exact fun _ h => nomatch h
  | some kind =>
    have hname := (WorkloadKind.ofString_eq_some hkind).symm
    refine (meets_ask_bind _ _).2 ⟨trivial, fun before => ?_⟩
    cases before with
    | error e => exact fun _ h => nomatch h
    | ok before =>
      refine (meets_ask_bind _ _).2 ⟨trivial, fun patched => ?_⟩
      cases patched with
      | error e => exact fun _ h => nomatch h
      | ok patched =>
        rintro v ⟨⟩
        exact ⟨_, _, _, rfl, rfl, if_pos ⟨hname, rfl, rfl⟩, rfl, if_pos ⟨hname, rfl, rfl⟩⟩

/-- **A restart shows the object before its first patch, and what it read last before its last.** -/
theorem rolloutRestart_reports (fuel : Nat) (cfg : Config) (id : String) (spec : RolloutRestartSpec) :
    (rolloutRestart fuel cfg id spec).Meets (fun _ _ => True)
      (Reports (restartAudit spec) (fun tr => (restartAudit spec).before (beforeLast ApiCall.isPatch tr))) [] := by
  refine (preliminary_meets (preliminary_ensureEffectivePolicyAllows cfg _ _ _ _) []).bind (fun gate gated hgate => ?_)
  obtain ⟨_, rfl, hgated⟩ := hgate
  cases gate with
  | error msg => exact commandError_reports _ _ _
  | ok policy =>
    refine (meets_ask_bind _ _).2 ⟨trivial, fun restartAt => ?_⟩
    refine (preliminary_meets (preliminary_simple _ _ _) _).bind (fun result tr hresult => ?_)
    obtain ⟨stamped, rfl, hstamped⟩ := hresult
    have hpre : Unpatched (gated ++ [⟨.nowRfc3339, restartAt⟩] ++ stamped) :=
      (hgated.unpatched.concat rfl).append hstamped.unpatched
    generalize gated ++ [⟨.nowRfc3339, restartAt⟩] ++ stamped = pre at hpre ⊢
    refine (applyRolloutRestartPatch_shows spec _ true).bind (fun dryRun tr hdryRun => ?_)
    cases dryRun with
    | error msg => exact commandError_reports _ _ _
    | ok observedBefore =>
      obtain ⟨read, e, after, rfl, hread, hshows, hdry, hafter⟩ := hdryRun _ rfl
      have hquiet : Unpatched (pre ++ [read]) := hpre.concat hread
      have hpatch := isPatch_of_patchDryRun hdry
      have hbefore : (restartAudit spec).before (pre ++ [read]) = some observedBefore := by
        change lastOf _ _ = _
        rw [lastOf_concat, hshows, Option.some_or]
      dsimp only
      cases hmode : spec.execution.mode with
      | preview =>
        intro _
        refine ⟨⟨observedBefore, ?_, rfl⟩, ⟨e, after, lastCall_eq hpatch (by simp), ?_, hafter⟩, ?_⟩
        · rw [beforeFirst_eq hpatch hquiet, hbefore]
        · rw [hdry, restartAudit, workloadAudit, hmode]
          rfl
        · dsimp only
          rw [beforeLast_eq hpatch (by simp), hbefore]
      | execute =>
        refine (applyRolloutRestartPatch_shows spec _ false).bind (fun applied tr happlied => ?_)
        cases applied with
        | error msg => exact commandError_reports _ _ _
        | ok observedAfter =>
          obtain ⟨read₂, e₂, after₂, rfl, hread₂, hshows₂, hlive, hafter₂⟩ := happlied _ rfl
          have hpatch₂ := isPatch_of_patchDryRun hlive
          have hwait : (waitForRolloutCompletion fuel spec.target.kind spec.target.namespace_ spec.target.name).Only
              (fun op => op.isPatch = false) :=
            only_waitForRolloutCompletion (C := fun op => op.isPatch = false) rfl (fun _ _ _ => rfl) (fun _ => rfl) fuel
              _ _ _
          refine (hwait.meets (fun _ _ _ => trivial) _).bind (fun verified tr hverified => ?_)
          obtain ⟨waited, rfl, hwaited⟩ := hverified
          cases verified with
          | error msg => exact fun h => nomatch h
          | ok verification =>
            intro _
            have hfirst : beforeFirst ApiCall.isPatch (pre ++ [read] ++ [e] ++ [read₂] ++ [e₂] ++ waited) =
                pre ++ [read] := by
              have hassoc : pre ++ [read] ++ [e] ++ [read₂] ++ [e₂] ++ waited =
                  (pre ++ [read]) ++ e :: ([read₂] ++ [e₂] ++ waited) := by simp
              rw [hassoc, beforeFirst_eq hpatch hquiet]
            have hlast : lastCall ApiCall.isPatch (pre ++ [read] ++ [e] ++ [read₂] ++ [e₂] ++ waited) = some e₂ := by
              rw [List.append_assoc _ [e₂], List.singleton_append, lastCall_eq hpatch₂ hwaited]
            have hbeforeLast : beforeLast ApiCall.isPatch (pre ++ [read] ++ [e] ++ [read₂] ++ [e₂] ++ waited) =
                pre ++ [read] ++ [e] ++ [read₂] := by
              rw [List.append_assoc _ [e₂], List.singleton_append, beforeLast_eq hpatch₂ hwaited]
            refine ⟨⟨observedBefore, ?_, rfl⟩, ⟨e₂, after₂, hlast, ?_, hafter₂⟩, ?_⟩
            · rw [hfirst, hbefore]
            · rw [hlive, restartAudit, workloadAudit, hmode]
              rfl
            · dsimp only
              rw [hbeforeLast]
              change _ = lastOf _ _
              rw [lastOf_concat, hshows₂, Option.some_or]

/-! ### Scales -/

theorem deploymentRead_of_preliminary {target : WorkloadTargetRef} {e : ApiEvent} (h : e.call.preliminary = true) :
    deploymentRead target e = none := by
  obtain ⟨op, answer⟩ := e
  cases op <;> first | rfl | cases h

theorem scaleRead_of_preliminary {target : WorkloadTargetRef} {e : ApiEvent} (h : e.call.preliminary = true) :
    scaleRead target e = none := by
  obtain ⟨op, answer⟩ := e
  cases op <;> first | rfl | cases h

def scaleReads (target : WorkloadTargetRef) (before : Workload .deployment) (beforeScale : Scale)
    (gated stamped : ApiTrace) : ApiTrace :=
  gated ++ [⟨.getWorkload .deployment target.namespace_ target.name, .ok before⟩] ++
    [⟨.getScale target.namespace_ target.name, .ok beforeScale⟩] ++ stamped

theorem scaleReads_unpatched {target : WorkloadTargetRef} {before : Workload .deployment} {beforeScale : Scale}
    {gated stamped : ApiTrace} (hgated : Preliminaries gated) (hstamped : Preliminaries stamped) :
    Unpatched (scaleReads target before beforeScale gated stamped) :=
  ((hgated.unpatched.concat rfl).concat rfl).append hstamped.unpatched

theorem scaleReads_before {spec : ScaleSpec} {before : Workload .deployment} {beforeScale : Scale}
    {gated stamped : ApiTrace} (hstamped : Preliminaries stamped) :
    (scaleAudit spec).before (scaleReads spec.target before beforeScale gated stamped) =
      some (scaleBefore before beforeScale) := by
  have hdeployment : deploymentRead spec.target
      ⟨.getWorkload .deployment spec.target.namespace_ spec.target.name, .ok before⟩ = some before := if_pos ⟨rfl, rfl⟩
  have hscale : scaleRead spec.target ⟨.getScale spec.target.namespace_ spec.target.name, .ok beforeScale⟩ =
      some beforeScale := if_pos ⟨rfl, rfl⟩
  have hother : deploymentRead spec.target ⟨.getScale spec.target.namespace_ spec.target.name, .ok beforeScale⟩ =
      none := rfl
  simp only [scaleAudit, scaleReads]
  rw [lastOf_append_of_none _ (fun e he => deploymentRead_of_preliminary (hstamped e he)), lastOf_concat, lastOf_concat,
    lastOf_append_of_none _ (fun e he => scaleRead_of_preliminary (hstamped e he)), lastOf_concat, hdeployment, hscale,
    hother]
  rfl

/-- **A scale shows the replicas before and after its patches.** -/
theorem scaleWorkload_truthful (cfg : Config) (id : String) (spec : ScaleSpec) :
    (scaleWorkload cfg id spec).Meets (fun _ _ => True)
      (fun result tr => result.status = .ok → Truthful (scaleAudit spec) tr result) [] := by
  refine (preliminary_meets (preliminary_ensureEffectivePolicyAllows cfg _ _ _ _) []).bind (fun gate gated hgate => ?_)
  obtain ⟨_, rfl, hgated⟩ := hgate
  cases gate with
  | error msg => exact commandError_reports _ _ _
  | ok policy =>
    dsimp only
    split_ifs
    · exact commandError_reports _ _ _
    · exact commandError_reports _ _ _
    refine (meets_ask_bind _ _).2 ⟨trivial, fun before => ?_⟩
    cases before with
    | error e => exact commandError_reports _ _ _
    | ok before =>
      refine (meets_ask_bind _ _).2 ⟨trivial, fun beforeScale => ?_⟩
      cases beforeScale with
      | error e => exact commandError_reports _ _ _
      | ok beforeScale =>
        refine (preliminary_meets (preliminary_simple _ _ _) _).bind (fun result tr hresult => ?_)
        obtain ⟨stamped, rfl, hstamped⟩ := hresult
        have hquiet : Unpatched (scaleReads spec.target before beforeScale gated stamped) :=
          scaleReads_unpatched hgated hstamped
        have hbefore : (scaleAudit spec).before (scaleReads spec.target before beforeScale gated stamped) =
            some (scaleBefore before beforeScale) := scaleReads_before hstamped
        refine (meets_ask_bind _ _).2 ⟨trivial, fun dryRun => ?_⟩
        cases dryRun with
        | error e => exact commandError_reports _ _ _
        | ok dryRun =>
          dsimp only
          cases hmode : spec.execution.mode with
          | preview =>
            intro _
            refine truthful_of_last (beforeFirst_eq rfl hquiet) (lastCall_eq rfl (by simp)) ?_ hbefore
              (if_pos ⟨rfl, rfl⟩) rfl rfl
            rw [scaleAudit, hmode]
            rfl
          | execute =>
            refine (meets_ask_bind _ _).2 ⟨trivial, fun applied => ?_⟩
            cases applied with
            | error e => exact commandError_reports _ _ _
            | ok applied =>
              intro _
              rw [List.append_assoc]
              refine truthful_of_last (beforeFirst_eq rfl hquiet) ((congrArg _ (List.append_assoc _ _ _).symm).trans
                (lastCall_eq rfl (by simp))) ?_ hbefore (if_pos ⟨rfl, rfl⟩) rfl rfl
              rw [scaleAudit, hmode]
              rfl

/-! ### The agent's own image -/

/-- **An update of the agent shows the image before and after its patches.** -/
theorem updateAgent_truthful (cfg : Config) (id : String) (spec : UpdateAgentSpec) :
    (updateAgent cfg id spec).Meets (fun _ _ => True)
      (fun result tr => result.status = .ok → Truthful updateAgentAudit tr result) [] := by
  refine (preliminary_meets (preliminary_ensureEffectivePolicyAllows cfg _ _ _ _) []).bind (fun gate gated hgate => ?_)
  obtain ⟨_, rfl, hgated⟩ := hgate
  cases gate with
  | error msg => exact updateAgentError_reports _ _
  | ok policy =>
    cases validateUpdateAgentImage spec.image with
    | error msg => exact updateAgentError_reports _ _
    | ok image =>
      refine (meets_ask_bind _ _).2 ⟨trivial, fun before => ?_⟩
      cases before with
      | error e => exact updateAgentError_reports _ _
      | ok before =>
        dsimp only
        cases hbeforeImage : daemonsetContainerImage before updateAgentContainer with
        | error msg => exact updateAgentError_reports _ _
        | ok beforeImage =>
          refine (preliminary_meets (preliminary_collectPreflightWarnings _ _) _).bind (fun warnings tr hwarnings => ?_)
          obtain ⟨later, rfl, hlater⟩ := hwarnings
          refine (meets_ask_bind _ _).2 ⟨trivial, fun dryRun => ?_⟩
          cases dryRun with
          | error e => exact updateAgentError_reports _ _
          | ok dryRun =>
            refine (meets_ask_bind _ _).2 ⟨trivial, fun after => ?_⟩
            cases after with
            | error e => exact updateAgentError_reports _ _
            | ok after =>
              dsimp only
              cases hafterImage : daemonsetContainerImage after updateAgentContainer with
              | error msg => exact updateAgentError_reports _ _
              | ok afterImage =>
                refine ⟨trivial, fun now _ => ?_⟩
                have hquiet : Unpatched (gated ++ [⟨.getWorkload .daemonSet updateAgentNamespace
                    updateAgentDaemonset, .ok before⟩] ++ later) :=
                  (hgated.unpatched.concat rfl).append hlater.unpatched
                have hbefore : updateAgentAudit.before (gated ++
                    [⟨.getWorkload .daemonSet updateAgentNamespace updateAgentDaemonset, .ok before⟩] ++ later) =
                    some (.obj [("image", .str beforeImage)]) :=
                  lastOf_readShows rfl before gated hlater (by rw [imageShown, hbeforeImage]; rfl)
                have hafter : updateAgentAudit.after ⟨.patchWorkload .daemonSet updateAgentNamespace
                    updateAgentDaemonset false (updateAgentPatch image), .ok after⟩ =
                    some (.obj [("image", .str afterImage)]) := by
                  change imageShown .daemonSet after = _
                  rw [imageShown, hafterImage]
                  rfl
                refine truthful_of_last ?_ ?_ rfl hbefore hafter rfl rfl
                · rw [List.append_assoc, List.append_assoc]
                  exact beforeFirst_eq rfl hquiet
                · rw [List.append_assoc _ [_] [_]]
                  exact lastCall_eq rfl (by simp [ApiCall.isPatch, ApiCall.patchDryRun])

/-! ## The commands -/

theorem dispatch_reports {α : Type} {enabled : Bool} {off : String} {d : Decoder α} {cmd : Command}
    {handler : α → Exec CommandResult} {spec : α} (parsed : parseSpec d cmd = .ok spec)
    (h : (handler spec).Meets (fun _ _ => True) (Reports view shown) []) :
    (dispatch enabled off d cmd handler).Meets (fun _ _ => True) (Reports view shown) [] := by
  unfold dispatch
  split
  · exact ⟨trivial, fun _ h => nomatch h⟩
  rw [parsed]
  exact h

end Handlers

/-- What a command of the kind given shows after its patches: a restart shows what it read before its last. -/
def shownAfter (kind : String) (view : AuditView) (tr : ApiTrace) : Option Json :=
  if kind = "rollout_restart" then view.before (beforeLast ApiCall.isPatch tr)
  else (lastCall ApiCall.isPatch tr).bind view.after

theorem executeInner_reports (env : Externals) (fuel : Nat) (cfg : Config) {cmd : Command} {view : AuditView}
    (h : Audited cmd view) :
    (executeInner env fuel cfg cmd).Meets (fun _ _ => True) (Reports view (shownAfter cmd.kind view)) [] := by
  cases h with
  | preview kind parsed =>
    simp only [executeInner, kind]
    exact dispatch_reports parsed (runWorkloadResources_truthful cfg _ _ .preview)
  | apply kind parsed =>
    simp only [executeInner, kind]
    exact dispatch_reports parsed (runWorkloadResources_truthful cfg _ _ .execute)
  | restart kind parsed =>
    simp only [executeInner, kind]
    exact dispatch_reports parsed (rolloutRestart_reports fuel cfg _ _)
  | scale kind parsed =>
    simp only [executeInner, kind]
    exact dispatch_reports parsed (scaleWorkload_truthful cfg _ _)
  | updateAgent kind parsed =>
    simp only [executeInner, kind]
    exact dispatch_reports parsed (updateAgent_truthful cfg _ _)

def auditedKinds : List String :=
  ["preview_workload_resources", "apply_workload_resources", "rollout_restart", "scale", "update_agent"]

theorem dispatch_unparsed {α : Type} {enabled : Bool} {off message : String} {d : Decoder α} {cmd : Command}
    {handler : α → Exec CommandResult} (h : parseSpec d cmd = .error message) :
    (dispatch enabled off d cmd handler).Meets (fun _ _ => True) (fun result _ => result.status ≠ .ok) [] := by
  unfold dispatch
  split
  · exact ⟨trivial, fun _ h => nomatch h⟩
  rw [h]
  exact ⟨trivial, fun _ h => nomatch h⟩

theorem parsed_of_ok {α : Type} {enabled : Bool} {off : String} {d : Decoder α} {cmd : Command}
    {handler : α → Exec CommandResult} {o : ApiOracle} {result : CommandResult}
    (hrun : ((dispatch enabled off d cmd handler).run o []).1 = some result) (hok : result.status = .ok) :
    ∃ spec, parseSpec d cmd = .ok spec := by
  cases parsed : parseSpec d cmd with
  | ok spec => exact ⟨spec, rfl⟩
  | error message => exact absurd hok (result_meets o _ (dispatch_unparsed parsed) result hrun)

theorem exists_audited (env : Externals) (fuel : Nat) (cfg : Config) {cmd : Command} (kind : cmd.kind ∈ auditedKinds)
    {o : ApiOracle} {result : CommandResult} (hrun : ((executeInner env fuel cfg cmd).run o []).1 = some result)
    (hok : result.status = .ok) : ∃ view, Audited cmd view := by
  simp only [auditedKinds, List.mem_cons, List.not_mem_nil, or_false] at kind
  rcases kind with kind | kind | kind | kind | kind <;> simp only [executeInner, kind] at hrun <;>
    obtain ⟨spec, parsed⟩ := parsed_of_ok hrun hok
  · exact ⟨_, .preview kind parsed⟩
  · exact ⟨_, .apply kind parsed⟩
  · exact ⟨_, .restart kind parsed⟩
  · exact ⟨_, .scale kind parsed⟩
  · exact ⟨_, .updateAgent kind parsed⟩

/-- **When the audit fields are truthful**: always, except after a restart whose last patch returned another annotation
than was read before it. -/
theorem audit_truthful_iff (env : Externals) (fuel : Nat) (cfg : Config) {cmd : Command}
    (kind : cmd.kind ∈ auditedKinds) {o : ApiOracle} {result : CommandResult}
    (hrun : ((executeInner env fuel cfg cmd).run o []).1 = some result) (hok : result.status = .ok) :
    (∃ view, Audited cmd view) ∧ ∀ view, Audited cmd view →
      (Truthful view ((executeInner env fuel cfg cmd).trace o) result ↔
        (cmd.kind = "rollout_restart" → Unchanged view ((executeInner env fuel cfg cmd).trace o))) := by
  refine ⟨exists_audited env fuel cfg kind hrun hok, fun view hview => ?_⟩
  have hobserved := result_meets o _ (executeInner_reports env fuel cfg hview) result hrun hok
  constructor
  · intro htruthful hrestart
    have hafter := hobserved.after
    rw [shownAfter, if_pos hrestart] at hafter
    exact hafter.symm.trans htruthful.after
  · intro hunchanged
    refine ⟨hobserved.before, hobserved.patched, hobserved.after.trans ?_⟩
    by_cases hrestart : cmd.kind = "rollout_restart"
    · rw [shownAfter, if_pos hrestart]
      exact hunchanged hrestart
    · rw [shownAfter, if_neg hrestart]

/-! ### A restart -/

def restartTarget : WorkloadTargetRef := ⟨"Deployment", "app", "api"⟩

/-- A preview of a restart of `api` in the namespace `app`. -/
def restartCommand : Command :=
  { id := "1", kind := "rollout_restart"
    spec := .obj [("execution", .obj [("mode", .str "preview")]), ("target", targetJson restartTarget)] }

def restartPolicy : SentinellaHubActionPolicy := readyPolicy 0 ["rollout_restart"] ["Deployment"] ["app"]

/-- An API server that answers each patch of a workload with the annotations given. -/
def patchingOracle (annotations : Option (StrMap String)) : ApiOracle := fun tr op =>
  match op with
  | .patchWorkload _ _ _ _ _ => .ok { spec := some { template := { metadata := some { annotations } } } }
  | op => calmOracle 5 [restartPolicy] tr op

theorem restartCommand_audited : Audited restartCommand (restartAudit ⟨{}, restartTarget⟩) := .restart rfl rfl

theorem restartPreview_trace (annotations : Option (StrMap String)) :
    (executeInner noExternals 0 actingConfig restartCommand).trace (patchingOracle annotations) =
      [⟨.listActionPolicies, .ok [.ok restartPolicy]⟩, ⟨.nowMs, (5 : Nat)⟩,
        ⟨.nowRfc3339, "2024-01-01T00:00:00Z"⟩, ⟨.nowMs, (5 : Nat)⟩, ⟨.getWorkload .deployment "app" "api", .ok {}⟩,
        ⟨.patchWorkload .deployment "app" "api" true (rolloutRestartPatch "2024-01-01T00:00:00Z"),
          .ok { spec := some { template := { metadata := some { annotations } } } }⟩] := rfl

theorem audited_restartCommand {view : AuditView} (h : Audited restartCommand view) :
    view = restartAudit ⟨{}, restartTarget⟩ := by
  cases h with
  | restart kind parsed => rw [← Except.ok.inj parsed]
  | preview kind | apply kind | scale kind | updateAgent kind => exact absurd kind (by decide)

/-- The API server answers with the annotation that was asked for, and the preview shows none. -/
theorem restartPreview_untruthful :
    ¬ ∀ env fuel cfg cmd o result, cmd.kind ∈ auditedKinds →
      ((executeInner env fuel cfg cmd).run o []).1 = some result → result.status = .ok →
        ∃ view, Audited cmd view ∧ Truthful view ((executeInner env fuel cfg cmd).trace o) result := by
  intro h
  obtain ⟨view, hview, htruthful⟩ := h noExternals 0 actingConfig restartCommand
    (patchingOracle (some (.singleton "kubectl.kubernetes.io/restartedAt" "2024-01-01T00:00:00Z"))) _ (by decide) rfl
    rfl
  have hafter := htruthful.after
  rw [audited_restartCommand hview, restartPreview_trace] at hafter
  cases hafter

/-- An API server that leaves the annotation out is shown as it answered. -/
theorem restartPreview_truthful :
    ∃ result, ((executeInner noExternals 0 actingConfig restartCommand).run (patchingOracle none) []).1 = some result ∧
      Truthful (restartAudit ⟨{}, restartTarget⟩) ((executeInner noExternals 0 actingConfig restartCommand).trace
        (patchingOracle none)) result := by
  refine ⟨_, rfl, ((audit_truthful_iff noExternals 0 actingConfig (by decide) rfl rfl).2 _ restartCommand_audited).2
    (fun _ => ?_)⟩
  rw [restartPreview_trace]
  rfl

end Executor
end HubAgent
