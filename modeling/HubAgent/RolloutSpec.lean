import HubAgent.Lib.Overlap
import HubAgent.Audit
/-!
# What a finished rollout of a Deployment shows (`executor.rs`)

A rollout is verified by three counters of the Deployment.  While it is under way, pods of the old template stand beside
those of the new one, and the counter of available pods does not tell them apart: `verify_deployment_rollout` can take
an available old pod for the new one that is not available yet.  `runsNewPods_iff` says exactly when it cannot.
-/
namespace HubAgent
namespace Executor

open Interaction
open Overlap (both overlap_ge exists_overlap)

/-- A pod of a Deployment: whether it is of the current template, and whether it is available. -/
structure ReplicaPod where
  newTemplate : Bool
  available : Bool

def newAvailable (pods : List ReplicaPod) : Nat := both ReplicaPod.newTemplate ReplicaPod.available pods

section Deployments

variable (w : Workload .deployment)

def specReplicas : Int := (w.spec.bind WorkloadSpec.replicas).getD 1

/-- A counter of the status; one that is absent counts nothing. -/
def counter (f : DeploymentStatus → Option Int) : Int := (Option.bind (α := DeploymentStatus) w.status f).getD 0

/-- **The status counts these pods.** -/
structure Counts (pods : List ReplicaPod) : Prop where
  replicas : counter w DeploymentStatus.replicas = pods.length
  updated : counter w DeploymentStatus.updatedReplicas = pods.countP ReplicaPod.newTemplate
  available : counter w DeploymentStatus.availableReplicas = pods.countP ReplicaPod.available

/-- The status is of the current generation. -/
def CaughtUp : Prop := w.metadata.generation.getD 0 ≤ counter w DeploymentStatus.observedGeneration

instance : Decidable (CaughtUp w) := inferInstanceAs (Decidable (_ ≤ _))

def reportsReady : Bool := (((deploymentRollout w).get "ready").bind Json.asBool).getD false

/-- **The Deployment runs its new pods**, whichever pods its status counts. -/
def RunsNewPods : Prop := ∀ pods, Counts w pods → specReplicas w ≤ newAvailable pods

/-- The old pods are no more than the available ones in excess, or the counters do not make the rollout finished. -/
def OldPodsSpared : Prop :=
  specReplicas w ≤ 0 ∨ counter w DeploymentStatus.updatedReplicas < specReplicas w ∨
    counter w DeploymentStatus.availableReplicas < specReplicas w ∨
    counter w DeploymentStatus.replicas - counter w DeploymentStatus.updatedReplicas ≤
      counter w DeploymentStatus.availableReplicas - specReplicas w

variable {w}

theorem reportsReady_iff : reportsReady w = true ↔ specReplicas w ≤ counter w DeploymentStatus.updatedReplicas ∧
    specReplicas w ≤ counter w DeploymentStatus.availableReplicas ∧ CaughtUp w := by
  unfold reportsReady CaughtUp counter specReplicas
  simp only [deploymentRollout, Json.get, Json.lookup, List.find?_cons, beq_self_eq_true, Option.map_some,
    Option.bind_some, Json.asBool, Option.getD_some, Bool.and_eq_true, decide_eq_true_eq, ge_iff_le, and_assoc]

/-- Counters that count some pods count some with the least overlap. -/
theorem exists_counts {pods : List ReplicaPod} (h : Counts w pods) : ∃ pods', Counts w pods' ∧
    newAvailable pods' = pods.countP ReplicaPod.newTemplate + pods.countP ReplicaPod.available - pods.length := by
  obtain ⟨l, hlength, hnew, havailable, hboth⟩ :=
    exists_overlap (List.countP_le_length (p := ReplicaPod.newTemplate) (l := pods))
      (List.countP_le_length (p := ReplicaPod.available) (l := pods))
  refine ⟨l.map (fun x => ⟨x.1, x.2⟩), ⟨?_, ?_, ?_⟩, ?_⟩
  · rw [List.length_map, hlength]
    exact h.replicas
  · rw [List.countP_map]
    exact h.updated.trans (congrArg Int.ofNat hnew.symm)
  · rw [List.countP_map]
    exact h.available.trans (congrArg Int.ofNat havailable.symm)
  · unfold newAvailable both at *
    rw [List.countP_map]
    exact hboth

/-- **When the new pods run**: exactly when the surplus of available pods covers the old ones. -/
theorem runsNewPods_iff (hpods : ∃ pods, Counts w pods) (hready : reportsReady w = true) :
    RunsNewPods w ↔ OldPodsSpared w := by
  obtain ⟨hupdated, havailable, -⟩ := reportsReady_iff.1 hready
  constructor
  · intro h
    obtain ⟨pods, hcounts⟩ := hpods
    obtain ⟨pods', hcounts', hleast⟩ := exists_counts hcounts
    have hruns := h pods' hcounts'
    rw [hleast] at hruns
    have hreplicas := hcounts.replicas
    have hnew := hcounts.updated
    have havail := hcounts.available
    unfold OldPodsSpared
    omega
  · intro h pods hcounts
    have hge := overlap_ge ReplicaPod.newTemplate ReplicaPod.available pods
    have hreplicas := hcounts.replicas
    have hnew := hcounts.updated
    have havail := hcounts.available
    unfold newAvailable
    rcases h with h | h | h | h
    · omega
    · omega
    · omega
    · omega

end Deployments

/-! ## The runs -/

/-- A history in which the Deployment was patched, and was last read as `w`. -/
def VerifiedAgainst (target : WorkloadTargetRef) (tr : ApiTrace) (w : Workload .deployment) : Prop :=
  ∃ pre patch after, tr = pre ++ [⟨.getWorkload .deployment target.namespace_ target.name, .ok w⟩] ∧
    (⟨.patchWorkload .deployment target.namespace_ target.name false patch, .ok after⟩ : ApiEvent) ∈ pre

theorem awaitRollout_ready (deadline : Nat) (ns name : String) : ∀ (fuel : Nat) (tr : ApiTrace),
    (awaitRollout deadline "Deployment" ns name fuel).Meets (fun _ _ => True)
      (fun r tr' => ∀ v, r = .ok v → ∃ w pre, tr' = pre ++ [⟨.getWorkload .deployment ns name, .ok w⟩] ∧ tr <+: pre ∧
        reportsReady w = true) tr
  | 0, _ => trivial
  | fuel + 1, tr => by
    refine (meets_ask_bind _ _).2 ⟨trivial, fun now => ?_⟩
    split
    · exact fun _ h => nomatch h
    refine (meets_ask_bind _ _).2 ⟨trivial, fun workload => ?_⟩
    cases workload with
    | error e => exact fun _ h => nomatch h
    | ok w =>
      dsimp only
      split
      · rename_i hready
        intro v _
        exact ⟨w, _, rfl, List.prefix_append _ _, hready⟩
      · refine (meets_ask_bind _ _).2 ⟨trivial, fun _ => ?_⟩
        refine (awaitRollout_ready deadline ns name fuel _).mono (fun _ _ h => h) (fun r tr' h v hv => ?_)
        obtain ⟨w', pre, rfl, hpre, hready⟩ := h v hv
        rw [List.append_assoc, List.append_assoc] at hpre
        exact ⟨w', pre, rfl, (List.prefix_append _ _).trans hpre, hready⟩

theorem waitForRolloutCompletion_ready (fuel : Nat) (ns name : String) (tr : ApiTrace) :
    (waitForRolloutCompletion fuel "Deployment" ns name).Meets (fun _ _ => True)
      (fun r tr' => ∀ v, r = .ok v → ∃ w pre, tr' = pre ++ [⟨.getWorkload .deployment ns name, .ok w⟩] ∧ tr <+: pre ∧
        reportsReady w = true) tr := by
  have hnow : systemTimeNow.Meets (fun _ _ => True) (fun _ tr' => tr <+: tr') tr :=
    ⟨trivial, fun _ => List.prefix_append _ _⟩
  refine hnow.bind (fun now tr' hsince => ?_)
  generalize now + 120 * 1000000000 = deadline
  split
  · exact fun _ h => nomatch h
  · refine (awaitRollout_ready _ _ _ fuel _).mono (fun _ _ h => h) (fun r tr' h v hv => ?_)
    obtain ⟨w, pre, rfl, hpre, hready⟩ := h v hv
    exact ⟨w, pre, rfl, hsince.trans hpre, hready⟩

theorem applyRolloutRestartPatch_patches (ns name : String) (patch : Json) (dryRun : Bool) (tr : ApiTrace) :
    (applyRolloutRestartPatch "Deployment" ns name patch dryRun).Meets (fun _ _ => True)
      (fun r tr' => ∀ v, r = .ok v → ∃ after,
        (⟨.patchWorkload .deployment ns name dryRun patch, .ok after⟩ : ApiEvent) ∈ tr') tr := by
  refine (meets_ask_bind _ _).2 ⟨trivial, fun before => ?_⟩
  cases before with
  | error e => exact fun _ h => nomatch h
  | ok before =>
    refine (meets_ask_bind _ _).2 ⟨trivial, fun patched => ?_⟩
    cases patched with
    | error e => exact fun _ h => nomatch h
    | ok patched => exact fun v _ => ⟨patched, List.mem_append_right _ List.mem_cons_self⟩

/-- What a restart of a Deployment says with a verification that is `ready`. -/
def ReadyVerified (target : WorkloadTargetRef) (result : CommandResult) (tr : ApiTrace) : Prop :=
  ∀ v, result.verification = some v → v.status = "ready" → ∃ w, VerifiedAgainst target tr w ∧ reportsReady w = true

theorem readyVerified_of_none {target : WorkloadTargetRef} {result : CommandResult} {tr : ApiTrace}
    (h : result.verification = none) : ReadyVerified target result tr := by
  intro v hv
  rw [h] at hv
  cases hv

theorem commandError_readyVerified (target : WorkloadTargetRef) (id : String) (mode : ExecutionMode) (message : String)
    (tr : ApiTrace) : (commandError id mode message).Meets (fun _ _ => True) (ReadyVerified target) tr :=
  ⟨trivial, fun _ => readyVerified_of_none rfl⟩

/-- **A restart that is verified as `ready`** has patched its Deployment and has just read it ready. -/
theorem rolloutRestart_readyVerified (fuel : Nat) (cfg : Config) (id : String) (spec : RolloutRestartSpec)
    (hkind : spec.target.kind = "Deployment") :
    (rolloutRestart fuel cfg id spec).Meets (fun _ _ => True) (ReadyVerified spec.target) [] := by
  refine (preliminary_meets (preliminary_ensureEffectivePolicyAllows cfg _ _ _ _) []).bind (fun gate gated _ => ?_)
  cases gate with
  | error message => exact commandError_readyVerified _ _ _ _ _
  | ok policy =>
    refine (meets_ask_bind _ _).2 ⟨trivial, fun restartAt => ?_⟩
    refine (meets_ask_bind _ _).2 ⟨trivial, fun finishedAtMs => ?_⟩
    dsimp only
    rw [hkind]
    refine (applyRolloutRestartPatch_patches _ _ _ true _).bind (fun dryRun tr _ => ?_)
    cases dryRun with
    | error message => exact commandError_readyVerified _ _ _ _ _
    | ok observedBefore =>
      dsimp only
      cases spec.execution.mode with
      | preview => exact readyVerified_of_none rfl
      | execute =>
        refine (applyRolloutRestartPatch_patches _ _ _ false _).bind (fun applied tr happlied => ?_)
        cases applied with
        | error message => exact commandError_readyVerified _ _ _ _ _
        | ok after =>
          obtain ⟨w', hpatched⟩ := happlied after rfl
          refine (waitForRolloutCompletion_ready fuel _ _ _).bind (fun verified tr' hverified => ?_)
          cases verified with
          | ok verification =>
            intro v _ _
            obtain ⟨w, pre, rfl, hpre, hready⟩ := hverified verification rfl
            exact ⟨w, ⟨pre, _, w', rfl, hpre.subset hpatched⟩, hready⟩
          | error message =>
            intro v hv hstatus
            cases hv
            exact absurd hstatus (by decide)

/-- **Where the verification of a rollout is sound**: exactly for the Deployments whose surplus of available pods covers
their old pods, and so for every restart that is verified against such a Deployment. -/
theorem rollout_sound_iff (o : ApiOracle) (fuel : Nat) (cfg : Config) (id : String) (spec : RolloutRestartSpec)
    (hkind : spec.target.kind = "Deployment") :
    (∀ w, (∃ pods, Counts w pods) → CaughtUp w → ((reportsReady w = true → RunsNewPods w) ↔ OldPodsSpared w)) ∧
    (∀ (result : CommandResult) (v : ActionVerification),
      ((rolloutRestart fuel cfg id spec).run o []).1 = some result → result.verification = some v → v.status = "ready" →
      ∃ w, VerifiedAgainst spec.target ((rolloutRestart fuel cfg id spec).trace o) w ∧
        ((∃ pods, Counts w pods) → (RunsNewPods w ↔ OldPodsSpared w))) := by
  constructor
  · intro w hpods hcaught
    constructor
    · intro h
      by_cases hready : reportsReady w = true
      · exact (runsNewPods_iff hpods hready).1 (h hready)
      · rw [reportsReady_iff] at hready
        unfold OldPodsSpared
        by_cases hupdated : specReplicas w ≤ counter w DeploymentStatus.updatedReplicas
        · by_cases havailable : specReplicas w ≤ counter w DeploymentStatus.availableReplicas
          · exact absurd ⟨hupdated, havailable, hcaught⟩ hready
          · exact .inr (.inr (.inl (not_le.1 havailable)))
        · exact .inr (.inl (not_le.1 hupdated))
    · intro h hready
      exact (runsNewPods_iff hpods hready).2 h
  · intro result v hrun hv hstatus
    obtain ⟨w, hverified, hready⟩ :=
      result_meets o _ (rolloutRestart_readyVerified fuel cfg id spec hkind) result hrun v hv hstatus
    exact ⟨w, hverified, fun hpods => runsNewPods_iff hpods hready⟩

/-! ### A restart that surges -/

/-- One replica is wanted; the old pod is still there, the new one is counted as updated. -/
def surgingDeployment : Workload .deployment where
  metadata := { generation := some 2 }
  spec := some { replicas := some 1 }
  status := some { replicas := some 2, updatedReplicas := some 1, availableReplicas := some 1,
                   observedGeneration := some 2 }

def surgingPods : List ReplicaPod := [⟨false, true⟩, ⟨true, false⟩]

def surgingOracle : ApiOracle := fun tr op =>
  match op with
  | .getWorkload .deployment _ _ => .ok surgingDeployment
  | op => calmOracle 5 [restartPolicy] tr op

def restartNow : RolloutRestartSpec := ⟨{ mode := .execute }, restartTarget⟩

theorem surgingPods_counted : Counts surgingDeployment surgingPods := ⟨by decide, by decide, by decide⟩

/-- The rollout is verified, and no new pod is available. -/
theorem surging_restart_verified :
    (((rolloutRestart 1 actingConfig "1" restartNow).run surgingOracle []).1.bind CommandResult.verification).map
        ActionVerification.status = some "ready" ∧
      Counts surgingDeployment surgingPods ∧ CaughtUp surgingDeployment ∧ reportsReady surgingDeployment = true ∧
      specReplicas surgingDeployment = 1 ∧ newAvailable surgingPods = 0 :=
  ⟨rfl, surgingPods_counted, by decide, by decide, by decide, by decide⟩

/-- Both parts at this Deployment: it is verified although the old pod is not spared. -/
theorem rollout_sound_iff_surging :
    ((reportsReady surgingDeployment = true → RunsNewPods surgingDeployment) ↔ OldPodsSpared surgingDeployment) ∧
      ∃ w, VerifiedAgainst restartTarget ((rolloutRestart 1 actingConfig "1" restartNow).trace surgingOracle) w ∧
        ((∃ pods, Counts w pods) → (RunsNewPods w ↔ OldPodsSpared w)) :=
  have hsound := rollout_sound_iff surgingOracle 1 actingConfig "1" restartNow rfl
  ⟨hsound.1 surgingDeployment ⟨_, surgingPods_counted⟩ (by decide), hsound.2 _ _ rfl rfl rfl⟩

end Executor
end HubAgent
