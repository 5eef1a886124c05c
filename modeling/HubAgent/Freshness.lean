import HubAgent.Reconcile
/-!
# Freshness over whole runs

A pass reads the timestamp the last one wrote and writes its own, so whether a policy is fresh at a pass depends on the
gap to the pass before, and nothing else.  `PassRun` is a run of passes over one policy whose status patches succeed;
what a pass computes there is `passFreshness_of_step`, and what the gate says between two passes only gets stricter
(`statusAdmits_antitone`).
-/
namespace HubAgent
namespace Operator

open Executor
open Interaction

/-- What one pass sees: its clock, the namespaces it lists, the exclusions and the outcome of the bindings. -/
structure PassInput where
  time : Nat
  namespaces : List Namespace
  excluded : Finset String
  binding : BindingReconcileOutcome

def PassInput.status (p : PassInput) (w : Nat) (policy : SentinellaHubActionPolicy) : PolicyStatus :=
  buildPolicyStatus policy p.namespaces p.excluded p.binding p.time w

def PassInput.gates (p : PassInput) (w : Nat) (policy : SentinellaHubActionPolicy) : PolicyGates :=
  policyGates policy p.namespaces p.excluded p.binding p.time w

/-- **One pass over a cluster that holds `policy`**, run with some answers, whose patch of that policy succeeded; the
cluster then holds `policy'`.  A policy's name is its own. -/
structure PassStep (w : Nat) (policy : SentinellaHubActionPolicy) (p : PassInput)
    (policy' : SentinellaHubActionPolicy) :
    Prop where
  ran : ∃ (o : PassOracle) (policies : List SentinellaHubActionPolicy) (name : String) (status : PolicyStatus),
    o [] .listNamespaces = .ok p.namespaces ∧
    o [⟨.listNamespaces, .ok p.namespaces⟩] .listPolicies = .ok policies ∧
    policy ∈ policies ∧ policy.metadata.name = some name ∧ (∀ q ∈ policies, q.metadata.name = some name → q = policy) ∧
    p.binding = bindingOutcome ((reconcileActionPoliciesWith p.time w p.excluded).trace o) ∧
    (⟨.patchStatus name status, .ok ()⟩ : Event OperatorCall OperatorAnswer) ∈
      (reconcileActionPoliciesWith p.time w p.excluded).trace o ∧
    policy' = published policy status

theorem mem_patched {tr : PassTrace} {name : String} {status : PolicyStatus} {answer : Except String Unit}
    (h : (⟨.patchStatus name status, answer⟩ : Event OperatorCall OperatorAnswer) ∈ tr) :
    (name, status) ∈ patched tr :=
  List.mem_filterMap.2 ⟨_, List.mem_map_of_mem h, rfl⟩

theorem PassStep.eq_published {w : Nat} {policy policy' : SentinellaHubActionPolicy} {p : PassInput}
    (h : PassStep w policy p policy') : policy' = published policy (p.status w policy) := by
  obtain ⟨o, policies, name, status, hns, hpol, -, hname, huniq, hbind, hpatch, rfl⟩ := h.ran
  obtain ⟨tr, hrun, -, -, hpatched⟩ := trace_reconcileActionPoliciesWith o p.time w p.excluded hns hpol
  rw [Prog.trace, hrun] at hpatch hbind
  have hmem := mem_patched hpatch
  rw [hpatched] at hmem
  obtain ⟨q, hq, hw⟩ := List.mem_filterMap.1 hmem
  obtain ⟨n, hn, hw⟩ := Option.map_eq_some_iff.1 hw
  cases hw
  rw [huniq q hq hn, PassInput.status, hbind]

/-- **A run of passes** at non-decreasing times: each pass with what the cluster holds after it. -/
inductive PassRun (w : Nat) : SentinellaHubActionPolicy → List (PassInput × SentinellaHubActionPolicy) → Prop
  | done (policy : SentinellaHubActionPolicy) : PassRun w policy []
  | pass {policy policy' : SentinellaHubActionPolicy} {p : PassInput}
      {rest : List (PassInput × SentinellaHubActionPolicy)} (step : PassStep w policy p policy')
      (later : ∀ q ∈ rest, p.time ≤ q.1.time) (next : PassRun w policy' rest) : PassRun w policy ((p, policy') :: rest)

def storedAfter (policy : SentinellaHubActionPolicy) : List (PassInput × SentinellaHubActionPolicy) →
    SentinellaHubActionPolicy
  | [] => policy
  | (_, policy') :: rest => storedAfter policy' rest

theorem PassRun.step_at {w : Nat} : ∀ (pre : List (PassInput × SentinellaHubActionPolicy))
    {policy policy' : SentinellaHubActionPolicy} {p : PassInput} {post : List (PassInput × SentinellaHubActionPolicy)},
    PassRun w policy (pre ++ (p, policy') :: post) →
      PassStep w (storedAfter policy pre) p policy' ∧ PassRun w policy' post
  | [], _, _, _, _, h => by
    cases h with
    | pass step _ next => exact ⟨step, next⟩
  | (_, _) :: pre, _, _, _, _, h => by
    cases h with
    | pass _ _ next => exact step_at pre next

/-! ## One pass -/

def storedTime (policy : SentinellaHubActionPolicy) : Option Nat := policy.status.bind PolicyStatus.lastReconciledAtMs

/-- **What a pass makes of the stored timestamp.** -/
structure PassFreshness (w : Nat) (stored : SentinellaHubActionPolicy) (p : PassInput)
    (policy' : SentinellaHubActionPolicy) : Prop where
  written : policy' = published stored (p.status w stored)
  stamped : storedTime policy' = some p.time
  fresh : ∀ last, storedTime stored = some last → p.time ≤ last + w →
    (p.status w stored).stale = false ∧ (StatusReady (p.status w stored) ↔ (p.gates w stored).othersPass = true)
  lapsed : (storedTime stored = none ∨ ∃ last, storedTime stored = some last ∧ last + w < p.time) →
    (p.status w stored).stale = true ∧ ¬ StatusReady (p.status w stored)

theorem statusReady_iff (w : Nat) (stored : SentinellaHubActionPolicy) (p : PassInput) :
    StatusReady (p.status w stored) ↔
      (p.gates w stored).othersPass = true ∧ policyStatusIsStale (storedTime stored) p.time w = false := by
  rw [PassInput.status, statusReady_buildPolicyStatus, PolicyGates.ready_eq, Bool.and_eq_true, Bool.not_eq_true']
  rfl

theorem passFreshness_of_step {w : Nat} {stored policy' : SentinellaHubActionPolicy} {p : PassInput}
    (h : PassStep w stored p policy') : PassFreshness w stored p policy' := by
  have hw := h.eq_published
  refine ⟨hw, by rw [hw]; rfl, fun last hlast hle => ?_, fun hlapsed => ?_⟩
  · have hfresh : policyStatusIsStale (storedTime stored) p.time w = false :=
      policyStatusIsStale_eq_false.2 ⟨last, hlast, hle⟩
    refine ⟨hfresh, ?_⟩
    rw [statusReady_iff]
    exact and_iff_left hfresh
  · have hstale : policyStatusIsStale (storedTime stored) p.time w = true := by
      refine Bool.not_eq_false _ ▸ fun hfresh => ?_
      obtain ⟨last, hlast, hle⟩ := policyStatusIsStale_eq_false.1 hfresh
      rcases hlapsed with hnone | ⟨last', hlast', hlt⟩
      · rw [hnone] at hlast
        cases hlast
      · rw [hlast'] at hlast
        cases hlast
        omega
    refine ⟨hstale, fun hready => ?_⟩
    rw [((statusReady_iff w stored p).1 hready).2] at hstale
    cases hstale

/-! ## The gate between passes -/

/-- **What admits at a time admitted at every earlier one.** -/
theorem statusAdmits_antitone {now now' w : Nat} {policy : SentinellaHubActionPolicy} {name : String}
    {status : PolicyStatus} (hle : now ≤ now') (h : StatusAdmits now' w policy name status) :
    StatusAdmits now w policy name status := by
  obtain ⟨last, hlast, hfresh⟩ := h.fresh
  exact ⟨h.named, h.hasStatus, ⟨last, hlast, hle.trans hfresh⟩, h.ready⟩

theorem selectEffectivePolicy_antitone {policies : List SentinellaHubActionPolicy} {ns kind : String}
    {target : Option String} {rs : Option WorkloadResourcesSpec} {now now' w : Nat} (hle : now ≤ now')
    (h : ∃ e, selectEffectivePolicy policies ns kind target rs now' w = .ok e) :
    ∃ e, selectEffectivePolicy policies ns kind target rs now w = .ok e := by
  obtain ⟨policy, hmem, e, hadm⟩ := selectEffectivePolicy_isOk_iff.1 h
  exact selectEffectivePolicy_isOk_iff.2
    ⟨policy, hmem, e, hadm.isPolicy, statusAdmits_antitone hle hadm.status, hadm.effective, hadm.command⟩

theorem selectClusterActionPolicy_antitone {policies : List SentinellaHubActionPolicy} {kind : String}
    {now now' w : Nat} (hle : now ≤ now') (h : ∃ e, selectClusterActionPolicy policies kind now' w = .ok e) :
    ∃ e, selectClusterActionPolicy policies kind now w = .ok e := by
  obtain ⟨policy, hmem, e, hadm⟩ := selectClusterActionPolicy_isOk_iff.1 h
  exact selectClusterActionPolicy_isOk_iff.2
    ⟨policy, hmem, e, hadm.isPolicy, statusAdmits_antitone hle hadm.status, hadm.command⟩

def NeverAccepted (now w : Nat) (policy : SentinellaHubActionPolicy) : Prop :=
  (∀ ns kind target rs e, selectEffectivePolicy [policy] ns kind target rs now w ≠ .ok e) ∧
    ∀ kind e, selectClusterActionPolicy [policy] kind now w ≠ .ok e

theorem neverAccepted_of_stale {now w : Nat} {policy : SentinellaHubActionPolicy}
    (h : policyStatusIsStale (storedTime policy) now w = true) : NeverAccepted now w policy := by
  have hno : ∀ name status, ¬ StatusAdmits now w policy name status := by
    intro name status hadm
    obtain ⟨last, hlast, hfresh⟩ := hadm.fresh
    have hstored : storedTime policy = some last := by rw [storedTime, hadm.hasStatus, Option.bind_some, hlast]
    rw [hstored, policyStatusIsStale_some.2 hfresh] at h
    cases h
  exact ⟨fun ns kind target rs e hok => hno _ _ (selectEffectivePolicy_singleton.1 hok).status,
    fun kind e hok => hno _ _ (selectClusterActionPolicy_singleton.1 hok).status⟩

/-- **What the gate says of a stored policy as time goes on.** -/
structure GateFreshness (w : Nat) (stored : SentinellaHubActionPolicy) : Prop where
  antitone : ∀ now now', now ≤ now' → ∀ ns kind target rs,
    (∃ e, selectEffectivePolicy [stored] ns kind target rs now' w = .ok e) →
      ∃ e, selectEffectivePolicy [stored] ns kind target rs now w = .ok e
  antitoneCluster : ∀ now now', now ≤ now' → ∀ kind, (∃ e, selectClusterActionPolicy [stored] kind now' w = .ok e) →
    ∃ e, selectClusterActionPolicy [stored] kind now w = .ok e
  staysStale : ∀ now now', now ≤ now' → policyStatusIsStale (storedTime stored) now w = true →
    policyStatusIsStale (storedTime stored) now' w = true ∧ NeverAccepted now' w stored
  expires : ∀ last now, storedTime stored = some last → last + w < now → NeverAccepted now w stored

theorem gateFreshness (w : Nat) (stored : SentinellaHubActionPolicy) : GateFreshness w stored := by
  refine ⟨fun _ _ hle _ _ _ _ h => selectEffectivePolicy_antitone hle h,
    fun _ _ hle _ h => selectClusterActionPolicy_antitone hle h, fun now now' hle h => ?_, fun last now hlast hlt => ?_⟩
  · have hstale := policyStatusIsStale_mono hle h
    exact ⟨hstale, neverAccepted_of_stale hstale⟩
  · refine neverAccepted_of_stale ?_
    rw [hlast]
    exact decide_eq_true (by omega)

/-! ## Every run -/

/-- **Freshness over whole runs**: at every pass of a run the gap to the stored timestamp alone decides staleness, a
pass within the window of the one before is fresh again, and between passes the gate only gets stricter. -/
theorem freshness_over_runs (w : Nat) (policy : SentinellaHubActionPolicy)
    (run : List (PassInput × SentinellaHubActionPolicy)) (hrun : PassRun w policy run) :
    (∀ pre p policy' post, run = pre ++ (p, policy') :: post →
      PassFreshness w (storedAfter policy pre) p policy' ∧
      ∀ p₂ policy₂ post', post = (p₂, policy₂) :: post' → p₂.time ≤ p.time + w →
        (p₂.status w policy').stale = false ∧
        (StatusReady (p₂.status w policy') ↔ (p₂.gates w policy').othersPass = true)) ∧
    ∀ pre post, run = pre ++ post → GateFreshness w (storedAfter policy pre) := by
  refine ⟨?_, fun pre post _ => gateFreshness w _⟩
  rintro pre p policy' post rfl
  obtain ⟨hstep, hnext⟩ := hrun.step_at pre
  have hpass := passFreshness_of_step hstep
  refine ⟨hpass, ?_⟩
  rintro p₂ policy₂ post' rfl hle
  exact (passFreshness_of_step (hnext.step_at []).1).fresh p.time hpass.stamped hle

def calmCluster (policy : SentinellaHubActionPolicy) : PassOracle := fun _ op =>
  match op with
  | .listNamespaces => .ok [namespaceOf "app" [("sentinella.io/action-mode", "true")]]
  | .listPolicies => .ok [policy]
  | .ensure _ => .ok ()
  | .remove _ => .ok ()
  | .patchStatus _ _ => .ok ()

def calmInput (t : Nat) : PassInput :=
  { time := t, namespaces := [namespaceOf "app" [("sentinella.io/action-mode", "true")]]
    excluded := combinedExcludedNamespaces [], binding := outcomeOf [] }

/-- A policy that no pass has seen yet, and what two passes write to it. -/
def newPolicy : SentinellaHubActionPolicy := { limitedPolicy with status := none }

def firstStatus : PolicyStatus := (calmInput 1000).status 180000 newPolicy

def secondStatus : PolicyStatus := (calmInput 61000).status 180000 (published newPolicy firstStatus)

theorem newPolicy_first_pass : PassStep 180000 newPolicy (calmInput 1000) (published newPolicy firstStatus) := by
  refine ⟨calmCluster newPolicy, [newPolicy], "p", firstStatus, rfl, rfl, List.mem_singleton.2 rfl, rfl,
    fun q hq _ => List.mem_singleton.1 hq, by rfl, ?_, rfl⟩
  exact .tail _ (.tail _ (.tail _ (.head _)))

theorem newPolicy_second_pass : PassStep 180000 (published newPolicy firstStatus) (calmInput 61000)
    (published newPolicy secondStatus) := by
  refine ⟨calmCluster (published newPolicy firstStatus), [published newPolicy firstStatus], "p", secondStatus, rfl, rfl,
    List.mem_singleton.2 rfl, rfl, fun q hq _ => List.mem_singleton.1 hq, by rfl, ?_, rfl⟩
  exact .tail _ (.tail _ (.tail _ (.head _)))

/-- A policy without a status is not Ready after its first pass and Ready after its second. -/
theorem freshness_over_runs_recovers : ¬ StatusReady firstStatus ∧ StatusReady secondStatus := by
  have hrun : PassRun 180000 newPolicy [(calmInput 1000, published newPolicy firstStatus),
      (calmInput 61000, published newPolicy secondStatus)] :=
    .pass newPolicy_first_pass (by simp [calmInput]) (.pass newPolicy_second_pass (by simp) (.done _))
  obtain ⟨hpass, hnext⟩ := (freshness_over_runs _ _ _ hrun).1 [] _ _ _ rfl
  refine ⟨(hpass.lapsed (.inl rfl)).2, (hnext _ _ _ rfl (by decide)).2.2 (by decide)⟩

end Operator
end HubAgent
