import HubAgent.Freshness
/-!
# Condition transition times over whole runs

A condition carries the time of its last transition next to the status's own `last_reconciled_at_ms`.  Here a run is any
sequence of passes over one policy whose status patches succeed; between two passes its spec may be edited.  The builder
never looks at the conditions that are stored, so every pass stamps every condition with its own clock
(`PassStep.recordedTime_left`), and the times are right only where nothing can tell two passes apart
(`transitionTimes_iff_oneMoment`).
-/
namespace HubAgent
namespace Operator

/-- One pass: the policy as it was found, what the pass saw, and the policy as it was left. -/
structure StatusPass where
  found : SentinellaHubActionPolicy
  input : PassInput
  left : SentinellaHubActionPolicy

/-- **A run of passes** from a stored status, which only the passes write. -/
inductive StatusRun (w : Nat) : Option PolicyStatus → List StatusPass → Prop
  | done (stored : Option PolicyStatus) : StatusRun w stored []
  | pass {stored : Option PolicyStatus} {x : StatusPass} {rest : List StatusPass} (same : x.found.status = stored)
      (step : PassStep w x.found x.input x.left) (next : StatusRun w x.left.status rest) :
      StatusRun w stored (x :: rest)

def statusAfter (stored : Option PolicyStatus) : List StatusPass → Option PolicyStatus
  | [] => stored
  | x :: rest => statusAfter x.left.status rest

/-! ## Stored conditions -/

def storedCondition (stored : Option PolicyStatus) (type_ : String) : Option PolicyCondition :=
  stored.bind (fun status => status.conditions.find? (fun c => c.type_ == type_))

def conditionStatus (stored : Option PolicyStatus) (type_ : String) : Option String :=
  (storedCondition stored type_).map (·.status)

def recordedTime (stored : Option PolicyStatus) (type_ : String) : Option Nat :=
  (storedCondition stored type_).bind (·.lastTransitionTimeMs)

/-- **The time of the most recent pass at which the status of the condition changed**, or was first written; `time` is
the one recorded before the passes. -/
def transitionTime (type_ : String) : Option PolicyStatus → Option Nat → List StatusPass → Option Nat
  | _, time, [] => time
  | stored, time, x :: rest =>
    transitionTime type_ x.left.status
      (if conditionStatus x.left.status type_ = conditionStatus stored type_ then time else some x.input.time) rest

/-- The conditions as the gates give them. -/
def PolicyGates.values (g : PolicyGates) : List (String × Bool) :=
  [("NamespacesEligible", g.namespacesEligible), ("PolicyMatched", g.policyMatched),
    ("PermissionGranted", g.permissionGranted), ("ActionAllowed", g.actionAllowed),
    ("ResourceAllowed", g.resourceAllowed), ("LimitsSatisfied", g.limitsSatisfied),
    ("ReconciliationError", g.reconciliationError.isSome), ("Stale", g.stale), ("Ready", g.ready)]

def PolicyGates.value (g : PolicyGates) (type_ : String) : Option Bool :=
  (g.values.find? (fun c => c.1 == type_)).map (·.2)

def statusText (isTrue : Bool) : String := if isTrue then "True" else "False"

/-! ## One pass -/

theorem written_values (generation : Option Int) (g : PolicyGates) (t : Nat) :
    (buildPolicyConditions generation g t).map (fun c => (c.type_, c.status)) =
      g.values.map (fun v => (v.1, statusText v.2)) := rfl

theorem conditionStatus_written (policy : SentinellaHubActionPolicy) (p : PassInput) (w : Nat) (type_ : String) :
    conditionStatus (some (p.status w policy)) type_ = ((p.gates w policy).value type_).map statusText := by
  have h := congrArg (fun l => (l.find? (fun c : String × String => c.1 == type_)).map (·.2))
    (written_values policy.metadata.generation (p.gates w policy) p.time)
  simp only [List.find?_map, Option.map_map] at h
  rw [conditionStatus, PolicyGates.value, Option.map_map]
  exact h

theorem stamped_of_mem {policy : SentinellaHubActionPolicy} {p : PassInput} {w : Nat} {c : PolicyCondition}
    (h : c ∈ (p.status w policy).conditions) : c.lastTransitionTimeMs = some p.time := by
  simp only [PassInput.status, buildPolicyStatus, buildPolicyConditions, List.mem_cons, List.not_mem_nil, or_false] at h
  rcases h with rfl | rfl | rfl | rfl | rfl | rfl | rfl | rfl | rfl <;> rfl

theorem PassStep.status_left {w : Nat} {policy policy' : SentinellaHubActionPolicy} {p : PassInput}
    (h : PassStep w policy p policy') : policy'.status = some (p.status w policy) := by
  rw [h.eq_published]
  rfl

/-- **Every condition that a pass leaves carries the clock of that pass.** -/
theorem PassStep.recordedTime_left {w : Nat} {policy policy' : SentinellaHubActionPolicy} {p : PassInput}
    (h : PassStep w policy p policy') {type_ : String} {c : PolicyCondition}
    (hc : storedCondition policy'.status type_ = some c) : c.lastTransitionTimeMs = some p.time := by
  rw [h.status_left, storedCondition, Option.bind_some] at hc
  exact stamped_of_mem (List.mem_of_find?_eq_some hc)

theorem PassStep.conditionStatus_left {w : Nat} {policy policy' : SentinellaHubActionPolicy} {p : PassInput}
    (h : PassStep w policy p policy') (type_ : String) :
    conditionStatus policy'.status type_ = ((p.gates w policy).value type_).map statusText := by
  rw [h.status_left, conditionStatus_written]

/-- `PolicyMatched` is constant. -/
theorem PassStep.policyMatched_left {w : Nat} {policy policy' : SentinellaHubActionPolicy} {p : PassInput}
    (h : PassStep w policy p policy') :
    ∃ c, storedCondition policy'.status "PolicyMatched" = some c ∧ c.status = "True" := by
  have hs := h.conditionStatus_left "PolicyMatched"
  rw [conditionStatus] at hs
  exact Option.map_eq_some_iff.1 hs

theorem PolicyGates.value_isSome (g g' : PolicyGates) (type_ : String) :
    (g.value type_).isSome = (g'.value type_).isSome := by
  have hkeys : g.values.map (·.1) = g'.values.map (·.1) := rfl
  have h := congrArg (fun l => (l.find? (fun c : String => c == type_)).isSome) hkeys
  simp only [List.find?_map, Option.isSome_map] at h
  rw [PolicyGates.value, PolicyGates.value, Option.isSome_map, Option.isSome_map]
  exact h

/-! ## Every run -/

/-- The times are those of the transitions, and a pass that leaves a status as it was leaves its time. -/
structure TransitionTimes (stored : Option PolicyStatus) (run : List StatusPass) : Prop where
  latest : ∀ pre x post, run = pre ++ x :: post → ∀ type_ c, storedCondition x.left.status type_ = some c →
    c.lastTransitionTimeMs = transitionTime type_ stored (recordedTime stored type_) (pre ++ [x])
  kept : ∀ pre x post, run = pre ++ x :: post → ∀ type_ c, storedCondition x.left.status type_ = some c →
    conditionStatus x.left.status type_ = conditionStatus (statusAfter stored pre) type_ →
      c.lastTransitionTimeMs = recordedTime (statusAfter stored pre) type_

/-- Every pass runs at the time of the first, and what the first one finds as it would write it carries that time. -/
def OneMoment (w : Nat) (stored : Option PolicyStatus) : List StatusPass → Prop
  | [] => True
  | x :: rest => (∀ y ∈ rest, y.input.time = x.input.time) ∧
      ∀ type_ isTrue, (x.input.gates w x.found).value type_ = some isTrue →
        conditionStatus stored type_ = some (statusText isTrue) → recordedTime stored type_ = some x.input.time

theorem StatusRun.step_at {w : Nat} : ∀ (pre : List StatusPass) {stored : Option PolicyStatus} {x : StatusPass}
    {post : List StatusPass}, StatusRun w stored (pre ++ x :: post) → PassStep w x.found x.input x.left
  | [], _, _, _, h => by
    cases h with
    | pass _ step _ => exact step
  | _ :: pre, _, _, _, h => by
    cases h with
    | pass _ _ next => exact step_at pre next

/-- Two passes in a row write `PolicyMatched` alike, so only a clock that stands still keeps its time. -/
theorem time_eq_of_kept {w : Nat} : ∀ {run : List StatusPass} {x : StatusPass},
    PassStep w x.found x.input x.left → StatusRun w x.left.status run →
    (∀ pre y post, run = pre ++ y :: post → ∀ type_ c, storedCondition y.left.status type_ = some c →
      conditionStatus y.left.status type_ = conditionStatus (statusAfter x.left.status pre) type_ →
        c.lastTransitionTimeMs = recordedTime (statusAfter x.left.status pre) type_) →
    ∀ y ∈ run, y.input.time = x.input.time
  | [], _, _, _, _ => by simp
  | y :: rest, x, hx, hrun, hkept => by
    cases hrun with
    | pass same hy next =>
      obtain ⟨c, hc, hcs⟩ := hx.policyMatched_left
      obtain ⟨d, hd, hds⟩ := hy.policyMatched_left
      have hsame : conditionStatus y.left.status "PolicyMatched" = conditionStatus x.left.status "PolicyMatched" := by
        rw [conditionStatus, conditionStatus, hc, hd, Option.map_some, Option.map_some, hcs, hds]
      have htime : d.lastTransitionTimeMs = recordedTime x.left.status "PolicyMatched" :=
        hkept [] y rest rfl _ d hd hsame
      rw [hy.recordedTime_left hd, recordedTime, hc, Option.bind_some, hx.recordedTime_left hc,
        Option.some_inj] at htime
      have hrest := time_eq_of_kept hy next (fun pre z post hs => by
        rw [hs] at hkept
        exact hkept (y :: pre) z post rfl)
      intro z hz
      rcases List.mem_cons.1 hz with rfl | hz
      · exact htime
      · rw [hrest z hz, htime]

theorem oneMoment_of_kept {w : Nat} {stored : Option PolicyStatus} {run : List StatusPass}
    (hrun : StatusRun w stored run)
    (h : TransitionTimes stored run) : OneMoment w stored run := by
  cases hrun with
  | done => exact trivial
  | @pass _ x rest same step next =>
    constructor
    · apply time_eq_of_kept step next
      intro pre y post hs
      exact h.kept (x :: pre) y post (by rw [hs]; rfl)
    · intro type_ isTrue hvalue hstored
      have hs := step.conditionStatus_left type_
      rw [hvalue, Option.map_some] at hs
      obtain ⟨c, hc, -⟩ := Option.map_eq_some_iff.1 hs
      have hkept := h.kept [] x rest rfl type_ c hc (hs.trans hstored.symm)
      rw [step.recordedTime_left hc] at hkept
      exact hkept.symm

theorem transitionTime_const {type_ : String} {t : Nat} : ∀ {run : List StatusPass} (stored : Option PolicyStatus),
    (∀ x ∈ run, x.input.time = t) → transitionTime type_ stored (some t) run = some t
  | [], _, _ => rfl
  | x :: rest, stored, h => by
    rw [transitionTime, h x (by simp), ite_self]
    exact transitionTime_const x.left.status (fun y hy => h y (List.mem_cons_of_mem _ hy))

theorem statusAfter_concat (x : StatusPass) : ∀ (pre : List StatusPass) (stored : Option PolicyStatus),
    statusAfter stored (pre ++ [x]) = x.left.status
  | [], _ => rfl
  | y :: pre, _ => statusAfter_concat x pre y.left.status

theorem storedCondition_of_written {w : Nat} {x y : StatusPass} (hx : PassStep w x.found x.input x.left)
    (hy : PassStep w y.found y.input y.left) {type_ : String} {c : PolicyCondition}
    (hc : storedCondition y.left.status type_ = some c) : ∃ d, storedCondition x.left.status type_ = some d := by
  have hsome : (conditionStatus x.left.status type_).isSome = (conditionStatus y.left.status type_).isSome := by
    rw [hx.conditionStatus_left, hy.conditionStatus_left, Option.isSome_map, Option.isSome_map]
    exact PolicyGates.value_isSome _ _ type_
  rw [conditionStatus, conditionStatus, Option.isSome_map, Option.isSome_map, hc] at hsome
  exact Option.isSome_iff_exists.1 hsome

theorem transitionTimes_of_oneMoment {w : Nat} {stored : Option PolicyStatus} {run : List StatusPass}
    (hrun : StatusRun w stored run) (h : OneMoment w stored run) : TransitionTimes stored run := by
  cases run with
  | nil => exact ⟨fun pre x post hs => by simp at hs, fun pre x post hs => by simp at hs⟩
  | cons x rest =>
    obtain ⟨htimes, hfirst⟩ := h
    have hx : PassStep w x.found x.input x.left := StatusRun.step_at [] hrun
    have hall : ∀ y ∈ x :: rest, y.input.time = x.input.time := by
      intro y hy
      rcases List.mem_cons.1 hy with rfl | hy
      · rfl
      · exact htimes y hy
    -- What the first pass does not change is recorded at its time already.
    have hunchanged : ∀ type_ c, storedCondition x.left.status type_ = some c →
        conditionStatus x.left.status type_ = conditionStatus stored type_ →
        recordedTime stored type_ = some x.input.time := by
      intro type_ c hc hsame
      have hs := hx.conditionStatus_left type_
      rw [conditionStatus, hc, Option.map_some] at hs
      obtain ⟨isTrue, hvalue, htext⟩ := Option.map_eq_some_iff.1 hs.symm
      rw [conditionStatus, hc, Option.map_some, ← htext] at hsame
      exact hfirst type_ isTrue hvalue hsame.symm
    constructor
    · intro pre y post hs type_ c hc
      have hy : PassStep w y.found y.input y.left := StatusRun.step_at pre (hs ▸ hrun)
      have htime : y.input.time = x.input.time := hall y (by rw [hs]; simp)
      rw [hy.recordedTime_left hc, htime]
      obtain ⟨d, hd⟩ := storedCondition_of_written hx hy hc
      obtain ⟨more, hmore, hsub⟩ : ∃ more, pre ++ [y] = x :: more ∧ more ⊆ rest := by
        cases pre with
        | nil =>
          cases hs
          exact ⟨[], rfl, by simp⟩
        | cons z pre' =>
          cases hs
          exact ⟨pre' ++ [y], rfl, by simp⟩
      have hacc : (if conditionStatus x.left.status type_ = conditionStatus stored type_ then recordedTime stored type_
          else some x.input.time) = some x.input.time := by
        split_ifs with hsame
        · exact hunchanged type_ d hd hsame
        · rfl
      rw [hmore, transitionTime, hacc]
      exact (transitionTime_const _ (fun z hz => htimes z (hsub hz))).symm
    · intro pre y post hs type_ c hc hsame
      have hy : PassStep w y.found y.input y.left := StatusRun.step_at pre (hs ▸ hrun)
      rw [hy.recordedTime_left hc]
      rcases List.eq_nil_or_concat' pre with rfl | ⟨pre', z, rfl⟩
      · cases hs
        exact (hunchanged type_ c hc hsame).symm
      · have hrun' : StatusRun w stored (pre' ++ z :: (y :: post)) := by
          rw [hs] at hrun
          simpa using hrun
        have hz : PassStep w z.found z.input z.left := StatusRun.step_at pre' hrun'
        obtain ⟨d, hd⟩ := storedCondition_of_written hz hy hc
        rw [statusAfter_concat, recordedTime, hd, Option.bind_some, hz.recordedTime_left hd,
          hall y (by rw [hs]; simp), hall z (by rw [hs]; simp)]

/-- **The transition times of a run are right exactly when the run has one moment.** -/
theorem transitionTimes_iff_oneMoment (w : Nat) (stored : Option PolicyStatus) (run : List StatusPass)
    (hrun : StatusRun w stored run) : TransitionTimes stored run ↔ OneMoment w stored run :=
  ⟨oneMoment_of_kept hrun, transitionTimes_of_oneMoment hrun⟩

def twoPasses : List StatusPass :=
  [⟨newPolicy, calmInput 1000, published newPolicy firstStatus⟩,
    ⟨published newPolicy firstStatus, calmInput 61000, published newPolicy secondStatus⟩]

theorem statusRun_twoPasses : StatusRun 180000 none twoPasses :=
  .pass rfl newPolicy_first_pass (.pass rfl newPolicy_second_pass (.done _))

/-- `PolicyMatched` is `True` at both passes, and the second one moves its time. -/
theorem twoPasses_restamp : StatusRun 180000 none twoPasses ∧ ¬ TransitionTimes none twoPasses := by
  refine ⟨statusRun_twoPasses, fun h => ?_⟩
  obtain ⟨c, hc, -⟩ := newPolicy_second_pass.policyMatched_left
  have hkept := h.kept [⟨newPolicy, calmInput 1000, published newPolicy firstStatus⟩] _ [] rfl "PolicyMatched" c hc rfl
  rw [newPolicy_second_pass.recordedTime_left hc] at hkept
  revert hkept
  decide

def statusAtOnce : PolicyStatus := (calmInput 1000).status 180000 (published newPolicy firstStatus)

def twoPassesAtOnce : List StatusPass :=
  [⟨newPolicy, calmInput 1000, published newPolicy firstStatus⟩,
    ⟨published newPolicy firstStatus, calmInput 1000, published newPolicy statusAtOnce⟩]

theorem transitionTimes_two_passes : TransitionTimes none twoPassesAtOnce := by
  have hsecond : PassStep 180000 (published newPolicy firstStatus) (calmInput 1000)
      (published newPolicy statusAtOnce) := by
    refine ⟨calmCluster (published newPolicy firstStatus), [published newPolicy firstStatus], "p", statusAtOnce, rfl, rfl,
      List.mem_singleton.2 rfl, rfl, fun q hq _ => List.mem_singleton.1 hq, by rfl, ?_, rfl⟩
    exact .tail _ (.tail _ (.tail _ (.head _)))
  have hrun : StatusRun 180000 none twoPassesAtOnce := .pass rfl newPolicy_first_pass (.pass rfl hsecond (.done _))
  refine (transitionTimes_iff_oneMoment 180000 none _ hrun).2 ⟨fun y hy => ?_, fun _ _ _ h => by cases h⟩
  rw [List.mem_singleton.1 hy]

end Operator
end HubAgent
