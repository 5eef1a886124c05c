import HubAgent.Agreement
/-!
# One pass of the operator, call by call

Whatever the callbacks answer, a pass whose two lists succeed makes the same calls in the same order: one `ensure` or
`remove` for every named namespace, then one patch for every named policy.  The answers decide only the binding outcome
that every written status carries (`run_reconcileActionPoliciesWith`).  The counts and the readiness of what is written
are read off that list of calls.
-/
namespace HubAgent
namespace Operator

open Executor
open Interaction

/-! ## The calls of a pass -/

def ensureName : OperatorCall → Option String
  | .ensure name => some name
  | _ => none

def removeName : OperatorCall → Option String
  | .remove name => some name
  | _ => none

def patchOf : OperatorCall → Option (String × PolicyStatus)
  | .patchStatus name status => some (name, status)
  | _ => none

/-- The names `ensure` was called on, in order. -/
def ensured (tr : PassTrace) : List String := (tr.map Event.call).filterMap ensureName

def removed (tr : PassTrace) : List String := (tr.map Event.call).filterMap removeName

def patched (tr : PassTrace) : List (String × PolicyStatus) := (tr.map Event.call).filterMap patchOf

/-- What a failed `ensure` or `remove` leaves in the error list. -/
def bindingErrors : Event OperatorCall OperatorAnswer → List String
  | ⟨.ensure _, answer⟩ => errorText answer
  | ⟨.remove _, answer⟩ => errorText answer
  | _ => []

/-- The outcome `reconcile_action_role_bindings_with` makes of the errors. -/
def outcomeOf (errors : List String) : BindingReconcileOutcome :=
  { permissionGranted := errors.isEmpty
    reconciliationError := if errors = [] then none else some ("; ".intercalate errors) }

def bindingOutcome (tr : PassTrace) : BindingReconcileOutcome := outcomeOf (tr.flatMap bindingErrors)

def bindingCall (excluded : Finset String) (ns : Namespace) : Option OperatorCall :=
  ns.metadata.name.map (fun name =>
    if !namespaceIsExcluded name excluded && namespaceActionModeEnabled ns then .ensure name else .remove name)

def writtenStatus (namespaces : List Namespace) (excluded : Finset String) (binding : BindingReconcileOutcome)
    (t w : Nat) (policy : SentinellaHubActionPolicy) : Option (String × PolicyStatus) :=
  policy.metadata.name.map (fun name => (name, buildPolicyStatus policy namespaces excluded binding t w))

/-- **The binding loop**: one call for every named namespace, and an error for every one that failed. -/
theorem run_reconcileBindings (o : PassOracle) (excluded : Finset String) :
    ∀ (namespaces : List Namespace) (errors : List String) (tr : PassTrace), ∃ evs : PassTrace,
      (reconcileBindings excluded namespaces errors).run o tr =
        (some (errors ++ evs.flatMap bindingErrors), tr ++ evs) ∧
      evs.map Event.call = namespaces.filterMap (bindingCall excluded)
  | [], errors, tr => ⟨[], by simp [reconcileBindings, Prog.run, pure], rfl⟩
  | ns :: rest, errors, tr => by
    rw [List.filterMap_cons, bindingCall, reconcileBindings]
    split
    · rename_i hn
      rw [hn]
      exact run_reconcileBindings o excluded rest errors tr
    rename_i name hn
    rw [hn]
    simp only [Option.map_some]
    split
    · obtain ⟨evs, hrun, hcalls⟩ := run_reconcileBindings o excluded rest
        (errors ++ errorText (o tr (.ensure name))) (tr ++ [⟨.ensure name, o tr (.ensure name)⟩])
      refine ⟨⟨.ensure name, o tr (.ensure name)⟩ :: evs, ?_, by rw [List.map_cons, hcalls]⟩
      rw [run_ask_bind, hrun]
      simp [bindingErrors]
    · obtain ⟨evs, hrun, hcalls⟩ := run_reconcileBindings o excluded rest
        (errors ++ errorText (o tr (.remove name))) (tr ++ [⟨.remove name, o tr (.remove name)⟩])
      refine ⟨⟨.remove name, o tr (.remove name)⟩ :: evs, ?_, by rw [List.map_cons, hcalls]⟩
      rw [run_ask_bind, hrun]
      simp [bindingErrors]

theorem run_reconcileActionRoleBindingsWith (o : PassOracle) (excluded : Finset String) (namespaces : List Namespace)
    (tr : PassTrace) : ∃ evs : PassTrace,
      (reconcileActionRoleBindingsWith namespaces excluded).run o tr =
        (some (outcomeOf (evs.flatMap bindingErrors)), tr ++ evs) ∧
      evs.map Event.call = namespaces.filterMap (bindingCall excluded) := by
  obtain ⟨evs, hrun, hcalls⟩ := run_reconcileBindings o excluded namespaces [] tr
  refine ⟨evs, ?_, hcalls⟩
  rw [reconcileActionRoleBindingsWith, run_bind o _ _ hrun]
  rfl

/-- **The status loop**: one patch for every named policy, whatever the patches before it answered. -/
theorem run_patchStatuses (o : PassOracle) (namespaces : List Namespace) (excluded : Finset String)
    (binding : BindingReconcileOutcome) (t w : Nat) :
    ∀ (policies : List SentinellaHubActionPolicy) (tr : PassTrace), ∃ evs : PassTrace,
      (patchStatuses namespaces excluded binding t w policies).run o tr = (some (), tr ++ evs) ∧
      evs.map Event.call = (policies.filterMap (writtenStatus namespaces excluded binding t w)).map
        (fun p => .patchStatus p.1 p.2)
  | [], tr => ⟨[], by simp [patchStatuses, Prog.run, pure], rfl⟩
  | policy :: rest, tr => by
    rw [List.filterMap_cons, writtenStatus, patchStatuses]
    split
    · rename_i hn
      rw [hn]
      exact run_patchStatuses o namespaces excluded binding t w rest tr
    rename_i name hn
    rw [hn]
    obtain ⟨evs, hrun, hcalls⟩ := run_patchStatuses o namespaces excluded binding t w rest
      (tr ++ [⟨.patchStatus name (buildPolicyStatus policy namespaces excluded binding t w), o tr _⟩])
    refine ⟨⟨.patchStatus name (buildPolicyStatus policy namespaces excluded binding t w), o tr _⟩ :: evs, ?_, ?_⟩
    · rw [run_ask_bind, hrun]
      simp
    · simp only [Option.map_some, List.map_cons, hcalls]

/-- **The whole pass**: when both lists are answered, it runs to its end and makes exactly these calls. -/
theorem run_reconcileActionPoliciesWith (o : PassOracle) (t w : Nat) (excluded : Finset String)
    {namespaces : List Namespace} {policies : List SentinellaHubActionPolicy}
    (hns : o [] .listNamespaces = .ok namespaces)
    (hpol : o [⟨.listNamespaces, .ok namespaces⟩] .listPolicies = .ok policies) :
    ∃ bevs pevs : PassTrace, (reconcileActionPoliciesWith t w excluded).run o [] =
        (some (.ok ()), [⟨.listNamespaces, .ok namespaces⟩, ⟨.listPolicies, .ok policies⟩] ++ bevs ++ pevs) ∧
      bevs.map Event.call = namespaces.filterMap (bindingCall excluded) ∧
      pevs.map Event.call = (policies.filterMap (writtenStatus namespaces excluded
        (outcomeOf (bevs.flatMap bindingErrors)) t w)).map (fun p => .patchStatus p.1 p.2) := by
  obtain ⟨bevs, hb, hbcalls⟩ := run_reconcileActionRoleBindingsWith o excluded namespaces
    [⟨.listNamespaces, .ok namespaces⟩, ⟨.listPolicies, .ok policies⟩]
  obtain ⟨pevs, hp, hpcalls⟩ := run_patchStatuses o namespaces excluded (outcomeOf (bevs.flatMap bindingErrors)) t w
    policies ([⟨.listNamespaces, .ok namespaces⟩, ⟨.listPolicies, .ok policies⟩] ++ bevs)
  refine ⟨bevs, pevs, ?_, hbcalls, hpcalls⟩
  rw [reconcileActionPoliciesWith, run_ask_bind, hns]
  dsimp only
  rw [List.nil_append, run_ask_bind, hpol]
  dsimp only
  rw [List.singleton_append, run_bind o _ _ hb, run_bind o _ _ hp]
  rfl

/-! ## Which names are bound and which are not -/

def listedNames (namespaces : List Namespace) : List String := namespaces.filterMap (fun ns => ns.metadata.name)

theorem ensureName_bindingCall (excluded : Finset String) (ns : Namespace) :
    (bindingCall excluded ns).bind ensureName = effectiveName excluded ns := by
  unfold bindingCall effectiveName
  cases ns.metadata.name with
  | none => rfl
  | some name =>
    dsimp only [Option.map_some, Option.bind_some]
    split <;> rfl

/-- Every named namespace is bound or unbound, and not both. -/
theorem bound_unbound_perm (excluded : Finset String) : ∀ (namespaces : List Namespace),
    ((namespaces.filterMap (bindingCall excluded)).filterMap ensureName ++
      (namespaces.filterMap (bindingCall excluded)).filterMap removeName).Perm (listedNames namespaces)
  | [] => List.Perm.refl _
  | ns :: rest => by
    have ih := bound_unbound_perm excluded rest
    unfold listedNames at ih ⊢
    rw [List.filterMap_cons, List.filterMap_cons, bindingCall]
    cases ns.metadata.name with
    | none => exact ih
    | some name =>
      simp only [Option.map_some]
      split
      · exact ih.cons name
      · exact List.perm_middle.trans (ih.cons name)

theorem mem_bound_iff {namespaces : List Namespace} {excluded : Finset String} {name : String} :
    name ∈ (namespaces.filterMap (bindingCall excluded)).filterMap ensureName ↔
      name ∈ effectiveNamespaces namespaces excluded := by
  rw [List.filterMap_filterMap, effectiveNamespaces, List.mem_insertionSort]
  simp only [ensureName_bindingCall]

theorem bound_unbound_split {namespaces : List Namespace} (excluded : Finset String)
    (hd : (listedNames namespaces).Nodup) :
    ((namespaces.filterMap (bindingCall excluded)).filterMap ensureName).Nodup ∧
    ((namespaces.filterMap (bindingCall excluded)).filterMap removeName).Nodup ∧
    ∀ name, name ∈ (namespaces.filterMap (bindingCall excluded)).filterMap removeName ↔
      name ∈ listedNames namespaces ∧ name ∉ effectiveNamespaces namespaces excluded := by
  have hperm := bound_unbound_perm excluded namespaces
  obtain ⟨h1, h2, hdisj⟩ := List.nodup_append'.1 (hperm.nodup_iff.2 hd)
  refine ⟨h1, h2, fun name => ?_⟩
  rw [← mem_bound_iff, ← hperm.mem_iff, List.mem_append]
  constructor
  · exact fun h => ⟨.inr h, fun h' => hdisj h' h⟩
  · rintro ⟨h | h, hnot⟩
    · exact absurd h hnot
    · exact h

/-! ## What the pass leaves behind -/

structure BindingsSucceeded (tr : PassTrace) : Prop where
  ensures : ∀ name answer, (⟨.ensure name, answer⟩ : Event OperatorCall OperatorAnswer) ∈ tr → answer = .ok ()
  removes : ∀ name answer, (⟨.remove name, answer⟩ : Event OperatorCall OperatorAnswer) ∈ tr → answer = .ok ()

theorem errorText_eq_nil {answer : Except String Unit} (h : errorText answer = []) : answer = .ok () := by
  cases answer with
  | ok u => rfl
  | error e => cases h

theorem bindingsSucceeded_of_no_errors {tr : PassTrace} (h : tr.flatMap bindingErrors = []) : BindingsSucceeded tr := by
  rw [List.flatMap_eq_nil_iff] at h
  exact ⟨fun name answer hmem => errorText_eq_nil (h _ hmem), fun name answer hmem => errorText_eq_nil (h _ hmem)⟩

/-- A status through which one of the gates lets some action pass. -/
def AdmitsActions (status : PolicyStatus) : Prop :=
  ∃ policies e, e.status = status ∧
    ((∃ ns kind target rs now w, selectEffectivePolicy policies ns kind target rs now w = .ok e) ∨
      ∃ kind now w, selectClusterActionPolicy policies kind now w = .ok e)

theorem statusReady_of_admitsActions {policy : SentinellaHubActionPolicy} {namespaces : List Namespace}
    {excluded : Finset String} {binding : BindingReconcileOutcome} {t w : Nat}
    (h : AdmitsActions (buildPolicyStatus policy namespaces excluded binding t w)) :
    StatusReady (buildPolicyStatus policy namespaces excluded binding t w) := by
  obtain ⟨policies, e, he, hgate⟩ := h
  have hstatus : ∃ now w q, StatusAdmits now w q e.name e.status := by
    rcases hgate with ⟨ns, kind, target, rs, now, w', h⟩ | ⟨kind, now, w', h⟩
    · obtain ⟨-, q, -, -, hadm, -⟩ := selectEffectivePolicy_ok_iff.1 h
      exact ⟨now, w', q, hadm.status⟩
    · obtain ⟨-, q, -, -, hadm, -⟩ := selectClusterActionPolicy_ok_iff.1 h
      exact ⟨now, w', q, hadm.status⟩
  obtain ⟨_, _, _, hs⟩ := hstatus
  have hready := conditionTrue_iff.2 hs.ready
  rw [he, conditionTrue_ready] at hready
  exact statusReady_buildPolicyStatus.2 hready

/-- **What one pass does**, whatever its callbacks answer. -/
structure PassReport (namespaces : List Namespace) (policies : List SentinellaHubActionPolicy)
    (excluded : Finset String) (t w : Nat) (tr : PassTrace) : Prop where
  ensuredOnce : ∀ name, (ensured tr).count name = if name ∈ effectiveNamespaces namespaces excluded then 1 else 0
  removedOnce : ∀ name, (removed tr).count name =
    if name ∈ listedNames namespaces ∧ name ∉ effectiveNamespaces namespaces excluded then 1 else 0
  patchedOnce : patched tr = policies.filterMap (writtenStatus namespaces excluded (bindingOutcome tr) t w)
  readyOnlyIfBound : ∀ name status, (name, status) ∈ patched tr → StatusReady status → BindingsSucceeded tr
  admitsOnlyIfBound : ∀ name status, (name, status) ∈ patched tr → AdmitsActions status →
    (∀ ns ∈ effectiveNamespaces namespaces excluded,
      (⟨.ensure ns, .ok ()⟩ : Event OperatorCall OperatorAnswer) ∈ tr) ∧
    ∀ ns ∈ listedNames namespaces, ns ∉ effectiveNamespaces namespaces excluded →
      (⟨.remove ns, .ok ()⟩ : Event OperatorCall OperatorAnswer) ∈ tr

theorem mem_ensured {tr : PassTrace} {name : String} (h : name ∈ ensured tr) :
    ∃ answer, (⟨.ensure name, answer⟩ : Event OperatorCall OperatorAnswer) ∈ tr := by
  obtain ⟨call, hcall, hname⟩ := List.mem_filterMap.1 h
  obtain ⟨⟨op, answer⟩, he, rfl⟩ := List.mem_map.1 hcall
  cases op with
  | ensure n =>
    cases hname
    exact ⟨answer, he⟩
  | _ => cases hname

theorem mem_removed {tr : PassTrace} {name : String} (h : name ∈ removed tr) :
    ∃ answer, (⟨.remove name, answer⟩ : Event OperatorCall OperatorAnswer) ∈ tr := by
  obtain ⟨call, hcall, hname⟩ := List.mem_filterMap.1 h
  obtain ⟨⟨op, answer⟩, he, rfl⟩ := List.mem_map.1 hcall
  cases op with
  | remove n =>
    cases hname
    exact ⟨answer, he⟩
  | _ => cases hname

/-- The patches are neither `ensure` nor `remove`, and nothing but them is a patch. -/
theorem filterMap_patchCalls (written : List (String × PolicyStatus)) :
    (written.map (fun p => OperatorCall.patchStatus p.1 p.2)).filterMap ensureName = [] ∧
    (written.map (fun p => OperatorCall.patchStatus p.1 p.2)).filterMap removeName = [] ∧
    (written.map (fun p => OperatorCall.patchStatus p.1 p.2)).filterMap patchOf = written := by
  refine ⟨?_, ?_, ?_⟩ <;> rw [List.filterMap_map]
  · exact List.filterMap_eq_nil_iff.2 (fun _ _ => rfl)
  · exact List.filterMap_eq_nil_iff.2 (fun _ _ => rfl)
  · exact List.filterMap_some

theorem filterMap_patchOf_bindingCalls (excluded : Finset String) (namespaces : List Namespace) :
    (namespaces.filterMap (bindingCall excluded)).filterMap patchOf = [] := by
  rw [List.filterMap_filterMap]
  refine List.filterMap_eq_nil_iff.2 (fun ns _ => ?_)
  unfold bindingCall
  cases ns.metadata.name with
  | none => rfl
  | some name =>
    dsimp only [Option.map_some, Option.bind_some]
    split <;> rfl

theorem bindingsSucceeded_of_ready {policy : SentinellaHubActionPolicy} {namespaces : List Namespace}
    {excluded : Finset String} {tr : PassTrace} {t w : Nat}
    (h : StatusReady (buildPolicyStatus policy namespaces excluded (bindingOutcome tr) t w)) :
    BindingsSucceeded tr := by
  have hgranted := (readyGates_of_ready (statusReady_buildPolicyStatus.1 h)).granted
  exact bindingsSucceeded_of_no_errors (List.isEmpty_iff.1 hgranted)

theorem bindingErrors_of_patch {e : Event OperatorCall OperatorAnswer} {name : String} {status : PolicyStatus}
    (h : e.call = .patchStatus name status) : bindingErrors e = [] := by
  obtain ⟨op, answer⟩ := e
  cases h
  rfl

theorem trace_reconcileActionPoliciesWith (o : PassOracle) (t w : Nat) (excluded : Finset String)
    {namespaces : List Namespace} {policies : List SentinellaHubActionPolicy}
    (hns : o [] .listNamespaces = .ok namespaces)
    (hpol : o [⟨.listNamespaces, .ok namespaces⟩] .listPolicies = .ok policies) :
    ∃ tr, (reconcileActionPoliciesWith t w excluded).run o [] = (some (.ok ()), tr) ∧
      ensured tr = (namespaces.filterMap (bindingCall excluded)).filterMap ensureName ∧
      removed tr = (namespaces.filterMap (bindingCall excluded)).filterMap removeName ∧
      patched tr = policies.filterMap (writtenStatus namespaces excluded (bindingOutcome tr) t w) := by
  obtain ⟨bevs, pevs, hrun, hb, hp⟩ := run_reconcileActionPoliciesWith o t w excluded hns hpol
  obtain ⟨hpe, hpr, hpp⟩ := filterMap_patchCalls (policies.filterMap (writtenStatus namespaces excluded
    (outcomeOf (bevs.flatMap bindingErrors)) t w))
  -- the patches leave no error, so the errors of the binding loop are those of the whole trace
  have hpatches : pevs.flatMap bindingErrors = [] := by
    refine List.flatMap_eq_nil_iff.2 (fun e he => ?_)
    have hcall : e.call ∈ pevs.map Event.call := List.mem_map_of_mem he
    rw [hp] at hcall
    obtain ⟨p, -, hpe⟩ := List.mem_map.1 hcall
    exact bindingErrors_of_patch hpe.symm
  have herrors : bindingOutcome ([⟨.listNamespaces, .ok namespaces⟩, ⟨.listPolicies, .ok policies⟩] ++ bevs ++ pevs) =
      outcomeOf (bevs.flatMap bindingErrors) := by
    rw [bindingOutcome, List.flatMap_append, List.flatMap_append, hpatches, List.append_nil]
    rfl
  refine ⟨_, hrun, ?_, ?_, ?_⟩
  · rw [ensured, List.map_append, List.map_append, hb, hp, List.filterMap_append, List.filterMap_append, hpe,
      List.append_nil]
    rfl
  · rw [removed, List.map_append, List.map_append, hb, hp, List.filterMap_append, List.filterMap_append, hpr,
      List.append_nil]
    rfl
  · rw [herrors, patched, List.map_append, List.map_append, hb, hp, List.filterMap_append, List.filterMap_append, hpp,
      filterMap_patchOf_bindingCalls, List.append_nil]
    rfl

/-- **One pass**, for every namespace list with distinct names, every exclusion and every way its callbacks answer: it
runs to its end, binds and unbinds each namespace once, patches each policy once, and writes Ready only when no binding
call failed. -/
theorem pass_binds_patches_and_reports (o : PassOracle) (t w : Nat) (excluded : Finset String)
    (namespaces : List Namespace) (policies : List SentinellaHubActionPolicy)
    (hns : o [] .listNamespaces = .ok namespaces)
    (hpol : o [⟨.listNamespaces, .ok namespaces⟩] .listPolicies = .ok policies)
    (hd : (listedNames namespaces).Nodup) :
    ((reconcileActionPoliciesWith t w excluded).run o []).1 = some (.ok ()) ∧
    PassReport namespaces policies excluded t w ((reconcileActionPoliciesWith t w excluded).trace o) := by
  obtain ⟨tr, hrun, hensured, hremoved, hpatched⟩ :=
    trace_reconcileActionPoliciesWith o t w excluded hns hpol
  obtain ⟨hnd1, hnd2, hsplit⟩ := bound_unbound_split excluded hd
  have hwritten : ∀ name status, (name, status) ∈ patched tr →
      ∃ policy, status = buildPolicyStatus policy namespaces excluded (bindingOutcome tr) t w := by
    intro name status hmem
    rw [hpatched] at hmem
    obtain ⟨policy, -, hw⟩ := List.mem_filterMap.1 hmem
    obtain ⟨n, -, hw⟩ := Option.map_eq_some_iff.1 hw
    cases hw
    exact ⟨policy, rfl⟩
  have hready : ∀ name status, (name, status) ∈ patched tr → StatusReady status → BindingsSucceeded tr := by
    intro name status hmem hr
    obtain ⟨policy, rfl⟩ := hwritten name status hmem
    exact bindingsSucceeded_of_ready hr
  rw [Prog.trace, hrun]
  refine ⟨rfl, ⟨fun name => ?_, fun name => ?_, hpatched, hready, ?_⟩⟩
  · rw [hensured, hnd1.count]
    simp only [mem_bound_iff]
  · rw [hremoved, hnd2.count]
    simp only [hsplit]
  · intro name status hmem hadm
    obtain ⟨policy, rfl⟩ := hwritten name status hmem
    have hok := hready name _ hmem (statusReady_of_admitsActions hadm)
    refine ⟨fun ns hns => ?_, fun ns hns hnot => ?_⟩
    · obtain ⟨answer, hev⟩ := mem_ensured (hensured ▸ mem_bound_iff.2 hns)
      rwa [hok.ensures ns answer hev] at hev
    · obtain ⟨answer, hev⟩ := mem_removed (hremoved ▸ (hsplit ns).2 ⟨hns, hnot⟩)
      rwa [hok.removes ns answer hev] at hev

/-- A cluster with one namespace opted in and one not, where nothing can be revoked. -/
def stuckRevocations : PassOracle := fun _ op =>
  match op with
  | .listNamespaces => .ok [namespaceOf "app" [("sentinella.io/action-mode", "true")], namespaceOf "dev" []]
  | .listPolicies => .ok [limitedPolicy]
  | .ensure _ => .ok ()
  | .remove _ => .error "forbidden"
  | .patchStatus _ _ => .ok ()

/-- There the pass still writes its status, and that status admits nothing. -/
theorem pass_with_stuck_revocation_admits_nothing :
    ∃ status, patched ((reconcileActionPoliciesWith 60000 180000 (combinedExcludedNamespaces [])).trace
        stuckRevocations) = [("p", status)] ∧ ¬ StatusReady status := by
  have hreport := (pass_binds_patches_and_reports stuckRevocations 60000 180000 (combinedExcludedNamespaces [])
    [namespaceOf "app" [("sentinella.io/action-mode", "true")], namespaceOf "dev" []] [limitedPolicy] rfl rfl
    (by decide)).2
  have hpatched : ∃ status, patched ((reconcileActionPoliciesWith 60000 180000 (combinedExcludedNamespaces [])).trace
      stuckRevocations) = [("p", status)] := ⟨_, rfl⟩
  have hfailed : (⟨.remove "dev", .error "forbidden"⟩ : Event OperatorCall OperatorAnswer) ∈
      (reconcileActionPoliciesWith 60000 180000 (combinedExcludedNamespaces [])).trace stuckRevocations :=
    .tail _ (.tail _ (.tail _ (.head _)))
  obtain ⟨status, hstatus⟩ := hpatched
  refine ⟨status, hstatus, fun hready => ?_⟩
  have hwritten : ("p", status) ∈ patched ((reconcileActionPoliciesWith 60000 180000
      (combinedExcludedNamespaces [])).trace stuckRevocations) := by
    rw [hstatus]
    exact List.mem_singleton.2 rfl
  cases (hreport.readyOnlyIfBound "p" status hwritten hready).removes _ _ hfailed

end Operator
end HubAgent
