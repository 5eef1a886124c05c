import HubAgent.Cluster
/-!
# Opting out while the parties run

The executor does not look at the label of its target: it believes the policy status, which is a copy made by the last
pass, and one that a pass under way is about to write is a copy made when that pass began.  So a label taken away can be
outlived by a copy, and a label set late can vouch for a command that was started before it.

`CarefulStep` says which label edits avoid both: none is taken away while a stored status or a pass under way still
counts on it, and none is set while a command for that namespace has yet to list the policies.  In every run of such
steps `OptOutInv` holds, and with it the opt-out.
-/
namespace HubAgent
namespace Cluster

open Interaction
open Transition (Steps)
open Operator
open Executor

/-! ## The condition on edits -/

/-- The namespace a live change of a workload is made in. -/
def workloadMutation : ApiCall → Option String
  | .patchWorkload _ namespace_ _ false _ => some namespace_
  | .patchScale namespace_ _ false _ => some namespace_
  | _ => none

def commandTarget (cmd : Command) : Option String :=
  match cmd.kind with
  | "preview_workload_resources" => (parseSpec Decode.workloadResourcesSpec cmd).toOption.map (·.namespace_)
  | "apply_workload_resources" => (parseSpec Decode.workloadResourcesSpec cmd).toOption.map (·.namespace_)
  | "rollout_restart" => (parseSpec Decode.rolloutRestartSpec cmd).toOption.map (·.target.namespace_)
  | "scale" => (parseSpec Decode.scaleSpec cmd).toOption.map (·.target.namespace_)
  | _ => none

def ListsPoliciesLater (m : Exec CommandResult) : Prop := ¬ m.Avoids (· = .listActionPolicies)

/-- **No copy counts on the label of `name`**: no stored status lists it as effective, and no pass under way has listed
it with the label. -/
structure Withdrawn (s : State) (name : String) : Prop where
  statuses : ∀ policy ∈ s.policies, ∀ status, policy.status = some status → name ∉ status.effectiveNamespaces
  passes : ∀ pass ∈ s.passes, ∀ namespaces,
    (⟨.listNamespaces, .ok namespaces⟩ : Event OperatorCall OperatorAnswer) ∈ pass.trace → ¬ Labelled namespaces name

/-- **No command under way for `name` has yet to list the policies.** -/
def Unasked (s : State) (name : String) : Prop :=
  ∀ c ∈ s.commands, commandTarget c.cmd = some name → ¬ ListsPoliciesLater c.prog

structure CarefulEdit (s s' : State) : Prop where
  optOut : ∀ name, Labelled s.namespaces name → ¬ Labelled s'.namespaces name → Withdrawn s name
  optIn : ∀ name, ¬ Labelled s.namespaces name → Labelled s'.namespaces name → Unasked s name

def CarefulStep (s : State) (e : ClusterEvent) (s' : State) : Prop := ClusterStep s e s' ∧ CarefulEdit s s'

theorem carefulEdit_of_namespaces_eq {s s' : State} (h : s'.namespaces = s.namespaces) : CarefulEdit s s' := by
  refine ⟨fun name hl hnot => ?_, fun name hnot hl => ?_⟩
  · rw [h] at hnot
    exact absurd hl hnot
  · rw [h] at hl
    exact absurd hl hnot

/-! ## What a pass writes -/

/-- A status that is written lists only namespaces that the pass listed with the label. -/
def WritesListed (tr : PassTrace) (op : OperatorCall) : Prop :=
  ∀ name status, op = .patchStatus name status → ∃ namespaces,
    (⟨.listNamespaces, .ok namespaces⟩ : Event OperatorCall OperatorAnswer) ∈ tr ∧
    ∀ ns ∈ status.effectiveNamespaces, Labelled namespaces ns

theorem labelled_of_mem_effectiveNamespaces {namespaces : List Namespace} {excluded : Finset String} {name : String}
    (h : name ∈ effectiveNamespaces namespaces excluded) : Labelled namespaces name := by
  obtain ⟨ns, hns, hopt⟩ := mem_effectiveNamespaces.1 h
  exact ⟨ns, hns, hopt.named, hopt.labelled⟩

theorem reconcileBindings_meets (excluded : Finset String) : ∀ (namespaces : List Namespace) (errors : List String)
    (tr : PassTrace), (reconcileBindings excluded namespaces errors).Meets WritesListed (fun _ _ => True) tr
  | [], _, _ => trivial
  | ns :: rest, errors, tr => by
    rw [reconcileBindings]
    split
    · exact reconcileBindings_meets excluded rest errors tr
    split
    · exact (meets_ask_bind _ _).2 ⟨fun _ _ => nofun, fun x => reconcileBindings_meets excluded rest _ _⟩
    · exact (meets_ask_bind _ _).2 ⟨fun _ _ => nofun, fun x => reconcileBindings_meets excluded rest _ _⟩

theorem patchStatuses_meets (namespaces : List Namespace) (excluded : Finset String)
    (binding : BindingReconcileOutcome) (t w : Nat) : ∀ (policies : List SentinellaHubActionPolicy) (tr : PassTrace),
      (⟨.listNamespaces, .ok namespaces⟩ : Event OperatorCall OperatorAnswer) ∈ tr →
      (patchStatuses namespaces excluded binding t w policies).Meets WritesListed (fun _ _ => True) tr
  | [], _, _ => trivial
  | policy :: rest, tr, hmem => by
    rw [patchStatuses]
    split
    · exact patchStatuses_meets namespaces excluded binding t w rest tr hmem
    refine (meets_ask_bind _ _).2 ⟨fun name status h => ?_, fun x =>
      patchStatuses_meets namespaces excluded binding t w rest _ (List.mem_append_left _ hmem)⟩
    cases h
    exact ⟨namespaces, hmem, fun ns hns => labelled_of_mem_effectiveNamespaces hns⟩

/-- **Every status a pass writes is a copy of what it listed.** -/
theorem reconcileActionPoliciesWith_meets (t w : Nat) (excluded : Finset String) :
    (reconcileActionPoliciesWith t w excluded).Meets WritesListed (fun _ _ => True) [] := by
  refine (meets_ask_bind _ _).2 ⟨fun _ _ => nofun, fun namespaces => ?_⟩
  cases namespaces with
  | error e => exact trivial
  | ok namespaces =>
    refine (meets_ask_bind _ _).2 ⟨fun _ _ => nofun, fun policies => ?_⟩
    cases policies with
    | error e => exact trivial
    | ok policies =>
      have hbound : (reconcileActionRoleBindingsWith namespaces excluded).Meets WritesListed (fun _ _ => True)
          [⟨.listNamespaces, .ok namespaces⟩, ⟨.listPolicies, .ok policies⟩] :=
        (reconcileBindings_meets excluded namespaces [] _).bind (fun _ _ _ => trivial)
      refine hbound.grows.bind (fun binding tr htr => ?_)
      have hmem : (⟨.listNamespaces, .ok namespaces⟩ : Event OperatorCall OperatorAnswer) ∈ tr :=
        htr.2.subset List.mem_cons_self
      exact (patchStatuses_meets namespaces excluded binding t w policies tr hmem).bind (fun _ _ _ => trivial)

/-! ## What a command changes -/

theorem lists_of_admits {ns kind : String} {target : Option String} {rs : Option WorkloadResourcesSpec} {now w : Nat}
    {policy : SentinellaHubActionPolicy} {e : EffectivePolicy} (h : Admits ns kind target rs now w policy e)
    (hkind : kind ≠ "update_agent") : ∃ status, policy.status = some status ∧ ns ∈ status.effectiveNamespaces :=
  ⟨e.status, h.status.hasStatus, h.effective.resolve_right (fun hagent => hkind hagent.1)⟩

/-- A policy accepted for a live change of a workload outside the agent's namespace lists that namespace, and the
command is for it. -/
theorem acceptedFor_effective {cfg : Config} {cmd : Command} {now : Nat} {policy : SentinellaHubActionPolicy}
    {op : ApiCall} {name : String} (h : AcceptedFor cfg cmd now policy op) (hop : workloadMutation op = some name)
    (hname : name ≠ updateAgentNamespace) :
    commandTarget cmd = some name ∧ ∃ status, policy.status = some status ∧ name ∈ status.effectiveNamespaces := by
  cases h with
  | applyResources spec e k patch kind parsed target admits =>
    cases hop
    exact ⟨by simp [commandTarget, kind, parsed, Except.toOption], lists_of_admits admits (by simp [kind])⟩
  | rolloutRestart spec e k patch kind parsed target admits =>
    cases hop
    exact ⟨by simp [commandTarget, kind, parsed, Except.toOption], lists_of_admits admits (by simp [kind])⟩
  | scale spec e kind parsed admits =>
    cases hop
    exact ⟨by simp [commandTarget, kind, parsed, Except.toOption], lists_of_admits admits (by simp [kind])⟩
  | cordon => cases hop
  | evict => cases hop
  | updateAgent =>
    cases hop
    exact absurd rfl hname

theorem mutatesLive_of_workloadMutation {op : ApiCall} {name : String} (h : workloadMutation op = some name) :
    op.mutatesLive = true := by
  unfold workloadMutation at h
  split at h
  · rfl
  · rfl
  · cases h

/-! ## The invariant -/

structure CommandInv (s : State) (c : CommandInFlight) : Prop where
  guarded : c.prog.Meets (Guarded c.cfg c.cmd) (fun _ _ => True) c.trace
  /-- Until it lists the policies, no label was set that it was not started with. -/
  unlisted : ListsPoliciesLater c.prog → ∀ name, commandTarget c.cmd = some name → Labelled s.namespaces name →
    Labelled c.startedWith name
  /-- What it listed counts only on labels it was started with. -/
  listed : ∀ items, (⟨.listActionPolicies, .ok items⟩ : ApiEvent) ∈ c.trace → ∀ policy, .ok policy ∈ items →
    ∀ status, policy.status = some status → ∀ name, commandTarget c.cmd = some name →
    name ∈ status.effectiveNamespaces → Labelled c.startedWith name

/-- **A pass under way** has listed only labels that are still there, and will write no others. -/
structure PassInv (s : State) (pass : PassInFlight) : Prop where
  current : ∀ namespaces,
    (⟨.listNamespaces, .ok namespaces⟩ : Event OperatorCall OperatorAnswer) ∈ pass.trace →
    ∀ name, Labelled namespaces name → Labelled s.namespaces name
  writes : pass.prog.Meets WritesListed (fun _ _ => True) pass.trace

def StatusesCurrent (s : State) : Prop :=
  ∀ policy ∈ s.policies, ∀ status, policy.status = some status → ∀ name ∈ status.effectiveNamespaces,
    Labelled s.namespaces name

/-- **The opt-out is respected**: a live change of a workload outside the agent's namespace is made only by a command
that was started while the namespace carried the label. -/
def OptOutRespected (es : List ClusterEvent) : Prop :=
  ∀ startedWith op name, .executorCall startedWith op ∈ es → workloadMutation op = some name →
    name ≠ updateAgentNamespace → Labelled startedWith name

structure OptOutInv (es : List ClusterEvent) (s : State) : Prop where
  statuses : StatusesCurrent s
  passes : ∀ pass ∈ s.passes, PassInv s pass
  commands : ∀ c ∈ s.commands, CommandInv s c
  respected : OptOutRespected es

/-- A state with nothing under way and statuses that are current; a cluster no pass has seen is one. -/
structure Quiet (s : State) : Prop where
  statuses : StatusesCurrent s
  passes : s.passes = []
  commands : s.commands = []

theorem Quiet.optOutInv {s : State} (h : Quiet s) : OptOutInv [] s := by
  refine ⟨h.statuses, fun pass hp => ?_, fun c hc => ?_, fun _ _ _ hmem => by cases hmem⟩
  · rw [h.passes] at hp
    cases hp
  · rw [h.commands] at hc
    cases hc

theorem OptOutRespected.snoc {es : List ClusterEvent} {e : ClusterEvent} (h : OptOutRespected es)
    (he : ∀ startedWith op name, e = .executorCall startedWith op → workloadMutation op = some name →
      name ≠ updateAgentNamespace → Labelled startedWith name) : OptOutRespected (es ++ [e]) := by
  intro startedWith op name hmem hop hname
  rcases List.mem_append.1 hmem with hold | hnew
  · exact h startedWith op name hold hop hname
  · exact he startedWith op name (List.mem_singleton.1 hnew).symm hop hname

/-! ## Every step keeps it -/

section Steps

variable {es : List ClusterEvent} {s : State}

/-- **The frame of a step**: one that leaves the namespaces alone has only what it adds to answer for. -/
theorem OptOutInv.frame (h : OptOutInv es s) {s' : State} {e : ClusterEvent} (hns : s'.namespaces = s.namespaces)
    (hstatuses : StatusesCurrent s') (hpasses : ∀ pass ∈ s'.passes, pass ∈ s.passes ∨ PassInv s pass)
    (hcommands : ∀ c ∈ s'.commands, c ∈ s.commands ∨ CommandInv s c)
    (he : ∀ startedWith op name, e = .executorCall startedWith op → workloadMutation op = some name →
      name ≠ updateAgentNamespace → Labelled startedWith name) : OptOutInv (es ++ [e]) s' := by
  refine ⟨hstatuses, fun pass hp => ?_, fun c hc => ?_, h.respected.snoc he⟩
  · have hpass : PassInv s pass := (hpasses pass hp).elim (h.passes pass) id
    exact ⟨hns ▸ hpass.current, hpass.writes⟩
  · have hcmd : CommandInv s c := (hcommands c hc).elim (h.commands c) id
    exact ⟨hcmd.guarded, hns ▸ hcmd.unlisted, hcmd.listed⟩

theorem OptOutInv.editNamespaces (h : OptOutInv es s) {namespaces : List Namespace}
    (hc : CarefulEdit s { s with namespaces }) : OptOutInv (es ++ [.editNamespaces]) { s with namespaces } := by
  -- a label that something counts on is not taken away
  have hkeep : ∀ name, Labelled s.namespaces name → ¬ Withdrawn s name → Labelled namespaces name :=
    fun name hl hw => Classical.byContradiction (fun hnot => hw (hc.optOut name hl hnot))
  refine ⟨fun policy hp status hs name hname => ?_, fun pass hp => ?_, fun c hcmd => ?_,
    h.respected.snoc (fun _ _ _ => nofun)⟩
  · exact hkeep name (h.statuses policy hp status hs name hname) (fun hw => hw.statuses policy hp status hs hname)
  · refine ⟨fun listed hmem name hl => ?_, (h.passes pass hp).writes⟩
    exact hkeep name ((h.passes pass hp).current listed hmem name hl) (fun hw => hw.passes pass hp listed hmem hl)
  · refine ⟨(h.commands c hcmd).guarded, fun hlater name ht hl => ?_, (h.commands c hcmd).listed⟩
    by_cases hold : Labelled s.namespaces name
    · exact (h.commands c hcmd).unlisted hlater name ht hold
    · exact absurd hlater (hc.optIn name hold hl c hcmd ht)

theorem statusesCurrent_policiesAfter (h : StatusesCurrent s) {op : OperatorCall} {stored : Bool}
    (hop : ∀ name status, op = .patchStatus name status → ∀ ns ∈ status.effectiveNamespaces,
      Labelled s.namespaces ns) : StatusesCurrent { s with policies := policiesAfter stored s.policies op } := by
  intro policy hp status hs name hname
  cases op with
  | patchStatus n written =>
    simp only [policiesAfter] at hp
    split at hp
    · obtain ⟨q, hq, rfl⟩ := List.mem_map.1 hp
      split at hs
      · cases hs
        exact hop n _ rfl name hname
      · exact h q hq status hs name hname
    · exact h policy hp status hs name hname
  | _ => exact h policy hp status hs name hname

theorem OptOutInv.operatorCall (h : OptOutInv es s) {i : Nat} {op : OperatorCall}
    {k : OperatorAnswer op → Pass (Except String Unit)} {tr : PassTrace}
    (hat : s.passes[i]? = some ⟨.call op k, tr⟩) {stored : Bool} {x : OperatorAnswer op}
    (hx : OperatorMayAnswer s stored op x) :
    OptOutInv (es ++ [.operatorCall op]) { s with
      policies := policiesAfter stored s.policies op, passes := s.passes.set i ⟨k x, tr ++ [⟨op, x⟩]⟩ } := by
  have hpass := h.passes _ (List.mem_of_getElem? hat)
  obtain ⟨hwrite, hnext⟩ := (meets_call op k).1 hpass.writes
  refine h.frame rfl ?_ (fun pass hp => ?_) (fun c hc => .inl hc) (fun _ _ _ => nofun)
  · refine statusesCurrent_policiesAfter (s := s) h.statuses (fun name status hop ns hns => ?_)
    obtain ⟨namespaces, hmem, hl⟩ := hwrite name status hop
    exact hpass.current namespaces hmem ns (hl ns hns)
  · rcases List.mem_or_eq_of_mem_set hp with hold | rfl
    · exact .inl hold
    · refine .inr ⟨fun namespaces hmem name hl => ?_, hnext x⟩
      rcases List.mem_append.1 hmem with hold | hnew
      · exact hpass.current namespaces hold name hl
      · -- a list that has just succeeded is the current one
        cases List.mem_singleton.1 hnew
        have hcur : namespaces = s.namespaces := hx
        exact hcur ▸ hl

theorem OptOutInv.executorCall (h : OptOutInv es s) {i : Nat} {cfg : Config} {cmd : Command}
    {startedWith : List Namespace} {op : ApiCall} {k : Answer op → Exec CommandResult} {tr : ApiTrace}
    (hat : s.commands[i]? = some ⟨cfg, cmd, startedWith, .call op k, tr⟩) {x : Answer op}
    (hx : ExecutorMayAnswer s op x) :
    OptOutInv (es ++ [.executorCall startedWith op])
      { s with commands := s.commands.set i ⟨cfg, cmd, startedWith, k x, tr ++ [⟨op, x⟩]⟩ } := by
  have hcmd := h.commands _ (List.mem_of_getElem? hat)
  obtain ⟨hguard, hnext⟩ := (meets_call op k).1 hcmd.guarded
  refine h.frame rfl h.statuses (fun pass hp => .inl hp) (fun c hc => ?_)
    (fun startedWith' op' name he hop hname => ?_)
  · rcases List.mem_or_eq_of_mem_set hc with hold | rfl
    · exact .inl hold
    · refine .inr ⟨hnext x, fun hlater => hcmd.unlisted (fun hav => hlater (hav.2 x)), fun items hmem => ?_⟩
      rcases List.mem_append.1 hmem with hold | hnew
      · exact hcmd.listed items hold
      · -- the statuses it reads are current, and no label was set since it was started
        cases List.mem_singleton.1 hnew
        intro policy hp status hs name ht hname
        have hstored : policy ∈ s.policies := hx policy hp
        exact hcmd.unlisted (fun hav => hav.1 rfl) name ht (h.statuses policy hstored status hs name hname)
  · cases he
    obtain ⟨items, now, policy, hlist, -, hmem, hacc⟩ :=
      (hguard (mutatesLive_of_workloadMutation hop)).admitted
    obtain ⟨ht, status, hs, hname'⟩ := acceptedFor_effective hacc hop hname
    exact hcmd.listed items hlist policy hmem status hs name ht hname'

/-- **Every careful step keeps the invariant.** -/
theorem optOutInv_step (es : List ClusterEvent) (s : State) (e : ClusterEvent) (s' : State) (h : OptOutInv es s)
    (hs : CarefulStep s e s') : OptOutInv (es ++ [e]) s' := by
  obtain ⟨hstep, hcareful⟩ := hs
  cases hstep with
  | editNamespaces namespaces => exact h.editNamespaces hcareful
  | editPolicies policies kept =>
    refine h.frame rfl (fun policy hp status hs name hname => ?_) (fun _ hp => .inl hp) (fun _ hc => .inl hc)
      (fun _ _ _ => nofun)
    obtain ⟨q, hq, hqs⟩ := kept policy hp status hs
    exact h.statuses q hq status hqs name hname
  | startPass t w excluded =>
    refine h.frame rfl h.statuses (fun pass hp => ?_) (fun _ hc => .inl hc) (fun _ _ _ => nofun)
    rcases List.mem_append.1 hp with hold | hnew
    · exact .inl hold
    · rw [List.mem_singleton.1 hnew]
      exact .inr ⟨fun _ hmem => (by cases hmem), reconcileActionPoliciesWith_meets t w excluded⟩
  | operatorCall at_ stored x answered => exact h.operatorCall at_ answered
  | endPass at_ =>
    exact h.frame rfl h.statuses (fun _ hp => .inl (List.mem_of_mem_eraseIdx hp)) (fun _ hc => .inl hc)
      (fun _ _ _ => nofun)
  | startCommand env fuel cfg cmd =>
    refine h.frame rfl h.statuses (fun _ hp => .inl hp) (fun c hc => ?_) (fun _ _ _ => nofun)
    rcases List.mem_append.1 hc with hold | hnew
    · exact .inl hold
    · rw [List.mem_singleton.1 hnew]
      exact .inr ⟨executeInner_meets env fuel cfg cmd, fun _ _ _ hl => hl, fun _ hmem => (by cases hmem)⟩
  | executorCall at_ x answered => exact h.executorCall at_ answered
  | endCommand at_ =>
    exact h.frame rfl h.statuses (fun _ hp => .inl hp) (fun _ hc => .inl (List.mem_of_mem_eraseIdx hc))
      (fun _ _ _ => nofun)

end Steps

/-- **In every run of careful steps the opt-out is respected**, whatever the interleaving of edits, passes, status
writes and commands. -/
theorem opt_out_respected_in_careful_runs (s₀ : State) (hquiet : Quiet s₀) (es : List ClusterEvent) (s : State)
    (hrun : Steps CarefulStep s₀ es s) : OptOutRespected es :=
  (hrun.invariant hquiet.optOutInv optOutInv_step).respected

/-! ## A run with and without care -/

theorem command_runs (o : ApiOracle) {policies : List SentinellaHubActionPolicy}
    (ho : ∀ s : State, s.policies = policies → ∀ tr op, ExecutorMayAnswer s op (o tr op)) (cfg : Config) (cmd : Command)
    (startedWith : List Namespace) (m : Exec CommandResult) : ∀ (tr : ApiTrace) (s : State), s.policies = policies →
      s.commands = [⟨cfg, cmd, startedWith, m, tr⟩] →
      ∃ later s', (m.run o tr).2 = tr ++ later ∧
        Steps CarefulStep s (later.map (fun e => .executorCall startedWith e.call)) s' := by
  induction m with
  | ret r => exact fun tr s _ _ => ⟨[], s, (List.append_nil _).symm, .refl⟩
  | pending => exact fun tr s _ _ => ⟨[], s, (List.append_nil _).symm, .refl⟩
  | call op k ih =>
    intro tr s hp hc
    obtain ⟨later, s', hrun, hsteps⟩ := ih (o tr op) (tr ++ [⟨op, o tr op⟩])
      { s with commands := [⟨cfg, cmd, startedWith, k (o tr op), tr ++ [⟨op, o tr op⟩]⟩] } hp rfl
    have hstep : CarefulStep s (.executorCall startedWith op)
        { s with commands := [⟨cfg, cmd, startedWith, k (o tr op), tr ++ [⟨op, o tr op⟩]⟩] } := by
      have hat : s.commands[0]? = some ⟨cfg, cmd, startedWith, .call op k, tr⟩ := by rw [hc]; rfl
      have hset : s.commands.set 0 ⟨cfg, cmd, startedWith, k (o tr op), tr ++ [⟨op, o tr op⟩]⟩ =
          [⟨cfg, cmd, startedWith, k (o tr op), tr ++ [⟨op, o tr op⟩]⟩] := by rw [hc]; rfl
      refine ⟨?_, carefulEdit_of_namespaces_eq rfl⟩
      rw [← hset]
      exact .executorCall hat (o tr op) (ho s hp tr op)
    refine ⟨⟨op, o tr op⟩ :: later, s', ?_, ?_⟩
    · rw [Prog.run, hrun, List.append_assoc]
      rfl
    · rw [List.map_cons]
      exact (Steps.refl.snoc hstep).append hsteps

theorem calmOracle_mayAnswer (t : Nat) (policies : List SentinellaHubActionPolicy) (s : State)
    (h : s.policies = policies) (tr : ApiTrace) (op : ApiCall) :
    ExecutorMayAnswer s op (calmOracle t policies tr op) := by
  cases op with
  | listActionPolicies =>
    intro policy hp
    obtain ⟨q, hq, he⟩ := List.mem_map.1 hp
    cases he
    exact h ▸ hq
  | _ => exact trivial

/-- A policy for scales with the status that a pass at the time 60000 wrote while `app` was labelled. -/
def scalePolicy : SentinellaHubActionPolicy :=
  published (readyPolicy 0 ["scale"] ["Deployment"] [])
    (buildPolicyStatus (readyPolicy 0 ["scale"] ["Deployment"] [])
      [namespaceOf "app" [("sentinella.io/action-mode", "true")]] (combinedExcludedNamespaces []) ⟨true, none⟩ 60000
      180000)

def afterPass : State :=
  { namespaces := [namespaceOf "app" [("sentinella.io/action-mode", "true")]], policies := [scalePolicy] }

theorem afterPass_quiet : Quiet afterPass := by
  refine ⟨fun policy hp status hs name hname => ?_, rfl, rfl⟩
  rw [List.mem_singleton.1 hp] at hs
  cases hs
  exact labelled_of_mem_effectiveNamespaces hname

/-- The calls of an executed scale five milliseconds later; the last one is live. -/
theorem scalePolicy_trace : (executeInner noExternals 0 actingConfig (scaleCommand .null)).trace
      (calmOracle 60005 [scalePolicy]) =
    [⟨.listActionPolicies, .ok [.ok scalePolicy]⟩, ⟨.nowMs, (60005 : Nat)⟩,
      ⟨.getWorkload .deployment "app" "api", .ok {}⟩, ⟨.getScale "app" "api", .ok {}⟩, ⟨.nowMs, (60005 : Nat)⟩,
      ⟨.patchScale "app" "api" true (scalePatch 3), .ok {}⟩,
      ⟨.patchScale "app" "api" false (scalePatch 3), .ok {}⟩] := rfl

def scaleStarted (s : State) : State :=
  { s with commands := s.commands ++ [⟨actingConfig, scaleCommand .null, s.namespaces,
      executeInner noExternals 0 actingConfig (scaleCommand .null), []⟩] }

/-- From every state that holds that policy and no command, the scale can be started and makes its live call. -/
theorem scale_runs_live (s : State) (hp : s.policies = [scalePolicy]) (hc : s.commands = []) :
    ∃ es s', Steps CarefulStep s es s' ∧
      .executorCall s.namespaces (.patchScale "app" "api" false (scalePatch 3)) ∈ es := by
  have hstart : CarefulStep s (.startCommand (scaleCommand .null)) (scaleStarted s) :=
    ⟨.startCommand s _ _ _ _, carefulEdit_of_namespaces_eq rfl⟩
  obtain ⟨later, s', hext, hsteps⟩ := command_runs (calmOracle 60005 [scalePolicy]) (calmOracle_mayAnswer 60005 _)
    actingConfig (scaleCommand .null) s.namespaces (executeInner noExternals 0 actingConfig (scaleCommand .null)) []
    (scaleStarted s) hp (by rw [scaleStarted, hc]; rfl)
  rw [List.nil_append, ← Prog.trace, scalePolicy_trace] at hext
  refine ⟨_, s', (Steps.refl.snoc hstart).append hsteps, List.mem_append_right _ ?_⟩
  rw [← hext]
  simp

/-- `app` opts out right after the pass, a scale of a workload in it is started then, and its live patch is made: the
stored status is Ready and fresh and still lists `app`. -/
theorem opt_out_outlived_by_status :
    ¬ ∀ s₀, Quiet s₀ → ∀ es s, Steps ClusterStep s₀ es s → OptOutRespected es := by
  intro h
  obtain ⟨es, s', hsteps, hlive⟩ := scale_runs_live
    { afterPass with namespaces := [namespaceOf "app" [("sentinella.io/action-mode", "false")]] } rfl rfl
  have hedit := Steps.refl.snoc
    (ClusterStep.editNamespaces afterPass [namespaceOf "app" [("sentinella.io/action-mode", "false")]])
  have hrespected := h afterPass afterPass_quiet _ s' (hedit.append (hsteps.mono (fun _ _ _ hs => hs.1)))
  obtain ⟨ns, hns, -, hlabel⟩ := hrespected _ _ "app" (List.mem_append_right _ hlive) rfl (by decide)
  rw [List.mem_singleton.1 hns] at hlabel
  revert hlabel
  decide

/-- Without that edit, and with another namespace opting in, the same scale is respected. -/
theorem opt_out_respected_in_a_scale_run :
    ∃ es s startedWith, Steps CarefulStep afterPass es s ∧
      .executorCall startedWith (.patchScale "app" "api" false (scalePatch 3)) ∈ es ∧ Labelled startedWith "app" := by
  have hlabels : ∀ name, Labelled afterPass.namespaces name → Labelled
      [namespaceOf "app" [("sentinella.io/action-mode", "true")],
        namespaceOf "dev" [("sentinella.io/action-mode", "true")]] name := by
    rintro name ⟨ns, hns, hl⟩
    exact ⟨ns, List.mem_append_left _ hns, hl⟩
  have hedit : CarefulStep afterPass .editNamespaces { afterPass with namespaces :=
      [namespaceOf "app" [("sentinella.io/action-mode", "true")],
        namespaceOf "dev" [("sentinella.io/action-mode", "true")]] } := by
    refine ⟨.editNamespaces _ _, fun name hl hnot => absurd (hlabels name hl) hnot, fun name _ _ c hc => ?_⟩
    cases hc
  obtain ⟨es, s', hsteps, hlive⟩ := scale_runs_live { afterPass with namespaces :=
    [namespaceOf "app" [("sentinella.io/action-mode", "true")],
      namespaceOf "dev" [("sentinella.io/action-mode", "true")]] } rfl rfl
  have hrun := (Steps.refl.snoc hedit).append hsteps
  have hmem := List.mem_append_right ([] ++ [.editNamespaces]) hlive
  exact ⟨_, s', _, hrun, hmem,
    opt_out_respected_in_careful_runs afterPass afterPass_quiet _ s' hrun _ _ "app" hmem rfl (by decide)⟩

end Cluster
end HubAgent
