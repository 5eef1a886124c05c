import HubAgent.OptOut
import HubAgent.LifecycleSpec
/-!
# How long a label can be outlived

With a clock for all three parties, a pass stamps its statuses with the moment it started at, before it listed the
namespaces, and the gate of a command refuses a status that is older than `staleAfterMs`.  So whatever edits, passes and
commands interleave, and though a status can outlive the label it was copied from, a live change is only let through by
a gate that read the clock at most that long after a moment at which the namespace carried the label
(`opt_out_outlived_boundedly`), and never for a namespace that the built-in exclusions protect
(`protected_namespaces_unchanged`).
-/
namespace HubAgent
namespace Cluster

open Interaction
open Transition (Steps Recorded)
open Operator
open Executor

/-! ## The clock -/

structure Timed where
  now : Nat
  state : State

inductive TimedEvent where
  | tick
  | step (e : ClusterEvent)

/-- A pass is started with the time it is and the operator's exclusions, and a command that asks for the time is told
it. -/
structure ReadsClock (now : Nat) (s s' : State) : Prop where
  passes : ∀ pass ∈ s'.passes, pass ∈ s.passes ∨ pass.trace ≠ [] ∨
    ∃ w extra, pass = ⟨reconcileActionPoliciesWith now w (combinedExcludedNamespaces extra), []⟩
  commands : ∀ c ∈ s'.commands, c ∈ s.commands ∨ ∀ tr n, c.trace = tr ++ [⟨.nowMs, n⟩] → n = now

/-- **One step of a party, or of the clock.** -/
inductive TimedStep : Timed → TimedEvent → Timed → Prop
  | tick (c : Timed) {now : Nat} (later : c.now ≤ now) : TimedStep c .tick { c with now }
  | step {c : Timed} {e : ClusterEvent} {s' : State} (step : ClusterStep c.state e s')
      (clock : ReadsClock c.now c.state s') : TimedStep c (.step e) ⟨c.now, s'⟩

/-! ## Moments of a run -/

section Moments

/-- The steps of a run, each with the state that it leads to. -/
abbrev History := List (TimedEvent × Timed)

variable {c₀ c : Timed} {es : History} {name : String} {t : Nat}

/-- A state that this run went through. -/
def Moment (c₀ : Timed) (es : History) (c : Timed) : Prop := Transition.Visited c₀ es c

theorem Moment.later {es' : History} (h : Moment c₀ es c) (hes : es <+: es') : Moment c₀ es' c :=
  Transition.Visited.later h hes

/-- The namespace carried the label at a moment at or after `t`. -/
def LabelledSince (c₀ : Timed) (es : History) (t : Nat) (name : String) : Prop :=
  ∃ c₁, Moment c₀ es c₁ ∧ t ≤ c₁.now ∧ Labelled c₁.state.namespaces name

/-- **A status vouches for a namespace**: it carried the label when the status was made or later, and the operator's
exclusions let it pass. -/
structure Vouched (c₀ : Timed) (es : History) (t : Nat) (name : String) : Prop where
  labelled : LabelledSince c₀ es t name
  eligible : ∃ extra, namespaceIsExcluded name (combinedExcludedNamespaces extra) = false

theorem LabelledSince.later {es' : History} (h : LabelledSince c₀ es t name) (hes : es <+: es') :
    LabelledSince c₀ es' t name := by
  obtain ⟨c₁, hmoment, ht, hl⟩ := h
  exact ⟨c₁, hmoment.later hes, ht, hl⟩

theorem Vouched.later {es' : History} (h : Vouched c₀ es t name) (hes : es <+: es') : Vouched c₀ es' t name :=
  ⟨h.labelled.later hes, h.eligible⟩

end Moments

/-! ## What a pass writes -/

/-- A status that is written bears the time the pass was started at, and lists only namespaces that the pass listed with
the label and that its exclusions let pass. -/
def WritesStamped (t : Nat) (excluded : Finset String) (tr : PassTrace) (op : OperatorCall) : Prop :=
  ∀ name status, op = .patchStatus name status → status.lastReconciledAtMs = some t ∧ ∃ namespaces,
    (⟨.listNamespaces, .ok namespaces⟩ : Event OperatorCall OperatorAnswer) ∈ tr ∧
    ∀ ns ∈ status.effectiveNamespaces, Labelled namespaces ns ∧ namespaceIsExcluded ns excluded = false

section Pass

variable {t w : Nat} {excluded : Finset String}

theorem reconcileBindings_stamped : ∀ (namespaces : List Namespace) (errors : List String) (tr : PassTrace),
    (reconcileBindings excluded namespaces errors).Meets (WritesStamped t excluded) (fun _ _ => True) tr
  | [], _, _ => trivial
  | ns :: rest, errors, tr => by
    rw [reconcileBindings]
    split
    · exact reconcileBindings_stamped rest errors tr
    split
    · exact (meets_ask_bind _ _).2 ⟨fun _ _ h => (by cases h), fun x => reconcileBindings_stamped rest _ _⟩
    · exact (meets_ask_bind _ _).2 ⟨fun _ _ h => (by cases h), fun x => reconcileBindings_stamped rest _ _⟩

theorem patchStatuses_stamped {namespaces : List Namespace} {binding : BindingReconcileOutcome} :
    ∀ (policies : List SentinellaHubActionPolicy) (tr : PassTrace),
      (⟨.listNamespaces, .ok namespaces⟩ : Event OperatorCall OperatorAnswer) ∈ tr →
      (patchStatuses namespaces excluded binding t w policies).Meets (WritesStamped t excluded) (fun _ _ => True) tr
  | [], _, _ => trivial
  | policy :: rest, tr, hmem => by
    rw [patchStatuses]
    split
    · exact patchStatuses_stamped rest tr hmem
    refine (meets_ask_bind _ _).2 ⟨fun name status h => ?_, fun x =>
      patchStatuses_stamped rest _ (List.mem_append_left _ hmem)⟩
    cases h
    refine ⟨rfl, namespaces, hmem, fun name hname => ?_⟩
    obtain ⟨ns, hns, hopt⟩ := mem_effectiveNamespaces.1 hname
    exact ⟨⟨ns, hns, hopt.named, hopt.labelled⟩, hopt.notExcluded⟩

theorem reconcileActionPoliciesWith_stamped (t w : Nat) (excluded : Finset String) :
    (reconcileActionPoliciesWith t w excluded).Meets (WritesStamped t excluded) (fun _ _ => True) [] := by
  refine (meets_ask_bind _ _).2 ⟨fun _ _ h => (by cases h), fun namespaces => ?_⟩
  cases namespaces with
  | error e => exact trivial
  | ok namespaces =>
    refine (meets_ask_bind _ _).2 ⟨fun _ _ h => (by cases h), fun policies => ?_⟩
    cases policies with
    | error e => exact trivial
    | ok policies =>
      have hbound : (reconcileActionRoleBindingsWith namespaces excluded).Meets (WritesStamped t excluded)
          (fun _ _ => True) [⟨.listNamespaces, .ok namespaces⟩, ⟨.listPolicies, .ok policies⟩] :=
        (reconcileBindings_stamped namespaces [] _).bind (fun _ _ _ => trivial)
      refine hbound.grows.bind (fun binding tr htr => ?_)
      have hmem : (⟨.listNamespaces, .ok namespaces⟩ : Event OperatorCall OperatorAnswer) ∈ tr :=
        htr.2.subset List.mem_cons_self
      exact (patchStatuses_stamped policies tr hmem).bind (fun _ _ _ => trivial)

end Pass

/-! ## The invariant -/

/-- **A pass under way**: what it has listed carried the label after its start, and it will write nothing else. -/
structure PassStamped (c₀ : Timed) (es : History) (now t : Nat) (excluded : Finset String)
    (pass : PassInFlight) : Prop where
  started : t ≤ now
  writes : pass.prog.Meets (WritesStamped t excluded) (fun _ _ => True) pass.trace
  listed : ∀ namespaces, (⟨.listNamespaces, .ok namespaces⟩ : Event OperatorCall OperatorAnswer) ∈ pass.trace →
    ∀ name, Labelled namespaces name → LabelledSince c₀ es t name

/-- **A command under way**: what it has listed is vouched for, and the times it was told were moments of the run. -/
structure CommandStamped (c₀ : Timed) (es : History) (c : CommandInFlight) : Prop where
  guarded : c.prog.Meets (Guarded c.cfg c.cmd) (fun _ _ => True) c.trace
  listed : ∀ items, (⟨.listActionPolicies, .ok items⟩ : ApiEvent) ∈ c.trace → ∀ policy, .ok policy ∈ items →
    ∀ status, policy.status = some status → ∀ last, status.lastReconciledAtMs = some last →
    ∀ name ∈ status.effectiveNamespaces, Vouched c₀ es last name
  told : ∀ n, (⟨.nowMs, n⟩ : ApiEvent) ∈ c.trace → ∃ c₂, Moment c₀ es c₂ ∧ c₂.now = n

/-- What is stored is vouched for. -/
def StatusesVouched (c₀ : Timed) (es : History) (s : State) : Prop :=
  ∀ policy ∈ s.policies, ∀ status, policy.status = some status → ∀ last, status.lastReconciledAtMs = some last →
    ∀ name ∈ status.effectiveNamespaces, Vouched c₀ es last name

structure StampInv (c₀ : Timed) (es : History) (c : Timed) : Prop where
  run : Steps (Recorded TimedStep) c₀ es c
  statuses : StatusesVouched c₀ es c.state
  passes : ∀ pass ∈ c.state.passes, ∃ t extra, PassStamped c₀ es c.now t (combinedExcludedNamespaces extra) pass
  commands : ∀ cmd ∈ c.state.commands, CommandStamped c₀ es cmd

/-- **Nothing is under way, and what is stored is current**, or there is nothing: a cluster no pass has seen is one. -/
structure Fresh (c : Timed) : Prop where
  statuses : StatusesVouched c [] c.state
  passes : c.state.passes = []
  commands : c.state.commands = []

section Invariant

variable {c₀ c : Timed} {es es' : History}

theorem PassStamped.later {now now' t : Nat} {excluded : Finset String} {pass : PassInFlight}
    (h : PassStamped c₀ es now t excluded pass) (hes : es <+: es') (hnow : now ≤ now') :
    PassStamped c₀ es' now' t excluded pass :=
  ⟨h.started.trans hnow, h.writes, fun namespaces hmem name hl => (h.listed namespaces hmem name hl).later hes⟩

theorem CommandStamped.later {cmd : CommandInFlight} (h : CommandStamped c₀ es cmd) (hes : es <+: es') :
    CommandStamped c₀ es' cmd := by
  refine ⟨h.guarded, fun items hmem policy hp status hs last hlast name hname => ?_, fun n hn => ?_⟩
  · exact (h.listed items hmem policy hp status hs last hlast name hname).later hes
  · obtain ⟨c₂, hmoment, hc₂⟩ := h.told n hn
    exact ⟨c₂, hmoment.later hes, hc₂⟩

theorem Fresh.stampInv (h : Fresh c) : StampInv c [] c := by
  refine ⟨.refl, h.statuses, fun pass hp => ?_, fun cmd hc => ?_⟩
  · rw [h.passes] at hp
    cases hp
  · rw [h.commands] at hc
    cases hc

/-- **The frame of a step**: what was there before it stays as it was. -/
theorem StampInv.frame (h : StampInv c₀ es c) {e : TimedEvent} {c' : Timed} (hstep : TimedStep c e c')
    (hnow : c.now ≤ c'.now)
    (hstatuses : ∀ policy ∈ c'.state.policies, ∀ status, policy.status = some status →
      (∃ q ∈ c.state.policies, q.status = some status) ∨ ∀ last, status.lastReconciledAtMs = some last →
        ∀ name ∈ status.effectiveNamespaces, Vouched c₀ (es ++ [(e, c')]) last name)
    (hpasses : ∀ pass ∈ c'.state.passes, pass ∈ c.state.passes ∨
      ∃ t extra, PassStamped c₀ (es ++ [(e, c')]) c'.now t (combinedExcludedNamespaces extra) pass)
    (hcommands : ∀ cmd ∈ c'.state.commands, cmd ∈ c.state.commands ∨ CommandStamped c₀ (es ++ [(e, c')]) cmd) :
    StampInv c₀ (es ++ [(e, c')]) c' := by
  have hes : es <+: es ++ [(e, c')] := List.prefix_append _ _
  refine ⟨h.run.snoc ⟨hstep, rfl⟩, fun policy hp status hs => ?_, fun pass hp => ?_, fun cmd hc => ?_⟩
  · rcases hstatuses policy hp status hs with ⟨q, hq, hqs⟩ | hnew
    · exact fun last hlast name hname => (h.statuses q hq status hqs last hlast name hname).later hes
    · exact hnew
  · rcases hpasses pass hp with hold | hnew
    · obtain ⟨t, extra, hpass⟩ := h.passes pass hold
      exact ⟨t, extra, hpass.later hes hnow⟩
    · exact hnew
  · rcases hcommands cmd hc with hold | hnew
    · exact (h.commands cmd hold).later hes
    · exact hnew

theorem StampInv.operatorCall (h : StampInv c₀ es c) {i : Nat} {op : OperatorCall}
    {k : OperatorAnswer op → Pass (Except String Unit)} {tr : PassTrace}
    (hat : c.state.passes[i]? = some ⟨.call op k, tr⟩) {stored : Bool} {x : OperatorAnswer op}
    (hx : OperatorMayAnswer c.state stored op x) {c' : Timed} (hc' : c' = ⟨c.now, { c.state with
      policies := policiesAfter stored c.state.policies op, passes := c.state.passes.set i ⟨k x, tr ++ [⟨op, x⟩]⟩ }⟩)
    (hstep : TimedStep c (.step (.operatorCall op)) c') : StampInv c₀ (es ++ [(.step (.operatorCall op), c')]) c' := by
  have hes : es <+: es ++ [(.step (.operatorCall op), c')] := List.prefix_append _ _
  have hnow : Moment c₀ (es ++ [(.step (.operatorCall op), c')]) c :=
    Moment.later h.run.visited hes
  obtain ⟨t, extra, hpass⟩ := h.passes _ (List.mem_of_getElem? hat)
  obtain ⟨hwrite, hnext⟩ := (meets_call op k).1 hpass.writes
  subst hc'
  refine h.frame hstep le_rfl (fun policy hp status hs => ?_) (fun pass hp => ?_) (fun cmd hc => .inl hc)
  · cases op with
    | patchStatus n written =>
      simp only [policiesAfter] at hp
      split at hp
      · obtain ⟨q, hq, rfl⟩ := List.mem_map.1 hp
        split at hs
        · -- the status that is written bears the start of its pass
          cases hs
          obtain ⟨hlast, namespaces, hmem, hl⟩ := hwrite n _ rfl
          refine .inr (fun last hlast' name hname => ?_)
          obtain rfl : t = last := Option.some.inj (hlast.symm.trans hlast')
          exact ⟨(hpass.listed namespaces hmem name (hl name hname).1).later hes, extra, (hl name hname).2⟩
        · exact .inl ⟨q, hq, hs⟩
      · exact .inl ⟨policy, hp, hs⟩
    | _ => exact .inl ⟨policy, hp, hs⟩
  · rcases List.mem_or_eq_of_mem_set hp with hold | rfl
    · exact .inl hold
    · refine .inr ⟨t, extra, hpass.started, hnext x, fun namespaces hmem name hl => ?_⟩
      rcases List.mem_append.1 hmem with hold | hnew
      · exact (hpass.listed namespaces hold name hl).later hes
      · -- a list that has just succeeded is the current one
        cases List.mem_singleton.1 hnew
        have hcur : namespaces = c.state.namespaces := hx
        exact ⟨c, hnow, hpass.started, hcur ▸ hl⟩

theorem StampInv.executorCall (h : StampInv c₀ es c) {i : Nat} {cfg : Config} {cmd : Command}
    {startedWith : List Namespace} {op : ApiCall} {k : Answer op → Exec CommandResult} {tr : ApiTrace}
    (hat : c.state.commands[i]? = some ⟨cfg, cmd, startedWith, .call op k, tr⟩) {x : Answer op}
    (hx : ExecutorMayAnswer c.state op x) {c' : Timed} (hc' : c' = ⟨c.now, { c.state with
      commands := c.state.commands.set i ⟨cfg, cmd, startedWith, k x, tr ++ [⟨op, x⟩]⟩ }⟩)
    (hclock : ReadsClock c.now c.state c'.state)
    (hstep : TimedStep c (.step (.executorCall startedWith op)) c') :
    StampInv c₀ (es ++ [(.step (.executorCall startedWith op), c')]) c' := by
  have hes : es <+: es ++ [(.step (.executorCall startedWith op), c')] := List.prefix_append _ _
  have hnow : Moment c₀ (es ++ [(.step (.executorCall startedWith op), c')]) c :=
    Moment.later h.run.visited hes
  have hcmd := h.commands _ (List.mem_of_getElem? hat)
  obtain ⟨-, hnext⟩ := (meets_call op k).1 hcmd.guarded
  subst hc'
  refine h.frame hstep le_rfl (fun policy hp status hs => .inl ⟨policy, hp, hs⟩) (fun pass hp => .inl hp)
    (fun m hm => ?_)
  rcases hclock.commands m hm with hold | hread
  · exact .inl hold
  rcases List.mem_or_eq_of_mem_set hm with hold | rfl
  · exact .inl hold
  refine .inr ⟨hnext x, fun items hmem policy hp status hs last hlast name hname => ?_, fun n hn => ?_⟩
  · rcases List.mem_append.1 hmem with hold | hnew
    · exact (hcmd.listed items hold policy hp status hs last hlast name hname).later hes
    · cases List.mem_singleton.1 hnew
      have hstored : policy ∈ c.state.policies := hx policy hp
      exact (h.statuses policy hstored status hs last hlast name hname).later hes
  · rcases List.mem_append.1 hn with hold | hnew
    · obtain ⟨c₂, hmoment, hc₂⟩ := hcmd.told n hold
      exact ⟨c₂, hmoment.later hes, hc₂⟩
    · cases List.mem_singleton.1 hnew
      exact ⟨c, hnow, (hread tr n rfl).symm⟩

/-- **Every step keeps the invariant.** -/
theorem stampInv_step (es : History) (c : Timed) (e : TimedEvent × Timed) (c' : Timed) (h : StampInv c₀ es c)
    (hs : Recorded TimedStep c e c') : StampInv c₀ (es ++ [e]) c' := by
  obtain ⟨e, after⟩ := e
  obtain ⟨hs, rfl⟩ := hs
  dsimp only at hs ⊢
  have hsame : ∀ policy ∈ c.state.policies, ∀ status, policy.status = some status →
      (∃ q ∈ c.state.policies, q.status = some status) ∨ ∀ last, status.lastReconciledAtMs = some last →
        ∀ name ∈ status.effectiveNamespaces, Vouched c₀ (es ++ [(e, after)]) last name :=
    fun policy hp status hs => .inl ⟨policy, hp, hs⟩
  cases hs with
  | tick later =>
    exact h.frame (.tick c later) later hsame (fun _ hp => .inl hp) (fun _ hc => .inl hc)
  | step step clock =>
    have hstep := TimedStep.step step clock
    cases step with
    | editNamespaces namespaces => exact h.frame hstep le_rfl hsame (fun _ hp => .inl hp) (fun _ hc => .inl hc)
    | editPolicies policies kept =>
      exact h.frame hstep le_rfl (fun policy hp status hs => .inl (kept policy hp status hs)) (fun _ hp => .inl hp)
        (fun _ hc => .inl hc)
    | startPass t w excluded =>
      refine h.frame hstep le_rfl hsame (fun pass hp => ?_) (fun _ hc => .inl hc)
      rcases clock.passes pass hp with hold | htrace | ⟨w', extra, rfl⟩
      · exact .inl hold
      · rcases List.mem_append.1 hp with hold | hnew
        · exact .inl hold
        · rw [List.mem_singleton.1 hnew] at htrace
          exact absurd rfl htrace
      · refine .inr ⟨c.now, extra, le_rfl, reconcileActionPoliciesWith_stamped _ _ _, fun _ hmem => ?_⟩
        cases hmem
    | operatorCall at_ stored x answered => exact h.operatorCall at_ answered rfl hstep
    | endPass at_ =>
      exact h.frame hstep le_rfl hsame (fun _ hp => .inl (List.mem_of_mem_eraseIdx hp)) (fun _ hc => .inl hc)
    | startCommand env fuel cfg cmd =>
      refine h.frame hstep le_rfl hsame (fun _ hp => .inl hp) (fun m hm => ?_)
      rcases List.mem_append.1 hm with hold | hnew
      · exact .inl hold
      · rw [List.mem_singleton.1 hnew]
        exact .inr ⟨executeInner_meets env fuel cfg cmd, fun _ hmem => (by cases hmem), fun _ hmem => (by cases hmem)⟩
    | executorCall at_ x answered => exact h.executorCall at_ answered rfl clock hstep
    | endCommand at_ =>
      exact h.frame hstep le_rfl hsame (fun _ hp => .inl hp) (fun _ hc => .inl (List.mem_of_mem_eraseIdx hc))

end Invariant

/-! ## What a live change rests on -/

/-- A policy accepted for a live change of a workload either lists its namespace in a status that is fresh by the clock of
the gate, or lets the agent patch its own DaemonSet. -/
theorem acceptedFor_fresh {cfg : Config} {cmd : Command} {now : Nat} {policy : SentinellaHubActionPolicy} {op : ApiCall}
    {name : String} (h : AcceptedFor cfg cmd now policy op) (hop : workloadMutation op = some name) :
    (∃ status last, policy.status = some status ∧ name ∈ status.effectiveNamespaces ∧
      status.lastReconciledAtMs = some last ∧ now ≤ last + cfg.staleAfterMs) ∨
    cmd.kind = "update_agent" ∧
      ∃ patch, op = .patchWorkload .daemonSet updateAgentNamespace updateAgentDaemonset false patch := by
  have hfresh : ∀ {ns target rs e}, Admits ns cmd.kind target rs now cfg.staleAfterMs policy e →
      cmd.kind ≠ "update_agent" → ∃ status last, policy.status = some status ∧ ns ∈ status.effectiveNamespaces ∧
        status.lastReconciledAtMs = some last ∧ now ≤ last + cfg.staleAfterMs := by
    intro ns target rs e hadm hkind
    obtain ⟨last, hlast, hnow⟩ := hadm.status.fresh
    exact ⟨e.status, last, hadm.status.hasStatus, hadm.effective.resolve_right (fun hagent => hkind hagent.1), hlast,
      hnow⟩
  cases h with
  | applyResources spec e k patch kind parsed target admits =>
    cases hop
    exact .inl (hfresh admits (by simp [kind]))
  | rolloutRestart spec e k patch kind parsed target admits =>
    cases hop
    exact .inl (hfresh admits (by simp [kind]))
  | scale spec e kind parsed admits =>
    cases hop
    exact .inl (hfresh admits (by simp [kind]))
  | cordon => cases hop
  | evict => cases hop
  | updateAgent e patch kind admits => exact .inr ⟨kind, patch, rfl⟩

/-- **What vouches for a live change**: the command that makes it read the clock at the moment `gate`, at most
`staleAfterMs` after the moment `labelled`, at which the namespace carried the label, and the exclusions let it pass. -/
structure Backed (c₀ : Timed) (es : History) (cmd : CommandInFlight) (name : String) : Prop where
  bounded : ∃ labelled gate, Moment c₀ es labelled ∧ Moment c₀ es gate ∧
    Labelled labelled.state.namespaces name ∧ (⟨.nowMs, gate.now⟩ : ApiEvent) ∈ cmd.trace ∧
    gate.now ≤ labelled.now + cmd.cfg.staleAfterMs
  eligible : ∃ extra, namespaceIsExcluded name (combinedExcludedNamespaces extra) = false

/-- The step from one state to the next is a call of this command: it goes on with the answer, and all else stays. -/
def CommandInFlight.Makes (cmd : CommandInFlight) (op : ApiCall) (s s' : State) : Prop :=
  ∃ (i : Nat) (k : Answer op → Exec CommandResult) (x : Answer op), s.commands[i]? = some cmd ∧ cmd.prog = .call op k ∧
    s' = { s with commands := s.commands.set i { cmd with prog := k x, trace := cmd.trace ++ [⟨op, x⟩] } }

theorem live_change_backed {c₀ c c' : Timed} {es : History} (h : StampInv c₀ es c)
    {startedWith : List Namespace} {op : ApiCall} (hstep : TimedStep c (.step (.executorCall startedWith op)) c')
    {name : String} (hop : workloadMutation op = some name) :
    ∃ cmd : CommandInFlight, cmd.Makes op c.state c'.state ∧ (Backed c₀ es cmd name ∨ cmd.cmd.kind = "update_agent" ∧
      ∃ patch, op = .patchWorkload .daemonSet updateAgentNamespace updateAgentDaemonset false patch) := by
  cases hstep with
  | step step clock =>
    cases step with
    | @executorCall i cfg cmd startedWith op k tr at_ x answered =>
      have hcmd := h.commands _ (List.mem_of_getElem? at_)
      obtain ⟨hguard, -⟩ := (meets_call op k).1 hcmd.guarded
      obtain ⟨items, now, policy, hlist, hclock, hmem, hacc⟩ :=
        (hguard (mutatesLive_of_workloadMutation hop)).admitted
      refine ⟨_, ⟨i, k, x, at_, rfl, rfl⟩, ?_⟩
      rcases acceptedFor_fresh hacc hop with ⟨status, last, hs, hname, hlast, hnow⟩ | hagent
      · obtain ⟨⟨labelled, hmoment, hlater, hl⟩, heligible⟩ :=
          hcmd.listed items hlist policy hmem status hs last hlast name hname
        obtain ⟨gate, hgate, rfl⟩ := hcmd.told now hclock
        refine .inl ⟨⟨labelled, gate, hmoment, hgate, hl, hclock, ?_⟩, heligible⟩
        exact hnow.trans (Nat.add_le_add_right hlater _)
      · exact .inr hagent

theorem stampInv_before {c₀ c c₂ : Timed} {hist pre post : History} {e : TimedEvent} (hfresh : Fresh c₀)
    (hrun : Steps (Recorded TimedStep) c₀ hist c) (hs : hist = pre ++ (e, c₂) :: post) :
    ∃ c₁, StampInv c₀ pre c₁ ∧ TimedStep c₁ e c₂ := by
  obtain ⟨c₁, _, hpre, hstep, rfl⟩ := hrun.split_at hs
  exact ⟨c₁, hpre.invariant hfresh.stampInv stampInv_step, hstep⟩

/-- **An opt-out is outlived by at most the staleness bound.**  In every run, whatever edits, passes, status writes and
commands interleave: a live change of a workload outside the agent's namespace is a call of a command whose gate read the
clock at most `staleAfterMs` after a state that this run went through, in which the namespace carried the label. -/
theorem opt_out_outlived_boundedly {c₀ c c₂ : Timed} {hist pre post : History} (hfresh : Fresh c₀)
    (hrun : Steps (Recorded TimedStep) c₀ hist c) {startedWith : List Namespace} {op : ApiCall} {name : String}
    (hs : hist = pre ++ (.step (.executorCall startedWith op), c₂) :: post) (hop : workloadMutation op = some name)
    (hname : name ≠ updateAgentNamespace) :
    ∃ c₁, Steps (Recorded TimedStep) c₀ pre c₁ ∧ ∃ cmd : CommandInFlight, cmd.Makes op c₁.state c₂.state ∧
      Backed c₀ pre cmd name := by
  obtain ⟨c₁, hinv, hstep⟩ := stampInv_before hfresh hrun hs
  obtain ⟨cmd, hmakes, hbacked | ⟨-, patch, rfl⟩⟩ := live_change_backed hinv hstep hop
  · exact ⟨c₁, hinv.run, cmd, hmakes, hbacked⟩
  · cases hop
    exact absurd rfl hname

/-- **The cluster's own namespaces are never changed**, whatever labels they are given: in every run, each live change of
a workload is in a namespace that no built-in exclusion matches, but for the agent's update of its own DaemonSet. -/
theorem protected_namespaces_unchanged {c₀ c : Timed} {es : List TimedEvent} (hfresh : Fresh c₀)
    (hrun : Steps TimedStep c₀ es c) {startedWith : List Namespace} {op : ApiCall} {name : String}
    (hmem : .step (.executorCall startedWith op) ∈ es) (hop : workloadMutation op = some name) :
    name ∉ ["kube-system", "kube-public", "kube-node-lease", "sentinella", "tetragon"] ∧
      ¬ "openshift-".toList <+: name.toList ∨
    ∃ patch, op = .patchWorkload .daemonSet updateAgentNamespace updateAgentDaemonset false patch := by
  obtain ⟨hist, rfl, hrecorded⟩ := hrun.recorded
  obtain ⟨⟨_, c₂⟩, hlast, rfl⟩ := List.mem_map.1 hmem
  obtain ⟨pre, post, hs⟩ := List.append_of_mem hlast
  obtain ⟨c₁, hinv, hstep⟩ := stampInv_before hfresh hrecorded hs
  obtain ⟨cmd, -, hbacked | ⟨-, hagent⟩⟩ := live_change_backed hinv hstep hop
  · obtain ⟨extra, hexcl⟩ := hbacked.eligible
    exact .inl (Lifecycle.not_builtin_of_not_excluded hexcl)
  · exact .inr hagent

/-! ### A command that outlives an opt-out -/

theorem timed_command_runs {o : ApiOracle} {policies : List SentinellaHubActionPolicy} {now : Nat}
    (ho : ∀ s : State, s.policies = policies → ∀ tr op, ExecutorMayAnswer s op (o tr op))
    (hclock : ∀ tr, o tr .nowMs = now) (cfg : Config) (cmd : Command) (startedWith : List Namespace)
    (m : Exec CommandResult) : ∀ (tr : ApiTrace) (s : State), s.policies = policies → s.passes = [] →
      s.commands = [⟨cfg, cmd, startedWith, m, tr⟩] → ∃ later s', (m.run o tr).2 = tr ++ later ∧
        Steps TimedStep ⟨now, s⟩ (later.map (fun e => .step (.executorCall startedWith e.call))) ⟨now, s'⟩ := by
  induction m with
  | ret r => exact fun tr s _ _ _ => ⟨[], s, (List.append_nil _).symm, .refl⟩
  | pending => exact fun tr s _ _ _ => ⟨[], s, (List.append_nil _).symm, .refl⟩
  | call op k ih =>
    intro tr s hp hpass hc
    obtain ⟨later, s', hrun, hsteps⟩ := ih (o tr op) (tr ++ [⟨op, o tr op⟩])
      { s with commands := [⟨cfg, cmd, startedWith, k (o tr op), tr ++ [⟨op, o tr op⟩]⟩] } hp hpass rfl
    have hstep : TimedStep ⟨now, s⟩ (.step (.executorCall startedWith op))
        ⟨now, { s with commands := [⟨cfg, cmd, startedWith, k (o tr op), tr ++ [⟨op, o tr op⟩]⟩] }⟩ := by
      have hat : s.commands[0]? = some ⟨cfg, cmd, startedWith, .call op k, tr⟩ := by rw [hc]; rfl
      have hset : s.commands.set 0 ⟨cfg, cmd, startedWith, k (o tr op), tr ++ [⟨op, o tr op⟩]⟩ =
          [⟨cfg, cmd, startedWith, k (o tr op), tr ++ [⟨op, o tr op⟩]⟩] := by rw [hc]; rfl
      refine .step (hset ▸ .executorCall hat (o tr op) (ho s hp tr op)) ⟨fun pass hp' => .inl hp', fun c hc' => .inr ?_⟩
      intro tr' n hn
      rw [List.mem_singleton.1 hc'] at hn
      obtain ⟨rfl, he⟩ := List.append_inj' hn rfl
      cases he
      exact hclock tr
    refine ⟨⟨op, o tr op⟩ :: later, s', ?_, ?_⟩
    · rw [Prog.run, hrun, List.append_assoc]
      rfl
    · rw [List.map_cons]
      exact (Steps.refl.snoc hstep).append hsteps

def soonAfterPass : Timed := ⟨60005, afterPass⟩

theorem afterPass_labelled : Labelled afterPass.namespaces "app" :=
  ⟨_, List.mem_singleton.2 rfl, rfl, by decide⟩

theorem soonAfterPass_fresh : Fresh soonAfterPass := by
  refine ⟨fun policy hp status hs last hlast name hname => ?_, rfl, rfl⟩
  rw [List.mem_singleton.1 hp] at hs
  cases hs
  cases hlast
  have heff : (buildPolicyStatus (readyPolicy 0 ["scale"] ["Deployment"] [])
      [namespaceOf "app" [("sentinella.io/action-mode", "true")]] (combinedExcludedNamespaces []) ⟨true, none⟩ 60000
      180000).effectiveNamespaces = ["app"] := by decide
  rw [heff, List.mem_singleton] at hname
  subst hname
  exact ⟨⟨soonAfterPass, .inl rfl, by decide, afterPass_labelled⟩, [], by decide⟩

/-- `app` opts out. -/
def optedOut : State := { afterPass with namespaces := [namespaceOf "app" [("sentinella.io/action-mode", "false")]] }

theorem outlived_scale_run : ∃ es c, Steps TimedStep soonAfterPass es c ∧
    .step (.executorCall optedOut.namespaces (.patchScale "app" "api" false (scalePatch 3))) ∈ es := by
  have hedit : TimedStep soonAfterPass (.step .editNamespaces) ⟨60005, optedOut⟩ :=
    .step (.editNamespaces _ _) ⟨fun _ hp => .inl hp, fun _ hc => .inl hc⟩
  have hstart : TimedStep ⟨60005, optedOut⟩ (.step (.startCommand (scaleCommand .null)))
      ⟨60005, scaleStarted optedOut⟩ := by
    refine .step (.startCommand _ _ _ _ _) ⟨fun _ hp => .inl hp, fun c hc => .inr fun tr n hn => ?_⟩
    rw [List.mem_singleton.1 hc] at hn
    simp at hn
  obtain ⟨later, s', hext, hsteps⟩ := timed_command_runs (calmOracle_mayAnswer 60005 [scalePolicy]) (fun _ => rfl)
    actingConfig (scaleCommand .null) optedOut.namespaces (executeInner noExternals 0 actingConfig (scaleCommand .null))
    [] (scaleStarted optedOut) rfl rfl rfl
  rw [List.nil_append, ← Prog.trace, scalePolicy_trace] at hext
  rw [← hext] at hsteps
  exact ⟨_, _, ((Steps.refl.snoc hedit).snoc hstart).append hsteps, List.mem_append_right _ (by simp)⟩

/-- The live scale of the namespace that had opted out is backed by the moment before. -/
theorem outlived_scale_is_backed : ∃ pre c₁ c₂, Steps (Recorded TimedStep) soonAfterPass pre c₁ ∧
    ∃ cmd : CommandInFlight, cmd.Makes (.patchScale "app" "api" false (scalePatch 3)) c₁.state c₂ ∧
      Backed soonAfterPass pre cmd "app" := by
  obtain ⟨es, c, hrun, hmem⟩ := outlived_scale_run
  obtain ⟨hist, rfl, hrecorded⟩ := hrun.recorded
  obtain ⟨⟨_, c₂⟩, hlast, rfl⟩ := List.mem_map.1 hmem
  obtain ⟨pre, post, hs⟩ := List.append_of_mem hlast
  obtain ⟨c₁, hpre, hmade⟩ := opt_out_outlived_boundedly soonAfterPass_fresh hrecorded hs rfl (by decide)
  exact ⟨pre, c₁, c₂.state, hpre, hmade⟩

/-- And `app` is not a namespace of the cluster's own. -/
theorem outlived_scale_is_unprotected : "app" ∉ ["kube-system", "kube-public", "kube-node-lease", "sentinella",
      "tetragon"] ∧ ¬ "openshift-".toList <+: "app".toList ∨
    ∃ patch, ApiCall.patchScale "app" "api" false (scalePatch 3) =
      .patchWorkload .daemonSet updateAgentNamespace updateAgentDaemonset false patch := by
  obtain ⟨es, c, hrun, hmem⟩ := outlived_scale_run
  exact protected_namespaces_unchanged soonAfterPass_fresh hrun hmem rfl

end Cluster
end HubAgent
