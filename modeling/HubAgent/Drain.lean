import HubAgent.Lib.Transition
import HubAgent.LiveCalls
/-!
# A drain among the scheduler's placements (`executor.rs`)

A drain lists the pods of its node, then cordons the node, then asks for the eviction of those it listed.  Between the
first two the scheduler may still place a pod on the node, which the drain has not listed and does not evict
(`late_pod_escapes`).  `no_pod_escapes_iff` says that these pods, unless they take the name of a listed one, are all
that escape: in every interleaving of placements and deletions with the calls of the drain.
-/
namespace HubAgent

open Interaction Prog

/-- The calls that tell how far a drain is. -/
def ApiCall.ofDrain : ApiCall → Bool
  | .listPods _ => true
  | .patchNode _ _ _ => true
  | .createEviction _ _ _ => true
  | .instantNow => true
  | _ => false

/-- The calls that follow the eviction loop. -/
def ApiCall.afterEvictions : ApiCall → Bool
  | .patchNode _ _ _ => false
  | .createEviction _ _ _ => false
  | _ => true

namespace Executor

/-! ## Eligible pods -/

/-- A pod that a drain of the node is to evict. -/
structure Eligible (nodeName : String) (force : Bool) (pod : Pod) : Prop where
  onNode : pod.nodeName = some nodeName
  notMirror : podIsMirror pod = false
  notDaemonSet : "DaemonSet" ∉ podOwnerKinds pod
  owned : podOwnerKinds pod ≠ [] ∨ force = true

/-- What an eviction names a pod by. -/
def podKey (pod : Pod) : String × String := (pod.metadata.namespace_.getD "", pod.metadata.name.getD "")

variable {nodeName : String} {force : Bool}

theorem mem_classifyPod_drainable (acc : PodClasses) (pod : Pod) (key : String × String) :
    key ∈ (classifyPod nodeName force acc pod).drainable ↔
      key ∈ acc.drainable ∨ Eligible nodeName force pod ∧ podKey pod = key := by
  unfold classifyPod
  dsimp only
  split_ifs with hnode hmirror hdaemonSet hunowned hforce
  · have hnot : ¬ Eligible nodeName force pod := fun h => hnode h.onNode
    simp [hnot]
  · have hnot : ¬ Eligible nodeName force pod := fun h => by simp [h.notMirror] at hmirror
    simp [hnot]
  · have hnot : ¬ Eligible nodeName force pod := fun h => h.notDaemonSet (List.contains_iff_mem.1 hdaemonSet)
    simp [hnot]
  · have heligible : Eligible nodeName force pod :=
      ⟨not_not.1 hnode, Bool.eq_false_iff.2 hmirror, fun h => hdaemonSet (List.contains_iff_mem.2 h), .inr hforce⟩
    rw [List.mem_append, List.mem_singleton, eq_comm (a := key)]
    exact or_congr_right (and_iff_right heligible).symm
  · have hnot : ¬ Eligible nodeName force pod :=
      fun h => h.owned.elim (fun howned => howned hunowned) (fun hf => hforce hf)
    simp [hnot]
  · have heligible : Eligible nodeName force pod :=
      ⟨not_not.1 hnode, Bool.eq_false_iff.2 hmirror, fun h => hdaemonSet (List.contains_iff_mem.2 h), .inl hunowned⟩
    rw [List.mem_append, List.mem_singleton, eq_comm (a := key)]
    exact or_congr_right (and_iff_right heligible).symm

theorem mem_foldl_classifyPod (key : String × String) : ∀ (pods : List Pod) (acc : PodClasses),
    key ∈ (pods.foldl (classifyPod nodeName force) acc).drainable ↔
      key ∈ acc.drainable ∨ ∃ pod ∈ pods, Eligible nodeName force pod ∧ podKey pod = key
  | [], acc => by simp
  | pod :: pods, acc => by
    rw [List.foldl_cons, mem_foldl_classifyPod key pods, mem_classifyPod_drainable, or_assoc]
    simp

/-- **The drainable pods are the eligible ones of the list**, each by its name. -/
theorem mem_classifyPodsOnNode (pods : List Pod) (key : String × String) :
    key ∈ (classifyPodsOnNode nodeName pods force).drainable ↔
      ∃ pod ∈ pods, Eligible nodeName force pod ∧ podKey pod = key := by
  rw [classifyPodsOnNode, mem_foldl_classifyPod]
  simp

/-! ## The calls of a drain -/

def IsPatchNode (op : ApiCall) : Prop := ∃ name dryRun patch, op = .patchNode name dryRun patch

def IsEvictionOf (key : String × String) (op : ApiCall) : Prop := ∃ eviction, op = .createEviction key.1 key.2 eviction

/-- **What a drain has done when its eviction loop is over**: it listed the pods, cordoned the node, and asked for the
eviction of the drainable pods it had listed, and of no others. -/
structure Drained (nodeName : String) (force : Bool) (listed : List Pod) (pre later : ApiTrace) : Prop where
  pre : ∀ e ∈ pre, e.call.ofDrain = false
  once : ∀ e ∈ later, ¬ IsPatchNode e.call
  requested : ∀ key, key ∈ (classifyPodsOnNode nodeName listed force).drainable ↔ ∃ e ∈ later, IsEvictionOf key e.call

def fieldSelectorOf (nodeName : String) : String := s!"spec.nodeName={nodeName}"

theorem fieldSelectorOf_injective {nodeName name : String} (h : fieldSelectorOf nodeName = fieldSelectorOf name) :
    nodeName = name := by
  have hlist := congrArg String.toList h
  unfold fieldSelectorOf at hlist
  rw [String.toList_append, String.toList_append] at hlist
  exact String.ext (List.append_cancel_left hlist)

def EvictionsDone (nodeName : String) (force : Bool) (tr : ApiTrace) : Prop :=
  ∃ listed node pre later, tr = pre ++ ⟨.listPods (fieldSelectorOf nodeName), .ok listed⟩ ::
      ⟨.patchNode nodeName false cordonPatch, .ok node⟩ :: later ∧
    Drained nodeName force listed pre later

theorem EvictionsDone.append {tr later : ApiTrace} (h : EvictionsDone nodeName force tr)
    (hlater : ∀ e ∈ later, e.call.afterEvictions = true) : EvictionsDone nodeName force (tr ++ later) := by
  obtain ⟨listed, node, pre, mid, rfl, hdrained⟩ := h
  refine ⟨listed, node, pre, mid ++ later, by simp, hdrained.pre, ?_, ?_⟩
  · intro e he
    rcases List.mem_append.1 he with he | he
    · exact hdrained.once e he
    · rintro ⟨name, dryRun, patch, heq⟩
      have hafter := hlater e he
      rw [heq] at hafter
      cases hafter
  · intro key
    rw [hdrained.requested key]
    constructor
    · rintro ⟨e, he, hkey⟩
      exact ⟨e, List.mem_append_left _ he, hkey⟩
    · rintro ⟨e, he, eviction, heq⟩
      rcases List.mem_append.1 he with he | he
      · exact ⟨e, he, eviction, heq⟩
      · have hafter := hlater e he
        rw [heq] at hafter
        cases hafter

/-- The condition on the calls of a drain: its first look at the clock comes when the evictions are done. -/
def ClockAfterEvictions (nodeName : String) (force : Bool) (tr : ApiTrace) (op : ApiCall) : Prop :=
  op = .instantNow → EvictionsDone nodeName force tr

theorem clock_of_not {tr : ApiTrace} {op : ApiCall} (h : op.ofDrain = false) :
    ClockAfterEvictions nodeName force tr op := by
  rintro rfl
  cases h

theorem ofDrain_of_preliminary (op : ApiCall) (h : op.preliminary = true) : op.ofDrain = false := by
  cases op <;> first | rfl | cases h

theorem only_simple (id : String) (status : ResultStatus) (msg : Option String) :
    (simple id status msg).Only (fun op => op.ofDrain = false) :=
  (preliminary_simple id status msg).mono ofDrain_of_preliminary

/-- **The eviction loop** asks for the eviction of each of its pods, and patches no node. -/
theorem evictPods_requests (nodeName : String) (opts : Option DeleteOptions) :
    ∀ (rest : List (String × String)) (evicted : List String) (tr : ApiTrace),
      (evictPods nodeName opts rest evicted).Meets (fun _ op => op ≠ .instantNow)
        (fun r tr' => ∀ evicted', r = .ok evicted' → ∃ later, tr' = tr ++ later ∧ (∀ e ∈ later, ¬ IsPatchNode e.call) ∧
          ∀ key, key ∈ rest ↔ ∃ e ∈ later, IsEvictionOf key e.call) tr
  | [], evicted, tr => fun _ _ => ⟨[], by simp, by simp, by simp⟩
  | (ns, name) :: rest, evicted, tr => by
    refine (meets_ask_bind _ _).2 ⟨fun h => (by cases h), fun answer => ?_⟩
    cases answer with
    | error e => exact fun _ h => (by cases h)
    | ok _ =>
      refine (evictPods_requests nodeName opts rest _ _).mono (fun _ _ h => h) (fun r tr' h evicted' hr => ?_)
      obtain ⟨later, rfl, honce, hrequested⟩ := h evicted' hr
      refine ⟨⟨.createEviction ns name ⟨opts, name, ns⟩, .ok ()⟩ :: later, by simp, ?_, fun key => ?_⟩
      · rintro e he
        rcases List.mem_cons.1 he with rfl | he
        · rintro ⟨_, _, _, heq⟩
          cases heq
        · exact honce e he
      · rw [List.mem_cons, hrequested key]
        constructor
        · rintro (rfl | ⟨e, he, hkey⟩)
          · exact ⟨_, List.mem_cons_self, _, rfl⟩
          · exact ⟨e, List.mem_cons_of_mem _ he, hkey⟩
        · rintro ⟨e, he, eviction, heq⟩
          rcases List.mem_cons.1 he with rfl | he
          · cases heq
            exact .inl rfl
          · exact .inr ⟨e, he, eviction, heq⟩

theorem awaitDrained_clock (sel : String) (deadline : Nat) :
    ∀ (fuel : Nat) (warnings remaining : List String) (tr : ApiTrace), EvictionsDone nodeName force tr →
      (awaitDrained nodeName sel force deadline fuel warnings remaining).Meets (ClockAfterEvictions nodeName force)
        (fun _ _ => True) tr
  | 0, _, _, _, _ => trivial
  | fuel + 1, warnings, remaining, tr, h => by
    refine (meets_ask_bind _ _).2 ⟨fun heq => (by cases heq), fun podList => ?_⟩
    have hlisted : EvictionsDone nodeName force (tr ++ [⟨.listPods sel, podList⟩]) :=
      h.append (by simp [ApiCall.afterEvictions])
    cases podList with
    | error e => trivial
    | ok pods =>
      dsimp only
      split_ifs
      · trivial
      · trivial
      refine (meets_ask_bind _ _).2 ⟨fun _ => hlisted, fun now => ?_⟩
      have hread : EvictionsDone nodeName force (tr ++ [⟨.listPods sel, .ok pods⟩] ++ [⟨.instantNow, now⟩]) :=
        hlisted.append (by simp [ApiCall.afterEvictions])
      split_ifs
      · trivial
      refine (meets_ask_bind _ _).2 ⟨fun heq => (by cases heq), fun _ => ?_⟩
      exact awaitDrained_clock sel deadline fuel _ _ _ (hread.append (by simp [ApiCall.afterEvictions]))

theorem meets_only {m : Exec CommandResult} {tr : ApiTrace} (h : m.Only (fun op => op.ofDrain = false)) :
    m.Meets (ClockAfterEvictions nodeName force) (fun _ _ => True) tr :=
  (h.meets (fun _ _ hop => clock_of_not hop) tr).mono (fun _ _ hp => hp) (fun _ _ _ => trivial)

/-- From the cordon on, with nothing done yet but the listing. -/
theorem cordonAndEvict_clock (fuel : Nat) (id : String) (timeoutSeconds : Nat) (opts : Option DeleteOptions)
    (before : Bool) (listed : List Pod) {pre : ApiTrace} (hpre : ∀ e ∈ pre, e.call.ofDrain = false) :
    (cordonAndEvict fuel id nodeName (fieldSelectorOf nodeName) force timeoutSeconds opts before
        (classifyPodsOnNode nodeName listed force)).Meets (ClockAfterEvictions nodeName force) (fun _ _ => True)
      (pre ++ [⟨.listPods (fieldSelectorOf nodeName), .ok listed⟩]) := by
  refine (meets_ask_bind _ _).2 ⟨fun heq => (by cases heq), fun cordoned => ?_⟩
  cases cordoned with
  | error e => exact meets_only (only_simple _ _ _)
  | ok node =>
    have hloop := evictPods_requests nodeName opts (classifyPodsOnNode nodeName listed force).drainable []
      (pre ++ [⟨.listPods (fieldSelectorOf nodeName), .ok listed⟩] ++
        [⟨.patchNode nodeName false cordonPatch, .ok node⟩])
    refine (hloop.mono (fun tr op hop heq => absurd heq hop) (fun r tr' h => h)).bind (fun evictions tr' h => ?_)
    cases evictions with
    | error msg => exact meets_only (only_simple _ _ _)
    | ok evicted =>
      obtain ⟨later, rfl, honce, hrequested⟩ := h evicted rfl
      have hdone : EvictionsDone nodeName force (pre ++ [⟨.listPods (fieldSelectorOf nodeName), .ok listed⟩] ++
          [⟨.patchNode nodeName false cordonPatch, .ok node⟩] ++ later) :=
        ⟨listed, node, pre, later, by simp, hpre, honce, hrequested⟩
      refine (meets_ask_bind _ _).2 ⟨fun _ => hdone, fun start => ?_⟩
      refine (awaitDrained_clock _ _ fuel _ _ _ (hdone.append (by simp [ApiCall.afterEvictions]))).bind
        (fun waited tr' _ => ?_)
      cases waited with
      | error msg => exact meets_only (only_simple _ _ _)
      | ok waited => exact meets_only (only_bind (only_simple _ _ _) (fun _ => only_pure _))

/-- **The rule of a drain**: from its first pod list on it is `cordonAndEvict`; before that it reads, or reports an
error. -/
theorem drainNode_rule {P : ApiTrace → ApiCall → Prop} {Q : CommandResult → ApiTrace → Prop} (fuel : Nat)
    (cfg : Config) (id : String) (spec : DrainNodeSpec) (hread : ∀ tr op, op.ofDrain = false → P tr op)
    (hlist : ∀ tr sel, P tr (.listPods sel)) (herror : ∀ message tr, (simple id .error message).Meets P Q tr)
    (hdrain : ∀ pre listed timeoutSeconds opts before, (∀ e ∈ pre, e.call.ofDrain = false) →
      (spec.force = false → (classifyPodsOnNode (RustStr.trim spec.nodeName) listed spec.force).unmanaged = []) →
      (cordonAndEvict fuel id (RustStr.trim spec.nodeName) (fieldSelectorOf (RustStr.trim spec.nodeName)) spec.force
          timeoutSeconds opts before (classifyPodsOnNode (RustStr.trim spec.nodeName) listed spec.force)).Meets P Q
        (pre ++ [⟨.listPods (fieldSelectorOf (RustStr.trim spec.nodeName)), .ok listed⟩])) :
    (drainNode fuel cfg id spec).Meets P Q [] := by
  unfold drainNode
  dsimp only
  rcases eq_or_ne (RustStr.trim spec.nodeName) "" with hname | hname
  · rw [if_pos hname]
    exact herror _ _
  rw [if_neg hname]
  have hgate := (preliminary_ensureClusterActionAllowed cfg "drain_node").mono ofDrain_of_preliminary
  refine (hgate.meets hread []).bind (fun gate tr hgate => ?_)
  obtain ⟨pre, rfl, hpre⟩ := hgate
  cases gate with
  | error msg => exact herror _ _
  | ok policy =>
    cases drainTimeoutDuration spec with
    | error msg => exact herror _ _
    | ok timeoutSeconds =>
      cases drainDeleteOptions spec with
      | error msg => exact herror _ _
      | ok opts =>
        refine (meets_ask_bind _ _).2 ⟨hread _ _ rfl, fun node => ?_⟩
        cases node with
        | error e => exact herror _ _
        | ok node =>
          refine (meets_ask_bind _ _).2 ⟨hlist _ _, fun podList => ?_⟩
          cases podList with
          | error e => exact herror _ _
          | ok listed =>
            dsimp only
            split_ifs with hunmanaged
            · exact herror _ _
            refine hdrain _ listed timeoutSeconds opts _ ?_ (fun hforce => ?_)
            · intro e he
              rcases List.mem_append.1 he with he | he
              · exact hpre e he
              · rw [List.mem_singleton.1 he]
                rfl
            · by_contra hne
              exact hunmanaged ⟨hforce, hne⟩

section Rule

-- What is used of the program is in its rule.
attribute [local irreducible] drainNode

/-- **A drain looks at the clock first when its eviction loop is over.** -/
theorem drainNode_clock (fuel : Nat) (cfg : Config) (id : String) (spec : DrainNodeSpec) :
    (drainNode fuel cfg id spec).Meets (ClockAfterEvictions (RustStr.trim spec.nodeName) spec.force) (fun _ _ => True)
      [] := by
  refine drainNode_rule fuel cfg id spec (fun _ _ hop => clock_of_not hop) (fun _ _ heq => by cases heq)
    (fun _ _ => meets_only (only_simple _ _ _)) (fun pre listed timeoutSeconds opts before hpre _ => ?_)
  exact cordonAndEvict_clock fuel id timeoutSeconds opts before listed hpre

end Rule

end Executor

/-! ## The scheduler beside the drain -/

namespace Drain

open Executor Transition

/-- A pod that is bound to its node.  A uid is given once. -/
structure PlacedPod where
  uid : Nat
  pod : Pod

inductive DrainEvent where
  /-- The scheduler binds a pod. -/
  | placed (p : PlacedPod)
  /-- The pod of that uid is gone, for whatever reason. -/
  | deleted (uid : Nat)
  /-- The drain makes its next call, which is answered. -/
  | called (e : ApiEvent)

structure DrainSystem where
  pods : List PlacedPod
  /-- Every uid given so far. -/
  uids : List Nat
  unschedulable : Bool
  prog : Exec CommandResult
  trace : ApiTrace

def DrainEvent.call? : DrainEvent → Option ApiEvent
  | .called e => some e
  | _ => none

def DrainEvent.podsAfter (pods : List PlacedPod) : DrainEvent → List PlacedPod
  | .placed p => pods ++ [p]
  | .deleted uid => pods.filter (fun p => p.uid ≠ uid)
  | .called _ => pods

/-- The pods that exist after the events. -/
def podsAfter (pods : List PlacedPod) (es : List DrainEvent) : List PlacedPod := es.foldl DrainEvent.podsAfter pods

/-- A list of the pods of a node holds those that are bound to it; all other answers are free. -/
def MayAnswer (pods : List PlacedPod) : (op : ApiCall) → Answer op → Prop
  | .listPods sel, answer => ∀ items nodeName, answer = .ok items → sel = fieldSelectorOf nodeName →
      ∀ pod, pod ∈ items ↔ pod.nodeName = some nodeName ∧ ∃ p ∈ pods, p.pod = pod
  | _, _ => True

/-- Whether the node takes pods after a call: a cordon that is answered with success took effect, one that is answered
with an error may have. -/
def Cordons (nodeName : String) (e : ApiEvent) (before after : Bool) : Prop :=
  after = before ∧ (∀ node, e ≠ ⟨.patchNode nodeName false cordonPatch, .ok node⟩) ∨
    after = true ∧ e.call = .patchNode nodeName false cordonPatch

inductive DrainStep (nodeName : String) : DrainSystem → DrainEvent → DrainSystem → Prop
  | placed {s : DrainSystem} {p : PlacedPod} (hfresh : p.uid ∉ s.uids)
      (hschedulable : p.pod.nodeName = some nodeName → s.unschedulable = false) :
      DrainStep nodeName s (.placed p) { s with pods := s.pods ++ [p], uids := p.uid :: s.uids }
  | deleted (s : DrainSystem) (uid : Nat) :
      DrainStep nodeName s (.deleted uid) { s with pods := s.pods.filter (fun p => p.uid ≠ uid) }
  | called {s : DrainSystem} {op : ApiCall} {k : Answer op → Exec CommandResult} (hprog : s.prog = .call op k)
      {answer : Answer op} (hanswer : MayAnswer s.pods op answer) {unschedulable : Bool}
      (hcordon : Cordons nodeName ⟨op, answer⟩ s.unschedulable unschedulable) :
      DrainStep nodeName s (.called ⟨op, answer⟩)
        { s with unschedulable := unschedulable, prog := k answer, trace := s.trace ++ [⟨op, answer⟩] }

/-- A drain is about to begin. -/
def DrainSystem.start (fuel : Nat) (cfg : Config) (commandId : String) (spec : DrainNodeSpec)
    (pods : List PlacedPod) (unschedulable : Bool) : DrainSystem :=
  ⟨pods, pods.map PlacedPod.uid, unschedulable, drainNode fuel cfg commandId spec, []⟩

/-- The eviction loop is over: the drain reads the clock, for its deadline or while it waits. -/
def LoopCompleted (s : DrainSystem) : Prop := ∃ k, s.prog = .call .instantNow k

/-- **No pod escapes**: each eligible pod that was there when the cordon took effect and is there still has been asked
to go. -/
def NoPodEscapes (nodeName : String) (force : Bool) (pods : List PlacedPod) (es : List DrainEvent) (s : DrainSystem) :
    Prop :=
  ∀ before node after, es = before ++ .called ⟨.patchNode nodeName false cordonPatch, .ok node⟩ :: after →
    ∀ p ∈ podsAfter pods before, Eligible nodeName force p.pod → p ∈ s.pods →
      ∃ e ∈ s.trace, IsEvictionOf (podKey p.pod) e.call

/-- **The pods placed between the listing and the cordon** take the names of listed ones, as far as they are eligible
and are there still. -/
def LatePodsListed (nodeName : String) (force : Bool) (pods : List PlacedPod) (es : List DrainEvent)
    (s : DrainSystem) : Prop :=
  ∀ before listed between node after,
    es = (before ++ .called ⟨.listPods (fieldSelectorOf nodeName), .ok listed⟩ :: between) ++
      .called ⟨.patchNode nodeName false cordonPatch, .ok node⟩ :: after →
    ∀ p ∈ podsAfter [] between, Eligible nodeName force p.pod → p ∈ s.pods →
      ∃ q ∈ podsAfter pods before, Eligible nodeName force q.pod ∧ podKey q.pod = podKey p.pod

/-! ### What the events leave -/

theorem call?_eq_some {event : DrainEvent} {e : ApiEvent} (h : event.call? = some e) : event = .called e := by
  cases event with
  | called e' =>
    cases h
    rfl
  | _ => cases h

theorem mem_calls {es : List DrainEvent} {e : ApiEvent} : e ∈ es.filterMap DrainEvent.call? ↔ .called e ∈ es := by
  rw [List.mem_filterMap]
  constructor
  · rintro ⟨event, hmem, hcall⟩
    rwa [call?_eq_some hcall] at hmem
  · exact fun hmem => ⟨_, hmem, rfl⟩

theorem podsAfter_concat (pods : List PlacedPod) (es : List DrainEvent) (e : DrainEvent) :
    podsAfter pods (es ++ [e]) = e.podsAfter (podsAfter pods es) := by
  simp [podsAfter]

theorem podsAfter_append (pods : List PlacedPod) (es es' : List DrainEvent) :
    podsAfter pods (es ++ es') = podsAfter (podsAfter pods es) es' := List.foldl_append

/-- **What is there** is a part of what was there, and what came since and was not taken away. -/
theorem podsAfter_eq (pods : List PlacedPod) (es : List DrainEvent) :
    ∃ kept, kept.Sublist pods ∧ podsAfter pods es = kept ++ podsAfter [] es := by
  induction es using List.reverseRecOn with
  | nil => exact ⟨pods, List.Sublist.refl pods, (List.append_nil pods).symm⟩
  | append_singleton es e ih =>
    obtain ⟨kept, hkept, heq⟩ := ih
    rw [podsAfter_concat, podsAfter_concat, heq]
    cases e with
    | placed q => exact ⟨kept, hkept, List.append_assoc kept _ [q]⟩
    | deleted uid => exact ⟨_, List.filter_sublist.trans hkept, List.filter_append kept _⟩
    | called e => exact ⟨kept, hkept, rfl⟩

theorem mem_podsAfter {pods : List PlacedPod} {p : PlacedPod} {es : List DrainEvent} (h : p ∈ podsAfter pods es) :
    p ∈ pods ∨ p ∈ podsAfter [] es := by
  obtain ⟨kept, hkept, heq⟩ := podsAfter_eq pods es
  rw [heq] at h
  exact (List.mem_append.1 h).imp_left (fun hmem => hkept.subset hmem)

theorem mem_podsAfter_of_late {pods : List PlacedPod} {p : PlacedPod} {es : List DrainEvent}
    (h : p ∈ podsAfter [] es) : p ∈ podsAfter pods es := by
  obtain ⟨kept, -, heq⟩ := podsAfter_eq pods es
  rw [heq]
  exact List.mem_append_right kept h

/-! ### Every run of a drain -/

section Run

variable {fuel : Nat} {cfg : Config} {commandId : String} {spec : DrainNodeSpec} {pods : List PlacedPod}
  {unschedulable : Bool} {es : List DrainEvent} {s : DrainSystem}

/-- What every run keeps: the program goes on meeting its condition, the trace holds the calls of the history, and the
pods are those the history leaves. -/
structure DrainInv (nodeName : String) (force : Bool) (pods : List PlacedPod) (es : List DrainEvent)
    (s : DrainSystem) : Prop where
  prog : s.prog.Meets (ClockAfterEvictions nodeName force) (fun _ _ => True) s.trace
  trace : es.filterMap DrainEvent.call? = s.trace
  pods : s.pods = podsAfter pods es

theorem drainInv_step {nodeName : String} {force : Bool} {e : DrainEvent} {s' : DrainSystem}
    (h : DrainInv nodeName force pods es s) (hstep : DrainStep nodeName s e s') :
    DrainInv nodeName force pods (es ++ [e]) s' := by
  cases hstep with
  | placed hfresh hschedulable =>
    refine ⟨h.prog, ?_, ?_⟩
    · rw [List.filterMap_append, h.trace]
      exact List.append_nil _
    · rw [podsAfter_concat, ← h.pods]
      rfl
  | deleted uid =>
    refine ⟨h.prog, ?_, ?_⟩
    · rw [List.filterMap_append, h.trace]
      exact List.append_nil _
    · rw [podsAfter_concat, ← h.pods]
      rfl
  | @called op k hprog answer hanswer _ hcordon =>
    have hmeets := h.prog
    rw [hprog] at hmeets
    refine ⟨hmeets.2 answer, ?_, ?_⟩
    · simp [DrainEvent.call?, h.trace]
    · rw [podsAfter_concat, ← h.pods]
      rfl

section Rule

attribute [local irreducible] drainNode

theorem drainInv_run (hrun : Steps (DrainStep (RustStr.trim spec.nodeName))
      (.start fuel cfg commandId spec pods unschedulable) es s) :
    DrainInv (RustStr.trim spec.nodeName) spec.force pods es s := by
  have hinit : DrainInv (RustStr.trim spec.nodeName) spec.force pods []
      (.start fuel cfg commandId spec pods unschedulable) := by
    refine ⟨?_, rfl, rfl⟩
    dsimp only [DrainSystem.start]
    exact drainNode_clock fuel cfg commandId spec
  exact hrun.invariant hinit (fun _ _ _ _ h hstep => drainInv_step h hstep)

end Rule

/-- **The history of a drain whose loop is over**: one listing, then one cordon, with only the scheduler's doings
between them; the evictions requested are those of the listed pods that are eligible. -/
theorem history_of_loopCompleted {nodeName : String} {force : Bool} (h : DrainInv nodeName force pods es s)
    (hdone : LoopCompleted s) :
    ∃ (before : List DrainEvent) (listed : List Pod) (between : List DrainEvent) (node : Node) (after : List DrainEvent),
      es = (before ++ .called ⟨.listPods (fieldSelectorOf nodeName), .ok listed⟩ :: between) ++
        .called ⟨.patchNode nodeName false cordonPatch, .ok node⟩ :: after ∧
      (∀ e, .called e ∈ before → e.call.ofDrain = false) ∧ (∀ e, .called e ∉ between) ∧
      (∀ e, .called e ∈ after → ¬ IsPatchNode e.call) ∧
      ∀ key, (∃ e ∈ s.trace, IsEvictionOf key e.call) ↔
        key ∈ (classifyPodsOnNode nodeName listed force).drainable := by
  obtain ⟨k, hprog⟩ := hdone
  have hmeets := h.prog
  rw [hprog] at hmeets
  obtain ⟨listed, node, pre, later, htrace, hdrained⟩ := hmeets.1 rfl
  have hcalls := h.trace.trans htrace
  obtain ⟨before, rest, rfl, hbefore, hrest⟩ := List.filterMap_eq_append_iff.1 hcalls
  obtain ⟨idle, event, rest, rfl, hidle, hevent, hrest⟩ := List.filterMap_eq_cons_iff.1 hrest
  obtain ⟨between, event', after, rfl, hbetween, hevent', hafter⟩ := List.filterMap_eq_cons_iff.1 hrest
  cases call?_eq_some hevent
  cases call?_eq_some hevent'
  refine ⟨before ++ idle, listed, between, node, after, by simp, ?_, ?_, ?_, fun key => ?_⟩
  · intro e he
    rcases List.mem_append.1 he with hmem | hmem
    · exact hdrained.pre e (hbefore ▸ mem_calls.2 hmem)
    · cases hidle _ hmem
  · intro e he
    cases hbetween _ he
  · intro e he
    exact hdrained.once e (hafter ▸ mem_calls.2 he)
  · rw [hdrained.requested key, htrace]
    constructor
    · rintro ⟨e, he, eviction, hcall⟩
      simp only [List.mem_append, List.mem_cons] at he
      rcases he with he | rfl | rfl | he
      · have hpre := hdrained.pre e he
        rw [hcall] at hpre
        cases hpre
      · cases hcall
      · cases hcall
      · exact ⟨e, he, eviction, hcall⟩
    · rintro ⟨e, he, hkey⟩
      exact ⟨e, by simp [he], hkey⟩

theorem mem_drainable_of_listing (hrun : Steps (DrainStep (RustStr.trim spec.nodeName))
      (.start fuel cfg commandId spec pods unschedulable) es s) {before rest : List DrainEvent} {listed : List Pod}
    (hes : es = before ++ .called ⟨.listPods (fieldSelectorOf (RustStr.trim spec.nodeName)), .ok listed⟩ :: rest)
    (key : String × String) :
    key ∈ (classifyPodsOnNode (RustStr.trim spec.nodeName) listed spec.force).drainable ↔
      ∃ q ∈ podsAfter pods before,
        Eligible (RustStr.trim spec.nodeName) spec.force q.pod ∧ podKey q.pod = key := by
  obtain ⟨s₁, s₂, hrun₁, hstep⟩ := hrun.split_at hes
  have hpods := (drainInv_run hrun₁).pods
  cases hstep with
  | called hprog hanswer hcordon =>
    have hitems := hanswer listed _ rfl rfl
    rw [hpods] at hitems
    rw [mem_classifyPodsOnNode]
    constructor
    · rintro ⟨pod, hpod, heligible, hkey⟩
      obtain ⟨-, q, hq, rfl⟩ := (hitems pod).1 hpod
      exact ⟨q, hq, heligible, hkey⟩
    · rintro ⟨q, hq, heligible, hkey⟩
      exact ⟨q.pod, (hitems q.pod).2 ⟨heligible.onNode, q, hq, rfl⟩, heligible, hkey⟩

/-- **Exactly the pods placed between the listing and the cordon escape**, unless their names were listed. -/
theorem no_pod_escapes_iff (hrun : Steps (DrainStep (RustStr.trim spec.nodeName))
      (.start fuel cfg commandId spec pods unschedulable) es s) (hdone : LoopCompleted s) :
    NoPodEscapes (RustStr.trim spec.nodeName) spec.force pods es s ↔
      LatePodsListed (RustStr.trim spec.nodeName) spec.force pods es s := by
  obtain ⟨before, listed, between, node, after, hes, hbefore, hbetween, hafter, hrequested⟩ :=
    history_of_loopCompleted (drainInv_run hrun) hdone
  have hlisted := mem_drainable_of_listing hrun (hes.trans (List.append_assoc _ _ _))
  generalize RustStr.trim spec.nodeName = nodeName at *
  -- the only cordon, and the only listing before it
  have hcordon : ∀ before' node' after', es = before' ++ .called ⟨.patchNode nodeName false cordonPatch, .ok node'⟩ ::
      after' → before' = before ++ .called ⟨.listPods (fieldSelectorOf nodeName), .ok listed⟩ :: between := by
    intro before' node' after' hes'
    refine ((List.append_cons_inj_of_notMem ?_ ?_).1 (hes.symm.trans hes')).1.symm
    · intro hmem
      rcases List.mem_append.1 hmem with hmem | hmem
      · cases hbefore _ hmem
      · rcases List.mem_cons.1 hmem with heq | hmem
        · cases heq
        · exact hbetween _ hmem
    · exact fun hmem => hafter _ hmem ⟨_, _, _, rfl⟩
  have hlisting : ∀ before' listed' between',
      before' ++ .called ⟨.listPods (fieldSelectorOf nodeName), .ok listed'⟩ :: between' =
        before ++ .called ⟨.listPods (fieldSelectorOf nodeName), .ok listed⟩ :: between →
      before' = before ∧ between' = between := by
    intro before' listed' between' heq
    obtain ⟨hbefore', -, hbetween'⟩ := (List.append_cons_inj_of_notMem
      (fun hmem => by cases hbefore _ hmem) (hbetween _)).1 heq.symm
    exact ⟨hbefore'.symm, hbetween'.symm⟩
  constructor
  · intro h before' listed' between' node' after' hes' p hp heligible hstill
    obtain ⟨rfl, rfl⟩ := hlisting _ _ _ (hcordon _ _ _ hes')
    have hthere : p ∈ podsAfter pods (before' ++
        .called ⟨.listPods (fieldSelectorOf nodeName), .ok listed'⟩ :: between') := by
      rw [podsAfter_append]
      exact mem_podsAfter_of_late hp
    exact (hlisted _).1 ((hrequested _).1 (h _ _ _ hes' p hthere heligible hstill))
  · intro h before' node' after' hes' p hp heligible hstill
    obtain rfl := hcordon _ _ _ hes'
    rw [podsAfter_append] at hp
    refine (hrequested _).2 ((hlisted _).2 ?_)
    rcases mem_podsAfter hp with hlisted | hlate
    · exact ⟨p, hlisted, heligible, rfl⟩
    · exact h _ _ _ _ _ hes' p hlate heligible hstill

end Run

/-! ### A run in which one escapes -/

/-- One more call that changes nothing in the cluster. -/
theorem run_call {nodeName : String} {s₀ s : DrainSystem} {es : List DrainEvent}
    (hrun : Steps (DrainStep nodeName) s₀ es s) (op : ApiCall) (answer : Answer op)
    {k : Answer op → Exec CommandResult} (hprog : s.prog = .call op k) (hanswer : MayAnswer s.pods op answer)
    (hquiet : ∀ name dryRun patch, op ≠ .patchNode name dryRun patch) :
    Steps (DrainStep nodeName) s₀ (es ++ [.called ⟨op, answer⟩])
      { s with prog := k answer, trace := s.trace ++ [⟨op, answer⟩] } := by
  refine hrun.snoc (.called hprog hanswer (.inl ⟨rfl, fun node heq => ?_⟩))
  cases heq
  exact hquiet _ _ _ rfl

theorem run_cordon {nodeName : String} {s₀ s : DrainSystem} {es : List DrainEvent}
    (hrun : Steps (DrainStep nodeName) s₀ es s)
    {k : Answer (.patchNode nodeName false cordonPatch) → Exec CommandResult}
    (hprog : s.prog = .call (.patchNode nodeName false cordonPatch) k) :
    Steps (DrainStep nodeName) s₀ (es ++ [.called ⟨.patchNode nodeName false cordonPatch, .ok {}⟩])
      { s with unschedulable := true, prog := k (.ok {}),
               trace := s.trace ++ [⟨.patchNode nodeName false cordonPatch, .ok {}⟩] } :=
  hrun.snoc (.called hprog trivial (.inr ⟨rfl, rfl⟩))

def drainPolicy : SentinellaHubActionPolicy := readyPolicy 0 ["drain_node"] [] []

def workerSpec : DrainNodeSpec := { nodeName := "worker-01" }

theorem workerSpec_trim : RustStr.trim workerSpec.nodeName = "worker-01" := by decide

/-- The first calls of a drain under a policy that allows it, and its listing. -/
def listingCalls (listed : List Pod) : ApiTrace :=
  [⟨.listActionPolicies, .ok [.ok drainPolicy]⟩, ⟨.nowMs, (5 : Nat)⟩, ⟨.getNode "worker-01", .ok {}⟩,
    ⟨.listPods (fieldSelectorOf "worker-01"), .ok listed⟩]

theorem drain_reaches_cordon (pods : List PlacedPod) (listed : List Pod)
    (hlisted : MayAnswer pods (.listPods (fieldSelectorOf "worker-01")) (.ok listed))
    (hmanaged : (classifyPodsOnNode "worker-01" listed false).unmanaged = []) :
    Steps (DrainStep "worker-01") (.start 0 actingConfig "1" workerSpec pods false)
      ((listingCalls listed).map .called)
      ⟨pods, pods.map PlacedPod.uid, false,
        cordonAndEvict 0 "1" "worker-01" (fieldSelectorOf "worker-01") false 300 none false
          (classifyPodsOnNode "worker-01" listed false), listingCalls listed⟩ := by
  have hstart : Steps (DrainStep "worker-01") (.start 0 actingConfig "1" workerSpec pods false) []
      (.start 0 actingConfig "1" workerSpec pods false) := .refl
  have hpolicies := run_call hstart .listActionPolicies (.ok [.ok drainPolicy]) rfl trivial nofun
  have hgate := run_call hpolicies .nowMs (5 : Nat) rfl trivial nofun
  have hnode := run_call hgate (.getNode "worker-01") (.ok {}) rfl trivial nofun
  have hlist := run_call hnode (.listPods (fieldSelectorOf "worker-01")) (.ok listed) rfl hlisted nofun
  have hmanaged' : ¬ (false = false ∧ (classifyPodsOnNode "worker-01" listed false).unmanaged ≠ []) :=
    fun h => h.2 hmanaged
  refine (congrArg (fun prog => Steps (DrainStep "worker-01") (.start 0 actingConfig "1" workerSpec pods false)
    ((listingCalls listed).map .called) ⟨pods, pods.map PlacedPod.uid, false, prog, listingCalls listed⟩) ?_).mp hlist
  exact if_neg hmanaged'

def webPod : PlacedPod :=
  ⟨1, { metadata := { name := some "web", namespace_ := some "app", ownerReferences := some [⟨"ReplicaSet", "web"⟩] }
        nodeName := some "worker-01" }⟩

theorem webPod_eligible : Eligible "worker-01" false webPod.pod := ⟨rfl, rfl, by decide, .inl (by decide)⟩

/-- The scheduler binds `web` after the listing: the node is cordoned, nothing is evicted, and the drain goes on to
wait. -/
theorem webPod_escapes :
    ¬ ∀ fuel cfg commandId (spec : DrainNodeSpec) pods unschedulable es s,
      Steps (DrainStep (RustStr.trim spec.nodeName)) (.start fuel cfg commandId spec pods unschedulable) es s →
        LoopCompleted s → NoPodEscapes (RustStr.trim spec.nodeName) spec.force pods es s := by
  intro h
  have hlisted := drain_reaches_cordon [] [] (fun items _ heq _ pod => by cases heq; simp) rfl
  have hplaced := hlisted.snoc (.placed (p := webPod) (by decide) (fun _ => rfl))
  have hcordoned := run_cordon hplaced rfl
  have hescapes := h 0 actingConfig "1" workerSpec [] false
  rw [workerSpec_trim] at hescapes
  obtain ⟨e, he, eviction, hcall⟩ := hescapes _ _ hcordoned ⟨_, rfl⟩ _ _ [] rfl webPod List.mem_cons_self
    webPod_eligible List.mem_cons_self
  simp only [listingCalls, List.cons_append, List.nil_append, List.mem_cons, List.not_mem_nil, or_false] at he
  rcases he with rfl | rfl | rfl | rfl | rfl <;> cases hcall

/-- Bound before the listing, it is asked to go. -/
theorem no_pod_escapes_web : ∃ es s, Steps (DrainStep "worker-01")
      (.start 0 actingConfig "1" workerSpec [webPod] false) es s ∧ LoopCompleted s ∧
    (NoPodEscapes "worker-01" false [webPod] es s ↔ LatePodsListed "worker-01" false [webPod] es s) := by
  have hanswer : MayAnswer [webPod] (.listPods (fieldSelectorOf "worker-01")) (.ok [webPod.pod]) := by
    intro items name heq hsel pod
    cases heq
    obtain rfl := fieldSelectorOf_injective hsel
    rw [List.mem_singleton]
    constructor
    · rintro rfl
      exact ⟨rfl, webPod, List.mem_cons_self, rfl⟩
    · rintro ⟨-, p, hp, rfl⟩
      rw [List.mem_singleton.1 hp]
  have hlisted := drain_reaches_cordon [webPod] [webPod.pod] hanswer rfl
  have hcordoned := run_cordon hlisted rfl
  have hevicted := run_call hcordoned (.createEviction "app" "web" ⟨none, "web", "app"⟩) (.ok ()) rfl trivial nofun
  have hiff := no_pod_escapes_iff (by rw [workerSpec_trim]; exact hevicted) ⟨_, rfl⟩
  rw [workerSpec_trim] at hiff
  exact ⟨_, _, hevicted, ⟨_, rfl⟩, hiff⟩

end Drain
end HubAgent
