import Mathlib.Data.List.Count
import Mathlib.Data.List.Nodup
import HubAgent.PodClasses
/-!
# What the report of a drain says (`executor.rs`)

A drain polls the pods of its node until none is left to drain.  It keeps the pods that remain for its report, but leaves
the loop before it would note that none does; and it warns of the forced pods anew at every poll.  `Waited` is what the
loop leaves behind; `drain_report_exact_iff` says that the report is right exactly when the first poll was the last.
-/
namespace HubAgent
namespace Executor

open Interaction

variable {nodeName : String} {force : Bool}

def keyText (key : String × String) : String := s!"{key.1}/{key.2}"

def acceptedEviction : ApiEvent → Option (String × String)
  | ⟨.createEviction ns name _, .ok _⟩ => some (ns, name)
  | _ => none

def acceptedEvictions (tr : ApiTrace) : List (String × String) := tr.filterMap acceptedEviction

theorem acceptedEvictions_append (tr later : ApiTrace) :
    acceptedEvictions (tr ++ later) = acceptedEvictions tr ++ acceptedEvictions later := by
  simp [acceptedEvictions]

def remainingOf (nodeName : String) (force : Bool) (pods : List Pod) : List String :=
  (classifyPodsOnNode nodeName pods force).drainable.map keyText

def forcedOf (nodeName : String) (force : Bool) (pods : List Pod) : List String :=
  forcedWarnings (classifyPodsOnNode nodeName pods force).unmanaged

/-- **What the polling loop has seen and kept when it ends well**: every poll but the last left pods to drain, and the
ones it reports are of the poll before the last. -/
structure Waited (nodeName : String) (force : Bool) (polls : List (List Pod)) (last : List Pod)
    (warnings remaining warnings' remaining' : List String) : Prop where
  busy : ∀ pods ∈ polls, (classifyPodsOnNode nodeName pods force).drainable ≠ []
  clear : (classifyPodsOnNode nodeName last force).drainable = []
  allowed : ∀ pods ∈ polls ++ [last], force = false → (classifyPodsOnNode nodeName pods force).unmanaged = []
  warned : warnings' = warnings ++ (polls ++ [last]).flatMap (forcedOf nodeName force)
  kept : remaining' = (polls.getLast?.map (remainingOf nodeName force)).getD remaining

theorem Waited.now {last : List Pod} (hclear : (classifyPodsOnNode nodeName last force).drainable = [])
    (hallowed : force = false → (classifyPodsOnNode nodeName last force).unmanaged = []) (warnings remaining : List String) :
    Waited nodeName force [] last warnings remaining (warnings ++ forcedOf nodeName force last) remaining := by
  refine ⟨nofun, hclear, fun pods hpods => ?_, ?_, rfl⟩
  · rw [List.mem_singleton.1 hpods]
    exact hallowed
  · rw [List.nil_append, List.flatMap_singleton]

theorem Waited.later {pods last : List Pod} {polls : List (List Pod)} {warnings remaining warnings' remaining' : List String}
    (hbusy : (classifyPodsOnNode nodeName pods force).drainable ≠ [])
    (hallowed : force = false → (classifyPodsOnNode nodeName pods force).unmanaged = [])
    (h : Waited nodeName force polls last (warnings ++ forcedOf nodeName force pods) (remainingOf nodeName force pods)
      warnings' remaining') : Waited nodeName force (pods :: polls) last warnings remaining warnings' remaining' := by
  refine ⟨?_, h.clear, ?_, ?_, ?_⟩
  · intro p hp
    rcases List.mem_cons.1 hp with rfl | hp
    · exact hbusy
    · exact h.busy p hp
  · intro p hp
    rcases List.mem_cons.1 hp with rfl | hp
    · exact hallowed
    · exact h.allowed p hp
  · rw [h.warned, List.append_assoc, List.cons_append, List.flatMap_cons]
  · rw [h.kept, List.getLast?_cons]
    cases polls.getLast? <;> rfl

/-- A history without evictions and with these pod lists. -/
structure Polled (later : ApiTrace) (lists : List (List Pod)) : Prop where
  lists : podLists later = lists.map .ok
  quiet : acceptedEvictions later = []

/-- **The polling loop.** -/
theorem awaitDrained_waited (sel : String) (deadline : Nat) :
    ∀ (fuel : Nat) (warnings remaining : List String) (tr : ApiTrace),
      (awaitDrained nodeName sel force deadline fuel warnings remaining).Meets (fun _ _ => True)
        (fun r tr' => ∀ warnings' remaining', r = .ok (warnings', remaining') → ∃ later polls last, tr' = tr ++ later ∧
          Polled later (polls ++ [last]) ∧ Waited nodeName force polls last warnings remaining warnings' remaining') tr
  | 0, _, _, _ => trivial
  | fuel + 1, warnings, remaining, tr => by
    refine (meets_ask_bind _ _).2 ⟨trivial, fun podList => ?_⟩
    cases podList with
    | error e => exact fun _ _ h => nomatch h
    | ok pods =>
      dsimp only
      split_ifs with hgained hclear
      · exact fun _ _ h => nomatch h
      · rintro _ _ ⟨⟩
        have hallowed : force = false → (classifyPodsOnNode nodeName pods force).unmanaged = [] :=
          fun hforce => by_contra (fun hne => hgained ⟨hne, hforce⟩)
        exact ⟨_, [], pods, rfl, ⟨rfl, rfl⟩, .now hclear hallowed _ _⟩
      refine (meets_ask_bind _ _).2 ⟨trivial, fun now => ?_⟩
      split_ifs
      · exact fun _ _ h => nomatch h
      refine (meets_ask_bind _ _).2 ⟨trivial, fun _ => ?_⟩
      refine (awaitDrained_waited sel deadline fuel _ _ _).mono (fun _ _ h => h) (fun r tr' h warnings' remaining' hr => ?_)
      obtain ⟨later, polls, last, rfl, hpolled, hwaited⟩ := h _ _ hr
      have hallowed : force = false → (classifyPodsOnNode nodeName pods force).unmanaged = [] :=
        fun hforce => by_contra (fun hne => hgained ⟨hne, hforce⟩)
      refine ⟨⟨.listPods sel, .ok pods⟩ :: ⟨.instantNow, now⟩ :: ⟨.sleep 5, ()⟩ :: later, pods :: polls, last, by simp, ?_,
        .later hclear hallowed hwaited⟩
      refine ⟨?_, hpolled.quiet⟩
      exact congrArg (Except.ok pods :: ·) hpolled.lists

/-- **The eviction loop** counts as evicted what was accepted. -/
theorem evictPods_accepted (opts : Option DeleteOptions) :
    ∀ (rest : List (String × String)) (evicted : List String) (tr : ApiTrace),
      (evictPods nodeName opts rest evicted).Meets (fun _ _ => True) (fun r tr' => ∀ evicted', r = .ok evicted' →
        ∃ later, tr' = tr ++ later ∧ podLists later = [] ∧
          evicted' = evicted ++ (acceptedEvictions later).map keyText) tr
  | [], evicted, tr => by
    rintro _ ⟨⟩
    exact ⟨[], by simp, rfl, by simp [acceptedEvictions]⟩
  | (ns, name) :: rest, evicted, tr => by
    refine (meets_ask_bind _ _).2 ⟨trivial, fun answer => ?_⟩
    cases answer with
    | error e => exact fun _ h => nomatch h
    | ok answer =>
      refine (evictPods_accepted opts rest _ _).mono (fun _ _ h => h) (fun r tr' h evicted' hr => ?_)
      obtain ⟨later, rfl, hlists, rfl⟩ := h evicted' hr
      refine ⟨⟨.createEviction ns name ⟨opts, name, ns⟩, .ok answer⟩ :: later, by simp, hlists, ?_⟩
      rw [List.append_assoc]
      rfl

/-! ## The report -/

/-- A member of `observed_after`. -/
def reported (r : CommandResult) (field : String) : Option Json := r.observedAfter.bind (fun v => v.get field)

/-- **What a drain that came out well has reported**, with the lists that it saw. -/
structure Reported (nodeName : String) (force : Bool) (listed : List Pod) (polls : List (List Pod)) (last : List Pod)
    (r : CommandResult) (tr : ApiTrace) : Prop where
  lists : podLists tr = (listed :: (polls ++ [last])).map .ok
  busy : ∀ pods ∈ polls, (classifyPodsOnNode nodeName pods force).drainable ≠ []
  clear : (classifyPodsOnNode nodeName last force).drainable = []
  allowed : ∀ pods ∈ listed :: (polls ++ [last]), force = false → (classifyPodsOnNode nodeName pods force).unmanaged = []
  evicted : reported r "evictedPods" = some (strArray ((acceptedEvictions tr).map keyText))
  remaining : reported r "remainingPods" =
    some (strArray ((polls.getLast?.map (remainingOf nodeName force)).getD []))
  warnings : r.warnings = (classifyPodsOnNode nodeName listed force).daemonset ++
    (listed :: (polls ++ [last])).flatMap (forcedOf nodeName force)

theorem acceptedEvictions_eq_nil {tr : ApiTrace} (h : ∀ e ∈ tr, e.call.ofDrain = false) : acceptedEvictions tr = [] := by
  unfold acceptedEvictions
  rw [List.filterMap_eq_nil_iff]
  rintro ⟨op, answer⟩ he
  have hop := h _ he
  cases op <;> first | rfl | cases hop

theorem simple_not_ok {Q : CommandResult → ApiTrace → Prop} (id : String) (message : Option String) (tr : ApiTrace) :
    (simple id .error message).Meets (fun _ _ => True) (fun r tr' => r.status = .ok → Q r tr') tr :=
  ⟨trivial, fun _ h => nomatch h⟩

theorem forced_of_allowed {pods : List Pod}
    (h : force = false → (classifyPodsOnNode nodeName pods force).unmanaged = []) :
    (if force then forcedWarnings (classifyPodsOnNode nodeName pods force).unmanaged else []) =
      forcedOf nodeName force pods := by
  unfold forcedOf
  cases force with
  | true => rfl
  | false =>
    rw [h rfl]
    rfl

section Rule

-- What is used of the program is in its rule.
attribute [local irreducible] drainNode

/-- **A drain reports what it has seen.** -/
theorem drainNode_reported (fuel : Nat) (cfg : Config) (id : String) (spec : DrainNodeSpec) :
    (drainNode fuel cfg id spec).Meets (fun _ _ => True) (fun r tr => r.status = .ok → ∃ listed polls last,
      Reported (RustStr.trim spec.nodeName) spec.force listed polls last r tr) [] := by
  refine drainNode_rule fuel cfg id spec (fun _ _ _ => trivial) (fun _ _ => trivial)
    (fun _ _ => simple_not_ok _ _ _) (fun pre listed timeoutSeconds opts before hpre hallowed => ?_)
  generalize RustStr.trim spec.nodeName = nodeName at *
  refine (meets_ask_bind _ _).2 ⟨trivial, fun cordoned => ?_⟩
  cases cordoned with
  | error e => exact simple_not_ok _ _ _
  | ok node =>
    refine (evictPods_accepted opts _ _ _).bind (fun evictions tr hevictions => ?_)
    cases evictions with
    | error message => exact simple_not_ok _ _ _
    | ok evicted =>
      obtain ⟨evictionCalls, rfl, hnoLists, rfl⟩ := hevictions evicted rfl
      refine (meets_ask_bind _ _).2 ⟨trivial, fun start => ?_⟩
      refine (awaitDrained_waited _ _ fuel _ _ _).bind (fun waited tr hwaited => ?_)
      cases waited with
      | error message => exact simple_not_ok _ _ _
      | ok waited =>
        obtain ⟨warnings, remaining⟩ := waited
        obtain ⟨polling, polls, last, rfl, hpolled, hwaited⟩ := hwaited _ _ rfl
        refine ⟨trivial, fun finishedAtMs _ => ⟨listed, polls, last, ?_, hwaited.busy, hwaited.clear, ?_, ?_, ?_, ?_⟩⟩
        · simp only [podLists_append, podLists_eq_nil hpre, hnoLists, hpolled.lists]
          change [] ++ [Except.ok listed] ++ [] ++ [] ++ [] ++ (polls ++ [last]).map Except.ok ++ [] = _
          simp
        · intro pods hpods
          rcases List.mem_cons.1 hpods with rfl | hpods
          · exact hallowed
          · exact hwaited.allowed pods hpods
        · simp only [acceptedEvictions_append, acceptedEvictions_eq_nil hpre, hpolled.quiet]
          change some _ = some (strArray (([] ++ [] ++ [] ++ acceptedEvictions evictionCalls ++ [] ++ [] ++ []).map
            keyText))
          simp
        · rw [← hwaited.kept]
          rfl
        · dsimp only
          rw [hwaited.warned, forced_of_allowed hallowed, List.flatMap_cons, List.append_assoc]

end Rule

/-- **The report of a drain describes its final state**: no pod remains, as the last poll has it, the evicted pods are
those whose evictions were accepted, and each unmanaged pod that was forced is named once in the warnings. -/
structure DrainReport (nodeName : String) (force : Bool) (r : CommandResult) (tr : ApiTrace) : Prop where
  remaining : ∀ last, (podLists tr).getLast? = some (.ok last) →
    reported r "remainingPods" = some (strArray (remainingOf nodeName force last))
  none_left : reported r "remainingPods" = some (strArray [])
  evicted : reported r "evictedPods" = some (strArray ((acceptedEvictions tr).map keyText))
  forced : force = true → ∀ pods, .ok pods ∈ podLists tr →
    ∀ shown ∈ (classifyPodsOnNode nodeName pods force).unmanaged, r.warnings.count s!"forced unmanaged pod {shown}" = 1

theorem strArray_injective {a b : List String} (h : strArray a = strArray b) : a = b := by
  unfold strArray at h
  have hmap : a.map Json.str = b.map Json.str := Json.arr.inj h
  exact (List.map_injective_iff.2 (fun _ _ heq => Json.str.inj heq)) hmap

theorem forcedText_injective {a b : String} (h : s!"forced unmanaged pod {a}" = s!"forced unmanaged pod {b}") : a = b := by
  have hlist := congrArg String.toList h
  rw [String.toList_append, String.toList_append] at hlist
  exact String.ext (List.append_cancel_left hlist)

theorem forcedText_ne_ignored (shown : String) (pod : Pod) : s!"forced unmanaged pod {shown}" ≠ ignoredText pod := by
  intro h
  have hhead := congrArg (fun s : String => s.toList.head?) h
  unfold ignoredText at hhead
  dsimp only at hhead
  split_ifs at hhead
  · rw [String.toList_append, String.toList_append, List.head?_append_of_ne_nil _ (by decide),
      List.head?_append_of_ne_nil _ (by decide)] at hhead
    revert hhead
    decide
  · rw [String.toList_append, String.toList_append, List.head?_append_of_ne_nil _ (by decide),
      List.head?_append_of_ne_nil _ (by decide)] at hhead
    revert hhead
    decide

theorem unmanaged_of_clear {pods : List Pod} (hclear : (classifyPodsOnNode nodeName pods force).drainable = [])
    (hallowed : force = false → (classifyPodsOnNode nodeName pods force).unmanaged = []) :
    (classifyPodsOnNode nodeName pods force).unmanaged = [] := by
  cases force with
  | false => exact hallowed rfl
  | true =>
    rw [classifyPodsOnNode_eq] at hclear ⊢
    have hnone : ofClasses nodeName pods [.unmanaged, .managed] = [] := List.map_eq_nil_iff.1 hclear
    have hunmanaged : ofClasses nodeName pods [.unmanaged] = [] := by
      rw [List.eq_nil_iff_forall_not_mem] at hnone ⊢
      intro pod hpod
      obtain ⟨hon, hclass⟩ := List.mem_filter.1 hpod
      refine hnone pod (List.mem_filter.2 ⟨hon, ?_⟩)
      rw [decide_eq_true_eq, List.mem_singleton] at hclass
      rw [decide_eq_true_eq, hclass]
      exact List.mem_cons_self
    exact congrArg (List.map displayName) hunmanaged

theorem Reported.count_forced {listed last : List Pod} {polls : List (List Pod)} {r : CommandResult} {tr : ApiTrace}
    (h : Reported nodeName force listed polls last r tr) (shown : String) :
    r.warnings.count s!"forced unmanaged pod {shown}" =
      ((listed :: (polls ++ [last])).flatMap (fun pods => (classifyPodsOnNode nodeName pods force).unmanaged)).count
        shown := by
  have hignored : (classifyPodsOnNode nodeName listed force).daemonset.count s!"forced unmanaged pod {shown}" = 0 := by
    rw [List.count_eq_zero, classifyPodsOnNode_eq]
    intro hmem
    obtain ⟨pod, -, heq⟩ := List.mem_map.1 hmem
    exact forcedText_ne_ignored shown pod heq.symm
  have hforced : (listed :: (polls ++ [last])).flatMap (forcedOf nodeName force) =
      ((listed :: (polls ++ [last])).flatMap (fun pods => (classifyPodsOnNode nodeName pods force).unmanaged)).map
        (fun pod => s!"forced unmanaged pod {pod}") := by
    rw [List.map_flatMap]
    rfl
  rw [h.warnings, List.count_append, hignored, Nat.zero_add, hforced]
  exact List.count_map_of_injective _ _ (fun _ _ heq => forcedText_injective heq) _

theorem Reported.report_iff {listed last : List Pod} {polls : List (List Pod)} {r : CommandResult} {tr : ApiTrace}
    (h : Reported nodeName force listed polls last r tr) :
    DrainReport nodeName force r tr ↔ polls = [] ∧ (classifyPodsOnNode nodeName listed force).unmanaged.Nodup := by
  have hlast : (classifyPodsOnNode nodeName last force).unmanaged = [] :=
    unmanaged_of_clear h.clear (h.allowed last (by simp))
  constructor
  · intro hreport
    have hpolls : polls = [] := by
      by_contra hne
      obtain ⟨pods, hpods⟩ := Option.ne_none_iff_exists'.1 (fun hnone => hne (List.getLast?_eq_none_iff.1 hnone))
      have hnone := hreport.none_left
      rw [h.remaining, hpods] at hnone
      have hnil := strArray_injective (Option.some.inj hnone)
      exact h.busy pods (List.mem_of_getLast? hpods) (List.map_eq_nil_iff.1 hnil)
    refine ⟨hpolls, ?_⟩
    subst hpolls
    cases force with
    | false =>
      rw [h.allowed listed List.mem_cons_self rfl]
      exact List.nodup_nil
    | true =>
      rw [List.nodup_iff_count_eq_one]
      intro shown hshown
      have hcount := hreport.forced rfl listed (by rw [h.lists]; exact List.mem_cons_self) shown hshown
      rw [h.count_forced] at hcount
      simpa [hlast] using hcount
  · rintro ⟨rfl, hnodup⟩
    have hremaining : reported r "remainingPods" = some (strArray []) := h.remaining
    refine ⟨fun pods hpods => ?_, hremaining, h.evicted, fun hforce pods hpods shown hshown => ?_⟩
    · have heq : pods = last := by
        rw [h.lists] at hpods
        simpa using hpods.symm
      rw [heq, hremaining]
      unfold remainingOf
      rw [h.clear]
      rfl
    · have hcases : pods = listed ∨ pods = last := by
        rw [h.lists] at hpods
        simpa using hpods
      rcases hcases with rfl | rfl
      · rw [h.count_forced]
        have hcount := List.count_eq_one_of_mem hnodup hshown
        simpa [hlast] using hcount
      · rw [hlast] at hshown
        cases hshown

/-- **When the report of a drain is right**: exactly when its first poll leaves nothing to drain, and no two unmanaged
pods of its list have one name. -/
theorem drain_report_exact_iff (o : ApiOracle) (fuel : Nat) (cfg : Config) (id : String) (spec : DrainNodeSpec)
    (r : CommandResult) (hrun : ((drainNode fuel cfg id spec).run o []).1 = some r) (hok : r.status = .ok) :
    ∃ listed first rest, podLists ((drainNode fuel cfg id spec).trace o) = .ok listed :: .ok first :: rest ∧
      (DrainReport (RustStr.trim spec.nodeName) spec.force r ((drainNode fuel cfg id spec).trace o) ↔
        (classifyPodsOnNode (RustStr.trim spec.nodeName) first spec.force).drainable = [] ∧
          (classifyPodsOnNode (RustStr.trim spec.nodeName) listed spec.force).unmanaged.Nodup) := by
  obtain ⟨listed, polls, last, h⟩ := result_meets o _ (drainNode_reported fuel cfg id spec) r hrun hok
  cases polls with
  | nil =>
    refine ⟨listed, last, [], h.lists, ?_⟩
    rw [h.report_iff]
    exact ⟨fun hreport => ⟨h.clear, hreport.2⟩, fun hclear => ⟨rfl, hclear.2⟩⟩
  | cons first polls =>
    refine ⟨listed, first, (polls ++ [last]).map .ok, h.lists, ?_⟩
    rw [h.report_iff]
    constructor
    · rintro ⟨hnil, -⟩
      cases hnil
    · rintro ⟨hclear, -⟩
      exact absurd hclear (h.busy first List.mem_cons_self)

/-! ### A drain that has to wait -/

def barePod : Pod := { metadata := { name := some "web", namespace_ := some "app" }, nodeName := some "worker-01" }

def forcedSpec : DrainNodeSpec := { nodeName := "worker-01", force := true }

/-- The pod is still there at the first poll, and gone at the second. -/
theorem slow_drain_report :
    ((drainNode 2 actingConfig "1" forcedSpec).run (drainOracle [[barePod], [barePod]]) []).1.map
        (fun r => (r.status, reported r "remainingPods", r.warnings)) =
      some (.ok, some (strArray ["app/web"]), ["forced unmanaged pod app/web", "forced unmanaged pod app/web"]) ∧
    ¬ ∀ o fuel cfg id spec r, ((drainNode fuel cfg id spec).run o []).1 = some r → r.status = .ok →
      DrainReport (RustStr.trim spec.nodeName) spec.force r ((drainNode fuel cfg id spec).trace o) := by
  refine ⟨rfl, fun h => ?_⟩
  have hreport := h (drainOracle [[barePod], [barePod]]) 2 actingConfig "1" forcedSpec _ rfl rfl
  have hremaining : some (strArray ["app/web"]) = some (strArray []) := hreport.none_left
  cases strArray_injective (Option.some.inj hremaining)

/-- A drain whose pod is gone at once. -/
theorem drain_report_exact_iff_quick :
    ∃ r listed first rest,
      podLists ((drainNode 2 actingConfig "1" forcedSpec).trace (drainOracle [[barePod]])) = .ok listed :: .ok first :: rest ∧
      (DrainReport (RustStr.trim forcedSpec.nodeName) true r
          ((drainNode 2 actingConfig "1" forcedSpec).trace (drainOracle [[barePod]])) ↔
        (classifyPodsOnNode (RustStr.trim forcedSpec.nodeName) first true).drainable = [] ∧
          (classifyPodsOnNode (RustStr.trim forcedSpec.nodeName) listed true).unmanaged.Nodup) :=
  ⟨_, drain_report_exact_iff (drainOracle [[barePod]]) 2 actingConfig "1" forcedSpec _ rfl rfl⟩

end Executor
end HubAgent
