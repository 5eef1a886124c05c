import HubAgent.Drain
/-!
# The classes of the pods on a node (`executor.rs`)

A drain sorts the pods of a list into four classes.  `classifyPodsOnNode_eq` says what each of its three outputs is: the
pods of the node that are of certain classes, in the order of the list.  What a drain evicts it takes from the third
output for its first list (`drainNode_evictions`), so that mirror pods and those of a DaemonSet are spared.
-/
namespace HubAgent
namespace Executor

open Interaction

inductive PodClass where
  | mirror
  | daemonSet
  | unmanaged
  | managed
  deriving DecidableEq, Repr

def HasMirrorAnnotation (pod : Pod) : Prop :=
  ∃ annotations value, pod.metadata.annotations = some annotations ∧
    annotations.lookup "kubernetes.io/config.mirror" = some value

/-- The owners of a pod; a pod that names none has none. -/
def podOwners (pod : Pod) : List OwnerReference := pod.metadata.ownerReferences.getD []

/-- **What a pod is of each class by**: a mirror pod may have owners, and a pod of a DaemonSet other owners. -/
inductive InClass (pod : Pod) : PodClass → Prop
  | mirror (annotated : HasMirrorAnnotation pod) : InClass pod .mirror
  | daemonSet (plain : ¬ HasMirrorAnnotation pod) (owned : ∃ owner ∈ podOwners pod, owner.kind = "DaemonSet") :
      InClass pod .daemonSet
  | unmanaged (plain : ¬ HasMirrorAnnotation pod) (unowned : podOwners pod = []) : InClass pod .unmanaged
  | managed (plain : ¬ HasMirrorAnnotation pod) (owned : podOwners pod ≠ [])
      (others : ∀ owner ∈ podOwners pod, owner.kind ≠ "DaemonSet") : InClass pod .managed

def podClass (pod : Pod) : PodClass :=
  if podIsMirror pod then .mirror
  else if (podOwnerKinds pod).contains "DaemonSet" then .daemonSet
  else if podOwnerKinds pod = [] then .unmanaged
  else .managed

theorem podIsMirror_iff {pod : Pod} : podIsMirror pod = true ↔ HasMirrorAnnotation pod := by
  unfold podIsMirror HasMirrorAnnotation
  rw [Option.isSome_iff_exists]
  simp only [Option.bind_eq_some_iff]
  constructor
  · rintro ⟨value, annotations, h⟩
    exact ⟨annotations, value, h⟩
  · rintro ⟨annotations, value, h⟩
    exact ⟨value, annotations, h⟩

theorem contains_podOwnerKinds_iff {pod : Pod} :
    (podOwnerKinds pod).contains "DaemonSet" = true ↔ ∃ owner ∈ podOwners pod, owner.kind = "DaemonSet" := by
  unfold podOwnerKinds podOwners
  rw [List.contains_iff_mem, List.mem_map]

theorem podOwnerKinds_eq_nil_iff {pod : Pod} : podOwnerKinds pod = [] ↔ podOwners pod = [] := by
  unfold podOwnerKinds podOwners
  rw [List.map_eq_nil_iff]

theorem inClass_podClass (pod : Pod) : InClass pod (podClass pod) := by
  unfold podClass
  split_ifs with hmirror hdaemonSet hunowned
  · exact .mirror (podIsMirror_iff.1 hmirror)
  · exact .daemonSet (fun h => hmirror (podIsMirror_iff.2 h)) (contains_podOwnerKinds_iff.1 hdaemonSet)
  · exact .unmanaged (fun h => hmirror (podIsMirror_iff.2 h)) (podOwnerKinds_eq_nil_iff.1 hunowned)
  · refine .managed (fun h => hmirror (podIsMirror_iff.2 h)) (fun h => hunowned (podOwnerKinds_eq_nil_iff.2 h)) ?_
    exact fun owner howner hkind => hdaemonSet (contains_podOwnerKinds_iff.2 ⟨owner, howner, hkind⟩)

/-- **Every pod is of exactly one class.** -/
theorem inClass_iff {pod : Pod} {c : PodClass} : InClass pod c ↔ podClass pod = c := by
  constructor
  · intro h
    unfold podClass
    cases h with
    | mirror annotated => rw [if_pos (podIsMirror_iff.2 annotated)]
    | daemonSet plain owned =>
      rw [if_neg (fun h => plain (podIsMirror_iff.1 h)), if_pos (contains_podOwnerKinds_iff.2 owned)]
    | unmanaged plain unowned =>
      have hkinds := podOwnerKinds_eq_nil_iff.2 unowned
      rw [if_neg (fun h => plain (podIsMirror_iff.1 h)), if_pos hkinds, hkinds]
      rfl
    | managed plain owned others =>
      have hdaemonSet : ¬ (podOwnerKinds pod).contains "DaemonSet" = true := by
        intro h
        obtain ⟨owner, howner, hkind⟩ := contains_podOwnerKinds_iff.1 h
        exact others owner howner hkind
      rw [if_neg (fun h => plain (podIsMirror_iff.1 h)), if_neg hdaemonSet,
        if_neg (fun h => owned (podOwnerKinds_eq_nil_iff.1 h))]
  · rintro rfl
    exact inClass_podClass pod

/-! ## The outputs -/

def displayName (pod : Pod) : String :=
  let namespace_ := pod.metadata.namespace_.getD ""
  let name := pod.metadata.name.getD ""
  s!"{namespace_}/{name}"

/-- What the first output says of a pod that a drain leaves where it is. -/
def ignoredText (pod : Pod) : String :=
  let shown := displayName pod
  if podClass pod = .mirror then s!"ignored mirror pod {shown}" else s!"ignored DaemonSet pod {shown}"

def onNode (nodeName : String) (pods : List Pod) : List Pod := pods.filter (fun pod => pod.nodeName = some nodeName)

/-- The pods of the list that are bound to the node and of one of the classes, in the order of the list. -/
def ofClasses (nodeName : String) (pods : List Pod) (classes : List PodClass) : List Pod :=
  (onNode nodeName pods).filter (fun pod => podClass pod ∈ classes)

def drainedClasses (force : Bool) : List PodClass := if force then [.unmanaged, .managed] else [.managed]

variable {nodeName : String} {force : Bool}

theorem onNode_cons (pod : Pod) (pods : List Pod) :
    onNode nodeName (pod :: pods) = onNode nodeName [pod] ++ onNode nodeName pods := by
  unfold onNode
  rw [← List.filter_append, List.singleton_append]

theorem ofClasses_cons (pod : Pod) (pods : List Pod) (classes : List PodClass) :
    ofClasses nodeName (pod :: pods) classes = ofClasses nodeName [pod] classes ++ ofClasses nodeName pods classes := by
  unfold ofClasses
  rw [onNode_cons, List.filter_append]

def classesOf (nodeName : String) (pods : List Pod) (force : Bool) : PodClasses where
  daemonset := (ofClasses nodeName pods [.mirror, .daemonSet]).map ignoredText
  unmanaged := (ofClasses nodeName pods [.unmanaged]).map displayName
  drainable := (ofClasses nodeName pods (drainedClasses force)).map podKey

theorem ofClasses_singleton (pod : Pod) (classes : List PodClass) : ofClasses nodeName [pod] classes =
    if pod.nodeName = some nodeName ∧ podClass pod ∈ classes then [pod] else [] := by
  unfold ofClasses onNode
  by_cases hnode : pod.nodeName = some nodeName
  · by_cases hclass : podClass pod ∈ classes
    · simp [hnode, hclass]
    · simp [hnode, hclass]
  · simp [hnode]

theorem classifyPod_eq (acc : PodClasses) (pod : Pod) : classifyPod nodeName force acc pod =
    ⟨acc.daemonset ++ (classesOf nodeName [pod] force).daemonset,
      acc.unmanaged ++ (classesOf nodeName [pod] force).unmanaged,
      acc.drainable ++ (classesOf nodeName [pod] force).drainable⟩ := by
  unfold classifyPod
  dsimp only
  split_ifs with hnode hmirror hdaemonSet hunowned hforce
  · simp [classesOf, ofClasses_singleton, hnode]
  · have hclass : podClass pod = .mirror := if_pos hmirror
    cases force <;>
      simp [classesOf, ofClasses_singleton, not_not.1 hnode, hclass, ignoredText, displayName, drainedClasses]
  · have hclass : podClass pod = .daemonSet := (if_neg hmirror).trans (if_pos hdaemonSet)
    cases force <;>
      simp [classesOf, ofClasses_singleton, not_not.1 hnode, hclass, ignoredText, displayName, drainedClasses]
  · have hclass : podClass pod = .unmanaged :=
      (if_neg hmirror).trans ((if_neg hdaemonSet).trans (if_pos hunowned))
    simp [classesOf, ofClasses_singleton, not_not.1 hnode, hclass, displayName, drainedClasses, hforce, podKey]
  · have hclass : podClass pod = .unmanaged :=
      (if_neg hmirror).trans ((if_neg hdaemonSet).trans (if_pos hunowned))
    simp [classesOf, ofClasses_singleton, not_not.1 hnode, hclass, displayName, drainedClasses, hforce]
  · have hclass : podClass pod = .managed :=
      (if_neg hmirror).trans ((if_neg hdaemonSet).trans (if_neg hunowned))
    cases force <;> simp [classesOf, ofClasses_singleton, not_not.1 hnode, hclass, drainedClasses, podKey]

theorem foldl_classifyPod_eq : ∀ (pods : List Pod) (acc : PodClasses),
    pods.foldl (classifyPod nodeName force) acc = ⟨acc.daemonset ++ (classesOf nodeName pods force).daemonset,
      acc.unmanaged ++ (classesOf nodeName pods force).unmanaged,
      acc.drainable ++ (classesOf nodeName pods force).drainable⟩
  | [], acc => by simp [classesOf, ofClasses, onNode]
  | pod :: pods, acc => by
    rw [List.foldl_cons, foldl_classifyPod_eq pods, classifyPod_eq]
    simp [classesOf, ofClasses_cons pod pods]

/-- **The outputs are the pods of certain classes, in the order of the list.** -/
theorem classifyPodsOnNode_eq (nodeName : String) (pods : List Pod) (force : Bool) :
    classifyPodsOnNode nodeName pods force = classesOf nodeName pods force := by
  rw [classifyPodsOnNode, foldl_classifyPod_eq]
  simp

/-- Pods that are not bound to the node are as good as absent. -/
theorem classifyPodsOnNode_onNode (pods : List Pod) :
    classifyPodsOnNode nodeName (onNode nodeName pods) force = classifyPodsOnNode nodeName pods force := by
  have hidem : onNode nodeName (onNode nodeName pods) = onNode nodeName pods := by
    unfold onNode
    rw [List.filter_filter]
    simp
  rw [classifyPodsOnNode_eq, classifyPodsOnNode_eq]
  unfold classesOf ofClasses
  rw [hidem]

/-! ## What is evicted -/

/-- The condition on an eviction: it names a drainable pod of the first list of the drain. -/
def EvictsListed (nodeName : String) (force : Bool) (tr : ApiTrace) (op : ApiCall) : Prop :=
  ∀ ns name eviction, op = .createEviction ns name eviction → eviction.name = name ∧ eviction.namespace_ = ns ∧
    ∃ listed polls, podLists tr = .ok listed :: polls ∧ (ns, name) ∈ (classifyPodsOnNode nodeName listed force).drainable

theorem evictsListed_of_not {tr : ApiTrace} {op : ApiCall} (h : op.mutatesLive = false) :
    EvictsListed nodeName force tr op := by
  rintro ns name eviction rfl
  cases h

theorem evictPods_listed {listed : List Pod} {polls : List (ApiResult (List Pod))} (opts : Option DeleteOptions) :
    ∀ (rest : List (String × String)) (evicted : List String) (tr : ApiTrace), podLists tr = .ok listed :: polls →
      (∀ key ∈ rest, key ∈ (classifyPodsOnNode nodeName listed force).drainable) →
      (evictPods nodeName opts rest evicted).Meets (EvictsListed nodeName force) (fun _ _ => True) tr
  | [], _, _, _, _ => trivial
  | (ns, name) :: rest, evicted, tr, htr, hrest => by
    refine (meets_ask_bind _ _).2 ⟨?_, fun answer => ?_⟩
    · rintro ns' name' eviction ⟨⟩
      exact ⟨rfl, rfl, listed, polls, htr, hrest _ List.mem_cons_self⟩
    · cases answer with
      | error e => trivial
      | ok answer =>
        have hlists : podLists (tr ++ [⟨.createEviction ns name ⟨opts, name, ns⟩, .ok answer⟩]) = .ok listed :: polls := by
          rw [podLists_append, htr]
          exact List.append_nil _
        exact evictPods_listed opts rest _ _ hlists (fun key hkey => hrest key (List.mem_cons_of_mem _ hkey))

theorem podLists_eq_nil {tr : ApiTrace} (h : ∀ e ∈ tr, e.call.ofDrain = false) : podLists tr = [] := by
  unfold podLists
  rw [List.filterMap_eq_nil_iff]
  rintro ⟨op, answer⟩ he
  have hop := h _ he
  cases op <;> first | rfl | cases hop

section Rule

-- What is used of the program is in its rule.
attribute [local irreducible] drainNode

/-- **A drain evicts drainable pods of its first list only.** -/
theorem drainNode_evictions (fuel : Nat) (cfg : Config) (id : String) (spec : DrainNodeSpec) :
    (drainNode fuel cfg id spec).Meets (EvictsListed (RustStr.trim spec.nodeName) spec.force) (fun _ _ => True) [] := by
  have hreads : AllowsReads (EvictsListed (RustStr.trim spec.nodeName) spec.force) :=
    fun _ _ hop => evictsListed_of_not hop
  have hsimple : ∀ message tr, (simple id .error message).Meets (EvictsListed (RustStr.trim spec.nodeName) spec.force)
      (fun _ _ => True) tr := fun message tr => (readOnly_simple _ _ _).allowed hreads tr
  refine drainNode_rule fuel cfg id spec (fun tr op hop => ?_) (fun _ _ => hreads _ _ rfl) hsimple
    (fun pre listed timeoutSeconds opts before hpre _ => ?_)
  · rintro ns name eviction rfl
    cases hop
  · have hlists : podLists (pre ++ [⟨.listPods (fieldSelectorOf (RustStr.trim spec.nodeName)), .ok listed⟩]) =
        [.ok listed] := by
      rw [podLists_append, podLists_eq_nil hpre]
      rfl
    refine (meets_ask_bind _ _).2 ⟨nofun, fun cordoned => ?_⟩
    cases cordoned with
    | error e => exact hsimple _ _
    | ok node =>
      have hevictions := evictPods_listed opts (classifyPodsOnNode (RustStr.trim spec.nodeName) listed
        spec.force).drainable [] (pre ++ [⟨.listPods (fieldSelectorOf (RustStr.trim spec.nodeName)), .ok listed⟩] ++
          [⟨.patchNode (RustStr.trim spec.nodeName) false cordonPatch, .ok node⟩])
        (by rw [podLists_append, hlists]; rfl) (fun _ h => h)
      refine hevictions.bind (fun evictions tr _ => ?_)
      cases evictions with
      | error message => exact hsimple _ _
      | ok evicted =>
        refine ReadOnly.allowed hreads (readOnly_bind (readOnly_ask rfl) (fun start =>
          readOnly_bind (readOnly_awaitDrained _ _ _ _ _ _ _) (fun waited => ?_))) _
        cases waited with
        | error message => exact readOnly_simple _ _ _
        | ok waited => exact readOnly_bind (readOnly_simple _ _ _) (fun _ => readOnly_pure _)

end Rule

/-- A pod that a drain may evict. -/
structure MayEvict (nodeName : String) (force : Bool) (pod : Pod) : Prop where
  onNode : pod.nodeName = some nodeName
  class_ : InClass pod .managed ∨ InClass pod .unmanaged ∧ force = true

theorem mem_drainable {pods : List Pod} {key : String × String}
    (h : key ∈ (classifyPodsOnNode nodeName pods force).drainable) :
    ∃ pod ∈ pods, podKey pod = key ∧ MayEvict nodeName force pod := by
  rw [classifyPodsOnNode_eq] at h
  obtain ⟨pod, hpod, rfl⟩ := List.mem_map.1 h
  obtain ⟨hon, hclass⟩ := List.mem_filter.1 hpod
  obtain ⟨hmem, hnode⟩ := List.mem_filter.1 hon
  refine ⟨pod, hmem, rfl, of_decide_eq_true hnode, ?_⟩
  have hdrained := of_decide_eq_true hclass
  unfold drainedClasses at hdrained
  split_ifs at hdrained with hforce
  · rcases List.mem_cons.1 hdrained with hunmanaged | hmanaged
    · exact .inr ⟨inClass_iff.2 hunmanaged, hforce⟩
    · exact .inl (inClass_iff.2 (List.mem_singleton.1 hmanaged))
  · exact .inl (inClass_iff.2 (List.mem_singleton.1 hdrained))

/-- **What an eviction of a drain names**: a pod of the drain's first list that it may evict, and so, among any pods
that differ in their names and hold those of the list, no pod of another kind. -/
structure NamesEvictable (nodeName : String) (force : Bool) (pre : ApiTrace) (ns name : String) (eviction : Eviction) :
    Prop where
  itself : eviction.name = name ∧ eviction.namespace_ = ns
  evictable : ∃ listed polls, podLists pre = .ok listed :: polls ∧
    (∃ pod ∈ listed, podKey pod = (ns, name) ∧ MayEvict nodeName force pod) ∧
    ∀ cluster : Set Pod, (∀ pod ∈ listed, pod ∈ cluster) → Set.InjOn podKey cluster →
      ∀ pod ∈ cluster, podKey pod = (ns, name) → MayEvict nodeName force pod

/-- **The pods of a node are partitioned**, the outputs are what the classes say, and no drain sends an eviction for a
mirror pod, a pod of a DaemonSet or a pod of another node, or without force for an unmanaged pod. -/
theorem classification_exact :
    (∀ pod, ∃! c, InClass pod c) ∧
    (∀ nodeName pods force, classifyPodsOnNode nodeName pods force = classesOf nodeName pods force ∧
      classifyPodsOnNode nodeName (onNode nodeName pods) force = classifyPodsOnNode nodeName pods force) ∧
    (∀ (o : ApiOracle) (fuel : Nat) (cfg : Config) (id : String) (spec : DrainNodeSpec) (pre post : ApiTrace)
      (ns name : String) (eviction : Eviction) (answer : ApiResult Unit),
      (drainNode fuel cfg id spec).trace o = pre ++ ⟨.createEviction ns name eviction, answer⟩ :: post →
        NamesEvictable (RustStr.trim spec.nodeName) spec.force pre ns name eviction) := by
  refine ⟨fun pod => ?_, fun nodeName pods force => ?_, ?_⟩
  · exact ⟨podClass pod, inClass_podClass pod, fun c hc => (inClass_iff.1 hc).symm⟩
  · exact ⟨classifyPodsOnNode_eq nodeName pods force, classifyPodsOnNode_onNode pods⟩
  · intro o fuel cfg id spec pre post ns name eviction answer hs
    obtain ⟨hname, hnamespace, listed, polls, hlists, hmem⟩ :=
      trace_meets o _ (drainNode_evictions fuel cfg id spec) pre post _ hs ns name eviction rfl
    obtain ⟨pod, hpod, hkey, hevict⟩ := mem_drainable hmem
    refine ⟨⟨hname, hnamespace⟩, listed, polls, hlists, ⟨pod, hpod, hkey, hevict⟩, ?_⟩
    intro cluster hlisted hinj pod' hpod' hkey'
    rw [hinj hpod' (hlisted pod hpod) (hkey'.trans hkey.symm)]
    exact hevict

/-- An API server with one pod list after the other for the node, and then none. -/
def drainOracle (lists : List (List Pod)) : ApiOracle := fun tr op =>
  match op with
  | .listPods _ => .ok (lists.getD (podLists tr).length [])
  | op => calmOracle 5 [Drain.drainPolicy] tr op

theorem classification_exact_web : NamesEvictable (RustStr.trim Drain.workerSpec.nodeName) false
    [⟨.listActionPolicies, .ok [.ok Drain.drainPolicy]⟩, ⟨.nowMs, (5 : Nat)⟩, ⟨.getNode "worker-01", .ok {}⟩,
      ⟨.listPods (fieldSelectorOf "worker-01"), .ok [Drain.webPod.pod]⟩,
      ⟨.patchNode "worker-01" false cordonPatch, .ok {}⟩] "app" "web" ⟨none, "web", "app"⟩ :=
  classification_exact.2.2 (drainOracle [[Drain.webPod.pod]]) 1 actingConfig "1" Drain.workerSpec _ _ "app" "web"
    ⟨none, "web", "app"⟩ (.ok ()) (by rfl)

end Executor
end HubAgent
