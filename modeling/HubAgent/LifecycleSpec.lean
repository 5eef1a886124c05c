import HubAgent.Lifecycle
/-!
# What the lifecycle does to namespaces

Over any run, whatever the answers: a label is set only on a namespace that neither the built-in exclusions nor those of
the ConfigMap last seen match, and a namespace that was listed with `action-mode=false` is left alone.  The invariant
ties the loop's two variables together: while the flag is on, the exclusions are those of the ConfigMap last seen
(`LoopInv`).  A pass that succeeds leaves nothing to do for a second one (`second_pass_patches_nothing`).
-/
namespace HubAgent
namespace Lifecycle

open Interaction
open Operator (namespaceIsExcluded actionModeNamespaceLabel actionModeNamespaceLabelEnabled)

/-! ## What a history shows -/

def sight : LifeEvent → Option ConfigMap
  | ⟨.getConfigMap, .ok cm⟩ => some cm
  | ⟨.select, .item (.ok (.added cm))⟩ => some cm
  | ⟨.select, .item (.ok (.modified cm))⟩ => some cm
  | _ => none

def lastSeen (tr : LifeTrace) : Option ConfigMap := lastOf sight tr

def listing : LifeEvent → Option (List Namespace)
  | ⟨.listNamespaces, .ok namespaces⟩ => some namespaces
  | _ => none

def lastListed (tr : LifeTrace) : Option (List Namespace) := lastOf listing tr

/-- The exclusions in force are those of the ConfigMap last seen. -/
def Seen (tr : LifeTrace) (excluded : Finset String) : Prop :=
  ∃ cm, lastSeen tr = some cm ∧ excluded = actionOperatorExcludedNamespaces cm

/-- **When a namespace may be patched.** -/
structure MayPatch (tr : LifeTrace) (name : String) (value : Option String) : Prop where
  listed : ∃ listed ns, lastListed tr = some listed ∧ ns ∈ listed ∧ ns.metadata.name = some name ∧
    namespaceActionModeValue ns ≠ some "false"
  allowed : ∀ v, value = some v → v = actionModeNamespaceLabelEnabled ∧
    ∃ excluded, Seen tr excluded ∧ namespaceIsExcluded name excluded = false

def LabelAllowed (tr : LifeTrace) : LifecycleCall → Prop
  | .patchLabel name value => MayPatch tr name value
  | _ => True

/-! ## One namespace -/

/-- What a pass does to a namespace: nothing, or set (`some`) or remove (`none`) its label. -/
def labelPatch (enabled : Bool) (excluded : Finset String) (ns : Namespace) : Option (String × Option String) :=
  match ns.metadata.name with
  | none => none
  | some name =>
    if namespaceIsExcluded name excluded then
      if namespaceActionModeValue ns ≠ some "false" ∧ (namespaceActionModeValue ns).isSome then some (name, none)
      else none
    else
      match enabled, namespaceActionModeValue ns with
      | true, some value =>
        if value = actionModeNamespaceLabelEnabled ∨ value = "false" then none
        else some (name, some actionModeNamespaceLabelEnabled)
      | true, none => some (name, some actionModeNamespaceLabelEnabled)
      | false, some value => if value = actionModeNamespaceLabelEnabled then some (name, none) else none
      | false, none => none

def labelContext (name : String) : Option String → String
  | some _ => s!"set action-mode label on namespace {name}"
  | none => s!"remove action-mode label from namespace {name}"

def patchNamespace (p : String × Option String) : Life (Except String Unit) :=
  withContext (labelContext p.1 p.2) (request (.patchLabel p.1 p.2))

theorem reconcileNamespace_eq (enabled : Bool) (excluded : Finset String) (ns : Namespace) :
    reconcileNamespace enabled excluded ns =
      match labelPatch enabled excluded ns with
      | none => pure (.ok ())
      | some p => patchNamespace p := by
  unfold reconcileNamespace labelPatch
  cases ns.metadata.name with
  | none => rfl
  | some name =>
    simp only
    split_ifs with hexcl hlabel
    · rfl
    · rfl
    · cases namespaceActionModeValue ns with
      | none => cases enabled <;> rfl
      | some value =>
        cases enabled <;> simp only <;> split_ifs <;> rfl

/-- The label that a pass wants a namespace of that name to have once it has touched it. -/
def wantedLabel (enabled : Bool) (excluded : Finset String) (name : String) : Option String :=
  if namespaceIsExcluded name excluded then none
  else if enabled then some actionModeNamespaceLabelEnabled else none

/-- **What a patch of a pass says of the namespace it is for.** -/
theorem labelPatch_eq_some {enabled : Bool} {excluded : Finset String} {ns : Namespace} {p : String × Option String}
    (h : labelPatch enabled excluded ns = some p) :
    ns.metadata.name = some p.1 ∧ namespaceActionModeValue ns ≠ some "false" ∧
      p.2 = wantedLabel enabled excluded p.1 := by
  unfold labelPatch at h
  cases hname : ns.metadata.name with
  | none => simp [hname] at h
  | some name =>
    simp only [hname] at h
    unfold wantedLabel
    split_ifs at h with hexcl hlabel
    · cases h
      exact ⟨rfl, hlabel.1, by rw [if_pos hexcl]⟩
    · cases enabled <;> cases hval : namespaceActionModeValue ns <;> simp only [hval] at h
      · cases h
      · split_ifs at h with hon
        cases h
        refine ⟨rfl, ?_, by simp [hexcl]⟩
        rw [hon]
        decide
      · cases h
        exact ⟨rfl, by simp, by simp [hexcl]⟩
      · split_ifs at h with hoff
        cases h
        refine ⟨rfl, ?_, by simp [hexcl]⟩
        intro heq
        cases heq
        exact hoff (.inr rfl)

theorem labelPatch_of_wanted {enabled : Bool} {excluded : Finset String} {ns : Namespace} {name : String}
    (hname : ns.metadata.name = some name) (h : namespaceActionModeValue ns = wantedLabel enabled excluded name) :
    labelPatch enabled excluded ns = none := by
  unfold labelPatch wantedLabel at *
  simp only [hname, h]
  by_cases hexcl : namespaceIsExcluded name excluded = true
  · simp [hexcl]
  · cases enabled <;> simp [hexcl]

/-! ## One pass over the labels -/

theorem lastSeen_concat_of_none {tr : LifeTrace} {e : LifeEvent} (h : sight e = none) :
    lastSeen (tr ++ [e]) = lastSeen tr := by
  rw [lastSeen, lastOf_concat, h]
  rfl

theorem lastListed_concat_of_none {tr : LifeTrace} {e : LifeEvent} (h : listing e = none) :
    lastListed (tr ++ [e]) = lastListed tr := by
  rw [lastListed, lastOf_concat, h]
  rfl

theorem Seen.of_eq {tr tr' : LifeTrace} {excluded : Finset String} (h : Seen tr excluded)
    (heq : lastSeen tr' = lastSeen tr) : Seen tr' excluded := by
  obtain ⟨cm, hcm, hx⟩ := h
  exact ⟨cm, heq.trans hcm, hx⟩

theorem meets_patchNamespace {p : String × Option String} {next : Unit → Life (Except String Unit)} {tr : LifeTrace}
    {P : LifeTrace → LifecycleCall → Prop} {Q : Except String Unit → LifeTrace → Prop}
    (hp : P tr (.patchLabel p.1 p.2)) (herr : ∀ r e, Q r (tr ++ [⟨.patchLabel p.1 p.2, .error e⟩]))
    (hok : (next ()).Meets P Q (tr ++ [⟨.patchLabel p.1 p.2, .ok ()⟩])) :
    (andThen (patchNamespace p) next).Meets P Q tr := by
  refine ⟨hp, fun x => ?_⟩
  cases x with
  | error e => exact herr _ e
  | ok u => exact hok

/-- The loop over the namespaces `rest` of the last list. -/
theorem reconcileNamespaces_meets {enabled : Bool} {excluded : Finset String} {listed : List Namespace} :
    ∀ (rest : List Namespace) (tr : LifeTrace), rest ⊆ listed → lastListed tr = some listed →
      (enabled = true → Seen tr excluded) →
      (reconcileNamespaces enabled excluded rest).Meets LabelAllowed (fun _ tr' => lastSeen tr' = lastSeen tr) tr
  | [], _, _, _, _ => rfl
  | ns :: rest, tr, hsub, hlisted, hseen => by
    have hrest : rest ⊆ listed := fun x hx => hsub (List.mem_cons_of_mem ns hx)
    rw [reconcileNamespaces, reconcileNamespace_eq]
    cases hp : labelPatch enabled excluded ns with
    | none => exact reconcileNamespaces_meets rest tr hrest hlisted hseen
    | some p =>
      obtain ⟨hname, hlabel, hwanted⟩ := labelPatch_eq_some hp
      have hmay : MayPatch tr p.1 p.2 := by
        refine ⟨⟨listed, ns, hlisted, hsub (by simp), hname, hlabel⟩, ?_⟩
        intro v hv
        rw [hwanted, wantedLabel] at hv
        split_ifs at hv with hexcl hon
        cases hv
        exact ⟨rfl, excluded, hseen hon, by simpa using hexcl⟩
      apply meets_patchNamespace hmay
      · intro _ e
        exact lastSeen_concat_of_none rfl
      · have hkeep : lastSeen (tr ++ [⟨.patchLabel p.1 p.2, .ok ()⟩]) = lastSeen tr := lastSeen_concat_of_none rfl
        rw [← hkeep]
        apply reconcileNamespaces_meets rest _ hrest
        · rw [lastListed_concat_of_none rfl]
          exact hlisted
        · exact fun hon => (hseen hon).of_eq hkeep

theorem reconcileActionModeNamespaces_meets {enabled : Bool} {excluded : Finset String} {tr : LifeTrace}
    (hseen : enabled = true → Seen tr excluded) :
    (reconcileActionModeNamespaces enabled excluded).Meets LabelAllowed
      (fun _ tr' => lastSeen tr' = lastSeen tr) tr := by
  refine ⟨trivial, fun x => ?_⟩
  cases x with
  | error e => exact lastSeen_concat_of_none rfl
  | ok namespaces =>
    have hkeep : lastSeen (tr ++ [⟨.listNamespaces, .ok namespaces⟩]) = lastSeen tr := lastSeen_concat_of_none rfl
    have hlisted : lastListed (tr ++ [⟨.listNamespaces, .ok namespaces⟩]) = some namespaces := by
      rw [lastListed, lastOf_concat]
      rfl
    rw [← hkeep]
    exact reconcileNamespaces_meets namespaces _ (fun _ h => h) hlisted (fun hon => (hseen hon).of_eq hkeep)

/-! ## The rest of a reconcile -/

/-- The calls that neither read the ConfigMap nor touch a namespace. -/
def LifecycleCall.Housekeeping : LifecycleCall → Prop
  | .isLeader | .sleep _ | .getPod _ _ | .getOpt _ | .patch _ | .create _ | .delete _ => True
  | _ => False

theorem LifecycleCall.Housekeeping.allowed {op : LifecycleCall} (h : op.Housekeeping) (tr : LifeTrace) :
    LabelAllowed tr op := by
  cases op <;> first | exact trivial | exact h.elim

theorem LifecycleCall.Housekeeping.sight {e : LifeEvent} (h : e.call.Housekeeping) : sight e = none := by
  obtain ⟨call, answer⟩ := e
  cases call <;> first | rfl | exact h.elim

section Housekeeping

variable {α β : Type} {C : LifecycleCall → Prop}

theorem only_andThen {step : Life (Except String α)} {next : α → Life (Except String β)} (hs : step.Only C)
    (hn : ∀ a, (next a).Only C) : (andThen step next).Only C := by
  apply only_bind hs
  intro r
  cases r with
  | error e => exact only_pure _
  | ok a => exact hn a

theorem only_withContext {context : String} {call : Life (ApiResult Unit)} (h : call.Only C) :
    (withContext context call).Only C := by
  apply only_bind h
  intro r
  cases r <;> exact only_pure _

theorem ensureManaged_only (desired : Desired) (what : String) :
    (ensureManaged desired what).Only LifecycleCall.Housekeeping := by
  apply only_bind (only_ask trivial)
  intro r
  rcases r with e | _ | _
  · exact only_pure _
  · exact only_withContext (only_ask trivial)
  · exact only_withContext (only_ask trivial)

theorem removeManaged_only (object : Managed) (what : String) :
    (removeManaged object what).Only LifecycleCall.Housekeeping := by
  apply only_bind (only_ask trivial)
  intro r
  rcases r with e | _ | _
  · exact only_pure _
  · exact only_pure _
  · exact only_withContext (only_ask trivial)

theorem resolveOperatorImage_only (namespace_ podName : String) :
    (resolveOperatorImage namespace_ podName).Only LifecycleCall.Housekeeping := by
  apply only_bind (only_ask trivial)
  intro r
  cases r with
  | error e => exact only_pure _
  | ok containers =>
    dsimp only
    split <;> exact only_pure _

theorem ensureOperatorResources_only (namespace_ podName : String) :
    (ensureOperatorResources namespace_ podName).Only LifecycleCall.Housekeeping :=
  only_andThen (resolveOperatorImage_only _ _) fun _ =>
    only_andThen (ensureManaged_only _ _) fun _ => ensureManaged_only _ _

theorem removeOperatorResources_only (namespace_ : String) :
    (removeOperatorResources namespace_).Only LifecycleCall.Housekeeping :=
  only_andThen (removeManaged_only _ _) fun _ => removeManaged_only _ _

end Housekeeping

theorem housekeeping_meets {α : Type} {m : Life α} (h : m.Only LifecycleCall.Housekeeping) (tr : LifeTrace) :
    m.Meets LabelAllowed (fun _ tr' => lastSeen tr' = lastSeen tr) tr := by
  refine (h.meets (fun tr _ hop => hop.allowed tr) tr).mono (fun _ _ hp => hp) ?_
  rintro _ _ ⟨later, rfl, hlater⟩
  exact lastOf_append_of_none tr (fun e he => (hlater e he).sight)

theorem meets_andThen {α β : Type} {step : Life (Except String α)} {next : α → Life (Except String β)} {tr : LifeTrace}
    (hs : step.Only LifecycleCall.Housekeeping)
    (hn : ∀ a tr', lastSeen tr' = lastSeen tr →
      (next a).Meets LabelAllowed (fun _ tr'' => lastSeen tr'' = lastSeen tr') tr') :
    (andThen step next).Meets LabelAllowed (fun _ tr' => lastSeen tr' = lastSeen tr) tr := by
  apply (housekeeping_meets hs tr).bind
  intro r tr' hkeep
  cases r with
  | error e => exact hkeep
  | ok a => exact (hn a tr' hkeep).mono (fun _ _ hp => hp) (fun _ _ hq => hq.trans hkeep)

theorem reconcileOperatorWorkload_meets (namespace_ podName : String) {enabled : Bool} {excluded : Finset String}
    {tr : LifeTrace} (hseen : enabled = true → Seen tr excluded) :
    (reconcileOperatorWorkload namespace_ podName enabled excluded).Meets LabelAllowed
      (fun _ tr' => lastSeen tr' = lastSeen tr) tr := by
  cases enabled with
  | false => exact housekeeping_meets (removeOperatorResources_only namespace_) tr
  | true =>
    apply meets_andThen (ensureOperatorResources_only namespace_ podName)
    intro _ tr₁ h₁
    apply meets_andThen (ensureManaged_only _ _)
    intro _ tr₂ h₂
    exact reconcileActionModeNamespaces_meets (fun hon => (hseen hon).of_eq (h₂.trans h₁))

/-! ## The loop -/

/-- **The invariant**: while the flag is on, the exclusions are those of the ConfigMap last seen. -/
def LoopInv (s : LoopState) (tr : LifeTrace) : Prop := s.lastEnabled = some true → Seen tr s.lastExcluded

theorem LoopInv.of_eq {s : LoopState} {tr tr' : LifeTrace} (h : LoopInv s tr) (heq : lastSeen tr' = lastSeen tr) :
    LoopInv s tr' := fun hon => (h hon).of_eq heq

theorem reconcileIfLeader_meets (namespace_ podName : String) {enabled : Bool} {excluded : Finset String}
    {tr : LifeTrace} (hseen : enabled = true → Seen tr excluded) :
    (reconcileIfLeader namespace_ podName enabled excluded).Meets LabelAllowed
      (fun _ tr' => lastSeen tr' = lastSeen tr) tr := by
  refine ⟨trivial, fun leader => ?_⟩
  have hkeep : lastSeen (tr ++ [⟨.isLeader, leader⟩]) = lastSeen tr := lastSeen_concat_of_none rfl
  cases leader with
  | false => exact hkeep
  | true =>
    have hwork := reconcileOperatorWorkload_meets namespace_ podName (fun hon => (hseen hon).of_eq hkeep)
    exact hwork.bind (fun _ _ hq => hq.trans hkeep)

theorem loopInv_see {s : LoopState} {cm : ConfigMap} {tr : LifeTrace} (hseen : lastSeen tr = some cm)
    (hs : s.lastExcluded = actionOperatorExcludedNamespaces cm) : LoopInv s tr :=
  fun _ => ⟨cm, hseen, hs⟩

theorem initialReconcile_meets (namespace_ podName : String) (tr : LifeTrace) :
    (initialReconcile namespace_ podName).Meets LabelAllowed (fun s tr' => LoopInv s tr') tr := by
  refine ⟨trivial, fun x => ?_⟩
  cases x with
  | error e =>
    intro hon
    cases hon
  | ok cm =>
    have hseen : lastSeen (tr ++ [⟨.getConfigMap, .ok cm⟩]) = some cm := by
      rw [lastSeen, lastOf_concat]
      rfl
    have hrec := reconcileIfLeader_meets namespace_ podName (fun _ : isOperatorEnabled cm = true => ⟨cm, hseen, rfl⟩)
    exact hrec.bind (fun _ _ hkeep => loopInv_see (hkeep.trans hseen) rfl)

theorem reconcile_see_meets (namespace_ podName : String) {s : LoopState} {cm : ConfigMap} {tr : LifeTrace}
    (hseen : lastSeen tr = some cm) (hs : s.lastExcluded = actionOperatorExcludedNamespaces cm) :
    (do reconcileIfLeader namespace_ podName (isOperatorEnabled cm) s.lastExcluded
        return (s, true) : Life (LoopState × Bool)).Meets LabelAllowed (fun p tr' => LoopInv p.1 tr') tr := by
  have hrec := reconcileIfLeader_meets namespace_ podName
    (fun _ : isOperatorEnabled cm = true => (⟨cm, hseen, hs⟩ : Seen tr s.lastExcluded))
  exact hrec.bind (fun _ _ hkeep => loopInv_see (hkeep.trans hseen) hs)

theorem onEvent_meets (namespace_ podName : String) {s : LoopState} {tr : LifeTrace} (hinv : LoopInv s tr)
    (event : WatchEvent) :
    (onEvent namespace_ podName s event).Meets LabelAllowed (fun p tr' => LoopInv p.1 tr')
      (tr ++ [⟨.select, .item (.ok event)⟩]) := by
  cases event with
  | added cm =>
    have hseen : lastSeen (tr ++ [⟨.select, .item (.ok (.added cm))⟩]) = some cm := by
      rw [lastSeen, lastOf_concat]
      rfl
    exact reconcile_see_meets namespace_ podName hseen rfl
  | modified cm =>
    have hseen : lastSeen (tr ++ [⟨.select, .item (.ok (.modified cm))⟩]) = some cm := by
      rw [lastSeen, lastOf_concat]
      rfl
    exact reconcile_see_meets namespace_ podName hseen rfl
  | deleted cm =>
    -- The exclusions are dropped, and so is the flag: nothing is labelled until the ConfigMap is seen again.
    have hoff : false = true → Seen (tr ++ [⟨.select, .item (.ok (.deleted cm))⟩]) ∅ := by
      intro hon
      cases hon
    exact (reconcileIfLeader_meets namespace_ podName hoff).bind (fun _ _ _ hon => by cases hon)
  | bookmark resourceVersion => exact hinv.of_eq (lastSeen_concat_of_none rfl)
  | error code message => exact hinv.of_eq (lastSeen_concat_of_none rfl)

theorem onTick_meets (namespace_ podName : String) {s : LoopState} {tr : LifeTrace} (hinv : LoopInv s tr) :
    (onTick namespace_ podName s).Meets LabelAllowed (fun _ tr' => lastSeen tr' = lastSeen tr) tr := by
  unfold onTick
  cases hlast : s.lastEnabled with
  | none => rfl
  | some enabled =>
    apply reconcileIfLeader_meets
    intro hon
    rw [hon] at hlast
    exact hinv hlast

/-- **Every run of the loop keeps the invariant**, by induction on its turns. -/
theorem watchLoop_meets (namespace_ podName : String) : ∀ (fuel : Nat) (watching : Bool) (s : LoopState)
    (tr : LifeTrace), LoopInv s tr →
    (watchLoop namespace_ podName fuel watching s).Meets LabelAllowed (fun _ _ => True) tr
  | 0, _, _, _, _ => trivial
  | fuel + 1, false, s, tr, hinv => by
    refine ⟨trivial, fun x => ?_⟩
    have hopen : LoopInv s (tr ++ [⟨.watch s.resourceVersion, x⟩]) := hinv.of_eq (lastSeen_concat_of_none rfl)
    cases x with
    | error e =>
      exact ⟨trivial, fun _ => watchLoop_meets _ _ fuel false s _ (hopen.of_eq (lastSeen_concat_of_none rfl))⟩
    | ok u => exact watchLoop_meets _ _ fuel true s _ hopen
  | fuel + 1, true, s, tr, hinv => by
    refine ⟨trivial, fun x => ?_⟩
    cases x with
    | item event =>
      cases event with
      | error e => exact watchLoop_meets _ _ fuel false s _ (hinv.of_eq (lastSeen_concat_of_none rfl))
      | ok event =>
        exact (onEvent_meets namespace_ podName hinv event).bind
          (fun p tr' hp => watchLoop_meets _ _ fuel p.2 p.1 tr' hp)
    | ended => exact watchLoop_meets _ _ fuel false s _ (hinv.of_eq (lastSeen_concat_of_none rfl))
    | tick =>
      have hinv' : LoopInv s (tr ++ [⟨.select, .tick⟩]) := hinv.of_eq (lastSeen_concat_of_none rfl)
      exact (onTick_meets namespace_ podName hinv').bind
        (fun _ tr' hkeep => watchLoop_meets _ _ fuel true s tr' (hinv'.of_eq hkeep))

theorem runOperatorLifecycle_meets (namespace_ podName : String) (fuel : Nat) :
    (runOperatorLifecycle namespace_ podName fuel).Meets LabelAllowed (fun _ _ => True) [] :=
  (initialReconcile_meets namespace_ podName []).bind
    (fun s tr hinv => watchLoop_meets namespace_ podName fuel false s tr hinv)

/-! ## A second pass -/

/-- A merge patch of the label; `null` removes it. -/
def relabel (value : Option String) (ns : Namespace) : Namespace :=
  let labels := ns.metadata.labels.getD ∅
  { ns with metadata := { ns.metadata with
      labels := some (match value with
        | some v => labels.insert actionModeNamespaceLabel v
        | none => labels.erase actionModeNamespaceLabel) } }

def relabelNamed (p : String × Option String) (ns : Namespace) : Namespace :=
  if ns.metadata.name = some p.1 then relabel p.2 ns else ns

def patched : LifeEvent → Option (String × Option String)
  | ⟨.patchLabel name value, .ok _⟩ => some (name, value)
  | _ => none

/-- The namespaces after the patches of a history, with no other writer. -/
def namespacesAfter (tr : LifeTrace) (namespaces : List Namespace) : List Namespace :=
  (tr.filterMap patched).foldl (fun namespaces p => namespaces.map (relabelNamed p)) namespaces

theorem namespaceActionModeValue_relabel (value : Option String) (ns : Namespace) :
    namespaceActionModeValue (relabel value ns) = value := by
  cases value with
  | none => exact AList.lookup_erase actionModeNamespaceLabel (ns.metadata.labels.getD ∅)
  | some v =>
    change ((ns.metadata.labels.getD ∅).insert actionModeNamespaceLabel v).lookup actionModeNamespaceLabel = some v
    exact AList.lookup_insert _

theorem foldl_map_relabelNamed : ∀ (ps : List (String × Option String)) (namespaces : List Namespace),
    ps.foldl (fun namespaces p => namespaces.map (relabelNamed p)) namespaces =
      namespaces.map (fun ns => ps.foldl (fun ns p => relabelNamed p ns) ns)
  | [], namespaces => by simp
  | p :: ps, namespaces => by
    rw [List.foldl_cons, foldl_map_relabelNamed ps, List.map_map]
    rfl

/-- What patches that all want the same make of one namespace: none of them names it, or it has what they want. -/
theorem relabelled_or_same {enabled : Bool} {excluded : Finset String} : ∀ (ps : List (String × Option String))
    (ns : Namespace), (∀ p ∈ ps, p.2 = wantedLabel enabled excluded p.1) →
    ((∀ p ∈ ps, ns.metadata.name ≠ some p.1) ∧ ps.foldl (fun ns p => relabelNamed p ns) ns = ns) ∨
    ∃ name, (ps.foldl (fun ns p => relabelNamed p ns) ns).metadata.name = some name ∧
      namespaceActionModeValue (ps.foldl (fun ns p => relabelNamed p ns) ns) = wantedLabel enabled excluded name
  | [], ns, _ => .inl ⟨by simp, rfl⟩
  | p :: ps, ns, h => by
    rw [List.foldl_cons]
    have hps : ∀ q ∈ ps, q.2 = wantedLabel enabled excluded q.1 := fun q hq => h q (List.mem_cons_of_mem p hq)
    by_cases hname : ns.metadata.name = some p.1
    · have hrel : relabelNamed p ns = relabel p.2 ns := if_pos hname
      rw [hrel]
      rcases relabelled_or_same ps (relabel p.2 ns) hps with ⟨-, hsame⟩ | hdone
      · right
        rw [hsame]
        refine ⟨p.1, hname, ?_⟩
        rw [namespaceActionModeValue_relabel, h p (by simp)]
      · exact .inr hdone
    · have hrel : relabelNamed p ns = ns := if_neg hname
      rw [hrel]
      rcases relabelled_or_same ps ns hps with ⟨hnot, hsame⟩ | hdone
      · left
        refine ⟨?_, hsame⟩
        intro q hq
        rcases List.mem_cons.1 hq with rfl | hq
        · exact hname
        · exact hnot q hq
      · exact .inr hdone

theorem run_patchNamespace (o : LifeOracle) (p : String × Option String) (next : Unit → Life (Except String Unit))
    (tr : LifeTrace) :
    (andThen (patchNamespace p) next).run o tr =
      match o tr (.patchLabel p.1 p.2) with
      | .error e => (some (.error (labelContext p.1 p.2)), tr ++ [⟨.patchLabel p.1 p.2, .error e⟩])
      | .ok () => (next ()).run o (tr ++ [⟨.patchLabel p.1 p.2, .ok ()⟩]) := by
  simp only [andThen, patchNamespace, withContext, request, Prog.ask, bind, Prog.bind, Prog.run]
  generalize o tr (.patchLabel p.1 p.2) = x
  cases x <;> rfl

def patchedOk (p : String × Option String) : LifeEvent := ⟨.patchLabel p.1 p.2, .ok ()⟩

/-- **A pass that succeeds made exactly the patches it wanted.** -/
theorem reconcileNamespaces_ok {enabled : Bool} {excluded : Finset String} (o : LifeOracle) :
    ∀ (namespaces : List Namespace) (tr : LifeTrace),
      ((reconcileNamespaces enabled excluded namespaces).run o tr).1 = some (.ok ()) →
      ((reconcileNamespaces enabled excluded namespaces).run o tr).2 =
        tr ++ (namespaces.filterMap (labelPatch enabled excluded)).map patchedOk
  | [], tr, _ => (List.append_nil tr).symm
  | ns :: rest, tr, h => by
    rw [reconcileNamespaces, reconcileNamespace_eq] at h ⊢
    cases hp : labelPatch enabled excluded ns with
    | none =>
      rw [hp] at h
      rw [List.filterMap_cons_none hp]
      exact reconcileNamespaces_ok o rest tr h
    | some p =>
      rw [hp] at h
      simp only [run_patchNamespace] at h ⊢
      rw [List.filterMap_cons_some hp, List.map_cons]
      cases hans : o tr (.patchLabel p.1 p.2) with
      | error e => simp [hans] at h
      | ok u =>
        simp only [hans] at h
        have hrest := reconcileNamespaces_ok o rest _ h
        simp only
        rw [hrest, List.append_assoc]
        rfl

theorem reconcileNamespaces_of_none {enabled : Bool} {excluded : Finset String} : ∀ {namespaces : List Namespace},
    (∀ ns ∈ namespaces, labelPatch enabled excluded ns = none) →
    reconcileNamespaces enabled excluded namespaces = pure (.ok ())
  | [], _ => rfl
  | ns :: rest, h => by
    rw [reconcileNamespaces, reconcileNamespace_eq, h ns (by simp)]
    exact reconcileNamespaces_of_none (fun n hn => h n (List.mem_cons_of_mem ns hn))

/-- **A second pass has nothing to do**: on what a pass that succeeded leaves, every namespace is left alone. -/
theorem labelPatch_after_pass {enabled : Bool} {excluded : Finset String} (namespaces : List Namespace) :
    ∀ ns ∈ (namespaces.filterMap (labelPatch enabled excluded)).foldl
        (fun namespaces p => namespaces.map (relabelNamed p)) namespaces,
      labelPatch enabled excluded ns = none := by
  intro ns' hns'
  rw [foldl_map_relabelNamed, List.mem_map] at hns'
  obtain ⟨ns, hns, rfl⟩ := hns'
  have hwanted : ∀ p ∈ namespaces.filterMap (labelPatch enabled excluded), p.2 = wantedLabel enabled excluded p.1 := by
    intro p hp
    obtain ⟨n, -, hn⟩ := List.mem_filterMap.1 hp
    exact (labelPatch_eq_some hn).2.2
  rcases relabelled_or_same _ ns hwanted with ⟨hnot, hsame⟩ | ⟨name, hname, hvalue⟩
  · rw [hsame]
    cases hp : labelPatch enabled excluded ns with
    | none => rfl
    | some p => exact absurd (labelPatch_eq_some hp).1 (hnot p (List.mem_filterMap.2 ⟨ns, hns, hp⟩))
  · exact labelPatch_of_wanted hname hvalue

theorem run_reconcileActionModeNamespaces {enabled : Bool} {excluded : Finset String} {o : LifeOracle}
    {namespaces : List Namespace} (h : o [] .listNamespaces = .ok namespaces) :
    (reconcileActionModeNamespaces enabled excluded).run o [] =
      (reconcileNamespaces enabled excluded namespaces).run o [⟨.listNamespaces, .ok namespaces⟩] := by
  unfold reconcileActionModeNamespaces
  rw [run_ask_bind, h]
  rfl

theorem filterMap_patched (ps : List (String × Option String)) (namespaces : List Namespace) :
    (([⟨.listNamespaces, .ok namespaces⟩] : LifeTrace) ++ ps.map patchedOk).filterMap patched = ps := by
  have hsome : patched ∘ patchedOk = some := rfl
  rw [List.filterMap_append, List.filterMap_map, hsome, List.filterMap_some]
  rfl

theorem second_pass_patches_nothing {enabled : Bool} {excluded : Finset String} {o o' : LifeOracle}
    {namespaces : List Namespace} (hlist : o [] .listNamespaces = .ok namespaces)
    (hok : ((reconcileActionModeNamespaces enabled excluded).run o []).1 = some (.ok ()))
    (hlist' : o' [] .listNamespaces =
      .ok (namespacesAfter ((reconcileActionModeNamespaces enabled excluded).trace o) namespaces)) :
    ((reconcileActionModeNamespaces enabled excluded).trace o').map (·.call) = [.listNamespaces] := by
  have htrace : (reconcileActionModeNamespaces enabled excluded).trace o = [⟨.listNamespaces, .ok namespaces⟩] ++
      (namespaces.filterMap (labelPatch enabled excluded)).map patchedOk := by
    rw [run_reconcileActionModeNamespaces hlist] at hok
    rw [Prog.trace, run_reconcileActionModeNamespaces hlist, reconcileNamespaces_ok o namespaces _ hok]
  rw [htrace, namespacesAfter, filterMap_patched] at hlist'
  rw [Prog.trace, run_reconcileActionModeNamespaces hlist',
    reconcileNamespaces_of_none (labelPatch_after_pass namespaces)]
  rfl

/-! ## Every run -/

open Operator (combinedExcludedNamespaces) in
theorem not_builtin_of_not_excluded {name : String} {extra : List String}
    (h : namespaceIsExcluded name (combinedExcludedNamespaces extra) = false) :
    name ∉ ["kube-system", "kube-public", "kube-node-lease", "sentinella", "tetragon"] ∧
      ¬ "openshift-".toList <+: name.toList := by
  have hnot : ∀ pattern ∈ combinedExcludedNamespaces extra, ¬ Operator.namespaceMatchesPattern name pattern = true := by
    simpa [namespaceIsExcluded] using h
  have hbuiltin : ∀ pattern ∈ Operator.systemExcludedNamespaces, pattern ≠ "" →
      ¬ Operator.namespaceMatchesPattern name pattern = true := by
    intro pattern hp hne
    exact hnot pattern (mem_combinedExcludedNamespaces.2 ⟨hne, .inl hp⟩)
  constructor
  · intro hmem
    have hplain : ∀ n ∈ ["kube-system", "kube-public", "kube-node-lease", "sentinella", "tetragon"],
        n ∈ Operator.systemExcludedNamespaces ∧ n ≠ "" ∧ Operator.namespaceMatchesPattern n n = true := by decide
    obtain ⟨hsys, hne, hself⟩ := hplain name hmem
    exact hbuiltin name hsys hne hself
  · intro hpre
    apply hbuiltin "openshift-*" (by decide) (by decide)
    have hstrip : RustStr.stripSuffix ['*'] "openshift-*".toList = some "openshift-".toList := by decide
    rw [Operator.namespaceMatchesPattern, hstrip]
    simpa using hpre

theorem eq_of_nodup_names {listed : List Namespace} (h : (listed.filterMap (·.metadata.name)).Nodup)
    {ns ns' : Namespace} {name : String} (hmem : ns ∈ listed) (hmem' : ns' ∈ listed)
    (hname : ns.metadata.name = some name)
    (hname' : ns'.metadata.name = some name) : ns' = ns := by
  by_contra hne
  rw [List.Nodup, List.pairwise_filterMap] at h
  have hsymm : Std.Symm (fun a a' : Namespace => ∀ b, a.metadata.name = some b → ∀ b', a'.metadata.name = some b' →
      b ≠ b') := ⟨fun _ _ hr b hb b' hb' heq => hr b' hb' b hb heq.symm⟩
  exact h.forall hmem' hmem hne name hname' name hname rfl

/-- **The lifecycle never enables a protected namespace.**  Over every run and at every step of it: a label is only ever
set to `true`, on a namespace that no built-in exclusion matches and none of the ConfigMap last seen; a namespace that
the last list shows with `action-mode=false` is not patched; and a pass that succeeds leaves nothing for a second
one. -/
theorem lifecycle_spares_protected_namespaces :
    (∀ namespace_ podName fuel o pre name value answer post,
      (runOperatorLifecycle namespace_ podName fuel).trace o = pre ++ ⟨.patchLabel name value, answer⟩ :: post →
      (∀ v, value = some v → v = "true" ∧
        name ∉ ["kube-system", "kube-public", "kube-node-lease", "sentinella", "tetragon"] ∧
        ¬ "openshift-".toList <+: name.toList ∧
        ∃ cm, lastSeen pre = some cm ∧ namespaceIsExcluded name (actionOperatorExcludedNamespaces cm) = false) ∧
      ∃ listed, lastListed pre = some listed ∧ ((listed.filterMap (·.metadata.name)).Nodup →
        ∀ ns ∈ listed, ns.metadata.name = some name → namespaceActionModeValue ns ≠ some "false")) ∧
    ∀ enabled excluded o o' namespaces, o [] .listNamespaces = .ok namespaces →
      ((reconcileActionModeNamespaces enabled excluded).run o []).1 = some (.ok ()) →
      o' [] .listNamespaces =
        .ok (namespacesAfter ((reconcileActionModeNamespaces enabled excluded).trace o) namespaces) →
      ((reconcileActionModeNamespaces enabled excluded).trace o').map (·.call) = [.listNamespaces] := by
  constructor
  · intro namespace_ podName fuel o pre name value answer post hs
    have hmay : MayPatch pre name value :=
      trace_meets o _ (runOperatorLifecycle_meets namespace_ podName fuel) pre post _ hs
    constructor
    · intro v hv
      obtain ⟨rfl, excluded, ⟨cm, hseen, rfl⟩, hexcl⟩ := hmay.allowed v hv
      obtain ⟨hplain, hpre⟩ := not_builtin_of_not_excluded hexcl
      exact ⟨rfl, hplain, hpre, cm, hseen, hexcl⟩
    · obtain ⟨listed, ns, hlisted, hmem, hname, hlabel⟩ := hmay.listed
      refine ⟨listed, hlisted, ?_⟩
      intro hnodup ns' hmem' hname'
      rw [eq_of_nodup_names hnodup hmem hmem' hname hname']
      exact hlabel
  · intro enabled excluded o o' namespaces hlist hok hlist'
    exact second_pass_patches_nothing hlist hok hlist'

/-- A namespace that was not labelled yet, one of the cluster's own, and one that opted out. -/
def someNamespaces : List Namespace :=
  [⟨{ name := some "app" }⟩, ⟨{ name := some "kube-system" }⟩,
    ⟨{ name := some "shop", labels := some ((∅ : StrMap String).insert actionModeNamespaceLabel "false") }⟩]

def calmLeader : LifeOracle := fun _ op =>
  match op with
  | .getConfigMap => .ok (configMapOf [("ACTION_OPERATOR_ENABLED", "true")])
  | .isLeader => true
  | .watch _ => .ok ()
  | .select => .ended
  | .sleep _ => ()
  | .getPod _ _ => .ok (some [{ name := "agent", image := some "repo/agent:v1" }])
  | .getOpt _ => .ok true
  | .patch _ => .ok ()
  | .create _ => .ok ()
  | .delete _ => .ok ()
  | .listNamespaces => .ok someNamespaces
  | .patchLabel _ _ => .ok ()

/-- Of the three, the first reconcile labels the one that is neither protected nor opted out. -/
theorem lifecycle_labels_an_eligible_namespace :
    ∃ pre, (runOperatorLifecycle "sentinella" "agent-0" 0).trace calmLeader =
        pre ++ [⟨.patchLabel "app" (some "true"), .ok ()⟩] ∧
      (∃ cm, lastSeen pre = some cm ∧ namespaceIsExcluded "app" (actionOperatorExcludedNamespaces cm) = false) ∧
      lastListed pre = some someNamespaces := by
  have htrace : ∃ pre, (runOperatorLifecycle "sentinella" "agent-0" 0).trace calmLeader =
      pre ++ [⟨.patchLabel "app" (some "true"), .ok ()⟩] ∧ lastListed pre = some someNamespaces :=
    ⟨_, rfl, rfl⟩
  obtain ⟨pre, hs, hlisted⟩ := htrace
  obtain ⟨hset, -⟩ := lifecycle_spares_protected_namespaces.1 _ _ _ _ _ _ _ _ _ hs
  obtain ⟨-, -, -, hseen⟩ := hset "true" rfl
  exact ⟨pre, hs, hseen, hlisted⟩

end Lifecycle
end HubAgent
