import HubAgent.Lib.Shared
import HubAgent.LifecycleSpec
/-!
# What the lifecycle's passes leave, however they interleave

The API server as a store: the objects that the lifecycle keeps, and the namespaces.  Any number of passes for one
setting of the ConfigMap may run on it at once (the old leader's and the new one's), each may be abandoned at any call,
and a call that fails may have been stored or not.  Every pass only moves the store towards what is wanted (`Moves`), so
the first one that completes leaves it there, and no later one takes it away (`lifecycle_converges`).  With the flag off
the passes only take away the operator's workload (`lifecycle_removes_only_the_workload`).
-/
namespace HubAgent
namespace Lifecycle

open Interaction
open Shared
open Transition (Steps)
open Operator (namespaceIsExcluded actionModeNamespaceLabel actionModeNamespaceLabelEnabled)

deriving instance DecidableEq for Managed

/-! ## The store -/

/-- An object is absent, or there with the body that the lifecycle gave it last, or there with another (`some none`). -/
structure Store where
  objects : Managed → Option (Option Desired)
  namespaces : List Namespace

namespace Store

def put (s : Store) (desired : Desired) : Store :=
  { s with objects := Function.update s.objects desired.object (some (some desired)) }

def drop (s : Store) (object : Managed) : Store := { s with objects := Function.update s.objects object none }

/-- A call as it is stored: a create finds nothing there, a patch something. -/
def write (s : Store) : LifecycleCall → Store
  | .create desired => if (s.objects desired.object).isSome then s else s.put desired
  | .patch desired => if (s.objects desired.object).isSome then s.put desired else s
  | .delete object => s.drop object
  | .patchLabel name value => { s with namespaces := s.namespaces.map (relabelNamed (name, value)) }
  | _ => s

/-- A read that succeeds is current, and a write succeeds only where it can be stored; `pod` are the containers of the
agent's pod. -/
def MayAnswer (pod : Option (List Container)) (s : Store) : (op : LifecycleCall) → LifecycleAnswer op → Prop
  | .getPod _ _, .ok containers => containers = pod
  | .getOpt object, .ok there => there = (s.objects object).isSome
  | .create desired, .ok _ => s.objects desired.object = none
  | .patch desired, .ok _ => (s.objects desired.object).isSome = true
  | .listNamespaces, .ok namespaces => namespaces = s.namespaces
  | _, _ => True

end Store

def WriteFailed : (op : LifecycleCall) → LifecycleAnswer op → Prop
  | .create _, .error _ | .patch _, .error _ | .delete _, .error _ | .patchLabel _ _, .error _ => True
  | _, _ => False

/-- **One call**: a write that fails may have been stored. -/
def ApiEffect (pod : Option (List Container)) : Effect LifecycleCall LifecycleAnswer Store := fun s op x s' =>
  s.MayAnswer pod op x ∧ (s' = s.write op ∨ WriteFailed op x ∧ s' = s)

@[simp] theorem put_objects_self (s : Store) (d : Desired) : (s.put d).objects d.object = some (some d) :=
  Function.update_self d.object _ s.objects

theorem put_objects_of_ne (s : Store) (d : Desired) {object : Managed} (h : object ≠ d.object) :
    (s.put d).objects object = s.objects object := Function.update_of_ne h _ s.objects

@[simp] theorem drop_objects_self (s : Store) (object : Managed) : (s.drop object).objects object = none :=
  Function.update_self object _ s.objects

theorem drop_objects_of_ne (s : Store) {object other : Managed} (h : other ≠ object) :
    (s.drop object).objects other = s.objects other := Function.update_of_ne h _ s.objects

/-! ## Towards what is wanted -/

/-- What the flag asks for, in the agent's namespace and with its image. -/
def wantedObjects (namespace_ image : String) : List Desired :=
  [.serviceAccount namespace_, .deployment namespace_ image, .defaultActionPolicy]

/-- A namespace is left alone, or gets the label that is wanted for it, which one that opted out never does. -/
def NsMoves (excluded : Finset String) (ns ns' : Namespace) : Prop :=
  ns' = ns ∨ ∃ name, ns.metadata.name = some name ∧ namespaceActionModeValue ns ≠ some "false" ∧
    ns' = relabel (wantedLabel true excluded name) ns

/-- **How far the passes move the store**: an object is left alone or becomes what is wanted. -/
structure Moves (namespace_ image : String) (excluded : Finset String) (s s' : Store) : Prop where
  objects : ∀ object, s'.objects object = s.objects object ∨
    ∃ d ∈ wantedObjects namespace_ image, d.object = object ∧ s'.objects object = some (some d)
  namespaces : List.Forall₂ (NsMoves excluded) s.namespaces s'.namespaces

theorem relabel_relabel (value : Option String) (ns : Namespace) : relabel value (relabel value ns) = relabel value ns := by
  cases value with
  | some v => simp [relabel, AList.insert_insert]
  | none =>
    have hnot : actionModeNamespaceLabel ∉ (ns.metadata.labels.getD ∅).erase actionModeNamespaceLabel := by
      simp [AList.mem_erase]
    have herase : ((ns.metadata.labels.getD ∅).erase actionModeNamespaceLabel).erase actionModeNamespaceLabel =
        (ns.metadata.labels.getD ∅).erase actionModeNamespaceLabel :=
      AList.ext (List.kerase_of_notMem_keys hnot)
    simp [relabel, herase]

theorem NsMoves.trans {excluded : Finset String} {a b c : Namespace} (h : NsMoves excluded a b)
    (h' : NsMoves excluded b c) : NsMoves excluded a c := by
  rcases h with rfl | ⟨name, hname, hlabel, rfl⟩
  · exact h'
  rcases h' with rfl | ⟨name', hname', -, rfl⟩
  · exact .inr ⟨name, hname, hlabel, rfl⟩
  · obtain rfl : name = name' := Option.some.inj (hname.symm.trans hname')
    exact .inr ⟨name, hname, hlabel, relabel_relabel _ _⟩

theorem nsMoves_trans {excluded : Finset String} : ∀ {as bs cs : List Namespace},
    List.Forall₂ (NsMoves excluded) as bs → List.Forall₂ (NsMoves excluded) bs cs →
    List.Forall₂ (NsMoves excluded) as cs
  | [], [], _, _, h => h
  | _ :: _, _ :: _, _ :: _, .cons h t, .cons h' t' => .cons (h.trans h') (nsMoves_trans t t')

theorem moving_moves (namespace_ image : String) (excluded : Finset String) :
    Moving (Moves namespace_ image excluded) := by
  refine ⟨fun s => ⟨fun _ => .inl rfl, ?_⟩, fun {s t u} hst htu => ⟨fun object => ?_, ?_⟩⟩
  · exact List.forall₂_same.2 (fun _ _ => .inl rfl)
  · rcases htu.objects object with heq | hd
    · rw [heq]
      exact hst.objects object
    · exact .inr hd
  · exact nsMoves_trans hst.namespaces htu.namespaces

theorem wanted_eq_of_object {namespace_ image : String} {d d' : Desired} (hd : d ∈ wantedObjects namespace_ image)
    (hd' : d' ∈ wantedObjects namespace_ image) (h : d.object = d'.object) : d = d' := by
  simp only [wantedObjects, List.mem_cons, List.not_mem_nil, or_false] at hd hd'
  rcases hd with rfl | rfl | rfl <;> rcases hd' with rfl | rfl | rfl <;> first | rfl | cases h

section Enabled

variable {namespace_ image : String} {excluded : Finset String} {pod : Option (List Container)} {s s' : Store}

theorem moves_put {d : Desired} (hd : d ∈ wantedObjects namespace_ image) (s : Store) :
    Moves namespace_ image excluded s (s.put d) := by
  refine ⟨fun object => ?_, (moving_moves namespace_ image excluded).refl s |>.namespaces⟩
  by_cases h : object = d.object
  · exact .inr ⟨d, hd, h.symm, by rw [h, put_objects_self]⟩
  · exact .inl (put_objects_of_ne s d h)

theorem stable_object {d : Desired} (hd : d ∈ wantedObjects namespace_ image) :
    Stable (Moves namespace_ image excluded) (fun s => s.objects d.object = some (some d)) := by
  intro s s' hm hs
  rcases hm.objects d.object with heq | ⟨d', hd', hobj, heq⟩
  · rw [heq, hs]
  · rw [heq, wanted_eq_of_object hd' hd hobj]

/-- Objects that are there with these bodies. -/
def There (ds : List Desired) (s : Store) : Prop := ∀ d ∈ ds, s.objects d.object = some (some d)

theorem stable_there {ds : List Desired} (hds : ds ⊆ wantedObjects namespace_ image) :
    Stable (Moves namespace_ image excluded) (There ds) :=
  fun s s' hm hs d hd => stable_object (hds hd) s s' hm (hs d hd)

/-- A call that writes no label, and no body but a wanted one. -/
def Harmless (namespace_ image : String) : LifecycleCall → Prop
  | .create d | .patch d => d ∈ wantedObjects namespace_ image
  | .delete _ | .patchLabel _ _ => False
  | _ => True

theorem moves_of_harmless (op : LifecycleCall) (hop : Harmless namespace_ image op) {x : LifecycleAnswer op}
    (he : ApiEffect pod s op x s') : Moves namespace_ image excluded s s' := by
  have hrefl := (moving_moves namespace_ image excluded).refl s
  rcases he.2 with rfl | ⟨-, rfl⟩
  · cases op with
    | create d =>
      simp only [Store.write]
      split
      · exact hrefl
      · exact moves_put hop s
    | patch d =>
      simp only [Store.write]
      split
      · exact moves_put hop s
      · exact hrefl
    | delete object => exact hop.elim
    | patchLabel name value => exact hop.elim
    | _ => exact hrefl
  · exact hrefl

/-! ## The labels -/

def SettledName (excluded : Finset String) (name : String) (s : Store) : Prop :=
  ∀ ns ∈ s.namespaces, ns.metadata.name = some name → labelPatch true excluded ns = none

def NotOptedOut (name : String) (s : Store) : Prop :=
  ∀ ns ∈ s.namespaces, ns.metadata.name = some name → namespaceActionModeValue ns ≠ some "false"

theorem NsMoves.name {ns ns' : Namespace} (h : NsMoves excluded ns ns') : ns'.metadata.name = ns.metadata.name := by
  rcases h with rfl | ⟨-, -, -, rfl⟩ <;> rfl

theorem NsMoves.settled {ns ns' : Namespace} (h : NsMoves excluded ns ns') (hs : labelPatch true excluded ns = none) :
    labelPatch true excluded ns' = none := by
  rcases h with rfl | ⟨name, hname, -, rfl⟩
  · exact hs
  · exact @labelPatch_of_wanted _ _ _ name hname (namespaceActionModeValue_relabel _ _)

theorem wantedLabel_ne_false {enabled : Bool} {name : String} : wantedLabel enabled excluded name ≠ some "false" := by
  unfold wantedLabel
  split_ifs <;> simp [actionModeNamespaceLabelEnabled]

theorem NsMoves.not_opted_out {ns ns' : Namespace} (h : NsMoves excluded ns ns')
    (hs : namespaceActionModeValue ns ≠ some "false") : namespaceActionModeValue ns' ≠ some "false" := by
  rcases h with rfl | ⟨name, -, -, rfl⟩
  · exact hs
  · rw [namespaceActionModeValue_relabel]
    exact wantedLabel_ne_false

theorem Moves.mem (h : Moves namespace_ image excluded s s') {ns' : Namespace} (hmem : ns' ∈ s'.namespaces) :
    ∃ ns ∈ s.namespaces, NsMoves excluded ns ns' := by
  obtain ⟨i, hi, rfl⟩ := List.mem_iff_getElem.1 hmem
  have hlt : i < s.namespaces.length := h.namespaces.length_eq ▸ hi
  exact ⟨_, List.getElem_mem hlt, h.namespaces.get hlt hi⟩

theorem Moves.names (h : Moves namespace_ image excluded s s') :
    s'.namespaces.map (·.metadata.name) = s.namespaces.map (·.metadata.name) := by
  have hnames : ∀ {as bs : List Namespace}, List.Forall₂ (NsMoves excluded) as bs →
      bs.map (·.metadata.name) = as.map (·.metadata.name) := by
    intro as bs hab
    induction hab with
    | nil => rfl
    | cons hns _ ih => rw [List.map_cons, List.map_cons, hns.name, ih]
  exact hnames h.namespaces

theorem stable_settledName (name : String) :
    Stable (Moves namespace_ image excluded) (SettledName excluded name) := by
  intro s s' hm hs ns' hmem hname
  obtain ⟨ns, hns, hmoves⟩ := hm.mem hmem
  exact hmoves.settled (hs ns hns (hmoves.name ▸ hname))

theorem stable_notOptedOut (name : String) : Stable (Moves namespace_ image excluded) (NotOptedOut name) := by
  intro s s' hm hs ns' hmem hname
  obtain ⟨ns, hns, hmoves⟩ := hm.mem hmem
  exact hmoves.not_opted_out (hs ns hns (hmoves.name ▸ hname))

theorem stable_names (names : List (Option String)) :
    Stable (Moves namespace_ image excluded) (fun s => s.namespaces.map (·.metadata.name) = names) :=
  fun _ _ hm hs => hm.names.trans hs

theorem moves_relabel {name : String} (h : NotOptedOut name s) : Moves namespace_ image excluded s
    (s.write (.patchLabel name (wantedLabel true excluded name))) := by
  refine ⟨fun _ => .inl rfl, ?_⟩
  change List.Forall₂ _ s.namespaces (s.namespaces.map _)
  rw [List.forall₂_map_right_iff, List.forall₂_same]
  intro ns hmem
  unfold relabelNamed
  split_ifs with hname
  · exact .inr ⟨name, hname, h ns hmem hname, rfl⟩
  · exact .inl rfl

theorem settledName_relabel (name : String) (s : Store) :
    SettledName excluded name (s.write (.patchLabel name (wantedLabel true excluded name))) := by
  intro ns' hmem hname
  obtain ⟨ns, -, rfl⟩ := List.mem_map.1 hmem
  unfold relabelNamed at hname ⊢
  split_ifs at hname ⊢ with h
  · exact @labelPatch_of_wanted _ _ _ name h (namespaceActionModeValue_relabel _ _)
  · exact (h hname).elim

/-! ## One pass, among others -/

/-- What a step that succeeds leaves. -/
def OnOk {α : Type} (F : α → Store → Prop) (r : Except String α) (s : Store) : Prop := ∀ a, r = .ok a → F a s

variable {R : Store → Store → Prop} {α β : Type} {F : α → Store → Prop} {G : β → Store → Prop}

/-- **Sequencing**, with a condition that no move undoes carried along. -/
theorem secures_andThen {step : Life (Except String α)} {next : α → Life (Except String β)} {K : Store → Prop}
    (hR : Moving R) (hK : Stable R K) (hk : K s)
    (hs : Secures (ApiEffect pod) R (fun _ _ => True) (OnOk F) step s)
    (hn : ∀ a s, (∀ s', R s s' → F a s' ∧ K s') →
      Secures (ApiEffect pod) R (fun _ _ => True) (OnOk G) (next a) s) :
    Secures (ApiEffect pod) R (fun _ _ => True) (OnOk G) (andThen step next) s := by
  refine (hs.keeps hR hK hk).bind fun r s' hr => ?_
  cases r with
  | error e => exact secures_pure (fun _ _ _ => nofun)
  | ok a => exact hn a s' (fun s'' hm => ⟨(hr s'' hm).1 a rfl, (hr s'' hm).2⟩)

theorem secures_withContext {context : String} {call : Life (ApiResult Unit)} {K : Store → Prop}
    (hcall : Secures (ApiEffect pod) R (fun _ _ => True) (fun r s => r = .ok () → K s) call s) :
    Secures (ApiEffect pod) R (fun _ _ => True) (OnOk fun _ => K) (withContext context call) s := by
  refine hcall.bind fun r s' hr => ?_
  cases r with
  | error e => exact secures_pure (fun _ _ _ => nofun)
  | ok u => exact secures_pure (fun s'' hm _ _ => hr s'' hm rfl)

/-- One call: it stays within `R`, and what it leaves where it succeeds no move undoes. -/
theorem secures_request {op : LifecycleCall} {Q : LifecycleAnswer op → Store → Prop}
    (hR : ∀ {s x s'}, ApiEffect pod s op x s' → R s s')
    (hQ : ∀ {s x s'}, ApiEffect pod s op x s' → ∀ s'', R s' s'' → Q x s'') :
    Secures (ApiEffect pod) R (fun _ _ => True) Q (request op) s :=
  fun _ _ => ⟨trivial, fun _ _ he => ⟨hR he, hQ he⟩⟩

/-- A part of an enabling pass, among others of its kind. -/
abbrev Enabling {γ : Type} (namespace_ image : String) (excluded : Finset String) (pod : Option (List Container))
    (Q : γ → Store → Prop) (m : Life γ) (s : Store) : Prop :=
  Secures (ApiEffect pod) (Moves namespace_ image excluded) (fun _ _ => True) Q m s

theorem ensureManaged_enabling {d : Desired} (hd : d ∈ wantedObjects namespace_ image) (what : String) (s : Store) :
    Enabling namespace_ image excluded pod (OnOk fun _ => There [d]) (ensureManaged d what) s := by
  have hput : ∀ {s : Store} {s' : Store}, Moves namespace_ image excluded (s.put d) s' → There [d] s' := by
    intro s s' hm
    exact List.forall_mem_singleton.2 (stable_object hd _ _ hm (put_objects_self _ d))
  refine Secures.bind (fun there s' _ => ?_) (secures_request (Q := fun _ _ => True)
    (moves_of_harmless (.getOpt d.object) trivial) (fun _ _ _ => trivial))
  rcases there with e | _ | _
  · exact secures_pure (fun _ _ _ => nofun)
  · refine secures_withContext (secures_request (moves_of_harmless (.create d) hd) ?_)
    rintro s x s' ⟨hmay, hs'⟩ s'' hm rfl
    obtain rfl | ⟨hfail, -⟩ := hs'
    · have hnone : s.objects d.object = none := hmay
      rw [Store.write, hnone] at hm
      exact hput hm
    · exact hfail.elim
  · refine secures_withContext (secures_request (moves_of_harmless (.patch d) hd) ?_)
    rintro s x s' ⟨hmay, hs'⟩ s'' hm rfl
    obtain rfl | ⟨hfail, -⟩ := hs'
    · have hsome : (s.objects d.object).isSome = true := hmay
      rw [Store.write, if_pos hsome] at hm
      exact hput hm
    · exact hfail.elim

theorem resolveOperatorImage_enabling (podName : String)
    (hpod : (pod.bind List.head?).bind Container.image = some image) (s : Store) :
    Enabling namespace_ image excluded pod (OnOk fun i _ => i = image) (resolveOperatorImage namespace_ podName) s := by
  refine Secures.bind (fun x s' hx => ?_) (secures_request
    (Q := fun (x : ApiResult (Option (List Container))) _ => ∀ containers, x = .ok containers → containers = pod)
    (moves_of_harmless (.getPod namespace_ podName) trivial) ?_)
  · cases x with
    | error e => exact secures_pure (fun _ _ _ => nofun)
    | ok containers =>
      obtain rfl : containers = pod := hx s' ((moving_moves namespace_ image excluded).refl s') containers rfl
      simp only [hpod]
      exact secures_pure (fun _ _ i hi => by cases hi; rfl)
  · rintro s x s' ⟨hmay, -⟩ s'' - containers rfl
    exact hmay

/-- What the loop over the namespaces counts on: the one that it will patch did not opt out, and any other is settled. -/
def Listed (excluded : Finset String) (rest : List Namespace) (s : Store) : Prop :=
  ∀ ns ∈ rest, ∀ name, ns.metadata.name = some name →
    if labelPatch true excluded ns = none then SettledName excluded name s else NotOptedOut name s

theorem stable_listed (rest : List Namespace) : Stable (Moves namespace_ image excluded) (Listed excluded rest) := by
  intro s s' hm hs ns hmem name hname
  have h := hs ns hmem name hname
  split_ifs at h ⊢
  · exact stable_settledName name s s' hm h
  · exact stable_notOptedOut name s s' hm h

/-- **The loop leaves every name it came by settled.** -/
theorem reconcileNamespaces_enabling : ∀ (rest : List Namespace) (s : Store), Listed excluded rest s →
    Enabling namespace_ image excluded pod
      (OnOk fun _ s => ∀ ns ∈ rest, ∀ name, ns.metadata.name = some name → SettledName excluded name s)
      (reconcileNamespaces true excluded rest) s
  | [], _, _ => secures_pure (fun _ _ _ _ _ => nofun)
  | ns :: rest, s, hlisted => by
    have hR := moving_moves namespace_ image excluded
    -- what the rest of the loop adds to what its head left
    have hrest : ∀ s', (∀ s'', Moves namespace_ image excluded s' s'' →
        (∀ name, ns.metadata.name = some name → SettledName excluded name s'') ∧ Listed excluded rest s'') →
        Enabling namespace_ image excluded pod
          (OnOk fun _ s => ∀ n ∈ ns :: rest, ∀ name, n.metadata.name = some name → SettledName excluded name s)
          (reconcileNamespaces true excluded rest) s' := by
      intro s' h
      have hhead : Stable (Moves namespace_ image excluded)
          (fun s => ∀ name, ns.metadata.name = some name → SettledName excluded name s) :=
        fun a b hm hs name hname => stable_settledName name a b hm (hs name hname)
      have hloop := reconcileNamespaces_enabling rest s' (h s' (hR.refl s')).2
      refine (hloop.keeps hR hhead (h s' (hR.refl s')).1).mono ?_
      rintro r s'' ⟨hq, hset⟩ a rfl n hn
      rcases List.mem_cons.1 hn with rfl | hn
      · exact hset
      · exact hq () rfl n hn
    have htail : Listed excluded rest s := fun n hn => hlisted n (List.mem_cons_of_mem ns hn)
    rw [reconcileNamespaces, reconcileNamespace_eq]
    cases hp : labelPatch true excluded ns with
    | none =>
      apply hrest s
      intro s'' hm
      refine ⟨fun name hname => ?_, stable_listed rest s s'' hm htail⟩
      have h := hlisted ns (by simp) name hname
      rw [if_pos hp] at h
      exact stable_settledName name s s'' hm h
    | some p =>
      obtain ⟨hname, -, hwanted⟩ := labelPatch_eq_some hp
      have hnot : NotOptedOut p.1 s := by
        have h := hlisted ns (by simp) p.1 hname
        rwa [if_neg (by simp [hp])] at h
      refine secures_andThen (F := fun _ s => SettledName excluded p.1 s) hR (stable_listed rest) htail ?_ ?_
      · apply secures_withContext
        intro s₁ hm
        have hmoves : ∀ {x s₂}, ApiEffect pod s₁ (.patchLabel p.1 p.2) x s₂ →
            Moves namespace_ image excluded s₁ s₂ := by
          rintro x s₂ ⟨-, rfl | ⟨-, rfl⟩⟩
          · rw [hwanted]
            exact moves_relabel (stable_notOptedOut p.1 s s₁ hm hnot)
          · exact hR.refl _
        refine ⟨trivial, fun x s₂ he => ⟨hmoves he, fun s₃ hm₃ hx => ?_⟩⟩
        subst hx
        obtain ⟨-, rfl | ⟨hfail, -⟩⟩ := he
        · rw [hwanted] at hm₃
          exact stable_settledName p.1 _ s₃ hm₃ (settledName_relabel p.1 s₁)
        · exact hfail.elim
      · intro _ s' hF
        apply hrest s'
        intro s'' hm
        obtain ⟨hset, hl⟩ := hF s'' hm
        refine ⟨fun name hname' => ?_, hl⟩
        obtain rfl : name = p.1 := Option.some.inj (hname'.symm.trans hname)
        exact hset

theorem nodup_of_names {s s' : Store} (h : s'.namespaces.map (·.metadata.name) = s.namespaces.map (·.metadata.name))
    (hs : (s.namespaces.filterMap (·.metadata.name)).Nodup) : (s'.namespaces.filterMap (·.metadata.name)).Nodup := by
  have hid : ∀ l : List Namespace, l.filterMap (·.metadata.name) = (l.map (·.metadata.name)).filterMap id := by
    intro l
    rw [List.filterMap_map]
    rfl
  rw [hid, h, ← hid]
  exact hs

theorem listed_of_nodup {s : Store} (h : (s.namespaces.filterMap (·.metadata.name)).Nodup) :
    Listed excluded s.namespaces s := by
  intro ns hmem name hname
  have hsame : ∀ ns' ∈ s.namespaces, ns'.metadata.name = some name → ns' = ns :=
    fun ns' hmem' hname' => eq_of_nodup_names h hmem hmem' hname hname'
  split_ifs with hp
  · intro ns' hmem' hname'
    rw [hsame ns' hmem' hname']
    exact hp
  · obtain ⟨p, hp⟩ := Option.ne_none_iff_exists'.1 hp
    intro ns' hmem' hname'
    rw [hsame ns' hmem' hname']
    exact (labelPatch_eq_some hp).2.1

/-- **What a pass that completes leaves**: every object as it is wanted, and every namespace with the label that is wanted
for it, or opted out. -/
structure Settled (namespace_ image : String) (excluded : Finset String) (s : Store) : Prop where
  objects : There (wantedObjects namespace_ image) s
  labels : ∀ ns ∈ s.namespaces, ∀ name, ns.metadata.name = some name →
    namespaceActionModeValue ns = wantedLabel true excluded name ∨ namespaceActionModeValue ns = some "false"

theorem label_of_settled {ns : Namespace} {name : String} (hname : ns.metadata.name = some name)
    (h : labelPatch true excluded ns = none) :
    namespaceActionModeValue ns = wantedLabel true excluded name ∨ namespaceActionModeValue ns = some "false" := by
  unfold labelPatch at h
  unfold wantedLabel
  rw [hname] at h
  by_cases hexcl : namespaceIsExcluded name excluded = true
  · cases hval : namespaceActionModeValue ns <;> simp_all
  · cases hval : namespaceActionModeValue ns with
    | none => simp [hexcl, hval] at h
    | some value =>
      have hor : ¬ value = actionModeNamespaceLabelEnabled → value = "false" := by simpa [hexcl, hval] using h
      simpa [hexcl] using or_iff_not_imp_left.2 hor

theorem reconcileActionModeNamespaces_enabling {s : Store} (h : (s.namespaces.filterMap (·.metadata.name)).Nodup) :
    Enabling namespace_ image excluded pod
      (OnOk fun _ s => ∀ ns ∈ s.namespaces, labelPatch true excluded ns = none)
      (reconcileActionModeNamespaces true excluded) s := by
  have hR := moving_moves namespace_ image excluded
  have hstable := @stable_names namespace_ image excluded
  refine Secures.bind (fun x s' hx => ?_) (Secures.keeps hR (hstable _) rfl (secures_request
    (Q := fun (x : ApiResult (List Namespace)) s => ∀ listed, x = .ok listed →
      (s.namespaces.map (·.metadata.name) = listed.map (·.metadata.name)) ∧
      ((s.namespaces.filterMap (·.metadata.name)).Nodup → Listed excluded listed s))
    (moves_of_harmless .listNamespaces trivial) ?_))
  · cases x with
    | error e => exact secures_pure (fun _ _ _ => nofun)
    | ok listed =>
      obtain ⟨hlist, hnames⟩ := hx s' (hR.refl s')
      obtain ⟨hsame, hready⟩ := hlist listed rfl
      have hloop := @reconcileNamespaces_enabling namespace_ image excluded pod listed s'
        (hready (nodup_of_names hnames h))
      refine (hloop.keeps hR (hstable _) hsame).mono ?_
      rintro r s'' ⟨hq, hnames''⟩ a rfl ns hns
      cases hname : ns.metadata.name with
      | none => simp [labelPatch, hname]
      | some name =>
        have hmem : some name ∈ listed.map (·.metadata.name) := hnames'' ▸ List.mem_map.2 ⟨ns, hns, hname⟩
        obtain ⟨ns', hns', hname'⟩ := List.mem_map.1 hmem
        exact hq () rfl ns' hns' name hname' ns hns hname
  · rintro s x s' ⟨hmay, hs'⟩ s'' hm listed rfl
    obtain rfl : listed = s.namespaces := hmay
    have heq : s' = s := hs'.elim id And.right
    subst heq
    refine ⟨hm.names, fun hnodup => ?_⟩
    exact stable_listed _ s' s'' hm (listed_of_nodup (nodup_of_names hm.names.symm hnodup))

/-- **An enabling pass that completes leaves the store settled**, whatever the other ones did meanwhile. -/
theorem reconcileOperatorWorkload_enabling (podName : String)
    (hpod : (pod.bind List.head?).bind Container.image = some image) {s : Store}
    (h : (s.namespaces.filterMap (·.metadata.name)).Nodup) :
    Enabling namespace_ image excluded pod (fun r s => r = .ok () → Settled namespace_ image excluded s)
      (reconcileOperatorWorkload namespace_ podName true excluded) s := by
  have hR := moving_moves namespace_ image excluded
  have hnodup : Stable (Moves namespace_ image excluded)
      (fun s => (s.namespaces.filterMap (·.metadata.name)).Nodup) := fun _ _ hm hs => nodup_of_names hm.names hs
  have hwant : [.serviceAccount namespace_, .deployment namespace_ image] ++ [.defaultActionPolicy] =
      wantedObjects namespace_ image := rfl
  have hsub : [Desired.serviceAccount namespace_, .deployment namespace_ image] ⊆ wantedObjects namespace_ image :=
    hwant ▸ List.subset_append_left _ _
  -- the image, the account and the deployment
  have hworkload : Enabling namespace_ image excluded pod
      (OnOk fun _ => There [.serviceAccount namespace_, .deployment namespace_ image])
      (ensureOperatorResources namespace_ podName) s := by
    refine secures_andThen (K := fun _ => True) hR (fun _ _ _ _ => trivial) trivial
      (resolveOperatorImage_enabling podName hpod s) fun i s₁ hi => ?_
    obtain rfl : i = image := (hi s₁ (hR.refl s₁)).1
    have hacc : Stable (Moves namespace_ i excluded) (There [.serviceAccount namespace_]) :=
      stable_there (fun d hd => hsub (List.mem_of_mem_take (i := 1) hd))
    refine secures_andThen (K := fun _ => True) hR (fun _ _ _ _ => trivial) trivial
      (ensureManaged_enabling (hsub (by simp)) _ s₁) fun _ s₂ hs₂ => ?_
    refine ((ensureManaged_enabling (hsub (by simp)) _ s₂).keeps hR hacc (hs₂ s₂ (hR.refl s₂)).1).mono ?_
    rintro r s₃ ⟨hq, ha⟩ a rfl
    exact List.forall_mem_append.2 ⟨ha, hq () rfl⟩
  refine Secures.mono (Q := OnOk fun _ s => (∀ ns ∈ s.namespaces, labelPatch true excluded ns = none) ∧
    There (wantedObjects namespace_ image) s) ?_ ?_
  · rintro r s' hq rfl
    obtain ⟨hlabels, hobjects⟩ := hq () rfl
    exact ⟨hobjects, fun ns hns name hname => label_of_settled hname (hlabels ns hns)⟩
  refine secures_andThen hR hnodup h hworkload fun _ s₁ hs₁ => ?_
  -- the policy, and at last the labels
  have hboth : Stable (Moves namespace_ image excluded) (fun s =>
      There [.serviceAccount namespace_, .deployment namespace_ image] s ∧
        (s.namespaces.filterMap (·.metadata.name)).Nodup) :=
    fun a b hm hs => ⟨stable_there hsub a b hm hs.1, hnodup a b hm hs.2⟩
  refine secures_andThen hR hboth (hs₁ s₁ (hR.refl s₁))
    (ensureManaged_enabling (d := .defaultActionPolicy) (hwant ▸ by simp) _ s₁) fun _ s₂ hs₂ => ?_
  obtain ⟨hpolicy, hwork, hnames⟩ := hs₂ s₂ (hR.refl s₂)
  have hall : There (wantedObjects namespace_ image) s₂ := List.forall_mem_append.2 ⟨hwork, hpolicy⟩
  refine ((reconcileActionModeNamespaces_enabling hnames).keeps hR (stable_there (List.Subset.refl _)) hall).mono ?_
  rintro r s₃ ⟨hq, hobj⟩ a rfl
  exact ⟨hq () rfl, hobj⟩

end Enabled

/-- The passes of one setting of the ConfigMap: any of the agent's pods may make one. -/
def PassOf (namespace_ : String) (enabled : Bool) (excluded : Finset String) (m : Life (Except String Unit)) : Prop :=
  ∃ podName, m = reconcileOperatorWorkload namespace_ podName enabled excluded

/-- **The lifecycle converges, and stays.**  Any number of enabling passes run side by side, each abandoned wherever it
may be, calls failing before or after they were stored: the store is only moved towards what is wanted, and from the
moment one pass has completed it is settled, in every state that the others still lead to. -/
theorem lifecycle_converges {namespace_ image : String} {excluded : Finset String} {pod : Option (List Container)}
    (hpod : (pod.bind List.head?).bind Container.image = some image) {s₀ : Store}
    (hnames : (s₀.namespaces.filterMap (·.metadata.name)).Nodup)
    {es : List (PoolEvent LifecycleCall (Except String Unit))} {p : Pool LifecycleCall LifecycleAnswer Store
      (Except String Unit)}
    (hrun : Steps (PoolStep (ApiEffect pod) (PassOf namespace_ true excluded)) ⟨s₀, []⟩ es p) :
    Moves namespace_ image excluded s₀ p.store ∧
      (.finish (.ok ()) ∈ es → Settled namespace_ image excluded p.store) := by
  have hR := moving_moves namespace_ image excluded
  have h := secured_of_steps hR (Q := fun r s => r = .ok () → Settled namespace_ image excluded s)
    (P := fun _ _ => True) ?_ hrun
  · exact ⟨h.moved, fun hfin => h.finished _ hfin _ (hR.refl _) rfl⟩
  · rintro m ⟨podName, rfl⟩ s hm
    exact reconcileOperatorWorkload_enabling podName hpod (nodup_of_names hm.names hnames)

/-! ### A pass that is alone -/

def calmServer (pod : Option (List Container)) (s : Store) : (op : LifecycleCall) → LifecycleAnswer op × Store
  | .getPod _ _ => (.ok pod, s)
  | .getOpt object => (.ok (s.objects object).isSome, s)
  | .create d => (if s.objects d.object = none then .ok () else .error (.other "conflict"), s.write (.create d))
  | .patch d => (if (s.objects d.object).isSome then .ok () else .error (.other "conflict"), s.write (.patch d))
  | .delete object => (.ok (), s.drop object)
  | .patchLabel name value => (.ok (), s.write (.patchLabel name value))
  | .listNamespaces => (.ok s.namespaces, s)
  | .getConfigMap => (.error (.other "conflict"), s)
  | .isLeader => (true, s)
  | .watch _ => (.ok (), s)
  | .select => (.ended, s)
  | .sleep _ => ((), s)

theorem apiEffect_calmServer (pod : Option (List Container)) (s : Store) (op : LifecycleCall) :
    ApiEffect pod s op (calmServer pod s op).1 (calmServer pod s op).2 := by
  cases op with
  | create d =>
    refine ⟨?_, .inl rfl⟩
    by_cases h : s.objects d.object = none <;> simp [calmServer, Store.MayAnswer, h]
  | patch d =>
    refine ⟨?_, .inl rfl⟩
    by_cases h : (s.objects d.object).isSome <;> simp [calmServer, Store.MayAnswer, h]
  | _ => exact ⟨by first | rfl | trivial, .inl rfl⟩

/-- A cluster with none of the objects yet. -/
def freshStore : Store := ⟨fun _ => none, someNamespaces⟩

def agentPod : Option (List Container) := some [{ name := "agent", image := some "repo/agent:v1" }]

/-- From such a cluster a pass completes, so that it is settled. -/
theorem lifecycle_converges_from_fresh : ∃ es p, PoolEvent.finish (.ok ()) ∈ es ∧
    Steps (PoolStep (ApiEffect agentPod) (PassOf "sentinella" true (Operator.combinedExcludedNamespaces [])))
      ⟨freshStore, []⟩ es p ∧
    Settled "sentinella" "repo/agent:v1" (Operator.combinedExcludedNamespaces []) p.store := by
  have hserved : ∃ s', Prog.serve (calmServer agentPod)
      (reconcileOperatorWorkload "sentinella" "agent-0" true (Operator.combinedExcludedNamespaces [])) freshStore =
        (some (.ok ()), s') := ⟨_, rfl⟩
  obtain ⟨s', hserved⟩ := hserved
  have hrun := finishes_alone (PassOf "sentinella" true (Operator.combinedExcludedNamespaces []))
    (apiEffect_calmServer agentPod) ⟨"agent-0", rfl⟩ hserved
  refine ⟨_, _, by simp, hrun, ?_⟩
  exact (@lifecycle_converges _ "repo/agent:v1" _ _ rfl _ (by decide) _ _ hrun).2 (by simp)

/-! ## With the flag off -/

/-- **How far the passes move the store with the flag off**: they only take the operator's workload away. -/
structure Removes (namespace_ : String) (s s' : Store) : Prop where
  objects : ∀ object, s'.objects object = s.objects object ∨
    object ∈ [Managed.deployment namespace_, .serviceAccount namespace_] ∧ s'.objects object = none
  namespaces : s'.namespaces = s.namespaces

section Disabled

variable {namespace_ : String} {pod : Option (List Container)}

theorem moving_removes (namespace_ : String) : Moving (Removes namespace_) := by
  refine ⟨fun s => ⟨fun _ => .inl rfl, rfl⟩, fun {s t u} hst htu => ⟨fun object => ?_, ?_⟩⟩
  · rcases htu.objects object with heq | hgone
    · rw [heq]
      exact hst.objects object
    · exact .inr hgone
  · exact htu.namespaces.trans hst.namespaces

theorem stable_absent (object : Managed) : Stable (Removes namespace_) (fun s => s.objects object = none) := by
  intro s s' hm hs
  rcases hm.objects object with heq | ⟨-, hnone⟩
  · exact heq.trans hs
  · exact hnone

theorem removes_drop {object : Managed} (h : object ∈ [Managed.deployment namespace_, .serviceAccount namespace_])
    (s : Store) : Removes namespace_ s (s.drop object) := by
  refine ⟨fun other => ?_, rfl⟩
  by_cases hne : other = object
  · subst hne
    exact .inr ⟨h, drop_objects_self s other⟩
  · exact .inl (drop_objects_of_ne s hne)

theorem removeManaged_secures {object : Managed}
    (h : object ∈ [Managed.deployment namespace_, .serviceAccount namespace_]) (what : String) (s : Store) :
    Secures (ApiEffect pod) (Removes namespace_) (fun _ _ => True) (OnOk fun _ s => s.objects object = none)
      (removeManaged object what) s := by
  have hR := moving_removes namespace_
  refine Secures.bind (fun there s' hthere => ?_) (secures_request
    (Q := fun (there : ApiResult Bool) s => there = .ok false → s.objects object = none) ?_ ?_)
  · rcases there with e | _ | _
    · exact secures_pure (fun _ _ _ => nofun)
    · exact secures_pure (fun s'' hm _ _ => hthere s'' hm rfl)
    · refine secures_withContext (secures_request ?_ ?_)
      · rintro s x s' ⟨-, rfl | ⟨-, rfl⟩⟩
        · exact removes_drop h s
        · exact hR.refl _
      · rintro s x s' ⟨-, hs'⟩ s'' hm rfl
        obtain rfl | ⟨hfail, -⟩ := hs'
        · exact stable_absent object _ s'' hm (drop_objects_self s object)
        · exact hfail.elim
  · rintro s x s' ⟨-, rfl | ⟨-, rfl⟩⟩
    · exact hR.refl _
    · exact hR.refl _
  · rintro s x s' ⟨hmay, hs'⟩ s'' hm rfl
    have heq : s' = s := hs'.elim id And.right
    subst heq
    have hnone : (s'.objects object).isSome = false := hmay.symm
    exact stable_absent object s' s'' hm (Option.isSome_eq_false_iff.1 hnone |> Option.isNone_iff_eq_none.1)

/-- **With the flag off, the lifecycle only takes the operator's workload away**: the default policy and every namespace
stay as they are in every interleaving, and from the moment one pass has completed the workload is gone. -/
theorem lifecycle_removes_only_the_workload {excluded : Finset String} {s₀ : Store}
    {es : List (PoolEvent LifecycleCall (Except String Unit))} {p : Pool LifecycleCall LifecycleAnswer Store
      (Except String Unit)}
    (hrun : Steps (PoolStep (ApiEffect pod) (PassOf namespace_ false excluded)) ⟨s₀, []⟩ es p) :
    Removes namespace_ s₀ p.store ∧ (.finish (.ok ()) ∈ es →
      p.store.objects (.deployment namespace_) = none ∧ p.store.objects (.serviceAccount namespace_) = none) := by
  have hR := moving_removes namespace_
  have h := secured_of_steps hR (Q := OnOk fun _ s => s.objects (.serviceAccount namespace_) = none ∧
    s.objects (.deployment namespace_) = none) (P := fun _ _ => True) ?_ hrun
  · exact ⟨h.moved, fun hfin => (h.finished _ hfin _ (hR.refl _) () rfl).symm⟩
  · rintro m ⟨podName, rfl⟩ s -
    refine secures_andThen (K := fun _ => True) hR (fun _ _ _ _ => trivial) trivial
      (removeManaged_secures (by simp) _ s) fun _ s' hs' => ?_
    refine ((removeManaged_secures (by simp) _ s').keeps hR (stable_absent _) (hs' s' (hR.refl s')).1).mono ?_
    rintro r s'' ⟨hq, hdep⟩ a rfl
    exact ⟨hq () rfl, hdep⟩

end Disabled

/-- A cluster that a pass left settled, and a pass that disables. -/
theorem lifecycle_removes_the_workload_of_settled : ∃ es p, PoolEvent.finish (.ok ()) ∈ es ∧
    Steps (PoolStep (ApiEffect agentPod) (PassOf "sentinella" false ∅))
      ⟨(freshStore.put (.deployment "sentinella" "repo/agent:v1")).put .defaultActionPolicy, []⟩ es p ∧
    p.store.objects (.deployment "sentinella") = none ∧ p.store.namespaces = someNamespaces := by
  have hserved : ∃ s', Prog.serve (calmServer agentPod) (reconcileOperatorWorkload "sentinella" "agent-0" false ∅)
      ((freshStore.put (.deployment "sentinella" "repo/agent:v1")).put .defaultActionPolicy) =
        (some (.ok ()), s') := ⟨_, rfl⟩
  obtain ⟨s', hserved⟩ := hserved
  have hrun := finishes_alone (PassOf "sentinella" false ∅) (apiEffect_calmServer agentPod)
    ⟨"agent-0", rfl⟩ hserved
  have h := lifecycle_removes_only_the_workload hrun
  exact ⟨_, _, by simp, hrun, (h.2 (by simp)).1, h.1.namespaces⟩

end Lifecycle
end HubAgent
