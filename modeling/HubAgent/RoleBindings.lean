import HubAgent.Lib.Shared
import HubAgent.LifecycleSpec
import HubAgent.MergePatch
import HubAgent.Reconcile
/-!
# The role bindings of a pass (`ensure_action_role_binding`, `remove_action_role_binding`)

The two callbacks of a pass as programs over the API, and the role bindings as a store.  Any number of passes may run on
it at once, and each may be abandoned at any call.  Every pass moves the bindings only towards the ones that the
namespaces ask for (`BindMoves`), so what the last one to report `Ready` has seen bound and unbound stays so
(`ready_only_where_bound`).
-/
namespace HubAgent
namespace Operator

open Interaction
open Shared
open Transition (Steps)

/-! ## The callbacks -/

inductive RbacCall where
  | listNamespaces
  | listPolicies
  | getBinding (namespace_ : String)
  | createBinding (namespace_ : String) (body : Json)
  | patchBinding (namespace_ : String) (patch : Json)
  | deleteBinding (namespace_ : String)
  | patchStatus (name : String) (status : PolicyStatus)

/-- `get_opt` answers with whether the binding is there. -/
@[reducible] def RbacAnswer : RbacCall → Type
  | .listNamespaces => Except String (List Namespace)
  | .listPolicies => Except String (List SentinellaHubActionPolicy)
  | .getBinding _ => ApiResult Bool
  | .createBinding _ _ => ApiResult Unit
  | .patchBinding _ _ => ApiResult Unit
  | .deleteBinding _ => ApiResult Unit
  | .patchStatus _ _ => Except String Unit

abbrev Rbac (α : Type) := Prog RbacCall RbacAnswer α

abbrev rbac (op : RbacCall) : Rbac (RbacAnswer op) := Prog.ask op

def actionRoleBindingName : String := "sentinella-hub-k8s-agent-action-mode"

def actionClusterRoleName : String := "sentinella-hub-k8s-agent-action-mode"

/-- The account that the binding is for. -/
def actionSubjects : Json :=
  .arr [.obj [("kind", .str "ServiceAccount"), ("name", .str "sentinella-hub-k8s-agent"),
    ("namespace", .str "sentinella")]]

def actionRoleRef : List (String × Json) :=
  [("apiGroup", .str "rbac.authorization.k8s.io"), ("kind", .str "ClusterRole"),
    ("name", .str actionClusterRoleName)]

def desiredActionRoleBinding (namespace_ : String) : List (String × Json) :=
  [("apiVersion", .str "rbac.authorization.k8s.io/v1"), ("kind", .str "RoleBinding"),
    ("metadata", .obj [("name", .str actionRoleBindingName), ("namespace", .str namespace_),
      ("labels", .obj [("app.kubernetes.io/part-of", .str "sentinella"),
        ("sentinella.io/managed-by", .str "sentinella-hub-k8s-agent"),
        (actionModeNamespaceLabel, .str actionModeNamespaceLabelEnabled)]),
      ("annotations", .obj [("sentinella.io/policy-scope", .str "cluster-scoped")])]),
    ("roleRef", .obj actionRoleRef), ("subjects", actionSubjects)]

/-- A call with the context of its error. -/
def bindingContext (context : String) (call : Rbac (ApiResult Unit)) : Rbac (Except String Unit) := do
  match ← call with
  | .error _ => return .error context
  | .ok () => return .ok ()

def ensureActionRoleBinding (namespace_ : String) : Rbac (Except String Unit) := do
  let desired := Json.obj (desiredActionRoleBinding namespace_)
  match ← rbac (.getBinding namespace_) with
  | .error e => return .error e.display
  | .ok true => bindingContext "patch action RoleBinding" (rbac (.patchBinding namespace_ desired))
  | .ok false => bindingContext "create action RoleBinding" (rbac (.createBinding namespace_ desired))

def removeActionRoleBinding (namespace_ : String) : Rbac (Except String Unit) := do
  match ← rbac (.getBinding namespace_) with
  | .error e => return .error e.display
  | .ok true => bindingContext "delete action RoleBinding" (rbac (.deleteBinding namespace_))
  | .ok false => return .ok ()

/-- The callbacks that `reconcile_action_policies` hands on. -/
def operatorCallback : (op : OperatorCall) → Rbac (OperatorAnswer op)
  | .listNamespaces => rbac .listNamespaces
  | .listPolicies => rbac .listPolicies
  | .ensure namespace_ => ensureActionRoleBinding namespace_
  | .remove namespace_ => removeActionRoleBinding namespace_
  | .patchStatus name status => rbac (.patchStatus name status)

/-- `reconcile_action_policies`, at the time and with the bound it computes. -/
def reconcileActionPolicies (nowMs staleAfterMs : Nat) (excluded : Finset String) : Rbac (Except String Unit) :=
  Prog.handle operatorCallback (reconcileActionPoliciesWith nowMs staleAfterMs excluded)

/-! ## The bindings as a store -/

/-- The action role binding of each namespace. -/
abbrev Bindings := String → Option Json

/-- A call as it is stored: a create finds nothing there, a patch something. -/
def Bindings.write (s : Bindings) : RbacCall → Bindings
  | .createBinding namespace_ body => if (s namespace_).isSome then s else Function.update s namespace_ (some body)
  | .patchBinding namespace_ patch =>
    match s namespace_ with
    | some old => Function.update s namespace_ (some (Json.mergePatch old patch))
    | none => s
  | .deleteBinding namespace_ => Function.update s namespace_ none
  | _ => s

/-- A read that succeeds is current, and a write succeeds only where it can be stored. -/
def Bindings.MayAnswer (namespaces : List Namespace) (s : Bindings) : (op : RbacCall) → RbacAnswer op → Prop
  | .listNamespaces, .ok listed => listed = namespaces
  | .getBinding namespace_, .ok there => there = (s namespace_).isSome
  | .createBinding namespace_ _, .ok _ => s namespace_ = none
  | .patchBinding namespace_ _, .ok _ => (s namespace_).isSome = true
  | _, _ => True

def BindingWriteFailed : (op : RbacCall) → RbacAnswer op → Prop
  | .createBinding _ _, .error _ | .patchBinding _ _, .error _ | .deleteBinding _, .error _ => True
  | _, _ => False

/-- **One call**, on a cluster with these namespaces: a write that fails may have been stored. -/
def RbacEffect (namespaces : List Namespace) : Effect RbacCall RbacAnswer Bindings := fun s op x s' =>
  s.MayAnswer namespaces op x ∧ (s' = s.write op ∨ BindingWriteFailed op x ∧ s' = s)

/-! ## What is asked for -/

/-- **The binding grants the action role to the agent**, and to nobody else. -/
structure Grants (rb : Json) : Prop where
  apiGroup : rb.pointer ["roleRef", "apiGroup"] = some (.str "rbac.authorization.k8s.io")
  kind : rb.pointer ["roleRef", "kind"] = some (.str "ClusterRole")
  name : rb.pointer ["roleRef", "name"] = some (.str actionClusterRoleName)
  subjects : rb.get "subjects" = some actionSubjects

theorem grants_desired (namespace_ : String) : Grants (.obj (desiredActionRoleBinding namespace_)) :=
  ⟨rfl, rfl, rfl, rfl⟩

theorem get_mergePatch (old : Json) {patch : List (String × Json)} (hnodup : (patch.map Prod.fst).Nodup) {key : String}
    {value : Json} (h : Json.lookup patch key = some value) :
    (Json.mergePatch old (.obj patch)).get key = Json.merged (Json.lookup old.members key) value := by
  rw [Json.mergePatch, Json.get, Json.lookup_mergeMembers key patch _ hnodup, h]

/-- **A merge patch of the desired binding grants**, whatever was there. -/
theorem grants_patched (old : Json) (namespace_ : String) :
    Grants (Json.mergePatch old (.obj (desiredActionRoleBinding namespace_))) := by
  have hkeys : ((desiredActionRoleBinding namespace_).map Prod.fst).Nodup := by
    simp [desiredActionRoleBinding]
  have hrole : (Json.mergePatch old (.obj (desiredActionRoleBinding namespace_))).get "roleRef" =
      some (Json.mergePatch ((Json.lookup old.members "roleRef").getD .null) (.obj actionRoleRef)) :=
    get_mergePatch old hkeys (show Json.lookup _ _ = some (.obj actionRoleRef) from rfl)
  have hmember : ∀ {key : String} {value : String}, Json.lookup actionRoleRef key = some (.str value) →
      (Json.mergePatch old (.obj (desiredActionRoleBinding namespace_))).pointer ["roleRef", key] =
        some (.str value) := by
    intro key value h
    rw [Json.pointer, hrole, Option.bind_some, Json.pointer, get_mergePatch _ (by simp [actionRoleRef]) h]
    simp [Json.merged, Json.mergePatch, Json.pointer]
  refine ⟨hmember rfl, hmember rfl, hmember rfl, ?_⟩
  rw [get_mergePatch old hkeys (show Json.lookup _ "subjects" = some actionSubjects from rfl)]
  simp [Json.merged, actionSubjects, Json.mergePatch]

/-- **A namespace is bound as it asks for**: with the role where it opted in, and not at all where it did not. -/
def BindsAs (namespaces : List Namespace) (excluded : Finset String) (name : String) (s : Bindings) : Prop :=
  if name ∈ effectiveNamespaces namespaces excluded then ∃ rb, s name = some rb ∧ Grants rb else s name = none

/-- **How far the passes move the bindings**: one is left alone, or becomes what its namespace asks for. -/
def BindMoves (namespaces : List Namespace) (excluded : Finset String) (s s' : Bindings) : Prop :=
  ∀ name, s' name = s name ∨ name ∈ listedNames namespaces ∧ BindsAs namespaces excluded name s'

section Moves

variable {namespaces : List Namespace} {excluded : Finset String} {name : String} {s s' : Bindings}

theorem BindsAs.congr (h : BindsAs namespaces excluded name s) (heq : s' name = s name) :
    BindsAs namespaces excluded name s' := by
  unfold BindsAs at h ⊢
  rwa [heq]

theorem moving_bindMoves (namespaces : List Namespace) (excluded : Finset String) :
    Moving (BindMoves namespaces excluded) := by
  refine ⟨fun s name => .inl rfl, fun {s t u} hst htu name => ?_⟩
  rcases htu name with heq | hset
  · rcases hst name with heq' | ⟨hlisted, hset⟩
    · exact .inl (heq.trans heq')
    · exact .inr ⟨hlisted, hset.congr heq⟩
  · exact .inr hset

theorem stable_bindsAs (name : String) : Stable (BindMoves namespaces excluded) (BindsAs namespaces excluded name) := by
  intro s s' hm hs
  rcases hm name with heq | ⟨-, hset⟩
  · exact hs.congr heq
  · exact hset

theorem bindMoves_update (hlisted : name ∈ listedNames namespaces) {body : Option Json}
    (h : BindsAs namespaces excluded name (Function.update s name body)) :
    BindMoves namespaces excluded s (Function.update s name body) := by
  intro other
  by_cases hne : other = name
  · subst hne
    exact .inr ⟨hlisted, h⟩
  · exact .inl (Function.update_of_ne hne _ _)

theorem bindsAs_some (heff : name ∈ effectiveNamespaces namespaces excluded) {rb : Json} (h : Grants rb) :
    BindsAs namespaces excluded name (Function.update s name (some rb)) := by
  rw [BindsAs, if_pos heff]
  exact ⟨rb, Function.update_self _ _ _, h⟩

theorem bindsAs_none (heff : name ∉ effectiveNamespaces namespaces excluded) :
    BindsAs namespaces excluded name (Function.update s name none) := by
  rw [BindsAs, if_neg heff]
  exact Function.update_self _ _ _

theorem listed_of_effective (h : name ∈ effectiveNamespaces namespaces excluded) : name ∈ listedNames namespaces := by
  obtain ⟨ns, hns, hopt⟩ := mem_effectiveNamespaces.1 h
  exact List.mem_filterMap.2 ⟨ns, hns, hopt.named⟩

end Moves

/-! ## One pass, among others -/

/-- Every listed namespace is bound as it asks for. -/
def AllBound (namespaces : List Namespace) (excluded : Finset String) (s : Bindings) : Prop :=
  ∀ name ∈ listedNames namespaces, BindsAs namespaces excluded name s

/-- A status that says `Ready` is written where all is bound. -/
def ReadyIfBound (namespaces : List Namespace) (excluded : Finset String) (s : Bindings) (op : RbacCall) : Prop :=
  ∀ name status, op = .patchStatus name status → StatusReady status → AllBound namespaces excluded s

/-- A part of a pass, among others of its kind. -/
abbrev Binding {γ : Type} (namespaces : List Namespace) (excluded : Finset String) (Q : γ → Bindings → Prop)
    (m : Rbac γ) (s : Bindings) : Prop :=
  Secures (RbacEffect namespaces) (BindMoves namespaces excluded) (ReadyIfBound namespaces excluded) Q m s

section Pass

variable {namespaces : List Namespace} {excluded : Finset String} {name : String}

theorem stable_allBound : Stable (BindMoves namespaces excluded) (AllBound namespaces excluded) :=
  fun s s' hm hs name hname => stable_bindsAs name s s' hm (hs name hname)

theorem binding_request {op : RbacCall} {Q : RbacAnswer op → Bindings → Prop} {s : Bindings}
    (hop : ∀ name status, op ≠ .patchStatus name status)
    (hR : ∀ {s x s'}, RbacEffect namespaces s op x s' → BindMoves namespaces excluded s s')
    (hQ : ∀ {s x s'}, RbacEffect namespaces s op x s' → ∀ s'', BindMoves namespaces excluded s' s'' → Q x s'') :
    Binding namespaces excluded Q (rbac op) s :=
  fun _ _ => ⟨fun name status heq => absurd heq (hop name status), fun _ _ he => ⟨hR he, hQ he⟩⟩

theorem binding_read (op : RbacCall) {Q : RbacAnswer op → Bindings → Prop} {s : Bindings}
    (hop : ∀ name status, op ≠ .patchStatus name status) (hwrite : ∀ s : Bindings, s.write op = s)
    (hQ : ∀ {s : Bindings} {x}, s.MayAnswer namespaces op x → ∀ s', BindMoves namespaces excluded s s' → Q x s') :
    Binding namespaces excluded Q (rbac op) s := by
  have hsame : ∀ {s s' : Bindings} {x}, RbacEffect namespaces s op x s' → s' = s := by
    intro s s' x he
    exact he.2.elim (fun h => h.trans (hwrite s)) And.right
  refine binding_request hop (fun he => ?_) (fun {s x s'} he s'' hm => ?_)
  · rw [hsame he]
    exact (moving_bindMoves namespaces excluded).refl _
  · rw [hsame he] at hm
    exact hQ he.1 s'' hm

/-- A write of the binding of `name`, as that namespace asks for. -/
theorem bindingContext_binding (context : String) {s : Bindings} {call : Rbac (ApiResult Unit)}
    (hcall : Binding namespaces excluded (fun r s => r = .ok () → BindsAs namespaces excluded name s) call s) :
    Binding namespaces excluded (fun r s => r = .ok () → BindsAs namespaces excluded name s)
      (bindingContext context call) s := by
  refine hcall.bind fun r s' hr => ?_
  cases r with
  | error e => exact secures_pure (fun _ _ => nofun)
  | ok u => exact secures_pure (fun s'' hm _ => hr s'' hm rfl)

/-- **`ensure`** leaves the role bound where the namespace opted in. -/
theorem ensureActionRoleBinding_binding (heff : name ∈ effectiveNamespaces namespaces excluded) (s : Bindings) :
    Binding namespaces excluded (fun r s => r = .ok () → BindsAs namespaces excluded name s)
      (ensureActionRoleBinding name) s := by
  have hlisted := listed_of_effective heff
  have hR := moving_bindMoves namespaces excluded
  refine Secures.bind (fun there s' _ => ?_) (binding_read (.getBinding name) (Q := fun _ _ => True)
    (fun _ _ => nofun) (fun _ => rfl) (fun _ _ _ => trivial))
  rcases there with e | _ | _
  · exact secures_pure (fun _ _ => nofun)
  · have hset : ∀ s : Bindings, BindsAs namespaces excluded name
        (Function.update s name (some (.obj (desiredActionRoleBinding name)))) :=
      fun s => bindsAs_some heff (grants_desired name)
    refine bindingContext_binding _ (binding_request (fun _ _ => nofun) ?_ ?_)
    · rintro s x s' ⟨-, rfl | ⟨-, rfl⟩⟩
      · simp only [Bindings.write]
        split
        · exact hR.refl s
        · exact bindMoves_update hlisted (hset s)
      · exact hR.refl _
    · rintro s x s' ⟨hmay, hs'⟩ s'' hm rfl
      obtain rfl | ⟨hfail, -⟩ := hs'
      · have hnone : s name = none := hmay
        rw [Bindings.write, hnone] at hm
        exact stable_bindsAs name _ s'' hm (hset s)
      · exact hfail.elim
  · have hset : ∀ (s : Bindings) (old : Json), BindsAs namespaces excluded name
        (Function.update s name (some (Json.mergePatch old (.obj (desiredActionRoleBinding name))))) :=
      fun s old => bindsAs_some heff (grants_patched old name)
    refine bindingContext_binding _ (binding_request (fun _ _ => nofun) ?_ ?_)
    · rintro s x s' ⟨-, rfl | ⟨-, rfl⟩⟩
      · simp only [Bindings.write]
        split
        · exact bindMoves_update hlisted (hset s _)
        · exact hR.refl s
      · exact hR.refl _
    · rintro s x s' ⟨hmay, hs'⟩ s'' hm rfl
      obtain rfl | ⟨hfail, -⟩ := hs'
      · have hsome : (s name).isSome = true := hmay
        obtain ⟨old, hold⟩ := Option.isSome_iff_exists.1 hsome
        rw [Bindings.write, hold] at hm
        exact stable_bindsAs name _ s'' hm (hset s old)
      · exact hfail.elim

/-- **`remove`** leaves no binding where the namespace did not. -/
theorem removeActionRoleBinding_binding (hlisted : name ∈ listedNames namespaces)
    (heff : name ∉ effectiveNamespaces namespaces excluded) (s : Bindings) :
    Binding namespaces excluded (fun r s => r = .ok () → BindsAs namespaces excluded name s)
      (removeActionRoleBinding name) s := by
  have hR := moving_bindMoves namespaces excluded
  refine Secures.bind (fun there s' hthere => ?_) (binding_read (.getBinding name)
    (Q := fun (there : ApiResult Bool) s => there = .ok false → BindsAs namespaces excluded name s)
    (fun _ _ => nofun) (fun _ => rfl) ?_)
  · rcases there with e | _ | _
    · exact secures_pure (fun _ _ => nofun)
    · exact secures_pure (fun s'' hm _ => hthere s'' hm rfl)
    · refine bindingContext_binding _ (binding_request (fun _ _ => nofun) ?_ ?_)
      · rintro s x s' ⟨-, rfl | ⟨-, rfl⟩⟩
        · exact bindMoves_update hlisted (bindsAs_none heff)
        · exact hR.refl _
      · rintro s x s' ⟨-, hs'⟩ s'' hm rfl
        obtain rfl | ⟨hfail, -⟩ := hs'
        · exact stable_bindsAs name _ s'' hm (bindsAs_none heff)
        · exact hfail.elim
  · rintro s x hmay s' hm rfl
    have hnone : (s name).isSome = false := hmay.symm
    refine stable_bindsAs name s s' hm ?_
    rw [BindsAs, if_neg heff]
    simpa using hnone

/-- What the loop has to show for the namespaces `rest`: without an error, each of them is bound as it asks for. -/
def BoundUnless (namespaces : List Namespace) (excluded : Finset String) (rest : List Namespace)
    (errors errors' : List String) (s : Bindings) : Prop :=
  errors' = [] → errors = [] ∧ ∀ name ∈ listedNames rest, BindsAs namespaces excluded name s

/-- **The binding loop**, over a part of the namespaces. -/
theorem reconcileBindings_binding (hnodup : (listedNames namespaces).Nodup) : ∀ (rest : List Namespace)
    (errors : List String) (s : Bindings), rest ⊆ namespaces →
    Binding namespaces excluded (BoundUnless namespaces excluded rest errors)
      (Prog.handle operatorCallback (reconcileBindings excluded rest errors)) s
  | [], errors, s, _ => secures_pure (fun _ _ herr => ⟨herr, fun _ hn => (by cases hn)⟩)
  | ns :: rest, errors, s, hsub => by
    have hR := moving_bindMoves namespaces excluded
    have hrest : rest ⊆ namespaces := fun x hx => hsub (List.mem_cons_of_mem ns hx)
    -- the call for the first namespace, then the rest of the loop
    have hcall : ∀ {name : String} {call : Rbac (Except String Unit)} {s : Bindings}, ns.metadata.name = some name →
        Binding namespaces excluded (fun r s => r = .ok () → BindsAs namespaces excluded name s) call s →
        Binding namespaces excluded (BoundUnless namespaces excluded (ns :: rest) errors) (call >>= fun answer =>
          Prog.handle operatorCallback (reconcileBindings excluded rest (errors ++ errorText answer))) s := by
      intro name call s hname hsec
      refine hsec.bind fun answer s' hanswer => ?_
      have hhead : Stable (BindMoves namespaces excluded)
          (fun s => answer = .ok () → BindsAs namespaces excluded name s) :=
        fun a b hm hs hok => stable_bindsAs name a b hm (hs hok)
      refine ((reconcileBindings_binding hnodup rest (errors ++ errorText answer) s' hrest).keeps hR hhead
        (hanswer s' (hR.refl s'))).mono ?_
      rintro errors' s'' ⟨hq, hset⟩ hnil
      obtain ⟨happ, hbound⟩ := hq hnil
      obtain ⟨herr, htext⟩ := List.append_eq_nil_iff.1 happ
      refine ⟨herr, fun n hn => ?_⟩
      have hcons : listedNames (ns :: rest) = name :: listedNames rest := List.filterMap_cons_some hname
      rw [hcons, List.mem_cons] at hn
      rcases hn with rfl | hn
      · exact hset (errorText_eq_nil htext)
      · exact hbound n hn
    rw [reconcileBindings]
    cases hname : ns.metadata.name with
    | none =>
      have hsame : listedNames (ns :: rest) = listedNames rest := List.filterMap_cons_none hname
      have hloop := reconcileBindings_binding hnodup rest errors s hrest
      unfold BoundUnless at hloop ⊢
      rwa [hsame]
    | some name =>
      have hlisted : name ∈ listedNames namespaces := List.mem_filterMap.2 ⟨ns, hsub (by simp), hname⟩
      dsimp only
      split
      · rename_i hopt
        rw [Bool.and_eq_true, Bool.not_eq_true'] at hopt
        have heff : name ∈ effectiveNamespaces namespaces excluded :=
          mem_effectiveNamespaces.2 ⟨ns, hsub (by simp), hname, hopt.1, hopt.2⟩
        exact hcall hname (ensureActionRoleBinding_binding heff s)
      · rename_i hopt
        have heff : name ∉ effectiveNamespaces namespaces excluded := by
          intro hmem
          obtain ⟨ns', hns', hopt'⟩ := mem_effectiveNamespaces.1 hmem
          have hsame : ns' = ns :=
            Lifecycle.eq_of_nodup_names hnodup (hsub (by simp)) hns' hname hopt'.named
          subst hsame
          exact hopt (by rw [hopt'.notExcluded, hopt'.labelled]; rfl)
        exact hcall hname (removeActionRoleBinding_binding hlisted heff s)

theorem patchStatuses_binding {binding : BindingReconcileOutcome} {t w : Nat} :
    ∀ (policies : List SentinellaHubActionPolicy) (s : Bindings),
      (binding.permissionGranted = true → AllBound namespaces excluded s) →
      Binding namespaces excluded (fun _ _ => True)
        (Prog.handle operatorCallback (patchStatuses namespaces excluded binding t w policies)) s
  | [], _, _ => secures_pure (fun _ _ => trivial)
  | policy :: rest, s, hbound => by
    have hR := moving_bindMoves namespaces excluded
    rw [patchStatuses]
    split
    · exact patchStatuses_binding rest s hbound
    · rename_i name hname
      intro s' hm
      have hbound' : binding.permissionGranted = true → AllBound namespaces excluded s' :=
        fun hgranted => stable_allBound s s' hm (hbound hgranted)
      refine ⟨fun n status heq hready => ?_, fun x s'' he => ?_⟩
      · cases heq
        exact hbound' (readyGates_of_ready (statusReady_buildPolicyStatus.1 hready)).granted
      · have hsame : s'' = s' := he.2.elim id And.right
        subst hsame
        exact ⟨hR.refl _, patchStatuses_binding rest _ hbound'⟩

/-- **A pass is secured**, whatever the other ones do meanwhile. -/
theorem reconcileActionPolicies_binding (hnodup : (listedNames namespaces).Nodup) (t w : Nat) (s : Bindings) :
    Binding namespaces excluded (fun _ _ => True) (reconcileActionPolicies t w excluded) s := by
  refine Secures.bind (fun listed s₁ hlisted => ?_) (binding_read .listNamespaces
    (Q := fun (listed : Except String (List Namespace)) _ => ∀ items, listed = .ok items → items = namespaces)
    (fun _ _ => nofun) (fun _ => rfl) ?_)
  · cases listed with
    | error e => exact secures_pure (fun _ _ => trivial)
    | ok items =>
      obtain rfl : items = namespaces := hlisted s₁ ((moving_bindMoves namespaces excluded).refl s₁) items rfl
      refine Secures.bind (fun policies s₂ _ => ?_) (binding_read .listPolicies (Q := fun _ _ => True)
        (fun _ _ => nofun) (fun _ => rfl) (fun _ _ _ => trivial))
      cases policies with
      | error e => exact secures_pure (fun _ _ => trivial)
      | ok policies =>
        have hbinding : Binding items excluded (fun binding s => binding.permissionGranted = true →
            AllBound items excluded s)
            (Prog.handle operatorCallback (reconcileActionRoleBindingsWith items excluded)) s₂ := by
          unfold reconcileActionRoleBindingsWith
          rw [handle_bind]
          refine (reconcileBindings_binding hnodup items [] s₂ (List.Subset.refl _)).bind fun errors s₃ herr => ?_
          exact secures_pure (fun s₄ hm hgranted => (herr s₄ hm (List.isEmpty_iff.1 hgranted)).2)
        change Binding items excluded (fun _ _ => True) (Prog.handle operatorCallback
          (reconcileActionRoleBindingsWith items excluded >>= fun binding =>
            patchStatuses items excluded binding t w policies >>= fun _ => pure (Except.ok ()))) s₂
        rw [handle_bind]
        refine hbinding.bind fun binding s₃ hbound => ?_
        rw [handle_bind]
        refine (patchStatuses_binding policies s₃ ?_).bind (fun _ _ _ => secures_pure (fun _ _ => trivial))
        exact hbound s₃ ((moving_bindMoves items excluded).refl s₃)
  · rintro s x hmay s' - items rfl
    exact hmay

end Pass

/-- The passes with one set of exclusions, at whatever times. -/
def PassWith (excluded : Finset String) (m : Rbac (Except String Unit)) : Prop :=
  ∃ t w, m = reconcileActionPolicies t w excluded

/-- **`Ready` is only written where the cluster is bound as it asks for.**  Any number of passes run side by side on a
cluster whose namespaces stay as they are, each abandoned wherever it may be, calls failing before or after they were
stored: a binding only ever becomes the one its namespace asks for, and from the moment a `Ready` status is written the
role is bound in every namespace that opted in and in no other listed one. -/
theorem ready_only_where_bound {namespaces : List Namespace} {excluded : Finset String} {s₀ : Bindings}
    (hnodup : (listedNames namespaces).Nodup) {es : List (PoolEvent RbacCall (Except String Unit))}
    {p : Pool RbacCall RbacAnswer Bindings (Except String Unit)}
    (hrun : Steps (PoolStep (RbacEffect namespaces) (PassWith excluded)) ⟨s₀, []⟩ es p) :
    BindMoves namespaces excluded s₀ p.store ∧
      ∀ name status, .call (.patchStatus name status) ∈ es → StatusReady status →
        ∀ ns ∈ listedNames namespaces, if ns ∈ effectiveNamespaces namespaces excluded
          then ∃ rb, p.store ns = some rb ∧ Grants rb else p.store ns = none := by
  have h := secured_of_steps (moving_bindMoves namespaces excluded) (P := ReadyIfBound namespaces excluded)
    (Q := fun _ _ => True) ?_ hrun
  · refine ⟨h.moved, fun name status hmem hready => ?_⟩
    obtain ⟨s, hs, hm⟩ := h.called _ hmem
    exact stable_allBound s p.store hm (hs name status rfl hready)
  · rintro m ⟨t, w, rfl⟩ s -
    exact reconcileActionPolicies_binding hnodup t w s

/-- A server that answers every call it can, on a cluster with these namespaces and policies. -/
def calmRbac (namespaces : List Namespace) (policies : List SentinellaHubActionPolicy) (s : Bindings) :
    (op : RbacCall) → RbacAnswer op × Bindings
  | .listNamespaces => (.ok namespaces, s)
  | .listPolicies => (.ok policies, s)
  | .getBinding namespace_ => (.ok (s namespace_).isSome, s)
  | .createBinding namespace_ body =>
    (if s namespace_ = none then .ok () else .error (.other "conflict"), s.write (.createBinding namespace_ body))
  | .patchBinding namespace_ patch =>
    (if (s namespace_).isSome then .ok () else .error (.other "not found"), s.write (.patchBinding namespace_ patch))
  | .deleteBinding namespace_ => (.ok (), s.write (.deleteBinding namespace_))
  | .patchStatus _ _ => (.ok (), s)

theorem rbacEffect_calmRbac (namespaces : List Namespace) (policies : List SentinellaHubActionPolicy) (s : Bindings)
    (op : RbacCall) : RbacEffect namespaces s op (calmRbac namespaces policies s op).1
      (calmRbac namespaces policies s op).2 := by
  cases op with
  | createBinding n body =>
    refine ⟨?_, .inl rfl⟩
    by_cases h : s n = none <;> simp [calmRbac, Bindings.MayAnswer, h]
  | patchBinding n patch =>
    refine ⟨?_, .inl rfl⟩
    by_cases h : (s n).isSome <;> simp [calmRbac, Bindings.MayAnswer, h]
  | _ => exact ⟨by first | rfl | trivial, .inl rfl⟩

/-- One namespace that opted in and has no binding yet, and one that did not and still has one. -/
def halfBound : Bindings := fun name => if name = "db" then some (.obj []) else none

def twoNamespaces : List Namespace :=
  [namespaceOf "app" [("sentinella.io/action-mode", "true")], namespaceOf "db" []]

/-- There a pass creates the one, deletes the other and reports `Ready`. -/
theorem ready_only_where_bound_there : ∃ es p, Steps (PoolStep (RbacEffect twoNamespaces)
      (PassWith (combinedExcludedNamespaces []))) ⟨halfBound, []⟩ es p ∧
    (∃ status, .call (.patchStatus "p" status) ∈ es ∧ StatusReady status) ∧
    (∃ rb, p.store "app" = some rb ∧ Grants rb) ∧ p.store "db" = none := by
  let policy := Executor.readyPolicy 60000 ["scale"] ["Deployment"] []
  let pass := reconcileActionPolicies 60000 180000 (combinedExcludedNamespaces [])
  have hserved : ∃ s', Prog.serve (calmRbac twoNamespaces [policy]) pass halfBound = (some (.ok ()), s') := ⟨_, rfl⟩
  obtain ⟨s', hserved⟩ := hserved
  have hrun := finishes_alone (PassWith (combinedExcludedNamespaces []))
    (rbacEffect_calmRbac twoNamespaces [policy]) ⟨60000, 180000, rfl⟩ hserved
  have hcalls : Prog.served (calmRbac twoNamespaces [policy]) pass halfBound =
      [.listNamespaces, .listPolicies, .getBinding "app",
        .createBinding "app" (.obj (desiredActionRoleBinding "app")), .getBinding "db", .deleteBinding "db",
        .patchStatus "p" (buildPolicyStatus policy twoNamespaces (combinedExcludedNamespaces []) ⟨true, none⟩ 60000
          180000)] := rfl
  have hready : StatusReady (buildPolicyStatus policy twoNamespaces (combinedExcludedNamespaces []) ⟨true, none⟩ 60000
      180000) := statusReady_buildPolicyStatus.2 (by decide)
  rw [hcalls] at hrun
  have heff : effectiveNamespaces twoNamespaces (combinedExcludedNamespaces []) = ["app"] := by decide
  have hbound := (ready_only_where_bound (by decide) hrun).2 "p" _ (by simp) hready
  rw [heff] at hbound
  exact ⟨_, _, hrun, ⟨_, by simp, hready⟩, by simpa using hbound "app" (by decide), by simpa using hbound "db" (by decide)⟩

end Operator
end HubAgent
