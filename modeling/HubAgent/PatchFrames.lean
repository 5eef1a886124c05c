import HubAgent.ResourcePatch
/-!
# What the patches of a command change

A command changes one field of one object, whichever it is: a restart the annotation of its time, a scale the number of
replicas, a drain whether its node is schedulable, and the others a field of one container.  What the field becomes is
said by the command's spec, and for a restart by the clock that the run has read.  Everything else in the
object is left alone by every live patch of every command (`live_patch_changes_one_field`).
-/
namespace HubAgent

namespace Json

/-! ## Patches of one nested member -/

/-- A value under nested keys. -/
def nest : List String → Json → Json
  | [], value => value
  | key :: keys, value => .obj [(key, nest keys value)]

def ObjectsAlong : List String → Json → Prop
  | [], _ => True
  | key :: keys, j => (∀ items, j ≠ .arr items) ∧ ObjectsAlong keys ((j.step (.key key)).getD .null)

def IsScalar : Json → Prop
  | .bool _ => True
  | .num _ => True
  | .str _ => True
  | _ => False

section Nest

variable (mergeKeys : String → Option String) {focus : List Step} {old new : Option Json} {value : Json}

/-- Below the first step, what is missing reads as `null`. -/
theorem atPath_cons_getD (j : Json) (s : Step) {path : List Step} (hpath : path ≠ []) :
    j.atPath (s :: path) = ((j.step s).getD .null).atPath path := by
  rw [atPath_cons]
  cases j.step s with
  | none =>
    obtain ⟨t, rest, rfl⟩ := List.exists_cons_of_ne_nil hpath
    rfl
  | some v => rfl

theorem ChangesAt.consD {s : Step} {before after after' : Json} (hfocus : focus ≠ [])
    (hafter : after.step s = some after') (hothers : ∀ other, other ≠ s → after.step other = before.step other)
    (h : ChangesAt focus old new ((before.step s).getD .null) after') :
    ChangesAt (s :: focus) old new before after := by
  refine ⟨(atPath_cons_getD before s hfocus).trans h.was, ?_, fun path hfrom hto => ?_⟩
  · rw [atPath_cons, hafter]
    exact h.becomes
  · cases path with
    | nil => exact absurd List.nil_prefix hto
    | cons other path =>
      by_cases heq : other = s
      · subst heq
        have hpath : path ≠ [] := by
          rintro rfl
          exact hto ((List.prefix_cons_inj other).2 List.nil_prefix)
        rw [atPath_cons_getD before other hpath, atPath_cons, hafter]
        refine h.frame path (fun hprefix => hfrom ?_) (fun hprefix => hto ?_)
        · exact (List.prefix_cons_inj other).2 hprefix
        · exact (List.prefix_cons_inj other).2 hprefix
      · rw [atPath_cons, atPath_cons, hothers other heq]

theorem strategicMerge_scalar (hvalue : IsScalar value) (target : Json) :
    strategicMerge mergeKeys target value = value := by
  cases value <;> first | exact hvalue.elim | rw [strategicMerge]

/-- What is nested is merged into what was there. -/
theorem strategicallyMerged_nest (hvalue : IsScalar value) (key : String) (before : Option Json) (keys : List String) :
    strategicallyMerged mergeKeys key before (nest keys value) =
      some (strategicMerge mergeKeys (before.getD .null) (nest keys value)) := by
  cases keys with
  | nil => cases value <;> first | exact hvalue.elim | rfl
  | cons key' keys => rfl

theorem step_strategicMerge_others {target : Json} (hobject : ∀ items, target ≠ .arr items) (key : String)
    (inner : Json) {other : Step} (hother : other ≠ .key key) :
    (strategicMerge mergeKeys target (.obj [(key, inner)])).step other = target.step other := by
  cases other with
  | key name =>
    have hne : ¬ key = name := fun heq => hother (congrArg Step.key heq.symm)
    rw [step_strategicMerge_key mergeKeys target (by simp), lookup_cons, if_neg hne]
    rfl
  | index i =>
    rw [step_strategicMerge_index]
    cases target with
    | arr items => exact absurd rfl (hobject items)
    | _ => rfl

/-- **A nested patch changes the member it names**, and makes the objects on the way where they are missing. -/
theorem changesAt_nest (hvalue : IsScalar value) (key : String) (keys : List String) (target : Json)
    (halong : ObjectsAlong (key :: keys) target) :
    ChangesAt ((key :: keys).map Step.key) (target.atPath ((key :: keys).map Step.key)) (some value) target
      (strategicMerge mergeKeys target (nest (key :: keys) value)) := by
  induction keys generalizing key target with
  | nil =>
    have hnodup : ([(key, value)].map Prod.fst).Nodup := by simp
    have hnew : (strategicMerge mergeKeys target (nest [key] value)).step (.key key) = some value := by
      have hmember := step_strategicMerge_key mergeKeys target hnodup key
      rw [lookup_cons, if_pos rfl] at hmember
      have hscalar := strategicallyMerged_nest mergeKeys hvalue key (target.step (.key key)) []
      rw [nest, strategicMerge_scalar mergeKeys hvalue] at hscalar
      exact hmember.trans hscalar
    have hold : target.atPath [.key key] = target.step (.key key) := by
      rw [atPath_cons]
      exact Option.bind_fun_some _
    rw [List.map_cons, List.map_nil, hold, ← hnew]
    exact .single (fun other hother => step_strategicMerge_others mergeKeys halong.1 key value hother)
  | cons key' keys ih =>
    have hnodup : ([(key, nest (key' :: keys) value)].map Prod.fst).Nodup := by simp
    have hmember := step_strategicMerge_key mergeKeys target hnodup key
    rw [lookup_cons, if_pos rfl] at hmember
    have hafter := hmember.trans (strategicallyMerged_nest mergeKeys hvalue key _ (key' :: keys))
    have hfocus : (key' :: keys).map Step.key ≠ [] := by simp
    rw [List.map_cons, atPath_cons_getD target _ hfocus]
    exact .consD hfocus hafter
      (fun other hother => step_strategicMerge_others mergeKeys halong.1 key _ hother) (ih key' _ halong.2)

/-- On nested scalars, the two kinds of merge agree. -/
theorem mergePatch_nest (hvalue : IsScalar value) (keys : List String) (target : Json) :
    mergePatch target (nest keys value) = strategicMerge mergeKeys target (nest keys value) := by
  induction keys generalizing target with
  | nil =>
    rw [nest, strategicMerge_scalar mergeKeys hvalue]
    cases value <;> first | exact hvalue.elim | rw [mergePatch]
  | cons key keys ih =>
    rw [nest, mergePatch, strategicMerge]
    have hinner := ih ((lookup target.members key).getD .null)
    cases keys with
    | nil =>
      rw [nest] at hinner
      cases value <;> first | exact hvalue.elim | simp [nest, mergeMembers, strategicMembers, hinner]
    | cons key' keys =>
      rw [nest] at hinner
      simp [nest, mergeMembers, strategicMembers, hinner]

end Nest

end Json

namespace Executor

open Interaction
open Json

/-! ## What a command changes -/

def restartedAtKeys : List String :=
  ["spec", "template", "metadata", "annotations", "kubectl.kubernetes.io/restartedAt"]

def replicasKeys : List String := ["spec", "replicas"]

def unschedulableKeys : List String := ["spec", "unschedulable"]

def ChangesMember (keys : List String) (value : Json) (before after : Json) : Prop :=
  ChangesAt (keys.map Step.key) (before.atPath (keys.map Step.key)) (some value) before after

theorem changesMember_strategic (mergeKeys : String → Option String) {key : String} {keys : List String}
    {value w : Json} (hvalue : IsScalar value) (h : ObjectsAlong (key :: keys) w) :
    ChangesMember (key :: keys) value w (strategicMerge mergeKeys w (nest (key :: keys) value)) :=
  changesAt_nest mergeKeys hvalue key keys w h

theorem changesMember_merge {key : String} {keys : List String} {value w : Json} (hvalue : IsScalar value)
    (h : ObjectsAlong (key :: keys) w) :
    ChangesMember (key :: keys) value w (mergePatch w (nest (key :: keys) value)) := by
  rw [mergePatch_nest (fun _ => none) hvalue]
  exact changesMember_strategic _ hvalue h

/-- An object that has the place of the field, or where it can be made. -/
structure Patchable (cmd : Command) (w : Json) : Prop where
  restart : cmd.kind = "rollout_restart" → ObjectsAlong restartedAtKeys w
  scale : cmd.kind = "scale" → ObjectsAlong replicasKeys w
  cordon : cmd.kind = "drain_node" → ObjectsAlong unschedulableKeys w
  agent : cmd.kind = "update_agent" → ∃ i, HasContainer w updateAgentContainer i
  resources : ∀ spec, cmd.kind = "apply_workload_resources" → parseSpec Decode.workloadResourcesSpec cmd = .ok spec →
    ∃ i, HasContainer w spec.container i

/-- **What a command makes of an object it patches**, after the calls `tr` of its run: one field of it changes. -/
inductive Change (cmd : Command) (tr : ApiTrace) (before after : Json) : Prop
  | restart (time : String) (kind : cmd.kind = "rollout_restart") (read : (⟨.nowRfc3339, time⟩ : ApiEvent) ∈ tr)
      (changes : ChangesMember restartedAtKeys (.str time) before after)
  | scale (spec : ScaleSpec) (kind : cmd.kind = "scale") (parsed : parseSpec Decode.scaleSpec cmd = .ok spec)
      (changes : ChangesMember replicasKeys (ofInt spec.replicas) before after)
  | cordon (kind : cmd.kind = "drain_node") (changes : ChangesMember unschedulableKeys (.bool true) before after)
  | agent (spec : UpdateAgentSpec) (image : String) (i : Nat) (kind : cmd.kind = "update_agent")
      (parsed : parseSpec Decode.updateAgentSpec cmd = .ok spec) (valid : validateUpdateAgentImage spec.image = .ok image)
      (there : HasContainer before updateAgentContainer i)
      (changes : ChangesAt (containersPath ++ [.index i, .key "image"])
        (before.atPath (containersPath ++ [.index i, .key "image"])) (some (.str image)) before after)
  | resources (spec : WorkloadResourcesSpec) (i : Nat) (kind : cmd.kind = "apply_workload_resources")
      (parsed : parseSpec Decode.workloadResourcesSpec cmd = .ok spec) (there : HasContainer before spec.container i)
      (effect : PatchEffect spec i before after)

/-- What the API server makes of an object: a workload is patched strategically, a scale and a node by a merge. -/
def patched (mergeKeys : String → Option String) (w : Json) : ApiCall → Json
  | .patchWorkload _ _ _ _ patch => strategicMerge mergeKeys w patch
  | .patchScale _ _ _ patch => mergePatch w patch
  | .patchNode _ _ patch => mergePatch w patch
  | _ => w

inductive PatchOf (cmd : Command) (tr : ApiTrace) : ApiCall → Prop
  | restart (k : WorkloadKind) (ns name time : String) (kind : cmd.kind = "rollout_restart")
      (read : (⟨.nowRfc3339, time⟩ : ApiEvent) ∈ tr) :
      PatchOf cmd tr (.patchWorkload k ns name false (rolloutRestartPatch time))
  | scale (spec : ScaleSpec) (ns name : String) (kind : cmd.kind = "scale")
      (parsed : parseSpec Decode.scaleSpec cmd = .ok spec) :
      PatchOf cmd tr (.patchScale ns name false (scalePatch spec.replicas))
  | cordon (name : String) (kind : cmd.kind = "drain_node") : PatchOf cmd tr (.patchNode name false cordonPatch)
  | evict (ns name : String) (eviction : Eviction) (kind : cmd.kind = "drain_node") :
      PatchOf cmd tr (.createEviction ns name eviction)
  | agent (spec : UpdateAgentSpec) (k : WorkloadKind) (ns name image : String) (kind : cmd.kind = "update_agent")
      (parsed : parseSpec Decode.updateAgentSpec cmd = .ok spec)
      (valid : validateUpdateAgentImage spec.image = .ok image) :
      PatchOf cmd tr (.patchWorkload k ns name false (updateAgentPatch image))
  | resources (spec : WorkloadResourcesSpec) (k : WorkloadKind) (ns name : String) (patch : Json)
      (kind : cmd.kind = "apply_workload_resources") (parsed : parseSpec Decode.workloadResourcesSpec cmd = .ok spec)
      (built : buildWorkloadResourcesPatch spec = .ok patch) : PatchOf cmd tr (.patchWorkload k ns name false patch)

/-- **Each patch changes its field.** -/
theorem change_of_patchOf {mergeKeys : String → Option String} (hkeys : mergeKeys "containers" = some "name")
    {cmd : Command} {tr : ApiTrace} {op : ApiCall} (h : PatchOf cmd tr op) {w : Json} (hw : Patchable cmd w) :
    (∃ ns name eviction, op = .createEviction ns name eviction ∧ cmd.kind = "drain_node") ∨
      Change cmd tr w (patched mergeKeys w op) := by
  cases h with
  | restart k ns name time kind read =>
    have hscalar : IsScalar (.str time) := trivial
    exact .inr (.restart time kind read (changesMember_strategic mergeKeys hscalar (hw.restart kind)))
  | scale spec ns name kind parsed =>
    have hscalar : IsScalar (ofInt spec.replicas) := trivial
    exact .inr (.scale spec kind parsed (changesMember_merge hscalar (hw.scale kind)))
  | cordon name kind =>
    have hscalar : IsScalar (.bool true) := trivial
    exact .inr (.cordon kind (changesMember_merge hscalar (hw.cordon kind)))
  | evict ns name eviction kind => exact .inl ⟨ns, name, eviction, rfl, kind⟩
  | agent spec k ns name image kind parsed valid =>
    obtain ⟨i, hi⟩ := hw.agent kind
    exact .inr (.agent spec image i kind parsed valid hi (changes_workload hkeys hi (by decide) rfl))
  | resources spec k ns name patch kind parsed built =>
    obtain ⟨i, hi⟩ := hw.resources spec kind parsed
    exact .inr (.resources spec i kind parsed hi (patchEffect hkeys hi built))

/-! ## The runs -/

/-- What a command may call: of the live calls, its own. -/
def Patches (cmd : Command) (tr : ApiTrace) (op : ApiCall) : Prop :=
  op.mutatesLive = true → PatchOf cmd tr op

theorem allowsReads_patches (cmd : Command) : AllowsReads (Patches cmd) := by
  intro tr op h hlive
  rw [h] at hlive
  cases hlive

theorem patches_of_lookupFirst {cmd : Command} {spec : WorkloadResourcesSpec}
    (hkind : cmd.kind = "apply_workload_resources") (hparsed : parseSpec Decode.workloadResourcesSpec cmd = .ok spec)
    (tr : ApiTrace) (op : ApiCall) (h : LookupFirst spec tr op) : Patches cmd tr op := by
  intro hlive
  cases op with
  | patchWorkload k ns name dryRun patch =>
    cases dryRun with
    | true => cases hlive
    | false => exact .resources spec k ns name patch hkind hparsed h.built
  | patchScale => exact h.elim
  | patchNode => exact h.elim
  | _ => exact absurd hlive (Bool.eq_false_iff.1 h)

theorem rolloutRestart_patches {P : ApiTrace → ApiCall → Prop} (hP : AllowsReads P) (fuel : Nat) (cfg : Config)
    (id : String) (spec : RolloutRestartSpec) (tr : ApiTrace)
    (hpatch : ∀ tr' k ns name dryRun time, (⟨.nowRfc3339, time⟩ : ApiEvent) ∈ tr' →
      P tr' (.patchWorkload k ns name dryRun (rolloutRestartPatch time))) :
    (rolloutRestart fuel cfg id spec).Meets P (fun _ _ => True) tr := by
  refine (ensureEffectivePolicyAllows_meets hP _ _ _ _ _ tr).bind (fun gate tr₁ _ => ?_)
  cases gate with
  | error msg => exact (readOnly_commandError _ _ _).allowed hP _
  | ok e =>
    refine (meets_ask_bind _ _).2 ⟨hP _ _ rfl, fun restartAt => ?_⟩
    refine ((readOnly_simple _ _ _).meets hP _).bind (fun result tr₂ h₂ => ?_)
    have hread : (⟨.nowRfc3339, restartAt⟩ : ApiEvent) ∈ tr₂ := h₂.subset (by simp)
    refine (applyRolloutRestartPatch_meets hP _ _ _ _ true tr₂
      (fun k tr' _ hsub => hpatch _ _ _ _ _ _ (hsub.subset hread))).bind (fun dry tr₃ h₃ => ?_)
    cases dry with
    | error msg => exact (readOnly_commandError _ _ _).allowed hP _
    | ok before =>
      dsimp only
      split
      · exact trivial
      refine (applyRolloutRestartPatch_meets hP _ _ _ _ false tr₃
        (fun k tr' _ hsub => hpatch _ _ _ _ _ _ (hsub.subset (h₃.1.subset hread)))).bind (fun applied tr₄ _ => ?_)
      cases applied with
      | error msg => exact (readOnly_commandError _ _ _).allowed hP _
      | ok after =>
        refine (readOnly_bind (readOnly_waitForRolloutCompletion _ _ _ _) (fun v => ?_)).allowed hP _
        cases v <;> exact readOnly_pure _

theorem dispatch_patches {α : Type} {cmd : Command} {enabled : Bool} {off : String} {d : Decoder α}
    {handler : α → Exec CommandResult}
    (h : ∀ spec, parseSpec d cmd = .ok spec → (handler spec).Meets (Patches cmd) (fun _ _ => True) []) :
    (dispatch enabled off d cmd handler).Meets (Patches cmd) (fun _ _ => True) [] := by
  have hsimple : ∀ s msg, (simple cmd.id s msg).Meets (Patches cmd) (fun _ _ => True) [] := fun _ _ =>
    (readOnly_simple _ _ _).allowed (allowsReads_patches cmd) []
  unfold dispatch
  split
  · exact hsimple _ _
  split
  · exact h _ ‹_›
  · exact hsimple _ _

section Handled

-- What is known of these handlers is in their lemmas.
attribute [local irreducible] drainNode getResourceYaml

theorem executeInner_patches (env : Externals) (fuel : Nat) (cfg : Config) (cmd : Command) :
    (executeInner env fuel cfg cmd).Meets (Patches cmd) (fun _ _ => True) [] := by
  have hP := allowsReads_patches cmd
  have hread {α : Type} {m : Exec α} (h : ReadOnly m) : m.Meets (Patches cmd) (fun _ _ => True) [] := h.allowed hP []
  unfold executeInner
  dsimp only
  split
  · exact dispatch_patches (fun spec _ => hread (readOnly_getResourceYaml env cfg cmd.id spec))
  · exact dispatch_patches (fun spec _ => hread (readOnly_diagnosePostgresql env cfg cmd.id spec))
  · exact dispatch_patches (fun spec _ => hread (readOnly_previewWorkloadResources cfg cmd.id spec))
  · exact dispatch_patches (fun spec hparsed =>
      (runWorkloadResources_lookupFirst cfg cmd.id spec false).mono (patches_of_lookupFirst ‹_› hparsed)
        (fun _ _ h => h))
  · exact dispatch_patches (fun spec _ => rolloutRestart_patches hP fuel _ _ spec []
      (fun tr k ns name dryRun time hread => by
        cases dryRun with
        | true => exact hP _ _ rfl
        | false => exact fun _ => .restart k ns name time ‹_› hread))
  · exact dispatch_patches (fun spec hparsed =>
      scaleWorkload_meets hP _ _ spec [] (fun _ _ _ _ _ _ _ => .scale spec _ _ ‹_› hparsed))
  · exact dispatch_patches (fun spec _ => drainNode_meets hP fuel _ _ spec [] rfl
      (fun _ _ _ => .cordon _ ‹_›) (fun _ ns name eviction _ _ => .evict ns name eviction ‹_›))
  · exact dispatch_patches (fun spec _ => hread (readOnly_selfUpdate cfg cmd.id spec))
  · exact dispatch_patches (fun spec hparsed =>
      updateAgent_meets hP _ _ spec [] (fun _ _ image _ hvalid _ _ _ => .agent spec _ _ _ image ‹_› hparsed hvalid))
  · exact hread (readOnly_simple _ _ _)

end Handled

/-- **A live patch changes one field.**  Whatever the configuration, the command and the answers: each live call of a
run is an eviction, or it patches an object; and whatever that object holds, so long as it has a place for the field, the
merge changes the field of the command's kind to what its spec says, or to the time that the run has read before, and
nothing at any path outside it. -/
theorem live_patch_changes_one_field (env : Externals) (fuel : Nat) (cfg : Config) (cmd : Command) (o : ApiOracle)
    {mergeKeys : String → Option String} (hkeys : mergeKeys "containers" = some "name") {pre post : ApiTrace}
    {e : ApiEvent} (hs : (executeInner env fuel cfg cmd).trace o = pre ++ e :: post) (hlive : e.call.mutatesLive = true)
    {w : Json} (hw : Patchable cmd w) :
    (∃ ns name eviction, e.call = .createEviction ns name eviction ∧ cmd.kind = "drain_node") ∨
      Change cmd pre w (patched mergeKeys w e.call) :=
  change_of_patchOf hkeys (trace_meets o _ (executeInner_patches env fuel cfg cmd) pre post e hs hlive) hw

def scaleOfTwo : Json :=
  .obj [("metadata", .obj [("name", .str "api")]), ("spec", .obj [("replicas", ofInt 2)])]

/-- The executed scale patches it. -/
theorem live_patch_changes_one_field_scale : ∃ pre e, (executeInner noExternals 0 actingConfig (scaleCommand .null)).trace
    (calmOracle 5 [readyPolicy 0 ["scale"] ["Deployment"] ["app"]]) = pre ++ [e] ∧ e.call.mutatesLive = true ∧
      ((∃ ns name eviction, e.call = .createEviction ns name eviction ∧ (scaleCommand .null).kind = "drain_node") ∨
        Change (scaleCommand .null) pre scaleOfTwo
          (patched (fun field => if field = "containers" then some "name" else none) scaleOfTwo e.call)) := by
  have hs : (executeInner noExternals 0 actingConfig (scaleCommand .null)).trace
        (calmOracle 5 [readyPolicy 0 ["scale"] ["Deployment"] ["app"]]) =
      [⟨.listActionPolicies, .ok [.ok (readyPolicy 0 ["scale"] ["Deployment"] ["app"])]⟩, ⟨.nowMs, (5 : Nat)⟩,
        ⟨.getWorkload .deployment "app" "api", .ok {}⟩, ⟨.getScale "app" "api", .ok {}⟩, ⟨.nowMs, (5 : Nat)⟩,
        ⟨.patchScale "app" "api" true (scalePatch 3), .ok {}⟩] ++
      ⟨.patchScale "app" "api" false (scalePatch 3), .ok {}⟩ :: [] := rfl
  have hw : Patchable (scaleCommand .null) scaleOfTwo := by
    have hkind {kind : String} (hne : "scale" ≠ kind) (h : (scaleCommand .null).kind = kind) : False := hne h
    refine ⟨fun h => (hkind (by decide) h).elim, fun _ => ?_, fun h => (hkind (by decide) h).elim,
      fun h => (hkind (by decide) h).elim, fun _ h => (hkind (by decide) h).elim⟩
    exact ⟨fun items h => (by cases h), fun items h => (by cases h), trivial⟩
  exact ⟨_, _, hs, rfl, live_patch_changes_one_field noExternals 0 actingConfig (scaleCommand .null) _ (by decide) hs rfl
    hw⟩

end Executor
end HubAgent
