import HubAgent.LiveCalls
import HubAgent.StrategicMerge
/-!
# What a resource patch changes

`PatchEffect` is what a `WorkloadResourcesSpec` asks for, read off the workload before and after its patch is merged: a
side that the spec leaves out stays, an empty one goes, and of the others the keys given are set; nothing changes outside
the resources of the container named.  The run adds that a patch goes out only after a workload with that container was
read.
-/
namespace HubAgent
namespace Executor

open Interaction
open Json

/-! ## The effect asked for -/

def containersPath : List Step := [.key "spec", .key "template", .key "spec", .key "containers"]

def resourcesPath (i : Nat) : List Step := containersPath ++ [.index i, .key "resources"]

def HasContainer (w : Json) (name : String) (i : Nat) : Prop :=
  ∃ items, w.atPath containersPath = some (.arr items) ∧
    items.findIdx? (fun c => (c.get "name").bind asStr == some name) = some i

/-- The amount a side gives for a resource. -/
def amountOf (m : ResourceMap) (key : String) : Option String :=
  if key = "cpu" then m.cpu else if key = "memory" then m.memory else none

/-- **What a side of the spec makes of that side of a container.** -/
def SideEffect (before after : Option Json) : Option ResourceMap → Prop
  | none => after = before
  | some m =>
    if m.cpu = none ∧ m.memory = none then after = none
    else ∃ v, after = some v ∧ ∀ key,
      v.step (.key key) = ((amountOf m key).map Json.str).or (before.bind (fun old => old.step (.key key)))

/-- **What a spec makes of a workload** whose container is at the index. -/
structure PatchEffect (spec : WorkloadResourcesSpec) (i : Nat) (before after : Json) : Prop where
  frame : SameOutside (resourcesPath i) after before
  others : ∀ key, key ≠ "requests" → key ≠ "limits" →
    after.atPath (resourcesPath i ++ [.key key]) = before.atPath (resourcesPath i ++ [.key key])
  requests : SideEffect (before.atPath (resourcesPath i ++ [.key "requests"]))
    (after.atPath (resourcesPath i ++ [.key "requests"])) spec.requests
  limits : SideEffect (before.atPath (resourcesPath i ++ [.key "limits"]))
    (after.atPath (resourcesPath i ++ [.key "limits"])) spec.limits

/-! ## Members that may be left out -/

section Optional

variable {α : Type} {first second : String}

theorem lookup_optional (hne : first ≠ second) (a b : Option α) (f g : α → Json) (key : String) :
    lookup ((a.map (fun v => (first, f v))).toList ++ (b.map (fun v => (second, g v))).toList) key =
      if key = first then a.map f else if key = second then b.map g else none := by
  by_cases hfirst : key = first
  · subst hfirst
    cases a <;> cases b <;> simp [lookup, Ne.symm hne]
  · by_cases hsecond : key = second
    · subst hsecond
      cases a <;> cases b <;> simp [lookup, hne, Ne.symm hne]
    · cases a <;> cases b <;> simp [lookup, hfirst, hsecond, Ne.symm hfirst, Ne.symm hsecond]

theorem nodup_optional (hne : first ≠ second) (a b : Option α) (f g : α → Json) :
    (((a.map (fun v => (first, f v))).toList ++ (b.map (fun v => (second, g v))).toList).map Prod.fst).Nodup := by
  cases a <;> cases b <;> simp [hne]

end Optional

/-! ## One side -/

section Merge

variable (mergeKeys : String → Option String)

/-- What a patch leaves at a member that it may name. -/
def memberAfter (key : String) (before : Option Json) : Option Json → Option Json
  | some value => strategicallyMerged mergeKeys key before value
  | none => before

theorem step_merged (old : Option Json) {patch : List (String × Json)} (hnodup : (patch.map Prod.fst).Nodup)
    (key : String) : (strategicMerge mergeKeys (old.getD .null) (.obj patch)).step (.key key) =
      memberAfter mergeKeys key (old.bind (fun v => v.step (.key key))) (lookup patch key) := by
  have hold : (old.getD .null).step (.key key) = old.bind (fun v => v.step (.key key)) := by cases old <;> rfl
  rw [step_strategicMerge_key mergeKeys _ hnodup, hold]
  cases lookup patch key <;> rfl

theorem resourceMapToValue_of_given {m : ResourceMap} (h : ¬ (m.cpu = none ∧ m.memory = none)) :
    resourceMapToValue m = .obj ((m.cpu.map (fun v => ("cpu", Json.str v))).toList ++
      (m.memory.map (fun v => ("memory", Json.str v))).toList) := by
  unfold resourceMapToValue
  rw [if_neg]
  simpa using h

theorem lookup_amounts (m : ResourceMap) (key : String) :
    lookup ((m.cpu.map (fun v => ("cpu", Json.str v))).toList ++ (m.memory.map (fun v => ("memory", Json.str v))).toList)
      key = (amountOf m key).map Json.str := by
  rw [lookup_optional (by decide), amountOf]
  split_ifs <;> rfl

/-- **One side**: left out, emptied or set key by key. -/
theorem sideEffect_memberAfter (key : String) (before : Option Json) (side : Option ResourceMap) :
    SideEffect before (memberAfter mergeKeys key before (side.map resourceMapToValue)) side := by
  cases side with
  | none => rfl
  | some m =>
    show if m.cpu = none ∧ m.memory = none then _ else _
    split_ifs with hempty
    · obtain ⟨hcpu, hmemory⟩ := hempty
      simp [memberAfter, resourceMapToValue, hcpu, hmemory, strategicallyMerged]
    · rw [Option.map_some, resourceMapToValue_of_given hempty]
      refine ⟨_, rfl, fun name => ?_⟩
      rw [step_merged mergeKeys before (nodup_optional (by decide) m.cpu m.memory Json.str Json.str), lookup_amounts]
      cases amountOf m name <;> rfl

/-! ## The container -/

def sideMembers (spec : WorkloadResourcesSpec) : List (String × Json) :=
  (spec.requests.map (fun m => ("requests", resourceMapToValue m))).toList ++
    (spec.limits.map (fun m => ("limits", resourceMapToValue m))).toList

theorem lookup_sideMembers (spec : WorkloadResourcesSpec) (key : String) :
    lookup (sideMembers spec) key =
      if key = "requests" then spec.requests.map resourceMapToValue
      else if key = "limits" then spec.limits.map resourceMapToValue else none :=
  lookup_optional (by decide) spec.requests spec.limits resourceMapToValue resourceMapToValue key

theorem nodup_sideMembers (spec : WorkloadResourcesSpec) : ((sideMembers spec).map Prod.fst).Nodup :=
  nodup_optional (by decide) spec.requests spec.limits resourceMapToValue resourceMapToValue

theorem step_name {c : Json} {name : String} (h : (c.get "name").bind asStr = some name) :
    c.step (.key "name") = some (.str name) := by
  obtain ⟨v, hv, hstr⟩ := Option.bind_eq_some_iff.1 h
  have hvalue : v = .str name := by
    cases v with
    | str s => exact congrArg Json.str (Option.some.inj hstr)
    | _ => cases hstr
  cases c with
  | obj members => exact hv.trans (congrArg some hvalue)
  | _ => cases hv

section Field

variable {container field : String} {value new : Json}

theorem changes_container {c : Json} (hfield : field ≠ "name") (hname : (c.get "name").bind asStr = some container)
    (hmerged : strategicallyMerged mergeKeys field (c.step (.key field)) value = some new) :
    ChangesAt [.key field] (c.step (.key field)) (some new) c
      (strategicMerge mergeKeys c (.obj [("name", .str container), (field, value)])) := by
  have hnodup : (([("name", .str container), (field, value)] : List (String × Json)).map Prod.fst).Nodup := by
    simp [hfield.symm]
  have hget : c.step (.key "name") = some (.str container) := step_name hname
  have hnew : (strategicMerge mergeKeys c (.obj [("name", .str container), (field, value)])).step (.key field) =
      some new := by
    rw [step_strategicMerge_key mergeKeys c hnodup, lookup_cons, if_neg hfield.symm, lookup_cons, if_pos rfl]
    exact hmerged
  rw [← hnew]
  refine .single (fun other hother => ?_)
  cases other with
  | key name =>
    rw [step_strategicMerge_key mergeKeys c hnodup, lookup_cons, lookup_cons]
    have hne : ¬ field = name := fun heq => hother (congrArg Step.key heq.symm)
    rw [if_neg hne]
    by_cases hn : "name" = name
    · subst hn
      rw [if_pos rfl, hget]
      dsimp only [strategicallyMerged]
      rw [strategicMerge]
    · rw [if_neg hn]
      rfl
  | index i => rw [step_strategicMerge_index, step_key_ne_index hget]

theorem findIdx?_named (items : List Json) :
    items.findIdx? (fun old => sameKey "name" old (.obj [("name", .str container), (field, value)])) =
      items.findIdx? (fun c => (c.get "name").bind asStr == some container) := by
  refine congrArg (fun p => items.findIdx? p) (funext fun c => ?_)
  have hitem : ((Json.obj [("name", .str container), (field, value)]).get "name").bind asStr = some container := rfl
  unfold sameKey
  rw [hitem]
  cases (c.get "name").bind asStr <;> rfl

variable {mergeKeys}

/-- **A patch of one field of a container**, merged into a workload with the container it names, changes that field. -/
theorem changes_workload (hkeys : mergeKeys "containers" = some "name") {w : Json} {i : Nat}
    (h : HasContainer w container i) (hfield : field ≠ "name")
    (hmerged : strategicallyMerged mergeKeys field (w.atPath (containersPath ++ [.index i, .key field])) value =
      some new) :
    ChangesAt (containersPath ++ [.index i, .key field]) (w.atPath (containersPath ++ [.index i, .key field]))
      (some new) w (strategicMerge mergeKeys w (containerPatch [("name", .str container), (field, value)])) := by
  obtain ⟨items, hitems, hfind⟩ := h
  obtain ⟨hlt, hname, -⟩ := List.findIdx?_eq_some_iff_getElem.1 hfind
  have hitem : items[i]? = some items[i] := List.getElem?_eq_getElem hlt
  have hold : w.atPath (containersPath ++ [.index i, .key field]) = items[i].step (.key field) := by
    rw [atPath_append, hitems]
    show (items[i]?).bind _ = _
    rw [hitem, Option.bind_some, atPath_cons]
    exact Option.bind_fun_some _
  rw [hold] at hmerged
  obtain ⟨s, hs, htail⟩ := Option.bind_eq_some_iff.1 hitems
  obtain ⟨t, ht, htail⟩ := Option.bind_eq_some_iff.1 htail
  obtain ⟨p, hp, htail⟩ := Option.bind_eq_some_iff.1 htail
  obtain ⟨cs, hcs, htail⟩ := Option.bind_eq_some_iff.1 htail
  cases htail
  have hcontainers : strategicallyMerged mergeKeys "containers" (some (.arr items))
      (.arr [.obj [("name", .str container), (field, value)]]) = some (.arr (items.modify i (fun old =>
        strategicMerge mergeKeys old (.obj [("name", .str container), (field, value)])))) := by
    rw [strategicallyMerged, hkeys]
    dsimp only [itemsOf]
    rw [strategicItems_singleton mergeKeys ((findIdx?_named items).trans hfind)]
  rw [hold]
  refine .member hs rfl (.member ht rfl (.member hp rfl (.member hcs hcontainers (.item hitem ?_))))
  exact changes_container mergeKeys hfield (eq_of_beq hname) hmerged

end Field

variable {mergeKeys}

/-- **The effect of a resource patch.** -/
theorem patchEffect (hkeys : mergeKeys "containers" = some "name") {spec : WorkloadResourcesSpec} {w : Json} {i : Nat}
    (h : HasContainer w spec.container i) {patch : Json} (hpatch : buildWorkloadResourcesPatch spec = .ok patch) :
    PatchEffect spec i w (strategicMerge mergeKeys w patch) := by
  unfold buildWorkloadResourcesPatch at hpatch
  split at hpatch
  · cases hpatch
  cases hpatch
  have hmerged : strategicallyMerged mergeKeys "resources" (w.atPath (resourcesPath i)) (.obj (sideMembers spec)) =
      some (strategicMerge mergeKeys ((w.atPath (resourcesPath i)).getD .null) (.obj (sideMembers spec))) := rfl
  have hchange : ChangesAt (resourcesPath i) (w.atPath (resourcesPath i)) _ w _ :=
    changes_workload hkeys h (by decide) hmerged
  have hafter (key : String) : (strategicMerge mergeKeys w (containerPatch [("name", .str spec.container),
      ("resources", .obj (sideMembers spec))])).atPath (resourcesPath i ++ [.key key]) =
        memberAfter mergeKeys key (w.atPath (resourcesPath i ++ [.key key])) (lookup (sideMembers spec) key) := by
    have hread (o : Option Json) : o.bind (fun v => v.atPath [.key key]) = o.bind (fun v => v.step (.key key)) := by
      refine congrArg (o.bind ·) (funext fun v => ?_)
      rw [atPath_cons]
      exact Option.bind_fun_some _
    rw [atPath_append, atPath_append, hchange.becomes, hread, hread, Option.bind_some,
      step_merged mergeKeys _ (nodup_sideMembers spec)]
  refine ⟨hchange.frame, fun key hr hl => ?_, ?_, ?_⟩
  · exact (hafter key).trans (by rw [lookup_sideMembers, if_neg hr, if_neg hl]; rfl)
  · have h := sideEffect_memberAfter mergeKeys "requests" (w.atPath (resourcesPath i ++ [.key "requests"])) spec.requests
    exact (hafter "requests").symm ▸ (lookup_sideMembers spec "requests").symm ▸ h
  · have h := sideEffect_memberAfter mergeKeys "limits" (w.atPath (resourcesPath i ++ [.key "limits"])) spec.limits
    exact (hafter "limits").symm ▸ (lookup_sideMembers spec "limits").symm ▸ h

end Merge

/-! ## The run -/

/-- A patch that follows the lookup of its container. -/
structure FollowsLookup (spec : WorkloadResourcesSpec) (pre : ApiTrace) (kind : WorkloadKind) (ns name : String)
    (patch : Json) : Prop where
  target : ns = spec.namespace_ ∧ name = spec.name ∧ kind.name = spec.workloadKind
  built : buildWorkloadResourcesPatch spec = .ok patch
  found : ∃ w containers, (⟨.getWorkload kind ns name, .ok w⟩ : ApiEvent) ∈ pre ∧
    w.spec.bind (fun s => s.template.containers) = some containers ∧ ∃ c ∈ containers, c.name = spec.container

/-- **The lookup refuses exactly the templates without the container.** -/
theorem workloadContainerResources_ok {kind : WorkloadKind} (w : Workload kind) (container : String) :
    (∃ v, workloadContainerResources w container = .ok v) ↔
      ∃ containers, w.spec.bind (fun s => s.template.containers) = some containers ∧
        ∃ c ∈ containers, c.name = container := by
  unfold workloadContainerResources
  cases w.spec.bind (fun s => s.template.containers) with
  | none => exact ⟨fun ⟨_, h⟩ => (nomatch h), fun ⟨_, h, _⟩ => (nomatch h)⟩
  | some containers =>
    dsimp only
    unfold containerResources
    cases hfind : containers.find? (fun c => c.name == container) with
    | none =>
      refine ⟨fun ⟨_, h⟩ => (nomatch h), ?_⟩
      rintro ⟨_, ⟨⟩, c, hc, hname⟩
      exact absurd (beq_iff_eq.2 hname) (List.find?_eq_none.1 hfind c hc)
    | some found =>
      have hname := List.find?_some hfind
      exact ⟨fun _ => ⟨containers, rfl, found, List.mem_of_find?_eq_some hfind, eq_of_beq hname⟩, fun _ => ⟨_, rfl⟩⟩

/-- What the handler may call: a patch only after the lookup. -/
def LookupFirst (spec : WorkloadResourcesSpec) (pre : ApiTrace) : ApiCall → Prop
  | .patchWorkload kind ns name _ patch => FollowsLookup spec pre kind ns name patch
  | .patchScale .. | .patchNode .. => False
  | op => op.mutatesLive = false

theorem lookupFirst_of_preliminary {spec : WorkloadResourcesSpec} (tr : ApiTrace) (op : ApiCall)
    (h : op.preliminary = true) : LookupFirst spec tr op := by
  cases op <;> first | rfl | cases h

theorem patchWorkloadResources_lookupFirst {kind : WorkloadKind} {spec : WorkloadResourcesSpec} {patch : Json}
    (hkind : kind.name = spec.workloadKind) (hbuilt : buildWorkloadResourcesPatch spec = .ok patch) (dryRun : Bool)
    (tr : ApiTrace) : (patchWorkloadResources kind spec patch dryRun).Meets (LookupFirst spec) (fun _ _ => True) tr := by
  refine (meets_ask_bind _ _).2 ⟨rfl, fun before => ?_⟩
  cases before with
  | error e => exact trivial
  | ok before =>
    dsimp only
    cases hbefore : workloadContainerResources before spec.container with
    | error msg => exact trivial
    | ok observedBefore =>
      obtain ⟨containers, hcontainers, hc⟩ := (workloadContainerResources_ok _ _).1 ⟨_, hbefore⟩
      refine ((preliminary_collectPreflightWarnings spec _).meets lookupFirst_of_preliminary _).bind
        (fun warnings tr' hwarnings => ?_)
      obtain ⟨later, rfl, -⟩ := hwarnings
      refine (meets_ask_bind _ _).2 ⟨?_, fun after => ?_⟩
      · exact ⟨⟨rfl, rfl, hkind⟩, hbuilt, before, containers, by simp, hcontainers, hc⟩
      · cases after with
        | error e => exact trivial
        | ok after =>
          dsimp only
          split <;> exact trivial

/-- **The lookup comes first.** -/
theorem runWorkloadResources_lookupFirst (cfg : Config) (id : String) (spec : WorkloadResourcesSpec) (dryRun : Bool) :
    (runWorkloadResources cfg id spec dryRun).Meets (LookupFirst spec) (fun _ _ => True) [] := by
  refine Prog.Meets.bind (Q := fun _ _ => True) ?_ (fun outcome tr _ => ?_)
  · refine ((preliminary_ensureEffectivePolicyAllows cfg _ _ _ _).meets lookupFirst_of_preliminary []).bind
      (fun gate tr _ => ?_)
    cases gate with
    | error msg => exact trivial
    | ok policy =>
      cases hbuilt : buildWorkloadResourcesPatch spec with
      | error msg => exact trivial
      | ok patch =>
        dsimp only
        cases hkind : WorkloadKind.ofString spec.workloadKind with
        | none => exact trivial
        | some kind =>
          exact patchWorkloadResources_lookupFirst (WorkloadKind.ofString_eq_some hkind).symm hbuilt dryRun tr
  · cases outcome <;> exact ⟨rfl, fun _ => trivial⟩

/-- **A resource patch changes the named container's resources and nothing else.**  The builder refuses exactly the specs
with no side; what it builds has the effect the spec asks for on every workload with the container, under every strategic
merge that merges containers by name; the lookup refuses exactly the templates without the container, and a run sends a
patch only after it. -/
theorem resource_patch_frame :
    (∀ spec, (∃ message, buildWorkloadResourcesPatch spec = .error message) ↔
      spec.requests = none ∧ spec.limits = none) ∧
    (∀ (mergeKeys : String → Option String) (spec : WorkloadResourcesSpec) (patch w : Json) (i : Nat),
      mergeKeys "containers" = some "name" → buildWorkloadResourcesPatch spec = .ok patch →
      HasContainer w spec.container i → PatchEffect spec i w (strategicMerge mergeKeys w patch)) ∧
    (∀ (kind : WorkloadKind) (w : Workload kind) (container : String),
      (∃ v, workloadContainerResources w container = .ok v) ↔
        ∃ containers, w.spec.bind (fun s => s.template.containers) = some containers ∧
          ∃ c ∈ containers, c.name = container) ∧
    (∀ (o : ApiOracle) (cfg : Config) (id : String) (spec : WorkloadResourcesSpec) (dryRun dry : Bool)
      (pre post : ApiTrace) (kind : WorkloadKind) (ns name : String) (patch : Json)
      (answer : ApiResult (Workload kind)),
      (runWorkloadResources cfg id spec dryRun).trace o =
        pre ++ ⟨.patchWorkload kind ns name dry patch, answer⟩ :: post →
      FollowsLookup spec pre kind ns name patch) := by
  refine ⟨fun spec => ?_, fun mergeKeys spec patch w i hkeys hpatch h => patchEffect hkeys h hpatch,
    fun kind w container => workloadContainerResources_ok w container, ?_⟩
  · unfold buildWorkloadResourcesPatch
    by_cases hnone : spec.requests = none ∧ spec.limits = none
    · obtain ⟨hrequests, hlimits⟩ := hnone
      simp [hrequests, hlimits]
    · rw [if_neg (by simpa using hnone)]
      exact ⟨fun ⟨_, h⟩ => (nomatch h), fun h => absurd h hnone⟩
  · intro o cfg id spec dryRun dry pre post kind ns name patch answer hs
    exact trace_meets o _ (runWorkloadResources_lookupFirst cfg id spec dryRun) pre post _ hs

/-! ### A workload of two containers -/

/-- One amount is given for the requests, and the limits are emptied. -/
def apiResources : WorkloadResourcesSpec :=
  { workloadKind := "Deployment", namespace_ := "app", name := "api", container := "api"
    requests := some { cpu := some "500m" }, limits := some {} }

def proxyAndApi : Json :=
  .obj [("spec", .obj [("template", .obj [("spec", .obj [("containers", .arr
    [.obj [("name", .str "proxy")],
      .obj [("name", .str "api"), ("resources", .obj [("limits", .obj [("cpu", .str "1")])])]])])])])]

def resourcesPolicy : SentinellaHubActionPolicy := readyPolicy 0 ["apply_workload_resources"] ["Deployment"] ["app"]

def proxyAndApiRead : Workload .deployment :=
  { spec := some { template := { containers := some [{ name := "proxy" }, { name := "api" }] } } }

def proxyAndApiOracle : ApiOracle := fun tr op =>
  match op with
  | .getWorkload .deployment _ _ => .ok proxyAndApiRead
  | op => calmOracle 5 [resourcesPolicy] tr op

theorem resource_patch_frame_api :
    ∃ patch, PatchEffect apiResources 1 proxyAndApi
        (strategicMerge (fun field => if field = "containers" then some "name" else none) proxyAndApi patch) ∧
      ∃ pre post, (runWorkloadResources actingConfig "1" apiResources false).trace proxyAndApiOracle =
          pre ++ ⟨.patchWorkload .deployment "app" "api" false patch, .ok {}⟩ :: post ∧
        FollowsLookup apiResources pre .deployment "app" "api" patch := by
  refine ⟨_, resource_patch_frame.2.1 _ apiResources _ proxyAndApi 1 (by decide) rfl ⟨_, rfl, by decide⟩, ?_⟩
  have hs : (runWorkloadResources actingConfig "1" apiResources false).trace proxyAndApiOracle =
      [⟨.listActionPolicies, .ok [.ok resourcesPolicy]⟩, ⟨.nowMs, (5 : Nat)⟩,
        ⟨.getWorkload .deployment "app" "api", .ok proxyAndApiRead⟩, ⟨.listHpas "app", .ok []⟩,
        ⟨.listVpas "app", .ok []⟩, ⟨.listLimitRanges "app", .ok (0 : Nat)⟩, ⟨.listResourceQuotas "app", .ok (0 : Nat)⟩,
        ⟨.listPdbs "app", .ok []⟩] ++
      ⟨.patchWorkload .deployment "app" "api" false (containerPatch [("name", .str "api"),
        ("resources", .obj (sideMembers apiResources))]), .ok {}⟩ :: [⟨.nowMs, (5 : Nat)⟩] := rfl
  exact ⟨_, _, hs, resource_patch_frame.2.2.2 proxyAndApiOracle actingConfig "1" apiResources false false _ _ .deployment
    "app" "api" _ _ hs⟩

end Executor
end HubAgent
