import HubAgent.Lib.Segments
import HubAgent.LiveCalls
/-!
# The path that `get_resource_yaml` reads

The kind is checked against a list, and the client builds the path from the namespace and the name as they come.  The
path is that of an object of the kind exactly when both are path segments (`reads_allowlisted_iff`): a `/` in the name
of a namespace leads to any object in it.  How the client names the collection of a kind is a parameter.
-/
namespace HubAgent
namespace ResourcePath

open Interaction Executor

/-! ## Segments and paths -/

/-- A name that stays one segment of a URL and that the API server takes as a name. -/
structure IsSegment (s : String) : Prop where
  nonempty : s ≠ ""
  plain : ∀ c ∈ s.toList, c ≠ '/' ∧ c ≠ '%' ∧ c ≠ '?' ∧ c ≠ '#'
  notDots : s ≠ "." ∧ s ≠ ".."

def isPlain (c : Char) : Bool := c != '/' && c != '%' && c != '?' && c != '#'

theorem isSegment_iff (s : String) :
    s ≠ "" ∧ s.toList.all isPlain = true ∧ s ≠ "." ∧ s ≠ ".." ↔ IsSegment s := by
  have hplain : s.toList.all isPlain = true ↔ ∀ c ∈ s.toList, c ≠ '/' ∧ c ≠ '%' ∧ c ≠ '?' ∧ c ≠ '#' := by
    simp [isPlain, and_assoc]
  rw [hplain]
  constructor
  · rintro ⟨hne, hall, hdots⟩
    exact ⟨hne, hall, hdots⟩
  · intro h
    exact ⟨h.nonempty, h.plain, h.notDots⟩

instance (s : String) : Decidable (IsSegment s) := decidable_of_iff _ (isSegment_iff s)

theorem IsSegment.slash_not_mem {s : String} (h : IsSegment s) : '/' ∉ s.toList := fun hmem => (h.plain _ hmem).1 rfl

/-- `ApiResource::from_gvk` and `Api::get`: the collection with the namespace in it, and the name behind it. -/
def itemPath (group version : String) (namespace_ : Option String) (plural name : String) : String :=
  let root := if group = "" then "api" else "apis"
  let apiVersion := if group = "" then version else s!"{group}/{version}"
  let scope := match namespace_ with
    | some ns => s!"namespaces/{ns}/"
    | none => ""
  s!"/{root}/{apiVersion}/{scope}{plural}/{name}"

def groupParts (group version : String) : List String :=
  if group = "" then ["api", version] else ["apis", group, version]

def scopeParts : Option String → List String
  | some ns => ["namespaces", ns]
  | none => []

/-- The path in parts; a namespace or a name that is no segment gives more than one. -/
def partsOf (group version : String) (namespace_ : Option String) (plural name : String) : List String :=
  groupParts group version ++ (scopeParts namespace_ ++ [plural, name])

/-- `/` and each part. -/
def pathOf (parts : List String) : String := String.ofList (Segments.joined '/' (parts.map String.toList))

theorem itemPath_eq (group version : String) (namespace_ : Option String) (plural name : String) :
    itemPath group version namespace_ plural name = pathOf (partsOf group version namespace_ plural name) := by
  apply String.ext
  by_cases hg : group = ""
  · cases namespace_ <;>
      simp [itemPath, pathOf, partsOf, groupParts, scopeParts, hg, Segments.joined, ToString.toString]
  · cases namespace_ <;>
      simp [itemPath, pathOf, partsOf, groupParts, scopeParts, hg, Segments.joined, ToString.toString]

/-! ## The objects of the API server -/

/-- An object, by the parts of its path. -/
structure ObjectRef where
  group : String
  version : String
  namespace_ : Option String
  plural : String
  name : String
  group_ok : group = "" ∨ IsSegment group
  version_ok : IsSegment version
  namespace_ok : ∀ ns, namespace_ = some ns → IsSegment ns
  plural_ok : IsSegment plural
  name_ok : IsSegment name

namespace ObjectRef

def parts (o : ObjectRef) : List String := partsOf o.group o.version o.namespace_ o.plural o.name

def path (o : ObjectRef) : String := itemPath o.group o.version o.namespace_ o.plural o.name

def IsSecret (o : ObjectRef) : Prop := o.group = "" ∧ o.plural = "secrets"

end ObjectRef

/-- A subresource of an object, or what is below one.  Below a namespace, what is neither `status` nor `finalize` is a
collection of the namespace. -/
def IsSubresource (path : String) : Prop :=
  ∃ (o : ObjectRef) (sub : String) (below : List String), (∀ s ∈ sub :: below, '/' ∉ s.toList) ∧
    (o.namespace_ = none → o.plural = "namespaces" → sub = "status" ∨ sub = "finalize") ∧
    path = pathOf (o.parts ++ sub :: below)

theorem groupParts_slash_free {group version : String} (hg : group = "" ∨ IsSegment group) (hv : IsSegment version) :
    ∀ s ∈ groupParts group version, '/' ∉ s.toList := by
  intro s hs
  rw [groupParts] at hs
  by_cases h : group = ""
  · rw [if_pos h] at hs
    rcases List.mem_pair.1 hs with rfl | rfl
    · decide
    · exact hv.slash_not_mem
  · rw [if_neg h] at hs
    rcases List.mem_cons.1 hs with rfl | hs
    · decide
    · rcases List.mem_pair.1 hs with rfl | rfl
      · exact (hg.resolve_left h).slash_not_mem
      · exact hv.slash_not_mem

theorem scopeParts_slash_free {namespace_ : Option String} (h : ∀ ns, namespace_ = some ns → IsSegment ns) :
    ∀ s ∈ scopeParts namespace_, '/' ∉ s.toList := by
  intro s hs
  cases namespace_ with
  | none => cases hs
  | some ns =>
    rcases List.mem_pair.1 hs with rfl | rfl
    · decide
    · exact (h s rfl).slash_not_mem

theorem ObjectRef.slash_free (o : ObjectRef) : ∀ s ∈ o.parts, '/' ∉ s.toList := by
  intro s hs
  rcases List.mem_append.1 hs with hs | hs
  · exact groupParts_slash_free o.group_ok o.version_ok s hs
  · rcases List.mem_append.1 hs with hs | hs
    · exact scopeParts_slash_free o.namespace_ok s hs
    · rcases List.mem_pair.1 hs with rfl | rfl
      · exact o.plural_ok.slash_not_mem
      · exact o.name_ok.slash_not_mem

theorem pathOf_injective {xs ys : List String} (hx : ∀ s ∈ xs, '/' ∉ s.toList) (hy : ∀ s ∈ ys, '/' ∉ s.toList)
    (h : pathOf xs = pathOf ys) : xs = ys := by
  have hjoined : Segments.joined '/' (xs.map String.toList) = Segments.joined '/' (ys.map String.toList) :=
    String.ofList_injective h
  have hmap : xs.map String.toList = ys.map String.toList := by
    apply Segments.joined_injective _ _ hjoined
    · intro l hl
      obtain ⟨s, hs, rfl⟩ := List.mem_map.1 hl
      exact hx s hs
    · intro l hl
      obtain ⟨s, hs, rfl⟩ := List.mem_map.1 hl
      exact hy s hs
  exact List.map_injective_iff.2 (fun _ _ h => String.toList_injective h) hmap

theorem groupParts_append_inj {group version group' version' : String} {xs ys : List String}
    (h : groupParts group version ++ xs = groupParts group' version' ++ ys) : xs = ys := by
  rw [groupParts, groupParts] at h
  by_cases hg : group = ""
  · by_cases hg' : group' = ""
    · rw [if_pos hg, if_pos hg'] at h
      simp only [List.cons_append, List.nil_append, List.cons.injEq] at h
      exact h.2.2
    · rw [if_pos hg, if_neg hg'] at h
      simp only [List.cons_append, List.cons.injEq] at h
      exact absurd h.1 (by decide)
  · by_cases hg' : group' = ""
    · rw [if_neg hg, if_pos hg'] at h
      simp only [List.cons_append, List.cons.injEq] at h
      exact absurd h.1 (by decide)
    · rw [if_neg hg, if_neg hg'] at h
      simp only [List.cons_append, List.nil_append, List.cons.injEq] at h
      exact h.2.2.2

theorem ObjectRef.plural_of_path {o o' : ObjectRef} (h : o.path = o'.path) : o.plural = o'.plural := by
  rw [path, path, itemPath_eq, itemPath_eq] at h
  have hparts : o.parts = o'.parts := pathOf_injective o.slash_free o'.slash_free h
  have hend := (List.append_inj' (groupParts_append_inj hparts) rfl).2
  exact (List.cons.inj hend).1

/-- The path of an object is that of no subresource, unless its collection has a subresource's name. -/
theorem ObjectRef.not_subresource (o : ObjectRef) (h : o.plural ≠ "status" ∧ o.plural ≠ "finalize") :
    ¬ IsSubresource o.path := by
  rintro ⟨o', sub, below, hfree, hnamespace, hpath⟩
  have hparts : o.parts = o'.parts ++ sub :: below := by
    apply pathOf_injective o.slash_free
    · intro s hs
      rcases List.mem_append.1 hs with hs | hs
      · exact o'.slash_free s hs
      · exact hfree s hs
    · rw [← hpath, path, itemPath_eq, parts]
  rw [parts, parts, partsOf, partsOf, List.append_assoc] at hparts
  have hrest := groupParts_append_inj hparts
  -- by length, only an object in a namespace can be below one that is in none
  cases hns : o.namespace_ with
  | none =>
    have hlen := congrArg List.length hrest
    simp only [hns, scopeParts, List.length_append, List.length_cons, List.length_nil] at hlen
    omega
  | some ns =>
    cases hns' : o'.namespace_ with
    | none =>
      simp only [hns, hns', scopeParts, List.nil_append, List.cons_append, List.cons.injEq] at hrest
      rcases hnamespace hns' hrest.1.symm with hsub | hsub
      · exact h.1 (hrest.2.2.1.trans hsub)
      · exact h.2 (hrest.2.2.1.trans hsub)
    | some ns' =>
      have hlen := congrArg List.length hrest
      simp only [hns, hns', scopeParts, List.length_append, List.length_cons, List.length_nil] at hlen
      omega

/-! ## What `get_resource_yaml` asks for -/

def requestedNamespace (spec : ResourceYamlSpec) : Option String :=
  (spec.namespace_.map RustStr.trim).filter (· ≠ "")

/-- What a read is made with: a target of the list, in the scope and under the name of the command. -/
structure Asks (spec : ResourceYamlSpec) (group version kind : String) (namespace_ : Option String) (name : String) :
    Prop where
  target : ∃ t ∈ resourceYamlSupportedTargets, t.apiVersion = RustStr.trim spec.apiVersion ∧ t.kind = kind ∧
    splitApiVersion t.apiVersion = some (group, version)
  kind_eq : kind = RustStr.trim spec.kind
  scope_eq : namespace_ = requestedNamespace spec
  name_eq : name = RustStr.trim spec.name

/-- The reads of a part of the handler. -/
def AsksOnly (spec : ResourceYamlSpec) (op : ApiCall) : Prop :=
  ∀ group version kind namespace_ name, op = .getDynamic group version kind namespace_ name →
    Asks spec group version kind namespace_ name

theorem resourceYamlTarget_some {apiVersion kind : String} {t : ResourceYamlTarget}
    (h : resourceYamlTarget apiVersion kind = some t) :
    t ∈ resourceYamlSupportedTargets ∧ t.apiVersion = apiVersion ∧ t.kind = kind := by
  have hkey := List.find?_some h
  simp only [Bool.and_eq_true, beq_iff_eq] at hkey
  exact ⟨List.mem_of_find?_eq_some h, hkey⟩

theorem resourceYamlNamespace_ok {kind : String} {namespaced : Bool} {requested : Option String} {ns : String}
    (h : resourceYamlNamespace kind namespaced requested = .ok ns) :
    (if namespaced = true then some ns else none) = requested := by
  cases namespaced with
  | true =>
    cases requested with
    | none => cases h
    | some ns' =>
      cases h
      rfl
  | false =>
    cases requested with
    | none => rfl
    | some ns' => cases h

theorem asksOnly_clock (spec : ResourceYamlSpec) {op : ApiCall} (h : op = .nowMs ∨ op = .nowRfc3339) :
    AsksOnly spec op := by
  rintro group version kind namespace_ name rfl
  rcases h with h | h <;> cases h

theorem asksOnly_simple (spec : ResourceYamlSpec) (id : String) (status : ResultStatus) (message : Option String) :
    (simple id status message).Only (AsksOnly spec) :=
  only_bind (only_ask (asksOnly_clock spec (.inl rfl))) (fun _ => only_pure _)

theorem asksOnly_renderResourceYaml (spec : ResourceYamlSpec) (env : Externals) (cfg : Config)
    (id apiVersion kind namespace_ name : String) (object : DynamicObject) :
    (renderResourceYaml env cfg id apiVersion kind namespace_ name object).Only (AsksOnly spec) := by
  have err : ∀ message, (resourceYamlError id message).Only (AsksOnly spec) := fun _ => asksOnly_simple spec _ _ _
  obtain ⟨message, heq⟩ | ⟨finish, -, heq⟩ := renderResourceYaml_cases env cfg id apiVersion kind namespace_ name object
  · rw [heq]
    exact err message
  · rw [heq]
    refine only_bind (asksOnly_simple spec _ _ _) (fun result => ?_)
    exact only_bind (only_ask (asksOnly_clock spec (.inr rfl))) (fun _ => only_pure _)

theorem asksOnly_getResourceYaml (env : Externals) (cfg : Config) (id : String) (spec : ResourceYamlSpec) :
    (getResourceYaml env cfg id spec).Only (AsksOnly spec) := by
  have err : ∀ message, (resourceYamlError id message).Only (AsksOnly spec) := fun _ => asksOnly_simple spec _ _ _
  obtain ⟨message, heq⟩ | ⟨target, ns, group, version, after, htarget, hns, hsplit, hfail, hread, heq⟩ :=
    getResourceYaml_cases env cfg id spec
  · rw [heq]
    exact err message
  obtain ⟨hmem, hversion, hkind⟩ := resourceYamlTarget_some htarget
  have hasks : AsksOnly spec (.getDynamic group version (RustStr.trim spec.kind)
      (if target.namespaced = true then some ns else none) (RustStr.trim spec.name)) := by
    intro group' version' kind' namespace' name' h
    cases h
    refine ⟨⟨target, hmem, hversion, hkind, ?_⟩, rfl, resourceYamlNamespace_ok hns, rfl⟩
    rw [hversion, hsplit]
  rw [heq]
  refine only_bind (only_ask hasks) (fun answer => ?_)
  cases answer with
  | error e =>
    rw [hfail]
    exact err _
  | ok object =>
    rw [hread]
    exact asksOnly_renderResourceYaml spec env cfg id _ _ _ _ object

/-! ## What the path is -/

/-- The client names the collections of the listed kinds as the API server does. -/
def NamesCollections (plural : String → String) : Prop :=
  resourceYamlSupportedTargets.map (fun t => plural t.kind) =
    ["pods", "services", "configmaps", "persistentvolumeclaims", "persistentvolumes", "namespaces", "deployments",
      "statefulsets", "daemonsets", "replicasets", "jobs", "cronjobs", "ingresses", "networkpolicies"]

theorem NamesCollections.of_mem {plural : String → String} (h : NamesCollections plural) {t : ResourceYamlTarget}
    (ht : t ∈ resourceYamlSupportedTargets) : IsSegment (plural t.kind) ∧ plural t.kind ≠ "secrets" ∧
      plural t.kind ≠ "status" ∧ plural t.kind ≠ "finalize" := by
  have hmem : plural t.kind ∈ resourceYamlSupportedTargets.map (fun t => plural t.kind) :=
    List.mem_map_of_mem ht
  rw [h] at hmem
  generalize plural t.kind = p at hmem
  revert p
  decide

theorem split_of_mem {t : ResourceYamlTarget} (ht : t ∈ resourceYamlSupportedTargets) {group version : String}
    (h : splitApiVersion t.apiVersion = some (group, version)) :
    (group = "" ∨ IsSegment group) ∧ IsSegment version := by
  have hall : ∀ t ∈ resourceYamlSupportedTargets, ∀ gv ∈ splitApiVersion t.apiVersion,
      (gv.1 = "" ∨ IsSegment gv.1) ∧ IsSegment gv.2 := by decide
  exact hall t ht _ h

/-- A read of one object of the listed pair in the requested scope, and of nothing else. -/
structure ReadsAllowlisted (plural : String → String) (spec : ResourceYamlSpec) (path : String) : Prop where
  object : ∃ t ∈ resourceYamlSupportedTargets, ∃ o : ObjectRef, t.apiVersion = RustStr.trim spec.apiVersion ∧
    t.kind = RustStr.trim spec.kind ∧ splitApiVersion t.apiVersion = some (o.group, o.version) ∧
    o.plural = plural t.kind ∧ o.namespace_ = requestedNamespace spec ∧ path = o.path
  noSecret : ∀ o : ObjectRef, o.IsSecret → path ≠ o.path
  noSubresource : ¬ IsSubresource path

/-- The name, and the namespace if there is one, are path segments once they are trimmed. -/
structure Addressable (spec : ResourceYamlSpec) : Prop where
  name : IsSegment (RustStr.trim spec.name)
  namespace_ : ∀ ns, requestedNamespace spec = some ns → IsSegment ns

theorem itemPath_name_inj {group version plural name name' : String} {namespace_ : Option String}
    (h : itemPath group version namespace_ plural name = itemPath group version namespace_ plural name') :
    name = name' := by
  simpa [itemPath, ToString.toString] using h

/-- **The path read is that of an object of the listed pair in the requested scope exactly when the name and the
namespace are path segments.** -/
theorem reads_allowlisted_iff (plural : String → String) (hplural : NamesCollections plural) (env : Externals)
    (cfg : Config) (id : String) (spec : ResourceYamlSpec) (o : ApiOracle) (pre post : ApiTrace)
    (group version kind : String) (namespace_ : Option String) (name : String) (answer : ApiResult DynamicObject)
    (hread : (getResourceYaml env cfg id spec).trace o =
      pre ++ ⟨.getDynamic group version kind namespace_ name, answer⟩ :: post) :
    ReadsAllowlisted plural spec (itemPath group version namespace_ (plural kind) name) ↔ Addressable spec := by
  have hasks := only_trace o (asksOnly_getResourceYaml env cfg id spec) hread
  obtain ⟨⟨t, ht, hversion, rfl, hsplit⟩, hkind, rfl, rfl⟩ := hasks group version kind namespace_ name rfl
  constructor
  · intro h
    obtain ⟨t', ht', ref, hversion', hkind', hsplit', hrefplural, hrefscope, hpath⟩ := h.object
    have hgv : group = ref.group ∧ version = ref.version := by
      rw [hversion, ← hversion', hsplit'] at hsplit
      cases hsplit
      exact ⟨rfl, rfl⟩
    obtain ⟨rfl, rfl⟩ := hgv
    have hplural' : plural t.kind = ref.plural := by rw [hrefplural, hkind, hkind']
    rw [ObjectRef.path, hplural', hrefscope] at hpath
    refine ⟨?_, ?_⟩
    · rw [itemPath_name_inj hpath]
      exact ref.name_ok
    · rw [← hrefscope]
      exact ref.namespace_ok
  · intro h
    obtain ⟨hsegment, hsecret, hsub⟩ := hplural.of_mem ht
    obtain ⟨hgroup, hver⟩ := split_of_mem ht hsplit
    let ref : ObjectRef := ⟨group, version, requestedNamespace spec, plural t.kind, RustStr.trim spec.name, hgroup,
      hver, h.namespace_, hsegment, h.name⟩
    refine ⟨⟨t, ht, ref, hversion, hkind, hsplit, rfl, rfl, rfl⟩, ?_, ref.not_subresource hsub⟩
    intro o' hs hsame
    have hp : ref.plural = o'.plural := ObjectRef.plural_of_path hsame
    exact hsecret (hp.trans hs.2)

/-- How the client names the collection of a kind. -/
def pluralOf (kind : String) : String :=
  let word := kind.toList.map Char.toLower
  if word.getLast? = some 's' then String.ofList (word ++ ['e', 's'])
  else if word.getLast? = some 'y' then String.ofList (word.dropLast ++ ['i', 'e', 's'])
  else String.ofList (word ++ ['s'])

theorem pluralOf_names : NamesCollections pluralOf := by
  rw [NamesCollections]
  decide

def podSpec : ResourceYamlSpec := { apiVersion := "v1", kind := "Pod", namespace_ := some "app", name := "api-0" }

/-- The read of a pod is the first call of its command, and reads what was asked for. -/
theorem reads_allowlisted_pod :
    ∃ pre post, (getResourceYaml noExternals actingConfig "1" podSpec).trace (calmOracle 0 []) =
        pre ++ ⟨.getDynamic "" "v1" "Pod" (some "app") "api-0", .ok { toValue := .ok .null }⟩ :: post ∧
      ReadsAllowlisted pluralOf podSpec (itemPath "" "v1" (some "app") (pluralOf "Pod") "api-0") := by
  have hread : (getResourceYaml noExternals actingConfig "1" podSpec).trace (calmOracle 0 []) =
      [] ++ ⟨.getDynamic "" "v1" "Pod" (some "app") "api-0", .ok { toValue := .ok .null }⟩ ::
        [⟨.nowMs, (0 : Nat)⟩] := rfl
  have hspec : Addressable podSpec := by
    refine ⟨by decide, fun ns hns => ?_⟩
    cases hns
    decide
  exact ⟨_, _, hread, (reads_allowlisted_iff pluralOf pluralOf_names _ _ _ _ _ _ _ _ _ _ _ _ _ hread).2 hspec⟩

def secretSpec : ResourceYamlSpec := { apiVersion := "v1", kind := "Namespace", name := "default/secrets/db" }

def dbSecret : ObjectRef where
  group := ""
  version := "v1"
  namespace_ := some "default"
  plural := "secrets"
  name := "db"
  group_ok := .inl rfl
  version_ok := by decide
  namespace_ok := fun ns h => by
    cases h
    decide
  plural_ok := by decide
  name_ok := by decide

/-- The read of that namespace is the read of the Secret. -/
theorem secret_read_as_namespace :
    ∃ pre post, (getResourceYaml noExternals actingConfig "1" secretSpec).trace (calmOracle 0 []) =
        pre ++ ⟨.getDynamic "" "v1" "Namespace" none "default/secrets/db", .ok { toValue := .ok .null }⟩ :: post ∧
      itemPath "" "v1" none (pluralOf "Namespace") "default/secrets/db" = dbSecret.path ∧
      ¬ ReadsAllowlisted pluralOf secretSpec (itemPath "" "v1" none (pluralOf "Namespace") "default/secrets/db") := by
  have hpath : itemPath "" "v1" none (pluralOf "Namespace") "default/secrets/db" = dbSecret.path := by decide
  refine ⟨[], _, rfl, hpath, fun h => ?_⟩
  exact h.noSecret dbSecret ⟨rfl, rfl⟩ hpath

end ResourcePath
end HubAgent
