import Mathlib.Data.List.Perm.Basic
import HubAgent.DependencySpec
/-!
# Endpoints and the order of the pods (`collector.rs`)

An endpoint's key holds its address as it was reported, so two indexes name the endpoints of a body differently but
never confuse two addresses: which records are aggregated does not depend on the index (`accountsOf_eq`).  The edges
then depend on it only through the keys of the addresses that are aggregated (`edges_eq_iff`).  The index keeps the
last pod that reports an address, so a permutation of the pods can change such a key exactly when two pods report the
address and are not called the same (`order_irrelevant_iff`).
-/
namespace HubAgent
namespace Collector

variable {casing : Casing} {env : DependencyExternals} {pods pods' : StrMap PodIpInfo}
  {services services' : StrMap ServiceIpInfo} {record : TetragonDependencyRecord}

/-! ## Addresses -/

/-- An index enters every endpoint under its own address. -/
structure Indexed (pods : StrMap PodIpInfo) (services : StrMap ServiceIpInfo) : Prop where
  pods : ∀ ip info, pods.lookup ip = some info → info.ip = ip
  services : ∀ ip info, services.lookup ip = some info → info.ip = ip

/-- The key of an address without a hint. -/
def addressKey (casing : Casing) (pods : StrMap PodIpInfo) (services : StrMap ServiceIpInfo) (ip : String) :
    EndpointKey :=
  normalizeEndpointKey casing (resolveEndpoint ip none pods services)

theorem ip_addressKey (h : Indexed pods services) (ip : String) :
    (addressKey casing pods services ip).ip = some ip := by
  unfold addressKey normalizeEndpointKey resolveEndpoint
  dsimp only
  split
  · rename_i info hinfo
    exact congrArg some (h.pods ip info hinfo)
  split
  · rename_i info hinfo
    exact congrArg some (h.services ip info hinfo)
  · rfl

theorem addressKey_injective (h : Indexed pods services) : Function.Injective (addressKey casing pods services) := by
  intro ip ip' heq
  have hip := congrArg EndpointKey.ip heq
  rw [ip_addressKey h, ip_addressKey h] at hip
  exact Option.some.inj hip

theorem no_hints {now : Nat} {value : Json} (h : parseTetragonRecord casing now value = some record) :
    record.srcEndpoint = none ∧ record.dstEndpoint = none := by
  unfold parseTetragonRecord at h
  rw [Option.or_eq_some_iff] at h
  rcases h with h | ⟨-, h⟩
  · simp only [parseTetragonFlowRecord, Option.bind_eq_bind, Option.pure_def, Option.bind_eq_some_iff,
      Option.some.injEq] at h
    obtain ⟨_, -, _, -, rfl⟩ := h
    exact ⟨rfl, rfl⟩
  · simp only [parseTetragonKprobeRecord, Option.bind_eq_bind, Option.pure_def, Option.bind_eq_some_iff,
      Option.some.injEq] at h
    obtain ⟨_, -, _, -, _, -, _, -, _, -, _, -, _, -, rfl⟩ := h
    exact ⟨rfl, rfl⟩

/-! ## Flows -/

/-- What a record says of its edge before its addresses are resolved. -/
structure FlowKey where
  srcIp : String
  dstIp : String
  protocol : String
  destinationPort : Nat
  deriving DecidableEq

def flowKey (casing : Casing) (record : TetragonDependencyRecord) : FlowKey where
  srcIp := record.srcIp
  dstIp := record.dstIp
  protocol := casing.toUppercase record.protocol
  destinationPort := record.destinationPort

def flowCaps : Quota.Caps FlowKey String String where
  source := FlowKey.srcIp
  target := FlowKey.dstIp
  maxKeys := maxDepEdgesPerSnapshot
  maxTargets := maxDepFanoutPerSource

def edgeOfFlow (casing : Casing) (pods : StrMap PodIpInfo) (services : StrMap ServiceIpInfo) (flow : FlowKey) :
    DependencyEdgeKey where
  from_ := addressKey casing pods services flow.srcIp
  to_ := addressKey casing pods services flow.dstIp
  protocol := flow.protocol
  destinationPort := flow.destinationPort
  direction := "egress"

theorem edgeKeyOf_eq (h : record.srcEndpoint = none ∧ record.dstEndpoint = none) :
    edgeKeyOf casing pods services record = edgeOfFlow casing pods services (flowKey casing record) := by
  rw [edgeKeyOf, h.1, h.2]
  rfl

/-- **Resolving the addresses renames the flows one to one.** -/
theorem renames_flows (h : Indexed pods services) :
    Quota.Caps.Renames flowCaps edgeCaps (edgeOfFlow casing pods services) (addressKey casing pods services)
      (addressKey casing pods services) where
  keys := by
    rintro ⟨src, dst, protocol, port⟩ ⟨src', dst', protocol', port'⟩ heq
    simp only [edgeOfFlow, DependencyEdgeKey.mk.injEq] at heq
    obtain ⟨hsrc, hdst, rfl, rfl, -⟩ := heq
    rw [addressKey_injective h hsrc, addressKey_injective h hdst]
  sources := addressKey_injective h
  targets := addressKey_injective h
  source := fun _ => rfl
  target := fun _ => rfl
  maxKeys := rfl
  maxTargets := rfl

/-! ## The accounts do not see the index -/

variable {earlier : List Account}

def Unhinted (records : List TetragonDependencyRecord) : Prop :=
  ∀ record ∈ records, record.srcEndpoint = none ∧ record.dstEndpoint = none

theorem aggregatedKeys_eq (h : Unhinted (aggregatedRecords earlier)) :
    aggregatedKeys (edgeKeyOf casing pods services) earlier =
      ((aggregatedRecords earlier).map (flowKey casing)).map (edgeOfFlow casing pods services) := by
  rw [aggregatedKeys, List.map_map]
  exact List.map_congr_left (fun record hrecord => edgeKeyOf_eq (h record hrecord))

theorem verdict_eq_flow (hindexed : Indexed pods services) (h : Unhinted (aggregatedRecords earlier))
    (hrecord : record.srcEndpoint = none ∧ record.dstEndpoint = none) :
    edgeCaps.verdict (aggregatedKeys (edgeKeyOf casing pods services) earlier)
        (edgeKeyOf casing pods services record) =
      flowCaps.verdict ((aggregatedRecords earlier).map (flowKey casing)) (flowKey casing record) := by
  rw [aggregatedKeys_eq h, edgeKeyOf_eq hrecord, (renames_flows hindexed).verdict]

theorem lineRecord_unhinted {lineIndex : Nat} {line : String} (h : lineRecord env lineIndex line = some record) :
    record.srcEndpoint = none ∧ record.dstEndpoint = none := by
  obtain ⟨value, -, hvalue⟩ := Option.bind_eq_some_iff.1 h
  exact no_hints hvalue

theorem accountLine_eq (hindexed : Indexed pods services) (hindexed' : Indexed pods' services')
    (h : Unhinted (aggregatedRecords earlier)) (entry : List Char × Nat) :
    accountLine (edgeKeyOf env.casing pods services) env earlier entry =
      accountLine (edgeKeyOf env.casing pods' services') env earlier entry := by
  unfold accountLine
  dsimp only
  split_ifs with hcap hblank
  · rfl
  · rfl
  · cases hline : lineRecord env entry.2 (RustStr.trim (String.ofList entry.1)) with
    | none => rfl
    | some record =>
      have hrecord := lineRecord_unhinted hline
      simp only [verdict_eq_flow hindexed h hrecord, verdict_eq_flow hindexed' h hrecord]

theorem unhinted_accountLine {keyOf : TetragonDependencyRecord → DependencyEdgeKey} {entry : List Char × Nat}
    (h : (accountLine keyOf env earlier entry).aggregated? = some record) :
    record.srcEndpoint = none ∧ record.dstEndpoint = none := by
  have hfor : AccountsFor keyOf env entry.2 (RustStr.trim (String.ofList entry.1)) earlier
      (accountLine keyOf env earlier entry) := accountsFor_accountLine earlier entry.1 entry.2
  cases haccount : accountLine keyOf env earlier entry with
  | aggregated r =>
    rw [haccount] at h hfor
    cases h
    cases hfor with
    | aggregated _ _ parsed => exact lineRecord_unhinted parsed
  | _ =>
    rw [haccount] at h
    cases h

/-- **Which records are aggregated does not depend on the index.** -/
theorem accountsOf_eq (env : DependencyExternals) (hindexed : Indexed pods services)
    (hindexed' : Indexed pods' services') (lines : List (List Char)) :
    accountsOf (edgeKeyOf env.casing pods services) env lines =
      accountsOf (edgeKeyOf env.casing pods' services') env lines ∧
    Unhinted (aggregatedRecords (accountsOf (edgeKeyOf env.casing pods services) env lines)) := by
  induction lines using List.reverseRecOn with
  | nil =>
    rw [accountsOf_nil, accountsOf_nil]
    exact ⟨rfl, fun record hrecord => (by cases hrecord)⟩
  | append_singleton lines line ih =>
    obtain ⟨heq, hunhinted⟩ := ih
    rw [accountsOf_concat, accountsOf_concat, ← heq]
    constructor
    · rw [accountLine_eq hindexed hindexed' hunhinted]
    · rw [aggregatedRecords_concat]
      intro record hrecord
      rcases List.mem_append.1 hrecord with hold | hnew
      · exact hunhinted record hold
      · exact unhinted_accountLine (Option.mem_toList.1 hnew)

/-! ## The edges see the addresses that are aggregated -/

/-- The records that are aggregated, found without any index. -/
def keptRecords (env : DependencyExternals) (body : String) : List TetragonDependencyRecord :=
  aggregatedRecords (accountsOf (edgeKeyOf env.casing ∅ ∅) env (RustStr.lines body.toList))

theorem indexed_empty : Indexed ∅ ∅ := by
  constructor <;> intro ip info h <;> cases h

theorem lookup_agg (hindexed : Indexed pods services) (body : String) (key : DependencyEdgeKey) :
    ((RustStr.lines body.toList).zipIdx.foldl (readLine env pods services) {}).agg.lookup key =
      edgeAggOf ((keptRecords env body).filter
        (fun record => edgeOfFlow env.casing pods services (flowKey env.casing record) = key)) := by
  have heq := accountsOf_eq env indexed_empty hindexed (RustStr.lines body.toList)
  rw [(tallies_lines env pods services _).agg key, ← heq.1, keptRecords]
  congr 1
  apply List.filter_congr
  intro record hrecord
  rw [edgeKeyOf_eq (heq.2 record hrecord)]

/-- The edges of a body under an index. -/
def edgesUnder (env : DependencyExternals) (pods : StrMap PodIpInfo) (services : StrMap ServiceIpInfo) (body : String) :
    List DependencyEdge :=
  sortDependencyEdges env.casing ((KeyOrder.inOrder
    ((RustStr.lines body.toList).zipIdx.foldl (readLine env pods services) {}).agg).map edgeOf)

theorem edges_collect (env : DependencyExternals) (body : String) (coverage : CoverageSnapshot) (list : List Pod)
    (serviceList : List Service) : (collectDependencyInventory env true body coverage list serviceList).edges =
      edgesUnder env (buildPodIpIndex list) (buildServiceIpIndex serviceList) body := by
  simp only [collectDependencyInventory, dependencyInventory, tallyBody, edgesUnder, Bool.not_true, Bool.false_eq_true,
    if_false]

/-- **Two indexes show the same edges exactly when they call the aggregated addresses alike.** -/
theorem edgesUnder_eq_iff (hindexed : Indexed pods services) (hindexed' : Indexed pods' services') (body : String) :
    edgesUnder env pods services body = edgesUnder env pods' services' body ↔
      ∀ record ∈ keptRecords env body,
        addressKey env.casing pods services record.srcIp = addressKey env.casing pods' services' record.srcIp ∧
        addressKey env.casing pods services record.dstIp = addressKey env.casing pods' services' record.dstIp := by
  constructor
  · intro h record hrecord
    have hmem : ∀ {pods services}, Indexed pods services → ∀ key,
        key ∈ (edgesUnder env pods services body).map edgeKey ↔
          ∃ record ∈ keptRecords env body, edgeOfFlow env.casing pods services (flowKey env.casing record) = key := by
      intro pods services hindexed key
      rw [edgesUnder, (perm_edgeKeys env.casing _).mem_iff, ← AList.mem_keys, ← AList.lookup_isSome,
        lookup_agg hindexed, isSome_edgeAggOf, ne_eq, List.filter_eq_nil_iff]
      simp
    have hkey := (hmem hindexed _).2 ⟨record, hrecord, rfl⟩
    rw [h] at hkey
    obtain ⟨record', -, hkey'⟩ := (hmem hindexed' _).1 hkey
    simp only [edgeOfFlow, flowKey, DependencyEdgeKey.mk.injEq] at hkey'
    obtain ⟨hsrc, hdst, -⟩ := hkey'
    have hip := congrArg EndpointKey.ip hsrc
    have hip' := congrArg EndpointKey.ip hdst
    rw [ip_addressKey hindexed, ip_addressKey hindexed'] at hip hip'
    rw [Option.some.inj hip] at hsrc
    rw [Option.some.inj hip'] at hdst
    exact ⟨hsrc.symm, hdst.symm⟩
  · intro h
    have hinOrder : ∀ key, ((RustStr.lines body.toList).zipIdx.foldl (readLine env pods services) {}).agg.lookup key =
        ((RustStr.lines body.toList).zipIdx.foldl (readLine env pods' services') {}).agg.lookup key := by
      intro key
      rw [lookup_agg hindexed, lookup_agg hindexed']
      congr 1
      apply List.filter_congr
      intro record hrecord
      obtain ⟨hsrc, hdst⟩ := h record hrecord
      rw [edgeOfFlow, edgeOfFlow, flowKey, hsrc, hdst]
    rw [edgesUnder, edgesUnder, KeyOrder.inOrder_eq_iff.2 hinOrder]

/-! ## The index of the pods -/

section Index

variable {list : List Pod} {pod : Pod} {ip : String} {info : PodIpInfo}

theorem buildPodIpIndex_concat (list : List Pod) (pod : Pod) : buildPodIpIndex (list ++ [pod]) =
    match podIpEntry pod with
    | some (ip, info) => (buildPodIpIndex list).insert ip info
    | none => buildPodIpIndex list := by
  rw [buildPodIpIndex, List.foldl_append]
  rfl

theorem lookup_last (h : podIpEntry pod = some (ip, info)) (list : List Pod) :
    (buildPodIpIndex (list ++ [pod])).lookup ip = some info := by
  rw [buildPodIpIndex_concat, h]
  exact AList.lookup_insert _

theorem lookup_not_last (h : ∀ info, podIpEntry pod ≠ some (ip, info)) (list : List Pod) :
    (buildPodIpIndex (list ++ [pod])).lookup ip = (buildPodIpIndex list).lookup ip := by
  rw [buildPodIpIndex_concat]
  cases hentry : podIpEntry pod with
  | none => rfl
  | some entry => exact AList.lookup_insert_ne (fun hip => h entry.2 (by rw [hentry, hip]))

theorem lookup_buildPodIpIndex (list : List Pod) (ip : String) :
    (∀ info, (buildPodIpIndex list).lookup ip = some info → ∃ pod ∈ list, podIpEntry pod = some (ip, info)) ∧
    ((buildPodIpIndex list).lookup ip = none → ∀ pod ∈ list, ∀ info, podIpEntry pod ≠ some (ip, info)) := by
  induction list using List.reverseRecOn with
  | nil => exact ⟨fun info h => (by cases h), fun _ pod hpod => (by cases hpod)⟩
  | append_singleton list last ih =>
    by_cases hlast : ∃ info, podIpEntry last = some (ip, info)
    · obtain ⟨info', hentry⟩ := hlast
      rw [lookup_last hentry]
      refine ⟨fun info h => ?_, fun h => (by cases h)⟩
      cases h
      exact ⟨last, List.mem_append_right _ List.mem_cons_self, hentry⟩
    · have hother : ∀ info, podIpEntry last ≠ some (ip, info) := fun info h => hlast ⟨info, h⟩
      rw [lookup_not_last hother]
      refine ⟨fun info h => ?_, fun h pod hpod info hinfo => ?_⟩
      · obtain ⟨pod, hpod, hentry⟩ := ih.1 info h
        exact ⟨pod, List.mem_append_left _ hpod, hentry⟩
      · rcases List.mem_append.1 hpod with hold | hnew
        · exact ih.2 h pod hold info hinfo
        · rw [List.mem_singleton.1 hnew] at hinfo
          exact hother info hinfo

theorem ip_of_podIpEntry (h : podIpEntry pod = some (ip, info)) : info.ip = ip := by
  obtain ⟨_, -, heq⟩ := Option.map_eq_some_iff.1 h
  cases heq
  rfl

theorem indexed_build (list : List Pod) (serviceList : List Service) :
    Indexed (buildPodIpIndex list) (buildServiceIpIndex serviceList) := by
  constructor
  · intro ip info h
    obtain ⟨pod, -, hentry⟩ := (lookup_buildPodIpIndex list ip).1 info h
    exact ip_of_podIpEntry hentry
  · induction serviceList using List.reverseRecOn with
    | nil =>
      intro ip info h
      cases h
    | append_singleton serviceList svc ih =>
      intro ip info h
      rw [buildServiceIpIndex, List.foldl_append, List.foldl_cons, List.foldl_nil] at h
      split at h
      · rename_i clusterIp hclusterIp
        by_cases hip : ip = clusterIp
        · subst hip
          rw [AList.lookup_insert] at h
          cases h
          rfl
        · rw [AList.lookup_insert_ne hip] at h
          exact ih ip info h
      · exact ih ip info h

/-- All the pods that report an address have one name, namespace and owner, up to case. -/
def CalledAlike (casing : Casing) (list : List Pod) (ip : String) : Prop :=
  ∀ pod ∈ list, ∀ pod' ∈ list, ∀ info info', podIpEntry pod = some (ip, info) → podIpEntry pod' = some (ip, info') →
    normalizeEndpointKey casing (podEndpoint info) = normalizeEndpointKey casing (podEndpoint info')

theorem addressKey_of_lookup (h : pods.lookup ip = some info) :
    addressKey casing pods services ip = normalizeEndpointKey casing (podEndpoint info) := by
  unfold addressKey resolveEndpoint
  rw [h]

/-- **The key of an address is the same for every order of the pods exactly when they are called alike.** -/
theorem addressKey_perm_iff (casing : Casing) (list : List Pod) (serviceList : List Service) (ip : String) :
    (∀ list', list'.Perm list → addressKey casing (buildPodIpIndex list') (buildServiceIpIndex serviceList) ip =
      addressKey casing (buildPodIpIndex list) (buildServiceIpIndex serviceList) ip) ↔ CalledAlike casing list ip := by
  constructor
  · intro h pod hpod pod' hpod' info info' hinfo hinfo'
    have hlast : ∀ pod ∈ list, ∀ info, podIpEntry pod = some (ip, info) →
        normalizeEndpointKey casing (podEndpoint info) =
          addressKey casing (buildPodIpIndex list) (buildServiceIpIndex serviceList) ip := by
      intro pod hpod info hinfo
      obtain ⟨before, after, rfl⟩ := List.append_of_mem hpod
      rw [← h (before ++ after ++ [pod]) ((List.perm_append_singleton _ _).trans List.perm_middle.symm)]
      exact (addressKey_of_lookup (lookup_last hinfo _)).symm
    rw [hlast pod hpod info hinfo, hlast pod' hpod' info' hinfo']
  · intro h list' hperm
    cases hlookup : (buildPodIpIndex list).lookup ip with
    | none =>
      cases hlookup' : (buildPodIpIndex list').lookup ip with
      | none =>
        unfold addressKey resolveEndpoint
        rw [hlookup, hlookup']
      | some info =>
        obtain ⟨pod, hpod, hentry⟩ := (lookup_buildPodIpIndex list' ip).1 info hlookup'
        exact absurd hentry ((lookup_buildPodIpIndex list ip).2 hlookup pod (hperm.subset hpod) info)
    | some info =>
      obtain ⟨pod, hpod, hentry⟩ := (lookup_buildPodIpIndex list ip).1 info hlookup
      cases hlookup' : (buildPodIpIndex list').lookup ip with
      | none => exact absurd hentry ((lookup_buildPodIpIndex list' ip).2 hlookup' pod (hperm.symm.subset hpod) info)
      | some info' =>
        obtain ⟨pod', hpod', hentry'⟩ := (lookup_buildPodIpIndex list' ip).1 info' hlookup'
        rw [addressKey_of_lookup hlookup, addressKey_of_lookup hlookup']
        exact h pod' (hperm.subset hpod') pod hpod info' info hentry' hentry

end Index

/-- **The order of the pods is irrelevant exactly when no aggregated address is reported under two names.** -/
theorem order_irrelevant_iff (env : DependencyExternals) (body : String) (coverage : CoverageSnapshot)
    (list : List Pod) (serviceList : List Service) :
    (∀ list', list'.Perm list → (collectDependencyInventory env true body coverage list' serviceList).edges =
      (collectDependencyInventory env true body coverage list serviceList).edges) ↔
    ∀ record ∈ keptRecords env body,
      CalledAlike env.casing list record.srcIp ∧ CalledAlike env.casing list record.dstIp := by
  simp only [edges_collect, edgesUnder_eq_iff (indexed_build _ _) (indexed_build _ _),
    ← addressKey_perm_iff env.casing list serviceList]
  constructor
  · intro h record hrecord
    exact ⟨fun list' hperm => (h list' hperm record hrecord).1, fun list' hperm => (h list' hperm record hrecord).2⟩
  · intro h list' hperm record hrecord
    exact ⟨(h record hrecord).1 list' hperm, (h record hrecord).2 list' hperm⟩

def hostLine : String := "\x7b\"src_ip\":\"10.0.0.5\",\"dst_ip\":\"10.9.0.1\"\x7d"

def hostFlow (line : String) : Option Json :=
  if line = hostLine then some (.obj [("src_ip", .str "10.0.0.5"), ("dst_ip", .str "10.9.0.1")]) else none

def hostPod (name : String) : Pod :=
  { metadata := { name := some name, namespace_ := some "prod" }, podIp := some "10.0.0.5" }

/-- Two pods of the host network share the address of their node: the edge is from the one that is listed last. -/
theorem hostNetwork_depends_on_order :
    ¬ ∀ list', list'.Perm [hostPod "api", hostPod "db"] →
      (collectDependencyInventory ⟨⟨String.toLower, String.toUpper⟩, hostFlow, fun _ => 0⟩ true (hostLine ++ "\n") {}
          list' []).edges =
        (collectDependencyInventory ⟨⟨String.toLower, String.toUpper⟩, hostFlow, fun _ => 0⟩ true (hostLine ++ "\n") {}
          [hostPod "api", hostPod "db"] []).edges := by
  intro h
  have hswap := h [hostPod "db", hostPod "api"] (List.Perm.swap _ _ _)
  revert hswap
  decide +kernel

end Collector
end HubAgent
