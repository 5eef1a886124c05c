import HubAgent.EndpointOrder
/-!
# What an edge keeps of its records (`collector.rs`)

An edge is rebuilt from the key that its records were aggregated under.  The key holds the endpoints with their letters
lowered, so an edge shows the endpoints that were resolved exactly when lowering them changes nothing
(`endpoints_kept_iff`).  It holds the port as the record's sixteen bits, so an edge shows the port that the stream
reported exactly when that port fits (`ports_kept_iff`).
-/
namespace HubAgent
namespace Collector

variable {env : DependencyExternals} {casing : Casing} {pods : List Pod} {services : List Service}
  {body : String} {record : TetragonDependencyRecord}

/-! ## The records of an edge -/

/-- The key of a record under the indexes of the pods and the services. -/
def keyUnder (env : DependencyExternals) (pods : List Pod) (services : List Service) :
    TetragonDependencyRecord → DependencyEdgeKey :=
  edgeKeyOf env.casing (buildPodIpIndex pods) (buildServiceIpIndex services)

def accountsUnder (env : DependencyExternals) (pods : List Pod) (services : List Service) (body : String) :
    List Account :=
  accountsOf (keyUnder env pods services) env (RustStr.lines body.toList)

def recordsUnder (env : DependencyExternals) (pods : List Pod) (services : List Service) (body : String) :
    List TetragonDependencyRecord :=
  aggregatedRecords (accountsUnder env pods services body)

theorem unhinted_recordsUnder : Unhinted (recordsUnder env pods services body) :=
  (accountsOf_eq env (indexed_build pods services) (indexed_build pods services) (RustStr.lines body.toList)).2

theorem mem_edgeKeys (coverage : CoverageSnapshot) (key : DependencyEdgeKey) :
    key ∈ (collectDependencyInventory env true body coverage pods services).edges.map edgeKey ↔
      ∃ record ∈ recordsUnder env pods services body, keyUnder env pods services record = key := by
  have htallies := tallies_lines env (buildPodIpIndex pods) (buildServiceIpIndex services) (RustStr.lines body.toList)
  rw [edges_collect, edgesUnder, (perm_edgeKeys env.casing _).mem_iff, ← AList.mem_keys, htallies.mem_agg,
    aggregatedKeys, List.mem_map]
  rfl

theorem exists_edge (coverage : CoverageSnapshot) (h : record ∈ recordsUnder env pods services body) :
    ∃ edge ∈ (collectDependencyInventory env true body coverage pods services).edges,
      edgeKey edge = keyUnder env pods services record :=
  List.mem_map.1 ((mem_edgeKeys coverage _).2 ⟨record, h, rfl⟩)

theorem exists_record {coverage : CoverageSnapshot} {edge : DependencyEdge}
    (h : edge ∈ (collectDependencyInventory env true body coverage pods services).edges) :
    ∃ record ∈ recordsUnder env pods services body, keyUnder env pods services record = edgeKey edge :=
  (mem_edgeKeys coverage _).1 (List.mem_map_of_mem h)

/-! ## Endpoints -/

/-- The two endpoints that a record's addresses are resolved to. -/
def resolvedFrom (pods : List Pod) (services : List Service) (record : TetragonDependencyRecord) :
    DependencyEndpoint :=
  resolveEndpoint record.srcIp record.srcEndpoint (buildPodIpIndex pods) (buildServiceIpIndex services)

def resolvedTo (pods : List Pod) (services : List Service) (record : TetragonDependencyRecord) :
    DependencyEndpoint :=
  resolveEndpoint record.dstIp record.dstEndpoint (buildPodIpIndex pods) (buildServiceIpIndex services)

/-- Every edge shows the two endpoints that were resolved for a record of it. -/
def EndpointsKept (env : DependencyExternals) (body : String) (coverage : CoverageSnapshot) (pods : List Pod)
    (services : List Service) : Prop :=
  ∀ edge ∈ (collectDependencyInventory env true body coverage pods services).edges,
    ∃ record ∈ recordsUnder env pods services body, keyUnder env pods services record = edgeKey edge ∧
      edge.from_ = resolvedFrom pods services record ∧ edge.to_ = resolvedTo pods services record

/-- No text of an endpoint but its address has a letter that is lowered. -/
structure LowerCased (casing : Casing) (endpoint : DependencyEndpoint) : Prop where
  kind : casing.toLowercase endpoint.kind = endpoint.kind
  namespace_ : ∀ text ∈ endpoint.namespace_, casing.toLowercase text = text
  name : ∀ text ∈ endpoint.name, casing.toLowercase text = text
  workloadKind : ∀ text ∈ endpoint.workloadKind, casing.toLowercase text = text
  workloadName : ∀ text ∈ endpoint.workloadName, casing.toLowercase text = text

theorem map_eq_self_iff {f : String → String} {text : Option String} : text.map f = text ↔ ∀ t ∈ text, f t = t := by
  cases text <;> simp

/-- **An endpoint survives its key exactly when lowering it changes nothing.** -/
theorem endpointFromKey_eq_self_iff {endpoint : DependencyEndpoint} :
    endpointFromKey (normalizeEndpointKey casing endpoint) = endpoint ↔ LowerCased casing endpoint := by
  obtain ⟨kind, namespace_, name, workloadKind, workloadName, ip⟩ := endpoint
  simp only [endpointFromKey, normalizeEndpointKey, DependencyEndpoint.mk.injEq, map_eq_self_iff, and_true]
  constructor
  · rintro ⟨h₁, h₂, h₃, h₄, h₅⟩
    exact ⟨h₁, h₂, h₃, h₄, h₅⟩
  · rintro ⟨h₁, h₂, h₃, h₄, h₅⟩
    exact ⟨h₁, h₂, h₃, h₄, h₅⟩

theorem resolved_eq_of_key {record' : TetragonDependencyRecord} (h : record ∈ recordsUnder env pods services body)
    (h' : record' ∈ recordsUnder env pods services body)
    (hkey : keyUnder env pods services record = keyUnder env pods services record') :
    resolvedFrom pods services record = resolvedFrom pods services record' ∧
      resolvedTo pods services record = resolvedTo pods services record' := by
  obtain ⟨hsrc, hdst⟩ := unhinted_recordsUnder record h
  obtain ⟨hsrc', hdst'⟩ := unhinted_recordsUnder record' h'
  have hflow : flowKey env.casing record = flowKey env.casing record' := by
    rw [keyUnder, edgeKeyOf_eq ⟨hsrc, hdst⟩, edgeKeyOf_eq ⟨hsrc', hdst'⟩] at hkey
    exact (renames_flows (indexed_build pods services)).keys hkey
  have hsrcIp : record.srcIp = record'.srcIp := congrArg FlowKey.srcIp hflow
  have hdstIp : record.dstIp = record'.dstIp := congrArg FlowKey.dstIp hflow
  unfold resolvedFrom resolvedTo
  rw [hsrc, hsrc', hdst, hdst', hsrcIp, hdstIp]
  exact ⟨rfl, rfl⟩

/-- **The edges show the endpoints that were resolved exactly when those are lower-case.** -/
theorem endpoints_kept_iff (env : DependencyExternals) (body : String) (coverage : CoverageSnapshot) (pods : List Pod)
    (services : List Service) : EndpointsKept env body coverage pods services ↔
      ∀ record ∈ recordsUnder env pods services body,
        LowerCased env.casing (resolvedFrom pods services record) ∧
          LowerCased env.casing (resolvedTo pods services record) := by
  simp only [← endpointFromKey_eq_self_iff]
  constructor
  · intro h record hrecord
    obtain ⟨edge, hedge, hkey⟩ := exists_edge coverage hrecord
    obtain ⟨record', hrecord', hkey', hfrom, hto⟩ := h edge hedge
    obtain ⟨heqFrom, heqTo⟩ := resolved_eq_of_key hrecord hrecord' (hkey.symm.trans hkey'.symm)
    rw [heqFrom, heqTo]
    have hkeptFrom : endpointFromKey (keyUnder env pods services record').from_ = edge.from_ := by rw [hkey']; rfl
    have hkeptTo : endpointFromKey (keyUnder env pods services record').to_ = edge.to_ := by rw [hkey']; rfl
    exact ⟨hkeptFrom.trans hfrom, hkeptTo.trans hto⟩
  · intro h edge hedge
    obtain ⟨record, hrecord, hkey⟩ := exists_record hedge
    obtain ⟨hfrom, hto⟩ := h record hrecord
    refine ⟨record, hrecord, hkey, ?_, ?_⟩
    · rw [← hfrom]
      exact congrArg (fun key => endpointFromKey key.from_) hkey.symm
    · rw [← hto]
      exact congrArg (fun key => endpointFromKey key.to_) hkey.symm

def replicaSetPod : Pod :=
  { metadata := { name := some "web-1", namespace_ := some "prod"
                  ownerReferences := some [{ kind := "ReplicaSet", name := "web" }] }
    podIp := some "10.0.0.5" }

def replicaSetEnv : DependencyExternals := ⟨⟨String.toLower, String.toUpper⟩, hostFlow, fun _ => 0⟩

/-- The kind of the pod's owner is reported as `replicaset`. -/
theorem replicaSet_lowered : ¬ EndpointsKept replicaSetEnv (hostLine ++ "\n") {} [replicaSetPod] [] := by
  have hedges : (collectDependencyInventory replicaSetEnv true (hostLine ++ "\n") {} [replicaSetPod] []).edges.map
      (·.from_.workloadKind) = [some "replicaset"] := by decide +kernel
  have hrecords : (recordsUnder replicaSetEnv [replicaSetPod] [] (hostLine ++ "\n")).map
      (fun record => (resolvedFrom [replicaSetPod] [] record).workloadKind) = [some "ReplicaSet"] := by decide +kernel
  intro h
  obtain ⟨edge, hedge, hkind⟩ := List.mem_map.1 (hedges ▸ List.mem_singleton_self _)
  obtain ⟨record, hrecord, -, hfrom, -⟩ := h edge hedge
  have hmem := List.mem_map_of_mem (f := fun record => (resolvedFrom [replicaSetPod] [] record).workloadKind) hrecord
  rw [hrecords, ← hfrom, hkind] at hmem
  revert hmem
  decide

/-! ## Ports -/

def asNumber : Json → Option Number
  | .num number => some number
  | _ => none

/-- The number at the first of the pointers that holds one. -/
def numberPath (value : Json) (pointers : List (List String)) : Option Number :=
  pointers.findSome? (fun pointer => (value.pointer pointer).bind asNumber)

/-- The socket of a call of a function. -/
def sockArgOf (value : Json) : Option Json := do
  let kprobe ← value.pointer ["process_kprobe"]
  let args ← (kprobe.pointer ["args"]).bind asArray
  args.findSome? (fun arg => arg.pointer ["sock_arg"])

def flowPortPaths : List (List String) :=
  [["destination_port"], ["dst_port"], ["flow", "dst_port"], ["flow", "l4", "dst_port"]]

/-- The port that a record reports as a number: of a flow if the record names its two addresses, else of a socket. -/
def numericPort (casing : Casing) (now : Nat) (value : Json) : Option Number :=
  match parseTetragonFlowRecord casing now value with
  | some _ => numberPath value flowPortPaths
  | none => (sockArgOf value).bind (fun sockArg => numberPath sockArg [["dport"]])

/-- An integer from 0 to 65535. -/
def IsPort (number : Number) : Prop := ∃ port : Nat, number = .int port ∧ port ≤ 65535

theorem asU64_of_asNumber {value : Json} {number : Number} (h : asNumber value = some number) :
    asU64 value = asU64 (.num number) := by
  cases value with
  | num n =>
    cases h
    rfl
  | _ => cases h

theorem asU64_of_not_number {value : Json} (h : asNumber value = none) : asU64 value = none := by
  cases value with
  | num n => cases h
  | _ => rfl

theorem asU64_natCast {n : Nat} (h : n ≤ u64Max) : asU64 (.num (.int n)) = some n :=
  if_pos ⟨Int.natCast_nonneg n, Int.ofNat_le.2 h⟩

theorem getU64Path_of_isPort {value : Json} {pointers : List (List String)} {port : Nat}
    (h : numberPath value pointers = some (.int port)) (hle : port ≤ 65535) :
    getU64Path value pointers = some port := by
  induction pointers with
  | nil => cases h
  | cons pointer pointers ih =>
    unfold numberPath at h ih
    unfold getU64Path at ih ⊢
    rw [List.findSome?_cons] at h ⊢
    cases hfound : value.pointer pointer with
    | none =>
      rw [hfound] at h
      exact ih h
    | some found =>
      rw [hfound] at h
      simp only [Option.bind_some] at h ⊢
      cases hnumber : asNumber found with
      | none =>
        rw [hnumber] at h
        rw [asU64_of_not_number hnumber]
        exact ih h
      | some number =>
        rw [hnumber] at h
        cases h
        rw [asU64_of_asNumber hnumber, asU64_natCast (by unfold u64Max; omega)]

theorem asU16_eq_iff {value : Json} {pointers : List (List String)} {number : Number}
    (h : numberPath value pointers = some number) :
    number = .int (asU16 ((getU64Path value pointers).getD 0) : Nat) ↔ IsPort number := by
  constructor
  · intro heq
    exact ⟨_, heq, by unfold asU16; omega⟩
  · rintro ⟨port, rfl, hle⟩
    rw [getU64Path_of_isPort h hle, Option.getD_some, asU16, Nat.mod_eq_of_lt (by omega)]

/-- **A record holds the port that was reported exactly when that is one.** -/
theorem destinationPort_eq_iff {now : Nat} {value : Json} {number : Number}
    (hparsed : parseTetragonRecord casing now value = some record)
    (hport : numericPort casing now value = some number) :
    number = .int record.destinationPort ↔ IsPort number := by
  unfold parseTetragonRecord at hparsed
  unfold numericPort at hport
  rw [Option.or_eq_some_iff] at hparsed
  rcases hparsed with hflow | ⟨hnone, hkprobe⟩
  · rw [hflow] at hport
    simp only [parseTetragonFlowRecord, Option.bind_eq_bind, Option.pure_def, Option.bind_eq_some_iff,
      Option.some.injEq] at hflow
    obtain ⟨_, -, _, -, rfl⟩ := hflow
    exact asU16_eq_iff hport
  · rw [hnone] at hport
    simp only [parseTetragonKprobeRecord, Option.bind_eq_bind, Option.pure_def, Option.bind_eq_some_iff,
      Option.some.injEq] at hkprobe
    obtain ⟨kprobe, hfound, _, -, args, hargs, sockArg, hsockArg, _, -, _, -, _, -, rfl⟩ := hkprobe
    have hsock : sockArgOf value = some sockArg := by
      simp only [sockArgOf, hfound, Option.bind_eq_bind, Option.bind_some]
      rw [Option.bind_eq_some_iff]
      exact ⟨args, Option.bind_eq_some_iff.2 hargs, hsockArg⟩
    dsimp only at hport
    rw [hsock] at hport
    exact asU16_eq_iff hport

/-- The line of this index is aggregated, from this JSON value and as this record. -/
structure Aggregates (env : DependencyExternals) (pods : List Pod) (services : List Service) (body : String)
    (lineIndex : Nat) (value : Json) (record : TetragonDependencyRecord) : Prop where
  account : (accountsUnder env pods services body)[lineIndex]? = some (.aggregated record)
  read : ∃ line, (RustStr.lines body.toList)[lineIndex]? = some line ∧
    env.fromStr (RustStr.trim (String.ofList line)) = some value
  parsed : parseTetragonRecord env.casing (env.nowUnixMs lineIndex) value = some record

def reportedPort (env : DependencyExternals) (lineIndex : Nat) (value : Json) : Option Number :=
  numericPort env.casing (env.nowUnixMs lineIndex) value

/-- **The ports of the edges are the ports of their records**, and records of different ports are in different edges. -/
structure PortsKept (env : DependencyExternals) (body : String) (coverage : CoverageSnapshot) (pods : List Pod)
    (services : List Service) : Prop where
  port : ∀ edge ∈ (collectDependencyInventory env true body coverage pods services).edges,
    ∀ lineIndex value record number, Aggregates env pods services body lineIndex value record →
      keyUnder env pods services record = edgeKey edge → reportedPort env lineIndex value = some number →
      number = .int edge.destinationPort
  apart : ∀ lineIndex lineIndex' value value' record record' number number',
    Aggregates env pods services body lineIndex value record →
    Aggregates env pods services body lineIndex' value' record' →
    reportedPort env lineIndex value = some number → reportedPort env lineIndex' value' = some number' →
    number ≠ number' → keyUnder env pods services record ≠ keyUnder env pods services record'

theorem Aggregates.mem {lineIndex : Nat} {value : Json} (h : Aggregates env pods services body lineIndex value record) :
    record ∈ recordsUnder env pods services body :=
  List.mem_filterMap.2 ⟨_, List.mem_of_getElem? h.account, rfl⟩

theorem Aggregates.port_iff {lineIndex : Nat} {value : Json} {number : Number}
    (h : Aggregates env pods services body lineIndex value record)
    (hport : reportedPort env lineIndex value = some number) :
    number = .int record.destinationPort ↔ IsPort number :=
  destinationPort_eq_iff h.parsed hport

/-- A record whose port is out of range is not aggregated. -/
theorem PortsKept.rejected {coverage : CoverageSnapshot} {lineIndex : Nat} {value : Json} {number : Number}
    (h : PortsKept env body coverage pods services)
    (hjoins : Aggregates env pods services body lineIndex value record)
    (hport : reportedPort env lineIndex value = some number) : IsPort number := by
  obtain ⟨edge, hedge, hkey⟩ := exists_edge coverage hjoins.mem
  refine (hjoins.port_iff hport).1 ((h.port edge hedge _ _ _ _ hjoins hkey.symm hport).trans ?_)
  exact congrArg (fun key : DependencyEdgeKey => Number.int key.destinationPort) hkey

/-- **The edges keep the ports exactly when every port that is reported and aggregated is one.** -/
theorem ports_kept_iff (env : DependencyExternals) (body : String) (coverage : CoverageSnapshot) (pods : List Pod)
    (services : List Service) : PortsKept env body coverage pods services ↔
      ∀ lineIndex value record number, Aggregates env pods services body lineIndex value record →
        reportedPort env lineIndex value = some number → IsPort number := by
  constructor
  · exact fun h _ _ _ _ hjoins hport => h.rejected hjoins hport
  · intro h
    have hread : ∀ {lineIndex value record number}, Aggregates env pods services body lineIndex value record →
        reportedPort env lineIndex value = some number → number = .int record.destinationPort :=
      fun hjoins hport => (hjoins.port_iff hport).2 (h _ _ _ _ hjoins hport)
    constructor
    · intro edge _ lineIndex value record number hjoins hkey hport
      rw [hread hjoins hport]
      exact congrArg (fun key => Number.int key.destinationPort) hkey
    · intro lineIndex lineIndex' value value' record record' number number' hjoins hjoins' hport hport' hne hkey
      apply hne
      rw [hread hjoins hport, hread hjoins' hport']
      exact congrArg (fun key => Number.int key.destinationPort) hkey

theorem aggregates_of_account {lineIndex : Nat}
    (h : (accountsUnder env pods services body)[lineIndex]? = some (.aggregated record)) :
    ∃ value, Aggregates env pods services body lineIndex value record := by
  have hlt : lineIndex < (RustStr.lines body.toList).length := by
    obtain ⟨hlt, -⟩ := List.getElem?_eq_some_iff.1 h
    rwa [accountsUnder, length_accountsOf] at hlt
  have hline := List.getElem?_eq_getElem hlt
  have hfor := accountsFor_accountsOf _ lineIndex _ _ hline h
  cases hfor with
  | aggregated _ _ parsed =>
    obtain ⟨value, hvalue, hparsed⟩ := Option.bind_eq_some_iff.1 parsed
    exact ⟨value, h, ⟨_, hline, hvalue⟩, hparsed⟩

/-- Two flows to the ports 80 and 65616 of one address. -/
def portLine (port : String) : String :=
  "\x7b\"src_ip\":\"10.0.0.5\",\"dst_ip\":\"10.9.0.1\",\"dst_port\":" ++ port ++ "\x7d"

def portFlow (port : Int) : Json :=
  .obj [("src_ip", .str "10.0.0.5"), ("dst_ip", .str "10.9.0.1"), ("dst_port", .ofInt port)]

def portEnv : DependencyExternals where
  casing := ⟨String.toLower, String.toUpper⟩
  fromStr line := if line = portLine "80" then some (portFlow 80)
    else if line = portLine "65616" then some (portFlow 65616) else none
  nowUnixMs _ := 0

def portBody : String := portLine "80" ++ "\n" ++ portLine "65616" ++ "\n"

/-- The two flows are the two connections of one edge, to port 80. -/
theorem port65616_folded : ¬ PortsKept portEnv portBody {} [] [] ∧
    (collectDependencyInventory portEnv true portBody {} [] []).edges.map
      (fun edge => (edge.destinationPort, edge.connections)) = [(80, 2)] := by
  have hruns : ((accountsUnder portEnv [] [] portBody)[1]?.bind Account.aggregated?).isSome = true ∧
      (RustStr.lines portBody.toList)[1]? = some (portLine "65616").toList ∧
      (portEnv.fromStr (RustStr.trim (String.ofList (portLine "65616").toList))).map (reportedPort portEnv 1) =
        some (some (.int 65616)) ∧
      (collectDependencyInventory portEnv true portBody {} [] []).edges.map
        (fun edge => (edge.destinationPort, edge.connections)) = [(80, 2)] := by decide +kernel
  obtain ⟨hsome, hlines, hport, hedges⟩ := hruns
  refine ⟨fun h => ?_, hedges⟩
  obtain ⟨record, hrecord⟩ := Option.isSome_iff_exists.1 hsome
  obtain ⟨account, haccount, haggregated⟩ := Option.bind_eq_some_iff.1 hrecord
  cases account with
  | aggregated r =>
    obtain ⟨value, hjoins⟩ := aggregates_of_account haccount
    obtain ⟨line, hline, hvalue⟩ := hjoins.read
    rw [hlines] at hline
    cases hline
    rw [hvalue, Option.map_some] at hport
    obtain ⟨port, heq, hle⟩ := h.rejected hjoins (Option.some.inj hport)
    rw [← Int.ofNat_inj.1 (Number.int.inj heq)] at hle
    revert hle
    decide
  | _ => cases haggregated

end Collector
end HubAgent
