import Mathlib.Data.Finset.Card
import Mathlib.Data.Prod.Lex
import Mathlib.Data.String.Basic
import Mathlib.Order.WithBot
import HubAgent.Lib.KeyOrder
import HubAgent.Json
import HubAgent.Kube
/-!
# The dependency inventory (`collector.rs`)

The event stream of the last minute comes as lines of JSON.  Each line that names two endpoints is one record: its
addresses are resolved to pods and services, and it is added to the edge with its key.  Three caps bound the work:
the lines read, the edges kept, and the targets kept of one source.

What is not here is a parameter: how `serde_json` reads a line, the case tables of Unicode, and the clock, which is
read for a record without a timestamp.
-/
namespace HubAgent
namespace Collector

structure DependencyEndpoint where
  kind : String
  namespace_ : Option String
  name : Option String
  workloadKind : Option String
  workloadName : Option String
  ip : Option String
  deriving DecidableEq

structure DependencyEdge where
  from_ : DependencyEndpoint
  to_ : DependencyEndpoint
  protocol : String
  destinationPort : Nat
  direction : String
  bytes : Nat
  packets : Nat
  connections : Nat
  firstSeenUnixMs : Nat
  lastSeenUnixMs : Nat
  deriving DecidableEq

structure DependencyInventory where
  edges : List DependencyEdge := []
  source : String := ""
  windowSeconds : Nat := 0
  truncated : Bool := false
  droppedEdges : Nat := 0
  observedEndpoints : Nat := 0
  connectedEndpoints : Nat := 0
  unavailableEndpoints : Nat := 0
  deriving DecidableEq

/-- `tetragon::CoverageSnapshot`. -/
structure CoverageSnapshot where
  observedEndpoints : Nat := 0
  connectedEndpoints : Nat := 0
  unavailableEndpoints : Nat := 0

def maxTetragonLines : Nat := 20000
def maxDepEdgesPerSnapshot : Nat := 2000
def maxDepFanoutPerSource : Nat := 200
def depWindowSeconds : Nat := 60

/-- The case mappings of Unicode, `str::to_lowercase` and `str::to_uppercase`. -/
structure Casing where
  toLowercase : String → String
  toUppercase : String → String

structure DependencyExternals where
  casing : Casing
  /-- `serde_json::from_str::<Value>`. -/
  fromStr : String → Option Json
  /-- The clock while the line of this index is read. -/
  nowUnixMs : Nat → Nat

/-! ## Records -/

structure DependencyEndpointHint where
  namespace_ : Option String
  podName : Option String
  workloadKind : Option String
  workloadName : Option String

structure TetragonDependencyRecord where
  srcIp : String
  dstIp : String
  srcEndpoint : Option DependencyEndpointHint
  dstEndpoint : Option DependencyEndpointHint
  protocol : String
  destinationPort : Nat
  bytes : Nat
  packets : Nat
  connections : Nat
  timestampUnixMs : Nat

def u64Max : Nat := 18446744073709551615
def u128Max : Nat := 340282366920938463463374607431768211455

/-- `Value::as_u64`. -/
def asU64 : Json → Option Nat
  | .num (.int n) => if 0 ≤ n ∧ n ≤ Int.ofNat u64Max then some n.toNat else none
  | _ => none

def asArray : Json → Option (List Json)
  | .arr items => some items
  | _ => none

/-- A pointer is the list of its member names. -/
def getStringPath (value : Json) (pointers : List (List String)) : Option String :=
  pointers.findSome? (fun pointer => (value.pointer pointer).bind Json.asStr)

def getU64Path (value : Json) (pointers : List (List String)) : Option Nat :=
  pointers.findSome? (fun pointer => (value.pointer pointer).bind asU64)

def getU128Path (value : Json) (pointers : List (List String)) : Option Nat :=
  pointers.findSome? (fun pointer => (value.pointer pointer).bind (fun v =>
    (asU64 v).or (v.asStr.bind (fun text => (RustStr.parseUnsigned u128Max (RustStr.trim text).toList).toOption))))

def normalizeTetragonIp (ip : String) : String :=
  ((RustStr.stripPrefix "::ffff:".toList ip.toList).map String.ofList).getD ip

def normalizeTetragonProtocol (casing : Casing) (protocol : String) : String :=
  let protocol := casing.toLowercase (RustStr.trim protocol)
  ((RustStr.stripPrefix "ipproto_".toList protocol.toList).map String.ofList).getD protocol

/-- `n as u16`. -/
def asU16 (n : Nat) : Nat := n % 65536

def timestampPaths : List (List String) := [["timestamp_unix_ms"], ["time_unix_ms"], ["flow", "timestamp_unix_ms"]]

def parseTetragonFlowRecord (casing : Casing) (now : Nat) (value : Json) : Option TetragonDependencyRecord := do
  let srcIp ← getStringPath value [["src_ip"], ["flow", "src_ip"], ["flow", "ip", "source"]]
  let dstIp ← getStringPath value [["dst_ip"], ["flow", "dst_ip"], ["flow", "ip", "destination"]]
  return {
    srcIp := normalizeTetragonIp srcIp
    dstIp := normalizeTetragonIp dstIp
    srcEndpoint := none
    dstEndpoint := none
    protocol := normalizeTetragonProtocol casing
      ((getStringPath value [["protocol"], ["flow", "protocol"]]).getD "UNKNOWN")
    destinationPort := asU16 ((getU64Path value
      [["destination_port"], ["dst_port"], ["flow", "dst_port"], ["flow", "l4", "dst_port"]]).getD 0)
    bytes := (getU64Path value [["bytes"], ["flow", "bytes"], ["summary", "bytes"]]).getD 0
    packets := (getU64Path value [["packets"], ["flow", "packets"], ["summary", "packets"]]).getD 0
    connections := (getU64Path value [["connections"], ["flow", "connections"], ["summary", "connections"]]).getD 1
    timestampUnixMs := (getU128Path value timestampPaths).getD now }

/-- The bytes, packets and connections that one call of a function stands for. -/
def kprobeCounts (functionName : String) (args : List Json) : Option (Nat × Nat × Nat) :=
  match functionName with
  | "tcp_sendmsg" => some (((args[1]?.bind (fun arg => arg.pointer ["int_arg"])).bind asU64).getD 0, 1, 0)
  | "tcp_close" => some (0, 0, 1)
  | _ => none

def parseTetragonKprobeRecord (casing : Casing) (now : Nat) (value : Json) : Option TetragonDependencyRecord := do
  let kprobe ← value.pointer ["process_kprobe"]
  let functionName ← (kprobe.pointer ["function_name"]).bind Json.asStr
  let args ← (kprobe.pointer ["args"]).bind asArray
  let sockArg ← args.findSome? (fun arg => arg.pointer ["sock_arg"])
  let (bytes, packets, connections) ← kprobeCounts functionName args
  let srcIp ← getStringPath sockArg [["saddr"], ["src_ip"]]
  let dstIp ← getStringPath sockArg [["daddr"], ["dst_ip"]]
  return {
    srcIp := normalizeTetragonIp srcIp
    dstIp := normalizeTetragonIp dstIp
    srcEndpoint := none
    dstEndpoint := none
    protocol := normalizeTetragonProtocol casing ((getStringPath sockArg [["protocol"]]).getD "UNKNOWN")
    destinationPort := asU16 ((getU64Path sockArg [["dport"]]).getD 0)
    bytes, packets, connections
    timestampUnixMs := (getU128Path kprobe timestampPaths).getD now }

def parseTetragonRecord (casing : Casing) (now : Nat) (value : Json) : Option TetragonDependencyRecord :=
  (parseTetragonFlowRecord casing now value).or (parseTetragonKprobeRecord casing now value)

/-! ## Endpoints -/

structure PodIpInfo where
  namespace_ : String
  podName : String
  workloadKind : Option String
  workloadName : Option String
  ip : String

structure ServiceIpInfo where
  namespace_ : String
  serviceName : String
  ip : String

/-- What a pod is entered with in the index, and under which address. -/
def podIpEntry (pod : Pod) : Option (String × PodIpInfo) :=
  (pod.podIp.filter (· ≠ "")).map (fun ip =>
    let owner := (pod.metadata.ownerReferences.getD []).head?
    (ip, { namespace_ := pod.metadata.namespace_.getD "", podName := pod.metadata.name.getD "",
           workloadKind := owner.map (·.kind), workloadName := owner.map (·.name), ip }))

/-- A later pod takes the place of an earlier one. -/
def buildPodIpIndex (pods : List Pod) : StrMap PodIpInfo :=
  pods.foldl (fun out pod =>
    match podIpEntry pod with
    | some (ip, info) => out.insert ip info
    | none => out) ∅

def buildServiceIpIndex (services : List Service) : StrMap ServiceIpInfo :=
  services.foldl (fun out svc =>
    match svc.clusterIp.filter (fun ip => ip ≠ "" ∧ ip ≠ "None") with
    | some clusterIp => out.insert clusterIp
        { namespace_ := svc.metadata.namespace_.getD "", serviceName := svc.metadata.name.getD "", ip := clusterIp }
    | none => out) ∅

def unknownEndpoint (ip : String) : DependencyEndpoint :=
  { kind := "unknown", namespace_ := none, name := none, workloadKind := none, workloadName := none, ip := some ip }

def podEndpoint (pod : PodIpInfo) : DependencyEndpoint where
  kind := "pod"
  namespace_ := some pod.namespace_
  name := some pod.podName
  workloadKind := pod.workloadKind
  workloadName := pod.workloadName
  ip := some pod.ip

def resolveEndpoint (ip : String) (hint : Option DependencyEndpointHint) (pods : StrMap PodIpInfo)
    (services : StrMap ServiceIpInfo) : DependencyEndpoint :=
  match pods.lookup ip with
  | some pod => podEndpoint pod
  | none =>
    match services.lookup ip with
    | some service =>
      { kind := "service", namespace_ := some service.namespace_, name := some service.serviceName
        workloadKind := none, workloadName := none, ip := some service.ip }
    | none =>
      match hint with
      | some hint =>
        if hint.namespace_.isSome || hint.podName.isSome || hint.workloadKind.isSome || hint.workloadName.isSome then
          { kind := "pod", namespace_ := hint.namespace_, name := hint.podName, workloadKind := hint.workloadKind
            workloadName := hint.workloadName, ip := some ip }
        else unknownEndpoint ip
      | none => unknownEndpoint ip

/-! ## Keys -/

structure EndpointKey where
  kind : String
  namespace_ : Option String
  name : Option String
  workloadKind : Option String
  workloadName : Option String
  ip : Option String

structure DependencyEdgeKey where
  from_ : EndpointKey
  to_ : EndpointKey
  protocol : String
  destinationPort : Nat
  direction : String

/-- The fields in their order, `None` before every text. -/
def EndpointKey.fields (key : EndpointKey) :
    String ×ₗ WithBot String ×ₗ WithBot String ×ₗ WithBot String ×ₗ WithBot String ×ₗ WithBot String :=
  toLex (key.kind, toLex (key.namespace_, toLex (key.name, toLex (key.workloadKind, toLex (key.workloadName, key.ip)))))

theorem EndpointKey.fields_injective : Function.Injective EndpointKey.fields := by
  rintro ⟨⟩ ⟨⟩ h
  cases h
  rfl

/-- The derived order: by the fields in turn. -/
instance : LinearOrder EndpointKey := LinearOrder.lift' EndpointKey.fields EndpointKey.fields_injective

def DependencyEdgeKey.fields (key : DependencyEdgeKey) : EndpointKey ×ₗ EndpointKey ×ₗ String ×ₗ Nat ×ₗ String :=
  toLex (key.from_, toLex (key.to_, toLex (key.protocol, toLex (key.destinationPort, key.direction))))

theorem DependencyEdgeKey.fields_injective : Function.Injective DependencyEdgeKey.fields := by
  rintro ⟨⟩ ⟨⟩ h
  cases h
  rfl

instance : LinearOrder DependencyEdgeKey :=
  LinearOrder.lift' DependencyEdgeKey.fields DependencyEdgeKey.fields_injective

def normalizeEndpointKey (casing : Casing) (endpoint : DependencyEndpoint) : EndpointKey where
  kind := casing.toLowercase endpoint.kind
  namespace_ := endpoint.namespace_.map casing.toLowercase
  name := endpoint.name.map casing.toLowercase
  workloadKind := endpoint.workloadKind.map casing.toLowercase
  workloadName := endpoint.workloadName.map casing.toLowercase
  ip := endpoint.ip

def endpointFromKey (key : EndpointKey) : DependencyEndpoint where
  kind := key.kind
  namespace_ := key.namespace_
  name := key.name
  workloadKind := key.workloadKind
  workloadName := key.workloadName
  ip := key.ip

/-- What `sort_dependency_edges` compares two edges by. -/
def normalizedEdgeKey (casing : Casing) (edge : DependencyEdge) : DependencyEdgeKey where
  from_ := normalizeEndpointKey casing edge.from_
  to_ := normalizeEndpointKey casing edge.to_
  protocol := casing.toUppercase edge.protocol
  destinationPort := edge.destinationPort
  direction := casing.toLowercase edge.direction

def sortDependencyEdges (casing : Casing) (edges : List DependencyEdge) : List DependencyEdge :=
  edges.insertionSort (fun a b => normalizedEdgeKey casing a ≤ normalizedEdgeKey casing b)

/-! ## The loop of `collect_dependency_inventory` -/

structure DependencyEdgeAgg where
  bytes : Nat
  packets : Nat
  connections : Nat
  firstSeenUnixMs : Nat
  lastSeenUnixMs : Nat

/-- What the loop carries; a counter counts lines, of which a text has far fewer than 2^64. -/
structure DependencyTally where
  agg : AList (fun _ : DependencyEdgeKey => DependencyEdgeAgg) := ∅
  fanout : AList (fun _ : EndpointKey => Finset EndpointKey) := ∅
  parseFailures : Nat := 0
  droppedForLineCap : Nat := 0
  droppedEdges : Nat := 0
  skippedForFanout : Nat := 0

/-- `u64::saturating_add`. -/
def saturatingAdd (a b : Nat) : Nat := min (a + b) u64Max

def DependencyEdgeAgg.add (entry : DependencyEdgeAgg) (record : TetragonDependencyRecord) : DependencyEdgeAgg where
  bytes := saturatingAdd entry.bytes record.bytes
  packets := saturatingAdd entry.packets record.packets
  connections := saturatingAdd entry.connections record.connections
  firstSeenUnixMs := min entry.firstSeenUnixMs record.timestampUnixMs
  lastSeenUnixMs := max entry.lastSeenUnixMs record.timestampUnixMs

def newEdgeAgg (record : TetragonDependencyRecord) : DependencyEdgeAgg where
  bytes := 0
  packets := 0
  connections := 0
  firstSeenUnixMs := record.timestampUnixMs
  lastSeenUnixMs := record.timestampUnixMs

def edgeKeyOf (casing : Casing) (pods : StrMap PodIpInfo) (services : StrMap ServiceIpInfo)
    (record : TetragonDependencyRecord) : DependencyEdgeKey where
  from_ := normalizeEndpointKey casing (resolveEndpoint record.srcIp record.srcEndpoint pods services)
  to_ := normalizeEndpointKey casing (resolveEndpoint record.dstIp record.dstEndpoint pods services)
  protocol := casing.toUppercase record.protocol
  destinationPort := record.destinationPort
  direction := "egress"

def addRecord (st : DependencyTally) (key : DependencyEdgeKey) (record : TetragonDependencyRecord) :
    DependencyTally :=
  if st.agg.entries.length ≥ maxDepEdgesPerSnapshot ∧ key ∉ st.agg then
    { st with droppedEdges := st.droppedEdges + 1 }
  else
    let sourceFanout := (st.fanout.lookup key.from_).getD ∅
    if sourceFanout.card ≥ maxDepFanoutPerSource ∧ key.to_ ∉ sourceFanout ∧ key ∉ st.agg then
      { st with
        fanout := st.fanout.insert key.from_ sourceFanout
        skippedForFanout := st.skippedForFanout + 1 }
    else
      let entry := (st.agg.lookup key).getD (newEdgeAgg record)
      { st with
        agg := st.agg.insert key (entry.add record)
        fanout := st.fanout.insert key.from_ (insert key.to_ sourceFanout) }

def lineRecord (env : DependencyExternals) (lineIndex : Nat) (line : String) : Option TetragonDependencyRecord :=
  (env.fromStr line).bind (parseTetragonRecord env.casing (env.nowUnixMs lineIndex))

def readLine (env : DependencyExternals) (pods : StrMap PodIpInfo) (services : StrMap ServiceIpInfo)
    (st : DependencyTally) (entry : List Char × Nat) : DependencyTally :=
  let (line, lineIndex) := entry
  if lineIndex ≥ maxTetragonLines then { st with droppedForLineCap := st.droppedForLineCap + 1 }
  else
    let line := RustStr.trim (String.ofList line)
    if line = "" then st
    else
      match lineRecord env lineIndex line with
      | none => { st with parseFailures := st.parseFailures + 1 }
      | some record => addRecord st (edgeKeyOf env.casing pods services record) record

def edgeOf (entry : DependencyEdgeKey × DependencyEdgeAgg) : DependencyEdge where
  from_ := endpointFromKey entry.1.from_
  to_ := endpointFromKey entry.1.to_
  protocol := entry.1.protocol
  destinationPort := entry.1.destinationPort
  direction := entry.1.direction
  bytes := entry.2.bytes
  packets := entry.2.packets
  connections := entry.2.connections
  firstSeenUnixMs := entry.2.firstSeenUnixMs
  lastSeenUnixMs := entry.2.lastSeenUnixMs

def tallyBody (env : DependencyExternals) (pods : List Pod) (services : List Service) (body : String) :
    DependencyTally :=
  (RustStr.lines body.toList).zipIdx.foldl (readLine env (buildPodIpIndex pods) (buildServiceIpIndex services)) {}

/-- The end of `collect_dependency_inventory`, from the loop's tally on. -/
def dependencyInventory (env : DependencyExternals) (coverage : CoverageSnapshot) (tally : DependencyTally) :
    DependencyInventory :=
  let edges := sortDependencyEdges env.casing ((KeyOrder.inOrder tally.agg).map edgeOf)
  let droppedEventsTotal := saturatingAdd tally.droppedEdges tally.droppedForLineCap
  let droppedTotal := saturatingAdd droppedEventsTotal tally.skippedForFanout
  { edges
    source := "tetragon_grpc"
    windowSeconds := depWindowSeconds
    truncated := decide (droppedTotal > 0)
    droppedEdges := droppedTotal
    observedEndpoints := coverage.observedEndpoints
    connectedEndpoints := coverage.connectedEndpoints
    unavailableEndpoints := coverage.unavailableEndpoints }

/-- `collect_dependency_inventory`, on the text of the stream and its coverage. -/
def collectDependencyInventory (env : DependencyExternals) (enabled : Bool) (body : String)
    (coverage : CoverageSnapshot) (pods : List Pod) (services : List Service) : DependencyInventory :=
  if !enabled then { source := "tetragon_grpc", windowSeconds := depWindowSeconds }
  else dependencyInventory env coverage (tallyBody env pods services body)

end Collector
end HubAgent
