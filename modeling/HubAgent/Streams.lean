import Mathlib.Data.Finset.Sort
import HubAgent.Lib.IpAddr
import HubAgent.Dependencies
/-!
# The event streams and their manager (`tetragon.rs`)

A stream is a task of its own; the manager keeps an entry for each under the address that it streams from, or under a
key of its own for the fallback.  Each pass of the manager lists the `EndpointSlice`s of the service and brings the
entries in line with the addresses that are ready.

An entry stands for its task by the index the task has among all that were ever spawned; the two handles of the entry,
`active` and `handle`, belong to that task.
-/
namespace HubAgent
namespace Tetragon

open Collector (CoverageSnapshot)

def maxDiscoveredEndpoints : Nat := 16
def fallbackStreamKey : String := "__fallback__"

inductive StreamSource where
  | discovered
  | fallback
  deriving DecidableEq

structure StreamEntry where
  source : StreamSource
  connected : Bool
  task : Nat
  deriving DecidableEq

abbrev Streams := StrMap StreamEntry

/-! ## What holds the lock of the manager -/

/-- The entries whose flag is set. -/
def connectedEndpoints (streams : Streams) : Nat := (streams.entries.filter (fun entry => entry.2.connected)).length

def coverageSnapshot (streams : Streams) : CoverageSnapshot where
  observedEndpoints := streams.entries.length
  connectedEndpoints := connectedEndpoints streams
  unavailableEndpoints := streams.entries.length - connectedEndpoints streams

def streamExists (key : String) (streams : Streams) : Bool := decide (key ∈ streams)

def registerStream (key : String) (entry : StreamEntry) (streams : Streams) : Streams := streams.insert key entry

/-- The flag before, which is no flag when there is no entry. -/
def setStreamConnected (key : String) (connected : Bool) (streams : Streams) : Bool × Streams :=
  match streams.lookup key with
  | none => (false, streams)
  | some entry => (entry.connected, streams.insert key { entry with connected })

def removeStream (key : String) (streams : Streams) : Option StreamEntry × Streams :=
  (streams.lookup key, streams.erase key)

def discoveredKeys (streams : Streams) : Finset String :=
  (streams.keys.filter (fun key => (streams.lookup key).any (fun entry => entry.source = .discovered))).toFinset

def hasFallbackStream (streams : Streams) : Bool :=
  ((streams.lookup fallbackStreamKey).map (fun entry => decide (entry.source = .fallback))).getD false

def noStreams (streams : Streams) : Bool := streams.entries.isEmpty

/-! ## Discovery -/

structure EndpointPort where
  port : Option Int32

structure EndpointConditions where
  ready : Option Bool

structure TargetReference where
  kind : Option String

structure SliceEndpoint where
  addresses : List String
  conditions : Option EndpointConditions
  targetRef : Option TargetReference

structure EndpointSlice where
  ports : Option (List EndpointPort)
  endpoints : List SliceEndpoint

structure TetragonRuntime where
  discoveryEnabled : Bool
  grpcPort : UInt16
  fallbackAddress : String

def normalizeDiscoveredAddress (address : String) : Option String := (IpAddr.parse address).map IpAddr.toString

example : normalizeDiscoveredAddress "10.1.2.3" = some "10.1.2.3" := by decide +kernel

/-- The first port that a slice states, cast to `u16`. -/
def slicePort (runtime : TetragonRuntime) (slice : EndpointSlice) : UInt16 :=
  ((slice.ports.bind (fun ports => ports.findSome? (·.port))).map (fun port => port.toUInt32.toUInt16)).getD
    runtime.grpcPort

/-- One address: at the cap, the discovery returns what it has (`.error`). -/
def discoverAddress (port : UInt16) (addresses : Finset String) (address : String) :
    Except (Finset String) (Finset String) :=
  if addresses.card ≥ maxDiscoveredEndpoints then .error addresses
  else
    match normalizeDiscoveredAddress address with
    | none => .ok addresses
    | some address => .ok (insert (address ++ ":" ++ port.toNat.repr) addresses)

def discoverEndpoint (port : UInt16) (addresses : Finset String) (endpoint : SliceEndpoint) :
    Except (Finset String) (Finset String) :=
  if endpoint.conditions.bind (·.ready) = some false then .ok addresses
  else if endpoint.targetRef.any (fun targetRef => targetRef.kind ≠ some "Pod") then .ok addresses
  else endpoint.addresses.foldlM (discoverAddress port) addresses

def discoverSlice (runtime : TetragonRuntime) (addresses : Finset String) (slice : EndpointSlice) :
    Except (Finset String) (Finset String) :=
  slice.endpoints.foldlM (discoverEndpoint (slicePort runtime slice)) addresses

/-- `discover_tetragon_endpoints`, once the slices are listed. -/
def discoverTetragonEndpoints (runtime : TetragonRuntime) (slices : List EndpointSlice) : Finset String :=
  match slices.foldlM (discoverSlice runtime) ∅ with
  | .ok addresses => addresses
  | .error addresses => addresses

/-! ## Passes -/

structure SpawnedTask where
  key : String
  address : String
  source : StreamSource

/-- Where `run_manager` stands. -/
inductive Position where
  | first
  | looping
  | returned
  deriving DecidableEq

structure ManagerState where
  streams : Streams := ∅
  /-- All that were ever spawned. -/
  spawned : List SpawnedTask := []
  position : Position := .first

def spawnStream (key address : String) (source : StreamSource) (st : ManagerState) : ManagerState :=
  if streamExists key st.streams then st
  else
    { st with
      streams := registerStream key { source, connected := false, task := st.spawned.length } st.streams
      spawned := st.spawned ++ [{ key, address, source }] }

def ensureFallbackStream (runtime : TetragonRuntime) (st : ManagerState) : ManagerState :=
  if streamExists fallbackStreamKey st.streams then st
  else spawnStream fallbackStreamKey runtime.fallbackAddress .fallback st

/-- A stream is removed; its task is told to stop and aborted. -/
def dropStream (st : ManagerState) (key : String) : ManagerState :=
  { st with streams := (removeStream key st.streams).2 }

def startStream (st : ManagerState) (address : String) : ManagerState :=
  if streamExists address st.streams then st else spawnStream address address .discovered st

/-- `discover_and_reconcile`, once the endpoints are known. -/
def reconcileStreams (runtime : TetragonRuntime) (endpoints : Finset String) (st : ManagerState) : ManagerState :=
  if endpoints = ∅ then
    if noStreams st.streams then ensureFallbackStream runtime st else st
  else
    let stale := (discoveredKeys st.streams).filter (fun key => key ∉ endpoints)
    let st := (stale.sort (· ≤ ·)).foldl dropStream st
    let st := if hasFallbackStream st.streams then dropStream st fallbackStreamKey else st
    (endpoints.sort (· ≤ ·)).foldl startStream st

abbrev DiscoveryOutcome := Except String (List EndpointSlice)

/-- A turn of the loop of `run_manager`, or what comes before it. -/
def managerPass (runtime : TetragonRuntime) (outcome : DiscoveryOutcome) (st : ManagerState) : ManagerState :=
  match st.position with
  | .returned => st
  | .first =>
    { (match outcome with
      | .ok slices => reconcileStreams runtime (discoverTetragonEndpoints runtime slices) st
      | .error _ => ensureFallbackStream runtime st) with position := .looping }
  | .looping =>
    { (match outcome with
      | .ok slices => reconcileStreams runtime (discoverTetragonEndpoints runtime slices) st
      | .error _ => if noStreams st.streams then ensureFallbackStream runtime st else st) with position := .looping }

/-- `run_manager` before its first discovery. -/
def startManager (runtime : TetragonRuntime) : ManagerState :=
  if !runtime.discoveryEnabled then { ensureFallbackStream runtime {} with position := .returned } else {}

/-- What happens to the entries: a pass, or a task that sets a flag. -/
inductive ManagerOp where
  | pass (outcome : DiscoveryOutcome)
  | flag (key : String) (connected : Bool)

def managerStep (runtime : TetragonRuntime) (st : ManagerState) : ManagerOp → ManagerState
  | .pass outcome => managerPass runtime outcome st
  | .flag key connected => { st with streams := (setStreamConnected key connected st.streams).2 }

def managerAfter (runtime : TetragonRuntime) (ops : List ManagerOp) : ManagerState :=
  ops.foldl (managerStep runtime) (startManager runtime)

end Tetragon
end HubAgent
