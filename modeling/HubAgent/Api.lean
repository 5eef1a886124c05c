import HubAgent.Lib.Interaction
import HubAgent.Config
import HubAgent.Kube
import HubAgent.Policy
import HubAgent.Command
/-!
# The calls of the executor

Everything a handler learns from outside is one call: the Kubernetes API, and the clocks it reads.  An answer has the
type of its call.  `mutatesLive` marks the calls that change the cluster: patches that are not dry runs, and evictions.

A listed policy comes as `serde` reads it, so that an answer may hold any object at all.  The PostgreSQL diagnosis
reads the inventory through `ReadCall`s: lists, gets and probes.
-/
namespace HubAgent

open Interaction (Prog Event)

inductive PolicyReadError where
  | serialize (text : String)
  | deserialize (text : String)

/-- What the inventory collection and the PostgreSQL probe ask. -/
inductive ReadCall where
  | list (group version kind : String)
  | get (group version kind : String) (namespace_ : Option String) (name : String)
  | apiserverVersion
  | httpGet (url : String)
  | connectPostgresql (connectionString : String) (tls : Bool)

inductive ApiCall where
  | nowMs
  | nowRfc3339
  | systemTimeNow
  | instantNow
  | sleep (secs : Nat)
  | listActionPolicies
  | getWorkload (kind : WorkloadKind) (namespace_ name : String)
  | patchWorkload (kind : WorkloadKind) (namespace_ name : String) (dryRun : Bool) (patch : Json)
  | getScale (namespace_ name : String)
  | patchScale (namespace_ name : String) (dryRun : Bool) (patch : Json)
  | getNode (name : String)
  | patchNode (name : String) (dryRun : Bool) (patch : Json)
  | listPods (fieldSelector : String)
  | createEviction (namespace_ name : String) (eviction : Eviction)
  | listHpas (namespace_ : String)
  | listVpas (namespace_ : String)
  | listLimitRanges (namespace_ : String)
  | listResourceQuotas (namespace_ : String)
  | listPdbs (namespace_ : String)
  | getDynamic (group version kind : String) (namespace_ : Option String) (name : String)
  | read (r : ReadCall)

/-- The clocks answer in milliseconds (`nowMs`) or in nanoseconds; a list of which only the length is read answers
with it. -/
@[reducible] def Answer : ApiCall → Type
  | .nowMs => Nat
  | .nowRfc3339 => String
  | .systemTimeNow => Nat
  | .instantNow => Nat
  | .sleep _ => Unit
  | .listActionPolicies => ApiResult (List (Except PolicyReadError SentinellaHubActionPolicy))
  | .getWorkload kind _ _ => ApiResult (Workload kind)
  | .patchWorkload kind _ _ _ _ => ApiResult (Workload kind)
  | .getScale _ _ => ApiResult Scale
  | .patchScale _ _ _ _ => ApiResult Scale
  | .getNode _ => ApiResult Node
  | .patchNode _ _ _ => ApiResult Node
  | .listPods _ => ApiResult (List Pod)
  | .createEviction _ _ _ => ApiResult Unit
  | .listHpas _ => ApiResult (List HorizontalPodAutoscaler)
  | .listVpas _ => ApiResult (List DynamicObject)
  | .listLimitRanges _ => ApiResult Nat
  | .listResourceQuotas _ => ApiResult Nat
  | .listPdbs _ => ApiResult (List PodDisruptionBudget)
  | .getDynamic _ _ _ _ _ => ApiResult DynamicObject
  | .read _ => Except String Json

/-- **The calls that change the cluster.** -/
def ApiCall.mutatesLive : ApiCall → Bool
  | .patchWorkload _ _ _ dryRun _ => !dryRun
  | .patchScale _ _ dryRun _ => !dryRun
  | .patchNode _ dryRun _ => !dryRun
  | .createEviction _ _ _ => true
  | _ => false

abbrev Exec (α : Type) := Prog ApiCall Answer α

abbrev ApiEvent := Event ApiCall Answer

abbrev ApiTrace := Interaction.Trace ApiCall Answer

abbrev ApiOracle := Interaction.Oracle ApiCall Answer

/-! ## One call each -/

abbrev api (op : ApiCall) : Exec (Answer op) := Prog.ask op

def nowMs : Exec Nat := api .nowMs
def nowRfc3339 : Exec String := api .nowRfc3339
def systemTimeNow : Exec Nat := api .systemTimeNow
def instantNow : Exec Nat := api .instantNow
def sleep (secs : Nat) : Exec Unit := api (.sleep secs)

def getWorkload (kind : WorkloadKind) (namespace_ name : String) : Exec (ApiResult (Workload kind)) :=
  api (.getWorkload kind namespace_ name)

def patchWorkload (kind : WorkloadKind) (namespace_ name : String) (dryRun : Bool) (patch : Json) :
    Exec (ApiResult (Workload kind)) :=
  api (.patchWorkload kind namespace_ name dryRun patch)

def getScale (namespace_ name : String) : Exec (ApiResult Scale) := api (.getScale namespace_ name)

def patchScale (namespace_ name : String) (dryRun : Bool) (patch : Json) : Exec (ApiResult Scale) :=
  api (.patchScale namespace_ name dryRun patch)

def getNode (name : String) : Exec (ApiResult Node) := api (.getNode name)

def patchNode (name : String) (dryRun : Bool) (patch : Json) : Exec (ApiResult Node) :=
  api (.patchNode name dryRun patch)

def listPods (fieldSelector : String) : Exec (ApiResult (List Pod)) := api (.listPods fieldSelector)

def createEviction (namespace_ name : String) (eviction : Eviction) : Exec (ApiResult Unit) :=
  api (.createEviction namespace_ name eviction)

end HubAgent
