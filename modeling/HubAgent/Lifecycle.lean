import HubAgent.Lib.Interaction
import HubAgent.ConfigReaders
/-!
# The operator's lifecycle (`operator_lifecycle.rs`)

The leader watches the agent's ConfigMap and keeps the operator's workload, the default policy and the labels of the
namespaces in step with it.  A run is a program over its calls: the API, the leader flag, and `select`, whose answer is
whatever the watch stream or the ticker delivers first.  What the loop remembers is a `LoopState`; `watching` tells its
inner loop from its outer one.  A reconcile that fails is only logged.
-/
namespace HubAgent
namespace Lifecycle

open Interaction (Prog)
open Operator (namespaceIsExcluded actionModeNamespaceLabel actionModeNamespaceLabelEnabled)

/-- The objects that the leader keeps. -/
inductive Managed where
  | serviceAccount (namespace_ : String)
  | deployment (namespace_ : String)
  | defaultActionPolicy

/-- What it wants them to be: their bodies are fixed but for the namespace and the image. -/
inductive Desired where
  | serviceAccount (namespace_ : String)
  | deployment (namespace_ image : String)
  | defaultActionPolicy

def Desired.object : Desired → Managed
  | .serviceAccount namespace_ => .serviceAccount namespace_
  | .deployment namespace_ _ => .deployment namespace_
  | .defaultActionPolicy => .defaultActionPolicy

inductive WatchEvent where
  | added (cm : ConfigMap)
  | modified (cm : ConfigMap)
  | deleted (cm : ConfigMap)
  | bookmark (resourceVersion : String)
  | error (code : Nat) (message : String)

/-- What `select!` takes up: the next item of the stream, or its end, or a tick. -/
inductive Selected where
  | item (event : ApiResult WatchEvent)
  | ended
  | tick

inductive LifecycleCall where
  | getConfigMap
  | isLeader
  | watch (resourceVersion : String)
  | select
  | sleep (secs : Nat)
  | getPod (namespace_ name : String)
  | getOpt (object : Managed)
  | patch (desired : Desired)
  | create (desired : Desired)
  | delete (object : Managed)
  | listNamespaces
  | patchLabel (namespace_ : String) (value : Option String)

/-- A pod answers with the containers of its spec, `get_opt` with whether the object is there. -/
@[reducible] def LifecycleAnswer : LifecycleCall → Type
  | .getConfigMap => ApiResult ConfigMap
  | .isLeader => Bool
  | .watch _ => ApiResult Unit
  | .select => Selected
  | .sleep _ => Unit
  | .getPod _ _ => ApiResult (Option (List Container))
  | .getOpt _ => ApiResult Bool
  | .patch _ => ApiResult Unit
  | .create _ => ApiResult Unit
  | .delete _ => ApiResult Unit
  | .listNamespaces => ApiResult (List Namespace)
  | .patchLabel _ _ => ApiResult Unit

abbrev Life (α : Type) := Prog LifecycleCall LifecycleAnswer α

abbrev LifeEvent := Interaction.Event LifecycleCall LifecycleAnswer

abbrev LifeTrace := Interaction.Trace LifecycleCall LifecycleAnswer

abbrev LifeOracle := Interaction.Oracle LifecycleCall LifecycleAnswer

abbrev request (op : LifecycleCall) : Life (LifecycleAnswer op) := Prog.ask op

/-- `?`: what follows runs only if the step succeeds. -/
def andThen {α β : Type} (step : Life (Except String α)) (next : α → Life (Except String β)) :
    Life (Except String β) := do
  match ← step with
  | .error e => return .error e
  | .ok a => next a

def withContext (context : String) (call : Life (ApiResult Unit)) : Life (Except String Unit) := do
  match ← call with
  | .error _ => return .error context
  | .ok () => return .ok ()

/-! ## The operator's workload -/

/-- An object is patched if it is there and created if it is not. -/
def ensureManaged (desired : Desired) (what : String) : Life (Except String Unit) := do
  match ← request (.getOpt desired.object) with
  | .error e => return .error e.display
  | .ok true => withContext s!"patch {what}" (request (.patch desired))
  | .ok false => withContext s!"create {what}" (request (.create desired))

def removeManaged (object : Managed) (what : String) : Life (Except String Unit) := do
  match ← request (.getOpt object) with
  | .error e => return .error e.display
  | .ok true => withContext s!"delete {what}" (request (.delete object))
  | .ok false => return .ok ()

def resolveOperatorImage (namespace_ podName : String) : Life (Except String String) := do
  match ← request (.getPod namespace_ podName) with
  | .error _ => return .error s!"get agent pod {podName}"
  | .ok containers =>
    match (containers.bind List.head?).bind Container.image with
    | some image => return .ok image
    | none => return .error "agent pod has no container image"

def ensureOperatorResources (namespace_ agentPodName : String) : Life (Except String Unit) :=
  andThen (resolveOperatorImage namespace_ agentPodName) fun image =>
    andThen (ensureManaged (.serviceAccount namespace_) "operator ServiceAccount") fun _ =>
      ensureManaged (.deployment namespace_ image) "operator Deployment"

def removeOperatorResources (namespace_ : String) : Life (Except String Unit) :=
  andThen (removeManaged (.deployment namespace_) "operator Deployment") fun _ =>
    removeManaged (.serviceAccount namespace_) "operator ServiceAccount"

def ensureDefaultActionPolicy : Life (Except String Unit) :=
  ensureManaged .defaultActionPolicy "default action policy"

/-! ## The labels of the namespaces -/

def namespaceActionModeValue (ns : Namespace) : Option String :=
  ns.metadata.labels.bind (fun labels => labels.lookup actionModeNamespaceLabel)

def setActionModeLabel (name : String) : Life (Except String Unit) :=
  withContext s!"set action-mode label on namespace {name}"
    (request (.patchLabel name (some actionModeNamespaceLabelEnabled)))

def removeActionModeLabel (name : String) : Life (Except String Unit) :=
  withContext s!"remove action-mode label from namespace {name}" (request (.patchLabel name none))

/-- The body of the loop of `reconcile_action_mode_namespaces`. -/
def reconcileNamespace (enabled : Bool) (excluded : Finset String) (ns : Namespace) : Life (Except String Unit) :=
  match ns.metadata.name with
  | none => return .ok ()
  | some name =>
    if namespaceIsExcluded name excluded then
      if namespaceActionModeValue ns ≠ some "false" ∧ (namespaceActionModeValue ns).isSome then
        removeActionModeLabel name
      else return .ok ()
    else
      match enabled, namespaceActionModeValue ns with
      | true, some value =>
        if value = actionModeNamespaceLabelEnabled ∨ value = "false" then return .ok () else setActionModeLabel name
      | true, none => setActionModeLabel name
      | false, some value =>
        if value = actionModeNamespaceLabelEnabled then removeActionModeLabel name else return .ok ()
      | false, none => return .ok ()

def reconcileNamespaces (enabled : Bool) (excluded : Finset String) : List Namespace → Life (Except String Unit)
  | [] => return .ok ()
  | ns :: rest => andThen (reconcileNamespace enabled excluded ns) fun _ => reconcileNamespaces enabled excluded rest

def reconcileActionModeNamespaces (enabled : Bool) (excluded : Finset String) : Life (Except String Unit) := do
  match ← request .listNamespaces with
  | .error e => return .error e.display
  | .ok namespaces => reconcileNamespaces enabled excluded namespaces

def reconcileOperatorWorkload (namespace_ agentPodName : String) (enabled : Bool) (excluded : Finset String) :
    Life (Except String Unit) :=
  if enabled then
    andThen (ensureOperatorResources namespace_ agentPodName) fun _ =>
      andThen ensureDefaultActionPolicy fun _ => reconcileActionModeNamespaces true excluded
  else removeOperatorResources namespace_

/-! ## The loop -/

structure LoopState where
  lastEnabled : Option Bool := none
  lastExcluded : Finset String := ∅
  resourceVersion : String := "0"

/-- Only the leader reconciles, and an error is only logged. -/
def reconcileIfLeader (namespace_ podName : String) (enabled : Bool) (excluded : Finset String) : Life Unit := do
  if ← request .isLeader then
    let _ ← reconcileOperatorWorkload namespace_ podName enabled excluded
    return ()
  else return ()

/-- The ConfigMap as the loop takes it up: its flag, its exclusions, and the version of a watch event. -/
def LoopState.see (s : LoopState) (cm : ConfigMap) : LoopState :=
  { s with lastEnabled := some (isOperatorEnabled cm), lastExcluded := actionOperatorExcludedNamespaces cm }

def initialReconcile (namespace_ podName : String) : Life LoopState := do
  match ← request .getConfigMap with
  | .error _ => return {}
  | .ok cm =>
    let s := LoopState.see {} cm
    reconcileIfLeader namespace_ podName (isOperatorEnabled cm) s.lastExcluded
    return s

/-- One event of the stream; the flag tells whether the stream is read on. -/
def onEvent (namespace_ podName : String) (s : LoopState) : WatchEvent → Life (LoopState × Bool)
  | .added cm | .modified cm => do
    let s := { s.see cm with resourceVersion := cm.metadata.resourceVersion.getD s.resourceVersion }
    reconcileIfLeader namespace_ podName (isOperatorEnabled cm) s.lastExcluded
    return (s, true)
  | .deleted _ => do
    let s := { s with lastEnabled := some false, lastExcluded := ∅ }
    reconcileIfLeader namespace_ podName false s.lastExcluded
    return (s, true)
  | .bookmark resourceVersion => return ({ s with resourceVersion }, true)
  | .error _ _ => return (s, false)

/-- The periodic reconcile, mainly for leadership changes. -/
def onTick (namespace_ podName : String) (s : LoopState) : Life Unit :=
  match s.lastEnabled with
  | some enabled => reconcileIfLeader namespace_ podName enabled s.lastExcluded
  | none => return ()

/-- The two loops: the outer one opens a watch, the inner one reads it. -/
def watchLoop (namespace_ podName : String) : Nat → Bool → LoopState → Life Unit
  | 0, _, _ => .pending
  | fuel + 1, false, s => do
    match ← request (.watch s.resourceVersion) with
    | .error _ =>
      request (.sleep 5)
      watchLoop namespace_ podName fuel false s
    | .ok () => watchLoop namespace_ podName fuel true s
  | fuel + 1, true, s => do
    match ← request .select with
    | .item (.ok event) =>
      let (s, watching) ← onEvent namespace_ podName s event
      watchLoop namespace_ podName fuel watching s
    | .item (.error _) => watchLoop namespace_ podName fuel false s
    | .ended => watchLoop namespace_ podName fuel false s
    | .tick =>
      onTick namespace_ podName s
      watchLoop namespace_ podName fuel true s

/-- **`run_operator_lifecycle`**, observed for `fuel` turns of its loops. -/
def runOperatorLifecycle (namespace_ podName : String) (fuel : Nat) : Life Unit := do
  let s ← initialReconcile namespace_ podName
  watchLoop namespace_ podName fuel false s

end Lifecycle
end HubAgent
