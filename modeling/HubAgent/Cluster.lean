import HubAgent.Lib.Transition
import HubAgent.StatusSpec
import HubAgent.LiveCalls
/-!
# The cluster and its three parties

Users edit namespaces and policies, the operator's passes read both and write statuses, and the executor's commands read
the statuses and change workloads.  Each call of a pass or a command is one step, answered from the state it finds, so a
run is any interleaving of any number of passes and commands with any edits.  Role bindings and workloads are not part
of the state: a call about them may be answered in any way, and so may a clock.
-/
namespace HubAgent
namespace Cluster

open Interaction
open Operator (OperatorCall OperatorAnswer Pass PassTrace reconcileActionPoliciesWith published
  namespaceActionModeEnabled)
open Executor (Externals executeInner)

/-- A reconcile pass under way: what it has left to do, and its calls so far. -/
structure PassInFlight where
  prog : Pass (Except String Unit)
  trace : PassTrace

/-- A command under way; `startedWith` are the namespaces as they were when it was started. -/
structure CommandInFlight where
  cfg : Config
  cmd : Command
  startedWith : List Namespace
  prog : Exec CommandResult
  trace : ApiTrace

structure State where
  namespaces : List Namespace
  policies : List SentinellaHubActionPolicy
  passes : List PassInFlight := []
  commands : List CommandInFlight := []

def Labelled (namespaces : List Namespace) (name : String) : Prop :=
  ∃ ns ∈ namespaces, ns.metadata.name = some name ∧ namespaceActionModeEnabled ns = true

/-- What a step shows; a call of a command also shows the namespaces the command was started with. -/
inductive ClusterEvent where
  | editNamespaces
  | editPolicies
  | startPass
  | operatorCall (op : OperatorCall)
  | endPass
  | startCommand (cmd : Command)
  | executorCall (startedWith : List Namespace) (op : ApiCall)
  | endCommand

/-! ## Answers -/

/-- `patch_policy_status`, as the cluster stores it. -/
def writeStatus (name : String) (status : PolicyStatus) (policies : List SentinellaHubActionPolicy) :
    List SentinellaHubActionPolicy :=
  policies.map (fun policy => if policy.metadata.name = some name then published policy status else policy)

/-- The policies after a call of a pass; a patch may fail before or after it is stored. -/
def policiesAfter (stored : Bool) (policies : List SentinellaHubActionPolicy) : OperatorCall →
    List SentinellaHubActionPolicy
  | .patchStatus name status => if stored then writeStatus name status policies else policies
  | _ => policies

/-- A list that succeeds is current, and a patch that succeeds is stored. -/
def OperatorMayAnswer (s : State) (stored : Bool) : (op : OperatorCall) → OperatorAnswer op → Prop
  | .listNamespaces, .ok namespaces => namespaces = s.namespaces
  | .listPolicies, .ok policies => policies = s.policies
  | .patchStatus _ _, .ok _ => stored = true
  | _, _ => True

/-- A policy that the executor reads is one that is stored. -/
def ExecutorMayAnswer (s : State) : (op : ApiCall) → Answer op → Prop
  | .listActionPolicies, .ok items => ∀ policy, .ok policy ∈ items → policy ∈ s.policies
  | _, _ => True

/-! ## Steps -/

/-- **One step of one party.** -/
inductive ClusterStep : State → ClusterEvent → State → Prop
  | editNamespaces (s : State) (namespaces : List Namespace) : ClusterStep s .editNamespaces { s with namespaces }
  /-- Only the operator writes statuses. -/
  | editPolicies (s : State) (policies : List SentinellaHubActionPolicy)
      (kept : ∀ policy ∈ policies, ∀ status, policy.status = some status → ∃ q ∈ s.policies, q.status = some status) :
      ClusterStep s .editPolicies { s with policies }
  | startPass (s : State) (t w : Nat) (excluded : Finset String) :
      ClusterStep s .startPass { s with passes := s.passes ++ [⟨reconcileActionPoliciesWith t w excluded, []⟩] }
  | operatorCall {s : State} {i : Nat} {op : OperatorCall} {k : OperatorAnswer op → Pass (Except String Unit)}
      {tr : PassTrace} (at_ : s.passes[i]? = some ⟨.call op k, tr⟩) (stored : Bool) (x : OperatorAnswer op)
      (answered : OperatorMayAnswer s stored op x) :
      ClusterStep s (.operatorCall op)
        { s with policies := policiesAfter stored s.policies op, passes := s.passes.set i ⟨k x, tr ++ [⟨op, x⟩]⟩ }
  | endPass {s : State} {i : Nat} {r : Except String Unit} {tr : PassTrace} (at_ : s.passes[i]? = some ⟨.ret r, tr⟩) :
      ClusterStep s .endPass { s with passes := s.passes.eraseIdx i }
  | startCommand (s : State) (env : Externals) (fuel : Nat) (cfg : Config) (cmd : Command) :
      ClusterStep s (.startCommand cmd)
        { s with commands := s.commands ++ [⟨cfg, cmd, s.namespaces, executeInner env fuel cfg cmd, []⟩] }
  | executorCall {s : State} {i : Nat} {cfg : Config} {cmd : Command} {startedWith : List Namespace} {op : ApiCall}
      {k : Answer op → Exec CommandResult} {tr : ApiTrace}
      (at_ : s.commands[i]? = some ⟨cfg, cmd, startedWith, .call op k, tr⟩) (x : Answer op)
      (answered : ExecutorMayAnswer s op x) :
      ClusterStep s (.executorCall startedWith op)
        { s with commands := s.commands.set i ⟨cfg, cmd, startedWith, k x, tr ++ [⟨op, x⟩]⟩ }
  | endCommand {s : State} {i : Nat} {cfg : Config} {cmd : Command} {startedWith : List Namespace}
      {result : CommandResult} {tr : ApiTrace} (at_ : s.commands[i]? = some ⟨cfg, cmd, startedWith, .ret result, tr⟩) :
      ClusterStep s .endCommand { s with commands := s.commands.eraseIdx i }

end Cluster
end HubAgent
