import HubAgent.Dedup
import HubAgent.Hub
/-!
# The command loop (`command_loop`)

The loop polls the hub, runs the commands of a batch one after the other and acknowledges each result before it takes up
the next command.  It is a program over its calls, the handlers' API calls among them, each marked with the id of the
command it is made for; it returns where the process exits.  `LoopLaw` says what a history must show where a call is
made, and `commandLoop_meets` that it does, for every loop of every length and whatever is answered.
-/
namespace HubAgent
namespace Executor

open Interaction
open Hub (HubError CommandBatch)

/-! ## The loop -/

/-- `clock` is read for a result of `dedup_begin`'s own; `received` and `executed` are the counters. -/
inductive LoopCall where
  | poll
  | received
  | clock
  | api (id : String) (op : ApiCall)
  | executed (status : ResultStatus)
  | ack (result : CommandResult)
  | sleep (secs : Nat)

@[reducible] def LoopAnswer : LoopCall → Type
  | .poll => Except HubError CommandBatch
  | .received => Unit
  | .clock => Nat
  | .api _ op => Answer op
  | .executed _ => Unit
  | .ack _ => Except HubError Unit
  | .sleep _ => Unit

abbrev Loop (α : Type) := Prog LoopCall LoopAnswer α

abbrev LoopEvent := Interaction.Event LoopCall LoopAnswer

abbrev LoopTrace := Interaction.Trace LoopCall LoopAnswer

abbrev LoopOracle := Interaction.Oracle LoopCall LoopAnswer

abbrev loop (op : LoopCall) : Loop (LoopAnswer op) := Prog.ask op

def shouldRestartAfterAck (result : CommandResult) : Bool :=
  result.status == .ok && result.restartRequested.getD false

section Loop

variable (env : Externals) (fuel : Nat) (cfg : Config)

def execute (cmd : Command) (dedup : CommandDedupState) : Loop (CommandResult × CommandDedupState) := do
  let now ← loop .clock
  match dedupBegin now cmd dedup with
  | (some result, dedup) => return (result, dedup)
  | (none, dedup) =>
    let result ← (executeInner env fuel cfg cmd).lift (LoopCall.api cmd.id) (fun _ x => x)
    return (result, dedupFinish result dedup)

/-- The commands of a batch; none where the process exits. -/
def runBatch : List Command → CommandDedupState → Loop (Option CommandDedupState)
  | [], dedup => return some dedup
  | cmd :: rest, dedup => do
    loop .received
    let (result, dedup) ← execute env fuel cfg cmd dedup
    loop (.executed result.status)
    -- a failed acknowledgement is only logged
    let _ ← loop (.ack result)
    if shouldRestartAfterAck result then return none else runBatch rest dedup

/-- **`command_loop`**, observed for `turns` polls; it returns where the process exits. -/
def commandLoop : Nat → CommandDedupState → Loop Unit
  | 0, _ => .pending
  | turns + 1, dedup => do
    match ← loop .poll with
    | .error _ =>
      loop (.sleep 5)
      commandLoop turns dedup
    | .ok batch =>
      match ← runBatch env fuel cfg batch.commands dedup with
      | none => return ()
      | some dedup => commandLoop turns dedup

end Loop

/-! ## Who asks for a restart -/

def NoRestart (m : Exec CommandResult) : Prop := ∀ tr, m.Meets (fun _ _ => True) (fun r _ => r.restartRequested = none) tr

section NoRestart

variable {id : String} {α : Type}

theorem noRestart_pure {r : CommandResult} (h : r.restartRequested = none) : NoRestart (pure r) := fun _ => h

theorem noRestart_bind {m : Exec α} {f : α → Exec CommandResult} (h : ∀ a, NoRestart (f a)) : NoRestart (m >>= f) := by
  intro tr
  exact (meets_true m tr).bind (fun a tr' _ => h a tr')

theorem noRestart_simple_bind {s : ResultStatus} {msg : Option String} {f : CommandResult → Exec CommandResult}
    (h : ∀ r, r.restartRequested = none → NoRestart (f r)) : NoRestart (simple id s msg >>= f) :=
  noRestart_bind (m := nowMs) (f := fun finishedAtMs => f { commandId := id, status := s, message := msg, finishedAtMs })
    (fun _ => h _ rfl)

theorem noRestart_simple (s : ResultStatus) (msg : Option String) : NoRestart (simple id s msg) :=
  noRestart_bind (fun _ => noRestart_pure rfl)

theorem noRestart_commandError (mode : ExecutionMode) (msg : String) : NoRestart (commandError id mode msg) :=
  noRestart_simple_bind (fun _ h => noRestart_pure h)

theorem noRestart_updateAgentError (msg : String) : NoRestart (updateAgentError id msg) :=
  noRestart_simple_bind (fun _ h => noRestart_pure h)

section Handlers

variable (cfg : Config) (id : String)

theorem noRestart_getResourceYaml (env : Externals) (spec : ResourceYamlSpec) :
    NoRestart (getResourceYaml env cfg id spec) := by
  have err : ∀ msg, NoRestart (resourceYamlError id msg) := fun msg => noRestart_simple _ _
  obtain ⟨message, heq⟩ | ⟨target, ns, group, version, after, -, -, -, hfail, hread, heq⟩ :=
    getResourceYaml_cases env cfg id spec
  · rw [heq]
    exact err message
  rw [heq]
  refine noRestart_bind (fun answer => ?_)
  cases answer with
  | error e =>
    rw [hfail]
    exact err _
  | ok object =>
    rw [hread]
    unfold renderResourceYaml
    split
    · exact err _
    split
    · exact err _
    split
    · exact err _
    split
    · exact err _
    · exact noRestart_simple_bind (fun _ hr => noRestart_bind (fun _ => noRestart_pure hr))

theorem noRestart_diagnosePostgresql (env : Externals) (spec : PostgresqlDiagnosticSpec) :
    NoRestart (diagnosePostgresql env cfg id spec) := by
  refine noRestart_bind (fun gate => ?_)
  cases gate with
  | error e => exact noRestart_commandError _ _
  | ok e =>
    generalize pluginDiagnosePostgresql env cfg spec = plugin
    exact noRestart_bind (fun _ => noRestart_simple_bind (fun _ hr => noRestart_pure hr))

theorem noRestart_runWorkloadResources (spec : WorkloadResourcesSpec) (dryRun : Bool) :
    NoRestart (runWorkloadResources cfg id spec dryRun) := by
  refine noRestart_bind (fun outcome => ?_)
  cases outcome <;> exact noRestart_simple_bind (fun _ hr => noRestart_pure hr)

theorem noRestart_rolloutRestart (fuel : Nat) (spec : RolloutRestartSpec) :
    NoRestart (rolloutRestart fuel cfg id spec) := by
  refine noRestart_bind (fun gate => ?_)
  cases gate with
  | error e => exact noRestart_commandError _ _
  | ok e =>
    refine noRestart_bind (fun restartAt => noRestart_simple_bind (fun result hr => noRestart_bind (fun dry => ?_)))
    cases dry with
    | error e => exact noRestart_commandError _ _
    | ok before =>
      dsimp only
      split
      · exact noRestart_pure hr
      refine noRestart_bind (fun applied => ?_)
      cases applied with
      | error e => exact noRestart_commandError _ _
      | ok after =>
        refine noRestart_bind (fun verified => ?_)
        cases verified <;> exact noRestart_pure hr

theorem noRestart_scaleWorkload (spec : ScaleSpec) : NoRestart (scaleWorkload cfg id spec) := by
  refine noRestart_bind (fun gate => ?_)
  cases gate with
  | error e => exact noRestart_commandError _ _
  | ok e =>
    dsimp only
    split
    · exact noRestart_commandError _ _
    split
    · exact noRestart_commandError _ _
    refine noRestart_bind (fun before => ?_)
    cases before with
    | error e => exact noRestart_commandError _ _
    | ok before =>
      refine noRestart_bind (fun beforeScale => ?_)
      cases beforeScale with
      | error e => exact noRestart_commandError _ _
      | ok beforeScale =>
        refine noRestart_simple_bind (fun result hr => noRestart_bind (fun dry => ?_))
        cases dry with
        | error e => exact noRestart_commandError _ _
        | ok dry =>
          dsimp only
          split
          · exact noRestart_pure hr
          refine noRestart_bind (fun applied => ?_)
          cases applied with
          | error e => exact noRestart_commandError _ _
          | ok applied => exact noRestart_pure hr

theorem noRestart_cordonAndEvict (fuel : Nat) (node sel : String) (force : Bool) (timeout : Nat)
    (opts : Option DeleteOptions) (before : Bool) (classes : PodClasses) :
    NoRestart (cordonAndEvict fuel id node sel force timeout opts before classes) := by
  refine noRestart_bind (fun answer => ?_)
  cases answer with
  | error e => exact noRestart_simple _ _
  | ok _ =>
    refine noRestart_bind (fun evictions => ?_)
    cases evictions with
    | error e => exact noRestart_simple _ _
    | ok evicted =>
      refine noRestart_bind (fun start => noRestart_bind (fun waited => ?_))
      cases waited with
      | error e => exact noRestart_simple _ _
      | ok p => exact noRestart_simple_bind (fun _ hr => noRestart_pure hr)

theorem noRestart_drainNode (fuel : Nat) (spec : DrainNodeSpec) : NoRestart (drainNode fuel cfg id spec) := by
  unfold drainNode
  dsimp only
  split
  · exact noRestart_simple _ _
  refine noRestart_bind (fun gate => ?_)
  cases gate with
  | error e => exact noRestart_simple _ _
  | ok e =>
    dsimp only
    split
    · exact noRestart_simple _ _
    split
    · exact noRestart_simple _ _
    refine noRestart_bind (fun node => ?_)
    cases node with
    | error e => exact noRestart_simple _ _
    | ok node =>
      refine noRestart_bind (fun pods => ?_)
      cases pods with
      | error e => exact noRestart_simple _ _
      | ok pods =>
        dsimp only
        split
        · exact noRestart_simple _ _
        · exact noRestart_cordonAndEvict _ _ _ _ _ _ _ _ _

theorem noRestart_updateAgent (spec : UpdateAgentSpec) : NoRestart (updateAgent cfg id spec) := by
  refine noRestart_bind (fun gate => ?_)
  cases gate with
  | error e => exact noRestart_updateAgentError _
  | ok e =>
    dsimp only
    split
    · exact noRestart_updateAgentError _
    refine noRestart_bind (fun before => ?_)
    cases before with
    | error e => exact noRestart_updateAgentError _
    | ok before =>
      dsimp only
      split
      · exact noRestart_updateAgentError _
      refine noRestart_bind (fun warnings => noRestart_bind (fun dry => ?_))
      cases dry with
      | error e => exact noRestart_updateAgentError _
      | ok dry =>
        refine noRestart_bind (fun after => ?_)
        cases after with
        | error e => exact noRestart_updateAgentError _
        | ok after =>
          dsimp only
          split
          · exact noRestart_updateAgentError _
          · exact noRestart_simple_bind (fun _ hr => noRestart_pure hr)

end Handlers

theorem noRestart_dispatch {α : Type} {enabled : Bool} {off : String} {d : Decoder α} {cmd : Command}
    {handler : α → Exec CommandResult} (h : ∀ spec, NoRestart (handler spec)) :
    NoRestart (dispatch enabled off d cmd handler) := by
  unfold dispatch
  split
  · exact noRestart_simple _ _
  split
  · exact h _
  · exact noRestart_simple _ _

section Handled

-- What is known of these handlers is in their lemmas.
attribute [local irreducible] drainNode getResourceYaml

/-- **Only `self_update` asks for a restart.** -/
theorem noRestart_executeInner (env : Externals) (fuel : Nat) (cfg : Config) {cmd : Command}
    (h : cmd.kind ≠ "self_update") : NoRestart (executeInner env fuel cfg cmd) := by
  unfold executeInner
  dsimp only
  split
  · exact noRestart_dispatch (fun spec => noRestart_getResourceYaml _ _ _ _)
  · exact noRestart_dispatch (fun spec => noRestart_diagnosePostgresql _ _ _ _)
  · exact noRestart_dispatch (fun spec => noRestart_runWorkloadResources _ _ _ _)
  · exact noRestart_dispatch (fun spec => noRestart_runWorkloadResources _ _ _ _)
  · exact noRestart_dispatch (fun spec => noRestart_rolloutRestart _ _ _ _)
  · exact noRestart_dispatch (fun spec => noRestart_scaleWorkload _ _ _)
  · exact noRestart_dispatch (fun spec => noRestart_drainNode _ _ _ _)
  · rename_i hk
    exact absurd hk h
  · exact noRestart_dispatch (fun spec => noRestart_updateAgent _ _ _)
  · exact noRestart_simple _ _

end Handled

end NoRestart

/-! ## What a history shows -/

def delivered (tr : LoopTrace) : List Command :=
  tr.flatMap (fun e => match e with
    | ⟨.poll, .ok batch⟩ => batch.commands
    | _ => [])

/-- The results that were acknowledged, in order, whatever the acknowledgement met with. -/
def acked (tr : LoopTrace) : List CommandResult :=
  tr.filterMap (fun e => match e with
    | ⟨.ack result, _⟩ => some result
    | _ => none)

/-- What `COMMANDS_RECEIVED` counts. -/
def receivedCount (tr : LoopTrace) : Nat :=
  (tr.filter (fun e => match e.call with
    | .received => true
    | _ => false)).length

/-- What `COMMANDS_EXECUTED` counts, by status. -/
def executedStatuses (tr : LoopTrace) : List ResultStatus :=
  tr.filterMap (fun e => match e.call with
    | .executed status => some status
    | _ => none)

structure Ledger where
  delivered : List Command
  acked : List CommandResult
  received : Nat
  executed : List ResultStatus

def ledger (tr : LoopTrace) : Ledger := ⟨delivered tr, acked tr, receivedCount tr, executedStatuses tr⟩

def Ledger.add (l : Ledger) : LoopEvent → Ledger
  | ⟨.poll, .ok batch⟩ => { l with delivered := l.delivered ++ batch.commands }
  | ⟨.ack result, _⟩ => { l with acked := l.acked ++ [result] }
  | ⟨.received, _⟩ => { l with received := l.received + 1 }
  | ⟨.executed status, _⟩ => { l with executed := l.executed ++ [status] }
  | _ => l

theorem ledger_concat (tr : LoopTrace) (e : LoopEvent) : ledger (tr ++ [e]) = (ledger tr).add e := by
  obtain ⟨call, answer⟩ := e
  cases call with
  | poll => cases answer <;> simp [ledger, Ledger.add, delivered, acked, receivedCount, executedStatuses]
  | _ => simp [ledger, Ledger.add, delivered, acked, receivedCount, executedStatuses]

/-! ## The law of the loop -/

/-- All that was delivered is acknowledged, in order, and counted. -/
structure AllAcked (l : Ledger) : Prop where
  acked : l.acked.map (·.commandId) = l.delivered.map (·.id)
  received : l.received = l.acked.length
  executed : l.executed = l.acked.map (·.status)

/-- The command `id` is the first one that is not acknowledged yet. -/
def NextUp (l : Ledger) (id : String) : Prop :=
  ∃ rest, l.delivered.map (·.id) = l.acked.map (·.commandId) ++ id :: rest

/-- **What a history must show where a call is made.** -/
def LoopLaw (tr : LoopTrace) (op : LoopCall) : Prop :=
  (∀ r ∈ (ledger tr).acked, shouldRestartAfterAck r = false) ∧
  match op with
  | .poll | .sleep _ => AllAcked (ledger tr)
  | .api id _ => NextUp (ledger tr) id ∧ ∀ r ∈ (ledger tr).acked, r.commandId ≠ id
  | .ack result => NextUp (ledger tr) result.commandId ∧
      (∀ r ∈ (ledger tr).acked, r.commandId = result.commandId → r = result) ∧
      (ledger tr).received = (ledger tr).acked.length + 1 ∧
      (ledger tr).executed = (ledger tr).acked.map (·.status) ++ [result.status] ∧
      (shouldRestartAfterAck result = true →
        ∃ cmd ∈ (ledger tr).delivered, cmd.id = result.commandId ∧ cmd.kind = "self_update")
  | _ => True

/-! ## The invariant -/

/-- **Between two commands**: `rest` is what is left of the batch. -/
structure LoopInv (l : Ledger) (dedup : CommandDedupState) (rest : List Command) : Prop where
  order : l.delivered.map (·.id) = l.acked.map (·.commandId) ++ rest.map (·.id)
  rest : rest ⊆ l.delivered
  idle : dedup.running = ∅
  stored : ∀ r ∈ l.acked, dedup.completed.lookup r.commandId = some r
  known : ∀ id r, dedup.completed.lookup id = some r → r.commandId = id ∧ r ∈ l.acked
  received : l.received = l.acked.length
  executed : l.executed = l.acked.map (·.status)
  runs : ∀ r ∈ l.acked, shouldRestartAfterAck r = false

/-- **What the execution of a command leaves for its acknowledgement.** -/
structure Executed (l : Ledger) (cmd : Command) (result : CommandResult) (dedup : CommandDedupState) : Prop where
  id : result.commandId = cmd.id
  idle : dedup.running = ∅
  same : ∀ r ∈ l.acked, r.commandId = result.commandId → r = result
  stored : ∀ r ∈ l.acked ++ [result], dedup.completed.lookup r.commandId = some r
  known : ∀ id r, dedup.completed.lookup id = some r → r.commandId = id ∧ r ∈ l.acked ++ [result]
  restart : shouldRestartAfterAck result = true → cmd.kind = "self_update"

theorem LoopInv.allAcked {l : Ledger} {dedup : CommandDedupState} (h : LoopInv l dedup []) : AllAcked l :=
  ⟨by simpa using h.order.symm, h.received, h.executed⟩

theorem LoopInv.nextUp {l : Ledger} {dedup : CommandDedupState} {cmd : Command} {rest : List Command}
    (h : LoopInv l dedup (cmd :: rest)) : NextUp l cmd.id := ⟨rest.map Command.id, h.order⟩

theorem LoopInv.executed_stored {l : Ledger} {dedup : CommandDedupState} {cmd : Command} {rest : List Command}
    (h : LoopInv l dedup (cmd :: rest)) {result : CommandResult} (hr : dedup.completed.lookup cmd.id = some result) :
    Executed l cmd result dedup := by
  obtain ⟨hid, hmem⟩ := h.known cmd.id result hr
  have hold : ∀ r ∈ l.acked ++ [result], r ∈ l.acked := by
    intro r hr'
    rcases List.mem_append.1 hr' with hr' | hr'
    · exact hr'
    · rw [List.mem_singleton.1 hr']
      exact hmem
  refine ⟨hid, h.idle, fun r hr' heq => ?_, fun r hr' => h.stored r (hold r hr'), fun id r hl => ?_, fun hres => ?_⟩
  · have hstored := h.stored r hr'
    rw [heq, hid, hr] at hstored
    exact (Option.some.inj hstored).symm
  · exact ⟨(h.known id r hl).1, List.mem_append_left _ (h.known id r hl).2⟩
  · rw [h.runs result hmem] at hres
    cases hres

theorem LoopInv.executed_new {l : Ledger} {dedup : CommandDedupState} {cmd : Command} {rest : List Command}
    (h : LoopInv l dedup (cmd :: rest)) (hnone : dedup.completed.lookup cmd.id = none) {result : CommandResult}
    (hid : result.commandId = cmd.id) (hrestart : shouldRestartAfterAck result = true → cmd.kind = "self_update") :
    Executed l cmd result (dedupFinish result { dedup with running := insert cmd.id dedup.running }) := by
  have hfresh : ∀ r ∈ l.acked, r.commandId ≠ result.commandId := by
    intro r hr heq
    have hstored := h.stored r hr
    rw [heq, hid, hnone] at hstored
    cases hstored
  refine ⟨hid, ?_, fun r hr heq => absurd heq (hfresh r hr), fun r hr => ?_, fun id r hl => ?_, hrestart⟩
  · simp [dedupFinish, h.idle, hid]
  · rcases List.mem_append.1 hr with hold | hnew
    · change (dedup.completed.insert result.commandId result).lookup r.commandId = some r
      rw [AList.lookup_insert_ne (hfresh r hold)]
      exact h.stored r hold
    · rw [List.mem_singleton.1 hnew]
      exact AList.lookup_insert _
  · change (dedup.completed.insert result.commandId result).lookup id = some r at hl
    by_cases heq : id = result.commandId
    · rw [heq, AList.lookup_insert] at hl
      cases hl
      exact ⟨heq.symm, by simp⟩
    · rw [AList.lookup_insert_ne heq] at hl
      exact ⟨(h.known id r hl).1, List.mem_append_left _ (h.known id r hl).2⟩

theorem LoopInv.acked {l l' : Ledger} {dedup dedup' : CommandDedupState} {cmd : Command} {rest : List Command}
    (h : LoopInv l dedup (cmd :: rest)) {result : CommandResult} (hx : Executed l cmd result dedup')
    (hl : l' = ⟨l.delivered, l.acked ++ [result], l.received + 1, l.executed ++ [result.status]⟩)
    (hruns : shouldRestartAfterAck result = false) : LoopInv l' dedup' rest := by
  subst hl
  refine ⟨?_, fun c hc => h.rest (List.mem_cons_of_mem cmd hc), hx.idle, hx.stored, hx.known, ?_, ?_, ?_⟩
  · simpa [hx.id] using h.order
  · simpa using h.received
  · simpa using h.executed
  · intro r hr
    rcases List.mem_append.1 hr with hold | hnew
    · exact h.runs r hold
    · rw [List.mem_singleton.1 hnew]
      exact hruns

/-! ## One command, one batch, the loop -/

section Meets

variable {env : Externals} {fuel : Nat} {cfg : Config}

theorem execute_meets {l : Ledger} {dedup : CommandDedupState} {cmd : Command} {rest : List Command} {tr : LoopTrace}
    (h : LoopInv l dedup (cmd :: rest)) (hl : ledger tr = { l with received := l.received + 1 }) :
    (execute env fuel cfg cmd dedup).Meets LoopLaw
      (fun p tr' => ledger tr' = ledger tr ∧ Executed l cmd p.1 p.2) tr := by
  have hruns : ∀ r ∈ (ledger tr).acked, shouldRestartAfterAck r = false := by
    rw [hl]
    exact h.runs
  have hnext : NextUp (ledger tr) cmd.id := by
    rw [hl]
    exact h.nextUp
  refine (meets_ask_bind _ _).2 ⟨⟨hruns, trivial⟩, fun now => ?_⟩
  have hclock : ledger (tr ++ [⟨.clock, now⟩]) = ledger tr := ledger_concat tr _
  generalize hbegin : dedupBegin now cmd dedup = begun
  obtain ⟨outcome, dedup'⟩ := begun
  rcases dedupBegin_cases hbegin with ⟨r, hr, rfl, rfl⟩ | ⟨-, hrun, -⟩ | ⟨hnone, -, rfl, rfl⟩
  · exact ⟨hclock, h.executed_stored hr⟩
  · -- nothing is under way between two commands
    rw [h.idle] at hrun
    cases hrun
  · have hresult : (executeInner env fuel cfg cmd).Meets (fun _ _ => True) (fun r _ => r.commandId = cmd.id ∧
        (shouldRestartAfterAck r = true → cmd.kind = "self_update")) [] := by
      have hrestarts : (executeInner env fuel cfg cmd).Meets (fun _ _ => True)
          (fun r _ => shouldRestartAfterAck r = true → cmd.kind = "self_update") [] := by
        by_cases hkind : cmd.kind = "self_update"
        · exact (meets_true _ _).mono (fun _ _ hp => hp) (fun _ _ _ _ => hkind)
        · refine (noRestart_executeInner env fuel cfg hkind []).mono (fun _ _ hp => hp) (fun r _ hr hres => ?_)
          simp [shouldRestartAfterAck, hr] at hres
      exact ((executeInner_echoes env fuel cfg cmd []).and hrestarts).mono (fun _ _ _ => trivial) (fun _ _ hq => hq)
    have hfresh : ∀ r ∈ (ledger tr).acked, r.commandId ≠ cmd.id := by
      rw [hl]
      intro r hr heq
      have hstored := h.stored r hr
      rw [heq, hnone] at hstored
      cases hstored
    refine (hresult.lift (K := fun tr' => ledger tr' = ledger tr) (fun tr' op hk => ?_) (fun tr' op x hk => ?_)
      hclock).bind (fun r tr' hr => ?_)
    · rw [LoopLaw, hk]
      exact ⟨hruns, hnext, hfresh⟩
    · exact (ledger_concat tr' _).trans hk
    · exact ⟨hr.2, h.executed_new hnone hr.1.1 hr.1.2⟩

/-- **A batch**: its commands one after the other, up to the one that the process exits for. -/
theorem runBatch_meets : ∀ (rest : List Command) (dedup : CommandDedupState) (tr : LoopTrace),
    LoopInv (ledger tr) dedup rest →
    (runBatch env fuel cfg rest dedup).Meets LoopLaw (fun out tr' => match out with
      | some dedup => LoopInv (ledger tr') dedup []
      | none => ∃ pre r x, tr' = pre ++ [⟨.ack r, x⟩] ∧ shouldRestartAfterAck r = true) tr
  | [], _, _, h => h
  | cmd :: rest, dedup, tr, h => by
    rw [runBatch]
    refine (meets_ask_bind _ _).2 ⟨⟨h.runs, trivial⟩, fun u => ?_⟩
    have hrec : ledger (tr ++ [⟨.received, u⟩]) = { ledger tr with received := (ledger tr).received + 1 } :=
      ledger_concat tr _
    refine (execute_meets h hrec).bind ?_
    rintro ⟨result, dedup'⟩ tr₁ ⟨hl₁, hx⟩
    rw [hrec] at hl₁
    have hruns : ∀ r ∈ (ledger tr₁).acked, shouldRestartAfterAck r = false := by
      rw [hl₁]
      exact h.runs
    refine (meets_ask_bind _ _).2 ⟨⟨hruns, trivial⟩, fun v => ?_⟩
    have hl₂ : ledger (tr₁ ++ [⟨.executed result.status, v⟩]) = { ledger tr with
        received := (ledger tr).received + 1, executed := (ledger tr).executed ++ [result.status] } := by
      rw [ledger_concat, hl₁]
      rfl
    refine (meets_ask_bind _ _).2 ⟨?_, fun x => ?_⟩
    · rw [LoopLaw, hl₂]
      refine ⟨h.runs, hx.id ▸ h.nextUp, hx.same, by simp [h.received], by simp [h.executed], fun hres => ?_⟩
      exact ⟨cmd, h.rest List.mem_cons_self, hx.id.symm, hx.restart hres⟩
    · have hl₃ : ledger (tr₁ ++ [⟨.executed result.status, v⟩] ++ [⟨.ack result, x⟩]) = ⟨(ledger tr).delivered,
          (ledger tr).acked ++ [result], (ledger tr).received + 1, (ledger tr).executed ++ [result.status]⟩ := by
        rw [ledger_concat, hl₂]
        rfl
      split
      · rename_i hres
        exact ⟨_, result, x, rfl, hres⟩
      · rename_i hres
        exact runBatch_meets rest dedup' _ (h.acked hx hl₃ (by simpa using hres))

/-- **The loop**, from where everything is acknowledged. -/
theorem commandLoop_meets : ∀ (turns : Nat) (dedup : CommandDedupState) (tr : LoopTrace), LoopInv (ledger tr) dedup [] →
    (commandLoop env fuel cfg turns dedup).Meets LoopLaw
      (fun _ tr' => ∃ pre r x, tr' = pre ++ [⟨.ack r, x⟩] ∧ shouldRestartAfterAck r = true) tr
  | 0, _, _, _ => trivial
  | turns + 1, dedup, tr, h => by
    rw [commandLoop]
    refine (meets_ask_bind _ _).2 ⟨⟨h.runs, h.allAcked⟩, fun batch => ?_⟩
    cases batch with
    | error e =>
      have hl : ledger (tr ++ [⟨.poll, .error e⟩]) = ledger tr := ledger_concat tr _
      have hinv : LoopInv (ledger (tr ++ [⟨.poll, .error e⟩])) dedup [] := hl ▸ h
      refine (meets_ask_bind _ _).2 ⟨⟨hinv.runs, hinv.allAcked⟩, fun u => ?_⟩
      have hl' : ledger (tr ++ [⟨.poll, .error e⟩] ++ [⟨.sleep 5, u⟩]) = ledger tr := (ledger_concat _ _).trans hl
      exact commandLoop_meets turns dedup _ (hl' ▸ h)
    | ok batch =>
      have hl : ledger (tr ++ [⟨.poll, .ok batch⟩]) =
          { ledger tr with delivered := (ledger tr).delivered ++ batch.commands } := ledger_concat tr _
      have hinv : LoopInv (ledger (tr ++ [⟨.poll, .ok batch⟩])) dedup batch.commands := by
        rw [hl]
        exact ⟨by simpa using h.order, fun c hc => List.mem_append_right _ hc, h.idle, h.stored, h.known, h.received,
          h.executed, h.runs⟩
      refine (runBatch_meets batch.commands dedup _ hinv).bind (fun out tr' hout => ?_)
      cases out with
      | none => exact hout
      | some dedup' => exact commandLoop_meets turns dedup' tr' hout

end Meets

theorem loopInv_init : LoopInv (ledger []) {} [] :=
  ⟨rfl, fun _ hc => hc, rfl, fun _ hr => (by cases hr), fun _ _ h => (by cases h), rfl, rfl, fun _ hr => (by cases hr)⟩

/-- **The command loop acknowledges every delivery once, in order, with the first result of its id.**  Over every run:
it polls, or waits to, only when all that was delivered is acknowledged and counted; each acknowledgement is for the next
delivery and shows what any earlier one of the same id showed; an API call is made for the next delivery only, and never
for an id that was acknowledged before; and once a result that asks for a restart was sent, which only a `self_update`
does, no call is made any more. -/
theorem command_loop_law (env : Externals) (fuel : Nat) (cfg : Config) (turns : Nat) (o : LoopOracle) :
    (∀ pre e post, (commandLoop env fuel cfg turns {}).trace o = pre ++ e :: post → LoopLaw pre e.call) ∧
    (((commandLoop env fuel cfg turns {}).run o []).1 = some () → ∃ pre r x,
      (commandLoop env fuel cfg turns {}).trace o = pre ++ [⟨.ack r, x⟩] ∧ shouldRestartAfterAck r = true) := by
  have hmeets : (commandLoop env fuel cfg turns {}).Meets LoopLaw _ [] := commandLoop_meets turns {} [] loopInv_init
  exact ⟨fun pre e post hs => trace_meets o _ hmeets pre post e hs, fun hret => result_meets o _ hmeets () hret⟩

end Executor
end HubAgent
