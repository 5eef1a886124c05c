import Mathlib.Data.Finset.Basic
import HubAgent.Lib.Transition
import HubAgent.Echo
/-!
# One execution for each command id (`Executor::execute`)

`dedup_begin` and `dedup_finish` run under the mutex; between them a call runs its handler without it.  A process holds
the dedup state and its calls, each waiting, running its handler or returned, and a step of it is one call's next move:
it begins, gets one answer from the API, or finishes.  Any number of calls with any ids may arrive at any time, from any
executor of the process.

`DedupInv` holds after every history: an id is started once, is running or completed but not both, belongs to at most
one running call, and keeps the first result that was stored for it.
-/
namespace HubAgent
namespace Executor

open Interaction
open Transition (Steps)

/-! ## The dedup state -/

structure CommandDedupState where
  completed : StrMap CommandResult := ∅
  running : Finset String := ∅

/-- `dedup_begin`: the result to return at once, if there is one.  `now` is the clock `CommandResult::simple` reads. -/
def dedupBegin (now : Nat) (cmd : Command) (state : CommandDedupState) : Option CommandResult × CommandDedupState :=
  match state.completed.lookup cmd.id with
  | some result => (some result, state)
  | none =>
    if cmd.id ∈ state.running then
      (some { commandId := cmd.id, status := .skipped, message := some "command already running", finishedAtMs := now },
        state)
    else (none, { state with running := insert cmd.id state.running })

def dedupFinish (result : CommandResult) (state : CommandDedupState) : CommandDedupState :=
  { completed := state.completed.insert result.commandId result
    running := state.running.erase result.commandId }

/-! ## The process -/

/-- Where a call of `Executor::execute` is. -/
inductive Phase where
  | waiting
  | running (m : Exec CommandResult)
  | returned (result : CommandResult)

structure Call where
  cmd : Command
  phase : Phase

structure Process where
  dedup : CommandDedupState := {}
  calls : List Call := []

/-- What a step shows: `begin` with the result returned at once, or none when the handler is started. -/
inductive CallEvent where
  | arrive (cmd : Command)
  | begin (call : Nat) (id : String) (outcome : Option CommandResult)
  | answer (call : Nat)
  | finish (call : Nat) (id : String) (result : CommandResult)

/-- **One move of one call.** -/
inductive ProcessStep : Process → CallEvent → Process → Prop
  | arrive (p : Process) (cmd : Command) :
      ProcessStep p (.arrive cmd) { p with calls := p.calls ++ [⟨cmd, .waiting⟩] }
  | returnAtOnce {p : Process} {i now : Nat} {cmd : Command} {result : CommandResult} {state : CommandDedupState}
      (at_ : p.calls[i]? = some ⟨cmd, .waiting⟩) (begun : dedupBegin now cmd p.dedup = (some result, state)) :
      ProcessStep p (.begin i cmd.id (some result)) ⟨state, p.calls.set i ⟨cmd, .returned result⟩⟩
  | start {p : Process} {i now : Nat} {cmd : Command} {state : CommandDedupState} (env : Externals) (fuel : Nat)
      (cfg : Config) (at_ : p.calls[i]? = some ⟨cmd, .waiting⟩) (begun : dedupBegin now cmd p.dedup = (none, state)) :
      ProcessStep p (.begin i cmd.id none) ⟨state, p.calls.set i ⟨cmd, .running (executeInner env fuel cfg cmd)⟩⟩
  | answer {p : Process} {i : Nat} {cmd : Command} {op : ApiCall} {k : Answer op → Exec CommandResult}
      (at_ : p.calls[i]? = some ⟨cmd, .running (.call op k)⟩) (x : Answer op) :
      ProcessStep p (.answer i) { p with calls := p.calls.set i ⟨cmd, .running (k x)⟩ }
  | finish {p : Process} {i : Nat} {cmd : Command} {result : CommandResult}
      (at_ : p.calls[i]? = some ⟨cmd, .running (.ret result)⟩) :
      ProcessStep p (.finish i cmd.id result) ⟨dedupFinish result p.dedup, p.calls.set i ⟨cmd, .returned result⟩⟩

def startedIds (es : List CallEvent) : List String :=
  es.filterMap (fun e => match e with
    | .begin _ id none => some id
    | _ => none)

/-! ## The two critical sections -/

/-- **What `dedup_begin` does**: a completed id is answered from the store, a running one is skipped, and only a new one
is started. -/
theorem dedupBegin_cases {now : Nat} {cmd : Command} {s s' : CommandDedupState} {out : Option CommandResult}
    (h : dedupBegin now cmd s = (out, s')) :
    (∃ r, s.completed.lookup cmd.id = some r ∧ out = some r ∧ s' = s) ∨
    (s.completed.lookup cmd.id = none ∧ cmd.id ∈ s.running ∧ s' = s ∧
      ∃ r, out = some r ∧ r.status = .skipped ∧ r.commandId = cmd.id) ∨
    (s.completed.lookup cmd.id = none ∧ cmd.id ∉ s.running ∧ out = none ∧
      s' = { s with running := insert cmd.id s.running }) := by
  unfold dedupBegin at h
  split at h
  · rename_i r hr
    cases h
    exact .inl ⟨r, hr, rfl, rfl⟩
  rename_i hnone
  split at h
  · rename_i hrun
    cases h
    exact .inr (.inl ⟨hnone, hrun, rfl, _, rfl, rfl, rfl⟩)
  · rename_i hrun
    cases h
    exact .inr (.inr ⟨hnone, hrun, rfl, rfl⟩)

/-! ## The calls that are running -/

def RunningAt (calls : List Call) (i : Nat) (cmd : Command) (m : Exec CommandResult) : Prop :=
  calls[i]? = some ⟨cmd, .running m⟩

/-- Running calls hold their id, alone, and will return it. -/
structure CallsInv (running : Finset String) (calls : List Call) : Prop where
  held : ∀ i cmd m, RunningAt calls i cmd m → cmd.id ∈ running
  echoes : ∀ i cmd m, RunningAt calls i cmd m →
    ∃ tr, m.Meets (fun _ _ => True) (fun r _ => r.commandId = cmd.id) tr
  alone : ∀ i j cmd cmd' m m', RunningAt calls i cmd m → RunningAt calls j cmd' m' →
    cmd.id = cmd'.id → i = j

theorem runningAt_set {calls : List Call} {i j : Nat} {c : Call} {cmd : Command} {m : Exec CommandResult}
    (h : RunningAt (calls.set i c) j cmd m) :
    (j = i ∧ c = ⟨cmd, .running m⟩) ∨ (j ≠ i ∧ RunningAt calls j cmd m) := by
  rw [RunningAt, List.getElem?_set] at h
  split at h
  · rename_i hij
    split at h
    · exact .inl ⟨hij.symm, Option.some.inj h⟩
    · cases h
  · rename_i hij
    exact .inr ⟨fun h => hij h.symm, h⟩

/-- One call moves: the others must still hold their ids, and if it now runs it must hold its own, alone. -/
theorem CallsInv.set {running running' : Finset String} {calls : List Call} {i : Nat} {c : Call}
    (h : CallsInv running calls)
    (hothers : ∀ j cmd m, j ≠ i → RunningAt calls j cmd m → cmd.id ∈ running')
    (hnew : ∀ cmd m, c = ⟨cmd, .running m⟩ → cmd.id ∈ running' ∧
      (∃ tr, m.Meets (fun _ _ => True) (fun r _ => r.commandId = cmd.id) tr) ∧
      ∀ j cmd' m', j ≠ i → RunningAt calls j cmd' m' → cmd'.id ≠ cmd.id) :
    CallsInv running' (calls.set i c) := by
  refine ⟨fun j cmd m hj => ?_, fun j cmd m hj => ?_, fun j k cmd cmd' m m' hj hk hid => ?_⟩
  · rcases runningAt_set hj with ⟨rfl, hc⟩ | ⟨hne, hold⟩
    · exact (hnew cmd m hc).1
    · exact hothers j cmd m hne hold
  · rcases runningAt_set hj with ⟨rfl, hc⟩ | ⟨hne, hold⟩
    · exact (hnew cmd m hc).2.1
    · exact h.echoes j cmd m hold
  · rcases runningAt_set hj with ⟨rfl, hc⟩ | ⟨hne, hold⟩
    · rcases runningAt_set hk with ⟨rfl, -⟩ | ⟨hne', hold'⟩
      · rfl
      · exact absurd hid.symm ((hnew cmd m hc).2.2 k cmd' m' hne' hold')
    · rcases runningAt_set hk with ⟨rfl, hc'⟩ | ⟨hne', hold'⟩
      · exact absurd hid ((hnew cmd' m' hc').2.2 j cmd m hne hold)
      · exact h.alone j k cmd cmd' m m' hold hold' hid

theorem CallsInv.arrive {running : Finset String} {calls : List Call} (h : CallsInv running calls) (cmd : Command) :
    CallsInv running (calls ++ [⟨cmd, .waiting⟩]) := by
  have hold : ∀ i cmd' m, RunningAt (calls ++ [⟨cmd, .waiting⟩]) i cmd' m →
      RunningAt calls i cmd' m := by
    intro i cmd' m hi
    rw [RunningAt, List.getElem?_append] at hi
    split at hi
    · exact hi
    · have hmem := List.mem_of_getElem? hi
      cases List.mem_singleton.1 hmem
  exact ⟨fun i c m hi => h.held i c m (hold i c m hi), fun i c m hi => h.echoes i c m (hold i c m hi),
    fun i j c c' m m' hi hj => h.alone i j c c' m m' (hold i c m hi) (hold j c' m' hj)⟩

/-! ## The invariant -/

/-- **What holds after every history of a process.** -/
structure DedupInv (es : List CallEvent) (p : Process) : Prop where
  disjoint : ∀ id ∈ p.dedup.running, p.dedup.completed.lookup id = none
  startedOnce : (startedIds es).Nodup
  startedIff : ∀ id, id ∈ startedIds es ↔ id ∈ p.dedup.running ∨ ∃ r, p.dedup.completed.lookup id = some r
  calls : CallsInv p.dedup.running p.calls
  stored : ∀ i id r, .finish i id r ∈ es → p.dedup.completed.lookup id = some r

theorem dedupInv_init : DedupInv [] {} := by
  refine ⟨fun id h => (by cases h), List.nodup_nil, fun id => ?_, ?_, fun i id r h => (by cases h)⟩
  · simp [startedIds]
  · refine ⟨fun i cmd m h => ?_, fun i cmd m h => ?_, fun i j cmd cmd' m m' h => ?_⟩ <;> cases h

theorem startedIds_append (es : List CallEvent) (e : CallEvent) :
    startedIds (es ++ [e]) = startedIds es ++ startedIds [e] := List.filterMap_append

theorem DedupInv.quiet {es : List CallEvent} {p : Process} {e : CallEvent} {calls : List Call} (h : DedupInv es p)
    (hstart : startedIds [e] = []) (hfinish : ∀ i id r, e ≠ .finish i id r)
    (hcalls : CallsInv p.dedup.running calls) : DedupInv (es ++ [e]) ⟨p.dedup, calls⟩ := by
  have hids : startedIds (es ++ [e]) = startedIds es := by rw [startedIds_append, hstart, List.append_nil]
  refine ⟨h.disjoint, hids ▸ h.startedOnce, hids ▸ h.startedIff, hcalls, fun i id r hmem => ?_⟩
  rcases List.mem_append.1 hmem with hold | hnew
  · exact h.stored i id r hold
  · exact absurd (List.mem_singleton.1 hnew).symm (hfinish i id r)

theorem CallsInv.set_idle {running : Finset String} {calls : List Call} {i : Nat} {cmd : Command} {phase : Phase}
    (h : CallsInv running calls) (hidle : ∀ m, phase ≠ .running m) : CallsInv running (calls.set i ⟨cmd, phase⟩) := by
  refine h.set (fun j c m _ hj => h.held j c m hj) (fun c m hc => ?_)
  cases hc
  exact absurd rfl (hidle m)

theorem DedupInv.start {es : List CallEvent} {p : Process} {i : Nat} {cmd : Command} (h : DedupInv es p)
    (env : Externals) (fuel : Nat) (cfg : Config) (hnone : p.dedup.completed.lookup cmd.id = none)
    (hnot : cmd.id ∉ p.dedup.running) :
    DedupInv (es ++ [.begin i cmd.id none]) ⟨{ p.dedup with running := insert cmd.id p.dedup.running },
      p.calls.set i ⟨cmd, .running (executeInner env fuel cfg cmd)⟩⟩ := by
  have hids : startedIds (es ++ [.begin i cmd.id none]) = startedIds es ++ [cmd.id] := startedIds_append _ _
  have hfresh : cmd.id ∉ startedIds es := by
    rw [h.startedIff]
    rintro (hrun | ⟨r, hr⟩)
    · exact hnot hrun
    · rw [hnone] at hr
      cases hr
  refine ⟨fun id hid => ?_, ?_, fun id => ?_, ?_, fun j id r hmem => ?_⟩
  · rcases Finset.mem_insert.1 hid with rfl | hid
    · exact hnone
    · exact h.disjoint id hid
  · rw [hids, ← List.concat_eq_append]
    exact h.startedOnce.concat hfresh
  · rw [hids, List.mem_append, List.mem_singleton, h.startedIff, Finset.mem_insert]
    tauto
  · refine h.calls.set (fun j c m _ hj => Finset.mem_insert_of_mem (h.calls.held j c m hj)) (fun c m hc => ?_)
    cases hc
    refine ⟨Finset.mem_insert_self _ _, ⟨[], executeInner_echoes env fuel cfg cmd []⟩, fun j c' m' _ hj hid => ?_⟩
    exact hnot (hid ▸ h.calls.held j c' m' hj)
  · rcases List.mem_append.1 hmem with hold | hnew
    · exact h.stored j id r hold
    · cases List.mem_singleton.1 hnew

/-- The end of the one execution of an id: its result is stored, and no other call holds the id. -/
theorem DedupInv.finish {es : List CallEvent} {p : Process} {i : Nat} {cmd : Command} {result : CommandResult}
    (h : DedupInv es p) (hat : RunningAt p.calls i cmd (.ret result)) :
    DedupInv (es ++ [.finish i cmd.id result]) ⟨dedupFinish result p.dedup, p.calls.set i ⟨cmd, .returned result⟩⟩ := by
  have hheld : cmd.id ∈ p.dedup.running := h.calls.held i cmd _ hat
  obtain ⟨_, hecho⟩ := h.calls.echoes i cmd _ hat
  have hid : result.commandId = cmd.id := hecho
  have hids : startedIds (es ++ [.finish i cmd.id result]) = startedIds es := by
    rw [startedIds_append]
    exact List.append_nil _
  have hlookup : ∀ id, (dedupFinish result p.dedup).completed.lookup id =
      if id = cmd.id then some result else p.dedup.completed.lookup id := by
    intro id
    rw [← hid]
    split
    · rename_i heq
      rw [heq]
      exact AList.lookup_insert _
    · rename_i hne
      exact AList.lookup_insert_ne hne
  have hrunning : (dedupFinish result p.dedup).running = p.dedup.running.erase cmd.id := by
    rw [← hid]
    rfl
  refine ⟨fun id hmem => ?_, hids ▸ h.startedOnce, fun id => ?_, ?_, fun j id r hmem => ?_⟩
  · rw [hrunning, Finset.mem_erase] at hmem
    rw [hlookup, if_neg hmem.1]
    exact h.disjoint id hmem.2
  · rw [hids, h.startedIff, hrunning, hlookup, Finset.mem_erase]
    by_cases heq : id = cmd.id
    · simp [heq, hheld]
    · simp [heq]
  · rw [hrunning]
    refine h.calls.set (fun j c m hne hj => Finset.mem_erase.2 ⟨fun heq => ?_, h.calls.held j c m hj⟩)
      (fun c m hc => by cases hc)
    exact hne (h.calls.alone j i c cmd m _ hj hat heq)
  · rw [hlookup]
    rcases List.mem_append.1 hmem with hold | hnew
    · have hstored := h.stored j id r hold
      rw [if_neg (fun heq => ?_), hstored]
      rw [heq, h.disjoint _ hheld] at hstored
      cases hstored
    · cases List.mem_singleton.1 hnew
      rw [if_pos rfl]

/-- **Every move keeps the invariant.** -/
theorem dedupInv_step (es : List CallEvent) (p : Process) (e : CallEvent) (p' : Process) (h : DedupInv es p)
    (hs : ProcessStep p e p') : DedupInv (es ++ [e]) p' := by
  cases hs with
  | arrive cmd => exact h.quiet rfl (fun _ _ _ => nofun) (h.calls.arrive cmd)
  | returnAtOnce at_ begun =>
    rcases dedupBegin_cases begun with ⟨r, -, -, rfl⟩ | ⟨-, -, rfl, -⟩ | ⟨-, -, hout, -⟩
    · exact h.quiet rfl (fun _ _ _ => nofun) (h.calls.set_idle (fun _ => nofun))
    · exact h.quiet rfl (fun _ _ _ => nofun) (h.calls.set_idle (fun _ => nofun))
    · cases hout
  | start env fuel cfg at_ begun =>
    rcases dedupBegin_cases begun with ⟨r, -, hout, -⟩ | ⟨-, -, -, r, hout, -⟩ | ⟨hnone, hnot, -, rfl⟩
    · cases hout
    · cases hout
    · exact h.start env fuel cfg hnone hnot
  | @answer i cmd op k at_ x =>
    obtain ⟨tr, -, hnext⟩ := h.calls.echoes i cmd _ at_
    refine h.quiet rfl (fun _ _ _ => nofun) (h.calls.set (fun j c m _ hj => h.calls.held j c m hj) (fun c m hc => ?_))
    cases hc
    refine ⟨h.calls.held i cmd _ at_, ⟨_, hnext x⟩, fun j c' m' hne hj hid => ?_⟩
    exact hne (h.calls.alone j i c' cmd m' _ hj at_ hid)
  | finish at_ => exact h.finish at_

theorem dedupInv_run {es : List CallEvent} {p : Process} (h : Steps ProcessStep {} es p) : DedupInv es p :=
  h.invariant dedupInv_init dedupInv_step

/-- A call that begins is for the id its event shows, and does what `dedup_begin` says. -/
theorem ProcessStep.begin_cases {p p' : Process} {i : Nat} {id : String} {outcome : Option CommandResult}
    (h : ProcessStep p (.begin i id outcome) p') :
    ∃ now cmd, cmd.id = id ∧ dedupBegin now cmd p.dedup = (outcome, p'.dedup) := by
  cases h with
  | returnAtOnce at_ begun => exact ⟨_, _, rfl, begun⟩
  | start env fuel cfg at_ begun => exact ⟨_, _, rfl, begun⟩

/-- **One execution for each id, under every interleaving**: the handler of an id is started at most once; running and
completed ids stay apart; a call that finds its id running is skipped and changes nothing; and after an execution has
finished, every call that begins with its id returns the result it stored. -/
theorem one_execution_per_id (es : List CallEvent) (p : Process) (hrun : Steps ProcessStep {} es p) :
    (startedIds es).Nodup ∧
    (∀ id ∈ p.dedup.running, p.dedup.completed.lookup id = none) ∧
    (∀ i id outcome p', ProcessStep p (.begin i id outcome) p' → id ∈ p.dedup.running →
      p'.dedup = p.dedup ∧ ∃ r, outcome = some r ∧ r.status = .skipped ∧ r.commandId = id) ∧
    (∀ pre i id r mid j outcome post, es = pre ++ .finish i id r :: (mid ++ .begin j id outcome :: post) →
      outcome = some r) := by
  have hinv := dedupInv_run hrun
  refine ⟨hinv.startedOnce, hinv.disjoint, fun i id outcome p' hstep hid => ?_, ?_⟩
  · obtain ⟨now, cmd, rfl, hbegin⟩ := hstep.begin_cases
    rcases dedupBegin_cases hbegin with ⟨r, hr, -, -⟩ | ⟨-, -, hsame, r, hout, hskip, hecho⟩ | ⟨-, hnot, -, -⟩
    · rw [hinv.disjoint _ hid] at hr
      cases hr
    · exact ⟨hsame, r, hout, hskip, hecho⟩
    · exact absurd hid hnot
  · intro pre i id r mid j outcome post hs
    rw [← List.cons_append, ← List.append_assoc] at hs
    -- the state in which the later call begins has the result in store
    obtain ⟨q, q', hbefore, hstep⟩ := hrun.split_at hs
    have hstored := (dedupInv_run hbefore).stored i id r (by simp)
    obtain ⟨now, cmd, rfl, hbegin⟩ := hstep.begin_cases
    rcases dedupBegin_cases hbegin with ⟨r', hr', hout, -⟩ | ⟨hnone, -⟩ | ⟨hnone, -⟩
    · rw [hstored] at hr'
      cases hr'
      exact hout
    · rw [hstored] at hnone
      cases hnone
    · rw [hstored] at hnone
      cases hnone

def unknownCommand : Command := { id := "1", kind := "reboot", spec := .null }

def unknownResult : CommandResult :=
  { commandId := "1", status := .unknown, message := some "unknown command kind: reboot", finishedAtMs := 7 }

/-- The first delivery runs to its end, the second begins after it and returns what the first one stored. -/
theorem redelivered_command_returns_stored_result :
    ∃ outcome p, Steps ProcessStep {} [.arrive unknownCommand, .arrive unknownCommand, .begin 0 "1" none, .answer 0,
      .finish 0 "1" unknownResult, .begin 1 "1" outcome] p ∧ outcome = some unknownResult := by
  have harrived : Steps ProcessStep {} [.arrive unknownCommand, .arrive unknownCommand]
      ⟨{}, [⟨unknownCommand, .waiting⟩, ⟨unknownCommand, .waiting⟩]⟩ :=
    .snoc (.snoc .refl (.arrive _ _)) (.arrive _ _)
  have hstarted := harrived.snoc (@ProcessStep.start _ 0 0 unknownCommand _ ⟨fun _ => .ok "", fun _ _ => .pending⟩ 0
    { clusterId := "c" } rfl rfl)
  have hanswered := hstarted.snoc (@ProcessStep.answer _ 0 unknownCommand .nowMs _ rfl (7 : Nat))
  have hfinished := hanswered.snoc (@ProcessStep.finish _ 0 unknownCommand unknownResult rfl)
  have hrun := hfinished.snoc (@ProcessStep.returnAtOnce _ 1 9 unknownCommand unknownResult _ rfl rfl)
  exact ⟨_, _, hrun, (one_execution_per_id _ _ hrun).2.2.2 [.arrive unknownCommand, .arrive unknownCommand,
    .begin 0 "1" none, .answer 0] 0 "1" unknownResult [] 1 _ [] rfl⟩

end Executor
end HubAgent
