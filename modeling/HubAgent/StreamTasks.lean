import HubAgent.Lib.Transition
import HubAgent.Streams
/-!
# The manager and its tasks, step by step (`tetragon.rs`)

The manager spawns a task for each stream and then enters it; a task sets the flag of the entry under its key when its
stream opens and when it ends.  Each of these takes the lock once and then, the lock given back, refreshes the readiness
flag: it reads how many entries are connected, and stores what follows.  Here every one of these is a step, and the
steps of the manager and of all tasks interleave.

An update can be lost or misplaced (`early_update_is_lost`): a task may open its stream before the manager has entered
it, and a task that was aborted may still set the flag of a successor under the same key.  `bookkeeping_truthful` says
that nothing else goes wrong: as long as no step is one of these, and none stores a count that is out of date and that
no later refresh corrects, every flag and the readiness tell the truth.
-/
namespace HubAgent
namespace Tetragon

open Transition (Steps)

/-- Where a `refresh_health` stands: before it reads the entries, or with the count that it read. -/
inductive Refresh where
  | toRead
  | toStore (connected : Nat)
  deriving DecidableEq

/-- Where a task stands in `run_stream` and `connect_and_stream`. -/
inductive TaskPhase where
  /-- At the head of the loop, where it looks at `active`. -/
  | looping
  | connecting
  /-- Before `set_stream_connected`: the stream has just been opened, or there is none (any more). -/
  | updating (connected : Bool)
  /-- In `set_stream_connected`, the flag set and the lock given back. -/
  | refreshing (connected : Bool) (refresh : Refresh)
  | streaming
  /-- After the flag is cleared, where it looks at `active` again. -/
  | ended
  | sleeping
  | stopped
  deriving DecidableEq

/-- The task holds an open event stream. -/
def TaskPhase.isOpen : TaskPhase → Bool
  | .updating connected => connected
  | .refreshing connected _ => connected
  | .streaming => true
  | _ => false

def TaskPhase.isUpdating : TaskPhase → Bool
  | .updating _ => true
  | _ => false

/-- The refresh that the task is in. -/
def TaskPhase.refresh? : TaskPhase → Option Refresh
  | .refreshing _ refresh => some refresh
  | _ => none

/-- What follows `set_stream_connected`. -/
def afterUpdate (connected : Bool) : TaskPhase := if connected then .streaming else .ended

structure StreamTask where
  key : String
  active : Bool := true
  aborted : Bool := false
  phase : TaskPhase := .looping

/-- Where the manager stands in `spawn_stream`, `register_stream`, or the removal of a stream. -/
inductive ManagerPhase where
  | idle
  /-- The task is spawned and not entered yet. -/
  | registering (key : String) (source : StreamSource) (task : Nat)
  /-- In `register_stream` or `remove_stream`, the lock given back; what was removed is stopped afterwards. -/
  | refreshing (refresh : Refresh) (removed : Option Nat)
  | stopping (task : Nat)
  | aborting (task : Nat)

namespace ManagerPhase

def refresh? : ManagerPhase → Option Refresh
  | refreshing refresh _ => some refresh
  | _ => none

/-- The task whose entry was removed, until it is aborted. -/
def removed? : ManagerPhase → Option Nat
  | refreshing _ removed => removed
  | stopping task => some task
  | aborting task => some task
  | _ => none

end ManagerPhase

structure StreamSystem where
  dependencyRequired : Bool
  streams : Streams := ∅
  tasks : List StreamTask := []
  manager : ManagerPhase := .idle
  /-- The flag of `health::set_dependency_ready`. -/
  ready : Bool

/-- What `init` leaves. -/
def initialSystem (dependencyRequired : Bool) : StreamSystem where
  dependencyRequired := dependencyRequired
  ready := !dependencyRequired

/-- Who refreshes the readiness. -/
inductive Actor where
  | manager
  | task (id : Nat)
  deriving DecidableEq

inductive TaskEvent where
  /-- It looks at `active`. -/
  | looked
  | opened
  | failed
  /-- The stream ends, or is lost. -/
  | closed
  | updated
  | woke
  /-- The abort takes effect, where the task waits or has not begun. -/
  | cancelled

inductive StreamEvent where
  | spawned (key : String) (source : StreamSource)
  | registered
  | removed (key : String)
  | stopped
  | aborted
  | task (id : Nat) (event : TaskEvent)
  | read (actor : Actor)
  | stored (actor : Actor)

namespace StreamSystem

def setTask (s : StreamSystem) (id : Nat) (f : StreamTask → StreamTask) : StreamSystem :=
  { s with tasks := s.tasks.modify id f }

def setPhase (s : StreamSystem) (id : Nat) (phase : TaskPhase) : StreamSystem :=
  s.setTask id (fun task => { task with phase })

def refreshOf (s : StreamSystem) : Actor → Option Refresh
  | .manager => s.manager.refresh?
  | .task id => (s.tasks[id]?).bind (fun task => task.phase.refresh?)

/-- The refresh of an actor has read this. -/
def hasRead (s : StreamSystem) (connected : Nat) : Actor → StreamSystem
  | .manager =>
    match s.manager with
    | .refreshing _ removed => { s with manager := .refreshing (.toStore connected) removed }
    | _ => s
  | .task id =>
    s.setTask id (fun task =>
      match task.phase with
      | .refreshing flag _ => { task with phase := .refreshing flag (.toStore connected) }
      | _ => task)

/-- The refresh of an actor is over. -/
def hasStored (s : StreamSystem) : Actor → StreamSystem
  | .manager =>
    match s.manager with
    | .refreshing _ none => { s with manager := .idle }
    | .refreshing _ (some task) => { s with manager := .stopping task }
    | _ => s
  | .task id =>
    s.setTask id (fun task =>
      match task.phase with
      | .refreshing flag _ => { task with phase := afterUpdate flag }
      | _ => task)

/-- The steps of one task, but for the refresh. -/
def taskStep (s : StreamSystem) (id : Nat) (task : StreamTask) : TaskEvent → Option StreamSystem
  | .looked =>
    match task.phase with
    | .looping => some (s.setPhase id (if task.active then .connecting else .stopped))
    | .ended => some (s.setPhase id (if task.active then .sleeping else .stopped))
    | _ => none
  | .opened =>
    match task.phase with
    | .connecting => some (s.setPhase id (.updating true))
    | _ => none
  | .failed =>
    match task.phase with
    | .connecting => some (s.setPhase id (.updating false))
    | _ => none
  | .closed =>
    match task.phase with
    | .streaming => some (s.setPhase id (.updating false))
    | _ => none
  | .updated =>
    match task.phase with
    | .updating connected =>
      -- without an entry under its key nothing is set, and nothing refreshed
      if streamExists task.key s.streams then
        some { s.setPhase id (.refreshing connected .toRead) with
          streams := (setStreamConnected task.key connected s.streams).2 }
      else some (s.setPhase id (afterUpdate connected))
    | _ => none
  | .woke =>
    match task.phase with
    | .sleeping => some (s.setPhase id .looping)
    | _ => none
  | .cancelled =>
    if task.aborted ∧ (task.phase = .looping ∨ task.phase = .connecting ∨ task.phase = .streaming ∨
        task.phase = .sleeping) then
      some (s.setPhase id .stopped)
    else none

def step (s : StreamSystem) : StreamEvent → Option StreamSystem
  | .spawned key source =>
    match s.manager with
    | .idle =>
      if streamExists key s.streams then none
      else some { s with tasks := s.tasks ++ [{ key }], manager := .registering key source s.tasks.length }
    | _ => none
  | .registered =>
    match s.manager with
    | .registering key source task =>
      some { s with
        streams := registerStream key { source, connected := false, task } s.streams
        manager := .refreshing .toRead none }
    | _ => none
  | .removed key =>
    match s.manager, removeStream key s.streams with
    | .idle, (some entry, streams) => some { s with streams, manager := .refreshing .toRead (some entry.task) }
    | _, _ => none
  | .stopped =>
    match s.manager with
    | .stopping task =>
      some { s.setTask task (fun task => { task with active := false }) with manager := .aborting task }
    | _ => none
  | .aborted =>
    match s.manager with
    | .aborting task => some { s.setTask task (fun task => { task with aborted := true }) with manager := .idle }
    | _ => none
  | .task id event => (s.tasks[id]?).bind (fun task => s.taskStep id task event)
  | .read actor =>
    match s.refreshOf actor with
    | some .toRead => some (s.hasRead (coverageSnapshot s.streams).connectedEndpoints actor)
    | _ => none
  | .stored actor =>
    match s.refreshOf actor with
    | some (.toStore connected) =>
      some { s.hasStored actor with ready := !s.dependencyRequired || decide (0 < connected) }
    | _ => none

/-! ## Truthful flags -/

/-- Nothing is under way: no task is about to set its flag, and no refresh is unfinished. -/
structure Settled (s : StreamSystem) : Prop where
  updates : ∀ task ∈ s.tasks, task.phase.isUpdating = false
  refreshes : ∀ actor, s.refreshOf actor = none

/-- **The flags tell the truth**: each entry's, whether its own task has an open stream; the readiness, whether some
entry is connected, where that is required. -/
structure Truthful (s : StreamSystem) : Prop where
  flags : ∀ key entry, s.streams.lookup key = some entry →
    ∃ task, s.tasks[entry.task]? = some task ∧ entry.connected = task.phase.isOpen
  ready : s.ready = true ↔ s.dependencyRequired = false ∨
    ∃ key entry, s.streams.lookup key = some entry ∧ entry.connected = true

/-- A refresh that will store what is right now: it has not read, or has read it. -/
def IsFresh (s : StreamSystem) : Refresh → Prop
  | .toRead => True
  | .toStore connected => 0 < connected ↔ 0 < connectedEndpoints s.streams

/-- **The steps that do no harm.**  A task sets the flag of no entry of another task, unless to what it is, and not to
`true` before it is entered itself; and a count that is out of date is stored only while another refresh will correct
it. -/
def Orderly (s : StreamSystem) : StreamEvent → Prop
  | .task id .updated => ∀ task connected, s.tasks[id]? = some task → task.phase = .updating connected →
      (∀ entry, s.streams.lookup task.key = some entry → entry.task = id ∨ entry.connected = connected) ∧
      (connected = true → ∀ key source, s.manager ≠ .registering key source id)
  | .stored actor => ∀ refresh, s.refreshOf actor = some refresh →
      s.IsFresh refresh ∨ ∃ other refresh', other ≠ actor ∧ s.refreshOf other = some refresh' ∧ s.IsFresh refresh'
  | _ => True

/-! ## What the steps do -/

variable {s s' : StreamSystem} {id : Nat} {task : StreamTask} {key : String} {entry : StreamEntry}

/-- A change of phase that neither sets a flag nor refreshes: the stream is as open as before, or its flag is to be
set, or no entry is left to say so. -/
structure Quiet (task : StreamTask) (phase : TaskPhase) : Prop where
  notUpdating : task.phase.isUpdating = false
  refresh : phase.refresh? = task.phase.refresh?
  isOpen : phase.isUpdating = true ∨ phase.isOpen = task.phase.isOpen ∨ task.aborted = true

theorem quiet_of {phase phase' : TaskPhase} (hphase : task.phase = phase) (hupdating : phase.isUpdating = false)
    (hrefresh : phase'.refresh? = phase.refresh?) (hopen : phase'.isUpdating = true ∨ phase'.isOpen = phase.isOpen) :
    Quiet task phase' := by
  subst hphase
  exact ⟨hupdating, hrefresh, hopen.elim .inl (fun h => .inr (.inl h))⟩

/-- **What a task can do**: a quiet change of phase, or setting its flag. -/
theorem taskStep_cases {event : TaskEvent} (h : s.taskStep id task event = some s') :
    (∃ phase, s' = s.setPhase id phase ∧ Quiet task phase) ∨
    ∃ connected, event = .updated ∧ task.phase = .updating connected ∧
      (s.streams.lookup task.key = none ∧ s' = s.setPhase id (afterUpdate connected) ∨
        ∃ entry, s.streams.lookup task.key = some entry ∧
          s' = { s.setPhase id (.refreshing connected .toRead) with
            streams := s.streams.insert task.key { entry with connected } }) := by
  cases event with
  | looked =>
    simp only [taskStep] at h
    split at h
    · rename_i hphase
      cases h
      refine .inl ⟨_, rfl, quiet_of hphase rfl ?_ ?_⟩ <;> split_ifs <;> decide
    · rename_i hphase
      cases h
      refine .inl ⟨_, rfl, quiet_of hphase rfl ?_ ?_⟩ <;> split_ifs <;> decide
    · cases h
  | opened =>
    simp only [taskStep] at h
    split at h
    · rename_i hphase
      cases h
      exact .inl ⟨_, rfl, quiet_of hphase rfl rfl (.inl rfl)⟩
    · cases h
  | failed =>
    simp only [taskStep] at h
    split at h
    · rename_i hphase
      cases h
      exact .inl ⟨_, rfl, quiet_of hphase rfl rfl (.inl rfl)⟩
    · cases h
  | closed =>
    simp only [taskStep] at h
    split at h
    · rename_i hphase
      cases h
      exact .inl ⟨_, rfl, quiet_of hphase rfl rfl (.inl rfl)⟩
    · cases h
  | updated =>
    simp only [taskStep] at h
    split at h
    · rename_i connected hphase
      refine .inr ⟨connected, rfl, hphase, ?_⟩
      cases hlookup : s.streams.lookup task.key with
      | none =>
        have habsent : ¬ streamExists task.key s.streams = true := by
          rw [streamExists, decide_eq_true_iff, ← AList.lookup_isSome, hlookup]
          simp
        rw [if_neg habsent] at h
        exact .inl ⟨rfl, (Option.some.inj h).symm⟩
      | some entry =>
        have hexists : streamExists task.key s.streams = true := by
          rw [streamExists, decide_eq_true_iff, ← AList.lookup_isSome, hlookup]
          rfl
        rw [if_pos hexists, setStreamConnected, hlookup] at h
        exact .inr ⟨entry, rfl, (Option.some.inj h).symm⟩
    · cases h
  | woke =>
    simp only [taskStep] at h
    split at h
    · rename_i hphase
      cases h
      exact .inl ⟨_, rfl, quiet_of hphase rfl rfl (.inr rfl)⟩
    · cases h
  | cancelled =>
    simp only [taskStep] at h
    split_ifs at h with hwaits
    cases h
    obtain ⟨haborted, hphase⟩ := hwaits
    refine .inl ⟨_, rfl, ?_, ?_, .inr (.inr haborted)⟩
    · rcases hphase with hphase | hphase | hphase | hphase <;> rw [hphase] <;> rfl
    · rcases hphase with hphase | hphase | hphase | hphase <;> rw [hphase] <;> rfl

theorem lookup_of_not_exists (h : ¬ streamExists key s.streams = true) : s.streams.lookup key = none := by
  rw [streamExists, decide_eq_true_iff, ← AList.lookup_isSome] at h
  simpa using h

/-- **What a step can do.** -/
inductive Stepped (s : StreamSystem) : StreamEvent → StreamSystem → Prop
  | spawned {key : String} {source : StreamSource} (idle : s.manager = .idle) (new : s.streams.lookup key = none) :
      Stepped s (.spawned key source)
        { s with tasks := s.tasks ++ [{ key }], manager := .registering key source s.tasks.length }
  | registered {key : String} {source : StreamSource} {id : Nat} (registering : s.manager = .registering key source id) :
      Stepped s .registered
        { s with
          streams := registerStream key { source, connected := false, task := id } s.streams
          manager := .refreshing .toRead none }
  | removed {key : String} {entry : StreamEntry} (idle : s.manager = .idle)
      (found : s.streams.lookup key = some entry) : Stepped s (.removed key)
        { s with streams := s.streams.erase key, manager := .refreshing .toRead (some entry.task) }
  | stopped {id : Nat} (stopping : s.manager = .stopping id) :
      Stepped s .stopped { s.setTask id (fun task => { task with active := false }) with manager := .aborting id }
  | aborted {id : Nat} (aborting : s.manager = .aborting id) :
      Stepped s .aborted { s.setTask id (fun task => { task with aborted := true }) with manager := .idle }
  | quiet {id : Nat} {task : StreamTask} {event : TaskEvent} {phase : TaskPhase} (task_eq : s.tasks[id]? = some task)
      (quiet : Quiet task phase) : Stepped s (.task id event) (s.setPhase id phase)
  | missed {id : Nat} {task : StreamTask} {connected : Bool} (task_eq : s.tasks[id]? = some task)
      (updating : task.phase = .updating connected) (missing : s.streams.lookup task.key = none) :
      Stepped s (.task id .updated) (s.setPhase id (afterUpdate connected))
  | updated {id : Nat} {task : StreamTask} {connected : Bool} {entry : StreamEntry}
      (task_eq : s.tasks[id]? = some task) (updating : task.phase = .updating connected)
      (found : s.streams.lookup task.key = some entry) :
      Stepped s (.task id .updated) { s.setPhase id (.refreshing connected .toRead) with
        streams := s.streams.insert task.key { entry with connected } }
  | read {actor : Actor} (toRead : s.refreshOf actor = some .toRead) :
      Stepped s (.read actor) (s.hasRead (coverageSnapshot s.streams).connectedEndpoints actor)
  | stored {actor : Actor} {connected : Nat} (toStore : s.refreshOf actor = some (.toStore connected)) :
      Stepped s (.stored actor)
        { s.hasStored actor with ready := !s.dependencyRequired || decide (0 < connected) }

theorem step_cases {event : StreamEvent} (h : s.step event = some s') : s.Stepped event s' := by
  cases event with
  | spawned key source =>
    simp only [step] at h
    split at h
    · rename_i hmanager
      split_ifs at h with hexists
      cases h
      exact .spawned hmanager (lookup_of_not_exists hexists)
    · cases h
  | registered =>
    simp only [step] at h
    split at h
    · rename_i hmanager
      cases h
      exact .registered hmanager
    · cases h
  | removed key =>
    simp only [step, removeStream] at h
    cases hlookup : s.streams.lookup key with
    | none =>
      rw [hlookup] at h
      split at h
      · rename_i hremove
        cases hremove
      · cases h
    | some entry =>
      rw [hlookup] at h
      split at h
      · rename_i hmanager hremove
        cases hremove
        cases h
        exact .removed hmanager hlookup
      · cases h
  | stopped =>
    simp only [step] at h
    split at h
    · rename_i hmanager
      cases h
      exact .stopped hmanager
    · cases h
  | aborted =>
    simp only [step] at h
    split at h
    · rename_i hmanager
      cases h
      exact .aborted hmanager
    · cases h
  | task id event =>
    obtain ⟨task, htask, hstep⟩ := Option.bind_eq_some_iff.1 h
    rcases taskStep_cases hstep with ⟨phase, rfl, hquiet⟩ | ⟨connected, rfl, hphase, hupdate⟩
    · exact .quiet htask hquiet
    rcases hupdate with ⟨hnone, rfl⟩ | ⟨entry, hentry, rfl⟩
    · exact .missed htask hphase hnone
    · exact .updated htask hphase hentry
  | read actor =>
    simp only [step] at h
    split at h
    · rename_i hactor
      cases h
      exact .read hactor
    · cases h
  | stored actor =>
    simp only [step] at h
    split at h
    · rename_i hactor
      cases h
      exact .stored hactor
    · cases h

/-! ## The flags -/

/-- The task that owns a key has not been aborted, and its stream is as open as the flag says, unless the flag is about
to be set. -/
def Owns (s : StreamSystem) (key : String) (id : Nat) (connected : Bool) : Prop :=
  ∃ task, s.tasks[id]? = some task ∧ task.key = key ∧ task.aborted = false ∧
    (task.phase.isUpdating = false → connected = task.phase.isOpen)

/-- **Every entry is owned by its task**, and so is the key that is about to be entered; what was removed owns
nothing. -/
structure Bookkept (s : StreamSystem) : Prop where
  owned : ∀ key entry, s.streams.lookup key = some entry → s.Owns key entry.task entry.connected
  registering : ∀ key source id, s.manager = .registering key source id →
    s.streams.lookup key = none ∧ s.Owns key id false
  removed : ∀ id, s.manager.removed? = some id → ∀ key entry, s.streams.lookup key = some entry → entry.task ≠ id

theorem getElem?_setTask (s : StreamSystem) (id other : Nat) (f : StreamTask → StreamTask) :
    (s.setTask id f).tasks[other]? = if id = other then (s.tasks[other]?).map f else s.tasks[other]? := by
  rw [setTask, List.getElem?_modify]
  split_ifs
  · rfl
  · cases s.tasks[other]? <;> rfl

/-- What a change of one task keeps of the ownership: of other tasks all, of its own what the change keeps. -/
theorem Owns.setTask {owner : Nat} {connected : Bool} {f : StreamTask → StreamTask} (h : s.Owns key owner connected)
    (hkey : ∀ task, (f task).key = task.key)
    (hf : owner = id → ∀ task, s.tasks[id]? = some task → (f task).aborted = task.aborted ∧
      ((f task).phase.isUpdating = false → task.aborted = false →
        task.phase.isUpdating = false ∧ (f task).phase.isOpen = task.phase.isOpen)) :
    (s.setTask id f).Owns key owner connected := by
  obtain ⟨task, htask, howner, haborted, hflag⟩ := h
  by_cases hid : id = owner
  · subst hid
    obtain ⟨hsame, hopen⟩ := hf rfl task htask
    refine ⟨f task, ?_, (hkey task).trans howner, hsame.trans haborted, fun hupdating => ?_⟩
    · rw [getElem?_setTask, if_pos rfl, htask]
      rfl
    · obtain ⟨hbefore, heq⟩ := hopen hupdating haborted
      rw [heq]
      exact hflag hbefore
  · refine ⟨task, ?_, howner, haborted, hflag⟩
    rw [getElem?_setTask, if_neg hid]
    exact htask

theorem Owns.key_eq {connected : Bool} (h : s.Owns key id connected) (htask : s.tasks[id]? = some task) :
    task.key = key := by
  obtain ⟨owner, howner, hkey, -⟩ := h
  rw [htask] at howner
  cases howner
  exact hkey

theorem Owns.key_unique {other : String} {connected connected' : Bool} (h : s.Owns key id connected)
    (h' : s.Owns other id connected') : key = other := by
  obtain ⟨task, htask, hkey, -⟩ := h
  exact hkey.symm.trans (h'.key_eq htask)

theorem Bookkept.setTask {f : StreamTask → StreamTask} (h : s.Bookkept) (hkey : ∀ task, (f task).key = task.key)
    (hf : ∀ task, s.tasks[id]? = some task → (f task).aborted = task.aborted ∧
      ((f task).phase.isUpdating = false → task.aborted = false →
        task.phase.isUpdating = false ∧ (f task).phase.isOpen = task.phase.isOpen)) :
    (s.setTask id f).Bookkept where
  owned := fun key entry hentry => (h.owned key entry hentry).setTask hkey (fun _ => hf)
  registering := fun key source owner hmanager =>
    ⟨(h.registering key source owner hmanager).1,
      (h.registering key source owner hmanager).2.setTask hkey (fun _ => hf)⟩
  removed := h.removed

theorem Bookkept.quiet (h : s.Bookkept) {phase : TaskPhase} (htask : s.tasks[id]? = some task)
    (hquiet : Quiet task phase) : (s.setPhase id phase).Bookkept := by
  refine h.setTask (fun _ => rfl) (fun task' htask' => ⟨rfl, fun hupdating haborted => ?_⟩)
  rw [htask] at htask'
  cases htask'
  refine ⟨hquiet.notUpdating, ?_⟩
  rcases hquiet.isOpen with hcontra | hopen | hcontra
  · rw [hcontra] at hupdating
    cases hupdating
  · exact hopen
  · rw [hcontra] at haborted
    cases haborted

theorem Bookkept.refreshed (h : s.Bookkept) {f : StreamTask → StreamTask}
    (hf : ∀ task, f task = task ∨ ∃ flag refresh phase, task.phase = .refreshing flag refresh ∧
      f task = { task with phase } ∧ phase.isUpdating = false ∧ phase.isOpen = flag) : (s.setTask id f).Bookkept := by
  refine h.setTask (fun task => ?_) (fun task _ => ?_)
  · rcases hf task with heq | ⟨flag, refresh, phase, -, heq, -⟩ <;> rw [heq]
  · rcases hf task with heq | ⟨flag, refresh, phase, hphase, heq, -, hopen⟩
    · rw [heq]
      exact ⟨rfl, fun hupdating _ => ⟨hupdating, rfl⟩⟩
    · rw [heq, hphase]
      exact ⟨rfl, fun _ _ => ⟨rfl, hopen⟩⟩

theorem isOpen_afterUpdate (connected : Bool) :
    (afterUpdate connected).isUpdating = false ∧ (afterUpdate connected).isOpen = connected := by
  cases connected <;> exact ⟨rfl, rfl⟩

theorem Bookkept.manages (h : s.Bookkept) {phase : ManagerPhase} (henters : ∀ key source id, phase ≠ .registering key source id)
    (hremoves : ∀ id, phase.removed? = some id → s.manager.removed? = some id) :
    ({ s with manager := phase } : StreamSystem).Bookkept where
  owned := h.owned
  registering key source id heq := absurd heq (henters key source id)
  removed id heq := h.removed id (hremoves id heq)

theorem Bookkept.hasRead (h : s.Bookkept) (connected : Nat) (actor : Actor) : (s.hasRead connected actor).Bookkept := by
  cases actor with
  | manager =>
    unfold StreamSystem.hasRead
    cases hmanager : s.manager with
    | refreshing refresh removed =>
      refine h.manages (fun key source id heq => (by cases heq)) (fun id heq => ?_)
      rw [hmanager]
      exact heq
    | _ => exact h
  | task id =>
    refine h.refreshed fun task => ?_
    split
    · rename_i flag refresh hphase
      exact .inr ⟨flag, refresh, _, hphase, rfl, rfl, rfl⟩
    · exact .inl rfl

theorem Bookkept.hasStored (h : s.Bookkept) (actor : Actor) : (s.hasStored actor).Bookkept := by
  cases actor with
  | manager =>
    unfold StreamSystem.hasStored
    cases hmanager : s.manager with
    | refreshing refresh removed =>
      cases removed with
      | none => exact h.manages (fun key source id heq => (by cases heq)) (fun id heq => (by cases heq))
      | some owner =>
        refine h.manages (fun key source id heq => (by cases heq)) (fun id heq => ?_)
        rw [hmanager]
        exact heq
    | _ => exact h
  | task id =>
    refine h.refreshed fun task => ?_
    split
    · rename_i flag refresh hphase
      exact .inr ⟨flag, refresh, _, hphase, rfl, isOpen_afterUpdate flag⟩
    · exact .inl rfl

/-- An update that finds no entry: the stream it speaks of is not that of a task about to be entered. -/
theorem Bookkept.updated_none (h : s.Bookkept) {connected : Bool} (htask : s.tasks[id]? = some task)
    (hnone : s.streams.lookup task.key = none)
    (horderly : connected = true → ∀ key source, s.manager ≠ .registering key source id) :
    (s.setPhase id (afterUpdate connected)).Bookkept where
  owned := by
    intro key entry hentry
    refine (h.owned key entry hentry).setTask (fun _ => rfl) (fun hid => ?_)
    have hkey : task.key = key := (h.owned key entry hentry).key_eq (hid.symm ▸ htask)
    rw [hkey] at hnone
    exact absurd (hentry.symm.trans hnone) (by simp)
  registering := by
    intro key source owner hmanager
    obtain ⟨hlookup, howns⟩ := h.registering key source owner hmanager
    refine ⟨hlookup, ?_⟩
    by_cases hid : owner = id
    · subst hid
      obtain ⟨task', htask', hkey, haborted, -⟩ := howns
      rw [htask] at htask'
      cases htask'
      refine ⟨{ task with phase := afterUpdate connected }, ?_, hkey, haborted, fun _ => ?_⟩
      · rw [setPhase, getElem?_setTask, if_pos rfl, htask]
        rfl
      · cases connected with
        | false => rfl
        | true => exact absurd hmanager (horderly rfl key source)
    · exact howns.setTask (fun _ => rfl) (fun hcontra => absurd hcontra hid)
  removed := h.removed

/-- An update of an entry: it is the task's own, or it is left as it was. -/
theorem Bookkept.updated_some (h : s.Bookkept) {connected : Bool} (htask : s.tasks[id]? = some task)
    (hentry : s.streams.lookup task.key = some entry) (horderly : entry.task = id ∨ entry.connected = connected) :
    ({ s.setPhase id (.refreshing connected .toRead) with
      streams := s.streams.insert task.key { entry with connected } } : StreamSystem).Bookkept where
  owned := by
    intro key entry' hentry'
    by_cases hkey : key = task.key
    · subst hkey
      rw [AList.lookup_insert] at hentry'
      cases hentry'
      have howns := h.owned _ entry hentry
      by_cases hid : entry.task = id
      · obtain ⟨task', htask', hkey', haborted, -⟩ := howns
        rw [hid, htask] at htask'
        cases htask'
        refine ⟨{ task with phase := .refreshing connected .toRead }, ?_, rfl, haborted, fun _ => rfl⟩
        show (s.setPhase id _).tasks[entry.task]? = _
        rw [setPhase, getElem?_setTask, if_pos hid.symm, hid, htask]
        rfl
      · have hflag := horderly.resolve_left hid
        rw [hflag] at howns
        exact howns.setTask (fun _ => rfl) (fun hcontra => absurd hcontra hid)
    · rw [AList.lookup_insert_ne hkey] at hentry'
      have howns := h.owned key entry' hentry'
      exact Owns.setTask howns (fun _ => rfl) (fun hid => absurd (howns.key_eq (hid.symm ▸ htask)).symm hkey)
  registering := by
    intro key source owner hmanager
    obtain ⟨hlookup, howns⟩ := h.registering key source owner hmanager
    have hkey : key ≠ task.key := by
      rintro rfl
      rw [hentry] at hlookup
      cases hlookup
    refine ⟨(AList.lookup_insert_ne hkey).trans hlookup, Owns.setTask howns (fun _ => rfl) (fun hid => ?_)⟩
    exact absurd (howns.key_eq (hid.symm ▸ htask)).symm hkey
  removed := by
    intro owner hremoved key entry' hentry'
    by_cases hkey : key = task.key
    · subst hkey
      rw [AList.lookup_insert] at hentry'
      cases hentry'
      exact h.removed owner hremoved _ entry hentry
    · rw [AList.lookup_insert_ne hkey] at hentry'
      exact h.removed owner hremoved key entry' hentry'

theorem Bookkept.spawned (h : s.Bookkept) {source : StreamSource}
    (hnone : s.streams.lookup key = none) :
    ({ s with tasks := s.tasks ++ [{ key }], manager := .registering key source s.tasks.length } :
      StreamSystem).Bookkept where
  owned := by
    intro other entry hentry
    obtain ⟨task, htask, howns⟩ := h.owned other entry hentry
    exact ⟨task, (List.getElem?_append_left (List.getElem?_eq_some_iff.1 htask).1).trans htask, howns⟩
  registering := by
    intro other source' owner heq
    cases heq
    exact ⟨hnone, { key }, List.getElem?_concat_length, rfl, rfl, fun _ => rfl⟩
  removed := fun id heq => (by cases heq)

theorem Bookkept.registered (h : s.Bookkept) {source : StreamSource}
    (hmanager : s.manager = .registering key source id) :
    ({ s with
      streams := registerStream key { source, connected := false, task := id } s.streams
      manager := .refreshing .toRead none } : StreamSystem).Bookkept where
  owned := by
    intro other entry hentry
    by_cases hkey : other = key
    · subst hkey
      rw [registerStream, AList.lookup_insert] at hentry
      cases hentry
      exact (h.registering other source id hmanager).2
    · rw [registerStream, AList.lookup_insert_ne hkey] at hentry
      exact h.owned other entry hentry
  registering := fun _ _ _ heq => (by cases heq)
  removed := fun _ heq => (by cases heq)

theorem Bookkept.dropped (h : s.Bookkept) (hentry : s.streams.lookup key = some entry) :
    ({ s with streams := s.streams.erase key, manager := .refreshing .toRead (some entry.task) } :
      StreamSystem).Bookkept := by
  have hkept : ∀ other entry', (s.streams.erase key).lookup other = some entry' →
      other ≠ key ∧ s.streams.lookup other = some entry' := by
    intro other entry' h'
    by_cases hkey : other = key
    · subst hkey
      rw [AList.lookup_erase] at h'
      cases h'
    · rw [AList.lookup_erase_ne hkey] at h'
      exact ⟨hkey, h'⟩
  constructor
  · exact fun other entry' h' => h.owned other entry' (hkept other entry' h').2
  · exact fun _ _ _ heq => (by cases heq)
  · intro owner heq other entry' h'
    cases heq
    obtain ⟨hkey, hother⟩ := hkept other entry' h'
    intro hsame
    have howns := h.owned other entry' hother
    rw [hsame] at howns
    exact hkey (howns.key_unique (h.owned key entry hentry))

theorem Bookkept.stopped (h : s.Bookkept) (hmanager : s.manager = .stopping id) :
    ({ s.setTask id (fun task => { task with active := false }) with manager := .aborting id } :
      StreamSystem).Bookkept := by
  have hset : (s.setTask id (fun task => { task with active := false })).Bookkept :=
    h.setTask (fun _ => rfl) (fun _ _ => ⟨rfl, fun hupdating _ => ⟨hupdating, rfl⟩⟩)
  refine ⟨hset.owned, fun _ _ _ heq => (by cases heq), fun owner heq => ?_⟩
  cases heq
  exact h.removed id (by rw [hmanager]; rfl)

theorem Bookkept.aborted (h : s.Bookkept) (hmanager : s.manager = .aborting id) :
    ({ s.setTask id (fun task => { task with aborted := true }) with manager := .idle } : StreamSystem).Bookkept where
  owned := by
    intro other entry' hentry'
    exact (h.owned other entry' hentry').setTask (fun _ => rfl) (fun hcontra =>
      absurd hcontra (h.removed id (by rw [hmanager]; rfl) other entry' hentry'))
  registering := fun _ _ _ heq => (by cases heq)
  removed := fun _ heq => (by cases heq)

/-- **Every orderly step keeps the ownership.** -/
theorem Bookkept.step {event : StreamEvent} (h : s.Bookkept) (horderly : s.Orderly event)
    (hstep : s.step event = some s') : s'.Bookkept := by
  cases step_cases hstep with
  | spawned _ hnew => exact h.spawned hnew
  | registered hmanager => exact h.registered hmanager
  | removed _ hentry => exact h.dropped hentry
  | stopped hmanager => exact h.stopped hmanager
  | aborted hmanager => exact h.aborted hmanager
  | quiet htask hquiet => exact h.quiet htask hquiet
  | missed htask hphase hnone => exact h.updated_none htask hnone (horderly _ _ htask hphase).2
  | updated htask hphase hentry => exact h.updated_some htask hentry ((horderly _ _ htask hphase).1 _ hentry)
  | read => exact h.hasRead _ _
  | @stored actor =>
    have hstored := h.hasStored actor
    exact ⟨hstored.owned, hstored.registering, hstored.removed⟩

/-! ## The readiness -/

/-- What the readiness should be. -/
def readyNow (s : StreamSystem) : Bool := !s.dependencyRequired || decide (0 < connectedEndpoints s.streams)

/-- **The readiness is right, or a refresh is under way that will put it right.** -/
def ReadyOrPending (s : StreamSystem) : Prop :=
  s.ready = s.readyNow ∨ ∃ actor refresh, s.refreshOf actor = some refresh ∧ s.IsFresh refresh

theorem refreshOf_task (s : StreamSystem) (id other : Nat) (f : StreamTask → StreamTask) :
    (s.setTask id f).refreshOf (.task other) =
      if id = other then (s.tasks[other]?).bind (fun task => (f task).phase.refresh?)
      else s.refreshOf (.task other) := by
  unfold refreshOf
  dsimp only
  rw [getElem?_setTask]
  split_ifs
  · cases s.tasks[other]? <;> rfl
  · rfl

theorem refreshOf_setTask (f : StreamTask → StreamTask)
    (hf : ∀ task, s.tasks[id]? = some task → (f task).phase.refresh? = task.phase.refresh?) (actor : Actor) :
    (s.setTask id f).refreshOf actor = s.refreshOf actor := by
  cases actor with
  | manager => rfl
  | task other =>
    rw [refreshOf_task]
    split_ifs with hid
    · subst hid
      show _ = (s.tasks[id]?).bind (fun task => task.phase.refresh?)
      cases htask : s.tasks[id]? with
      | none => rfl
      | some task => exact hf task htask
    · rfl

theorem ReadyOrPending.of_same (h : s.ReadyOrPending) (hstreams : s'.streams = s.streams) (hready : s'.ready = s.ready)
    (hrequired : s'.dependencyRequired = s.dependencyRequired)
    (hrefresh : ∀ actor, s'.refreshOf actor = s.refreshOf actor) : s'.ReadyOrPending := by
  have hnow : s'.readyNow = s.readyNow := by rw [readyNow, readyNow, hstreams, hrequired]
  have hfresh : ∀ refresh, s.IsFresh refresh → s'.IsFresh refresh := by
    intro refresh h
    cases refresh with
    | toRead => trivial
    | toStore connected =>
      show 0 < connected ↔ 0 < connectedEndpoints s'.streams
      rw [hstreams]
      exact h
  rcases h with hright | ⟨actor, refresh, hactor, hfr⟩
  · exact .inl (by rw [hready, hnow, hright])
  · exact .inr ⟨actor, refresh, by rw [hrefresh, hactor], hfresh refresh hfr⟩

theorem refreshOf_hasRead {refresh : Refresh} {actor : Actor} (h : s.refreshOf actor = some refresh) (connected : Nat) :
    (s.hasRead connected actor).refreshOf actor = some (.toStore connected) ∧
      (s.hasRead connected actor).streams = s.streams := by
  cases actor with
  | manager =>
    unfold hasRead
    cases hmanager : s.manager with
    | refreshing refresh removed => exact ⟨rfl, rfl⟩
    | _ =>
      rw [refreshOf, hmanager] at h
      cases h
  | task id =>
    refine ⟨?_, rfl⟩
    obtain ⟨task, htask, hrefresh⟩ := Option.bind_eq_some_iff.1 h
    rw [hasRead, refreshOf_task, if_pos rfl, htask, Option.bind_some]
    cases hphase : task.phase with
    | refreshing flag refresh => rfl
    | _ =>
      rw [hphase] at hrefresh
      cases hrefresh

theorem refreshOf_hasStored {actor other : Actor} (hne : other ≠ actor) :
    (s.hasStored actor).refreshOf other = s.refreshOf other := by
  cases actor with
  | manager =>
    unfold hasStored
    cases other with
    | manager => exact absurd rfl hne
    | task id =>
      cases s.manager with
      | refreshing refresh removed => cases removed <;> rfl
      | _ => rfl
  | task id =>
    cases other with
    | manager => rfl
    | task other =>
      rw [hasStored, refreshOf_task, if_neg]
      rintro rfl
      exact hne rfl

theorem hasStored_streams (s : StreamSystem) (actor : Actor) : (s.hasStored actor).streams = s.streams ∧
    (s.hasStored actor).dependencyRequired = s.dependencyRequired := by
  cases actor with
  | manager =>
    unfold hasStored
    cases s.manager with
    | refreshing refresh removed => cases removed <;> exact ⟨rfl, rfl⟩
    | _ => exact ⟨rfl, rfl⟩
  | task id => exact ⟨rfl, rfl⟩

/-- A step of the manager that leaves the entries to be, and has no refresh before or after. -/
theorem ReadyOrPending.marked (h : s.ReadyOrPending) {manager : ManagerPhase} {f : StreamTask → StreamTask}
    (hbefore : s.manager.refresh? = none) (hafter : manager.refresh? = none)
    (hf : ∀ task, (f task).phase.refresh? = task.phase.refresh?) :
    ({ s.setTask id f with manager } : StreamSystem).ReadyOrPending := by
  refine h.of_same rfl rfl rfl (fun actor => ?_)
  cases actor with
  | manager => exact hafter.trans hbefore.symm
  | task other => exact refreshOf_setTask f (fun task _ => hf task) (.task other)

theorem ReadyOrPending.spawned (h : s.ReadyOrPending) {source : StreamSource} (hmanager : s.manager = .idle) :
    ({ s with tasks := s.tasks ++ [{ key }], manager := .registering key source s.tasks.length } :
      StreamSystem).ReadyOrPending := by
  refine h.of_same rfl rfl rfl (fun actor => ?_)
  cases actor with
  | manager =>
    rw [refreshOf, refreshOf, hmanager]
    rfl
  | task id =>
    simp only [refreshOf, List.getElem?_append, List.getElem?_singleton]
    split_ifs with hlt hnew
    · rfl
    · rw [List.getElem?_eq_none (by omega)]
      rfl
    · rw [List.getElem?_eq_none (by omega)]

theorem ReadyOrPending.phase (h : s.ReadyOrPending) {phase : TaskPhase} (htask : s.tasks[id]? = some task)
    (hphase : phase.refresh? = task.phase.refresh?) : (s.setPhase id phase).ReadyOrPending := by
  refine h.of_same rfl rfl rfl (refreshOf_setTask _ (fun task' htask' => ?_))
  rw [htask] at htask'
  cases htask'
  exact hphase

/-- **Every orderly step keeps the readiness right, or about to be.** -/
theorem ReadyOrPending.step {event : StreamEvent} (h : s.ReadyOrPending) (horderly : s.Orderly event)
    (hstep : s.step event = some s') : s'.ReadyOrPending := by
  cases step_cases hstep with
  | spawned hmanager _ => exact h.spawned hmanager
  | registered => exact .inr ⟨.manager, .toRead, rfl, trivial⟩
  | removed => exact .inr ⟨.manager, .toRead, rfl, trivial⟩
  | stopped hmanager => exact h.marked (by rw [hmanager]; rfl) rfl (fun _ => rfl)
  | aborted hmanager => exact h.marked (by rw [hmanager]; rfl) rfl (fun _ => rfl)
  | quiet htask hquiet => exact h.phase htask hquiet.refresh
  | @missed id task connected htask hphase _ =>
    refine h.phase htask ?_
    rw [hphase]
    cases connected <;> rfl
  | @updated id task connected entry htask _ _ =>
    refine .inr ⟨.task id, .toRead, ?_, trivial⟩
    show (s.setPhase id _).refreshOf (.task id) = _
    rw [setPhase, refreshOf_task, if_pos rfl, htask]
    rfl
  | @read actor hactor =>
    obtain ⟨hread, hstreams⟩ := refreshOf_hasRead hactor (coverageSnapshot s.streams).connectedEndpoints
    refine .inr ⟨actor, _, hread, ?_⟩
    show 0 < _ ↔ 0 < connectedEndpoints _
    rw [hstreams]
    rfl
  | @stored actor connected hactor =>
    obtain ⟨hstreams, hrequired⟩ := hasStored_streams s actor
    rcases horderly _ hactor with hfresh | ⟨other, refresh, hne, hother, hfresh⟩
    · refine .inl ?_
      have hcount : decide (0 < connected) = decide (0 < connectedEndpoints s.streams) := decide_eq_decide.2 hfresh
      simp only [readyNow, hstreams, hrequired, hcount]
    · refine .inr ⟨other, refresh, (refreshOf_hasStored hne).trans hother, ?_⟩
      cases refresh with
      | toRead => trivial
      | toStore connected' =>
        show 0 < connected' ↔ 0 < connectedEndpoints (s.hasStored actor).streams
        rw [hstreams]
        exact hfresh

/-! ## Runs -/

theorem connectedEndpoints_pos_iff {streams : Streams} : 0 < connectedEndpoints streams ↔
    ∃ key entry, streams.lookup key = some entry ∧ entry.connected = true := by
  rw [connectedEndpoints, List.length_pos_iff_exists_mem]
  constructor
  · rintro ⟨⟨key, entry⟩, hmem⟩
    obtain ⟨hmem, hconnected⟩ := List.mem_filter.1 hmem
    exact ⟨key, entry, AList.mem_lookup_iff.2 hmem, hconnected⟩
  · rintro ⟨key, entry, hlookup, hconnected⟩
    exact ⟨⟨key, entry⟩, List.mem_filter.2 ⟨AList.mem_lookup_iff.1 hlookup, hconnected⟩⟩

/-- A step, as a relation. -/
def Moves (s : StreamSystem) (event : StreamEvent) (s' : StreamSystem) : Prop := s.step event = some s'

/-- An orderly step. -/
def OrderlyMoves (s : StreamSystem) (event : StreamEvent) (s' : StreamSystem) : Prop :=
  s.Orderly event ∧ s.Moves event s'

theorem bookkept_initial (dependencyRequired : Bool) : (initialSystem dependencyRequired).Bookkept where
  owned := fun key entry h => (by cases h)
  registering := fun key source id h => (by cases h)
  removed := fun id h => (by cases h)

theorem readyOrPending_initial (dependencyRequired : Bool) : (initialSystem dependencyRequired).ReadyOrPending := by
  refine .inl ?_
  cases dependencyRequired <;> rfl

/-- The invariant of an orderly run. -/
structure OrderlyInv (_ : List StreamEvent) (s : StreamSystem) : Prop where
  bookkept : s.Bookkept
  ready : s.ReadyOrPending

theorem orderlyInv_initial (dependencyRequired : Bool) : OrderlyInv [] (initialSystem dependencyRequired) :=
  ⟨bookkept_initial dependencyRequired, readyOrPending_initial dependencyRequired⟩

theorem orderlyInv_step (events : List StreamEvent) (s : StreamSystem) (event : StreamEvent) (s' : StreamSystem)
    (h : OrderlyInv events s) (hstep : OrderlyMoves s event s') : OrderlyInv (events ++ [event]) s' :=
  ⟨h.bookkept.step hstep.1 hstep.2, h.ready.step hstep.1 hstep.2⟩

/-- **The bookkeeping of an orderly run is truthful** whenever nothing is under way. -/
theorem bookkeeping_truthful (dependencyRequired : Bool) (events : List StreamEvent) (s : StreamSystem)
    (hrun : Steps OrderlyMoves (initialSystem dependencyRequired) events s) (hsettled : s.Settled) : s.Truthful := by
  obtain ⟨hbookkept, hready⟩ := hrun.invariant (orderlyInv_initial dependencyRequired) orderlyInv_step
  constructor
  · intro key entry hentry
    obtain ⟨task, htask, -, -, hflag⟩ := hbookkept.owned key entry hentry
    exact ⟨task, htask, hflag (hsettled.updates task (List.mem_of_getElem? htask))⟩
  · rcases hready with hright | ⟨actor, refresh, hactor, -⟩
    · rw [hright, readyNow, Bool.or_eq_true, Bool.not_eq_true', decide_eq_true_iff, connectedEndpoints_pos_iff]
    · rw [hsettled.refreshes actor] at hactor
      cases hactor

/-! ## Two runs -/

/-- The manager spawns a task for a pod and enters it; then the task opens its stream. -/
def entersFirst : List StreamEvent :=
  [.spawned "10.1.2.3:54321" .discovered, .registered, .read .manager, .stored .manager,
    .task 0 .looked, .task 0 .opened, .task 0 .updated, .read (.task 0), .stored (.task 0)]

/-- The same, but that the task opens its stream before the manager enters it. -/
def entersLast : List StreamEvent :=
  [.spawned "10.1.2.3:54321" .discovered, .task 0 .looked, .task 0 .opened, .task 0 .updated,
    .registered, .read .manager, .stored .manager]

def oneStream (connected : Bool) : StreamSystem where
  dependencyRequired := true
  streams := (∅ : Streams).insert "10.1.2.3:54321" { source := .discovered, connected, task := 0 }
  tasks := [{ key := "10.1.2.3:54321", phase := .streaming }]
  ready := connected

theorem steps_of_run {s₀ : StreamSystem} {events : List StreamEvent} (h : events.foldlM step s₀ = some s) :
    Steps Moves s₀ events s := by
  induction events using List.reverseRecOn generalizing s with
  | nil =>
    cases h
    exact .refl
  | append_singleton events event ih =>
    rw [List.foldlM_append] at h
    obtain ⟨mid, hmid, hlast⟩ := Option.bind_eq_some_iff.1 h
    exact (ih hmid).snoc (by simpa [Moves] using hlast)

theorem settled_oneStream (connected : Bool) : (oneStream connected).Settled where
  updates := by
    intro task htask
    rw [List.mem_singleton.1 htask]
    rfl
  refreshes := by
    intro actor
    rcases actor with _ | _ | id <;> rfl

theorem orderly_entersFirst : Steps OrderlyMoves (initialSystem true) entersFirst (oneStream true) := by
  have hstart : Steps OrderlyMoves (initialSystem true) [] (initialSystem true) := .refl
  have hspawned := hstart.snoc (e := StreamEvent.spawned "10.1.2.3:54321" .discovered) ⟨trivial, rfl⟩
  have hentered := ((hspawned.snoc (e := StreamEvent.registered) ⟨trivial, rfl⟩).snoc
    (e := StreamEvent.read .manager) ⟨trivial, rfl⟩).snoc
    (e := StreamEvent.stored .manager) ⟨fun refresh h => .inl (by cases h; exact Iff.rfl), rfl⟩
  have hopened := (hentered.snoc (e := StreamEvent.task 0 .looked) ⟨trivial, rfl⟩).snoc
    (e := StreamEvent.task 0 .opened) ⟨trivial, rfl⟩
  have hupdated := hopened.snoc (e := StreamEvent.task 0 .updated) ⟨by
    intro task connected htask _
    cases htask
    exact ⟨fun entry hentry => .inl (by cases hentry; rfl), fun _ _ _ hmanager => (by cases hmanager)⟩, rfl⟩
  exact (hupdated.snoc (e := StreamEvent.read (.task 0)) ⟨trivial, rfl⟩).snoc (e := StreamEvent.stored (.task 0))
    ⟨fun refresh h => .inl (by cases h; exact Iff.rfl), rfl⟩

theorem bookkeeping_truthful_one_stream : (oneStream true).Truthful :=
  bookkeeping_truthful true entersFirst (oneStream true) orderly_entersFirst (settled_oneStream true)

theorem run_entersLast : entersLast.foldlM step (initialSystem true) = some (oneStream false) := by rfl

/-- The task's update comes before its entry and is lost: the stream is open, and nothing says so. -/
theorem early_update_is_lost :
    ¬ ∀ events s, Steps Moves (initialSystem true) events s → s.Settled → s.Truthful := by
  intro h
  have htruthful := h entersLast (oneStream false) (steps_of_run run_entersLast) (settled_oneStream false)
  obtain ⟨task, htask, hflag⟩ := htruthful.flags "10.1.2.3:54321" _ (AList.lookup_insert _)
  cases htask
  cases hflag

end StreamSystem

end Tetragon
end HubAgent
