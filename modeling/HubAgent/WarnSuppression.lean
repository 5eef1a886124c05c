import HubAgent.Kube
/-!
# Suppressed warnings (`main.rs`)

The agent keeps, under a key, when it last logged a warning and how many it has held back since.  The two status
warnings have one key each, whatever the state they report: a state is logged when its key is due, changed or not
(`state_change_warned_iff`).

Instants are nanoseconds of the process clock; a count of warnings held back stays far below 2^64.
-/
namespace HubAgent
namespace Agent

def secs (n : Nat) : Nat := n * 1000000000

def warnSuppressionWindowSecs : Nat := 60
def metricsWarnSuppressionWindowSecs : Nat := 300

structure SuppressionState where
  lastEmittedAt : Nat
  suppressedCount : Nat

/-- `WARN_SUPPRESSION`. -/
abbrev SuppressionMap := StrMap SuppressionState

/-- A line of the log: a warning, or the count of those held back before it. -/
inductive LogLine where
  | warning (message : String)
  | heldBack (warningKey : Option String) (suppressedCount windowSecs : Nat) (message : String)
  deriving DecidableEq

/-- The fields of the two statuses that their warnings read. -/
structure MetricsStatus where
  state : String
  reason : Option String
  source : String
  podMetricsCount : Nat

structure SnapshotApiStatus where
  state : String
  reason : Option String
  source : String
  volumesnapshotclassesCount : Nat
  volumesnapshotsCount : Nat

/-- The critical section that the three functions share, from the lock on. -/
def suppress (windowSecs : Nat) (key message : String) (heldBack : Nat → LogLine) (now : Nat) (map : SuppressionMap) :
    List LogLine × SuppressionMap :=
  match map.lookup key with
  | none => ([.warning message], map.insert key { lastEmittedAt := now, suppressedCount := 0 })
  | some state =>
    if now - state.lastEmittedAt ≥ secs windowSecs then
      ((if state.suppressedCount > 0 then [heldBack state.suppressedCount] else []) ++ [.warning message],
        map.insert key { lastEmittedAt := now, suppressedCount := 0 })
    else ([], map.insert key { state with suppressedCount := state.suppressedCount + 1 })

def MetricsStatus.message (status : MetricsStatus) : String :=
  match status.reason with
  | some reason => "pod-metrics unavailable: state=" ++ status.state ++ " reason=" ++ reason ++ " source=" ++
      status.source ++ " pod_metrics_count=" ++ toString status.podMetricsCount
  | none => "pod-metrics unavailable: state=" ++ status.state ++ " source=" ++ status.source ++
      " pod_metrics_count=" ++ toString status.podMetricsCount

def SnapshotApiStatus.message (status : SnapshotApiStatus) : String :=
  match status.reason with
  | some reason => "snapshot API unavailable: state=" ++ status.state ++ " reason=" ++ reason ++ " source=" ++
      status.source ++ " classes=" ++ toString status.volumesnapshotclassesCount ++ " snapshots=" ++
      toString status.volumesnapshotsCount
  | none => "snapshot API unavailable: state=" ++ status.state ++ " source=" ++ status.source ++ " classes=" ++
      toString status.volumesnapshotclassesCount ++ " snapshots=" ++ toString status.volumesnapshotsCount

def warnMetricsStatusChange (status : MetricsStatus) (now : Nat) (map : SuppressionMap) :
    List LogLine × SuppressionMap :=
  if status.state = "ok" then ([], map)
  else suppress metricsWarnSuppressionWindowSecs "metrics_status" status.message
    (fun count => .heldBack none count metricsWarnSuppressionWindowSecs "pod-metrics still unavailable") now map

def warnSnapshotApiStatusChange (status : SnapshotApiStatus) (now : Nat) (map : SuppressionMap) :
    List LogLine × SuppressionMap :=
  if status.state = "ok" then ([], map)
  else suppress metricsWarnSuppressionWindowSecs "snapshot_api_status" status.message
    (fun count => .heldBack none count metricsWarnSuppressionWindowSecs "snapshot API still unavailable") now map

def warnWithSuppression (key message : String) (now : Nat) (map : SuppressionMap) : List LogLine × SuppressionMap :=
  suppress warnSuppressionWindowSecs key message
    (fun count => .heldBack (some key) count warnSuppressionWindowSecs "suppressed similar warnings") now map

/-! ## The warnings of a process -/

/-- What the agent warns of; of an error, its text and its text with its causes. -/
inductive Warning where
  | metrics (status : MetricsStatus)
  | snapshotApi (status : SnapshotApiStatus)
  | clusterStatusCheck (error chain : String)
  | commandPoll (error chain : String)

namespace Warning

def key : Warning → String
  | metrics _ => "metrics_status"
  | snapshotApi _ => "snapshot_api_status"
  | clusterStatusCheck error _ => "cluster_status_check::" ++ error
  | commandPoll error _ => "command_poll::" ++ error

def message : Warning → String
  | metrics status => status.message
  | snapshotApi status => status.message
  | clusterStatusCheck _ chain => "cluster status check failed: " ++ chain
  | commandPoll _ chain => "command poll failed: " ++ chain

def emit : Warning → Nat → SuppressionMap → List LogLine × SuppressionMap
  | metrics status => warnMetricsStatusChange status
  | snapshotApi status => warnSnapshotApiStatusChange status
  | warning@(clusterStatusCheck _ _) => warnWithSuppression warning.key warning.message
  | warning@(commandPoll _ _) => warnWithSuppression warning.key warning.message

end Warning

/-- The two statuses whose changes are warned of. -/
inductive Status where
  | metrics
  | snapshotApi

def Status.key : Status → String
  | metrics => "metrics_status"
  | snapshotApi => "snapshot_api_status"

/-- The state that a call reports of a status. -/
def Warning.stateOf (status : Status) : Warning → Option String
  | .metrics s => match status with
    | .metrics => some s.state
    | .snapshotApi => none
  | .snapshotApi s => match status with
    | .metrics => none
    | .snapshotApi => some s.state
  | _ => none

structure Call where
  now : Nat
  warning : Warning

structure Entry where
  call : Call
  lines : List LogLine

structure Process where
  log : List Entry := []
  suppression : SuppressionMap := ∅

def Process.warn (p : Process) (call : Call) : Process where
  log := p.log ++ [⟨call, (call.warning.emit call.now p.suppression).1⟩]
  suppression := (call.warning.emit call.now p.suppression).2

def run (calls : List Call) : Process := calls.foldl Process.warn {}

/-- The call logged its own warning. -/
def Entry.Emits (entry : Entry) : Prop := .warning entry.call.warning.message ∈ entry.lines

instance (entry : Entry) : Decidable entry.Emits := inferInstanceAs (Decidable (_ ∈ _))

/-- The state that the last call about a status reported. -/
def lastState (status : Status) (calls : List Call) : Option String :=
  (calls.filterMap (fun call => call.warning.stateOf status)).getLast?

/-- When a warning about a status was last logged. -/
def lastEmission (status : Status) (log : List Entry) : Option Nat :=
  ((log.filter (fun entry => (entry.call.warning.stateOf status).isSome ∧ entry.Emits)).map
    (fun entry => entry.call.now)).getLast?

/-- **What an entry is to log**, given the entries before it: a changed state at once, and a repeated one when the
window has passed since the last emission. -/
structure Warned (status : Status) (earlier : List Entry) (entry : Entry) (state : String) : Prop where
  changed : lastState status (earlier.map Entry.call) ≠ some state → entry.Emits
  repeated : lastState status (earlier.map Entry.call) = some state →
    (entry.Emits ↔ ∃ last, lastEmission status earlier = some last ∧
      secs metricsWarnSuppressionWindowSecs ≤ entry.call.now - last)

/-- Every call about a status that is not ok is warned of as it should. -/
def ChangesWarned (status : Status) (log : List Entry) : Prop :=
  ∀ earlier entry later, log = earlier ++ entry :: later →
    ∀ state, entry.call.warning.stateOf status = some state → state ≠ "ok" → Warned status earlier entry state

/-- No warning was logged under the key within the window before. -/
def Due (windowSecs : Nat) (key : String) (now : Nat) (map : SuppressionMap) : Prop :=
  ∀ state, map.lookup key = some state → secs windowSecs ≤ now - state.lastEmittedAt

/-! ## One call -/

section OneCall

variable {windowSecs now : Nat} {key message : String} {heldBack : Nat → LogLine} {map : SuppressionMap}
  {warning : Warning} {status : Status} {state : String}

/-- **What the critical section does**: a due warning is logged and its time kept, another one is counted. -/
theorem suppress_cases (windowSecs now : Nat) (key message : String) (heldBack : Nat → LogLine) (map : SuppressionMap) :
    (Due windowSecs key now map ∧ .warning message ∈ (suppress windowSecs key message heldBack now map).1 ∧
      (suppress windowSecs key message heldBack now map).2 =
        map.insert key { lastEmittedAt := now, suppressedCount := 0 }) ∨
    (¬ Due windowSecs key now map ∧ ∃ old, map.lookup key = some old ∧
      suppress windowSecs key message heldBack now map =
        ([], map.insert key { old with suppressedCount := old.suppressedCount + 1 })) := by
  unfold suppress Due
  cases hlookup : map.lookup key with
  | none => exact .inl ⟨fun old hold => (by cases hold), List.mem_singleton_self _, rfl⟩
  | some old =>
    by_cases hdue : secs windowSecs ≤ now - old.lastEmittedAt
    · refine .inl ⟨fun old' hold => ?_, ?_, ?_⟩
      · cases hold
        exact hdue
      · simp only [if_pos (show now - old.lastEmittedAt ≥ secs windowSecs from hdue)]
        exact List.mem_append_right _ (List.mem_singleton_self _)
      · simp only [if_pos (show now - old.lastEmittedAt ≥ secs windowSecs from hdue)]
    · exact .inr ⟨fun h => hdue (h old rfl), old, rfl, if_neg hdue⟩

theorem emit_of_state (h : warning.stateOf status = some state) : ∃ heldBack, ∀ now map, warning.emit now map =
    if state = "ok" then ([], map)
    else suppress metricsWarnSuppressionWindowSecs status.key warning.message heldBack now map := by
  cases warning with
  | metrics s =>
    cases status with
    | metrics =>
      cases h
      exact ⟨_, fun now map => rfl⟩
    | snapshotApi => cases h
  | snapshotApi s =>
    cases status with
    | metrics => cases h
    | snapshotApi =>
      cases h
      exact ⟨_, fun now map => rfl⟩
  | clusterStatusCheck _ _ => cases h
  | commandPoll _ _ => cases h

theorem lookup_suppress_ne {key' : String} (hne : key' ≠ key) :
    (suppress windowSecs key message heldBack now map).2.lookup key' = map.lookup key' := by
  rcases suppress_cases windowSecs now key message heldBack map with ⟨-, -, heq⟩ | ⟨-, old, -, heq⟩
  · rw [heq, AList.lookup_insert_ne hne]
  · rw [heq, AList.lookup_insert_ne hne]

theorem ne_append_of_head {a b c : String} {x y : Char} (ha : a.toList.head? = some x) (hb : b.toList.head? = some y)
    (hne : x ≠ y) : a ≠ b ++ c := by
  intro heq
  have hhead := congrArg (fun text => text.toList.head?) heq
  simp only [String.toList_append, List.head?_append, ha, hb, Option.some_or] at hhead
  exact hne (Option.some.inj hhead)

theorem key_ne (h : warning.stateOf status = none) : status.key ≠ warning.key := by
  cases warning with
  | metrics _ =>
    cases status with
    | metrics => cases h
    | snapshotApi => exact (by decide : "snapshot_api_status" ≠ "metrics_status")
  | snapshotApi _ =>
    cases status with
    | metrics => exact (by decide : "metrics_status" ≠ "snapshot_api_status")
    | snapshotApi => cases h
  | clusterStatusCheck error _ =>
    cases status with
    | metrics => exact ne_append_of_head (x := 'm') (y := 'c') (by decide) (by decide) (by decide)
    | snapshotApi => exact ne_append_of_head (x := 's') (y := 'c') (by decide) (by decide) (by decide)
  | commandPoll error _ =>
    cases status with
    | metrics => exact ne_append_of_head (x := 'm') (y := 'c') (by decide) (by decide) (by decide)
    | snapshotApi => exact ne_append_of_head (x := 's') (y := 'c') (by decide) (by decide) (by decide)

theorem lookup_emit_other (h : warning.stateOf status = none) :
    (warning.emit now map).2.lookup status.key = map.lookup status.key := by
  have hne := key_ne h
  cases warning with
  | metrics s =>
    change (warnMetricsStatusChange s now map).2.lookup _ = _
    unfold warnMetricsStatusChange
    split_ifs
    · rfl
    · exact lookup_suppress_ne hne
  | snapshotApi s =>
    change (warnSnapshotApiStatusChange s now map).2.lookup _ = _
    unfold warnSnapshotApiStatusChange
    split_ifs
    · rfl
    · exact lookup_suppress_ne hne
  | clusterStatusCheck _ _ => exact lookup_suppress_ne hne
  | commandPoll _ _ => exact lookup_suppress_ne hne

/-- **A state that is not ok is logged exactly when its key is due.** -/
theorem emits_iff_due (h : warning.stateOf status = some state) (hok : state ≠ "ok") :
    .warning warning.message ∈ (warning.emit now map).1 ↔ Due metricsWarnSuppressionWindowSecs status.key now map := by
  obtain ⟨heldBack, hemit⟩ := emit_of_state h
  rw [hemit, if_neg hok]
  rcases suppress_cases metricsWarnSuppressionWindowSecs now status.key warning.message heldBack map with
    ⟨hdue, hmem, -⟩ | ⟨hdue, _, -, heq⟩
  · exact iff_of_true hmem hdue
  · rw [heq]
    exact iff_of_false List.not_mem_nil hdue

end OneCall

/-! ## The log and the map -/

section Runs

variable {status : Status} {p : Process} {call : Call} {calls : List Call} {entry : Entry} {log : List Entry}
  {state : String}

/-- **The map is a reading of the log**: under the key of a status stands its last emission, if it was ever not ok. -/
structure Reads (status : Status) (p : Process) : Prop where
  last : (p.suppression.lookup status.key).map (·.lastEmittedAt) = lastEmission status p.log
  seen : ∀ entry ∈ p.log, ∀ state, entry.call.warning.stateOf status = some state → state ≠ "ok" →
    (lastEmission status p.log).isSome

theorem lastEmission_concat (status : Status) (log : List Entry) (entry : Entry) :
    lastEmission status (log ++ [entry]) =
      if (entry.call.warning.stateOf status).isSome ∧ entry.Emits then some entry.call.now
      else lastEmission status log := by
  unfold lastEmission
  rw [List.filter_append, List.map_append]
  split_ifs with h
  · rw [List.filter_cons_of_pos (by simpa using h)]
    simp
  · rw [List.filter_cons_of_neg (by simpa using h)]
    simp

theorem Reads.skip (h : Reads status p) {p' : Process} (hlog : p'.log = p.log ++ [entry])
    (hquiet : ¬ ((entry.call.warning.stateOf status).isSome ∧ entry.Emits))
    (htime : (p'.suppression.lookup status.key).map (·.lastEmittedAt) =
      (p.suppression.lookup status.key).map (·.lastEmittedAt))
    (hseen : ∀ state, entry.call.warning.stateOf status = some state → state ≠ "ok" →
      (lastEmission status p.log).isSome) : Reads status p' := by
  have hlast : lastEmission status p'.log = lastEmission status p.log := by
    rw [hlog, lastEmission_concat, if_neg hquiet]
  constructor
  · rw [hlast, htime, h.last]
  · rw [hlast, hlog]
    intro entry' hmem state hstate hok
    rcases List.mem_append.1 hmem with hold | hnew
    · exact h.seen entry' hold state hstate hok
    · rw [List.mem_singleton.1 hnew] at hstate
      exact hseen state hstate hok

theorem Reads.emission {p' : Process} (hlog : p'.log = p.log ++ [entry])
    (hemits : (entry.call.warning.stateOf status).isSome ∧ entry.Emits)
    (htime : (p'.suppression.lookup status.key).map (·.lastEmittedAt) = some entry.call.now) : Reads status p' := by
  have hlast : lastEmission status p'.log = some entry.call.now := by
    rw [hlog, lastEmission_concat, if_pos hemits]
  constructor
  · rw [hlast, htime]
  · rw [hlast]
    exact fun _ _ _ _ _ => rfl

/-- **Every call keeps the reading.** -/
theorem Reads.warn (h : Reads status p) (call : Call) : Reads status (p.warn call) := by
  have hlog : (p.warn call).log = p.log ++ [⟨call, (call.warning.emit call.now p.suppression).1⟩] := rfl
  cases hstate : call.warning.stateOf status with
  | none =>
    refine h.skip hlog (fun hcon => ?_) (congrArg _ (lookup_emit_other hstate)) (fun state hsome => ?_)
    · simp [hstate] at hcon
    · rw [hstate] at hsome
      cases hsome
  | some state =>
    obtain ⟨heldBack, hemit⟩ := emit_of_state hstate
    by_cases hok : state = "ok"
    · -- nothing is logged, and the map is not looked at
      have heq : call.warning.emit call.now p.suppression = ([], p.suppression) := by rw [hemit, if_pos hok]
      refine h.skip hlog (fun hcon => ?_) (by rw [Process.warn, heq]) (fun state' hsome hne => ?_)
      · have hmem := hcon.2
        unfold Entry.Emits at hmem
        rw [heq] at hmem
        cases hmem
      · rw [hstate] at hsome
        cases hsome
        exact absurd hok hne
    · have heq := (hemit call.now p.suppression).trans (if_neg hok)
      rcases suppress_cases metricsWarnSuppressionWindowSecs call.now status.key call.warning.message heldBack
        p.suppression with ⟨-, hmem, hmap⟩ | ⟨-, old, hlookup, hheld⟩
      · refine Reads.emission hlog ⟨by rw [hstate]; rfl, ?_⟩ ?_
        · unfold Entry.Emits
          rw [heq]
          exact hmem
        · rw [Process.warn, heq, hmap, AList.lookup_insert]
          rfl
      · rw [hheld] at heq
        refine h.skip hlog (fun hcon => ?_) ?_ (fun _ _ _ => ?_)
        · have hmem := hcon.2
          unfold Entry.Emits at hmem
          rw [heq] at hmem
          cases hmem
        · rw [Process.warn, heq, AList.lookup_insert, hlookup]
          rfl
        · rw [← h.last, hlookup]
          rfl

theorem reads_run (status : Status) (calls : List Call) : Reads status (run calls) := by
  induction calls using List.reverseRecOn with
  | nil => exact ⟨rfl, fun entry h => (by cases h)⟩
  | append_singleton calls call ih =>
    rw [run, List.foldl_append]
    exact ih.warn call

theorem log_foldl (p : Process) (calls : List Call) : ∃ rest, (calls.foldl Process.warn p).log = p.log ++ rest := by
  induction calls generalizing p with
  | nil => exact ⟨[], (List.append_nil _).symm⟩
  | cons call calls ih =>
    obtain ⟨rest, hrest⟩ := ih (p.warn call)
    exact ⟨_ :: rest, by rw [List.foldl_cons, hrest, Process.warn, List.append_assoc]; rfl⟩

/-- What a call logs, after the calls before it. -/
def entryAfter (earlier : List Call) (call : Call) : Entry :=
  ⟨call, (call.warning.emit call.now (run earlier).suppression).1⟩

theorem calls_log (calls : List Call) : (run calls).log.map Entry.call = calls := by
  induction calls using List.reverseRecOn with
  | nil => rfl
  | append_singleton calls call ih =>
    rw [run, List.foldl_append]
    change ((run calls).log ++ [_]).map Entry.call = _
    rw [List.map_append, ih]
    rfl

theorem log_run (earlier later : List Call) (call : Call) :
    ∃ rest, (run (earlier ++ call :: later)).log = (run earlier).log ++ entryAfter earlier call :: rest := by
  obtain ⟨rest, hrest⟩ := log_foldl ((run earlier).warn call) later
  refine ⟨rest, ?_⟩
  rw [run, List.foldl_append, List.foldl_cons]
  exact hrest.trans (List.append_assoc _ _ _)

/-- **The entries of the log are the calls, each after those before it.** -/
theorem log_split {earlier later : List Entry} (h : (run calls).log = earlier ++ entry :: later) :
    calls = earlier.map Entry.call ++ entry.call :: later.map Entry.call ∧
      earlier = (run (earlier.map Entry.call)).log ∧ entry = entryAfter (earlier.map Entry.call) entry.call := by
  have hcalls : calls = earlier.map Entry.call ++ entry.call :: later.map Entry.call := by
    rw [← calls_log calls, h, List.map_append, List.map_cons]
  obtain ⟨rest, hrest⟩ := log_run (earlier.map Entry.call) (later.map Entry.call) entry.call
  rw [← hcalls, h] at hrest
  have hlength : earlier.length = (run (earlier.map Entry.call)).log.length := by
    have hsame := congrArg List.length (calls_log (earlier.map Entry.call))
    rwa [List.length_map, List.length_map, eq_comm] at hsame
  obtain ⟨hearlier, hentries⟩ := List.append_inj hrest hlength
  exact ⟨hcalls, hearlier, (List.cons.inj hentries).1⟩

theorem due_iff_lastEmission (status : Status) (calls : List Call) (now : Nat) :
    Due metricsWarnSuppressionWindowSecs status.key now (run calls).suppression ↔
      ∀ last, lastEmission status (run calls).log = some last → secs metricsWarnSuppressionWindowSecs ≤ now - last := by
  rw [← (reads_run status calls).last]
  constructor
  · intro hdue last hlast
    obtain ⟨old, hold, rfl⟩ := Option.map_eq_some_iff.1 hlast
    exact hdue old hold
  · exact fun h old hold => h old.lastEmittedAt (Option.map_eq_some_iff.2 ⟨old, hold, rfl⟩)

/-- A repeated state is logged exactly when the window has passed. -/
theorem repeated_warned (earlier : List Call) (hstate : call.warning.stateOf status = some state) (hok : state ≠ "ok")
    (hlast : lastState status earlier = some state) :
    (entryAfter earlier call).Emits ↔ ∃ last, lastEmission status (run earlier).log = some last ∧
      secs metricsWarnSuppressionWindowSecs ≤ call.now - last := by
  have hreads := reads_run status earlier
  refine ((emits_iff_due hstate hok).trans (due_iff_lastEmission status earlier call.now)).trans ?_
  obtain ⟨before, hbefore, hreport⟩ := List.mem_filterMap.1 (List.mem_of_getLast? hlast)
  rw [← calls_log earlier] at hbefore
  obtain ⟨entry, hentry, rfl⟩ := List.mem_map.1 hbefore
  obtain ⟨last, hemitted⟩ := Option.isSome_iff_exists.1 (hreads.seen entry hentry state hreport hok)
  constructor
  · exact fun h => ⟨last, hemitted, h last hemitted⟩
  · rintro ⟨last', hlast', hle⟩ last'' hlast''
    rw [hlast'] at hlast''
    cases hlast''
    exact hle

/-- **A changed state is warned of at once exactly when the last emission about its status is a window ago**, or there was
none. -/
theorem state_change_warned_iff (status : Status) (calls : List Call) : ChangesWarned status (run calls).log ↔
    ∀ earlier call later, calls = earlier ++ call :: later → ∀ state, call.warning.stateOf status = some state →
      state ≠ "ok" → lastState status earlier ≠ some state → ∀ last, lastEmission status (run earlier).log = some last →
      secs metricsWarnSuppressionWindowSecs ≤ call.now - last := by
  constructor
  · intro h earlier call later hcalls state hstate hok hchanged
    obtain ⟨rest, hrest⟩ := log_run earlier later call
    rw [← hcalls] at hrest
    refine (due_iff_lastEmission status earlier call.now).1 ((emits_iff_due hstate hok).1 ?_)
    refine (h _ _ _ hrest state hstate hok).changed ?_
    rwa [calls_log]
  · intro h earlier entry later hlog state hstate hok
    obtain ⟨hcalls, hearlier, hentry⟩ := log_split hlog
    constructor
    · intro hchanged
      rw [hentry]
      refine (emits_iff_due hstate hok).2 ((due_iff_lastEmission status _ _).2 ?_)
      exact h _ _ _ hcalls state hstate hok hchanged
    · intro hlast
      have hrepeated := repeated_warned _ hstate hok hlast
      rwa [← hearlier, ← hentry] at hrepeated

end Runs

def unavailableAt (now : Nat) (state reason : String) : Call :=
  ⟨secs now, .metrics { state, reason := some reason, source := "metrics.k8s.io/v1", podMetricsCount := 0 }⟩

/-- A metrics-server that is gone, and a minute later there but out of reach. -/
def missingThenForbidden : List Call :=
  [unavailableAt 0 "missing" "metrics-server not installed",
    unavailableAt 60 "forbidden" "ServiceAccount missing metrics.k8s.io RBAC"]

/-- The change within the five minutes is held back. -/
theorem missingThenForbidden_held : ¬ ChangesWarned .metrics (run missingThenForbidden).log := by
  intro h
  have hlast : lastState .metrics [unavailableAt 0 "missing" "metrics-server not installed"] ≠ some "forbidden" := by
    decide
  have hquiet : ¬ (entryAfter [unavailableAt 0 "missing" "metrics-server not installed"]
      (unavailableAt 60 "forbidden" "ServiceAccount missing metrics.k8s.io RBAC")).Emits := by decide +kernel
  exact hquiet ((h [_] _ [] rfl "forbidden" rfl (by decide)).changed hlast)

end Agent
end HubAgent
