import Mathlib.Algebra.BigOperators.Group.List.Basic
import Mathlib.Algebra.GroupWithZero.Nat
import HubAgent.WarnSuppression
/-!
# What becomes of the warnings (`main.rs`)

A warning is logged, or held back and counted, and the count is logged before the next warning under its key.  So under
every key the log and the map together account for each warning exactly once, and the warnings that are logged keep the
window between them (`warnings_accounted`).
-/
namespace HubAgent
namespace Agent

/-! ## One call -/

/-- How many warnings a line stands for. -/
def LogLine.stands : LogLine → Nat
  | warning _ => 1
  | heldBack _ suppressedCount _ _ => suppressedCount

namespace Warning

/-- A status that is ok is no warning. -/
def Raises : Warning → Prop
  | metrics status => status.state ≠ "ok"
  | snapshotApi status => status.state ≠ "ok"
  | _ => True

instance : DecidablePred Raises
  | metrics status => inferInstanceAs (Decidable (status.state ≠ "ok"))
  | snapshotApi status => inferInstanceAs (Decidable (status.state ≠ "ok"))
  | clusterStatusCheck _ _ => inferInstanceAs (Decidable True)
  | commandPoll _ _ => inferInstanceAs (Decidable True)

def windowSecs : Warning → Nat
  | metrics _ => metricsWarnSuppressionWindowSecs
  | snapshotApi _ => metricsWarnSuppressionWindowSecs
  | _ => warnSuppressionWindowSecs

def heldBack : Warning → Nat → LogLine
  | metrics _, count => .heldBack none count metricsWarnSuppressionWindowSecs "pod-metrics still unavailable"
  | snapshotApi _, count => .heldBack none count metricsWarnSuppressionWindowSecs "snapshot API still unavailable"
  | warning, count => .heldBack (some warning.key) count warnSuppressionWindowSecs "suppressed similar warnings"

end Warning

def heldNow (key : String) (map : SuppressionMap) : Nat := ((map.lookup key).map (·.suppressedCount)).getD 0

def standsFor (lines : List LogLine) : Nat := (lines.map LogLine.stands).sum

section OneCall

variable {warning : Warning} {now : Nat} {map : SuppressionMap} {key : String}

/-- **The three functions are one**, each with its own window, key and texts. -/
theorem emit_eq (warning : Warning) (now : Nat) (map : SuppressionMap) : warning.emit now map =
    if warning.Raises then suppress warning.windowSecs warning.key warning.message warning.heldBack now map
    else ([], map) := by
  cases warning with
  | metrics status =>
    change warnMetricsStatusChange status now map = if status.state ≠ "ok" then _ else _
    rw [ite_not]
    rfl
  | snapshotApi status =>
    change warnSnapshotApiStatusChange status now map = if status.state ≠ "ok" then _ else _
    rw [ite_not]
    rfl
  | clusterStatusCheck error chain => exact (if_pos trivial).symm
  | commandPoll error chain => exact (if_pos trivial).symm

@[simp] theorem stands_warning (message : String) : (LogLine.warning message).stands = 1 := rfl

@[simp] theorem stands_heldBack (warning : Warning) (count : Nat) : (warning.heldBack count).stands = count := by
  cases warning <;> rfl

theorem windowSecs_pos (warning : Warning) : 0 < secs warning.windowSecs := by
  have hpos : 0 < warning.windowSecs := by
    cases warning <;> exact Nat.succ_pos _
  exact Nat.mul_pos hpos (Nat.succ_pos _)

/-- **One warning more is accounted for**: it is logged, after what was held back before it, or it is held back. -/
theorem stands_suppress (warning : Warning) (now : Nat) (map : SuppressionMap) :
    standsFor (suppress warning.windowSecs warning.key warning.message warning.heldBack now map).1 +
      heldNow warning.key (suppress warning.windowSecs warning.key warning.message warning.heldBack now map).2 =
        heldNow warning.key map + 1 := by
  unfold suppress heldNow standsFor
  cases hlookup : map.lookup warning.key with
  | none => simp
  | some old =>
    by_cases hdue : now - old.lastEmittedAt ≥ secs warning.windowSecs
    · by_cases hheld : old.suppressedCount > 0
      · simp [hdue, hheld]
      · simp [hdue, hheld]
        omega
    · simp [hdue]

end OneCall

/-! ## A run -/

def Entry.Under (key : String) (entry : Entry) : Prop :=
  entry.call.warning.key = key ∧ entry.call.warning.Raises

instance (key : String) : DecidablePred (Entry.Under key) := fun _ => instDecidableAnd

def raised (key : String) (log : List Entry) : Nat := log.countP (fun entry => decide (entry.Under key))

/-- How many warnings the lines of the warnings under a key stand for. -/
def accounted (key : String) (log : List Entry) : Nat :=
  standsFor ((log.filter (fun entry => decide (entry.Under key))).flatMap Entry.lines)

def loggedUnder (key : String) (log : List Entry) : List Entry :=
  log.filter (fun entry => decide (entry.Under key ∧ entry.Emits))

/-- **The accounts of a key**, in the log and the map. -/
structure Accounts (key : String) (p : Process) : Prop where
  counted : raised key p.log = accounted key p.log + heldNow key p.suppression
  last : ∀ entry ∈ loggedUnder key p.log, ∃ state, p.suppression.lookup key = some state ∧
    entry.call.now ≤ state.lastEmittedAt
  paced : (loggedUnder key p.log).Pairwise (fun a b =>
    a.call.now + secs b.call.warning.windowSecs ≤ b.call.now)

section Runs

variable {key : String} {p : Process} {call : Call}

theorem accounted_concat (key : String) (log : List Entry) (entry : Entry) : accounted key (log ++ [entry]) =
    accounted key log + if entry.Under key then standsFor entry.lines else 0 := by
  unfold accounted
  by_cases h : entry.Under key
  · simp [h, standsFor]
  · simp [h]

theorem raised_concat (key : String) (log : List Entry) (entry : Entry) :
    raised key (log ++ [entry]) = raised key log + if entry.Under key then 1 else 0 := by
  unfold raised
  by_cases h : entry.Under key <;> simp [h]

theorem loggedUnder_concat (key : String) (log : List Entry) (entry : Entry) : loggedUnder key (log ++ [entry]) =
    loggedUnder key log ++ if entry.Under key ∧ entry.Emits then [entry] else [] := by
  unfold loggedUnder
  by_cases h : entry.Under key ∧ entry.Emits <;> simp [h]

theorem Accounts.skip (h : Accounts key p) {p' : Process} {entry : Entry} (hlog : p'.log = p.log ++ [entry])
    (hother : ¬ entry.Under key) (hlookup : p'.suppression.lookup key = p.suppression.lookup key) : Accounts key p' := by
  have hlogged : loggedUnder key p'.log = loggedUnder key p.log := by
    rw [hlog, loggedUnder_concat, if_neg (fun hboth => hother hboth.1), List.append_nil]
  have hheld : heldNow key p'.suppression = heldNow key p.suppression := by rw [heldNow, heldNow, hlookup]
  constructor
  · rw [hlog, raised_concat, accounted_concat, if_neg hother, if_neg hother, hheld, Nat.add_zero, Nat.add_zero]
    exact h.counted
  · rw [hlogged, hlookup]
    exact h.last
  · rw [hlogged]
    exact h.paced

/-- **Every call keeps the accounts of every key.** -/
theorem Accounts.warn (h : Accounts key p) (call : Call) : Accounts key (p.warn call) := by
  have hlog : (p.warn call).log = p.log ++ [⟨call, (call.warning.emit call.now p.suppression).1⟩] := rfl
  have hmap : (p.warn call).suppression = (call.warning.emit call.now p.suppression).2 := rfl
  have hemit := emit_eq call.warning call.now p.suppression
  by_cases hraises : call.warning.Raises
  · rw [if_pos hraises] at hemit
    rw [hemit] at hlog hmap
    by_cases hkey : call.warning.key = key
    · subst hkey
      have hunder : Entry.Under call.warning.key ⟨call, (suppress call.warning.windowSecs call.warning.key
        call.warning.message call.warning.heldBack call.now p.suppression).1⟩ := ⟨rfl, hraises⟩
      have hstands := stands_suppress call.warning call.now p.suppression
      have hcounted : raised call.warning.key (p.warn call).log = accounted call.warning.key (p.warn call).log +
          heldNow call.warning.key (p.warn call).suppression := by
        rw [hlog, hmap, raised_concat, accounted_concat, if_pos hunder, if_pos hunder, h.counted]
        dsimp only
        omega
      rcases suppress_cases call.warning.windowSecs call.now call.warning.key call.warning.message
        call.warning.heldBack p.suppression with ⟨hdue, hmem, hinsert⟩ | ⟨-, old, hold, hheld⟩
      · -- logged: no earlier one lies within the window
        have hlogged : loggedUnder call.warning.key (p.warn call).log = loggedUnder call.warning.key p.log ++
            [⟨call, (suppress call.warning.windowSecs call.warning.key call.warning.message call.warning.heldBack
              call.now p.suppression).1⟩] := by
          rw [hlog, loggedUnder_concat, if_pos ⟨hunder, hmem⟩]
        have hearlier : ∀ entry ∈ loggedUnder call.warning.key p.log,
            entry.call.now + secs call.warning.windowSecs ≤ call.now := by
          intro entry hentry
          obtain ⟨state, hstate, hle⟩ := h.last entry hentry
          have hpast := hdue state hstate
          have hpos := windowSecs_pos call.warning
          omega
        rw [hinsert] at hmap
        refine ⟨hcounted, fun entry hentry => ?_, ?_⟩
        · rw [hmap, AList.lookup_insert]
          refine ⟨_, rfl, ?_⟩
          rw [hlogged] at hentry
          rcases List.mem_append.1 hentry with hbefore | hnew
          · exact Nat.le_of_add_right_le (hearlier entry hbefore)
          · rw [List.mem_singleton.1 hnew]
        · rw [hlogged, List.pairwise_append]
          refine ⟨h.paced, List.pairwise_singleton _ _, fun a ha b hb => ?_⟩
          rw [List.mem_singleton.1 hb]
          exact hearlier a ha
      · -- held back
        rw [hheld] at hlog hmap
        have hlogged : loggedUnder call.warning.key (p.warn call).log = loggedUnder call.warning.key p.log := by
          rw [hlog, loggedUnder_concat, if_neg (fun hboth => List.not_mem_nil hboth.2), List.append_nil]
        refine ⟨hcounted, fun entry hentry => ?_, hlogged ▸ h.paced⟩
        rw [hlogged] at hentry
        obtain ⟨state, hstate, hle⟩ := h.last entry hentry
        obtain rfl : old = state := Option.some.inj (hold.symm.trans hstate)
        rw [hmap, AList.lookup_insert]
        exact ⟨_, rfl, hle⟩
    · refine h.skip hlog (fun hunder => hkey hunder.1) ?_
      rw [hmap]
      exact lookup_suppress_ne (Ne.symm hkey)
  · rw [if_neg hraises] at hemit
    rw [hemit] at hlog hmap
    exact h.skip hlog (fun hunder => hraises hunder.2) (by rw [hmap])

/-- **Every warning is accounted for, once.**  Over every sequence of calls, of any warnings and at any times, and for
every key: the warnings raised under it are those that the log stands for, each line with a warning for itself and each
count for as many as it says, and those that the map still holds.  And of the warnings that were logged under the key,
each came no sooner than its window after every one before it. -/
theorem warnings_accounted (calls : List Call) (key : String) :
    raised key (run calls).log = accounted key (run calls).log + heldNow key (run calls).suppression ∧
      (loggedUnder key (run calls).log).Pairwise (fun a b =>
        a.call.now + secs b.call.warning.windowSecs ≤ b.call.now) := by
  have haccounts : Accounts key (run calls) := by
    induction calls using List.reverseRecOn with
    | nil => exact ⟨rfl, fun _ h => (by cases h), List.Pairwise.nil⟩
    | append_singleton calls call ih =>
      rw [run, List.foldl_append]
      exact ih.warn call
  exact ⟨haccounts.counted, haccounts.paced⟩

end Runs

end Agent
end HubAgent
