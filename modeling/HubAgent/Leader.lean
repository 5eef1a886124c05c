import Mathlib.Data.List.Basic
import Mathlib.Data.List.Induction
import HubAgent.Config
/-!
# Leader election (`leader.rs`)

`run_leader_loop` as the attempts it makes on the Lease, each with the time at which it returned, in nanoseconds.  An
attempt that fails leaves the flag as it is: the source argues that a lease that is held is still valid until its ttl.
The loop does not read a clock, so nothing ends that argument when the ttl is over (`bounded_iff_failuresWithinTtl`).
-/
namespace HubAgent
namespace Leader

inductive LeaseLockResult where
  | acquired
  | notAcquired
deriving DecidableEq

structure LeaderState where
  isLeader : Bool := false
  /-- The metric `IS_LEADER`. -/
  gauge : Int := 0

def LeaderState.set (state : LeaderState) (value : Bool) : LeaderState :=
  { isLeader := value, gauge := if state.isLeader ≠ value then (if value then 1 else 0) else state.gauge }

/-- One `try_acquire_or_renew`: when it returned, and what. -/
structure Attempt where
  time : Nat
  outcome : Except String LeaseLockResult

def Attempt.Acquired (a : Attempt) : Prop := a.outcome = .ok .acquired

def Attempt.Failed (a : Attempt) : Prop := ∃ e, a.outcome = .error e

/-- One turn of the loop: the state after the attempt, and how long the loop sleeps before the next one. -/
def turn (leaseTtl : Duration) (state : LeaderState) (a : Attempt) : LeaderState × Nat :=
  match a.outcome with
  | .ok result => (state.set (decide (result = .acquired)), leaseTtl.asNanos / 3)
  | .error _ => (state, 2 * 1000000000)

/-- **`run_leader_loop`**, after the attempts it has made. -/
def runLeaderLoop (leaseTtl : Duration) (attempts : List Attempt) : LeaderState :=
  attempts.foldl (fun state a => (turn leaseTtl state a).1) {}

/-- Each attempt returns no earlier than the one before it and the sleep between them, whatever the state. -/
def Paced (leaseTtl : Duration) (attempts : List Attempt) : Prop :=
  attempts.IsChain (fun a b => a.time + (turn leaseTtl {} a).2 ≤ b.time)

/-- A run: its attempts return in the order in which they were made. -/
structure Run where
  attempts : List Attempt
  ordered : attempts.Pairwise (fun a b => a.time ≤ b.time)

/-- When the lease was last acquired or renewed. -/
def renewedAt (attempts : List Attempt) : Option Nat :=
  (attempts.reverse.find? (fun a => a.outcome matches .ok .acquired)).map (·.time)

/-! ## One turn and a whole run -/

theorem isLeader_concat (leaseTtl : Duration) (attempts : List Attempt) (a : Attempt) :
    (runLeaderLoop leaseTtl (attempts ++ [a])).isLeader = true ↔
      a.Acquired ∨ a.Failed ∧ (runLeaderLoop leaseTtl attempts).isLeader = true := by
  unfold runLeaderLoop
  rw [List.foldl_append, List.foldl_cons, List.foldl_nil]
  generalize attempts.foldl (fun state a => (turn leaseTtl state a).1) {} = state
  unfold turn Attempt.Acquired Attempt.Failed
  cases a.outcome with
  | error e => simp
  | ok result => cases result <;> simp [LeaderState.set]

/-- **The flag is set exactly when the last attempt that did not fail acquired the lease.** -/
theorem isLeader_iff (leaseTtl : Duration) (attempts : List Attempt) :
    (runLeaderLoop leaseTtl attempts).isLeader = true ↔
      ∃ before a failures, attempts = before ++ a :: failures ∧ a.Acquired ∧ ∀ e ∈ failures, e.Failed := by
  induction attempts using List.reverseRecOn with
  | nil => simp [runLeaderLoop]
  | append_singleton attempts last ih =>
    rw [isLeader_concat, ih]
    constructor
    · rintro (hacq | ⟨hfail, before, a, failures, rfl, hacq, hall⟩)
      · exact ⟨attempts, last, [], rfl, hacq, by simp⟩
      · refine ⟨before, a, failures ++ [last], by simp, hacq, ?_⟩
        intro e he
        rcases List.mem_append.1 he with he | he
        · exact hall e he
        · rw [List.mem_singleton.1 he]
          exact hfail
    · rintro ⟨before, a, failures, heq, hacq, hall⟩
      rcases List.eq_nil_or_concat' failures with rfl | ⟨failures', e, rfl⟩
      · left
        have hlast := (List.append_inj' heq rfl).2
        simp only [List.cons.injEq, and_true] at hlast
        rw [hlast]
        exact hacq
      · right
        have heq' : attempts ++ [last] = (before ++ a :: failures') ++ [e] := by simpa using heq
        obtain ⟨hinit, hlast⟩ := List.append_inj' heq' rfl
        simp only [List.cons.injEq, and_true] at hlast
        have hmem : ∀ x ∈ failures', x.Failed := fun x hx => hall x (by simp [hx])
        refine ⟨?_, before, a, failures', hinit, hacq, hmem⟩
        rw [hlast]
        exact hall e (by simp)

theorem renewedAt_of_failures {before failures : List Attempt} {a : Attempt} (ha : a.Acquired)
    (hf : ∀ e ∈ failures, e.Failed) : renewedAt (before ++ a :: failures) = some a.time := by
  have hnone : failures.reverse.find? (fun a => a.outcome matches .ok .acquired) = none := by
    rw [List.find?_eq_none]
    intro e he
    obtain ⟨m, hm⟩ := hf e (List.mem_reverse.1 he)
    simp [hm]
  unfold renewedAt
  rw [List.reverse_append, List.reverse_cons, List.find?_append, List.find?_append, hnone]
  rw [Attempt.Acquired] at ha
  simp [ha]

/-! ## The bound of the lease -/

/-- **Leadership is bounded by the lease**: at every moment `t` of the run at which the flag is set, the lease was last
renewed no longer ago than its ttl and the retry step under way, which began when the last attempt returned. -/
def Bounded (leaseTtl : Duration) (run : Run) : Prop :=
  ∀ made later t, run.attempts = made ++ later → (∀ a ∈ made, a.time ≤ t) → (∀ a ∈ later, t ≤ a.time) →
    (runLeaderLoop leaseTtl made).isLeader = true →
      ∃ renewed last, renewedAt made = some renewed ∧ made.getLast? = some last ∧
        t ≤ renewed + leaseTtl.asNanos + (t - last.time)

/-- No attempt that follows an acquiring one through failures only returns later than the ttl after it. -/
def FailuresWithinTtl (leaseTtl : Duration) (run : Run) : Prop :=
  ∀ before a failures rest, run.attempts = before ++ a :: (failures ++ rest) → a.Acquired →
    (∀ e ∈ failures, e.Failed) → ∀ e ∈ failures, e.time ≤ a.time + leaseTtl.asNanos

theorem Run.le_last {run : Run} {made later : List Attempt} {last : Attempt}
    (heq : run.attempts = made ++ [last] ++ later) : ∀ a ∈ made ++ [last], a.time ≤ last.time := by
  have hord := run.ordered
  rw [heq, List.pairwise_append, List.pairwise_append] at hord
  intro a ha
  rcases List.mem_append.1 ha with ha | ha
  · exact hord.1.2.2 a ha last (by simp)
  · rw [List.mem_singleton] at ha
    exact Nat.le_of_eq (congrArg Attempt.time ha)

/-- A streak of failures after an acquiring attempt: the flag is still set when its last one has returned, which is
within the ttl if the loop is bounded. -/
theorem Bounded.streak {leaseTtl : Duration} {run : Run} (hb : Bounded leaseTtl run)
    {before failures later : List Attempt} {a last : Attempt}
    (heq : run.attempts = before ++ a :: failures ++ [last] ++ later) (ha : a.Acquired)
    (hf : ∀ e ∈ failures ++ [last], e.Failed) : last.time ≤ a.time + leaseTtl.asNanos := by
  have hmade : before ++ a :: failures ++ [last] = before ++ a :: (failures ++ [last]) := by simp
  have hflag : (runLeaderLoop leaseTtl (before ++ a :: failures ++ [last])).isLeader = true :=
    (isLeader_iff _ _).2 ⟨before, a, failures ++ [last], hmade, ha, hf⟩
  have hlater : ∀ e ∈ later, last.time ≤ e.time := by
    intro e he
    have hord := run.ordered
    rw [heq, List.pairwise_append] at hord
    exact hord.2.2 last (by simp) e he
  obtain ⟨renewed, last', hr, hl, ht⟩ := hb _ _ last.time heq (Run.le_last heq) hlater hflag
  rw [hmade, renewedAt_of_failures ha hf] at hr
  rw [List.getLast?_concat] at hl
  cases hr
  cases hl
  omega

/-- **The loop keeps within the lease exactly when its failures do.**  Nothing but an attempt that returns clears the
flag, so a streak of failures keeps it for as long as the streak lasts. -/
theorem bounded_iff_failuresWithinTtl (leaseTtl : Duration) (run : Run) :
    Bounded leaseTtl run ↔ FailuresWithinTtl leaseTtl run := by
  constructor
  · intro hb before a failures rest heq ha hf e he
    obtain ⟨pre, post, rfl⟩ := List.append_of_mem he
    have hsplit : run.attempts = before ++ a :: pre ++ [e] ++ (post ++ rest) := by
      rw [heq]
      simp
    apply hb.streak hsplit ha
    intro x hx
    apply hf
    simp only [List.mem_append, List.mem_cons] at hx ⊢
    tauto
  · intro hc made later t heq hmade _ hflag
    obtain ⟨before, a, failures, rfl, ha, hf⟩ := (isLeader_iff _ _).1 hflag
    have hr : renewedAt (before ++ a :: failures) = some a.time := renewedAt_of_failures ha hf
    rcases List.eq_nil_or_concat' failures with rfl | ⟨failures', e, rfl⟩
    · refine ⟨a.time, a, hr, List.getLast?_concat, ?_⟩
      omega
    · have hlast : (before ++ a :: (failures' ++ [e])).getLast? = some e := by
        rw [← List.cons_append, ← List.append_assoc, List.getLast?_concat]
      have hwithin : e.time ≤ a.time + leaseTtl.asNanos :=
        hc before a (failures' ++ [e]) later (by rw [heq]; simp) ha hf e (by simp)
      have hpast : e.time ≤ t := hmade e (by simp)
      refine ⟨a.time, e, hr, hlast, ?_⟩
      omega

/-- The default ttl; the lease is acquired once, and every later attempt fails. -/
def outage : Run where
  attempts := ⟨0, .ok .acquired⟩ :: [20, 30, 40, 50].map (fun secs => ⟨secs * 1000000000, .error "connection refused"⟩)
  ordered := by simp

/-- An outage of twenty seconds past the ttl, at the loop's own pace: the pod still reports itself leader. -/
theorem outage_not_bounded :
    Paced ⟨30, 0, by decide, by decide⟩ outage.attempts ∧ ¬ Bounded ⟨30, 0, by decide, by decide⟩ outage ∧
      (runLeaderLoop ⟨30, 0, by decide, by decide⟩ outage.attempts).isLeader = true := by
  refine ⟨?_, ?_, by decide⟩
  · simp [Paced, outage, turn, Duration.asNanos]
  · intro hb
    obtain ⟨renewed, last, hr, hl, ht⟩ := hb outage.attempts [] 50000000000 (by simp) (by simp [outage]) (by simp)
      (by decide)
    cases hr
    cases hl
    revert ht
    decide

end Leader
end HubAgent
