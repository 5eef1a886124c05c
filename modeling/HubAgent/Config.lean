import Mathlib.Algebra.GroupWithZero.Nat
import Mathlib.Order.Basic
/-!
# The configuration, as far as it is read (`config.rs`)

A `Duration` carries the bounds of its two fields, and its operations panic where they would leave them.  The freshness
window of a policy status is three poll intervals, or one when three overflow.
-/
namespace HubAgent

instance neZero_u64 : NeZero 18446744073709551616 := ⟨by decide⟩

structure Duration where
  secs : Nat
  nanos : Nat := 0
  secs_lt : secs < 18446744073709551616
  nanos_lt : nanos < 1000000000

inductive DurationPanic where
  | zeroPeriod
  | overflow
  deriving DecidableEq, Repr

namespace Duration

theorem no_nanos : 0 < 1000000000 := by decide

def fromSecs (n : Fin 18446744073709551616) : Duration := ⟨n, 0, n.2, no_nanos⟩

/-- The operator `+`. -/
def add (d e : Duration) : Except DurationPanic Duration :=
  if h : d.secs + e.secs + (d.nanos + e.nanos) / 1000000000 < 18446744073709551616 then
    .ok ⟨d.secs + e.secs + (d.nanos + e.nanos) / 1000000000, (d.nanos + e.nanos) % 1000000000, h,
      Nat.mod_lt _ (by decide)⟩
  else .error .overflow

theorem add_isOk_iff (d e : Duration) : (∃ s, d.add e = .ok s) ↔
    d.secs + e.secs + (d.nanos + e.nanos) / 1000000000 < 18446744073709551616 := by
  unfold add
  constructor
  · rintro ⟨s, hs⟩
    by_contra h
    rw [dif_neg h] at hs
    cases hs
  · intro h
    exact ⟨_, dif_pos h⟩

/-- `Duration::checked_mul`. -/
def checkedMul (d : Duration) (k : Nat) : Option Duration :=
  if h : d.secs * k + d.nanos * k / 1000000000 < 18446744073709551616 then
    some ⟨d.secs * k + d.nanos * k / 1000000000, d.nanos * k % 1000000000, h, Nat.mod_lt _ (by decide)⟩
  else none

def asMillis (d : Duration) : Nat := d.secs * 1000 + d.nanos / 1000000

def asNanos (d : Duration) : Nat := d.secs * 1000000000 + d.nanos

end Duration

structure Config where
  clusterId : String
  /-- Master switch for action execution. -/
  actionsEnabled : Bool := false
  readonlyCommandsEnabled : Bool := false
  actionOperatorPollInterval : Duration := ⟨60, 0, by decide, by decide⟩
  actionOperatorExcludedNamespaces : List String := []
  /-- Without a trailing slash. -/
  hubUrl : String := ""
  /-- Long-poll wait window for the command channel. -/
  pollWait : Duration := ⟨30, 0, by decide, by decide⟩
  httpDebugBodies : Bool := false
  fullDebug : Bool := false
  collectSecrets : Bool := false

/-- The freshness window, computed alike by the operator and by each gate of the executor. -/
def Config.staleAfterMs (cfg : Config) : Nat :=
  ((cfg.actionOperatorPollInterval.checkedMul 3).getD cfg.actionOperatorPollInterval).asMillis

example : ({ clusterId := "c" } : Config).staleAfterMs = 180000 := by decide

end HubAgent
