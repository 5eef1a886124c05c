import HubAgent.Environment
import HubAgent.Hub
import HubAgent.Leader
/-!
# Where the configured durations go (`main.rs`, `operator.rs`, `hub.rs`, `leader.rs`)

Four durations of the configuration are handed to operations that do not take every value: `tokio::time::interval`
panics on a zero period, the addition of durations on an overflow, and a lease that is renewed without a pause is asked
for without end.  Any number of seconds is parsed, so `usable_iff` names the four numbers that are not usable.
-/
namespace HubAgent

namespace Duration

/-- The operator `/` at a number that is not zero. -/
def div (d : Duration) (k : Nat) (hk : 0 < k) : Duration where
  secs := d.secs / k
  nanos := (d.secs % k * 1000000000 + d.nanos) / k
  secs_lt := Nat.lt_of_le_of_lt (Nat.div_le_self _ _) d.secs_lt
  nanos_lt := by
    have hmod : d.secs % k < k := Nat.mod_lt _ hk
    have hnanos := d.nanos_lt
    rw [Nat.div_lt_iff_lt_mul hk]
    calc d.secs % k * 1000000000 + d.nanos < (d.secs % k + 1) * 1000000000 := by omega
      _ ≤ k * 1000000000 := Nat.mul_le_mul_right _ hmod
      _ = 1000000000 * k := Nat.mul_comm _ _

theorem asNanos_div (d : Duration) {k : Nat} (hk : 0 < k) : (d.div k hk).asNanos = d.asNanos / k := by
  have hsplit : d.asNanos = (d.secs / k * 1000000000) * k + (d.secs % k * 1000000000 + d.nanos) := by
    have hdiv := Nat.div_add_mod d.secs k
    calc d.secs * 1000000000 + d.nanos = (k * (d.secs / k) + d.secs % k) * 1000000000 + d.nanos := by rw [hdiv]
      _ = d.secs / k * 1000000000 * k + (d.secs % k * 1000000000 + d.nanos) := by
        rw [Nat.add_mul, Nat.mul_comm k, Nat.mul_right_comm, Nat.add_assoc]
  rw [hsplit, Nat.add_comm, Nat.add_mul_div_right _ _ hk, asNanos, div, Nat.add_comm]

theorem asNanos_fromSecs (n : Fin 18446744073709551616) : (fromSecs n).asNanos = n * 1000000000 := Nat.add_zero _

end Duration

/-- `tokio::time::interval`. -/
def interval (period : Duration) : Except DurationPanic Duration :=
  if period.asNanos = 0 then .error .zeroPeriod else .ok period

theorem interval_isOk_iff (period : Duration) : (∃ p, interval period = .ok p) ↔ 0 < period.asNanos := by
  rw [interval]
  split_ifs with h
  · exact ⟨fun ⟨_, hp⟩ => (nomatch hp), fun hpos => absurd h hpos.ne'⟩
  · exact ⟨fun _ => Nat.pos_of_ne_zero h, fun _ => ⟨period, rfl⟩⟩

/-! ## The four uses -/

/-- The ticker of `collector_loop`. -/
def collectorTicker (cfg : AgentConfig) : Except DurationPanic Duration := interval cfg.collectInterval

/-- The ticker of `run_action_operator`. -/
def operatorTicker (cfg : AgentConfig) : Except DurationPanic Duration := interval cfg.actionOperatorPollInterval

/-- The pause of `run_leader_loop`. -/
def renewInterval (cfg : AgentConfig) : Duration := cfg.leaseTtl.div 3 (by decide)

/-- It is the pause after an attempt that did not fail. -/
theorem renewInterval_eq_turn (cfg : AgentConfig) (state : Leader.LeaderState) {a : Leader.Attempt}
    {result : Leader.LeaseLockResult} (h : a.outcome = .ok result) :
    (renewInterval cfg).asNanos = (Leader.turn cfg.leaseTtl state a).2 := by
  rw [renewInterval, Duration.asNanos_div, Leader.turn, h]

structure Usable (cfg : AgentConfig) : Prop where
  collects : ∃ ticker, collectorTicker cfg = .ok ticker
  operates : ∃ ticker, operatorTicker cfg = .ok ticker
  polls : ∃ timeout, Hub.pollTimeout cfg.toConfig = .ok timeout
  renews : 0 < (renewInterval cfg).asNanos

/-! ## What the environment says -/

def secsOf (env : StrMap String) (key : String) : Option (Fin 18446744073709551616) :=
  (env.lookup key).bind (fun v => parseU64 v.toList)

theorem fromEnvForMode_ok {yaml : SerdeYaml} {mode : RuntimeMode} {env : StrMap String} {cfg : AgentConfig}
    (h : fromEnvForMode yaml mode env = .ok cfg) : ∃ hubUrl clusterId, cfg = configFrom yaml env hubUrl clusterId := by
  rw [fromEnvForMode] at h
  cases hhub : requiredVar mode env "HUB_URL" with
  | error e =>
    rw [hhub] at h
    cases h
  | ok hubUrl =>
    cases hcluster : requiredVar mode env "CLUSTER_ID" with
    | error e =>
      rw [hhub, hcluster] at h
      cases h
    | ok clusterId =>
      rw [hhub, hcluster] at h
      cases h
      exact ⟨hubUrl, clusterId, rfl⟩

theorem parseSecs_pos_iff {env : StrMap String} {key : String} {default : Fin 18446744073709551616} (hd : default ≠ 0) :
    0 < (parseSecs (env.lookup key) default).asNanos ↔ secsOf env key ≠ some 0 := by
  rw [parseSecs, Duration.asNanos_fromSecs, ← secsOf]
  cases secsOf env key with
  | none =>
    have hpos : 0 < default.val := Nat.pos_of_ne_zero fun h => hd (Fin.ext h)
    simp [hpos]
  | some n =>
    rw [Option.getD_some, ne_eq, Option.some.injEq, ← Fin.val_inj, Fin.val_zero]
    omega

/-- **The durations are usable exactly when no interval and no lease is zero seconds and the poll can wait ten seconds
longer.** -/
theorem usable_iff (yaml : SerdeYaml) (mode : RuntimeMode) (env : StrMap String) (cfg : AgentConfig)
    (h : fromEnvForMode yaml mode env = .ok cfg) :
    Usable cfg ↔ secsOf env "COLLECT_INTERVAL_SECS" ≠ some 0 ∧
      secsOf env "ACTION_OPERATOR_POLL_INTERVAL_SECS" ≠ some 0 ∧ secsOf env "LEASE_TTL_SECS" ≠ some 0 ∧
      ∀ n, secsOf env "POLL_WAIT_SECS" = some n → n.val + 10 ≤ 18446744073709551615 := by
  obtain ⟨hubUrl, clusterId, rfl⟩ := fromEnvForMode_ok h
  have hcollects : (∃ ticker, collectorTicker (configFrom yaml env hubUrl clusterId) = .ok ticker) ↔
      secsOf env "COLLECT_INTERVAL_SECS" ≠ some 0 :=
    (interval_isOk_iff _).trans (parseSecs_pos_iff (by decide))
  have hoperates : (∃ ticker, operatorTicker (configFrom yaml env hubUrl clusterId) = .ok ticker) ↔
      secsOf env "ACTION_OPERATOR_POLL_INTERVAL_SECS" ≠ some 0 :=
    (interval_isOk_iff _).trans (parseSecs_pos_iff (by decide))
  have hpolls : (∃ timeout, Hub.pollTimeout (configFrom yaml env hubUrl clusterId).toConfig = .ok timeout) ↔
      ∀ n, secsOf env "POLL_WAIT_SECS" = some n → n.val + 10 ≤ 18446744073709551615 := by
    rw [Hub.pollTimeout, Duration.add_isOk_iff]
    show (((secsOf env "POLL_WAIT_SECS").getD 30).val + 10 + (0 + 0) / 1000000000 < 18446744073709551616) ↔ _
    cases secsOf env "POLL_WAIT_SECS" with
    | none => exact ⟨fun _ _ h => (nomatch h), fun _ => by decide⟩
    | some n =>
      simp only [Option.getD_some, Option.some.injEq, forall_eq']
      omega
  have hrenews : 0 < (renewInterval (configFrom yaml env hubUrl clusterId)).asNanos ↔
      secsOf env "LEASE_TTL_SECS" ≠ some 0 := by
    have hpos : 0 < (parseSecs (env.lookup "LEASE_TTL_SECS") 30).asNanos ↔ _ := parseSecs_pos_iff (by decide)
    rw [← hpos, renewInterval, Duration.asNanos_div]
    show 0 < (parseSecs (env.lookup "LEASE_TTL_SECS") 30).asNanos / 3 ↔ _
    rw [parseSecs, Duration.asNanos_fromSecs]
    omega
  rw [← hcollects, ← hoperates, ← hrenews, ← hpolls]
  exact ⟨fun hu => ⟨hu.collects, hu.operates, hu.renews, hu.polls⟩, fun hu => ⟨hu.1, hu.2.1, hu.2.2.2, hu.2.2.1⟩⟩

/-- An agent with no interval to collect. -/
def restlessEnv : StrMap String :=
  ((AList.singleton "HUB_URL" "https://hub").insert "CLUSTER_ID" "c").insert "COLLECT_INTERVAL_SECS" "0"

def restlessConfig : AgentConfig := configFrom ⟨fun _ => none, fun _ => none⟩ restlessEnv "https://hub" "c"

theorem usable_iff_restless : Usable restlessConfig ↔ secsOf restlessEnv "COLLECT_INTERVAL_SECS" ≠ some 0 ∧
    secsOf restlessEnv "ACTION_OPERATOR_POLL_INTERVAL_SECS" ≠ some 0 ∧ secsOf restlessEnv "LEASE_TTL_SECS" ≠ some 0 ∧
      ∀ n, secsOf restlessEnv "POLL_WAIT_SECS" = some n → n.val + 10 ≤ 18446744073709551615 :=
  usable_iff ⟨fun _ => none, fun _ => none⟩ .agent restlessEnv restlessConfig rfl

/-- The configuration is accepted, and the collector panics before its first turn. -/
theorem restless_panics : ¬ ∀ (yaml : SerdeYaml) (mode : RuntimeMode) (env : StrMap String) (cfg : AgentConfig),
    fromEnvForMode yaml mode env = .ok cfg → Usable cfg := by
  intro h
  obtain ⟨ticker, hticker⟩ := (h ⟨fun _ => none, fun _ => none⟩ .agent restlessEnv restlessConfig rfl).collects
  have hzero : restlessConfig.collectInterval.asNanos = 0 := by decide
  rw [collectorTicker, interval, if_pos hzero] at hticker
  cases hticker

end HubAgent
