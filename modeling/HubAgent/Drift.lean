import HubAgent.Environment
/-!
# Configured and running (`config.rs`)

The snapshot shows the agent's variables twice: as they are configured (`configuredEnvValue`) and as the running agent
has read them (`runtimeEnvValue`), so that the Hub can tell when the two differ.  `EnvRule` says once how each variable
is read and how it is shown, and `agree_iff`, rule by rule, on which values the two views show the same text.
`no_false_drift_iff` says it of a whole environment.
-/
namespace HubAgent
namespace Drift

open Collector
open Lifecycle (isOn isOn_iff isOn_trim_iff parseCsvValues_trim)

/-- A list whose join is read back: it has an entry, and its entries have no comma and nothing to trim. -/
structure TidyList (l : List String) : Prop where
  ne : l ≠ []
  tidy : ∀ s ∈ l, s ≠ "" ∧ ',' ∉ s.toList ∧ RustStr.trimChars s.toList = s.toList

/-- How a variable is read, with its default. -/
inductive EnvRule where
  | flag
  | flagOr (default : Bool)
  /-- A flag that is configured as a text. -/
  | textFlag
  /-- The list of namespaces that is configured as a flag. -/
  | exclusions
  | logFilter
  | optionalText
  | optionalPort
  | secs (default : Fin 65536)
  | port (default : Fin 65536)
  | number (default : Fin 18446744073709551616)
  | csv
  | csvOr (default : List String) (tidy : TidyList default)
  | text (default : String)
  | url

/-- What the running agent shows of a variable, set or not. -/
def EnvRule.runtime (yaml : SerdeYaml) (value : Option String) : EnvRule → Option String
  | .flag => some (boolString (envFlag value))
  | .flagOr default => some (boolString (envFlagWithDefault value default))
  | .textFlag => some (boolString (envFlag value))
  | .exclusions => some (yamlListString yaml (parseYamlListEnv yaml.fromStr value))
  | .logFilter => some (((value.map RustStr.trim).filter (· ≠ "")).getD "info")
  | .optionalText => parseNonEmptyEnv value
  | .optionalPort => ((parseU16Env value).map Fin.val).map Nat.repr
  | .secs default => some (parseSecs value (default.castLE (by decide))).secs.repr
  | .port default => some ((parseU16Env value).getD default).val.repr
  | .number default => some ((parseU64Env value).getD default).val.repr
  | .csv => some (",".intercalate (parseCsvEnv value))
  | .csvOr default _ => some (",".intercalate (parseCsvEnvOr value default))
  | .text default => some (value.getD default)
  | .url => some (String.ofList (RustStr.trimEndMatches ['/'] (value.getD "").toList))

def EnvRule.configured (value : String) : EnvRule → Option String
  | .flag | .flagOr _ | .exclusions => some (boolString (isOn (RustStr.trim value)))
  | .logFilter => some (if RustStr.trim value = "" then "info" else RustStr.trim value)
  | .optionalText => parseNonEmptyValue (RustStr.trim value)
  | .secs _ | .port _ | .optionalPort => some (numberOrText 65535 (RustStr.trim value))
  | .number _ => some (numberOrText 18446744073709551615 (RustStr.trim value))
  | .textFlag | .csv | .csvOr _ _ | .text _ => some (RustStr.trim value)
  | .url => some (String.ofList (RustStr.trimEndMatches ['/'] (RustStr.trim value).toList))

/-- Every piece between the commas is there, and has nothing to trim. -/
def TidyCsv (text : String) : Prop :=
  ∀ piece ∈ RustStr.split ',' text.toList, piece ≠ [] ∧ RustStr.trimChars piece = piece

/-- **The values that both views show alike.** -/
def EnvRule.Faithful (value : String) : EnvRule → Prop
  | .flag | .flagOr _ => RustStr.trim value = "true" ∨ RustStr.trim value = "1" → RustStr.trim value = value
  | .textFlag => value = "true" ∨ RustStr.trim value = "false"
  | .exclusions => False
  | .logFilter | .optionalText | .optionalPort => True
  | .secs default =>
    (∃ n, parseU64 value.toList = some n ∧ (n.val ≤ 65535 ∨ value = n.val.repr)) ∨
      parseU64 value.toList = none ∧ parseU16 (RustStr.trim value).toList = some default
  | .port _ => parseU16 (RustStr.trim value).toList ≠ none
  | .number _ => parseU64 (RustStr.trim value).toList ≠ none
  | .csv => RustStr.trim value = "" ∨ TidyCsv (RustStr.trim value)
  | .csvOr _ _ => TidyCsv (RustStr.trim value)
  | .text _ | .url => RustStr.trim value = value

theorem defaultMonitoringTargets_tidy : TidyList defaultMonitoringTargets :=
  ⟨by decide, by decide +kernel⟩

theorem defaultMetricsAllowlist_tidy : TidyList defaultMetricsAllowlist :=
  ⟨by decide, by decide +kernel⟩

/-- **The rule of each variable.** -/
def envRules : List (String × EnvRule) :=
  [("ACTION_OPERATOR_ENABLED", .flag), ("ACTION_OPERATOR_POLL_INTERVAL_SECS", .secs 60),
    ("ACTION_OPERATOR_EXCLUDED_NAMESPACES", .exclusions), ("AGENT_HTTP_DEBUG", .flag),
    ("AGENT_HTTP_DEBUG_BODIES", .flag), ("AGENT_LOG", .logFilter), ("AGENT_VERSION_OVERRIDE", .optionalText),
    ("CLUSTER_ID", .text ""), ("COLLECT_DEPENDENCIES_TETRAGON", .flag), ("COLLECT_INTERVAL_SECS", .secs 60),
    ("COLLECT_SECRETS", .flag), ("FULL_DEBUG", .flag), ("HTTP_TIMEOUT_SECS", .secs 20), ("HUB_URL", .url),
    ("LEASE_NAME", .text "sentinella-hub-k8s-agent-leader"), ("LEASE_TTL_SECS", .secs 30),
    ("POLL_WAIT_SECS", .secs 30), ("POSTGRESQL_READONLY_COMMANDS_ENABLED", .flag),
    ("POSTGRESQL_MONITORING_DATABASE", .optionalText), ("POSTGRESQL_MONITORING_ENABLED", .flag),
    ("POSTGRESQL_MONITORING_HOST", .optionalText), ("POSTGRESQL_MONITORING_PORT", .optionalPort),
    ("POSTGRESQL_MONITORING_SECRET_NAME", .optionalText), ("POSTGRESQL_MONITORING_NAMESPACES", .csv),
    ("POSTGRESQL_MONITORING_SSLMODE", .optionalText), ("POSTGRESQL_MONITORING_USER", .optionalText),
    ("APP_METRICS_ENABLED", .flag), ("APP_METRICS_DISCOVERY_ENABLED", .flagOr true), ("APP_METRICS_NAMESPACES", .csv),
    ("APP_METRICS_ALLOWLIST", .csvOr defaultMetricsAllowlist defaultMetricsAllowlist_tidy),
    ("APP_METRICS_TIMEOUT_SECS", .number 3), ("APP_METRICS_MAX_SAMPLES", .number 500),
    ("TETRAGON_ENDPOINT_DISCOVERY_ENABLED", .flagOr true), ("TETRAGON_GRPC_ADDRESS", .text defaultGrpcAddress),
    ("TETRAGON_GRPC_PORT", .port 54321), ("TETRAGON_SERVICE_NAME", .text "tetragon-grpc"),
    ("TETRAGON_SERVICE_NAMESPACE", .text "tetragon"), ("TECH_DETECT_PROCESS", .flag),
    ("WORKLOAD_MONITORING_ENABLED", .textFlag), ("WORKLOAD_MONITORING_NAMESPACES", .csv),
    ("WORKLOAD_MONITORING_TARGETS", .csvOr defaultMonitoringTargets defaultMonitoringTargets_tidy)]

theorem envRules_keys : envRules.map Prod.fst = agentConfigEnvAllowlist := rfl

/-! ## The two views follow the rules -/

/-- **The running agent shows each variable by its rule.** -/
theorem runtimeEnvValue_eq (yaml : SerdeYaml) {env : StrMap String} {hubUrl clusterId : String}
    (hhub : env.lookup "HUB_URL" = some hubUrl) (hcluster : env.lookup "CLUSTER_ID" = some clusterId)
    (hdebug : env.lookup "FULL_DEBUG" = none) : ∀ e ∈ envRules,
      runtimeEnvValue yaml (configFrom yaml env hubUrl clusterId) e.1 = e.2.runtime yaml (env.lookup e.1) := by
  simp only [envRules, List.forall_mem_cons, List.not_mem_nil, false_implies, implies_true, and_true]
  repeat' apply And.intro
  all_goals first | rfl | (rw [hhub]; rfl) | (rw [hcluster]; rfl) | (simp only [configFrom, hdebug]; rfl)

/-- **The configured view shows each variable by its rule.** -/
theorem configuredEnvValue_eq (value : String) :
    ∀ e ∈ envRules, configuredEnvValue e.1 value = e.2.configured value := by
  simp only [envRules, List.forall_mem_cons, List.not_mem_nil, false_implies, implies_true, and_true]
  repeat' apply And.intro
  all_goals simp only [configuredEnvValue, EnvRule.configured, isOn, List.mem_cons, String.reduceEq, List.not_mem_nil,
    or_true, or_false, or_self, if_true, reduceIte]

/-! ## On which values the views agree -/

theorem boolString_inj {a b : Bool} : boolString a = boolString b ↔ a = b := by
  cases a <;> cases b <;> decide

theorem textFlag_agrees (value : String) :
    RustStr.trim value = boolString (envFlag (some value)) ↔ value = "true" ∨ RustStr.trim value = "false" := by
  by_cases hon : value = "true" ∨ value = "1"
  · rcases hon with rfl | rfl <;> decide
  · have hoff : envFlag (some value) = false := by
      rw [← Bool.not_eq_true]
      exact fun h => hon (isOn_iff.1 h)
    rw [hoff]
    exact (or_iff_right (fun h => hon (.inl h))).symm

theorem logFilter_agrees (value : String) : (if RustStr.trim value = "" then "info" else RustStr.trim value) =
    (((some value).map RustStr.trim).filter (· ≠ "")).getD "info" := by
  by_cases h : RustStr.trim value = "" <;> simp [h, Option.filter]

theorem optionalText_agrees (value : String) :
    parseNonEmptyValue (RustStr.trim value) = parseNonEmptyEnv (some value) := by
  unfold parseNonEmptyValue parseNonEmptyEnv
  rw [RustStr.trim_trim]
  by_cases hnil : RustStr.trim value = ""
  · simp [hnil, Option.filter]
  · by_cases hlong : (RustStr.trim value).utf8ByteSize > 128 <;> simp [hnil, hlong, Option.filter]

/-! ### Lists -/

/-- What is written of a list with an entry: a line with a dash for each. -/
def WritesItems (yaml : SerdeYaml) : Prop :=
  ∀ values, values ≠ [] → ∃ rest, yaml.write values = some ("- " ++ rest)

theorem boolString_ne_yamlListString {yaml : SerdeYaml} (hyaml : WritesItems yaml) (b : Bool) (values : List String) :
    boolString b ≠ yamlListString yaml values := by
  have hhead : (boolString b).toList.head? = some 't' ∨ (boolString b).toList.head? = some 'f' := by
    cases b <;> decide
  intro h
  rw [h] at hhead
  unfold yamlListString at hhead
  by_cases hnil : values = []
  · rw [if_pos hnil] at hhead
    revert hhead
    decide
  · obtain ⟨rest, hrest⟩ := hyaml values hnil
    have hdash : (RustStr.trimEnd ("- " ++ rest)).toList.head? = some '-' := by
      rw [RustStr.trimEnd, String.toList_ofList, String.toList_append]
      exact RustStr.head?_rdropWhile (by decide) _
    rw [if_neg hnil, hrest] at hhead
    dsimp only at hhead
    rw [hdash] at hhead
    revert hhead
    decide

theorem mem_parseCsvValues {raw s : String} (h : s ∈ parseCsvValues raw) :
    s ≠ "" ∧ ',' ∉ s.toList ∧ RustStr.trimChars s.toList = s.toList := by
  obtain ⟨hmem, hne⟩ := List.mem_filter.1 h
  obtain ⟨piece, hpiece, rfl⟩ := List.mem_map.1 hmem
  refine ⟨of_decide_eq_true hne, ?_, ?_⟩
  · rw [String.toList_ofList]
    exact fun hcomma => RustStr.not_mem_of_mem_split hpiece ((RustStr.trimChars_sublist piece).mem hcomma)
  · rw [String.toList_ofList, RustStr.trimChars_trimChars]

theorem toList_join (l : List String) : (",".intercalate l).toList = [','].intercalate (l.map String.toList) := by
  rw [String.toList_intercalate]
  rfl

/-- **A text of tidy pieces is the list of them.** -/
theorem parseCsvValues_of_tidy {text : String} (h : TidyCsv text) :
    (parseCsvValues text).map String.toList = RustStr.split ',' text.toList := by
  have hpieces : (RustStr.split ',' text.toList).map (fun s => String.ofList (RustStr.trimChars s)) =
      (RustStr.split ',' text.toList).map String.ofList :=
    List.map_congr_left (fun piece hpiece => by rw [(h piece hpiece).2])
  have hkept : ∀ s ∈ (RustStr.split ',' text.toList).map String.ofList, decide (s ≠ "") = true := by
    intro s hs
    obtain ⟨piece, hpiece, rfl⟩ := List.mem_map.1 hs
    rw [decide_eq_true_iff]
    exact fun hnil => (h piece hpiece).1 (String.ofList_eq_empty_iff.1 hnil)
  rw [parseCsvValues, hpieces, List.filter_eq_self.2 hkept, List.map_map]
  exact (List.map_congr_left (fun piece _ => String.toList_ofList)).trans (List.map_id _)

theorem split_join {l : List String} (hne : l ≠ []) (h : ∀ s ∈ l, ',' ∉ s.toList) :
    RustStr.split ',' (",".intercalate l).toList = l.map String.toList := by
  rw [toList_join]
  refine RustStr.split_intercalate (fun hnil => hne (List.map_eq_nil_iff.1 hnil)) (fun piece hpiece => ?_)
  obtain ⟨s, hs, rfl⟩ := List.mem_map.1 hpiece
  exact h s hs

/-- **A tidy list is read back from its join.** -/
theorem parseCsvValues_join {l : List String} (h : TidyList l) : parseCsvValues (",".intercalate l) = l := by
  have hsplit := split_join h.ne (fun s hs => (h.tidy s hs).2.1)
  have htidy : TidyCsv (",".intercalate l) := by
    intro piece hpiece
    rw [hsplit] at hpiece
    obtain ⟨s, hs, rfl⟩ := List.mem_map.1 hpiece
    exact ⟨fun hnil => (h.tidy s hs).1 (String.toList_eq_nil_iff.1 hnil), (h.tidy s hs).2.2⟩
  have hread := parseCsvValues_of_tidy htidy
  rw [hsplit] at hread
  exact List.map_injective_iff.2 (fun _ _ => String.toList_inj.1) hread

theorem csv_agrees (text : String) : text = ",".intercalate (parseCsvValues text) ↔ text = "" ∨ TidyCsv text := by
  constructor
  · intro h
    by_cases hnil : parseCsvValues text = []
    · rw [hnil] at h
      exact .inl h
    · right
      intro piece hpiece
      rw [h, split_join hnil (fun s hs => (mem_parseCsvValues hs).2.1)] at hpiece
      obtain ⟨s, hs, rfl⟩ := List.mem_map.1 hpiece
      exact ⟨fun hblank => (mem_parseCsvValues hs).1 (String.toList_eq_nil_iff.1 hblank), (mem_parseCsvValues hs).2.2⟩
  · rintro (rfl | h)
    · decide
    · rw [String.ext_iff, toList_join, parseCsvValues_of_tidy h, RustStr.intercalate_split]

theorem csvOr_agrees {default : List String} (hdefault : TidyList default) (text : String) :
    text = ",".intercalate (if parseCsvValues text = [] then default else parseCsvValues text) ↔ TidyCsv text := by
  by_cases hnil : parseCsvValues text = []
  · rw [if_pos hnil]
    constructor
    · intro h
      rw [h, parseCsvValues_join hdefault] at hnil
      exact absurd hnil hdefault.ne
    · intro h
      have hread := parseCsvValues_of_tidy h
      rw [hnil] at hread
      have hsplit := RustStr.intercalate_split ',' text.toList
      rw [← hread] at hsplit
      have hblank : text.toList = [] := hsplit.symm
      exact absurd rfl (h [] (by rw [hblank]; exact List.mem_cons_self)).1
  · rw [if_neg hnil, csv_agrees]
    refine or_iff_right (fun hblank => hnil ?_)
    rw [hblank]
    decide

/-! ### Numbers -/

theorem parseBounded_eq_some {hi : Nat} {text : List Char} {n : Fin (hi + 1)} :
    parseBounded hi text = some n ↔ RustStr.parseUnsigned hi text = .ok n.val := by
  unfold parseBounded
  split
  · rename_i m hm
    rw [Option.some_inj, Fin.ext_iff]
    constructor
    · intro h
      exact hm.trans (congrArg Except.ok h)
    · intro h
      rw [hm] at h
      exact Except.ok.inj h
  · rename_i e he
    simp [he]

theorem numberOrText_of_some {hi : Nat} {text : String} {n : Fin (hi + 1)} (h : parseBounded hi text.toList = some n) :
    numberOrText hi text = n.val.repr := by
  rw [numberOrText, parseBounded_eq_some.1 h]

theorem numberOrText_of_none {hi : Nat} {text : String} (h : parseBounded hi text.toList = none) :
    numberOrText hi text = text := by
  unfold numberOrText
  split
  · rename_i n hn
    have hsome : parseBounded hi text.toList = some ⟨n, Nat.lt_succ_of_le (RustStr.parseUnsigned_ok hn).1⟩ :=
      parseBounded_eq_some.2 hn
    rw [h] at hsome
    cases hsome
  · rfl

theorem parseBounded_repr {hi : Nat} (n : Fin (hi + 1)) : parseBounded hi n.val.repr.toList = some n :=
  parseBounded_eq_some.2 (RustStr.parseUnsigned_repr (Nat.le_of_lt_succ n.2))

/-- A text that is shown as the number `n` is a text of `n`. -/
theorem numberOrText_eq_repr_iff {hi : Nat} {text : String} (n : Fin (hi + 1)) :
    numberOrText hi text = n.val.repr ↔ parseBounded hi text.toList = some n := by
  constructor
  · intro h
    cases hread : parseBounded hi text.toList with
    | some m =>
      rw [numberOrText_of_some hread] at h
      rw [← parseBounded_repr m, h, parseBounded_repr]
    | none =>
      rw [numberOrText_of_none hread] at h
      rw [h, parseBounded_repr] at hread
      cases hread
  · exact numberOrText_of_some

theorem number_agrees (hi : Nat) (text : String) (default : Fin (hi + 1)) :
    numberOrText hi text = ((parseBounded hi text.toList).getD default).val.repr ↔
      parseBounded hi text.toList ≠ none := by
  cases hread : parseBounded hi text.toList with
  | some n => simp [numberOrText_of_some hread]
  | none =>
    refine iff_of_false (fun h => ?_) (fun h => h rfl)
    rw [Option.getD_none, numberOrText_eq_repr_iff, hread] at h
    cases h

/-- Seconds are read without trimming in 64 bits, and shown trimmed in 16. -/
theorem secs_agrees (value : String) (default : Fin 65536) :
    numberOrText 65535 (RustStr.trim value) =
        ((parseU64 value.toList).getD (default.castLE (by decide))).val.repr ↔
      (∃ n, parseU64 value.toList = some n ∧ (n.val ≤ 65535 ∨ value = n.val.repr)) ∨
        parseU64 value.toList = none ∧ parseU16 (RustStr.trim value).toList = some default := by
  cases hread : parseU64 value.toList with
  | none =>
    rw [Option.getD_none, Fin.val_castLE, numberOrText_eq_repr_iff default]
    simp [parseU16]
  | some n =>
    have hok := RustStr.parseUnsigned_ok (parseBounded_eq_some.1 hread)
    have htrim : RustStr.trim value = value := RustStr.trim_eq_self_iff.2 (RustStr.trimChars_eq_self hok.2.1)
    rw [htrim, Option.getD_some]
    by_cases hfits : n.val ≤ 65535
    · have hread16 : parseBounded 65535 value.toList = some ⟨n.val, Nat.lt_succ_of_le hfits⟩ :=
        parseBounded_eq_some.2 (hok.2.2 65535 hfits)
      rw [numberOrText_of_some hread16]
      exact iff_of_true rfl (.inl ⟨n, rfl, .inl hfits⟩)
    · have hread16 : parseBounded 65535 value.toList = none := by
        cases hsome : parseBounded 65535 value.toList with
        | none => rfl
        | some m =>
          have hm := RustStr.parseUnsigned_ok (parseBounded_eq_some.1 hsome)
          have hsame := (parseBounded_eq_some.1 hread).symm.trans (hm.2.2 18446744073709551615 (hm.1.trans (by decide)))
          rw [Except.ok.injEq] at hsame
          exact absurd (hsame ▸ hm.1) hfits
      rw [numberOrText_of_none hread16]
      simp [hfits]

/-! ### One variable -/

/-- **On which values the two views of a variable agree.** -/
theorem agree_iff {yaml : SerdeYaml} (hyaml : WritesItems yaml) (rule : EnvRule) (value : String) :
    (∀ configured runtime, rule.configured value = some configured → rule.runtime yaml (some value) = some runtime →
      configured = runtime) ↔ rule.Faithful value := by
  have hboth : ∀ a b : String, (∀ configured runtime, some a = some configured → some b = some runtime →
      configured = runtime) ↔ a = b := by
    intro a b
    constructor
    · exact fun h => h a b rfl rfl
    · rintro rfl configured runtime ⟨⟩ ⟨⟩
      rfl
  cases rule with
  | flag => exact (hboth _ _).trans (boolString_inj.trans isOn_trim_iff)
  | flagOr default => exact (hboth _ _).trans (boolString_inj.trans isOn_trim_iff)
  | textFlag => exact (hboth _ _).trans (textFlag_agrees value)
  | exclusions => exact (hboth _ _).trans (iff_false_intro (boolString_ne_yamlListString hyaml _ _))
  | logFilter => exact (hboth _ _).trans (iff_true_intro (logFilter_agrees value))
  | optionalText =>
    refine iff_true_intro (fun configured runtime hconfigured hruntime => ?_)
    rw [EnvRule.configured, optionalText_agrees] at hconfigured
    exact Option.some.inj (hconfigured.symm.trans hruntime)
  | optionalPort =>
    refine iff_true_intro (fun configured runtime hconfigured hruntime => ?_)
    rw [EnvRule.configured, Option.some_inj] at hconfigured
    simp only [EnvRule.runtime, parseU16Env, parseU16, Option.bind_some, Option.map_map, Option.map_eq_some_iff]
      at hruntime
    obtain ⟨n, hread, rfl⟩ := hruntime
    rw [← hconfigured]
    exact numberOrText_of_some hread
  | secs default => exact (hboth _ _).trans (secs_agrees value default)
  | port default =>
    refine (hboth _ _).trans ?_
    simp only [EnvRule.Faithful, parseU16Env, parseU16, Option.bind_some]
    exact number_agrees 65535 (RustStr.trim value) default
  | number default =>
    refine (hboth _ _).trans ?_
    simp only [EnvRule.Faithful, parseU64Env, parseU64, Option.bind_some]
    exact number_agrees 18446744073709551615 (RustStr.trim value) default
  | csv =>
    refine (hboth _ _).trans ?_
    rw [EnvRule.Faithful, ← csv_agrees, parseCsvValues_trim]
    rfl
  | csvOr default tidy =>
    refine (hboth _ _).trans ?_
    rw [EnvRule.Faithful, ← csvOr_agrees tidy, parseCsvValues_trim]
    rfl
  | text default => exact (hboth _ _)
  | url =>
    refine (hboth _ _).trans ?_
    have hslash : ∀ c, (c == '/') = true → RustStr.isWhitespace c = false := by
      intro c hc
      rw [beq_iff_eq.1 hc]
      decide
    rw [String.ext_iff, String.toList_ofList, String.toList_ofList, RustStr.trimEndMatches_singleton,
      RustStr.trimEndMatches_singleton, Option.getD_some, RustStr.trim, String.toList_ofList, eq_comm,
      RustStr.rdropWhile_trimChars_iff hslash, ← RustStr.trim_eq_self_iff]
    rfl

/-! ## A whole environment -/

/-- **No variable is shown configured to one text and running with another.** -/
def NoFalseDrift (yaml : SerdeYaml) (env : StrMap String) (cfg : AgentConfig) : Prop :=
  ∀ key ∈ agentConfigEnvAllowlist, (env.lookup key).isSome = true → ∀ configured runtime,
    ⟨key, configured⟩ ∈ agentConfiguredEnv env → ⟨key, runtime⟩ ∈ agentRuntimeEnv yaml cfg → configured = runtime

theorem mem_agentConfiguredEnv {env : StrMap String} {key text : String} :
    ⟨key, text⟩ ∈ agentConfiguredEnv env ↔
      key ∈ agentConfigEnvAllowlist ∧
        ∃ value, env.lookup key = some value ∧ configuredEnvValue key value = some text := by
  unfold agentConfiguredEnv
  simp only [List.mem_filterMap, Option.bind_eq_some_iff, Option.map_eq_some_iff, KV.mk.injEq]
  constructor
  · rintro ⟨_, hkey, value, hvalue, _, htext, rfl, rfl⟩
    exact ⟨hkey, value, hvalue, htext⟩
  · rintro ⟨hkey, value, hvalue, htext⟩
    exact ⟨key, hkey, value, hvalue, text, htext, rfl, rfl⟩

theorem mem_agentRuntimeEnv {yaml : SerdeYaml} {cfg : AgentConfig} {key text : String} :
    ⟨key, text⟩ ∈ agentRuntimeEnv yaml cfg ↔
      key ∈ agentConfigEnvAllowlist ∧ runtimeEnvValue yaml cfg key = some text := by
  unfold agentRuntimeEnv
  simp only [List.mem_filterMap, Option.map_eq_some_iff, KV.mk.injEq]
  constructor
  · rintro ⟨_, hkey, _, htext, rfl, rfl⟩
    exact ⟨hkey, htext⟩
  · rintro ⟨hkey, htext⟩
    exact ⟨key, hkey, text, htext, rfl, rfl⟩

theorem fromEnv_ok {yaml : SerdeYaml} {env : StrMap String} {cfg : AgentConfig} (h : fromEnv yaml env = .ok cfg) :
    ∃ hubUrl clusterId, env.lookup "HUB_URL" = some hubUrl ∧ env.lookup "CLUSTER_ID" = some clusterId ∧
      cfg = configFrom yaml env hubUrl clusterId := by
  unfold fromEnv fromEnvForMode requiredVar at h
  cases hhub : env.lookup "HUB_URL" with
  | none =>
    rw [hhub] at h
    cases h
  | some hubUrl =>
    cases hcluster : env.lookup "CLUSTER_ID" with
    | none =>
      rw [hhub, hcluster] at h
      cases h
    | some clusterId =>
      rw [hhub, hcluster] at h
      cases h
      exact ⟨hubUrl, clusterId, rfl, rfl, rfl⟩

/-- **There is no false drift exactly when each variable that is set holds a value that both views show alike.** -/
theorem no_false_drift_iff {yaml : SerdeYaml} (hyaml : WritesItems yaml) {env : StrMap String} {cfg : AgentConfig}
    (hcfg : fromEnv yaml env = .ok cfg) (hdebug : env.lookup "FULL_DEBUG" = none) :
    NoFalseDrift yaml env cfg ↔
      ∀ e ∈ envRules, ∀ value, env.lookup e.1 = some value → e.2.Faithful value := by
  obtain ⟨hubUrl, clusterId, hhub, hcluster, rfl⟩ := fromEnv_ok hcfg
  have hruntime := runtimeEnvValue_eq yaml hhub hcluster hdebug
  constructor
  · intro h e he value hvalue
    refine (agree_iff hyaml e.2 value).1 (fun configured runtime hc hr => ?_)
    have hkey : e.1 ∈ agentConfigEnvAllowlist := envRules_keys ▸ List.mem_map_of_mem he
    refine h e.1 hkey (by rw [hvalue]; rfl) configured runtime (mem_agentConfiguredEnv.2 ?_) (mem_agentRuntimeEnv.2 ?_)
    · exact ⟨hkey, value, hvalue, (configuredEnvValue_eq value e he).trans hc⟩
    · refine ⟨hkey, (hruntime e he).trans ?_⟩
      rw [hvalue]
      exact hr
  · intro h key hkey hset configured runtime hc hr
    rw [← envRules_keys] at hkey
    obtain ⟨e, he, rfl⟩ := List.mem_map.1 hkey
    obtain ⟨-, value, hvalue, hc⟩ := mem_agentConfiguredEnv.1 hc
    obtain ⟨-, hr⟩ := mem_agentRuntimeEnv.1 hr
    rw [configuredEnvValue_eq value e he] at hc
    rw [hruntime e he, hvalue] at hr
    exact (agree_iff hyaml e.2 value).2 (h e he value hvalue) configured runtime hc hr

def envOf (entries : List (String × String)) : StrMap String :=
  (entries.map (fun e => (⟨e.1, e.2⟩ : (_ : String) × String))).toAList

/-- `serde_yaml` on names that need no quotes. -/
def plainYaml : SerdeYaml where
  fromStr _ := none
  write values := some (String.join (values.map (fun s => "- " ++ s ++ "\n")))

theorem plainYaml_writesItems : WritesItems plainYaml := by
  intro values hne
  cases values with
  | nil => exact absurd rfl hne
  | cons s values => exact ⟨s ++ "\n" ++ String.join (values.map (fun s => "- " ++ s ++ "\n")), by
      simp [plainYaml, String.append_assoc]⟩

/-- `1` turns the workload monitoring on, and is shown as itself next to `true`. -/
theorem workload_monitoring_drifts :
    ¬ ∀ yaml env cfg, WritesItems yaml → fromEnv yaml env = .ok cfg → env.lookup "FULL_DEBUG" = none →
      NoFalseDrift yaml env cfg := by
  intro h
  have hkey : "WORKLOAD_MONITORING_ENABLED" ∈ agentConfigEnvAllowlist := by decide
  have hdrift := h plainYaml (envOf [("HUB_URL", "https://hub"), ("CLUSTER_ID", "c"),
    ("WORKLOAD_MONITORING_ENABLED", "1")]) _ plainYaml_writesItems rfl rfl "WORKLOAD_MONITORING_ENABLED" hkey rfl "1"
    "true" (mem_agentConfiguredEnv.2 ⟨hkey, "1", rfl, rfl⟩) (mem_agentRuntimeEnv.2 ⟨hkey, rfl⟩)
  revert hdrift
  decide

def listsEnv : StrMap String :=
  envOf [("HUB_URL", "https://hub/"), ("CLUSTER_ID", "c"), ("APP_METRICS_NAMESPACES", "a,b")]

theorem listsEnv_no_false_drift :
    NoFalseDrift plainYaml listsEnv (configFrom plainYaml listsEnv "https://hub/" "c") := by
  refine (no_false_drift_iff plainYaml_writesItems rfl rfl).2 ?_
  simp only [envRules, List.forall_mem_cons, List.not_mem_nil, false_implies, implies_true, and_true]
  repeat' apply And.intro
  -- three variables are set
  all_goals
    intro value hvalue
    cases hvalue
  · exact (by decide : RustStr.trim "c" = "c")
  · exact (by decide : RustStr.trim "https://hub/" = "https://hub/")
  · refine .inr (fun piece hpiece => ?_)
    have hpieces : RustStr.split ',' (RustStr.trim "a,b").toList = [['a'], ['b']] := by decide
    rw [hpieces] at hpiece
    revert piece
    decide

end Drift
end HubAgent
