import HubAgent.Lib.KeyValue
import HubAgent.ProbeSettings
/-!
# The connection string of the probe (`plugins/mod.rs`)

The settings are put into the text of the connection as they are, without quotes: a client reads them back, and nothing
else, exactly when every value is plain (`connectionString_read_iff`).
-/
namespace HubAgent
namespace Plugins

open KeyValue (Params Plain IsKey)

namespace PostgresqlProbeSettings

def connectionString (settings : PostgresqlProbeSettings) : String :=
  " ".intercalate (["host=" ++ settings.host, "port=" ++ toString settings.port, "user=" ++ settings.user,
    "dbname=" ++ settings.database] ++ settings.password.toList.map ("password=" ++ ·))

def params (settings : PostgresqlProbeSettings) : Params :=
  [("host".toList, settings.host.toList), ("port".toList, (toString settings.port).toList),
    ("user".toList, settings.user.toList), ("dbname".toList, settings.database.toList)] ++
    settings.password.toList.map (fun password => ("password".toList, password.toList))

def keywords : List (List Char) := ["host", "port", "user", "dbname", "password"].map String.toList

/-- A client reads the settings, and nothing else: each parameter once, in any order. -/
def ReadAs (settings : PostgresqlProbeSettings) (read : Params) : Prop := read.Perm settings.params

/-- Every value that is not a number is plain. -/
structure PlainValues (settings : PostgresqlProbeSettings) : Prop where
  host : Plain settings.host.toList
  user : Plain settings.user.toList
  database : Plain settings.database.toList
  password : ∀ password ∈ settings.password, Plain password.toList

theorem keyword_toList (keyword text : String) {key : String} (h : keyword.toList = key.toList ++ ['=']) :
    (keyword ++ text).toList = key.toList ++ '=' :: text.toList := by
  rw [String.toList_append, h, List.append_assoc, List.singleton_append]

theorem connectionString_toList (settings : PostgresqlProbeSettings) :
    settings.connectionString.toList = KeyValue.render settings.params := by
  unfold connectionString KeyValue.render params
  rw [String.toList_intercalate]
  congr 1
  simp only [List.map_append, List.map_cons, List.map_nil, List.map_map]
  congr 1
  · rw [keyword_toList "host=" settings.host (show _ = "host".toList ++ ['='] by decide),
      keyword_toList "port=" _ (show _ = "port".toList ++ ['='] by decide),
      keyword_toList "user=" settings.user (show _ = "user".toList ++ ['='] by decide),
      keyword_toList "dbname=" settings.database (show _ = "dbname".toList ++ ['='] by decide)]
  · apply List.map_congr_left
    intro password _
    exact keyword_toList "password=" password (by decide)

theorem isKey_of_mem {key : List Char} (h : key ∈ keywords) : IsKey key := by
  have hall : keywords.all (fun key => decide (IsKey key)) = true := by decide
  exact of_decide_eq_true (List.all_eq_true.1 hall key h)

theorem params_keys (settings : PostgresqlProbeSettings) : (settings.params.map Prod.fst).Sublist keywords := by
  unfold params keywords
  cases settings.password with
  | none => exact List.sublist_append_left _ ["password".toList]
  | some password => exact List.Sublist.refl _

theorem params_keys_nodup (settings : PostgresqlProbeSettings) : (settings.params.map Prod.fst).Nodup :=
  settings.params_keys.nodup (by decide)

theorem key_mem {settings : PostgresqlProbeSettings} {p : List Char × List Char} (h : p ∈ settings.params) :
    p.1 ∈ keywords :=
  settings.params_keys.subset (List.mem_map_of_mem h)

theorem plain_toString (n : Nat) : Plain (toString n).toList := by
  have hdigit : ∀ c ∈ (toString n).toList, c.isDigit = true := fun c hc =>
    Nat.isDigit_of_mem_toDigits (by decide) (by decide) (Nat.toList_repr ▸ hc)
  constructor
  · exact Nat.toList_repr ▸ Nat.toDigits_ne_nil
  · intro hquote
    have hdigit := hdigit _ (List.mem_of_mem_head? hquote)
    revert hdigit
    decide
  · refine fun c hc => ⟨RustStr.isWhitespace_of_isDigit (hdigit c hc), ?_⟩
    rintro rfl
    have hdigit := hdigit _ hc
    revert hdigit
    decide

theorem plainValues_iff (settings : PostgresqlProbeSettings) :
    PlainValues settings ↔ ∀ p ∈ settings.params, Plain p.2 := by
  unfold params
  constructor
  · intro h p hp
    rcases List.mem_append.1 hp with hp | hp
    · simp only [List.mem_cons, List.not_mem_nil, or_false] at hp
      rcases hp with rfl | rfl | rfl | rfl
      · exact h.host
      · exact plain_toString settings.port
      · exact h.user
      · exact h.database
    · obtain ⟨password, hpassword, rfl⟩ := List.mem_map.1 hp
      exact h.password password (Option.mem_toList.1 hpassword)
  · intro h
    simp only [List.forall_mem_append, List.forall_mem_cons, List.forall_mem_map] at h
    obtain ⟨⟨hhost, -, huser, hdatabase, -⟩, hpassword⟩ := h
    exact ⟨hhost, huser, hdatabase, fun password hp => hpassword password (Option.mem_toList.2 hp)⟩

/-- Plain values are read as they are. -/
theorem parse_of_plain (settings : PostgresqlProbeSettings) (h : PlainValues settings) :
    KeyValue.parse settings.connectionString.toList = .ok settings.params := by
  rw [connectionString_toList]
  have hplain := settings.plainValues_iff.1 h
  exact KeyValue.parse_render (fun p hp => ⟨isKey_of_mem (key_mem hp), hplain p hp⟩)

/-- **The settings are read back, and nothing else, exactly when every value is plain.** -/
theorem connectionString_read_iff (settings : PostgresqlProbeSettings) :
    (∃ read, KeyValue.parse settings.connectionString.toList = .ok read ∧ ReadAs settings read) ↔
      PlainValues settings := by
  constructor
  · rw [connectionString_toList, plainValues_iff]
    rintro ⟨read, hparse, hread⟩
    exact KeyValue.plain_of_read_back (by simp [params]) settings.params_keys_nodup.of_map hparse
      (fun p hp => hread.mem_iff.2 hp)
  · intro h
    exact ⟨settings.params, settings.parse_of_plain h, List.Perm.refl _⟩

end PostgresqlProbeSettings

/-- A password with a host behind it. -/
def hostInPassword : PostgresqlConfig := { password := some "s host=evil" }

def hostInPasswordSettings : PostgresqlProbeSettings :=
  applyPostgresqlProbeOverridesFromConfig (defaultSettings anyService 5432) hostInPassword

/-- A second host is read from the password, next to the one of the service. -/
theorem hostInPassword_redirects : ¬ ∃ read,
    KeyValue.parse hostInPasswordSettings.connectionString.toList = .ok read ∧
      hostInPasswordSettings.ReadAs read := by
  rintro ⟨read, hparse, hread⟩
  have hhosts : (KeyValue.parse hostInPasswordSettings.connectionString.toList).toOption.map
      (List.filter (fun p => p.1 = "host".toList)) = some [("host".toList,
        "postgres.prod.svc.cluster.local".toList), ("host".toList, "evil".toList)] := by
    decide +kernel
  rw [hparse] at hhosts
  have htwo := congrArg List.length (Option.some.inj hhosts)
  rw [(hread.filter _).length_eq] at htwo
  revert htwo
  decide +kernel

end Plugins
end HubAgent
