import HubAgent.Postgres
/-!
# The settings of the probe (`plugins/mod.rs`)

The settings of a probe start from its service and are overlaid twice: with the values of a Secret, then with those of
the environment.  What is overlaid last wins, so the Secret is first only where the two do not differ
(`secret_first_iff`).
-/
namespace HubAgent
namespace Plugins

structure PostgresqlProbeSettings where
  host : String
  port : Nat
  user : String
  password : Option String
  database : String
  sslmode : String
  sslrootcert : Option String

/-- A value that is not blank, trimmed. -/
def nonBlank (value : Option String) : Option String := (value.filter (fun v => RustStr.trim v ≠ "")).map RustStr.trim

/-- `str::parse::<u16>`, of the trimmed text. -/
def parsePort (value : String) : Option Nat := (RustStr.parseUnsigned 65535 (RustStr.trim value).toList).toOption

def applyPostgresqlProbeOverrides (settings : PostgresqlProbeSettings) (values : StrMap String) :
    PostgresqlProbeSettings where
  host := (nonBlank (values.lookup "host")).getD settings.host
  port := ((values.lookup "port").bind parsePort).getD settings.port
  user := (nonBlank (values.lookup "user")).getD settings.user
  password := (nonBlank (values.lookup "password")).or settings.password
  database := (nonBlank (values.lookup "database")).getD settings.database
  sslmode := (nonBlank (values.lookup "sslmode")).getD settings.sslmode
  sslrootcert := (nonBlank (values.lookup "sslrootcert")).or settings.sslrootcert

def applyPostgresqlProbeOverridesFromConfig (settings : PostgresqlProbeSettings) (cfg : PostgresqlConfig) :
    PostgresqlProbeSettings where
  host := (nonBlank cfg.host).getD settings.host
  port := cfg.port.getD settings.port
  user := (nonBlank cfg.user).getD settings.user
  password := (nonBlank cfg.password).or settings.password
  database := (nonBlank cfg.database).getD settings.database
  sslmode := (nonBlank cfg.sslmode).getD settings.sslmode
  sslrootcert := (nonBlank cfg.sslrootcert).or settings.sslrootcert

/-- `Api::get_opt` for a Secret of a namespace. -/
abbrev SecretReader := String → String → Except String (Option Secret)

def textValues (data : StrMap ByteString) : StrMap String :=
  (KeyOrder.inOrder data).foldl (fun values entry =>
    match String.fromUTF8? entry.2.toByteArray with
    | some value => values.insert entry.1 value
    | none => values) ∅

def loadSecretStringData (client : SecretReader) (namespace_ secretName : String) : Option (StrMap String) :=
  match client namespace_ secretName with
  | .ok (some secret) => some (textValues (secret.data.getD ∅))
  | _ => none

def postgresqlServiceHost (service : ServiceInfo) : String :=
  service.name ++ "." ++ service.namespace_ ++ ".svc.cluster.local"

def defaultSettings (service : ServiceInfo) (port : Nat) : PostgresqlProbeSettings where
  host := postgresqlServiceHost service
  port := port
  user := "postgres"
  password := none
  database := "postgres"
  sslmode := "disable"
  sslrootcert := none

/-- The Secret's values, if there is a client and a name, and it can be read. -/
def secretData (client : Option SecretReader) (cfg : PostgresqlConfig) (service : ServiceInfo) :
    Option (StrMap String) :=
  match client, cfg.secretName with
  | some client, some secretName => loadSecretStringData client service.namespace_ secretName
  | _, _ => none

def resolvePostgresqlProbeSettings (client : Option SecretReader) (cfg : PostgresqlConfig) (service : ServiceInfo)
    (port : Nat) : PostgresqlProbeSettings :=
  let settings := defaultSettings service port
  let settings := match secretData client cfg service with
    | some values => applyPostgresqlProbeOverrides settings values
    | none => settings
  applyPostgresqlProbeOverridesFromConfig settings cfg

/-! ## Precedence -/

/-- What a source sets. -/
structure ProbeValues where
  host : Option String
  port : Option Nat
  user : Option String
  password : Option String
  database : Option String
  sslmode : Option String
  sslrootcert : Option String

def secretValues (client : Option SecretReader) (cfg : PostgresqlConfig) (service : ServiceInfo) : ProbeValues :=
  let value := fun key => (secretData client cfg service).bind (fun values => values.lookup key)
  { host := nonBlank (value "host")
    port := (value "port").bind parsePort
    user := nonBlank (value "user")
    password := nonBlank (value "password")
    database := nonBlank (value "database")
    sslmode := nonBlank (value "sslmode")
    sslrootcert := nonBlank (value "sslrootcert") }

def envValues (cfg : PostgresqlConfig) : ProbeValues where
  host := nonBlank cfg.host
  port := cfg.port
  user := nonBlank cfg.user
  password := nonBlank cfg.password
  database := nonBlank cfg.database
  sslmode := nonBlank cfg.sslmode
  sslrootcert := nonBlank cfg.sslrootcert

/-- The settings that two sources lead to, the first before the second and both before the defaults. -/
def settingsOf (first second : ProbeValues) (default : PostgresqlProbeSettings) : PostgresqlProbeSettings where
  host := (first.host.or second.host).getD default.host
  port := (first.port.or second.port).getD default.port
  user := (first.user.or second.user).getD default.user
  password := (first.password.or second.password).or default.password
  database := (first.database.or second.database).getD default.database
  sslmode := (first.sslmode.or second.sslmode).getD default.sslmode
  sslrootcert := (first.sslrootcert.or second.sslrootcert).or default.sslrootcert

/-- Two sources do not set a field to different values. -/
def Agree {α : Type} (a b : Option α) : Prop := ∀ x ∈ a, ∀ y ∈ b, x = y

structure ProbeValues.AgreeOn (a b : ProbeValues) : Prop where
  host : Agree a.host b.host
  port : Agree a.port b.port
  user : Agree a.user b.user
  password : Agree a.password b.password
  database : Agree a.database b.database
  sslmode : Agree a.sslmode b.sslmode
  sslrootcert : Agree a.sslrootcert b.sslrootcert

theorem getD_or_comm_iff {α : Type} (a b : Option α) (d : α) : (b.or a).getD d = (a.or b).getD d ↔ Agree a b := by
  cases a <;> cases b <;> simp [Agree, eq_comm]

theorem or_comm_iff {α : Type} (a b : Option α) : b.or a = a.or b ↔ Agree a b := by
  cases a <;> cases b <;> simp [Agree, eq_comm]

/-- **What is overlaid last comes first**: the environment before the Secret. -/
theorem resolve_eq (client : Option SecretReader) (cfg : PostgresqlConfig) (service : ServiceInfo) (port : Nat) :
    resolvePostgresqlProbeSettings client cfg service port =
      settingsOf (envValues cfg) (secretValues client cfg service) (defaultSettings service port) := by
  unfold resolvePostgresqlProbeSettings secretValues settingsOf applyPostgresqlProbeOverridesFromConfig envValues
  cases secretData client cfg service with
  | none => simp [nonBlank]
  | some values => simp [applyPostgresqlProbeOverrides, Option.or_assoc]

/-- **The order of two sources matters exactly where they disagree.** -/
theorem settingsOf_comm_iff (a b : ProbeValues) (service : ServiceInfo) (port : Nat) :
    settingsOf b a (defaultSettings service port) = settingsOf a b (defaultSettings service port) ↔ a.AgreeOn b := by
  simp only [settingsOf, PostgresqlProbeSettings.mk.injEq, getD_or_comm_iff, defaultSettings, Option.or_none, or_comm_iff]
  constructor
  · rintro ⟨host, port, user, password, database, sslmode, sslrootcert⟩
    exact ⟨host, port, user, password, database, sslmode, sslrootcert⟩
  · rintro ⟨host, port, user, password, database, sslmode, sslrootcert⟩
    exact ⟨host, port, user, password, database, sslmode, sslrootcert⟩

/-- **The Secret comes first exactly where the environment does not set another value.** -/
theorem secret_first_iff (client : Option SecretReader) (cfg : PostgresqlConfig) (service : ServiceInfo) (port : Nat) :
    resolvePostgresqlProbeSettings client cfg service port =
        settingsOf (secretValues client cfg service) (envValues cfg) (defaultSettings service port) ↔
      (secretValues client cfg service).AgreeOn (envValues cfg) := by
  rw [resolve_eq]
  exact settingsOf_comm_iff _ _ service port

/-- A Secret with the host of the database, and an environment with another one. -/
def secretHost : SecretReader := fun _ _ => .ok (some { data := some ((∅ : StrMap ByteString).insert "host" [100, 98]) })

def otherHost : PostgresqlConfig := { secretName := some "db", host := some "test" }

def anyService : ServiceInfo := { namespace_ := "prod", name := "postgres" }

/-- The host of the environment is taken. -/
theorem otherHost_wins : resolvePostgresqlProbeSettings (some secretHost) otherHost anyService 5432 ≠
    settingsOf (secretValues (some secretHost) otherHost anyService) (envValues otherHost)
      (defaultSettings anyService 5432) := by
  intro h
  have hhost := congrArg PostgresqlProbeSettings.host h
  revert hhost
  decide +kernel

end Plugins
end HubAgent
