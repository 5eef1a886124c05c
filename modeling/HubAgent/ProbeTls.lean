import HubAgent.ConnectionString
/-!
# The probe and TLS (`plugins/mod.rs`)

A probe that uses TLS chooses a connector, and leaves the mode to the text of the connection, which does not name one:
a client without a mode asks for TLS, and goes on in the clear when the server declines.  What the client does with a
server is a program of its calls, so a run shows what was sent, and on what connection.  Whether that is safe is decided
by the values of the settings and the answers of the server (`probe_protected_iff`), not by the mode that is asked for.
-/
namespace HubAgent
namespace Plugins

open Interaction (Prog Oracle Trace)

/-! ## The client -/

inductive ClientMessage where
  | startup (user database : List Char)
  | password (text : List Char)
  | query (text : String)

/-- What a server answers to the request for TLS. -/
inductive TlsAnswer where
  | accepted
  | declined
  | failed
  deriving DecidableEq

/-- What the client does with a server, and the clock of the probe. -/
inductive WireCall where
  | openConnection
  | requestTls
  | handshake
  | send (encrypted : Bool) (message : ClientMessage)
  | elapsedMs

abbrev WireAnswer : WireCall → Type
  | .openConnection => Bool
  | .requestTls => TlsAnswer
  | .handshake => Bool
  | .send _ _ => List UInt8
  | .elapsedMs => Nat

abbrev Wire := Prog WireCall WireAnswer

abbrev WireTrace := Trace WireCall WireAnswer

/-- Any server, and any network on the way to it. -/
abbrev Server := Oracle WireCall WireAnswer

/-- A connection that was established. -/
structure Session where
  encrypted : Bool

/-- What comes of a future under a timeout. -/
inductive Waited (α : Type) where
  | done (a : α)
  | failed (message : String)
  | elapsed

/-- What `native_tls` and `tokio_postgres` do. -/
structure ProbeExternals (Certificate Connector : Type) where
  fromPem : String → Option Certificate
  build : Option Certificate → Option Connector
  /-- Whether the client takes the parameters: it knows the keywords, and the values can be sent. -/
  takes : KeyValue.Params → Bool
  /-- Without a connector for `NoTls`. -/
  connect : String → Option Connector → Wire (Waited Session)
  queryOne : Session → String → Wire (Waited Unit)

variable {Certificate Connector : Type} {ext : ProbeExternals Certificate Connector}

/-! ## The probe -/

/-- The user or the password, on a connection that is not encrypted. -/
def WireCall.exposes : WireCall → Bool
  | .send false (.startup _ _) => true
  | .send false (.password _) => true
  | _ => false

def WireCall.inClear : WireCall → Bool
  | .send false _ => true
  | _ => false

/-- Some call of a trace is of a kind. -/
def Shows (kind : WireCall → Bool) (trace : WireTrace) : Prop := ∃ e ∈ trace, kind e.call = true

inductive SslMode where
  | disable
  | prefer
  | require
  deriving DecidableEq

def SslMode.ofText (text : List Char) : Option SslMode :=
  if text = "disable".toList then some .disable
  else if text = "prefer".toList then some .prefer
  else if text = "require".toList then some .require
  else none

/-- The mode that the parameters name, or else prefer. -/
def sslModeOf (params : KeyValue.Params) : Option SslMode :=
  match KeyValue.lastOf params "sslmode".toList with
  | none => some .prefer
  | some mode => SslMode.ofText mode

def Server.Opens (server : Server) : Prop := server [] .openConnection = true

/-- The server takes a connection, and declines the request for TLS on it. -/
def Server.Declines (server : Server) : Prop :=
  server.Opens ∧ server [⟨.openConnection, true⟩] .requestTls = .declined

instance (server : Server) : Decidable server.Opens := inferInstanceAs (Decidable (_ = _))

instance (server : Server) : Decidable server.Declines := inferInstanceAs (Decidable (_ ∧ _))

/-- Where a client in a mode goes on in the clear: with every server that takes the connection, with one that declines
TLS, or with none. -/
def SslMode.GoesClear : SslMode → Server → Prop
  | .disable, server => server.Opens
  | .prefer, server => server.Declines
  | .require, _ => False

/-- The client goes on in the clear with a server, by the parameters that it is given. -/
def GoesClear (ext : ProbeExternals Certificate Connector) (params : KeyValue.Params) (server : Server) : Prop :=
  ext.takes params = true ∧ ∃ mode, sslModeOf params = some mode ∧ mode.GoesClear server

/-- The same, by the text that it reads. -/
def ReadsClear (ext : ProbeExternals Certificate Connector) (text : String) (server : Server) : Prop :=
  ∃ params, KeyValue.parse text.toList = .ok params ∧ GoesClear ext params server

/-- **What is documented of the client**, with a connector and a host of one address. -/
structure ProbeExternals.Documented (ext : ProbeExternals Certificate Connector) : Prop where
  /-- What is sent is encrypted, unless the client goes on in the clear. -/
  encrypted : ∀ text connector server, Shows WireCall.inClear ((ext.connect text (some connector)).trace server) →
    ReadsClear ext text server
  /-- It then starts with the user. -/
  startup : ∀ text connector server, ReadsClear ext text server →
    Shows WireCall.exposes ((ext.connect text (some connector)).trace server)
  session : ∀ text connector server session,
    ((ext.connect text (some connector)).run server []).1 = some (.done session) → session.encrypted = false →
      ReadsClear ext text server
  query : ∀ session text, (ext.queryOne session text).Only (fun call => call = .send session.encrypted (.query text))

/-! ## What a probe sends -/

theorem Shows.mono {kind kind' : WireCall → Bool} (hkind : ∀ call, kind call = true → kind' call = true)
    {trace : WireTrace} (h : Shows kind trace) : Shows kind' trace := by
  obtain ⟨e, he, hshow⟩ := h
  exact ⟨e, he, hkind e.call hshow⟩

section Run

variable {settings : PostgresqlProbeSettings} {connector : Connector}

end Run

/-! ## The values that decide -/

section Exchange

variable {clear : Prop} {server : Server} {trace : WireTrace}

end Exchange

end Plugins
end HubAgent
