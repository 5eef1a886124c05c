import HubAgent.Lib.Interaction
import HubAgent.Config
import HubAgent.Command
/-!
# The client of the Hub (`hub.rs`)

A call of the client is a program over its requests, the sleeps between its rounds and the metrics it increments.  A
request is answered by a response or a transport error; `serde_json::from_str` on a body is a field of `Decoders`.  An
error keeps the parts of its text.
-/
namespace HubAgent
namespace Hub

open Interaction (Prog)

/-! ## Routes -/

structure HubRoutes where
  legacyBase : String
  apiBase : String
  preferApi : Bool

def HubRoutes.new (cfg : Config) : HubRoutes :=
  if ("/api".toList).isSuffixOf cfg.hubUrl.toList then
    { legacyBase := String.ofList (RustStr.trimEndMatches "/api".toList cfg.hubUrl.toList)
      apiBase := cfg.hubUrl, preferApi := true }
  else { legacyBase := cfg.hubUrl, apiBase := s!"{cfg.hubUrl}/api", preferApi := false }

def dedupeUrls (urls : List String) : List String :=
  urls.foldl (fun out url => if out.all (· ≠ url) then out ++ [url] else out) []

theorem dedupeUrls_pair {a b : String} (h : a ≠ b) : dedupeUrls [a, b] = [a, b] := by
  simp [dedupeUrls, h]

theorem dedupeUrls_ne_nil (a b : String) : dedupeUrls [a, b] ≠ [] := by
  by_cases h : a = b
  · simp [dedupeUrls, h]
  · rw [dedupeUrls_pair h]
    exact List.cons_ne_nil _ _

def HubRoutes.ordered (r : HubRoutes) (legacy api : String) : List String :=
  if r.preferApi then dedupeUrls [api, legacy] else dedupeUrls [legacy, api]

def HubRoutes.inventoryUrls (r : HubRoutes) (clusterId : String) : List String :=
  r.ordered s!"{r.legacyBase}/v1/clusters/{clusterId}/inventory" s!"{r.apiBase}/v1/agent/ingest"

def HubRoutes.pollUrls (r : HubRoutes) (clusterId : String) (waitSecs : Nat) : List String :=
  r.ordered s!"{r.legacyBase}/v1/clusters/{clusterId}/commands/poll?wait={waitSecs}s"
    s!"{r.apiBase}/v1/clusters/{clusterId}/commands/poll?wait={waitSecs}s"

def HubRoutes.clusterStatusUrls (r : HubRoutes) (clusterId : String) : List String :=
  r.ordered s!"{r.legacyBase}/v1/clusters/{clusterId}" s!"{r.apiBase}/v1/clusters/{clusterId}"

def HubRoutes.ackUrls (r : HubRoutes) (clusterId commandId : String) : List String :=
  r.ordered s!"{r.legacyBase}/v1/clusters/{clusterId}/commands/{commandId}/ack"
    s!"{r.apiBase}/v1/clusters/{clusterId}/commands/{commandId}/ack"

/-! ## Requests and their answers -/

structure Response where
  status : Nat
  contentType : Option String := none
  body : Except String String := .ok ""

namespace Response

def isSuccess (r : Response) : Bool := decide (200 ≤ r.status ∧ r.status ≤ 299)

def isClientError (r : Response) : Bool := decide (400 ≤ r.status ∧ r.status ≤ 499)

/-- A client error that is no 408 and no 429. -/
def isRejection (r : Response) : Bool := r.isClientError && r.status != 408 && r.status != 429

/-- `response_content_type`. -/
def contentTypeText (r : Response) : String := r.contentType.getD "<none>"

/-- `text().await.unwrap_or_default()`. -/
def text (r : Response) : String := r.body.toOption.getD ""

end Response

structure TransportError where
  isTimeout : Bool
  text : String

abbrev Reply := Except TransportError Response

inductive Counter where
  | snapshotSendSuccess
  | snapshotSendFailure
  | commandPollSuccess
  | commandPollEmpty
  | commandPollFailure
  | commandAckSuccess
  | commandAckFailure
  deriving DecidableEq

inductive HubCall where
  | postSnapshot (url : String)
  | getCommands (url : String) (timeout : Duration)
  | postResult (url : String)
  | sleep (secs : Nat)
  | inc (counter : Counter)

@[reducible] def HubAnswer : HubCall → Type
  | .postSnapshot _ => Reply
  | .getCommands _ _ => Reply
  | .postResult _ => Reply
  | .sleep _ => Unit
  | .inc _ => Unit

abbrev HubProg (α : Type) := Prog HubCall HubAnswer α

abbrev HubEvent := Interaction.Event HubCall HubAnswer

abbrev HubTrace := Interaction.Trace HubCall HubAnswer

abbrev HubOracle := Interaction.Oracle HubCall HubAnswer

abbrev hub (op : HubCall) : HubProg (HubAnswer op) := Prog.ask op

structure SnapshotCreated where
  alreadyExisted : Bool := false

structure CommandBatch where
  commands : List Command

/-- `serde_json::from_str` at the types of the bodies. -/
structure Decoders where
  snapshotCreated : String → Except String SnapshotCreated
  commandBatch : String → Except String CommandBatch

/-! ## Errors -/

def sanitizeForLog (input : String) : String :=
  String.ofList (input.toList.map (fun c => if RustStr.isControl c then ' ' else c))

def bodyPreview (body : String) : String :=
  let trimmed := RustStr.trim (sanitizeForLog body)
  if trimmed.length > 200 then String.ofList (trimmed.toList.take 200) ++ "..." else trimmed

def bodyFull (body : String) : String := RustStr.trim (sanitizeForLog body)

def bodyForLog (cfg : Config) : Option String → String
  | some body => if cfg.fullDebug then bodyFull body else bodyPreview body
  | none => "<disabled>"

def errorBodyForLog (cfg : Config) (body : Option String) : String :=
  if cfg.httpDebugBodies then bodyForLog cfg body else "<body logging disabled>"

inductive HubError where
  /-- "error decoding {what} body: {text} (status={status}, content_type={contentType}, body_preview={preview})" -/
  | decoding (what text : String) (status : Nat) (contentType preview : String)
  /-- "hub rejected snapshot: {status} (content_type={contentType}, body_preview={preview})" -/
  | rejected (status : Nat) (contentType preview : String)
  /-- "poll status {status} (content_type={contentType}, body_preview={preview})" -/
  | pollStatus (status : Nat) (contentType preview : String)
  | attemptStatus (attempt status : Nat)
  | attemptError (attempt : Nat) (text : String)
  | transport (text : String)
  | other (text : String)
  deriving DecidableEq

/-! ## `send_snapshot` -/

/-- How a round over the routes ends: the call returns, or all routes are spent. -/
inductive RoundEnd where
  | finished (result : Except HubError Unit)
  | spent (lastErr : Option HubError)

/-- A body that is there is decoded; what it says is only logged. -/
def decodeCreated (d : Decoders) (r : Response) : Except String Unit :=
  if RustStr.trim r.text = "" then .ok () else (d.snapshotCreated r.text).map (fun _ => ())

def snapshotRound (d : Decoders) (cfg : Config) (attempt : Nat) : List String → Option HubError → HubProg RoundEnd
  | [], lastErr => return .spent lastErr
  | url :: rest, lastErr => do
    match ← hub (.postSnapshot url) with
    | .error e => snapshotRound d cfg attempt rest (some (.attemptError attempt e.text))
    | .ok r =>
      if r.isSuccess then
        match decodeCreated d r with
        | .error e =>
          -- `?`: neither metric is incremented
          return .finished (.error (.decoding "inventory response" e r.status r.contentTypeText
            (errorBodyForLog cfg (some r.text))))
        | .ok () =>
          hub (.inc .snapshotSendSuccess)
          return .finished (.ok ())
      else if r.status = 404 ∧ rest ≠ [] then snapshotRound d cfg attempt rest lastErr
      else if r.isRejection then
        hub (.inc .snapshotSendFailure)
        return .finished (.error (.rejected r.status r.contentTypeText
          (errorBodyForLog cfg (if cfg.httpDebugBodies then some r.text else none))))
      else snapshotRound d cfg attempt rest (some (.attemptStatus attempt r.status))

/-- The loop over the backoffs, from the round `attempt` on. -/
def snapshotRounds (d : Decoders) (cfg : Config) (urls : List String) : Nat → List Nat → Option HubError →
    HubProg (Except HubError Unit)
  | _, [], lastErr => do
    hub (.inc .snapshotSendFailure)
    return .error (lastErr.getD (.other "snapshot retries exhausted"))
  | attempt, delay :: backoffs, lastErr => do
    if delay ≠ 0 then hub (.sleep delay)
    match ← snapshotRound d cfg attempt urls lastErr with
    | .finished result => return result
    | .spent lastErr => snapshotRounds d cfg urls (attempt + 1) backoffs lastErr

def backoffs : List Nat := [0, 2, 5]

def sendSnapshotTo (d : Decoders) (cfg : Config) (urls : List String) : HubProg (Except HubError Unit) :=
  snapshotRounds d cfg urls 1 backoffs none

def sendSnapshot (d : Decoders) (cfg : Config) : HubProg (Except HubError Unit) :=
  sendSnapshotTo d cfg ((HubRoutes.new cfg).inventoryUrls cfg.clusterId)

/-! ## `poll_commands` and `ack_command` -/

/-- Slightly longer than the server waits. -/
def pollTimeout (cfg : Config) : Except DurationPanic Duration := cfg.pollWait.add (.fromSecs 10)

def pollUrl (d : Decoders) (cfg : Config) (timeout : Duration) : List String → HubProg (Except HubError CommandBatch)
  | [] => do
    hub (.inc .commandPollFailure)
    return .error (.other "poll status 404 Not Found")
  | url :: rest => do
    match ← hub (.getCommands url timeout) with
    | .error e =>
      if e.isTimeout then
        hub (.inc .commandPollEmpty)
        return .ok ⟨[]⟩
      else
        hub (.inc .commandPollFailure)
        return .error (.transport e.text)
    | .ok r =>
      if r.status = 204 then
        hub (.inc .commandPollEmpty)
        return .ok ⟨[]⟩
      else if r.status = 404 ∧ rest ≠ [] then pollUrl d cfg timeout rest
      else if r.isSuccess = false then
        hub (.inc .commandPollFailure)
        return .error (.pollStatus r.status r.contentTypeText (errorBodyForLog cfg (some r.text)))
      else if RustStr.trim r.text = "" then
        hub (.inc .commandPollEmpty)
        return .ok ⟨[]⟩
      else
        match d.commandBatch r.text with
        | .ok batch =>
          hub (.inc (if batch.commands.isEmpty then .commandPollEmpty else .commandPollSuccess))
          return .ok batch
        | .error e =>
          hub (.inc .commandPollFailure)
          return .error (.decoding "response" e r.status r.contentTypeText (errorBodyForLog cfg (some r.text)))

/-- A poll panics before its first request where the time out overflows. -/
def pollCommands (d : Decoders) (cfg : Config) : HubProg (Except DurationPanic (Except HubError CommandBatch)) :=
  match pollTimeout cfg with
  | .error panic => return .error panic
  | .ok timeout => do
    let batch ← pollUrl d cfg timeout ((HubRoutes.new cfg).pollUrls cfg.clusterId cfg.pollWait.secs)
    return .ok batch

def ackUrl : List String → HubProg (Except HubError Unit)
  | [] => return .ok ()
  | url :: rest => do
    match ← hub (.postResult url) with
    | .error e =>
      hub (.inc .commandAckFailure)
      return .error (.transport e.text)
    | .ok r =>
      if r.status = 404 ∧ rest ≠ [] then ackUrl rest
      else
        -- a refusal is only logged
        hub (.inc (if r.isSuccess then .commandAckSuccess else .commandAckFailure))
        return .ok ()

def ackCommand (cfg : Config) (result : CommandResult) : HubProg (Except HubError Unit) :=
  ackUrl ((HubRoutes.new cfg).ackUrls cfg.clusterId result.commandId)

end Hub
end HubAgent
