import HubAgent.HubSpec
/-!
# The metrics of the Hub's client

Every exit of a call increments one metric, but two: `send_snapshot` leaves through a `?` when the body of an accepting
response does not decode, and `poll_commands` panics where the wait and its ten seconds overflow
(`hub_calls_counted_iff`).
-/
namespace HubAgent
namespace Hub

open Interaction

/-! ## What a result is counted as -/

def sendFits : Except HubError Unit → Counter → Prop
  | .ok _, c => c = .snapshotSendSuccess
  | .error _, c => c = .snapshotSendFailure

def batchFits : Except HubError CommandBatch → Counter → Prop
  | .ok _, c => c = .commandPollSuccess ∨ c = .commandPollEmpty
  | .error _, c => c = .commandPollFailure

/-- A panic fits no metric. -/
def pollFits : Except DurationPanic (Except HubError CommandBatch) → Counter → Prop
  | .ok batch, c => batchFits batch c
  | .error _, _ => False

def ackFits (_ : Except HubError Unit) (c : Counter) : Prop := c = .commandAckSuccess ∨ c = .commandAckFailure

/-- One metric more, and one that fits the result. -/
def CountsOne {α : Type} (fits : α → Counter → Prop) (tr : HubTrace) (result : α) (tr' : HubTrace) : Prop :=
  ∃ c, increments tr' = increments tr ++ [c] ∧ fits result c

/-- A call that returns, counted by one metric that fits its result. -/
def CountedOnce {α : Type} (fits : α → Counter → Prop) (m : HubProg α) (o : HubOracle) : Prop :=
  ∃ result c, (m.run o []).1 = some result ∧ increments (m.trace o) = [c] ∧ fits result c

section Counting

variable {α : Type} {fits : α → Counter → Prop}

theorem countedOnce_of_ends {m : HubProg α} (h : m.Ends (CountsOne fits []) []) (o : HubOracle) :
    CountedOnce fits m o := by
  obtain ⟨result, hresult, c, hinc, hfits⟩ := run_ends o h
  exact ⟨result, c, hresult, hinc, hfits⟩

theorem exit_counts {tr : HubTrace} {e : HubEvent} (he : incremented e = none) {c : Counter} {result : α}
    (hfits : fits result c) : (do hub (.inc c); return result : HubProg α).Ends
      (CountsOne fits tr) (tr ++ [e]) := by
  refine fun u => ⟨c, ?_, hfits⟩
  rw [increments_concat, increments_concat, he]
  simp [incremented]

theorem CountsOne.later {tr tr' : HubTrace} {e : HubEvent} (he : incremented e = none) {result : α}
    (h : CountsOne fits (tr ++ [e]) result tr') : CountsOne fits tr result tr' := by
  obtain ⟨c, hinc, hfits⟩ := h
  refine ⟨c, ?_, hfits⟩
  rw [hinc, increments_concat, he]
  simp

end Counting

/-! ## `poll_commands` -/

theorem pollUrl_counts (d : Decoders) (cfg : Config) (timeout : Duration) : ∀ (urls : List String) (tr : HubTrace),
    (pollUrl d cfg timeout urls).Ends (CountsOne batchFits tr) tr
  | [], tr => by
    refine fun u => ⟨.commandPollFailure, ?_, rfl⟩
    rw [increments_concat]
    rfl
  | url :: rest, tr => by
    rw [pollUrl, ends_ask_bind]
    intro x
    have hquiet : incremented ⟨.getCommands url timeout, x⟩ = none := rfl
    cases x with
    | error e =>
      dsimp only
      by_cases ht : e.isTimeout = true
      · rw [if_pos ht]
        exact exit_counts hquiet (.inr rfl)
      · rw [if_neg ht]
        exact exit_counts hquiet rfl
    | ok r =>
      dsimp only
      by_cases h204 : r.status = 204
      · rw [if_pos h204]
        exact exit_counts hquiet (.inr rfl)
      rw [if_neg h204]
      by_cases h404 : r.status = 404 ∧ rest ≠ []
      · rw [if_pos h404]
        exact (pollUrl_counts d cfg timeout rest _).mono (fun _ _ h => h.later hquiet)
      rw [if_neg h404]
      by_cases hs : r.isSuccess = false
      · rw [if_pos hs]
        exact exit_counts hquiet rfl
      rw [if_neg hs]
      by_cases hb : RustStr.trim r.text = ""
      · rw [if_pos hb]
        exact exit_counts hquiet (.inr rfl)
      rw [if_neg hb]
      cases d.commandBatch r.text with
      | error e => exact exit_counts hquiet rfl
      | ok batch =>
        dsimp only
        apply exit_counts hquiet
        cases batch.commands.isEmpty with
        | true => exact .inr rfl
        | false => exact .inl rfl

/-- **A poll is counted once exactly where its time out does not overflow.** -/
theorem pollCommands_counted_iff (d : Decoders) (cfg : Config) (o : HubOracle) :
    CountedOnce pollFits (pollCommands d cfg) o ↔ cfg.pollWait.secs + 10 < 18446744073709551616 := by
  have htimeout : (∃ timeout, pollTimeout cfg = .ok timeout) ↔ cfg.pollWait.secs + 10 < 18446744073709551616 := by
    have hnanos : (cfg.pollWait.nanos + 0) / 1000000000 = 0 := Nat.div_eq_of_lt cfg.pollWait.nanos_lt
    have hsum : cfg.pollWait.secs + 10 + (cfg.pollWait.nanos + 0) / 1000000000 = cfg.pollWait.secs + 10 := by
      rw [hnanos, Nat.add_zero]
    rw [pollTimeout, Duration.add_isOk_iff, ← hsum]
    exact Iff.rfl
  rw [← htimeout]
  constructor
  · rintro ⟨result, c, hresult, -, hfits⟩
    cases hpanic : pollTimeout cfg with
    | ok timeout => exact ⟨timeout, rfl⟩
    | error panic =>
      rw [pollCommands, hpanic] at hresult
      cases hresult
      exact hfits.elim
  · rintro ⟨timeout, hok⟩
    apply countedOnce_of_ends
    rw [pollCommands, hok]
    exact Prog.Ends.bind (fun _ _ h => h) (pollUrl_counts d cfg timeout _ [])

/-! ## `ack_command` -/

theorem ackUrl_counts : ∀ (urls : List String) (tr : HubTrace), urls ≠ [] →
    (ackUrl urls).Ends (CountsOne ackFits tr) tr
  | [], _, hne => absurd rfl hne
  | url :: rest, tr, _ => by
    rw [ackUrl, ends_ask_bind]
    intro x
    have hquiet : incremented ⟨.postResult url, x⟩ = none := rfl
    cases x with
    | error e => exact exit_counts hquiet (.inr rfl)
    | ok r =>
      dsimp only
      by_cases h404 : r.status = 404 ∧ rest ≠ []
      · rw [if_pos h404]
        exact (ackUrl_counts rest _ h404.2).mono (fun _ _ h => h.later hquiet)
      rw [if_neg h404]
      apply exit_counts hquiet
      by_cases hs : r.isSuccess = true
      · rw [if_pos hs]
        exact .inl rfl
      · rw [if_neg hs]
        exact .inr rfl

theorem ackUrls_ne_nil (r : HubRoutes) (clusterId commandId : String) : r.ackUrls clusterId commandId ≠ [] := by
  rw [HubRoutes.ackUrls, HubRoutes.ordered]
  by_cases hapi : r.preferApi = true
  · rw [if_pos hapi]
    exact dedupeUrls_ne_nil _ _
  · rw [if_neg hapi]
    exact dedupeUrls_ne_nil _ _

/-! ## `send_snapshot` -/

/-- What a call of `send_snapshot` counts, by the verdict of its last round. -/
theorem total_eq_one_iff {v : Verdict} {result : Except HubError Unit} (hok : result = .ok () ↔ v = .accepted) :
    (∃ c, v.total = [c] ∧ sendFits result c) ↔ v ≠ .undecodable := by
  have hresult : v ≠ .accepted → ∃ e, result = .error e := by
    intro hv
    cases result with
    | ok u => exact absurd (hok.1 rfl) hv
    | error e => exact ⟨e, rfl⟩
  constructor
  · rintro ⟨c, hc, -⟩ rfl
    cases hc
  · intro hv
    cases v with
    | accepted =>
      rw [hok.2 rfl]
      exact ⟨_, rfl, rfl⟩
    | undecodable => exact absurd rfl hv
    | rejected =>
      obtain ⟨e, rfl⟩ := hresult (by decide)
      exact ⟨_, rfl, rfl⟩
    | passedOver =>
      obtain ⟨e, rfl⟩ := hresult (by decide)
      exact ⟨_, rfl, rfl⟩

theorem sendSnapshot_counted_iff (d : Decoders) (cfg : Config) (o : HubOracle) :
    CountedOnce sendFits (sendSnapshot d cfg) o ↔
      ∀ posts ∈ roundsOf ((sendSnapshot d cfg).trace o), ∀ post ∈ posts, ¬ Garbled d post.2 := by
  obtain ⟨result, rounds, v, hresult, hrounds, hsend, hinc, hok⟩ :=
    sendSnapshotTo_log d cfg ((HubRoutes.new cfg).inventoryUrls cfg.clusterId) o
  have hread : (∀ posts ∈ rounds, ∀ post ∈ posts, ¬ Garbled d post.2) ↔ v ≠ .undecodable := by
    rw [Ne, hsend.undecodable_iff]
    simp
  rw [sendSnapshot, hrounds, hread, ← total_eq_one_iff hok]
  constructor
  · rintro ⟨result', c, hresult', hinc', hfits⟩
    rw [hresult] at hresult'
    cases hresult'
    exact ⟨c, hinc.symm.trans hinc', hfits⟩
  · rintro ⟨c, hc, hfits⟩
    exact ⟨result, c, hresult, hinc.trans hc, hfits⟩

/-! ## Every call is counted once -/

structure CallsCountedOnce (d : Decoders) (cfg : Config) (result : CommandResult) (o : HubOracle) : Prop where
  send : CountedOnce sendFits (sendSnapshot d cfg) o
  poll : CountedOnce pollFits (pollCommands d cfg) o
  ack : CountedOnce ackFits (ackCommand cfg result) o

/-- **Every call is counted once exactly when no snapshot is accepted with a body that does not decode, and the poll can
wait ten seconds longer.** -/
theorem hub_calls_counted_iff (d : Decoders) (cfg : Config) (result : CommandResult) (o : HubOracle) :
    CallsCountedOnce d cfg result o ↔
      (∀ posts ∈ roundsOf ((sendSnapshot d cfg).trace o), ∀ post ∈ posts, ¬ Garbled d post.2) ∧
        cfg.pollWait.secs + 10 < 18446744073709551616 := by
  rw [← sendSnapshot_counted_iff, ← pollCommands_counted_iff d cfg o]
  constructor
  · exact fun h => ⟨h.send, h.poll⟩
  · rintro ⟨hsend, hpoll⟩
    have hack := ackUrl_counts _ [] (ackUrls_ne_nil (HubRoutes.new cfg) cfg.clusterId result.commandId)
    exact ⟨hsend, hpoll, countedOnce_of_ends hack o⟩

def objectDecoders : Decoders where
  snapshotCreated := fun body => if body = "{}" then .ok {} else .error "expected value at line 1 column 1"
  commandBatch := fun _ => .ok ⟨[]⟩

/-- Something in front of the Hub accepts the snapshot with a page of its own. -/
def proxyPage : HubOracle := fun _ op =>
  match op with
  | .postSnapshot _ => .ok { status := 200, contentType := some "text/html", body := .ok "<html>" }
  | .getCommands _ _ => .ok { status := 204 }
  | .postResult _ => .ok { status := 204 }
  | .sleep _ => ()
  | .inc _ => ()

/-- The call fails, and neither metric shows it. -/
theorem proxyPage_not_counted :
    ((sendSnapshot objectDecoders { clusterId := "c1" }).run proxyPage []).1 = some (.error (.decoding
      "inventory response" "expected value at line 1 column 1" 200 "text/html" "<body logging disabled>")) ∧
    increments ((sendSnapshot objectDecoders { clusterId := "c1" }).trace proxyPage) = [] ∧
    ∀ result, ¬ CallsCountedOnce objectDecoders { clusterId := "c1" } result proxyPage := by
  have hnone : increments ((sendSnapshot objectDecoders { clusterId := "c1" }).trace proxyPage) = [] := by rfl
  refine ⟨by rfl, hnone, fun result hcounted => ?_⟩
  obtain ⟨_, c, -, hinc, -⟩ := hcounted.send
  rw [hnone] at hinc
  cases hinc

end Hub
end HubAgent
