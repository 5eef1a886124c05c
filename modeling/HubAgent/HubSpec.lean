import HubAgent.Hub
/-!
# Delivering a snapshot: rounds, routes and metrics

A history of `send_snapshot` is read as its rounds, which the sleeps separate, each the requests made in it with their
replies.  `sendSnapshotTo_log` is the one lemma about the code: which rounds a run can have, how it ends, and what it
counts.  The retry law (`retryLaw_iff`) and the metrics (`hub_calls_counted`) are read off it.
-/
namespace HubAgent
namespace Hub

open Interaction

/-! ## Rounds -/

/-- What a reply means for the round: `more` tells whether another route is left. -/
inductive Verdict where
  | accepted
  | undecodable
  | rejected
  | passedOver
  deriving DecidableEq

def verdict (d : Decoders) (more : Bool) : Reply → Verdict
  | .error _ => .passedOver
  | .ok r =>
    if r.isSuccess then
      match decodeCreated d r with
      | .ok _ => .accepted
      | .error _ => .undecodable
    else if r.status = 404 ∧ more = true then .passedOver
    else if r.isRejection then .rejected
    else .passedOver

/-- The requests of one round and how it ends: a route is tried until a reply is not passed over. -/
def RoundLog (d : Decoders) : List String → List (String × Reply) → Verdict → Prop
  | [], posts, v => posts = [] ∧ v = .passedOver
  | url :: rest, posts, v => ∃ x more, posts = (url, x) :: more ∧
      if verdict d (!rest.isEmpty) x = .passedOver then RoundLog d rest more v
      else more = [] ∧ v = verdict d (!rest.isEmpty) x

theorem RoundLog.cases {d : Decoders} {url : String} {rest : List String} {posts : List (String × Reply)} {v : Verdict}
    (h : RoundLog d (url :: rest) posts v) : ∃ x more, posts = (url, x) :: more ∧
      (verdict d (!rest.isEmpty) x = .passedOver ∧ RoundLog d rest more v ∨
        verdict d (!rest.isEmpty) x = v ∧ v ≠ .passedOver ∧ more = []) := by
  obtain ⟨x, more, hposts, h⟩ := h
  refine ⟨x, more, hposts, ?_⟩
  by_cases hx : verdict d (!rest.isEmpty) x = .passedOver
  · rw [if_pos hx] at h
    exact .inl ⟨hx, h⟩
  · rw [if_neg hx] at h
    obtain ⟨hmore, rfl⟩ := h
    exact .inr ⟨rfl, hx, hmore⟩

/-- The rounds of one call, of at most `n`: all but the last are passed over, and the last one only if it is the
`n`th. -/
structure SendLog (d : Decoders) (urls : List String) (n : Nat) (rounds : List (List (String × Reply))) (v : Verdict) :
    Prop where
  split : ∃ init last, rounds = init ++ [last] ∧ (∀ posts ∈ init, RoundLog d urls posts .passedOver) ∧
    RoundLog d urls last v
  bounded : rounds.length ≤ n
  spent : v = .passedOver → rounds.length = n

/-- A success whose body is there and does not decode. -/
def Garbled (d : Decoders) : Reply → Prop
  | .error _ => False
  | .ok r => r.isSuccess = true ∧ ∃ e, decodeCreated d r = .error e

theorem verdict_undecodable_iff (d : Decoders) (more : Bool) (x : Reply) :
    verdict d more x = .undecodable ↔ Garbled d x := by
  cases x with
  | error e => simp [verdict, Garbled]
  | ok r =>
    rw [verdict, Garbled]
    by_cases hs : r.isSuccess = true
    · rw [if_pos hs]
      cases decodeCreated d r <;> simp [hs]
    · rw [if_neg hs]
      split <;> simp [hs]
      split <;> simp

theorem RoundLog.undecodable_iff {d : Decoders} : ∀ {urls : List String} {posts : List (String × Reply)} {v : Verdict},
    RoundLog d urls posts v → (v = .undecodable ↔ ∃ post ∈ posts, Garbled d post.2)
  | [], posts, v, h => by
    obtain ⟨rfl, rfl⟩ := h
    simp
  | url :: rest, posts, v, h => by
    obtain ⟨x, more, rfl, ⟨hx, h⟩ | ⟨hx, -, rfl⟩⟩ := h.cases
    · have hclear : ¬ Garbled d x := fun hg => by
        rw [(verdict_undecodable_iff d _ x).2 hg] at hx
        cases hx
      rw [h.undecodable_iff]
      simp [hclear]
    · rw [← hx, verdict_undecodable_iff]
      simp

theorem SendLog.round {d : Decoders} {urls : List String} {n : Nat} {rounds : List (List (String × Reply))}
    {v : Verdict} (h : SendLog d urls n rounds v) {posts : List (String × Reply)} (hp : posts ∈ rounds) :
    RoundLog d urls posts .passedOver ∨ rounds.getLast? = some posts ∧ RoundLog d urls posts v := by
  obtain ⟨init, last, rfl, hinit, hlast⟩ := h.split
  rcases List.mem_append.1 hp with hp | hp
  · exact .inl (hinit posts hp)
  · rw [List.mem_singleton.1 hp]
    exact .inr ⟨List.getLast?_concat, hlast⟩

theorem SendLog.undecodable_iff {d : Decoders} {urls : List String} {n : Nat} {rounds : List (List (String × Reply))}
    {v : Verdict} (h : SendLog d urls n rounds v) :
    v = .undecodable ↔ ∃ posts ∈ rounds, ∃ post ∈ posts, Garbled d post.2 := by
  obtain ⟨init, last, rfl, hinit, hlast⟩ := h.split
  rw [hlast.undecodable_iff]
  constructor
  · rintro ⟨post, hpost, hg⟩
    exact ⟨last, by simp, post, hpost, hg⟩
  · rintro ⟨posts, hposts, post, hpost, hg⟩
    rcases List.mem_append.1 hposts with hi | hi
    · have hover := (hinit posts hi).undecodable_iff.2 ⟨post, hpost, hg⟩
      cases hover
    · rw [List.mem_singleton.1 hi] at hpost
      exact ⟨post, hpost, hg⟩

/-! ## Reading a history -/

/-- The rounds that are over and the one under way, after one more event. -/
def readRound (read : List (List (String × Reply)) × List (String × Reply)) :
    HubEvent → List (List (String × Reply)) × List (String × Reply)
  | ⟨.sleep _, _⟩ => (read.1 ++ [read.2], [])
  | ⟨.postSnapshot url, x⟩ => (read.1, read.2 ++ [(url, x)])
  | _ => read

def readRounds (tr : HubTrace) : List (List (String × Reply)) × List (String × Reply) := tr.foldl readRound ([], [])

/-- The rounds of a history of `send_snapshot`. -/
def roundsOf (tr : HubTrace) : List (List (String × Reply)) := (readRounds tr).1 ++ [(readRounds tr).2]

def incremented : HubEvent → Option Counter
  | ⟨.inc counter, _⟩ => some counter
  | _ => none

def increments (tr : HubTrace) : List Counter := tr.filterMap incremented

theorem readRounds_concat (tr : HubTrace) (e : HubEvent) : readRounds (tr ++ [e]) = readRound (readRounds tr) e := by
  rw [readRounds, List.foldl_append]
  rfl

theorem increments_concat (tr : HubTrace) (e : HubEvent) :
    increments (tr ++ [e]) = increments tr ++ (incremented e).toList := by
  rw [increments, List.filterMap_append]
  cases h : incremented e <;> simp [h, increments]

/-! ## One round -/

/-- What a round increments. -/
def Verdict.counts : Verdict → List Counter
  | .accepted => [.snapshotSendSuccess]
  | .rejected => [.snapshotSendFailure]
  | .undecodable => []
  | .passedOver => []

/-- How the end of a round and its verdict go together. -/
def RoundEnd.Is : RoundEnd → Verdict → Prop
  | .finished (.ok _), v => v = .accepted
  | .finished (.error _), v => v = .rejected ∨ v = .undecodable
  | .spent _, v => v = .passedOver

def RoundLeaves (d : Decoders) (urls : List String) (tr : HubTrace) (stop : RoundEnd) (tr' : HubTrace) : Prop :=
  ∃ posts v, RoundLog d urls posts v ∧ stop.Is v ∧ readRounds tr' = ((readRounds tr).1, (readRounds tr).2 ++ posts) ∧
    increments tr' = increments tr ++ v.counts

theorem RoundLeaves.cons {d : Decoders} {url : String} {rest : List String} {tr tr' : HubTrace} {x : Reply}
    {stop : RoundEnd} (hx : verdict d (!rest.isEmpty) x = .passedOver)
    (h : RoundLeaves d rest (tr ++ [⟨.postSnapshot url, x⟩]) stop tr') : RoundLeaves d (url :: rest) tr stop tr' := by
  obtain ⟨posts, v, hlog, hstop, hread, hinc⟩ := h
  refine ⟨(url, x) :: posts, v, ⟨x, posts, rfl, by rw [if_pos hx]; exact hlog⟩, hstop, ?_, ?_⟩
  · rw [hread, readRounds_concat]
    simp [readRound]
  · rw [hinc, increments_concat]
    simp [incremented]

theorem RoundLeaves.ends {d : Decoders} {url : String} {rest : List String} {tr later : HubTrace} {x : Reply}
    {stop : RoundEnd} {v : Verdict} (hv : verdict d (!rest.isEmpty) x = v) (hne : v ≠ .passedOver) (hstop : stop.Is v)
    (hlater : later = v.counts.map (fun c => ⟨.inc c, ()⟩)) :
    RoundLeaves d (url :: rest) tr stop (tr ++ [⟨.postSnapshot url, x⟩] ++ later) := by
  refine ⟨[(url, x)], v, ⟨x, [], rfl, by rw [hv, if_neg hne]; exact ⟨rfl, rfl⟩⟩, hstop, ?_, ?_⟩
  · have hquiet : readRounds (tr ++ [⟨.postSnapshot url, x⟩] ++ later) =
        readRounds (tr ++ [⟨.postSnapshot url, x⟩]) := by
      rw [hlater]
      cases v with
      | accepted => exact readRounds_concat _ _
      | rejected => exact readRounds_concat _ _
      | undecodable => rw [Verdict.counts, List.map_nil, List.append_nil]
      | passedOver => exact absurd rfl hne
    rw [hquiet, readRounds_concat]
    rfl
  · have hinc : later.filterMap incremented = v.counts := by
      rw [hlater, List.filterMap_map]
      exact List.filterMap_some
    rw [← hinc, increments, List.filterMap_append, List.filterMap_append]
    simp [incremented, increments]

theorem snapshotRound_leaves (d : Decoders) (cfg : Config) (attempt : Nat) : ∀ (urls : List String)
    (lastErr : Option HubError) (tr : HubTrace),
    (snapshotRound d cfg attempt urls lastErr).Ends (RoundLeaves d urls tr) tr
  | [], lastErr, tr => ⟨[], .passedOver, ⟨rfl, rfl⟩, rfl, by simp, by simp [Verdict.counts]⟩
  | url :: rest, lastErr, tr => by
    have hnext : ∀ lastErr x, verdict d (!rest.isEmpty) x = .passedOver →
        (snapshotRound d cfg attempt rest lastErr).Ends (RoundLeaves d (url :: rest) tr)
          (tr ++ [⟨.postSnapshot url, x⟩]) := fun lastErr x hx =>
      (snapshotRound_leaves d cfg attempt rest lastErr _).mono (fun _ _ h => h.cons hx)
    have hmore : (!rest.isEmpty) = true ↔ rest ≠ [] := by simp
    rw [snapshotRound, ends_ask_bind]
    intro x
    cases x with
    | error e => exact hnext _ _ rfl
    | ok r =>
      dsimp only
      by_cases hs : r.isSuccess = true
      · rw [if_pos hs]
        cases hd : decodeCreated d r with
        | error e =>
          have hv : verdict d (!rest.isEmpty) (.ok r) = .undecodable := by simp only [verdict, if_pos hs, hd]
          have hend : ∀ err, RoundLeaves d (url :: rest) tr (.finished (.error err))
              (tr ++ [⟨.postSnapshot url, .ok r⟩] ++ []) := fun _ => RoundLeaves.ends hv (by decide) (.inr rfl) rfl
          simp only [List.append_nil] at hend
          exact hend _
        | ok u =>
          have hv : verdict d (!rest.isEmpty) (.ok r) = .accepted := by simp only [verdict, if_pos hs, hd]
          exact fun _ => RoundLeaves.ends hv (by decide) rfl rfl
      · rw [if_neg hs]
        by_cases h404 : r.status = 404 ∧ rest ≠ []
        · rw [if_pos h404]
          apply hnext
          rw [← hmore] at h404
          simp only [verdict, if_neg hs, if_pos h404]
        · rw [if_neg h404]
          rw [← hmore] at h404
          by_cases hrej : r.isRejection = true
          · rw [if_pos hrej]
            have hv : verdict d (!rest.isEmpty) (.ok r) = .rejected := by
              simp only [verdict, if_neg hs, if_neg h404, if_pos hrej]
            exact fun _ => RoundLeaves.ends hv (by decide) (.inl rfl) rfl
          · rw [if_neg hrej]
            apply hnext
            simp only [verdict, if_neg hs, if_neg h404, if_neg hrej]

/-! ## One call -/

def Verdict.total : Verdict → List Counter
  | .passedOver => [.snapshotSendFailure]
  | v => v.counts

/-- What the rounds of a call leave in the history, `n` of them at most. -/
def SendLeaves (d : Decoders) (urls : List String) (n : Nat) (before : List (List (String × Reply))) (tr : HubTrace)
    (result : Except HubError Unit) (tr' : HubTrace) : Prop :=
  ∃ rounds v, (SendLog d urls n rounds v ∨ n = 0 ∧ rounds = [] ∧ v = .passedOver) ∧ roundsOf tr' = before ++ rounds ∧
    increments tr' = increments tr ++ v.total ∧ (result = .ok () ↔ v = .accepted)

theorem SendLog.cons {d : Decoders} {urls : List String} {n : Nat} {posts : List (String × Reply)}
    {rounds : List (List (String × Reply))} {v : Verdict} (hposts : RoundLog d urls posts .passedOver)
    (h : SendLog d urls n rounds v ∨ n = 0 ∧ rounds = [] ∧ v = .passedOver) :
    SendLog d urls (n + 1) (posts :: rounds) v := by
  rcases h with ⟨⟨init, last, rfl, hinit, hlast⟩, hbound, hspent⟩ | ⟨rfl, rfl, rfl⟩
  · refine ⟨⟨posts :: init, last, rfl, ?_, hlast⟩, ?_, ?_⟩
    · intro p hp
      rcases List.mem_cons.1 hp with rfl | hp
      · exact hposts
      · exact hinit p hp
    · simp only [List.length_cons]
      omega
    · intro hv
      have := hspent hv
      simp only [List.length_cons]
      omega
  · exact ⟨⟨[], posts, rfl, by simp, hposts⟩, by simp, by simp⟩

theorem SendLog.single {d : Decoders} {urls : List String} {n : Nat} {posts : List (String × Reply)} {v : Verdict}
    (hposts : RoundLog d urls posts v) (hv : v ≠ .passedOver) : SendLog d urls (n + 1) [posts] v :=
  ⟨⟨[], posts, rfl, by simp, hposts⟩, by simp, fun h => absurd h hv⟩

theorem round_then_rest {d : Decoders} {cfg : Config} {urls : List String} {attempt : Nat} {delays : List Nat}
    (hrest : ∀ lastErr tr, (snapshotRounds d cfg urls (attempt + 1) delays lastErr).Ends
      (SendLeaves d urls delays.length (roundsOf tr) tr) tr)
    (lastErr : Option HubError) {tr : HubTrace} (hfresh : (readRounds tr).2 = []) :
    (do match ← snapshotRound d cfg attempt urls lastErr with
        | .finished result => return result
        | .spent lastErr => snapshotRounds d cfg urls (attempt + 1) delays lastErr :
        HubProg (Except HubError Unit)).Ends
      (SendLeaves d urls (delays.length + 1) (readRounds tr).1 tr) tr := by
  refine Prog.Ends.bind ?_ (snapshotRound_leaves d cfg attempt urls lastErr tr)
  rintro stop tr₁ ⟨posts, v, hlog, hstop, hread, hinc⟩
  have hrounds : roundsOf tr₁ = (readRounds tr).1 ++ [posts] := by
    rw [roundsOf, hread, hfresh, List.nil_append]
  cases stop with
  | finished result =>
    have hv : v ≠ .passedOver := by
      intro hv
      cases result <;> simp [RoundEnd.Is, hv] at hstop
    refine ⟨[posts], v, .inl (.single hlog hv), hrounds, ?_, ?_⟩
    · rw [hinc]
      cases v <;> first | rfl | exact absurd rfl hv
    · cases result with
      | ok u => exact ⟨fun _ => hstop, fun _ => rfl⟩
      | error e => rcases hstop with rfl | rfl <;> simp
  | spent lastErr' =>
    cases hstop
    refine Prog.Ends.mono ?_ (hrest lastErr' tr₁)
    rintro result tr₂ ⟨rounds, v', hsend, hread', hinc', hresult⟩
    refine ⟨posts :: rounds, v', .inl (.cons hlog hsend), ?_, ?_, hresult⟩
    · rw [hread', hrounds, List.append_assoc, List.singleton_append]
    · rw [hinc', hinc, Verdict.counts, List.append_nil]

theorem snapshotRounds_leaves (d : Decoders) (cfg : Config) (urls : List String) : ∀ (delays : List Nat) (attempt : Nat)
    (lastErr : Option HubError) (tr : HubTrace), (∀ delay ∈ delays, delay ≠ 0) →
    (snapshotRounds d cfg urls attempt delays lastErr).Ends
      (SendLeaves d urls delays.length (roundsOf tr) tr) tr
  | [], attempt, lastErr, tr, _ => by
    intro u
    refine ⟨[], .passedOver, .inr ⟨rfl, rfl, rfl⟩, ?_, ?_, ?_⟩
    · rw [roundsOf, readRounds_concat, List.append_nil]
      rfl
    · rw [increments_concat]
      rfl
    · simp
  | delay :: delays, attempt, lastErr, tr, hdelays => by
    have hdelay : delay ≠ 0 := hdelays delay (by simp)
    have hrest := fun lastErr tr => snapshotRounds_leaves d cfg urls delays (attempt + 1) lastErr tr
      (fun x hx => hdelays x (List.mem_cons_of_mem delay hx))
    rw [snapshotRounds, if_pos hdelay]
    intro u
    have hread : readRounds (tr ++ [⟨.sleep delay, u⟩]) = (roundsOf tr, []) := readRounds_concat _ _
    have hfresh : (readRounds (tr ++ [⟨.sleep delay, u⟩])).2 = [] := by rw [hread]
    have hround := round_then_rest hrest lastErr hfresh
    rw [hread] at hround
    refine Prog.Ends.mono ?_ hround
    rintro result tr' ⟨rounds, v, hsend, hrounds, hinc, hresult⟩
    refine ⟨rounds, v, hsend, hrounds, ?_, hresult⟩
    rw [hinc, increments_concat]
    simp [incremented]

/-- **What a call of `send_snapshot` is**: three rounds at most, counted and answered by the verdict of the last. -/
theorem sendSnapshotTo_log (d : Decoders) (cfg : Config) (urls : List String) (o : HubOracle) :
    ∃ result rounds v, ((sendSnapshotTo d cfg urls).run o []).1 = some result ∧
      roundsOf ((sendSnapshotTo d cfg urls).trace o) = rounds ∧ SendLog d urls 3 rounds v ∧
      increments ((sendSnapshotTo d cfg urls).trace o) = v.total ∧ (result = .ok () ↔ v = .accepted) := by
  have hleaves : (sendSnapshotTo d cfg urls).Ends (SendLeaves d urls 3 [] []) [] := by
    have hrest := fun lastErr tr => snapshotRounds_leaves d cfg urls [2, 5] 2 lastErr tr (by decide)
    have hfresh : (readRounds []).2 = [] := rfl
    exact round_then_rest hrest none hfresh
  obtain ⟨result, hresult, rounds, v, hsend, hrounds, hinc, hok⟩ := run_ends o hleaves
  refine ⟨result, rounds, v, hresult, hrounds, ?_, hinc, hok⟩
  rcases hsend with hsend | ⟨h, -⟩
  · exact hsend
  · cases h

end Hub
end HubAgent
