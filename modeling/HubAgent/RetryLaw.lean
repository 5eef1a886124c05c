import HubAgent.HubSpec
/-!
# The retry law of `send_snapshot` (`SPEC.md`, Inventory)

A `404` of the primary route sends the snapshot to the alternate one.  A network error, a `5xx`, a `408` or a `429` of
the route in force is left to the next round, and any other client error ends the call.  The loop over the routes goes
on to the alternate after every reply that does not end the call, so the law is kept exactly when the primary gives no
such reply but a `404`, and no accepting body is left undecoded before the third round (`retryLaw_iff`).
-/
namespace HubAgent
namespace Hub

open Interaction

/-! ## Two routes -/

structure RoutePair where
  primary : String
  alternate : String
  distinct : primary ≠ alternate

def RoutePair.urls (p : RoutePair) : List String := [p.primary, p.alternate]

theorem inventory_routes_differ (r : HubRoutes) (clusterId : String) :
    s!"{r.legacyBase}/v1/clusters/{clusterId}/inventory" ≠ s!"{r.apiBase}/v1/agent/ingest" := by
  intro h
  have hlast := congrArg (fun url : String => url.toList.getLast?) h
  simp [ToString.toString, List.getLast?_cons, List.getLast?_append] at hlast

theorem inventoryUrls_pair (r : HubRoutes) (clusterId : String) :
    ∃ p : RoutePair, r.inventoryUrls clusterId = p.urls := by
  have hne := inventory_routes_differ r clusterId
  rw [HubRoutes.inventoryUrls, HubRoutes.ordered]
  by_cases hapi : r.preferApi = true
  · rw [if_pos hapi, dedupeUrls_pair hne.symm]
    exact ⟨⟨_, _, hne.symm⟩, rfl⟩
  · rw [if_neg hapi, dedupeUrls_pair hne]
    exact ⟨⟨_, _, hne⟩, rfl⟩

/-- `send_snapshot` is a call over two routes. -/
theorem sendSnapshot_pair (d : Decoders) (cfg : Config) :
    ∃ p : RoutePair, sendSnapshot d cfg = sendSnapshotTo d cfg p.urls := by
  obtain ⟨p, hp⟩ := inventoryUrls_pair (HubRoutes.new cfg) cfg.clusterId
  exact ⟨p, by rw [sendSnapshot, hp]⟩

/-! ## The law -/

/-- The reply of the route in force: the primary, or the alternate once the primary answered `404`. -/
def RoutePair.inForce (p : RoutePair) (posts : List (String × Reply)) : Option Reply :=
  match posts.lookup p.primary with
  | some (.ok r) => if r.status = 404 then posts.lookup p.alternate else some (.ok r)
  | reply => reply

/-- A reply that is worth another round. -/
def Transient : Reply → Prop
  | .error _ => True
  | .ok r => (500 ≤ r.status ∧ r.status ≤ 599) ∨ r.status = 408 ∨ r.status = 429

/-- An answer that is no `404`. -/
def isFinal : Reply → Bool
  | .error _ => false
  | .ok r => r.status != 404

structure RetryLaw (p : RoutePair) (rounds : List (List (String × Reply))) (result : Except HubError Unit) : Prop where
  bounded : rounds.length ≤ 3
  fallback : ∀ posts ∈ rounds, ∀ y, (p.alternate, y) ∈ posts → ∃ r, (p.primary, .ok r) ∈ posts ∧ r.status = 404
  oneAnswer : ∀ posts ∈ rounds, (posts.filter (fun post => isFinal post.2)).length ≤ 1
  early : ∀ e, result = .error e → rounds.length < 3 →
    ∃ last r, rounds.getLast? = some last ∧ p.inForce last = some (.ok r) ∧ r.isRejection = true
  retried : ∀ pre posts post x, rounds = pre ++ posts :: post → pre.length < 2 → p.inForce posts = some x →
    Transient x → post ≠ []

/-! ## When it is kept -/

/-- Neither an end nor a `404`: a network error, or a response that neither accepts nor rejects. -/
def Soft : Reply → Prop
  | .error _ => True
  | .ok r => r.isSuccess = false ∧ r.isRejection = false

/-- The primary gives no soft reply, and no body is garbled before the third round. -/
structure Orderly (d : Decoders) (p : RoutePair) (rounds : List (List (String × Reply))) : Prop where
  firm : ∀ posts ∈ rounds, ∀ x, (p.primary, x) ∈ posts → ¬ Soft x
  readable : ∀ posts ∈ rounds.take 2, ∀ post ∈ posts, ¬ Garbled d post.2

/-! ## Verdicts -/

theorem not_success_of_404 {r : Response} (h : r.status = 404) : r.isSuccess = false := by
  simp [Response.isSuccess, h]

theorem rejection_of_404 {r : Response} (h : r.status = 404) : r.isRejection = true := by
  simp [Response.isRejection, Response.isClientError, h]

theorem not_success_of_rejection {r : Response} (h : r.isRejection = true) : r.isSuccess = false := by
  simp only [Response.isRejection, Response.isClientError, Bool.and_eq_true, decide_eq_true_eq] at h
  simp only [Response.isSuccess, decide_eq_false_iff_not]
  omega

theorem rejection_of_verdict {d : Decoders} {more : Bool} {x : Reply} (h : verdict d more x = .rejected) :
    ∃ r, x = .ok r ∧ r.isRejection = true := by
  cases x with
  | error e => cases h
  | ok r =>
    rw [verdict] at h
    by_cases hs : r.isSuccess = true
    · rw [if_pos hs] at h
      cases hd : decodeCreated d r <;> simp [hd] at h
    · rw [if_neg hs] at h
      split at h
      · cases h
      · split at h
        · rename_i hrej
          exact ⟨r, rfl, hrej⟩
        · cases h

/-- What is passed over with a route left is soft or a `404`. -/
theorem passedOver_iff (d : Decoders) (x : Reply) :
    verdict d true x = .passedOver ↔ Soft x ∨ ∃ r, x = .ok r ∧ r.status = 404 := by
  cases x with
  | error e => simp [verdict, Soft]
  | ok r =>
    rw [verdict, Soft]
    by_cases hs : r.isSuccess = true
    · rw [if_pos hs]
      have hne : r.status ≠ 404 := fun h => by simp [not_success_of_404 h] at hs
      cases decodeCreated d r <;> simp [hs, hne]
    · rw [if_neg hs]
      by_cases h404 : r.status = 404
      · simp [h404]
      · by_cases hrej : r.isRejection = true <;> simp [hs, h404, hrej]

theorem Transient.passedOver {d : Decoders} {more : Bool} {x : Reply} (h : Transient x) :
    verdict d more x = .passedOver := by
  cases x with
  | error e => rfl
  | ok r =>
    have hs : r.isSuccess = false := by
      simp only [Transient] at h
      simp only [Response.isSuccess, decide_eq_false_iff_not]
      omega
    have hrej : r.isRejection = false := by
      simp only [Transient] at h
      by_cases hc : r.isClientError = true
      · simp only [Response.isClientError, decide_eq_true_eq] at hc
        simp only [Response.isRejection, Bool.and_eq_false_iff, bne_eq_false_iff_eq]
        omega
      · simp [Response.isRejection, hc]
    rw [verdict, hs, hrej]
    simp

/-! ## Rounds over two routes -/

theorem RoundLog.pair {d : Decoders} {p : RoutePair} {posts : List (String × Reply)} {v : Verdict}
    (h : RoundLog d p.urls posts v) :
    (∃ x, posts = [(p.primary, x)] ∧ verdict d true x = v ∧ v ≠ .passedOver) ∨
      ∃ x y, posts = [(p.primary, x), (p.alternate, y)] ∧ verdict d true x = .passedOver ∧ verdict d false y = v := by
  obtain ⟨x, more, rfl, ⟨hx, h⟩ | ⟨hx, hv, rfl⟩⟩ := h.cases
  · obtain ⟨y, more', rfl, ⟨hy, rfl, rfl⟩ | ⟨hy, hv, rfl⟩⟩ := h.cases
    · exact .inr ⟨x, y, rfl, hx, hy⟩
    · exact .inr ⟨x, y, rfl, hx, hy⟩
  · exact .inl ⟨x, rfl, hx, hv⟩

theorem inForce_alone (p : RoutePair) {x : Reply} (h : ∀ r, x = .ok r → r.status ≠ 404) :
    p.inForce [(p.primary, x)] = some x := by
  have hlookup : List.lookup p.primary [(p.primary, x)] = some x := List.lookup_cons_self
  rw [RoutePair.inForce, hlookup]
  cases x with
  | error e => rfl
  | ok r => exact if_neg (h r rfl)

theorem inForce_fallback (p : RoutePair) {r : Response} (h : r.status = 404) (y : Reply) :
    p.inForce [(p.primary, .ok r), (p.alternate, y)] = some y := by
  have hprimary : List.lookup p.primary [(p.primary, Except.ok r), (p.alternate, y)] = some (.ok r) :=
    List.lookup_cons_self
  have halternate : List.lookup p.alternate [(p.primary, Except.ok r), (p.alternate, y)] = some y := by
    have hne : (p.alternate == p.primary) = false := by simp [Ne.symm p.distinct]
    rw [List.lookup_cons, hne]
    exact List.lookup_cons_self
  rw [RoutePair.inForce, hprimary]
  dsimp only
  rw [if_pos h, halternate]

theorem RoundLog.firm {d : Decoders} {p : RoutePair} {posts : List (String × Reply)} {v : Verdict}
    (h : RoundLog d p.urls posts v) (hfirm : ∀ x, (p.primary, x) ∈ posts → ¬ Soft x) :
    ∃ x more, p.inForce posts = some x ∧ verdict d more x = v ∧
      (posts = [(p.primary, x)] ∨ ∃ r, posts = [(p.primary, .ok r), (p.alternate, x)] ∧ r.status = 404) := by
  rcases h.pair with ⟨x, rfl, hx, hv⟩ | ⟨x, y, rfl, hx, hy⟩
  · refine ⟨x, true, inForce_alone p ?_, hx, .inl rfl⟩
    intro r hr h404
    exact hv (hx ▸ (passedOver_iff d x).2 (.inr ⟨r, hr, h404⟩))
  · rcases (passedOver_iff d x).1 hx with hsoft | ⟨r, rfl, h404⟩
    · exact absurd hsoft (hfirm x (by simp))
    · exact ⟨y, false, inForce_fallback p h404 y, hy, .inr ⟨r, rfl, h404⟩⟩

/-! ## The law and its condition -/

section Call

variable {d : Decoders} {p : RoutePair} {rounds : List (List (String × Reply))} {v : Verdict}
  {result : Except HubError Unit}

theorem SendLog.logged (h : SendLog d p.urls 3 rounds v) {posts : List (String × Reply)} (hp : posts ∈ rounds) :
    ∃ v', RoundLog d p.urls posts v' := by
  rcases h.round hp with hround | ⟨-, hround⟩
  · exact ⟨_, hround⟩
  · exact ⟨_, hround⟩

theorem SendLog.firm (h : SendLog d p.urls 3 rounds v) (ho : Orderly d p rounds) {posts : List (String × Reply)}
    (hp : posts ∈ rounds) : ∃ x, p.inForce posts = some x ∧
      (posts = [(p.primary, x)] ∨ ∃ r, posts = [(p.primary, .ok r), (p.alternate, x)] ∧ r.status = 404) := by
  obtain ⟨v', hround⟩ := h.logged hp
  obtain ⟨x, more, hforce, -, hshape⟩ := hround.firm (ho.firm posts hp)
  exact ⟨x, hforce, hshape⟩

theorem SendLog.rejected_early (h : SendLog d p.urls 3 rounds v) (ho : Orderly d p rounds) (hv : v ≠ .accepted)
    (hlt : rounds.length < 3) :
    ∃ last r, rounds.getLast? = some last ∧ p.inForce last = some (.ok r) ∧ r.isRejection = true := by
  obtain ⟨init, last, rfl, -, hlast⟩ := h.split
  obtain ⟨x, more, hforce, hx, hshape⟩ := hlast.firm (ho.firm last (by simp))
  cases v with
  | accepted => exact absurd rfl hv
  | passedOver =>
    have := h.spent rfl
    omega
  | rejected =>
    obtain ⟨r, rfl, hrej⟩ := rejection_of_verdict hx
    exact ⟨last, r, List.getLast?_concat, hforce, hrej⟩
  | undecodable =>
    have hgarbled : Garbled d x := (verdict_undecodable_iff d more x).1 hx
    have hshort : (init ++ [last]).take 2 = init ++ [last] := List.take_of_length_le (by omega)
    have hread := ho.readable last (by rw [hshort]; simp)
    rcases hshape with rfl | ⟨r, rfl, -⟩
    · exact absurd hgarbled (hread (p.primary, x) (by simp))
    · exact absurd hgarbled (hread (p.alternate, x) (by simp))

theorem SendLog.law_of_orderly (h : SendLog d p.urls 3 rounds v) (hok : result = .ok () ↔ v = .accepted)
    (ho : Orderly d p rounds) : RetryLaw p rounds result := by
  refine ⟨h.bounded, ?_, ?_, ?_, ?_⟩
  · intro posts hp y hy
    obtain ⟨x, -, rfl | ⟨r, rfl, h404⟩⟩ := h.firm ho hp
    · simp only [List.mem_singleton, Prod.mk.injEq] at hy
      exact absurd hy.1.symm p.distinct
    · exact ⟨r, by simp, h404⟩
  · intro posts hp
    obtain ⟨x, -, rfl | ⟨r, rfl, h404⟩⟩ := h.firm ho hp
    · exact List.length_filter_le _ _
    · have hskip : isFinal (.ok r) = false := by simp [isFinal, h404]
      rw [List.filter_cons_of_neg (by simp [hskip])]
      exact List.length_filter_le _ _
  · intro e he hlt
    apply h.rejected_early ho _ hlt
    intro hv
    rw [hok.2 hv] at he
    cases he
  · intro pre posts post x hsplit hpre hforce htransient hpost
    subst hpost
    have hlast : rounds.getLast? = some posts := by rw [hsplit, List.getLast?_concat]
    obtain ⟨init, last, hrounds, -, hround⟩ := h.split
    have hposts : last = posts := by
      rw [hrounds, List.getLast?_concat] at hlast
      exact Option.some.inj hlast
    subst hposts
    obtain ⟨x', more, hforce', hx', -⟩ := hround.firm (ho.firm last (by rw [hrounds]; simp))
    rw [hforce] at hforce'
    cases hforce'
    have hspent := h.spent (hx' ▸ htransient.passedOver)
    rw [hsplit, List.length_append, List.length_singleton] at hspent
    omega

theorem SendLog.orderly_of_law (h : SendLog d p.urls 3 rounds v) (hok : result = .ok () ↔ v = .accepted)
    (hl : RetryLaw p rounds result) : Orderly d p rounds := by
  have hfirm : ∀ posts ∈ rounds, ∀ x, (p.primary, x) ∈ posts → ¬ Soft x := by
    intro posts hp x hx hsoft
    have hover : verdict d true x = .passedOver := (passedOver_iff d x).2 (.inl hsoft)
    obtain ⟨v', hround⟩ := h.logged hp
    -- the alternate was asked although the primary did not answer `404`
    rcases hround.pair with ⟨x', rfl, hx', hv'⟩ | ⟨x', y, rfl, -, -⟩
    · simp only [List.mem_singleton, Prod.mk.injEq, true_and] at hx
      exact hv' (hx' ▸ hx ▸ hover)
    · simp only [List.mem_cons, Prod.mk.injEq, true_and, List.not_mem_nil, or_false, p.distinct, false_and] at hx
      obtain ⟨r, hr, h404⟩ := hl.fallback _ hp y (by simp)
      simp only [List.mem_cons, Prod.mk.injEq, true_and, List.not_mem_nil, or_false, p.distinct, false_and] at hr
      rw [hx, ← hr] at hsoft
      exact absurd (rejection_of_404 h404) (by simp [hsoft.2])
  refine ⟨hfirm, ?_⟩
  intro posts hp post hpost hgarbled
  have hposts : posts ∈ rounds := List.mem_of_mem_take hp
  obtain ⟨init, last, rfl, hinit, hlast⟩ := h.split
  have hnotInit : posts ∉ init := fun hi => by
    have := (hinit posts hi).undecodable_iff.2 ⟨post, hpost, hgarbled⟩
    cases this
  -- so the round is the last, and not the third
  have hlt : (init ++ [last]).length < 3 := by
    by_contra hge
    have hlen : init.length = 2 := by
      have := hl.bounded
      rw [List.length_append, List.length_singleton] at this hge
      omega
    rw [← hlen, List.take_left] at hp
    exact hnotInit hp
  have hthis : posts = last := by
    rcases List.mem_append.1 hposts with hi | hi
    · exact absurd hi hnotInit
    · exact List.mem_singleton.1 hi
  subst hthis
  have hv : v = .undecodable := hlast.undecodable_iff.2 ⟨post, hpost, hgarbled⟩
  subst hv
  obtain ⟨e, he⟩ : ∃ e, result = .error e := by
    cases result with
    | ok u => cases hok.1 rfl
    | error e => exact ⟨e, rfl⟩
  obtain ⟨last, r, hl', hforce, hrej⟩ := hl.early e he hlt
  rw [List.getLast?_concat] at hl'
  cases hl'
  obtain ⟨x, more, hforce', hx, -⟩ := hlast.firm (hfirm posts hposts)
  rw [hforce] at hforce'
  cases hforce'
  have hsuccess := ((verdict_undecodable_iff d more _).1 hx).1
  exact absurd hsuccess (by rw [not_success_of_rejection hrej]; decide)

end Call

/-- **The retry law is kept exactly when the primary gives no soft reply and no body is garbled before the third
round.**  The call ends under every oracle, in three rounds at most. -/
theorem retryLaw_iff (d : Decoders) (cfg : Config) (p : RoutePair) (o : HubOracle) :
    ∃ result, ((sendSnapshotTo d cfg p.urls).run o []).1 = some result ∧
      (RetryLaw p (roundsOf ((sendSnapshotTo d cfg p.urls).trace o)) result ↔
        Orderly d p (roundsOf ((sendSnapshotTo d cfg p.urls).trace o))) := by
  obtain ⟨result, rounds, v, hresult, rfl, hsend, -, hok⟩ := sendSnapshotTo_log d cfg p.urls o
  exact ⟨result, hresult, hsend.orderly_of_law hok, hsend.law_of_orderly hok⟩

/-- The routes of a Hub whose base does not end in `/api`. -/
def hubRoutes : RoutePair where
  primary := "https://hub/v1/clusters/c1/inventory"
  alternate := "https://hub/api/v1/agent/ingest"
  distinct := by decide

/-- The primary is failing, and the alternate does not know the path. -/
def failingPrimary : HubOracle := fun _ op =>
  match op with
  | .postSnapshot url => .ok { status := if url = hubRoutes.primary then 503 else 405 }
  | .getCommands _ _ => .ok { status := 204 }
  | .postResult _ => .ok { status := 204 }
  | .sleep _ => ()
  | .inc _ => ()

def decoders : Decoders := { snapshotCreated := fun _ => .ok {}, commandBatch := fun _ => .ok ⟨[]⟩ }

/-- A `503` of the primary is not retried: the alternate's `405` ends the call in the first round. -/
theorem failingPrimary_breaks_law :
    (HubRoutes.new { clusterId := "c1", hubUrl := "https://hub" }).inventoryUrls "c1" = hubRoutes.urls ∧
      ∃ result, ((sendSnapshotTo decoders { clusterId := "c1", hubUrl := "https://hub" } hubRoutes.urls).run
          failingPrimary []).1 = some result ∧
        ¬ RetryLaw hubRoutes (roundsOf ((sendSnapshotTo decoders { clusterId := "c1", hubUrl := "https://hub" }
          hubRoutes.urls).trace failingPrimary)) result := by
  refine ⟨by decide, .error (.rejected 405 "<none>" "<body logging disabled>"), by rfl, fun hlaw => ?_⟩
  have hrounds : roundsOf ((sendSnapshotTo decoders { clusterId := "c1", hubUrl := "https://hub" }
      hubRoutes.urls).trace failingPrimary) =
      [[(hubRoutes.primary, .ok { status := 503 }), (hubRoutes.alternate, .ok { status := 405 })]] := by
    rfl
  rw [hrounds] at hlaw
  have hnext := hlaw.retried [] _ [] (.ok { status := 503 }) rfl (by decide) rfl (.inl (by decide))
  exact hnext rfl

end Hub
end HubAgent
