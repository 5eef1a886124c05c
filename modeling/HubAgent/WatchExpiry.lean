import HubAgent.LifecycleSpec
/-!
# When a watched version expires

The loop opens every watch at the version that was delivered last, and at `0` before any was.  A watch that fails with
410 leaves that version as it is, so the next one is opened at what has just expired: a run recovers from its expiries
only while nothing had been delivered before them (`recovers_of_expiresFresh`), and no other run does
(`expiresFresh_of_recovers`).
-/
namespace HubAgent
namespace Lifecycle

open Interaction

/-! ## Versions in a history -/

/-- The version that an event of the stream delivers. -/
def delivered : LifeEvent → Option String
  | ⟨.select, .item (.ok (.added cm))⟩ => cm.metadata.resourceVersion
  | ⟨.select, .item (.ok (.modified cm))⟩ => cm.metadata.resourceVersion
  | ⟨.select, .item (.ok (.bookmark resourceVersion))⟩ => some resourceVersion
  | _ => none

/-- The version that a watch is opened at. -/
def openedAt : LifeEvent → Option String
  | ⟨.watch resourceVersion, _⟩ => some resourceVersion
  | _ => none

/-- The version that was delivered last; the loop starts at `0`. -/
def deliveredVersion (tr : LifeTrace) : String := (lastOf delivered tr).getD "0"

/-- The version of the watch that `e` ends with 410: on its opening, which the client tells by the call or by the first
item of its stream, or by an `Error` event. -/
def expired (tr : LifeTrace) : LifeEvent → Option String
  | ⟨.watch resourceVersion, .error (.api code _ _ _)⟩ => if code = 410 then some resourceVersion else none
  | ⟨.select, .item (.error (.api code _ _ _))⟩ => if code = 410 then lastOf openedAt tr else none
  | ⟨.select, .item (.ok (.error code _))⟩ => if code = 410 then lastOf openedAt tr else none
  | _ => none

/-- **The watch recovers from expiry**: every watch after one that expired at `v` is opened at `0`, or at another
version that was delivered after the expiry. -/
def Recovers (tr : LifeTrace) : Prop :=
  ∀ pre e mid w post v version, tr = pre ++ e :: (mid ++ w :: post) → expired pre e = some v →
    openedAt w = some version → version = "0" ∨ (∃ x ∈ mid, delivered x = some version) ∧ version ≠ v

/-- An expiry after which a watch is opened comes before any version was delivered. -/
def ExpiresFresh (tr : LifeTrace) : Prop :=
  ∀ pre e mid w post v version, tr = pre ++ e :: (mid ++ w :: post) → expired pre e = some v →
    openedAt w = some version → ∀ x ∈ pre, delivered x = none

/-- Whether the stream is open: what the last watch or the last item of the stream says. -/
def streaming : LifeEvent → Option Bool
  | ⟨.watch _, .ok _⟩ => some true
  | ⟨.watch _, .error _⟩ => some false
  | ⟨.select, .item (.ok (.error _ _))⟩ => some false
  | ⟨.select, .item (.error _)⟩ => some false
  | ⟨.select, .ended⟩ => some false
  | _ => none

/-- A watch is opened at the version delivered last, and the stream is read only while it is open. -/
def WatchAllowed (tr : LifeTrace) : LifecycleCall → Prop
  | .watch resourceVersion => resourceVersion = deliveredVersion tr
  | .select => lastOf streaming tr = some true
  | _ => True

/-! ## Every run -/

/-- The calls of a reconcile. -/
def LifecycleCall.Quiet : LifecycleCall → Prop
  | .getConfigMap | .watch _ | .select => False
  | _ => True

theorem LifecycleCall.Housekeeping.quiet {op : LifecycleCall} (h : op.Housekeeping) : op.Quiet := by
  cases op <;> first | exact trivial | exact h.elim

theorem LifecycleCall.Quiet.allowed {op : LifecycleCall} (h : op.Quiet) (tr : LifeTrace) : WatchAllowed tr op := by
  cases op <;> first | exact trivial | exact h.elim

theorem LifecycleCall.Quiet.shows {e : LifeEvent} (h : e.call.Quiet) : delivered e = none ∧ streaming e = none := by
  obtain ⟨call, answer⟩ := e
  cases call <;> first | exact ⟨rfl, rfl⟩ | exact h.elim

theorem reconcileNamespaces_only (enabled : Bool) (excluded : Finset String) : ∀ (namespaces : List Namespace),
    (reconcileNamespaces enabled excluded namespaces).Only LifecycleCall.Quiet
  | [] => only_pure _
  | ns :: rest => by
    rw [reconcileNamespaces, reconcileNamespace_eq]
    apply only_andThen
    · split
      · exact only_pure _
      · exact only_withContext (only_ask trivial)
    · exact fun _ => reconcileNamespaces_only enabled excluded rest

theorem reconcileIfLeader_only (namespace_ podName : String) (enabled : Bool) (excluded : Finset String) :
    (reconcileIfLeader namespace_ podName enabled excluded).Only LifecycleCall.Quiet := by
  have hhouse : ∀ {α : Type} {m : Life α}, m.Only LifecycleCall.Housekeeping → m.Only LifecycleCall.Quiet :=
    fun h tr => (h tr).mono (fun _ _ hop => hop.quiet) (fun _ _ _ => trivial)
  apply only_bind (only_ask trivial)
  intro leader
  cases leader with
  | false => exact only_pure _
  | true =>
    apply only_bind _ (fun _ => only_pure _)
    cases enabled with
    | false => exact hhouse (removeOperatorResources_only namespace_)
    | true =>
      apply only_andThen (hhouse (ensureOperatorResources_only namespace_ podName))
      intro _
      apply only_andThen (hhouse (ensureManaged_only _ _))
      intro _
      apply only_bind (only_ask trivial)
      intro list
      cases list with
      | error e => exact only_pure _
      | ok namespaces => exact reconcileNamespaces_only true excluded namespaces

theorem deliveredVersion_concat (tr : LifeTrace) (e : LifeEvent) :
    deliveredVersion (tr ++ [e]) = (delivered e).getD (deliveredVersion tr) := by
  rw [deliveredVersion, lastOf_concat]
  cases delivered e <;> rfl

theorem streaming_concat_of_none {tr : LifeTrace} {e : LifeEvent} (h : streaming e = none) :
    lastOf streaming (tr ++ [e]) = lastOf streaming tr := by
  rw [lastOf_concat, h, Option.none_or]

theorem quiet_meets {α : Type} {m : Life α} (h : m.Only LifecycleCall.Quiet) (tr : LifeTrace) :
    m.Meets WatchAllowed
      (fun _ tr' => deliveredVersion tr' = deliveredVersion tr ∧ lastOf streaming tr' = lastOf streaming tr) tr := by
  refine (h.meets (fun tr _ hop => hop.allowed tr) tr).mono (fun _ _ hp => hp) ?_
  rintro _ _ ⟨later, rfl, hlater⟩
  have hshows : ∀ e ∈ later, delivered e = none ∧ streaming e = none := fun e he => (hlater e he).shows
  constructor
  · rw [deliveredVersion, lastOf_append_of_none tr (fun e he => (hshows e he).1), deliveredVersion]
  · exact lastOf_append_of_none tr (fun e he => (hshows e he).2)

/-- **The invariant**: the version that is remembered is the one delivered last, and the inner loop reads a stream that
is open. -/
structure WatchInv (s : LoopState) (watching : Bool) (tr : LifeTrace) : Prop where
  version : s.resourceVersion = deliveredVersion tr
  stream : watching = true → lastOf streaming tr = some true

theorem initialReconcile_watches (namespace_ podName : String) :
    (initialReconcile namespace_ podName).Meets WatchAllowed (fun s tr => WatchInv s false tr) [] := by
  refine ⟨trivial, fun x => ?_⟩
  cases x with
  | error e => exact ⟨rfl, fun h => by cases h⟩
  | ok cm =>
    apply (quiet_meets (reconcileIfLeader_only _ _ _ _) _).bind
    rintro _ tr ⟨hversion, -⟩
    refine ⟨?_, fun h => by cases h⟩
    rw [hversion, deliveredVersion_concat]
    rfl

theorem onEvent_watches (namespace_ podName : String) {s : LoopState} {tr : LifeTrace} (hinv : WatchInv s true tr)
    (event : WatchEvent) :
    (onEvent namespace_ podName s event).Meets WatchAllowed (fun p tr' => WatchInv p.1 p.2 tr')
      (tr ++ [⟨.select, .item (.ok event)⟩]) := by
  have hstream : ∀ {x : LifecycleAnswer .select}, streaming ⟨.select, x⟩ = none →
      lastOf streaming (tr ++ [⟨.select, x⟩]) = some true := fun hx =>
    (streaming_concat_of_none hx).trans (hinv.stream rfl)
  have hreconciled : ∀ (s' : LoopState) (enabled : Bool), streaming ⟨.select, .item (.ok event)⟩ = none →
      s'.resourceVersion = deliveredVersion (tr ++ [⟨.select, .item (.ok event)⟩]) →
      (reconcileIfLeader namespace_ podName enabled s'.lastExcluded >>= fun _ => return (s', true)).Meets WatchAllowed
        (fun p tr' => WatchInv p.1 p.2 tr') (tr ++ [⟨.select, .item (.ok event)⟩]) := fun s' enabled hnone hseen => by
    apply (quiet_meets (reconcileIfLeader_only _ _ _ _) _).bind
    rintro _ tr' ⟨hversion, hopen⟩
    exact ⟨hseen.trans hversion.symm, fun _ => hopen.trans (hstream hnone)⟩
  cases event with
  | added cm =>
    refine hreconciled _ _ rfl ?_
    rw [deliveredVersion_concat, ← hinv.version]
    rfl
  | modified cm =>
    refine hreconciled _ _ rfl ?_
    rw [deliveredVersion_concat, ← hinv.version]
    rfl
  | deleted cm =>
    refine hreconciled _ _ rfl ?_
    rw [deliveredVersion_concat, ← hinv.version]
    rfl
  | bookmark resourceVersion =>
    refine ⟨?_, fun _ => hstream rfl⟩
    rw [deliveredVersion_concat]
    rfl
  | error code message =>
    refine ⟨?_, fun h => by cases h⟩
    rw [deliveredVersion_concat]
    exact hinv.version

theorem onTick_watches (namespace_ podName : String) (s : LoopState) (tr : LifeTrace) :
    (onTick namespace_ podName s).Meets WatchAllowed
      (fun _ tr' => deliveredVersion tr' = deliveredVersion tr ∧ lastOf streaming tr' = lastOf streaming tr) tr := by
  apply quiet_meets
  unfold onTick
  cases s.lastEnabled with
  | none => exact only_pure _
  | some enabled => exact reconcileIfLeader_only _ _ _ _

theorem WatchInv.version_concat {s : LoopState} {watching : Bool} {tr : LifeTrace} {e : LifeEvent}
    (hinv : WatchInv s watching tr) (he : delivered e = none) : s.resourceVersion = deliveredVersion (tr ++ [e]) := by
  rw [deliveredVersion_concat, he]
  exact hinv.version

theorem watchLoop_watches (namespace_ podName : String) : ∀ (fuel : Nat) (watching : Bool) (s : LoopState)
    (tr : LifeTrace), WatchInv s watching tr →
    (watchLoop namespace_ podName fuel watching s).Meets WatchAllowed (fun _ _ => True) tr
  | 0, _, _, _, _ => trivial
  | fuel + 1, false, s, tr, hinv => by
    refine ⟨hinv.version, fun x => ?_⟩
    have hversion := hinv.version_concat (e := ⟨.watch s.resourceVersion, x⟩) rfl
    cases x with
    | error e =>
      have hinv' : WatchInv s false (tr ++ [⟨.watch s.resourceVersion, .error e⟩]) :=
        ⟨hversion, fun h => by cases h⟩
      refine ⟨trivial, fun _ => watchLoop_watches _ _ fuel false s _ ⟨hinv'.version_concat rfl, fun h => by cases h⟩⟩
    | ok u =>
      refine watchLoop_watches _ _ fuel true s _ ⟨hversion, fun _ => ?_⟩
      rw [lastOf_concat]
      rfl
  | fuel + 1, true, s, tr, hinv => by
    refine ⟨hinv.stream rfl, fun x => ?_⟩
    cases x with
    | item event =>
      cases event with
      | error e => exact watchLoop_watches _ _ fuel false s _ ⟨hinv.version_concat rfl, fun h => by cases h⟩
      | ok event =>
        exact (onEvent_watches namespace_ podName hinv event).bind
          (fun p tr' hp => watchLoop_watches _ _ fuel p.2 p.1 tr' hp)
    | ended => exact watchLoop_watches _ _ fuel false s _ ⟨hinv.version_concat rfl, fun h => by cases h⟩
    | tick =>
      apply (onTick_watches namespace_ podName s _).bind
      rintro _ tr' ⟨hversion, hopen⟩
      refine watchLoop_watches _ _ fuel true s tr' ⟨?_, fun _ => ?_⟩
      · rw [hversion]
        exact hinv.version_concat rfl
      · rw [hopen, streaming_concat_of_none rfl]
        exact hinv.stream rfl

theorem runOperatorLifecycle_watches (namespace_ podName : String) (fuel : Nat) :
    (runOperatorLifecycle namespace_ podName fuel).Meets WatchAllowed (fun _ _ => True) [] :=
  (initialReconcile_watches namespace_ podName).bind
    (fun s tr hinv => watchLoop_watches namespace_ podName fuel false s tr hinv)

/-! ## Recovery -/

/-- What the loop obeys at every step of a history. -/
def Watched (tr : LifeTrace) : Prop := ∀ pre e post, tr = pre ++ e :: post → WatchAllowed pre e.call

theorem Watched.version {tr pre post : LifeTrace} {e : LifeEvent} {version : String} (h : Watched tr)
    (hs : tr = pre ++ e :: post) (he : openedAt e = some version) : version = deliveredVersion pre := by
  have hallowed := h pre e post hs
  obtain ⟨call, answer⟩ := e
  cases call with
  | watch resourceVersion =>
    cases he
    exact hallowed
  | _ => cases he

theorem deliveredVersion_of_none {tr : LifeTrace} (h : ∀ e ∈ tr, delivered e = none) : deliveredVersion tr = "0" := by
  rw [deliveredVersion, lastOf_eq_none_iff.2 h]
  rfl

theorem shows_of_expired {tr : LifeTrace} {e : LifeEvent} {v : String} (h : expired tr e = some v) :
    delivered e = none ∧ streaming e = some false := by
  unfold expired at h
  split at h
  · exact ⟨rfl, rfl⟩
  · exact ⟨rfl, rfl⟩
  · exact ⟨rfl, rfl⟩
  · cases h

theorem opened_of_expired {pre : LifeTrace} {e : LifeEvent} {v : String} (h : expired pre e = some v) :
    openedAt e = some v ∨ lastOf openedAt pre = some v := by
  unfold expired at h
  split at h
  · split_ifs at h
    left
    exact h
  · split_ifs at h
    right
    exact h
  · split_ifs at h
    right
    exact h
  · cases h

/-- Before any version was delivered, what expires is the version `0`. -/
theorem Watched.expired_fresh {tr pre post : LifeTrace} {e : LifeEvent} {v : String} (h : Watched tr)
    (hs : tr = pre ++ e :: post) (he : expired pre e = some v) (hfresh : ∀ x ∈ pre, delivered x = none) : v = "0" := by
  rcases opened_of_expired he with hopen | hopen
  · rw [h.version hs hopen]
    exact deliveredVersion_of_none hfresh
  · obtain ⟨before, w, after, rfl, hw⟩ := exists_of_lastOf hopen
    have hs' : tr = before ++ w :: (after ++ e :: post) := by
      rw [hs]
      simp
    rw [h.version hs' hw]
    exact deliveredVersion_of_none (fun x hx => hfresh x (by simp [hx]))

/-- **A run whose expiries all come first recovers from them.** -/
theorem recovers_of_expiresFresh {tr : LifeTrace} (h : Watched tr) (hfresh : ExpiresFresh tr) : Recovers tr := by
  intro pre e mid w post v version hs he hw
  have hpre := hfresh pre e mid w post v version hs he hw
  have hv : v = "0" := h.expired_fresh hs he hpre
  have hsw : tr = (pre ++ e :: mid) ++ w :: post := by
    rw [hs]
    simp
  have hversion : version = deliveredVersion (pre ++ e :: mid) := h.version hsw hw
  have hbefore : ∀ x ∈ pre ++ [e], delivered x = none := by
    intro x hx
    rcases List.mem_append.1 hx with hx | hx
    · exact hpre x hx
    · rw [List.mem_singleton.1 hx]
      exact (shows_of_expired he).1
  have hlast : lastOf delivered (pre ++ e :: mid) = lastOf delivered mid := by
    rw [List.append_cons, lastOf_append, lastOf_eq_none_iff.2 hbefore, Option.or_none]
  rw [deliveredVersion, hlast] at hversion
  by_cases hzero : version = "0"
  · exact .inl hzero
  · right
    cases hmid : lastOf delivered mid with
    | none =>
      rw [hmid] at hversion
      exact absurd hversion hzero
    | some last =>
      rw [hmid, Option.getD_some] at hversion
      obtain ⟨before, x, after, rfl, hx⟩ := exists_of_lastOf hmid
      refine ⟨⟨x, by simp, by rw [hx, hversion]⟩, ?_⟩
      rw [hv]
      exact hzero

/-- Until the next watch is opened the stream stays closed, so nothing is delivered. -/
theorem Watched.quiet_until_watch {tr : LifeTrace} (h : Watched tr) : ∀ (mid pre post : LifeTrace),
    tr = pre ++ mid ++ post → lastOf streaming pre = some false → (∀ x ∈ mid, openedAt x = none) →
    ∀ x ∈ mid, delivered x = none
  | [], _, _, _, _, _ => by simp
  | y :: mid, pre, post, hs, hclosed, hmid => by
    have hsplit : tr = pre ++ y :: (mid ++ post) := by
      rw [hs]
      simp
    have hy : delivered y = none ∧ streaming y = none := by
      have hopen := hmid y (by simp)
      have hallowed := h pre y (mid ++ post) hsplit
      obtain ⟨call, answer⟩ := y
      cases call with
      | watch version => cases hopen
      | select =>
        rw [WatchAllowed, hclosed] at hallowed
        cases hallowed
      | _ => exact ⟨rfl, rfl⟩
    have hrest := h.quiet_until_watch mid (pre ++ [y]) post (by rw [hs]; simp)
      ((streaming_concat_of_none hy.2).trans hclosed) (fun x hx => hmid x (List.mem_cons_of_mem y hx))
    intro x hx
    rcases List.mem_cons.1 hx with rfl | hx
    · exact hy.1
    · exact hrest x hx

theorem exists_first_watch : ∀ {l : LifeTrace} {w : LifeEvent} {version : String}, w ∈ l → openedAt w = some version →
    ∃ mid w' post version', l = mid ++ w' :: post ∧ openedAt w' = some version' ∧ ∀ x ∈ mid, openedAt x = none
  | [], _, _, hw, _ => by cases hw
  | x :: l, w, version, hw, hversion => by
    cases hx : openedAt x with
    | some version' => exact ⟨[], x, l, version', rfl, hx, by simp⟩
    | none =>
      rcases List.mem_cons.1 hw with rfl | hw
      · rw [hx] at hversion
        cases hversion
      · obtain ⟨mid, w', post, version', rfl, hw', hmid⟩ := exists_first_watch hw hversion
        refine ⟨x :: mid, w', post, version', rfl, hw', ?_⟩
        intro y hy
        rcases List.mem_cons.1 hy with rfl | hy
        · exact hx
        · exact hmid y hy

/-- **No other run recovers**: the first watch after an expiry is opened at the version delivered before it. -/
theorem expiresFresh_of_recovers {tr : LifeTrace} (h : Watched tr) (hzero : ∀ x ∈ tr, delivered x ≠ some "0")
    (hrec : Recovers tr) : ExpiresFresh tr := by
  intro pre e mid w post v version hs he hw
  obtain ⟨mid', w', post', version', hs', hw', hmid'⟩ :=
    exists_first_watch (List.mem_append_right mid (List.mem_cons_self : w ∈ w :: post)) hw
  rw [hs'] at hs
  have hshows := shows_of_expired he
  have hclosed : lastOf streaming (pre ++ [e]) = some false := by
    rw [lastOf_concat, hshows.2]
    rfl
  have hquiet := h.quiet_until_watch mid' (pre ++ [e]) (w' :: post') (by rw [hs]; simp) hclosed hmid'
  have hversion : version' = deliveredVersion pre := by
    rw [h.version (by rw [hs]; simp : tr = (pre ++ [e] ++ mid') ++ w' :: post') hw', deliveredVersion,
      lastOf_append_of_none _ hquiet, lastOf_concat, hshows.1, Option.none_or, deliveredVersion]
  have hnone : lastOf delivered pre = none := by
    cases hlast : lastOf delivered pre with
    | none => rfl
    | some last =>
      obtain ⟨before, x, after, rfl, hx⟩ := exists_of_lastOf hlast
      rw [deliveredVersion, hlast, Option.getD_some] at hversion
      rcases hrec _ e mid' w' post' v version' hs he hw' with hz | ⟨⟨y, hy, hyv⟩, -⟩
      · exact absurd (hx.trans (by rw [← hversion, hz])) (hzero x (by rw [hs]; simp))
      · rw [hquiet y hy] at hyv
        cases hyv
  exact lastOf_eq_none_iff.1 hnone

/-- **When the ConfigMap watch recovers from expiry**: in every run whose expiries come before any version was
delivered; and, no server delivering the version `0`, in no other. -/
theorem watch_recovers_iff (namespace_ podName : String) (fuel : Nat) (o : LifeOracle) :
    (ExpiresFresh ((runOperatorLifecycle namespace_ podName fuel).trace o) →
      Recovers ((runOperatorLifecycle namespace_ podName fuel).trace o)) ∧
    ((∀ x ∈ (runOperatorLifecycle namespace_ podName fuel).trace o, delivered x ≠ some "0") →
      Recovers ((runOperatorLifecycle namespace_ podName fuel).trace o) →
      ExpiresFresh ((runOperatorLifecycle namespace_ podName fuel).trace o)) := by
  have hwatched : Watched ((runOperatorLifecycle namespace_ podName fuel).trace o) := by
    intro pre e post hs
    exact trace_meets o _ (runOperatorLifecycle_watches namespace_ podName fuel) pre post e hs
  exact ⟨recovers_of_expiresFresh hwatched, expiresFresh_of_recovers hwatched⟩

/-- A server that delivers `first` and ends the stream, and no longer has what it delivered: the watch behind it is
opened, and its stream answers with the refusal. -/
def expiringServer (first : Option WatchEvent) : LifeOracle := fun tr op =>
  match op with
  | .getConfigMap => .error (.other "connection refused")
  | .isLeader => false
  | .watch _ => .ok ()
  | .select =>
    if lastOf openedAt tr = some "0" then
      match first with
      | some event => if tr.length = 2 then .item (.ok event) else .ended
      | none => .item (.ok (.error 410 "too old resource version"))
    else .item (.error (.failure 410 "Expired" "too old resource version"))
  | .sleep _ => ()
  | .getPod _ _ => .ok none
  | .getOpt _ => .ok false
  | .patch _ => .ok ()
  | .create _ => .ok ()
  | .delete _ => .ok ()
  | .listNamespaces => .ok []
  | .patchLabel _ _ => .ok ()

/-- The watch that failed with 410 at `5` is opened at `5` again. -/
theorem expired_version_reopened :
    ¬ Recovers ((runOperatorLifecycle "sentinella" "agent-0" 6).trace
      (expiringServer (some (.added { metadata := { resourceVersion := some "5" } })))) := by
  intro h
  have hagain := h _ ⟨.select, .item (.error (.failure 410 "Expired" "too old resource version"))⟩ []
    ⟨.watch "5", .ok ()⟩ [] "5" "5" (rfl : _ = [_, _, _, _, _, _] ++ _) rfl rfl
  revert hagain
  simp

/-- Expiries before anything was delivered: every watch is opened at `0`. -/
theorem watch_recovers_at_zero :
    Recovers ((runOperatorLifecycle "sentinella" "agent-0" 4).trace (expiringServer none)) := by
  apply (watch_recovers_iff "sentinella" "agent-0" 4 (expiringServer none)).1
  have hnone : ((runOperatorLifecycle "sentinella" "agent-0" 4).trace (expiringServer none)).filterMap delivered = [] :=
    rfl
  rw [List.filterMap_eq_nil_iff] at hnone
  intro pre e mid w post v version hs _ _ x hx
  exact hnone x (by rw [hs]; simp [hx])

end Lifecycle
end HubAgent
