import HubAgent.Streams
/-!
# What every pass of the manager leaves (`tetragon.rs`)

The address of a discovered stream has a colon, so it is never the key of the fallback (`fallback_notMem_discover`).
`FallbackAlone` says what every pass keeps: the fallback is the one entry under its key, and where it is there is no
other.  From it `pass_spec` reads off what a pass does to every key, and `stream_manager_exact` says it of all runs.
-/
namespace HubAgent
namespace Tetragon

variable {runtime : TetragonRuntime} {streams : Streams} {st : ManagerState} {endpoints : Finset String} {key : String}
  {entry : StreamEntry}

/-! ## What is discovered -/

/-- Not more addresses than the cap, each with a colon. -/
structure WellDiscovered (addresses : Finset String) : Prop where
  few : addresses.card ≤ maxDiscoveredEndpoints
  colon : ∀ address ∈ addresses, ':' ∈ address.toList

/-- What a step of the discovery leaves, whether it returns there or goes on. -/
def Leaves (P : Finset String → Prop) : Except (Finset String) (Finset String) → Prop
  | .ok addresses => P addresses
  | .error addresses => P addresses

theorem leaves_foldlM {α : Type} {P : Finset String → Prop}
    {f : Finset String → α → Except (Finset String) (Finset String)}
    (hf : ∀ addresses a, P addresses → Leaves P (f addresses a)) :
    ∀ (l : List α) (addresses : Finset String), P addresses → Leaves P (l.foldlM f addresses)
  | [], addresses, h => h
  | a :: l, addresses, h => by
    have hstep := hf addresses a h
    rw [List.foldlM_cons]
    cases heq : f addresses a with
    | ok next =>
      rw [heq] at hstep
      exact leaves_foldlM hf l next hstep
    | error last =>
      rw [heq] at hstep
      exact hstep

theorem WellDiscovered.discoverAddress {addresses : Finset String} (h : WellDiscovered addresses) (port : UInt16)
    (address : String) : Leaves WellDiscovered (discoverAddress port addresses address) := by
  unfold Tetragon.discoverAddress
  split_ifs with hcap
  · exact h
  split
  · exact h
  · rename_i text htext
    constructor
    · have hcard := Finset.card_insert_le (text ++ ":" ++ port.toNat.repr) addresses
      have hroom : addresses.card < maxDiscoveredEndpoints := by omega
      omega
    · intro other hother
      rcases Finset.mem_insert.1 hother with rfl | hold
      · simp
      · exact h.colon other hold

theorem WellDiscovered.discoverEndpoint {addresses : Finset String} (h : WellDiscovered addresses) (port : UInt16)
    (endpoint : SliceEndpoint) : Leaves WellDiscovered (discoverEndpoint port addresses endpoint) := by
  unfold Tetragon.discoverEndpoint
  split_ifs
  · exact h
  · exact h
  · exact leaves_foldlM (fun addresses address h => h.discoverAddress port address) _ _ h

theorem WellDiscovered.discoverSlice {addresses : Finset String} (h : WellDiscovered addresses)
    (runtime : TetragonRuntime) (slice : EndpointSlice) :
    Leaves WellDiscovered (discoverSlice runtime addresses slice) :=
  leaves_foldlM (fun _ endpoint h => h.discoverEndpoint (slicePort runtime slice) endpoint) slice.endpoints _ h

theorem wellDiscovered_discover (runtime : TetragonRuntime) (slices : List EndpointSlice) :
    WellDiscovered (discoverTetragonEndpoints runtime slices) := by
  have hempty : WellDiscovered ∅ := ⟨Nat.zero_le _, fun address h => absurd h (Finset.notMem_empty _)⟩
  have hslices := leaves_foldlM (fun _ slice h => h.discoverSlice runtime slice) slices ∅ hempty
  unfold discoverTetragonEndpoints
  cases heq : slices.foldlM (discoverSlice runtime) ∅ with
  | ok addresses =>
    rw [heq] at hslices
    exact hslices
  | error addresses =>
    rw [heq] at hslices
    exact hslices

theorem fallback_notMem_discover (runtime : TetragonRuntime) (slices : List EndpointSlice) :
    fallbackStreamKey ∉ discoverTetragonEndpoints runtime slices := by
  intro h
  have hcolon := (wellDiscovered_discover runtime slices).colon _ h
  revert hcolon
  decide

/-! ## Lookups -/

theorem streamExists_iff : streamExists key streams = true ↔ ∃ entry, streams.lookup key = some entry := by
  rw [streamExists, decide_eq_true_iff, ← AList.lookup_isSome, Option.isSome_iff_exists]

theorem mem_discoveredKeys : key ∈ discoveredKeys streams ↔
    ∃ entry, streams.lookup key = some entry ∧ entry.source = .discovered := by
  rw [discoveredKeys, List.mem_toFinset, List.mem_filter, AList.mem_keys.symm, ← AList.lookup_isSome]
  cases h : streams.lookup key <;> simp

theorem hasFallbackStream_iff : hasFallbackStream streams = true ↔
    ∃ entry, streams.lookup fallbackStreamKey = some entry ∧ entry.source = .fallback := by
  unfold hasFallbackStream
  cases h : streams.lookup fallbackStreamKey <;> simp

theorem noStreams_iff : noStreams streams = true ↔ ∀ key, streams.lookup key = none := by
  rw [noStreams, List.isEmpty_iff]
  constructor
  · intro h key
    rw [AList.lookup_eq_none, AList.mem_keys, AList.keys, List.keys, h]
    exact List.not_mem_nil
  · intro h
    by_contra hne
    obtain ⟨entry, hentry⟩ := List.exists_mem_of_ne_nil _ hne
    have hnone := h entry.1
    rw [AList.lookup_eq_none, AList.mem_keys] at hnone
    exact hnone (List.mem_keys_of_mem hentry)

theorem lookup_dropStreams (keys : List String) (st : ManagerState) (key : String) :
    (keys.foldl dropStream st).streams.lookup key = if key ∈ keys then none else st.streams.lookup key := by
  induction keys generalizing st with
  | nil => simp
  | cons first keys ih =>
    rw [List.foldl_cons, ih]
    by_cases hfirst : key = first
    · subst hfirst
      rw [dropStream, removeStream, AList.lookup_erase, if_pos List.mem_cons_self, ite_self]
    · rw [dropStream, removeStream, AList.lookup_erase_ne hfirst]
      simp [hfirst]

/-- The entry of a task that is spawned for an address. -/
structure Spawned (entry : StreamEntry) : Prop where
  source : entry.source = .discovered
  connected : entry.connected = false

theorem lookup_spawnStream (address : String) (source : StreamSource) (h : st.streams.lookup key = none) :
    (spawnStream key address source st).streams.lookup key =
      some { source, connected := false, task := st.spawned.length } := by
  have habsent : ¬ streamExists key st.streams = true := by
    rw [streamExists_iff, h]
    simp
  rw [spawnStream, if_neg habsent]
  exact AList.lookup_insert _

theorem lookup_spawnStream_ne {other : String} (address : String) (source : StreamSource) (h : other ≠ key) :
    (spawnStream key address source st).streams.lookup other = st.streams.lookup other := by
  unfold spawnStream
  split_ifs
  · rfl
  · exact AList.lookup_insert_ne h

/-- **What spawning for some addresses does to a key**: an entry stays as it is; of the other keys those of the
addresses get one. -/
theorem lookup_startStreams (addresses : List String) (st : ManagerState) (key : String) :
    match st.streams.lookup key with
    | some entry => (addresses.foldl startStream st).streams.lookup key = some entry
    | none =>
      (key ∈ addresses → ∃ entry, (addresses.foldl startStream st).streams.lookup key = some entry ∧ Spawned entry) ∧
      (key ∉ addresses → (addresses.foldl startStream st).streams.lookup key = none) := by
  induction addresses generalizing st with
  | nil =>
    cases h : st.streams.lookup key with
    | some entry => exact h
    | none => exact ⟨fun hmem => (by cases hmem), fun _ => h⟩
  | cons first addresses ih =>
    rw [List.foldl_cons]
    have hih := ih (startStream st first)
    by_cases hfirst : key = first
    · subst hfirst
      cases h : st.streams.lookup key with
      | some entry =>
        have hexists : streamExists key st.streams = true := streamExists_iff.2 ⟨entry, h⟩
        rw [startStream, if_pos hexists, h] at hih
        rw [startStream, if_pos hexists]
        exact hih
      | none =>
        have habsent : ¬ streamExists key st.streams = true := by
          rw [streamExists_iff, h]
          simp
        have hnew := lookup_spawnStream key .discovered h
        rw [startStream, if_neg habsent, hnew] at hih
        rw [startStream, if_neg habsent]
        exact ⟨fun _ => ⟨_, hih, rfl, rfl⟩, fun hout => absurd List.mem_cons_self hout⟩
    · have hsame : (startStream st first).streams.lookup key = st.streams.lookup key := by
        unfold startStream
        split_ifs
        · rfl
        · exact lookup_spawnStream_ne first .discovered hfirst
      rw [hsame] at hih
      cases h : st.streams.lookup key with
      | some entry =>
        rw [h] at hih
        exact hih
      | none =>
        rw [h] at hih
        simpa [hfirst] using hih

/-! ## One pass -/

/-- **The fallback is the one entry under its key, and is alone.** -/
structure FallbackAlone (streams : Streams) : Prop where
  key_iff : ∀ key entry, streams.lookup key = some entry → (entry.source = .fallback ↔ key = fallbackStreamKey)
  alone : ∀ entry, streams.lookup fallbackStreamKey = some entry → ∀ key ≠ fallbackStreamKey, streams.lookup key = none

theorem fallbackAlone_empty : FallbackAlone ∅ :=
  ⟨fun key entry h => (by cases h), fun entry h => (by cases h)⟩

theorem FallbackAlone.setStreamConnected (h : FallbackAlone streams) (key : String) (connected : Bool) :
    FallbackAlone (setStreamConnected key connected streams).2 := by
  unfold Tetragon.setStreamConnected
  cases hlookup : streams.lookup key with
  | none => exact h
  | some entry =>
    dsimp only
    constructor
    · intro other entry' h'
      by_cases hkey : other = key
      · subst hkey
        rw [AList.lookup_insert] at h'
        cases h'
        exact h.key_iff other entry hlookup
      · rw [AList.lookup_insert_ne hkey] at h'
        exact h.key_iff other entry' h'
    · intro entry' h' other hother
      by_cases hkey : other = key
      · subst hkey
        rw [AList.lookup_insert_ne (Ne.symm hother)] at h'
        rw [h.alone entry' h' other hother] at hlookup
        cases hlookup
      · rw [AList.lookup_insert_ne hkey]
        by_cases hfallback : fallbackStreamKey = key
        · subst hfallback
          exact h.alone entry hlookup other hother
        · rw [AList.lookup_insert_ne hfallback] at h'
          exact h.alone entry' h' other hother

/-- **What a pass has to do to the entries**: with addresses, it makes them the keys; without, it keeps all entries, and
adds the fallback where there was none.  An entry whose key it keeps is untouched. -/
structure PassSpec (endpoints : Finset String) (before after : Streams) : Prop where
  keys : endpoints ≠ ∅ → ∀ key, (∃ entry, after.lookup key = some entry) ↔ key ∈ endpoints
  kept : endpoints = ∅ → ∀ key entry, before.lookup key = some entry → after.lookup key = some entry
  same : ∀ key entry entry', before.lookup key = some entry → after.lookup key = some entry' → entry' = entry
  nonempty : ∃ key entry, after.lookup key = some entry
  alone : FallbackAlone after

theorem passSpec_ensureFallback (hnone : ∀ key, st.streams.lookup key = none) :
    PassSpec ∅ st.streams (ensureFallbackStream runtime st).streams := by
  have habsent : ¬ streamExists fallbackStreamKey st.streams = true := by
    rw [streamExists_iff, hnone]
    simp
  have hfallback := lookup_spawnStream runtime.fallbackAddress .fallback (hnone fallbackStreamKey)
  have hother : ∀ key ≠ fallbackStreamKey,
      (spawnStream fallbackStreamKey runtime.fallbackAddress .fallback st).streams.lookup key = none := by
    intro key hkey
    rw [lookup_spawnStream_ne _ _ hkey, hnone]
  rw [ensureFallbackStream, if_neg habsent]
  constructor
  · exact fun h => absurd rfl h
  · intro _ key entry h
    rw [hnone] at h
    cases h
  · intro key entry entry' h
    rw [hnone] at h
    cases h
  · exact ⟨_, _, hfallback⟩
  · constructor
    · intro key entry h
      by_cases hkey : key = fallbackStreamKey
      · subst hkey
        rw [hfallback] at h
        cases h
        exact ⟨fun _ => rfl, fun _ => rfl⟩
      · rw [hother key hkey] at h
        cases h
    · exact fun _ _ => hother

theorem passSpec_keep (h : FallbackAlone streams) (hsome : ¬ noStreams streams = true) :
    PassSpec ∅ streams streams := by
  rw [noStreams_iff] at hsome
  push Not at hsome
  obtain ⟨key, hkey⟩ := hsome
  obtain ⟨entry, hentry⟩ := Option.ne_none_iff_exists'.1 hkey
  constructor
  · exact fun h => absurd rfl h
  · exact fun _ _ _ h => h
  · intro key entry entry' h h'
    rw [h] at h'
    exact (Option.some.inj h').symm
  · exact ⟨key, entry, hentry⟩
  · exact h

theorem lookup_dropped (h : FallbackAlone st.streams) (hfallback : fallbackStreamKey ∉ endpoints) (key : String) :
    let stale := (discoveredKeys st.streams).filter (fun key => key ∉ endpoints)
    let st' := (stale.sort (· ≤ ·)).foldl dropStream st
    (if hasFallbackStream st'.streams then dropStream st' fallbackStreamKey else st').streams.lookup key =
      if key ∈ endpoints then st.streams.lookup key else none := by
  intro stale st'
  have hst' : ∀ key, st'.streams.lookup key = if key ∈ stale then none else st.streams.lookup key := by
    intro key
    rw [lookup_dropStreams]
    simp only [Finset.mem_sort]
  have hstale : ∀ key, key ∈ stale ↔
      (∃ entry, st.streams.lookup key = some entry ∧ entry.source = .discovered) ∧ key ∉ endpoints := by
    intro key
    rw [← mem_discoveredKeys]
    exact Finset.mem_filter
  have hnotStale : fallbackStreamKey ∉ stale := by
    rw [hstale]
    rintro ⟨⟨entry, hlookup, hsource⟩, -⟩
    have hfallback := (h.key_iff _ _ hlookup).2 rfl
    rw [hfallback] at hsource
    cases hsource
  -- the entries at other keys are not touched by what is done about the fallback
  have hother : ∀ key ≠ fallbackStreamKey,
      (if hasFallbackStream st'.streams then dropStream st' fallbackStreamKey else st').streams.lookup key =
        st'.streams.lookup key := by
    intro key hkey
    split_ifs
    · exact AList.lookup_erase_ne hkey
    · rfl
  by_cases hkey : key = fallbackStreamKey
  · subst hkey
    rw [if_neg hfallback]
    split_ifs with hhas
    · exact AList.lookup_erase _ _
    · rw [hasFallbackStream_iff, hst', if_neg hnotStale] at hhas
      rw [hst', if_neg hnotStale]
      cases hlookup : st.streams.lookup fallbackStreamKey with
      | none => rfl
      | some entry => exact absurd ⟨entry, hlookup, (h.key_iff _ _ hlookup).2 rfl⟩ hhas
  · rw [hother key hkey, hst']
    by_cases hmem : key ∈ endpoints
    · rw [if_pos hmem, if_neg]
      rw [hstale]
      exact fun hcontra => hcontra.2 hmem
    · rw [if_neg hmem]
      cases hlookup : st.streams.lookup key with
      | none => exact ite_self _
      | some entry =>
        have hdiscovered : entry.source = .discovered := by
          cases hsource : entry.source with
          | discovered => rfl
          | fallback => exact absurd ((h.key_iff _ _ hlookup).1 hsource) hkey
        rw [if_pos ((hstale key).2 ⟨⟨entry, hlookup, hdiscovered⟩, hmem⟩)]

/-- **A discovery brings the entries in line with its addresses.** -/
theorem passSpec_reconcile (h : FallbackAlone st.streams) (hfallback : fallbackStreamKey ∉ endpoints) :
    PassSpec endpoints st.streams (reconcileStreams runtime endpoints st).streams := by
  unfold reconcileStreams
  split_ifs with hempty hnone
  · rw [hempty]
    exact passSpec_ensureFallback (noStreams_iff.1 hnone)
  · rw [hempty]
    exact passSpec_keep h hnone
  have hdropped := lookup_dropped h hfallback
  dsimp only at hdropped ⊢
  generalize (if hasFallbackStream (List.foldl dropStream st _).streams then _ else _ : ManagerState) = kept
    at hdropped ⊢
  have hstarted := lookup_startStreams (endpoints.sort (· ≤ ·)) kept
  generalize (endpoints.sort (· ≤ ·)).foldl startStream kept = after at hstarted ⊢
  have hin : ∀ key ∈ endpoints, ∃ entry, after.streams.lookup key = some entry ∧
      (st.streams.lookup key = some entry ∨ st.streams.lookup key = none ∧ Spawned entry) := by
    intro key hmem
    have hkey := hstarted key
    rw [hdropped key, if_pos hmem] at hkey
    cases hbefore : st.streams.lookup key with
    | some entry =>
      rw [hbefore] at hkey
      exact ⟨entry, hkey, .inl rfl⟩
    | none =>
      rw [hbefore] at hkey
      obtain ⟨entry, hentry, hspawned⟩ := hkey.1 (by simpa using hmem)
      exact ⟨entry, hentry, .inr ⟨rfl, hspawned⟩⟩
  have hout : ∀ key, key ∉ endpoints → after.streams.lookup key = none := by
    intro key hmem
    have hkey := hstarted key
    rw [hdropped key, if_neg hmem] at hkey
    exact hkey.2 (by simpa using hmem)
  have hmem_of_lookup : ∀ key entry, after.streams.lookup key = some entry → key ∈ endpoints := by
    intro key entry hentry
    by_contra hmem
    rw [hout key hmem] at hentry
    cases hentry
  constructor
  · intro _ key
    constructor
    · rintro ⟨entry, hentry⟩
      exact hmem_of_lookup key entry hentry
    · intro hmem
      obtain ⟨entry, hentry, -⟩ := hin key hmem
      exact ⟨entry, hentry⟩
  · exact fun h => absurd h hempty
  · intro key entry entry' hbefore hafter
    obtain ⟨entry'', hentry'', hold | ⟨hnone, -⟩⟩ := hin key (hmem_of_lookup key entry' hafter)
    · rw [hbefore] at hold
      rw [hafter] at hentry''
      cases hold
      exact Option.some.inj hentry''
    · rw [hbefore] at hnone
      cases hnone
  · obtain ⟨key, hkey⟩ := Finset.nonempty_iff_ne_empty.2 hempty
    obtain ⟨entry, hentry, -⟩ := hin key hkey
    exact ⟨key, entry, hentry⟩
  · have hnotFallback : ∀ key ∈ endpoints, key ≠ fallbackStreamKey := fun key hmem heq => hfallback (heq ▸ hmem)
    constructor
    · intro key entry hentry
      have hmem := hmem_of_lookup key entry hentry
      obtain ⟨entry', hentry', hold⟩ := hin key hmem
      rw [hentry] at hentry'
      cases hentry'
      rcases hold with hold | ⟨-, hspawned⟩
      · exact h.key_iff key entry hold
      · rw [hspawned.source]
        exact ⟨fun heq => (by cases heq), fun heq => absurd heq (hnotFallback key hmem)⟩
    · intro entry hentry
      exact absurd rfl (hnotFallback _ (hmem_of_lookup _ entry hentry))

/-- What the discovery of an outcome gives: a failed one gives nothing. -/
def discoveredBy (runtime : TetragonRuntime) : DiscoveryOutcome → Finset String
  | .ok slices => discoverTetragonEndpoints runtime slices
  | .error _ => ∅

/-! ## Runs -/

/-- What holds between the operations on the entries. -/
structure Managed (st : ManagerState) : Prop where
  alone : FallbackAlone st.streams
  first : st.position = .first → ∀ key, st.streams.lookup key = none
  enabled : st.position ≠ .returned

/-- **What one pass does.** -/
theorem Managed.pass (h : Managed st) (runtime : TetragonRuntime) (outcome : DiscoveryOutcome) :
    PassSpec (discoveredBy runtime outcome) st.streams (managerPass runtime outcome st).streams ∧
      Managed (managerPass runtime outcome st) := by
  have hpass : PassSpec (discoveredBy runtime outcome) st.streams (managerPass runtime outcome st).streams := by
    unfold managerPass
    cases hposition : st.position with
    | returned => exact absurd hposition h.enabled
    | first =>
      cases outcome with
      | ok slices => exact passSpec_reconcile h.alone (fallback_notMem_discover runtime slices)
      | error e => exact passSpec_ensureFallback (h.first hposition)
    | looping =>
      cases outcome with
      | ok slices => exact passSpec_reconcile h.alone (fallback_notMem_discover runtime slices)
      | error e =>
        by_cases hnone : noStreams st.streams = true
        · simp only [hnone, if_true]
          exact passSpec_ensureFallback (noStreams_iff.1 hnone)
        · simp only [hnone]
          exact passSpec_keep h.alone hnone
  have hposition : (managerPass runtime outcome st).position = .looping := by
    unfold managerPass
    cases hposition : st.position with
    | returned => exact absurd hposition h.enabled
    | first => rfl
    | looping => rfl
  refine ⟨hpass, hpass.alone, ?_, ?_⟩
  · rw [hposition]
    intro h
    cases h
  · rw [hposition]
    intro h
    cases h

theorem Managed.flag (h : Managed st) (runtime : TetragonRuntime) (key : String) (connected : Bool) :
    Managed (managerStep runtime st (.flag key connected)) := by
  refine ⟨h.alone.setStreamConnected key connected, fun hfirst other => ?_, h.enabled⟩
  have hnone := h.first hfirst
  simp only [managerStep, setStreamConnected, hnone]

/-- **Every run is managed.** -/
theorem managed_managerAfter (henabled : runtime.discoveryEnabled = true) (ops : List ManagerOp) :
    Managed (managerAfter runtime ops) := by
  induction ops using List.reverseRecOn with
  | nil =>
    have hstart : startManager runtime = {} := by
      rw [startManager, henabled]
      rfl
    rw [managerAfter, List.foldl_nil, hstart]
    exact ⟨fallbackAlone_empty, fun _ _ => rfl, fun h => (by cases h)⟩
  | append_singleton ops op ih =>
    rw [managerAfter, List.foldl_append]
    cases op with
    | pass outcome => exact (ih.pass runtime outcome).2
    | flag key connected => exact ih.flag runtime key connected

/-- **The law of the manager**: what a pass that discovered `endpoints` makes of the entries. -/
structure AfterPass (endpoints : Finset String) (before after : Streams) : Prop where
  exclusive : ¬ ((∃ key entry, after.lookup key = some entry ∧ entry.source = .fallback) ∧
    ∃ key entry, after.lookup key = some entry ∧ entry.source = .discovered)
  nonempty : ∃ key, key ∈ after
  exact : endpoints ≠ ∅ → (∀ key, key ∈ after ↔ key ∈ endpoints) ∧ endpoints.card ≤ maxDiscoveredEndpoints
  kept : endpoints = ∅ → ∀ key ∈ before, key ∈ after
  same : ∀ key entry entry', before.lookup key = some entry → after.lookup key = some entry' → entry' = entry

theorem mem_iff_lookup : key ∈ streams ↔ ∃ entry, streams.lookup key = some entry := by
  rw [← AList.lookup_isSome, Option.isSome_iff_exists]

theorem FallbackAlone.exclusive (h : FallbackAlone streams) :
    ¬ ((∃ key entry, streams.lookup key = some entry ∧ entry.source = .fallback) ∧
      ∃ key entry, streams.lookup key = some entry ∧ entry.source = .discovered) := by
  rintro ⟨⟨key, entry, hentry, hfallback⟩, key', entry', hentry', hdiscovered⟩
  have hkey := (h.key_iff key entry hentry).1 hfallback
  subst hkey
  by_cases hkey' : key' = fallbackStreamKey
  · rw [(h.key_iff key' entry' hentry').2 hkey'] at hdiscovered
    cases hdiscovered
  · rw [h.alone entry hentry key' hkey'] at hentry'
    cases hentry'

/-- **Every pass of every run obeys the law of the manager.** -/
theorem stream_manager_exact (runtime : TetragonRuntime) (henabled : runtime.discoveryEnabled = true)
    (ops : List ManagerOp) (outcome : DiscoveryOutcome) :
    AfterPass (discoveredBy runtime outcome) (managerAfter runtime ops).streams
      (managerAfter runtime (ops ++ [.pass outcome])).streams := by
  have hpass := ((managed_managerAfter henabled ops).pass runtime outcome).1
  have hafter : managerAfter runtime (ops ++ [.pass outcome]) =
      managerPass runtime outcome (managerAfter runtime ops) := by
    rw [managerAfter, List.foldl_append]
    rfl
  rw [hafter]
  constructor
  · exact hpass.alone.exclusive
  · obtain ⟨key, hkey⟩ := hpass.nonempty
    exact ⟨key, mem_iff_lookup.2 hkey⟩
  · intro hsome
    refine ⟨fun key => mem_iff_lookup.trans (hpass.keys hsome key), ?_⟩
    cases outcome with
    | ok slices => exact (wellDiscovered_discover runtime slices).few
    | error e => exact absurd rfl hsome
  · intro hnone key hkey
    obtain ⟨entry, hentry⟩ := mem_iff_lookup.1 hkey
    exact mem_iff_lookup.2 ⟨entry, hpass.kept hnone key entry hentry⟩
  · exact hpass.same

def defaultRuntime : TetragonRuntime where
  discoveryEnabled := true
  grpcPort := 54321
  fallbackAddress := "tetragon-grpc.tetragon.svc.cluster.local:54321"

/-- The first discovery fails, and the second finds a pod. -/
theorem stream_manager_exact_after_error :
    AfterPass
      (discoveredBy defaultRuntime (.ok [⟨none, [⟨["10.1.2.3"], none, some ⟨some "Pod"⟩⟩]⟩]))
      (managerAfter defaultRuntime [.pass (.error "forbidden")]).streams
      (managerAfter defaultRuntime ([.pass (.error "forbidden")] ++
        [.pass (.ok [⟨none, [⟨["10.1.2.3"], none, some ⟨some "Pod"⟩⟩]⟩])])).streams :=
  stream_manager_exact defaultRuntime rfl [.pass (.error "forbidden")] _

end Tetragon
end HubAgent
