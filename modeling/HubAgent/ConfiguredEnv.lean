import HubAgent.SnapshotCaps
/-!
# Whose values the configured environment shows (`README.md`, InventorySnapshot.configuration)

The values of the agent's own ConfigMaps are shown, and no others: two listings that agree on the agent's namespace are
to show the same.  The three ConfigMaps are looked for by name alone in the list sorted by namespace, so a ConfigMap of
the same name in another namespace counts when that namespace sorts first or the agent's has none.  `reflects_iff` says
for which namespaces of others, and for which ConfigMaps of the agent's own, this cannot be seen.
-/
namespace HubAgent
namespace Collector

open Ranked (sortBy Separates)

/-! ## The listings -/

def own (ns : String) (configmaps : List ConfigMap) : List ConfigMap :=
  configmaps.filter (fun cm => cm.metadata.namespace_ == some ns)

/-- What the API server can list: ConfigMaps of the agent's namespace and of those of others, no two of one name in one
namespace. -/
structure Listed (others : Set String) (ns : String) (configmaps : List ConfigMap) : Prop where
  namespaced : ∀ cm ∈ configmaps, ∃ namespace_ name, cm.metadata.namespace_ = some namespace_ ∧
    cm.metadata.name = some name ∧ (namespace_ = ns ∨ namespace_ ∈ others)
  distinct : (configmaps.map (fun cm => snapshotName cm.metadata)).Nodup

/-- The configured environment of `collect`. -/
def configuredEnv (configmaps : List ConfigMap) : List KV :=
  collectAgentConfiguredEnv (sortConfigmapsForSnapshot configmaps)

/-- Every listing with the same ConfigMaps in the agent's namespace shows the same values. -/
def Reflects (others : Set String) (ns : String) (configmaps : List ConfigMap) : Prop :=
  ∀ listing : List ConfigMap, Listed others ns listing → (own ns listing).Perm (own ns configmaps) →
    configuredEnv listing = configuredEnv configmaps

/-! ## The values by variable -/

def agentConfigmapNames : List String := [agentConfigmapName, appMetricsConfigmapName, workloadMonitoringConfigmapName]

def valueIn (configmaps : List ConfigMap) (key name : String) : Option String :=
  ((configmaps.find? (fun cm => cm.metadata.name == some name)).bind (·.data)).bind (·.lookup key)

/-- The value of the last of these ConfigMaps that sets the variable. -/
def lastValue (configmaps : List ConfigMap) (key : String) : List String → Option String
  | [] => none
  | name :: later => (lastValue configmaps key later).or (valueIn configmaps key name)

theorem lastValue_append (configmaps : List ConfigMap) (key : String) : ∀ names later : List String,
    lastValue configmaps key (names ++ later) = (lastValue configmaps key later).or (lastValue configmaps key names)
  | [], later => (Option.or_none).symm
  | name :: names, later => by
    rw [List.cons_append, lastValue, lastValue_append configmaps key names later, lastValue, Option.or_assoc]

theorem lookup_union (key : String) (data values : StrMap String) :
    (data ∪ values).lookup key = (data.lookup key).or (values.lookup key) := by
  by_cases h : key ∈ data
  · obtain ⟨v, hv⟩ := Option.isSome_iff_exists.1 (AList.lookup_isSome.2 h)
    rw [AList.lookup_union_left h, hv, Option.some_or]
  · rw [AList.lookup_union_right h, AList.lookup_eq_none.2 h, Option.none_or]

def mergeOver (configmaps : List ConfigMap) (values : StrMap String) (name : String) : StrMap String :=
  match (configmaps.find? (fun cm => cm.metadata.name == some name)).bind (·.data) with
  | some data => data ∪ values
  | none => values

theorem lookup_mergeOver (configmaps : List ConfigMap) (values : StrMap String) (name key : String) :
    (mergeOver configmaps values name).lookup key = (valueIn configmaps key name).or (values.lookup key) := by
  rw [mergeOver, valueIn]
  split
  · rename_i data hdata
    rw [hdata, lookup_union]
    rfl
  · rename_i hnone
    rw [hnone]
    rfl

theorem lookup_merge (configmaps : List ConfigMap) (key : String) : ∀ (names : List String) (values : StrMap String),
    (names.foldl (mergeOver configmaps) values).lookup key = (lastValue configmaps key names).or (values.lookup key)
  | [], values => Option.none_or.symm
  | name :: names, values => by
    rw [List.foldl_cons, lookup_merge configmaps key names, lookup_mergeOver, lastValue, Option.or_assoc]

theorem collectAgentConfiguredEnv_eq (configmaps : List ConfigMap) : collectAgentConfiguredEnv configmaps =
    agentConfigEnvAllowlist.filterMap (fun key => (lastValue configmaps key agentConfigmapNames).bind
      (fun value => (configuredEnvValue key value).map (fun value => ⟨key, value⟩))) := by
  have hmerge : collectAgentConfiguredEnv configmaps =
      agentConfiguredEnv (agentConfigmapNames.foldl (mergeOver configmaps) ∅) := rfl
  rw [hmerge, agentConfiguredEnv]
  apply List.filterMap_congr
  intro key _
  rw [lookup_merge, AList.lookup_empty, Option.or_none]

theorem mem_collectAgentConfiguredEnv {configmaps : List ConfigMap} {key shown : String} :
    (⟨key, shown⟩ : KV) ∈ collectAgentConfiguredEnv configmaps ↔ key ∈ agentConfigEnvAllowlist ∧
      (lastValue configmaps key agentConfigmapNames).bind (configuredEnvValue key) = some shown := by
  rw [collectAgentConfiguredEnv_eq, List.mem_filterMap]
  constructor
  · rintro ⟨key', hkey, h⟩
    obtain ⟨value, hvalue, hshown⟩ := Option.bind_eq_some_iff.1 h
    obtain ⟨_, hshown, heq⟩ := Option.map_eq_some_iff.1 hshown
    cases heq
    exact ⟨hkey, Option.bind_eq_some_iff.2 ⟨value, hvalue, hshown⟩⟩
  · rintro ⟨hkey, h⟩
    obtain ⟨value, hvalue, hshown⟩ := Option.bind_eq_some_iff.1 h
    exact ⟨key, hkey, Option.bind_eq_some_iff.2 ⟨value, hvalue, Option.map_eq_some_iff.2 ⟨shown, hshown, rfl⟩⟩⟩

/-- The reading of a variable shows 1, and does not show 0 alike. -/
def Tells (read : String → Option String) : Prop := ∃ shown, read "1" = some shown ∧ read "0" ≠ some shown

theorem tells_ite {c : Prop} [Decidable c] {f g : String → Option String} (hf : Tells f) (hg : Tells g) :
    Tells (fun value => if c then f value else g value) := by
  by_cases h : c
  · simpa only [if_pos h] using hf
  · simpa only [if_neg h] using hg

theorem configuredEnvValue_tells (key : String) : Tells (configuredEnvValue key) := by
  refine tells_ite ⟨"true", by decide, by decide⟩ (tells_ite ⟨"1", by decide, by decide⟩ ?_)
  refine tells_ite ⟨"1", by decide, by decide⟩ (tells_ite ⟨"1", by decide, by decide⟩ ?_)
  refine tells_ite ⟨"1", by decide, by decide⟩ (tells_ite ⟨"1", by decide, by decide⟩ ?_)
  refine tells_ite ⟨"1", by decide, by decide⟩ (tells_ite ⟨"1", by decide, by decide⟩ ?_)
  exact tells_ite ⟨"1", by decide, by decide⟩ ⟨"1", by decide, by decide⟩

theorem collect_eq_of_lastValue {cms cms' : List ConfigMap} (h : ∀ key ∈ agentConfigEnvAllowlist,
      lastValue cms key agentConfigmapNames = lastValue cms' key agentConfigmapNames) :
    collectAgentConfiguredEnv cms = collectAgentConfiguredEnv cms' := by
  rw [collectAgentConfiguredEnv_eq, collectAgentConfiguredEnv_eq]
  apply List.filterMap_congr
  intro key hkey
  rw [h key hkey]

theorem collect_ne_of_lastValue {cms cms' : List ConfigMap} {key : String} (hkey : key ∈ agentConfigEnvAllowlist)
    (hone : lastValue cms key agentConfigmapNames = some "1")
    (hzero : lastValue cms' key agentConfigmapNames = some "0") :
    collectAgentConfiguredEnv cms ≠ collectAgentConfiguredEnv cms' := by
  intro heq
  obtain ⟨shown, hshown, hnot⟩ := configuredEnvValue_tells key
  have hmem : (⟨key, shown⟩ : KV) ∈ collectAgentConfiguredEnv cms :=
    mem_collectAgentConfiguredEnv.2 ⟨hkey, by rw [hone]; exact hshown⟩
  rw [heq, mem_collectAgentConfiguredEnv, hzero] at hmem
  exact hnot hmem.2

/-! ## The ConfigMap that is found -/

/-- The comparator of `sort_configmaps_for_snapshot`. -/
abbrev configmapCmp (a b : ConfigMap) : Ordering := snapshotCmp a.metadata b.metadata

theorem snapshotLe_iff (a b : ObjectMeta) : SnapshotLe a b ↔ (snapshotCmp a b).isLE = true := by
  rw [SnapshotLe, snapshotCmp, Ordering.isLE_then_iff_or, compare_lt_iff_lt, compare_eq_iff_eq, Ordering.isLE_iff_ne_gt]
  exact or_congr_right (and_congr_right fun _ => compare_le_iff_le.symm)

theorem sortConfigmapsForSnapshot_eq (configmaps : List ConfigMap) :
    sortConfigmapsForSnapshot configmaps = sortBy configmapCmp configmaps := by
  rw [sortConfigmapsForSnapshot, sortBy]
  congr!
  exact snapshotLe_iff _ _

variable {others : Set String} {ns : String} {configmaps listing : List ConfigMap}

theorem Listed.separates (h : Listed others ns configmaps) : Separates configmapCmp configmaps :=
  Ranked.separates_of_nodup _ (fun _ _ => snapshotName_eq_of_snapshotCmp) h.distinct

def named (name : String) (configmaps : List ConfigMap) : Prop := ∃ cm ∈ configmaps, cm.metadata.name = some name

/-- One of these ConfigMaps has this name and sets the variable. -/
def SetIn (configmaps : List ConfigMap) (name key : String) : Prop :=
  ∃ cm ∈ configmaps, cm.metadata.name = some name ∧ (cm.data.bind (·.lookup key)).isSome

theorem valueIn_eq_of_first (hlisted : Listed others ns configmaps) {cm : ConfigMap} {name : String} (hcm : cm ∈ configmaps)
    (hname : cm.metadata.name = some name)
    (hfirst : ∀ b ∈ configmaps, b.metadata.name = some name → (configmapCmp cm b).isLE) (key : String) :
    valueIn (sortConfigmapsForSnapshot configmaps) key name = cm.data.bind (·.lookup key) := by
  rw [valueIn, sortConfigmapsForSnapshot_eq, Ranked.find?_sortBy hlisted.separates hcm (by simp [hname])
    (fun b hb hbname => hfirst b hb (by simpa using hbname))]
  rfl

theorem valueIn_eq_none {name key : String} (h : ¬ SetIn configmaps name key) :
    valueIn (sortConfigmapsForSnapshot configmaps) key name = none := by
  rw [valueIn]
  cases hfind : (sortConfigmapsForSnapshot configmaps).find? (fun cm => cm.metadata.name == some name) with
  | none => rfl
  | some cm =>
    have hmem : cm ∈ configmaps := (List.mem_insertionSort _).1 (List.mem_of_find?_eq_some hfind)
    have hname : cm.metadata.name = some name := by simpa using List.find?_some hfind
    by_contra hsome
    exact h ⟨cm, hmem, hname, Option.isSome_iff_ne_none.2 hsome⟩

/-! ## The ConfigMaps of the agent decide -/

theorem mem_own {cm : ConfigMap} : cm ∈ own ns configmaps ↔ cm ∈ configmaps ∧ cm.metadata.namespace_ = some ns := by
  rw [own, List.mem_filter, beq_iff_eq]

/-- From each of these ConfigMaps on nothing of others is read: the agent has the ConfigMap itself, or a later one of its
own sets every variable. -/
def Decided (mine : List ConfigMap) : List String → Prop
  | [] => True
  | name :: later =>
    (named name mine ∨ ∀ key ∈ agentConfigEnvAllowlist, ∃ m ∈ later, SetIn mine m key) ∧ Decided mine later

theorem valueIn_of_own (hlisted : Listed others ns configmaps) (hafter : ∀ t ∈ others, ns < t) {cm : ConfigMap}
    {name : String} (hcm : cm ∈ own ns configmaps) (hname : cm.metadata.name = some name) (key : String) :
    valueIn (sortConfigmapsForSnapshot configmaps) key name = cm.data.bind (·.lookup key) := by
  obtain ⟨hmem, hns⟩ := mem_own.1 hcm
  refine valueIn_eq_of_first hlisted hmem hname ?_ key
  intro b hb hbname
  obtain ⟨bns, bname, hbns, hbname', hwhose⟩ := hlisted.namespaced b hb
  rw [← snapshotLe_iff, SnapshotLe, hns, hname, hbns, hbname]
  rcases hwhose with rfl | hother
  · exact Or.inr ⟨rfl, le_refl _⟩
  · exact Or.inl (hafter bns hother)

theorem lastValue_eq_of_decided (hlisted : Listed others ns configmaps) (hlisting : Listed others ns listing)
    (hown : (own ns listing).Perm (own ns configmaps)) (hafter : ∀ t ∈ others, ns < t) {key : String}
    (hkey : key ∈ agentConfigEnvAllowlist) : ∀ names : List String, Decided (own ns configmaps) names →
      lastValue (sortConfigmapsForSnapshot listing) key names =
        lastValue (sortConfigmapsForSnapshot configmaps) key names ∧
      ((∃ m ∈ names, SetIn (own ns configmaps) m key) →
        (lastValue (sortConfigmapsForSnapshot configmaps) key names).isSome)
  | [], _ => ⟨rfl, by simp⟩
  | name :: later, hdecided => by
    have hvalue : ∀ cm ∈ own ns configmaps, cm.metadata.name = some name →
        valueIn (sortConfigmapsForSnapshot listing) key name = cm.data.bind (·.lookup key) ∧
          valueIn (sortConfigmapsForSnapshot configmaps) key name = cm.data.bind (·.lookup key) := fun cm hcm hname =>
      ⟨valueIn_of_own hlisting hafter (hown.mem_iff.2 hcm) hname key, valueIn_of_own hlisted hafter hcm hname key⟩
    obtain ⟨hlater, hset⟩ := lastValue_eq_of_decided hlisted hlisting hown hafter hkey later hdecided.2
    rw [lastValue, lastValue, hlater]
    constructor
    · rcases hdecided.1 with ⟨cm, hcm, hname⟩ | hcovered
      · rw [(hvalue cm hcm hname).1, (hvalue cm hcm hname).2]
      · obtain ⟨v, hv⟩ := Option.isSome_iff_exists.1 (hset (hcovered key hkey))
        rw [hv, Option.some_or, Option.some_or]
    · rintro ⟨m, hm, hsetIn⟩
      rw [Option.isSome_or, Bool.or_eq_true]
      rcases List.mem_cons.1 hm with rfl | hm
      · obtain ⟨cm, hcm, hname, hsome⟩ := hsetIn
        rw [(hvalue cm hcm hname).2]
        exact Or.inr hsome
      · exact Or.inl (hset ⟨m, hm, hsetIn⟩)

theorem own_eq_self (hlisted : Listed others ns configmaps) (hnone : ∀ t, t ∉ others) : own ns configmaps = configmaps := by
  refine List.filter_eq_self.2 fun cm hcm => ?_
  obtain ⟨namespace_, _, hns, _, rfl | hother⟩ := hlisted.namespaced cm hcm
  · simp [hns]
  · exact absurd hother (hnone namespace_)

/-! ## A ConfigMap in another namespace -/

def planted (t name key value : String) : ConfigMap where
  metadata := { name := some name, namespace_ := some t }
  data := some ((∅ : StrMap String).insert key value)

theorem planted_data (t name key value : String) :
    (planted t name key value).data.bind (·.lookup key) = some value := by
  rw [planted, Option.bind_some, AList.lookup_insert]

variable {t name key : String}

theorem listed_planted (hlisted : Listed others ns configmaps) (ht : t ∈ others) (hns : t ≠ ns) (value : String) :
    Listed others ns (planted t name key value :: own ns configmaps) where
  namespaced := by
    intro cm hcm
    rcases List.mem_cons.1 hcm with rfl | hcm
    · exact ⟨t, name, rfl, rfl, Or.inr ht⟩
    · exact hlisted.namespaced cm (mem_own.1 hcm).1
  distinct := by
    rw [List.map_cons, List.nodup_cons]
    refine ⟨?_, hlisted.distinct.sublist (List.filter_sublist.map _)⟩
    intro hmem
    obtain ⟨cm, hcm, heq⟩ := List.mem_map.1 hmem
    have hfst := congrArg Prod.fst heq
    rw [snapshotName, (mem_own.1 hcm).2] at hfst
    exact hns hfst.symm

theorem own_planted (hns : t ≠ ns) (value : String) :
    own ns (planted t name key value :: own ns configmaps) = own ns configmaps := by
  rw [own, List.filter_cons_of_neg, own, List.filter_filter]
  · simp only [Bool.and_self]
  · simpa [planted] using hns

/-- What is planted is found where its namespace sorts before the agent's, or where the agent has no ConfigMap of its name. -/
theorem valueIn_planted (hlisted : Listed others ns configmaps) (ht : t ∈ others) (hns : t ≠ ns)
    (hfirst : named name (own ns configmaps) → t < ns) (value : String) :
    valueIn (sortConfigmapsForSnapshot (planted t name key value :: own ns configmaps)) key name = some value := by
  rw [valueIn_eq_of_first (listed_planted hlisted ht hns value) List.mem_cons_self rfl, planted_data]
  intro b hb hbname
  rcases List.mem_cons.1 hb with rfl | hb
  · exact Std.ReflCmp.isLE_rfl
  · rw [← snapshotLe_iff, SnapshotLe, (mem_own.1 hb).2]
    exact Or.inl (hfirst ⟨b, hb, hbname⟩)

theorem lastValue_planted (hlisted : Listed others ns configmaps) (ht : t ∈ others) (hns : t ≠ ns)
    (hfirst : named name (own ns configmaps) → t < ns) {pre later : List String}
    (hsplit : agentConfigmapNames = pre ++ name :: later)
    (hlater : ∀ m ∈ later, ¬ SetIn (own ns configmaps) m key) (value : String) :
    lastValue (sortConfigmapsForSnapshot (planted t name key value :: own ns configmaps)) key agentConfigmapNames =
      some value := by
  have hnames : agentConfigmapNames.Nodup := by decide
  have hnone : ∀ names : List String, (∀ m ∈ names, m ≠ name ∧ ¬ SetIn (own ns configmaps) m key) →
      lastValue (sortConfigmapsForSnapshot (planted t name key value :: own ns configmaps)) key names = none := by
    intro names
    induction names with
    | nil => exact fun _ => rfl
    | cons m names ih =>
      intro hall
      obtain ⟨hm, hset⟩ := hall m List.mem_cons_self
      rw [lastValue, ih (fun m' hm' => hall m' (List.mem_cons_of_mem m hm')), Option.none_or]
      refine valueIn_eq_none ?_
      rintro ⟨cm, hcm, hname, hsome⟩
      rcases List.mem_cons.1 hcm with rfl | hcm
      · exact hm (Option.some.inj hname).symm
      · exact hset ⟨cm, hcm, hname, hsome⟩
  rw [hsplit, List.nodup_append, List.nodup_cons] at hnames
  rw [hsplit, lastValue_append, lastValue, hnone later, valueIn_planted hlisted ht hns hfirst]
  · rfl
  · exact fun m hm => ⟨fun heq => hnames.2.1.1 (heq ▸ hm), hlater m hm⟩

theorem not_reflects (hlisted : Listed others ns configmaps) (ht : t ∈ others) (hns : t ≠ ns)
    (hfirst : named name (own ns configmaps) → t < ns) {pre later : List String}
    (hsplit : agentConfigmapNames = pre ++ name :: later) (hkey : key ∈ agentConfigEnvAllowlist)
    (hlater : ∀ m ∈ later, ¬ SetIn (own ns configmaps) m key) : ¬ Reflects others ns configmaps := by
  intro h
  have hshown : ∀ value : String, configuredEnv (planted t name key value :: own ns configmaps) =
      configuredEnv configmaps := fun value =>
    h _ (listed_planted hlisted ht hns value) (by rw [own_planted hns])
  have hlast := lastValue_planted hlisted ht hns hfirst hsplit hlater
  exact collect_ne_of_lastValue hkey (hlast "1") (hlast "0") ((hshown "1").trans (hshown "0").symm)

/-- Whatever is planted, nothing of it is shown: so the agent's own ConfigMaps decide from every name on. -/
theorem decided_of_reflects (hlisted : Listed others ns configmaps) (hns : ns ∉ others)
    (h : Reflects others ns configmaps) (ht : t ∈ others) : ∀ pre names : List String, agentConfigmapNames = pre ++ names →
      Decided (own ns configmaps) names
  | _, [], _ => trivial
  | pre, name :: later, hsplit => by
    have htns : t ≠ ns := fun heq => hns (heq ▸ ht)
    refine ⟨?_, decided_of_reflects hlisted hns h ht (pre ++ [name]) later (by rw [hsplit]; simp)⟩
    by_contra hundecided
    rw [not_or] at hundecided
    obtain ⟨hnot, huncovered⟩ := hundecided
    push Not at huncovered
    obtain ⟨key, hkey, hlater⟩ := huncovered
    exact not_reflects hlisted ht htns (fun hnamed => absurd hnamed hnot) hsplit hkey hlater h

/-- **The values shown are the agent's own exactly when no namespace in which others keep ConfigMaps sorts before the
agent's, and the agent's own ConfigMaps decide every variable**: with the same ConfigMaps of its own, every listing then
shows the same. -/
theorem reflects_iff (others : Set String) (ns : String) (configmaps : List ConfigMap) (hns : ns ∉ others)
    (hlisted : Listed others ns configmaps) :
    Reflects others ns configmaps ↔
      ∀ t ∈ others, ns < t ∧ Decided (own ns configmaps) agentConfigmapNames := by
  constructor
  · intro h t ht
    refine ⟨?_, decided_of_reflects hlisted hns h ht [] _ rfl⟩
    by_contra hbefore
    have htns : t ≠ ns := fun heq => hns (heq ▸ ht)
    have hlast : agentConfigmapNames =
        [agentConfigmapName, appMetricsConfigmapName] ++ workloadMonitoringConfigmapName :: [] := rfl
    have hkey : "HUB_URL" ∈ agentConfigEnvAllowlist := by decide
    exact not_reflects hlisted ht htns (fun _ => lt_of_le_of_ne (not_lt.1 hbefore) htns) hlast hkey
      (fun m hm => absurd hm List.not_mem_nil) h
  · intro h listing hlisting hown
    by_cases hsome : ∃ t, t ∈ others
    · obtain ⟨t, ht⟩ := hsome
      exact collect_eq_of_lastValue fun key hkey =>
        (lastValue_eq_of_decided hlisted hlisting hown (fun t ht => (h t ht).1) hkey _ (h t ht).2).1
    · have hnone := not_exists.1 hsome
      rw [own_eq_self hlisting hnone, own_eq_self hlisted hnone] at hown
      rw [configuredEnv, configuredEnv, sortConfigmapsForSnapshot_eq, sortConfigmapsForSnapshot_eq,
        Ranked.sortBy_eq_of_perm hlisted.separates hown]

/-- All three ConfigMaps of an agent in `sentinella`. -/
def ownListing : List ConfigMap := agentConfigmapNames.map (fun name => planted "sentinella" name "COLLECT_SECRETS" "false")

theorem listed_ownListing (others : Set String) : Listed others "sentinella" ownListing where
  namespaced := by
    intro cm hcm
    obtain ⟨name, -, rfl⟩ := List.mem_map.1 hcm
    exact ⟨"sentinella", name, rfl, rfl, Or.inl rfl⟩
  distinct := by decide

/-- Where others have a namespace that sorts behind, the three ConfigMaps decide. -/
theorem reflects_ownListing : Reflects {"tenants"} "sentinella" ownListing := by
  refine (reflects_iff {"tenants"} "sentinella" ownListing (by simp) (listed_ownListing _)).2 ?_
  rintro t rfl
  refine ⟨by decide, ?_⟩
  have hnamed : ∀ name ∈ agentConfigmapNames, named name (own "sentinella" ownListing) := fun name hname =>
    ⟨planted "sentinella" name "COLLECT_SECRETS" "false",
      mem_own.2 ⟨List.mem_map.2 ⟨name, hname, rfl⟩, rfl⟩, rfl⟩
  exact ⟨Or.inl (hnamed _ (by decide)), Or.inl (hnamed _ (by decide)), Or.inl (hnamed _ (by decide)), trivial⟩

/-- The same, with a ConfigMap of the first name in a namespace of others. -/
def shadowedListing : List ConfigMap := planted "apps" workloadMonitoringConfigmapName "COLLECT_SECRETS" "true" :: ownListing

theorem env_shadowed : configuredEnv ownListing = [⟨"COLLECT_SECRETS", "false"⟩] ∧
    configuredEnv shadowedListing = [⟨"COLLECT_SECRETS", "true"⟩] := by decide +kernel

/-- The agent's own ConfigMaps say one thing, and what is shown is said by another's. -/
theorem env_not_own : ¬ ∀ (others : Set String) (ns : String) (configmaps : List ConfigMap), ns ∉ others →
    Listed others ns configmaps → Reflects others ns configmaps := by
  intro h
  have hreflects := h {"apps"} "sentinella" ownListing (by simp) (listed_ownListing _)
  have hlisted : Listed {"apps"} "sentinella" shadowedListing :=
    listed_planted (listed_ownListing {"apps"}) (Set.mem_singleton "apps") (by decide) "true"
  have hown : own "sentinella" shadowedListing = own "sentinella" ownListing := rfl
  have hsame := hreflects shadowedListing hlisted (by rw [hown])
  rw [env_shadowed.1, env_shadowed.2] at hsame
  exact absurd hsame (by decide)

end Collector
end HubAgent
