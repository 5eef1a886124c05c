import HubAgent.Collector
/-!
# What the snapshot shows of a Secret's values (`SPEC.md`, Configuration)

Two listings that differ only in the values of their Secrets, and in the annotation in which `kubectl apply` keeps the
object it last sent, are to give one inventory.  The data is shown by its keys alone.  The annotations are all shown,
since the lists of denied ones are empty: `configuration_eq_iff` says when the two inventories are one.
-/
namespace HubAgent
namespace Collector

/-! ## Reading the maps -/

theorem sanitizeMetadataMap_eq (entries : List (String × String)) : sanitizeMetadataMap entries = entries := by
  rw [sanitizeMetadataMap, List.filter_eq_self.2, List.filter_eq_self.2]
  · intro e _
    rfl
  · intro e _
    rfl

theorem mapMetadataPairs_eq_iff {m m' : StrMap String} :
    mapMetadataPairs m = mapMetadataPairs m' ↔ ∀ k, m.lookup k = m'.lookup k := by
  have hpair : Function.Injective (fun e : String × String => (⟨e.1, e.2⟩ : KV)) := by
    intro e e' h
    rw [KV.mk.injEq] at h
    exact Prod.ext h.1 h.2
  rw [mapMetadataPairs, mapMetadataPairs, sanitizeMetadataMap_eq, sanitizeMetadataMap_eq, ← KeyOrder.inOrder_eq_iff]
  exact (List.map_injective_iff.2 hpair).eq_iff

/-! ## Two Secrets that differ in their values -/

def lastApplied : String := "kubectl.kubernetes.io/last-applied-configuration"

def annotation (s : Secret) (key : String) : Option String := (s.metadata.annotations.getD ∅).lookup key

structure DifferInValues (s s' : Secret) : Prop where
  namespace_ : s.metadata.namespace_ = s'.metadata.namespace_
  name : s.metadata.name = s'.metadata.name
  labels : s.metadata.labels = s'.metadata.labels
  annotations : ∀ key, key ≠ lastApplied → annotation s key = annotation s' key
  type_ : s.type_ = s'.type_
  immutable : s.immutable = s'.immutable
  dataKeys : ∀ key, key ∈ s.data.getD ∅ ↔ key ∈ s'.data.getD ∅

theorem mapSecret_eq_iff {s s' : Secret} (h : DifferInValues s s') :
    mapSecret s = mapSecret s' ↔ annotation s lastApplied = annotation s' lastApplied := by
  have hkeys : mapDataKeys (s.data.getD ∅) = mapDataKeys (s'.data.getD ∅) := KeyOrder.keysInOrder_eq_iff.2 h.dataKeys
  have hshown : mapSecret s = mapSecret s' ↔ mapMetadataPairs (s.metadata.annotations.getD ∅) =
      mapMetadataPairs (s'.metadata.annotations.getD ∅) := by
    rw [mapSecret, mapSecret, h.namespace_, h.name, h.labels, h.type_, h.immutable, hkeys]
    simp
  rw [hshown, mapMetadataPairs_eq_iff]
  constructor
  · exact fun hall => hall lastApplied
  · intro hlast key
    by_cases hkey : key = lastApplied
    · rw [hkey]
      exact hlast
    · exact h.annotations key hkey

theorem SnapshotLe.congr {a a' b b' : ObjectMeta} (hns : a.namespace_ = a'.namespace_) (hn : a.name = a'.name)
    (hns' : b.namespace_ = b'.namespace_) (hn' : b.name = b'.name) : SnapshotLe a b ↔ SnapshotLe a' b' := by
  rw [SnapshotLe, SnapshotLe, hns, hn, hns', hn']

theorem sortSecrets_pairs {pairs : List (Secret × Secret)} (h : ∀ p ∈ pairs, DifferInValues p.1 p.2) :
    ∃ sorted : List (Secret × Secret), sorted.Perm pairs ∧
      sortSecretsForSnapshot (pairs.map Prod.fst) = sorted.map Prod.fst ∧
      sortSecretsForSnapshot (pairs.map Prod.snd) = sorted.map Prod.snd := by
  refine ⟨pairs.insertionSort (fun p q => SnapshotLe p.1.metadata q.1.metadata), List.perm_insertionSort _ _, ?_, ?_⟩
  · rw [sortSecretsForSnapshot]
    exact (List.map_insertionSort _ _ Prod.fst pairs (fun _ _ _ _ => Iff.rfl)).symm
  · rw [sortSecretsForSnapshot]
    refine (List.map_insertionSort _ _ Prod.snd pairs (fun p hp q hq => ?_)).symm
    exact SnapshotLe.congr (h p hp).namespace_ (h p hp).name (h q hq).namespace_ (h q hq).name

/-! ## Two listings -/

/-- Listings that differ only in values: both fail alike, or the Secrets correspond. -/
structure ListingsDifferInValues (a b : Listing) : Prop where
  configmaps : a.configmaps = b.configmaps
  secrets : match a.secrets, b.secrets with
    | .ok l, .ok l' => List.Forall₂ DifferInValues l l'
    | .error e, .error e' => e = e'
    | _, _ => False

theorem ListingsDifferInValues.forall₂ {a b : Listing} (h : ListingsDifferInValues a b) :
    List.Forall₂ DifferInValues (softUnwrap a.secrets) (softUnwrap b.secrets) := by
  have hs := h.secrets
  cases ha : a.secrets with
  | error e =>
    cases hb : b.secrets with
    | error e' => exact .nil
    | ok l' =>
      rw [ha, hb] at hs
      exact hs.elim
  | ok l =>
    cases hb : b.secrets with
    | error e' =>
      rw [ha, hb] at hs
      exact hs.elim
    | ok l' =>
      rw [ha, hb] at hs
      exact hs

/-- Each Secret carries the same last-applied object in both listings. -/
def SameLastApplied (a b : Listing) : Prop :=
  ∀ p ∈ (softUnwrap a.secrets).zip (softUnwrap b.secrets), annotation p.1 lastApplied = annotation p.2 lastApplied

theorem secretInfos_eq_iff {a b : Listing} (h : ListingsDifferInValues a b) :
    (sortSecretsForSnapshot (softUnwrap a.secrets)).map mapSecret =
        (sortSecretsForSnapshot (softUnwrap b.secrets)).map mapSecret ↔ SameLastApplied a b := by
  obtain ⟨hlen, hpairs⟩ := List.forall₂_iff_zip.1 h.forall₂
  have hdiffer : ∀ p ∈ (softUnwrap a.secrets).zip (softUnwrap b.secrets), DifferInValues p.1 p.2 :=
    fun p hp => hpairs hp
  obtain ⟨sorted, hperm, hfst, hsnd⟩ := sortSecrets_pairs hdiffer
  rw [List.map_fst_zip (Nat.le_of_eq hlen)] at hfst
  rw [List.map_snd_zip (Nat.le_of_eq hlen.symm)] at hsnd
  rw [hfst, hsnd, List.map_map, List.map_map, List.map_inj_left]
  constructor
  · intro hall p hp
    exact (mapSecret_eq_iff (hdiffer p hp)).1 (hall p (hperm.mem_iff.2 hp))
  · intro hall p hp
    have hp' := hperm.mem_iff.1 hp
    exact (mapSecret_eq_iff (hdiffer p hp')).2 (hall p hp')

/-- **The inventories of two listings that differ only in values are one exactly when Secrets are not collected, or
each carries the same last-applied object in both.** -/
theorem configuration_eq_iff (cfg : Config) {a b : Listing} (h : ListingsDifferInValues a b) :
    collectConfiguration cfg a = collectConfiguration cfg b ↔ (cfg.collectSecrets = true → SameLastApplied a b) := by
  rw [collectConfiguration, collectConfiguration, h.configmaps]
  by_cases hc : cfg.collectSecrets = true
  · rw [← secretInfos_eq_iff h]
    simp [hc]
  · simp [hc]

/-! ## A password -/

/-- The Secret `db-auth`, with the annotations it carries. -/
def dbAuth (password : String) (annotations : Option (StrMap String)) : Secret where
  metadata := { namespace_ := some "prod", name := some "db-auth", annotations }
  type_ := some "Opaque"
  data := some (AList.singleton "password" password.toUTF8.toList)

def listingOf (secret : Secret) : Listing := ⟨.ok [], .ok [secret]⟩

/-- What `kubectl apply` notes down of it. -/
def applied (password : String) : StrMap String :=
  AList.singleton lastApplied ("\x7b\"stringData\":\x7b\"password\":\"" ++ password ++ "\"\x7d\x7d")

theorem listingOf_differ {s s' : Secret} (h : DifferInValues s s') :
    ListingsDifferInValues (listingOf s) (listingOf s') :=
  ⟨rfl, .cons h .nil⟩

theorem mem_data_dbAuth (password : String) (annotations : Option (StrMap String)) (key : String) :
    key ∈ (dbAuth password annotations).data.getD ∅ ↔ key = "password" := List.mem_singleton

/-- The Secret with another password, under annotations that differ in the last-applied object at most. -/
theorem dbAuth_differ (password password' : String) {annotations annotations' : Option (StrMap String)}
    (h : ∀ key, key ≠ lastApplied →
      annotation (dbAuth password annotations) key = annotation (dbAuth password' annotations') key) :
    DifferInValues (dbAuth password annotations) (dbAuth password' annotations') := by
  refine ⟨rfl, rfl, rfl, h, rfl, rfl, fun key => ?_⟩
  rw [mem_data_dbAuth, mem_data_dbAuth]

/-- A password that is only in the data is not shown. -/
theorem configuration_eq_dbAuth :
    collectConfiguration { clusterId := "c1", collectSecrets := true } (listingOf (dbAuth "hunter2" none)) =
      collectConfiguration { clusterId := "c1", collectSecrets := true } (listingOf (dbAuth "swordfish" none)) := by
  have hdiffer : DifferInValues (dbAuth "hunter2" none) (dbAuth "swordfish" none) :=
    dbAuth_differ _ _ (fun _ _ => rfl)
  refine (configuration_eq_iff _ (listingOf_differ hdiffer)).2 (fun _ p hp => ?_)
  rw [List.mem_singleton.1 hp]
  rfl

def appliedAuth (password : String) : Secret := dbAuth password (some (applied password))

theorem appliedAuth_differ (password password' : String) :
    DifferInValues (appliedAuth password) (appliedAuth password') := by
  apply dbAuth_differ
  intro key hkey
  have hnone : ∀ password, annotation (dbAuth password (some (applied password))) key = none := by
    intro password
    have hmem : key ∉ applied password := fun h => hkey (List.mem_singleton.1 h)
    exact AList.lookup_eq_none.2 hmem
  rw [hnone, hnone]

/-- A password that was applied with `kubectl` is. -/
theorem applied_password_shown :
    ListingsDifferInValues (listingOf (appliedAuth "hunter2")) (listingOf (appliedAuth "swordfish")) ∧
      collectConfiguration { clusterId := "c1", collectSecrets := true } (listingOf (appliedAuth "hunter2")) ≠
        collectConfiguration { clusterId := "c1", collectSecrets := true } (listingOf (appliedAuth "swordfish")) := by
  have hdiffer := appliedAuth_differ "hunter2" "swordfish"
  refine ⟨listingOf_differ hdiffer, fun hsame => ?_⟩
  have hsecrets : [mapSecret (appliedAuth "hunter2")] = [mapSecret (appliedAuth "swordfish")] :=
    congrArg ConfigurationInventory.secrets hsame
  have hshown := (mapSecret_eq_iff hdiffer).1 (List.singleton_inj.1 hsecrets)
  revert hshown
  decide

end Collector
end HubAgent
