import Mathlib.Algebra.BigOperators.Group.List.Basic
import Mathlib.Algebra.GroupWithZero.Nat
import HubAgent.Lib.Quota
import HubAgent.Dependencies
/-!
# What becomes of every line (`collector.rs`)

Each line of a body has one account: it is blank, unreadable, over the line cap, or a record, and a record is aggregated
or refused by one of the two caps on keys.  The accounts look at the earlier lines only, not at the two maps of the
loop; `Tallies` says that the maps and the counters of the loop are a reading of the accounts, which every line keeps
(`readLine_tallies`).  `dependency_aggregation_exact` reads the inventory off them.
-/
namespace HubAgent
namespace Collector

/-! ## Accounts -/

inductive Fate where
  | blank
  | parseFailure
  | lineCap
  | edgeCap
  | fanoutCap
  | aggregated
  deriving DecidableEq

inductive Account where
  | blank
  | parseFailure
  | lineCap
  | edgeCap (record : TetragonDependencyRecord)
  | fanoutCap (record : TetragonDependencyRecord)
  | aggregated (record : TetragonDependencyRecord)

namespace Account

def fate : Account → Fate
  | blank => .blank
  | parseFailure => .parseFailure
  | lineCap => .lineCap
  | edgeCap _ => .edgeCap
  | fanoutCap _ => .fanoutCap
  | aggregated _ => .aggregated

def aggregated? : Account → Option TetragonDependencyRecord
  | aggregated record => some record
  | _ => none

def isDropped (account : Account) : Bool :=
  account.fate = .lineCap || account.fate = .edgeCap || account.fate = .fanoutCap

end Account

variable (keyOf : TetragonDependencyRecord → DependencyEdgeKey)

def aggregatedRecords (accounts : List Account) : List TetragonDependencyRecord :=
  accounts.filterMap Account.aggregated?

def aggregatedKeys (accounts : List Account) : List DependencyEdgeKey := (aggregatedRecords accounts).map keyOf

def countFate (fate : Fate) (accounts : List Account) : Nat := (accounts.map Account.fate).count fate

/-- The two caps on keys. -/
def edgeCaps : Quota.Caps DependencyEdgeKey EndpointKey EndpointKey where
  source := DependencyEdgeKey.from_
  target := DependencyEdgeKey.to_
  maxKeys := maxDepEdgesPerSnapshot
  maxTargets := maxDepFanoutPerSource

@[simp] theorem edgeCaps_source (key : DependencyEdgeKey) : edgeCaps.source key = key.from_ := rfl
@[simp] theorem edgeCaps_target (key : DependencyEdgeKey) : edgeCaps.target key = key.to_ := rfl
@[simp] theorem edgeCaps_maxKeys : edgeCaps.maxKeys = maxDepEdgesPerSnapshot := rfl
@[simp] theorem edgeCaps_maxTargets : edgeCaps.maxTargets = maxDepFanoutPerSource := rfl

/-- **What an account says of its line**, given the accounts of the lines before it. -/
inductive AccountsFor (env : DependencyExternals) (lineIndex : Nat) (line : String) (earlier : List Account) :
    Account → Prop
  | lineCap (capped : maxTetragonLines ≤ lineIndex) : AccountsFor env lineIndex line earlier .lineCap
  | blank (read : lineIndex < maxTetragonLines) (empty : line = "") : AccountsFor env lineIndex line earlier .blank
  | parseFailure (read : lineIndex < maxTetragonLines) (text : line ≠ "")
      (failed : lineRecord env lineIndex line = none) : AccountsFor env lineIndex line earlier .parseFailure
  | aggregated {record : TetragonDependencyRecord} (read : lineIndex < maxTetragonLines) (text : line ≠ "")
      (parsed : lineRecord env lineIndex line = some record) :
      AccountsFor env lineIndex line earlier (.aggregated record)
  /-- The key is new, and there are as many keys as the cap says. -/
  | edgeCap {record : TetragonDependencyRecord} (read : lineIndex < maxTetragonLines) (text : line ≠ "")
      (parsed : lineRecord env lineIndex line = some record) (new : keyOf record ∉ aggregatedKeys keyOf earlier)
      (full : maxDepEdgesPerSnapshot ≤ (aggregatedKeys keyOf earlier).toFinset.card) :
      AccountsFor env lineIndex line earlier (.edgeCap record)
  /-- The key is new, and its source has as many targets as the cap says. -/
  | fanoutCap {record : TetragonDependencyRecord} (read : lineIndex < maxTetragonLines) (text : line ≠ "")
      (parsed : lineRecord env lineIndex line = some record) (new : keyOf record ∉ aggregatedKeys keyOf earlier)
      (full : maxDepFanoutPerSource ≤ (edgeCaps.targets (aggregatedKeys keyOf earlier) (keyOf record).from_).card) :
      AccountsFor env lineIndex line earlier (.fanoutCap record)

/-- The account that the caps lead to. -/
def accountLine (env : DependencyExternals) (earlier : List Account) (entry : List Char × Nat) : Account :=
  let (line, lineIndex) := entry
  if lineIndex ≥ maxTetragonLines then .lineCap
  else
    let line := RustStr.trim (String.ofList line)
    if line = "" then .blank
    else
      match lineRecord env lineIndex line with
      | none => .parseFailure
      | some record =>
        match edgeCaps.verdict (aggregatedKeys keyOf earlier) (keyOf record) with
        | .admitted => .aggregated record
        | .full => .edgeCap record
        | .spread => .fanoutCap record

def accountsOf (env : DependencyExternals) (lines : List (List Char)) : List Account :=
  lines.zipIdx.foldl (fun earlier entry => earlier ++ [accountLine keyOf env earlier entry]) []

variable {keyOf} {env : DependencyExternals} {accounts : List Account} {account : Account}

@[simp] theorem aggregatedRecords_concat (accounts : List Account) (account : Account) :
    aggregatedRecords (accounts ++ [account]) = aggregatedRecords accounts ++ account.aggregated?.toList := by
  rw [aggregatedRecords, List.filterMap_append]
  cases account <;> rfl

@[simp] theorem aggregatedKeys_concat (accounts : List Account) (account : Account) :
    aggregatedKeys keyOf (accounts ++ [account]) =
      aggregatedKeys keyOf accounts ++ account.aggregated?.toList.map keyOf := by
  rw [aggregatedKeys, aggregatedRecords_concat, List.map_append]
  rfl

@[simp] theorem countFate_concat (fate : Fate) (accounts : List Account) (account : Account) :
    countFate fate (accounts ++ [account]) = countFate fate accounts + if account.fate = fate then 1 else 0 := by
  rw [countFate, List.map_append, List.count_append, List.map_singleton, List.count_singleton]
  simp [countFate]

theorem accountsOf_nil : accountsOf keyOf env [] = [] := rfl

theorem accountsOf_concat (lines : List (List Char)) (line : List Char) :
    accountsOf keyOf env (lines ++ [line]) =
      accountsOf keyOf env lines ++ [accountLine keyOf env (accountsOf keyOf env lines) (line, lines.length)] := by
  rw [accountsOf, List.zipIdx_append, List.foldl_append]
  simp [accountsOf]

theorem length_accountsOf (keyOf : TetragonDependencyRecord → DependencyEdgeKey) (env : DependencyExternals)
    (lines : List (List Char)) : (accountsOf keyOf env lines).length = lines.length := by
  induction lines using List.reverseRecOn with
  | nil => rfl
  | append_singleton lines line ih => rw [accountsOf_concat, List.length_append, List.length_append, ih]; rfl

/-- **The account of a line is one that the line and the lines before it allow.** -/
theorem accountsFor_accountLine (earlier : List Account) (line : List Char) (lineIndex : Nat) :
    AccountsFor keyOf env lineIndex (RustStr.trim (String.ofList line)) earlier
      (accountLine keyOf env earlier (line, lineIndex)) := by
  unfold accountLine
  dsimp only
  split_ifs with hcap hblank
  · exact .lineCap hcap
  · exact .blank (by omega) hblank
  have hread : lineIndex < maxTetragonLines := by omega
  split
  · rename_i hnone
    exact .parseFailure hread hblank hnone
  rename_i record hrecord
  generalize hv : edgeCaps.verdict (aggregatedKeys keyOf earlier) (keyOf record) = v
  unfold Quota.Caps.verdict at hv
  split_ifs at hv with hknown hfull hspread
  · subst hv
    exact .aggregated hread hblank hrecord
  · subst hv
    exact .edgeCap hread hblank hrecord hknown hfull
  · subst hv
    exact .fanoutCap hread hblank hrecord hknown hspread.1
  · subst hv
    exact .aggregated hread hblank hrecord

theorem within_aggregatedKeys (lines : List (List Char)) :
    edgeCaps.Within (aggregatedKeys keyOf (accountsOf keyOf env lines)) := by
  induction lines using List.reverseRecOn with
  | nil => exact Quota.Caps.within_nil
  | append_singleton lines line ih =>
    rw [accountsOf_concat, aggregatedKeys_concat]
    generalize accountsOf keyOf env lines = earlier at ih ⊢
    unfold accountLine
    dsimp only
    split_ifs with hcap hblank
    · simpa [Account.aggregated?] using ih
    · simpa [Account.aggregated?] using ih
    split
    · simpa [Account.aggregated?] using ih
    rename_i record hrecord
    split
    · rename_i hadmitted
      exact Quota.Caps.within_concat ih hadmitted
    · simpa [Account.aggregated?] using ih
    · simpa [Account.aggregated?] using ih

/-! ## The aggregate of a key -/

/-- What the loop keeps for a key: nothing before its first record. -/
def edgeAggOf : List TetragonDependencyRecord → Option DependencyEdgeAgg
  | [] => none
  | record :: rest => some ((record :: rest).foldl DependencyEdgeAgg.add (newEdgeAgg record))

theorem edgeAggOf_concat (records : List TetragonDependencyRecord) (record : TetragonDependencyRecord) :
    edgeAggOf (records ++ [record]) = some (((edgeAggOf records).getD (newEdgeAgg record)).add record) := by
  cases records with
  | nil => rfl
  | cons first rest =>
    rw [edgeAggOf, List.cons_append, edgeAggOf, Option.getD_some, ← List.cons_append, List.foldl_append]
    rfl

theorem isSome_edgeAggOf {records : List TetragonDependencyRecord} : (edgeAggOf records).isSome ↔ records ≠ [] := by
  cases records <;> simp [edgeAggOf]

/-- **An aggregate holds the saturating sums and the bounds of its records.** -/
structure Sums (records : List TetragonDependencyRecord) (agg : DependencyEdgeAgg) : Prop where
  bytes : agg.bytes = min (records.map (·.bytes)).sum u64Max
  packets : agg.packets = min (records.map (·.packets)).sum u64Max
  connections : agg.connections = min (records.map (·.connections)).sum u64Max
  firstSeen : (records.map (·.timestampUnixMs)).min? = some agg.firstSeenUnixMs
  lastSeen : (records.map (·.timestampUnixMs)).max? = some agg.lastSeenUnixMs

theorem saturatingAdd_min (a b : Nat) : saturatingAdd (min a u64Max) b = min (a + b) u64Max := by
  unfold saturatingAdd
  omega

theorem min?_concat {l : List Nat} {a : Nat} (h : l.min? = some a) (b : Nat) : (l ++ [b]).min? = some (min a b) := by
  rw [List.min?_eq_some_iff] at h ⊢
  grind

theorem max?_concat {l : List Nat} {a : Nat} (h : l.max? = some a) (b : Nat) : (l ++ [b]).max? = some (max a b) := by
  rw [List.max?_eq_some_iff] at h ⊢
  grind

theorem Sums.concat {records : List TetragonDependencyRecord} {agg : DependencyEdgeAgg} (h : Sums records agg)
    (record : TetragonDependencyRecord) : Sums (records ++ [record]) (agg.add record) := by
  constructor
  · rw [List.map_append, List.sum_append, DependencyEdgeAgg.add, h.bytes, saturatingAdd_min]
    simp
  · rw [List.map_append, List.sum_append, DependencyEdgeAgg.add, h.packets, saturatingAdd_min]
    simp
  · rw [List.map_append, List.sum_append, DependencyEdgeAgg.add, h.connections, saturatingAdd_min]
    simp
  · rw [List.map_append, List.map_singleton, min?_concat h.firstSeen]
    rfl
  · rw [List.map_append, List.map_singleton, max?_concat h.lastSeen]
    rfl

theorem sums_first (record : TetragonDependencyRecord) : Sums [record] ((newEdgeAgg record).add record) := by
  constructor <;> simp [newEdgeAgg, DependencyEdgeAgg.add, saturatingAdd]

theorem sums_of_edgeAggOf {records : List TetragonDependencyRecord} {agg : DependencyEdgeAgg}
    (h : edgeAggOf records = some agg) : Sums records agg := by
  induction records using List.reverseRecOn generalizing agg with
  | nil => cases h
  | append_singleton records record ih =>
    rw [edgeAggOf_concat] at h
    cases h
    cases hagg : edgeAggOf records with
    | none =>
      have hnil : records = [] := by
        by_contra hne
        have hsome := isSome_edgeAggOf.2 hne
        rw [hagg] at hsome
        cases hsome
      subst hnil
      exact sums_first record
    | some agg => exact (ih hagg).concat record

/-! ## The loop -/

/-- **The maps and the counters are a reading of the accounts.** -/
structure Tallies (keyOf : TetragonDependencyRecord → DependencyEdgeKey) (accounts : List Account)
    (st : DependencyTally) : Prop where
  agg : ∀ key, st.agg.lookup key = edgeAggOf ((aggregatedRecords accounts).filter (fun r => keyOf r = key))
  fanout : ∀ source, (st.fanout.lookup source).getD ∅ = edgeCaps.targets (aggregatedKeys keyOf accounts) source
  parseFailures : st.parseFailures = countFate .parseFailure accounts
  droppedForLineCap : st.droppedForLineCap = countFate .lineCap accounts
  droppedEdges : st.droppedEdges = countFate .edgeCap accounts
  skippedForFanout : st.skippedForFanout = countFate .fanoutCap accounts

namespace Tallies

variable {st : DependencyTally} {record : TetragonDependencyRecord}

theorem mem_agg (h : Tallies keyOf accounts st) (key : DependencyEdgeKey) :
    key ∈ st.agg ↔ key ∈ aggregatedKeys keyOf accounts := by
  rw [← AList.lookup_isSome, h.agg, isSome_edgeAggOf, aggregatedKeys, List.mem_map, ne_eq, List.filter_eq_nil_iff]
  simp

theorem length_agg (h : Tallies keyOf accounts st) :
    st.agg.entries.length = (aggregatedKeys keyOf accounts).toFinset.card := by
  have hkeys : (aggregatedKeys keyOf accounts).toFinset = st.agg.keys.toFinset := by
    ext key
    rw [List.mem_toFinset, List.mem_toFinset, ← AList.mem_keys, h.mem_agg]
  rw [hkeys, List.toFinset_card_of_nodup st.agg.keys_nodup]
  exact (List.length_map _).symm

theorem addRecord_eq (h : Tallies keyOf accounts st) (record : TetragonDependencyRecord) :
    addRecord st (keyOf record) record =
      match edgeCaps.verdict (aggregatedKeys keyOf accounts) (keyOf record) with
      | .full => { st with droppedEdges := st.droppedEdges + 1 }
      | .spread =>
        { st with
          fanout := st.fanout.insert (keyOf record).from_ ((st.fanout.lookup (keyOf record).from_).getD ∅)
          skippedForFanout := st.skippedForFanout + 1 }
      | .admitted =>
        { st with
          agg := st.agg.insert (keyOf record) (((st.agg.lookup (keyOf record)).getD (newEdgeAgg record)).add record)
          fanout := st.fanout.insert (keyOf record).from_
            (insert (keyOf record).to_ ((st.fanout.lookup (keyOf record).from_).getD ∅)) } := by
  unfold addRecord Quota.Caps.verdict
  simp only [h.mem_agg, h.length_agg, h.fanout]
  by_cases hknown : keyOf record ∈ aggregatedKeys keyOf accounts
  · simp [hknown]
  · by_cases hfull : maxDepEdgesPerSnapshot ≤ (aggregatedKeys keyOf accounts).toFinset.card
    · simp [hknown, hfull]
    · by_cases hspread : maxDepFanoutPerSource ≤
          (edgeCaps.targets (aggregatedKeys keyOf accounts) (keyOf record).from_).card ∧
          (keyOf record).to_ ∉ edgeCaps.targets (aggregatedKeys keyOf accounts) (keyOf record).from_
      · simp [hknown, hfull, hspread]
      · simp [hknown, hfull, hspread]

theorem skip (h : Tallies keyOf accounts st) {st' : DependencyTally} (hnone : account.aggregated? = none)
    (hagg : st'.agg = st.agg)
    (hfanout : ∀ source, (st'.fanout.lookup source).getD ∅ = (st.fanout.lookup source).getD ∅)
    (hparse : st'.parseFailures = st.parseFailures + if account.fate = .parseFailure then 1 else 0)
    (hline : st'.droppedForLineCap = st.droppedForLineCap + if account.fate = .lineCap then 1 else 0)
    (hedge : st'.droppedEdges = st.droppedEdges + if account.fate = .edgeCap then 1 else 0)
    (hspread : st'.skippedForFanout = st.skippedForFanout + if account.fate = .fanoutCap then 1 else 0) :
    Tallies keyOf (accounts ++ [account]) st' := by
  constructor
  · intro key
    rw [hagg, h.agg, aggregatedRecords_concat, hnone, Option.toList_none, List.append_nil]
  · intro source
    rw [hfanout, h.fanout, aggregatedKeys_concat, hnone, Option.toList_none, List.map_nil, List.append_nil]
  · rw [countFate_concat, hparse, h.parseFailures]
  · rw [countFate_concat, hline, h.droppedForLineCap]
  · rw [countFate_concat, hedge, h.droppedEdges]
  · rw [countFate_concat, hspread, h.skippedForFanout]

/-- A record that is aggregated goes into its edge and its target into the targets of its source. -/
theorem aggregate (h : Tallies keyOf accounts st) (record : TetragonDependencyRecord) :
    Tallies keyOf (accounts ++ [.aggregated record])
      { st with
        agg := st.agg.insert (keyOf record) (((st.agg.lookup (keyOf record)).getD (newEdgeAgg record)).add record)
        fanout := st.fanout.insert (keyOf record).from_
          (insert (keyOf record).to_ ((st.fanout.lookup (keyOf record).from_).getD ∅)) } := by
  constructor
  · intro key
    rw [aggregatedRecords_concat]
    simp only [Account.aggregated?, Option.toList_some, List.filter_append]
    by_cases hkey : keyOf record = key
    · subst hkey
      rw [AList.lookup_insert, List.filter_cons_of_pos (by simp), List.filter_nil, edgeAggOf_concat, h.agg]
    · rw [AList.lookup_insert_ne (Ne.symm hkey), List.filter_cons_of_neg (by simpa using hkey), List.filter_nil,
        List.append_nil, h.agg]
  · intro source
    rw [aggregatedKeys_concat]
    simp only [Account.aggregated?, Option.toList_some, List.map_singleton]
    rw [Quota.Caps.targets_concat, edgeCaps_source, edgeCaps_target]
    by_cases hsource : (keyOf record).from_ = source
    · subst hsource
      rw [AList.lookup_insert, if_pos rfl, Option.getD_some, h.fanout]
    · rw [AList.lookup_insert_ne (Ne.symm hsource), if_neg hsource, h.fanout]
  · rw [countFate_concat, ← h.parseFailures]
    rfl
  · rw [countFate_concat, ← h.droppedForLineCap]
    rfl
  · rw [countFate_concat, ← h.droppedEdges]
    rfl
  · rw [countFate_concat, ← h.skippedForFanout]
    rfl

end Tallies

/-- **Every line keeps the reading**, with the account it gets. -/
theorem readLine_tallies {pods : StrMap PodIpInfo} {services : StrMap ServiceIpInfo} {st : DependencyTally}
    (h : Tallies (edgeKeyOf env.casing pods services) accounts st) (entry : List Char × Nat) :
    Tallies (edgeKeyOf env.casing pods services)
      (accounts ++ [accountLine (edgeKeyOf env.casing pods services) env accounts entry])
      (readLine env pods services st entry) := by
  unfold readLine accountLine
  dsimp only
  split_ifs with hcap hblank
  · exact h.skip rfl rfl (fun _ => rfl) rfl rfl rfl rfl
  · exact h.skip rfl rfl (fun _ => rfl) rfl rfl rfl rfl
  generalize lineRecord env entry.2 (RustStr.trim (String.ofList entry.1)) = parsed
  cases parsed with
  | none => exact h.skip rfl rfl (fun _ => rfl) rfl rfl rfl rfl
  | some record =>
    simp only [h.addRecord_eq]
    generalize edgeCaps.verdict (aggregatedKeys (edgeKeyOf env.casing pods services) accounts)
      (edgeKeyOf env.casing pods services record) = v
    cases v with
    | admitted => exact h.aggregate record
    | full => exact h.skip rfl rfl (fun _ => rfl) rfl rfl rfl rfl
    | spread =>
      refine h.skip rfl rfl (fun source => ?_) rfl rfl rfl rfl
      by_cases hsource : (edgeKeyOf env.casing pods services record).from_ = source
      · subst hsource
        simp only [AList.lookup_insert, Option.getD_some]
      · simp only [AList.lookup_insert_ne (Ne.symm hsource)]

theorem tallies_nil : Tallies keyOf [] {} := by
  constructor <;> intros <;> rfl

/-- **The loop over all lines reads as their accounts.** -/
theorem tallies_lines (env : DependencyExternals) (pods : StrMap PodIpInfo) (services : StrMap ServiceIpInfo)
    (lines : List (List Char)) :
    Tallies (edgeKeyOf env.casing pods services) (accountsOf (edgeKeyOf env.casing pods services) env lines)
      (lines.zipIdx.foldl (readLine env pods services) {}) := by
  induction lines using List.reverseRecOn with
  | nil => exact tallies_nil
  | append_singleton lines line ih =>
    rw [accountsOf_concat, List.zipIdx_append, List.foldl_append]
    simpa using readLine_tallies ih (line, lines.length)

/-! ## The inventory -/

def keyFromEndpoint (endpoint : DependencyEndpoint) : EndpointKey where
  kind := endpoint.kind
  namespace_ := endpoint.namespace_
  name := endpoint.name
  workloadKind := endpoint.workloadKind
  workloadName := endpoint.workloadName
  ip := endpoint.ip

def edgeKey (edge : DependencyEdge) : DependencyEdgeKey where
  from_ := keyFromEndpoint edge.from_
  to_ := keyFromEndpoint edge.to_
  protocol := edge.protocol
  destinationPort := edge.destinationPort
  direction := edge.direction

/-- **The inventory accounts for every line exactly once**, and says of the aggregated ones what they add up to. -/
structure ExactInventory (env : DependencyExternals) (keyOf : TetragonDependencyRecord → DependencyEdgeKey)
    (lines : List (List Char)) (accounts : List Account) (tally : DependencyTally) (inventory : DependencyInventory) :
    Prop where
  length : accounts.length = lines.length
  accounted : ∀ (i : Nat) (line : List Char) (account : Account), lines[i]? = some line → accounts[i]? = some account →
    AccountsFor keyOf env i (RustStr.trim (String.ofList line)) (accounts.take i) account
  parseFailures : tally.parseFailures = countFate .parseFailure accounts
  droppedForLineCap : tally.droppedForLineCap = countFate .lineCap accounts
  droppedForEdgeCap : tally.droppedEdges = countFate .edgeCap accounts
  skippedForFanout : tally.skippedForFanout = countFate .fanoutCap accounts
  /-- An edge is reported for each key of an aggregated record, and for no other. -/
  keys : ∀ key, key ∈ inventory.edges.map edgeKey ↔ key ∈ aggregatedKeys keyOf accounts
  distinct : (inventory.edges.map edgeKey).Nodup
  totals : ∀ edge ∈ inventory.edges,
    Sums ((aggregatedRecords accounts).filter (fun record => keyOf record = edgeKey edge))
      { bytes := edge.bytes, packets := edge.packets, connections := edge.connections
        firstSeenUnixMs := edge.firstSeenUnixMs, lastSeenUnixMs := edge.lastSeenUnixMs }
  edges_le : inventory.edges.length ≤ maxDepEdgesPerSnapshot
  targets_le : ∀ source, (edgeCaps.targets (inventory.edges.map edgeKey) source).card ≤ maxDepFanoutPerSource
  dropped : inventory.droppedEdges = accounts.countP Account.isDropped
  truncated : inventory.truncated = true ↔ 0 < inventory.droppedEdges
  sorted : inventory.edges.Pairwise (fun a b => normalizedEdgeKey env.casing a ≤ normalizedEdgeKey env.casing b)

theorem countP_isDropped (accounts : List Account) : accounts.countP Account.isDropped =
    countFate .edgeCap accounts + countFate .lineCap accounts + countFate .fanoutCap accounts := by
  induction accounts using List.reverseRecOn with
  | nil => rfl
  | append_singleton accounts account ih =>
    rw [List.countP_append, ih, countFate_concat, countFate_concat, countFate_concat]
    cases account <;> simp [Account.isDropped, Account.fate] <;> omega

/-- The edges are the entries of the aggregate, in another order. -/
theorem perm_edges (casing : Casing) (agg : AList (fun _ : DependencyEdgeKey => DependencyEdgeAgg)) :
    (sortDependencyEdges casing ((KeyOrder.inOrder agg).map edgeOf)).Perm ((KeyOrder.inOrder agg).map edgeOf) :=
  List.perm_insertionSort _ _

theorem perm_edgeKeys (casing : Casing) (agg : AList (fun _ : DependencyEdgeKey => DependencyEdgeAgg)) :
    ((sortDependencyEdges casing ((KeyOrder.inOrder agg).map edgeOf)).map edgeKey).Perm agg.keys := by
  have hkeys : ((KeyOrder.inOrder agg).map edgeOf).map edgeKey = KeyOrder.keysInOrder agg := by
    rw [List.map_map, ← KeyOrder.map_fst_inOrder]
    rfl
  refine ((perm_edges casing agg).map edgeKey).trans ?_
  rw [hkeys]
  exact List.perm_insertionSort _ _

theorem mem_edges {casing : Casing} {agg : AList (fun _ : DependencyEdgeKey => DependencyEdgeAgg)}
    {edge : DependencyEdge} :
    edge ∈ sortDependencyEdges casing ((KeyOrder.inOrder agg).map edgeOf) ↔
      ∃ key sums, agg.lookup key = some sums ∧ edgeOf (key, sums) = edge := by
  rw [(perm_edges casing agg).mem_iff, List.mem_map]
  constructor
  · rintro ⟨⟨key, sums⟩, hmem, rfl⟩
    exact ⟨key, sums, KeyOrder.mem_inOrder.1 hmem, rfl⟩
  · rintro ⟨key, sums, hlookup, rfl⟩
    exact ⟨(key, sums), KeyOrder.mem_inOrder.2 hlookup, rfl⟩

theorem exact_of_tallies {lines : List (List Char)} {tally : DependencyTally} (coverage : CoverageSnapshot)
    (h : Tallies keyOf accounts tally) (hwithin : edgeCaps.Within (aggregatedKeys keyOf accounts))
    (hfew : accounts.length ≤ u64Max) (hlength : accounts.length = lines.length)
    (haccounted : ∀ (i : Nat) (line : List Char) (account : Account), lines[i]? = some line →
      accounts[i]? = some account →
      AccountsFor keyOf env i (RustStr.trim (String.ofList line)) (accounts.take i) account) :
    ExactInventory env keyOf lines accounts tally (dependencyInventory env coverage tally) := by
  have hperm := perm_edgeKeys env.casing tally.agg
  have hkeys : ∀ key, key ∈ (dependencyInventory env coverage tally).edges.map edgeKey ↔
      key ∈ aggregatedKeys keyOf accounts := by
    intro key
    rw [← h.mem_agg, AList.mem_keys]
    exact hperm.mem_iff
  have hdistinct : ((dependencyInventory env coverage tally).edges.map edgeKey).Nodup :=
    hperm.nodup_iff.2 tally.agg.keys_nodup
  have hdropped : (dependencyInventory env coverage tally).droppedEdges = accounts.countP Account.isDropped := by
    have hle : accounts.countP Account.isDropped ≤ u64Max := List.countP_le_length.trans hfew
    rw [countP_isDropped] at hle ⊢
    simp only [dependencyInventory, h.droppedEdges, h.droppedForLineCap, h.skippedForFanout, saturatingAdd]
    omega
  constructor
  · exact hlength
  · exact haccounted
  · exact h.parseFailures
  · exact h.droppedForLineCap
  · exact h.droppedEdges
  · exact h.skippedForFanout
  · exact hkeys
  · exact hdistinct
  · intro edge hedge
    obtain ⟨key, sums, hlookup, rfl⟩ := mem_edges.1 hedge
    rw [h.agg] at hlookup
    exact sums_of_edgeAggOf hlookup
  · have hsame : ((dependencyInventory env coverage tally).edges.map edgeKey).toFinset =
        (aggregatedKeys keyOf accounts).toFinset := by
      ext key
      rw [List.mem_toFinset, List.mem_toFinset, hkeys]
    have hcard := List.toFinset_card_of_nodup hdistinct
    rw [hsame, List.length_map] at hcard
    rw [← hcard]
    exact hwithin.keys
  · intro source
    have hsame : edgeCaps.targets ((dependencyInventory env coverage tally).edges.map edgeKey) source =
        edgeCaps.targets (aggregatedKeys keyOf accounts) source := by
      ext target
      simp only [Quota.Caps.mem_targets, hkeys]
    rw [hsame]
    exact hwithin.targets source
  · exact hdropped
  · exact decide_eq_true_iff
  · exact List.pairwise_insertionSort _ _

theorem accountsFor_accountsOf (lines : List (List Char)) : ∀ (i : Nat) (line : List Char) (account : Account),
    lines[i]? = some line → (accountsOf keyOf env lines)[i]? = some account →
    AccountsFor keyOf env i (RustStr.trim (String.ofList line)) ((accountsOf keyOf env lines).take i) account := by
  induction lines using List.reverseRecOn with
  | nil =>
    intro i line account hline
    cases hline
  | append_singleton lines last ih =>
    intro i line account hline haccount
    rw [accountsOf_concat] at haccount ⊢
    have hlength := length_accountsOf keyOf env lines
    rcases Nat.lt_trichotomy i lines.length with hlt | heq | hgt
    · rw [List.getElem?_append_left hlt] at hline
      rw [List.getElem?_append_left (by omega)] at haccount
      rw [List.take_append_of_le_length (by omega)]
      exact ih i line account hline haccount
    · subst heq
      rw [List.getElem?_concat_length] at hline
      rw [← hlength, List.getElem?_concat_length] at haccount
      cases hline
      cases haccount
      rw [List.take_append_of_le_length (by omega), List.take_of_length_le (by omega), hlength]
      exact accountsFor_accountLine _ last _
    · rw [List.getElem?_eq_none (by simp; omega)] at hline
      cases hline

/-- **Dependency aggregation is exact.** -/
theorem dependency_aggregation_exact (env : DependencyExternals) (body : RustStr.Text) (coverage : CoverageSnapshot)
    (pods : List Pod) (services : List Service) :
    ∃ accounts, ExactInventory env (edgeKeyOf env.casing (buildPodIpIndex pods) (buildServiceIpIndex services))
      (RustStr.lines body.val.toList) accounts (tallyBody env pods services body.val)
      (collectDependencyInventory env true body.val coverage pods services) := by
  have hlength := length_accountsOf (edgeKeyOf env.casing (buildPodIpIndex pods) (buildServiceIpIndex services)) env
    (RustStr.lines body.val.toList)
  refine ⟨_, exact_of_tallies coverage (tallies_lines env _ _ _) (within_aggregatedKeys _) ?_ hlength
    (accountsFor_accountsOf _)⟩
  have hlines := RustStr.length_lines body.val.toList
  have hchars := RustStr.length_le_utf8ByteSize body.val
  have hbytes := body.fits
  rw [hlength]
  unfold u64Max
  omega

end Collector
end HubAgent
