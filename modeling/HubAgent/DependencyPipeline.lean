import Mathlib.Algebra.BigOperators.Group.List.Lemmas
import HubAgent.SilentLoss
/-!
# From the events to the edges (`tetragon.rs`, `collector.rs`)

The streams write each event they receive as a line into one buffer, and a collection reads the lines back and adds them
up by edge.  Of the events that the buffer still holds nothing is lost and nothing is counted twice:
`events_counted_once` says of every run what the inventory of a collection says of the last 20,000 events, so far as
they are inside its window.
-/
namespace HubAgent
namespace Tetragon

open Collector

/-! ## The pipeline -/

/-- An event that is recorded, at its time and at the time of its recording. -/
structure RecordedEvent where
  kprobe : ProcessKprobe
  sock : KprobeSock
  timestampUnixMs : Nat
  recordedAtMs : Nat

namespace RecordedEvent

def json (event : RecordedEvent) : Json := kprobeJson event.kprobe event.sock event.timestampUnixMs

def record (casing : Casing) (event : RecordedEvent) : TetragonDependencyRecord :=
  recordOfKprobe casing event.kprobe event.sock event.timestampUnixMs

def sends (event : RecordedEvent) : Bool := event.kprobe.functionName = "tcp_sendmsg"

def bytes (event : RecordedEvent) : Nat := if event.sends then (max event.kprobe.size 0).toNat else 0

end RecordedEvent

/-- The event that is recorded: a call of one of the two functions, with a socket, at a time that can be written. -/
def recorded? : StreamOp → Option RecordedEvent
  | .received _ response eventAt _ recordedAt =>
    response.event.bind (fun kprobe => kprobe.sock.bind (fun sock =>
      let timestampUnixMs := (response.time.bind timestampMs).getD eventAt
      if (kprobe.functionName = "tcp_sendmsg" ∨ kprobe.functionName = "tcp_close") ∧ timestampUnixMs ≤ u64Max then
        some ⟨kprobe, sock, timestampUnixMs, recordedAt⟩
      else none))
  | .collected _ => none

def recordedIn (ops : List StreamOp) : List RecordedEvent := ops.filterMap recorded?

/-- The events that a collection sees: the last 20,000, so far as they are inside the window. -/
def windowAt (takenAt : Nat) (events : List RecordedEvent) : List RecordedEvent :=
  (events.rtake maxBufferedEvents).filter
    (fun event => decide (takenAt - depWindowSeconds * 1000 ≤ event.recordedAtMs))

/-- The library writes a value as one line with no blanks around it, and reads it back. -/
def JsonLibrary.Plain (json : JsonLibrary) (value : Json) : Prop :=
  ∃ text, json.toString value = some text ∧ json.fromStr text = some value ∧ '\n' ∉ text.toList ∧ '\r' ∉ text.toList ∧
    RustStr.trim text = text ∧ text ≠ ""

/-! ## Into the buffer -/

section Buffer

variable {json : JsonLibrary}

/-- **The streams write what is recorded**, and nothing else. -/
theorem turn?_received (stream : Nat) (response : GetEventsResponse) (eventAt prunedAt recordedAt : Nat) :
    (StreamOp.received stream response eventAt prunedAt recordedAt).turn? json =
      ((recorded? (.received stream response eventAt prunedAt recordedAt)).bind (fun event =>
        json.toString event.json)).map (fun line => .push stream line prunedAt recordedAt) := by
  simp only [StreamOp.turn?, recorded?, eventLine, eventValue]
  cases response.event with
  | none => rfl
  | some kprobe =>
    simp only [findSome?_sockArg, intArg_size, Option.bind_some]
    by_cases hname : kprobe.functionName ≠ "tcp_sendmsg" ∧ kprobe.functionName ≠ "tcp_close"
    · cases kprobe.sock <;> simp [hname, Except.map]
    have hone : kprobe.functionName = "tcp_sendmsg" ∨ kprobe.functionName = "tcp_close" := by
      by_contra hneither
      push Not at hneither
      exact hname hneither
    have hsocks : kprobe.sock = kprobe.args.findSome? sockOf := rfl
    rw [if_neg hname, hsocks]
    cases kprobe.args.findSome? sockOf with
    | none => rfl
    | some sock =>
      simp only [Option.map_some, Option.bind_some, hone, true_and]
      generalize (response.time.bind timestampMs).getD eventAt = t
      by_cases htime : t > u64Max
      · have hlate : ¬ t ≤ u64Max := by omega
        rw [if_pos htime, if_neg hlate]
        rfl
      · have hwritten : t ≤ u64Max := by omega
        rw [if_neg htime, if_pos hwritten, Option.bind_some]
        have hvalue : RecordedEvent.json ⟨kprobe, sock, t, recordedAt⟩ = kprobeJson kprobe sock t := rfl
        rw [hvalue, kprobeJson, writtenKprobe, writtenArgs]
        by_cases hsend : kprobe.functionName = "tcp_sendmsg"
        · simp only [hsend, if_true, Except.map, Option.bind_some]
          cases json.toString _ <;> rfl
        · simp only [if_neg hsend, Except.map, Option.bind_some]
          cases json.toString _ <;> rfl

def RecordedEvent.line (json : JsonLibrary) (event : RecordedEvent) : BufferedLine :=
  ⟨(json.toString event.json).getD "", event.recordedAtMs⟩

theorem pushed?_turn? {op : StreamOp} (hplain : ∀ event, recorded? op = some event → json.Plain event.json) :
    (op.turn? json).bind BufferOp.pushed? = (recorded? op).map (RecordedEvent.line json) := by
  cases op with
  | collected collection => rfl
  | received stream response eventAt prunedAt recordedAt =>
    rw [turn?_received]
    cases hrecorded : recorded? (.received stream response eventAt prunedAt recordedAt) with
    | none => rfl
    | some event =>
      obtain ⟨text, htext, -⟩ := hplain event hrecorded
      have hat : event.recordedAtMs = recordedAt := by
        simp only [recorded?, Option.bind_eq_some_iff, Option.ite_none_right_eq_some] at hrecorded
        obtain ⟨kprobe, -, sock, -, -, hevent⟩ := hrecorded
        rw [← Option.some.inj hevent]
      simp [htext, hat, RecordedEvent.line, BufferOp.pushed?]

/-- **The lines pushed are the lines of the events recorded.** -/
theorem pushedIn_turns {ops : List StreamOp}
    (hplain : ∀ event ∈ recordedIn ops, json.Plain event.json) :
    pushedIn (turns json ops) = (recordedIn ops).map (RecordedEvent.line json) := by
  unfold pushedIn turns recordedIn
  rw [List.filterMap_filterMap, List.map_filterMap]
  refine List.filterMap_congr (fun op hop => pushed?_turn? (fun event hevent => ?_))
  exact hplain event (List.mem_filterMap.2 ⟨op, hop, hevent⟩)

theorem buffered_turns {before after : List StreamOp} {collection : Collection}
    (hclock : ClockMonotone (turns json (before ++ .collected collection :: after)))
    (hplain : ∀ event ∈ recordedIn before, json.Plain event.json) :
    collection.buffered json before =
      (windowAt collection.takenAt (recordedIn before)).map (RecordedEvent.line json) := by
  have hsplit : turns json (before ++ .collected collection :: after) =
      turns json before ++ .snapshot collection.takenAt :: turns json after := by
    unfold turns
    rw [List.filterMap_append, List.filterMap_cons]
    rfl
  rw [hsplit] at hclock
  have hrtake : ((recordedIn before).map (RecordedEvent.line json)).rtake maxBufferedEvents =
      ((recordedIn before).rtake maxBufferedEvents).map (RecordedEvent.line json) := by
    rw [List.rtake, List.rtake, List.length_map, List.map_drop]
  rw [Collection.buffered, pruneLocked_bufferAfter hclock, pushedIn_turns hplain, windowAt, hrtake]
  generalize (recordedIn before).rtake maxBufferedEvents = events
  generalize collection.takenAt - depWindowSeconds * 1000 = cutoff
  exact List.filter_map

end Buffer

/-! ## Out of the buffer -/

section Accounts

variable {keyOf : TetragonDependencyRecord → DependencyEdgeKey} {env : DependencyExternals} {json : JsonLibrary}

theorem lineRecord_line (hread : env.fromStr = json.fromStr) {event : RecordedEvent}
    (hrecorded : event.timestampUnixMs ≤ u64Max ∧
      (event.kprobe.functionName = "tcp_sendmsg" ∨ event.kprobe.functionName = "tcp_close"))
    (hplain : json.Plain event.json) (lineIndex : Nat) :
    lineRecord env lineIndex (event.line json).line = some (event.record env.casing) := by
  obtain ⟨text, htext, hback, -⟩ := hplain
  have hline : (event.line json).line = text := by simp [RecordedEvent.line, htext]
  rw [lineRecord, hread, hline, hback, Option.bind_some]
  exact parseTetragonRecord_kprobeJson hrecorded.1 hrecorded.2

/-- **Lines that are all read**: each record is aggregated or counted as dropped, in order. -/
structure AllRead (records : List TetragonDependencyRecord) (accounts : List Account) : Prop where
  aggregated : (aggregatedRecords accounts).Sublist records
  counted : (aggregatedRecords accounts).length + accounts.countP Account.isDropped = records.length

theorem AllRead.concat {records : List TetragonDependencyRecord} {accounts : List Account} {account : Account}
    {record : TetragonDependencyRecord} (h : AllRead records accounts)
    (haccount : account = .aggregated record ∨ account = .edgeCap record ∨ account = .fanoutCap record) :
    AllRead (records ++ [record]) (accounts ++ [account]) := by
  obtain ⟨haggregated, hcounted⟩ := h
  constructor
  · rw [aggregatedRecords_concat]
    rcases haccount with rfl | rfl | rfl
    · exact haggregated.append_right [record]
    · exact haggregated.append (List.nil_sublist _)
    · exact haggregated.append (List.nil_sublist _)
  · rw [aggregatedRecords_concat, List.countP_append]
    rcases haccount with rfl | rfl | rfl <;> simp [Account.aggregated?, Account.isDropped, Account.fate] <;> omega

/-- **Each line of a readable text is aggregated, or refused by a cap on keys.** -/
theorem allRead_accountsOf {α : Type} {text : α → String} {record : α → TetragonDependencyRecord} {events : List α}
    (hfew : events.length ≤ maxTetragonLines)
    (htexts : ∀ event ∈ events, RustStr.trim (text event) = text event ∧ text event ≠ "" ∧
      ∀ i, lineRecord env i (text event) = some (record event)) :
    AllRead (events.map record) (accountsOf keyOf env (events.map (fun event => (text event).toList))) := by
  induction events using List.reverseRecOn with
  | nil => exact ⟨List.Sublist.slnil, rfl⟩
  | append_singleton events event ih =>
    rw [List.length_append, List.length_singleton] at hfew
    have hbefore := ih (by omega) (fun other hother => htexts other (List.mem_append_left _ hother))
    obtain ⟨htrim, htext, hrecord⟩ := htexts event (List.mem_append_right _ (List.mem_singleton_self _))
    rw [List.map_append, List.map_append, List.map_singleton, List.map_singleton, accountsOf_concat]
    refine hbefore.concat ?_
    generalize accountsOf keyOf env (events.map (fun event => (text event).toList)) = earlier
    unfold accountLine
    dsimp only
    rw [if_neg (by rw [List.length_map]; omega), String.ofList_toList, htrim, if_neg htext, hrecord]
    dsimp only
    cases edgeCaps.verdict (aggregatedKeys keyOf earlier) (keyOf (record event)) with
    | admitted => exact .inl rfl
    | full => exact .inr (.inl rfl)
    | spread => exact .inr (.inr rfl)

end Accounts

/-! ## The inventory -/

section Totals

variable {records : List TetragonDependencyRecord}

theorem record_counts_one (casing : Casing) (event : RecordedEvent) :
    (event.record casing).packets + (event.record casing).connections = 1 := by
  unfold RecordedEvent.record recordOfKprobe
  by_cases hsend : event.kprobe.functionName = "tcp_sendmsg" <;> simp [hsend]

theorem bytes_le (event : RecordedEvent) : event.bytes ≤ 2147483647 := by
  have hlt : event.kprobe.size < 2 ^ 31 := by
    unfold ProcessKprobe.size
    split
    · exact Int32.toInt_lt _
    · decide
  unfold RecordedEvent.bytes
  split_ifs <;> omega

theorem counts_of_sums {agg : DependencyEdgeAgg} (h : Sums records agg)
    (hone : ∀ record ∈ records, record.packets + record.connections = 1) (hfew : records.length ≤ u64Max) :
    agg.packets + agg.connections = records.length := by
  have hsum : (records.map (·.packets)).sum + (records.map (·.connections)).sum = records.length := by
    rw [← List.sum_map_add, List.map_congr_left hone]
    simp
  rw [h.packets, h.connections]
  omega

theorem sum_counts {keys : List DependencyEdgeKey} {all : List DependencyEdgeKey} (hdistinct : keys.Nodup)
    (hkeys : ∀ key, key ∈ keys ↔ key ∈ all) : (keys.map (fun key => all.count key)).sum = all.length := by
  have hperm : keys.Perm all.dedup :=
    (List.perm_ext_iff_of_nodup hdistinct all.nodup_dedup).2 (fun key => (hkeys key).trans List.mem_dedup.symm)
  rw [(hperm.map _).sum_eq]
  exact List.sum_map_count_dedup_eq_length all

/-- **What an edge says of its events.** -/
structure EdgeTotals (own : List RecordedEvent) (edge : DependencyEdge) : Prop where
  bytes : edge.bytes = (own.map RecordedEvent.bytes).sum
  packets : edge.packets = own.countP RecordedEvent.sends
  connections : edge.connections = own.countP (fun event => !event.sends)
  firstSeen : (own.map RecordedEvent.timestampUnixMs).min? = some edge.firstSeenUnixMs
  lastSeen : (own.map RecordedEvent.timestampUnixMs).max? = some edge.lastSeenUnixMs

theorem sum_bytes_le (own : List RecordedEvent) : (own.map RecordedEvent.bytes).sum ≤ own.length * 2147483647 := by
  induction own with
  | nil => exact Nat.zero_le _
  | cons event own ih =>
    have hfirst := bytes_le event
    rw [List.map_cons, List.sum_cons, List.length_cons]
    omega

theorem sum_packets (casing : Casing) (own : List RecordedEvent) :
    ((own.map (RecordedEvent.record casing)).map (·.packets)).sum = own.countP RecordedEvent.sends := by
  induction own with
  | nil => rfl
  | cons event own ih =>
    rw [List.map_cons, List.map_cons, List.sum_cons, ih, List.countP_cons, Nat.add_comm]
    simp [RecordedEvent.record, recordOfKprobe, RecordedEvent.sends]

theorem sum_connections (casing : Casing) (own : List RecordedEvent) :
    ((own.map (RecordedEvent.record casing)).map (·.connections)).sum = own.countP (fun event => !event.sends) := by
  induction own with
  | nil => rfl
  | cons event own ih =>
    rw [List.map_cons, List.map_cons, List.sum_cons, ih, List.countP_cons, Nat.add_comm]
    by_cases hsend : event.kprobe.functionName = "tcp_sendmsg" <;>
      simp [RecordedEvent.record, recordOfKprobe, RecordedEvent.sends, hsend]

theorem edgeTotals_of_sums {casing : Casing} {own : List RecordedEvent} {edge : DependencyEdge}
    (hfew : own.length ≤ maxBufferedEvents)
    (h : Sums (own.map (RecordedEvent.record casing))
      { bytes := edge.bytes, packets := edge.packets, connections := edge.connections
        firstSeenUnixMs := edge.firstSeenUnixMs, lastSeenUnixMs := edge.lastSeenUnixMs }) : EdgeTotals own edge := by
  have hbytes : (own.map (RecordedEvent.record casing)).map (·.bytes) = own.map RecordedEvent.bytes := by
    rw [List.map_map]
    refine List.map_congr_left (fun event _ => ?_)
    simp [RecordedEvent.record, recordOfKprobe, RecordedEvent.bytes, RecordedEvent.sends]
  have htimes : (own.map (RecordedEvent.record casing)).map (·.timestampUnixMs) =
      own.map RecordedEvent.timestampUnixMs := by
    rw [List.map_map]
    rfl
  obtain ⟨hb, hp, hc, hfirst, hlast⟩ := h
  have hsum := sum_bytes_le own
  have hsends := List.countP_le_length (p := RecordedEvent.sends) (l := own)
  have hcloses := List.countP_le_length (p := fun event : RecordedEvent => !event.sends) (l := own)
  rw [hbytes] at hb
  rw [sum_packets] at hp
  rw [sum_connections] at hc
  rw [htimes] at hfirst hlast
  unfold maxBufferedEvents at hfew
  unfold u64Max at hb hp hc
  dsimp only at hb hp hc
  exact ⟨by omega, by omega, by omega, hfirst, hlast⟩

/-- **An inventory counts the events of its window**: all of them in its edges, but for those that it says it dropped,
and each edge has its own where it says that there are none of these. -/
structure CountsEvents (keyOf : RecordedEvent → DependencyEdgeKey) (events : List RecordedEvent)
    (inventory : DependencyInventory) : Prop where
  counted : (inventory.edges.map (fun edge => edge.packets + edge.connections)).sum + inventory.droppedEdges =
    events.length
  each : inventory.truncated = false → ∀ event ∈ events, keyOf event ∈ inventory.edges.map edgeKey
  totals : inventory.truncated = false → ∀ edge ∈ inventory.edges,
    EdgeTotals (events.filter (fun event => decide (keyOf event = edgeKey edge))) edge

theorem countsEvents_of_exact {env : DependencyExternals} {keyOf : TetragonDependencyRecord → DependencyEdgeKey}
    {events : List RecordedEvent} {lines : List (List Char)} {accounts : List Account} {tally : DependencyTally}
    {inventory : DependencyInventory} (hfew : events.length ≤ maxBufferedEvents)
    (hread : AllRead (events.map (RecordedEvent.record env.casing)) accounts)
    (h : ExactInventory env keyOf lines accounts tally inventory) :
    CountsEvents (fun event => keyOf (event.record env.casing)) events inventory := by
  obtain ⟨haggregated, hcounted⟩ := hread
  rw [List.length_map] at hcounted
  have hone : ∀ record ∈ aggregatedRecords accounts, record.packets + record.connections = 1 := by
    intro record hrecord
    obtain ⟨event, -, rfl⟩ := List.mem_map.1 (haggregated.subset hrecord)
    exact record_counts_one env.casing event
  have hall : inventory.truncated = false →
      aggregatedRecords accounts = events.map (RecordedEvent.record env.casing) := by
    intro htruncated
    have hnone : inventory.droppedEdges = 0 := by
      by_contra hsome
      have htrue := h.truncated.2 (Nat.pos_of_ne_zero hsome)
      rw [htruncated] at htrue
      cases htrue
    refine haggregated.eq_of_length ?_
    rw [h.dropped] at hnone
    rw [List.length_map]
    omega
  constructor
  · have hedge : ∀ edge ∈ inventory.edges, edge.packets + edge.connections =
        (aggregatedKeys keyOf accounts).count (edgeKey edge) := by
      intro edge hedge
      have hle := List.length_filter_le (fun record => decide (keyOf record = edgeKey edge))
        (aggregatedRecords accounts)
      have hown := counts_of_sums (h.totals edge hedge)
        (fun record hrecord => hone record (List.mem_filter.1 hrecord).1) (by
          unfold maxBufferedEvents at hfew
          unfold u64Max
          omega)
      dsimp only at hown
      rw [hown, aggregatedKeys, List.count_eq_countP, List.countP_map, List.countP_eq_length_filter]
      rfl
    have hsum := sum_counts h.distinct h.keys
    rw [List.map_map, aggregatedKeys, List.length_map] at hsum
    rw [List.map_congr_left hedge, h.dropped, ← hcounted]
    exact congrArg (· + _) hsum
  · intro htruncated event hevent
    rw [h.keys, aggregatedKeys, hall htruncated, List.map_map]
    exact List.mem_map.2 ⟨event, hevent, rfl⟩
  · intro htruncated edge hedge
    have hown := h.totals edge hedge
    rw [hall htruncated, List.filter_map] at hown
    exact edgeTotals_of_sums ((List.length_filter_le _ _).trans hfew) hown

end Totals

theorem recordedIn_writable {ops : List StreamOp} {event : RecordedEvent} (h : event ∈ recordedIn ops) :
    event.timestampUnixMs ≤ u64Max ∧
      (event.kprobe.functionName = "tcp_sendmsg" ∨ event.kprobe.functionName = "tcp_close") := by
  obtain ⟨op, -, hop⟩ := List.mem_filterMap.1 h
  cases op with
  | collected collection => cases hop
  | received stream response eventAt prunedAt recordedAt =>
    simp only [recorded?, Option.bind_eq_some_iff, Option.ite_none_right_eq_some] at hop
    obtain ⟨kprobe, -, sock, -, ⟨hname, htime⟩, hevent⟩ := hop
    rw [← Option.some.inj hevent]
    exact ⟨htime, hname⟩

theorem windowAt_sublist (takenAt : Nat) (events : List RecordedEvent) : (windowAt takenAt events).Sublist events :=
  List.filter_sublist.trans (List.drop_sublist _ _)

theorem length_windowAt_le (takenAt : Nat) (events : List RecordedEvent) :
    (windowAt takenAt events).length ≤ maxBufferedEvents := by
  refine (List.length_filter_le _ _).trans ?_
  rw [List.rtake, List.length_drop]
  omega

/-- **A collection that reads the lines of events counts them.** -/
theorem countsEvents_ndjson {json : JsonLibrary} {env : DependencyExternals} (hread : env.fromStr = json.fromStr)
    {events : List RecordedEvent} (hfew : events.length ≤ maxBufferedEvents)
    (hwritable : ∀ event ∈ events, event.timestampUnixMs ≤ u64Max ∧
      (event.kprobe.functionName = "tcp_sendmsg" ∨ event.kprobe.functionName = "tcp_close"))
    (hplain : ∀ event ∈ events, json.Plain event.json) (coverage : CoverageSnapshot) (pods : List Pod)
    (services : List Service) :
    CountsEvents (fun event => edgeKeyOf env.casing (buildPodIpIndex pods) (buildServiceIpIndex services)
        (event.record env.casing))
      events
      (collectDependencyInventory env true (ndjson (events.map (RecordedEvent.line json))) coverage pods services) := by
  have htext : ∀ event ∈ events, ∃ text, (event.line json).line = text ∧ '\n' ∉ text.toList ∧ '\r' ∉ text.toList ∧
      RustStr.trim text = text ∧ text ≠ "" := by
    intro event hevent
    obtain ⟨text, htext, -, hplain⟩ := hplain event hevent
    exact ⟨text, by simp [RecordedEvent.line, htext], hplain⟩
  have hlines : RustStr.lines (ndjson (events.map (RecordedEvent.line json))).toList =
      events.map (fun event => (event.line json).line.toList) := by
    rw [lines_ndjson, List.map_map]
    · rfl
    · intro line hline
      obtain ⟨event, hevent, rfl⟩ := List.mem_map.1 hline
      obtain ⟨text, htext, hnewline, hreturn, -⟩ := htext event hevent
      rw [htext]
      exact ⟨hnewline, hreturn⟩
  have hrecords : ∀ event ∈ events, RustStr.trim (event.line json).line = (event.line json).line ∧
      (event.line json).line ≠ "" ∧
        ∀ i, lineRecord env i (event.line json).line = some (event.record env.casing) := by
    intro event hevent
    obtain ⟨text, htext, -, -, htrim, hsome⟩ := htext event hevent
    have hline := lineRecord_line hread (hwritable event hevent) (hplain event hevent)
    rw [htext] at hline ⊢
    exact ⟨htrim, hsome, hline⟩
  have hcap : maxBufferedEvents = maxTetragonLines := rfl
  have hlength := length_accountsOf (edgeKeyOf env.casing (buildPodIpIndex pods) (buildServiceIpIndex services)) env
    (events.map (fun event => (event.line json).line.toList))
  have hsmall : (events.map (fun event => (event.line json).line.toList)).length ≤ u64Max := by
    rw [List.length_map]
    exact hfew.trans (by decide)
  rw [collectDependencyInventory, tallyBody, hlines]
  exact countsEvents_of_exact hfew (allRead_accountsOf (hcap ▸ hfew) hrecords)
    (exact_of_tallies coverage (tallies_lines env _ _ _) (within_aggregatedKeys _) (hlength.trans_le hsmall) hlength
      (accountsFor_accountsOf _))

/-- **Each event that the buffer holds is counted once.**  Streams receive events and collections read the buffer, in any
order, on a clock that does not go back and with a library that writes plain lines.  In every such run, and of the last
20,000 events recorded before a collection, those inside its window: the packets and connections of the edges that it
reports, with what it says it dropped, are as many as they are; and where it says that nothing was dropped, each of them
has its edge, and each edge has the bytes, the packets, the connections and the times of its own events, exactly. -/
theorem events_counted_once {json : JsonLibrary} (casing : Casing) {before after : List StreamOp}
    {collection : Collection} (hclock : ClockMonotone (turns json (before ++ .collected collection :: after)))
    (hplain : ∀ event ∈ recordedIn before, json.Plain event.json) :
    CountsEvents (fun event => edgeKeyOf casing (buildPodIpIndex collection.pods)
        (buildServiceIpIndex collection.services) (event.record casing))
      (windowAt collection.takenAt (recordedIn before)) (collection.inventory json casing before) := by
  have hinside : ∀ event ∈ windowAt collection.takenAt (recordedIn before), event ∈ recordedIn before :=
    fun event hevent => (windowAt_sublist collection.takenAt _).subset hevent
  have hbody : collection.body json before =
      ndjson ((windowAt collection.takenAt (recordedIn before)).map (RecordedEvent.line json)) :=
    congrArg ndjson (buffered_turns hclock hplain)
  rw [Collection.inventory, hbody]
  exact @countsEvents_ndjson json (collection.externals json casing) rfl _ (length_windowAt_le _ _)
    (fun event hevent => recordedIn_writable (hinside event hevent))
    (fun event hevent => hplain event (hinside event hevent)) collection.coverage collection.pods collection.services

theorem toList_of_ofList {s : String} {l : List Char} (h : s = String.ofList l) : s.toList = l := by
  rw [h, String.toList_ofList]

set_option maxRecDepth 2000 in
theorem plain_sendmsg : sendmsgLibrary.Plain (kprobeJson sendmsgKprobe sendmsgSock 1500) := by
  have htext : '\n' ∉ sendmsgText.toList ∧ '\r' ∉ sendmsgText.toList ∧
      RustStr.trimChars sendmsgText.toList = sendmsgText.toList ∧ sendmsgText.toList ≠ [] := by
    unfold sendmsgText
    -- decided on lists of characters, since a string is slow to take apart
    rw [String.toList_append, String.toList_append, toList_of_ofList rfl, toList_of_ofList rfl, toList_of_ofList rfl]
    decide
  obtain ⟨hnewline, hreturn, htrim, hsome⟩ := htext
  refine ⟨sendmsgText, rfl, fromStr_sendmsg, hnewline, hreturn, RustStr.trim_eq_self_iff.2 htrim, fun hempty => hsome ?_⟩
  rw [hempty]
  rfl

/-- One event of 39 bytes is recorded, and read half a second later. -/
theorem events_counted_once_sendmsg :
    CountsEvents (fun event => edgeKeyOf asciiCasing (buildPodIpIndex []) (buildServiceIpIndex [])
        (event.record asciiCasing))
      (windowAt 2500 (recordedIn [sentAt 2000]))
      ((collectedAt 2500).inventory sendmsgLibrary asciiCasing [sentAt 2000]) := by
  have hturns : turns sendmsgLibrary ([sentAt 2000] ++ .collected (collectedAt 2500) :: []) =
      [.push 0 sendmsgText 2000 2000, .snapshot 2500] := rfl
  have hrecorded : recordedIn [sentAt 2000] = [⟨sendmsgKprobe, sendmsgSock, 1500, 2000⟩] := rfl
  have hclock : ClockMonotone (turns sendmsgLibrary ([sentAt 2000] ++ .collected (collectedAt 2500) :: [])) := by
    rw [hturns]
    unfold ClockMonotone
    decide
  refine events_counted_once asciiCasing hclock ?_
  rw [hrecorded]
  intro event hevent
  rw [List.mem_singleton.1 hevent]
  exact plain_sendmsg

end Tetragon
end HubAgent
