import HubAgent.DependencySpec
import HubAgent.EventBuffer
import HubAgent.KprobeEvents
/-!
# What the buffer discards (`tetragon.rs`, `collector.rs`)

The buffer of the stream holds at most as many lines as the collection reads, so the collection never sees one line too
many (`lineCap_not_counted`): an event that a full buffer discards is counted nowhere.  An inventory is then marked as
truncated exactly when the keys of the buffered events exceed the two caps on keys (`truncated_iff`), whatever the
buffer has discarded before.
-/
namespace HubAgent
namespace Collector

variable {env : DependencyExternals} {keyOf : TetragonDependencyRecord → DependencyEdgeKey} {earlier : List Account}

/-! ## The records of a body -/

/-- What a line says, when the line cap is not reached. -/
def recordOf (env : DependencyExternals) (entry : List Char × Nat) : Option TetragonDependencyRecord :=
  let line := RustStr.trim (String.ofList entry.1)
  if line = "" then none else lineRecord env entry.2 line

def recordsOf (env : DependencyExternals) (lines : List (List Char)) : List TetragonDependencyRecord :=
  lines.zipIdx.filterMap (recordOf env)

theorem recordsOf_concat (lines : List (List Char)) (line : List Char) :
    recordsOf env (lines ++ [line]) = recordsOf env lines ++ (recordOf env (line, lines.length)).toList := by
  rw [recordsOf, List.zipIdx_append, List.filterMap_append, recordsOf]
  cases h : recordOf env (line, lines.length) <;> simp [h]

theorem accountLine_of_none (keyOf : TetragonDependencyRecord → DependencyEdgeKey) (earlier : List Account)
    {line : List Char} {lineIndex : Nat} (hread : lineIndex < maxTetragonLines)
    (h : recordOf env (line, lineIndex) = none) :
    accountLine keyOf env earlier (line, lineIndex) = .blank ∨
      accountLine keyOf env earlier (line, lineIndex) = .parseFailure := by
  unfold recordOf at h
  unfold accountLine
  dsimp only at h ⊢
  rw [if_neg (by omega)]
  split_ifs at h ⊢ with hblank
  · exact .inl rfl
  · rw [h]
    exact .inr rfl

theorem accountLine_of_some {line : List Char} {lineIndex : Nat} {record : TetragonDependencyRecord}
    (hread : lineIndex < maxTetragonLines) (h : recordOf env (line, lineIndex) = some record) :
    accountLine keyOf env earlier (line, lineIndex) =
      match edgeCaps.verdict (aggregatedKeys keyOf earlier) (keyOf record) with
      | .admitted => .aggregated record
      | .full => .edgeCap record
      | .spread => .fanoutCap record := by
  unfold recordOf at h
  unfold accountLine
  dsimp only at h ⊢
  rw [if_neg (by omega)]
  split_ifs at h ⊢ with hblank
  cases hverdict : edgeCaps.verdict (aggregatedKeys keyOf earlier) (keyOf record) <;> simp only [h, hverdict]

/-- **No line is counted against the line cap**, the keys aggregated are those the other two caps admit, and the rest
is counted against them. -/
theorem accounts_below_lineCap (keyOf : TetragonDependencyRecord → DependencyEdgeKey) (env : DependencyExternals) :
    ∀ {lines : List (List Char)}, lines.length ≤ maxTetragonLines →
    countFate .lineCap (accountsOf keyOf env lines) = 0 ∧
    aggregatedKeys keyOf (accountsOf keyOf env lines) = edgeCaps.admitted ((recordsOf env lines).map keyOf) ∧
    countFate .edgeCap (accountsOf keyOf env lines) + countFate .fanoutCap (accountsOf keyOf env lines) +
      (aggregatedKeys keyOf (accountsOf keyOf env lines)).length = (recordsOf env lines).length := by
  intro lines
  induction lines using List.reverseRecOn with
  | nil => exact fun _ => ⟨rfl, rfl, rfl⟩
  | append_singleton lines line ih =>
    intro hle
    rw [List.length_append, List.length_singleton] at hle
    obtain ⟨hline, hkeys, hcount⟩ := ih (by omega)
    rw [accountsOf_concat, recordsOf_concat, aggregatedKeys_concat]
    simp only [countFate_concat]
    generalize accountsOf keyOf env lines = earlier at hline hkeys hcount ⊢
    cases hrecord : recordOf env (line, lines.length) with
    | none =>
      rcases accountLine_of_none keyOf earlier (by omega) hrecord with h | h <;> rw [h] <;>
        simpa [Account.fate, Account.aggregated?] using ⟨hline, hkeys, hcount⟩
    | some record =>
      rw [accountLine_of_some (by omega) hrecord]
      rw [Option.toList_some, List.map_append, List.map_singleton, Quota.Caps.admitted_concat, Quota.Caps.admitKey,
        ← hkeys]
      generalize edgeCaps.verdict (aggregatedKeys keyOf earlier) (keyOf record) = v
      cases v <;> simp [Account.fate, Account.aggregated?, hline] <;> omega

theorem counted_iff {lines : List (List Char)} (hlines : lines.length ≤ maxTetragonLines) :
    0 < countFate .edgeCap (accountsOf keyOf env lines) + countFate .fanoutCap (accountsOf keyOf env lines) ↔
      ¬ edgeCaps.Within ((recordsOf env lines).map keyOf) := by
  obtain ⟨-, hkeys, hcount⟩ := accounts_below_lineCap keyOf env hlines
  have hsub := edgeCaps.admitted_sublist ((recordsOf env lines).map keyOf)
  rw [← Quota.Caps.admitted_eq_self_iff]
  rw [hkeys] at hcount
  have hlength := hsub.length_le
  rw [List.length_map] at hlength
  constructor
  · intro hpos heq
    rw [heq, List.length_map] at hcount
    omega
  · intro hne
    by_contra hzero
    have hall : (edgeCaps.admitted ((recordsOf env lines).map keyOf)).length =
        ((recordsOf env lines).map keyOf).length := by
      rw [List.length_map]
      omega
    exact hne (hsub.eq_of_length hall)

theorem collect_enabled (body : String) (coverage : CoverageSnapshot) (pods : List Pod) (services : List Service) :
    collectDependencyInventory env true body coverage pods services =
      dependencyInventory env coverage (tallyBody env pods services body) := by
  simp only [collectDependencyInventory, Bool.not_true, Bool.false_eq_true, if_false]

/-- **When an inventory is marked**: the keys of the records exceed the caps. -/
theorem truncated_iff (env : DependencyExternals) (body : String) (coverage : CoverageSnapshot) (pods : List Pod)
    (services : List Service) (hlines : (RustStr.lines body.toList).length ≤ maxTetragonLines) :
    ((collectDependencyInventory env true body coverage pods services).truncated = true ∧
      0 < (collectDependencyInventory env true body coverage pods services).droppedEdges) ↔
    ¬ edgeCaps.Within ((recordsOf env (RustStr.lines body.toList)).map
      (edgeKeyOf env.casing (buildPodIpIndex pods) (buildServiceIpIndex services))) := by
  have htally := tallies_lines env (buildPodIpIndex pods) (buildServiceIpIndex services) (RustStr.lines body.toList)
  have hline := (accounts_below_lineCap
    (edgeKeyOf env.casing (buildPodIpIndex pods) (buildServiceIpIndex services)) env hlines).1
  rw [← counted_iff hlines, ← htally.droppedEdges, ← htally.skippedForFanout]
  rw [← htally.droppedForLineCap] at hline
  rw [collect_enabled, dependencyInventory]
  simp only [decide_eq_true_eq, gt_iff_lt, and_self]
  rw [tallyBody, hline]
  unfold saturatingAdd u64Max
  omega

/-! ## Runs of the stream and of the collection -/

open Tetragon

/-- What one collection takes from outside. -/
structure Collection where
  takenAt : Nat
  /-- The clock while the line of an index is read. -/
  clock : Nat → Nat
  coverage : CoverageSnapshot
  pods : List Pod
  services : List Service

inductive StreamOp where
  | received (stream : Nat) (response : GetEventsResponse) (eventAt prunedAt recordedAt : Nat)
  | collected (collection : Collection)

variable (json : JsonLibrary) (casing : Casing) (instant : Nat → Nat → Nat)

/-- The turn that holds the lock, if the event gives a line. -/
def StreamOp.turn? : StreamOp → Option BufferOp
  | received stream response eventAt prunedAt recordedAt =>
    match eventLine json eventAt response with
    | .ok (some line) => some (.push stream line prunedAt recordedAt)
    | _ => none
  | collected collection => some (.snapshot collection.takenAt)

def turns (run : List StreamOp) : List BufferOp := run.filterMap (StreamOp.turn? json)

namespace Collection

def externals (collection : Collection) : DependencyExternals where
  casing := casing
  fromStr := json.fromStr
  nowUnixMs := collection.clock

def body (collection : Collection) (run : List StreamOp) : String :=
  (snapshotNdjson collection.takenAt (some (bufferAfter (turns json run)))).1

def inventory (collection : Collection) (run : List StreamOp) : DependencyInventory :=
  collectDependencyInventory (collection.externals json casing) true (collection.body json run) collection.coverage
    collection.pods collection.services

/-- The events in the buffer that are inside the window of a collection. -/
def buffered (collection : Collection) (run : List StreamOp) : List BufferedLine :=
  pruneLocked collection.takenAt (bufferAfter (turns json run))

def bufferedKeys (collection : Collection) (run : List StreamOp) : List DependencyEdgeKey :=
  (recordsOf (collection.externals json casing) ((collection.buffered json run).map
    (fun line => line.line.toList))).map
    (edgeKeyOf casing (buildPodIpIndex collection.pods) (buildServiceIpIndex collection.services))

end Collection

/-- The line that a turn discards because the buffer is full, with the clock of that turn. -/
def evicted? (lines : List BufferedLine) : BufferOp → Option (BufferedLine × Nat)
  | .push _ _ prunedAt _ =>
    if maxBufferedEvents ≤ (pruneLocked prunedAt lines).length then
      (pruneLocked prunedAt lines).head?.map (fun line => (line, prunedAt))
    else none
  | .snapshot _ => none

/-- **An event was lost since the last collection**: a full buffer discarded it, and it is inside the window.  `instant`
says when it has to be: of the instants of its discarding and of the next collection it makes one. -/
def LostSince (run : List BufferOp) (takenAt : Nat) : Prop :=
  ∃ earlier op later line evictedAt, run = earlier ++ op :: later ∧ (∀ t, .snapshot t ∉ later) ∧
    evicted? (bufferAfter earlier) op = some (line, evictedAt) ∧
    cutoffAt (instant evictedAt takenAt) ≤ line.recordedAtMs

/-- **No silent loss**: the collection after a loss says that something was dropped. -/
def NoSilentLoss (run : List StreamOp) : Prop :=
  ∀ before (collection : Collection) after, run = before ++ .collected collection :: after →
    LostSince instant (turns json before) collection.takenAt →
    (collection.inventory json casing before).truncated = true ∧
      0 < (collection.inventory json casing before).droppedEdges

variable {json} {casing} {instant} {run : List StreamOp}

theorem pushed_of_turn {op : StreamOp} {turn : BufferOp} {line : BufferedLine} (hturn : op.turn? json = some turn)
    (hpushed : turn.pushed? = some line) : ∃ value, json.toString value = some line.line := by
  cases op with
  | received stream response eventAt prunedAt recordedAt =>
    simp only [StreamOp.turn?] at hturn
    split at hturn
    · rename_i text htext
      cases hturn
      cases hpushed
      unfold eventLine at htext
      cases hvalue : eventValue eventAt response with
      | error e =>
        rw [hvalue] at htext
        cases htext
      | ok value =>
        rw [hvalue] at htext
        obtain ⟨written, -, hwritten⟩ := Option.bind_eq_some_iff.1 (Except.ok.inj htext)
        exact ⟨written, hwritten⟩
    · cases hturn
  | collected collection =>
    cases hturn
    cases hpushed

theorem text_of_mem_buffer {line : BufferedLine} (h : line ∈ bufferAfter (turns json run)) :
    ∃ value, json.toString value = some line.line := by
  obtain ⟨turn, hturn, hpushed⟩ := List.mem_filterMap.1 ((bufferAfter_pushed _).1 line h)
  obtain ⟨op, -, hop⟩ := List.mem_filterMap.1 hturn
  exact pushed_of_turn hop hpushed

theorem lines_ndjson {buffer : List BufferedLine}
    (h : ∀ line ∈ buffer, '\n' ∉ line.line.toList ∧ '\r' ∉ line.line.toList) :
    RustStr.lines (ndjson buffer).toList = buffer.map (fun line => line.line.toList) := by
  have htext : (ndjson buffer).toList =
      (buffer.map (fun line => line.line.toList)).flatMap (fun l => l ++ ['\n']) := by
    rw [ndjson, String.toList_join, List.flatMap_map, List.flatMap_map]
    apply List.flatMap_congr
    intro line _
    rw [String.toList_append]
    rfl
  rw [htext, RustStr.lines_terminated]
  rintro l hl
  obtain ⟨line, hline, rfl⟩ := List.mem_map.1 hl
  exact h line hline

/-- **The collection reads a line for each event of the buffer**, and these are not more than it reads. -/
theorem lines_body (hjson : json.OneLine) (collection : Collection) (run : List StreamOp) :
    RustStr.lines (collection.body json run).toList =
        (collection.buffered json run).map (fun line => line.line.toList) ∧
      (collection.buffered json run).length ≤ maxTetragonLines := by
  constructor
  · refine lines_ndjson fun line hline => ?_
    obtain ⟨value, hvalue⟩ := text_of_mem_buffer (SlidingWindow.prune_sublist.subset hline)
    exact hjson value line.line hvalue
  · exact SlidingWindow.prune_sublist.length_le.trans (bufferAfter_pushed (turns json run)).2

theorem marked_iff (hjson : json.OneLine) (collection : Collection) (run : List StreamOp) :
    ((collection.inventory json casing run).truncated = true ∧
      0 < (collection.inventory json casing run).droppedEdges) ↔
    ¬ edgeCaps.Within (collection.bufferedKeys json casing run) := by
  obtain ⟨hlines, hfew⟩ := lines_body hjson collection run
  have hiff := truncated_iff (collection.externals json casing) (collection.body json run)
    collection.coverage collection.pods collection.services (by rw [hlines, List.length_map]; exact hfew)
  rw [hlines] at hiff
  exact hiff

/-- **A loss is silent exactly when the keys of the events that are left are within the caps.** -/
theorem no_silent_loss_iff (json : JsonLibrary) (hjson : json.OneLine) (casing : Casing) (instant : Nat → Nat → Nat)
    (run : List StreamOp) :
    NoSilentLoss json casing instant run ↔
      ∀ before (collection : Collection) after, run = before ++ .collected collection :: after →
        LostSince instant (turns json before) collection.takenAt →
        ¬ edgeCaps.Within (collection.bufferedKeys json casing before) := by
  unfold NoSilentLoss
  simp only [marked_iff hjson]

/-! ## A flood -/

theorem oneLine_sendmsg : sendmsgLibrary.OneLine := by
  intro value text htext
  rw [← Option.some.inj htext]
  unfold sendmsgText
  simp only [String.toList_append, List.mem_append, not_or]
  decide +kernel

theorem eventLine_sendmsg : eventLine sendmsgLibrary 0 sendmsgEvent = .ok (some sendmsgText) := by
  rw [eventLine, eventValue_sendmsg]
  rfl

def asciiCasing : Casing := ⟨String.toLower, String.toUpper⟩

def sentAt (t : Nat) : StreamOp := .received 0 sendmsgEvent 0 t t

def collectedAt (t : Nat) : Collection :=
  { takenAt := t, clock := fun _ => t, coverage := {}, pods := [], services := [] }

theorem turns_sentAt (n t : Nat) :
    turns sendmsgLibrary (List.replicate n (sentAt t)) = List.replicate n (.push 0 sendmsgText t t) := by
  refine List.filterMap_replicate_of_some ?_
  simp only [sentAt, StreamOp.turn?, eventLine_sendmsg]

theorem key_sendmsg (collection : Collection) : ∃ key₀, ∀ (run : List StreamOp),
    ∀ key ∈ collection.bufferedKeys sendmsgLibrary asciiCasing run, key = key₀ := by
  refine ⟨edgeKeyOf asciiCasing (buildPodIpIndex collection.pods) (buildServiceIpIndex collection.services)
    (recordOfKprobe asciiCasing sendmsgKprobe sendmsgSock 1500), fun run key hkey => ?_⟩
  obtain ⟨record, hrecord, rfl⟩ := List.mem_map.1 hkey
  obtain ⟨entry, -, hentry⟩ := List.mem_filterMap.1 hrecord
  simp only [recordOf] at hentry
  split_ifs at hentry
  obtain ⟨value, hvalue, hparse⟩ := Option.bind_eq_some_iff.1 hentry
  simp only [Collection.externals, sendmsgLibrary] at hvalue hparse
  split_ifs at hvalue
  cases hvalue
  rw [parseTetragonRecord_kprobeJson (by decide) (.inl rfl)] at hparse
  rw [← Option.some.inj hparse]

theorem pruneLocked_zero (lines : List BufferedLine) : pruneLocked 0 lines = lines := by
  have hcutoff : cutoffAt 0 = 0 := Nat.zero_sub _
  rw [pruneLocked, hcutoff, SlidingWindow.prune, List.dropWhile_eq_self_iff]
  intro hpos h
  exact absurd (of_decide_eq_true h) (Nat.not_lt_zero _)

/-- Lines that one stream writes within a millisecond, at the start of the clock. -/
def burst (texts : List String) : List BufferOp := texts.map (fun text => .push 0 text 0 0)

theorem clockMonotone_burst (texts : List String) : ClockMonotone (burst texts ++ [.snapshot 0]) := by
  have hzero : ∀ r ∈ (burst texts ++ [BufferOp.snapshot 0]).flatMap BufferOp.readings, r = 0 := by
    intro r hr
    obtain ⟨op, hop, hr⟩ := List.mem_flatMap.1 hr
    rcases List.mem_append.1 hop with hop | hop
    · obtain ⟨text, -, rfl⟩ := List.mem_map.1 hop
      simpa [BufferOp.readings] using hr
    · rw [List.mem_singleton.1 hop] at hr
      simpa [BufferOp.readings] using hr
  rw [ClockMonotone, List.pairwise_iff_forall_sublist]
  intro a b hsub
  rw [hzero a (hsub.subset List.mem_cons_self)]
  exact Nat.zero_le b

theorem bufferAfter_burst (texts : List String) :
    bufferAfter (burst texts) = (texts.map (fun text => ⟨text, 0⟩)).rtake maxBufferedEvents := by
  have hpushed : pushedIn (burst texts) = texts.map (fun text => ⟨text, 0⟩) := by
    rw [pushedIn, burst, List.filterMap_map]
    exact congrFun List.filterMap_eq_map' texts
  rw [← pruneLocked_zero (bufferAfter _), pruneLocked_bufferAfter (clockMonotone_burst texts), hpushed]
  exact List.filter_eq_self.2 (fun line _ => decide_eq_true (by omega))

theorem lost_burst (hinstant : instant 0 0 = 0) {texts : List String} {text : String}
    (hfull : texts.length = maxBufferedEvents) : LostSince instant (burst (texts ++ [text])) 0 := by
  have hbuffer : bufferAfter (burst texts) = texts.map (fun text => ⟨text, 0⟩) := by
    rw [bufferAfter_burst, List.rtake, List.length_map, hfull, Nat.sub_self, List.drop_zero]
  obtain ⟨first, rest, rfl⟩ := List.exists_cons_of_length_pos (hfull ▸ (by decide : 0 < maxBufferedEvents))
  refine ⟨burst (first :: rest), .push 0 text 0 0, [], ⟨first, 0⟩, 0, by simp [burst], fun t ht => (by cases ht), ?_, ?_⟩
  · rw [hbuffer, evicted?, pruneLocked_zero, List.length_map, if_pos hfull.ge]
    rfl
  · rw [hinstant]
    exact Nat.le_refl 0

/-- One event more than the buffer holds, all of one connection, and then a collection. -/
def floodRun : List StreamOp :=
  List.replicate (maxBufferedEvents + 1) (sentAt 0) ++ [StreamOp.collected (collectedAt 0)]

theorem turns_flood : turns sendmsgLibrary (List.replicate (maxBufferedEvents + 1) (sentAt 0)) =
    burst (List.replicate maxBufferedEvents sendmsgText ++ [sendmsgText]) := by
  rw [turns_sentAt, ← List.replicate_succ', burst, List.map_replicate]

theorem silent_flood (hinstant : instant 0 0 = 0) : ¬ NoSilentLoss sendmsgLibrary asciiCasing instant floodRun := by
  intro h
  have hlost : LostSince instant (turns sendmsgLibrary (List.replicate (maxBufferedEvents + 1) (sentAt 0))) 0 :=
    turns_flood ▸ lost_burst hinstant List.length_replicate
  have hmarked := h _ (collectedAt 0) [] rfl hlost
  rw [marked_iff oneLine_sendmsg] at hmarked
  obtain ⟨key₀, hkey₀⟩ := key_sendmsg (collectedAt 0)
  exact hmarked (Quota.Caps.within_of_forall_eq (by decide) (by decide) (hkey₀ _))

/-- Twenty thousand and one events of one connection within a millisecond: one is discarded, and the inventory of its
one edge is not marked, whether the window is read when the event is discarded or when the collection is taken. -/
theorem flood_is_silent :
    ¬ (∀ run, ClockMonotone (turns sendmsgLibrary run) →
      NoSilentLoss sendmsgLibrary asciiCasing (fun evictedAt _ => evictedAt) run) ∧
    ¬ (∀ run, ClockMonotone (turns sendmsgLibrary run) →
      NoSilentLoss sendmsgLibrary asciiCasing (fun _ takenAt => takenAt) run) := by
  have hclock : ClockMonotone (turns sendmsgLibrary floodRun) := by
    have hturns : turns sendmsgLibrary floodRun =
        turns sendmsgLibrary (List.replicate (maxBufferedEvents + 1) (sentAt 0)) ++ [.snapshot 0] := by
      rw [floodRun, turns, List.filterMap_append]
      rfl
    rw [hturns, turns_flood]
    exact clockMonotone_burst _
  exact ⟨fun h => silent_flood rfl (h floodRun hclock), fun h => silent_flood rfl (h floodRun hclock)⟩

/-! ## A scan -/

def scanSock (port : Nat) : KprobeSock := { sendmsgSock with dport := UInt32.ofNat port }

def scanKprobe (port : Nat) : ProcessKprobe :=
  { functionName := "tcp_close", args := [⟨some (.sockArg (scanSock port))⟩] }

def scannedAt (port : Nat) : StreamOp :=
  .received 0 { event := some (scanKprobe port), time := some ⟨1, 500000000⟩ } 0 0 0

def scanText (port : Nat) : String := String.ofList (List.replicate port 'p')

def scanLibrary : JsonLibrary where
  toString := fun value => (parseTetragonRecord asciiCasing 0 value).map (fun record => scanText record.destinationPort)
  fromStr := fun text => some (kprobeJson (scanKprobe text.length) (scanSock text.length) 1500)

theorem oneLine_scan : scanLibrary.OneLine := by
  intro value text htext
  obtain ⟨record, -, rfl⟩ := Option.map_eq_some_iff.1 htext
  rw [scanText, String.toList_ofList]
  constructor <;> exact fun h => absurd (List.eq_of_mem_replicate h) (by decide)

theorem parse_scan {casing : Casing} (now port : Nat) :
    parseTetragonRecord casing now (kprobeJson (scanKprobe port) (scanSock port) 1500) =
      some (recordOfKprobe casing (scanKprobe port) (scanSock port) 1500) :=
  parseTetragonRecord_kprobeJson (by decide) (.inr rfl)

theorem destinationPort_scan {port : Nat} (h : port < 65536) :
    (recordOfKprobe asciiCasing (scanKprobe port) (scanSock port) 1500).destinationPort = port := by
  change asU16 (UInt32.ofNat port).toNat = port
  rw [UInt32.toNat_ofNat', asU16]
  omega

theorem turn?_scannedAt {port : Nat} (h : port < 65536) :
    (scannedAt port).turn? scanLibrary = some (.push 0 (scanText port) 0 0) := by
  have hwritten : scanLibrary.toString (kprobeJson (scanKprobe port) (scanSock port) 1500) = some (scanText port) := by
    unfold scanLibrary
    dsimp only
    rw [parse_scan, Option.map_some, destinationPort_scan h]
  have hvalue : eventValue 0 { event := some (scanKprobe port), time := some ⟨1, 500000000⟩ } =
      .ok (some (kprobeJson (scanKprobe port) (scanSock port) 1500)) := rfl
  have hline : eventLine scanLibrary 0 { event := some (scanKprobe port), time := some ⟨1, 500000000⟩ } =
      .ok (some (scanText port)) := by
    rw [eventLine, hvalue]
    exact congrArg Except.ok hwritten
  simp only [scannedAt, StreamOp.turn?, hline]

/-- The ports from the first one on, one more than the buffer holds. -/
def scannedPorts : List Nat := List.range' 1 (maxBufferedEvents + 1)

def scanRun : List StreamOp := scannedPorts.map scannedAt ++ [.collected (collectedAt 0)]

theorem turns_scan : turns scanLibrary (scannedPorts.map scannedAt) = burst (scannedPorts.map scanText) := by
  rw [turns, burst, List.filterMap_map, List.map_map]
  refine (List.filterMap_congr (fun port hport => ?_)).trans (congrFun List.filterMap_eq_map' scannedPorts)
  have hlt : port < 65536 := by
    have hbound := (List.mem_range'_1.1 hport).2
    unfold maxBufferedEvents at hbound
    omega
  exact turn?_scannedAt hlt

theorem scanText_lines (env : DependencyExternals) (hread : env.fromStr = scanLibrary.fromStr) {port : Nat}
    (h : 0 < port) (lineIndex : Nat) : recordOf env ((scanText port).toList, lineIndex) =
      some (recordOfKprobe env.casing (scanKprobe port) (scanSock port) 1500) := by
  have htrim : RustStr.trim (scanText port) = scanText port := by
    rw [RustStr.trim_eq_self_iff, scanText, String.toList_ofList]
    refine RustStr.trimChars_eq_self (fun c hc => ?_)
    rw [List.eq_of_mem_replicate hc]
    decide
  have hlength : (scanText port).length = port := by
    rw [← String.length_toList, scanText, String.toList_ofList, List.length_replicate]
  have htext : scanText port ≠ "" := by
    intro hempty
    rw [hempty] at hlength
    exact h.ne hlength
  unfold recordOf lineRecord
  dsimp only
  rw [String.ofList_toList, htrim, if_neg htext, hread]
  change (some (kprobeJson (scanKprobe (scanText port).length) (scanSock (scanText port).length) 1500)).bind _ = _
  rw [hlength, Option.bind_some, parse_scan]

theorem mem_bufferedKeys_scan {port : Nat} (h : port ∈ scannedPorts.tail) :
    port ∈ ((collectedAt 0).bufferedKeys scanLibrary asciiCasing (scannedPorts.map scannedAt)).map (·.destinationPort) := by
  have hbuffered : (collectedAt 0).buffered scanLibrary (scannedPorts.map scannedAt) =
      scannedPorts.tail.map (fun port => ⟨scanText port, 0⟩) := by
    have hover : (scannedPorts.map scanText).length - maxBufferedEvents = 1 := by
      rw [List.length_map, scannedPorts, List.length_range', Nat.add_sub_cancel_left]
    rw [Collection.buffered, turns_scan]
    change pruneLocked 0 _ = _
    rw [pruneLocked_zero, bufferAfter_burst, List.rtake, List.length_map, hover, List.map_map, ← List.map_drop,
      List.drop_one]
    rfl
  have hline : (scanText port).toList ∈ ((collectedAt 0).buffered scanLibrary (scannedPorts.map scannedAt)).map
      (fun line => line.line.toList) := by
    rw [hbuffered, List.map_map]
    exact List.mem_map.2 ⟨port, h, rfl⟩
  obtain ⟨i, hi⟩ := List.mem_iff_getElem?.1 hline
  have hbounds := List.mem_range'_1.1 (List.mem_of_mem_tail h)
  have hpos : 0 < port := hbounds.1
  have hlt : port < 65536 := by
    have hlast := hbounds.2
    unfold maxBufferedEvents at hlast
    omega
  have hrecord := scanText_lines ((collectedAt 0).externals scanLibrary asciiCasing) rfl hpos i
  rw [Collection.bufferedKeys, List.map_map]
  exact List.mem_map.2 ⟨_, List.mem_filterMap.2 ⟨_, List.mk_mem_zipIdx_iff_getElem?.2 hi, hrecord⟩, destinationPort_scan hlt⟩

/-- **The ports that are left are more edges than an inventory has.** -/
theorem not_within_scan : ¬ edgeCaps.Within ((collectedAt 0).bufferedKeys scanLibrary asciiCasing
    (scannedPorts.map scannedAt)) := by
  intro hwithin
  have hnodup : scannedPorts.tail.Nodup := (List.nodup_range' 1 Nat.one_pos).tail
  have hsub : scannedPorts.tail.toFinset ⊆ ((collectedAt 0).bufferedKeys scanLibrary asciiCasing
      (scannedPorts.map scannedAt)).toFinset.image (·.destinationPort) := by
    intro port hport
    rw [List.mem_toFinset] at hport
    obtain ⟨key, hkey, hkeyPort⟩ := List.mem_map.1 (mem_bufferedKeys_scan hport)
    exact Finset.mem_image.2 ⟨key, List.mem_toFinset.2 hkey, hkeyPort⟩
  have hcard := ((Finset.card_le_card hsub).trans Finset.card_image_le).trans hwithin.keys
  rw [List.toFinset_card_of_nodup hnodup, List.length_tail, scannedPorts, List.length_range'] at hcard
  revert hcard
  decide

/-- The ports of a host are tried one after the other, one more than the buffer holds: an event is lost, and the
inventory says that there was more. -/
theorem no_silent_loss_scan :
    LostSince (fun _ takenAt => takenAt) (turns scanLibrary (scannedPorts.map scannedAt)) 0 ∧
      NoSilentLoss scanLibrary asciiCasing (fun _ takenAt => takenAt) scanRun := by
  constructor
  · have hsplit : scannedPorts.map scanText =
        (List.range' 1 maxBufferedEvents).map scanText ++ [scanText (maxBufferedEvents + 1)] := by
      rw [scannedPorts, List.range'_1_concat, List.map_append, Nat.add_comm 1]
      rfl
    rw [turns_scan, hsplit]
    exact lost_burst rfl (by rw [List.length_map, List.length_range'])
  · refine (no_silent_loss_iff scanLibrary oneLine_scan asciiCasing (fun _ takenAt => takenAt) scanRun).2 ?_
    intro before collection after hrun _
    have hlast : before = scannedPorts.map scannedAt ∧ collection = collectedAt 0 := by
      rcases List.append_eq_append_iff.1 hrun with ⟨more, rfl, hmore⟩ | ⟨more, hports, hmore⟩
      · cases more with
        | nil => exact ⟨List.append_nil _, StreamOp.collected.inj (List.cons.inj hmore).1.symm⟩
        | cons op more => exact absurd (congrArg List.length hmore) (by simp)
      · cases more with
        | nil => exact ⟨(hports.trans (List.append_nil _)).symm, StreamOp.collected.inj (List.cons.inj hmore).1⟩
        | cons op more =>
          have hscanned : StreamOp.collected collection ∈ scannedPorts.map scannedAt := by
            rw [hports, (List.cons.inj hmore).1]
            exact List.mem_append_right _ List.mem_cons_self
          obtain ⟨port, -, hport⟩ := List.mem_map.1 hscanned
          cases hport
    rw [hlast.1, hlast.2]
    exact not_within_scan

end Collector
end HubAgent
