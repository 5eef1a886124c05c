import HubAgent.Lib.SlidingWindow
/-!
# The buffer of the event stream (`tetragon.rs`)

Every stream pushes its lines into one buffer, and a collection reads it as one text.  Each push and each reading holds
the lock, so a run is a list of them; a push reads the clock twice, once to prune and once for the line itself.
`event_buffer_exact` says what a reading returns in every run whose clock does not go back.
-/
namespace HubAgent
namespace Tetragon

open SlidingWindow (prune push window InOrder)

structure BufferedLine where
  line : String
  recordedAtMs : Nat
  deriving DecidableEq

def depWindowSeconds : Nat := 60
def maxBufferedEvents : Nat := 20000

def cutoffAt (nowUnixMs : Nat) : Nat := nowUnixMs - depWindowSeconds * 1000

/-- `prune_locked`, when the clock shows `nowUnixMs`. -/
def pruneLocked (nowUnixMs : Nat) (lines : List BufferedLine) : List BufferedLine :=
  prune BufferedLine.recordedAtMs (cutoffAt nowUnixMs) lines

/-- What `connect_and_stream` does with a line while it holds the lock. -/
def pushLine (prunedAt recordedAt : Nat) (line : String) (lines : List BufferedLine) : List BufferedLine :=
  push maxBufferedEvents (pruneLocked prunedAt lines) ⟨line, recordedAt⟩

/-- The text of some lines, each ended. -/
def ndjson (lines : List BufferedLine) : String := String.join (lines.map (fun line => line.line ++ "\n"))

/-- `snapshot_ndjson`: before the streams are started there is no buffer to read. -/
def snapshotNdjson (nowUnixMs : Nat) : Option (List BufferedLine) → String × Option (List BufferedLine)
  | none => ("", none)
  | some lines => (ndjson (pruneLocked nowUnixMs lines), some (pruneLocked nowUnixMs lines))

/-! ## Runs -/

/-- One turn of holding the lock: a push of one of the streams, or a reading. -/
inductive BufferOp where
  | push (stream : Nat) (line : String) (prunedAt recordedAt : Nat)
  | snapshot (takenAt : Nat)

namespace BufferOp

def readings : BufferOp → List Nat
  | push _ _ prunedAt recordedAt => [prunedAt, recordedAt]
  | snapshot takenAt => [takenAt]

def pushed? : BufferOp → Option BufferedLine
  | push _ line _ recordedAt => some ⟨line, recordedAt⟩
  | snapshot _ => none

def apply (lines : List BufferedLine) : BufferOp → List BufferedLine
  | push _ line prunedAt recordedAt => pushLine prunedAt recordedAt line lines
  | snapshot takenAt => ((snapshotNdjson takenAt (some lines)).2).getD []

end BufferOp

def bufferAfter (ops : List BufferOp) : List BufferedLine := ops.foldl BufferOp.apply []

def pushedIn (ops : List BufferOp) : List BufferedLine := ops.filterMap BufferOp.pushed?

def ClockMonotone (ops : List BufferOp) : Prop := (ops.flatMap BufferOp.readings).Pairwise (· ≤ ·)

/-! ## The invariant -/

/-- The lines were pushed in the order of their times, and the buffer is a window of them; no time so far is after
`now`, nor the cutoff after the one of `now`. -/
structure IsWindow (now : Nat) (pushed buffer : List BufferedLine) : Prop where
  order : InOrder BufferedLine.recordedAtMs pushed
  past : ∀ line ∈ pushed, line.recordedAtMs ≤ now
  window : ∃ cutoff ≤ cutoffAt now, buffer = window BufferedLine.recordedAtMs maxBufferedEvents cutoff pushed

variable {now now' : Nat} {pushed buffer : List BufferedLine}

theorem cutoffAt_mono (h : now ≤ now') : cutoffAt now ≤ cutoffAt now' := Nat.sub_le_sub_right h _

theorem IsWindow.mono (h : IsWindow now pushed buffer) (hle : now ≤ now') : IsWindow now' pushed buffer := by
  obtain ⟨cutoff, hcutoff, hbuffer⟩ := h.window
  exact ⟨h.order, fun line hline => (h.past line hline).trans hle, cutoff, hcutoff.trans (cutoffAt_mono hle), hbuffer⟩

theorem IsWindow.pruneLocked (h : IsWindow now pushed buffer) (hle : now ≤ now') :
    pruneLocked now' buffer =
      SlidingWindow.window BufferedLine.recordedAtMs maxBufferedEvents (cutoffAt now') pushed := by
  obtain ⟨cutoff, hcutoff, hbuffer⟩ := h.window
  rw [hbuffer]
  exact SlidingWindow.prune_window h.order (hcutoff.trans (cutoffAt_mono hle))

theorem IsWindow.pushLine (h : IsWindow now pushed buffer) {prunedAt recordedAt : Nat} (hprune : now ≤ prunedAt)
    (hrecord : prunedAt ≤ recordedAt) (line : String) :
    IsWindow recordedAt (pushed ++ [⟨line, recordedAt⟩]) (pushLine prunedAt recordedAt line buffer) := by
  have hpast : ∀ old ∈ pushed, old.recordedAtMs ≤ recordedAt := fun old hold =>
    (h.past old hold).trans (hprune.trans hrecord)
  constructor
  · rw [InOrder, List.pairwise_append]
    refine ⟨h.order, List.pairwise_singleton _ _, fun old hold new hnew => ?_⟩
    rw [List.mem_singleton.1 hnew]
    exact hpast old hold
  · intro old hold
    rcases List.mem_append.1 hold with hold | hnew
    · exact hpast old hold
    · rw [List.mem_singleton.1 hnew]
  · refine ⟨cutoffAt prunedAt, cutoffAt_mono hrecord, ?_⟩
    rw [Tetragon.pushLine, h.pruneLocked hprune]
    refine SlidingWindow.push_window h.order (by decide) ?_
    exact (Nat.sub_le _ _).trans hrecord

/-- **Every turn keeps the window.** -/
theorem IsWindow.apply (h : IsWindow now pushed buffer) {op : BufferOp} (hnow : ∀ r ∈ op.readings, now ≤ r)
    (horder : op.readings.Pairwise (· ≤ ·)) (hlast : ∀ r ∈ op.readings, r ≤ now') :
    IsWindow now' (pushed ++ op.pushed?.toList) (op.apply buffer) := by
  cases op with
  | push stream line prunedAt recordedAt =>
    have hrecord : prunedAt ≤ recordedAt := (List.pairwise_cons.1 horder).1 recordedAt List.mem_cons_self
    exact (h.pushLine (hnow prunedAt List.mem_cons_self) hrecord line).mono
      (hlast recordedAt (List.mem_cons_of_mem _ List.mem_cons_self))
  | snapshot takenAt =>
    have hle := hnow takenAt List.mem_cons_self
    refine IsWindow.mono ?_ (hlast takenAt List.mem_cons_self)
    simp only [BufferOp.pushed?, Option.toList_none, List.append_nil]
    exact ⟨h.order, fun line hline => (h.past line hline).trans hle, _, Nat.le_refl _, h.pruneLocked hle⟩

theorem bufferAfter_concat (ops : List BufferOp) (op : BufferOp) :
    bufferAfter (ops ++ [op]) = op.apply (bufferAfter ops) := by
  rw [bufferAfter, List.foldl_append]
  rfl

theorem pushedIn_concat (ops : List BufferOp) (op : BufferOp) :
    pushedIn (ops ++ [op]) = pushedIn ops ++ op.pushed?.toList := by
  rw [pushedIn, List.filterMap_append]
  cases op <;> rfl

theorem ClockMonotone.prefix {pre post : List BufferOp} (h : ClockMonotone (pre ++ post)) : ClockMonotone pre := by
  rw [ClockMonotone, List.flatMap_append] at h
  exact (List.pairwise_append.1 h).1

/-- **The buffer of every run is a window of what was pushed.** -/
theorem isWindow_bufferAfter {ops : List BufferOp} (h : ClockMonotone ops) {now : Nat}
    (hnow : ∀ r ∈ ops.flatMap BufferOp.readings, r ≤ now) : IsWindow now (pushedIn ops) (bufferAfter ops) := by
  induction ops using List.reverseRecOn generalizing now with
  | nil => exact ⟨List.Pairwise.nil, fun line hline => (by cases hline), 0, Nat.zero_le _, rfl⟩
  | append_singleton ops op ih =>
    have hpairs := h
    rw [ClockMonotone, List.flatMap_append, List.pairwise_append] at hpairs
    rw [List.flatMap_append] at hnow
    simp only [List.flatMap_singleton] at hpairs hnow
    obtain ⟨-, horder, hbefore⟩ := hpairs
    have hlast : ∀ r ∈ op.readings, r ≤ now := fun r hr => hnow r (List.mem_append_right _ hr)
    rw [bufferAfter_concat, pushedIn_concat]
    cases hreadings : op.readings with
    | nil => cases op <;> cases hreadings
    | cons first rest =>
      have hfirst : first ∈ op.readings := by rw [hreadings]; exact List.mem_cons_self
      refine (ih h.prefix (fun r hr => hbefore r hr first hfirst)).apply (fun r hr => ?_) horder hlast
      rw [hreadings] at hr horder
      rcases List.mem_cons.1 hr with rfl | hr
      · exact Nat.le_refl _
      · exact (List.pairwise_cons.1 horder).1 r hr

theorem exists_latest : ∀ readings : List Nat, ∃ now, ∀ r ∈ readings, r ≤ now
  | [] => ⟨0, fun r hr => (by cases hr)⟩
  | first :: rest => by
    obtain ⟨now, hnow⟩ := exists_latest rest
    refine ⟨max first now, fun r hr => ?_⟩
    rcases List.mem_cons.1 hr with rfl | hr
    · exact Nat.le_max_left _ _
    · exact (hnow r hr).trans (Nat.le_max_right _ _)

theorem mem_apply {lines : List BufferedLine} {op : BufferOp} {line : BufferedLine} (h : line ∈ op.apply lines) :
    line ∈ lines ∨ line ∈ op.pushed? := by
  cases op with
  | push stream text prunedAt recordedAt =>
    rcases SlidingWindow.mem_push h with hold | rfl
    · exact .inl (SlidingWindow.prune_sublist.subset hold)
    · exact .inr rfl
  | snapshot takenAt => exact .inl (SlidingWindow.prune_sublist.subset h)

theorem bufferAfter_pushed (ops : List BufferOp) :
    (∀ line ∈ bufferAfter ops, line ∈ pushedIn ops) ∧ (bufferAfter ops).length ≤ maxBufferedEvents := by
  induction ops using List.reverseRecOn with
  | nil => exact ⟨fun line h => h, Nat.zero_le _⟩
  | append_singleton ops op ih =>
    rw [bufferAfter_concat, pushedIn_concat]
    constructor
    · intro line hline
      rcases mem_apply hline with hold | hnew
      · exact List.mem_append_left _ (ih.1 line hold)
      · exact List.mem_append_right _ (Option.mem_toList.2 hnew)
    · cases op with
      | push stream text prunedAt recordedAt =>
        exact SlidingWindow.length_push_le (by decide) (SlidingWindow.prune_sublist.length_le.trans ih.2)
      | snapshot takenAt => exact SlidingWindow.prune_sublist.length_le.trans ih.2

theorem bufferAfter_bounded {ops : List BufferOp} (h : ClockMonotone ops) :
    InOrder BufferedLine.recordedAtMs (bufferAfter ops) ∧ (bufferAfter ops).length ≤ maxBufferedEvents := by
  obtain ⟨now, hnow⟩ := exists_latest (ops.flatMap BufferOp.readings)
  have hwindow := isWindow_bufferAfter h hnow
  obtain ⟨cutoff, -, hbuffer⟩ := hwindow.window
  rw [hbuffer]
  exact ⟨hwindow.order.window, SlidingWindow.length_window_le⟩

theorem pruneLocked_bufferAfter {pre : List BufferOp} {takenAt : Nat} {post : List BufferOp}
    (h : ClockMonotone (pre ++ .snapshot takenAt :: post)) :
    pruneLocked takenAt (bufferAfter pre) = ((pushedIn pre).rtake maxBufferedEvents).filter
      (fun line => decide (takenAt - depWindowSeconds * 1000 ≤ line.recordedAtMs)) := by
  have hpairs := h
  rw [ClockMonotone, List.flatMap_append, List.pairwise_append] at hpairs
  have hnow : ∀ r ∈ pre.flatMap BufferOp.readings, r ≤ takenAt := by
    intro r hr
    refine hpairs.2.2 r hr takenAt ?_
    rw [List.flatMap_cons]
    exact List.mem_append_left _ List.mem_cons_self
  exact (isWindow_bufferAfter h.prefix hnow).pruneLocked (Nat.le_refl _)

/-- **The buffer in every run**: in order of time, bounded, and read as the last events pushed that are inside the
window. -/
theorem event_buffer_exact (ops : List BufferOp) (hclock : ClockMonotone ops) :
    (bufferAfter ops).Pairwise (fun a b => a.recordedAtMs ≤ b.recordedAtMs) ∧
    (bufferAfter ops).length ≤ maxBufferedEvents ∧
    ∀ pre takenAt post, ops = pre ++ .snapshot takenAt :: post →
      (snapshotNdjson takenAt (some (bufferAfter pre))).1 =
        ndjson (((pushedIn pre).rtake maxBufferedEvents).filter
          (fun line => decide (takenAt - depWindowSeconds * 1000 ≤ line.recordedAtMs))) := by
  refine ⟨(bufferAfter_bounded hclock).1, (bufferAfter_bounded hclock).2, ?_⟩
  rintro pre takenAt post rfl
  exact congrArg ndjson (pruneLocked_bufferAfter hclock)

/-- Two streams push in turn; a minute later only the second line is inside the window. -/
theorem event_buffer_exact_two_streams :
    (snapshotNdjson 61500 (some (bufferAfter [.push 0 "a" 1000 1000, .push 1 "b" 2000 2001]))).1 =
      ndjson [⟨"b", 2001⟩] :=
  (event_buffer_exact [.push 0 "a" 1000 1000, .push 1 "b" 2000 2001, .snapshot 61500]
    (by unfold ClockMonotone; decide)).2.2
    [.push 0 "a" 1000 1000, .push 1 "b" 2000 2001] 61500 [] rfl

end Tetragon
end HubAgent
