import HubAgent.Lib.Ranked
import HubAgent.Inventory
/-!
# The caps of the snapshot (`collector.rs`, `SPEC.md` Inventory Collection Behavior and operational maturity)

A snapshot shows at most 500 events and at most 500 CronJobs, each the first of a sorted list.  Events are sorted by
rank, then by time with the newest first, then by namespace and name; CronJobs by namespace and name.  Which ones are
shown does not depend on the order of the listing (`event_selection`, `first_scheduled_jobs`).  The flag that says that
CronJobs were left out is never set, so the report is right up to the cap alone (`capReported_iff`).
-/
namespace HubAgent
namespace Collector

open Ranked (sortBy)

/-! ## What the API server lists -/

/-- A time: its whole seconds and its text (`Timestamp::as_second`, `to_string`). -/
structure Time where
  asSecond : Int
  text : String
  deriving DecidableEq

structure ObjectReference where
  kind : Option String := none
  name : Option String := none
  namespace_ : Option String := none
  uid : Option String := none

structure Event where
  metadata : ObjectMeta := {}
  type_ : Option String := none
  reason : Option String := none
  message : Option String := none
  count : Option Int := none
  eventTime : Option Time := none
  firstTimestamp : Option Time := none
  lastTimestamp : Option Time := none
  reportingComponent : Option String := none
  reportingInstance : Option String := none
  involvedObject : ObjectReference := {}

structure CronJobSpec where
  schedule : String
  suspend : Option Bool := none

structure CronJobStatus where
  lastScheduleTime : Option Time := none
  lastSuccessfulTime : Option Time := none

structure CronJob where
  metadata : ObjectMeta := {}
  spec : Option CronJobSpec := none
  status : Option CronJobStatus := none

/-! ## What the snapshot shows -/

structure ScheduledJobInfo where
  namespace_ : String
  name : String
  schedule : String
  suspend : Bool
  lastScheduleTime : Option String
  lastSuccessfulTime : Option String
  deriving DecidableEq

/-- The part of it that shows the CronJobs. -/
structure OperationalMaturityInventory where
  scheduledJobs : List ScheduledJobInfo
  truncatedJobs : Bool
  deriving DecidableEq

/-! ## Sorting -/

/-- By namespace and then by name. -/
def snapshotCmp (a b : ObjectMeta) : Ordering :=
  (compare (a.namespace_.getD "") (b.namespace_.getD "")).then (compare (a.name.getD "") (b.name.getD ""))

def eventTypeRank (kind : Option String) : Nat := if kind = some "Warning" then 1 else 0

def eventSortTsSeconds (event : Event) : Int :=
  ((event.eventTime.map Time.asSecond).or
    ((event.lastTimestamp.map Time.asSecond).or (event.firstTimestamp.map Time.asSecond))).getD 0

def eventCmp (a b : Event) : Ordering :=
  (compare (eventTypeRank b.type_) (eventTypeRank a.type_)).then
    ((compare (eventSortTsSeconds b) (eventSortTsSeconds a)).then (snapshotCmp a.metadata b.metadata))

def sortEventsForSnapshot (events : List Event) : List Event := sortBy eventCmp events

def sortCronjobsForSnapshot (cronjobs : List CronJob) : List CronJob :=
  sortBy (fun a b => snapshotCmp a.metadata b.metadata) cronjobs

/-! ## Mapping -/

def maxEvents : Nat := 500
def maxEventMessageChars : Nat := 500
def maxScheduledJobs : Nat := 500

def truncateChars (input : String) (maxChars : Nat) : String :=
  if input.length ≤ maxChars then input
  else String.ofList (input.toList.take (maxChars - 3) ++ if 3 ≤ maxChars then "...".toList else [])

def mapEvent (event : Event) : EventInfo where
  namespace_ := event.metadata.namespace_.getD ""
  name := event.metadata.name.getD ""
  type_ := event.type_
  reason := event.reason
  message := event.message.map (fun m => truncateChars m maxEventMessageChars)
  count := event.count
  firstTimestamp := event.firstTimestamp.map Time.text
  lastTimestamp := (event.eventTime.map Time.text).or (event.lastTimestamp.map Time.text)
  reportingController := event.reportingComponent
  reportingInstance := event.reportingInstance
  involvedObject :=
    { kind := event.involvedObject.kind
      name := event.involvedObject.name
      namespace_ := event.involvedObject.namespace_
      uid := event.involvedObject.uid }

def mapScheduledJob (cj : CronJob) : ScheduledJobInfo where
  namespace_ := cj.metadata.namespace_.getD ""
  name := cj.metadata.name.getD ""
  schedule := (cj.spec.map (·.schedule)).getD ""
  suspend := (cj.spec.bind (·.suspend)).getD false
  lastScheduleTime := (cj.status.bind (·.lastScheduleTime)).map Time.text
  lastSuccessfulTime := (cj.status.bind (·.lastSuccessfulTime)).map Time.text

/-- The events of `collect`. -/
def collectEvents (events : List Event) : List EventInfo :=
  ((sortEventsForSnapshot events).take maxEvents).map mapEvent

/-- The CronJobs of `collect`. -/
def collectScheduledJobs (cronjobs : List CronJob) : OperationalMaturityInventory where
  scheduledJobs := ((sortCronjobsForSnapshot cronjobs).take maxScheduledJobs).map mapScheduledJob
  truncatedJobs := false

/-! ## The comparators -/

/-- What the comparators read of the metadata of an object. -/
def snapshotName (metadata : ObjectMeta) : String × String := (metadata.namespace_.getD "", metadata.name.getD "")

instance : Std.TransCmp snapshotCmp :=
  inferInstanceAs (Std.TransCmp (compareLex (compareOn (fun m : ObjectMeta => m.namespace_.getD ""))
    (compareOn (fun m : ObjectMeta => m.name.getD ""))))

instance {α : Type} (f : α → ObjectMeta) : Std.TransCmp (fun a b => snapshotCmp (f a) (f b)) :=
  inferInstanceAs (Std.TransCmp (compareLex (compareOn (fun x => (f x).namespace_.getD ""))
    (compareOn (fun x => (f x).name.getD ""))))

instance : Std.TransCmp eventCmp :=
  have : Std.TransCmp (fun a b : Event => compare (eventTypeRank b.type_) (eventTypeRank a.type_)) :=
    inferInstanceAs (Std.TransCmp (fun a b => compareOn (fun e : Event => eventTypeRank e.type_) b a))
  have : Std.TransCmp (fun a b : Event => compare (eventSortTsSeconds b) (eventSortTsSeconds a)) :=
    inferInstanceAs (Std.TransCmp (fun a b => compareOn eventSortTsSeconds b a))
  inferInstanceAs (Std.TransCmp (compareLex (fun a b : Event => compare (eventTypeRank b.type_) (eventTypeRank a.type_))
    (compareLex (fun a b => compare (eventSortTsSeconds b) (eventSortTsSeconds a))
      (fun a b => snapshotCmp a.metadata b.metadata))))

theorem snapshotName_eq_of_snapshotCmp {a b : ObjectMeta} (h : snapshotCmp a b = .eq) : snapshotName a = snapshotName b := by
  rw [snapshotCmp, Ordering.then_eq_eq, compare_eq_iff_eq, compare_eq_iff_eq] at h
  exact Prod.ext h.1 h.2

theorem snapshotName_eq_of_eventCmp {a b : Event} (h : eventCmp a b = .eq) :
    snapshotName a.metadata = snapshotName b.metadata := by
  rw [eventCmp, Ordering.then_eq_eq, Ordering.then_eq_eq] at h
  exact snapshotName_eq_of_snapshotCmp h.2.2

theorem eventCmp_isLE {a b : Event} (h : (eventCmp a b).isLE) : eventTypeRank b.type_ ≤ eventTypeRank a.type_ ∧
    (eventTypeRank b.type_ = eventTypeRank a.type_ → eventSortTsSeconds b ≤ eventSortTsSeconds a) := by
  rw [eventCmp, Ordering.isLE_then_iff_and, Std.isLE_compare, compare_lt_iff_lt] at h
  refine ⟨h.1, fun hrank => ?_⟩
  rw [hrank] at h
  have hlater := Ordering.isLE_left_of_isLE_then (h.2.resolve_left (lt_irrefl _))
  rwa [Std.isLE_compare] at hlater

/-! ## Events -/

theorem length_truncateChars (input : String) {maxChars : Nat} (h : 3 ≤ maxChars) :
    (truncateChars input maxChars).length ≤ maxChars := by
  rw [truncateChars]
  split
  · assumption
  · rw [String.length_ofList, List.length_append]
    have htake := List.length_take_le (maxChars - 3) input.toList
    have hdots : "...".toList.length = 3 := rfl
    omega

theorem separates_events {events : List Event} (distinct : (events.map (fun e => snapshotName e.metadata)).Nodup) :
    Ranked.Separates eventCmp events :=
  Ranked.separates_of_nodup eventCmp (fun _ _ => snapshotName_eq_of_eventCmp) distinct

/-- **The events are chosen without regard to the order of the listing, and warnings and newer ones first**: of all that
are listed, none that is not among the first 500 comes before one that is. -/
theorem event_selection (events : List Event) (distinct : (events.map (fun e => snapshotName e.metadata)).Nodup) :
    (∀ other : List Event, other.Perm events → collectEvents other = collectEvents events) ∧
      (sortEventsForSnapshot events).Perm events ∧
      (∀ kept ∈ (sortEventsForSnapshot events).take 500,
        ∀ dropped ∈ events, dropped ∉ (sortEventsForSnapshot events).take 500 →
          (dropped.type_ = some "Warning" → kept.type_ = some "Warning") ∧
            (eventTypeRank kept.type_ = eventTypeRank dropped.type_ →
              eventSortTsSeconds dropped ≤ eventSortTsSeconds kept)) ∧
      ∀ event : Event, ∀ message, (mapEvent event).message = some message → message.length ≤ 500 := by
  have hperm : (sortEventsForSnapshot events).Perm events := Ranked.perm_sortBy eventCmp events
  refine ⟨?_, hperm, ?_, ?_⟩
  · intro other hother
    rw [collectEvents, collectEvents, sortEventsForSnapshot, sortEventsForSnapshot,
      Ranked.sortBy_eq_of_perm (separates_events distinct) hother]
  · intro kept hkept dropped hlisted hnot
    have hdropped : dropped ∈ (sortEventsForSnapshot events).drop 500 := by
      have hsorted := hperm.mem_iff.2 hlisted
      rw [← List.take_append_drop 500 (sortEventsForSnapshot events)] at hsorted
      exact (List.mem_append.1 hsorted).resolve_left hnot
    obtain ⟨hrank, hnewer⟩ := eventCmp_isLE (Ranked.isLE_of_kept_of_dropped 500 hkept hdropped)
    refine ⟨fun hwarning => ?_, fun h => hnewer h.symm⟩
    by_contra hkeptType
    rw [eventTypeRank, eventTypeRank, if_pos hwarning, if_neg hkeptType] at hrank
    omega
  · intro event message hmessage
    obtain ⟨m, -, rfl⟩ := Option.map_eq_some_iff.1 hmessage
    exact length_truncateChars m (by decide)

/-- A warning without any time, and a newer event that is none, listed in either order. -/
theorem event_selection_two :
    collectEvents
      [{ metadata := { namespace_ := some "prod", name := some "a" }, eventTime := some ⟨60, "1970-01-01T00:01:00Z"⟩ },
        { metadata := { namespace_ := some "prod", name := some "b" }, type_ := some "Warning" }] =
    collectEvents
      [{ metadata := { namespace_ := some "prod", name := some "b" }, type_ := some "Warning" },
        { metadata := { namespace_ := some "prod", name := some "a" }, eventTime := some ⟨60, "1970-01-01T00:01:00Z"⟩ }] :=
  (event_selection _ (by decide)).1 _ (List.Perm.swap _ _ [])

/-! ## CronJobs -/

/-- A right report: the first CronJobs in the order of their names, however they are listed, and whether there are
more. -/
structure CapReported (cronjobs : List CronJob) : Prop where
  first : ∀ sorted : List CronJob, sorted.Perm cronjobs →
    sorted.Pairwise (fun a b => (snapshotCmp a.metadata b.metadata).isLE = true) →
      (collectScheduledJobs cronjobs).scheduledJobs = (sorted.take 500).map mapScheduledJob
  unordered : ∀ other : List CronJob, other.Perm cronjobs →
    (collectScheduledJobs other).scheduledJobs = (collectScheduledJobs cronjobs).scheduledJobs
  flagged : (collectScheduledJobs cronjobs).truncatedJobs = true ↔ 500 < cronjobs.length

theorem separates_cronjobs {cronjobs : List CronJob} (distinct : (cronjobs.map (fun c => snapshotName c.metadata)).Nodup) :
    Ranked.Separates (fun a b : CronJob => snapshotCmp a.metadata b.metadata) cronjobs :=
  Ranked.separates_of_nodup _ (fun _ _ => snapshotName_eq_of_snapshotCmp) distinct

/-- **The CronJobs themselves are chosen rightly**, whatever their number. -/
theorem first_scheduled_jobs {cronjobs sorted : List CronJob}
    (distinct : (cronjobs.map (fun c => snapshotName c.metadata)).Nodup) (hperm : sorted.Perm cronjobs)
    (hsorted : sorted.Pairwise (fun a b => (snapshotCmp a.metadata b.metadata).isLE = true)) :
    (collectScheduledJobs cronjobs).scheduledJobs = (sorted.take 500).map mapScheduledJob := by
  rw [collectScheduledJobs, sortCronjobsForSnapshot,
    Ranked.sortBy_eq_of_pairwise (separates_cronjobs distinct) hperm hsorted]
  rfl

/-- **The report is right exactly up to the cap**: past it nothing says that CronJobs were left out. -/
theorem capReported_iff (cronjobs : List CronJob)
    (distinct : (cronjobs.map (fun c => snapshotName c.metadata)).Nodup) :
    CapReported cronjobs ↔ cronjobs.length ≤ 500 := by
  constructor
  · intro h
    by_contra hmore
    exact Bool.false_ne_true (h.flagged.2 (not_le.1 hmore))
  · intro hlength
    refine ⟨fun sorted => first_scheduled_jobs distinct, ?_, ?_⟩
    · intro other hperm
      rw [collectScheduledJobs, collectScheduledJobs, sortCronjobsForSnapshot, sortCronjobsForSnapshot,
        Ranked.sortBy_eq_of_perm (separates_cronjobs distinct) hperm]
    · exact ⟨fun h => absurd h Bool.false_ne_true, fun h => absurd h (not_lt.2 hlength)⟩

/-- CronJobs named `a`, `aa`, `aaa` and so on. -/
def numberedCronjobs (n : Nat) : List CronJob :=
  (List.range n).map (fun i =>
    { metadata := { namespace_ := some "batch", name := some (String.ofList (List.replicate (i + 1) 'a')) } })

theorem nodup_numberedCronjobs (n : Nat) : ((numberedCronjobs n).map (fun c => snapshotName c.metadata)).Nodup := by
  rw [numberedCronjobs, List.map_map]
  refine List.nodup_range.map ?_
  intro i j h
  have hname := congrArg (fun p : String × String => p.2.length) h
  simpa [snapshotName] using hname

theorem capReported_iff_three : CapReported (numberedCronjobs 3) ↔ (numberedCronjobs 3).length ≤ 500 :=
  capReported_iff _ (nodup_numberedCronjobs 3)

/-- One CronJob more than the report shows, and the flag is not set. -/
theorem cap_unreported : ¬ ∀ cronjobs : List CronJob,
    (cronjobs.map (fun c => snapshotName c.metadata)).Nodup → CapReported cronjobs := by
  intro h
  have hflag := (h (numberedCronjobs 501) (nodup_numberedCronjobs 501)).flagged.2
  rw [numberedCronjobs, List.length_map, List.length_range] at hflag
  exact Bool.false_ne_true (hflag (by decide))

end Collector
end HubAgent
