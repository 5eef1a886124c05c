import HubAgent.Environment
import HubAgent.Lib.Authority
import HubAgent.Lib.Gather
import HubAgent.Lib.Search
import HubAgent.Scrape
/-!
# The app metrics of a pass (`collect_app_metrics`)

Services of the allowlisted namespaces opt in by annotations, which also name the path, the port and the scheme.  Each
is scraped by a task of its own; the tasks end in any order, and one that panics is only logged.  What the pass reports
is decided by each service's own answer (`app_metrics_by_service`), and whatever the annotations say, the request goes
to the service's own name inside the cluster (`scrape_stays_with_its_service`).
-/
namespace HubAgent
namespace Collector

open RustStr (SlicePanic)
open Ranked (sortBy)
open Search (First)

/-! ## Discovery -/

/-- A `Service` with the numbers of `spec.ports`. -/
structure MeteredService extends Service where
  ports : Option (List Int) := none

structure AppMetricsTargetSpec where
  namespace_ : String
  service : String
  port : Nat
  path : String
  source : String
  scheme : String
  deriving DecidableEq

def appMetricsDefaultPath : String := "/metrics"

def appMetricsMaxResponseBytes : Nat := 1048576

def prometheusScrapeKey : String := "prometheus.io/scrape"

def sentinellaScrapeKey : String := "sentinella.io/app-metrics"

def annotationIsTrue (annotations : StrMap String) (keys : List String) : Bool :=
  keys.any (fun key => match annotations.lookup key with
    | some value => RustStr.eqIgnoreAsciiCase (RustStr.trim value) "true" || RustStr.trim value == "1"
    | none => false)

/-- The first of the annotations that is there and says something. -/
def annotationString (annotations : StrMap String) (keys : List String) : Option String :=
  keys.findSome? (fun key => ((annotations.lookup key).map RustStr.trim).filter (· ≠ ""))

def unsafePathParts : List String := ["..", "://", "?", "#", "\n", "\r"]

def sanitizeAppMetricsPath (path : String) : Option String :=
  if path.toList.head? ≠ some '/' ∨ unsafePathParts.any (fun part => decide (part.toList <:+: path.toList)) = true then
    none
  else some path

def sanitizeAppMetricsScheme (scheme : Option String) : Option String :=
  let scheme := scheme.getD "http"
  if scheme = "http" ∨ scheme = "https" then some scheme else none

/-- `value.parse::<u16>()`. -/
def parsePort (value : String) : Option Nat := (RustStr.parseUnsigned 65535 value.toList).toOption

/-- The port that is annotated, or the first of the spec, cast to `u16`. -/
def appMetricsPort (annotations : StrMap String) (service : MeteredService) : Option Nat :=
  ((annotationString annotations ["prometheus.io/port", "sentinella.io/app-metrics-port"]).bind parsePort).or
    ((service.ports.bind List.head?).map (fun port => (port % 65536).toNat))

def discoverAppMetricsTarget (service : MeteredService) : Option AppMetricsTargetSpec := do
  let annotations ← service.metadata.annotations
  if !annotationIsTrue annotations [prometheusScrapeKey, sentinellaScrapeKey] then none
  else do
    let path ← sanitizeAppMetricsPath ((annotationString annotations
      ["prometheus.io/path", "sentinella.io/app-metrics-path"]).getD appMetricsDefaultPath)
    let scheme ← sanitizeAppMetricsScheme (annotationString annotations
      ["prometheus.io/scheme", "sentinella.io/app-metrics-scheme"])
    let port ← appMetricsPort annotations service
    return {
      namespace_ := service.metadata.namespace_.getD ""
      service := service.metadata.name.getD ""
      port
      path
      source := if (annotations.lookup sentinellaScrapeKey).isSome then "sentinella-annotation"
        else "prometheus-annotation"
      scheme }

def AppMetricsTargetSpec.authority (t : AppMetricsTargetSpec) : List Char :=
  t.service.toList ++ '.' :: (t.namespace_.toList ++ '.' :: ("svc.cluster.local:".toList ++ t.port.repr.toList))

def AppMetricsTargetSpec.url (t : AppMetricsTargetSpec) : List Char :=
  t.scheme.toList ++ ("://".toList ++ (t.authority ++ t.path.toList))

def appMetricsTargets (cfg : AgentConfig) (services : List MeteredService) : List AppMetricsTargetSpec :=
  if cfg.appMetricsEnabled = false ∨ cfg.appMetricsDiscoveryEnabled = false ∨ cfg.appMetricsNamespaces = [] then []
  else services.filterMap (fun service =>
    if service.metadata.namespace_.getD "" ∈ cfg.appMetricsNamespaces then discoverAppMetricsTarget service else none)

def serviceName (service : MeteredService) : String × String :=
  (service.metadata.namespace_.getD "", service.metadata.name.getD "")

def AppMetricsTargetSpec.serviceName (t : AppMetricsTargetSpec) : String × String := (t.namespace_, t.service)

/-- What an annotation says, if it is there and not blank. -/
def Says (annotations : StrMap String) (key value : String) : Prop :=
  (∃ text, annotations.lookup key = some text ∧ RustStr.trim text = value) ∧ value ≠ ""

/-- How a service is to be scraped, by the first of its annotations that says something. -/
structure AnnotatedAs (annotations : StrMap String) (service : MeteredService) (t : AppMetricsTargetSpec) : Prop where
  optedIn : annotationIsTrue annotations [prometheusScrapeKey, sentinellaScrapeKey] = true
  path : ∃ said, First (Says annotations) ["prometheus.io/path", "sentinella.io/app-metrics-path"] said ∧
    t.path = said.getD "/metrics"
  scheme : ∃ said, First (Says annotations) ["prometheus.io/scheme", "sentinella.io/app-metrics-scheme"] said ∧
    t.scheme = said.getD "http"
  port : ∃ said, First (Says annotations) ["prometheus.io/port", "sentinella.io/app-metrics-port"] said ∧
    ((said.bind parsePort).or ((service.ports.bind List.head?).map (fun port => (port % 65536).toNat))) = some t.port

structure Discovered (service : MeteredService) (t : AppMetricsTargetSpec) : Prop where
  name : t.serviceName = serviceName service
  annotated : ∃ annotations, service.metadata.annotations = some annotations ∧ AnnotatedAs annotations service t
  path : t.path.toList.head? = some '/' ∧ ∀ part ∈ unsafePathParts, ¬ part.toList <:+: t.path.toList
  scheme : t.scheme = "http" ∨ t.scheme = "https"
  port : t.port < 65536

theorem annotation_eq_some_iff (annotations : StrMap String) (key value : String) :
    ((annotations.lookup key).map RustStr.trim).filter (· ≠ "") = some value ↔ Says annotations key value := by
  rw [Option.filter_eq_some_iff, Option.map_eq_some_iff, decide_eq_true_iff]
  rfl

theorem first_annotationString (annotations : StrMap String) (keys : List String) :
    First (Says annotations) keys (annotationString annotations keys) :=
  Search.first_findSome? (annotation_eq_some_iff annotations) keys

theorem sanitizeAppMetricsPath_eq_some {path path' : String} (h : sanitizeAppMetricsPath path = some path') :
    path' = path ∧ path'.toList.head? = some '/' ∧ ∀ part ∈ unsafePathParts, ¬ part.toList <:+: path'.toList := by
  unfold sanitizeAppMetricsPath at h
  by_cases hbad : path.toList.head? ≠ some '/' ∨
      unsafePathParts.any (fun part => decide (part.toList <:+: path.toList)) = true
  · rw [if_pos hbad] at h
    cases h
  · rw [if_neg hbad] at h
    cases h
    rw [not_or, not_not] at hbad
    refine ⟨rfl, hbad.1, fun part hpart hin => hbad.2 ?_⟩
    exact List.any_eq_true.2 ⟨part, hpart, decide_eq_true hin⟩

theorem sanitizeAppMetricsScheme_eq_some {scheme : Option String} {scheme' : String}
    (h : sanitizeAppMetricsScheme scheme = some scheme') :
    scheme' = scheme.getD "http" ∧ (scheme' = "http" ∨ scheme' = "https") := by
  unfold sanitizeAppMetricsScheme at h
  dsimp only at h
  split_ifs at h with hknown
  cases h
  exact ⟨rfl, hknown⟩

theorem appMetricsPort_lt {annotations : StrMap String} {service : MeteredService} {port : Nat}
    (h : appMetricsPort annotations service = some port) : port < 65536 := by
  unfold appMetricsPort at h
  rcases Option.or_eq_some_iff.1 h with hannotated | ⟨-, hspec⟩
  · obtain ⟨value, -, hread⟩ := Option.bind_eq_some_iff.1 hannotated
    unfold parsePort at hread
    cases hparse : RustStr.parseUnsigned 65535 value.toList with
    | error text =>
      rw [hparse] at hread
      cases hread
    | ok n =>
      rw [hparse] at hread
      cases hread
      exact Nat.lt_succ_of_le (RustStr.parseUnsigned_ok hparse).1
  · obtain ⟨n, -, rfl⟩ := Option.map_eq_some_iff.1 hspec
    omega

theorem discovered_of_discover {service : MeteredService} {t : AppMetricsTargetSpec}
    (h : discoverAppMetricsTarget service = some t) : Discovered service t := by
  unfold discoverAppMetricsTarget at h
  obtain ⟨annotations, hannotations, h⟩ := Option.bind_eq_some_iff.1 h
  cases hopt : annotationIsTrue annotations [prometheusScrapeKey, sentinellaScrapeKey] with
  | false =>
    rw [hopt] at h
    cases h
  | true =>
    rw [hopt] at h
    obtain ⟨path, hpath, h⟩ := Option.bind_eq_some_iff.1 h
    obtain ⟨scheme, hscheme, h⟩ := Option.bind_eq_some_iff.1 h
    obtain ⟨port, hport, h⟩ := Option.bind_eq_some_iff.1 h
    cases h
    obtain ⟨hsaid, hchecked⟩ := sanitizeAppMetricsPath_eq_some hpath
    obtain ⟨hnamed, hknown⟩ := sanitizeAppMetricsScheme_eq_some hscheme
    refine ⟨rfl, ⟨annotations, hannotations, hopt, ?_, ?_, ?_⟩, hchecked, hknown, appMetricsPort_lt hport⟩
    · exact ⟨_, first_annotationString annotations _, hsaid⟩
    · exact ⟨_, first_annotationString annotations _, hnamed⟩
    · exact ⟨_, first_annotationString annotations _, hport⟩

theorem mem_appMetricsTargets {cfg : AgentConfig} {services : List MeteredService} {t : AppMetricsTargetSpec}
    (h : t ∈ appMetricsTargets cfg services) : t.namespace_ ∈ cfg.appMetricsNamespaces ∧
      ∃ service ∈ services, Discovered service t := by
  unfold appMetricsTargets at h
  split_ifs at h with hoff
  · cases h
  · obtain ⟨service, hservice, hfound⟩ := List.mem_filterMap.1 h
    split_ifs at hfound with hallowed
    have hdiscovered := discovered_of_discover hfound
    refine ⟨?_, service, hservice, hdiscovered⟩
    rwa [show t.namespace_ = service.metadata.namespace_.getD "" from congrArg Prod.fst hdiscovered.name]

/-! ## Scraping -/

/-- What the request of a task meets with; `elapsedMs` is what its clock shows at the end. -/
inductive ScrapeAnswer where
  | failed (text : String)
  | response (status : Nat) (contentLength : Option Nat) (body : Except String String) (elapsedMs : Nat)

structure AppMetricsTarget (F : Type) where
  namespace_ : String
  service : String
  port : Nat
  path : String
  source : String
  status : String
  summary : String
  metricsCount : Nat
  truncated : Bool
  samples : List (AppMetricSample F)

section Scrape

variable {F : Type} (f64 : F64 F) (allowlist : List String) (maxSamples : Nat)

/-- The target as it is reported when nothing was read. -/
def unreadTarget (t : AppMetricsTargetSpec) (summary : String) : AppMetricsTarget F where
  namespace_ := t.namespace_
  service := t.service
  port := t.port
  path := t.path
  source := t.source
  status := "warning"
  summary
  metricsCount := 0
  truncated := false
  samples := []

def scrapedTarget (t : AppMetricsTargetSpec) (httpStatus elapsedMs : Nat) (r : Scraped F) : AppMetricsTarget F :=
  let url := String.ofList t.url
  let success := decide (200 ≤ httpStatus ∧ httpStatus ≤ 299)
  let summary :=
    if success then
      if r.matchedCount = 0 then s!"scraped {url} but found no allowlisted metrics"
      else if r.truncated then s!"scraped {url} with {r.matchedCount} matched samples (truncated)"
      else s!"scraped {url} with {r.matchedCount} matched samples in {elapsedMs} ms"
    else s!"scrape returned HTTP {httpStatus} from {url}"
  { (unreadTarget t summary : AppMetricsTarget F) with
    status := if success ∧ 0 < r.matchedCount ∧ r.truncated = false then "ok" else "warning"
    metricsCount := r.matchedCount
    truncated := r.truncated
    samples := r.samples }

/-- `scrape_app_metrics_target`; it panics where the reader of the text does. -/
def scrapeAppMetricsTarget (t : AppMetricsTargetSpec) : ScrapeAnswer → Except SlicePanic (AppMetricsTarget F)
  | .failed text =>
    let url := String.ofList t.url
    .ok (unreadTarget t s!"failed to scrape {url}: {text}")
  | .response httpStatus contentLength body elapsedMs =>
    let url := String.ofList t.url
    if contentLength.any (fun n => decide (appMetricsMaxResponseBytes < n)) then
      .ok (unreadTarget t s!"app metrics response from {url} exceeded {appMetricsMaxResponseBytes} bytes")
    else match body with
      | .error text => .ok (unreadTarget t s!"failed to read app metrics response from {url}: {text}")
      | .ok body => (parsePrometheusText f64 allowlist maxSamples body).map (scrapedTarget t httpStatus elapsedMs)

def appMetricsCmp (a b : AppMetricsTarget F) : Ordering :=
  (compare a.namespace_ b.namespace_).then ((compare a.service b.service).then
    ((compare a.port b.port).then (compare a.path b.path)))

/-- `collect_app_metrics`, its tasks ending in the order of `finished`. -/
def collectAppMetrics (answers : AppMetricsTargetSpec → ScrapeAnswer) (finished : List AppMetricsTargetSpec) :
    List (AppMetricsTarget F) :=
  sortBy appMetricsCmp
    (finished.filterMap (fun t => (scrapeAppMetricsTarget f64 allowlist maxSamples t (answers t)).toOption))

/-! ## What a pass reports -/

/-- The samples that match in the text of an answer, where a text was read. -/
def ScrapeAnswer.matched : ScrapeAnswer → List (AppMetricSample F)
  | .failed _ => []
  | .response _ contentLength body _ =>
    if contentLength.any (fun n => decide (appMetricsMaxResponseBytes < n)) then []
    else match body with
      | .error _ => []
      | .ok body => matchedSamples f64 allowlist body

def ScrapeAnswer.isSuccess : ScrapeAnswer → Bool
  | .failed _ => false
  | .response httpStatus _ _ _ => decide (200 ≤ httpStatus ∧ httpStatus ≤ 299)

/-- The report of a target is about its service and its own answer: the first of the samples that match, how many there
are, whether some were left out; and `ok` is said of a success that was read whole and shows something. -/
structure ReportOf (t : AppMetricsTargetSpec) (answer : ScrapeAnswer) (r : AppMetricsTarget F) : Prop where
  service : (r.namespace_, r.service) = (t.namespace_, t.service)
  place : (r.port, r.path) = (t.port, t.path)
  samples : r.samples = (answer.matched f64 allowlist).take maxSamples
  counted : r.metricsCount = min (answer.matched f64 allowlist).length u64Max
  cut : r.truncated = true ↔ maxSamples < (answer.matched f64 allowlist).length
  status : r.status = "ok" ∨ r.status = "warning"
  ok : r.status = "ok" ↔ answer.isSuccess = true ∧ r.truncated = false ∧ r.samples ≠ []

theorem reportOf_unread (t : AppMetricsTargetSpec) {answer : ScrapeAnswer} (h : answer.matched f64 allowlist = [])
    (summary : String) : ReportOf f64 allowlist maxSamples t answer (unreadTarget t summary) where
  service := rfl
  place := rfl
  samples := by
    rw [h]
    exact List.take_nil.symm
  counted := by
    rw [h]
    rfl
  cut := by
    rw [h]
    exact iff_of_false (by simp [unreadTarget]) (Nat.not_lt_zero maxSamples)
  status := Or.inr rfl
  ok := iff_of_false (by simp [unreadTarget]) (fun hok => hok.2.2 rfl)

theorem reportOf_scraped (t : AppMetricsTargetSpec) (httpStatus elapsedMs : Nat) {contentLength : Option Nat}
    {body : String} {r : Scraped F}
    (hsize : ¬ contentLength.any (fun n => decide (appMetricsMaxResponseBytes < n)) = true)
    (h : Selected maxSamples (matchedSamples f64 allowlist body) r) :
    ReportOf f64 allowlist maxSamples t (.response httpStatus contentLength (.ok body) elapsedMs)
      (scrapedTarget t httpStatus elapsedMs r) := by
  have hmatched : ScrapeAnswer.matched f64 allowlist (.response httpStatus contentLength (.ok body) elapsedMs) =
      matchedSamples f64 allowlist body := if_neg hsize
  have hsome : r.truncated = false → (0 < r.matchedCount ↔ r.samples ≠ []) := by
    intro hwhole
    have hfits : (matchedSamples f64 allowlist body).length ≤ maxSamples := by
      by_contra hmore
      rw [h.truncated.2 (not_le.1 hmore)] at hwhole
      cases hwhole
    have hmax : 0 < u64Max := by decide
    rw [h.matchedCount, h.samples, List.take_of_length_le hfits, ← List.length_pos_iff]
    omega
  constructor
  · rfl
  · rfl
  · rw [hmatched]
    exact h.samples
  · rw [hmatched]
    exact h.matchedCount
  · rw [hmatched]
    exact h.truncated
  · unfold scrapedTarget
    dsimp only
    split_ifs <;> simp
  · have hok : (scrapedTarget t httpStatus elapsedMs r : AppMetricsTarget F).status = "ok" ↔
        decide (200 ≤ httpStatus ∧ httpStatus ≤ 299) = true ∧ 0 < r.matchedCount ∧ r.truncated = false := by
      unfold scrapedTarget
      dsimp only
      split_ifs with hgood
      · exact iff_of_true rfl hgood
      · exact iff_of_false (by decide) hgood
    rw [hok]
    constructor
    · rintro ⟨hsuccess, hcount, hwhole⟩
      exact ⟨hsuccess, hwhole, (hsome hwhole).1 hcount⟩
    · rintro ⟨hsuccess, hwhole, hshown⟩
      exact ⟨hsuccess, (hsome hwhole).2 hshown, hwhole⟩

/-- What a task reports, if it does not panic. -/
theorem reportOf_scrape {t : AppMetricsTargetSpec} {answer : ScrapeAnswer} {r : AppMetricsTarget F}
    (h : scrapeAppMetricsTarget f64 allowlist maxSamples t answer = .ok r) :
    ReportOf f64 allowlist maxSamples t answer r := by
  cases answer with
  | failed text =>
    cases h
    exact reportOf_unread f64 allowlist maxSamples t rfl _
  | response httpStatus contentLength body elapsedMs =>
    unfold scrapeAppMetricsTarget at h
    dsimp only at h
    split at h
    · rename_i hsize
      cases h
      have hnone : ScrapeAnswer.matched f64 allowlist (.response httpStatus contentLength body elapsedMs) = [] :=
        if_pos hsize
      exact reportOf_unread f64 allowlist maxSamples t hnone _
    · rename_i hsize
      cases body with
      | error text =>
        cases h
        have hnone : ScrapeAnswer.matched f64 allowlist (.response httpStatus contentLength (.error text) elapsedMs) = [] :=
          if_neg hsize
        exact reportOf_unread f64 allowlist maxSamples t hnone _
      | ok body =>
        obtain ⟨read, hread, rfl⟩ := Fallible.map_eq_ok_iff.1 h
        exact reportOf_scraped f64 allowlist maxSamples t httpStatus elapsedMs hsize (selected_of_parse hread)

instance : Std.TransCmp (@appMetricsCmp F) :=
  inferInstanceAs (Std.TransCmp (compareLex (compareOn AppMetricsTarget.namespace_)
    (compareLex (compareOn AppMetricsTarget.service)
      (compareLex (compareOn AppMetricsTarget.port) (compareOn AppMetricsTarget.path)))))

theorem appMetrics_keyed (answers : AppMetricsTargetSpec → ScrapeAnswer) :
    Gather.Keyed AppMetricsTargetSpec.serviceName (fun r : AppMetricsTarget F => (r.namespace_, r.service))
      (fun t => (scrapeAppMetricsTarget f64 allowlist maxSamples t (answers t)).toOption) appMetricsCmp where
  carried t r h := by
    cases hscrape : scrapeAppMetricsTarget f64 allowlist maxSamples t (answers t) with
    | error panic =>
      rw [hscrape] at h
      cases h
    | ok r' =>
      rw [hscrape] at h
      cases h
      exact (reportOf_scrape f64 allowlist maxSamples hscrape).service
  decided r r' h := by
    rw [appMetricsCmp, Ordering.then_eq_eq, Ordering.then_eq_eq, compare_eq_iff_eq, compare_eq_iff_eq] at h
    exact Prod.ext h.1 h.2.1

theorem appMetricsTargets_nodup {cfg : AgentConfig} {services : List MeteredService}
    (h : (services.map serviceName).Nodup) :
    ((appMetricsTargets cfg services).map AppMetricsTargetSpec.serviceName).Nodup := by
  unfold appMetricsTargets
  split_ifs
  · exact List.nodup_nil
  · refine h.sublist (Gather.keys_sublist (fun service t hfound => ?_) services)
    split_ifs at hfound
    exact (discovered_of_discover hfound).name

/-- **Each service is reported by its own answer.**  Services are told apart by their names, as the API server has it.
Then what a pass reports does not depend on the order in which its scrapes end.  Under the name of a service that is
scraped stands the report of its own answer; a task that panics leaves its own service out and no other.  And whatever is
reported was scraped: it shows as many of the samples that match in its answer as the configuration allows, `truncated`
says exactly that there are more, and `ok` exactly that the answer is a success with samples that are all shown. -/
theorem app_metrics_by_service (cfg : AgentConfig) (services : List MeteredService)
    (hnamed : (services.map serviceName).Nodup) (answers : AppMetricsTargetSpec → ScrapeAnswer)
    {finished : List AppMetricsTargetSpec} (hends : finished.Perm (appMetricsTargets cfg services)) :
    let scrape := fun t => scrapeAppMetricsTarget f64 cfg.appMetricsAllowlist cfg.appMetricsMaxSamples t (answers t)
    let reported := collectAppMetrics f64 cfg.appMetricsAllowlist cfg.appMetricsMaxSamples answers
    reported finished = reported (appMetricsTargets cfg services) ∧
      (∀ t ∈ appMetricsTargets cfg services,
        (reported finished).filter (fun r => (r.namespace_, r.service) = t.serviceName) = (scrape t).toOption.toList) ∧
      ∀ r ∈ reported finished, ∃ t ∈ appMetricsTargets cfg services, scrape t = .ok r ∧
        ReportOf f64 cfg.appMetricsAllowlist cfg.appMetricsMaxSamples t (answers t) r := by
  have hkeyed := appMetrics_keyed f64 cfg.appMetricsAllowlist cfg.appMetricsMaxSamples answers
  have hnodup : ((appMetricsTargets cfg services).map AppMetricsTargetSpec.serviceName).Nodup :=
    appMetricsTargets_nodup hnamed
  have horder : collectAppMetrics f64 cfg.appMetricsAllowlist cfg.appMetricsMaxSamples answers finished =
      collectAppMetrics f64 cfg.appMetricsAllowlist cfg.appMetricsMaxSamples answers (appMetricsTargets cfg services) :=
    hkeyed.forget hnodup hends
  refine ⟨horder, fun t ht => ?_, fun r hr => ?_⟩
  · rw [horder]
    exact hkeyed.entry hnodup ht
  · obtain ⟨t, ht, hscrape⟩ := List.mem_filterMap.1 ((Ranked.mem_sortBy _).1 hr)
    refine ⟨t, hends.mem_iff.1 ht, ?_⟩
    cases hanswer : scrapeAppMetricsTarget f64 cfg.appMetricsAllowlist cfg.appMetricsMaxSamples t (answers t) with
    | error panic =>
      rw [hanswer] at hscrape
      cases hscrape
    | ok r' =>
      rw [hanswer] at hscrape
      cases hscrape
      exact ⟨hanswer, reportOf_scrape f64 _ _ hanswer⟩

end Scrape

def meteredConfig : AgentConfig :=
  configFrom ⟨fun _ => none, fun _ => none⟩
    ((AList.singleton "APP_METRICS_ENABLED" "true").insert "APP_METRICS_NAMESPACES" "shop") "https://hub" "c"

def optedIn (name : String) : MeteredService where
  metadata :=
    { name := some name
      namespace_ := some "shop"
      annotations := some (AList.singleton prometheusScrapeKey "true") }
  ports := some [8080]

/-- Two services, one of which the reader panics at. -/
theorem app_metrics_by_service_shop :
    let services := [optedIn "web", optedIn "odd"]
    let targets := appMetricsTargets meteredConfig services
    let reported := collectAppMetrics wholeF64 meteredConfig.appMetricsAllowlist meteredConfig.appMetricsMaxSamples
      (fun t => .response 200 none (.ok (if t.service = "odd" then commaFirst else "up 1\n")) 3)
    targets.length = 2 ∧ reported targets.reverse = reported targets :=
  ⟨by decide, (app_metrics_by_service wholeF64 meteredConfig [optedIn "web", optedIn "odd"] (by decide) _
    (List.reverse_perm _)).1⟩

/-! ## Where the requests go -/

/-- The letters of a name in the cluster's DNS. -/
def DnsLabel (name : String) : Prop := ∀ c ∈ name.toList, c.isLower = true ∨ c.isDigit = true ∨ c = '-'

instance (name : String) : Decidable (DnsLabel name) :=
  decidable_of_iff (name.toList.all (fun c => c.isLower || c.isDigit || c == '-') = true) (by
    simp only [DnsLabel, List.all_eq_true, Bool.or_eq_true, beq_iff_eq, or_assoc])

/-- What ends the authority of a URL; clients read a backslash there as a slash. -/
def authorityEnds : List Char := ['/', '?', '#', '\\']

/-- A URL as a client takes it apart: its scheme, its authority, and the rest. -/
def splitUrl (url : List Char) : Option (List Char × List Char × List Char) :=
  (RustStr.splitOnceStr "://".toList url).map (fun p =>
    (p.1, p.2.takeWhile (fun c => decide (c ∉ authorityEnds)), p.2.dropWhile (fun c => decide (c ∉ authorityEnds))))

/-- What hosts and ports inside the cluster are written with. -/
def HostChar (c : Char) : Prop := c.isLower = true ∨ c.isDigit = true ∨ c ∈ ['-', '.', ':']

theorem HostChar.notMem {c : Char} (h : HostChar c) : c ∉ '@' :: authorityEnds := by
  intro hmem
  simp only [authorityEnds, List.mem_cons, List.not_mem_nil, or_false] at hmem
  rcases hmem with rfl | rfl | rfl | rfl | rfl <;> exact absurd h (by unfold HostChar; decide)

theorem DnsLabel.hostChar {name : String} (h : DnsLabel name) {c : Char} (hc : c ∈ name.toList) : HostChar c := by
  rcases h c hc with hlower | hdigit | rfl
  · exact Or.inl hlower
  · exact Or.inr (Or.inl hdigit)
  · exact Or.inr (Or.inr (by decide))

theorem DnsLabel.dot_notMem {name : String} (h : DnsLabel name) : '.' ∉ name.toList := by
  intro hdot
  exact absurd (h '.' hdot) (by decide)

variable {t t' : AppMetricsTargetSpec}

theorem hostChar_of_mem_authority (hservice : DnsLabel t.service) (hnamespace : DnsLabel t.namespace_) {c : Char}
    (hc : c ∈ t.authority) : HostChar c := by
  have hsuffix : "svc.cluster.local:".toList.all (fun c => c.isLower || c == '.' || c == ':') = true := by decide
  have hdot : HostChar '.' := Or.inr (Or.inr (by decide))
  unfold AppMetricsTargetSpec.authority at hc
  rcases List.mem_append.1 hc with hname | hc
  · exact hservice.hostChar hname
  rcases List.mem_cons.1 hc with rfl | hc
  · exact hdot
  rcases List.mem_append.1 hc with hname | hc
  · exact hnamespace.hostChar hname
  rcases List.mem_cons.1 hc with rfl | hc
  · exact hdot
  rcases List.mem_append.1 hc with hlocal | hport
  · have hchar := List.all_eq_true.1 hsuffix c hlocal
    simp only [Bool.or_eq_true, beq_iff_eq] at hchar
    rcases hchar with (hlower | rfl) | rfl
    · exact Or.inl hlower
    · exact hdot
    · exact Or.inr (Or.inr (by decide))
  · exact Or.inr (Or.inl (Authority.isDigit_of_mem_repr hport))

/-- The scheme ends at the first `://`. -/
theorem splitOnceStr_scheme {scheme : String} (h : scheme = "http" ∨ scheme = "https") (rest : List Char) :
    RustStr.splitOnceStr "://".toList (scheme.toList ++ ("://".toList ++ rest)) = some (scheme.toList, rest) := by
  rcases h with rfl | rfl <;> rfl

theorem splitUrl_url (hservice : DnsLabel t.service) (hnamespace : DnsLabel t.namespace_)
    (hscheme : t.scheme = "http" ∨ t.scheme = "https") (hpath : t.path.toList.head? = some '/') :
    splitUrl t.url = some (t.scheme.toList, t.authority, t.path.toList) := by
  obtain ⟨rest, hrest⟩ := List.head?_eq_some_iff.1 hpath
  have hhost : ∀ c ∈ t.authority, decide (c ∉ authorityEnds) = true := fun c hc => by
    have hnot := (hostChar_of_mem_authority hservice hnamespace hc).notMem
    rw [List.mem_cons, not_or] at hnot
    exact decide_eq_true hnot.2
  have hslash : decide ('/' ∉ authorityEnds) = false := by decide
  rw [splitUrl, AppMetricsTargetSpec.url, splitOnceStr_scheme hscheme, Option.map_some,
    List.takeWhile_append_of_pos hhost, List.dropWhile_append_of_pos hhost, hrest, List.takeWhile_cons_of_neg,
    List.dropWhile_cons_of_neg, List.append_nil]
  · simp [hslash]
  · simp [hslash]

theorem authority_injective (hservice : DnsLabel t.service) (hnamespace : DnsLabel t.namespace_)
    (hservice' : DnsLabel t'.service) (hnamespace' : DnsLabel t'.namespace_) (h : t.authority = t'.authority) :
    t.serviceName = t'.serviceName ∧ t.port = t'.port := by
  have hfirst := RustStr.splitOnce_append (t.namespace_.toList ++ '.' :: ("svc.cluster.local:".toList ++ t.port.repr.toList))
    hservice.dot_notMem
  rw [AppMetricsTargetSpec.authority, AppMetricsTargetSpec.authority] at h
  rw [h, RustStr.splitOnce_append _ hservice'.dot_notMem] at hfirst
  obtain ⟨hname, hrest⟩ := Prod.mk.inj (Option.some.inj hfirst)
  have hsecond := RustStr.splitOnce_append ("svc.cluster.local:".toList ++ t.port.repr.toList) hnamespace.dot_notMem
  rw [← hrest, RustStr.splitOnce_append _ hnamespace'.dot_notMem] at hsecond
  obtain ⟨hspace, hport⟩ := Prod.mk.inj (Option.some.inj hsecond)
  refine ⟨Prod.ext (String.toList_inj.1 hspace.symm) (String.toList_inj.1 hname.symm), ?_⟩
  exact Authority.repr_injective (List.append_cancel_left hport.symm)

/-- **Whatever its annotations say, a service is scraped at itself.**  Names of services and namespaces are DNS labels.
Then a request is made only for a service that opted in and lies in a namespace of the allowlist; the authority of its URL
is the service's own name inside the cluster and a port, with no user before it; the path is the one that the service's
annotations say, or `/metrics`, as it was checked and up to its end; and no two services are asked at one authority. -/
theorem scrape_stays_with_its_service (cfg : AgentConfig) (services : List MeteredService)
    (hnames : ∀ service ∈ services, DnsLabel (serviceName service).1 ∧ DnsLabel (serviceName service).2) :
    ∀ t ∈ appMetricsTargets cfg services,
      (t.namespace_ ∈ cfg.appMetricsNamespaces ∧ ∃ service ∈ services, Discovered service t) ∧
        (splitUrl t.url = some (t.scheme.toList, t.authority, t.path.toList) ∧ '@' ∉ t.authority) ∧
        ∀ t' ∈ appMetricsTargets cfg services, t'.authority = t.authority →
          t'.serviceName = t.serviceName ∧ t'.port = t.port := by
  have hlabels : ∀ t ∈ appMetricsTargets cfg services, DnsLabel t.service ∧ DnsLabel t.namespace_ := fun t ht => by
    obtain ⟨-, service, hservice, hdiscovered⟩ := mem_appMetricsTargets ht
    have hlabels := hnames service hservice
    rw [← hdiscovered.name] at hlabels
    exact ⟨hlabels.2, hlabels.1⟩
  intro t ht
  obtain ⟨hallowed, service, hservice, hdiscovered⟩ := mem_appMetricsTargets ht
  obtain ⟨hname, hnamespace⟩ := hlabels t ht
  refine ⟨⟨hallowed, service, hservice, hdiscovered⟩,
    ⟨splitUrl_url hname hnamespace hdiscovered.scheme hdiscovered.path.1, fun hat => ?_⟩, fun t' ht' hsame => ?_⟩
  · exact (hostChar_of_mem_authority hname hnamespace hat).notMem List.mem_cons_self
  · exact authority_injective (hlabels t' ht').1 (hlabels t' ht').2 hname hnamespace hsame

theorem scrape_stays_with_its_service_shop :
    (appMetricsTargets meteredConfig [optedIn "web"]).length = 1 ∧ ∀ t ∈ appMetricsTargets meteredConfig [optedIn "web"],
      t.namespace_ ∈ meteredConfig.appMetricsNamespaces ∧
        splitUrl t.url = some (t.scheme.toList, t.authority, t.path.toList) :=
  ⟨by decide, fun t ht =>
    have hstays := scrape_stays_with_its_service meteredConfig [optedIn "web"] (by decide) t ht
    ⟨hstays.1.1, hstays.2.1.1⟩⟩

end Collector
end HubAgent
