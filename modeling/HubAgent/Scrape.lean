import HubAgent.DependencySpec
import HubAgent.Prometheus
/-!
# What a scrape returns

The loop of `parse_prometheus_text` is a step of its three accumulators (`Scraped.add`) for each line that gives a sample
(`parsePrometheusText_eq`).  So a body is read without a panic exactly when each of its samples is, and then the
accumulators are what `Selected` says of the samples that matched: the first of them, how many there were, and whether
some were left out.
-/
namespace HubAgent
namespace Collector

open RustStr (SlicePanic trimChars splitWhitespace lines)

section Scrape

variable {F : Type} (f64 : F64 F) (allowlist : List String)

/-! ## One line -/

/-- The sample a line gives, if its metric is allowed and it has a value. -/
def lineSample (line : List Char) : Except SlicePanic (Option (AppMetricSample F)) :=
  let line := trimChars line
  if line.isEmpty || line.head? == some '#' then .ok none
  else match splitWhitespace line with
    | sampleExpr :: valueStr :: _ => (parsePrometheusSample sampleExpr).map (fun parsed =>
        if metricAllowed parsed.1 allowlist then
          (parsePrometheusValue f64 valueStr).map (fun value =>
            ⟨String.ofList parsed.1, sanitizePrometheusLabels parsed.2, value⟩)
        else none)
    | _ => .ok none

/-- A line that is scraped: its first word. -/
def SampleOf (line sampleExpr : List Char) : Prop :=
  (trimChars line).head? ≠ some '#' ∧
    ∃ valueStr rest, splitWhitespace (trimChars line) = sampleExpr :: valueStr :: rest

theorem lineSample_ok_iff {line : List Char} : (∃ r, lineSample f64 allowlist line = .ok r) ↔
    ∀ sampleExpr, SampleOf line sampleExpr → ReadableSample sampleExpr := by
  unfold lineSample SampleOf
  dsimp only
  split_ifs with hskip
  · refine ⟨fun _ sampleExpr ⟨hcomment, valueStr, rest, hwords⟩ => ?_, fun _ => ⟨_, rfl⟩⟩
    simp only [Bool.or_eq_true, List.isEmpty_iff, beq_iff_eq, hcomment, or_false] at hskip
    rw [hskip] at hwords
    cases hwords
  · simp only [Bool.or_eq_true, List.isEmpty_iff, beq_iff_eq, not_or] at hskip
    split
    · rename_i expr valueStr rest hwords
      rw [Fallible.map_isOk_iff, parsePrometheusSample_ok_iff]
      constructor
      · rintro h sampleExpr ⟨-, _, _, hsame⟩
        cases hwords.symm.trans hsame
        exact h
      · exact fun h => h expr ⟨hskip.2, valueStr, rest, hwords⟩
    · rename_i hfew
      exact ⟨fun _ sampleExpr ⟨_, valueStr, rest, hwords⟩ => absurd hwords (hfew sampleExpr valueStr rest),
        fun _ => ⟨_, rfl⟩⟩

/-! ## The loop -/

variable (maxSamples : Nat)

def Scraped.add (acc : Scraped F) (sample : AppMetricSample F) : Scraped F :=
  let matchedCount := saturatingAdd acc.matchedCount 1
  if acc.samples.length < maxSamples then { acc with matchedCount, samples := acc.samples ++ [sample] }
  else { acc with matchedCount, truncated := true }

/-- **One turn of the loop.** -/
theorem scrapeLine_eq (acc : Scraped F) (line : List Char) : scrapeLine f64 allowlist maxSamples acc line =
    (lineSample f64 allowlist line).map (fun r => r.toList.foldl (Scraped.add maxSamples) acc) := by
  unfold scrapeLine lineSample
  dsimp only
  by_cases hskip : ((trimChars line).isEmpty || (trimChars line).head? == some '#') = true
  · rw [if_pos hskip, if_pos hskip]
    rfl
  rw [if_neg hskip, if_neg hskip]
  generalize splitWhitespace (trimChars line) = words
  rcases words with _ | ⟨sampleExpr, _ | ⟨valueStr, rest⟩⟩
  · rfl
  · rfl
  dsimp only
  cases parsePrometheusSample sampleExpr with
  | error panic => rfl
  | ok parsed =>
    obtain ⟨name, labels⟩ := parsed
    rw [Except.map, Except.map]
    show (if (!metricAllowed name allowlist) = true then (Except.ok acc : Except SlicePanic (Scraped F)) else _) = _
    cases hallowed : metricAllowed name allowlist with
    | false => rfl
    | true =>
      cases hvalue : parsePrometheusValue f64 valueStr with
      | none => rfl
      | some value =>
        by_cases hroom : acc.samples.length < maxSamples
        · simp [Scraped.add, hroom, pure, Except.pure]
        · simp [Scraped.add, hroom, pure, Except.pure]

/-- **The whole loop**: it adds the samples of the lines, unless one of them panics. -/
theorem parsePrometheusText_eq (body : String) : parsePrometheusText f64 allowlist maxSamples body =
    (Fallible.filterMap (lineSample f64 allowlist) (lines body.toList)).map
      (fun matched => matched.foldl (Scraped.add maxSamples) {}) :=
  Fallible.foldlM_eq (scrapeLine_eq f64 allowlist maxSamples) _ _

/-- **A scrape returns exactly when each of its samples can be sliced.** -/
theorem scrape_returns_iff (body : String) : (∃ r, parsePrometheusText f64 allowlist maxSamples body = .ok r) ↔
    ∀ line ∈ lines body.toList, ∀ sampleExpr, SampleOf line sampleExpr → ReadableSample sampleExpr := by
  rw [parsePrometheusText_eq, Fallible.map_isOk_iff, Fallible.filterMap_isOk_iff]
  exact forall₂_congr fun _ _ => lineSample_ok_iff f64 allowlist

/-! ## The accumulators -/

/-- What the accumulators say of the samples that matched. -/
structure Selected (matched : List (AppMetricSample F)) (acc : Scraped F) : Prop where
  samples : acc.samples = matched.take maxSamples
  matchedCount : acc.matchedCount = min matched.length u64Max
  truncated : acc.truncated = true ↔ maxSamples < matched.length

variable {maxSamples}

theorem Selected.add {matched : List (AppMetricSample F)} {acc : Scraped F} (h : Selected maxSamples matched acc)
    (sample : AppMetricSample F) : Selected maxSamples (matched ++ [sample]) (acc.add maxSamples sample) := by
  have hlength : acc.samples.length = min maxSamples matched.length := by rw [h.samples, List.length_take]
  have hcount : saturatingAdd acc.matchedCount 1 = min (matched ++ [sample]).length u64Max := by
    rw [h.matchedCount, saturatingAdd_min, List.length_append, List.length_singleton]
  unfold Scraped.add
  dsimp only
  split_ifs with hroom
  · have hfits : matched.length < maxSamples := by omega
    refine ⟨?_, hcount, ?_⟩
    · show acc.samples ++ [sample] = _
      rw [h.samples, List.take_of_length_le hfits.le, List.take_of_length_le (by simp; omega)]
    · rw [h.truncated, List.length_append, List.length_singleton]
      omega
  · have hfull : maxSamples ≤ matched.length := by omega
    refine ⟨?_, hcount, ?_⟩
    · show acc.samples = _
      rw [h.samples, List.take_append_of_le_length hfull]
    · rw [List.length_append, List.length_singleton]
      exact ⟨fun _ => Nat.lt_succ_of_le hfull, fun _ => rfl⟩

/-- All of them. -/
theorem selected_foldl (matched : List (AppMetricSample F)) :
    Selected maxSamples matched (matched.foldl (Scraped.add maxSamples) {}) := by
  induction matched using List.reverseRecOn with
  | nil => exact ⟨by simp, rfl, by simp⟩
  | append_singleton matched sample ih =>
    rw [List.foldl_append]
    exact ih.add sample

end Scrape

/-! ### A scrape that panics -/

/-- The whole numbers that an `f64` holds exactly; nothing else is finite. -/
def wholeF64 : F64 (Option Int) where
  parse l := (RustStr.parseInt (-9007199254740992) 9007199254740992 l).map some
  isFinite := Option.isSome
  infinity := none
  negInfinity := none

def commaFirst : String := "up\x7bpath=\",x\"\x7d 1"

theorem commaFirst_panics : parsePrometheusText wholeF64 ["up"] 1 commaFirst = .error ⟨1, 0⟩ := by
  rfl

/-! ## Which samples match -/

/-- An entry of the allowlist is a name, or the beginning of one before a `*`. -/
def EntryAdmits (entry name : String) : Prop :=
  name = entry ∨ ∃ start : List Char, start ≠ [] ∧ entry.toList = start ++ ['*'] ∧ start <+: name.toList

def ContainsIgnoreCase (key word : String) : Prop :=
  ∃ part : String, part.toList <:+: key.toList ∧ RustStr.eqIgnoreAsciiCase part word = true

theorem metricAllowed_admits {name : List Char} {allowlist : List String} (h : metricAllowed name allowlist = true) :
    ∃ entry ∈ allowlist, EntryAdmits entry (String.ofList name) := by
  obtain ⟨entry, hentry, hadmits⟩ := List.any_eq_true.1 h
  refine ⟨entry, hentry, ?_⟩
  split at hadmits
  · rename_i start hstart
    simp only [Bool.and_eq_true, Bool.not_eq_true', List.isEmpty_eq_false_iff, List.isPrefixOf_iff_prefix] at hadmits
    refine .inr ⟨start, hadmits.1, RustStr.stripSuffix_eq_some_iff.1 hstart, ?_⟩
    rw [String.toList_ofList]
    exact hadmits.2
  · left
    rw [eq_of_beq hadmits, String.ofList_toList]

theorem isSensitiveLabelKey_iff {key : String} :
    isSensitiveLabelKey key = true ↔ ∃ word ∈ sensitiveWords, ContainsIgnoreCase key word := by
  have hlower : ∀ word ∈ sensitiveWords, word.toList.map Char.toLower = word.toList := by decide
  unfold isSensitiveLabelKey ContainsIgnoreCase
  rw [List.any_eq_true]
  refine exists_congr fun word => and_congr_right fun hword => ?_
  rw [decide_eq_true_eq, List.infix_map_iff]
  unfold RustStr.eqIgnoreAsciiCase
  constructor
  · rintro ⟨part, hpart, heq⟩
    refine ⟨String.ofList part, by rwa [String.toList_ofList], ?_⟩
    rw [String.toList_ofList, hlower word hword, heq]
    exact beq_self_eq_true _
  · rintro ⟨part, hpart, heq⟩
    exact ⟨part.toList, hpart, ((eq_of_beq heq).trans (hlower word hword)).symm⟩

section Selection

variable {F : Type} (f64 : F64 F) (allowlist : List String) (maxSamples : Nat)

/-- **A line matches**: it is no comment, its first word is a sample of an allowed metric, its second a value. -/
def LineMatches (line : List Char) (sample : AppMetricSample F) : Prop :=
  (trimChars line).head? ≠ some '#' ∧ ∃ sampleExpr valueStr rest name labels value,
    splitWhitespace line = sampleExpr :: valueStr :: rest ∧ parsePrometheusSample sampleExpr = .ok (name, labels) ∧
    metricAllowed name allowlist = true ∧ parsePrometheusValue f64 valueStr = some value ∧
    sample = ⟨String.ofList name, sanitizePrometheusLabels labels, value⟩

theorem lineSample_eq_some_iff {line : List Char} {sample : AppMetricSample F} :
    Fallible.given (lineSample f64 allowlist line) = some sample ↔ LineMatches f64 allowlist line sample := by
  unfold lineSample LineMatches
  rw [← RustStr.splitWhitespace_trimChars line]
  dsimp only
  by_cases hcomment : (trimChars line).head? = some '#'
  · rw [if_pos (by simp [hcomment])]
    exact ⟨fun h => (nomatch h), fun h => absurd hcomment h.1⟩
  by_cases hempty : trimChars line = []
  · rw [if_pos (by simp [hempty]), hempty]
    constructor
    · intro h
      cases h
    · rintro ⟨-, _, _, _, _, _, _, hwords, -⟩
      cases hwords
  rw [if_neg (by simp [hcomment, hempty])]
  generalize splitWhitespace (trimChars line) = words
  constructor
  · intro h
    rcases words with _ | ⟨sampleExpr, _ | ⟨valueStr, rest⟩⟩
    · cases h
    · cases h
    dsimp only at h
    cases hparsed : parsePrometheusSample sampleExpr with
    | error panic =>
      rw [hparsed] at h
      cases h
    | ok parsed =>
      rw [hparsed] at h
      change (if metricAllowed parsed.1 allowlist then _ else none) = some sample at h
      split_ifs at h with hallowed
      obtain ⟨value, hvalue, rfl⟩ := Option.map_eq_some_iff.1 h
      exact ⟨hcomment, sampleExpr, valueStr, rest, parsed.1, parsed.2, value, rfl, hparsed, hallowed, hvalue, rfl⟩
  · rintro ⟨-, sampleExpr, valueStr, rest, name, labels, value, rfl, hparsed, hallowed, hvalue, rfl⟩
    dsimp only
    rw [hparsed]
    show (if metricAllowed name allowlist then _ else none) = _
    rw [if_pos hallowed, hvalue]
    rfl

def matchedSamples (body : String) : List (AppMetricSample F) :=
  (lines body.toList).filterMap (fun line => Fallible.given (lineSample f64 allowlist line))

theorem selected_of_parse {f64 : F64 F} {allowlist : List String} {maxSamples : Nat} {body : String} {r : Scraped F}
    (h : parsePrometheusText f64 allowlist maxSamples body = .ok r) :
    Selected maxSamples (matchedSamples f64 allowlist body) r := by
  rw [parsePrometheusText_eq] at h
  obtain ⟨matched, hlines, rfl⟩ := Fallible.map_eq_ok_iff.1 h
  obtain ⟨-, rfl⟩ := Fallible.filterMap_eq_ok_iff.1 hlines
  exact selected_foldl _

/-- **Sample selection**: the first of the matched samples are returned, all are counted, and truncation is noted; a
returned sample is of an allowed metric and has no label with a sensitive key. -/
theorem sample_selection (body : RustStr.Text) (r : Scraped F)
    (h : parsePrometheusText f64 allowlist maxSamples body.val = .ok r) :
    r.samples = (matchedSamples f64 allowlist body.val).take maxSamples ∧
    r.matchedCount = (matchedSamples f64 allowlist body.val).length ∧
    (r.truncated = true ↔ maxSamples < r.matchedCount) ∧
    (∀ line sample, Fallible.given (lineSample f64 allowlist line) = some sample ↔
      LineMatches f64 allowlist line sample) ∧
    ∀ sample ∈ r.samples, (∃ entry ∈ allowlist, EntryAdmits entry sample.name) ∧
      ∀ label ∈ sample.labels, ∀ word ∈ sensitiveWords, ¬ ContainsIgnoreCase label.key word := by
  have hselected := selected_of_parse h
  have hcount : r.matchedCount = (matchedSamples f64 allowlist body.val).length := by
    have hlines := RustStr.length_lines body.val.toList
    have hsize := RustStr.length_le_utf8ByteSize body.val
    have hfits := body.fits
    have hmatched : (matchedSamples f64 allowlist body.val).length ≤ (lines body.val.toList).length :=
      List.length_filterMap_le _ _
    have hmax : u64Max = 18446744073709551615 := rfl
    rw [hselected.matchedCount]
    omega
  refine ⟨hselected.samples, hcount, ?_, fun line sample => lineSample_eq_some_iff f64 allowlist, fun sample hsample => ?_⟩
  · rw [hcount]
    exact hselected.truncated
  · rw [hselected.samples] at hsample
    obtain ⟨line, -, hline⟩ := List.mem_filterMap.1 (List.mem_of_mem_take hsample)
    obtain ⟨-, _, _, _, name, labels, value, -, -, hallowed, -, rfl⟩ := (lineSample_eq_some_iff f64 allowlist).1 hline
    refine ⟨metricAllowed_admits hallowed, fun label hlabel word hword hcontains => ?_⟩
    have hkept := (List.mem_filter.1 hlabel).2
    rw [isSensitiveLabelKey_iff.2 ⟨word, hword, hcontains⟩] at hkept
    cases hkept

end Selection

def threeLines : RustStr.Text := ⟨"up 1\ndown 2\n# up 3\nup\x7btoken=\"t\",path=\"/\"\x7d 4\n", by decide⟩

theorem sample_selection_threeLines :
    ∃ r, parsePrometheusText wholeF64 ["u*"] 1 threeLines.val = .ok r ∧
      r.samples = (matchedSamples wholeF64 ["u*"] threeLines.val).take 1 ∧ r.matchedCount = 2 ∧ r.truncated = true := by
  have hread : parsePrometheusText wholeF64 ["u*"] 1 threeLines.val =
      .ok ⟨[⟨"up", [], some 1⟩], 2, true⟩ := by rfl
  obtain ⟨hsamples, -⟩ := sample_selection wholeF64 ["u*"] 1 threeLines _ hread
  exact ⟨_, hread, hsamples, rfl, rfl⟩

end Collector
end HubAgent
