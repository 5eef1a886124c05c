import HubAgent.Collector
import HubAgent.Dependencies
import HubAgent.Lib.Fallible
import HubAgent.Lib.Slices
import HubAgent.Lib.StrParts
/-!
# Scraping metrics (`collector.rs`)

The Prometheus text format, read line by line: the first word of a line is a name with labels in braces, the second its
value.  The labels are cut out by the offsets of the first brace and the last, and split at commas.  A slice may panic, so
each reader that slices says so in its type.  `ReadableSample` says which samples are read without a panic.
-/
namespace HubAgent
namespace Collector

open RustStr (SlicePanic slice slice_front find rfind utf8Len trimChars split splitOnce splitWhitespace stripSuffix)

/-! ## Labels -/

/-- What stands for a character behind a backslash. -/
def unescapedChar : Char → Char
  | 'n' => '\n'
  | 't' => '\t'
  | 'r' => '\r'
  | other => other

/-- `unescape_prometheus_string`; a backslash at the end is dropped. -/
def unescapePrometheusString : List Char → List Char
  | [] => []
  | [ch] => if ch = '\\' then [] else [ch]
  | ch :: next :: rest =>
    if ch = '\\' then unescapedChar next :: unescapePrometheusString rest
    else ch :: unescapePrometheusString (next :: rest)

def parsePrometheusLabel (pair : List Char) : Except SlicePanic (Option KV) :=
  match splitOnce '=' pair with
  | none => .ok none
  | some (key, rawValue) =>
    let key := trimChars key
    let value := trimChars rawValue
    if key.isEmpty || value.head? != some '"' || value.getLast? != some '"' then .ok none
    else do
      let quoted ← slice value 1 (utf8Len value - 1)
      return some ⟨String.ofList key, String.ofList (unescapePrometheusString quoted)⟩

def parsePrometheusSample (sampleExpr : List Char) : Except SlicePanic (List Char × List KV) :=
  match find '{' sampleExpr with
  | some start => do
    let name ← slice sampleExpr 0 start
    let stop := (rfind '}' sampleExpr).getD (utf8Len sampleExpr)
    let inner ← slice sampleExpr (start + 1) stop
    let labels ← Fallible.filterMap parsePrometheusLabel (split ',' inner)
    return (name, labels)
  | none => .ok (sampleExpr, [])

def sensitiveWords : List String :=
  ["token", "secret", "password", "passwd", "credential", "api_key", "apikey", "auth", "session"]

def isSensitiveLabelKey (key : String) : Bool :=
  let lower := key.toList.map Char.toLower
  sensitiveWords.any (fun needle => decide (needle.toList <:+: lower))

def sanitizePrometheusLabels (labels : List KV) : List KV := labels.filter (fun label => !isSensitiveLabelKey label.key)

/-! ## Samples -/

/-- What the agent uses of `f64`; `parse` is `str::parse`. -/
structure F64 (F : Type) where
  parse : List Char → Option F
  isFinite : F → Bool
  infinity : F
  negInfinity : F

structure AppMetricSample (F : Type) where
  name : String
  labels : List KV
  value : F

section Scrape

variable {F : Type} (f64 : F64 F)

def parsePrometheusValue (value : List Char) : Option F :=
  let parsed := match String.ofList value with
    | "+Inf" | "Inf" | "+Infinity" | "Infinity" => some f64.infinity
    | "-Inf" | "-Infinity" => some f64.negInfinity
    | "NaN" => none
    | _ => f64.parse value
  parsed.filter f64.isFinite

def metricAllowed (name : List Char) (allowlist : List String) : Bool :=
  allowlist.any (fun entry =>
    match stripSuffix ['*'] entry.toList with
    | some start => !start.isEmpty && start.isPrefixOf name
    | none => name == entry.toList)

/-- The accumulators of `parse_prometheus_text`. -/
structure Scraped (F : Type) where
  samples : List (AppMetricSample F) := []
  matchedCount : Nat := 0
  truncated : Bool := false

variable (allowlist : List String) (maxSamples : Nat)

def scrapeLine (acc : Scraped F) (line : List Char) : Except SlicePanic (Scraped F) :=
  let line := trimChars line
  if line.isEmpty || line.head? == some '#' then .ok acc
  else match splitWhitespace line with
    | sampleExpr :: valueStr :: _ => do
      let (name, labels) ← parsePrometheusSample sampleExpr
      if !metricAllowed name allowlist then return acc
      else match parsePrometheusValue f64 valueStr with
        | none => return acc
        | some value =>
          let matchedCount := saturatingAdd acc.matchedCount 1
          if acc.samples.length < maxSamples then
            let sample := ⟨String.ofList name, sanitizePrometheusLabels labels, value⟩
            return { acc with matchedCount, samples := acc.samples ++ [sample] }
          else return { acc with matchedCount, truncated := true }
    | _ => .ok acc

def parsePrometheusText (body : String) : Except SlicePanic (Scraped F) :=
  (RustStr.lines body.toList).foldlM (scrapeLine f64 allowlist maxSamples) {}

end Scrape

/-! ## Reading a label -/

/-- A label whose value is a quotation mark and no more: the slice between the marks would end before it begins. -/
def LoneQuote (pair : List Char) : Prop :=
  ∃ key rawValue, splitOnce '=' pair = some (key, rawValue) ∧ trimChars key ≠ [] ∧ trimChars rawValue = ['"']

theorem slice_quoted (quoted : List Char) :
    slice ('"' :: (quoted ++ ['"'])) 1 (utf8Len ('"' :: (quoted ++ ['"'])) - 1) = .ok quoted := by
  have hquote : ('"' : Char).utf8Size = 1 := by decide
  refine RustStr.slice_eq_ok_iff.2 ⟨['"'], ['"'], by simp, ?_, ?_⟩
  · simp [hquote]
  · simp only [RustStr.utf8Len_cons, RustStr.utf8Len_append, RustStr.utf8Len_nil, hquote]
    omega

theorem parsePrometheusLabel_quoted {pair key rawValue quoted : List Char}
    (hsplit : splitOnce '=' pair = some (key, rawValue)) (hkey : trimChars key ≠ [])
    (hvalue : trimChars rawValue = '"' :: (quoted ++ ['"'])) : parsePrometheusLabel pair =
      .ok (some ⟨String.ofList (trimChars key), String.ofList (unescapePrometheusString quoted)⟩) := by
  have hlast : ('"' :: (quoted ++ ['"'])).getLast? = some '"' := by
    rw [← List.cons_append, List.getLast?_append]
    rfl
  unfold parsePrometheusLabel
  rw [hsplit]
  dsimp only
  rw [hvalue, hlast, slice_quoted, if_neg (by simpa using hkey)]
  rfl

theorem parsePrometheusLabel_skip {pair : List Char} (h : ∀ key rawValue, splitOnce '=' pair = some (key, rawValue) →
    trimChars key ≠ [] → (trimChars rawValue).head? = some '"' → (trimChars rawValue).getLast? ≠ some '"') :
    parsePrometheusLabel pair = .ok none := by
  unfold parsePrometheusLabel
  split
  · rfl
  · rename_i key rawValue hsplit
    dsimp only
    rw [if_pos]
    by_cases hkey : trimChars key = []
    · simp [hkey]
    · by_cases hhead : (trimChars rawValue).head? = some '"'
      · simp [h key rawValue hsplit hkey hhead]
      · simp [hhead]

theorem parsePrometheusLabel_lone {pair : List Char} (h : LoneQuote pair) :
    parsePrometheusLabel pair = .error ⟨1, 0⟩ := by
  obtain ⟨key, rawValue, hsplit, hkey, hvalue⟩ := h
  unfold parsePrometheusLabel
  rw [hsplit]
  dsimp only
  rw [hvalue, if_neg (by simpa using hkey)]
  rfl

theorem parsePrometheusLabel_ok_iff {pair : List Char} : (∃ r, parsePrometheusLabel pair = .ok r) ↔ ¬ LoneQuote pair := by
  constructor
  · rintro ⟨r, hr⟩ hlone
    rw [parsePrometheusLabel_lone hlone] at hr
    cases hr
  · intro hlone
    by_cases hread : ∃ key rawValue, splitOnce '=' pair = some (key, rawValue) ∧ trimChars key ≠ [] ∧
        (trimChars rawValue).head? = some '"' ∧ (trimChars rawValue).getLast? = some '"'
    · obtain ⟨key, rawValue, hsplit, hkey, hhead, hlast⟩ := hread
      obtain ⟨tail, hvalue⟩ := List.head?_eq_some_iff.1 hhead
      cases tail using List.reverseRecOn with
      | nil => exact absurd ⟨key, rawValue, hsplit, hkey, hvalue⟩ hlone
      | append_singleton quoted c =>
        rw [hvalue, ← List.cons_append, List.getLast?_append] at hlast
        have hc : c = '"' := Option.some.inj hlast
        subst hc
        exact ⟨_, parsePrometheusLabel_quoted hsplit hkey hvalue⟩
    · refine ⟨none, parsePrometheusLabel_skip (fun key rawValue hsplit hkey hhead hlast => hread ?_)⟩
      exact ⟨key, rawValue, hsplit, hkey, hhead, hlast⟩

/-! ## Reading a sample -/

/-- A sample that is read, its braces in order and its labels without a lone quotation mark. -/
structure ReadableSample (expr : List Char) : Prop where
  closed : ∀ name inner after, expr = name ++ '{' :: inner ++ '}' :: after → '{' ∉ name → '}' ∉ after →
    ∀ pair ∈ split ',' inner, ¬ LoneQuote pair
  opened : ∀ name inner, expr = name ++ '{' :: inner → '{' ∉ name → '}' ∉ inner →
    '}' ∉ name ∧ ∀ pair ∈ split ',' inner, ¬ LoneQuote pair

def parsePrometheusLabels (inner : List Char) : Except SlicePanic (List KV) :=
  Fallible.filterMap parsePrometheusLabel (split ',' inner)

theorem slice_inner (name inner after : List Char) :
    slice (name ++ '{' :: inner ++ after) (utf8Len name + 1) (utf8Len (name ++ '{' :: inner)) = .ok inner := by
  have hbrace : ('{' : Char).utf8Size = 1 := by decide
  exact RustStr.slice_eq_ok_iff.2 ⟨name ++ ['{'], after, by simp, by simp [hbrace], by simp⟩

/-- **A name, and labels up to the last brace.** -/
theorem parsePrometheusSample_closed {name after : List Char} (inner : List Char) (hname : '{' ∉ name)
    (hafter : '}' ∉ after) : parsePrometheusSample (name ++ '{' :: inner ++ '}' :: after) =
      (parsePrometheusLabels inner).map (fun labels => (name, labels)) := by
  have hfind : find '{' (name ++ '{' :: inner ++ '}' :: after) = some (utf8Len name) := by
    rw [List.append_assoc]
    exact RustStr.find_append _ hname
  unfold parsePrometheusSample
  rw [hfind, RustStr.rfind_append _ hafter]
  dsimp only
  rw [List.append_assoc, slice_front, ← List.append_assoc]
  show (slice (name ++ '{' :: inner ++ '}' :: after) (utf8Len name + 1) (utf8Len (name ++ '{' :: inner)) >>= _) = _
  rw [slice_inner]
  show (parsePrometheusLabels inner >>= _) = _
  cases parsePrometheusLabels inner <;> rfl

theorem parsePrometheusSample_opened {name inner : List Char} (hname : '{' ∉ name) (hbrace : '}' ∉ name)
    (hinner : '}' ∉ inner) : parsePrometheusSample (name ++ '{' :: inner) =
      (parsePrometheusLabels inner).map (fun labels => (name, labels)) := by
  have hnone : rfind '}' (name ++ '{' :: inner) = none := by
    rw [RustStr.rfind_eq_none_iff]
    simp [hbrace, hinner]
  have hslice := slice_inner name inner []
  rw [List.append_nil] at hslice
  unfold parsePrometheusSample
  rw [RustStr.find_append _ hname, hnone]
  dsimp only [Option.getD_none]
  rw [slice_front]
  show (slice (name ++ '{' :: inner) (utf8Len name + 1) (utf8Len (name ++ '{' :: inner)) >>= _) = _
  rw [hslice]
  show (parsePrometheusLabels inner >>= _) = _
  cases parsePrometheusLabels inner <;> rfl

theorem parsePrometheusSample_crossed {name inner : List Char} (hname : '{' ∉ name) (hbrace : '}' ∈ name)
    (hinner : '}' ∉ inner) : ∃ panic, parsePrometheusSample (name ++ '{' :: inner) = .error panic := by
  obtain ⟨front, back, rfl, hback⟩ := RustStr.exists_last hbrace
  have hlast : rfind '}' (front ++ '}' :: back ++ '{' :: inner) = some (utf8Len front) := by
    rw [List.append_assoc]
    exact RustStr.rfind_append front (b := back ++ '{' :: inner) (by simp [hback, hinner])
  unfold parsePrometheusSample
  rw [RustStr.find_append _ hname, hlast]
  dsimp only [Option.getD_some]
  rw [slice_front]
  refine ⟨⟨utf8Len (front ++ '}' :: back) + 1, utf8Len front⟩, ?_⟩
  show (slice (front ++ '}' :: back ++ '{' :: inner) (utf8Len (front ++ '}' :: back) + 1) (utf8Len front) >>= _) = _
  rw [RustStr.slice_backwards (by simp only [RustStr.utf8Len_append]; omega)]
  rfl

theorem parsePrometheusSample_bare {expr : List Char} (h : '{' ∉ expr) :
    parsePrometheusSample expr = .ok (expr, []) := by
  unfold parsePrometheusSample
  rw [RustStr.find_eq_none_iff.2 h]

/-- **What a sample is made of.** -/
theorem sample_cases (expr : List Char) :
    '{' ∉ expr ∨
    (∃ name inner after, expr = name ++ '{' :: inner ++ '}' :: after ∧ '{' ∉ name ∧ '}' ∉ after) ∨
    ∃ name inner, expr = name ++ '{' :: inner ∧ '{' ∉ name ∧ '}' ∉ inner := by
  by_cases hopen : '{' ∈ expr
  · obtain ⟨name, rest, rfl, hname⟩ := List.eq_append_cons_of_mem hopen
    by_cases hrest : '}' ∈ rest
    · obtain ⟨inner, after, rfl, hafter⟩ := RustStr.exists_last hrest
      exact .inr (.inl ⟨name, inner, after, by simp, hname, hafter⟩)
    · exact .inr (.inr ⟨name, rest, rfl, hname, hrest⟩)
  · exact .inl hopen

theorem parsePrometheusLabels_ok_iff {inner : List Char} :
    (∃ labels, parsePrometheusLabels inner = .ok labels) ↔ ∀ pair ∈ split ',' inner, ¬ LoneQuote pair :=
  Fallible.filterMap_isOk_iff.trans (forall₂_congr fun _ _ => parsePrometheusLabel_ok_iff)

/-- **The samples read without a panic.** -/
theorem parsePrometheusSample_ok_iff {expr : List Char} :
    (∃ r, parsePrometheusSample expr = .ok r) ↔ ReadableSample expr := by
  constructor
  · rintro ⟨r, hr⟩
    constructor
    · rintro name inner after rfl hname hafter
      rw [parsePrometheusSample_closed inner hname hafter] at hr
      exact parsePrometheusLabels_ok_iff.1 (Fallible.map_isOk_iff.1 ⟨r, hr⟩)
    · rintro name inner rfl hname hinner
      by_cases hbrace : '}' ∈ name
      · obtain ⟨panic, hpanic⟩ := parsePrometheusSample_crossed hname hbrace hinner
        rw [hpanic] at hr
        cases hr
      · rw [parsePrometheusSample_opened hname hbrace hinner] at hr
        exact ⟨hbrace, parsePrometheusLabels_ok_iff.1 (Fallible.map_isOk_iff.1 ⟨r, hr⟩)⟩
  · intro h
    rcases sample_cases expr with hbare | ⟨name, inner, after, rfl, hname, hafter⟩ | ⟨name, inner, rfl, hname, hinner⟩
    · exact ⟨_, parsePrometheusSample_bare hbare⟩
    · rw [parsePrometheusSample_closed inner hname hafter]
      exact Fallible.map_isOk_iff.2 (parsePrometheusLabels_ok_iff.2 (h.closed name inner after rfl hname hafter))
    · obtain ⟨hbrace, hpairs⟩ := h.opened name inner rfl hname hinner
      rw [parsePrometheusSample_opened hname hbrace hinner]
      exact Fallible.map_isOk_iff.2 (parsePrometheusLabels_ok_iff.2 hpairs)

end Collector
end HubAgent
