import HubAgent.Scrape
/-!
# Reading what was rendered

Samples are written in the Prometheus text format, one on a line, the backslashes, quotation marks and line breaks of a
label value escaped, and scraped again.  The scrape splits a line at white space and the labels at commas before it reads
a quotation mark, so it is the values of the labels that decide (`Undone`).
-/
namespace HubAgent
namespace Collector

open RustStr (SlicePanic isWhitespace trimChars splitWhitespace split splitOnce lines)

/-! ## The text format -/

def escapedChar (c : Char) : List Char :=
  if c = '\\' then ['\\', '\\'] else if c = '"' then ['\\', '"'] else if c = '\n' then ['\\', 'n'] else [c]

def escapeLabelValue (value : List Char) : List Char := value.flatMap escapedChar

def renderLabel (label : KV) : List Char :=
  label.key.toList ++ '=' :: '"' :: (escapeLabelValue label.value.toList ++ ['"'])

def renderLabels (labels : List KV) : List Char := [','].intercalate (labels.map renderLabel)

/-- A name with its labels; one without labels may be written without braces. -/
structure Series where
  name : String
  labels : List KV
  bare : Bool := false

def renderSeries (s : Series) : List Char :=
  if s.labels = [] ∧ s.bare = true then s.name.toList
  else s.name.toList ++ '{' :: renderLabels s.labels ++ '}' :: []

/-- A sample as it is written: its value is a token of text. -/
structure Exposed (F : Type) where
  series : Series
  token : List Char
  timestamp : Option (List Char) := none
  value : F

section Render

variable {F : Type}

def renderSample (e : Exposed F) : List Char :=
  renderSeries e.series ++ ' ' :: (e.token ++ (e.timestamp.map (fun t => ' ' :: t)).getD [])

def render (es : List (Exposed F)) : String := String.ofList (es.flatMap (fun e => renderSample e ++ ['\n']))

/-- What is to be read: the labels whose key is not sensitive, as they were before they were escaped. -/
def Exposed.sample (e : Exposed F) : AppMetricSample F :=
  ⟨e.series.name, sanitizePrometheusLabels e.series.labels, e.value⟩

/-! ## Well-formed samples -/

/-- The characters of the names of metrics and labels. -/
def isNameChar (c : Char) : Bool := c.isAlphanum || c == '_' || c == ':'

def IsName (s : String) : Prop := s.toList ≠ [] ∧ ∀ c ∈ s.toList, isNameChar c = true

structure Series.WellNamed (s : Series) : Prop where
  name : IsName s.name
  keys : ∀ label ∈ s.labels, IsName label.key

def IsWord (l : List Char) : Prop := l ≠ [] ∧ ∀ c ∈ l, isWhitespace c = false

/-- The token is one word and reads as the value; a timestamp is on the line. -/
structure Exposed.WellFormed (f64 : F64 F) (e : Exposed F) : Prop where
  series : e.series.WellNamed
  token : IsWord e.token
  value : parsePrometheusValue f64 e.token = some e.value
  timestamp : ∀ t, e.timestamp = some t → '\n' ∉ t

/-- **A scrape that undoes the rendering**, whatever allowlist admits the names and whatever the number of samples that
is enough. -/
def Undone (f64 : F64 F) (es : List (Exposed F)) : Prop :=
  ∀ allowlist maxSamples, (∀ e ∈ es, metricAllowed e.series.name.toList allowlist = true) → es.length ≤ maxSamples →
    ∃ r, parsePrometheusText f64 allowlist maxSamples (render es) = .ok r ∧ r.samples = es.map Exposed.sample

/-! ## Escaping -/

theorem unescape_escapedChar (c : Char) (rest : List Char) :
    unescapePrometheusString (escapedChar c ++ rest) = c :: unescapePrometheusString rest := by
  unfold escapedChar
  split_ifs with hslash hquote hbreak
  · rw [hslash]
    rfl
  · rw [hquote]
    rfl
  · rw [hbreak]
    rfl
  · cases rest with
    | nil => simp [unescapePrometheusString, hslash]
    | cons next rest => simp [unescapePrometheusString, hslash]

/-- **What was escaped is read back**, with what follows it. -/
theorem unescape_escape (value rest : List Char) :
    unescapePrometheusString (escapeLabelValue value ++ rest) = value ++ unescapePrometheusString rest := by
  induction value with
  | nil => rfl
  | cons c value ih =>
    rw [escapeLabelValue, List.flatMap_cons, List.append_assoc, unescape_escapedChar, ← escapeLabelValue, ih,
      List.cons_append]

theorem lineBreak_not_mem_escape (value : List Char) : '\n' ∉ escapeLabelValue value := by
  intro h
  obtain ⟨c, -, hc⟩ := List.mem_flatMap.1 h
  unfold escapedChar at hc
  split_ifs at hc with hslash hquote hbreak <;> simp at hc
  exact hbreak hc.symm

theorem mem_escapedChar {c x : Char} (h : x ∈ escapedChar c) : x = c ∨ x = '\\' ∨ x = 'n' := by
  unfold escapedChar at h
  split_ifs at h with hslash hquote hbreak <;> simp at h <;> grind

theorem mem_escape {x : Char} (hslash : x ≠ '\\') (hn : x ≠ 'n') {value : List Char} :
    x ∈ escapeLabelValue value → x ∈ value := by
  intro h
  obtain ⟨c, hc, hx⟩ := List.mem_flatMap.1 h
  rcases mem_escapedChar hx with rfl | rfl | rfl
  · exact hc
  · exact absurd rfl hslash
  · exact absurd rfl hn

theorem split_escape (value : List Char) : split ',' (escapeLabelValue value) = (split ',' value).map escapeLabelValue := by
  refine RustStr.split_flatMap rfl (fun x hx hmem => ?_) value
  rcases mem_escapedChar hmem with h | h | h
  · exact hx h.symm
  · cases h
  · cases h

theorem head?_escape (value : List Char) : (escapeLabelValue value).head? ≠ some '"' := by
  cases value with
  | nil => simp [escapeLabelValue]
  | cons c value =>
    rw [escapeLabelValue, List.flatMap_cons]
    unfold escapedChar
    split_ifs with hslash hquote hbreak
    · simp
    · simp
    · simp
    · simpa using hquote

theorem getLast?_escape {value : List Char} (h : value.getLast? ≠ some '"') :
    (escapeLabelValue value).getLast? ≠ some '"' := by
  cases value using List.reverseRecOn with
  | nil => simp [escapeLabelValue]
  | append_singleton value c =>
    have hc : c ≠ '"' := by simpa using h
    rw [escapeLabelValue, List.flatMap_append, List.flatMap_singleton]
    unfold escapedChar
    split_ifs <;> simp [hc]

end Render

/-! ## Names -/

theorem isWhitespace_of_isNameChar {c : Char} (h : isNameChar c = true) : isWhitespace c = false := by
  rw [← Bool.not_eq_true]
  intro hspace
  simp only [isNameChar, Char.isAlphanum, Bool.or_eq_true, beq_iff_eq] at h
  rcases h with ((halpha | hdigit) | rfl) | rfl
  · rw [RustStr.isAlpha_of_isWhitespace hspace] at halpha
    cases halpha
  · rw [RustStr.isWhitespace_of_isDigit hdigit] at hspace
    cases hspace
  · cases hspace
  · cases hspace

theorem IsName.not_mem {s : String} (h : IsName s) {c : Char} (hc : isNameChar c = false) : c ∉ s.toList := by
  intro hmem
  rw [h.2 c hmem] at hc
  cases hc

theorem IsName.isWord {s : String} (h : IsName s) : IsWord s.toList :=
  ⟨h.1, fun c hc => isWhitespace_of_isNameChar (h.2 c hc)⟩

theorem metricAllowed_of_mem {s : String} (h : IsName s) {allowlist : List String} (hs : s ∈ allowlist) :
    metricAllowed s.toList allowlist = true := by
  refine List.any_eq_true.2 ⟨s, hs, ?_⟩
  have hstar : RustStr.stripSuffix ['*'] s.toList = none := by
    rw [Option.eq_none_iff_forall_ne_some]
    intro start hstart
    refine h.not_mem (c := '*') (by decide) ?_
    rw [RustStr.stripSuffix_eq_some_iff.1 hstart]
    exact List.mem_append_right _ List.mem_cons_self
  rw [hstar]
  exact beq_self_eq_true _

/-! ## The pieces of a label -/

def OneWord (value : List Char) : Prop := ∀ c ∈ value, isWhitespace c = true → c = '\n'

theorem OneWord.escape {value : List Char} (h : OneWord value) : ∀ c ∈ escapeLabelValue value, isWhitespace c = false := by
  intro x hx
  rw [← Bool.not_eq_true]
  intro hspace
  obtain ⟨c, hc, hxc⟩ := List.mem_flatMap.1 hx
  rcases mem_escapedChar hxc with rfl | rfl | rfl
  · rw [h x hc hspace] at hxc
    rcases List.mem_cons.1 hxc with hx | hx
    · cases hx
    · cases List.mem_singleton.1 hx
  · cases hspace
  · cases hspace

theorem OneWord.of_subset {value part : List Char} (h : OneWord value) (hpart : part ⊆ value) : OneWord part :=
  fun c hc => h c (hpart hc)

theorem escape_append (a b : List Char) : escapeLabelValue (a ++ b) = escapeLabelValue a ++ escapeLabelValue b :=
  List.flatMap_append

theorem escape_ne_nil {value : List Char} (h : value ≠ []) : escapeLabelValue value ≠ [] := by
  obtain ⟨c, rest, rfl⟩ := List.exists_cons_of_ne_nil h
  rw [escapeLabelValue, List.flatMap_cons]
  unfold escapedChar
  split_ifs <;> simp

theorem trim_quoted {value : List Char} (hword : OneWord value) (front back : List Char) (hfront : ∀ c ∈ front, c = '"')
    (hback : ∀ c ∈ back, c = '"') :
    trimChars (front ++ escapeLabelValue value ++ back) = front ++ escapeLabelValue value ++ back := by
  refine RustStr.trimChars_eq_self (fun c hc => ?_)
  rcases List.mem_append.1 hc with hc | hc
  · rcases List.mem_append.1 hc with hc | hc
    · rw [hfront c hc]
      decide
    · exact hword.escape c hc
  · rw [hback c hc]
    decide

theorem IsName.trim {s : String} (h : IsName s) : trimChars s.toList = s.toList :=
  RustStr.trimChars_eq_self h.isWord.2

/-- The first piece of a label, or all of it. -/
def labelFront (key : String) (value : List Char) : List Char := key.toList ++ '=' :: '"' :: escapeLabelValue value

section Pieces

variable {key : String} {value : List Char}

theorem splitOnce_label (hkey : IsName key) (value close : List Char) :
    splitOnce '=' (labelFront key value ++ close) = some (key.toList, '"' :: (escapeLabelValue value ++ close)) := by
  rw [labelFront, List.append_assoc]
  exact RustStr.splitOnce_append _ (hkey.not_mem (by decide))

/-- **A label that is whole.** -/
theorem parsePrometheusLabel_whole (hkey : IsName key) (hword : OneWord value) :
    parsePrometheusLabel (labelFront key value ++ ['"']) = .ok (some ⟨key, String.ofList value⟩) := by
  have htrim : trimChars ('"' :: (escapeLabelValue value ++ ['"'])) = '"' :: (escapeLabelValue value ++ ['"']) :=
    trim_quoted hword ['"'] ['"'] (by simp) (by simp)
  have hread := unescape_escape value []
  rw [List.append_nil] at hread
  rw [parsePrometheusLabel_quoted (splitOnce_label hkey value ['"']) (by rw [hkey.trim]; exact hkey.1) htrim, hkey.trim,
    String.ofList_toList, hread, unescapePrometheusString, List.append_nil]

/-- **A label that is cut off at a comma**: nothing is read, or a shorter value. -/
theorem parsePrometheusLabel_cut (hkey : IsName key) (hword : OneWord value) (hne : value ≠ []) :
    ∃ r, parsePrometheusLabel (labelFront key value) = .ok r ∧
      ∀ label, r = some label → label.key = key ∧ label.value.toList.length < value.length := by
  have hsplit := splitOnce_label hkey value []
  rw [List.append_nil, List.append_nil] at hsplit
  have htrim : trimChars ('"' :: escapeLabelValue value) = '"' :: escapeLabelValue value := by
    have h := trim_quoted hword ['"'] [] (by simp) (by simp)
    rwa [List.append_nil] at h
  by_cases hlast : value.getLast? = some '"'
  · -- its last character is a quotation mark, whose backslash is left
    obtain ⟨front, rfl⟩ := List.getLast?_eq_some_iff.1 hlast
    have hescape : escapeLabelValue (front ++ ['"']) = (escapeLabelValue front ++ ['\\']) ++ ['"'] := by
      rw [escape_append, List.append_assoc]
      rfl
    rw [hescape] at hsplit htrim
    refine ⟨_, parsePrometheusLabel_quoted hsplit (by rw [hkey.trim]; exact hkey.1) htrim, ?_⟩
    rintro label ⟨⟩
    refine ⟨by rw [hkey.trim, String.ofList_toList], ?_⟩
    rw [unescape_escape, String.toList_ofList]
    simp [unescapePrometheusString]
  · refine ⟨none, parsePrometheusLabel_skip (fun key' rawValue hsplit' _ _ => ?_), fun _ h => nomatch h⟩
    rw [hsplit] at hsplit'
    cases hsplit'
    have hend := getLast?_escape hlast
    obtain ⟨c, rest, hescape⟩ := List.exists_cons_of_ne_nil (escape_ne_nil hne)
    rw [hescape] at hend
    rw [htrim, hescape, List.getLast?_cons_cons]
    exact hend

theorem loneQuote_cut (hkey : IsName key) : LoneQuote (labelFront key []) := by
  refine ⟨key.toList, ['"'], ?_, by rw [hkey.trim]; exact hkey.1, by decide⟩
  have hsplit := splitOnce_label hkey [] []
  rwa [List.append_nil] at hsplit

end Pieces

theorem splitOnce_escape {a : List Char} (ha : '=' ∉ a) (b close : List Char) :
    splitOnce '=' (escapeLabelValue (a ++ '=' :: b) ++ close) =
      some (escapeLabelValue a, escapeLabelValue b ++ close) := by
  have hnot : '=' ∉ escapeLabelValue a := fun h => ha (mem_escape (by decide) (by decide) h)
  rw [escape_append, List.append_assoc]
  exact RustStr.splitOnce_append _ hnot

theorem splitOnce_escape_none {piece close : List Char} (h : '=' ∉ piece) (hclose : '=' ∉ close) :
    splitOnce '=' (escapeLabelValue piece ++ close) = none := by
  rw [RustStr.splitOnce_eq_none_iff, List.mem_append, not_or]
  exact ⟨fun hmem => h (mem_escape (by decide) (by decide) hmem), hclose⟩

/-- **A piece behind a comma**: there is no quotation mark behind its `=`. -/
theorem parsePrometheusLabel_behind {piece close : List Char} (hword : OneWord piece) (hclose : ∀ c ∈ close, c = '"')
    (hopen : ∀ key, piece = key ++ ['='] → '=' ∉ key → close = [] ∨ key = []) :
    parsePrometheusLabel (escapeLabelValue piece ++ close) = .ok none := by
  refine parsePrometheusLabel_skip (fun key rawValue hsplit hkey hhead _ => ?_)
  by_cases hmem : '=' ∈ piece
  · obtain ⟨a, b, rfl, ha⟩ := List.eq_append_cons_of_mem hmem
    rw [splitOnce_escape ha] at hsplit
    cases hsplit
    have hb : OneWord b := hword.of_subset (by simp)
    have htrim := trim_quoted hb [] close (by simp) hclose
    rw [List.nil_append] at htrim
    rw [htrim] at hhead
    cases b with
    | nil =>
      rcases hopen a rfl ha with rfl | rfl
      · cases hhead
      · exact hkey rfl
    | cons c b =>
      rw [List.head?_append_of_ne_nil _ (escape_ne_nil (List.cons_ne_nil c b))] at hhead
      exact head?_escape (c :: b) hhead
  · have hequals : '=' ∉ close := fun h => by cases hclose '=' h
    rw [splitOnce_escape_none hmem hequals] at hsplit
    cases hsplit

theorem loneQuote_last {key : List Char} (hword : OneWord key) (hne : key ≠ []) (hkey : '=' ∉ key) :
    LoneQuote (escapeLabelValue (key ++ ['=']) ++ ['"']) := by
  refine ⟨escapeLabelValue key, ['"'], splitOnce_escape hkey [] ['"'], ?_, by decide⟩
  have htrim := trim_quoted hword [] [] (by simp) (by simp)
  rw [List.nil_append, List.append_nil] at htrim
  rw [htrim]
  exact escape_ne_nil hne

/-! ### Lone quotation marks -/

theorem given_loneQuote {pair : List Char} (h : LoneQuote pair) : Fallible.given (parsePrometheusLabel pair) = none := by
  rw [parsePrometheusLabel_lone h]
  rfl

theorem not_loneQuote_of_ok {pair : List Char} {r : Option KV} (h : parsePrometheusLabel pair = .ok r) :
    ¬ LoneQuote pair :=
  parsePrometheusLabel_ok_iff.1 ⟨r, h⟩

theorem loneQuote_front_iff {key : String} (hkey : IsName key) {first : List Char} (hword : OneWord first) :
    LoneQuote (labelFront key first) ↔ first = [] := by
  constructor
  · intro hlone
    by_contra hne
    obtain ⟨r, hr, -⟩ := parsePrometheusLabel_cut hkey hword hne
    exact not_loneQuote_of_ok hr hlone
  · rintro rfl
    exact loneQuote_cut hkey

theorem parsePrometheusLabel_between {piece : List Char} (hword : OneWord piece) :
    parsePrometheusLabel (escapeLabelValue piece) = .ok none := by
  have h := @parsePrometheusLabel_behind piece [] hword (by simp) (fun _ _ _ => .inl rfl)
  rwa [List.append_nil] at h

/-- A last piece that is not read as a key. -/
def NoKey (last : List Char) : Prop := ∀ key, last = key ++ ['='] → '=' ∈ key ∨ key = []

theorem parsePrometheusLabel_last {last : List Char} (hword : OneWord last) (h : NoKey last) :
    parsePrometheusLabel (escapeLabelValue last ++ ['"']) = .ok none :=
  parsePrometheusLabel_behind hword (by simp) (fun key heq hnot => .inr ((h key heq).resolve_left hnot))

theorem loneQuote_last_iff {last : List Char} (hword : OneWord last) :
    LoneQuote (escapeLabelValue last ++ ['"']) ↔ ¬ NoKey last := by
  constructor
  · exact fun hlone h => not_loneQuote_of_ok (parsePrometheusLabel_last hword h) hlone
  · intro h
    unfold NoKey at h
    push Not at h
    obtain ⟨key, rfl, hnot, hne⟩ := h
    exact loneQuote_last (hword.of_subset (by simp)) hne hnot

/-! ## The labels of a sample -/

def labelPieces (label : KV) : List (List Char) := split ',' (renderLabel label)

/-- The pieces of a value with commas in which no quotation mark is left alone. -/
def NoLoneQuote (value : List Char) : Prop :=
  (split ',' value).head? ≠ some [] ∧ ∀ last ∈ (split ',' value).getLast?, NoKey last

/-- **A label whose commas do no harm**: it is not to be read, and does not panic. -/
def CommasRead (label : KV) : Prop :=
  ',' ∈ label.value.toList → isSensitiveLabelKey label.key = true ∧ NoLoneQuote label.value.toList

theorem renderLabel_eq (label : KV) : renderLabel label = labelFront label.key label.value.toList ++ ['"'] := by
  rw [renderLabel, labelFront, List.append_assoc]
  rfl

theorem labelPieces_whole {label : KV} (hkey : IsName label.key) (hcomma : ',' ∉ label.value.toList) :
    labelPieces label = [renderLabel label] := by
  refine RustStr.split_whole (fun hmem => ?_)
  simp only [renderLabel, List.mem_append, List.mem_cons, List.not_mem_nil, or_false] at hmem
  rcases hmem with hmem | hmem | hmem | hmem | hmem
  · exact hkey.not_mem (by decide) hmem
  · cases hmem
  · cases hmem
  · exact hcomma (mem_escape (by decide) (by decide) hmem)
  · cases hmem

/-- **A label with commas** is a front, pieces behind a comma, and a last one. -/
theorem labelPieces_cut {label : KV} (hkey : IsName label.key) (hcomma : ',' ∈ label.value.toList) :
    ∃ first behind last, split ',' label.value.toList = first :: (behind ++ [last]) ∧
      first.length < label.value.toList.length ∧ (∀ piece ∈ first :: (behind ++ [last]), piece ⊆ label.value.toList) ∧
      labelPieces label =
        labelFront label.key first :: (behind.map escapeLabelValue ++ [escapeLabelValue last ++ ['"']]) := by
  obtain ⟨before, last, hvalue, hlast⟩ := RustStr.exists_last hcomma
  have hpieces : split ',' label.value.toList = split ',' before ++ [last] := by
    rw [hvalue, RustStr.split_at, RustStr.split_whole hlast]
  have hclose : split ',' (escapeLabelValue last ++ ['"']) = [escapeLabelValue last ++ ['"']] := by
    refine RustStr.split_whole (fun hmem => ?_)
    rcases List.mem_append.1 hmem with hmem | hmem
    · exact hlast (mem_escape (by decide) (by decide) hmem)
    · cases List.mem_singleton.1 hmem
  have hfront : ',' ∉ label.key.toList ++ ['=', '"'] := by
    simp [hkey.not_mem (c := ',') (by decide)]
  have hrender : renderLabel label =
      (label.key.toList ++ ['=', '"'] ++ escapeLabelValue before) ++ ',' :: (escapeLabelValue last ++ ['"']) := by
    rw [renderLabel, hvalue, escape_append]
    simp [escapeLabelValue, escapedChar]
  cases hsplit : split ',' before with
  | nil => exact absurd hsplit (RustStr.split_ne_nil ',' before)
  | cons first behind =>
    have hwhole : split ',' label.value.toList = first :: (behind ++ [last]) := by
      rw [hpieces, hsplit]
      rfl
    refine ⟨first, behind, last, hwhole, ?_, fun piece hpiece => ?_, ?_⟩
    · have hlength := (RustStr.sublist_of_mem_split (hsplit ▸ List.mem_cons_self)).length_le
      rw [hvalue, List.length_append, List.length_cons]
      omega
    · exact (RustStr.sublist_of_mem_split (hwhole ▸ hpiece)).subset
    · rw [labelPieces, hrender, RustStr.split_at, hclose, RustStr.split_behind hfront, split_escape, hsplit, List.map_cons,
        List.modifyHead_cons, labelFront]
      simp

/-- What is read of a label: at most one of its pieces is. -/
def readLabel (label : KV) : Option KV :=
  ((labelPieces label).filterMap (fun p => Fallible.given (parsePrometheusLabel p))).head?

/-- **What is read of a label**: nothing, or one of its key, and the label itself exactly when it has no comma. -/
theorem labelPieces_read {label : KV} (hkey : IsName label.key) (hword : OneWord label.value.toList) :
    (labelPieces label).filterMap (fun p => Fallible.given (parsePrometheusLabel p)) = (readLabel label).toList ∧
      (∀ read, readLabel label = some read → read.key = label.key) ∧
      (readLabel label = some label ↔ ',' ∉ label.value.toList) := by
  suffices h : ∃ r : Option KV,
      (labelPieces label).filterMap (fun p => Fallible.given (parsePrometheusLabel p)) = r.toList ∧
        (∀ read, r = some read → read.key = label.key) ∧ (r = some label ↔ ',' ∉ label.value.toList) by
    obtain ⟨r, hr, hspec⟩ := h
    have hread : readLabel label = r := by
      rw [readLabel, hr]
      cases r <;> rfl
    rw [hread]
    exact ⟨hr, hspec⟩
  by_cases hcomma : ',' ∈ label.value.toList
  · obtain ⟨first, behind, last, -, hshort, hparts, hpieces⟩ := labelPieces_cut hkey hcomma
    have hpart : ∀ piece ∈ first :: (behind ++ [last]), OneWord piece := fun piece hpiece =>
      hword.of_subset (hparts piece hpiece)
    have hrest : (behind.map escapeLabelValue ++ [escapeLabelValue last ++ ['"']]).filterMap
        (fun p => Fallible.given (parsePrometheusLabel p)) = [] := by
      refine List.filterMap_eq_nil_iff.2 (fun piece hpiece => ?_)
      rcases List.mem_append.1 hpiece with hpiece | hpiece
      · obtain ⟨between, hbetween, rfl⟩ := List.mem_map.1 hpiece
        rw [parsePrometheusLabel_between (hpart between (by simp [hbetween]))]
        rfl
      · rw [List.mem_singleton.1 hpiece]
        by_cases hlone : LoneQuote (escapeLabelValue last ++ ['"'])
        · exact given_loneQuote hlone
        · have hlast := hpart last (by simp)
          rw [parsePrometheusLabel_last hlast (not_not.1 (fun h => hlone ((loneQuote_last_iff hlast).2 h)))]
          rfl
    have hread : ∀ read, Fallible.given (parsePrometheusLabel (labelFront label.key first)) = some read →
        read.key = label.key ∧ read.value.toList.length < label.value.toList.length := by
      intro read h
      by_cases hne : first = []
      · rw [hne, given_loneQuote (loneQuote_cut hkey)] at h
        cases h
      · obtain ⟨r, hr, hlabel⟩ := parsePrometheusLabel_cut hkey (hpart first List.mem_cons_self) hne
        rw [hr] at h
        exact ⟨(hlabel read h).1, (hlabel read h).2.trans hshort⟩
    refine ⟨Fallible.given (parsePrometheusLabel (labelFront label.key first)), ?_, fun read h => (hread read h).1, ?_⟩
    · rw [hpieces, List.filterMap_cons, hrest]
      cases Fallible.given (parsePrometheusLabel (labelFront label.key first)) <;> rfl
    · exact ⟨fun h => absurd (hread label h).2 (lt_irrefl _), fun h => absurd hcomma h⟩
  · refine ⟨some label, ?_, fun read h => by rw [Option.some.inj h], iff_of_true rfl hcomma⟩
    rw [labelPieces_whole hkey hcomma, renderLabel_eq, List.filterMap_cons, parsePrometheusLabel_whole hkey hword,
      String.ofList_toList]
    rfl

/-- **When a label leaves no quotation mark alone.** -/
theorem labelPieces_loneQuote_iff {label : KV} (hkey : IsName label.key) (hword : OneWord label.value.toList) :
    (∀ piece ∈ labelPieces label, ¬ LoneQuote piece) ↔ (',' ∈ label.value.toList → NoLoneQuote label.value.toList) := by
  by_cases hcomma : ',' ∈ label.value.toList
  · obtain ⟨first, behind, last, hsplit, -, hparts, hpieces⟩ := labelPieces_cut hkey hcomma
    have hpart : ∀ piece ∈ first :: (behind ++ [last]), OneWord piece := fun piece hpiece =>
      hword.of_subset (hparts piece hpiece)
    have hlast : (first :: (behind ++ [last])).getLast? = some last := by
      rw [← List.cons_append, List.getLast?_concat]
    have hbetween : ∀ piece ∈ behind.map escapeLabelValue, ¬ LoneQuote piece := by
      intro piece hpiece
      obtain ⟨between, hmem, rfl⟩ := List.mem_map.1 hpiece
      exact not_loneQuote_of_ok (parsePrometheusLabel_between (hpart between (by simp [hmem])))
    rw [hpieces, NoLoneQuote, hsplit, hlast]
    constructor
    · intro h _
      refine ⟨fun hfirst => ?_, ?_⟩
      · have hempty : first = [] := Option.some.inj hfirst
        exact h _ List.mem_cons_self ((loneQuote_front_iff hkey (hpart first List.mem_cons_self)).2 hempty)
      · rintro _ ⟨⟩
        by_contra hkeyed
        exact h _ (by simp) ((loneQuote_last_iff (hpart last (by simp))).2 hkeyed)
    · intro h piece hpiece hlone
      obtain ⟨hfirst, hnokey⟩ := h hcomma
      rcases List.mem_cons.1 hpiece with rfl | hpiece
      · rw [(loneQuote_front_iff hkey (hpart first List.mem_cons_self)).1 hlone] at hfirst
        exact hfirst rfl
      · rcases List.mem_append.1 hpiece with hpiece | hpiece
        · exact hbetween piece hpiece hlone
        · rw [List.mem_singleton.1 hpiece] at hlone
          exact (loneQuote_last_iff (hpart last (by simp))).1 hlone (hnokey last rfl)
  · refine iff_of_true (fun piece hpiece => ?_) (fun h => absurd h hcomma)
    rw [labelPieces_whole hkey hcomma, List.mem_singleton] at hpiece
    rw [hpiece, renderLabel_eq]
    exact not_loneQuote_of_ok (parsePrometheusLabel_whole hkey hword)

def isShown (label : KV) : Bool := !isSensitiveLabelKey label.key

theorem readLabel_hidden {label : KV} (hkey : IsName label.key) (hword : OneWord label.value.toList)
    (hhidden : isShown label = false) : (readLabel label).filter isShown = none := by
  obtain ⟨-, hsame, -⟩ := labelPieces_read hkey hword
  refine Option.filter_eq_none_iff.2 (fun read hread => ?_)
  unfold isShown at hhidden ⊢
  rw [hsame read hread, hhidden]
  decide

theorem readLabel_shown_iff {label : KV} (hkey : IsName label.key) (hword : OneWord label.value.toList) :
    ((∀ piece ∈ labelPieces label, ¬ LoneQuote piece) ∧
      (readLabel label).filter isShown = if isShown label = true then some label else none) ↔ CommasRead label := by
  obtain ⟨-, -, hwhole⟩ := labelPieces_read hkey hword
  rw [labelPieces_loneQuote_iff hkey hword, CommasRead]
  by_cases hshown : isShown label = true
  · have hkeyed : isSensitiveLabelKey label.key = false := by simpa [isShown] using hshown
    rw [if_pos hshown, hkeyed]
    constructor
    · rintro ⟨-, h⟩ hcomma
      exact absurd hcomma (hwhole.1 (Option.filter_eq_some_iff.1 h).1)
    · intro h
      have hcomma : ',' ∉ label.value.toList := fun hmem => by cases (h hmem).1
      exact ⟨fun hmem => absurd hmem hcomma, Option.filter_eq_some_iff.2 ⟨hwhole.2 hcomma, hshown⟩⟩
  · have hkeyed : isSensitiveLabelKey label.key = true := by simpa [isShown] using hshown
    rw [if_neg hshown, readLabel_hidden hkey hword (Bool.eq_false_iff.2 hshown)]
    exact ⟨fun h hcomma => ⟨hkeyed, h.1 hcomma⟩, fun h => ⟨fun hcomma => (h hcomma).2, rfl⟩⟩

/-- **The labels of a sample are read as they are to be shown** exactly when the commas of each do no harm. -/
theorem renderLabels_read_iff {labels : List KV} (hkeys : ∀ label ∈ labels, IsName label.key)
    (hwords : ∀ label ∈ labels, OneWord label.value.toList) :
    (∃ read, parsePrometheusLabels (renderLabels labels) = .ok read ∧
      sanitizePrometheusLabels read = sanitizePrometheusLabels labels) ↔ ∀ label ∈ labels, CommasRead label := by
  by_cases hnil : labels = []
  · subst hnil
    exact iff_of_true ⟨[], rfl, rfl⟩ (fun _ h => nomatch h)
  have hpieces : split ',' (renderLabels labels) = labels.flatMap labelPieces := by
    rw [renderLabels, RustStr.split_intercalate_parts ',' (by simpa using hnil), List.flatMap_map]
    rfl
  have hcollected : (split ',' (renderLabels labels)).filterMap
      (fun p => Fallible.given (parsePrometheusLabel p)) = labels.filterMap readLabel := by
    rw [hpieces, List.filterMap_flatMap, List.filterMap_eq_flatMap_toList]
    exact List.flatMap_congr (fun label hlabel => (labelPieces_read (hkeys label hlabel) (hwords label hlabel)).1)
  have hread : ∀ read, parsePrometheusLabels (renderLabels labels) = .ok read ↔
      (∀ label ∈ labels, ∀ piece ∈ labelPieces label, ¬ LoneQuote piece) ∧ labels.filterMap readLabel = read := by
    intro read
    rw [parsePrometheusLabels, Fallible.filterMap_eq_ok_iff, hcollected, hpieces]
    simp only [parsePrometheusLabel_ok_iff, List.mem_flatMap, forall_exists_index, and_imp]
    exact and_congr_left fun _ => ⟨fun h label hlabel piece hpiece => h piece label hlabel hpiece,
      fun h piece label hlabel hpiece => h label hlabel piece hpiece⟩
  have hshown : sanitizePrometheusLabels (labels.filterMap readLabel) = sanitizePrometheusLabels labels ↔
      ∀ label ∈ labels, (readLabel label).filter isShown = if isShown label = true then some label else none := by
    show (labels.filterMap readLabel).filter isShown = labels.filter isShown ↔ _
    rw [List.filter_filterMap, ← List.filterMap_eq_filter]
    refine Fallible.filterMap_eq_filterMap_iff (fun label hlabel hhidden => ?_)
    refine readLabel_hidden (hkeys label hlabel) (hwords label hlabel) (Bool.eq_false_iff.2 (fun hshown => ?_))
    rw [Option.guard, if_pos hshown] at hhidden
    cases hhidden
  constructor
  · rintro ⟨read, hok, hsame⟩ label hlabel
    obtain ⟨hlone, rfl⟩ := (hread read).1 hok
    exact (readLabel_shown_iff (hkeys label hlabel) (hwords label hlabel)).1
      ⟨hlone label hlabel, hshown.1 hsame label hlabel⟩
  · intro h
    have hboth := fun label hlabel =>
      (readLabel_shown_iff (hkeys label hlabel) (hwords label hlabel)).2 (h label hlabel)
    exact ⟨_, (hread _).2 ⟨fun label hlabel => (hboth label hlabel).1, rfl⟩,
      hshown.2 (fun label hlabel => (hboth label hlabel).2)⟩

/-! ## A sample on a line -/

theorem mem_renderLabel {label : KV} {c : Char} (h : c ∈ renderLabel label) :
    c ∈ label.key.toList ∨ c = '=' ∨ c = '"' ∨ c ∈ escapeLabelValue label.value.toList := by
  simp only [renderLabel, List.mem_append, List.mem_cons, List.not_mem_nil, or_false] at h
  rcases h with h | h | h | h | h
  · exact .inl h
  · exact .inr (.inl h)
  · exact .inr (.inr (.inl h))
  · exact .inr (.inr (.inr h))
  · exact .inr (.inr (.inl h))

theorem mem_renderSeries {s : Series} {c : Char} (h : c ∈ renderSeries s) :
    c ∈ s.name.toList ∨ c ∈ ['{', '}', ',', '=', '"'] ∨
      ∃ label ∈ s.labels, c ∈ label.key.toList ∨ c ∈ escapeLabelValue label.value.toList := by
  unfold renderSeries at h
  split_ifs at h with hbare
  · exact .inl h
  simp only [List.mem_append, List.mem_cons, List.not_mem_nil, or_false] at h
  rcases h with (h | rfl | h) | rfl
  · exact .inl h
  · exact .inr (.inl (by simp))
  · rcases RustStr.mem_intercalate h with rfl | ⟨part, hpart, hc⟩
    · exact .inr (.inl (by simp))
    · obtain ⟨label, hlabel, rfl⟩ := List.mem_map.1 hpart
      rcases mem_renderLabel hc with hc | rfl | rfl | hc
      · exact .inr (.inr ⟨label, hlabel, .inl hc⟩)
      · exact .inr (.inl (by simp))
      · exact .inr (.inl (by simp))
      · exact .inr (.inr ⟨label, hlabel, .inr hc⟩)
  · exact .inr (.inl (by simp))

theorem Series.WellNamed.head {s : Series} (h : s.WellNamed) :
    ∃ c rest, renderSeries s = c :: rest ∧ isNameChar c = true := by
  obtain ⟨c, rest, hname⟩ := List.exists_cons_of_ne_nil h.name.1
  have hc : isNameChar c = true := h.name.2 c (by rw [hname]; exact List.mem_cons_self)
  unfold renderSeries
  split_ifs with hbare
  · exact ⟨c, rest, hname, hc⟩
  · exact ⟨c, rest ++ '{' :: renderLabels s.labels ++ ['}'], by rw [hname]; simp, hc⟩

theorem renderSeries_isWord {s : Series} (h : s.WellNamed) (hwords : ∀ label ∈ s.labels, OneWord label.value.toList) :
    IsWord (renderSeries s) := by
  obtain ⟨first, rest, hfirst, -⟩ := h.head
  have hmarks : ∀ c ∈ ['{', '}', ',', '=', '"'], isWhitespace c = false := by simp [isWhitespace]
  refine ⟨by rw [hfirst]; exact List.cons_ne_nil _ _, fun c hc => ?_⟩
  rcases mem_renderSeries hc with hname | hformat | ⟨label, hlabel, hkey | hvalue⟩
  · exact h.name.isWord.2 c hname
  · exact hmarks c hformat
  · exact (h.keys label hlabel).isWord.2 c hkey
  · exact (hwords label hlabel).escape c hvalue

/-- **A series is parsed** as its name, with what is read of its labels. -/
theorem parse_renderSeries {s : Series} (h : s.WellNamed) : parsePrometheusSample (renderSeries s) =
    (parsePrometheusLabels (renderLabels s.labels)).map (fun labels => (s.name.toList, labels)) := by
  have hopen : '{' ∉ s.name.toList := h.name.not_mem (by decide)
  unfold renderSeries
  split_ifs with hbare
  · rw [parsePrometheusSample_bare hopen, hbare.1]
    rfl
  · exact parsePrometheusSample_closed (renderLabels s.labels) hopen (by simp)

section Line

variable {F : Type} {f64 : F64 F} {allowlist : List String} {e : Exposed F}

theorem splitWhitespace_renderSample (htoken : IsWord e.token) : ∃ rest,
    splitWhitespace (renderSample e) = splitWhitespace (renderSeries e.series) ++ e.token :: rest := by
  have hspace : isWhitespace ' ' = true := by decide
  unfold renderSample
  rw [RustStr.splitWhitespace_append hspace]
  cases e.timestamp with
  | none =>
    refine ⟨[], ?_⟩
    rw [Option.map_none, Option.getD_none, List.append_nil, RustStr.splitWhitespace_word htoken.1 htoken.2]
  | some t =>
    refine ⟨splitWhitespace t, ?_⟩
    rw [Option.map_some, Option.getD_some, RustStr.splitWhitespace_append hspace,
      RustStr.splitWhitespace_word htoken.1 htoken.2]
    rfl

theorem renderSample_head (h : e.series.WellNamed) : (trimChars (renderSample e)).head? ≠ some '#' := by
  obtain ⟨c, rest, hseries, hc⟩ := h.head
  have hword : isWhitespace c = false := isWhitespace_of_isNameChar hc
  unfold renderSample trimChars
  rw [hseries, List.cons_append, List.dropWhile_cons_of_neg (by rw [hword]; decide), RustStr.head?_rdropWhile hword]
  rintro ⟨⟩
  cases hc

theorem lineBreak_not_mem_renderSample (h : e.WellFormed f64) : '\n' ∉ renderSample e := by
  intro hmem
  rcases List.mem_append.1 hmem with hmem | hmem
  · rcases mem_renderSeries hmem with hname | hformat | ⟨label, hlabel, hkey | hvalue⟩
    · exact h.series.name.not_mem (by decide) hname
    · revert hformat
      decide
    · exact (h.series.keys label hlabel).not_mem (by decide) hkey
    · exact lineBreak_not_mem_escape _ hvalue
  · rcases List.mem_cons.1 hmem with hmem | hmem
    · cases hmem
    rcases List.mem_append.1 hmem with hmem | hmem
    · cases h.token.2 _ hmem
    · cases htimestamp : e.timestamp with
      | none =>
        rw [htimestamp] at hmem
        cases hmem
      | some t =>
        rw [htimestamp] at hmem
        rcases List.mem_cons.1 hmem with hmem | hmem
        · cases hmem
        · exact h.timestamp t htimestamp hmem

/-- **A line of words** gives its sample exactly when the commas of its labels do no harm. -/
theorem lineMatches_iff (h : e.WellFormed f64) (hwords : ∀ label ∈ e.series.labels, OneWord label.value.toList)
    (hallowed : metricAllowed e.series.name.toList allowlist = true) :
    LineMatches f64 allowlist (renderSample e) e.sample ↔ ∀ label ∈ e.series.labels, CommasRead label := by
  obtain ⟨rest, hsplit⟩ := splitWhitespace_renderSample h.token
  have hseries := renderSeries_isWord h.series hwords
  rw [RustStr.splitWhitespace_word hseries.1 hseries.2] at hsplit
  rw [← renderLabels_read_iff h.series.keys hwords, LineMatches, hsplit]
  constructor
  · rintro ⟨-, _, _, _, name, labels, value, ⟨⟩, hparsed, -, -, hsample⟩
    rw [parse_renderSeries h.series] at hparsed
    cases hread : parsePrometheusLabels (renderLabels e.series.labels) with
    | error panic =>
      rw [hread] at hparsed
      cases hparsed
    | ok read =>
      rw [hread] at hparsed
      cases hparsed
      exact ⟨_, rfl, (congrArg AppMetricSample.labels hsample).symm⟩
  · rintro ⟨read, hread, hsame⟩
    refine ⟨renderSample_head h.series, _, _, _, e.series.name.toList, read, e.value, rfl, ?_, hallowed, h.value, ?_⟩
    · rw [parse_renderSeries h.series, hread]
      rfl
    · rw [hsame, String.ofList_toList]
      rfl

/-- **A series with white space** is split itself: its value is read from one of its words. -/
theorem two_words {s : Series} (h : s.WellNamed) {label : KV} (hlabel : label ∈ s.labels)
    (hspace : ¬ OneWord label.value.toList) : ∃ first second rest, splitWhitespace (renderSeries s) = first :: second :: rest := by
  unfold OneWord at hspace
  push Not at hspace
  obtain ⟨w, hw, hwhite, hbreak⟩ := hspace
  have hescaped : w ∈ escapeLabelValue label.value.toList := by
    refine List.mem_flatMap.2 ⟨w, hw, ?_⟩
    have hslash : w ≠ '\\' := by
      rintro rfl
      cases hwhite
    have hquote : w ≠ '"' := by
      rintro rfl
      cases hwhite
    rw [escapedChar, if_neg hslash, if_neg hquote, if_neg hbreak]
    exact List.mem_singleton_self w
  have hlabels : w ∈ renderLabels s.labels :=
    RustStr.mem_intercalate_of_mem (List.mem_map_of_mem hlabel) (by simp [renderLabel, hescaped])
  obtain ⟨front, back, hsides⟩ := List.append_of_mem hlabels
  obtain ⟨c, rest, hname⟩ := List.exists_cons_of_ne_nil h.name.1
  have hne : s.labels ≠ [] := List.ne_nil_of_mem hlabel
  have hseries : renderSeries s = (s.name.toList ++ '{' :: front) ++ w :: (back ++ ['}']) := by
    rw [renderSeries, if_neg (fun hbare => hne hbare.1), hsides]
    simp
  have hfront : splitWhitespace (s.name.toList ++ '{' :: front) ≠ [] :=
    RustStr.splitWhitespace_ne_nil (c := '{') (by decide) (by simp)
  have hback : splitWhitespace (back ++ ['}']) ≠ [] :=
    RustStr.splitWhitespace_ne_nil (c := '}') (by decide) (by simp)
  rw [hseries, RustStr.splitWhitespace_append hwhite]
  obtain ⟨first, others, hfirst⟩ := List.exists_cons_of_ne_nil hfront
  obtain ⟨last, more, hlast⟩ := List.exists_cons_of_ne_nil hback
  rw [hfirst, hlast]
  cases others with
  | nil => exact ⟨first, last, more, rfl⟩
  | cons second others => exact ⟨first, second, others ++ last :: more, rfl⟩

theorem value_of_two_words (h : LineMatches f64 allowlist (renderSample e) e.sample) (htoken : IsWord e.token)
    {first second : List Char} {others : List (List Char)}
    (hwords : splitWhitespace (renderSeries e.series) = first :: second :: others) :
    parsePrometheusValue f64 second = some e.value := by
  obtain ⟨rest, hsplit⟩ := splitWhitespace_renderSample htoken
  obtain ⟨-, _, _, _, name, labels, value, hline, -, -, hvalue, hsample⟩ := h
  rw [hsplit, hwords] at hline
  cases hline
  exact hvalue.trans (congrArg (fun sample => some (AppMetricSample.value sample)) hsample).symm

/-- **A scrape gives the samples** exactly when each line gives its own. -/
theorem scraped_iff {es : List (Exposed F)} {maxSamples : Nat} (hbreaks : ∀ e ∈ es, '\n' ∉ renderSample e)
    (henough : es.length ≤ maxSamples) :
    (∃ r, parsePrometheusText f64 allowlist maxSamples (render es) = .ok r ∧ r.samples = es.map Exposed.sample) ↔
      ∀ e ∈ es, LineMatches f64 allowlist (renderSample e) e.sample := by
  have hlines : lines (render es).toList = es.map (fun e => RustStr.dropReturn (renderSample e)) := by
    have hended := @RustStr.lines_ended (es.map renderSample) (fun l hl => by
      obtain ⟨e, he, rfl⟩ := List.mem_map.1 hl
      exact hbreaks e he)
    rw [List.flatMap_map, List.map_map] at hended
    rw [render, String.toList_ofList, hended]
    rfl
  have hline : ∀ e : Exposed F, lineSample f64 allowlist (RustStr.dropReturn (renderSample e)) =
      lineSample f64 allowlist (renderSample e) := by
    intro e
    rw [lineSample, lineSample, RustStr.trimChars_dropReturn]
  have hgiven : ∀ e : Exposed F, Fallible.given (lineSample f64 allowlist (RustStr.dropReturn (renderSample e))) =
      Fallible.given (lineSample f64 allowlist (renderSample e)) := fun e => congrArg _ (hline e)
  have hmatched : (lines (render es).toList).filterMap (fun line => Fallible.given (lineSample f64 allowlist line)) =
      es.filterMap (fun e => Fallible.given (lineSample f64 allowlist (renderSample e))) := by
    rw [hlines, List.filterMap_map]
    exact List.filterMap_congr (fun e _ => hgiven e)
  have hsamples : es.filterMap (fun e => Fallible.given (lineSample f64 allowlist (renderSample e))) =
      es.map Exposed.sample ↔ ∀ e ∈ es, LineMatches f64 allowlist (renderSample e) e.sample := by
    have hall : ∀ e ∈ es, (some ∘ Exposed.sample) e = none →
        Fallible.given (lineSample f64 allowlist (renderSample e)) = none := fun _ _ h => nomatch h
    rw [← List.filterMap_eq_map, Fallible.filterMap_eq_filterMap_iff hall]
    exact forall₂_congr fun e _ => lineSample_eq_some_iff f64 allowlist
  have hfew := List.length_filterMap_le (fun e => Fallible.given (lineSample f64 allowlist (renderSample e))) es
  rw [parsePrometheusText_eq, ← hsamples]
  constructor
  · rintro ⟨r, hr, hsame⟩
    cases hread : Fallible.filterMap (lineSample f64 allowlist) (lines (render es).toList) with
    | error panic =>
      rw [hread] at hr
      cases hr
    | ok matched =>
      rw [hread] at hr
      cases hr
      obtain ⟨-, rfl⟩ := Fallible.filterMap_eq_ok_iff.1 hread
      rw [(selected_foldl _).samples, hmatched, List.take_of_length_le (hfew.trans henough)] at hsame
      exact hsame
  · intro hsame
    have hread : Fallible.filterMap (lineSample f64 allowlist) (lines (render es).toList) = .ok (es.map Exposed.sample) := by
      refine Fallible.filterMap_eq_ok_iff.2 ⟨fun line hmem => ?_, hmatched.trans hsame⟩
      rw [hlines] at hmem
      obtain ⟨e, he, rfl⟩ := List.mem_map.1 hmem
      have hmatch := (lineSample_eq_some_iff f64 allowlist).2 (hsamples.1 hsame e he)
      exact ⟨_, (hline e).trans (Fallible.given_eq_some_iff.1 hmatch)⟩
    refine ⟨_, by rw [hread]; rfl, ?_⟩
    rw [(selected_foldl _).samples]
    exact List.take_of_length_le (by simpa using henough)

end Line

/-! ## When a scrape undoes the rendering -/

section Exactness

variable {F : Type} (f64 : F64 F)

theorem Undone.lineMatches {es : List (Exposed F)} (h : Undone f64 es) (hformed : ∀ e ∈ es, e.WellFormed f64) :
    ∀ e ∈ es, metricAllowed e.series.name.toList (es.map (fun e => e.series.name)) = true ∧
      LineMatches f64 (es.map (fun e => e.series.name)) (renderSample e) e.sample := by
  have hallowed : ∀ e ∈ es, metricAllowed e.series.name.toList (es.map (fun e => e.series.name)) = true :=
    fun e he => metricAllowed_of_mem (hformed e he).series.name (List.mem_map_of_mem he)
  have hbreaks : ∀ e ∈ es, '\n' ∉ renderSample e := fun e he => lineBreak_not_mem_renderSample (hformed e he)
  have hmatches := (scraped_iff hbreaks le_rfl).1 (h _ es.length hallowed le_rfl)
  exact fun e he => ⟨hallowed e he, hmatches e he⟩

/-- **Samples whose label values are one word each** are read back exactly when the commas do no harm. -/
theorem undone_iff {es : List (Exposed F)} (hformed : ∀ e ∈ es, e.WellFormed f64)
    (hwords : ∀ e ∈ es, ∀ label ∈ e.series.labels, OneWord label.value.toList) :
    Undone f64 es ↔ ∀ e ∈ es, ∀ label ∈ e.series.labels, CommasRead label := by
  constructor
  · intro h e he
    obtain ⟨hallowed, hmatches⟩ := h.lineMatches f64 hformed e he
    exact (lineMatches_iff (hformed e he) (hwords e he) hallowed).1 hmatches
  · intro h allowlist maxSamples hallowed henough
    refine (scraped_iff (fun e he => lineBreak_not_mem_renderSample (hformed e he)) henough).2 (fun e he => ?_)
    exact (lineMatches_iff (hformed e he) (hwords e he) (hallowed e he)).2 (h e he)

/-- All samples of these series are read back, whatever their values. -/
def AlwaysUndone (series : List Series) : Prop :=
  ∀ es : List (Exposed F), es.map Exposed.series = series → (∀ e ∈ es, e.WellFormed f64) → Undone f64 es

/-- A label that is read back, or left out as it should be. -/
structure ReadBack (label : KV) : Prop where
  oneWord : OneWord label.value.toList
  commas : CommasRead label

/-- A token that is read as the value. -/
def Reads (token : List Char) (value : F) : Prop := IsWord token ∧ parsePrometheusValue f64 token = some value

def exposeAll (token : List Char) (value : F) (series : List Series) : List (Exposed F) :=
  series.map (fun s => ⟨s, token, none, value⟩)

theorem exposeAll_wellFormed {token : List Char} {value : F} (hreads : Reads f64 token value) {series : List Series}
    (hnamed : ∀ s ∈ series, s.WellNamed) : ∀ e ∈ exposeAll token value series, e.WellFormed f64 := by
  intro e he
  obtain ⟨s, hs, rfl⟩ := List.mem_map.1 he
  exact ⟨hnamed s hs, hreads.1, hreads.2, fun _ h => nomatch h⟩

theorem exposeAll_series (token : List Char) (value : F) (series : List Series) :
    (exposeAll token value series).map Exposed.series = series := by
  rw [exposeAll, List.map_map]
  exact List.map_id series

/-- **A scrape undoes the rendering** of series, whatever their values, exactly when each label value is one word and its
commas do no harm; and of samples whose label values are one word each exactly when their commas do none. -/
theorem render_undone_iff {t t' : List Char} {v v' : F} (ht : Reads f64 t v) (ht' : Reads f64 t' v') (hne : v ≠ v') :
    (∀ series : List Series, (∀ s ∈ series, s.WellNamed) →
      (AlwaysUndone f64 series ↔ ∀ s ∈ series, ∀ label ∈ s.labels, ReadBack label)) ∧
    (∀ es : List (Exposed F), (∀ e ∈ es, e.WellFormed f64) →
      (∀ e ∈ es, ∀ label ∈ e.series.labels, OneWord label.value.toList) →
      (Undone f64 es ↔ ∀ e ∈ es, ∀ label ∈ e.series.labels, CommasRead label)) := by
  refine ⟨fun series hnamed => ⟨fun h => ?_, fun h es hseries hformed => ?_⟩, fun es => undone_iff f64⟩
  · have hundone {token : List Char} {value : F} (hreads : Reads f64 token value) :
        Undone f64 (exposeAll token value series) :=
      h _ (exposeAll_series token value series) (exposeAll_wellFormed f64 hreads hnamed)
    have hwords : ∀ s ∈ series, ∀ label ∈ s.labels, OneWord label.value.toList := by
      intro s hs label hlabel
      by_contra hspace
      obtain ⟨first, second, others, hsplit⟩ := two_words (hnamed s hs) hlabel hspace
      -- the second word of the line is one of the series, so it does not depend on the value
      have hsecond {token : List Char} {value : F} (hreads : Reads f64 token value) :
          parsePrometheusValue f64 second = some value := by
        have hmem : (⟨s, token, none, value⟩ : Exposed F) ∈ exposeAll token value series := List.mem_map_of_mem hs
        have hmatch := (hundone hreads).lineMatches f64 (exposeAll_wellFormed f64 hreads hnamed) _ hmem
        exact value_of_two_words hmatch.2 hreads.1 hsplit
      exact hne (Option.some.inj ((hsecond ht).symm.trans (hsecond ht')))
    have hcommas := (undone_iff f64 (exposeAll_wellFormed f64 ht hnamed) (fun e he => by
      obtain ⟨s, hs, rfl⟩ := List.mem_map.1 he
      exact hwords s hs)).1 (hundone ht)
    exact fun s hs label hlabel => ⟨hwords s hs label hlabel, hcommas _ (List.mem_map_of_mem hs) label hlabel⟩
  · have hlabels : ∀ e ∈ es, ∀ label ∈ e.series.labels, ReadBack label := fun e he =>
      h e.series (hseries ▸ List.mem_map_of_mem he)
    exact (undone_iff f64 hformed (fun e he label hlabel => (hlabels e he label hlabel).oneWord)).2
      (fun e he label hlabel => (hlabels e he label hlabel).commas)

end Exactness

/-! ### Values with separators -/

def upAt (path : String) : Series := ⟨"up", [⟨"path", path⟩], false⟩

theorem upAt_wellNamed (path : String) : (upAt path).WellNamed := by
  have hup : IsName "up" := ⟨by decide, by simp [isNameChar]⟩
  have hpath : IsName "path" := ⟨by decide, by simp [isNameChar]⟩
  refine ⟨hup, fun label hlabel => ?_⟩
  rw [List.mem_singleton.1 hlabel]
  exact hpath

theorem reads_one : Reads wholeF64 ['1'] (some 1) := ⟨⟨by simp, by simp [isWhitespace]⟩, by decide⟩

def oneAt (path : String) : Exposed (Option Int) := ⟨upAt path, ['1'], none, some 1⟩

theorem oneAt_wellFormed (path : String) : (oneAt path).WellFormed wholeF64 :=
  ⟨upAt_wellNamed path, reads_one.1, reads_one.2, fun _ h => nomatch h⟩

/-- A path with a number between spaces is taken for the value, and one with a comma is lost. -/
theorem separators_misread :
    parsePrometheusText wholeF64 ["up"] 1 (render [oneAt "a 5 b"]) = .ok ⟨[⟨"up", [], some 5⟩], 1, false⟩ ∧
      parsePrometheusText wholeF64 ["up"] 1 (render [oneAt "a,b"]) = .ok ⟨[⟨"up", [], some 1⟩], 1, false⟩ ∧
      ∀ path ∈ ["a 5 b", "a,b"], (oneAt path).WellFormed wholeF64 ∧ ¬ Undone wholeF64 [oneAt path] := by
  have hspaced : parsePrometheusText wholeF64 ["up"] 1 (render [oneAt "a 5 b"]) =
      .ok ⟨[⟨"up", [], some 5⟩], 1, false⟩ := by rfl
  have hcomma : parsePrometheusText wholeF64 ["up"] 1 (render [oneAt "a,b"]) =
      .ok ⟨[⟨"up", [], some 1⟩], 1, false⟩ := by rfl
  have hlost {path : String} {value : Option Int} (hread : parsePrometheusText wholeF64 ["up"] 1 (render [oneAt path]) =
      .ok ⟨[⟨"up", [], value⟩], 1, false⟩) : ¬ Undone wholeF64 [oneAt path] := by
    intro h
    have hallowed : metricAllowed "up".toList ["up"] = true := by decide
    obtain ⟨r, hr, hsamples⟩ := h ["up"] 1 (fun e he => by rw [List.mem_singleton.1 he]; exact hallowed) le_rfl
    rw [hread] at hr
    cases hr
    have hkept : isSensitiveLabelKey "path" = false := by decide
    simp [oneAt, upAt, Exposed.sample, sanitizePrometheusLabels, hkept] at hsamples
  refine ⟨hspaced, hcomma, fun path hpath => ⟨oneAt_wellFormed path, ?_⟩⟩
  rcases List.mem_cons.1 hpath with rfl | hpath
  · exact hlost hspaced
  · rw [List.mem_singleton.1 hpath]
    exact hlost hcomma

/-- Whatever the value, a path of one word without a comma is read back; one with a comma is not. -/
theorem render_undone_slash : AlwaysUndone wholeF64 [upAt "/"] ∧ ¬ Undone wholeF64 [oneAt "a,b"] := by
  have htwo : Reads wholeF64 ['2'] (some 2) := ⟨⟨by simp, by simp [isWhitespace]⟩, by decide⟩
  have hexact := render_undone_iff wholeF64 reads_one htwo (by decide)
  constructor
  · refine (hexact.1 [upAt "/"] (fun s hs => ?_)).2 (fun s hs label hlabel => ?_)
    · rw [List.mem_singleton.1 hs]
      exact upAt_wellNamed "/"
    · rw [List.mem_singleton.1 hs] at hlabel
      rw [List.mem_singleton.1 hlabel]
      exact ⟨by simp [OneWord, isWhitespace], fun h => absurd h (by decide)⟩
  · intro h
    have hcommas := (hexact.2 [oneAt "a,b"] (fun e he => ?_) (fun e he label hlabel => ?_)).1 h _ List.mem_cons_self
      ⟨"path", "a,b"⟩ List.mem_cons_self
    · cases (hcommas (by decide)).1
    · rw [List.mem_singleton.1 he]
      exact oneAt_wellFormed "a,b"
    · rw [List.mem_singleton.1 he] at hlabel
      rw [List.mem_singleton.1 hlabel]
      simp [OneWord, isWhitespace]

end Collector
end HubAgent
