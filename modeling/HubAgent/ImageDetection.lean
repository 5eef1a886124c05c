import Mathlib.Data.List.Find
import HubAgent.Tech
/-!
# What an image reference tells (`tech.rs`)

A reference is `[registry/]path[:tag][@digest]`, and what is detected should rest on the path, the version apart.  It does
but for a tag in front of a digest: `splitTag` leaves it at the name (`ignores_iff`).
-/
namespace HubAgent
namespace Tech

open Collector (Casing)

/-- A lower-case letter, a digit or `-`. -/
def segmentChar (c : Char) : Bool := c.isLower || c.isDigit || c == '-'

/-- **An image reference** by its parts.  The tag and the digest are those of the grammar of references, or freer. -/
structure ImageReference where
  registry : Option (List Char)
  path : List (List Char)
  tag : Option (List Char)
  digest : Option (List Char)
  registry_host : ∀ host ∈ registry, '/' ∉ host ∧ ('.' ∈ host ∨ ':' ∈ host ∨ host = "localhost".toList)
  path_ne_nil : path ≠ []
  path_segments : ∀ segment ∈ path, segment ≠ [] ∧ ∀ c ∈ segment, segmentChar c = true
  tag_chars : ∀ text ∈ tag, ∀ c ∈ text, c.toNat < 128 ∧ c ≠ '/' ∧ c ≠ ':' ∧ c ≠ '@'
  digest_chars : ∀ text ∈ digest, '/' ∉ text

namespace ImageReference

variable (r : ImageReference)

def pathText : List Char := ['/'].intercalate r.path

def tagText : List Char := (r.tag.map (':' :: ·)).getD []

def digestText : List Char := (r.digest.map ('@' :: ·)).getD []

def behindRegistry : List Char := r.pathText ++ (r.tagText ++ r.digestText)

def text : String := String.ofList ((r.registry.map (· ++ ['/'])).getD [] ++ r.behindRegistry)

def name : List Char := r.path.getLast r.path_ne_nil

def withoutRegistry : ImageReference := { r with registry := none, registry_host := fun _ h => nomatch h }

def withoutTag : ImageReference := { r with tag := none, tag_chars := fun _ h => nomatch h }

def withoutDigest : ImageReference := { r with digest := none, digest_chars := fun _ h => nomatch h }

end ImageReference

/-- All that is detected but the version. -/
def Technology.kind (technology : Technology) : Option String × Option String × Option String × Option String :=
  (technology.vendor, technology.product, technology.language, technology.subtype)

/-- **Detection goes by the path**, and by the tag for the version. -/
structure GoesByPath (casing : Casing) (r : ImageReference) : Prop where
  registry : (detect casing r.withoutRegistry.text).kind = (detect casing r.text).kind
  tag : (detect casing r.withoutTag.text).kind = (detect casing r.text).kind
  digest : (detect casing r.withoutDigest.text).kind = (detect casing r.text).kind
  unrecognised : (detect casing r.text).vendor = none →
    (detect casing r.text).product = some (String.ofList r.name) ∧
      ∀ product ∈ (detect casing r.text).product, ':' ∉ product.toList ∧ '@' ∉ product.toList
  version_of_tag : ∀ tag, r.tag = some tag → r.digest = none →
    (detect casing r.text).version = some (String.ofList (normalizeVersion tag))
  version_of_no_tag : r.tag = none → (detect casing r.text).version = none

/-- `str::to_lowercase` on ASCII text. -/
def LowersAscii (casing : Casing) : Prop := ∀ l : List Char, (∀ c ∈ l, c.toNat < 128) →
  casing.toLowercase (String.ofList l) = String.ofList (l.map Char.toLower)

/-! ## The characters of a segment -/

theorem segmentChar_range {c : Char} (h : segmentChar c = true) :
    c.toNat = 45 ∨ 48 ≤ c.toNat ∧ c.toNat ≤ 57 ∨ 97 ≤ c.toNat ∧ c.toNat ≤ 122 := by
  rw [segmentChar, Bool.or_eq_true, Bool.or_eq_true, beq_iff_eq] at h
  rcases h with (h | h) | rfl
  · obtain ⟨hlow, hhigh⟩ := (Bool.and_eq_true _ _).mp h
    have hrange : 'a'.val ≤ c.val ∧ c.val ≤ 'z'.val := ⟨of_decide_eq_true hlow, of_decide_eq_true hhigh⟩
    exact .inr (.inr ⟨UInt32.le_iff_toNat_le.mp hrange.1, UInt32.le_iff_toNat_le.mp hrange.2⟩)
  · exact .inr (.inl (Char.isDigit_iff_toNat.1 h))
  · exact .inl rfl

theorem segmentChar_toLower {c : Char} (h : segmentChar c = true) : c.toLower = c := by
  have hrange := segmentChar_range h
  rcases RustStr.toLower_cases c with hlower | hupper
  · exact hlower
  · omega

/-- Only segment characters. -/
def Plain (l : List Char) : Prop := ∀ c ∈ l, segmentChar c = true

theorem Plain.not_mem {l : List Char} (h : Plain l) {c : Char} (hc : segmentChar c = false) : c ∉ l := fun hmem => by
  rw [h c hmem] at hc
  cases hc

/-! ## What is cut off -/

theorem stripRegistry_at {head : List Char} (rest : List Char) (hhead : '/' ∉ head) : stripRegistry (head ++ '/' :: rest) =
    if '.' ∈ head ∨ ':' ∈ head ∨ head = "localhost".toList then rest else head ++ '/' :: rest := by
  rw [stripRegistry, RustStr.splitOnce_append rest hhead]

theorem stripRegistry_of_not_mem {image : List Char} (h : '/' ∉ image) : stripRegistry image = image := by
  rw [stripRegistry, RustStr.splitOnce_eq_none_iff.2 h]

/-- A tag that is still there when a text is split at `@` stays with it. -/
theorem splitTag_digest {repo : List Char} (digest : List Char) (h : '@' ∉ repo) :
    splitTag (repo ++ '@' :: digest) = (repo, none) := by
  rw [splitTag, RustStr.splitOnce_append digest h]

theorem splitTag_tag {repo tag : List Char} (hrepo : '@' ∉ repo) (htag : '@' ∉ tag ∧ ':' ∉ tag ∧ '/' ∉ tag) :
    splitTag (repo ++ ':' :: tag) = (repo, some tag) := by
  have hat : '@' ∉ repo ++ ':' :: tag := fun h => by
    rcases List.mem_append.1 h with h | h
    · exact hrepo h
    · exact htag.1 ((List.mem_cons.1 h).resolve_left (by decide))
  rw [splitTag, RustStr.splitOnce_eq_none_iff.2 hat]
  have hlast := RustStr.rsplitOnceStr_singleton_iff.2 (show repo ++ ':' :: tag = repo ++ ':' :: tag ∧ ':' ∉ tag from
    ⟨rfl, htag.2.1⟩)
  simp only [hlast, if_neg htag.2.2]

theorem splitTag_bare {repo : List Char} (hat : '@' ∉ repo) (hcolon : ':' ∉ repo) : splitTag repo = (repo, none) := by
  have hlast : RustStr.rsplitOnceStr [':'] repo = none :=
    (RustStr.rsplitOnceStr_eq_none_iff (List.cons_ne_nil _ [])).2 (fun h => hcolon (h.subset List.mem_cons_self))
  rw [splitTag, RustStr.splitOnce_eq_none_iff.2 hat]
  simp only [hlast]

namespace ImageReference

variable (r : ImageReference)

theorem plain_of_mem {segment : List Char} (h : segment ∈ r.path) : Plain segment := (r.path_segments segment h).2

theorem mem_tagText {c : Char} (h : c ∈ r.tagText) : c = ':' ∨ c.toNat < 128 ∧ c ≠ '/' ∧ c ≠ '@' := by
  cases htag : r.tag with
  | none =>
    rw [tagText, htag] at h
    cases h
  | some tag =>
    rw [tagText, htag] at h
    rcases List.mem_cons.1 h with h | h
    · exact .inl h
    · obtain ⟨hascii, hslash, -, hat⟩ := r.tag_chars tag htag c h
      exact .inr ⟨hascii, hslash, hat⟩

theorem slash_not_mem_tagText : '/' ∉ r.tagText := fun h =>
  (r.mem_tagText h).elim (fun heq => absurd heq (by decide)) (fun hchar => hchar.2.1 rfl)

theorem slash_not_mem_digestText : '/' ∉ r.digestText := fun h => by
  cases hdigest : r.digest with
  | none =>
    rw [digestText, hdigest] at h
    cases h
  | some digest =>
    rw [digestText, hdigest] at h
    rcases List.mem_cons.1 h with h | h
    · exact absurd h (by decide)
    · exact r.digest_chars digest hdigest h

/-- **Of the registry nothing is left**, and of the path all but a first segment `localhost`. -/
theorem stripRegistry_text : ∃ path, (r.path = path ∨ r.path = "localhost".toList :: path) ∧ path ≠ [] ∧
    stripRegistry r.text.toList = ['/'].intercalate path ++ (r.tagText ++ r.digestText) := by
  have htext : r.text.toList = (r.registry.map (· ++ ['/'])).getD [] ++ r.behindRegistry := String.toList_ofList
  rw [htext]
  cases hregistry : r.registry with
  | some host =>
    obtain ⟨hhost, hlike⟩ := r.registry_host host hregistry
    refine ⟨r.path, .inl rfl, r.path_ne_nil, ?_⟩
    show stripRegistry (host ++ ['/'] ++ r.behindRegistry) = _
    rw [List.append_assoc, List.singleton_append, stripRegistry_at _ hhost, if_pos hlike]
    rfl
  | none =>
    show ∃ path, _ ∧ _ ∧ stripRegistry r.behindRegistry = _
    cases hpath : r.path with
    | nil => exact absurd hpath r.path_ne_nil
    | cons first more =>
      have hfirst : Plain first := r.plain_of_mem (hpath ▸ List.mem_cons_self)
      have hslash : '/' ∉ first := hfirst.not_mem rfl
      rw [behindRegistry, pathText, hpath]
      cases more with
      | nil =>
        refine ⟨[first], .inl rfl, List.cons_ne_nil _ _, stripRegistry_of_not_mem (fun h => ?_)⟩
        rw [List.intercalate_singleton, List.mem_append, List.mem_append] at h
        exact h.elim hslash (fun h => h.elim r.slash_not_mem_tagText r.slash_not_mem_digestText)
      | cons next more =>
        rw [List.intercalate_cons_cons, List.append_assoc, List.append_assoc, List.singleton_append,
          stripRegistry_at _ hslash]
        by_cases hlocal : first = "localhost".toList
        · rw [if_pos (.inr (.inr hlocal))]
          exact ⟨next :: more, .inr (by rw [hlocal]), List.cons_ne_nil _ _, rfl⟩
        · rw [if_neg (fun h => by
            rcases h with h | h | h
            · exact hfirst.not_mem rfl h
            · exact hfirst.not_mem rfl h
            · exact hlocal h)]
          refine ⟨first :: next :: more, .inl rfl, List.cons_ne_nil _ _, ?_⟩
          rw [List.intercalate_cons_cons, List.append_assoc, List.append_assoc, List.singleton_append]

/-- The tag that `splitTag` sees. -/
def seenTag : Option (List Char) := if r.digest.isSome then none else r.tag

def keptText : List Char := if r.digest.isSome then r.tagText else []

theorem splitTag_behind {repo : List Char} (hat : '@' ∉ repo) (hcolon : ':' ∉ repo) :
    splitTag (repo ++ (r.tagText ++ r.digestText)) = (repo ++ r.keptText, r.seenTag) := by
  cases hdigest : r.digest with
  | some digest =>
    have htagText : '@' ∉ repo ++ r.tagText := fun h =>
      (List.mem_append.1 h).elim hat (fun h =>
        (r.mem_tagText h).elim (fun heq => absurd heq (by decide)) (fun hchar => hchar.2.2 rfl))
    have htail : r.digestText = '@' :: digest := by rw [digestText, hdigest]; rfl
    rw [htail, ← List.append_assoc, splitTag_digest digest htagText, keptText, seenTag, hdigest]
    rfl
  | none =>
    have htail : r.digestText = [] := by rw [digestText, hdigest]; rfl
    rw [htail, List.append_nil, keptText, seenTag, hdigest]
    cases htag : r.tag with
    | none =>
      have hnone : r.tagText = [] := by rw [tagText, htag]; rfl
      rw [hnone, List.append_nil, splitTag_bare hat hcolon]
      exact congrArg (·, none) (List.append_nil repo).symm
    | some tag =>
      have hsome : r.tagText = ':' :: tag := by rw [tagText, htag]; rfl
      have hchars := r.tag_chars tag htag
      rw [hsome, splitTag_tag hat ⟨fun h => (hchars _ h).2.2.2 rfl, fun h => (hchars _ h).2.2.1 rfl,
        fun h => (hchars _ h).2.1 rfl⟩]
      exact congrArg (·, some tag) (List.append_nil repo).symm

end ImageReference

/-! ## What is looked up -/

/-- A piece named `distroless` in front of the last one. -/
theorem isDistroless_iff (repo : List Char) :
    isDistroless repo = true ↔ "distroless".toList ∈ (RustStr.split '/' repo).dropLast := by
  have hpiece : '/' ∉ "distroless".toList := by decide
  have hfront : "distroless/".toList = "distroless".toList ++ ['/'] := by decide
  have hinside : "/distroless/".toList = '/' :: ("distroless".toList ++ ['/']) := by decide
  rw [RustStr.mem_dropLast_split_iff hpiece, isDistroless, Bool.or_eq_true, decide_eq_true_eq, List.isPrefixOf_iff_prefix,
    hfront, hinside]

def described (distroless : Bool) (name : List Char) (version : Option (List Char)) : Technology :=
  let version := version.map (fun tag => String.ofList (normalizeVersion tag))
  if distroless then
    { vendor := some "distroless", product := some "distroless", version := version, language := none
      source := "image", subtype := none }
  else
    match rules.find? (fun rule => rule.matches (String.ofList name)) with
    | some rule =>
      { vendor := some rule.vendor, product := some rule.product, version := version
        language := if rule.language = "" then none else some rule.language
        source := "image", subtype := if rule.product = "postgres" then some "postgresql" else none }
    | none =>
      { vendor := none, product := some (String.ofList name), version := version, language := none
        source := "image", subtype := none }

theorem detect_eq (casing : Casing) (image : String) : detect casing image =
    described (isDistroless (casing.toLowercase (String.ofList (splitTag (stripRegistry image.toList)).1)).toList)
      (casing.toLowercase (String.ofList ((RustStr.split '/' (splitTag (stripRegistry image.toList)).1).getLast?.getD
        (splitTag (stripRegistry image.toList)).1))).toList
      (splitTag (stripRegistry image.toList)).2 := by
  rw [described, String.ofList_toList]
  rfl

theorem described_of_known {name : List Char} {rule : Rule}
    (h : rules.find? (fun rule => rule.matches (String.ofList name)) = some rule) (version : Option (List Char)) :
    described false name version =
      { vendor := some rule.vendor, product := some rule.product
        version := version.map (fun tag => String.ofList (normalizeVersion tag))
        language := if rule.language = "" then none else some rule.language
        source := "image", subtype := if rule.product = "postgres" then some "postgresql" else none } := by
  rw [described]
  simp only [h]
  rfl

theorem described_of_unknown {name : List Char}
    (h : rules.find? (fun rule => rule.matches (String.ofList name)) = none) (version : Option (List Char)) :
    described false name version =
      { vendor := none, product := some (String.ofList name)
        version := version.map (fun tag => String.ofList (normalizeVersion tag)), language := none
        source := "image", subtype := none } := by
  rw [described]
  simp only [h]
  rfl

theorem version_described (distroless : Bool) (name : List Char) (version : Option (List Char)) :
    (described distroless name version).version = version.map (fun tag => String.ofList (normalizeVersion tag)) := by
  cases distroless with
  | true => rfl
  | false =>
    cases hrule : rules.find? (fun rule => rule.matches (String.ofList name)) with
    | none => rw [described_of_unknown hrule]
    | some rule => rw [described_of_known hrule]

theorem kind_described (distroless : Bool) (name : List Char) (version version' : Option (List Char)) :
    (described distroless name version).kind = (described distroless name version').kind := by
  cases distroless with
  | true => rfl
  | false =>
    cases hrule : rules.find? (fun rule => rule.matches (String.ofList name)) with
    | none => rw [described_of_unknown hrule, described_of_unknown hrule, Technology.kind, Technology.kind]
    | some rule => rw [described_of_known hrule, described_of_known hrule, Technology.kind, Technology.kind]

/-- **Only an unknown image has no vendor**, and its name is the product. -/
theorem product_of_vendor_none {distroless : Bool} {name : List Char} {version : Option (List Char)}
    (h : (described distroless name version).vendor = none) :
    (described distroless name version).product = some (String.ofList name) := by
  cases distroless with
  | true => cases h
  | false =>
    cases hrule : rules.find? (fun rule => rule.matches (String.ofList name)) with
    | none => rw [described_of_unknown hrule]
    | some rule =>
      rw [described_of_known hrule] at h
      cases h

namespace ImageReference

variable (r : ImageReference) {casing : Casing}

/-- The name that is looked up: the last segment, with a tag in front of a digest. -/
def lookedUp : List Char := r.name ++ r.keptText.map Char.toLower

def distroless : Bool := decide ("distroless".toList ∈ r.path.dropLast)

theorem mem_keptText {c : Char} (h : c ∈ r.keptText) : c ∈ r.tagText := by
  rw [keptText] at h
  split at h
  · exact h
  · cases h

theorem slash_not_mem_lower : '/' ∉ r.keptText.map Char.toLower := fun h => by
  obtain ⟨c, hc, hlower⟩ := List.mem_map.1 h
  rcases RustStr.toLower_cases c with heq | hupper
  · rw [heq] at hlower
    subst hlower
    exact r.slash_not_mem_tagText (r.mem_keptText hc)
  · rw [hlower] at hupper
    have hslash : '/'.toNat = 47 := by decide
    omega

theorem exists_front : ∃ front, (∀ segment ∈ front ++ [r.name], Plain segment) ∧
    ("distroless".toList ∈ r.path.dropLast ↔ "distroless".toList ∈ front) ∧
    stripRegistry r.text.toList = ['/'].intercalate (front ++ [r.name]) ++ (r.tagText ++ r.digestText) := by
  obtain ⟨path, hpath, hne, hstrip⟩ := r.stripRegistry_text
  have hsplit := List.dropLast_append_getLast hne
  rcases hpath with hpath | hpath
  · have hname : r.name = path.getLast hne := List.getLast_congr _ _ hpath
    rw [← hname] at hsplit
    refine ⟨path.dropLast, fun segment h => r.plain_of_mem ?_, by rw [hpath], by rw [hsplit, hstrip]⟩
    rw [hpath, ← hsplit]
    exact h
  · have hname : r.name = path.getLast hne := by
      rw [← List.getLast_cons (a := "localhost".toList) hne]
      exact List.getLast_congr _ _ hpath
    rw [← hname] at hsplit
    refine ⟨path.dropLast, fun segment h => r.plain_of_mem ?_, ?_, by rw [hsplit, hstrip]⟩
    · rw [hpath, ← hsplit]
      exact List.mem_cons_of_mem _ h
    · rw [hpath, List.dropLast_cons_of_ne_nil hne, List.mem_cons]
      exact or_iff_right (by decide)

theorem mem_joined {segments : List (List Char)} (h : ∀ segment ∈ segments, Plain segment) {c : Char}
    (hc : c ∈ ['/'].intercalate segments) : c = '/' ∨ segmentChar c = true :=
  (RustStr.mem_intercalate hc).imp_right (fun ⟨segment, hsegment, hmem⟩ => h segment hsegment c hmem)

theorem joined_toLower {segments : List (List Char)} (h : ∀ segment ∈ segments, Plain segment) :
    (['/'].intercalate segments).map Char.toLower = ['/'].intercalate segments := by
  refine (List.map_congr_left (fun c hc => ?_)).trans (List.map_id _)
  rcases mem_joined h hc with rfl | hsegment
  · rfl
  · exact segmentChar_toLower hsegment

theorem split_joined {front : List (List Char)} {last : List Char} (h : ∀ segment ∈ front ++ [last], Plain segment)
    {rest : List Char} (hrest : '/' ∉ rest) :
    RustStr.split '/' (['/'].intercalate (front ++ [last]) ++ rest) = front ++ [last ++ rest] := by
  have hjoin : ['/'].intercalate (front ++ [last]) ++ rest = ['/'].intercalate (front ++ [last ++ rest]) := by
    cases front with
    | nil => rw [List.nil_append, List.nil_append, List.intercalate_singleton, List.intercalate_singleton]
    | cons first front =>
      rw [RustStr.intercalate_append '/' (List.cons_ne_nil _ _) (List.cons_ne_nil _ _),
        RustStr.intercalate_append '/' (List.cons_ne_nil _ _) (List.cons_ne_nil _ _), List.intercalate_singleton,
        List.intercalate_singleton, List.append_assoc, List.cons_append]
  rw [hjoin]
  refine RustStr.split_intercalate (List.append_ne_nil_of_right_ne_nil _ (List.cons_ne_nil _ _)) (fun piece hpiece => ?_)
  rcases List.mem_append.1 hpiece with hpiece | hpiece
  · exact (h piece (List.mem_append_left _ hpiece)).not_mem rfl
  · rw [List.mem_singleton.1 hpiece, List.mem_append]
    exact fun hmem => hmem.elim ((h last (List.mem_append_right _ List.mem_cons_self)).not_mem rfl) hrest

theorem ascii_keptText {c : Char} (h : c ∈ r.keptText) : c.toNat < 128 := by
  rcases r.mem_tagText (r.mem_keptText h) with rfl | hchar
  · decide
  · exact hchar.1

theorem ascii_of_segmentChar {c : Char} (h : segmentChar c = true) : c.toNat < 128 := by
  have hrange := segmentChar_range h
  omega

/-- **The lookup**, whatever the registry. -/
theorem detect_text (hcasing : LowersAscii casing) :
    detect casing r.text = described r.distroless r.lookedUp r.seenTag := by
  obtain ⟨front, hplain, hfront, hstrip⟩ := r.exists_front
  have hoff : ∀ c, c ≠ '/' → segmentChar c = false → c ∉ ['/'].intercalate (front ++ [r.name]) := fun c hslash hc hmem => by
    rcases mem_joined hplain hmem with h | h
    · exact hslash h
    · rw [hc] at h
      cases h
  have hsplit := r.splitTag_behind (hoff '@' (by decide) rfl) (hoff ':' (by decide) rfl)
  rw [← hstrip] at hsplit
  have hname : Plain r.name := hplain _ (List.mem_append_right _ List.mem_cons_self)
  have hkept : '/' ∉ r.keptText := fun h => r.slash_not_mem_tagText (r.mem_keptText h)
  have hrepo : casing.toLowercase (String.ofList (['/'].intercalate (front ++ [r.name]) ++ r.keptText)) =
      String.ofList (['/'].intercalate (front ++ [r.name]) ++ r.keptText.map Char.toLower) := by
    rw [hcasing _ (fun c hc => ?_), List.map_append, joined_toLower hplain]
    rcases List.mem_append.1 hc with hc | hc
    · rcases mem_joined hplain hc with rfl | hsegment
      · decide
      · exact ascii_of_segmentChar hsegment
    · exact r.ascii_keptText hc
  have hlower : casing.toLowercase (String.ofList (r.name ++ r.keptText)) = String.ofList r.lookedUp := by
    rw [hcasing _ (fun c hc => ?_), List.map_append, lookedUp,
      (List.map_congr_left (fun c hc => segmentChar_toLower (hname c hc))).trans (List.map_id r.name)]
    exact (List.mem_append.1 hc).elim (fun hc => ascii_of_segmentChar (hname c hc)) r.ascii_keptText
  have hdistroless : isDistroless (['/'].intercalate (front ++ [r.name]) ++ r.keptText.map Char.toLower) = r.distroless := by
    rw [Bool.eq_iff_iff, isDistroless_iff, split_joined hplain r.slash_not_mem_lower, List.dropLast_concat, ← hfront,
      distroless, decide_eq_true_eq]
  rw [detect_eq, hsplit, hrepo, String.toList_ofList, hdistroless, split_joined hplain hkept, List.getLast?_concat,
    Option.getD_some, hlower, String.toList_ofList]

end ImageReference

/-! ## A tag left at the name -/

/-- The name starts as the names of some rule may. -/
def HasPrefix (name : List Char) : Prop := ∃ rule ∈ rules, ∃ p ∈ rule.prefixes, p.toList <+: name

instance (name : List Char) : Decidable (HasPrefix name) :=
  inferInstanceAs (Decidable (∃ rule ∈ rules, ∃ p ∈ rule.prefixes, p.toList <+: name))

theorem names_rules : ∀ rule ∈ rules, ∀ n ∈ rule.names, ':' ∉ n.toList ∧ ¬ HasPrefix n.toList := by decide +kernel

theorem prefixes_rules : ∀ rule ∈ rules, ∀ p ∈ rule.prefixes, ':' ∉ p.toList := by decide +kernel

theorem matches_iff {rule : Rule} {name : List Char} : rule.matches (String.ofList name) = true ↔
    String.ofList name ∈ rule.names ∨ ∃ p ∈ rule.prefixes, p.toList <+: name := by
  rw [Rule.matches, Bool.or_eq_true, List.contains_iff_mem, List.any_eq_true, String.toList_ofList]
  simp only [List.isPrefixOf_iff_prefix]

/-- What has no colon is in front of all that starts at the first one. -/
theorem prefix_at_colon_iff {p name : List Char} (hp : ':' ∉ p) (rest : List Char) :
    p <+: name ++ ':' :: rest ↔ p <+: name := by
  refine ⟨fun h => ?_, fun h => h.trans (List.prefix_append name _)⟩
  rcases List.prefix_or_prefix_of_prefix h (List.prefix_append name _) with h' | ⟨t, rfl⟩
  · exact h'
  · rw [List.prefix_append_right_inj] at h
    cases t with
    | nil => rw [List.append_nil]
    | cons x t =>
      rw [(List.cons_prefix_cons.1 h).1] at hp
      exact absurd (List.mem_append_right name List.mem_cons_self) hp

/-- **A name with a tag behind it** is known by a prefix alone. -/
theorem matches_at_colon_iff {rule : Rule} (hrule : rule ∈ rules) (name rest : List Char) :
    rule.matches (String.ofList (name ++ ':' :: rest)) = true ↔ ∃ p ∈ rule.prefixes, p.toList <+: name := by
  rw [matches_iff]
  constructor
  · rintro (h | ⟨p, hp, h⟩)
    · refine absurd ?_ (names_rules rule hrule _ h).1
      rw [String.toList_ofList]
      exact List.mem_append_right name List.mem_cons_self
    · exact ⟨p, hp, (prefix_at_colon_iff (prefixes_rules rule hrule p hp) rest).1 h⟩
  · rintro ⟨p, hp, h⟩
    exact .inr ⟨p, hp, h.trans (List.prefix_append name _)⟩

theorem find?_of_hasPrefix {name : List Char} (h : HasPrefix name) (rest : List Char) :
    rules.find? (fun rule => rule.matches (String.ofList (name ++ ':' :: rest))) =
      rules.find? (fun rule => rule.matches (String.ofList name)) := by
  refine List.find?_congr (fun rule hrule => ?_)
  rw [Bool.eq_iff_iff, matches_at_colon_iff hrule, matches_iff]
  refine ⟨.inr, fun hmatch => hmatch.resolve_left (fun hname => ?_)⟩
  have hnone := (names_rules rule hrule _ hname).2
  rw [String.toList_ofList] at hnone
  exact hnone h

theorem find?_of_not_hasPrefix {name : List Char} (h : ¬ HasPrefix name) (rest : List Char) :
    rules.find? (fun rule => rule.matches (String.ofList (name ++ ':' :: rest))) = none := by
  rw [List.find?_eq_none]
  exact fun rule hrule hmatch => h ⟨rule, hrule, (matches_at_colon_iff hrule name rest).1 hmatch⟩

/-- **A tag changes nothing of the kind** where the repository tells it, or a prefix. -/
theorem kind_at_colon_iff (distroless : Bool) (name rest : List Char) :
    (described distroless (name ++ ':' :: rest) none).kind = (described distroless name none).kind ↔
      distroless = true ∨ HasPrefix name := by
  cases distroless with
  | true => exact iff_of_true rfl (.inl rfl)
  | false =>
    by_cases hprefix : HasPrefix name
    · refine iff_of_true ?_ (.inr hprefix)
      have hfind := find?_of_hasPrefix hprefix rest
      obtain ⟨rule, hrule, p, hp, hname⟩ := hprefix
      obtain ⟨found, hfound⟩ : ∃ found, rules.find? (fun rule => rule.matches (String.ofList name)) = some found :=
        Option.isSome_iff_exists.1 (List.find?_isSome.2 ⟨rule, hrule, matches_iff.2 (.inr ⟨p, hp, hname⟩)⟩)
      rw [hfound] at hfind
      rw [described_of_known hfind, described_of_known hfound]
    · refine iff_of_false (fun hkind => ?_) (fun h => h.elim (fun heq => nomatch heq) hprefix)
      have hunknown : (described false (name ++ ':' :: rest) none).kind =
          (none, some (String.ofList (name ++ ':' :: rest)), none, none) := by
        rw [described_of_unknown (find?_of_not_hasPrefix hprefix rest), Technology.kind]
      rw [hunknown] at hkind
      have hproduct := product_of_vendor_none (congrArg Prod.fst hkind).symm
      have heq := (congrArg (fun kind => kind.2.1) hkind).trans hproduct
      have hlength := congrArg List.length (String.ofList_injective (Option.some.inj heq))
      rw [List.length_append, List.length_cons] at hlength
      omega

namespace ImageReference

variable (r : ImageReference) {casing : Casing}

theorem keptText_eq_nil (h : r.tag = none ∨ r.digest = none) : r.keptText = [] := by
  rcases h with h | h
  · rw [keptText, tagText, h]
    exact ite_self _
  · rw [keptText, h]
    rfl

theorem lookedUp_eq_name (h : r.tag = none ∨ r.digest = none) : r.lookedUp = r.name := by
  rw [lookedUp, r.keptText_eq_nil h]
  exact List.append_nil _

theorem lookedUp_of_some {tag digest : List Char} (htag : r.tag = some tag) (hdigest : r.digest = some digest) :
    r.lookedUp = r.name ++ ':' :: tag.map Char.toLower := by
  rw [lookedUp, keptText, tagText, htag, hdigest]
  rfl

theorem kind_text (hcasing : LowersAscii casing) :
    (detect casing r.text).kind = (described r.distroless r.lookedUp none).kind := by
  rw [r.detect_text hcasing]
  exact kind_described r.distroless r.lookedUp _ _

theorem kind_text_of_one (hcasing : LowersAscii casing) (h : r.tag = none ∨ r.digest = none) :
    (detect casing r.text).kind = (described r.distroless r.name none).kind := by
  rw [r.kind_text hcasing, r.lookedUp_eq_name h]

theorem name_plain : Plain r.name := r.plain_of_mem (List.getLast_mem r.path_ne_nil)

theorem goesByPath_iff_kind (hcasing : LowersAscii casing) : GoesByPath casing r ↔
    (described r.distroless r.lookedUp none).kind = (described r.distroless r.name none).kind := by
  constructor
  · intro h
    have hbare := r.withoutDigest.kind_text_of_one hcasing (.inr rfl)
    exact (r.kind_text hcasing).symm.trans (h.digest.symm.trans hbare)
  · intro hkind
    have hname := (r.kind_text hcasing).trans hkind
    have hversion : (detect casing r.text).version = r.seenTag.map (fun tag => String.ofList (normalizeVersion tag)) := by
      rw [r.detect_text hcasing, version_described]
    refine
      { registry := (r.withoutRegistry.kind_text hcasing).trans (r.kind_text hcasing).symm
        tag := (r.withoutTag.kind_text_of_one hcasing (.inl rfl)).trans hname.symm
        digest := (r.withoutDigest.kind_text_of_one hcasing (.inr rfl)).trans hname.symm
        unrecognised := fun hvendor => ?_
        version_of_tag := fun tag htag hdigest => ?_
        version_of_no_tag := fun htag => ?_ }
    · have hnone := (congrArg Prod.fst hname).symm.trans hvendor
      have hproduct : (detect casing r.text).product = some (String.ofList r.name) :=
        (congrArg (fun kind => kind.2.1) hname).trans (product_of_vendor_none hnone)
      refine ⟨hproduct, fun product hmem => ?_⟩
      rw [hproduct, Option.mem_some_iff] at hmem
      rw [← hmem, String.toList_ofList]
      exact ⟨r.name_plain.not_mem rfl, r.name_plain.not_mem rfl⟩
    · rw [hversion, seenTag, htag, hdigest]
      rfl
    · rw [hversion, seenTag, htag]
      exact congrArg _ (ite_self none)

end ImageReference

/-- **Detection goes by the path** unless a tag stands in front of a digest at a name that neither its repository nor a
prefix tells. -/
theorem goesByPath_iff {casing : Casing} (hcasing : LowersAscii casing) (r : ImageReference) : GoesByPath casing r ↔
    r.tag = none ∨ r.digest = none ∨ "distroless".toList ∈ r.path.dropLast ∨ HasPrefix r.name := by
  rw [r.goesByPath_iff_kind hcasing]
  cases htag : r.tag with
  | none => exact iff_of_true (by rw [r.lookedUp_eq_name (.inl htag)]) (.inl rfl)
  | some tag =>
    cases hdigest : r.digest with
    | none => exact iff_of_true (by rw [r.lookedUp_eq_name (.inr hdigest)]) (.inr (.inl rfl))
    | some digest =>
      rw [r.lookedUp_of_some htag hdigest, kind_at_colon_iff, ImageReference.distroless, decide_eq_true_eq]
      simp only [reduceCtorEq, false_or]

def asciiCasing : Casing where
  toLowercase s := String.ofList (s.toList.map Char.toLower)
  toUppercase s := String.ofList (s.toList.map Char.toUpper)

theorem lowersAscii_asciiCasing : LowersAscii asciiCasing := fun l _ => by
  show String.ofList ((String.ofList l).toList.map Char.toLower) = _
  rw [String.toList_ofList]

/-- `name:1.25@sha256:ab`, with a registry. -/
def pinned (name : List Char) (hne : name ≠ []) (hname : name.all segmentChar = true) : ImageReference where
  registry := some "registry.local:5000".toList
  path := [name]
  tag := some "1.25".toList
  digest := some "sha256:ab".toList
  registry_host := by decide
  path_ne_nil := List.cons_ne_nil _ _
  path_segments := fun segment h => by
    rw [List.mem_singleton.1 h]
    exact ⟨hne, List.all_eq_true.1 hname⟩
  tag_chars := fun text h c hc => by
    have hall : "1.25".toList.all (fun c => decide (c.toNat < 128 ∧ c ≠ '/' ∧ c ≠ ':' ∧ c ≠ '@')) = true := by decide
    cases h
    exact of_decide_eq_true (List.all_eq_true.1 hall c hc)
  digest_chars := by decide

theorem goesByPath_pinned_prefix : GoesByPath asciiCasing (pinned "postgres-exporter".toList (by decide) (by decide)) :=
  (goesByPath_iff lowersAscii_asciiCasing _).2 (by decide +kernel)

theorem tag_at_name : (detect asciiCasing (pinned "nginx".toList (by decide) (by decide)).text).product = some "nginx:1.25" ∧
    ¬ GoesByPath asciiCasing (pinned "nginx".toList (by decide) (by decide)) := by
  have hunknown : (detect asciiCasing (pinned "nginx".toList (by decide) (by decide)).text).vendor = none ∧
      (detect asciiCasing (pinned "nginx".toList (by decide) (by decide)).text).product = some "nginx:1.25" := by
    decide +kernel
  obtain ⟨hvendor, hproduct⟩ := hunknown
  refine ⟨hproduct, fun h => ?_⟩
  have hsame := (h.unrecognised hvendor).1
  rw [hproduct] at hsame
  revert hsame
  decide +kernel

end Tech
end HubAgent
