import HubAgent.Lib.Suffixes
import HubAgent.ImageDetection
/-!
# The normal form of a version (`tech.rs`, `normalize_version`)

A tag is a version with the flavours of the image stacked behind it, and what is reported should be the version.  The
leading `v` always goes.  The suffixes are tried once, in the order of a table, so all go exactly when the tag, read from
its end, has them in that order (`normalized_iff`): `1.25-jre-alpine` is fine, and of `3.11-slim-bookworm` the `-slim`
stays.
-/
namespace HubAgent
namespace Tech

open Suffixes (Bare Apart InOrder stacked)
open Collector (Casing)

def flavourTable : List (List Char) := versionSuffixes.map String.toList

/-- **The normal form of a tag**: no `v` in front, no flavour behind, and the same when it is normalised again or when
more flavours are behind the same version. -/
structure Normalized (tag : List Char) : Prop where
  no_v : (normalizeVersion tag).head? ≠ some 'v'
  no_flavour : ∀ flavour ∈ flavourTable, ¬ flavour <:+ normalizeVersion tag
  again : normalizeVersion (normalizeVersion tag) = normalizeVersion tag
  flavours : ∀ version flavours, (∀ flavour ∈ flavours, flavour ∈ flavourTable) → tag = stacked version flavours →
    normalizeVersion tag = normalizeVersion version

/-! ## The table -/

theorem apart_flavourTable : Apart flavourTable where
  ne_nil := by decide +kernel
  eq_of_suffix := by decide +kernel

theorem head?_flavour : ∀ flavour ∈ flavourTable, flavour.head? = some '-' := by decide +kernel

/-! ## The leading `v` -/

def dropV (tag : List Char) : List Char := tag.dropWhile (· == 'v')

theorem head?_dropV (tag : List Char) : (dropV tag).head? ≠ some 'v' := fun h => by
  have hnot := List.head?_dropWhile_not (· == 'v') tag
  rw [show (tag.dropWhile (· == 'v')).head? = some 'v' from h] at hnot
  simp at hnot

/-- No flavour starts with a `v`, so what is stacked stays. -/
theorem dropV_stacked (version : List Char) : ∀ {flavours : List (List Char)},
    (∀ flavour ∈ flavours, flavour ∈ flavourTable) → dropV (stacked version flavours) = stacked (dropV version) flavours
  | [], _ => rfl
  | flavour :: flavours, h => by
    have ih : dropV (stacked version flavours) = stacked (dropV version) flavours :=
      dropV_stacked version (fun f hf => h f (List.mem_cons_of_mem _ hf))
    have hkept : flavour.dropWhile (· == 'v') = flavour := by
      cases flavour with
      | nil => rfl
      | cons c rest =>
        have hdash : c = '-' := Option.some.inj (head?_flavour _ (h _ List.mem_cons_self))
        rw [hdash]
        rfl
    rw [stacked, stacked, ← ih, dropV, List.dropWhile_append, hkept]
    split
    · rename_i hempty
      rw [dropV, List.isEmpty_iff.1 hempty, List.nil_append]
    · rfl

theorem normalizeVersion_eq (tag : List Char) : normalizeVersion tag = Suffixes.pass flavourTable (dropV tag) := by
  rw [normalizeVersion, Suffixes.pass, flavourTable, List.foldl_map]
  congr 1
  funext v suffix
  rw [RustStr.stripSuffix, Suffixes.strip]
  simp only [List.isSuffixOf_iff_suffix]
  split
  · rfl
  · rfl

/-- The `v` in front has no part in the order of the flavours. -/
theorem inOrder_dropV_iff (tag : List Char) : InOrder flavourTable (dropV tag) ↔ InOrder flavourTable tag := by
  constructor
  · rintro h version flavours hlisted rfl
    exact h (dropV version) flavours hlisted (dropV_stacked version hlisted)
  · intro h version flavours hlisted heq
    refine h (tag.takeWhile (· == 'v') ++ version) flavours hlisted ?_
    rw [← Suffixes.append_stacked, ← heq]
    exact List.takeWhile_append_dropWhile.symm

/-! ## The normal form -/

theorem head?_normalizeVersion (tag : List Char) : (normalizeVersion tag).head? ≠ some 'v' := by
  rw [normalizeVersion_eq]
  obtain ⟨behind, heq⟩ := Suffixes.prefix_pass flavourTable (dropV tag)
  intro h
  refine head?_dropV tag ?_
  rw [← heq, List.head?_append, h]
  rfl

/-- **No flavour is left exactly when the flavours are in the order of the table.** -/
theorem bare_normalizeVersion_iff (tag : List Char) :
    Bare flavourTable (normalizeVersion tag) ↔ InOrder flavourTable tag := by
  rw [normalizeVersion_eq, Suffixes.bare_pass_iff apart_flavourTable, inOrder_dropV_iff]

/-- What has neither a `v` in front nor a flavour behind stays as it is. -/
theorem normalizeVersion_of_bare {version : List Char} (hv : version.head? ≠ some 'v') (hbare : Bare flavourTable version) :
    normalizeVersion version = version := by
  have hkept : dropV version = version := by
    cases version with
    | nil => rfl
    | cons c rest =>
      have hc : (c == 'v') = false := beq_false_of_ne (fun heq => hv (congrArg some heq))
      rw [dropV, List.dropWhile_cons_of_neg (by rw [hc]; decide)]
  rw [normalizeVersion_eq, hkept, Suffixes.pass_of_bare hbare]

theorem normalizeVersion_stacked {version : List Char} {flavours : List (List Char)}
    (hlisted : ∀ flavour ∈ flavours, flavour ∈ flavourTable) (h : InOrder flavourTable (stacked version flavours)) :
    normalizeVersion (stacked version flavours) = normalizeVersion version := by
  rw [← inOrder_dropV_iff, dropV_stacked version hlisted] at h
  rw [normalizeVersion_eq, normalizeVersion_eq, dropV_stacked version hlisted,
    Suffixes.pass_eq_of_inOrder apart_flavourTable hlisted h]

/-- **A tag is normalised exactly when its flavours, read from its end, are in the order of the table.** -/
theorem normalized_iff (tag : List Char) : Normalized tag ↔ InOrder flavourTable tag := by
  rw [← bare_normalizeVersion_iff]
  constructor
  · exact fun h => h.no_flavour
  · intro hbare
    refine ⟨head?_normalizeVersion tag, hbare, normalizeVersion_of_bare (head?_normalizeVersion tag) hbare, ?_⟩
    rintro version flavours hlisted rfl
    exact normalizeVersion_stacked hlisted ((bare_normalizeVersion_iff _).1 hbare)

example : normalizeVersion "v21-jre-alpine".toList = "21".toList := by decide +kernel

/-- Of `3.11-slim-bookworm` the version is given as `3.11-slim`: the table has `-slim` before `-bookworm`. -/
theorem slim_bookworm_left : normalizeVersion "3.11-slim-bookworm".toList = "3.11-slim".toList ∧
    ¬ Normalized "3.11-slim-bookworm".toList := by
  have hleft : normalizeVersion "3.11-slim-bookworm".toList = "3.11-slim".toList := by decide +kernel
  refine ⟨hleft, fun h => ?_⟩
  have hnot := h.no_flavour "-slim".toList (by decide +kernel)
  rw [hleft] at hnot
  exact hnot (by decide +kernel)

/-- **One version is reported of two images**, whatever their names and registries, when their tags have the flavours of
one version in the order of the table. -/
theorem version_detected_alike {casing : Casing} (hcasing : LowersAscii casing) {r r' : ImageReference}
    {version : List Char} {flavours flavours' : List (List Char)}
    (hlisted : ∀ flavour ∈ flavours, flavour ∈ flavourTable) (hlisted' : ∀ flavour ∈ flavours', flavour ∈ flavourTable)
    (htag : r.tag = some (stacked version flavours)) (htag' : r'.tag = some (stacked version flavours'))
    (hdigest : r.digest = none) (hdigest' : r'.digest = none)
    (h : InOrder flavourTable (stacked version flavours)) (h' : InOrder flavourTable (stacked version flavours')) :
    (detect casing r.text).version = (detect casing r'.text).version := by
  rw [r.detect_text hcasing, r'.detect_text hcasing, version_described, version_described, ImageReference.seenTag,
    ImageReference.seenTag, hdigest, hdigest', htag, htag']
  exact congrArg (fun v => some (String.ofList v))
    ((normalizeVersion_stacked hlisted h).trans (normalizeVersion_stacked hlisted' h').symm)

end Tech
end HubAgent
