import HubAgent.Lib.Slices
import HubAgent.Lib.Tokens
import HubAgent.PostgresSpec
/-!
# The search for a whole token (`plugins/mod.rs`, `contains_token`)

The loop goes by byte offsets: it cuts the text at each occurrence of the needle and goes on behind it.  No cut is inside
a character, the loop ends, and it finds what is to be found: what it jumps over is touched by the needle itself.
-/
namespace HubAgent
namespace Plugins

open RustStr (SlicePanic slice utf8Len findStr)

/-- The loop from the byte offset `start` on; `none` when the turns are used up. -/
def containsTokenAt (needle lower : List Char) : Nat → Nat → Except SlicePanic (Option Bool)
  | 0, _ => .ok none
  | fuel + 1, start => do
    match findStr needle (← slice lower start (utf8Len lower)) with
    | none => pure (some false)
    | some idx =>
      let idx := start + idx
      let before := (← slice lower 0 idx).getLast?
      let after := (← slice lower (idx + utf8Len needle) (utf8Len lower)).head?
      if isBoundary before && isBoundary after then pure (some true)
      else containsTokenAt needle lower fuel (idx + utf8Len needle)

/-- A letter or digit of a needle, in lower case. -/
def needleChar (c : Char) : Bool := c.isLower || c.isDigit

/-- **A whole token** of a text. -/
def HasToken (needle lower : List Char) : Prop :=
  ∃ a b, lower = a ++ needle ++ b ∧ isBoundary a.getLast? = true ∧ isBoundary b.head? = true

theorem isBoundary_iff (c : Option Char) : isBoundary c = true ↔ Tokens.Free Char.isAlphanum c := by
  cases c with
  | none => exact iff_of_true rfl (fun _ h => nomatch h)
  | some c =>
    rw [Tokens.Free, isBoundary]
    simp

theorem hasToken_iff (needle lower : List Char) : HasToken needle lower ↔ Tokens.Occurs Char.isAlphanum needle [] lower := by
  simp only [HasToken, Tokens.Occurs, isBoundary_iff, List.nil_append]

theorem isAlphanum_of_needleChar {c : Char} (h : needleChar c = true) : c.isAlphanum = true := by
  rw [needleChar, Bool.or_eq_true] at h
  show (c.isUpper || c.isLower || c.isDigit) = true
  rw [Bool.or_eq_true, Bool.or_eq_true]
  exact h.imp_left .inr

/-! ## What the loop finds -/

/-- **The loop finds what is there**, however it jumps. -/
theorem containsTokenFrom_iff {needle : List Char} (hne : needle ≠ []) (hneedle : ∀ c ∈ needle, c.isAlphanum = true) :
    ∀ {fuel : Nat} {before rest : List Char}, rest.length < fuel →
      (containsTokenFrom needle fuel before rest = true ↔ Tokens.Occurs Char.isAlphanum needle before rest)
  | fuel + 1, before, rest, h => by
    rw [containsTokenFrom]
    cases hfound : RustStr.splitOnceStr needle rest with
    | none =>
      refine iff_of_false (fun h => nomatch h) (fun hoccurs => ?_)
      exact (RustStr.splitOnceStr_eq_none_iff hne).1 hfound (Tokens.part_of_occurs hoccurs)
    | some parts =>
      obtain ⟨gap, after⟩ := parts
      obtain ⟨rfl, hfirst⟩ := (RustStr.splitOnceStr_eq_some_iff hne).1 hfound
      have hpos := List.length_pos_iff.2 hne
      simp only [List.length_append] at h
      by_cases hhit : (isBoundary (before ++ gap).getLast? && isBoundary after.head?) = true
      · simp only [if_pos hhit, true_iff]
        rw [Bool.and_eq_true, isBoundary_iff, isBoundary_iff] at hhit
        exact ⟨gap, after, rfl, hhit.1, hhit.2⟩
      · simp only [if_neg hhit]
        rw [Bool.and_eq_true, isBoundary_iff, isBoundary_iff] at hhit
        rw [containsTokenFrom_iff hne hneedle (by omega), Tokens.occurs_behind_iff hneedle hfirst hhit]

/-- **Every cut is at a character**, and the offsets are those of the texts. -/
theorem containsTokenAt_eq {needle : List Char} (hne : needle ≠ []) : ∀ {fuel : Nat} {before rest : List Char},
    rest.length < fuel →
    containsTokenAt needle (before ++ rest) fuel (utf8Len before) = .ok (some (containsTokenFrom needle fuel before rest))
  | fuel + 1, before, rest, h => by
    rw [containsTokenAt, containsTokenFrom, RustStr.slice_behind]
    cases hfound : RustStr.splitOnceStr needle rest with
    | none => simp only [bind, Except.bind, findStr, hfound, Option.map_none, pure, Except.pure]
    | some parts =>
      obtain ⟨gap, after⟩ := parts
      obtain ⟨rfl, -⟩ := (RustStr.splitOnceStr_eq_some_iff hne).1 hfound
      have hpos := List.length_pos_iff.2 hne
      simp only [List.length_append] at h
      have hfront : slice (before ++ (gap ++ needle ++ after)) 0 (utf8Len before + utf8Len gap) = .ok (before ++ gap) := by
        rw [← RustStr.utf8Len_append, List.append_assoc, ← List.append_assoc]
        exact RustStr.slice_front (before ++ gap) (needle ++ after)
      have hwhole : before ++ (gap ++ needle ++ after) = before ++ gap ++ needle ++ after := by
        simp only [List.append_assoc]
      have hstart : utf8Len before + utf8Len gap + utf8Len needle = utf8Len (before ++ gap ++ needle) := by
        rw [RustStr.utf8Len_append, RustStr.utf8Len_append]
      have hbehind : slice (before ++ (gap ++ needle ++ after)) (utf8Len before + utf8Len gap + utf8Len needle)
          (utf8Len (before ++ (gap ++ needle ++ after))) = .ok after := by
        rw [hwhole, hstart]
        exact RustStr.slice_behind (before ++ gap ++ needle) after
      simp only [bind, Except.bind, findStr, hfound, Option.map_some, hfront, hbehind]
      by_cases hhit : (isBoundary (before ++ gap).getLast? && isBoundary after.head?) = true
      · rw [if_pos hhit, if_pos hhit]
        rfl
      · rw [if_neg hhit, if_neg hhit, hwhole, hstart]
        exact containsTokenAt_eq hne (by omega)

theorem containsToken_iff {value needle : String} (hne : needle.toList ≠ [])
    (hneedle : ∀ c ∈ needle.toList, needleChar c = true) :
    containsToken value needle = true ↔ HasToken needle.toList (toAsciiLowercase value) := by
  rw [hasToken_iff]
  exact containsTokenFrom_iff hne (fun c hc => isAlphanum_of_needleChar (hneedle c hc)) (Nat.lt_succ_self _)

theorem matchesClearPostgresqlName_iff (value : String) : matchesClearPostgresqlName value = true ↔
    ∃ needle ∈ ["postgresql", "postgres", "pgsql"], HasToken needle.toList (toAsciiLowercase value) := by
  have hneedles : ∀ needle ∈ ["postgresql", "postgres", "pgsql"],
      needle.toList ≠ [] ∧ needle.toList.all needleChar = true := by decide
  rw [matchesClearPostgresqlName, List.any_eq_true]
  refine exists_congr (fun needle => and_congr_right (fun hmem => ?_))
  obtain ⟨hne, hchars⟩ := hneedles needle hmem
  exact containsToken_iff hne (List.all_eq_true.1 hchars)

/-- **The search is exact**: every cut is at a character, the turns suffice, and the answer is whether the text has the
needle as a whole token. -/
theorem containsToken_exact (value needle : String) (hne : needle ≠ "") (hneedle : ∀ c ∈ needle.toList, needleChar c = true)
    {fuel : Nat} (hfuel : value.length < fuel) :
    containsTokenAt needle.toList (toAsciiLowercase value) fuel 0 = .ok (some (containsToken value needle)) ∧
      (containsToken value needle = true ↔ HasToken needle.toList (toAsciiLowercase value)) := by
  have hlist : needle.toList ≠ [] := fun h => hne (String.toList_eq_nil_iff.1 h)
  refine ⟨?_, containsToken_iff hlist hneedle⟩
  have hlength : (toAsciiLowercase value).length < fuel := by
    rw [toAsciiLowercase, List.length_map]
    exact hfuel
  show containsTokenAt needle.toList ([] ++ toAsciiLowercase value) fuel (utf8Len []) = _
  rw [containsTokenAt_eq hlist hlength, containsTokenFrom_fuel hlist hlength (Nat.lt_succ_self _)]
  rfl

theorem containsToken_exact_overlapping :
    containsTokenAt "pgpg".toList (toAsciiLowercase "pgpgpg-é-PGPG") 14 0 =
      .ok (some (containsToken "pgpgpg-é-PGPG" "pgpg")) ∧
    (containsToken "pgpgpg-é-PGPG" "pgpg" = true ↔ HasToken "pgpg".toList (toAsciiLowercase "pgpgpg-é-PGPG")) :=
  containsToken_exact "pgpgpg-é-PGPG" "pgpg" (by decide) (List.all_eq_true.1 (by decide)) (by decide)

end Plugins
end HubAgent
