import Mathlib.Data.List.Basic
/-!
# Segments behind separators

A path is its segments, each behind a separator.  Segments that do not contain the separator are read off the path
(`joined_injective`).
-/
namespace Segments

variable {α : Type} {sep : α}

def joined (sep : α) (segments : List (List α)) : List α := segments.flatMap (fun s => sep :: s)

theorem joined_cons (s : List α) (segments : List (List α)) :
    joined sep (s :: segments) = sep :: (s ++ joined sep segments) := rfl

theorem joined_eq_nil_or_cons (sep : α) : ∀ (segments : List (List α)),
    joined sep segments = [] ∨ ∃ rest, joined sep segments = sep :: rest
  | [] => .inl rfl
  | s :: segments => .inr ⟨s ++ joined sep segments, rfl⟩

/-- The first segment ends where the separator is next. -/
theorem first_segment_unique : ∀ {s t : List α} {xs ys : List (List α)}, sep ∉ s → sep ∉ t →
    s ++ joined sep xs = t ++ joined sep ys → s = t ∧ joined sep xs = joined sep ys
  | [], [], _, _, _, _, h => ⟨rfl, h⟩
  | [], b :: t, xs, _, _, ht, h => by
    rcases joined_eq_nil_or_cons sep xs with hx | ⟨rest, hx⟩
    · rw [hx] at h
      cases h
    · rw [hx] at h
      simp only [List.nil_append, List.cons_append, List.cons.injEq] at h
      exact absurd (h.1 ▸ List.mem_cons_self) ht
  | a :: s, [], _, ys, hs, _, h => by
    rcases joined_eq_nil_or_cons sep ys with hy | ⟨rest, hy⟩
    · rw [hy] at h
      cases h
    · rw [hy] at h
      simp only [List.nil_append, List.cons_append, List.cons.injEq] at h
      exact absurd (h.1 ▸ List.mem_cons_self) hs
  | a :: s, b :: t, _, _, hs, ht, h => by
    simp only [List.cons_append, List.cons.injEq] at h
    have hs' : sep ∉ s := fun hmem => hs (List.mem_cons_of_mem a hmem)
    have ht' : sep ∉ t := fun hmem => ht (List.mem_cons_of_mem b hmem)
    obtain ⟨hst, hrest⟩ := first_segment_unique hs' ht' h.2
    exact ⟨by rw [h.1, hst], hrest⟩

/-- **Segments without the separator are read off the path.** -/
theorem joined_injective : ∀ {xs ys : List (List α)}, (∀ s ∈ xs, sep ∉ s) → (∀ s ∈ ys, sep ∉ s) →
    joined sep xs = joined sep ys → xs = ys
  | [], [], _, _, _ => rfl
  | [], t :: ys, _, _, h => by cases h
  | s :: xs, [], _, _, h => by cases h
  | s :: xs, t :: ys, hx, hy, h => by
    rw [joined_cons, joined_cons, List.cons.injEq] at h
    obtain ⟨hst, hrest⟩ := first_segment_unique (hx s (by simp)) (hy t (by simp)) h.2
    have hxs : ∀ u ∈ xs, sep ∉ u := fun u hu => hx u (List.mem_cons_of_mem s hu)
    have hys : ∀ u ∈ ys, sep ∉ u := fun u hu => hy u (List.mem_cons_of_mem t hu)
    rw [hst, joined_injective hxs hys hrest]

end Segments
