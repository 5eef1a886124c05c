import Mathlib.Data.List.Basic
/-!
# Whole tokens

An occurrence of a needle in a list is a token when no element that tokens are made of touches it.  A search that has
found an occurrence which is none can go on behind it: an occurrence that overlaps it is touched by the needle's own
elements (`occurs_behind_iff`).
-/
namespace Tokens

variable {α : Type} {p : α → Bool}

/-- Nothing of a token stands there. -/
def Free (p : α → Bool) (c : Option α) : Prop := ∀ x ∈ c, p x = false

/-- **A token** in `rest`, which stands behind `before`. -/
def Occurs (p : α → Bool) (needle before rest : List α) : Prop :=
  ∃ a b, rest = a ++ needle ++ b ∧ Free p (before ++ a).getLast? ∧ Free p b.head?

theorem part_of_occurs {needle before rest : List α} : Occurs p needle before rest → needle <:+: rest
  | ⟨a, b, heq, _⟩ => heq ▸ List.infix_append a needle b

theorem not_free_append {l t : List α} (hne : t ≠ []) (h : ∀ x ∈ t, p x = true) : ¬ Free p (l ++ t).getLast? := fun hfree => by
  have hlast : t.getLast hne ∈ (l ++ t).getLast? := by
    rw [List.getLast?_append_of_ne_nil _ hne, List.getLast?_eq_getLast_of_ne_nil hne]
    rfl
  have hnot := hfree _ hlast
  rw [h _ (List.getLast_mem hne)] at hnot
  cases hnot

/-- **Nothing is lost behind an occurrence that is no token**, when it is the first and the needle is made of what tokens
are made of. -/
theorem occurs_behind_iff {needle before gap after : List α} (hneedle : ∀ x ∈ needle, p x = true)
    (hfirst : ∀ a b, gap ++ needle ++ after = a ++ needle ++ b → gap.length ≤ a.length)
    (hmiss : ¬ (Free p (before ++ gap).getLast? ∧ Free p after.head?)) :
    Occurs p needle before (gap ++ needle ++ after) ↔ Occurs p needle (before ++ gap ++ needle) after := by
  constructor
  · rintro ⟨a, b, heq, hbefore, hbehind⟩
    have hgap : gap <+: a ++ needle ++ b := by
      rw [← heq, List.append_assoc]
      exact List.prefix_append gap _
    have ha : a <+: a ++ needle ++ b := by
      rw [List.append_assoc]
      exact List.prefix_append a _
    obtain ⟨t, rfl⟩ := List.prefix_of_prefix_length_le hgap ha (hfirst a b heq)
    rw [List.append_assoc, List.append_assoc, List.append_assoc, List.append_cancel_left_eq] at heq
    rw [← List.append_assoc] at hbefore
    rcases List.append_eq_append_iff.1 heq with ⟨s, rfl, hafter⟩ | ⟨s, hs, hrest⟩
    · -- the whole of the needle lies in between
      refine ⟨s, b, hafter.trans (List.append_assoc _ _ _).symm, ?_, hbehind⟩
      rw [← List.append_assoc] at hbefore
      exact hbefore
    · by_cases ht : t = []
      · subst ht
        rw [List.nil_append] at hs
        rw [← hs, List.append_cancel_left_eq] at hrest
        rw [List.append_nil] at hbefore
        rw [hrest] at hbehind
        exact absurd ⟨hbefore, hbehind⟩ hmiss
      · -- it overlaps the needle's beginning, which touches it
        refine absurd hbefore (not_free_append ht (fun x hx => hneedle x ?_))
        rw [hs]
        exact List.mem_append_left s hx
  · rintro ⟨a, b, rfl, hbefore, hbehind⟩
    refine ⟨gap ++ needle ++ a, b, ?_, ?_, hbehind⟩
    · simp only [List.append_assoc]
    · simpa only [List.append_assoc] using hbefore

end Tokens
