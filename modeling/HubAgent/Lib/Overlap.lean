import Mathlib.Data.List.Count
/-!
# How much two properties of a population overlap

Of a population only three numbers are known: its size, and how many have one property and how many the other.  At least
as many have both as the two numbers together exceed the size (`overlap_ge`), and no more need to (`exists_overlap`).
-/
namespace Overlap

variable {α : Type}

/-- How many have both properties. -/
def both (p q : α → Bool) (l : List α) : Nat := l.countP (fun a => p a && q a)

theorem both_cons (p q : α → Bool) (a : α) (l : List α) :
    both p q (a :: l) = both p q l + if p a && q a then 1 else 0 := by
  unfold both
  rw [List.countP_cons]

/-- **What must overlap.** -/
theorem overlap_ge (p q : α → Bool) : ∀ l : List α, l.countP p + l.countP q ≤ l.length + both p q l
  | [] => Nat.le_refl _
  | a :: l => by
    have ih := overlap_ge p q l
    rw [both_cons, List.countP_cons, List.countP_cons, List.length_cons]
    cases p a <;> cases q a <;> simp <;> omega

/-- The population with the least overlap: those with both properties, with the first, with the second, with none. -/
def leastOverlap (n u a : Nat) : List (Bool × Bool) :=
  List.replicate (u + a - n) (true, true) ++ List.replicate (u - (u + a - n)) (true, false) ++
    List.replicate (a - (u + a - n)) (false, true) ++ List.replicate (n - (u + a)) (false, false)

/-- **The bound is met** by some population, whatever the numbers. -/
theorem exists_overlap {n u a : Nat} (hu : u ≤ n) (ha : a ≤ n) : ∃ l : List (Bool × Bool), l.length = n ∧
    l.countP Prod.fst = u ∧ l.countP Prod.snd = a ∧ both Prod.fst Prod.snd l = u + a - n := by
  refine ⟨leastOverlap n u a, ?_, ?_, ?_, ?_⟩
  · simp only [leastOverlap, List.length_append, List.length_replicate]
    omega
  · simp only [leastOverlap, List.countP_append, List.countP_replicate]
    simp
    omega
  · simp only [leastOverlap, List.countP_append, List.countP_replicate]
    simp
    omega
  · simp only [both, leastOverlap, List.countP_append, List.countP_replicate]
    simp

end Overlap
