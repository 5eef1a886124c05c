import Mathlib.Data.List.Sort
/-!
# Sorting with a comparator and keeping the first

A comparator that is a total preorder (`Std.TransCmp`) sorts stably: entries that compare equal stay as they stood.  Where
only equal entries of a list compare equal, the sorted list does not depend on how the list was ordered
(`sortBy_eq_of_perm`), and what a cut keeps ranks with or before what it drops (`isLE_of_kept_of_dropped`).
-/
namespace Ranked

variable {α κ : Type} (cmp : α → α → Ordering)

/-- `slice::sort_by`. -/
def sortBy (l : List α) : List α := l.insertionSort (fun a b => (cmp a b).isLE = true)

theorem perm_sortBy (l : List α) : (sortBy cmp l).Perm l := List.perm_insertionSort _ l

@[simp] theorem mem_sortBy {l : List α} {a : α} : a ∈ sortBy cmp l ↔ a ∈ l := (perm_sortBy cmp l).mem_iff

@[simp] theorem length_sortBy (l : List α) : (sortBy cmp l).length = l.length := (perm_sortBy cmp l).length_eq

/-- On this list the comparator tells different entries apart. -/
def Separates (l : List α) : Prop := ∀ a ∈ l, ∀ b ∈ l, cmp a b = .eq → a = b

/-- A comparator separates the entries of a list when it decides a key that no two of them share. -/
theorem separates_of_nodup {key : α → κ} {l : List α} (hkey : ∀ a b, cmp a b = .eq → key a = key b)
    (hl : (l.map key).Nodup) : Separates cmp l :=
  fun a ha b hb h => List.inj_on_of_nodup_map hl ha hb (hkey a b h)

variable [Std.TransCmp cmp]

theorem pairwise_sortBy (l : List α) : (sortBy cmp l).Pairwise (fun a b => (cmp a b).isLE = true) := by
  have : IsTrans α (fun a b => (cmp a b).isLE = true) := ⟨fun _ _ _ => Std.TransCmp.isLE_trans⟩
  have : Std.Total (fun a b => (cmp a b).isLE = true) := ⟨fun a b => by
    have hswap : cmp b a = (cmp a b).swap := Std.OrientedCmp.eq_swap
    rw [hswap]
    cases cmp a b <;> simp⟩
  exact List.pairwise_insertionSort _ l

variable {cmp}

theorem Separates.eq_of_isLE {l : List α} (h : Separates cmp l) {a b : α} (ha : a ∈ l) (hb : b ∈ l)
    (hab : (cmp a b).isLE) (hba : (cmp b a).isLE) : a = b :=
  h a ha b hb (Std.OrientedCmp.isLE_antisymm hab hba)

theorem sortBy_eq_of_pairwise {l sorted : List α} (h : Separates cmp l) (hperm : sorted.Perm l)
    (hsorted : sorted.Pairwise (fun a b => (cmp a b).isLE = true)) : sortBy cmp l = sorted := by
  refine List.Perm.eq_of_pairwise ?_ (pairwise_sortBy cmp l) hsorted ((perm_sortBy cmp l).trans hperm.symm)
  intro a b ha hb
  exact h.eq_of_isLE ((mem_sortBy cmp).1 ha) (hperm.mem_iff.1 hb)

/-- **Sorting forgets the order of the list.** -/
theorem sortBy_eq_of_perm {l l' : List α} (h : Separates cmp l) (hperm : l'.Perm l) : sortBy cmp l' = sortBy cmp l :=
  (sortBy_eq_of_pairwise h ((perm_sortBy cmp l').trans hperm) (pairwise_sortBy cmp l')).symm

theorem filter_sortBy {l : List α} (h : Separates cmp l) (p : α → Bool) :
    (sortBy cmp l).filter p = sortBy cmp (l.filter p) := by
  have hp : Separates cmp (l.filter p) := fun a ha b hb => h a (List.mem_of_mem_filter ha) b (List.mem_of_mem_filter hb)
  exact (sortBy_eq_of_pairwise hp ((perm_sortBy cmp l).filter p) ((pairwise_sortBy cmp l).filter p)).symm

/-- **What a cut keeps ranks with or before what it drops.** -/
theorem isLE_of_kept_of_dropped (n : Nat) {l : List α} {a b : α} (ha : a ∈ (sortBy cmp l).take n)
    (hb : b ∈ (sortBy cmp l).drop n) : (cmp a b).isLE := by
  have hsorted := pairwise_sortBy cmp l
  rw [← List.take_append_drop n (sortBy cmp l), List.pairwise_append] at hsorted
  exact hsorted.2.2 a ha b hb

theorem find?_sortBy {l : List α} {p : α → Bool} {a : α} (h : Separates cmp l) (ha : a ∈ l) (hpa : p a)
    (hfirst : ∀ b ∈ l, p b → (cmp a b).isLE) : (sortBy cmp l).find? p = some a := by
  obtain ⟨b, hb⟩ := Option.isSome_iff_exists.1 (List.find?_isSome.2 ⟨a, (mem_sortBy cmp).2 ha, hpa⟩)
  obtain ⟨hpb, pre, post, hsplit, hpre⟩ := List.find?_eq_some_iff_append.1 hb
  have hmem : a ∈ pre ++ b :: post := hsplit ▸ (mem_sortBy cmp).2 ha
  have hbl : b ∈ l := (mem_sortBy cmp).1 (List.mem_of_find?_eq_some hb)
  rw [hb]
  rcases List.mem_append.1 hmem with hbefore | hfrom
  · have hnot := hpre a hbefore
    simp [hpa] at hnot
  · rcases List.mem_cons.1 hfrom with rfl | hafter
    · rfl
    · have hsorted := pairwise_sortBy cmp l
      rw [hsplit, List.pairwise_append] at hsorted
      rw [h.eq_of_isLE hbl ha (List.rel_of_pairwise_cons hsorted.2.1 hafter) (hfirst b hbl hpb)]

end Ranked
