import Mathlib.Data.List.AList
import Mathlib.Data.List.Sort
/-!
# A map in the order of its keys

An association list with distinct keys, read in the order of the keys: the reading shows the map and nothing of how its
entries are stored (`inOrder_eq_iff`).
-/
namespace KeyOrder

variable {κ β : Type} [LinearOrder κ]

def keysInOrder (m : AList (fun _ : κ => β)) : List κ := m.keys.insertionSort (· ≤ ·)

/-- The entries, in the order of the keys. -/
def inOrder (m : AList (fun _ : κ => β)) : List (κ × β) :=
  (keysInOrder m).filterMap (fun k => (m.lookup k).map (fun v => (k, v)))

theorem mem_keysInOrder {m : AList (fun _ : κ => β)} {k : κ} : k ∈ keysInOrder m ↔ k ∈ m := by
  rw [keysInOrder, List.mem_insertionSort, AList.mem_keys]

theorem mem_inOrder {m : AList (fun _ : κ => β)} {k : κ} {v : β} : (k, v) ∈ inOrder m ↔ m.lookup k = some v := by
  rw [inOrder, List.mem_filterMap]
  constructor
  · rintro ⟨k', -, hk⟩
    obtain ⟨v', hlookup, heq⟩ := Option.map_eq_some_iff.1 hk
    cases heq
    exact hlookup
  · intro h
    refine ⟨k, mem_keysInOrder.2 ?_, by rw [h]; rfl⟩
    rw [← AList.lookup_isSome, h]
    rfl

theorem map_fst_inOrder (m : AList (fun _ : κ => β)) : (inOrder m).map Prod.fst = keysInOrder m := by
  have hall : ∀ l : List κ, (∀ k ∈ l, k ∈ m) →
      (l.filterMap (fun k => (m.lookup k).map (fun v => (k, v)))).map Prod.fst = l := by
    intro l
    induction l with
    | nil => exact fun _ => rfl
    | cons k l ih =>
      intro hmem
      obtain ⟨v, hv⟩ := Option.isSome_iff_exists.1 (AList.lookup_isSome.2 (hmem k List.mem_cons_self))
      rw [List.filterMap_cons, hv, Option.map_some, List.map_cons,
        ih (fun k' hk' => hmem k' (List.mem_cons_of_mem k hk'))]
  exact hall _ (fun k hk => mem_keysInOrder.1 hk)

/-- Two maps with the same keys show them alike. -/
theorem keysInOrder_eq_iff {α : Type} {m : AList (fun _ : κ => β)} {m' : AList (fun _ : κ => α)} :
    keysInOrder m = keysInOrder m' ↔ ∀ k, k ∈ m ↔ k ∈ m' := by
  constructor
  · intro h k
    rw [← mem_keysInOrder, h, mem_keysInOrder]
  · intro h
    have hperm : (keysInOrder m).Perm (keysInOrder m') := by
      have hkeys : m.keys.Perm m'.keys := by
        rw [List.perm_ext_iff_of_nodup m.keys_nodup m'.keys_nodup]
        exact h
      exact (List.perm_insertionSort _ _).trans (hkeys.trans (List.perm_insertionSort _ _).symm)
    exact hperm.eq_of_pairwise' (List.pairwise_insertionSort _ _) (List.pairwise_insertionSort _ _)

/-- **The reading in order is the map**: it is the same exactly when every lookup is. -/
theorem inOrder_eq_iff {m m' : AList (fun _ : κ => β)} : inOrder m = inOrder m' ↔ ∀ k, m.lookup k = m'.lookup k := by
  constructor
  · intro h k
    apply Option.ext
    intro v
    rw [← mem_inOrder, h, mem_inOrder]
  · intro h
    have hkeys : keysInOrder m = keysInOrder m' := by
      rw [keysInOrder_eq_iff]
      intro k
      rw [← AList.lookup_isSome, h, AList.lookup_isSome]
    rw [inOrder, inOrder, hkeys]
    simp only [h]

end KeyOrder
