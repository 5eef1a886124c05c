import Mathlib.Data.List.Forall2
import HubAgent.Lib.Ranked
/-!
# Sorting lists that are alike

Two lists are rearranged from one another when, up to their order, they have the same entries as far as `S` tells.  A
comparator that does not see the difference sorts them alike (`Rearranged.sortBy`).
-/
namespace Ranked

variable {α β κ : Type} {cmp : α → α → Ordering} {key : α → κ} {S : α → α → Prop} {l l' : List α}

def Blind (cmp : α → α → Ordering) (S : α → α → Prop) : Prop :=
  ∀ a a' b b', S a a' → S b b' → cmp a b = cmp a' b'

/-- The same entries in any order, as far as `S` tells, and no two under one key. -/
structure Rearranged (key : α → κ) (S : α → α → Prop) (l l' : List α) : Prop where
  keyed : (l.map key).Nodup
  arranged : ∃ m : List α, m.Perm l ∧ List.Forall₂ S m l'

theorem forall₂_orderedInsert (hcmp : Blind cmp S) {a a' : α} (ha : S a a') (h : List.Forall₂ S l l') :
    List.Forall₂ S (l.orderedInsert (fun a b => (cmp a b).isLE = true) a)
      (l'.orderedInsert (fun a b => (cmp a b).isLE = true) a') := by
  induction h with
  | nil => exact .cons ha .nil
  | @cons b b' l l' hb hl ih =>
    rw [List.orderedInsert_cons, List.orderedInsert_cons, hcmp a a' b b' ha hb]
    split_ifs
    · exact .cons ha (.cons hb hl)
    · exact .cons hb ih

theorem forall₂_sortBy (hcmp : Blind cmp S) (h : List.Forall₂ S l l') :
    List.Forall₂ S (sortBy cmp l) (sortBy cmp l') := by
  induction h with
  | nil => exact .nil
  | cons ha _ ih => exact forall₂_orderedInsert hcmp ha ih

/-- **Rearranged lists are sorted alike.** -/
theorem Rearranged.sortBy [Std.TransCmp cmp] (h : Rearranged key S l l') (hkey : ∀ a b, cmp a b = .eq → key a = key b)
    (hcmp : Blind cmp S) : List.Forall₂ S (Ranked.sortBy cmp l) (Ranked.sortBy cmp l') := by
  obtain ⟨m, hperm, hm⟩ := h.arranged
  rw [← sortBy_eq_of_perm (separates_of_nodup cmp hkey h.keyed) hperm]
  exact forall₂_sortBy hcmp hm

theorem Rearranged.perm (h : Rearranged key Eq l l') : l'.Perm l := by
  obtain ⟨m, hperm, hm⟩ := h.arranged
  rw [List.forall₂_eq_eq_eq] at hm
  exact hm ▸ hperm

theorem map_eq_of_forall₂ {f g : α → β} (h : List.Forall₂ S l l') (hf : ∀ a a', S a a' → f a = g a') :
    l.map f = l'.map g := by
  induction h with
  | nil => rfl
  | cons ha _ ih => rw [List.map_cons, List.map_cons, hf _ _ ha, ih]

theorem find?_of_forall₂ {p : α → Bool} (h : List.Forall₂ S l l') (hp : ∀ a a', S a a' → p a = p a') :
    Option.Rel S (l.find? p) (l'.find? p) := by
  induction h with
  | nil => exact .none
  | @cons a a' l l' ha _ ih =>
    rw [List.find?_cons, List.find?_cons, ← hp a a' ha]
    cases p a with
    | true => exact .some ha
    | false => exact ih

end Ranked
