import Mathlib.Data.List.Basic
/-!
# The first entry that says something

What a search through a list finds, stated by what its entries say: the first one that says something decides, and
nothing is found where none of them says anything.
-/
namespace Search

variable {α β : Type*} {Says : α → β → Prop}

/-- What the first entry says that says something, if any does. -/
def First (Says : α → β → Prop) (l : List α) : Option β → Prop
  | some b => ∃ before a after, l = before ++ a :: after ∧ Says a b ∧ ∀ other ∈ before, ∀ c, ¬ Says other c
  | none => ∀ a ∈ l, ∀ b, ¬ Says a b

theorem first_findSome? {f : α → Option β} (hf : ∀ a b, f a = some b ↔ Says a b) (l : List α) :
    First Says l (l.findSome? f) := by
  have hsilent : ∀ a, f a = none → ∀ b, ¬ Says a b := by
    intro a hnone b hsays
    rw [(hf a b).2 hsays] at hnone
    cases hnone
  cases hfound : l.findSome? f with
  | none => exact fun a ha => hsilent a (List.findSome?_eq_none_iff.1 hfound a ha)
  | some b =>
    obtain ⟨before, a, after, rfl, hsays, hbefore⟩ := List.findSome?_eq_some_iff.1 hfound
    exact ⟨before, a, after, rfl, (hf a b).1 hsays, fun other hother => hsilent other (hbefore other hother)⟩

theorem find?_eq_some_iff {l : List α} {p : α → Bool}
    (hone : ∀ a ∈ l, ∀ b ∈ l, p a = true → p b = true → a = b) (a : α) :
    l.find? p = some a ↔ a ∈ l ∧ p a = true := by
  constructor
  · exact fun h => ⟨List.mem_of_find?_eq_some h, List.find?_some h⟩
  · rintro ⟨ha, hp⟩
    obtain ⟨b, hb⟩ := Option.isSome_iff_exists.1 (List.find?_isSome.2 ⟨a, ha, hp⟩)
    rw [hb, hone b (List.mem_of_find?_eq_some hb) a ha (List.find?_some hb) hp]

theorem findSome?_filter {f : α → Option β} {p : α → Bool} (h : ∀ a, p a = false → f a = none) (l : List α) :
    (l.filter p).findSome? f = l.findSome? f := by
  induction l with
  | nil => rfl
  | cons a l ih =>
    rw [List.filter_cons, List.findSome?_cons]
    cases hp : p a with
    | false => rw [if_neg (by decide), ih, h a hp]
    | true => rw [if_pos rfl, List.findSome?_cons, ih]

end Search
