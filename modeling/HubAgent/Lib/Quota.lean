import Mathlib.Data.Finset.Card
import Mathlib.Data.Finset.Dedup
import Mathlib.Data.List.Induction
/-!
# Keys admitted under two caps

Keys come one after another, with repetitions.  Each has a source and a target.  A key that was admitted before is
admitted again; a new one is refused when as many keys are admitted as the first cap says (`full`), or when its target
is new to its source and the source has as many targets as the second cap says (`spread`).

What is admitted stays within the caps (`within_admitted`), nothing is refused exactly when all the keys together are
within them (`admitted_eq_self_iff`), and only which keys are equal, and which sources and targets, matters
to a verdict (`Renames.verdict`).
-/
namespace Quota

variable {κ σ τ : Type}

inductive Verdict where
  | admitted
  | full
  | spread
  deriving DecidableEq

structure Caps (κ σ τ : Type) where
  source : κ → σ
  target : κ → τ
  maxKeys : Nat
  maxTargets : Nat

namespace Caps

variable {c : Caps κ σ τ} {taken ks : List κ} {k : κ} {s : σ}

section Targets

variable [DecidableEq σ] [DecidableEq τ]

def targets (c : Caps κ σ τ) (taken : List κ) (s : σ) : Finset τ :=
  ((taken.filter (fun k => c.source k = s)).map c.target).toFinset

theorem targets_concat : c.targets (taken ++ [k]) s =
    if c.source k = s then insert (c.target k) (c.targets taken s) else c.targets taken s := by
  unfold targets
  by_cases h : c.source k = s
  · rw [if_pos h, List.filter_append, List.filter_cons_of_pos (by simpa using h), List.map_append, List.toFinset_append,
      Finset.union_comm]
    rfl
  · rw [if_neg h, List.filter_append, List.filter_cons_of_neg (by simpa using h), List.filter_nil, List.append_nil]

theorem mem_targets {t : τ} : t ∈ c.targets taken s ↔ ∃ k ∈ taken, c.source k = s ∧ c.target k = t := by
  simp [targets, and_assoc]

theorem target_mem_targets (h : k ∈ taken) : c.target k ∈ c.targets taken (c.source k) :=
  mem_targets.2 ⟨k, h, rfl, rfl⟩

variable {κ' σ' τ' : Type} [DecidableEq σ'] [DecidableEq τ'] {c' : Caps κ' σ' τ'} {f : κ → κ'} {g : σ → σ'}
  {h : τ → τ'}

/-- Keys, sources and targets renamed one to one, under the same caps. -/
structure Renames (c : Caps κ σ τ) (c' : Caps κ' σ' τ') (f : κ → κ') (g : σ → σ') (h : τ → τ') : Prop where
  keys : Function.Injective f
  sources : Function.Injective g
  targets : Function.Injective h
  source : ∀ k, c'.source (f k) = g (c.source k)
  target : ∀ k, c'.target (f k) = h (c.target k)
  maxKeys : c'.maxKeys = c.maxKeys
  maxTargets : c'.maxTargets = c.maxTargets

theorem Renames.targets_map (hr : Renames c c' f g h) (taken : List κ) (s : σ) :
    c'.targets (taken.map f) (g s) = (c.targets taken s).map ⟨h, hr.targets⟩ := by
  ext t
  simp only [mem_targets, Finset.mem_map, List.mem_map, Function.Embedding.coeFn_mk]
  constructor
  · rintro ⟨_, ⟨k, hk, rfl⟩, hs, rfl⟩
    rw [hr.source] at hs
    exact ⟨c.target k, ⟨k, hk, hr.sources hs, rfl⟩, (hr.target k).symm⟩
  · rintro ⟨_, ⟨k, hk, rfl, rfl⟩, rfl⟩
    exact ⟨f k, ⟨k, hk, rfl⟩, hr.source k, hr.target k⟩

end Targets

variable [DecidableEq κ] [DecidableEq σ] [DecidableEq τ]

def verdict (c : Caps κ σ τ) (taken : List κ) (k : κ) : Verdict :=
  if k ∈ taken then .admitted
  else if c.maxKeys ≤ taken.toFinset.card then .full
  else if c.maxTargets ≤ (c.targets taken (c.source k)).card ∧ c.target k ∉ c.targets taken (c.source k) then .spread
  else .admitted

def admitKey (c : Caps κ σ τ) (taken : List κ) (k : κ) : List κ :=
  if c.verdict taken k = .admitted then taken ++ [k] else taken

def admitted (c : Caps κ σ τ) (ks : List κ) : List κ := ks.foldl c.admitKey []

structure Within (c : Caps κ σ τ) (taken : List κ) : Prop where
  keys : taken.toFinset.card ≤ c.maxKeys
  targets : ∀ s, (c.targets taken s).card ≤ c.maxTargets

theorem admitted_concat (ks : List κ) (k : κ) : c.admitted (ks ++ [k]) = c.admitKey (c.admitted ks) k := by
  rw [admitted, List.foldl_append]
  rfl

/-! ## One more key -/

theorem toFinset_concat : (taken ++ [k]).toFinset = insert k taken.toFinset := by
  rw [List.toFinset_append, Finset.union_comm]
  rfl

/-- **A key is admitted exactly when it is known, or both caps have room for it.** -/
theorem verdict_eq_admitted_iff : c.verdict taken k = .admitted ↔
    k ∈ taken ∨ taken.toFinset.card < c.maxKeys ∧
      (c.target k ∈ c.targets taken (c.source k) ∨ (c.targets taken (c.source k)).card < c.maxTargets) := by
  unfold verdict
  split_ifs with hknown hfull hspread
  · exact ⟨fun _ => .inl hknown, fun _ => rfl⟩
  · refine ⟨fun h => (by cases h), ?_⟩
    rintro (h | ⟨h, -⟩)
    · exact absurd h hknown
    · omega
  · refine ⟨fun h => (by cases h), ?_⟩
    rintro (h | ⟨-, h | h⟩)
    · exact absurd h hknown
    · exact absurd h hspread.2
    · omega
  · refine ⟨fun _ => .inr ⟨by omega, ?_⟩, fun _ => rfl⟩
    by_contra hno
    push Not at hno
    exact hspread ⟨hno.2, hno.1⟩

theorem within_concat (h : c.Within taken) (hk : c.verdict taken k = .admitted) : c.Within (taken ++ [k]) := by
  rcases verdict_eq_admitted_iff.1 hk with hknown | ⟨hroom, htarget⟩
  · constructor
    · rw [toFinset_concat, Finset.insert_eq_of_mem (List.mem_toFinset.2 hknown)]
      exact h.keys
    · intro s
      rw [targets_concat]
      split_ifs with hs
      · subst hs
        rw [Finset.insert_eq_of_mem (target_mem_targets hknown)]
        exact h.targets _
      · exact h.targets s
  · constructor
    · rw [toFinset_concat]
      have hcard := Finset.card_insert_le k taken.toFinset
      omega
    · intro s
      rw [targets_concat]
      split_ifs with hs
      · subst hs
        rcases htarget with hmem | hlt
        · rw [Finset.insert_eq_of_mem hmem]
          exact h.targets _
        · have hcard := Finset.card_insert_le (c.target k) (c.targets taken (c.source k))
          omega
      · exact h.targets s

theorem within_of_concat (h : c.Within (taken ++ [k])) : c.Within taken ∧ c.verdict taken k = .admitted := by
  have hkeys := h.keys
  rw [toFinset_concat] at hkeys
  have htargets := h.targets (c.source k)
  rw [targets_concat, if_pos rfl] at htargets
  constructor
  · constructor
    · exact (Finset.card_le_card (Finset.subset_insert _ _)).trans hkeys
    · intro s
      have hs := h.targets s
      rw [targets_concat] at hs
      split_ifs at hs with heq
      · exact (Finset.card_le_card (Finset.subset_insert _ _)).trans hs
      · exact hs
  · rw [verdict_eq_admitted_iff]
    by_cases hknown : k ∈ taken
    · exact .inl hknown
    refine .inr ⟨?_, ?_⟩
    · rw [Finset.card_insert_of_notMem (by simpa using hknown)] at hkeys
      omega
    · by_cases hmem : c.target k ∈ c.targets taken (c.source k)
      · exact .inl hmem
      · rw [Finset.card_insert_of_notMem hmem] at htargets
        exact .inr (by omega)

/-! ## All the keys -/

theorem within_nil : c.Within [] := ⟨Nat.zero_le _, fun _ => Nat.zero_le _⟩

/-- **What is admitted is within the caps.** -/
theorem within_admitted (c : Caps κ σ τ) (ks : List κ) : c.Within (c.admitted ks) := by
  induction ks using List.reverseRecOn with
  | nil => exact within_nil
  | append_singleton ks k ih =>
    rw [admitted_concat, admitKey]
    split_ifs with hk
    · exact within_concat ih hk
    · exact ih

theorem admitted_sublist (c : Caps κ σ τ) (ks : List κ) : (c.admitted ks).Sublist ks := by
  induction ks using List.reverseRecOn with
  | nil => exact List.Sublist.refl _
  | append_singleton ks k ih =>
    rw [admitted_concat, admitKey]
    split_ifs
    · exact ih.append (List.Sublist.refl _)
    · exact ih.trans (List.sublist_append_left _ _)

theorem within_of_forall_eq (hkeys : 1 ≤ c.maxKeys) (htargets : 1 ≤ c.maxTargets) (h : ∀ k' ∈ ks, k' = k) :
    c.Within ks := by
  constructor
  · refine (Finset.card_le_one.2 fun a ha b hb => ?_).trans hkeys
    rw [h a (List.mem_toFinset.1 ha), h b (List.mem_toFinset.1 hb)]
  · intro s
    refine (Finset.card_le_one.2 fun a ha b hb => ?_).trans htargets
    obtain ⟨ka, hka, -, rfl⟩ := mem_targets.1 ha
    obtain ⟨kb, hkb, -, rfl⟩ := mem_targets.1 hb
    rw [h ka hka, h kb hkb]

/-- **Nothing is refused exactly when all the keys are within the caps.** -/
theorem admitted_eq_self_iff : c.admitted ks = ks ↔ c.Within ks := by
  constructor
  · intro h
    rw [← h]
    exact within_admitted c ks
  · induction ks using List.reverseRecOn with
    | nil => exact fun _ => rfl
    | append_singleton ks k ih =>
      intro h
      obtain ⟨hks, hk⟩ := within_of_concat h
      rw [admitted_concat, ih hks, admitKey, if_pos hk]

/-! ## Renamed keys -/

section Rename

variable {κ' σ' τ' : Type} [DecidableEq κ'] [DecidableEq σ'] [DecidableEq τ'] {c' : Caps κ' σ' τ'} {f : κ → κ'}
  {g : σ → σ'} {h : τ → τ'}

theorem Renames.verdict (hr : Renames c c' f g h) (taken : List κ) (k : κ) :
    c'.verdict (taken.map f) (f k) = c.verdict taken k := by
  have hmem : f k ∈ taken.map f ↔ k ∈ taken := List.mem_map_of_injective hr.keys
  have hcard : (taken.map f).toFinset.card = taken.toFinset.card := by
    have himage : (taken.map f).toFinset = taken.toFinset.map ⟨f, hr.keys⟩ := by
      ext k
      simp
    rw [himage, Finset.card_map]
  have htarget : h (c.target k) ∈ (c.targets taken (c.source k)).map ⟨h, hr.targets⟩ ↔
      c.target k ∈ c.targets taken (c.source k) := Finset.mem_map' ⟨h, hr.targets⟩
  unfold Caps.verdict
  rw [hr.source, hr.target, hr.targets_map, hcard, hr.maxKeys, hr.maxTargets, Finset.card_map]
  simp only [hmem, htarget]

end Rename

end Caps
end Quota
