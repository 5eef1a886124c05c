import Mathlib.Data.List.Basic
/-!
# Loops whose steps may fail

A loop that stops at the first failing step, and otherwise does what the steps that succeed say: it succeeds exactly when
every step does, and what it has collected is then what the steps give (`filterMap_eq_ok_iff`).
-/
namespace Fallible

variable {ε α β σ : Type}

/-- What a step gives, when it succeeds. -/
def given : Except ε (Option β) → Option β
  | .ok r => r
  | .error _ => none

theorem given_eq_some_iff {r : Except ε (Option β)} {b : β} : given r = some b ↔ r = .ok (some b) := by
  cases r <;> simp [given]

theorem bind_eq_ok_iff {r : Except ε α} {f : α → Except ε β} {b : β} :
    r >>= f = .ok b ↔ ∃ a, r = .ok a ∧ f a = .ok b := by
  cases r with
  | error e => exact ⟨fun h => (nomatch h), fun ⟨_, h, _⟩ => (nomatch h)⟩
  | ok a =>
    constructor
    · exact fun h => ⟨a, rfl, h⟩
    · rintro ⟨_, heq, h⟩
      cases heq
      exact h

theorem map_eq_ok_iff {r : Except ε α} {f : α → β} {b : β} : r.map f = .ok b ↔ ∃ a, r = .ok a ∧ f a = b := by
  cases r with
  | error e => exact ⟨fun h => (nomatch h), fun ⟨_, h, _⟩ => (nomatch h)⟩
  | ok a =>
    constructor
    · exact fun h => ⟨a, rfl, Except.ok.inj h⟩
    · rintro ⟨_, heq, rfl⟩
      cases heq
      rfl

theorem map_isOk_iff {r : Except ε α} {f : α → β} : (∃ b, r.map f = .ok b) ↔ ∃ a, r = .ok a := by
  cases r with
  | error e => exact ⟨fun ⟨_, h⟩ => (nomatch h), fun ⟨_, h⟩ => (nomatch h)⟩
  | ok a => exact ⟨fun _ => ⟨a, rfl⟩, fun _ => ⟨f a, rfl⟩⟩

/-- `Iterator::filter_map` and `collect`. -/
def filterMap (f : α → Except ε (Option β)) : List α → Except ε (List β)
  | [] => .ok []
  | a :: as => do
    let r ← f a
    let rs ← filterMap f as
    return r.toList ++ rs

/-- **Nothing fails**, and everything given is collected. -/
theorem filterMap_eq_ok_iff {f : α → Except ε (Option β)} : ∀ {l : List α} {bs : List β},
    filterMap f l = .ok bs ↔ (∀ a ∈ l, ∃ r, f a = .ok r) ∧ l.filterMap (fun a => given (f a)) = bs
  | [], bs => by simp [filterMap]
  | a :: as, bs => by
    rw [filterMap, List.forall_mem_cons]
    cases hf : f a with
    | error e => exact ⟨fun h => (nomatch h), fun ⟨⟨⟨_, h⟩, _⟩, _⟩ => (nomatch h)⟩
    | ok r =>
      have hstep : (do
          let r ← (Except.ok r : Except ε (Option β))
          let rs ← filterMap f as
          return r.toList ++ rs) = (filterMap f as).map (fun rs => r.toList ++ rs) := by
        cases filterMap f as <;> rfl
      rw [hstep]
      have hcollected : (a :: as).filterMap (fun a => given (f a)) =
          r.toList ++ as.filterMap (fun a => given (f a)) := by
        rw [List.filterMap_cons, hf]
        cases r <;> rfl
      rw [hcollected]
      constructor
      · intro h
        cases hrest : filterMap f as with
        | error e =>
          rw [hrest] at h
          cases h
        | ok rs =>
          rw [hrest] at h
          cases h
          obtain ⟨hall, hrs⟩ := filterMap_eq_ok_iff.1 hrest
          exact ⟨⟨⟨r, rfl⟩, hall⟩, by rw [hrs]⟩
      · rintro ⟨⟨-, hall⟩, rfl⟩
        rw [filterMap_eq_ok_iff.2 ⟨hall, rfl⟩]
        rfl

theorem filterMap_isOk_iff {f : α → Except ε (Option β)} {l : List α} :
    (∃ bs, filterMap f l = .ok bs) ↔ ∀ a ∈ l, ∃ r, f a = .ok r := by
  constructor
  · rintro ⟨bs, h⟩
    exact (filterMap_eq_ok_iff.1 h).1
  · exact fun h => ⟨_, filterMap_eq_ok_iff.2 ⟨h, rfl⟩⟩

/-- **A loop that adds what its steps give** to a state is the collecting loop, and the additions after it. -/
theorem foldlM_eq {step : σ → α → Except ε σ} {f : α → Except ε (Option β)} {add : σ → β → σ}
    (hstep : ∀ s a, step s a = (f a).map (fun r => r.toList.foldl add s)) : ∀ (l : List α) (s : σ),
    l.foldlM step s = (filterMap f l).map (fun bs => bs.foldl add s)
  | [], s => rfl
  | a :: as, s => by
    rw [List.foldlM_cons, hstep, filterMap]
    cases f a with
    | error e => rfl
    | ok r =>
      show as.foldlM step (r.toList.foldl add s) = _
      rw [foldlM_eq hstep as]
      show _ = Except.map _ ((filterMap f as).map (fun rs => r.toList ++ rs))
      cases filterMap f as with
      | error e => rfl
      | ok rs => simp [Except.map, List.foldl_append]

/-! ## What is lost is missed -/

theorem length_filterMap_le {g h : α → Option β} {l : List α} (hgh : ∀ a ∈ l, h a = none → g a = none) :
    (l.filterMap g).length ≤ (l.filterMap h).length := by
  induction l with
  | nil => exact Nat.le_refl _
  | cons a l ih =>
    rw [List.forall_mem_cons] at hgh
    have hrest := ih hgh.2
    rw [List.filterMap_cons, List.filterMap_cons]
    cases hh : h a with
    | none =>
      rw [hgh.1 hh]
      exact hrest
    | some b =>
      cases g a with
      | none => exact Nat.le_succ_of_le hrest
      | some b' => exact Nat.succ_le_succ hrest

/-- **Two lists collected alike** were collected from each element alike, when one gives nothing where the other does. -/
theorem filterMap_eq_filterMap_iff {g h : α → Option β} {l : List α} (hgh : ∀ a ∈ l, h a = none → g a = none) :
    l.filterMap g = l.filterMap h ↔ ∀ a ∈ l, g a = h a := by
  induction l with
  | nil => simp
  | cons a l ih =>
    rw [List.forall_mem_cons] at hgh
    rw [List.forall_mem_cons, ← ih hgh.2, List.filterMap_cons, List.filterMap_cons]
    cases hh : h a with
    | none => simp [hgh.1 hh]
    | some b =>
      cases hg : g a with
      | none =>
        refine ⟨fun heq => ?_, fun heq => nomatch heq.1⟩
        have hlen := length_filterMap_le hgh.2
        have hlong := congrArg List.length heq
        simp only [List.length_cons] at hlong
        omega
      | some b' => simp

end Fallible
