import Mathlib.Data.List.Basic
/-!
# Screening a list: the first candidate that passes, or why none did

A loop that tests each candidate in turn, returns the first it accepts, passes over some in silence and notes a reason
for the others.  `screen_toOption` says what it returns without the loop: the first accepted candidate.  The rest are
its consequences: when it accepts (`screen_ok_iff`), that a candidate that is not accepted can be taken out
(`screen_toOption_remove`), and that a change the test does not see goes through to the result (`screen_map`).
-/
namespace Screening

variable {α β ρ : Type}

/-- What a test says of one candidate. -/
inductive Verdict (ρ β : Type) where
  | accept (b : β)
  | skip
  | reject (reason : ρ)

def Verdict.accepted : Verdict ρ β → Option β
  | accept b => some b
  | skip => none
  | reject _ => none

def Verdict.map {γ : Type} (f : β → γ) : Verdict ρ β → Verdict ρ γ
  | accept b => accept (f b)
  | skip => skip
  | reject r => reject r

@[simp] theorem accepted_accept (b : β) : (Verdict.accept b : Verdict ρ β).accepted = some b := rfl
@[simp] theorem accepted_skip : (Verdict.skip : Verdict ρ β).accepted = none := rfl
@[simp] theorem accepted_reject (r : ρ) : (Verdict.reject r : Verdict ρ β).accepted = none := rfl

theorem accepted_eq_some {v : Verdict ρ β} {b : β} : v.accepted = some b ↔ v = .accept b := by
  cases v <;> simp

def screen (test : α → Verdict ρ β) : List α → List ρ → Except (List ρ) β
  | [], reasons => .error reasons
  | a :: as, reasons =>
    match test a with
    | .accept b => .ok b
    | .skip => screen test as reasons
    | .reject r => screen test as (reasons ++ [r])

/-- **The loop returns what the first accepted candidate gives.** -/
theorem screen_toOption (test : α → Verdict ρ β) : ∀ (l : List α) (rs : List ρ),
    (screen test l rs).toOption = l.findSome? (fun a => (test a).accepted)
  | [], _ => rfl
  | a :: l, rs => by
    rw [screen, List.findSome?_cons]
    cases test a with
    | accept b => rfl
    | skip => exact screen_toOption test l rs
    | reject r => exact screen_toOption test l (rs ++ [r])

theorem screen_eq_ok {test : α → Verdict ρ β} {l : List α} {rs : List ρ} {b : β} :
    screen test l rs = .ok b ↔ l.findSome? (fun a => (test a).accepted) = some b := by
  rw [← screen_toOption test l rs]
  cases screen test l rs <;> simp [Except.toOption]

/-- **An accepted candidate is the first**: everything before it is not accepted. -/
theorem screen_ok_iff {test : α → Verdict ρ β} {l : List α} {rs : List ρ} {b : β} :
    screen test l rs = .ok b ↔
      ∃ pre a post, l = pre ++ a :: post ∧ test a = .accept b ∧ ∀ x ∈ pre, (test x).accepted = none := by
  rw [screen_eq_ok, List.findSome?_eq_some_iff]
  simp only [accepted_eq_some]

theorem screen_singleton_iff {test : α → Verdict ρ β} {a : α} {rs : List ρ} {b : β} :
    screen test [a] rs = .ok b ↔ test a = .accept b := by
  rw [screen_eq_ok, List.findSome?_singleton, accepted_eq_some]

/-- **The loop accepts exactly when some candidate is accepted.** -/
theorem screen_isOk_iff {test : α → Verdict ρ β} {l : List α} {rs : List ρ} :
    (∃ b, screen test l rs = .ok b) ↔ ∃ a ∈ l, ∃ b, test a = .accept b := by
  simp only [screen_eq_ok, ← Option.isSome_iff_exists, List.findSome?_isSome_iff]
  refine exists_congr (fun a => and_congr_right (fun _ => ?_))
  rw [Option.isSome_iff_exists]
  simp only [accepted_eq_some]

/-- **A candidate that is not accepted changes nothing about which one is.** -/
theorem screen_toOption_remove (test : α → Verdict ρ β) (pre post : List α) (a : α) (rs : List ρ)
    (ha : (test a).accepted = none) :
    (screen test (pre ++ a :: post) rs).toOption = (screen test (pre ++ post) rs).toOption := by
  rw [screen_toOption, screen_toOption, List.findSome?_append, List.findSome?_append, List.findSome?_cons, ha]

/-- **What the test does not see changes nothing but the value returned.** -/
theorem screen_map {γ : Type} {test : α → Verdict ρ β} {test' : α → Verdict ρ γ} (g : α → α) (f : β → γ)
    (h : ∀ a, test' (g a) = (test a).map f) : ∀ (l : List α) (rs : List ρ),
      screen test' (l.map g) rs = (screen test l rs).map f
  | [], _ => rfl
  | a :: l, rs => by
    rw [List.map_cons, screen, screen, h a]
    cases test a with
    | accept b => rfl
    | skip => exact screen_map g f h l rs
    | reject r => exact screen_map g f h l (rs ++ [r])

end Screening
