import Mathlib.Algebra.BigOperators.Group.List.Basic
import Mathlib.Algebra.GroupWithZero.Nat
import HubAgent.Lib.Interaction
/-!
# Programs that wait for a deadline

A loop that polls until a deadline ends because the clock it reads goes on, not because of what it is answered:
`EndsUnder A` says that a program ends on every path whose answers the environment may give.  Time passes while a program
sleeps (`elapses`), and a clock (`reading`) goes on when it never reads earlier than what it read before and what was
slept since (`GoesOn`).  `endsUnder_polling` is the rule of a loop that sleeps only while its deadline is ahead: it ends
in so many rounds, and sleeps until the deadline and one period more, at most.
-/
namespace Interaction

open Prog

variable {Op : Type} {Ans : Op → Type} {α β : Type}

/-- What an environment may answer after a history. -/
abbrev Rely (Op : Type) (Ans : Op → Type) := Trace Op Ans → (op : Op) → Ans op → Prop

namespace Prog

/-- **Every path whose answers the environment may give returns**, and every result satisfies `Q` where it is reached. -/
def EndsUnder (A : Rely Op Ans) (Q : α → Trace Op Ans → Prop) : Prog Op Ans α → Trace Op Ans → Prop
  | ret a, tr => Q a tr
  | call op k, tr => ∀ x, A tr op x → (k x).EndsUnder A Q (tr ++ [⟨op, x⟩])
  | pending, _ => False

/-- Every path returns, and every call on it is one of `C`. -/
def Brief (C : Op → Prop) : Prog Op Ans α → Prop
  | ret _ => True
  | call op k => C op ∧ ∀ x, (k x).Brief C
  | pending => False

end Prog

/-! ## The rules -/

section Rules

variable {A : Rely Op Ans} {Q Q' : α → Trace Op Ans → Prop} {C : Op → Prop}

theorem endsUnder_ask_bind (op : Op) (f : Ans op → Prog Op Ans β) {R : β → Trace Op Ans → Prop} {tr : Trace Op Ans} :
    (ask op >>= f).EndsUnder A R tr ↔ ∀ x, A tr op x → (f x).EndsUnder A R (tr ++ [⟨op, x⟩]) := Iff.rfl

theorem Prog.EndsUnder.mono (hQ : ∀ a tr', Q a tr' → Q' a tr') : ∀ {m : Prog Op Ans α} {tr : Trace Op Ans},
    m.EndsUnder A Q tr → m.EndsUnder A Q' tr
  | ret a, tr, h => hQ a tr h
  | call _ _, _, h => fun x hx => (h x hx).mono hQ
  | pending, _, h => h

theorem Prog.EndsUnder.bind {f : α → Prog Op Ans β} {R : β → Trace Op Ans → Prop} : ∀ {m : Prog Op Ans α}
    {tr : Trace Op Ans}, m.EndsUnder A Q tr → (∀ a tr', Q a tr' → (f a).EndsUnder A R tr') → (m >>= f).EndsUnder A R tr
  | ret a, tr, h, hf => hf a tr h
  | call _ _, _, h, hf => fun x hx => (h x hx).bind hf
  | pending, _, h, _ => h.elim

theorem brief_pure (a : α) : (pure a : Prog Op Ans α).Brief C := trivial

theorem brief_ask {op : Op} (h : C op) : (ask op : Prog Op Ans (Ans op)).Brief C := ⟨h, fun _ => trivial⟩

theorem brief_bind {f : α → Prog Op Ans β} (hf : ∀ a, (f a).Brief C) : ∀ {m : Prog Op Ans α}, m.Brief C →
    (m >>= f).Brief C
  | ret a, _ => hf a
  | call _ _, h => ⟨h.1, fun x => brief_bind hf (h.2 x)⟩
  | pending, h => h.elim

/-- A brief program ends whatever it is answered, and adds calls of `C`. -/
theorem Prog.Brief.endsUnder (A : Rely Op Ans) : ∀ {m : Prog Op Ans α}, m.Brief C → ∀ (tr : Trace Op Ans),
    m.EndsUnder A (fun _ tr' => ∃ later, tr' = tr ++ later ∧ ∀ e ∈ later, C e.call) tr
  | ret a, _, tr => ⟨[], (List.append_nil tr).symm, by simp⟩
  | call op k, h, tr => by
    intro x _
    refine ((h.2 x).endsUnder A _).mono ?_
    rintro a tr' ⟨later, rfl, hlater⟩
    refine ⟨⟨op, x⟩ :: later, by simp, fun e he => ?_⟩
    rcases List.mem_cons.1 he with rfl | he
    · exact h.1
    · exact hlater e he
  | pending, h, _ => h.elim

theorem Prog.Brief.lift {Op' : Type} {Ans' : Op' → Type} {f : Op → Op'} {g : ∀ op, Ans' (f op) → Ans op}
    {C' : Op' → Prop} (hf : ∀ op, C op → C' (f op)) : ∀ {m : Prog Op Ans α}, m.Brief C → (m.lift f g).Brief C'
  | ret _, _ => trivial
  | call op _, h => ⟨hf op h.1, fun x => (h.2 (g op x)).lift hf⟩
  | pending, h => h.elim

/-- A property of programs that goes through sequences, and holds of each single call of `C`. -/
structure Compositional (C : Op → Prop) (W : {α : Type} → Prog Op Ans α → Prop) : Prop where
  pure : ∀ {α : Type} (a : α), W (pure a)
  ask : ∀ {op : Op}, C op → W (ask op)
  bind : ∀ {α β : Type} {m : Prog Op Ans α} {f : α → Prog Op Ans β}, W m → (∀ a, W (f a)) → W (m >>= f)

theorem compositional_brief {C' : Op → Prop} (hsub : ∀ op, C op → C' op) :
    Compositional C (fun {α} (m : Prog Op Ans α) => m.Brief C') where
  pure := brief_pure
  ask h := brief_ask (hsub _ h)
  bind hm hf := brief_bind hf hm

theorem compositional_only {C' : Op → Prop} (hsub : ∀ op, C op → C' op) :
    Compositional C (fun {α} (m : Prog Op Ans α) => m.Only C') where
  pure := only_pure
  ask h := only_ask (hsub _ h)
  bind hm hf := only_bind hm hf

/-- **A run has a result** when its oracle keeps to what the environment may answer. -/
theorem run_endsUnder {o : Oracle Op Ans} (ho : ∀ tr op, A tr op (o tr op)) : ∀ {m : Prog Op Ans α} {tr : Trace Op Ans},
    m.EndsUnder A Q tr → ∃ a, (m.run o tr).1 = some a ∧ Q a (m.run o tr).2
  | ret a, _, h => ⟨a, rfl, h⟩
  | call op k, tr, h => by
    obtain ⟨a, ha, hq⟩ := run_endsUnder ho (h (o tr op) (ho tr op))
    exact ⟨a, ha, hq⟩
  | pending, _, h => h.elim

end Rules

/-! ## Clocks -/

section Clocks

variable (elapses : Op → Nat) (reading : Event Op Ans → Option Nat)

def slept (tr : Trace Op Ans) : Nat := (tr.map (fun e => elapses e.call)).sum

/-- The earliest that a clock which goes on can read after a history. -/
def earliest (tr : Trace Op Ans) : Nat :=
  tr.foldl (fun t e => max (t + elapses e.call) ((reading e).getD 0)) 0

/-- **A clock goes on**: it never reads earlier than it can be. -/
def GoesOn : Rely Op Ans := fun tr op x => ∀ t, reading ⟨op, x⟩ = some t → earliest elapses reading tr ≤ t

variable {elapses reading} {tr : Trace Op Ans}

theorem slept_append (tr later : Trace Op Ans) :
    slept elapses (tr ++ later) = slept elapses tr + slept elapses later := by
  simp [slept]

theorem slept_eq_zero {later : Trace Op Ans} (h : ∀ e ∈ later, elapses e.call = 0) : slept elapses later = 0 := by
  unfold slept
  rw [List.map_congr_left h]
  simp

theorem earliest_concat (tr : Trace Op Ans) (e : Event Op Ans) :
    earliest elapses reading (tr ++ [e]) =
      max (earliest elapses reading tr + elapses e.call) ((reading e).getD 0) := by
  simp [earliest]

variable (elapses reading) in
theorem earliest_append (tr later : Trace Op Ans) :
    earliest elapses reading tr + slept elapses later ≤ earliest elapses reading (tr ++ later) := by
  induction later using List.reverseRecOn with
  | nil => simp [slept]
  | append_singleton later e ih =>
    rw [← List.append_assoc, earliest_concat, slept_append]
    have he : slept elapses [e] = elapses e.call := by simp [slept]
    omega

variable (elapses reading) in
theorem earliest_read {op : Op} {x : Ans op} {t : Nat} (hinstant : elapses op = 0) (hreads : reading ⟨op, x⟩ = some t)
    (h : GoesOn elapses reading tr op x) : earliest elapses reading (tr ++ [⟨op, x⟩]) = t := by
  have hle := h t hreads
  rw [earliest_concat, hreads]
  simp only [Option.getD_some]
  omega

/-- **The rule of a polling loop.**  In each round it may sleep for one period, and then only where the clock shows that
its deadline is ahead.  With rounds enough to reach the deadline it ends, and has slept no longer than to the deadline
and one period. -/
theorem endsUnder_polling {σ : Type} (loop : Nat → σ → Prog Op Ans α) {A : Rely Op Ans}
    {deadline period start slept₀ : Nat}
    (hstep : ∀ fuel s tr, slept elapses tr ≤ slept₀ + (deadline - start) + period →
      (∀ s' mid e, tr <+: mid → slept elapses mid = slept elapses tr → earliest elapses reading mid ≤ deadline →
        elapses e.call = period → (loop fuel s').EndsUnder A
          (fun _ tr' => slept elapses tr' ≤ slept₀ + (deadline - start) + period) (mid ++ [e])) →
      (loop (fuel + 1) s).EndsUnder A (fun _ tr' => slept elapses tr' ≤ slept₀ + (deadline - start) + period) tr) :
    ∀ fuel s tr, start + slept elapses tr ≤ earliest elapses reading tr + slept₀ →
      slept elapses tr ≤ slept₀ + (deadline - start) + period →
      deadline < earliest elapses reading tr + fuel * period →
      (loop (fuel + 1) s).EndsUnder A (fun _ tr' => slept elapses tr' ≤ slept₀ + (deadline - start) + period) tr := by
  intro fuel
  induction fuel with
  | zero =>
    intro s tr _ hslept hfuel
    refine hstep 0 s tr hslept (fun s' mid e hmid _ hahead _ => ?_)
    obtain ⟨later, rfl⟩ := hmid
    have hgrows := earliest_append elapses reading tr later
    omega
  | succ fuel ih =>
    intro s tr hsince hslept hfuel
    refine hstep (fuel + 1) s tr hslept (fun s' mid e hmid heq hahead hperiod => ?_)
    obtain ⟨later, rfl⟩ := hmid
    have hgrows := earliest_append elapses reading tr later
    have hround := earliest_append elapses reading (tr ++ later) [e]
    have hsleeps : slept elapses [e] = period := by simp [slept, hperiod]
    rw [hsleeps] at hround
    rw [slept_append] at heq
    have hmul : (fuel + 1) * period = fuel * period + period := Nat.succ_mul _ _
    refine ih s' _ ?_ ?_ ?_
    · rw [slept_append, slept_append, hsleeps]
      omega
    · rw [slept_append, slept_append, hsleeps]
      omega
    · omega

end Clocks

end Interaction
