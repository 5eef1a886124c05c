import HubAgent.Lib.Interaction
import HubAgent.Lib.Transition
/-!
# Programs that share a store

Programs of `Interaction` run side by side on one store: each call of one of them is a step of its own, any number of
them may be under way, and any of them may be abandoned at any time.  `Secures` is the rule that a program is proved by,
alone: between two of its calls the others may move the store as far as the relation `R` allows, and it must itself stay
within `R`.  `secured_of_steps` carries what is proved so to every interleaving, and `finishes_alone` gives a run of a
program that nothing disturbs.
-/
namespace Shared

open Interaction
open Transition (Steps)

variable {Op : Type} {Ans : Op → Type} {σ α β : Type}

/-- What a call may do: its answer, and the store after it. -/
abbrev Effect (Op : Type) (Ans : Op → Type) (σ : Type) := σ → (op : Op) → Ans op → σ → Prop

/-- How far the programs move the store. -/
structure Moving (R : σ → σ → Prop) : Prop where
  refl : ∀ s, R s s
  trans : ∀ {s t u}, R s t → R t u → R s u

/-- A condition on the store that no move undoes. -/
def Stable (R : σ → σ → Prop) (F : σ → Prop) : Prop := ∀ s s', R s s' → F s → F s'

section Rule

variable (E : Effect Op Ans σ) (R : σ → σ → Prop) (P : σ → Op → Prop)

/-- **From the store `s` on, while the others move it within `R`**: every call of the program satisfies `P` in the store
it is made in and moves it within `R`, and every result satisfies `Q` in every store from then on. -/
def Secures (Q : α → σ → Prop) : Prog Op Ans α → σ → Prop
  | .ret a, s => ∀ s', R s s' → Q a s'
  | .call op k, s => ∀ s', R s s' → P s' op ∧ ∀ x s'', E s' op x s'' → R s' s'' ∧ Secures Q (k x) s''
  | .pending, _ => True

end Rule

section Rules

variable {E : Effect Op Ans σ} {R : σ → σ → Prop} {P : σ → Op → Prop} {Q Q' : α → σ → Prop}

theorem Secures.moved (hR : Moving R) : ∀ {m : Prog Op Ans α} {s s' : σ}, Secures E R P Q m s → R s s' →
    Secures E R P Q m s'
  | .ret _, _, _, h, hs => fun _ hs' => h _ (hR.trans hs hs')
  | .call _ _, _, _, h, hs => fun _ hs' => h _ (hR.trans hs hs')
  | .pending, _, _, _, _ => trivial

theorem Secures.mono (hQ : ∀ a s, Q a s → Q' a s) : ∀ {m : Prog Op Ans α} {s : σ}, Secures E R P Q m s →
    Secures E R P Q' m s
  | .ret _, _, h => fun s' hs => hQ _ s' (h s' hs)
  | .call _ _, _, h => fun s' hs => ⟨(h s' hs).1, fun x s'' he => ⟨((h s' hs).2 x s'' he).1,
      ((h s' hs).2 x s'' he).2.mono hQ⟩⟩
  | .pending, _, _ => trivial

theorem secures_pure {a : α} {s : σ} (h : ∀ s', R s s' → Q a s') : Secures E R P Q (pure a : Prog Op Ans α) s := h

/-- **Sequencing**: what follows may count on the postcondition, which the others leave standing. -/
theorem Secures.bind {f : α → Prog Op Ans β} {Q'' : β → σ → Prop}
    (hf : ∀ a s, (∀ s', R s s' → Q a s') → Secures E R P Q'' (f a) s) :
    ∀ {m : Prog Op Ans α} {s : σ}, Secures E R P Q m s → Secures E R P Q'' (m >>= f) s
  | .ret a, s, h => hf a s h
  | .call _ _, _, h => fun s' hs => ⟨(h s' hs).1, fun x s'' he => ⟨((h s' hs).2 x s'' he).1,
      ((h s' hs).2 x s'' he).2.bind hf⟩⟩
  | .pending, _, _ => trivial

/-- **A condition that no move undoes holds at the end if it held at the start.** -/
theorem Secures.keeps {F : σ → Prop} (hR : Moving R) (hF : Stable R F) : ∀ {m : Prog Op Ans α} {s : σ}, F s →
    Secures E R P Q m s → Secures E R P (fun a s => Q a s ∧ F s) m s
  | .ret _, s, hs, h => fun s' hm => ⟨h s' hm, hF s s' hm hs⟩
  | .call _ _, s, hs, h => fun s' hm => ⟨(h s' hm).1, fun x s'' he =>
      ⟨((h s' hm).2 x s'' he).1, ((h s' hm).2 x s'' he).2.keeps hR hF
        (hF s' s'' ((h s' hm).2 x s'' he).1 (hF s s' hm hs))⟩⟩
  | .pending, _, _, _ => trivial

end Rules

/-! ## Every interleaving -/

/-- The store and the programs under way. -/
structure Pool (Op : Type) (Ans : Op → Type) (σ α : Type) where
  store : σ
  running : List (Prog Op Ans α) := []

inductive PoolEvent (Op : Type) (α : Type) where
  | start
  | call (op : Op)
  | finish (a : α)
  | abandon

/-- **One step**: a program starts, makes one call, returns, or is abandoned where it stands. -/
inductive PoolStep (E : Effect Op Ans σ) (Start : Prog Op Ans α → Prop) :
    Pool Op Ans σ α → PoolEvent Op α → Pool Op Ans σ α → Prop
  | start (p : Pool Op Ans σ α) {m : Prog Op Ans α} (may : Start m) :
      PoolStep E Start p .start { p with running := p.running ++ [m] }
  | call {p : Pool Op Ans σ α} {i : Nat} {op : Op} {k : Ans op → Prog Op Ans α}
      (at_ : p.running[i]? = some (.call op k)) {x : Ans op} {s : σ} (effect : E p.store op x s) :
      PoolStep E Start p (.call op) ⟨s, p.running.set i (k x)⟩
  | finish {p : Pool Op Ans σ α} {i : Nat} {a : α} (at_ : p.running[i]? = some (.ret a)) :
      PoolStep E Start p (.finish a) { p with running := p.running.eraseIdx i }
  | abandon (p : Pool Op Ans σ α) (i : Nat) :
      PoolStep E Start p .abandon { p with running := p.running.eraseIdx i }

section Interleaving

variable {E : Effect Op Ans σ} {R : σ → σ → Prop} {P : σ → Op → Prop} {Q : α → σ → Prop}
  {Start : Prog Op Ans α → Prop} {s₀ : σ}

/-- **What holds after every interleaving**: the store moved within `R`, also since each call, which satisfied `P`. -/
structure Secured (E : Effect Op Ans σ) (R : σ → σ → Prop) (P : σ → Op → Prop) (Q : α → σ → Prop) (s₀ : σ)
    (es : List (PoolEvent Op α)) (p : Pool Op Ans σ α) : Prop where
  moved : R s₀ p.store
  running : ∀ m ∈ p.running, Secures E R P Q m p.store
  called : ∀ op, .call op ∈ es → ∃ s, P s op ∧ R s p.store
  finished : ∀ a, .finish a ∈ es → ∀ s, R p.store s → Q a s

/-- A step that moves the store and leaves each program secured, and whose call or result, if it shows one, is. -/
theorem Secured.next (hR : Moving R) {es : List (PoolEvent Op α)} {p p' : Pool Op Ans σ α} {e : PoolEvent Op α}
    (h : Secured E R P Q s₀ es p) (hstore : R p.store p'.store)
    (hrunning : ∀ m ∈ p'.running, m ∈ p.running ∨ Secures E R P Q m p'.store)
    (hcall : ∀ op, e = .call op → P p.store op)
    (hfinish : ∀ a, e = .finish a → ∀ s, R p'.store s → Q a s) : Secured E R P Q s₀ (es ++ [e]) p' := by
  refine ⟨hR.trans h.moved hstore, fun m hm => ?_, fun op hop => ?_, fun a ha s hs => ?_⟩
  · rcases hrunning m hm with hold | hnew
    · exact (h.running m hold).moved hR hstore
    · exact hnew
  · rcases List.mem_append.1 hop with hold | hnew
    · obtain ⟨s, hp, hs⟩ := h.called op hold
      exact ⟨s, hp, hR.trans hs hstore⟩
    · exact ⟨p.store, hcall op (List.mem_singleton.1 hnew).symm, hstore⟩
  · rcases List.mem_append.1 ha with hold | hnew
    · exact h.finished a hold s (hR.trans hstore hs)
    · exact hfinish a (List.mem_singleton.1 hnew).symm s hs

/-- **The parallel rule**: where every program that may be started is secured from every store that is reached, so is
every interleaving of them. -/
theorem secured_of_steps (hR : Moving R) (hstart : ∀ m, Start m → ∀ s, R s₀ s → Secures E R P Q m s)
    {es : List (PoolEvent Op α)} {p : Pool Op Ans σ α} (hrun : Steps (PoolStep E Start) ⟨s₀, []⟩ es p) :
    Secured E R P Q s₀ es p := by
  refine hrun.invariant ⟨hR.refl s₀, fun m hm => (by cases hm), fun op hop => (by cases hop),
    fun a ha => (by cases ha)⟩ ?_
  intro es p e p' h hstep
  cases hstep with
  | @start m may =>
    refine h.next hR (hR.refl _) (fun m' hm' => ?_) (fun _ => nofun) (fun _ => nofun)
    rcases List.mem_append.1 hm' with hold | hnew
    · exact .inl hold
    · rw [List.mem_singleton.1 hnew]
      exact .inr (hstart m may p.store h.moved)
  | @call i op k at_ x s effect =>
    obtain ⟨hop, hnext⟩ := h.running _ (List.mem_of_getElem? at_) p.store (hR.refl _)
    obtain ⟨hmove, hsec⟩ := hnext x s effect
    refine h.next hR hmove (fun m hm => ?_) (fun op' he => ?_) (fun _ => nofun)
    · rcases List.mem_or_eq_of_mem_set hm with hold | rfl
      · exact .inl hold
      · exact .inr hsec
    · cases he
      exact hop
  | @finish i a at_ =>
    refine h.next hR (hR.refl _) (fun m hm => .inl (List.mem_of_mem_eraseIdx hm)) (fun _ => nofun) (fun b hb s hs => ?_)
    cases hb
    exact h.running _ (List.mem_of_getElem? at_) s hs
  | abandon =>
    exact h.next hR (hR.refl _) (fun m hm => .inl (List.mem_of_mem_eraseIdx hm)) (fun _ => nofun) (fun _ => nofun)

end Interleaving

/-! ## Calls that are programs -/

/-- The program with each call carried out by a program over other calls. -/
def Prog.handle {Op' : Type} {Ans' : Op' → Type} (h : ∀ op, Prog Op' Ans' (Ans op)) :
    Prog Op Ans α → Prog Op' Ans' α
  | .ret a => .ret a
  | .call op k => h op >>= fun x => Prog.handle h (k x)
  | .pending => .pending

section Handle

variable {Op' : Type} {Ans' : Op' → Type} {h : ∀ op, Prog Op' Ans' (Ans op)}

theorem bind_assoc_prog {γ : Type} (m : Prog Op Ans α) (f : α → Prog Op Ans β) (g : β → Prog Op Ans γ) :
    m >>= f >>= g = m >>= fun a => f a >>= g := by
  induction m with
  | ret a => rfl
  | pending => rfl
  | call op k ih => exact congrArg (Prog.call op) (funext ih)

theorem handle_bind (m : Prog Op Ans α) (f : α → Prog Op Ans β) :
    Prog.handle h (m >>= f) = Prog.handle h m >>= fun a => Prog.handle h (f a) := by
  induction m with
  | ret a => rfl
  | pending => rfl
  | call op k ih =>
    have hk : Prog.handle h (Prog.call op k >>= f) = h op >>= fun x => Prog.handle h (k x >>= f) := rfl
    have hcall : Prog.handle h (Prog.call op k) = h op >>= fun x => Prog.handle h (k x) := rfl
    rw [hk, hcall, bind_assoc_prog]
    simp only [ih]

end Handle

/-! ## Alone -/

/-- A run with nothing between the calls: `serve` answers each of them and says what it leaves. -/
def Prog.serve (serve : σ → (op : Op) → Ans op × σ) : Prog Op Ans α → σ → Option α × σ
  | .ret a, s => (some a, s)
  | .call op k, s => Prog.serve serve (k (serve s op).1) (serve s op).2
  | .pending, s => (none, s)

def Prog.served (serve : σ → (op : Op) → Ans op × σ) : Prog Op Ans α → σ → List Op
  | .ret _, _ => []
  | .call op k, s => op :: Prog.served serve (k (serve s op).1) (serve s op).2
  | .pending, _ => []

section Alone

variable {E : Effect Op Ans σ} {Start : Prog Op Ans α → Prop} {serve : σ → (op : Op) → Ans op × σ}

theorem steps_of_serve (hserve : ∀ s op, E s op (serve s op).1 (serve s op).2) (m : Prog Op Ans α) :
    ∀ {s s' : σ} {a : α}, Prog.serve serve m s = (some a, s') →
      Steps (PoolStep E Start) ⟨s, [m]⟩ ((Prog.served serve m s).map .call ++ [.finish a]) ⟨s', []⟩ := by
  induction m with
  | ret b =>
    intro s s' a h
    cases h
    exact .snoc .refl (PoolStep.finish (i := 0) rfl)
  | pending =>
    intro s s' a h
    cases h
  | call op k ih =>
    intro s s' a h
    have hcall : Steps (PoolStep E Start) ⟨s, [.call op k]⟩ ([] ++ [.call op])
        ⟨(serve s op).2, [k (serve s op).1]⟩ :=
      .snoc .refl (PoolStep.call (i := 0) rfl (hserve s op))
    simpa [Prog.served] using hcall.append (ih (serve s op).1 h)

/-- **A program that is alone finishes** with what its calls give it. -/
theorem finishes_alone (Start : Prog Op Ans α → Prop) (hserve : ∀ s op, E s op (serve s op).1 (serve s op).2) {m : Prog Op Ans α} (hm : Start m)
    {s s' : σ} {a : α} (h : Prog.serve serve m s = (some a, s')) : Steps (PoolStep E Start) ⟨s, []⟩
      ([.start] ++ ((Prog.served serve m s).map .call ++ [.finish a])) ⟨s', []⟩ := by
  have hstart : Steps (PoolStep E Start) ⟨s, []⟩ ([] ++ [.start]) ⟨s, [m]⟩ := .snoc .refl (.start ⟨s, []⟩ hm)
  exact hstart.append (steps_of_serve hserve m h)

end Alone

end Shared
