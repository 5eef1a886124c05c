import Mathlib.Data.List.Forall2
import Mathlib.Data.Option.Basic
import HubAgent.Lib.Waiting
/-!
# Programs that run alike

`Alike` relates two programs call by call, for runs in two environments.  A call of both is the same call, whose answers
are related by `Rel`, and both go on alike after it; a call for advice may be made by either alone, who goes on like the
other whatever the advice is.  `run_alike` is what that means for runs: in environments that agree up to `Rel` on all but
the advice (`AgreeBesides`), both make the same calls besides, are answered alike, and end in results that are related.
-/
namespace Interaction

open Prog

variable {Op : Type} {Ans : Op → Type} {α β γ δ : Type}

theorem only_of_meets {C : Op → Prop} {m : Prog Op Ans α} : ∀ {tr : Trace Op Ans},
    m.Meets (fun _ op => C op) (fun _ _ => True) tr → m.Only C := by
  induction m with
  | ret a => exact fun _ => only_pure a
  | pending => exact fun _ _ => trivial
  | call op k ih =>
    intro tr h tr'
    exact ⟨h.1, fun x => ih x (h.2 x) _⟩

theorem Prog.Brief.only {C : Op → Prop} : ∀ {m : Prog Op Ans α}, m.Brief C → m.Only C
  | ret a, _ => only_pure a
  | call _ _, h => fun _ => ⟨h.1, fun x => (h.2 x).only _⟩
  | pending, h => h.elim

theorem Prog.Brief.mono {C C' : Op → Prop} (hsub : ∀ op, C op → C' op) : ∀ {m : Prog Op Ans α}, m.Brief C → m.Brief C'
  | ret _, _ => trivial
  | call op _, h => ⟨hsub op h.1, fun x => (h.2 x).mono hsub⟩
  | pending, h => h.elim

section Alike

variable (advises : Op → Bool) (Rel : (op : Op) → Ans op → Ans op → Prop)

/-- A history without the advice. -/
def besides (tr : Trace Op Ans) : Trace Op Ans := tr.filter (fun e => !advises e.call)

/-- The same call, answered alike. -/
inductive Matched : Event Op Ans → Event Op Ans → Prop
  | intro {op : Op} {x x' : Ans op} (h : Rel op x x') : Matched ⟨op, x⟩ ⟨op, x'⟩

/-- **Two programs that run alike**, up to `R` in what they return. -/
inductive Alike (R : α → β → Prop) : Prog Op Ans α → Prog Op Ans β → Prop
  | ret {a : α} {b : β} (h : R a b) : Alike R (.ret a) (.ret b)
  | call {op : Op} {k : Ans op → Prog Op Ans α} {k' : Ans op → Prog Op Ans β} (hop : advises op = false)
      (h : ∀ x x', Rel op x x' → Alike R (k x) (k' x')) : Alike R (.call op k) (.call op k')
  | left {op : Op} {k : Ans op → Prog Op Ans α} {m : Prog Op Ans β} (hop : advises op = true)
      (h : ∀ x, Alike R (k x) m) : Alike R (.call op k) m
  | right {op : Op} {m : Prog Op Ans α} {k : Ans op → Prog Op Ans β} (hop : advises op = true)
      (h : ∀ x, Alike R m (k x)) : Alike R m (.call op k)
  | pending : Alike R .pending .pending

/-- **Two environments that agree on all but the advice**, which neither lets decide what else it answers. -/
def AgreeBesides (o o' : Oracle Op Ans) : Prop :=
  ∀ tr tr' op, List.Forall₂ (Matched Rel) (besides advises tr) (besides advises tr') → advises op = false →
    Rel op (o tr op) (o' tr' op)

variable {advises Rel}

/-! ## The rules -/

section Rules

variable {R : α → β → Prop} {S : γ → δ → Prop}

/-- A program that asks for no advice, and can tell its answers apart no further than they are related, is like itself. -/
theorem alike_refl {Q : α → α → Prop} (hQ : ∀ a, Q a a) {m : Prog Op Ans α} :
    m.Only (fun op => advises op = false ∧ ∀ x x', Rel op x x' → x = x') → Alike advises Rel Q m m := by
  induction m with
  | ret a => exact fun _ => .ret (hQ a)
  | pending => exact fun _ => .pending
  | call op k ih =>
    intro h
    obtain ⟨⟨hop, heq⟩, hnext⟩ := h []
    refine .call hop (fun x x' hx => ?_)
    rw [heq x x' hx]
    exact ih x' (only_of_meets (hnext x'))

theorem Alike.mono {R' : α → β → Prop} (hR : ∀ a b, R a b → R' a b) {m : Prog Op Ans α} {m' : Prog Op Ans β}
    (h : Alike advises Rel R m m') : Alike advises Rel R' m m' := by
  induction h with
  | ret h => exact .ret (hR _ _ h)
  | call hop _ ih => exact .call hop ih
  | left hop _ ih => exact .left hop ih
  | right hop _ ih => exact .right hop ih
  | pending => exact .pending

/-- **The sequence rule.** -/
theorem Alike.bind {m : Prog Op Ans α} {m' : Prog Op Ans β} {f : α → Prog Op Ans γ} {f' : β → Prog Op Ans δ}
    (h : Alike advises Rel R m m') (hf : ∀ a b, R a b → Alike advises Rel S (f a) (f' b)) :
    Alike advises Rel S (m >>= f) (m' >>= f') := by
  induction h with
  | ret h => exact hf _ _ h
  | call hop _ ih => exact .call hop ih
  | left hop _ ih => exact .left hop ih
  | right hop _ ih => exact .right hop ih
  | pending => exact .pending

theorem alike_ask_bind {op : Op} (hop : advises op = false) {f : Ans op → Prog Op Ans α} {f' : Ans op → Prog Op Ans β}
    (h : ∀ x x', Rel op x x' → Alike advises Rel R (f x) (f' x')) :
    Alike advises Rel R (ask op >>= f) (ask op >>= f') :=
  .call hop h

theorem alike_of_advice {m : Prog Op Ans α} {m' : Prog Op Ans β} (hm : m.Brief (fun op => advises op = true))
    (hm' : m'.Brief (fun op => advises op = true)) (hR : ∀ a b, R a b) : Alike advises Rel R m m' := by
  induction m with
  | pending => exact hm.elim
  | call op k ih => exact .left hm.1 (fun x => ih x (hm.2 x))
  | ret a =>
    induction m' with
    | ret b => exact .ret (hR a b)
    | pending => exact hm'.elim
    | call op k ih => exact .right hm'.1 (fun x => ih x (hm'.2 x))

/-- **The advice rule**: what follows advice on either side must be alike whatever the advice is. -/
theorem alike_advice {m : Prog Op Ans α} {m' : Prog Op Ans β} (hm : m.Brief (fun op => advises op = true))
    (hm' : m'.Brief (fun op => advises op = true)) {f : α → Prog Op Ans γ} {f' : β → Prog Op Ans δ}
    (hf : ∀ a b, Alike advises Rel S (f a) (f' b)) : Alike advises Rel S (m >>= f) (m' >>= f') :=
  (alike_of_advice (R := fun _ _ => True) hm hm' (fun _ _ => trivial)).bind (fun a b _ => hf a b)

/-- Answers that are the same. -/
abbrev Same : (op : Op) → Ans op → Ans op → Prop := fun _ => Eq

theorem alike_ask_same {op : Op} (hop : advises op = false) {f : Ans op → Prog Op Ans α} {f' : Ans op → Prog Op Ans β}
    (h : ∀ x, Alike advises Same R (f x) (f' x)) : Alike advises Same R (ask op >>= f) (ask op >>= f') := by
  refine alike_ask_bind hop ?_
  rintro x _ rfl
  exact h x

theorem alike_same {Q : α → α → Prop} (hQ : ∀ a, Q a a) {m : Prog Op Ans α} (h : m.Only (fun op => advises op = false)) :
    Alike advises Same Q m m :=
  alike_refl hQ (h.mono (fun _ hop => ⟨hop, fun _ _ hx => hx⟩))

theorem alike_bind_same {m : Prog Op Ans α} (hm : m.Only (fun op => advises op = false)) {f : α → Prog Op Ans γ}
    {f' : α → Prog Op Ans δ} (hf : ∀ a, Alike advises Same S (f a) (f' a)) :
    Alike advises Same S (m >>= f) (m >>= f') := by
  refine (alike_same (Q := Eq) (fun _ => rfl) hm).bind ?_
  rintro a _ rfl
  exact hf a

end Rules

/-! ## Runs -/

theorem besides_concat_call {tr : Trace Op Ans} {e : Event Op Ans} (h : advises e.call = false) :
    besides advises (tr ++ [e]) = besides advises tr ++ [e] := by
  simp [besides, h]

theorem besides_concat_advice {tr : Trace Op Ans} {e : Event Op Ans} (h : advises e.call = true) :
    besides advises (tr ++ [e]) = besides advises tr := by
  simp [besides, h]

theorem eq_of_matched {tr tr' : Trace Op Ans} (h : List.Forall₂ (Matched Same) tr tr') : tr = tr' := by
  induction h with
  | nil => rfl
  | cons he _ ih =>
    cases he with
    | intro hx => rw [hx, ih]

theorem calls_of_matched {tr tr' : Trace Op Ans} (h : List.Forall₂ (Matched Rel) tr tr') :
    tr.map Event.call = tr'.map Event.call := by
  induction h with
  | nil => rfl
  | cons he _ ih =>
    cases he with
    | intro hx => rw [List.map_cons, List.map_cons, ih]

theorem besides_none (tr : Trace Op Ans) : besides (fun _ => false) tr = tr :=
  List.filter_eq_self.2 (fun _ _ => rfl)

/-- **Programs that are alike run alike**, from histories that are: the calls besides the advice are the same, and so
are their answers up to `Rel`; the results are related, or neither has one. -/
theorem run_alike {R : α → β → Prop} {o o' : Oracle Op Ans} (hagree : AgreeBesides advises Rel o o')
    {m : Prog Op Ans α} {m' : Prog Op Ans β} (h : Alike advises Rel R m m') : ∀ {tr tr' : Trace Op Ans},
      List.Forall₂ (Matched Rel) (besides advises tr) (besides advises tr') →
      List.Forall₂ (Matched Rel) (besides advises (m.run o tr).2) (besides advises (m'.run o' tr').2) ∧
      Option.Rel R (m.run o tr).1 (m'.run o' tr').1 := by
  induction h with
  | ret h => exact fun hseen => ⟨hseen, .some h⟩
  | pending => exact fun hseen => ⟨hseen, .none⟩
  | @call op k k' hop _ ih =>
    intro tr tr' hseen
    have hanswer : Rel op (o tr op) (o' tr' op) := hagree tr tr' op hseen hop
    rw [run, run]
    refine ih _ _ hanswer ?_
    rw [besides_concat_call hop, besides_concat_call hop]
    exact List.rel_append hseen (.cons (.intro hanswer) .nil)
  | left hop _ ih =>
    intro tr tr' hseen
    rw [run]
    refine ih _ ?_
    rwa [besides_concat_advice hop]
  | right hop _ ih =>
    intro tr tr' hseen
    rw [run]
    refine ih _ ?_
    rwa [besides_concat_advice hop]

theorem trace_alike {R : α → β → Prop} {o o' : Oracle Op Ans} (hagree : AgreeBesides advises Rel o o')
    {m : Prog Op Ans α} {m' : Prog Op Ans β} (h : Alike advises Rel R m m') :
    List.Forall₂ (Matched Rel) (besides advises (m.trace o)) (besides advises (m'.trace o')) ∧
      Option.Rel R (m.run o []).1 (m'.run o' []).1 :=
  run_alike hagree h .nil

end Alike

end Interaction
