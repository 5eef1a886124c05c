import Mathlib.Data.List.Induction
import Mathlib.Data.List.DropRight
import Mathlib.Data.List.Infix
/-!
# Programs that call out, and what holds along every run of one

A program is a tree of calls: it asks one thing, gets an answer of the type that call has, and goes on.  An **oracle**
answers from the history so far, so it may be any environment at all.  A run yields the trace of calls with their
answers, and the result once there is one: `pending` marks where a run is observed no further (a loop whose fuel is
spent), so every statement about traces is a statement about every prefix of an unbounded run.

`Meets P Q m tr` is the rule of pre- and postconditions: from the history `tr`, every call of `m` satisfies `P` at the
history before it, and every result satisfies `Q` at the history after it, whatever the answers.  `Meets.bind` composes
two programs, `run_meets` carries it to every oracle, and `meets_call` to one answered call at a time, which is what an
interleaving needs.
-/
namespace Interaction

universe u

/-- A program over the calls `Op`, each answered in `Ans op`. -/
inductive Prog (Op : Type) (Ans : Op → Type) (α : Type u) where
  | ret (a : α)
  | call (op : Op) (k : Ans op → Prog Op Ans α)
  | pending

structure Event (Op : Type) (Ans : Op → Type) where
  call : Op
  answer : Ans call

abbrev Trace (Op : Type) (Ans : Op → Type) := List (Event Op Ans)

/-- Any environment: it answers a call from everything it was asked before. -/
abbrev Oracle (Op : Type) (Ans : Op → Type) := Trace Op Ans → (op : Op) → Ans op

variable {Op : Type} {Ans : Op → Type} {α β : Type}

namespace Prog

def bind : Prog Op Ans α → (α → Prog Op Ans β) → Prog Op Ans β
  | ret a, f => f a
  | call op k, f => call op (fun x => (k x).bind f)
  | pending, _ => pending

instance : Monad (Prog Op Ans) where
  pure := ret
  bind := bind

def ask (op : Op) : Prog Op Ans (Ans op) := call op ret

/-- A run from the history `tr`: the result, if it was reached, and the history after it. -/
def run (o : Oracle Op Ans) : Prog Op Ans α → Trace Op Ans → Option α × Trace Op Ans
  | ret a, tr => (some a, tr)
  | call op k, tr => (k (o tr op)).run o (tr ++ [⟨op, o tr op⟩])
  | pending, tr => (none, tr)

def trace (o : Oracle Op Ans) (m : Prog Op Ans α) : Trace Op Ans := (m.run o []).2

/-- The same program over a larger set of calls. -/
def lift {Op' : Type} {Ans' : Op' → Type} (f : Op → Op') (g : ∀ op, Ans' (f op) → Ans op) :
    Prog Op Ans α → Prog Op' Ans' α
  | ret a => ret a
  | call op k => call (f op) (fun x => (k (g op x)).lift f g)
  | pending => pending

/-- **Every call of `m` satisfies `P` where it is made, and every result `Q` where it is reached.** -/
def Meets (P : Trace Op Ans → Op → Prop) (Q : α → Trace Op Ans → Prop) : Prog Op Ans α → Trace Op Ans → Prop
  | ret a, tr => Q a tr
  | call op k, tr => P tr op ∧ ∀ x, (k x).Meets P Q (tr ++ [⟨op, x⟩])
  | pending, _ => True

/-- No call of the program, on any path, is one of `bad`. -/
def Avoids (bad : Op → Prop) : Prog Op Ans α → Prop
  | ret _ => True
  | call op k => ¬ bad op ∧ ∀ x, (k x).Avoids bad
  | pending => True

/-- **Every path of `m` returns**, and every result satisfies `Q` where it is reached. -/
def Ends (Q : α → Trace Op Ans → Prop) : Prog Op Ans α → Trace Op Ans → Prop
  | ret a, tr => Q a tr
  | call op k, tr => ∀ x, (k x).Ends Q (tr ++ [⟨op, x⟩])
  | pending, _ => False

end Prog

open Prog

/-! ## The rules -/

section Rules

variable {P P' : Trace Op Ans → Op → Prop} {Q Q' : α → Trace Op Ans → Prop} {tr : Trace Op Ans}

theorem meets_call (op : Op) (k : Ans op → Prog Op Ans α) :
    (call op k).Meets P Q tr ↔ P tr op ∧ ∀ x, (k x).Meets P Q (tr ++ [⟨op, x⟩]) := Iff.rfl

/-- **Sequencing**: what follows is met at every result of what precedes. -/
theorem meets_bind (m : Prog Op Ans α) (f : α → Prog Op Ans β) {R : β → Trace Op Ans → Prop} :
    ∀ {tr : Trace Op Ans}, (m >>= f).Meets P R tr ↔ m.Meets P (fun a tr' => (f a).Meets P R tr') tr := by
  induction m with
  | ret a => exact Iff.rfl
  | pending => exact Iff.rfl
  | call op k ih =>
    intro tr
    constructor
    · rintro ⟨hop, hnext⟩
      exact ⟨hop, fun x => (ih x).1 (hnext x)⟩
    · rintro ⟨hop, hnext⟩
      exact ⟨hop, fun x => (ih x).2 (hnext x)⟩

theorem meets_ask_bind (op : Op) (f : Ans op → Prog Op Ans β) {R : β → Trace Op Ans → Prop} :
    (ask op >>= f).Meets P R tr ↔ P tr op ∧ ∀ x, (f x).Meets P R (tr ++ [⟨op, x⟩]) := Iff.rfl

/-- **Consequence.** -/
theorem Prog.Meets.mono (hP : ∀ tr op, P tr op → P' tr op) {m : Prog Op Ans α} :
    ∀ {tr : Trace Op Ans}, (∀ a tr', Q a tr' → Q' a tr') → m.Meets P Q tr → m.Meets P' Q' tr := by
  induction m with
  | ret a =>
    intro tr hQ h
    exact hQ a tr h
  | pending =>
    intro tr _ _
    trivial
  | call op k ih =>
    intro tr hQ h
    refine ⟨hP tr op h.1, fun x => ?_⟩
    exact ih x hQ (h.2 x)

/-- **The sequence rule**: what follows is met wherever the postcondition of what precedes holds. -/
theorem Prog.Meets.bind {m : Prog Op Ans α} {f : α → Prog Op Ans β} {R : β → Trace Op Ans → Prop}
    (hm : m.Meets P Q tr) (hf : ∀ a tr', Q a tr' → (f a).Meets P R tr') : (m >>= f).Meets P R tr :=
  (meets_bind m f).2 (hm.mono (fun _ _ h => h) hf)

theorem ends_ask_bind (op : Op) (f : Ans op → Prog Op Ans β) {R : β → Trace Op Ans → Prop} :
    (ask op >>= f).Ends R tr ↔ ∀ x, (f x).Ends R (tr ++ [⟨op, x⟩]) := Iff.rfl

theorem Prog.Ends.mono (hQ : ∀ a tr', Q a tr' → Q' a tr') : ∀ {m : Prog Op Ans α} {tr : Trace Op Ans},
    m.Ends Q tr → m.Ends Q' tr
  | ret a, tr, h => hQ a tr h
  | call _ _, _, h => fun x => (h x).mono hQ
  | pending, _, h => h

theorem Prog.Ends.bind {f : α → Prog Op Ans β} {R : β → Trace Op Ans → Prop}
    (hf : ∀ a tr', Q a tr' → (f a).Ends R tr') : ∀ {m : Prog Op Ans α} {tr : Trace Op Ans}, m.Ends Q tr →
    (m >>= f).Ends R tr
  | ret a, tr, h => hf a tr h
  | call _ _, _, h => fun x => (h x).bind hf
  | pending, _, h => h.elim

/-- **The history only grows**, and a condition on it that growing keeps may be assumed after the program. -/
theorem Prog.Meets.grows {m : Prog Op Ans α} : ∀ {tr : Trace Op Ans}, m.Meets P Q tr →
    m.Meets P (fun a tr' => Q a tr' ∧ tr <+: tr') tr := by
  induction m with
  | ret a =>
    intro tr h
    exact ⟨h, List.prefix_refl tr⟩
  | pending =>
    intro tr _
    trivial
  | call op k ih =>
    intro tr h
    refine ⟨h.1, fun x => ?_⟩
    refine (ih x (h.2 x)).mono (fun _ _ hp => hp) (fun a tr' hq => ?_)
    have hstep : tr <+: tr ++ [⟨op, x⟩] := List.prefix_append _ _
    exact ⟨hq.1, hstep.trans hq.2⟩

/-- **Conjunction.** -/
theorem Prog.Meets.and {m : Prog Op Ans α} : ∀ {tr : Trace Op Ans}, m.Meets P Q tr → m.Meets P' Q' tr →
    m.Meets (fun tr op => P tr op ∧ P' tr op) (fun a tr' => Q a tr' ∧ Q' a tr') tr := by
  induction m with
  | ret a =>
    intro tr h h'
    exact ⟨h, h'⟩
  | pending =>
    intro tr _ _
    trivial
  | call op k ih =>
    intro tr h h'
    refine ⟨⟨h.1, h'.1⟩, fun x => ?_⟩
    exact ih x (h.2 x) (h'.2 x)

theorem Prog.Meets.adds {C : Op → Prop} {m : Prog Op Ans α} : ∀ {tr : Trace Op Ans}, m.Meets (fun _ op => C op) Q tr →
    m.Meets (fun _ op => C op) (fun a tr' => Q a tr' ∧ ∃ later, tr' = tr ++ later ∧ ∀ e ∈ later, C e.call) tr := by
  induction m with
  | ret a =>
    intro tr h
    exact ⟨h, [], by simp, by simp⟩
  | pending =>
    intro tr _
    trivial
  | call op k ih =>
    intro tr h
    refine ⟨h.1, fun x => ?_⟩
    refine (ih x (h.2 x)).mono (fun _ _ hp => hp) (fun a tr' hq => ?_)
    obtain ⟨hq, later, rfl, hlater⟩ := hq
    refine ⟨hq, ⟨op, x⟩ :: later, by simp, ?_⟩
    intro e he
    rcases List.mem_cons.1 he with rfl | he
    · exact h.1
    · exact hlater e he

/-- **A program that only makes calls of one kind**, from whatever history. -/
def Prog.Only (C : Op → Prop) (m : Prog Op Ans α) : Prop :=
  ∀ tr, m.Meets (fun _ op => C op) (fun _ _ => True) tr

theorem only_pure {C : Op → Prop} (a : α) : (pure a : Prog Op Ans α).Only C := fun _ => trivial

theorem only_ask {C : Op → Prop} {op : Op} (h : C op) : (ask op : Prog Op Ans (Ans op)).Only C :=
  fun _ => ⟨h, fun _ => trivial⟩

theorem only_bind {C : Op → Prop} {m : Prog Op Ans α} {f : α → Prog Op Ans β} (hm : m.Only C)
    (hf : ∀ a, (f a).Only C) : (m >>= f).Only C :=
  fun tr => (hm tr).bind (fun a tr' _ => hf a tr')

theorem Prog.Only.mono {C C' : Op → Prop} {m : Prog Op Ans α} (h : m.Only C) (hsub : ∀ op, C op → C' op) : m.Only C' :=
  fun tr => (h tr).mono (fun _ op hop => hsub op hop) (fun _ _ _ => trivial)

/-- A program that only makes calls of one kind meets every condition that leaves them free. -/
theorem Prog.Only.meets {C : Op → Prop} {m : Prog Op Ans α} (h : m.Only C) (hP : ∀ tr op, C op → P tr op)
    (tr : Trace Op Ans) :
    m.Meets P (fun _ tr' => ∃ later, tr' = tr ++ later ∧ ∀ e ∈ later, C e.call) tr :=
  (h tr).adds.mono (fun tr op hop => hP tr op hop) (fun _ _ hq => hq.2)

theorem meets_true (m : Prog Op Ans α) : ∀ (tr : Trace Op Ans), m.Meets (fun _ _ => True) (fun _ _ => True) tr := by
  induction m with
  | ret a => exact fun _ => trivial
  | pending => exact fun _ => trivial
  | call op k ih => exact fun tr => ⟨trivial, fun x => ih x _⟩

theorem meets_lift {Op' : Type} {Ans' : Op' → Type} (f : Op → Op') (g : ∀ op, Ans' (f op) → Ans op)
    {R : Trace Op' Ans' → Op' → Prop} (hR : ∀ tr op, R tr (f op)) (m : Prog Op Ans α) :
    ∀ {tr : Trace Op' Ans'}, (m.lift f g).Meets R (fun _ _ => True) tr := by
  induction m with
  | ret a => exact trivial
  | pending => exact trivial
  | call op k ih => exact ⟨hR _ op, fun x => ih (g op x)⟩

/-- **Lifting**: where every lifted call keeps `K` and is allowed under it, a lifted program keeps `K`, and its results
are those of the program. -/
theorem Prog.Meets.lift {Op' : Type} {Ans' : Op' → Type} {f : Op → Op'} {g : ∀ op, Ans' (f op) → Ans op}
    {K : Trace Op' Ans' → Prop} {R : Trace Op' Ans' → Op' → Prop} {C : α → Prop} (hR : ∀ tr op, K tr → R tr (f op))
    (hK : ∀ tr op x, K tr → K (tr ++ [⟨f op, x⟩])) {m : Prog Op Ans α} : ∀ {tr : Trace Op Ans} {tr' : Trace Op' Ans'},
    m.Meets (fun _ _ => True) (fun a _ => C a) tr → K tr' → (m.lift f g).Meets R (fun a tr'' => C a ∧ K tr'') tr' := by
  induction m with
  | ret a => exact fun h hk => ⟨h, hk⟩
  | pending => exact fun _ _ => trivial
  | call op k ih => exact fun h hk => ⟨hR _ op hk, fun x => ih (g op x) (h.2 (g op x)) (hK _ op x hk)⟩

end Rules

/-! ## What a history last showed -/

section History

variable {f : Event Op Ans → Option α}

/-- The last thing that `f` reads in a history. -/
def lastOf (f : Event Op Ans → Option α) (tr : Trace Op Ans) : Option α :=
  tr.foldl (fun last e => (f e).or last) none

theorem lastOf_concat (tr : Trace Op Ans) (e : Event Op Ans) : lastOf f (tr ++ [e]) = (f e).or (lastOf f tr) := by
  rw [lastOf, List.foldl_append]
  rfl

theorem lastOf_append (tr later : Trace Op Ans) : lastOf f (tr ++ later) = (lastOf f later).or (lastOf f tr) := by
  induction later using List.reverseRecOn with
  | nil => simp [lastOf]
  | append_singleton later e ih =>
    rw [← List.append_assoc, lastOf_concat, lastOf_concat, ih, Option.or_assoc]

theorem lastOf_eq_none_iff {tr : Trace Op Ans} : lastOf f tr = none ↔ ∀ e ∈ tr, f e = none := by
  induction tr using List.reverseRecOn with
  | nil => simp [lastOf]
  | append_singleton tr e ih =>
    rw [lastOf_concat, Option.or_eq_none_iff, ih]
    simp only [List.mem_append, List.mem_singleton]
    constructor
    · rintro ⟨he, htr⟩ x (hx | rfl)
      · exact htr x hx
      · exact he
    · intro h
      exact ⟨h e (.inr rfl), fun x hx => h x (.inl hx)⟩

theorem lastOf_append_of_none (tr : Trace Op Ans) {later : Trace Op Ans} (h : ∀ e ∈ later, f e = none) :
    lastOf f (tr ++ later) = lastOf f tr := by
  rw [lastOf_append, lastOf_eq_none_iff.2 h, Option.none_or]

theorem exists_of_lastOf {tr : Trace Op Ans} {a : α} (h : lastOf f tr = some a) :
    ∃ pre e post, tr = pre ++ e :: post ∧ f e = some a := by
  induction tr using List.reverseRecOn with
  | nil => cases h
  | append_singleton tr e ih =>
    rw [lastOf_concat] at h
    cases he : f e with
    | some b =>
      rw [he, Option.some_or] at h
      exact ⟨tr, e, [], rfl, he.trans h⟩
    | none =>
      rw [he, Option.none_or] at h
      obtain ⟨pre, e', post, rfl, he'⟩ := ih h
      exact ⟨pre, e', post ++ [e], by simp, he'⟩

end History

/-! ## The first and the last call of a kind -/

section Kind

variable (p : Op → Bool)

/-- The history before the first call of a kind. -/
def beforeFirst (tr : Trace Op Ans) : Trace Op Ans := tr.takeWhile (fun e => !p e.call)

/-- The history up to the last call of a kind, with it. -/
def upToLast (tr : Trace Op Ans) : Trace Op Ans := tr.rdropWhile (fun e => !p e.call)

def beforeLast (tr : Trace Op Ans) : Trace Op Ans := (upToLast p tr).dropLast

def lastCall (tr : Trace Op Ans) : Option (Event Op Ans) := (upToLast p tr).getLast?

variable {p} {pre post : Trace Op Ans} {e : Event Op Ans}

theorem beforeFirst_eq (he : p e.call = true) (hpre : ∀ x ∈ pre, p x.call = false) :
    beforeFirst p (pre ++ e :: post) = pre := by
  have hkept : ∀ x ∈ pre, (!p x.call) = true := fun x hx => by rw [hpre x hx]; rfl
  rw [beforeFirst, List.takeWhile_append_of_pos hkept, List.takeWhile_cons_of_neg (by rw [he]; decide), List.append_nil]

theorem upToLast_eq (he : p e.call = true) (hpost : ∀ x ∈ post, p x.call = false) :
    upToLast p (pre ++ e :: post) = pre ++ [e] := by
  unfold upToLast
  induction post using List.reverseRecOn with
  | nil => rw [List.rdropWhile_concat_neg _ _ _ (by rw [he]; decide)]
  | append_singleton post x ih =>
    have hx : (!p x.call) = true := by
      rw [hpost x (List.mem_append_right _ List.mem_cons_self)]
      rfl
    rw [← List.cons_append, ← List.append_assoc, List.rdropWhile_concat_pos (fun y : Event Op Ans => !p y.call) _ _ hx]
    exact ih (fun y hy => hpost y (List.mem_append_left _ hy))

theorem lastCall_eq (he : p e.call = true) (hpost : ∀ x ∈ post, p x.call = false) :
    lastCall p (pre ++ e :: post) = some e := by
  rw [lastCall, upToLast_eq he hpost, List.getLast?_concat]

theorem beforeLast_eq (he : p e.call = true) (hpost : ∀ x ∈ post, p x.call = false) :
    beforeLast p (pre ++ e :: post) = pre := by
  rw [beforeLast, upToLast_eq he hpost, List.dropLast_concat]

end Kind

/-! ## What the rules say about runs -/

theorem run_bind (o : Oracle Op Ans) (m : Prog Op Ans α) (f : α → Prog Op Ans β) :
    ∀ {tr tr' : Trace Op Ans} {a : α}, m.run o tr = (some a, tr') → (m >>= f).run o tr = (f a).run o tr' := by
  induction m with
  | ret b =>
    intro tr tr' a h
    cases h
    rfl
  | pending =>
    intro tr tr' a h
    cases h
  | call op k ih => exact fun h => ih _ h

theorem run_ask_bind (o : Oracle Op Ans) (op : Op) (f : Ans op → Prog Op Ans β) (tr : Trace Op Ans) :
    (ask op >>= f).run o tr = (f (o tr op)).run o (tr ++ [⟨op, o tr op⟩]) := rfl

theorem run_ends (o : Oracle Op Ans) {Q : α → Trace Op Ans → Prop} : ∀ {m : Prog Op Ans α} {tr : Trace Op Ans},
    m.Ends Q tr → ∃ a, (m.run o tr).1 = some a ∧ Q a (m.run o tr).2
  | ret a, _, h => ⟨a, rfl, h⟩
  | call op k, tr, h => by
    obtain ⟨a, ha, hq⟩ := run_ends o (h (o tr op))
    exact ⟨a, ha, hq⟩
  | pending, _, h => h.elim

variable {P : Trace Op Ans → Op → Prop} {Q : α → Trace Op Ans → Prop}

/-- **Every run extends its history, every call of it satisfies `P`, and its result satisfies `Q`.** -/
theorem run_meets (o : Oracle Op Ans) (m : Prog Op Ans α) : ∀ (tr : Trace Op Ans), m.Meets P Q tr →
    (∀ a, (m.run o tr).1 = some a → Q a (m.run o tr).2) ∧
    ∃ later, (m.run o tr).2 = tr ++ later ∧ ∀ pre e post, later = pre ++ e :: post → P (tr ++ pre) e.call := by
  induction m with
  | ret a =>
    intro tr h
    refine ⟨fun b hb => ?_, [], by simp [run], fun pre e post hs => by simp at hs⟩
    cases hb
    exact h
  | pending =>
    exact fun tr _ => ⟨fun b hb => (by cases hb), [], by simp [run], fun pre e post hs => by simp at hs⟩
  | call op k ih =>
    intro tr h
    obtain ⟨hq, later, hext, hp⟩ := ih (o tr op) _ (h.2 (o tr op))
    refine ⟨hq, ⟨op, o tr op⟩ :: later, ?_, fun pre e post hs => ?_⟩
    · simpa [run] using hext
    · cases pre with
      | nil =>
        simp only [List.nil_append, List.cons.injEq] at hs
        rw [← hs.1, List.append_nil]
        exact h.1
      | cons x pre =>
        simp only [List.cons_append, List.cons.injEq] at hs
        have := hp pre e post hs.2
        rwa [hs.1, List.append_assoc, List.singleton_append] at this

theorem trace_meets (o : Oracle Op Ans) (m : Prog Op Ans α) (h : m.Meets P Q []) (pre post : Trace Op Ans)
    (e : Event Op Ans) (hs : m.trace o = pre ++ e :: post) : P pre e.call := by
  obtain ⟨-, later, hext, hp⟩ := run_meets o m [] h
  rw [List.nil_append] at hext
  exact hp pre e post (hext.symm.trans hs)

theorem only_trace (o : Oracle Op Ans) {C : Op → Prop} {m : Prog Op Ans α} (h : m.Only C) {pre post : Trace Op Ans}
    {e : Event Op Ans} (hs : m.trace o = pre ++ e :: post) : C e.call :=
  trace_meets o m (h []) pre post e hs

theorem result_meets (o : Oracle Op Ans) (m : Prog Op Ans α) (h : m.Meets P Q []) (a : α)
    (ha : (m.run o []).1 = some a) : Q a (m.trace o) :=
  (run_meets o m [] h).1 a ha

end Interaction
