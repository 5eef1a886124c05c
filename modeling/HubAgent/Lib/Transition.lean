import Mathlib.Data.List.Basic
import Mathlib.Data.List.Induction
/-!
# Runs of a labelled transition system

A run carries the events of its steps, so that an invariant may speak of the whole history (`Steps.invariant`), and an
event of a run is found again as a step between two of its states (`Steps.split_at`).  Where a statement is about the
states that this very run went through, its events are recorded with them (`Recorded`, `Visited`).
-/
namespace Transition

variable {σ ε : Type} {step : σ → ε → σ → Prop} {init s : σ} {es : List ε}

/-- **A run** from `init`, its events in order; it grows at its end. -/
inductive Steps (step : σ → ε → σ → Prop) (init : σ) : List ε → σ → Prop
  | refl : Steps step init [] init
  | snoc {es : List ε} {s : σ} {e : ε} {s' : σ} : Steps step init es s → step s e s' → Steps step init (es ++ [e]) s'

/-- **Invariants of a run and its history**: true at the start, and kept by every step. -/
theorem Steps.invariant {Inv : List ε → σ → Prop} (hinit : Inv [] init)
    (hstep : ∀ es s e s', Inv es s → step s e s' → Inv (es ++ [e]) s') (h : Steps step init es s) : Inv es s := by
  induction h with
  | refl => exact hinit
  | snoc _ hlast ih => exact hstep _ _ _ _ ih hlast

/-- **Every event of a run is one of its steps**, from a state the events before it lead to. -/
theorem Steps.split_at (h : Steps step init es s) : ∀ {pre : List ε} {e : ε} {post : List ε}, es = pre ++ e :: post →
    ∃ s₁ s₂, Steps step init pre s₁ ∧ step s₁ e s₂ := by
  induction h with
  | refl => exact fun hs => by simp at hs
  | @snoc es s e' s' hrun hlast ih =>
    intro pre e post hs
    rcases List.eq_nil_or_concat post with rfl | ⟨post', last, rfl⟩
    · obtain ⟨rfl, hlast'⟩ := List.append_inj' hs rfl
      cases hlast'
      exact ⟨s, s', hrun, hlast⟩
    · have hs' : es ++ [e'] = (pre ++ e :: post') ++ [last] := by simpa using hs
      exact ih (List.append_inj' hs' rfl).1

theorem Steps.append {es' : List ε} {mid : σ} (h : Steps step init es mid) (h' : Steps step mid es' s) :
    Steps step init (es ++ es') s := by
  induction h' with
  | refl => rwa [List.append_nil]
  | snoc _ hlast ih =>
    rw [← List.append_assoc]
    exact ih.snoc hlast

theorem Steps.mono {step' : σ → ε → σ → Prop} (hsub : ∀ s e s', step s e s' → step' s e s')
    (h : Steps step init es s) : Steps step' init es s := by
  induction h with
  | refl => exact .refl
  | snoc _ hlast ih => exact ih.snoc (hsub _ _ _ hlast)

/-! ## Recorded runs -/

/-- A step, recorded with the state that it leads to. -/
def Recorded (step : σ → ε → σ → Prop) (s : σ) (e : ε × σ) (s' : σ) : Prop := step s e.1 s' ∧ e.2 = s'

def Visited (init : σ) (hist : List (ε × σ)) (s : σ) : Prop := s = init ∨ ∃ e, (e, s) ∈ hist

theorem Visited.later {hist hist' : List (ε × σ)} (h : Visited init hist s) (hsub : hist <+: hist') :
    Visited init hist' s := by
  rcases h with rfl | ⟨e, he⟩
  · exact .inl rfl
  · exact .inr ⟨e, hsub.subset he⟩

theorem Steps.visited {hist : List (ε × σ)} (h : Steps (Recorded step) init hist s) : Visited init hist s := by
  cases h with
  | refl => exact .inl rfl
  | @snoc hist s e s' _ hlast => exact .inr ⟨e.1, List.mem_append_right _ (by simp [← hlast.2])⟩

theorem Steps.recorded (h : Steps step init es s) :
    ∃ hist : List (ε × σ), hist.map Prod.fst = es ∧ Steps (Recorded step) init hist s := by
  induction h with
  | refl => exact ⟨[], rfl, .refl⟩
  | @snoc es s e s' _ hlast ih =>
    obtain ⟨hist, rfl, hrun⟩ := ih
    exact ⟨hist ++ [(e, s')], by simp, hrun.snoc ⟨hlast, rfl⟩⟩

/-- The runs of a step that is a function. -/
theorem steps_iff_foldlM {next : σ → ε → Option σ} :
    Steps (fun s e s' => next s e = some s') init es s ↔ es.foldlM next init = some s := by
  constructor
  · intro h
    induction h with
    | refl => rfl
    | snoc _ hlast ih =>
      rw [List.foldlM_append, ih]
      exact (Option.bind_some _ _).trans ((congrArg (· >>= pure) hlast).trans rfl)
  · intro h
    induction es using List.reverseRecOn generalizing s with
    | nil =>
      cases h
      exact .refl
    | append_singleton es e ih =>
      rw [List.foldlM_append] at h
      obtain ⟨mid, hmid, hlast⟩ := Option.bind_eq_some_iff.1 h
      rw [List.foldlM_cons] at hlast
      obtain ⟨last, hstep, hend⟩ := Option.bind_eq_some_iff.1 hlast
      cases hend
      exact (ih hmid).snoc hstep

end Transition
