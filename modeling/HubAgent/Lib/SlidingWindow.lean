import Mathlib.Data.List.DropRight
import Mathlib.Data.List.Induction
/-!
# A buffer bounded in number and in age

Items are pushed at the back of a buffer, which drops its oldest item when it is full; what is before a cutoff is
dropped from the front.  While the times of the items never decrease, the buffer is exactly the last items of the
history that are not before the cutoff (`prune_window`, `push_window`): the two bounds do not disturb each other.
-/
namespace SlidingWindow

variable {α : Type} {time : α → Nat} {cap cutoff cutoff' : Nat} {history buffer : List α} {a : α}

def prune (time : α → Nat) (cutoff : Nat) (buffer : List α) : List α :=
  buffer.dropWhile (fun a => decide (time a < cutoff))

def push (cap : Nat) (buffer : List α) (a : α) : List α :=
  (if cap ≤ buffer.length then buffer.tail else buffer) ++ [a]

/-- The last `cap` items of a history that are not before the cutoff. -/
def window (time : α → Nat) (cap cutoff : Nat) (history : List α) : List α :=
  (history.rtake cap).filter (fun a => decide (cutoff ≤ time a))

def InOrder (time : α → Nat) (history : List α) : Prop := history.Pairwise (fun a b => time a ≤ time b)

theorem window_sublist : (window time cap cutoff history).Sublist history :=
  List.filter_sublist.trans (List.drop_sublist _ _)

theorem InOrder.window (h : InOrder time history) : InOrder time (window time cap cutoff history) :=
  h.sublist window_sublist

theorem length_window_le : (window time cap cutoff history).length ≤ cap := by
  refine (List.length_filter_le _ _).trans ?_
  rw [List.rtake, List.length_drop]
  omega

theorem prune_sublist : (prune time cutoff buffer).Sublist buffer := List.dropWhile_sublist _

theorem mem_push {b : α} (h : b ∈ push cap buffer a) : b ∈ buffer ∨ b = a := by
  unfold push at h
  rcases List.mem_append.1 h with hold | hnew
  · split_ifs at hold
    · exact .inl (List.mem_of_mem_tail hold)
    · exact .inl hold
  · exact .inr (List.mem_singleton.1 hnew)

theorem length_push_le (hcap : 0 < cap) (h : buffer.length ≤ cap) : (push cap buffer a).length ≤ cap := by
  unfold push
  rw [List.length_append, List.length_singleton]
  split_ifs
  · rw [List.length_tail]
    omega
  · omega

theorem prune_eq_filter (h : InOrder time buffer) :
    prune time cutoff buffer = buffer.filter (fun a => decide (cutoff ≤ time a)) := by
  induction buffer with
  | nil => rfl
  | cons a buffer ih =>
    have hrest := List.pairwise_cons.1 h
    unfold prune at ih ⊢
    by_cases ha : time a < cutoff
    · rw [List.dropWhile_cons_of_pos (by simpa using ha), List.filter_cons_of_neg (by simpa using ha), ih hrest.2]
    · rw [List.dropWhile_cons_of_neg (by simpa using ha), eq_comm, List.filter_eq_self]
      intro b hb
      rw [decide_eq_true_iff]
      rcases List.mem_cons.1 hb with rfl | hb
      · omega
      · have hle := hrest.1 b hb
        omega

/-- **Pruning moves the cutoff.** -/
theorem prune_window (h : InOrder time history) (hle : cutoff ≤ cutoff') :
    prune time cutoff' (window time cap cutoff history) = window time cap cutoff' history := by
  rw [prune_eq_filter h.window, window, window, List.filter_filter]
  apply List.filter_congr
  intro a _
  rw [← Bool.decide_and, decide_eq_decide]
  omega

/-- **Pushing moves the history.** -/
theorem push_window (h : InOrder time history) (hcap : 0 < cap) (ha : cutoff ≤ time a) :
    push cap (window time cap cutoff history) a = window time cap cutoff (history ++ [a]) := by
  have hnew : [a].filter (fun a => decide (cutoff ≤ time a)) = [a] := List.filter_cons_of_pos (by simpa using ha)
  by_cases hshort : history.length < cap
  · have hroom : ¬ cap ≤ (window time cap cutoff history).length := by
      have hsub : (window time cap cutoff history).length ≤ history.length := window_sublist.length_le
      omega
    have hrecent : (history ++ [a]).rtake cap = history.rtake cap ++ [a] := by
      simp only [List.rtake, List.length_append, List.length_singleton]
      rw [show history.length + 1 - cap = 0 by omega, show history.length - cap = 0 by omega]
      rfl
    rw [push, if_neg hroom, window, window, hrecent, List.filter_append, hnew]
  · have hdrop : history.length - cap < history.length := by omega
    have hrecent : (history ++ [a]).rtake cap = (history.rtake cap).tail ++ [a] := by
      simp only [List.rtake, List.length_append, List.length_singleton, List.tail_drop]
      rw [show history.length + 1 - cap = history.length - cap + 1 by omega, List.drop_append_of_le_length (by omega)]
    have hlength : (history.rtake cap).length = cap := by
      rw [List.rtake, List.length_drop]
      omega
    have horder : InOrder time (history.rtake cap) := h.sublist (List.drop_sublist _ _)
    rw [push, window, window, hrecent, List.filter_append, hnew]
    generalize history.rtake cap = recent at hlength horder ⊢
    cases recent with
    | nil =>
      simp only [List.length_nil] at hlength
      omega
    | cons oldest rest =>
      have hrest := List.pairwise_cons.1 horder
      by_cases hold : cutoff ≤ time oldest
      · -- the oldest is inside, so all are: the buffer is full and drops it
        have hall : (oldest :: rest).filter (fun a => decide (cutoff ≤ time a)) = oldest :: rest := by
          rw [List.filter_eq_self]
          intro b hb
          rw [decide_eq_true_iff]
          rcases List.mem_cons.1 hb with rfl | hb
          · exact hold
          · exact hold.trans (hrest.1 b hb)
        have htail : rest.filter (fun a => decide (cutoff ≤ time a)) = rest := by
          rw [List.filter_cons_of_pos (by simpa using hold)] at hall
          exact (List.cons.inj hall).2
        rw [hall, if_pos (Nat.le_of_eq hlength.symm), List.tail_cons, htail]
      · -- the oldest has expired, so there is room
        have hroom : ¬ cap ≤ (rest.filter (fun a => decide (cutoff ≤ time a))).length := by
          have hsub := List.length_filter_le (fun a => decide (cutoff ≤ time a)) rest
          rw [List.length_cons] at hlength
          omega
        rw [List.filter_cons_of_neg (by simpa using hold), if_neg hroom, List.tail_cons]

end SlidingWindow
