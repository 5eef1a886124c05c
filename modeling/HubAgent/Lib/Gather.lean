import HubAgent.Lib.Ranked
/-!
# Results of tasks, gathered as they end and sorted

Tasks with different keys run side by side; one that fails leaves nothing, and a result carries the key of its task.  When
the comparator decides the key, the sorted results do not depend on the order in which the tasks ended (`Keyed.forget`),
and under a task's key stands what the task gave and nothing else (`Keyed.entry`).
-/
namespace Gather

open Ranked (Separates sortBy)

variable {α β κ : Type}

variable {task : α → κ} {result : β → κ} {run : α → Option β} {cmp : β → β → Ordering}

theorem keys_sublist (h : ∀ a b, run a = some b → result b = task a) (l : List α) :
    ((l.filterMap run).map result).Sublist (l.map task) := by
  induction l with
  | nil => exact List.Sublist.refl []
  | cons a l ih =>
    cases hrun : run a with
    | none =>
      rw [List.filterMap_cons_none hrun, List.map_cons]
      exact ih.cons (task a)
    | some b =>
      rw [List.filterMap_cons_some hrun, List.map_cons, List.map_cons, h a b hrun]
      exact ih.cons_cons (task a)

/-- A result has the key of its task, and results that compare equal have one key. -/
structure Keyed (task : α → κ) (result : β → κ) (run : α → Option β) (cmp : β → β → Ordering) : Prop where
  carried : ∀ a b, run a = some b → result b = task a
  decided : ∀ b b', cmp b b' = .eq → result b = result b'

theorem Keyed.separates (h : Keyed task result run cmp) {l : List α} (hnodup : (l.map task).Nodup) :
    Separates cmp (l.filterMap run) :=
  Ranked.separates_of_nodup cmp h.decided (hnodup.sublist (keys_sublist h.carried l))

theorem Keyed.filter_others [DecidableEq κ] (h : Keyed task result run cmp) {l : List α} {k : κ} (hk : k ∉ l.map task) :
    (l.filterMap run).filter (fun b => decide (result b = k)) = [] := by
  refine List.filter_eq_nil_iff.2 (fun b hb hsame => hk ?_)
  obtain ⟨a, ha, hrun⟩ := List.mem_filterMap.1 hb
  rw [← of_decide_eq_true hsame, h.carried a b hrun]
  exact List.mem_map_of_mem ha

variable [Std.TransCmp cmp]

/-- **In whatever order the tasks ended.** -/
theorem Keyed.forget (h : Keyed task result run cmp) {tasks finished : List α} (hnodup : (tasks.map task).Nodup)
    (hends : finished.Perm tasks) : sortBy cmp (finished.filterMap run) = sortBy cmp (tasks.filterMap run) :=
  Ranked.sortBy_eq_of_perm (h.separates hnodup) (hends.filterMap run)

/-- **Under a task's key stands what the task gave.** -/
theorem Keyed.entry [DecidableEq κ] (h : Keyed task result run cmp) {tasks : List α} (hnodup : (tasks.map task).Nodup) {a : α}
    (ha : a ∈ tasks) :
    (sortBy cmp (tasks.filterMap run)).filter (fun b => decide (result b = task a)) = (run a).toList := by
  have hone : (tasks.filterMap run).filter (fun b => decide (result b = task a)) = (run a).toList := by
    obtain ⟨before, after, rfl⟩ := List.append_of_mem ha
    rw [List.map_append, List.map_cons, List.nodup_middle, List.nodup_cons, List.mem_append, not_or] at hnodup
    rw [List.filterMap_append, List.filter_append, h.filter_others hnodup.1.1, List.nil_append]
    cases hrun : run a with
    | none => rw [List.filterMap_cons_none hrun, h.filter_others hnodup.1.2, Option.toList_none]
    | some b =>
      rw [List.filterMap_cons_some hrun, List.filter_cons_of_pos (by simp [h.carried a b hrun]),
        h.filter_others hnodup.1.2, Option.toList_some]
  rw [Ranked.filter_sortBy (h.separates hnodup), hone]
  cases run a <;> rfl

end Gather
