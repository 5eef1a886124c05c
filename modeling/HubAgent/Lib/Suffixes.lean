import Mathlib.Data.List.Basic
/-!
# One pass over a table of suffixes

A list may have suffixes stacked on it, in any order.  One pass tries each suffix of a table once, in the table's order:
it takes one off where the list ends in it.  When no suffix of the table ends in another one, a pass does to the stack
what popping does (`pass_stacked`), so it takes all off exactly when the stack, read from outside, is in the order of the
table (`bare_pass_iff`).
-/
namespace Suffixes

variable {α : Type} {table stack : List (List α)} {l base core : List α}

/-- A list with suffixes stacked on it, the outermost one first. -/
def stacked (l : List α) : List (List α) → List α
  | [] => l
  | suffix :: stack => stacked l stack ++ suffix

/-- It ends in none of them. -/
def Bare (table : List (List α)) (l : List α) : Prop := ∀ suffix ∈ table, ¬ suffix <:+ l

/-- **The suffixes of a table are told apart** at the end of a list. -/
structure Apart (table : List (List α)) : Prop where
  ne_nil : ∀ suffix ∈ table, suffix ≠ []
  eq_of_suffix : ∀ s ∈ table, ∀ t ∈ table, s <:+ t → s = t

/-- **Whatever of the table is stacked on it**, read from outside, is in the order of the table. -/
def InOrder (table : List (List α)) (l : List α) : Prop :=
  ∀ base stack, (∀ suffix ∈ stack, suffix ∈ table) → l = stacked base stack → stack.Sublist table

theorem Apart.unique (h : Apart table) {s t : List α} (hs : s ∈ table) (ht : t ∈ table) (hsl : s <:+ l) (htl : t <:+ l) :
    s = t := by
  rcases List.suffix_or_suffix_of_suffix hsl htl with hst | hts
  · exact h.eq_of_suffix s hs t ht hst
  · exact (h.eq_of_suffix t ht s hs hts).symm

/-! ## Stacks -/

theorem stacked_append (l : List α) (outer inner : List (List α)) :
    stacked l (outer ++ inner) = stacked (stacked l inner) outer := by
  induction outer with
  | nil => rfl
  | cons suffix outer ih => rw [List.cons_append, stacked, stacked, ih]

theorem append_stacked (front l : List α) (stack : List (List α)) : front ++ stacked l stack = stacked (front ++ l) stack := by
  induction stack with
  | nil => rfl
  | cons suffix stack ih => rw [stacked, stacked, ← ih, List.append_assoc]

theorem bare_stacked_iff (hcore : Bare table core) (hlisted : ∀ s ∈ stack, s ∈ table) :
    Bare table (stacked core stack) ↔ stack = [] := by
  cases stack with
  | nil => exact iff_of_true hcore rfl
  | cons t stack =>
    refine iff_of_false (fun h => ?_) (List.cons_ne_nil t stack)
    exact h t (hlisted t List.mem_cons_self) (List.suffix_append _ t)

/-- **Below all the suffixes** stands a list that ends in none. -/
theorem exists_core (hne : ∀ suffix ∈ table, suffix ≠ []) (l : List α) :
    ∃ core stack, (∀ suffix ∈ stack, suffix ∈ table) ∧ l = stacked core stack ∧ Bare table core := by
  by_cases hbare : Bare table l
  · exact ⟨l, [], fun _ h => (nomatch h), rfl, hbare⟩
  · simp only [Bare, not_forall, not_not] at hbare
    obtain ⟨suffix, hmem, rest, hrest⟩ := hbare
    have hshorter : rest.length < l.length := by
      have hpos : 0 < suffix.length := List.length_pos_iff.2 (hne suffix hmem)
      rw [← hrest, List.length_append]
      omega
    obtain ⟨core, stack, hlisted, hstacked, hcore⟩ := exists_core hne rest
    refine ⟨core, suffix :: stack, List.forall_mem_cons.2 ⟨hmem, hlisted⟩, ?_, hcore⟩
    rw [stacked, ← hstacked, hrest]
termination_by l.length

/-! ## One step -/

variable [DecidableEq α]

/-- The list without a suffix, if it ends in it. -/
def strip (l suffix : List α) : List α := if suffix <:+ l then l.take (l.length - suffix.length) else l

def pass (table : List (List α)) (l : List α) : List α := table.foldl strip l

theorem strip_append (l suffix : List α) : strip (l ++ suffix) suffix = l := by
  rw [strip, if_pos (List.suffix_append l suffix), List.length_append, Nat.add_sub_cancel, List.take_left]

theorem strip_of_not {suffix : List α} (h : ¬ suffix <:+ l) : strip l suffix = l := if_neg h

theorem prefix_strip (l suffix : List α) : strip l suffix <+: l := by
  rw [strip]
  split
  · exact List.take_prefix _ l
  · exact List.prefix_rfl

/-- Off a stack goes its outermost one, if it is this one. -/
def pop (stack : List (List α)) (suffix : List α) : List (List α) := if stack.head? = some suffix then stack.tail else stack

theorem pop_subset (stack : List (List α)) (suffix : List α) : pop stack suffix ⊆ stack := by
  rw [pop]
  split
  · exact (List.tail_sublist stack).subset
  · exact List.Subset.refl stack

/-- **A step pops.** -/
theorem strip_stacked (apart : Apart table) (hcore : Bare table core) {suffix : List α} (hsuffix : suffix ∈ table)
    (hlisted : ∀ s ∈ stack, s ∈ table) : strip (stacked core stack) suffix = stacked core (pop stack suffix) := by
  cases stack with
  | nil => exact strip_of_not (hcore suffix hsuffix)
  | cons t stack =>
    by_cases ht : t = suffix
    · subst ht
      rw [pop, List.head?_cons, if_pos rfl, List.tail_cons, stacked, strip_append]
    · have hnot : ¬ suffix <:+ stacked core (t :: stack) := fun h =>
        ht (apart.unique (hlisted t List.mem_cons_self) hsuffix (List.suffix_append _ t) h)
      rw [strip_of_not hnot, pop, List.head?_cons, if_neg (fun heq => ht (Option.some.inj heq))]

/-! ## The pass -/

theorem foldl_strip_stacked (apart : Apart table) (hcore : Bare table core) : ∀ {tried stack : List (List α)},
    (∀ s ∈ tried, s ∈ table) → (∀ s ∈ stack, s ∈ table) →
      tried.foldl strip (stacked core stack) = stacked core (tried.foldl pop stack)
  | [], _, _, _ => rfl
  | suffix :: tried, stack, htried, hlisted => by
    rw [List.foldl_cons, List.foldl_cons, strip_stacked apart hcore (htried suffix List.mem_cons_self) hlisted]
    exact foldl_strip_stacked apart hcore (fun s hs => htried s (List.mem_cons_of_mem _ hs))
      (fun s hs => hlisted s (pop_subset stack suffix hs))

/-- **A pass pops** the suffixes of the table, in its order. -/
theorem pass_stacked (apart : Apart table) (hcore : Bare table core) (hlisted : ∀ s ∈ stack, s ∈ table) :
    pass table (stacked core stack) = stacked core (table.foldl pop stack) :=
  foldl_strip_stacked apart hcore (fun _ h => h) hlisted

theorem foldl_pop_subset : ∀ (tried stack : List (List α)), tried.foldl pop stack ⊆ stack
  | [], stack => List.Subset.refl stack
  | suffix :: tried, stack => List.Subset.trans (foldl_pop_subset tried _) (pop_subset stack suffix)

/-- **Nothing is left exactly when the stack is in the order of the table.** -/
theorem foldl_pop_eq_nil_iff : ∀ (tried stack : List (List α)), tried.foldl pop stack = [] ↔ stack.Sublist tried
  | [], stack => List.sublist_nil.symm
  | suffix :: tried, [] => by
    rw [List.foldl_cons]
    exact (foldl_pop_eq_nil_iff tried []).trans (iff_of_true (List.nil_sublist _) (List.nil_sublist _))
  | suffix :: tried, t :: stack => by
    rw [List.foldl_cons, pop, List.head?_cons, List.tail_cons, foldl_pop_eq_nil_iff tried]
    by_cases ht : t = suffix
    · subst ht
      rw [if_pos rfl, List.cons_sublist_cons]
    · rw [if_neg (fun heq => ht (Option.some.inj heq))]
      constructor
      · exact fun h => h.cons suffix
      · intro h
        cases h with
        | cons _ h => exact h
        | cons_cons _ _ => exact absurd rfl ht

/-- **A pass leaves no suffix exactly when what is stacked is in the order of the table.** -/
theorem bare_pass_iff (apart : Apart table) (l : List α) : Bare table (pass table l) ↔ InOrder table l := by
  have hleft : ∀ {core : List α} {stack : List (List α)}, Bare table core → (∀ s ∈ stack, s ∈ table) →
      (Bare table (pass table (stacked core stack)) ↔ stack.Sublist table) := fun hcore hlisted => by
    rw [pass_stacked apart hcore hlisted, bare_stacked_iff hcore (fun s hs => hlisted s (foldl_pop_subset table _ hs)),
      foldl_pop_eq_nil_iff]
  constructor
  · rintro h base stack hlisted rfl
    obtain ⟨core, inner, hinner, rfl, hcore⟩ := exists_core apart.ne_nil base
    rw [← stacked_append, hleft hcore (List.forall_mem_append.2 ⟨hlisted, hinner⟩)] at h
    exact (List.sublist_append_left stack inner).trans h
  · intro h
    obtain ⟨core, stack, hlisted, rfl, hcore⟩ := exists_core apart.ne_nil l
    exact (hleft hcore hlisted).2 (h core stack hlisted rfl)

/-- What is stacked in the order of the table makes no difference to a pass. -/
theorem pass_eq_of_inOrder (apart : Apart table) (hlisted : ∀ s ∈ stack, s ∈ table)
    (h : InOrder table (stacked base stack)) : pass table (stacked base stack) = pass table base := by
  obtain ⟨core, inner, hinner, rfl, hcore⟩ := exists_core apart.ne_nil base
  have hall : ∀ s ∈ stack ++ inner, s ∈ table := List.forall_mem_append.2 ⟨hlisted, hinner⟩
  rw [← stacked_append] at h ⊢
  have hsublist := h core (stack ++ inner) hall rfl
  have hsub' := (List.sublist_append_right stack inner).trans hsublist
  rw [pass_stacked apart hcore hall, pass_stacked apart hcore hinner, (foldl_pop_eq_nil_iff _ _).2 hsublist,
    (foldl_pop_eq_nil_iff _ _).2 hsub']

theorem pass_of_bare (h : Bare table l) : pass table l = l := by
  have hfold : ∀ tried : List (List α), (∀ s ∈ tried, s ∈ table) → tried.foldl strip l = l := fun tried => by
    induction tried with
    | nil => exact fun _ => rfl
    | cons suffix tried ih =>
      intro htried
      rw [List.foldl_cons, strip_of_not (h suffix (htried suffix List.mem_cons_self))]
      exact ih (fun s hs => htried s (List.mem_cons_of_mem _ hs))
  exact hfold table (fun _ hs => hs)

theorem prefix_pass : ∀ (table : List (List α)) (l : List α), pass table l <+: l
  | [], _ => List.prefix_rfl
  | suffix :: table, l => (prefix_pass table (strip l suffix)).trans (prefix_strip l suffix)

end Suffixes
