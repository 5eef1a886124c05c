import HubAgent.LiveCalls
import HubAgent.Workload
/-!
# Which pods a PodDisruptionBudget selects (`policy/v1`)

A budget without a selector selects no pod, one with an empty selector every pod, and one with requirements the pods
that meet all of them.  The preflight is to warn about exactly the budgets that select the pods of the workload.  It
reads selectors as an `AgentActionPolicy` has them, where none means everything, so it is right when every budget has a
selector: `warnsExactly_iff`.
-/
namespace HubAgent
namespace Executor

/-! ## Selection -/

/-- A requirement on one label; an unknown operator is met by nothing. -/
inductive RequirementHolds (labels : StrMap String) : LabelSelectorRequirement → Prop
  | isIn {r : LabelSelectorRequirement} (v : String) : r.operator = "In" → labels.lookup r.key = some v →
      v ∈ r.values.getD [] → RequirementHolds labels r
  | notIn {r : LabelSelectorRequirement} : r.operator = "NotIn" →
      (∀ v, labels.lookup r.key = some v → v ∉ r.values.getD []) → RequirementHolds labels r
  | exists_ {r : LabelSelectorRequirement} : r.operator = "Exists" → r.key ∈ labels → RequirementHolds labels r
  | doesNotExist {r : LabelSelectorRequirement} : r.operator = "DoesNotExist" → r.key ∉ labels → RequirementHolds labels r

/-- What a budget selects; a required label is the one value allowed for its key. -/
inductive Selects (labels : StrMap String) : Option LabelSelector → Prop
  | all {s : LabelSelector} :
      (∀ key v, (s.matchLabels.getD ∅).lookup key = some v → RequirementHolds labels ⟨key, "In", some [v]⟩) →
      (∀ r ∈ s.matchExpressions.getD [], RequirementHolds labels r) → Selects labels (some s)

theorem requirementMatches_iff (labels : StrMap String) (r : LabelSelectorRequirement) :
    requirementMatches labels r = true ↔ RequirementHolds labels r := by
  obtain ⟨key, operator, values⟩ := r
  constructor
  · intro h
    rw [requirementMatches] at h
    dsimp only at h
    split at h
    · cases hvalue : labels.lookup key with
      | none => rw [hvalue] at h; cases h
      | some v =>
        rw [hvalue] at h
        exact .isIn v rfl hvalue (by simpa using h)
    · refine .notIn rfl fun v hvalue => ?_
      rw [hvalue] at h
      intro hmem
      simpa using List.all_eq_true.1 h v hmem
    · exact .exists_ rfl (AList.lookup_isSome.1 h)
    · exact .doesNotExist rfl (AList.lookup_eq_none.1 (Option.isNone_iff_eq_none.1 h))
    · cases h
  · intro h
    cases h with
    | isIn v hop hvalue hmem =>
      cases hop
      rw [requirementMatches]
      simpa [hvalue] using hmem
    | notIn hop hall =>
      cases hop
      rw [requirementMatches]
      cases hvalue : labels.lookup key with
      | none => simp
      | some v =>
        have hnot : v ∉ values.getD [] := hall v hvalue
        exact List.all_eq_true.2 fun x hx => bne_iff_ne.2 fun heq => hnot (heq ▸ hx)
    | exists_ hop hmem =>
      cases hop
      exact AList.lookup_isSome.2 hmem
    | doesNotExist hop hmem =>
      cases hop
      exact Option.isNone_iff_eq_none.2 (AList.lookup_eq_none.2 hmem)

theorem requirementHolds_single (labels : StrMap String) (key v : String) :
    RequirementHolds labels ⟨key, "In", some [v]⟩ ↔ labels.lookup key = some v := by
  rw [← requirementMatches_iff, requirementMatches]
  cases hvalue : labels.lookup key with
  | none => simp
  | some w =>
    simp only [Option.getD_some, List.any_cons, List.any_nil, Bool.or_false, beq_iff_eq, Option.some.injEq]
    exact eq_comm

theorem matchLabels_iff (labels : StrMap String) (matchLabels : Option (StrMap String)) :
    labelSelectorMatches (some ⟨matchLabels, none⟩) labels = true ↔
      ∀ key v, (matchLabels.getD ∅).lookup key = some v → RequirementHolds labels ⟨key, "In", some [v]⟩ := by
  simp only [requirementHolds_single]
  cases matchLabels with
  | none => simp [labelSelectorMatches]
  | some m =>
    simp only [labelSelectorMatches, Bool.and_true, List.all_eq_true, beq_iff_eq, Option.getD_some, Sigma.forall]
    exact forall_congr' fun key => forall_congr' fun v => by rw [← AList.mem_lookup_iff]; rfl

theorem matchExpressions_iff (labels : StrMap String) (matchExpressions : Option (List LabelSelectorRequirement)) :
    labelSelectorMatches (some ⟨none, matchExpressions⟩) labels = true ↔
      ∀ r ∈ matchExpressions.getD [], RequirementHolds labels r := by
  simp only [← requirementMatches_iff]
  cases matchExpressions with
  | none => simp [labelSelectorMatches]
  | some es => simp [labelSelectorMatches]

/-- **With a selector the evaluator is the selection.** -/
theorem labelSelectorMatches_iff (s : LabelSelector) (labels : StrMap String) :
    labelSelectorMatches (some s) labels = true ↔ Selects labels (some s) := by
  have hboth : labelSelectorMatches (some s) labels = (labelSelectorMatches (some ⟨s.matchLabels, none⟩) labels &&
      labelSelectorMatches (some ⟨none, s.matchExpressions⟩) labels) := by
    rw [labelSelectorMatches, labelSelectorMatches, labelSelectorMatches, Bool.and_true, Bool.true_and]
  rw [hboth, Bool.and_eq_true, matchLabels_iff, matchExpressions_iff]
  refine ⟨fun h => .all h.1 h.2, fun h => ?_⟩
  cases h with
  | all hl he => exact ⟨hl, he⟩

/-- Without one it selects nothing and the evaluator matches everything. -/
theorem not_selects_none (labels : StrMap String) : ¬ Selects labels none := nofun

instance (labels : StrMap String) : DecidablePred (Selects labels)
  | none => isFalse (not_selects_none labels)
  | some s => decidable_of_iff (labelSelectorMatches (some s) labels = true) (labelSelectorMatches_iff s labels)

/-! ## The preflight -/

def pdbWarning (spec : WorkloadResourcesSpec) (name : String) : String :=
  s!"preflight.pdb.selector_overlap: PDB {name} selector matches {spec.workloadKind}/{spec.name} " ++
    "pod labels; rollout may be constrained"

def pdbName (pdb : PodDisruptionBudget) : String := pdb.metadata.name.getD "<unknown>"

/-- When the API server lists these budgets, the warnings are those about the ones that select the pods, by name. -/
def WarnsExactly (spec : WorkloadResourcesSpec) (labels : StrMap String) (list : List PodDisruptionBudget) : Prop :=
  ∀ (o : ApiOracle) (tr : ApiTrace), o tr (.listPdbs spec.namespace_) = .ok list →
    ((preflightCheckPdb spec labels).run o tr).1 =
      some (.ok ((((list.filter (fun pdb => Selects labels pdb.selector)).map pdbName).insertionSort (· ≤ ·)).map
        (pdbWarning spec)))

theorem preflightCheckPdb_run (spec : WorkloadResourcesSpec) (labels : StrMap String) {list : List PodDisruptionBudget}
    {o : ApiOracle} {tr : ApiTrace} (h : o tr (.listPdbs spec.namespace_) = .ok list) :
    ((preflightCheckPdb spec labels).run o tr).1 =
      some (.ok ((((list.filter (fun pdb => labelSelectorMatches pdb.selector labels)).map pdbName).insertionSort
        (· ≤ ·)).map (pdbWarning spec))) := by
  have hnames : list.filterMap (fun pdb => if labelSelectorMatches pdb.selector labels then
      some (pdb.metadata.name.getD "<unknown>") else none) =
      (list.filter (fun pdb => labelSelectorMatches pdb.selector labels)).map pdbName := by
    rw [← List.filterMap_eq_map, List.filterMap_filter]
    rfl
  rw [preflightCheckPdb, Interaction.run_ask_bind, h, ← hnames]
  rfl

theorem labelSelectorMatches_of_selects {labels : StrMap String} {selector : Option LabelSelector}
    (h : Selects labels selector) : labelSelectorMatches selector labels = true := by
  cases selector with
  | none => exact absurd h (not_selects_none labels)
  | some s => exact (labelSelectorMatches_iff s labels).2 h

/-- A budget without a selector is warned about, so there are more warnings than budgets that select. -/
theorem length_selecting_lt {labels : StrMap String} {list : List PodDisruptionBudget} {pdb : PodDisruptionBudget}
    (hpdb : pdb ∈ list) (hnone : pdb.selector = none) :
    (list.filter (fun pdb => Selects labels pdb.selector)).length <
      (list.filter (fun pdb => labelSelectorMatches pdb.selector labels)).length := by
  have hle : ∀ l : List PodDisruptionBudget, (l.filter (fun pdb => Selects labels pdb.selector)).length ≤
      (l.filter (fun pdb => labelSelectorMatches pdb.selector labels)).length := fun l => by
    rw [← List.countP_eq_length_filter, ← List.countP_eq_length_filter]
    exact List.countP_mono_left fun p _ hp => labelSelectorMatches_of_selects (of_decide_eq_true hp)
  obtain ⟨pre, post, rfl⟩ := List.append_of_mem hpdb
  have hnot : ¬ Selects labels pdb.selector := hnone ▸ not_selects_none labels
  have hmatches : labelSelectorMatches pdb.selector labels = true := by rw [hnone]; rfl
  rw [List.filter_append, List.filter_append, List.filter_cons, List.filter_cons, if_neg (by simpa using hnot),
    if_pos hmatches, List.length_append, List.length_append, List.length_cons]
  have hpre := hle pre
  have hpost := hle post
  omega

def pdbOracle (list : List PodDisruptionBudget) : ApiOracle := fun tr op =>
  match op with
  | .listPdbs _ => .ok list
  | op => calmOracle 0 [] tr op

theorem WarnsExactly.selector_ne_none {spec : WorkloadResourcesSpec} {labels : StrMap String}
    {list : List PodDisruptionBudget} (h : WarnsExactly spec labels list) {pdb : PodDisruptionBudget}
    (hpdb : pdb ∈ list) : pdb.selector ≠ none := by
  intro hnone
  have hrun := h (pdbOracle list) [] rfl
  rw [preflightCheckPdb_run spec labels rfl] at hrun
  have hlength := congrArg List.length (Except.ok.inj (Option.some.inj hrun))
  simp only [List.length_map, List.length_insertionSort] at hlength
  exact absurd hlength.symm (length_selecting_lt hpdb hnone).ne

/-- **The preflight warns about exactly the selecting budgets when every budget has a selector.** -/
theorem warnsExactly_iff (spec : WorkloadResourcesSpec) (labels : StrMap String) (list : List PodDisruptionBudget) :
    WarnsExactly spec labels list ↔ ∀ pdb ∈ list, pdb.selector ≠ none := by
  constructor
  · exact fun h pdb => h.selector_ne_none
  · intro hall o tr hlist
    rw [preflightCheckPdb_run spec labels hlist]
    have hsame : list.filter (fun pdb => labelSelectorMatches pdb.selector labels) =
        list.filter (fun pdb => Selects labels pdb.selector) := by
      refine List.filter_congr fun pdb hpdb => ?_
      obtain ⟨s, hs⟩ := Option.ne_none_iff_exists'.1 (hall pdb hpdb)
      rw [Bool.eq_iff_iff, decide_eq_true_eq, hs, labelSelectorMatches_iff]
    rw [hsame]

/-- A budget that selects no pod is warned about. -/
theorem selectorless_warned : ¬ ∀ (spec : WorkloadResourcesSpec) (labels : StrMap String)
    (list : List PodDisruptionBudget), WarnsExactly spec labels list := by
  intro h
  have hexact := h { workloadKind := "Deployment", namespace_ := "app", name := "api", container := "api" } ∅
    [{ metadata := { name := some "idle" }, selector := none }]
  exact hexact.selector_ne_none List.mem_cons_self rfl

end Executor
end HubAgent
