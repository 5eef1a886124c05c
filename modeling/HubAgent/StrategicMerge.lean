import HubAgent.MergePatch
/-!
# Strategic merge patches

What the API server makes of `Patch::Strategic`: objects are merged member by member and `null` takes a member away, as
in a merge patch; but a list in a field with a merge key is merged item by item, each into the first of the old items
that has its key.  A value is read at a path of member names and indices, so that what a patch leaves alone is a statement
about paths (`SameOutside`).
-/
namespace HubAgent
namespace Json

/-- One step into a value. -/
inductive Step where
  | key (name : String)
  | index (i : Nat)
  deriving DecidableEq, Repr

def step : Json → Step → Option Json
  | .obj members, .key name => lookup members name
  | .arr items, .index i => items[i]?
  | _, _ => none

def atPath (j : Json) : List Step → Option Json
  | [] => some j
  | s :: path => (j.step s).bind (fun v => v.atPath path)

/-- Two items have one merge key. -/
def sameKey (mergeKey : String) (a b : Json) : Bool :=
  match (a.get mergeKey).bind asStr, (b.get mergeKey).bind asStr with
  | some x, some y => x == y
  | _, _ => false

def itemsOf : Option Json → List Json
  | some (.arr items) => items
  | _ => []

section Merge

variable (mergeKeys : String → Option String)

mutual

/-- A strategic merge, where `mergeKeys` names the fields whose lists are merged, each with its merge key. -/
def strategicMerge (target : Json) : Json → Json
  | .obj patch => .obj (strategicMembers target.members patch)
  | .null => .null
  | .bool b => .bool b
  | .num n => .num n
  | .str s => .str s
  | .arr items => .arr items

def strategicMembers (target : List (String × Json)) : List (String × Json) → List (String × Json)
  | [] => target
  | (key, .null) :: rest => strategicMembers (removeMember target key) rest
  | (key, .arr items) :: rest =>
    match mergeKeys key with
    | some mergeKey =>
      strategicMembers (setMember target key (.arr (strategicItems mergeKey (itemsOf (lookup target key)) items))) rest
    | none => strategicMembers (setMember target key (.arr items)) rest
  | (key, value) :: rest =>
    strategicMembers (setMember target key (strategicMerge ((lookup target key).getD .null) value)) rest

def strategicItems (mergeKey : String) (target : List Json) : List Json → List Json
  | [] => target
  | item :: rest =>
    match target.findIdx? (fun old => sameKey mergeKey old item) with
    | some i => strategicItems mergeKey (target.modify i (fun old => strategicMerge old item)) rest
    | none => strategicItems mergeKey (target ++ [strategicMerge .null item]) rest

end

/-- What the merge of one member leaves at it. -/
def strategicallyMerged (key : String) (old : Option Json) : Json → Option Json
  | .null => none
  | .arr items =>
    match mergeKeys key with
    | some mergeKey => some (.arr (strategicItems mergeKeys mergeKey (itemsOf old) items))
    | none => some (.arr items)
  | value => some (strategicMerge mergeKeys (old.getD .null) value)

/-! ## Reading the result -/

theorem strategicMembers_cons (target rest : List (String × Json)) (key : String) (value : Json) :
    ∃ target', strategicMembers mergeKeys target ((key, value) :: rest) = strategicMembers mergeKeys target' rest ∧
      ∀ other, lookup target' other =
        if other = key then strategicallyMerged mergeKeys key (lookup target key) value else lookup target other := by
  cases value with
  | null => exact ⟨_, strategicMembers.eq_2 mergeKeys target key rest, lookup_removeMember target key⟩
  | arr items =>
    rw [strategicMembers, strategicallyMerged]
    cases mergeKeys key with
    | some mergeKey => exact ⟨_, rfl, fun other => lookup_setMember target key other _⟩
    | none => exact ⟨_, rfl, fun other => lookup_setMember target key other _⟩
  | _ =>
    rw [strategicMembers]
    · exact ⟨_, rfl, fun other => lookup_setMember target key other _⟩
    · intro h
      cases h
    · rintro _ h
      cases h

/-- **Where a strategic merge leaves a member**: at a key the patch names, the patch decides; elsewhere nothing
changes. -/
theorem lookup_strategicMembers (key : String) : ∀ (patch target : List (String × Json)), (patch.map Prod.fst).Nodup →
    lookup (strategicMembers mergeKeys target patch) key =
      match lookup patch key with
      | some value => strategicallyMerged mergeKeys key (lookup target key) value
      | none => lookup target key
  | [], target, _ => by
    rw [strategicMembers]
    rfl
  | (name, value) :: rest, target, hnodup => by
    obtain ⟨target', heq, hlook⟩ := strategicMembers_cons mergeKeys target rest name value
    rw [List.map_cons, List.nodup_cons] at hnodup
    rw [heq, lookup_strategicMembers key rest target' hnodup.2, lookup_cons, hlook key]
    by_cases h : name = key
    · subst h
      rw [lookup_eq_none hnodup.1, if_pos rfl, if_pos rfl]
    · rw [if_neg h, if_neg (fun heq => h heq.symm)]

theorem step_strategicMerge_key (target : Json) {patch : List (String × Json)} (hnodup : (patch.map Prod.fst).Nodup)
    (key : String) : (strategicMerge mergeKeys target (.obj patch)).step (.key key) =
      match lookup patch key with
      | some value => strategicallyMerged mergeKeys key (target.step (.key key)) value
      | none => target.step (.key key) := by
  have hmembers : lookup target.members key = target.step (.key key) := by cases target <;> rfl
  rw [strategicMerge, ← hmembers]
  exact lookup_strategicMembers mergeKeys key patch target.members hnodup

theorem step_strategicMerge_index (target : Json) (patch : List (String × Json)) (i : Nat) :
    (strategicMerge mergeKeys target (.obj patch)).step (.index i) = none := by
  rw [strategicMerge]
  rfl

theorem strategicItems_singleton {mergeKey : String} {items : List Json} {item : Json} {i : Nat}
    (h : items.findIdx? (fun old => sameKey mergeKey old item) = some i) :
    strategicItems mergeKeys mergeKey items [item] =
      items.modify i (fun old => strategicMerge mergeKeys old item) := by
  rw [strategicItems, h]
  dsimp only
  rw [strategicItems]

end Merge

/-! ## Paths -/

theorem atPath_cons (j : Json) (s : Step) (path : List Step) :
    j.atPath (s :: path) = (j.step s).bind (fun v => v.atPath path) := by
  rw [atPath]

theorem atPath_append : ∀ (p q : List Step) (j : Json), j.atPath (p ++ q) = (j.atPath p).bind (fun v => v.atPath q)
  | [], q, j => rfl
  | s :: p, q, j => by
    rw [List.cons_append, atPath_cons, atPath_cons, Option.bind_assoc]
    exact congrArg _ (funext fun v => atPath_append p q v)

/-- **Two values are the same outside a path**: at every path that neither leads to it nor goes on from it. -/
def SameOutside (focus : List Step) (a b : Json) : Prop :=
  ∀ path, ¬ focus <+: path → ¬ path <+: focus → a.atPath path = b.atPath path

/-- **A change at a path**, and nowhere outside it. -/
structure ChangesAt (path : List Step) (old new : Option Json) (before after : Json) : Prop where
  was : before.atPath path = old
  becomes : after.atPath path = new
  frame : SameOutside path after before

section Frame

variable {mergeKeys : String → Option String} {focus : List Step} {old new : Option Json}

theorem ChangesAt.single {s : Step} {before after : Json}
    (hothers : ∀ other, other ≠ s → after.step other = before.step other) :
    ChangesAt [s] (before.step s) (after.step s) before after := by
  have hread (j : Json) : j.atPath [s] = j.step s := by
    rw [atPath_cons]
    exact Option.bind_fun_some _
  refine ⟨hread before, hread after, fun path hafter hbefore => ?_⟩
  cases path with
  | nil => exact absurd List.nil_prefix hbefore
  | cons other path =>
    have hne : other ≠ s := by
      rintro rfl
      exact hafter ((List.prefix_cons_inj other).2 List.nil_prefix)
    rw [atPath_cons, atPath_cons, hothers other hne]

theorem ChangesAt.cons {s : Step} {before after before' after' : Json} (hbefore : before.step s = some before')
    (hafter : after.step s = some after') (hothers : ∀ other, other ≠ s → after.step other = before.step other)
    (h : ChangesAt focus old new before' after') : ChangesAt (s :: focus) old new before after := by
  have hread {j v : Json} (hstep : j.step s = some v) : j.atPath (s :: focus) = v.atPath focus := by
    rw [atPath_cons, hstep]
    rfl
  refine ⟨(hread hbefore).trans h.was, (hread hafter).trans h.becomes, ?_⟩
  intro path hfrom hto
  cases path with
  | nil => exact absurd List.nil_prefix hto
  | cons other path =>
    rw [atPath_cons, atPath_cons]
    by_cases heq : other = s
    · subst heq
      rw [hbefore, hafter]
      refine h.frame path (fun hprefix => hfrom ?_) (fun hprefix => hto ?_)
      · exact (List.prefix_cons_inj other).2 hprefix
      · exact (List.prefix_cons_inj other).2 hprefix
    · rw [hothers other heq]

theorem step_key_ne_index {j v : Json} {key : String} (h : j.step (.key key) = some v) (i : Nat) :
    j.step (.index i) = none := by
  cases j <;> first | rfl | cases h

/-- **A patch of one member** changes its target in that member only. -/
theorem ChangesAt.member {target inner inner' value : Json} {key : String} (hinner : target.step (.key key) = some inner)
    (hmerged : strategicallyMerged mergeKeys key (some inner) value = some inner')
    (h : ChangesAt focus old new inner inner') :
    ChangesAt (.key key :: focus) old new target (strategicMerge mergeKeys target (.obj [(key, value)])) := by
  have hnodup : ([(key, value)].map Prod.fst).Nodup := by simp
  have hstep : (strategicMerge mergeKeys target (.obj [(key, value)])).step (.key key) = some inner' := by
    rw [step_strategicMerge_key mergeKeys target hnodup, lookup_cons, if_pos rfl, hinner]
    exact hmerged
  refine .cons hinner hstep (fun other hother => ?_) h
  cases other with
  | key name =>
    have hne : ¬ key = name := fun heq => hother (congrArg Step.key heq.symm)
    rw [step_strategicMerge_key mergeKeys target hnodup, lookup_cons, if_neg hne]
    rfl
  | index i => rw [step_strategicMerge_index, step_key_ne_index hinner]

theorem ChangesAt.item {items : List Json} {i : Nat} {item : Json} {f : Json → Json} (hitem : items[i]? = some item)
    (h : ChangesAt focus old new item (f item)) :
    ChangesAt (.index i :: focus) old new (.arr items) (.arr (items.modify i f)) := by
  refine .cons hitem ?_ (fun other hother => ?_) h
  · simp [step, hitem]
  · cases other with
    | key name => rfl
    | index j =>
      have hne : i ≠ j := fun heq => hother (congrArg Step.index heq.symm)
      simp [step, hne]

end Frame

end Json
end HubAgent
