import HubAgent.Json
/-!
# JSON merge patches

What the API server makes of `Patch::Merge` (RFC 7386): objects are merged member by member, `null` takes a member away,
and anything else, an array too, replaces what was there.  `lookup_mergeMembers` reads one member of the result.
-/
namespace HubAgent
namespace Json

/-- `Map::insert`. -/
def setMember (members : List (String × Json)) (key : String) (value : Json) : List (String × Json) :=
  removeMember members key ++ [(key, value)]

def members : Json → List (String × Json)
  | .obj members => members
  | _ => []

mutual

/-- `MergePatch(Target, Patch)`; a target that is no object counts as an empty one. -/
def mergePatch (target : Json) : Json → Json
  | .obj patch => .obj (mergeMembers target.members patch)
  | .null => .null
  | .bool b => .bool b
  | .num n => .num n
  | .str s => .str s
  | .arr items => .arr items

def mergeMembers (target : List (String × Json)) : List (String × Json) → List (String × Json)
  | [] => target
  | (key, .null) :: rest => mergeMembers (removeMember target key) rest
  | (key, value) :: rest =>
    mergeMembers (setMember target key (mergePatch ((lookup target key).getD .null) value)) rest

end

/-! ## Reading a member -/

theorem lookup_cons (m : String × Json) (ms : List (String × Json)) (key : String) :
    lookup (m :: ms) key = if m.1 = key then some m.2 else lookup ms key := by
  unfold lookup
  rw [List.find?_cons]
  by_cases h : m.1 = key
  · simp [h]
  · have hne : (m.1 == key) = false := beq_eq_false_iff_ne.2 h
    rw [hne, if_neg h]

theorem lookup_append (ms ms' : List (String × Json)) (key : String) :
    lookup (ms ++ ms') key = (lookup ms key).or (lookup ms' key) := by
  unfold lookup
  rw [List.find?_append]
  cases ms.find? (fun m => m.1 == key) <;> rfl

theorem lookup_removeMember (ms : List (String × Json)) (key other : String) :
    lookup (removeMember ms key) other = if other = key then none else lookup ms other := by
  unfold lookup removeMember
  rw [List.find?_filter]
  by_cases ho : other = key
  · rw [if_pos ho, Option.map_eq_none_iff, List.find?_eq_none]
    intro m _
    simp [ho]
  · rw [if_neg ho]
    have hsame : (fun m : String × Json => decide ((m.1 != key) = true ∧ (m.1 == other) = true)) =
        fun m => m.1 == other := by
      funext m
      by_cases hm : m.1 = other
      · simp [hm, ho]
      · simp [hm]
    rw [hsame]

theorem lookup_setMember (ms : List (String × Json)) (key other : String) (value : Json) :
    lookup (setMember ms key value) other = if other = key then some value else lookup ms other := by
  unfold setMember
  rw [lookup_append, lookup_removeMember, lookup_cons]
  by_cases ho : other = key
  · rw [if_pos ho, if_pos ho, if_pos ho.symm, Option.none_or]
  · have hnone : lookup [] other = none := rfl
    rw [if_neg ho, if_neg ho, if_neg (fun heq => ho heq.symm), hnone, Option.or_none]

theorem lookup_eq_none {ms : List (String × Json)} {key : String} (h : key ∉ ms.map Prod.fst) : lookup ms key = none := by
  unfold lookup
  rw [Option.map_eq_none_iff, List.find?_eq_none]
  intro m hm hname
  exact h (List.mem_map.2 ⟨m, hm, by simpa using hname⟩)

def merged (old : Option Json) : Json → Option Json
  | .null => none
  | value => some (mergePatch (old.getD .null) value)

theorem mergeMembers_cons (target rest : List (String × Json)) (key : String) (value : Json) :
    ∃ target', mergeMembers target ((key, value) :: rest) = mergeMembers target' rest ∧
      ∀ other, lookup target' other =
        if other = key then merged (lookup target key) value else lookup target other := by
  cases value with
  | null => exact ⟨_, mergeMembers.eq_2 target key rest, lookup_removeMember target key⟩
  | _ =>
    rw [mergeMembers]
    · exact ⟨_, rfl, fun other => lookup_setMember target key other _⟩
    · intro h
      cases h

/-- **Where a merge leaves a member**: at a key the patch names, the patch decides; elsewhere nothing changes. -/
theorem lookup_mergeMembers (key : String) : ∀ (patch target : List (String × Json)), (patch.map Prod.fst).Nodup →
    lookup (mergeMembers target patch) key =
      match lookup patch key with
      | some value => merged (lookup target key) value
      | none => lookup target key
  | [], target, _ => by
    rw [mergeMembers]
    rfl
  | (name, value) :: rest, target, hnodup => by
    obtain ⟨target', heq, hlook⟩ := mergeMembers_cons target rest name value
    rw [List.map_cons, List.nodup_cons] at hnodup
    rw [heq, lookup_mergeMembers key rest target' hnodup.2, lookup_cons, hlook key]
    by_cases h : name = key
    · subst h
      rw [lookup_eq_none hnodup.1, if_pos rfl, if_pos rfl]
    · rw [if_neg h, if_neg (fun heq => h heq.symm)]

end Json
end HubAgent
