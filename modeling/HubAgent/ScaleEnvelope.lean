import HubAgent.Lib.Fallible
import HubAgent.Command
/-!
# What a scale command's envelope says (`model.rs`)

`scaleSpec` tries the shape with `target` and falls back to the flat one without a word.  The members of both shapes are
read here as the decoders read them, in an array by position; `means_its_envelope_iff` says when the fallback keeps to
the envelope that is written.
-/
namespace HubAgent
namespace Decode

/-! ## What a decoder finds -/

theorem field_eq_ok_iff {α : Type} {f : String → Option Json} {name : String} {d : Decoder α} {a : α} :
    field f name d = .ok a ↔ ∃ j, f name = some j ∧ d j = .ok a := by
  unfold field
  cases f name with
  | none => simp
  | some j => simp

theorem fieldOr_eq_ok_iff {α : Type} {f : String → Option Json} {name : String} {d : Decoder α} {dflt a : α} :
    fieldOr f name d dflt = .ok a ↔ f name = none ∧ a = dflt ∨ ∃ j, f name = some j ∧ d j = .ok a := by
  unfold fieldOr
  cases f name with
  | none => simp [eq_comm]
  | some j => simp

/-- The member that a struct with these fields is decoded from. -/
def memberOf (names : List String) (j : Json) (name : String) : Option Json :=
  match fieldsOf "" names j with
  | .ok f => f name
  | .error _ => none

theorem memberOf_of_fieldsOf {struct : String} {names : List String} {j : Json} {f : String → Option Json}
    (h : fieldsOf struct names j = .ok f) (name : String) : memberOf names j name = f name := by
  cases j with
  | obj members =>
    cases h
    rfl
  | arr items =>
    unfold memberOf
    unfold fieldsOf at h ⊢
    dsimp only at h ⊢
    split_ifs at h ⊢ with hlen
    cases h
    rfl
  | _ => cases h

def executionFields : List String := ["mode", "approval_id", "preview_resource_version"]

def nestedFields : List String := ["execution", "target", "replicas"]

def legacyFields : List String := ["execution", "kind", "namespace", "name", "replicas"]

/-- A member of a scale spec; an array that is too long for the nested shape can only be of the flat one. -/
def scaleMember : Json → String → Option Json
  | .arr items => memberOf (if items.length ≤ 3 then nestedFields else legacyFields) (.arr items)
  | j => memberOf nestedFields j

/-- `execution.mode` is literally `execute` or `apply`. -/
def ExecuteWritten (j : Json) : Prop :=
  ∃ execution mode, scaleMember j "execution" = some execution ∧
    memberOf executionFields execution "mode" = some (.str mode) ∧ (mode = "execute" ∨ mode = "apply")

/-- **A spec means what its envelope says.** -/
structure MeansItsEnvelope (j : Json) : Prop where
  target : ∀ t spec, scaleMember j "target" = some t → scaleSpec j = .ok spec → workloadTargetRef t = .ok spec.target
  malformed : ∀ t e, scaleMember j "target" = some t → workloadTargetRef t = .error e → ∃ e', scaleSpec j = .error e'
  execute : ∀ spec, scaleSpec j = .ok spec → spec.execution.mode = .execute →
    ExecuteWritten j ∨ scaleMember j "target" = none ∧ scaleMember j "execution" = none

/-- The members of the flat shape are all there, each of its type. -/
structure FlatFields (j : Json) : Prop where
  kind : ∃ s, scaleMember j "kind" = some (.str s)
  namespace_ : ∃ s, scaleMember j "namespace" = some (.str s)
  name : ∃ s, scaleMember j "name" = some (.str s)
  replicas : ∃ n, scaleMember j "replicas" = some (.num (.int n)) ∧ -2147483648 ≤ n ∧ n ≤ 2147483647
  execution : ∀ e, scaleMember j "execution" = some e → e = .null ∨ ∃ spec, executionSpec e = .ok spec

theorem executionMode_execute {j : Json} (h : executionMode j = .ok .execute) :
    ∃ mode, j = .str mode ∧ (mode = "execute" ∨ mode = "apply") := by
  unfold executionMode at h
  split at h
  · cases h
  · exact ⟨_, rfl, .inl rfl⟩
  · exact ⟨_, rfl, .inr rfl⟩
  · cases h
  · cases h

theorem executionSpec_execute {e : Json} {spec : ExecutionSpec} (h : executionSpec e = .ok spec)
    (hmode : spec.mode = .execute) :
    ∃ mode, memberOf executionFields e "mode" = some (.str mode) ∧ (mode = "execute" ∨ mode = "apply") := by
  obtain ⟨f, hf, h⟩ := Fallible.bind_eq_ok_iff.1 h
  obtain ⟨mode, hread, h⟩ := Fallible.bind_eq_ok_iff.1 h
  obtain ⟨approvalId, -, h⟩ := Fallible.bind_eq_ok_iff.1 h
  obtain ⟨version, -, h⟩ := Fallible.bind_eq_ok_iff.1 h
  cases h
  have hmember := memberOf_of_fieldsOf hf "mode"
  rcases fieldOr_eq_ok_iff.1 hread with ⟨-, hdefault⟩ | ⟨m, hm, hread⟩
  · rw [hdefault] at hmode
    cases hmode
  · dsimp only at hmode
    rw [hmode] at hread
    obtain ⟨text, rfl, htext⟩ := executionMode_execute hread
    exact ⟨text, hmember.trans hm, htext⟩

theorem string_eq_ok_iff {j : Json} {s : String} : string j = .ok s ↔ j = .str s := by
  cases j <;> simp [string]

theorem i32_eq_ok_iff {j : Json} {n : Int} :
    i32 j = .ok n ↔ j = .num (.int n) ∧ -2147483648 ≤ n ∧ n ≤ 2147483647 := by
  unfold i32 int
  split
  · rename_i m
    split_ifs with hrange
    · constructor
      · intro h
        cases h
        exact ⟨rfl, hrange⟩
      · rintro ⟨heq, -⟩
        cases heq
        rfl
    · constructor
      · intro h
        cases h
      · rintro ⟨heq, hn⟩
        cases heq
        exact absurd hn hrange
  · rename_i hne
    constructor
    · intro h
      cases h
    · rintro ⟨rfl, -⟩
      exact absurd rfl (hne n)

theorem option_isOk_iff {α : Type} {d : Decoder α} {j : Json} :
    (∃ a, option d j = .ok a) ↔ j = .null ∨ ∃ a, d j = .ok a := by
  unfold option
  split
  · simp
  · rename_i hne
    rw [Fallible.map_isOk_iff]
    exact ⟨.inr, fun h => h.resolve_left hne⟩

theorem option_of_not_null {α : Type} {d : Decoder α} {j : Json} {r : Option α} (hnull : j ≠ .null)
    (h : option d j = .ok r) : ∃ a, d j = .ok a ∧ r = some a := by
  unfold option at h
  split at h
  · exact absurd rfl hnull
  · cases hd : d j with
    | error e =>
      rw [hd] at h
      cases h
    | ok a =>
      rw [hd] at h
      cases h
      exact ⟨a, rfl, rfl⟩

/-! ## The two shapes -/

theorem scaleMember_short {items : List Json} (h : items.length ≤ 3) (name : String) :
    scaleMember (.arr items) name = items[nestedFields.idxOf name]? := by
  have hlen : items.length ≤ nestedFields.length := h
  simp only [scaleMember, if_pos h, memberOf, fieldsOf, if_pos hlen]

theorem scaleMember_long {items : List Json} (h : 3 < items.length) (name : String) :
    scaleMember (.arr items) name =
      if items.length ≤ 5 then items[legacyFields.idxOf name]? else none := by
  have hlen : ¬ items.length ≤ 3 := by omega
  simp only [scaleMember, if_neg hlen, memberOf, fieldsOf, legacyFields, List.length_cons, List.length_nil]
  split_ifs with hfits
  · rfl
  · rfl

/-- An object, or an array of at most three elements, is read as a nested spec; nothing else has a target. -/
theorem fieldsOf_nested (j : Json) : fieldsOf "ScaleSpecNested" nestedFields j = .ok (scaleMember j) ∨
    (∃ e, fieldsOf "ScaleSpecNested" nestedFields j = .error e) ∧ scaleMember j "target" = none := by
  cases j with
  | obj members => exact .inl rfl
  | arr items =>
    by_cases hlen : items.length ≤ 3
    · left
      have hfits : items.length ≤ nestedFields.length := hlen
      rw [funext (scaleMember_short hlen), fieldsOf, if_pos hfits]
    · right
      have hlong : ¬ items.length ≤ nestedFields.length := hlen
      refine ⟨⟨_, by rw [fieldsOf, if_neg hlong]⟩, ?_⟩
      rw [scaleMember_long (by omega)]
      split_ifs with hfits
      · exact List.getElem?_eq_none hfits
      · rfl
  | _ => exact .inr ⟨⟨_, rfl⟩, rfl⟩

/-- An object, or an array that is not short, is read as a flat spec; a short one lacks the last member. -/
theorem fieldsOf_legacy (j : Json) : fieldsOf "ScaleSpecLegacy" legacyFields j = .ok (scaleMember j) ∨
    (∀ f, fieldsOf "ScaleSpecLegacy" legacyFields j = .ok f → f "name" = none) ∧ scaleMember j "name" = none := by
  cases j with
  | obj members => exact .inl rfl
  | arr items =>
    have hlength : legacyFields.length = 5 := rfl
    by_cases hlen : items.length ≤ 3
    · right
      constructor
      · intro f hf
        rw [fieldsOf, if_pos (by omega)] at hf
        cases hf
        exact List.getElem?_eq_none hlen
      · rw [scaleMember_short hlen]
        exact List.getElem?_eq_none hlen
    · by_cases hfits : items.length ≤ 5
      · left
        rw [funext (scaleMember_long (by omega)), fieldsOf, if_pos (by omega)]
        simp only [if_pos hfits]
      · right
        constructor
        · intro f hf
          rw [fieldsOf, if_neg (by omega)] at hf
          cases hf
        · rw [scaleMember_long (by omega), if_neg hfits]
  | _ => exact .inr ⟨fun f hf => (by cases hf), rfl⟩

/-- **What the nested shape says.** -/
theorem scaleSpecNested_eq_ok_iff {j : Json} {spec : ScaleSpec} : scaleSpecNested j = .ok spec ↔
    (scaleMember j "execution" = none ∧ spec.execution = {} ∨
      ∃ e, scaleMember j "execution" = some e ∧ executionSpec e = .ok spec.execution) ∧
    (∃ t, scaleMember j "target" = some t ∧ workloadTargetRef t = .ok spec.target) ∧
    ∃ r, scaleMember j "replicas" = some r ∧ i32 r = .ok spec.replicas := by
  unfold scaleSpecNested
  rcases fieldsOf_nested j with hf | ⟨⟨e, hf⟩, htarget⟩
  · constructor
    · intro h
      obtain ⟨f, hf', h⟩ := Fallible.bind_eq_ok_iff.1 h
      cases hf.symm.trans hf'
      obtain ⟨execution, hexecution, h⟩ := Fallible.bind_eq_ok_iff.1 h
      obtain ⟨target, htarget, h⟩ := Fallible.bind_eq_ok_iff.1 h
      obtain ⟨replicas, hreplicas, h⟩ := Fallible.bind_eq_ok_iff.1 h
      cases h
      exact ⟨fieldOr_eq_ok_iff.1 hexecution, field_eq_ok_iff.1 htarget, field_eq_ok_iff.1 hreplicas⟩
    · rintro ⟨hexecution, htarget, hreplicas⟩
      exact Fallible.bind_eq_ok_iff.2 ⟨_, hf, Fallible.bind_eq_ok_iff.2 ⟨_, fieldOr_eq_ok_iff.2 hexecution,
        Fallible.bind_eq_ok_iff.2 ⟨_, field_eq_ok_iff.2 htarget,
          Fallible.bind_eq_ok_iff.2 ⟨_, field_eq_ok_iff.2 hreplicas, rfl⟩⟩⟩⟩
  · constructor
    · intro h
      obtain ⟨f, hf', -⟩ := Fallible.bind_eq_ok_iff.1 h
      cases hf.symm.trans hf'
    · rintro ⟨-, ⟨t, ht, -⟩, -⟩
      cases htarget.symm.trans ht

/-- **What the flat shape says**: an envelope that is `null` counts as none. -/
theorem scaleSpecLegacy_eq_ok_iff {j : Json} {spec : ScaleSpec} : scaleSpecLegacy j = .ok spec ↔
    (∃ execution, (scaleMember j "execution" = none ∧ execution = none ∨
        ∃ e, scaleMember j "execution" = some e ∧ option executionSpec e = .ok execution) ∧
      spec.execution = execution.getD defaultExecuteExecutionSpec) ∧
    scaleMember j "kind" = some (.str spec.target.kind) ∧
    scaleMember j "namespace" = some (.str spec.target.namespace_) ∧
    scaleMember j "name" = some (.str spec.target.name) ∧
    ∃ r, scaleMember j "replicas" = some r ∧ i32 r = .ok spec.replicas := by
  have htext : ∀ {f : String → Option Json} {name s : String}, field f name string = .ok s ↔ f name = some (.str s) := by
    intro f name s
    simp only [field_eq_ok_iff, string_eq_ok_iff, exists_eq_right]
  unfold scaleSpecLegacy
  rcases fieldsOf_legacy j with hf | ⟨hf, hname⟩
  · constructor
    · intro h
      obtain ⟨f, hf', h⟩ := Fallible.bind_eq_ok_iff.1 h
      cases hf.symm.trans hf'
      obtain ⟨execution, hexecution, h⟩ := Fallible.bind_eq_ok_iff.1 h
      obtain ⟨kind, hkind, h⟩ := Fallible.bind_eq_ok_iff.1 h
      obtain ⟨namespace_, hnamespace, h⟩ := Fallible.bind_eq_ok_iff.1 h
      obtain ⟨name, hname, h⟩ := Fallible.bind_eq_ok_iff.1 h
      obtain ⟨replicas, hreplicas, h⟩ := Fallible.bind_eq_ok_iff.1 h
      cases h
      exact ⟨⟨execution, fieldOr_eq_ok_iff.1 hexecution, rfl⟩, htext.1 hkind, htext.1 hnamespace, htext.1 hname,
        field_eq_ok_iff.1 hreplicas⟩
    · rintro ⟨⟨execution, hread, hexecution⟩, hkind, hnamespace, hname, hreplicas⟩
      refine Fallible.bind_eq_ok_iff.2 ⟨_, hf, Fallible.bind_eq_ok_iff.2 ⟨_, fieldOr_eq_ok_iff.2 hread,
        Fallible.bind_eq_ok_iff.2 ⟨_, htext.2 hkind, Fallible.bind_eq_ok_iff.2 ⟨_, htext.2 hnamespace,
          Fallible.bind_eq_ok_iff.2 ⟨_, htext.2 hname,
            Fallible.bind_eq_ok_iff.2 ⟨_, field_eq_ok_iff.2 hreplicas, ?_⟩⟩⟩⟩⟩⟩
      rw [← hexecution]
      rfl
  · constructor
    · intro h
      obtain ⟨f, hf', h⟩ := Fallible.bind_eq_ok_iff.1 h
      obtain ⟨_, -, h⟩ := Fallible.bind_eq_ok_iff.1 h
      obtain ⟨_, -, h⟩ := Fallible.bind_eq_ok_iff.1 h
      obtain ⟨_, -, h⟩ := Fallible.bind_eq_ok_iff.1 h
      obtain ⟨_, hread, -⟩ := Fallible.bind_eq_ok_iff.1 h
      cases (hf f hf').symm.trans (htext.1 hread)
    · rintro ⟨-, -, -, hread, -⟩
      cases hname.symm.trans hread

theorem scaleSpecLegacy_isOk_iff {j : Json} : (∃ spec, scaleSpecLegacy j = .ok spec) ↔ FlatFields j := by
  constructor
  · rintro ⟨spec, h⟩
    obtain ⟨⟨execution, hread, -⟩, hkind, hnamespace, hname, r, hr, hreplicas⟩ := scaleSpecLegacy_eq_ok_iff.1 h
    obtain ⟨rfl, hrange⟩ := i32_eq_ok_iff.1 hreplicas
    refine ⟨⟨_, hkind⟩, ⟨_, hnamespace⟩, ⟨_, hname⟩, ⟨_, hr, hrange⟩, fun e he => option_isOk_iff.1 ?_⟩
    rcases hread with ⟨hnone, -⟩ | ⟨e', he', hread⟩
    · cases hnone.symm.trans he
    · cases he'.symm.trans he
      exact ⟨execution, hread⟩
  · rintro ⟨⟨kind, hkind⟩, ⟨namespace_, hnamespace⟩, ⟨name, hname⟩, ⟨n, hr, hrange⟩, hexecution⟩
    have hread : ∃ execution, scaleMember j "execution" = none ∧ execution = none ∨
        ∃ e, scaleMember j "execution" = some e ∧ option executionSpec e = .ok execution := by
      cases he : scaleMember j "execution" with
      | none => exact ⟨none, .inl ⟨rfl, rfl⟩⟩
      | some e =>
        obtain ⟨execution, hread⟩ := option_isOk_iff.2 (hexecution e he)
        exact ⟨execution, .inr ⟨e, rfl, hread⟩⟩
    obtain ⟨execution, hread⟩ := hread
    exact ⟨⟨execution.getD defaultExecuteExecutionSpec, ⟨kind, namespace_, name⟩, n⟩,
      scaleSpecLegacy_eq_ok_iff.2 ⟨⟨execution, hread, rfl⟩, hkind, hnamespace, hname, _, hr,
        i32_eq_ok_iff.2 ⟨rfl, hrange⟩⟩⟩

/-! ## The fallback -/

theorem scaleSpec_of_nested {j : Json} {spec : ScaleSpec} (h : scaleSpecNested j = .ok spec) :
    scaleSpec j = .ok spec := by
  unfold scaleSpec
  rw [h]

theorem scaleSpec_of_not_nested {j : Json} {e : DeError} {spec : ScaleSpec} (h : scaleSpecNested j = .error e) :
    scaleSpec j = .ok spec ↔ scaleSpecLegacy j = .ok spec := by
  unfold scaleSpec
  rw [h]
  cases scaleSpecLegacy j <;> simp

theorem nested_means {j : Json} {spec : ScaleSpec} (h : scaleSpecNested j = .ok spec) : MeansItsEnvelope j := by
  have hspec := scaleSpec_of_nested h
  obtain ⟨hexecution, ⟨t, ht, htarget⟩, -⟩ := scaleSpecNested_eq_ok_iff.1 h
  constructor
  · intro t' spec' ht' hspec'
    cases ht.symm.trans ht'
    cases hspec.symm.trans hspec'
    exact htarget
  · intro t' e ht' he
    cases ht.symm.trans ht'
    cases htarget.symm.trans he
  · intro spec' hspec' hmode
    cases hspec.symm.trans hspec'
    rcases hexecution with ⟨-, hdefault⟩ | ⟨e, he, hread⟩
    · rw [hdefault] at hmode
      cases hmode
    · obtain ⟨mode, hmember, htext⟩ := executionSpec_execute hread hmode
      exact .inl ⟨e, mode, he, hmember, htext⟩

/-- Flat members beside a target and an envelope that is not `null` do not keep the nested shape from being read. -/
theorem nested_of_flat {j t : Json} {ref : WorkloadTargetRef} (h : FlatFields j)
    (hnull : scaleMember j "execution" ≠ some .null) (ht : scaleMember j "target" = some t)
    (href : workloadTargetRef t = .ok ref) : ∃ spec, scaleSpecNested j = .ok spec := by
  obtain ⟨n, hr, hrange⟩ := h.replicas
  have hexecution : ∃ envelope : ExecutionSpec, scaleMember j "execution" = none ∧ envelope = {} ∨
      ∃ e, scaleMember j "execution" = some e ∧ executionSpec e = .ok envelope := by
    cases he : scaleMember j "execution" with
    | none => exact ⟨{}, .inl ⟨rfl, rfl⟩⟩
    | some e =>
      rcases h.execution e he with rfl | ⟨envelope, henvelope⟩
      · exact absurd he hnull
      · exact ⟨envelope, .inr ⟨e, rfl, henvelope⟩⟩
  obtain ⟨envelope, henvelope⟩ := hexecution
  exact ⟨⟨envelope, ref, n⟩, scaleSpecNested_eq_ok_iff.2 ⟨henvelope, ⟨t, ht, href⟩, _, hr,
    i32_eq_ok_iff.2 ⟨rfl, hrange⟩⟩⟩

/-- **A scale spec means what its envelope says exactly when the fallback reads no envelope past**: where the flat
members are all there, no `execution` is `null` and no `target` is malformed. -/
theorem means_its_envelope_iff (j : Json) : MeansItsEnvelope j ↔
    (FlatFields j → scaleMember j "execution" ≠ some .null ∧
      ∀ t, scaleMember j "target" = some t → ∃ ref, workloadTargetRef t = .ok ref) := by
  cases hnested : scaleSpecNested j with
  | ok spec =>
    obtain ⟨hexecution, ⟨t, ht, htarget⟩, -⟩ := scaleSpecNested_eq_ok_iff.1 hnested
    refine iff_of_true (nested_means hnested) (fun _ => ⟨fun hnull => ?_, fun t' ht' => ?_⟩)
    · rcases hexecution with ⟨hnone, -⟩ | ⟨e, he, hread⟩
      · cases hnone.symm.trans hnull
      · cases he.symm.trans hnull
        cases hread
    · cases ht.symm.trans ht'
      exact ⟨_, htarget⟩
  | error e =>
    have hspec : ∀ {spec}, scaleSpec j = .ok spec ↔ scaleSpecLegacy j = .ok spec := scaleSpec_of_not_nested hnested
    constructor
    · intro h hflat
      obtain ⟨spec, hlegacy⟩ := scaleSpecLegacy_isOk_iff.2 hflat
      obtain ⟨⟨execution, hread, hexecution⟩, -⟩ := scaleSpecLegacy_eq_ok_iff.1 hlegacy
      refine ⟨fun hnull => ?_, fun t ht => ⟨_, h.target t spec ht (hspec.2 hlegacy)⟩⟩
      rcases hread with ⟨hnone, -⟩ | ⟨e', he', hread⟩
      · cases hnone.symm.trans hnull
      · cases he'.symm.trans hnull
        cases hread
        rcases h.execute spec (hspec.2 hlegacy) (by rw [hexecution]; rfl) with ⟨e, mode, he, hmember, -⟩ | ⟨-, hnone⟩
        · cases hnull.symm.trans he
          cases hmember
        · cases hnone.symm.trans hnull
    · intro h
      have htarget : ∀ {spec}, scaleSpec j = .ok spec → scaleMember j "target" = none := by
        intro spec hok
        have hflat := scaleSpecLegacy_isOk_iff.1 ⟨spec, hspec.1 hok⟩
        obtain ⟨hnull, hdecodes⟩ := h hflat
        cases ht : scaleMember j "target" with
        | none => rfl
        | some t =>
          obtain ⟨ref, href⟩ := hdecodes t ht
          obtain ⟨spec', hnested'⟩ := nested_of_flat hflat hnull ht href
          cases hnested.symm.trans hnested'
      constructor
      · intro t spec ht hok
        cases (htarget hok).symm.trans ht
      · intro t e' ht he'
        cases hok : scaleSpec j with
        | error e'' => exact ⟨e'', rfl⟩
        | ok spec => cases (htarget hok).symm.trans ht
      · intro spec hok hmode
        obtain ⟨⟨execution, hread, hexecution⟩, -⟩ := scaleSpecLegacy_eq_ok_iff.1 (hspec.1 hok)
        rcases hread with ⟨hnone, -⟩ | ⟨e', he', hread⟩
        · exact .inr ⟨htarget hok, hnone⟩
        · have hnull := (h (scaleSpecLegacy_isOk_iff.1 ⟨spec, hspec.1 hok⟩)).1
          rw [he'] at hnull
          obtain ⟨envelope, henvelope, rfl⟩ := option_of_not_null (fun heq => hnull (congrArg some heq)) hread
          rw [hexecution] at hmode
          obtain ⟨mode, hmember, htext⟩ := executionSpec_execute henvelope hmode
          exact .inl ⟨e', mode, he', hmember, htext⟩

/-- A preview of `prod/web`, its target without a name, with the flat members of `app/web` beside it. -/
def unnamedTarget : Json :=
  .obj [("target", .obj [("kind", .str "Deployment"), ("namespace", .str "prod")]), ("kind", .str "Deployment"),
    ("namespace", .str "app"), ("name", .str "web"), ("replicas", .ofInt 0)]

/-- `app/web` is scaled to zero at once. -/
theorem unnamedTarget_executed : ¬ MeansItsEnvelope unnamedTarget ∧
    scaleSpec unnamedTarget = .ok ⟨defaultExecuteExecutionSpec, ⟨"Deployment", "app", "web"⟩, 0⟩ := by
  have hread : scaleSpec unnamedTarget = .ok ⟨defaultExecuteExecutionSpec, ⟨"Deployment", "app", "web"⟩, 0⟩ := rfl
  refine ⟨fun h => ?_, hread⟩
  obtain ⟨e, he⟩ := h.malformed _ (.missingField "name") rfl rfl
  cases hread.symm.trans he

end Decode
end HubAgent
