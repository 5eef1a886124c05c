import Mathlib.Algebra.Group.Nat.Defs
import HubAgent.MergePatch
import HubAgent.Policy
/-!
# A policy status on the wire (`model.rs`, `patch_policy_status`)

A status is serialized into a merge patch, merged by the API server into what is stored, and read back with the derived
decoder.  Its own timestamp is a `u128` written as text and read from text or number; the timestamps of its conditions
are numbers, which `serde_json::Value` holds up to `u64` only.  The codec laws of the fields come first, then those of a
condition, and `status_survives_the_wire` composes them with the merge.
-/
namespace HubAgent

def i64Min : Int := -9223372036854775808
def i64Max : Int := 9223372036854775807
def u64Max : Nat := 18446744073709551615
def u128Max : Nat := 340282366920938463463374607431768211455

/-! ## Writing -/

/-- `serialize_u128` into a `Value`. -/
def u128ToValue (n : Nat) : Except String Json :=
  if n ≤ u64Max then .ok (.ofInt n) else .error "number out of range"

def optU128ToValue : Option Nat → Except String Json
  | none => .ok .null
  | some n => u128ToValue n

example : optU128ToValue (some 18446744073709551616) = .error "number out of range" := by rfl

/-- `serialize_u128_string_option`. -/
def serializeU128StringOption : Option Nat → Json
  | some value => .str value.repr
  | none => .null

def PolicyCondition.toValue (c : PolicyCondition) : Except String Json := do
  let lastTransitionTimeMs ← optU128ToValue c.lastTransitionTimeMs
  return .obj [("type", .str c.type_), ("status", .str c.status), ("reason", .ofOptStr c.reason),
    ("message", .ofOptStr c.message), ("observedGeneration", .ofOptInt c.observedGeneration),
    ("lastTransitionTimeMs", lastTransitionTimeMs)]

/-- The members of a status, its conditions already written. -/
def PolicyStatus.members (s : PolicyStatus) (conditions : List Json) : List (String × Json) :=
  [("effectiveNamespaces", .arr (s.effectiveNamespaces.map .str)), ("conditions", .arr conditions),
    ("observedGeneration", .ofOptInt s.observedGeneration),
    ("lastReconciledAtMs", serializeU128StringOption s.lastReconciledAtMs), ("stale", .bool s.stale)]

def PolicyStatus.toValue (s : PolicyStatus) : Except String Json := do
  let conditions ← s.conditions.mapM PolicyCondition.toValue
  return .obj (s.members conditions)

/-- The body that `patch_policy_status` sends. -/
def policyStatusPatch (s : PolicyStatus) : Except String Json := do
  return .obj [("status", ← s.toValue)]

/-! ## Reading -/

namespace Decode

def i64 : Decoder Int := int "i64" i64Min i64Max

def u128 : Decoder Nat := fun j => (int "u128" 0 u128Max j).map Int.toNat

def list {α : Type} (d : Decoder α) : Decoder (List α)
  | .arr items => items.mapM d
  | j => .error (.invalidType j.unexpected "a sequence")

/-- `deserialize_u128_string_option`: the variants of `Repr` are tried in order. -/
def u128StringOption : Decoder (Option Nat)
  | .null => .ok none
  | .str text =>
    match RustStr.parseUnsigned u128Max (RustStr.trim text).toList with
    | .ok n => .ok (some n)
    | .error e => .error (.custom e)
  | j =>
    match u64 j with
    | .ok n => .ok (some n)
    | .error _ => .error (.noVariant "Repr")

def policyCondition : Decoder PolicyCondition := fun j => do
  let f ← fieldsOf "SentinellaHubActionPolicyCondition"
    ["type", "status", "reason", "message", "observedGeneration", "lastTransitionTimeMs"] j
  return { type_ := ← field f "type" string
           status := ← field f "status" string
           reason := ← fieldOr f "reason" (option string) none
           message := ← fieldOr f "message" (option string) none
           observedGeneration := ← fieldOr f "observedGeneration" (option i64) none
           lastTransitionTimeMs := ← fieldOr f "lastTransitionTimeMs" (option u128) none }

def policyStatus : Decoder PolicyStatus := fun j => do
  let f ← fieldsOf "SentinellaHubActionPolicyStatus"
    ["effectiveNamespaces", "conditions", "observedGeneration", "lastReconciledAtMs", "stale"] j
  return { effectiveNamespaces := ← fieldOr f "effectiveNamespaces" (list string) []
           conditions := ← fieldOr f "conditions" (list policyCondition) []
           observedGeneration := ← fieldOr f "observedGeneration" (option i64) none
           lastReconciledAtMs := ← fieldOr f "lastReconciledAtMs" u128StringOption none
           stale := ← fieldOr f "stale" bool false }

end Decode

/-! ## What the types and the wire hold -/

/-- The range of the fields of a condition: `i64`, and a timestamp that a JSON number holds. -/
structure PolicyCondition.OnWire (c : PolicyCondition) : Prop where
  generation : ∀ n ∈ c.observedGeneration, i64Min ≤ n ∧ n ≤ i64Max
  time : ∀ n ∈ c.lastTransitionTimeMs, n < 2 ^ 64

/-- The range of the fields of a status: `i64` and `u128`. -/
structure PolicyStatus.OnWire (s : PolicyStatus) : Prop where
  conditions : ∀ c ∈ s.conditions, c.OnWire
  generation : ∀ n ∈ s.observedGeneration, i64Min ≤ n ∧ n ≤ i64Max
  time : ∀ n ∈ s.lastReconciledAtMs, n < 2 ^ 128

/-! ## The codec of each field -/

namespace Decode

theorem option_ofOptStr (o : Option String) : option string (.ofOptStr o) = .ok o := by
  cases o <;> rfl

theorem int_ofInt {expected : String} {lo hi n : Int} (h : lo ≤ n ∧ n ≤ hi) : int expected lo hi (.ofInt n) = .ok n :=
  if_pos h

theorem option_i64 {o : Option Int} (h : ∀ n ∈ o, i64Min ≤ n ∧ n ≤ i64Max) : option i64 (.ofOptInt o) = .ok o := by
  cases o with
  | none => rfl
  | some n =>
    change (i64 (.ofInt n)).map some = .ok (some n)
    rw [i64, int_ofInt (h n rfl)]
    rfl

theorem optU128ToValue_ok {o : Option Nat} (h : ∀ n ∈ o, n < 2 ^ 64) :
    ∃ j, optU128ToValue o = .ok j ∧ option u128 j = .ok o := by
  cases o with
  | none => exact ⟨.null, rfl, rfl⟩
  | some n =>
    have hn : n < 2 ^ 64 := h n rfl
    have hfits : n ≤ u64Max := by
      unfold u64Max
      omega
    refine ⟨.ofInt n, by rw [optU128ToValue, u128ToValue, if_pos hfits], ?_⟩
    have hrange : (0 : Int) ≤ n ∧ (n : Int) ≤ u128Max := by
      unfold u128Max
      omega
    change (u128 (.ofInt n)).map some = .ok (some n)
    rw [u128, int_ofInt hrange]
    rfl

theorem u128StringOption_serialize {o : Option Nat} (h : ∀ n ∈ o, n < 2 ^ 128) :
    u128StringOption (serializeU128StringOption o) = .ok o := by
  cases o with
  | none => rfl
  | some n =>
    have hn : n < 2 ^ 128 := h n rfl
    have hfits : n ≤ u128Max := by
      unfold u128Max
      omega
    rw [serializeU128StringOption, u128StringOption, RustStr.trim_repr, RustStr.parseUnsigned_repr hfits]

theorem list_string (l : List String) : list string (.arr (l.map .str)) = .ok l := by
  rw [list]
  induction l with
  | nil => rfl
  | cons x xs ih =>
    rw [List.map_cons, List.mapM_cons, ih]
    rfl

theorem mapM_roundtrip {α : Type} {enc : α → Except String Json} {d : Decoder α} : ∀ (l : List α),
    (∀ a ∈ l, ∃ j, enc a = .ok j ∧ d j = .ok a) → ∃ js, l.mapM enc = .ok js ∧ js.mapM d = .ok l
  | [], _ => ⟨[], rfl, rfl⟩
  | a :: l, h => by
    obtain ⟨j, henc, hdec⟩ := h a (by simp)
    obtain ⟨js, hencs, hdecs⟩ := mapM_roundtrip l (fun b hb => h b (List.mem_cons_of_mem a hb))
    refine ⟨j :: js, ?_, ?_⟩
    · rw [List.mapM_cons, henc, hencs]
      rfl
    · rw [List.mapM_cons, hdec, hdecs]
      rfl

theorem condition_roundtrip {c : PolicyCondition} (h : c.OnWire) :
    ∃ j, c.toValue = .ok j ∧ policyCondition j = .ok c := by
  obtain ⟨t, henc, hdec⟩ := optU128ToValue_ok h.time
  refine ⟨_, by rw [PolicyCondition.toValue, henc]; rfl, ?_⟩
  have hreason := option_ofOptStr c.reason
  have hmessage := option_ofOptStr c.message
  have hgeneration := option_i64 h.generation
  simp only [policyCondition, fieldsOf, bind, Except.bind]
  generalize hf : Json.lookup _ = f
  have hlook : f "type" = some (.str c.type_) ∧ f "status" = some (.str c.status) ∧
      f "reason" = some (.ofOptStr c.reason) ∧ f "message" = some (.ofOptStr c.message) ∧
      f "observedGeneration" = some (.ofOptInt c.observedGeneration) ∧ f "lastTransitionTimeMs" = some t := by
    rw [← hf]
    exact ⟨rfl, rfl, rfl, rfl, rfl, rfl⟩
  obtain ⟨h1, h2, h3, h4, h5, h6⟩ := hlook
  simp only [field, fieldOr, h1, h2, h3, h4, h5, h6, string, hreason, hmessage, hgeneration, hdec]
  rfl

/-- A member that is no object is read after a merge as it was written; what is written as `null` is the default. -/
theorem fieldOr_merged {α : Type} {f : String → Option Json} {key : String} {d : Decoder α} {dflt a : α}
    {old : Option Json} {value : Json} (hf : f key = Json.merged old value) (hflat : ∀ ms, value ≠ .obj ms)
    (hnull : value = .null → a = dflt) (hd : d value = .ok a) : fieldOr f key d dflt = .ok a := by
  unfold fieldOr
  rw [hf]
  cases value with
  | null => rw [hnull rfl]; rfl
  | obj ms => exact absurd rfl (hflat ms)
  | _ => exact hd

end Decode

/-! ## Written, merged and read back -/

open Decode

theorem PolicyStatus.toValue_ok {s : PolicyStatus} (h : s.OnWire) :
    ∃ conditions, s.toValue = .ok (.obj (s.members conditions)) ∧
      conditions.mapM policyCondition = .ok s.conditions := by
  obtain ⟨conditions, henc, hdec⟩ := mapM_roundtrip s.conditions (fun c hc => condition_roundtrip (h.conditions c hc))
  refine ⟨conditions, ?_, hdec⟩
  rw [PolicyStatus.toValue, henc]
  rfl

theorem nodup_members (s : PolicyStatus) (conditions : List Json) : ((s.members conditions).map Prod.fst).Nodup := by
  simp only [PolicyStatus.members, List.map_cons, List.map_nil]
  decide

/-- **A status merged into any stored one is read back as it is**: each of its members is decided by the patch. -/
theorem policyStatus_merged {s : PolicyStatus} (h : s.OnWire) {conditions : List Json}
    (hconditions : conditions.mapM policyCondition = .ok s.conditions) (old : List (String × Json)) :
    policyStatus (.obj (Json.mergeMembers old (s.members conditions))) = .ok s := by
  simp only [policyStatus, fieldsOf, bind, Except.bind]
  generalize hf : Json.lookup (Json.mergeMembers old (s.members conditions)) = f
  have hlook : ∀ key value, Json.lookup (s.members conditions) key = some value →
      f key = Json.merged (Json.lookup old key) value := by
    intro key value hkey
    rw [← hf, Json.lookup_mergeMembers key _ old (nodup_members s conditions), hkey]
  have hnamespaces : fieldOr f "effectiveNamespaces" (list string) [] = .ok s.effectiveNamespaces :=
    fieldOr_merged (hlook _ _ rfl) (by simp) (by simp) (list_string s.effectiveNamespaces)
  have hconds : fieldOr f "conditions" (list policyCondition) [] = .ok s.conditions :=
    fieldOr_merged (hlook _ (.arr conditions) rfl) (by simp) (by simp) hconditions
  have hgeneration : fieldOr f "observedGeneration" (option i64) none = .ok s.observedGeneration := by
    apply fieldOr_merged (hlook _ _ rfl) _ _ (option_i64 h.generation)
    · intro ms
      cases s.observedGeneration <;> simp [Json.ofOptInt, Json.ofInt]
    · cases s.observedGeneration <;> simp [Json.ofOptInt, Json.ofInt]
  have htime : fieldOr f "lastReconciledAtMs" u128StringOption none = .ok s.lastReconciledAtMs := by
    apply fieldOr_merged (hlook _ _ rfl) _ _ (u128StringOption_serialize h.time)
    · intro ms
      cases s.lastReconciledAtMs <;> simp [serializeU128StringOption]
    · cases s.lastReconciledAtMs <;> simp [serializeU128StringOption]
  have hstale : fieldOr f "stale" bool false = .ok s.stale :=
    fieldOr_merged (hlook _ (.bool s.stale) rfl) (by simp) (by simp) rfl
  rw [hnamespaces, hconds, hgeneration, htime, hstale]
  rfl

/-- **A status survives the wire**: whatever object is stored, with whatever status, the patch that is sent leaves a
status that reads back as the one that was written. -/
theorem status_survives_the_wire (s : PolicyStatus) (h : s.OnWire) (stored : List (String × Json)) :
    ∃ patch members, policyStatusPatch s = .ok patch ∧ Json.mergePatch (.obj stored) patch = .obj members ∧
      fieldOr (Json.lookup members) "status" (option policyStatus) none = .ok (some s) := by
  obtain ⟨conditions, henc, hdec⟩ := PolicyStatus.toValue_ok h
  refine ⟨.obj [("status", .obj (s.members conditions))], _, by rw [policyStatusPatch, henc]; rfl, rfl, ?_⟩
  have hstatus := Json.lookup_mergeMembers "status" [("status", .obj (s.members conditions))] stored (by simp)
  unfold fieldOr
  rw [Json.members, hstatus]
  change (policyStatus (.obj (Json.mergeMembers _ (s.members conditions)))).map some = .ok (some s)
  rw [policyStatus_merged h hdec]
  rfl

/-- A status without a generation, its timestamp beyond `u64`. -/
def lateStatus : PolicyStatus :=
  { effectiveNamespaces := ["app"], observedGeneration := none, lastReconciledAtMs := some 18446744073709551616
    conditions := [⟨"Ready", "True", some "ready", none, some 7, some 18446744073709551615⟩], stale := false }

/-- An older status with a generation and a condition of its own. -/
def olderStatus : Json :=
  .obj [("conditions", .arr [.obj [("type", .str "Stale"), ("status", .str "True")]]), ("stale", .bool true),
    ("observedGeneration", .ofInt 3), ("lastReconciledAtMs", .ofInt 1000)]

theorem lateStatus_replaces_an_older_one :
    ∃ patch members, policyStatusPatch lateStatus = .ok patch ∧
      Json.mergePatch (.obj [("status", olderStatus)]) patch = .obj members ∧
      fieldOr (Json.lookup members) "status" (option policyStatus) none = .ok (some lateStatus) := by
  apply status_survives_the_wire
  refine ⟨fun c hc => ?_, by simp [lateStatus], by simp [lateStatus]⟩
  rw [lateStatus, List.mem_singleton] at hc
  subst hc
  exact ⟨by simp [i64Min, i64Max], by simp⟩

end HubAgent
