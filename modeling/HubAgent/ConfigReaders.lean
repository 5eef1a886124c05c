import HubAgent.Operator
/-!
# One ConfigMap, two readers

The agent's ConfigMap reaches the operator process as its environment (`config.rs`) and the lifecycle watcher as an
object of the API (`operator_lifecycle.rs`).  The environment's reader takes a YAML list and falls back to commas; the
watcher's takes commas only.  The watcher's flag is trimmed, the environment's is not.  `readers_agree_iff` says on
which values the two agree.  `serde_yaml` is a parameter: any function from a text to the list of strings it holds, if
any.
-/
namespace HubAgent

open Operator (combinedExcludedNamespaces systemExcludedNamespaces)

/-! ## The environment (`config.rs`) -/

def envFlag (value : Option String) : Bool :=
  match value with
  | some v => v == "true" || v == "1"
  | none => false

def parseCsvValues (raw : String) : List String :=
  ((RustStr.split ',' raw.toList).map (fun s => String.ofList (RustStr.trimChars s))).filter (· ≠ "")

/-- `parse_yaml_list_env`; `serdeYaml` is `serde_yaml::from_str::<Vec<String>>`. -/
def parseYamlListEnv (serdeYaml : String → Option (List String)) (value : Option String) : List String :=
  match value with
  | none => []
  | some raw =>
    let trimmed := RustStr.trim raw
    if trimmed = "" then [] else (serdeYaml trimmed).getD (parseCsvValues trimmed)

/-! ## The ConfigMap (`operator_lifecycle.rs`) -/

namespace Lifecycle

def actionOperatorEnabledKey : String := "ACTION_OPERATOR_ENABLED"
def actionOperatorExcludedNamespacesKey : String := "ACTION_OPERATOR_EXCLUDED_NAMESPACES"

def configValue (cm : ConfigMap) (key : String) : Option String := cm.data.bind (fun data => data.lookup key)

def isOperatorEnabled (cm : ConfigMap) : Bool :=
  match configValue cm actionOperatorEnabledKey with
  | some v => RustStr.trim v == "true" || RustStr.trim v == "1"
  | none => false

def actionOperatorExcludedNamespaces (cm : ConfigMap) : Finset String :=
  combinedExcludedNamespaces
    (match configValue cm actionOperatorExcludedNamespacesKey with
      | some value =>
        ((RustStr.split ',' value.toList).map (fun s => String.ofList (RustStr.trimChars s))).filter (· ≠ "")
      | none => [])

/-! ## Where they agree -/

/-- Two lists that exclude the same namespaces next to the built-in ones. -/
def SameEntries (l l' : List String) : Prop :=
  ∀ name, name ≠ "" → name ∉ systemExcludedNamespaces → (name ∈ l.map RustStr.trim ↔ name ∈ l'.map RustStr.trim)

theorem mem_combinedExcludedNamespaces {name : String} {extra : List String} :
    name ∈ combinedExcludedNamespaces extra ↔
      name ≠ "" ∧ (name ∈ systemExcludedNamespaces ∨ name ∈ extra.map RustStr.trim) := by
  rw [combinedExcludedNamespaces, List.mem_toFinset, List.mem_filter, List.mem_append, decide_eq_true_iff]
  exact and_comm

theorem combinedExcludedNamespaces_eq_iff {l l' : List String} :
    combinedExcludedNamespaces l = combinedExcludedNamespaces l' ↔ SameEntries l l' := by
  rw [Finset.ext_iff]
  simp only [mem_combinedExcludedNamespaces]
  constructor
  · intro h name hne hsys
    have hname := h name
    simp only [hne, hsys, ne_eq, not_false_iff, true_and, false_or] at hname
    exact hname
  · intro h name
    by_cases hne : name = ""
    · simp [hne]
    · by_cases hsys : name ∈ systemExcludedNamespaces
      · simp [hne, hsys]
      · simp only [hne, hsys, ne_eq, not_false_iff, true_and, false_or]
        exact h name hne hsys

theorem parseCsvValues_trim (raw : String) : parseCsvValues (RustStr.trim raw) = parseCsvValues raw := by
  have hcomma : RustStr.isWhitespace ',' = false := by decide
  have h := congrArg (fun pieces => (pieces.map String.ofList).filter (· ≠ ""))
    (RustStr.split_trimChars hcomma raw.toList)
  simp only [List.map_map] at h
  unfold parseCsvValues RustStr.trim
  rw [String.toList_ofList]
  exact h

/-- **The two readers agree on a ConfigMap**: on the exclusions and on the flag. -/
def ReadersAgree (serdeYaml : String → Option (List String)) (cm : ConfigMap) : Prop :=
  actionOperatorExcludedNamespaces cm = combinedExcludedNamespaces
      (parseYamlListEnv serdeYaml (configValue cm actionOperatorExcludedNamespacesKey)) ∧
    isOperatorEnabled cm = envFlag (configValue cm actionOperatorEnabledKey)

theorem exclusions_agree_iff (serdeYaml : String → Option (List String)) (cm : ConfigMap) :
    actionOperatorExcludedNamespaces cm = combinedExcludedNamespaces
        (parseYamlListEnv serdeYaml (configValue cm actionOperatorExcludedNamespacesKey)) ↔
      ∀ v l, configValue cm actionOperatorExcludedNamespacesKey = some v → RustStr.trim v ≠ "" →
        serdeYaml (RustStr.trim v) = some l → SameEntries (parseCsvValues v) l := by
  unfold actionOperatorExcludedNamespaces
  cases configValue cm actionOperatorExcludedNamespacesKey with
  | none => simp [parseYamlListEnv]
  | some v =>
    have hcsv : combinedExcludedNamespaces (parseCsvValues v) =
        combinedExcludedNamespaces (parseYamlListEnv serdeYaml (some v)) ↔
        (RustStr.trim v ≠ "" → ∀ l, serdeYaml (RustStr.trim v) = some l → SameEntries (parseCsvValues v) l) := by
      unfold parseYamlListEnv
      by_cases hblank : RustStr.trim v = ""
      · have hnil : parseCsvValues v = [] := by
          rw [← parseCsvValues_trim, hblank]
          decide
        simp [hblank, hnil]
      · simp only [if_neg hblank]
        cases hyaml : serdeYaml (RustStr.trim v) with
        | none => simp [parseCsvValues_trim]
        | some l =>
          rw [Option.getD_some, combinedExcludedNamespaces_eq_iff]
          simp [hblank]
    constructor
    · intro h v' l hv hblank hyaml
      cases hv
      exact hcsv.1 h hblank l hyaml
    · intro h
      exact hcsv.2 (fun hblank l hyaml => h v l rfl hblank hyaml)

/-- What both readers take for a set flag. -/
def isOn (v : String) : Bool := v == "true" || v == "1"

theorem isOn_iff {v : String} : isOn v = true ↔ v = "true" ∨ v = "1" := by
  rw [isOn, Bool.or_eq_true, beq_iff_eq, beq_iff_eq]

theorem isOn_trim_iff {v : String} :
    isOn (RustStr.trim v) = isOn v ↔ (RustStr.trim v = "true" ∨ RustStr.trim v = "1" → RustStr.trim v = v) := by
  have hplain : v = "true" ∨ v = "1" → RustStr.trim v = v := by
    rintro (rfl | rfl) <;> decide
  rw [Bool.eq_iff_iff, isOn_iff, isOn_iff]
  constructor
  · intro h ht
    exact hplain (h.1 ht)
  · intro h
    constructor
    · intro ht
      rw [← h ht]
      exact ht
    · intro hv
      rw [hplain hv]
      exact hv

theorem flags_agree_iff (cm : ConfigMap) :
    isOperatorEnabled cm = envFlag (configValue cm actionOperatorEnabledKey) ↔
      ∀ v, configValue cm actionOperatorEnabledKey = some v → RustStr.trim v = "true" ∨ RustStr.trim v = "1" →
        RustStr.trim v = v := by
  unfold isOperatorEnabled
  cases configValue cm actionOperatorEnabledKey with
  | none => simp [envFlag]
  | some v =>
    constructor
    · intro h v' hv
      cases hv
      exact isOn_trim_iff.1 h
    · intro h
      exact isOn_trim_iff.2 (h v rfl)

/-- **On which ConfigMaps the two readers agree.** -/
theorem readers_agree_iff (serdeYaml : String → Option (List String)) (cm : ConfigMap) :
    ReadersAgree serdeYaml cm ↔
      (∀ v l, configValue cm actionOperatorExcludedNamespacesKey = some v → RustStr.trim v ≠ "" →
        serdeYaml (RustStr.trim v) = some l → SameEntries (parseCsvValues v) l) ∧
      ∀ v, configValue cm actionOperatorEnabledKey = some v → RustStr.trim v = "true" ∨ RustStr.trim v = "1" →
        RustStr.trim v = v := by
  rw [ReadersAgree, exclusions_agree_iff, flags_agree_iff]

/-- A reader of YAML that knows one list. -/
def oneList (text : String) : Option (List String) :=
  if text = "- kube-system\n- custom-ns" then some ["kube-system", "custom-ns"] else none

def configMapOf (entries : List (String × String)) : ConfigMap :=
  { data := some (entries.map (fun e => (⟨e.1, e.2⟩ : (_ : String) × String))).toAList }

/-- A list in YAML, as `config.rs` accepts it: the operator excludes `custom-ns`, the watcher a name that no namespace
has.  A flag between blanks: the watcher deploys an operator whose own environment says it is off. -/
theorem readers_disagree :
    ¬ ReadersAgree oneList (configMapOf [("ACTION_OPERATOR_EXCLUDED_NAMESPACES", "- kube-system\n- custom-ns"),
        ("ACTION_OPERATOR_ENABLED", "true")]) ∧
      ¬ ReadersAgree oneList (configMapOf [("ACTION_OPERATOR_ENABLED", "  true  ")]) := by
  constructor
  · rintro ⟨h, -⟩
    revert h
    decide
  · rintro ⟨-, h⟩
    revert h
    decide

end Lifecycle

end HubAgent
