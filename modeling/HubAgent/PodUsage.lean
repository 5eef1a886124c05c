import Mathlib.Data.List.Forall2
import HubAgent.Dependencies
import HubAgent.Quantities
/-!
# The usage of a pod (`collector.rs`)

The metrics API reports a pod's usage container by container, as quantities; the agent adds them up and formats the sums
as quantities again.  The formatters choose the largest unit that divides the sum, the parser tries the suffixes in the
order of its table: `parse_formatScaled` is what makes the one undo the other at every unit.
-/
namespace HubAgent
namespace Collector

open Quantity (Table InI128 Decisive)

structure PodUsageTotals where
  cpuNano : Int := 0
  memoryBytes : Int := 0
  deriving DecidableEq, Repr

/-- The loop of `map_pod_metrics`. -/
def sumUsage : PodUsageTotals → List Json → Option PodUsageTotals
  | totals, [] => some totals
  | totals, container :: containers => do
    let usage ← container.pointer ["usage"]
    let cpu ← (usage.pointer ["cpu"]).bind Json.asStr
    let memory ← (usage.pointer ["memory"]).bind Json.asStr
    let cpuNano ← checkedI128 (totals.cpuNano + (← parseCpuQuantity cpu))
    let memoryBytes ← checkedI128 (totals.memoryBytes + (← parseMemoryQuantity memory))
    sumUsage ⟨cpuNano, memoryBytes⟩ containers

def mapPodMetrics (metric : DynamicObject) : Option ((String × String) × PodUsageTotals) := do
  let asValue ← metric.toValue.toOption
  let namespace_ ← (asValue.pointer ["metadata", "namespace"]).bind Json.asStr
  let name ← (asValue.pointer ["metadata", "name"]).bind Json.asStr
  let containers ← (asValue.pointer ["containers"]).bind asArray
  let totals ← sumUsage {} containers
  return ((namespace_, name), totals)

def formatCpuQuantity (cpuNano : Int) : Option String :=
  if cpuNano < 0 then none
  else if cpuNano.tmod 1000000 = 0 then some s!"{cpuNano.tdiv 1000000}m"
  else some s!"{cpuNano}n"

/-- The units of `format_memory_quantity`, largest first. -/
def memoryUnits : List (String × Int) :=
  [("Ei", 1024 ^ 6), ("Pi", 1024 ^ 5), ("Ti", 1024 ^ 4), ("Gi", 1024 ^ 3), ("Mi", 1024 ^ 2), ("Ki", 1024)]

/-- The loop of `format_memory_quantity`. -/
def formatScaled (n : Int) : List (String × Int) → String
  | [] => s!"{n}"
  | (suffix, scale) :: units =>
    if scale ≤ n ∧ n.tmod scale = 0 then s!"{n.tdiv scale}{suffix}" else formatScaled n units

def formatMemoryQuantity (memoryBytes : Int) : Option String :=
  if memoryBytes < 0 then none else some (formatScaled memoryBytes memoryUnits)

/-! ## The sums -/

/-- What a container of the metrics reports: two quantities that parse to these values, none of them negative. -/
structure Reports (container : Json) (usage : PodUsageTotals) : Prop where
  cpu : ∃ q, container.pointer ["usage", "cpu"] = some (.str q) ∧ parseCpuQuantity q = some usage.cpuNano
  memory : ∃ q, container.pointer ["usage", "memory"] = some (.str q) ∧
    parseMemoryQuantity q = some usage.memoryBytes
  cpu_nonneg : 0 ≤ usage.cpuNano
  memory_nonneg : 0 ≤ usage.memoryBytes

def cpuSum (usages : List PodUsageTotals) : Int := (usages.map PodUsageTotals.cpuNano).sum

def memorySum (usages : List PodUsageTotals) : Int := (usages.map PodUsageTotals.memoryBytes).sum

/-- **The metrics of a pod**, with a namespace, a name and what each container reports; the sums fit. -/
structure IsPodMetrics (metric : DynamicObject) (namespace_ name : String) (usages : List PodUsageTotals) : Prop where
  asValue : ∃ v containers, metric.toValue = .ok v ∧
    v.pointer ["metadata", "namespace"] = some (.str namespace_) ∧ v.pointer ["metadata", "name"] = some (.str name) ∧
    v.pointer ["containers"] = some (.arr containers) ∧ List.Forall₂ Reports containers usages
  cpu_fits : cpuSum usages ≤ i128Max
  memory_fits : memorySum usages ≤ i128Max

theorem cpuSum_nonneg {containers : List Json} {usages : List PodUsageTotals}
    (h : List.Forall₂ Reports containers usages) : 0 ≤ cpuSum usages := by
  induction h with
  | nil => exact le_refl _
  | cons hhead _ ih =>
    have := hhead.cpu_nonneg
    simp only [cpuSum, List.map_cons, List.sum_cons] at *
    omega

theorem memorySum_nonneg {containers : List Json} {usages : List PodUsageTotals}
    (h : List.Forall₂ Reports containers usages) : 0 ≤ memorySum usages := by
  induction h with
  | nil => exact le_refl _
  | cons hhead _ ih =>
    have := hhead.memory_nonneg
    simp only [memorySum, List.map_cons, List.sum_cons] at *
    omega

theorem sumUsage_cons {container : Json} {usage totals : PodUsageTotals} (h : Reports container usage)
    (hcpu : InI128 (totals.cpuNano + usage.cpuNano)) (hmemory : InI128 (totals.memoryBytes + usage.memoryBytes))
    (containers : List Json) : sumUsage totals (container :: containers) =
      sumUsage ⟨totals.cpuNano + usage.cpuNano, totals.memoryBytes + usage.memoryBytes⟩ containers := by
  obtain ⟨c, hc, hcparse⟩ := h.cpu
  obtain ⟨m, hm, hmparse⟩ := h.memory
  simp only [Json.pointer, Option.bind_eq_some_iff] at hc hm
  obtain ⟨v, hv, c', hc', hc''⟩ := hc
  obtain ⟨v', hv', m', hm', hm''⟩ := hm
  cases hv.symm.trans hv'
  cases hc''
  cases hm''
  rw [sumUsage]
  simp [Json.pointer, hv, hc', hm', Json.asStr, hcparse, hmparse, Quantity.checkedI128_eq_some_iff.2 ⟨hcpu, rfl⟩,
    Quantity.checkedI128_eq_some_iff.2 ⟨hmemory, rfl⟩]

/-- **The loop adds up**: no prefix of the containers leaves the range, as nothing is negative. -/
theorem sumUsage_eq {containers : List Json} {usages : List PodUsageTotals}
    (h : List.Forall₂ Reports containers usages) : ∀ totals : PodUsageTotals, 0 ≤ totals.cpuNano →
      0 ≤ totals.memoryBytes → totals.cpuNano + cpuSum usages ≤ i128Max →
      totals.memoryBytes + memorySum usages ≤ i128Max →
      sumUsage totals containers =
        some ⟨totals.cpuNano + cpuSum usages, totals.memoryBytes + memorySum usages⟩ := by
  induction h with
  | nil =>
    intro totals _ _ _ _
    simp [sumUsage, cpuSum, memorySum]
  | @cons container usage containers usages hhead htail ih =>
    intro totals hcpu hmemory hcpuFits hmemoryFits
    have hcpuNonneg := hhead.cpu_nonneg
    have hmemoryNonneg := hhead.memory_nonneg
    have hcpuRest := cpuSum_nonneg htail
    have hmemoryRest := memorySum_nonneg htail
    have hcpuSum : cpuSum (usage :: usages) = usage.cpuNano + cpuSum usages := List.sum_cons
    have hmemorySum : memorySum (usage :: usages) = usage.memoryBytes + memorySum usages := List.sum_cons
    rw [hcpuSum] at hcpuFits ⊢
    rw [hmemorySum] at hmemoryFits ⊢
    have hcpuIn : InI128 (totals.cpuNano + usage.cpuNano) := Quantity.nonneg_inI128 (by omega) (by omega)
    have hmemoryIn : InI128 (totals.memoryBytes + usage.memoryBytes) :=
      Quantity.nonneg_inI128 (by omega) (by omega)
    rw [sumUsage_cons hhead hcpuIn hmemoryIn, ih _ (by dsimp only; omega) (by dsimp only; omega) (by dsimp only; omega)
      (by dsimp only; omega)]
    dsimp only
    rw [Int.add_assoc, Int.add_assoc]

/-- What `map_pod_metrics` makes of the metrics of a pod. -/
theorem mapPodMetrics_eq {metric : DynamicObject} {namespace_ name : String} {usages : List PodUsageTotals}
    (h : IsPodMetrics metric namespace_ name usages) :
    mapPodMetrics metric = some ((namespace_, name), ⟨cpuSum usages, memorySum usages⟩) := by
  obtain ⟨v, containers, hvalue, hnamespace, hname, hcontainers, hreports⟩ := h.asValue
  have hsum := sumUsage_eq hreports {} (le_refl _) (le_refl _) (by simpa using h.cpu_fits)
    (by simpa using h.memory_fits)
  unfold mapPodMetrics
  rw [hvalue]
  simp [Except.toOption, hnamespace, hname, hcontainers, Json.asStr, asArray, hsum]

/-! ## Parsing what is formatted -/

/-- **A multiple of a scale is read back** from its quotient and the suffix of the scale. -/
theorem parse_scaled {table : Table} (htable : Decisive table) (suffix : String) {scale n : Int} (hn : 0 ≤ n)
    (hmax : n ≤ i128Max) (hmem : (suffix.toList, scale) ∈ table) (hdvd : n.tmod scale = 0) :
    parseScaledDecimal (s!"{n.tdiv scale}{suffix}").toList table = some n := by
  have hscale := htable.positive _ hmem
  obtain ⟨k, hk⟩ := Int.eq_ofNat_of_zero_le (Int.tdiv_nonneg hn hscale.le)
  have hmul : (k : Int) * scale = n := by
    rw [← hk]
    exact Int.tdiv_mul_cancel (Int.dvd_of_tmod_eq_zero hdvd)
  have hle : (k : Int) ≤ n := by
    rw [← hmul]
    exact le_mul_of_one_le_right (Int.natCast_nonneg _) hscale
  have htext : (s!"{n.tdiv scale}{suffix}").toList = (Numeral.IntText.ofNat k).text ++ suffix.toList := by
    rw [String.toList_append, hk, Numeral.IntText.text_ofNat]
    rfl
  have hwritten : Quantity.Written table (Numeral.IntText.ofNat k).text scale
      (s!"{n.tdiv scale}{suffix}").toList :=
    ⟨[], [], suffix.toList, hmem, by simp [RustStr.Blank], by simp [RustStr.Blank], by rw [htext]; simp⟩
  rw [Quantity.parse_written htable (Quantity.IntText.numberText _) hwritten, Quantity.parse_whole (.inl rfl),
    Numeral.IntText.value_ofNat, hmul]
  exact ⟨Quantity.nonneg_inI128 (Int.natCast_nonneg _) (hle.trans hmax), Quantity.nonneg_inI128 hn hmax, rfl⟩

/-- The last unit of both formatters has no suffix or its own, and a scale of one. -/
theorem parse_unscaled {table : Table} (htable : Decisive table) (suffix : String) {n : Int} (hn : 0 ≤ n)
    (hmax : n ≤ i128Max) (hmem : (suffix.toList, 1) ∈ table) :
    parseScaledDecimal (s!"{n}{suffix}").toList table = some n := by
  have h := parse_scaled htable suffix hn hmax hmem (Int.tmod_one n)
  rwa [Int.tdiv_one] at h

/-- **What the unit search formats is read back**, for any units that the table has. -/
theorem parse_formatScaled {table : Table} (htable : Decisive table) {n : Int} (hn : 0 ≤ n) (hmax : n ≤ i128Max)
    (hunit : ([], 1) ∈ table) : ∀ {units : List (String × Int)}, (∀ e ∈ units, (e.1.toList, e.2) ∈ table) →
      parseScaledDecimal (formatScaled n units).toList table = some n
  | [], _ => by
    have h := parse_unscaled htable "" hn hmax hunit
    have htext : toString n ++ toString "" = toString n := String.append_empty
    rwa [htext] at h
  | (suffix, scale) :: units, hunits => by
    rw [formatScaled]
    split_ifs with hdvd
    · exact parse_scaled htable suffix hn hmax (hunits _ List.mem_cons_self) hdvd.2
    · exact parse_formatScaled htable hn hmax hunit (fun e he => hunits e (List.mem_cons_of_mem _ he))

theorem parse_formatCpuQuantity {n : Int} (hn : 0 ≤ n) (hmax : n ≤ i128Max) :
    (formatCpuQuantity n).bind parseCpuQuantity = some n := by
  unfold formatCpuQuantity
  rw [if_neg (by omega)]
  split_ifs with hdvd
  · exact parse_scaled Quantity.decisive_cpuSuffixes "m" hn hmax (by decide) hdvd
  · exact parse_unscaled Quantity.decisive_cpuSuffixes "n" hn hmax (by decide)

theorem parse_formatMemoryQuantity {n : Int} (hn : 0 ≤ n) (hmax : n ≤ i128Max) :
    (formatMemoryQuantity n).bind parseMemoryQuantity = some n := by
  unfold formatMemoryQuantity
  rw [if_neg (by omega)]
  exact parse_formatScaled Quantity.decisive_memorySuffixes hn hmax (by decide) (by decide)

/-- **The usage totals of a pod survive formatting**: they are the exact sums, and parsing what they are formatted as
gives them back; as it does for every number that is not negative. -/
theorem pod_usage_survives :
    (∀ metric namespace_ name usages, IsPodMetrics metric namespace_ name usages →
      mapPodMetrics metric = some ((namespace_, name), ⟨cpuSum usages, memorySum usages⟩) ∧
      (formatCpuQuantity (cpuSum usages)).bind parseCpuQuantity = some (cpuSum usages) ∧
      (formatMemoryQuantity (memorySum usages)).bind parseMemoryQuantity = some (memorySum usages)) ∧
    (∀ n, 0 ≤ n → n ≤ i128Max → (formatCpuQuantity n).bind parseCpuQuantity = some n ∧
      (formatMemoryQuantity n).bind parseMemoryQuantity = some n) := by
  refine ⟨fun metric namespace_ name usages h => ?_, fun n hn hmax => ?_⟩
  · obtain ⟨v, containers, -, -, -, -, hreports⟩ := h.asValue
    exact ⟨mapPodMetrics_eq h, parse_formatCpuQuantity (cpuSum_nonneg hreports) h.cpu_fits,
      parse_formatMemoryQuantity (memorySum_nonneg hreports) h.memory_fits⟩
  · exact ⟨parse_formatCpuQuantity hn hmax, parse_formatMemoryQuantity hn hmax⟩

def containerMetrics (name cpu memory : String) : Json :=
  .obj [("name", .str name), ("usage", .obj [("cpu", .str cpu), ("memory", .str memory)])]

def apiMetrics : DynamicObject where
  toValue := .ok (.obj [("apiVersion", .str "metrics.k8s.io/v1beta1"), ("kind", .str "PodMetrics"),
    ("metadata", .obj [("name", .str "api-1"), ("namespace", .str "prod")]),
    ("containers", .arr [containerMetrics "app" "100m" "200Mi", containerMetrics "proxy" "25m" "56Mi"])])

theorem pod_usage_survives_api :
    mapPodMetrics apiMetrics = some (("prod", "api-1"), ⟨125000000, 268435456⟩) ∧
      (formatCpuQuantity 125000000).bind parseCpuQuantity = some 125000000 ∧
      (formatMemoryQuantity 268435456).bind parseMemoryQuantity = some 268435456 :=
  pod_usage_survives.1 apiMetrics "prod" "api-1" [⟨100000000, 209715200⟩, ⟨25000000, 58720256⟩]
    ⟨⟨_, _, rfl, rfl, rfl, rfl,
      .cons ⟨⟨"100m", rfl, by decide⟩, ⟨"200Mi", rfl, by decide⟩, by decide, by decide⟩
        (.cons ⟨⟨"25m", rfl, by decide⟩, ⟨"56Mi", rfl, by decide⟩, by decide, by decide⟩ .nil)⟩, by decide, by decide⟩

end Collector
end HubAgent
