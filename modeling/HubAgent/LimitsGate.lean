import Mathlib.Data.List.ReduceOption
import Mathlib.Tactic.NormNum
import HubAgent.Quantities
import HubAgent.Gate
/-!
# The limits of a policy against the numbers that are written (`executor.rs`)

The gate compares what the parser makes of two quantities: whole nanocores and bytes, worked out in `i128`.  So it does
not see an excess of less than a unit, and it takes a fraction that is too long for `i128` for no quantity at all.
`limits_exact_iff` says that these are the only ways in which its verdict leaves the numbers.
-/
namespace HubAgent
namespace Quantity

open Numeral

/-- A non-negative decimal number with a suffix of the table. -/
structure Amount (table : Table) where
  decimal : Decimal
  unsigned : decimal.sign = .none
  suffix : List Char
  scale : Int
  mem : (suffix, scale) ∈ table

namespace Amount

variable {table : Table}

def text (a : Amount table) : List Char := a.decimal.text ++ a.suffix

def value (a : Amount table) : ℚ := a.decimal.value * a.scale

def units (a : Amount table) : Int := truncate a.value

/-- What its two parts add up to when the places of the fraction are counted in 32 bits. -/
def tally (a : Amount table) : Int :=
  a.decimal.whole.value * a.scale +
    a.decimal.fracValue * a.scale / 10 ^ (a.decimal.fracChars.length % 4294967296)

/-- The sum, the fraction's power of ten and its scaled digits are all `i128`s. -/
structure Readable (a : Amount table) : Prop where
  sum : InI128 a.tally
  denom : InI128 (10 ^ (a.decimal.fracChars.length % 4294967296))
  scaled : InI128 (a.decimal.fracValue * a.scale)

instance (a : Amount table) : Decidable a.Readable :=
  decidable_of_iff (InI128 a.tally ∧ InI128 (10 ^ (a.decimal.fracChars.length % 4294967296)) ∧
    InI128 (a.decimal.fracValue * a.scale)) ⟨fun h => ⟨h.1, h.2.1, h.2.2⟩, fun h => ⟨h.1, h.2, h.3⟩⟩

end Amount

section Amounts

variable {table : Table}

theorem Amount.scale_pos (htable : Decisive table) (a : Amount table) : 0 < a.scale := htable.positive _ a.mem

theorem Amount.units_eq (htable : Decisive table) (a : Amount table) :
    a.units = a.decimal.whole.value * a.scale + a.decimal.fracValue * a.scale / 10 ^ a.decimal.fracChars.length := by
  unfold Amount.units Amount.value
  rw [a.decimal.truncate_scaled (a.scale_pos htable).le, a.unsigned]
  rfl

/-- Only the places of a fraction with four thousand million digits are counted wrongly. -/
theorem Amount.tally_eq_units (htable : Decisive table) (a : Amount table)
    (h : a.decimal.fracChars.length < 4294967296) : a.tally = a.units := by
  rw [a.units_eq htable]
  unfold Amount.tally
  rw [Nat.mod_eq_of_lt h]

theorem Amount.units_le_tally (htable : Decisive table) (a : Amount table) : a.units ≤ a.tally := by
  have hscale := a.scale_pos htable
  have hle : (10 : Int) ^ (a.decimal.fracChars.length % 4294967296) ≤ 10 ^ a.decimal.fracChars.length :=
    pow_le_pow_right₀ (by norm_num) (Nat.mod_le _ _)
  have hnonneg : (0 : Int) ≤ a.decimal.fracValue * a.scale := by positivity
  have hpow : (0 : Int) < 10 ^ (a.decimal.fracChars.length % 4294967296) := by positivity
  have hquot : (a.decimal.fracValue * a.scale : Int) / 10 ^ a.decimal.fracChars.length ≤
      a.decimal.fracValue * a.scale / 10 ^ (a.decimal.fracChars.length % 4294967296) := by
    rw [Int.le_ediv_iff_mul_le hpow]
    exact (Int.mul_le_mul_of_nonneg_left hle (Int.ediv_nonneg hnonneg (hpow.trans_le hle).le)).trans
      (Int.ediv_mul_le _ (hpow.trans_le hle).ne')
  rw [a.units_eq htable]
  unfold Amount.tally
  omega

theorem Amount.units_nonneg (htable : Decisive table) (a : Amount table) : 0 ≤ a.units := by
  have hscale := a.scale_pos htable
  rw [a.units_eq htable]
  positivity

theorem Amount.value_nonneg (htable : Decisive table) (a : Amount table) : 0 ≤ a.value := by
  have hscale := a.scale_pos htable
  have hmagnitude : a.decimal.value = a.decimal.magnitude := by
    unfold Decimal.value
    rw [a.unsigned]
  unfold Amount.value
  rw [hmagnitude]
  exact mul_nonneg a.decimal.magnitude_nonneg (Int.cast_nonneg hscale.le)

theorem Amount.tally_nonneg (htable : Decisive table) (a : Amount table) : 0 ≤ a.tally := by
  have hscale := a.scale_pos htable
  unfold Amount.tally
  positivity

theorem Amount.whole_le_tally (htable : Decisive table) (a : Amount table) :
    (a.decimal.whole.value : Int) ≤ a.decimal.whole.value * a.scale ∧ a.decimal.whole.value * a.scale ≤ a.tally := by
  have hscale := a.scale_pos htable
  have hquot : 0 ≤ (a.decimal.fracValue * a.scale : Int) / 10 ^ (a.decimal.fracChars.length % 4294967296) := by
    positivity
  refine ⟨?_, ?_⟩
  · exact le_mul_of_one_le_right (Int.natCast_nonneg _) hscale
  · unfold Amount.tally
    omega

/-- **What an amount is read as.** -/
theorem Amount.parse_text (htable : Decisive table) (a : Amount table) {v : Int} :
    parseScaledDecimal a.text table = some v ↔ a.Readable ∧ a.tally = v := by
  have hscale := a.scale_pos htable
  have hwritten : Written table a.decimal.text a.scale a.text :=
    ⟨[], [], a.suffix, a.mem, by simp [RustStr.Blank], by simp [RustStr.Blank], by simp [Amount.text]⟩
  obtain ⟨hle, hle'⟩ := a.whole_le_tally htable
  have hnonneg : (0 : Int) ≤ a.decimal.whole.value := Int.natCast_nonneg _
  rw [parse_written htable (Decimal.numberText _) hwritten, Decimal.parse_iff, a.unsigned, Sign.apply_none,
    Int.tdiv_eq_ediv_of_nonneg (Int.mul_nonneg (Int.natCast_nonneg _) hscale.le)]
  constructor
  · rintro ⟨h, rfl⟩
    have hsum := h.sum
    rw [Int.tdiv_eq_ediv_of_nonneg (Int.mul_nonneg (Int.natCast_nonneg _) hscale.le)] at hsum
    exact ⟨⟨hsum, h.denom, h.fracScaled⟩, rfl⟩
  · rintro ⟨h, rfl⟩
    have hmax := h.sum.2
    have hfrac : (a.decimal.fracValue : Int) ≤ a.decimal.fracValue * a.scale :=
      le_mul_of_one_le_right (Int.natCast_nonneg _) hscale
    refine ⟨⟨nonneg_inI128 hnonneg (by omega), nonneg_inI128 (by omega) (by omega), ?_, h.denom, h.scaled, ?_⟩, rfl⟩
    · exact nonneg_inI128 (Int.natCast_nonneg _) (hfrac.trans h.scaled.2)
    · rw [Int.tdiv_eq_ediv_of_nonneg (Int.mul_nonneg (Int.natCast_nonneg _) hscale.le)]
      exact h.sum

theorem Amount.readable_iff (htable : Decisive table) (a : Amount table)
    (hdenom : InI128 (10 ^ a.decimal.fracChars.length)) (hscaled : InI128 (a.decimal.fracValue * a.scale)) :
    a.Readable ↔ InI128 a.units := by
  have hlength := length_lt_of_inI128 hdenom
  rw [← a.tally_eq_units htable hlength]
  refine ⟨fun h => h.sum, fun h => ⟨h, ?_, hscaled⟩⟩
  rw [Nat.mod_eq_of_lt hlength]
  exact hdenom

end Amounts

end Quantity

namespace Executor

open Quantity

inductive Resource where
  | cpu
  | memory

namespace Resource

def table : Resource → Table
  | cpu => cpuSuffixes
  | memory => memorySuffixes

def limit : Resource → PolicyLimits → Option String
  | cpu => PolicyLimits.maxCpuLimit
  | memory => PolicyLimits.maxMemoryLimit

def get : Resource → ResourceMap → Option String
  | cpu => ResourceMap.cpu
  | memory => ResourceMap.memory

def parse : Resource → String → Option Int
  | cpu => parseCpuQuantity
  | memory => parseMemoryQuantity

end Resource

inductive Side where
  | request
  | limit

def Side.map : Side → WorkloadResourcesSpec → Option ResourceMap
  | request => WorkloadResourcesSpec.requests
  | limit => WorkloadResourcesSpec.limits

/-- The spec asks for `q` of a resource on one side, and the policy limits that resource to `l`. -/
def Checked (limits : Option PolicyLimits) (spec : WorkloadResourcesSpec) (r : Resource) (s : Side) (q l : String) :
    Prop :=
  (limits.bind r.limit) = some l ∧ ((s.map spec).bind r.get) = some q

def CheckedAmounts (limits : Option PolicyLimits) (spec : WorkloadResourcesSpec) (r : Resource)
    (a b : Amount r.table) : Prop :=
  ∃ s q l, Checked limits spec r s q l ∧ q.toList = a.text ∧ l.toList = b.text

/-- All quantities that are compared are amounts. -/
def WellFormed (limits : Option PolicyLimits) (spec : WorkloadResourcesSpec) : Prop :=
  ∀ r s q l, Checked limits spec r s q l →
    ∃ a b : Amount r.table, q.toList = a.text ∧ l.toList = b.text

/-- More than the limit, or no number of units that an `i128` can hold. -/
def Over {table : Table} (a b : Amount table) : Prop :=
  b.value < a.value ∨ ¬ InI128 a.units ∨ ¬ InI128 b.units

/-- **The verdict is that of the numbers**, and what is no number is a violation. -/
structure GateExact (limits : Option PolicyLimits) (spec : WorkloadResourcesSpec) : Prop where
  exact : WellFormed limits spec →
    ((policyLimitsViolationReason limits spec).isSome ↔ ∃ r a b, CheckedAmounts limits spec r a b ∧ Over a b)
  unparsed : ∀ r s q l, Checked limits spec r s q l → r.parse q = none →
    (policyLimitsViolationReason limits spec).isSome

/-- Two amounts of which the first has more units, or of which one is out of the reader's range. -/
def UnitsApart {table : Table} (a b : Amount table) : Prop :=
  ¬ a.Readable ∨ ¬ b.Readable ∨ b.tally < a.tally

/-- Two amounts in range of which one cannot be read, or the units are not those of the numbers: both take a long
fraction (`LongFraction.places`). -/
def LongFraction {table : Table} (a b : Amount table) : Prop :=
  ¬ a.Readable ∧ InI128 a.units ∨ ¬ b.Readable ∧ InI128 b.units ∨ a.value ≤ b.value ∧ b.tally < a.tally

/-- **Where the units decide as the numbers do**: an excess of less than a unit is not the only one, and a fraction that
is too long is not the only ground for a violation. -/
structure UnitsDecide (limits : Option PolicyLimits) (spec : WorkloadResourcesSpec) : Prop where
  part_of_unit : ∀ r a b, CheckedAmounts limits spec r a b → b.value < a.value → a.tally ≤ b.tally →
    ∃ r' a' b', CheckedAmounts limits spec r' a' b' ∧ UnitsApart a' b'
  long_fraction : ∀ r a b, CheckedAmounts limits spec r a b → LongFraction a b →
    ∃ r' a' b', CheckedAmounts limits spec r' a' b' ∧ Over a' b'

theorem Resource.decisive (r : Resource) : Decisive r.table := by
  cases r
  · exact decisive_cpuSuffixes
  · exact decisive_memorySuffixes

theorem Resource.parse_eq (r : Resource) (q : String) : r.parse q = parseScaledDecimal q.toList r.table := by
  cases r <;> rfl

/-- **What a long fraction is**: its power of ten or its scaled digits leave `i128`. -/
theorem LongFraction.places {r : Resource} {a b : Amount r.table} (h : LongFraction a b) :
    ∃ c, (c = a ∨ c = b) ∧ ¬ (InI128 (10 ^ c.decimal.fracChars.length) ∧ InI128 (c.decimal.fracValue * c.scale)) := by
  rcases h with ⟨hread, hunits⟩ | ⟨hread, hunits⟩ | ⟨hvalue, htally⟩
  · exact ⟨a, .inl rfl, fun hfit => hread ((a.readable_iff r.decisive hfit.1 hfit.2).2 hunits)⟩
  · exact ⟨b, .inr rfl, fun hfit => hread ((b.readable_iff r.decisive hfit.1 hfit.2).2 hunits)⟩
  · refine ⟨a, .inl rfl, fun hfit => ?_⟩
    have hunits := Numeral.truncate_mono (a.value_nonneg r.decisive) hvalue
    have ha := a.tally_eq_units r.decisive (length_lt_of_inI128 hfit.1)
    have hb := b.units_le_tally r.decisive
    unfold Amount.units at *
    omega

/-! ## The gate -/

/-- What `quantity_exceeds_limit` compares. -/
def Exceeds (r : Resource) (q l : String) : Prop :=
  (r.parse q).getD i128Min = i128Min ∨ (r.parse l).getD i128Min = i128Min ∨
    (r.parse l).getD i128Min < (r.parse q).getD i128Min

theorem quantityExceedsLimit_isSome (label q l : String) (r : Resource) :
    (quantityExceedsLimit label q l r.parse).isSome ↔ Exceeds r q l := by
  unfold quantityExceedsLimit Exceeds
  dsimp only
  split_ifs <;> simp_all

theorem sideViolation_isSome {label : String} {limits : PolicyLimits} {spec : WorkloadResourcesSpec} {r : Resource}
    {s : Side} : (sideViolation label (r.limit limits) (s.map spec) r.get r.parse).isSome ↔
      ∃ q l, Checked (some limits) spec r s q l ∧ Exceeds r q l := by
  unfold sideViolation Checked
  simp only [Option.bind_eq_bind, Option.isSome_iff_exists, Option.bind_eq_some_iff, Option.bind_some]
  constructor
  · rintro ⟨reason, l, hl, m, hm, q, hq, hreason⟩
    exact ⟨q, l, ⟨hl, m, hm, hq⟩, (quantityExceedsLimit_isSome label q l r).1 (Option.isSome_iff_exists.2 ⟨_, hreason⟩)⟩
  · rintro ⟨q, l, ⟨hl, m, hm, hq⟩, hexceeds⟩
    obtain ⟨reason, hreason⟩ := Option.isSome_iff_exists.1 ((quantityExceedsLimit_isSome label q l r).2 hexceeds)
    exact ⟨reason, l, hl, m, hm, q, hq, hreason⟩

theorem policyLimitsViolationReason_isSome (limits : PolicyLimits) (spec : WorkloadResourcesSpec) :
    (policyLimitsViolationReason (some limits) spec).isSome ↔
      (sideViolation "cpu request" (Resource.cpu.limit limits) (Side.request.map spec) Resource.cpu.get
        Resource.cpu.parse).isSome ∨
      (sideViolation "cpu limit" (Resource.cpu.limit limits) (Side.limit.map spec) Resource.cpu.get
        Resource.cpu.parse).isSome ∨
      (sideViolation "memory request" (Resource.memory.limit limits) (Side.request.map spec) Resource.memory.get
        Resource.memory.parse).isSome ∨
      (sideViolation "memory limit" (Resource.memory.limit limits) (Side.limit.map spec) Resource.memory.get
        Resource.memory.parse).isSome := by
  have hmem : ∀ l : List (Option String), l.reduceOption ≠ [] ↔ ∃ o ∈ l, o.isSome := by
    intro l
    rw [Ne, List.eq_nil_iff_forall_not_mem, not_forall_not]
    simp only [List.reduceOption_mem_iff, Option.isSome_iff_exists]
    constructor
    · rintro ⟨reason, h⟩
      exact ⟨_, h, _, rfl⟩
    · rintro ⟨o, h, reason, rfl⟩
      exact ⟨_, h⟩
  have hlist := hmem [sideViolation "cpu request" limits.maxCpuLimit spec.requests ResourceMap.cpu parseCpuQuantity,
    sideViolation "cpu limit" limits.maxCpuLimit spec.limits ResourceMap.cpu parseCpuQuantity,
    sideViolation "memory request" limits.maxMemoryLimit spec.requests ResourceMap.memory parseMemoryQuantity,
    sideViolation "memory limit" limits.maxMemoryLimit spec.limits ResourceMap.memory parseMemoryQuantity]
  simp only [List.mem_cons, List.not_mem_nil, or_false, exists_eq_or_imp, exists_eq_left] at hlist
  refine Iff.trans ?_ hlist
  unfold policyLimitsViolationReason
  dsimp only
  split_ifs with hnil
  · simp [hnil]
  · simp [hnil]

/-- **A violation is one of the four comparisons.** -/
theorem violation_isSome_iff (limits : Option PolicyLimits) (spec : WorkloadResourcesSpec) :
    (policyLimitsViolationReason limits spec).isSome ↔ ∃ r s q l, Checked limits spec r s q l ∧ Exceeds r q l := by
  cases limits with
  | none => simp [policyLimitsViolationReason, Checked]
  | some limits =>
    rw [policyLimitsViolationReason_isSome]
    simp only [sideViolation_isSome]
    constructor
    · rintro (h | h | h | h)
      · exact ⟨_, _, h⟩
      · exact ⟨_, _, h⟩
      · exact ⟨_, _, h⟩
      · exact ⟨_, _, h⟩
    · rintro ⟨r, s, h⟩
      cases r <;> cases s
      · exact .inl h
      · exact .inr (.inl h)
      · exact .inr (.inr (.inl h))
      · exact .inr (.inr (.inr h))

theorem Resource.parse_amount (r : Resource) {q : String} {a : Amount r.table} (hq : q.toList = a.text) :
    r.parse q = if a.Readable then some a.tally else none := by
  rw [r.parse_eq, hq]
  by_cases h : a.Readable
  · rw [if_pos h]
    exact (a.parse_text r.decisive).2 ⟨h, rfl⟩
  · rw [if_neg h, Option.eq_none_iff_forall_ne_some]
    intro v hv
    exact h ((a.parse_text r.decisive).1 hv).1

theorem Resource.getD_parse_amount (r : Resource) {q : String} {a : Amount r.table} (hq : q.toList = a.text) :
    (r.parse q).getD i128Min = i128Min ↔ ¬ a.Readable := by
  have hmin : i128Min < 0 := by decide
  have hnonneg := a.tally_nonneg r.decisive
  rw [r.parse_amount hq]
  by_cases h : a.Readable
  · simp only [h, if_true, Option.getD_some, not_true_eq_false, iff_false]
    omega
  · simp [h]

/-- **Two amounts are compared by their units.** -/
theorem exceeds_iff_unitsApart {r : Resource} {q l : String} {a b : Amount r.table} (hq : q.toList = a.text)
    (hl : l.toList = b.text) : Exceeds r q l ↔ UnitsApart a b := by
  unfold Exceeds UnitsApart
  rw [r.getD_parse_amount hq, r.getD_parse_amount hl, r.parse_amount hq, r.parse_amount hl]
  by_cases ha : a.Readable
  · by_cases hb : b.Readable
    · simp [ha, hb]
    · simp [hb]
  · simp [ha]

theorem violation_isSome_iff_unitsApart {limits : Option PolicyLimits} {spec : WorkloadResourcesSpec}
    (hwell : WellFormed limits spec) : (policyLimitsViolationReason limits spec).isSome ↔
      ∃ r a b, CheckedAmounts limits spec r a b ∧ UnitsApart a b := by
  rw [violation_isSome_iff]
  constructor
  · rintro ⟨r, s, q, l, hchecked, hexceeds⟩
    obtain ⟨a, b, hq, hl⟩ := hwell r s q l hchecked
    exact ⟨r, a, b, ⟨s, q, l, hchecked, hq, hl⟩, (exceeds_iff_unitsApart hq hl).1 hexceeds⟩
  · rintro ⟨r, a, b, ⟨s, q, l, hchecked, hq, hl⟩, happart⟩
    exact ⟨r, s, q, l, hchecked, (exceeds_iff_unitsApart hq hl).2 happart⟩

theorem Amount.inI128_units_of_readable {r : Resource} {a : Amount r.table} (h : a.Readable) : InI128 a.units := by
  have hle := a.units_le_tally r.decisive
  have hmax := h.sum.2
  exact nonneg_inI128 (a.units_nonneg r.decisive) (by omega)

theorem over_or_unitsApart {r : Resource} {a b : Amount r.table} :
    (Over a b → UnitsApart a b ∨ b.value < a.value ∧ a.tally ≤ b.tally) ∧
      (UnitsApart a b → Over a b ∨ LongFraction a b) := by
  constructor
  · intro hover
    by_cases happart : UnitsApart a b
    · exact .inl happart
    · unfold UnitsApart at happart
      simp only [not_or, not_not, not_lt] at happart
      obtain ⟨ha, hb, htally⟩ := happart
      rcases hover with hlt | hrange | hrange
      · exact .inr ⟨hlt, htally⟩
      · exact absurd (Amount.inI128_units_of_readable ha) hrange
      · exact absurd (Amount.inI128_units_of_readable hb) hrange
  · intro happart
    by_cases hover : Over a b
    · exact .inl hover
    · unfold Over at hover
      simp only [not_or, not_not, not_lt] at hover
      obtain ⟨hle, ha, hb⟩ := hover
      rcases happart with hread | hread | hlt
      · exact .inr (.inl ⟨hread, ha⟩)
      · exact .inr (.inr (.inl ⟨hread, hb⟩))
      · exact .inr (.inr (.inr ⟨hle, hlt⟩))

/-- **The limits gate is exact exactly where the units decide as the numbers do.** -/
theorem limits_exact_iff (limits : Option PolicyLimits) (spec : WorkloadResourcesSpec) :
    GateExact limits spec ↔ (WellFormed limits spec → UnitsDecide limits spec) := by
  constructor
  · intro h hwell
    have hexact := h.exact hwell
    rw [violation_isSome_iff_unitsApart hwell] at hexact
    constructor
    · intro r a b hchecked hlt _
      exact hexact.2 ⟨r, a, b, hchecked, .inl hlt⟩
    · intro r a b hchecked hlong
      by_cases hover : Over a b
      · exact ⟨r, a, b, hchecked, hover⟩
      · refine hexact.1 ⟨r, a, b, hchecked, ?_⟩
        rcases hlong with ⟨hread, -⟩ | ⟨hread, -⟩ | ⟨-, hlt⟩
        · exact .inl hread
        · exact .inr (.inl hread)
        · exact .inr (.inr hlt)
  · intro h
    constructor
    · intro hwell
      have hdecide := h hwell
      rw [violation_isSome_iff_unitsApart hwell]
      constructor
      · rintro ⟨r, a, b, hchecked, happart⟩
        rcases over_or_unitsApart.2 happart with hover | hlong
        · exact ⟨r, a, b, hchecked, hover⟩
        · exact hdecide.long_fraction r a b hchecked hlong
      · rintro ⟨r, a, b, hchecked, hover⟩
        rcases over_or_unitsApart.1 hover with happart | ⟨hlt, htally⟩
        · exact ⟨r, a, b, hchecked, happart⟩
        · exact hdecide.part_of_unit r a b hchecked hlt htally
    · intro r s q l hchecked hnone
      refine (violation_isSome_iff limits spec).2 ⟨r, s, q, l, hchecked, .inl ?_⟩
      rw [hnone]
      rfl

/-- `1.5n` and `1n`. -/
def oneAndHalf : Amount cpuSuffixes :=
  ⟨⟨.none, ⟨['1'], by simp, by simp⟩, some ['5'], by simp⟩, rfl, ['n'], 1, by decide⟩

def oneNano : Amount cpuSuffixes :=
  ⟨⟨.none, ⟨['1'], by simp, by simp⟩, none, by simp⟩, rfl, ['n'], 1, by decide⟩

/-- A request of one nanocore and a half passes a limit of one. -/
theorem half_unit_passes :
    policyLimitsViolationReason (some { maxCpuLimit := some "1n" })
        { workloadKind := "Deployment", namespace_ := "app", name := "api", container := "api",
          requests := some { cpu := some "1.5n" } } = none ∧
      ¬ GateExact (some { maxCpuLimit := some "1n" })
        { workloadKind := "Deployment", namespace_ := "app", name := "api", container := "api",
          requests := some { cpu := some "1.5n" } } := by
  refine ⟨by decide, fun h => ?_⟩
  have hwell : WellFormed (some { maxCpuLimit := some "1n" })
      { workloadKind := "Deployment", namespace_ := "app", name := "api", container := "api",
        requests := some { cpu := some "1.5n" } } := by
    rintro (_ | _) (_ | _) q l ⟨hl, hq⟩
    · cases hl
      cases hq
      exact ⟨oneAndHalf, oneNano, by decide, by decide⟩
    · cases hq
    · cases hl
    · cases hl
  have hfive : RustStr.digitsValue ['5'] = 5 := by decide
  have hone : RustStr.digitsValue ['1'] = 1 := by decide
  have hnil : RustStr.digitsValue [] = 0 := rfl
  have hlt : oneNano.value < oneAndHalf.value := by
    norm_num [oneAndHalf, oneNano, Amount.value, Numeral.Decimal.value, Numeral.Decimal.magnitude,
      Numeral.Decimal.fracValue, Numeral.Decimal.fracChars, Numeral.Digits.value, hfive, hone, hnil]
  have hreport := (h.exact hwell).2
    ⟨.cpu, oneAndHalf, oneNano, ⟨.request, "1.5n", "1n", ⟨rfl, rfl⟩, by decide, by decide⟩, .inl hlt⟩
  exact absurd hreport (by decide)

end Executor
end HubAgent
