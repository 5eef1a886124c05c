import HubAgent.Lib.Decimal
import HubAgent.Lib.StrParts
import HubAgent.Policy
/-!
# What the quantity parser reads (`model.rs`, and the same text in `collector.rs`)

A quantity is a decimal number and a suffix, and its value is the number times the scale of the suffix, truncated.  The
parser takes the number apart at the point, reads both parts as signed integers, scales each and adds them up.  That is
the value as long as the fraction has no sign of its own and the number is not negative; `faithful_iff` says exactly
which texts are read as something else.
-/
namespace HubAgent
namespace Quantity

open Numeral
open RustStr (Blank trimChars isWhitespace)

/-- Suffixes with their scales, in the order in which they are tried. -/
abbrev Table := List (List Char × Int)

/-- The text of a number, blanks around it allowed, with a suffix of the table behind it. -/
def Written (table : Table) (number : List Char) (scale : Int) (q : List Char) : Prop :=
  ∃ pre post suf, (suf, scale) ∈ table ∧ Blank pre ∧ Blank post ∧ q = pre ++ number ++ post ++ suf

def InI128 (n : Int) : Prop := i128Min ≤ n ∧ n ≤ i128Max

instance (n : Int) : Decidable (InI128 n) := inferInstanceAs (Decidable (_ ∧ _))

theorem checkedI128_eq_some_iff {n m : Int} : checkedI128 n = some m ↔ InI128 n ∧ n = m := by
  unfold checkedI128 InI128
  by_cases h : i128Min ≤ n ∧ n ≤ i128Max
  · simp [h]
  · simp [h]

/-- **The scaled value of a decimal fits, and every number on the way to it.** -/
structure Fits (d : Decimal) (scale : Int) : Prop where
  whole : InI128 (d.sign.apply d.whole.value)
  scaled : InI128 (d.sign.apply d.whole.value * scale)
  frac : InI128 d.fracValue
  denom : InI128 (10 ^ d.fracChars.length)
  fracScaled : InI128 (d.fracValue * scale)
  result : InI128 (truncate (d.value * scale))

/-- **What is parsed is a quantity and its exact value, truncated; and every quantity that fits is parsed.** -/
structure Faithful (table : Table) (parse : String → Option Int) (q : String) : Prop where
  sound : ∀ v, parse q = some v → ∃ d scale, Written table (Decimal.text d) scale q.toList ∧
    v = truncate (d.value * scale) ∧ Fits d scale
  complete : ∀ d scale, Written table (Decimal.text d) scale q.toList → Fits d scale → ∃ v, parse q = some v

/-! ## The suffix -/

/-- No suffix ends in an earlier one, and all are made of letters. -/
structure Decisive (table : Table) : Prop where
  letters : ∀ e ∈ table, ∀ c ∈ e.1, c.isAlpha = true
  apart : table.Pairwise (fun e e' => ¬ e.1 <:+ e'.1)
  positive : ∀ e ∈ table, 0 < e.2

theorem decisive_cpuSuffixes : Decisive cpuSuffixes := ⟨by simp [cpuSuffixes], by decide, by decide⟩

theorem decisive_memorySuffixes : Decisive memorySuffixes := ⟨by simp [memorySuffixes], by decide, by decide⟩

/-- The characters of numbers. -/
def IsNumeric (c : Char) : Prop := c.isDigit = true ∨ c = '+' ∨ c = '-' ∨ c = '.'

/-- The text of a number of any form. -/
structure NumberText (n : List Char) : Prop where
  ne_nil : n ≠ []
  numeric : ∀ c ∈ n, IsNumeric c

theorem IsNumeric.not_blank {c : Char} (h : IsNumeric c) : isWhitespace c = false := by
  rcases h with h | rfl | rfl | rfl
  · exact RustStr.isWhitespace_of_isDigit h
  · decide
  · decide
  · decide

theorem IsNumeric.not_alpha {c : Char} (h : IsNumeric c) : c.isAlpha = false := by
  rcases h with h | rfl | rfl | rfl
  · rw [← Bool.not_eq_true]
    intro halpha
    have hrange := RustStr.isAlpha_range halpha
    simp only [Char.isDigit, Bool.and_eq_true, decide_eq_true_eq, ge_iff_le, UInt32.le_iff_toNat_le] at h
    have hdigit : 48 ≤ c.toNat ∧ c.toNat ≤ 57 := h
    omega
  · decide
  · decide
  · decide

theorem NumberText.trimChars {n pre post : List Char} (h : NumberText n) (hpre : Blank pre) (hpost : Blank post) :
    RustStr.trimChars (pre ++ n ++ post) = n := by
  rw [RustStr.trimChars_surrounded hpre hpost]
  exact RustStr.trimChars_eq_self (fun c hc => (h.numeric c hc).not_blank)

theorem NumberText.last {n pre post : List Char} (h : NumberText n) (hpost : Blank post) :
    ∀ x c, pre ++ n ++ post = x ++ [c] → c.isAlpha = false := by
  intro x c heq
  have hlast := congrArg List.getLast? heq
  rw [List.getLast?_concat, List.append_assoc, List.getLast?_append_of_ne_nil _ (by simp [h.ne_nil])] at hlast
  have hmem : c ∈ n ++ post := List.mem_of_getLast? hlast
  rcases List.mem_append.1 hmem with hc | hc
  · exact (h.numeric c hc).not_alpha
  · exact RustStr.isAlpha_of_isWhitespace (hpost c hc)

/-- Two ways to take a suffix off: the longer one would take letters off the number. -/
theorem suffix_eq {num rest suf s : List Char} (hlast : ∀ x c, num = x ++ [c] → c.isAlpha = false)
    (hs : ∀ c ∈ s, c.isAlpha = true) (heq : num ++ suf = rest ++ s) (hsuf : suf <:+ s) : s = suf := by
  obtain ⟨x, rfl⟩ := hsuf
  rw [← List.append_assoc] at heq
  have hnum := List.append_cancel_right heq
  rcases List.eq_nil_or_concat x with rfl | ⟨y, c, rfl⟩
  · rfl
  · rw [List.concat_eq_append] at hnum hs
    have halpha := hs c (by simp)
    rw [hlast (rest ++ y) c (by rw [hnum, List.append_assoc])] at halpha
    cases halpha

theorem parseScaledDecimal_append {num suf : List Char} {scale : Int} (hne : num ≠ [])
    (hlast : ∀ x c, num = x ++ [c] → c.isAlpha = false) : ∀ {table : Table},
    (∀ e ∈ table, ∀ c ∈ e.1, c.isAlpha = true) → table.Pairwise (fun e e' => ¬ e.1 <:+ e'.1) →
    (suf, scale) ∈ table → parseScaledDecimal (num ++ suf) table = parseDecimalScaled num scale
  | (s, k) :: table, hletters, hapart, hmem => by
    rw [List.pairwise_cons] at hapart
    rw [parseScaledDecimal]
    by_cases hhead : (suf, scale) = (s, k)
    · cases hhead
      rw [RustStr.stripSuffix_eq_some_iff.2 rfl]
      exact if_pos (.inr hne)
    · have hrest : (suf, scale) ∈ table := by
        rcases List.mem_cons.1 hmem with heq | hrest
        · exact absurd heq hhead
        · exact hrest
      have hnone : RustStr.stripSuffix s (num ++ suf) = none := by
        rw [Option.eq_none_iff_forall_ne_some]
        intro rest hstrip
        have heq := RustStr.stripSuffix_eq_some_iff.1 hstrip
        have hs : s <:+ num ++ suf := ⟨rest, heq.symm⟩
        have hsuf : suf <:+ num ++ suf := List.suffix_append _ _
        rcases List.suffix_or_suffix_of_suffix hs hsuf with h | h
        · exact hapart.1 _ hrest h
        · have hsame := suffix_eq hlast (hletters _ List.mem_cons_self) heq h
          exact hapart.1 _ hrest (by rw [hsame])
      rw [hnone]
      exact parseScaledDecimal_append hne hlast (fun e he => hletters e (List.mem_cons_of_mem _ he)) hapart.2 hrest

theorem parseDecimalScaled_trim (number : List Char) (scale : Int) :
    parseDecimalScaled (trimChars number) scale = parseDecimalScaled number scale := by
  unfold parseDecimalScaled
  rw [RustStr.trimChars_trimChars]

/-- **A quantity is parsed as its number**, with the scale of its suffix. -/
theorem parse_written {table : Table} (htable : Decisive table) {n q : List Char} {scale : Int} (hn : NumberText n)
    (h : Written table n scale q) : parseScaledDecimal q table = parseDecimalScaled n scale := by
  obtain ⟨pre, post, suf, hmem, hpre, hpost, rfl⟩ := h
  have hne : pre ++ n ++ post ≠ [] := by simp [hn.ne_nil]
  rw [parseScaledDecimal_append hne (hn.last hpost) htable.letters htable.apart hmem, ← parseDecimalScaled_trim,
    hn.trimChars hpre hpost]

theorem written_of_parse {q : List Char} {v : Int} : ∀ {table : Table}, parseScaledDecimal q table = some v →
    ∃ n scale, Written table n scale q ∧ trimChars n = n ∧ parseDecimalScaled n scale = some v
  | (s, k) :: table, h => by
    have hlater : parseScaledDecimal q table = some v →
        ∃ n scale, Written ((s, k) :: table) n scale q ∧ trimChars n = n ∧ parseDecimalScaled n scale = some v := by
      intro h
      obtain ⟨n, scale, ⟨pre, post, suf, hmem, hwritten⟩, hparse⟩ := written_of_parse h
      exact ⟨n, scale, ⟨pre, post, suf, List.mem_cons_of_mem _ hmem, hwritten⟩, hparse⟩
    rw [parseScaledDecimal] at h
    split at h
    · rename_i number hstrip
      split_ifs at h
      · obtain ⟨pre, post, hnumber, hpre, hpost⟩ := RustStr.exists_surrounded number
        refine ⟨trimChars number, k, ⟨pre, post, s, List.mem_cons_self, hpre, hpost, ?_⟩, ?_, ?_⟩
        · rw [← hnumber]
          exact RustStr.stripSuffix_eq_some_iff.1 hstrip
        · exact RustStr.trimChars_trimChars number
        · rw [parseDecimalScaled_trim, h]
      · exact hlater h
    · exact hlater h

theorem scale_unique {suf : List Char} {a b : Int} : ∀ {table : Table},
    table.Pairwise (fun e e' => ¬ e.1 <:+ e'.1) → (suf, a) ∈ table → (suf, b) ∈ table → a = b
  | (s, k) :: table, hapart, ha, hb => by
    rw [List.pairwise_cons] at hapart
    rcases List.mem_cons.1 ha with heq | ha' <;> rcases List.mem_cons.1 hb with heq' | hb'
    · exact congrArg Prod.snd (heq.trans heq'.symm)
    · cases heq
      exact (hapart.1 _ hb' (List.suffix_refl _)).elim
    · cases heq'
      exact (hapart.1 _ ha' (List.suffix_refl _)).elim
    · exact scale_unique hapart.2 ha' hb'

theorem written_unique {table : Table} (htable : Decisive table) {n n' q : List Char} {scale scale' : Int}
    (hn : NumberText n) (hn' : NumberText n') (h : Written table n scale q) (h' : Written table n' scale' q) :
    n = n' ∧ scale = scale' := by
  obtain ⟨pre, post, suf, hmem, hpre, hpost, rfl⟩ := h
  obtain ⟨pre', post', suf', hmem', hpre', hpost', heq⟩ := h'
  have hsuf : suf = suf' := by
    have h1 : suf <:+ pre ++ n ++ post ++ suf := List.suffix_append _ _
    have h2 : suf' <:+ pre ++ n ++ post ++ suf := ⟨pre' ++ n' ++ post', heq.symm⟩
    rcases List.suffix_or_suffix_of_suffix h1 h2 with h | h
    · exact (suffix_eq (hn.last hpost) (htable.letters _ hmem') heq h).symm
    · exact suffix_eq (hn'.last hpost') (htable.letters _ hmem) heq.symm h
  subst hsuf
  have hnum := congrArg trimChars (List.append_cancel_right heq)
  rw [hn.trimChars hpre hpost, hn'.trimChars hpre' hpost'] at hnum
  exact ⟨hnum, scale_unique htable.apart hmem hmem'⟩

/-! ## The number -/

/-- **Every step of the parser's arithmetic stays in `i128`**, for two parts and the length of the second. -/
structure PartsFit (w f : Int) (length : Nat) (scale : Int) : Prop where
  whole : InI128 w
  scaled : InI128 (w * scale)
  frac : InI128 f
  denom : InI128 (10 ^ (length % 4294967296))
  fracScaled : InI128 (f * scale)
  sum : InI128 (w * scale + (f * scale).tdiv (10 ^ (length % 4294967296)))

theorem IntText.numberText (t : IntText) : NumberText t.text := by
  refine ⟨by simp [IntText.text, t.digits.ne_nil], fun c hc => ?_⟩
  rcases List.mem_append.1 hc with hsign | hdigit
  · cases hs : t.sign <;> simp_all [Sign.text, IsNumeric]
  · exact .inl (t.digits.digits c hdigit)

theorem IntText.no_point (t : IntText) : '.' ∉ t.text := by
  intro hmem
  rcases List.mem_append.1 hmem with hsign | hdigit
  · cases hs : t.sign <;> simp_all [Sign.text]
  · exact absurd (t.digits.digits _ hdigit) (by decide)

theorem NumberText.append_point {a b : List Char} (ha : NumberText a) (hb : b = [] ∨ NumberText b) :
    NumberText (a ++ '.' :: b) := by
  refine ⟨by simp, fun c hc => ?_⟩
  rcases List.mem_append.1 hc with h | h
  · exact ha.numeric c h
  · rcases List.mem_cons.1 h with rfl | h
    · exact .inr (.inr (.inr rfl))
    · rcases hb with rfl | hb
      · cases h
      · exact hb.numeric c h

theorem NumberText.trim_eq_self {n : List Char} (h : NumberText n) : RustStr.trimChars n = n :=
  RustStr.trimChars_eq_self (fun c hc => (h.numeric c hc).not_blank)

theorem parse_whole {t : IntText} {n : List Char} (hn : n = t.text ∨ n = t.text ++ ['.']) {scale v : Int} :
    parseDecimalScaled n scale = some v ↔ InI128 t.value ∧ InI128 (t.value * scale) ∧ t.value * scale = v := by
  have htext : NumberText n := by
    rcases hn with rfl | rfl
    · exact IntText.numberText t
    · exact (IntText.numberText t).append_point (.inl rfl)
  have hsplit : (RustStr.splitOnce '.' n).getD (n, []) = (t.text, []) := by
    rcases hn with rfl | rfl
    · rw [RustStr.splitOnce_eq_none_iff.2 (IntText.no_point t)]
      rfl
    · rw [RustStr.splitOnce_append [] (IntText.no_point t)]
      rfl
  unfold parseDecimalScaled
  dsimp only
  rw [htext.trim_eq_self, if_neg htext.ne_nil, hsplit]
  simp only [Option.bind_eq_bind, Option.bind_eq_some_iff, checkedI128_eq_some_iff, parseInt_text, if_true,
    Option.ite_none_right_eq_some, Option.some.injEq]
  constructor
  · rintro ⟨w, ⟨hw, rfl⟩, total, ⟨htotal, rfl⟩, hv⟩
    exact ⟨hw, htotal, hv⟩
  · rintro ⟨hw, htotal, rfl⟩
    exact ⟨_, ⟨hw, rfl⟩, _, ⟨htotal, rfl⟩, rfl⟩

theorem parse_parts {t f : IntText} {scale v : Int} :
    parseDecimalScaled (t.text ++ '.' :: f.text) scale = some v ↔ PartsFit t.value f.value f.text.length scale ∧
      t.value * scale + (f.value * scale).tdiv (10 ^ (f.text.length % 4294967296)) = v := by
  have htext : NumberText (t.text ++ '.' :: f.text) :=
    (IntText.numberText t).append_point (.inr (IntText.numberText f))
  have hne : f.text ≠ [] := (IntText.numberText f).ne_nil
  unfold parseDecimalScaled
  dsimp only
  rw [htext.trim_eq_self, if_neg htext.ne_nil, RustStr.splitOnce_append f.text (IntText.no_point t)]
  simp only [Option.getD_some, Option.bind_eq_bind, Option.bind_eq_some_iff, checkedI128_eq_some_iff, parseInt_text,
    if_neg hne, Option.ite_none_right_eq_some, Option.some.injEq]
  constructor
  · rintro ⟨w, ⟨hw, rfl⟩, total, ⟨htotal, rfl⟩, x, ⟨hx, rfl⟩, denom, ⟨hdenom, rfl⟩, scaled, ⟨hscaled, rfl⟩, hsum, rfl⟩
    exact ⟨⟨hw, htotal, hx, hdenom, hscaled, hsum⟩, rfl⟩
  · rintro ⟨h, rfl⟩
    exact ⟨_, ⟨h.whole, rfl⟩, _, ⟨h.scaled, rfl⟩, _, ⟨h.frac, rfl⟩, _, ⟨h.denom, rfl⟩, _, ⟨h.fracScaled, rfl⟩, h.sum,
      rfl⟩

theorem parse_cases {n : List Char} {scale v : Int} (htrim : trimChars n = n)
    (h : parseDecimalScaled n scale = some v) :
    (∃ t : IntText, n = t.text ∨ n = t.text ++ ['.']) ∨ ∃ t f : IntText, n = t.text ++ '.' :: f.text := by
  have hne : n ≠ [] := by
    rintro rfl
    cases h
  unfold parseDecimalScaled at h
  dsimp only at h
  rw [htrim, if_neg hne] at h
  cases hsplit : RustStr.splitOnce '.' n with
  | none =>
    simp only [hsplit, Option.getD_none, Option.bind_eq_bind, Option.bind_eq_some_iff] at h
    obtain ⟨w, hw, -⟩ := h
    obtain ⟨t, rfl, -⟩ := parseInt_eq_some_iff.1 hw
    exact .inl ⟨t, .inl rfl⟩
  | some p =>
    obtain ⟨a, b⟩ := p
    obtain ⟨rfl, -⟩ := RustStr.splitOnce_eq_some_iff.1 hsplit
    simp only [hsplit, Option.getD_some, Option.bind_eq_bind, Option.bind_eq_some_iff] at h
    obtain ⟨w, hw, total, -, hrest⟩ := h
    obtain ⟨t, rfl, -⟩ := parseInt_eq_some_iff.1 hw
    by_cases hb : b = []
    · subst hb
      exact .inl ⟨t, .inr rfl⟩
    · rw [if_neg hb] at hrest
      simp only [Option.bind_eq_some_iff] at hrest
      obtain ⟨x, hx, -⟩ := hrest
      obtain ⟨f, rfl, -⟩ := parseInt_eq_some_iff.1 hx
      exact .inr ⟨t, f, rfl⟩

/-! ## Decimals -/

theorem Decimal.text_eq (d : Decimal) : d.text = (IntText.mk d.sign d.whole).text ++
    match d.frac with
    | none => []
    | some f => '.' :: f := rfl

theorem Decimal.numberText (d : Decimal) : NumberText d.text := by
  rw [Decimal.text_eq]
  cases hf : d.frac with
  | none =>
    dsimp only
    rw [List.append_nil]
    exact IntText.numberText _
  | some f =>
    refine (IntText.numberText _).append_point ?_
    by_cases hnil : f = []
    · exact .inl hnil
    · exact .inr ⟨hnil, fun c hc => .inl (d.frac_digits f hf c hc)⟩

theorem nonneg_inI128 {n : Int} (h : 0 ≤ n) (hle : n ≤ i128Max) : InI128 n := by
  have hmin : i128Min < 0 := by decide
  exact ⟨by omega, hle⟩

theorem inI128_zero : InI128 0 := by decide

theorem inI128_one : InI128 1 := by decide

/-- A power of ten that fits has a short exponent, which the cast leaves as it is. -/
theorem length_lt_of_inI128 {n : Nat} (h : InI128 (10 ^ n)) : n < 4294967296 := by
  by_contra hn
  have hle : (10 : Int) ^ 39 ≤ 10 ^ n := pow_le_pow_right₀ (by norm_num) (by omega)
  have hmax : i128Max < 10 ^ 39 := by decide
  have := h.2
  omega

theorem Decimal.truncate_whole {d : Decimal} (h : d.fracChars = []) {scale : Int} (hscale : 0 ≤ scale) :
    truncate (d.value * scale) = d.sign.apply d.whole.value * scale := by
  rw [d.truncate_scaled hscale]
  unfold Decimal.fracValue
  rw [h]
  cases d.sign <;> simp [RustStr.digitsValue]

theorem Decimal.truncate_parts {d : Decimal} {scale : Int} (hscale : 0 ≤ scale)
    (hsign : d.sign = .minus → d.fracValue * scale < 10 ^ d.fracChars.length) :
    truncate (d.value * scale) =
      d.sign.apply d.whole.value * scale + (d.fracValue * scale : Int).tdiv (10 ^ d.fracChars.length) := by
  have hnonneg : (0 : Int) ≤ d.fracValue * scale := Int.mul_nonneg (Int.natCast_nonneg _) hscale
  rw [d.truncate_scaled hscale, Int.tdiv_eq_ediv_of_nonneg hnonneg]
  cases h : d.sign with
  | minus =>
    have hzero : (d.fracValue * scale : Int) / 10 ^ d.fracChars.length = 0 :=
      Int.ediv_eq_zero_of_lt hnonneg (hsign h)
    rw [hzero]
    simp
  | plus => rfl
  | none => rfl

/-- The decimal that a number without a fraction is. -/
def Decimal.ofWhole (t : IntText) (point : Bool) : Decimal where
  sign := t.sign
  whole := t.digits
  frac := if point then some [] else none
  frac_digits := by cases point <;> simp

/-- The decimal that two parts are, the second without a sign. -/
def Decimal.ofParts (t : IntText) (f : Digits) : Decimal where
  sign := t.sign
  whole := t.digits
  frac := some f.chars
  frac_digits := by
    rintro g ⟨⟩
    exact f.digits

theorem Decimal.fits_ofWhole {t : IntText} {point : Bool} {scale : Int} (hscale : 0 ≤ scale) (hw : InI128 t.value)
    (hs : InI128 (t.value * scale)) : Fits (Decimal.ofWhole t point) scale := by
  have hnil : (Decimal.ofWhole t point).fracChars = [] := by cases point <;> rfl
  have hzero : (Decimal.ofWhole t point).fracValue = 0 := by
    unfold Decimal.fracValue
    rw [hnil]
    rfl
  refine ⟨hw, hs, ?_, ?_, ?_, ?_⟩
  · rw [hzero]
    exact inI128_zero
  · rw [hnil]
    exact inI128_one
  · rw [hzero, Nat.cast_zero, Int.zero_mul]
    exact inI128_zero
  · rw [Decimal.truncate_whole hnil hscale]
    exact hs

theorem Decimal.parts_of_text {d : Decimal} {t f : IntText} (h : d.text = t.text ++ '.' :: f.text) :
    t = ⟨d.sign, d.whole⟩ ∧ d.frac = some f.text ∧ f.sign = .none := by
  have hfst : RustStr.splitOnce '.' (t.text ++ '.' :: f.text) = some (t.text, f.text) :=
    RustStr.splitOnce_append _ (IntText.no_point t)
  rw [← h, Decimal.text_eq] at hfst
  cases hfrac : d.frac with
  | none =>
    rw [hfrac, List.append_nil, RustStr.splitOnce_eq_none_iff.2 (IntText.no_point _)] at hfst
    cases hfst
  | some g =>
    rw [hfrac, RustStr.splitOnce_append _ (IntText.no_point _)] at hfst
    simp only [Option.some.injEq, Prod.mk.injEq] at hfst
    obtain ⟨htext, rfl⟩ := hfst
    refine ⟨(IntText.text_injective htext).symm, rfl, ?_⟩
    -- a sign would be a character of the fraction that is no digit
    have hdigits := d.frac_digits _ hfrac
    cases hs : f.sign with
    | none => rfl
    | plus => exact absurd (hdigits '+' (by simp [IntText.text, hs, Sign.text])) (by decide)
    | minus => exact absurd (hdigits '-' (by simp [IntText.text, hs, Sign.text])) (by decide)

/-- The sum of a decimal's parts fits when the decimal does: the parts have opposite signs, or it is the result. -/
theorem Decimal.sum_inI128 {d : Decimal} {scale : Int} (hscale : 0 ≤ scale) (h : Fits d scale) :
    InI128 (d.sign.apply d.whole.value * scale + (d.fracValue * scale : Int).tdiv (10 ^ d.fracChars.length)) := by
  have hnonneg : (0 : Int) ≤ d.fracValue * scale := Int.mul_nonneg (Int.natCast_nonneg _) hscale
  have hpow : (0 : Int) < 10 ^ d.fracChars.length := by positivity
  have hwhole : (0 : Int) ≤ d.whole.value * scale := Int.mul_nonneg (Int.natCast_nonneg _) hscale
  have hle : (d.fracValue * scale : Int) / 10 ^ d.fracChars.length ≤ d.fracValue * scale := Int.ediv_le_self _ hnonneg
  have hquot : 0 ≤ (d.fracValue * scale : Int) / 10 ^ d.fracChars.length := Int.ediv_nonneg hnonneg hpow.le
  by_cases hsign : d.sign = .minus
  · have hmax := h.fracScaled.2
    have hmin := h.scaled.1
    rw [Int.tdiv_eq_ediv_of_nonneg hnonneg]
    rw [hsign] at hmin ⊢
    simp only [Sign.apply_minus, Int.neg_mul] at hmin ⊢
    exact ⟨by omega, by omega⟩
  · rw [← Decimal.truncate_parts hscale (fun hminus => absurd hminus hsign)]
    exact h.result

theorem Decimal.fracValue_of_nil {d : Decimal} (h : d.fracChars = []) : d.fracValue = 0 := by
  unfold Decimal.fracValue
  rw [h]
  rfl

theorem partsFit_whole_iff {w scale : Int} : PartsFit w 0 0 scale ↔ InI128 w ∧ InI128 (w * scale) := by
  constructor
  · intro h
    exact ⟨h.whole, h.scaled⟩
  · rintro ⟨hw, hs⟩
    have hzero : InI128 (0 * scale) := by
      rw [Int.zero_mul]
      exact inI128_zero
    refine ⟨hw, hs, inI128_zero, inI128_one, hzero, ?_⟩
    rw [Int.zero_mul, Int.zero_tdiv, Int.add_zero]
    exact hs

theorem Decimal.exists_fracText {d : Decimal} (h : d.fracChars ≠ []) :
    ∃ f : IntText, f.text = d.fracChars ∧ f.value = d.fracValue ∧
      d.text = (IntText.mk d.sign d.whole).text ++ '.' :: f.text := by
  rw [Decimal.text_eq]
  unfold Decimal.fracValue Decimal.fracChars at *
  cases hfrac : d.frac with
  | none =>
    rw [hfrac] at h
    exact absurd rfl h
  | some g =>
    rw [hfrac] at h
    exact ⟨⟨.none, ⟨g, h, d.frac_digits g hfrac⟩⟩, rfl, rfl, rfl⟩

/-- **What a decimal is read as**: the sum of its parts. -/
theorem Decimal.parse_iff {d : Decimal} {scale v : Int} : parseDecimalScaled d.text scale = some v ↔
    PartsFit (d.sign.apply d.whole.value) d.fracValue d.fracChars.length scale ∧
      d.sign.apply d.whole.value * scale + (d.fracValue * scale : Int).tdiv (10 ^ (d.fracChars.length % 4294967296)) =
        v := by
  by_cases hnil : d.fracChars = []
  · have hforms : d.text = (IntText.mk d.sign d.whole).text ∨ d.text = (IntText.mk d.sign d.whole).text ++ ['.'] := by
      rw [Decimal.text_eq]
      unfold Decimal.fracChars at hnil
      cases hfrac : d.frac with
      | none => exact .inl (List.append_nil _)
      | some g =>
        rw [hfrac] at hnil
        exact .inr (congrArg (fun g => (IntText.mk d.sign d.whole).text ++ '.' :: g) hnil)
    have hvalue : (IntText.mk d.sign d.whole).value = d.sign.apply d.whole.value := rfl
    rw [parse_whole hforms, hvalue, Decimal.fracValue_of_nil hnil, hnil]
    simp only [Nat.cast_zero, Int.zero_mul, Int.zero_tdiv, Int.add_zero, List.length_nil, partsFit_whole_iff, and_assoc]
  · obtain ⟨f, htext, hvalue, hd⟩ := Decimal.exists_fracText hnil
    rw [hd, parse_parts, htext, hvalue]
    rfl

/-- **A decimal that fits is read.** -/
theorem Decimal.parse_of_fits {d : Decimal} {scale : Int} (hscale : 0 ≤ scale) (h : Fits d scale) :
    ∃ v, parseDecimalScaled d.text scale = some v := by
  have hlength := length_lt_of_inI128 h.denom
  have hdenom : InI128 (10 ^ (d.fracChars.length % 4294967296)) := by
    rw [Nat.mod_eq_of_lt hlength]
    exact h.denom
  have hsum : InI128 (d.sign.apply d.whole.value * scale +
      (d.fracValue * scale : Int).tdiv (10 ^ (d.fracChars.length % 4294967296))) := by
    rw [Nat.mod_eq_of_lt hlength]
    exact Decimal.sum_inI128 hscale h
  exact ⟨_, Decimal.parse_iff.2 ⟨⟨h.whole, h.scaled, h.frac, hdenom, h.fracScaled, hsum⟩, rfl⟩⟩

/-! ## What is read as something else -/

/-- **The texts that are read otherwise than they are written**: the parser can add up their two parts, and the second
has a sign of its own, or takes a negative number up by a unit or more, or is longer than the cast of its length. -/
def Misread (table : Table) (q : List Char) : Prop :=
  ∃ (t f : IntText) (scale : Int), Written table (t.text ++ '.' :: f.text) scale q ∧
    PartsFit t.value f.value f.text.length scale ∧
    (f.sign ≠ .none ∨ t.sign = .minus ∧ 10 ^ f.text.length ≤ f.value * scale ∨ 4294967296 ≤ f.text.length)

section Faithful

variable {table : Table} {parse : String → Option Int}

theorem not_misread_of_faithful (htable : Decisive table) (hparse : ∀ q, parse q = parseScaledDecimal q.toList table)
    {q : String} (h : Faithful table parse q) : ¬ Misread table q.toList := by
  rintro ⟨t, f, scale, hwritten, hfit, hbad⟩
  have htext : NumberText (t.text ++ '.' :: f.text) :=
    (IntText.numberText t).append_point (.inr (IntText.numberText f))
  have hread : parse q = some (t.value * scale +
      (f.value * scale).tdiv (10 ^ (f.text.length % 4294967296))) := by
    rw [hparse, parse_written htable htext hwritten]
    exact parse_parts.2 ⟨hfit, rfl⟩
  obtain ⟨d, scale', hwritten', hvalue, hfits⟩ := h.sound _ hread
  obtain ⟨heq, rfl⟩ := written_unique htable (Decimal.numberText d) htext hwritten' hwritten
  obtain ⟨rfl, hfrac, hsign⟩ := Decimal.parts_of_text heq
  have hchars : d.fracChars = f.text := by
    unfold Decimal.fracChars
    rw [hfrac]
    rfl
  have hlength := length_lt_of_inI128 (hchars ▸ hfits.denom)
  rcases hbad with hbad | ⟨hminus, hunit⟩ | hlong
  · exact hbad hsign
  · obtain ⟨pre, post, suf, hmem, -⟩ := hwritten
    have hscale := htable.positive _ hmem
    have hvalues : (d.fracValue : Int) = f.value := by
      unfold Decimal.fracValue IntText.value
      rw [hchars, hsign]
      unfold IntText.text
      rw [hsign]
      rfl
    rw [d.truncate_scaled hscale.le, hchars, hvalues, Nat.mod_eq_of_lt hlength] at hvalue
    have hpow : (0 : Int) < 10 ^ f.text.length := by positivity
    have hone : 1 ≤ f.value * scale' / 10 ^ f.text.length := (Int.le_ediv_iff_mul_le hpow).2 (by omega)
    have hnonneg : 0 ≤ f.value * scale' := hpow.le.trans hunit
    rw [Int.tdiv_eq_ediv_of_nonneg hnonneg] at hvalue
    simp only [IntText.value] at hvalue hone
    dsimp only at hminus
    rw [hminus] at hvalue
    simp only [Sign.apply_minus, Int.neg_mul] at hvalue
    omega
  · omega

theorem faithful_of_not_misread (htable : Decisive table) (hparse : ∀ q, parse q = parseScaledDecimal q.toList table)
    {q : String} (h : ¬ Misread table q.toList) : Faithful table parse q := by
  constructor
  · intro v hv
    rw [hparse] at hv
    obtain ⟨n, scale, hwritten, htrim, hnumber⟩ := written_of_parse hv
    have hscale : 0 < scale := by
      obtain ⟨pre, post, suf, hmem, -⟩ := hwritten
      exact htable.positive _ hmem
    rcases parse_cases htrim hnumber with ⟨t, hn⟩ | ⟨t, f, rfl⟩
    · obtain ⟨hw, hs, rfl⟩ := (parse_whole hn).1 hnumber
      obtain ⟨point, hpoint⟩ : ∃ point, n = (Decimal.ofWhole t point).text := by
        rcases hn with rfl | rfl
        · exact ⟨false, (List.append_nil _).symm⟩
        · exact ⟨true, rfl⟩
      refine ⟨Decimal.ofWhole t point, scale, hpoint ▸ hwritten, ?_, Decimal.fits_ofWhole hscale.le hw hs⟩
      rw [Decimal.truncate_whole (by cases point <;> rfl) hscale.le]
      rfl
    · obtain ⟨hfit, hvalue⟩ := parse_parts.1 hnumber
      have hgood : ¬ (f.sign ≠ .none ∨ t.sign = .minus ∧ 10 ^ f.text.length ≤ f.value * scale ∨
          4294967296 ≤ f.text.length) := fun hbad => h ⟨t, f, scale, hwritten, hfit, hbad⟩
      simp only [not_or, not_and, not_le, ne_eq, not_not] at hgood
      obtain ⟨hsign, hunit, hlength⟩ := hgood
      obtain ⟨sign, f⟩ := f
      dsimp only at hsign
      subst hsign
      have htext : (IntText.mk .none f).text = f.chars := rfl
      have hval : (IntText.mk .none f).value = f.value := rfl
      rw [htext, hval] at *
      rw [Nat.mod_eq_of_lt hlength] at hvalue
      have htrunc := Decimal.truncate_parts (d := Decimal.ofParts t f) hscale.le hunit
      refine ⟨Decimal.ofParts t f, scale, hwritten, hvalue.symm.trans htrunc.symm, ?_⟩
      have hdenom := hfit.denom
      have hsum := hfit.sum
      rw [Nat.mod_eq_of_lt hlength] at hdenom hsum
      exact ⟨hfit.whole, hfit.scaled, hfit.frac, hdenom, hfit.fracScaled, htrunc ▸ hsum⟩
  · intro d scale hwritten hfits
    rw [hparse, parse_written htable (Decimal.numberText d) hwritten]
    obtain ⟨pre, post, suf, hmem, -⟩ := hwritten
    exact Decimal.parse_of_fits (htable.positive _ hmem).le hfits

/-- **Exactly the misread texts are not read faithfully.** -/
theorem faithful_iff (htable : Decisive table) (hparse : ∀ q, parse q = parseScaledDecimal q.toList table)
    (q : String) : Faithful table parse q ↔ ¬ Misread table q.toList :=
  ⟨not_misread_of_faithful htable hparse, faithful_of_not_misread htable hparse⟩

end Faithful

/-- **Both parsers of quantities read a text faithfully exactly when it is not misread.** -/
theorem quantities_faithful_iff (q : String) :
    (Faithful cpuSuffixes parseCpuQuantity q ↔ ¬ Misread cpuSuffixes q.toList) ∧
      (Faithful memorySuffixes parseMemoryQuantity q ↔ ¬ Misread memorySuffixes q.toList) :=
  ⟨faithful_iff decisive_cpuSuffixes (fun _ => rfl) q, faithful_iff decisive_memorySuffixes (fun _ => rfl) q⟩

/-- `1.-5` is no decimal number, and `-1.5` is not `-0.5`: the one is read as 0.95 cores, the other as half a core
less than none. -/
theorem signed_fraction_misread :
    parseCpuQuantity "1.-5" = some 950000000 ∧ ¬ Faithful cpuSuffixes parseCpuQuantity "1.-5" ∧
      parseCpuQuantity "-1.5" = some (-500000000) ∧ ¬ Faithful cpuSuffixes parseCpuQuantity "-1.5" := by
  refine ⟨by decide, fun h => ?_, by decide, fun h => ?_⟩
  · exact not_misread_of_faithful decisive_cpuSuffixes (fun _ => rfl) h ⟨⟨.none, ['1'], by simp, by simp⟩,
      ⟨.minus, ['5'], by simp, by simp⟩, 1000000000, ⟨[], [], [], by decide, by simp [Blank], by simp [Blank],
        by decide⟩, ⟨by decide, by decide, by decide, by decide, by decide, by decide⟩, .inl (by decide)⟩
  · exact not_misread_of_faithful decisive_cpuSuffixes (fun _ => rfl) h ⟨⟨.minus, ['1'], by simp, by simp⟩,
      ⟨.none, ['5'], by simp, by simp⟩, 1000000000, ⟨[], [], [], by decide, by simp [Blank], by simp [Blank],
        by decide⟩, ⟨by decide, by decide, by decide, by decide, by decide, by decide⟩, .inr (.inl ⟨rfl, by decide⟩)⟩

end Quantity
end HubAgent
