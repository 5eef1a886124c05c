import Mathlib.Data.Rat.Floor
import Mathlib.Tactic.FieldSimp
import Mathlib.Tactic.Positivity
import HubAgent.Lib.RustStr
/-!
# Decimal numerals

A numeral is text of a given form, so it carries what makes it one: `Digits` are one or more ASCII digits, an `IntText`
has a sign before them, a `Decimal` also a fraction behind a point.  `str::parse` at a signed type reads exactly the
`IntText`s of its range (`parseInt_eq_some_iff`).  The value of a `Decimal` is a rational number; scaled and truncated
toward zero it is what the two parts give in integers (`truncate_scaled`).
-/
namespace Numeral

open RustStr (digitsValue isWhitespace trimChars)

/-- One or more ASCII digits. -/
structure Digits where
  chars : List Char
  ne_nil : chars ≠ []
  digits : ∀ c ∈ chars, c.isDigit = true

def Digits.value (d : Digits) : Nat := digitsValue d.chars

inductive Sign where
  | none
  | plus
  | minus
  deriving DecidableEq, Repr

namespace Sign

def text : Sign → List Char
  | .none => []
  | .plus => ['+']
  | .minus => ['-']

def apply (s : Sign) (n : Int) : Int :=
  match s with
  | .minus => -n
  | _ => n

@[simp] theorem apply_none (n : Int) : Sign.none.apply n = n := rfl
@[simp] theorem apply_plus (n : Int) : Sign.plus.apply n = n := rfl
@[simp] theorem apply_minus (n : Int) : Sign.minus.apply n = -n := rfl

end Sign

/-- What a signed number is written as. -/
structure IntText where
  sign : Sign
  digits : Digits

namespace IntText

def text (t : IntText) : List Char := t.sign.text ++ t.digits.chars

def value (t : IntText) : Int := t.sign.apply t.digits.value

end IntText

/-- An optionally signed decimal number: digits, and perhaps a point with any number of digits behind it. -/
structure Decimal where
  sign : Sign
  whole : Digits
  frac : Option (List Char)
  frac_digits : ∀ f ∈ frac, ∀ c ∈ f, c.isDigit = true

namespace Decimal

def text (d : Decimal) : List Char :=
  d.sign.text ++ d.whole.chars ++
    match d.frac with
    | .none => []
    | some f => '.' :: f

/-- The digits behind the point. -/
def fracChars (d : Decimal) : List Char := d.frac.getD []

def fracValue (d : Decimal) : Nat := digitsValue d.fracChars

/-- The number without its sign. -/
def magnitude (d : Decimal) : ℚ := d.whole.value + d.fracValue / 10 ^ d.fracChars.length

def value (d : Decimal) : ℚ :=
  match d.sign with
  | .minus => -d.magnitude
  | _ => d.magnitude

end Decimal

/-! ## Digits -/

theorem Digits.head_isDigit (d : Digits) : ∃ c cs, d.chars = c :: cs ∧ c.isDigit = true := by
  cases h : d.chars with
  | nil => exact absurd h d.ne_nil
  | cons c cs => exact ⟨c, cs, rfl, d.digits c (by rw [h]; exact List.mem_cons_self)⟩

theorem Digits.ext {d d' : Digits} (h : d.chars = d'.chars) : d = d' := by
  cases d
  cases d'
  cases h
  rfl

/-- A text is digits exactly when `parseDigits` reads it. -/
theorem parseDigits_eq_some_iff {l : List Char} {n : Nat} :
    RustStr.parseDigits l = some n ↔ ∃ d : Digits, d.chars = l ∧ d.value = n := by
  unfold RustStr.parseDigits
  constructor
  · intro h
    split_ifs at h with hl
    obtain ⟨hne, hall⟩ := hl
    exact ⟨⟨l, hne, List.all_eq_true.1 hall⟩, rfl, Option.some.inj h⟩
  · rintro ⟨d, rfl, rfl⟩
    rw [if_pos ⟨d.ne_nil, List.all_eq_true.2 d.digits⟩]
    rfl

/-! ## Signed numbers -/

theorem isDigit_ne_sign {c : Char} (h : c.isDigit = true) : c ≠ '+' ∧ c ≠ '-' := by
  constructor <;> rintro rfl <;> exact absurd h (by decide)

theorem Sign.text_append_digits_inj {s s' : Sign} {d d' : Digits} (h : s.text ++ d.chars = s'.text ++ d'.chars) :
    s = s' ∧ d = d' := by
  obtain ⟨c, cs, hd, hc⟩ := d.head_isDigit
  obtain ⟨c', cs', hd', hc'⟩ := d'.head_isDigit
  have hne := isDigit_ne_sign hc
  have hne' := isDigit_ne_sign hc'
  have hsign : s = s' := by
    have hhead := congrArg List.head? h
    rw [hd, hd'] at hhead
    cases s <;> cases s' <;>
      simp only [Sign.text, List.nil_append, List.cons_append, List.head?_cons, Option.some.injEq] at hhead
    case none.none | plus.plus | minus.minus => rfl
    case none.plus => exact absurd hhead hne.1
    case none.minus => exact absurd hhead hne.2
    case plus.none => exact absurd hhead.symm hne'.1
    case minus.none => exact absurd hhead.symm hne'.2
    all_goals exact absurd hhead (by decide)
  subst hsign
  exact ⟨rfl, Digits.ext (List.append_cancel_left h)⟩

theorem IntText.text_injective {t t' : IntText} (h : t.text = t'.text) : t = t' := by
  obtain ⟨hs, hd⟩ := Sign.text_append_digits_inj h
  cases t
  cases t'
  cases hs
  cases hd
  rfl

/-- The part of `str::parse` behind the sign. -/
def parseSigned (lo hi : Int) (sign : Sign) (ds : List Char) : Option Int :=
  (RustStr.parseDigits ds).bind (fun n => if lo ≤ sign.apply n ∧ sign.apply n ≤ hi then some (sign.apply n) else none)

theorem parseInt_cases (lo hi : Int) (l : List Char) :
    ∃ sign ds, l = sign.text ++ ds ∧ RustStr.parseInt lo hi l = parseSigned lo hi sign ds := by
  unfold RustStr.parseInt parseSigned
  split
  · rename_i ds
    refine ⟨.plus, ds, rfl, ?_⟩
    cases RustStr.parseDigits ds <;> rfl
  · rename_i ds
    refine ⟨.minus, ds, rfl, ?_⟩
    cases RustStr.parseDigits ds <;> rfl
  · refine ⟨.none, l, rfl, ?_⟩
    cases RustStr.parseDigits l <;> rfl

theorem parseInt_text (lo hi : Int) (t : IntText) :
    RustStr.parseInt lo hi t.text = if lo ≤ t.value ∧ t.value ≤ hi then some t.value else none := by
  have hdigits : RustStr.parseDigits t.digits.chars = some t.digits.value := parseDigits_eq_some_iff.2 ⟨_, rfl, rfl⟩
  obtain ⟨c, cs, hd, hc⟩ := t.digits.head_isDigit
  have hne := isDigit_ne_sign hc
  unfold IntText.text IntText.value RustStr.parseInt
  cases t.sign with
  | plus =>
    simp only [Sign.text, List.singleton_append, hdigits]
    rfl
  | minus =>
    simp only [Sign.text, List.singleton_append, hdigits]
    rfl
  | none =>
    rw [Sign.text, List.nil_append]
    split
    · rename_i ds heq
      rw [hd] at heq
      exact absurd (List.cons.inj heq).1 hne.1
    · rename_i ds heq
      rw [hd] at heq
      exact absurd (List.cons.inj heq).1 hne.2
    · rw [hdigits]
      rfl

/-- **`str::parse` at a signed type** reads the numbers of its range, and nothing else. -/
theorem parseInt_eq_some_iff {lo hi n : Int} {l : List Char} :
    RustStr.parseInt lo hi l = some n ↔ ∃ t : IntText, t.text = l ∧ t.value = n ∧ lo ≤ n ∧ n ≤ hi := by
  constructor
  · intro h
    obtain ⟨sign, ds, rfl, hread⟩ := parseInt_cases lo hi l
    rw [hread, parseSigned, Option.bind_eq_some_iff] at h
    obtain ⟨m, hm, hrange⟩ := h
    obtain ⟨d, rfl, rfl⟩ := parseDigits_eq_some_iff.1 hm
    split_ifs at hrange with hfits
    cases hrange
    exact ⟨⟨sign, d⟩, rfl, rfl, hfits⟩
  · rintro ⟨t, rfl, rfl, hrange⟩
    rw [parseInt_text, if_pos hrange]

/-! ## The text of a number -/

theorem ofDigitChars_eq_digitsValue (l : List Char) : Nat.ofDigitChars 10 l 0 = digitsValue l := by
  rw [Nat.ofDigitChars_eq_foldl]
  unfold digitsValue
  simp only [Nat.mul_comm]

/-- The decimal digits of a number. -/
def Digits.ofNat (n : Nat) : Digits where
  chars := Nat.toDigits 10 n
  ne_nil := Nat.toDigits_ne_nil
  digits _ hc := Nat.isDigit_of_mem_toDigits (by decide) (by decide) hc

def IntText.ofNat (n : Nat) : IntText := ⟨.none, .ofNat n⟩

theorem IntText.text_ofNat (n : Nat) : (IntText.ofNat n).text = n.repr.toList := (Nat.toList_repr).symm

theorem IntText.value_ofNat (n : Nat) : (IntText.ofNat n).value = n := by
  have hvalue : digitsValue (Nat.toDigits 10 n) = n := by
    rw [← ofDigitChars_eq_digitsValue]
    exact Nat.ofDigitChars_toDigits (by decide) (by decide)
  exact congrArg Int.ofNat hvalue

/-! ## Truncated values -/

/-- Toward zero. -/
def truncate (x : ℚ) : Int := if 0 ≤ x then ⌊x⌋ else ⌈x⌉

theorem truncate_of_nonneg {x : ℚ} (h : 0 ≤ x) : truncate x = ⌊x⌋ := if_pos h

theorem truncate_neg {x : ℚ} (h : 0 ≤ x) : truncate (-x) = -⌊x⌋ := by
  unfold truncate
  by_cases hx : x = 0
  · subst hx
    simp
  · have hpos : 0 < x := lt_of_le_of_ne h (Ne.symm hx)
    rw [if_neg (by linarith), Int.ceil_neg]

theorem truncate_mono {x y : ℚ} (hx : 0 ≤ x) (hy : x ≤ y) : truncate x ≤ truncate y := by
  rw [truncate_of_nonneg hx, truncate_of_nonneg (hx.trans hy)]
  exact Int.floor_le_floor hy

namespace Decimal

variable (d : Decimal)

theorem magnitude_nonneg : 0 ≤ d.magnitude := by
  unfold magnitude
  positivity

theorem floor_magnitude_mul (scale : Int) :
    ⌊d.magnitude * scale⌋ = d.whole.value * scale + d.fracValue * scale / 10 ^ d.fracChars.length := by
  have hpow : (10 : ℚ) ^ d.fracChars.length ≠ 0 := by positivity
  have hsum : d.magnitude * scale =
      ((d.fracValue * scale + d.whole.value * scale * (10 ^ d.fracChars.length : Nat) : Int) : ℚ) /
        ((10 ^ d.fracChars.length : Nat) : ℚ) := by
    unfold magnitude
    push_cast
    field_simp
    ring
  have hne : ((10 ^ d.fracChars.length : Nat) : Int) ≠ 0 := by positivity
  rw [hsum, Rat.floor_intCast_div_natCast, Int.add_mul_ediv_right _ _ hne]
  push_cast
  ring

/-- **The scaled value, truncated**, is what the two parts give in integers. -/
theorem truncate_scaled {scale : Int} (hscale : 0 ≤ scale) :
    truncate (d.value * scale) =
      d.sign.apply (d.whole.value * scale + d.fracValue * scale / 10 ^ d.fracChars.length) := by
  have hnonneg : 0 ≤ d.magnitude * scale := mul_nonneg d.magnitude_nonneg (Int.cast_nonneg hscale)
  unfold value
  cases d.sign with
  | minus =>
    dsimp only
    rw [neg_mul, truncate_neg hnonneg, floor_magnitude_mul]
    rfl
  | plus => exact (truncate_of_nonneg hnonneg).trans (d.floor_magnitude_mul scale)
  | none => exact (truncate_of_nonneg hnonneg).trans (d.floor_magnitude_mul scale)

end Decimal

end Numeral
