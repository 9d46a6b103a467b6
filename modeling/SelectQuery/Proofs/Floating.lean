import Mathlib.Tactic.FieldSimp
import Mathlib.Tactic.Ring
import SelectQuery.Number.Binary

/-!
Bit patterns of floating-point numbers and the rational numbers that they denote.

The program keeps a finite number as a whole multiple of a power of two. `Layout.number` says what a
pattern denotes from its layout alone: one digit in front of the point, which is the one that is not
written, the fraction behind it, and the exponent less its bias.

What is proved:
  1. `Binary64.toRat_value`, `Binary32.toRat_value`: the program's multiple is this number, and only
     the infinities and NaNs are none (`Binary64.number_eq_none_iff`).
  2. `Binary32.toRat_widen`: a number of 32 bits is the same number in 64 bits.
-/

namespace SelectQuery.Number

/-! ## Layouts -/

/-- How many bits of a pattern are exponent and how many are fraction. The sign is one bit more, in
front of them. -/
structure Layout where
  exponentBits : ℕ
  fractionBits : ℕ

namespace Layout

def binary64 : Layout := ⟨11, 52⟩

def binary32 : Layout := ⟨8, 23⟩

variable (l : Layout)

/-- The exponent of infinities and NaNs, in which all bits are set. -/
def top : ℕ := 2 ^ l.exponentBits - 1

/-- The exponent of the numbers from one to two. -/
def bias : ℤ := 2 ^ (l.exponentBits - 1) - 1

def isNegative (pattern : ℕ) : Bool := pattern.testBit (l.exponentBits + l.fractionBits)

def exponent (pattern : ℕ) : ℕ := pattern / 2 ^ l.fractionBits % 2 ^ l.exponentBits

def fraction (pattern : ℕ) : ℕ := pattern % 2 ^ l.fractionBits

/-- The number that a pattern denotes: `± 1.fraction * 2 ^ (exponent - bias)`, or with the exponent
zero `± 0.fraction * 2 ^ (1 - bias)`. -/
def number (pattern : ℕ) : Option ℚ :=
  let sign : ℚ := if l.isNegative pattern then -1 else 1
  let behindPoint : ℚ := l.fraction pattern / 2 ^ l.fractionBits
  if l.exponent pattern = l.top then none
  else if l.exponent pattern = 0 then some (sign * behindPoint * 2 ^ (1 - l.bias))
  else some (sign * (1 + behindPoint) * 2 ^ (l.exponent pattern - l.bias))

/-- The sign is the first bit. -/
theorem isNegative_eq {pattern : ℕ} (h : pattern < 2 ^ (l.exponentBits + l.fractionBits + 1)) :
    l.isNegative pattern = decide (2 ^ (l.exponentBits + l.fractionBits) ≤ pattern) := by
  by_cases set : 2 ^ (l.exponentBits + l.fractionBits) ≤ pattern
  · rw [isNegative, Nat.testBit_of_two_pow_le_and_two_pow_add_one_gt set h, decide_eq_true set]
  · rw [isNegative, Nat.testBit_lt_two_pow (not_le.1 set), decide_eq_false set]

theorem number_eq_none_iff {pattern : ℕ} : l.number pattern = none ↔ l.exponent pattern = l.top := by
  rw [number]
  by_cases top : l.exponent pattern = l.top
  · rw [if_pos top]
    exact iff_of_true rfl top
  · rw [if_neg top]
    refine iff_of_false ?_ top
    split <;> exact Option.some_ne_none _

end Layout

/-! ## Values -/

namespace Floating

/-- The rational number that a finite value is. -/
def toRat? : Floating → Option ℚ
  | .finite negative m q => some ((if negative then -1 else 1) * (m * 2 ^ q))
  | _ => none

section Fields

variable {top width exponent fraction : ℕ} {least : ℤ} {negative : Bool}

theorem ofFields_eq_nan_iff :
    ofFields top width least negative exponent fraction = .nan ↔ exponent = top ∧ fraction ≠ 0 := by
  rw [ofFields]
  by_cases largest : exponent = top
  · by_cases zero : fraction = 0 <;> simp [largest, zero]
  · rw [if_neg largest]
    split <;> simp [largest]

theorem ofFields_eq_infinite_iff :
    ofFields top width least negative exponent fraction = .infinite negative ↔
      exponent = top ∧ fraction = 0 := by
  rw [ofFields]
  by_cases largest : exponent = top
  · by_cases zero : fraction = 0 <;> simp [largest, zero]
  · rw [if_neg largest]
    split <;> simp [largest]

end Fields

/-- A factor of two may stand in the significand or in the exponent. -/
theorem toRat_shift (negative : Bool) (m k : ℕ) (q : ℤ) :
    (finite negative (m * 2 ^ k) q).toRat? = (finite negative m (q + k)).toRat? := by
  rw [toRat?, toRat?, zpow_add₀ two_ne_zero, zpow_natCast, Nat.cast_mul, Nat.cast_pow,
    Nat.cast_ofNat]
  congr 2
  ring

/-- The value of the fields of a pattern is the number that it denotes. -/
theorem toRat_ofFields (l : Layout) (n : ℕ) :
    (ofFields l.top l.fractionBits (1 - l.bias - l.fractionBits) (l.isNegative n) (l.exponent n)
      (l.fraction n)).toRat? = l.number n := by
  rw [ofFields, Layout.number, Nat.one_shiftLeft]
  by_cases top : l.exponent n = l.top
  · rw [if_pos top, if_pos top]
    split <;> rfl
  rw [if_neg top, if_neg top]
  by_cases zero : l.exponent n = 0
  · rw [if_pos zero, if_pos zero, toRat?, zpow_sub₀ two_ne_zero, zpow_natCast]
    congr 1
    ring
  · have exponent : 1 - l.bias - l.fractionBits + (l.exponent n - 1 : ℕ) =
        l.exponent n - l.bias - l.fractionBits := by omega
    rw [if_neg zero, if_neg zero, toRat?, exponent, zpow_sub₀ two_ne_zero, zpow_natCast]
    congr 1
    push_cast
    field_simp

end Floating

/-! ## 64 bits -/

namespace Binary64

variable (x : Binary64)

/-- The number that the bits denote. -/
def number : Option ℚ := Layout.binary64.number x.bits.toNat

/-- The fields of the bits are those of the layout. -/
theorem value_eq : x.value = .ofFields 2047 52 (-1074) x.isNegative
    (Layout.binary64.exponent x.bits.toNat) (Layout.binary64.fraction x.bits.toNat) := by
  rw [value, Nat.shiftRight_eq_div_pow]
  rfl

theorem toRat_value : x.value.toRat? = x.number := by
  rw [number, ← Floating.toRat_ofFields, Layout.isNegative_eq _ x.bits.toNat_lt, value_eq]
  rfl

/-- The largest exponent belongs to the NaNs and the infinities, and the fraction tells them apart. -/
theorem isNaN_iff : x.isNaN ↔ Layout.binary64.exponent x.bits.toNat = Layout.binary64.top ∧
    Layout.binary64.fraction x.bits.toNat ≠ 0 := by
  rw [isNaN, decide_eq_true_iff, value_eq]
  exact Floating.ofFields_eq_nan_iff

theorem isInfinite_iff : x.isInfinite ↔
    Layout.binary64.exponent x.bits.toNat = Layout.binary64.top ∧
      Layout.binary64.fraction x.bits.toNat = 0 := by
  rw [isInfinite, decide_eq_true_iff, value_eq]
  exact Floating.ofFields_eq_infinite_iff

theorem number_eq_none_iff : x.number = none ↔ x.isNaN ∨ x.isInfinite := by
  rw [number, Layout.number_eq_none_iff, isNaN_iff, isInfinite_iff, ← and_or_left]
  exact (and_iff_left (ne_or_eq _ _)).symm

theorem value_ofFields (negative : Bool) {exponent fraction : ℕ} (he : exponent < 2 ^ 11)
    (hf : fraction < 2 ^ 52) : (ofFields negative exponent fraction).value =
      .ofFields 2047 52 (-1074) negative exponent fraction := by
  have top : (if negative then 2 ^ 63 else 0) + exponent * 2 ^ 52 + fraction < 2 ^ 64 := by
    split <;> omega
  have bits : (ofFields negative exponent fraction).bits.toNat =
      (if negative then 2 ^ 63 else 0) + exponent * 2 ^ 52 + fraction := by
    simp only [ofFields, Nat.shiftLeft_eq, Nat.one_mul]
    exact UInt64.toNat_ofNat_of_lt' top
  have sign : (ofFields negative exponent fraction).isNegative = negative := by
    rw [isNegative, bits]
    cases negative <;> simp <;> omega
  have exponent_bits : Layout.binary64.exponent (ofFields negative exponent fraction).bits.toNat =
      exponent := by
    rw [bits, Layout.exponent, Layout.binary64]
    cases negative <;> simp <;> omega
  have fraction_bits : Layout.binary64.fraction (ofFields negative exponent fraction).bits.toNat =
      fraction := by
    rw [bits, Layout.fraction, Layout.binary64]
    cases negative <;> simp <;> omega
  rw [value_eq, sign, exponent_bits, fraction_bits]

theorem value_ofFields_normal (negative : Bool) {exponent fraction : ℕ} (nonzero : 0 < exponent)
    (small : exponent < 2047) (hf : fraction < 2 ^ 52) :
    (ofFields negative exponent fraction).value =
      .finite negative (2 ^ 52 + fraction) (exponent - 1075) := by
  have least : (-1074 + (exponent - 1 : ℕ) : ℤ) = exponent - 1075 := by omega
  rw [value_ofFields negative (by omega) hf, Floating.ofFields, if_neg small.ne, if_neg nonzero.ne',
    least, Nat.one_shiftLeft]

end Binary64

/-! ## 32 bits -/

namespace Binary32

variable (x : Binary32)

/-- The number that the bits denote. -/
def number : Option ℚ := Layout.binary32.number x.bits.toNat

theorem toRat_value : x.value.toRat? = x.number := by
  rw [number, ← Floating.toRat_ofFields, Layout.isNegative_eq _ x.bits.toNat_lt, value, exponent,
    Nat.shiftRight_eq_div_pow]
  rfl

theorem exponent_lt : x.exponent < 2 ^ 8 := Nat.mod_lt _ (by decide)

theorem fraction_lt : x.fraction < 2 ^ 23 := Nat.mod_lt _ (by decide)

/-- A number that is shifted until its first bit is bit `width`. -/
theorem shift_bounds {m width : ℕ} (nonzero : m ≠ 0) (h : m.log2 ≤ width) :
    2 ^ width ≤ m * 2 ^ (width - m.log2) ∧ m * 2 ^ (width - m.log2) < 2 ^ (width + 1) := by
  have first : 2 ^ m.log2 ≤ m := Nat.log2_self_le nonzero
  have last : m < 2 ^ (m.log2 + 1) := Nat.lt_log2_self
  constructor
  · calc 2 ^ width = 2 ^ m.log2 * 2 ^ (width - m.log2) := by rw [← Nat.pow_add]; congr 1; omega
      _ ≤ m * 2 ^ (width - m.log2) := Nat.mul_le_mul_right _ first
  · calc m * 2 ^ (width - m.log2) < 2 ^ (m.log2 + 1) * 2 ^ (width - m.log2) :=
          Nat.mul_lt_mul_of_pos_right last (Nat.two_pow_pos _)
      _ = 2 ^ (width + 1) := by rw [← Nat.pow_add]; congr 1; omega

/-- An infinity stays this infinity, and a NaN a NaN. -/
theorem value_widen_of_top (top : x.exponent = 255) : x.widen.value = x.value := by
  have hf := x.fraction_lt
  have zero : x.fraction * 2 ^ 29 = 0 ↔ x.fraction = 0 := by omega
  rw [widen, if_pos top, Nat.shiftLeft_eq, Binary64.value_ofFields _ (by decide) (by omega), value, Floating.ofFields,
    Floating.ofFields, if_pos rfl, if_pos top]
  simp only [zero]

/-- A number of 32 bits is the same number in 64 bits. -/
theorem toRat_widen : x.widen.value.toRat? = x.value.toRat? := by
  have he := x.exponent_lt
  have hf := x.fraction_lt
  by_cases top : x.exponent = 255
  · rw [x.value_widen_of_top top]
  fun_cases widen x with
  | case1 top' => exact absurd top' top
  | case2 other zero none =>
    rw [Binary64.value_ofFields _ (Nat.two_pow_pos 11) (Nat.two_pow_pos 52), value, zero, none]
    simp [Floating.ofFields, Floating.toRat?]
  | case3 other zero nonzero k =>
    -- The first bit of the fraction becomes the digit in front of the point.
    have small : k < 23 := (Nat.log2_lt nonzero).2 hf
    rw [Nat.shiftLeft_eq, Nat.one_shiftLeft]
    obtain ⟨low, high⟩ : 2 ^ 52 ≤ x.fraction * 2 ^ (52 - k) ∧ x.fraction * 2 ^ (52 - k) < 2 ^ 53 :=
      shift_bounds nonzero (by omega)
    have exponent : ((874 + k : ℕ) - 1075 + (52 - k : ℕ) : ℤ) = -149 := by omega
    rw [Binary64.value_ofFields_normal _ (by omega) (by omega) (by omega), Nat.add_sub_cancel' low,
      Floating.toRat_shift, exponent, value, Floating.ofFields, if_neg other, if_pos zero]
  | case4 other nonzero =>
    rw [Nat.shiftLeft_eq]
    have significand : 2 ^ 52 + x.fraction * 2 ^ 29 = (2 ^ 23 + x.fraction) * 2 ^ 29 := by omega
    have exponent : ((x.exponent + 896 : ℕ) - 1075 + (29 : ℕ) : ℤ) = -149 + (x.exponent - 1 : ℕ) := by
      omega
    rw [Binary64.value_ofFields_normal _ (by omega) (by omega) (by omega), significand,
      Floating.toRat_shift, exponent, value, Floating.ofFields, if_neg other, if_neg nonzero,
      Nat.one_shiftLeft]

end Binary32

end SelectQuery.Number
