import Mathlib.Data.Rat.Floor
import SelectQuery.Proofs.Count.InPlace
import SelectQuery.Proofs.Floating

/-!
Counts that are read from floating-point numbers, compared with the rational numbers that these are.

What is proved:
  1. `ofFloating_eq`: shifting the significand left or right and then bounding it gives the number
     without its fraction, or the count nearest to it.
  2. `ofFloating_exact`: so for every pattern of 64 bits, whose reading therefore keeps the order and
     takes integers as they are, and for every pattern of 32 bits.
-/

namespace SelectQuery.Count

open Number

/-! ## Rational numbers as counts -/

/-- A number without its fraction: of the integers between zero and it, the one nearest to it. -/
def truncate (r : ℚ) : ℤ := if 0 ≤ r then ⌊r⌋ else ⌈r⌉

def clamp (n : ℤ) : ℤ := max (-2 ^ 63) (min (2 ^ 63 - 1) n)

theorem truncate_neg (r : ℚ) : truncate (-r) = -truncate r := by
  rcases lt_trichotomy r 0 with negative | rfl | positive
  · rw [truncate, truncate, if_pos (neg_nonneg.2 negative.le), if_neg negative.not_ge,
      Int.floor_neg]
  · simp [truncate]
  · rw [truncate, truncate, if_neg (neg_lt_zero.2 positive).not_ge, if_pos positive.le,
      Int.ceil_neg]

theorem truncate_intCast (n : ℤ) : truncate n = n := by
  rw [truncate, Int.floor_intCast, Int.ceil_intCast, ite_self]

theorem truncate_mono {r s : ℚ} (le : r ≤ s) : truncate r ≤ truncate s := by
  rw [truncate, truncate]
  by_cases hr : 0 ≤ r
  · rw [if_pos hr, if_pos (hr.trans le)]
    exact Int.floor_mono le
  by_cases hs : 0 ≤ s
  · rw [if_neg hr, if_pos hs]
    calc ⌈r⌉ ≤ 0 := Int.ceil_nonpos.2 (not_le.1 hr).le
      _ ≤ ⌊s⌋ := Int.floor_nonneg.2 hs
  · rw [if_neg hr, if_neg hs]
    exact Int.ceil_mono le

theorem clamp_mono {m n : ℤ} (le : m ≤ n) : clamp m ≤ clamp n := by
  rw [clamp, clamp]
  omega

theorem clamp_eq_self {n : ℤ} (low : -2 ^ 63 ≤ n) (high : n < 2 ^ 63) : clamp n = n := by
  rw [clamp]
  omega

theorem saturate_eq (n : ℤ) : saturate n = .ofInt (clamp n) := by
  rw [saturate, clamp, toInt_bounds.1, toInt_bounds.2]

theorem toInt_saturate (n : ℤ) : (saturate n).toInt = clamp n := by
  rw [saturate_eq]
  exact Int64.toInt_ofInt_of_le (le_max_left _ _) (by rw [clamp]; omega)

/-! ## The program's reading -/

/-- A multiple of a power of two without its fraction, by one shift left and one shift right of which
at least one is by zero bits. -/
theorem truncate_shift (m : ℕ) (q : ℤ) :
    truncate (m * 2 ^ q) = (m * 2 ^ q.toNat / 2 ^ (-q).toNat : ℕ) := by
  have power : (2 : ℚ) ^ q = 2 ^ q.toNat / 2 ^ (-q).toNat := by
    conv_lhs => rw [← Int.toNat_sub_toNat_neg q]
    rw [zpow_sub₀ two_ne_zero, zpow_natCast, zpow_natCast]
  have ratio : (m * 2 ^ q : ℚ) = (m * 2 ^ q.toNat : ℕ) / (2 ^ (-q).toNat : ℕ) := by
    rw [power]
    push_cast
    ring
  rw [truncate, ratio, if_pos (by positivity), Rat.floor_natCast_div_natCast]
  push_cast
  rfl

theorem ofFloating_eq (x : Floating) :
    ofFloating? x = x.toRat?.map fun r => saturate (truncate r) := by
  cases x with
  | nan => rfl
  | infinite _ => rfl
  | finite negative m q =>
    rw [ofFloating?, Nat.shiftRight_eq_div_pow, Nat.shiftLeft_eq, Floating.toRat?, Option.map_some,
      Option.some_inj]
    cases negative with
    | false => rw [if_neg Bool.false_ne_true, if_neg Bool.false_ne_true, one_mul, truncate_shift]
    | true => rw [if_pos rfl, if_pos rfl, neg_one_mul, truncate_neg, truncate_shift]

theorem ofFloating_value (x : Binary64) :
    ofFloating? x.value = x.number.map fun r => saturate (truncate r) := by
  rw [ofFloating_eq, x.toRat_value]

/-- A pattern of 64 bits is no count exactly if it is a NaN or an infinity. In all other cases the
count is the number that the pattern denotes, without its fraction, or the count nearest to that. So
the larger number gives no smaller count, and an integer that is a count is read as the integer is. A
pattern of 32 bits denotes the same number as its widening and gives the same count. -/
theorem ofFloating_exact :
    (∀ x : Binary64, ofFloating? x.value = none ↔ x.isNaN ∨ x.isInfinite) ∧
    (∀ x : Binary64,
      (ofFloating? x.value).map Int64.toInt = x.number.map fun r => clamp (truncate r)) ∧
    (∀ (x y : Binary64) (r s : ℚ), x.number = some r → y.number = some s → r ≤ s →
      ∃ k l, ofFloating? x.value = some k ∧ ofFloating? y.value = some l ∧ k ≤ l) ∧
    (∀ (x : Binary64) (n : ℤ), x.number = some (n : ℚ) → -2 ^ 63 ≤ n → n < 2 ^ 63 →
      ofFloating? x.value = ofInt? n) ∧
    ∀ x : Binary32, x.widen.number = x.number ∧ ofFloating? x.value = ofFloating? x.widen.value := by
  refine ⟨fun x => ?_, fun x => ?_, fun x y r s hx hy le => ?_, fun x n hx low high => ?_,
    fun x => ⟨?_, ?_⟩⟩
  · rw [ofFloating_value, Option.map_eq_none_iff, x.number_eq_none_iff]
  · rw [ofFloating_value, Option.map_map]
    congr 1
    funext r
    exact toInt_saturate _
  · refine ⟨saturate (truncate r), saturate (truncate s), ?_, ?_, ?_⟩
    · rw [ofFloating_value, hx, Option.map_some]
    · rw [ofFloating_value, hy, Option.map_some]
    · rw [Int64.le_iff_toInt_le, toInt_saturate, toInt_saturate]
      exact clamp_mono (truncate_mono le)
  · rw [ofFloating_value, hx, Option.map_some, truncate_intCast, saturate_eq,
      clamp_eq_self low high, ofInt_eq, if_pos ⟨low, high⟩]
  · rw [← Binary64.toRat_value, x.toRat_widen, x.toRat_value]
  · rw [ofFloating_eq, ofFloating_eq, x.toRat_widen]

/-- 3.9, minus one half, a number beyond all counts, the smallest count, and an infinity. -/
example : [0x400f333333333333, 0xbfe0000000000000, 0x43e0000000000000, 0xc3e0000000000000,
    0x7ff0000000000000].map (fun bits => ofFloating? (Binary64.mk bits).value) =
    [some 3, some 0, some Int64.maxValue, some Int64.minValue, none] := by
  decide +kernel

end SelectQuery.Count
