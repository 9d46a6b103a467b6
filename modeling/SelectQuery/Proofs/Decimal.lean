import Mathlib.Data.Nat.Digits.Defs
import SelectQuery.Number.Digits

/-!
Decimal digits and the numbers that they denote, read from the front as a program reads them and
place by place as a reader does.

What is proved:
  1. `ofDigits_eq_placeValue`: both ways give the same number.
  2. `ofDigits_zeros`: zeros in front do not change it.
  3. `lt_iff_ofDigits_lt`: of as many digits the smaller number comes first in the dictionary.
  4. `padded_lt_iff`, `padded_append_lt_iff`: so numbers that are padded to one width are in the same
     order as texts as they are as numbers, alone and in front of other text.
-/

namespace SelectQuery.Number

/-- What one digit counts. -/
def digitValue (c : Char) : ℕ := c.toNat - '0'.toNat

/-- The number that digits denote by their places: the last one counts ones, the one before it tens,
and so on. -/
def placeValue (digits : List Char) : ℕ := Nat.ofDigits 10 (digits.map digitValue).reverse

theorem ofDigits_eq_placeValue (digits : List Char) : ofDigits digits = placeValue digits := by
  rw [placeValue, Nat.ofDigits_eq_foldr, List.foldr_reverse, List.foldl_map, ofDigits]
  congr 1
  funext n c
  exact Nat.add_comm _ _

theorem ofDigits_cons (c : Char) (cs : List Char) :
    ofDigits (c :: cs) = 10 ^ cs.length * digitValue c + ofDigits cs := by
  have front : ofDigits (c :: cs) = Nat.ofDigitChars 10 cs (digitValue c) := by
    rw [Nat.ofDigitChars_eq_foldl, ofDigits, List.foldl_cons, Nat.mul_zero, Nat.zero_add]
    rfl
  rw [front, Nat.ofDigitChars_eq_ofDigitChars_zero]
  rfl

theorem ofDigits_zeros (zeros : ℕ) (digits : List Char) :
    ofDigits (List.replicate zeros '0' ++ digits) = ofDigits digits := by
  induction zeros with
  | zero => rfl
  | succ zeros ih =>
    rw [List.replicate_succ, List.cons_append, ofDigits_cons, ih]
    exact Nat.zero_add _

theorem digitValue_le {c : Char} (h : c.isDigit) : digitValue c ≤ 9 := by
  have range := Char.isDigit_iff_toNat.1 h
  simp only [digitValue, Char.reduceToNat] at range ⊢
  omega

theorem ofDigits_lt {digits : List Char} (h : ∀ c ∈ digits, c.isDigit) :
    ofDigits digits < 10 ^ digits.length := by
  induction digits with
  | nil => exact Nat.one_pos
  | cons c cs ih =>
    obtain ⟨first, later⟩ := List.forall_mem_cons.1 h
    have small : ofDigits cs < 10 ^ cs.length := ih later
    have top : 10 ^ cs.length * digitValue c ≤ 10 ^ cs.length * 9 :=
      Nat.mul_le_mul_left _ (digitValue_le first)
    rw [ofDigits_cons, List.length_cons, Nat.pow_succ]
    omega

/-! ## The order of digits -/

theorem lt_iff_digitValue_lt {c d : Char} (hc : c.isDigit) (hd : d.isDigit) :
    c < d ↔ digitValue c < digitValue d := by
  have low := (Char.isDigit_iff_toNat.1 hc).1
  have low' := (Char.isDigit_iff_toNat.1 hd).1
  have order : c < d ↔ c.toNat < d.toNat := Iff.rfl
  rw [order, digitValue, digitValue]
  omega

theorem eq_iff_digitValue_eq {c d : Char} (hc : c.isDigit) (hd : d.isDigit) :
    c = d ↔ digitValue c = digitValue d := by
  have low := (Char.isDigit_iff_toNat.1 hc).1
  have low' := (Char.isDigit_iff_toNat.1 hd).1
  rw [← Char.toNat_inj, digitValue, digitValue]
  omega

/-- Of as many digits, those that denote the smaller number come first in the dictionary. -/
theorem lt_iff_ofDigits_lt {a b : List Char} (ha : ∀ c ∈ a, c.isDigit) (hb : ∀ c ∈ b, c.isDigit)
    (same : a.length = b.length) : a < b ↔ ofDigits a < ofDigits b := by
  induction a generalizing b with
  | nil =>
    obtain rfl : b = [] := List.length_eq_zero_iff.1 same.symm
    simp
  | cons c cs ih =>
    obtain ⟨d, ds, rfl⟩ := List.exists_cons_of_length_eq_add_one same.symm
    obtain ⟨hc, hcs⟩ := List.forall_mem_cons.1 ha
    obtain ⟨hd, hds⟩ := List.forall_mem_cons.1 hb
    have length : cs.length = ds.length := Nat.succ.inj same
    have small := ofDigits_lt hcs
    have small' := ofDigits_lt hds
    rw [List.cons_lt_cons_iff, ih hcs hds length, lt_iff_digitValue_lt hc hd,
      eq_iff_digitValue_eq hc hd, ofDigits_cons, ofDigits_cons, length]
    rw [length] at small
    -- What the first digits differ by weighs more than all digits behind them.
    rcases lt_trichotomy (digitValue c) (digitValue d) with less | equal | more
    · have step := Nat.mul_le_mul_left (10 ^ ds.length) (Nat.succ_le_of_lt less)
      rw [Nat.mul_succ] at step
      omega
    · rw [equal]
      omega
    · have step := Nat.mul_le_mul_left (10 ^ ds.length) (Nat.succ_le_of_lt more)
      rw [Nat.mul_succ] at step
      omega

/-! ## Padded numbers -/

variable {width m n : ℕ}

theorem isDigit_of_mem_padded {c : Char} (h : c ∈ padded width n) : c.isDigit := by
  rcases List.mem_append.1 h with zero | digit
  · rw [List.eq_of_mem_replicate zero]
    rfl
  · exact Nat.isDigit_of_mem_toDigits (by decide) (by decide) digit

theorem ofDigits_padded (width n : ℕ) : ofDigits (padded width n) = n := by
  rw [padded, ofDigits_zeros, ofDigits_toDigits]

theorem length_padded (positive : 0 < width) (h : n < 10 ^ width) :
    (padded width n).length = width := by
  have fits : (Nat.toDigits 10 n).length ≤ width :=
    (Nat.length_toDigits_le_iff (by decide) positive).2 h
  rw [padded, List.length_append, List.length_replicate]
  omega

theorem padded_inj : padded width m = padded width n ↔ m = n := by
  refine ⟨fun h => ?_, fun h => h ▸ rfl⟩
  rw [← ofDigits_padded width m, h, ofDigits_padded]

theorem padded_lt_iff (positive : 0 < width) (hm : m < 10 ^ width) (hn : n < 10 ^ width) :
    padded width m < padded width n ↔ m < n := by
  have length : (padded width m).length = (padded width n).length := by
    rw [length_padded positive hm, length_padded positive hn]
  rw [lt_iff_ofDigits_lt (fun _ => isDigit_of_mem_padded) (fun _ => isDigit_of_mem_padded) length,
    ofDigits_padded, ofDigits_padded]

/-- Texts of one length in front decide about the order, unless they are the same. -/
theorem append_lt_append_iff {a b : List Char} (same : a.length = b.length) (x y : List Char) :
    a ++ x < b ++ y ↔ a < b ∨ a = b ∧ x < y := by
  induction a generalizing b with
  | nil =>
    obtain rfl : b = [] := List.length_eq_zero_iff.1 same.symm
    simp
  | cons c cs ih =>
    obtain ⟨d, ds, rfl⟩ := List.exists_cons_of_length_eq_add_one same.symm
    rw [List.cons_append, List.cons_append, List.cons_lt_cons_iff, List.cons_lt_cons_iff,
      ih (Nat.succ.inj same), List.cons.injEq]
    tauto

/-- In a layout of padded numbers the first one that differs decides. -/
theorem padded_append_lt_iff (positive : 0 < width) (hm : m < 10 ^ width) (hn : n < 10 ^ width)
    (x y : List Char) :
    padded width m ++ x < padded width n ++ y ↔ m < n ∨ m = n ∧ x < y := by
  have length : (padded width m).length = (padded width n).length := by
    rw [length_padded positive hm, length_padded positive hn]
  rw [append_lt_append_iff length, padded_lt_iff positive hm hn, padded_inj]

end SelectQuery.Number
