import SelectQuery.Number.Binary

/-!
The shortest decimal that reads back as a given binary number: of all decimals nearer to the
number than to its neighbours, one with the fewest digits, and of those the one nearest to the
number, the larger of two at the same distance.
-/

namespace SelectQuery.Number

/-- The number `significand * 10 ^ exponent`. -/
structure Decimal where
  significand : Nat
  exponent : Int
  deriving DecidableEq

namespace Decimal

def digits (d : Decimal) : List Char := Nat.toDigits 10 d.significand

/-- The power of ten of the first digit. -/
def magnitude (d : Decimal) : Int := d.digits.length - 1 + d.exponent

/-- The decimal without an exponent: all digits, and a point only before a fraction. -/
def positional (d : Decimal) : List Char :=
  if 0 ≤ d.exponent then d.digits ++ List.replicate d.exponent.toNat '0'
  else
    let places := (-d.exponent).toNat
    let padded := List.replicate (places + 1 - d.digits.length) '0' ++ d.digits
    let whole := padded.length - places
    padded.take whole ++ '.' :: padded.drop whole

/-- The decimal with one digit before the point and the power of ten after an `e`. -/
def scientific (d : Decimal) : List Char :=
  let mantissa := match d.digits with
    | first :: next :: rest => first :: '.' :: next :: rest
    | digits => digits
  mantissa ++ 'e' :: (toString d.magnitude).toList

/-- The decimal without trailing zeros in its significand. -/
def normalize (d : Decimal) : Decimal :=
  let zeros := (d.digits.reverse.takeWhile (· == '0')).length
  ⟨d.significand / Nat.pow 10 zeros, d.exponent + zeros⟩

end Decimal

/-- The numbers around `m * 2 ^ q` that read back as it, in quarters of `2 ^ q`: from `low` to
`high`, the ends included if `m` is even. Below a power of two the neighbours are half as far. -/
structure Neighbourhood where
  low : Nat
  centre : Nat
  high : Nat
  closed : Bool

def Neighbourhood.of (m : Nat) (q : Int) : Neighbourhood where
  low := if m = 1 <<< 52 && -1074 < q then 4 * m - 1 else 4 * m - 2
  centre := 4 * m
  high := 4 * m + 2
  closed := m % 2 = 0

def Neighbourhood.contains (n : Neighbourhood) (num den : Nat) : Bool :=
  if n.closed then n.low * den ≤ num && num ≤ n.high * den
  else n.low * den < num && num < n.high * den

/-- The multiple of `10 ^ t` next to `m * 2 ^ q` that reads back as it, if there is one. -/
def onGrid? (m : Nat) (q t : Int) : Option Nat :=
  let n := Neighbourhood.of m q
  let unit := Nat.pow 10 t.toNat <<< (2 - q).toNat
  let quarter := Nat.pow 10 (-t).toNat <<< (q - 2).toNat
  let value := n.centre * quarter
  let below := value / unit
  let fitsBelow := n.contains (below * unit) quarter
  let fitsAbove := n.contains ((below + 1) * unit) quarter
  if fitsBelow && fitsAbove then
    if (below + 1) * unit - value ≤ value - below * unit then some (below + 1) else some below
  else if fitsBelow then some below
  else if fitsAbove then some (below + 1)
  else none

/-- The power of ten of the first decimal digit of `num / den`. -/
def leadingPower (num den : Nat) : Int :=
  if den ≤ num then (Nat.toDigits 10 (num / den)).length - 1
  else -(Nat.toDigits 10 (den / num)).length

/-- The shortest decimal of `m * 2 ^ q`; seventeen digits are always enough. -/
def shortest (m : Nat) (q : Int) : Decimal :=
  let top := leadingPower (m <<< q.toNat) (1 <<< (-q).toNat)
  let found := (List.range 17).findSome? fun (n : Nat) =>
    (onGrid? m q (top - n)).map fun d => (⟨d, top - n⟩ : Decimal)
  (found.getD ⟨0, 0⟩).normalize

end SelectQuery.Number
