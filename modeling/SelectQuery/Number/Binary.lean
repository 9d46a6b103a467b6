import SelectQuery.Number.Digits

/-!
Binary floating-point numbers, kept as their bit patterns, and the exact values that the patterns
denote. All arithmetic is on natural numbers.
-/

namespace SelectQuery.Number

/-- What a bit pattern denotes: a finite value is `significand * 2 ^ exponent`, with a sign that
zero has too. -/
inductive Floating where
  | nan
  | infinite (negative : Bool)
  | finite (negative : Bool) (significand : Nat) (exponent : Int)
  deriving DecidableEq

/-- A number of 64 bits: sign, 11 bits of exponent, 52 bits of fraction. -/
structure Binary64 where
  bits : UInt64
  deriving DecidableEq

/-- A number of 32 bits: sign, 8 bits of exponent, 23 bits of fraction. -/
structure Binary32 where
  bits : UInt32
  deriving DecidableEq

/-- The value of a sign, an exponent field and a fraction field, where `top` is the largest
exponent field, `width` the size of the fraction, and a subnormal is a multiple of
`2 ^ least`. -/
def Floating.ofFields (top width : Nat) (least : Int) (negative : Bool) (exponent fraction : Nat) :
    Floating :=
  if exponent = top then if fraction = 0 then .infinite negative else .nan
  else if exponent = 0 then .finite negative fraction least
  else .finite negative ((1 <<< width) + fraction) (least + (exponent - 1 : Nat))

namespace Binary64

/-- Whether the sign bit is set. -/
def isNegative (x : Binary64) : Bool := 1 <<< 63 ≤ x.bits.toNat

def value (x : Binary64) : Floating :=
  let n := x.bits.toNat
  .ofFields 2047 52 (-1074) x.isNegative ((n >>> 52) % (1 <<< 11)) (n % (1 <<< 52))

def isNaN (x : Binary64) : Bool := x.value = .nan

def isInfinite (x : Binary64) : Bool := x.value = .infinite x.isNegative

def ofFields (negative : Bool) (exponent fraction : Nat) : Binary64 :=
  ⟨.ofNat ((if negative then 1 <<< 63 else 0) + (exponent <<< 52) + fraction)⟩

/-- The exponent of two at which `num / den` is rounded: the result has 53 bits, or fewer where
the number is subnormal. -/
def roundingExponent (num den : Nat) : Int :=
  let k : Int := (num.log2 : Int) - den.log2
  let below : Bool := if 0 ≤ k then num < den <<< k.toNat else num <<< (-k).toNat < den
  max (-1074) (if below then k - 53 else k - 52)

/-- The number nearest to `num / den`, of two the one with an even significand; infinite from half
a step above the largest finite number. -/
def nearest (negative : Bool) (num den : Nat) : Binary64 :=
  if num = 0 then ofFields negative 0 0
  else
    let q := roundingExponent num den
    let a := num <<< (-q).toNat
    let b := den <<< q.toNat
    let m := a / b
    let r := a % b
    let m := if b < 2 * r || (2 * r = b && m % 2 = 1) then m + 1 else m
    let magnitude := ((q + 1074).toNat <<< 52) + m
    if 2047 <<< 52 ≤ magnitude then ofFields negative 2047 0
    else ofFields negative 0 magnitude

def ofInt (n : Int) : Binary64 := nearest (n < 0) n.natAbs 1

/-- The magnitude of a finite number, as numerator and denominator. -/
def ratio (x : Binary64) : Nat × Nat :=
  match x.value with
  | .finite _ m q => (m <<< q.toNat, 1 <<< (-q).toNat)
  | _ => (1, 0)

/-- The product of two finite numbers, rounded. -/
def times (x y : Binary64) : Binary64 :=
  nearest (x.isNegative != y.isNegative) (x.ratio.1 * y.ratio.1) (x.ratio.2 * y.ratio.2)

/-- The quotient of two finite numbers, rounded. The second one is not zero. -/
def dividedBy (x y : Binary64) : Binary64 :=
  nearest (x.isNegative != y.isNegative) (x.ratio.1 * y.ratio.2) (x.ratio.2 * y.ratio.1)

end Binary64

namespace Binary32

def isNegative (x : Binary32) : Bool := 1 <<< 31 ≤ x.bits.toNat

def exponent (x : Binary32) : Nat := (x.bits.toNat >>> 23) % (1 <<< 8)

def fraction (x : Binary32) : Nat := x.bits.toNat % (1 <<< 23)

def value (x : Binary32) : Floating :=
  .ofFields 255 23 (-149) x.isNegative x.exponent x.fraction

/-- The same number in 64 bits. Every subnormal of 32 bits is a normal number of 64. -/
def widen (x : Binary32) : Binary64 :=
  if x.exponent = 255 then .ofFields x.isNegative 2047 (x.fraction <<< 29)
  else if x.exponent = 0 then
    if x.fraction = 0 then .ofFields x.isNegative 0 0
    else
      let k := x.fraction.log2
      .ofFields x.isNegative (874 + k) ((x.fraction <<< (52 - k)) - (1 <<< 52))
  else .ofFields x.isNegative (x.exponent + 896) (x.fraction <<< 29)

end Binary32

end SelectQuery.Number
