import SelectQuery.Json.Reading
import SelectQuery.Number.Digits

/-!
Numbers of JSON: a sign, digits without a needless zero in front, a fraction and a power of ten.
Integers of 64 bits are kept as they are, other numbers become floating-point numbers.
-/

namespace SelectQuery.Json

open Number (Binary64)

/-- A number as it is written. -/
structure Numeral where
  negative : Bool
  whole : List Char
  fraction : Option (List Char)
  power : Option (Bool × List Char)

namespace Numeral

/-- The integer that is written, if it fits into 64 bits with or without a sign. A zero with a sign
is no integer. -/
def integer? (n : Numeral) : Option Int :=
  let m := Number.ofDigits n.whole
  if n.fraction.isSome || n.power.isSome then none
  else if n.negative then if 0 < m ∧ Int64.minValue.toInt ≤ -m then some (-m) else none
  else if m < UInt64.size then some m else none

def writtenPower (n : Numeral) : Int :=
  match n.power with
  | some (true, digits) => -(Number.ofDigits digits : Int)
  | some (false, digits) => Number.ofDigits digits
  | none => 0

/-- The number that the digits make behind `n`, up to the first one that leads beyond 64 bits, and
the digits from there on. -/
def takeDigits (n : Nat) : List Char → Nat × List Char
  | [] => (n, [])
  | c :: cs =>
    let next := 10 * n + (c.toNat - '0'.toNat)
    if next < UInt64.size then takeDigits next cs else (n, c :: cs)

/-- The digits that count, as a natural number, and the power of ten of the last of them: no more
digits than 64 bits hold, first of the whole part, then of the fraction. -/
def leading (n : Numeral) : Nat × Int :=
  let (m, wholeRest) := takeDigits 0 n.whole
  let fraction := n.fraction.getD []
  let (m, fractionRest) := takeDigits m fraction
  (m, wholeRest.length + fractionRest.length - fraction.length + n.writtenPower)

/-- The largest power of ten that a floating-point number can be near. -/
def maxPower : Nat := 308

/-- The floating-point number nearest to a power of ten. -/
def tenPower (k : Nat) : Binary64 := .nearest false (Nat.pow 10 k) 1

/-- The floating-point number that is written, unless it is too large: the digits that count,
times or over their power of ten. Digits, power and result are rounded one after the other, so the
number need not be the nearest one. Below the square of the least power nothing is left. -/
def float? (n : Numeral) : Option Binary64 :=
  let (m, power) := n.leading
  let x := Binary64.nearest n.negative m 1
  let k := power.natAbs
  if m = 0 then some x
  else if 0 ≤ power then
    if maxPower < k then none
    else
      let y := x.times (tenPower k)
      if y.isInfinite then none else some y
  else if k ≤ maxPower then some (x.dividedBy (tenPower k))
  else if k ≤ 2 * maxPower then
    some ((x.dividedBy (tenPower maxPower)).dividedBy (tenPower (k - maxPower)))
  else some (.nearest n.negative 0 1)

/-- What a reader makes of the number. One that is too large is a fault only for who uses it. -/
def reading (n : Numeral) : Reading :=
  match n.integer?, n.float? with
  | some i, _ => .int i
  | none, some x => .float x
  | none, none => .broken true .syntactic none

/-- The fault of a number that breaks off before `rest`, for who uses it and for who skips it. -/
def brokenOff (rest : List Char) : Reading :=
  .broken true (if rest.isEmpty then .eof else .syntactic) (some .syntactic)

/-- The digits at the start of a text and what follows them. -/
def spanDigits (cs : List Char) : List Char × List Char :=
  (cs.takeWhile Char.isDigit, cs.dropWhile Char.isDigit)

/-- The power of ten after an `e`. -/
def readPower (cs : List Char) : Except Reading ((Bool × List Char) × List Char) :=
  let (negative, cs) := match cs with
    | '-' :: cs => (true, cs)
    | '+' :: cs => (false, cs)
    | cs => (false, cs)
  let (digits, rest) := spanDigits cs
  if digits.isEmpty then .error (brokenOff rest) else .ok ((negative, digits), rest)

/-- The number at the start of a text, whose sign has been read. -/
def readUnsigned (negative : Bool) (cs : List Char) : Except Reading (Numeral × List Char) := do
  let (whole, rest) := spanDigits cs
  if whole.isEmpty then .error (brokenOff rest)
  else if whole.head? = some '0' && 1 < whole.length then
    .error (.broken true .syntactic (some .syntactic))
  else
    let (fraction, rest) ← match rest with
      | '.' :: rest =>
        let (digits, rest) := spanDigits rest
        if digits.isEmpty then .error (brokenOff rest) else .ok (some digits, rest)
      | rest => .ok (none, rest)
    let (power, rest) ← match rest with
      | 'e' :: rest | 'E' :: rest => (readPower rest).map fun (p, rest) => (some p, rest)
      | rest => .ok (none, rest)
    return (⟨negative, whole, fraction, power⟩, rest)

/-- The number at the start of a text, and the text after it unless the number breaks off. -/
def read (cs : List Char) : Reading × Option (List Char) :=
  let number := match cs with
    | '-' :: cs => readUnsigned true cs
    | cs => readUnsigned false cs
  match number with
  | .error broken => (broken, none)
  | .ok (n, rest) => (n.reading, some rest)

end Numeral

end SelectQuery.Json
