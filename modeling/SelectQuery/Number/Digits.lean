/-!
Digits of natural numbers: decimal digits padded to a width, and bytes as hexadecimal digits.
-/

namespace SelectQuery.Number

/-- The decimal digits of `n`, with zeros in front up to `width`. -/
def padded (width n : Nat) : List Char :=
  let digits := Nat.toDigits 10 n
  List.replicate (width - digits.length) '0' ++ digits

def ofDigits (digits : List Char) : Nat :=
  digits.foldl (fun n c => 10 * n + (c.toNat - '0'.toNat)) 0

theorem ofDigits_toDigits (n : Nat) : ofDigits (Nat.toDigits 10 n) = n :=
  Nat.ofDigitChars_toDigits (by decide) (by decide)

/-- A hexadecimal digit, in upper case. -/
def hexDigit (n : Nat) : Char := n.digitChar.toUpper

/-- Each byte as two hexadecimal digits. -/
def hexBytes (bytes : List UInt8) : List Char :=
  bytes.flatMap fun b => [hexDigit (b.toNat / 16), hexDigit (b.toNat % 16)]

end SelectQuery.Number
