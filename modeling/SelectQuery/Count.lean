import SelectQuery.Number.Binary
import SelectQuery.Number.Digits
import SelectQuery.Text.Blank

/-!
Counts for LIMIT and OFFSET, read from whatever a caller has: integers, floats or text. A value
without an integer reading gives no count.
-/

namespace SelectQuery.Count

open Number

/-- The integer as a count, if a count can be that large. -/
def ofInt? (n : Int) : Option Int64 :=
  if Int64.minValue.toInt ≤ n ∧ n ≤ Int64.maxValue.toInt then some (.ofInt n) else none

/-- The integer as a count, or the count nearest to it. -/
def saturate (n : Int) : Int64 :=
  .ofInt (max Int64.minValue.toInt (min Int64.maxValue.toInt n))

/-- A finite number without its fraction, as near as a count gets. -/
def ofFloating? : Floating → Option Int64
  | .finite negative m q =>
    let magnitude := (m <<< q.toNat) >>> (-q).toNat
    some (saturate (if negative then -magnitude else magnitude))
  | _ => none

/-- The sign and the text after it. Only one sign is read. -/
def readSign : List Char → Bool × List Char
  | '-' :: cs => (true, cs)
  | '+' :: cs => (false, cs)
  | cs => (false, cs)

/-- The integer at the start of a text: blanks, a sign, and digits up to the first other
character. The number without its sign has to be a count too. -/
def ofText? (s : String) : Option Int64 :=
  let (negative, cs) := readSign (Text.trimStart s.toList)
  let digits := cs.takeWhile Char.isDigit
  if digits.isEmpty then none
  else (ofInt? (ofDigits digits)).map fun n => if negative then -n else n

end SelectQuery.Count
