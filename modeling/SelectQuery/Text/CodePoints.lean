/-!
Sets and shifts of characters, given by ranges of code points.
-/

namespace SelectQuery.Text

/-- Whether the code point of `c` lies in one of the closed `ranges`. -/
def inRanges (ranges : List (Nat × Nat)) (c : Char) : Bool :=
  ranges.any fun r => r.1 ≤ c.toNat && c.toNat ≤ r.2

/-- Every `step`-th code point from `first` to `last`. -/
structure SteppedRange where
  first : Nat
  last : Nat
  step : Nat

def SteppedRange.contains (r : SteppedRange) (c : Char) : Bool :=
  r.first ≤ c.toNat && c.toNat ≤ r.last && (c.toNat - r.first) % r.step == 0

/-- A stepped range whose characters are all mapped by one `offset`. -/
structure CodeShift extends SteppedRange where
  offset : Int

/-- The character that the first shift with `c` in its range maps `c` to; `c` itself if no shift
has it. -/
def shiftCode (shifts : List CodeShift) (c : Char) : Char :=
  match shifts.find? (·.contains c) with
  | some s => Char.ofNat ((c.toNat : Int) + s.offset).toNat
  | none => c

end SelectQuery.Text
