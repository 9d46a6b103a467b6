import Mathlib.Data.List.TakeWhile
import Mathlib.Data.Nat.Digits.Defs
import Mathlib.Data.String.Basic
import SelectQuery.Count
import SelectQuery.Proofs.Bytes
import SelectQuery.Proofs.Decimal

/-!
The reading of a count from a text, step by step as a machine does it: the text is cut at byte
offsets, the digits are taken in one by one in 64 bits, and a negative number is made from a positive
one. A cut inside a character and a negation beyond 64 bits would be faults that end the program.

What is proved:
  1. `ofInt_eq_some_iff`: a count is the integer that it was made from.
  2. `accumulate_eq`: taking in digits with a check at each step gives their number exactly if that
     is a count.
  3. `readInPlace_eq`: the reading never meets a fault and gives what `ofText?` gives.
-/

namespace SelectQuery.Count

open Number

theorem toInt_bounds : Int64.minValue.toInt = -2 ^ 63 ∧ Int64.maxValue.toInt = 2 ^ 63 - 1 := by
  decide

theorem ofInt_eq (n : ℤ) :
    ofInt? n = if -2 ^ 63 ≤ n ∧ n < 2 ^ 63 then some (.ofInt n) else none := by
  rw [ofInt?, toInt_bounds.1, toInt_bounds.2]
  simp only [Int.le_sub_one_iff]

theorem ofInt_eq_some_iff {n : ℤ} {k : Int64} : ofInt? n = some k ↔ k.toInt = n := by
  rw [ofInt_eq]
  constructor
  · intro h
    obtain ⟨⟨low, high⟩, made⟩ := Option.ite_none_right_eq_some.1 h
    rw [← Option.some.inj made, Int64.toInt_ofInt_of_le low high]
  · rintro rfl
    rw [if_pos ⟨k.le_toInt, k.toInt_lt⟩, Int64.ofInt_toInt]

theorem ofInt_eq_none_iff {n : ℤ} : ofInt? n = none ↔ n < -2 ^ 63 ∨ 2 ^ 63 ≤ n := by
  rw [ofInt_eq, ite_eq_right_iff]
  constructor
  · intro h
    by_contra inside
    exact absurd (h (by omega)) (Option.some_ne_none _)
  · intro outside inside
    omega

theorem ofInt_toInt (k : Int64) : ofInt? k.toInt = some k := ofInt_eq_some_iff.2 rfl

/-! ## Digits in 64 bits -/

/-- The number that digits denote behind the digits of `n`, as long as it fits 64 bits after each
multiplication and each addition. -/
def accumulate (n : Int64) : List Char → Option Int64
  | [] => some n
  | c :: cs => do
    let tens ← ofInt? (n.toInt * 10)
    let next ← ofInt? (tens.toInt + digitValue c)
    accumulate next cs

/-- The number that digits denote. No digits denote no number. -/
def parse? (digits : String) : Option Int64 :=
  if digits.toList.isEmpty then none else accumulate 0 digits.toList

/-- A step that leaves 64 bits is not made up for by later digits. -/
theorem accumulate_eq {cs : List Char} {n : Int64} (h : 0 ≤ n.toInt) :
    accumulate n cs = ofInt? (10 ^ cs.length * n.toInt + ofDigits cs) := by
  induction cs generalizing n with
  | nil => simp [accumulate, ofInt_toInt, ofDigits]
  | cons c cs ih =>
    have total : 10 ^ (c :: cs).length * n.toInt + ofDigits (c :: cs) =
        10 ^ cs.length * (n.toInt * 10 + digitValue c) + ofDigits cs := by
      rw [ofDigits_cons, List.length_cons]
      push_cast
      ring
    have grows (m : ℤ) (positive : 0 ≤ m) : m ≤ 10 ^ cs.length * m + ofDigits cs := by
      have power : 1 * m ≤ 10 ^ cs.length * m :=
        Int.mul_le_mul_of_nonneg_right (Int.pow_pos (by decide)) positive
      omega
    rw [accumulate, total]
    cases tens : ofInt? (n.toInt * 10) with
    | none =>
      have := grows (n.toInt * 10 + digitValue c) (by omega)
      have := ofInt_eq_none_iff.1 tens
      exact (ofInt_eq_none_iff.2 (by omega)).symm
    | some t =>
      rw [Option.bind_eq_bind, Option.bind_some, ofInt_eq_some_iff.1 tens]
      cases next : ofInt? (n.toInt * 10 + digitValue c) with
      | none =>
        have := grows (n.toInt * 10 + digitValue c) (by omega)
        have := ofInt_eq_none_iff.1 next
        exact (ofInt_eq_none_iff.2 (by omega)).symm
      | some m =>
        have value := ofInt_eq_some_iff.1 next
        rw [Option.bind_some, ih (by omega), value]

/-! ## Cuts at byte offsets -/

/-- What would end the program: a cut that is not between two characters, a number that does not fit
64 bits. -/
inductive Fault where
  | cut
  | overflow
  deriving DecidableEq

/-- The text up to a byte offset, and from it on. -/
def slice (s : String) (offset : ℕ) : Except Fault (String × String) :=
  match Text.cutAt? s offset with
  | some parts => .ok parts
  | none => .error .cut

/-- The sign that the first byte shows, and the text behind this byte. -/
def cutSign (s : String) : Except Fault (Bool × String) :=
  if (Text.bytes s).head? = some 0x2D then (slice s 1).map fun parts => (true, parts.2)
  else if (Text.bytes s).head? = some 0x2B then (slice s 1).map fun parts => (false, parts.2)
  else .ok (false, s)

/-- The text before the first character that is no digit. -/
def cutDigits (s : String) : Except Fault String :=
  let stop := (Text.findOffset? (fun c => !c.isDigit) s.toList).getD s.utf8ByteSize
  (slice s stop).map Prod.fst

def signed (negative : Bool) (n : Int64) : Except Fault Int64 :=
  if !negative then .ok n
  else if n = Int64.minValue then .error .overflow
  else .ok (-n)

/-- The integer at the start of a text, as a machine reads it. -/
def readInPlace (s : String) : Except Fault (Option Int64) := do
  let (negative, s) ← cutSign (String.ofList (Text.trimStart s.toList))
  let digits ← cutDigits s
  match parse? digits with
  | none => .ok none
  | some n => (signed negative n).map some

theorem slice_append (a b : String) : slice (a ++ b) a.utf8ByteSize = .ok (a, b) := by
  rw [slice, Text.cutAt_append]

theorem readSign_cons (c : Char) (cs : List Char) :
    readSign (c :: cs) =
      if c = '-' then (true, cs) else if c = '+' then (false, cs) else (false, c :: cs) := by
  rw [readSign.eq_def]
  grind

/-- A sign is one byte, so the text behind it starts with a character. -/
theorem cutSign_eq (cs : List Char) :
    cutSign (String.ofList cs) = .ok ((readSign cs).1, String.ofList (readSign cs).2) := by
  have behind (c : Char) (one : c.utf8Size = 1) (rest : List Char) :
      slice (String.ofList (c :: rest)) 1 = .ok (String.ofList [c], String.ofList rest) := by
    have size : (String.ofList [c]).utf8ByteSize = 1 := by
      rw [Text.utf8ByteSize_cons, one]
      rfl
    rw [← slice_append, size, ← String.ofList_append]
    rfl
  cases cs with
  | nil => rfl
  | cons c rest =>
    have minus : (Text.bytes (String.ofList (c :: rest))).head? = some 0x2D ↔ c = '-' :=
      (Text.head?_bytes_iff (d := '-') (by decide) (c :: rest)).trans Option.some_inj
    have plus : (Text.bytes (String.ofList (c :: rest))).head? = some 0x2B ↔ c = '+' :=
      (Text.head?_bytes_iff (d := '+') (by decide) (c :: rest)).trans Option.some_inj
    rw [cutSign, readSign_cons]
    by_cases isMinus : c = '-'
    · subst isMinus
      rw [if_pos (minus.2 rfl), if_pos rfl, behind '-' rfl]
      rfl
    by_cases isPlus : c = '+'
    · subst isPlus
      rw [if_neg (mt minus.1 isMinus), if_pos (plus.2 rfl), if_neg isMinus, if_pos rfl,
        behind '+' rfl]
      rfl
    · rw [if_neg (mt minus.1 isMinus), if_neg (mt plus.1 isPlus), if_neg isMinus, if_neg isPlus]

/-- The digits end at a character, or with the text. -/
theorem cutDigits_eq (cs : List Char) :
    cutDigits (String.ofList cs) = .ok (String.ofList (cs.takeWhile Char.isDigit)) := by
  have parts : String.ofList cs =
      String.ofList (cs.takeWhile Char.isDigit) ++ String.ofList (cs.dropWhile Char.isDigit) := by
    rw [← String.ofList_append, List.takeWhile_append_dropWhile]
  have stop : (Text.findOffset? (fun c => !c.isDigit) cs).getD (String.ofList cs).utf8ByteSize =
      (String.ofList (cs.takeWhile Char.isDigit)).utf8ByteSize := by
    rw [Text.findOffset_eq]
    simp only [Bool.not_not]
  rw [cutDigits, String.toList_ofList, stop, parts, slice_append]
  rfl

theorem parse_ofList (digits : List Char) :
    parse? (String.ofList digits) = if digits.isEmpty then none else ofInt? (ofDigits digits) := by
  have zero : (0 : Int64).toInt = 0 := rfl
  rw [parse?, String.toList_ofList, accumulate_eq (le_of_eq zero.symm), zero, Int.mul_zero,
    Int.zero_add]

theorem ofText_eq (s : String) :
    ofText? s =
      let (negative, cs) := readSign (Text.trimStart s.toList)
      (parse? (String.ofList (cs.takeWhile Char.isDigit))).map fun n => if negative then -n else n := by
  rw [ofText?]
  obtain ⟨negative, cs⟩ := readSign (Text.trimStart s.toList)
  simp only [parse_ofList]
  by_cases empty : (cs.takeWhile Char.isDigit).isEmpty
  · rw [if_pos empty, if_pos empty]
    rfl
  · rw [if_neg empty, if_neg empty]

/-- Digits denote no negative number, so the sign of what they denote can be changed. -/
theorem signed_of_parse {digits : List Char} {n : Int64} (h : parse? (String.ofList digits) = some n)
    (negative : Bool) : signed negative n = .ok (if negative then -n else n) := by
  rw [parse_ofList] at h
  have value := ofInt_eq_some_iff.1 (Option.ite_none_left_eq_some.1 h).2
  have inner : n ≠ Int64.minValue := by
    rintro rfl
    rw [Int64.toInt_minValue] at value
    omega
  cases negative with
  | false => rfl
  | true => rw [signed, Bool.not_true, if_neg Bool.false_ne_true, if_neg inner, if_pos rfl]

/-- The reading never cuts a character and never leaves 64 bits, and it gives what is read from the
characters and their number without a bound. -/
theorem readInPlace_eq (s : String) : readInPlace s = .ok (ofText? s) := by
  rw [ofText_eq, readInPlace, cutSign_eq]
  obtain ⟨negative, cs⟩ := readSign (Text.trimStart s.toList)
  show (cutDigits (String.ofList cs)).bind _ = _
  rw [cutDigits_eq]
  show (match parse? (String.ofList (cs.takeWhile Char.isDigit)) with
    | none => Except.ok none
    | some n => (signed negative n).map some) = _
  cases read : parse? (String.ofList (cs.takeWhile Char.isDigit)) with
  | none => simp only [read, Option.map_none]
  | some n => simp only [read, signed_of_parse read, Option.map_some, Except.map]

end SelectQuery.Count
