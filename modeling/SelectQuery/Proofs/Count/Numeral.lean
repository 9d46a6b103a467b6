import SelectQuery.Proofs.Count.InPlace
import SelectQuery.Proofs.Sqlite.Literal
import SelectQuery.Proofs.Trimming
import SelectQuery.Query

/-!
The texts that a count can be read from. Such a text starts with an integer: blanks, a sign if need
be, and digits as far as they go. What stands behind the digits does not matter.

What is proved:
  1. `ofText_text`, `exists_numeral`: a text is a count exactly if it starts with an integer whose
     magnitude is a count, and then it is this integer.
  2. `ofText_exact`: this, that the reading in place gives the same without a fault, and that neither
     the text behind the digits nor zeros in front of them change it.
  3. `ofText_toString_iff`: the decimal text of an integer is read like the integer itself, with one
     exception: `smallest_unread`, the smallest integer, whose magnitude is no count.
-/

namespace SelectQuery

namespace Count

open Number
open Text (takeWhile_of_head dropWhile_of_head)

/-! ## Texts that start with an integer -/

/-- What may stand in front of digits. -/
inductive Sign where
  | absent
  | plus
  | minus

namespace Sign

def text : Sign → List Char
  | absent => []
  | plus => ['+']
  | minus => ['-']

/-- The number of a magnitude that is written behind the sign. -/
def apply : Sign → ℕ → ℤ
  | minus, n => -n
  | _, n => n

/-- Whether the number is below zero, or zero. -/
def isMinus : Sign → Bool
  | minus => true
  | _ => false

end Sign

/-- An ASCII digit. -/
def Digit (c : Char) : Prop := '0' ≤ c ∧ c ≤ '9'

theorem isDigit_iff {c : Char} : c.isDigit ↔ Digit c := by
  rw [Char.isDigit_iff_toNat]
  rfl

/-- A text that starts with an integer, in its four parts. -/
structure Numeral where
  blanks : List Char
  sign : Sign
  digits : List Char
  rest : List Char
  blank : ∀ c ∈ blanks, c ∈ Text.whiteSpace
  filled : digits ≠ []
  decimal : ∀ c ∈ digits, Digit c
  /-- The digits go on as far as they can. -/
  ended : ∀ c ∈ rest.head?, ¬ Digit c

namespace Numeral

def text (n : Numeral) : String := String.ofList (n.blanks ++ n.sign.text ++ n.digits ++ n.rest)

def magnitude (n : Numeral) : ℕ := placeValue n.digits

/-- The integer that the text starts with. -/
def value (n : Numeral) : ℤ := n.sign.apply n.magnitude

/-- The same with further zeros in front of the digits. -/
def withZeros (zeros : ℕ) (n : Numeral) : Numeral where
  blanks := n.blanks
  sign := n.sign
  digits := List.replicate zeros '0' ++ n.digits
  rest := n.rest
  blank := n.blank
  filled := List.append_ne_nil_of_right_ne_nil _ n.filled
  decimal c hc := by
    rcases List.mem_append.1 hc with zero | digit
    · rw [List.eq_of_mem_replicate zero]
      exact isDigit_iff.1 rfl
    · exact n.decimal c digit
  ended := n.ended

end Numeral

theorem isBlank_of_isDigit {c : Char} (h : c.isDigit) : Text.isBlank c = false := by
  have range := Char.isDigit_iff_toNat.1 h
  simp only [Char.reduceToNat] at range
  simp only [Text.isBlank, Bool.or_eq_false_iff, Bool.and_eq_false_imp, decide_eq_true_eq,
    decide_eq_false_iff_not, not_le, beq_eq_false_iff_ne, ne_eq]
  omega

/-- No blank starts what stands behind the blanks. -/
theorem isBlank_head (sign : Sign) {c : Char} (digit : c.isDigit) (cs : List Char) :
    ∀ d ∈ (sign.text ++ c :: cs).head?, Text.isBlank d = false := by
  intro d hd
  cases sign with
  | absent =>
    cases hd
    exact isBlank_of_isDigit digit
  | plus => cases hd; rfl
  | minus => cases hd; rfl

/-- Behind a sign nothing but a digit is read as part of the number. -/
theorem readSign_text (sign : Sign) {c : Char} (digit : c.isDigit) (cs : List Char) :
    readSign (sign.text ++ c :: cs) = (sign.isMinus, c :: cs) := by
  cases sign with
  | absent =>
    have minus : c ≠ '-' := by rintro rfl; exact absurd digit (by decide)
    have plus : c ≠ '+' := by rintro rfl; exact absurd digit (by decide)
    rw [Sign.text, List.nil_append, readSign_cons, if_neg minus, if_neg plus]
    rfl
  | plus => rfl
  | minus => rfl

theorem exists_sign (cs : List Char) :
    ∃ sign : Sign, cs = sign.text ++ (readSign cs).2 ∧ (readSign cs).1 = sign.isMinus := by
  cases cs with
  | nil => exact ⟨.absent, rfl, rfl⟩
  | cons c cs =>
    rw [readSign_cons]
    by_cases minus : c = '-'
    · rw [if_pos minus, minus]
      exact ⟨.minus, rfl, rfl⟩
    by_cases plus : c = '+'
    · rw [if_neg minus, if_pos plus, plus]
      exact ⟨.plus, rfl, rfl⟩
    · rw [if_neg minus, if_neg plus]
      exact ⟨.absent, rfl, rfl⟩

/-- The other sign does not lead out of 64 bits. -/
theorem Sign.toInt_apply (sign : Sign) {m : ℕ} {k : Int64} (h : k.toInt = m) :
    (if sign.isMinus then -k else k).toInt = sign.apply m := by
  have top := k.toInt_lt
  cases sign with
  | minus =>
    have made : -k = Int64.ofInt (-m) := by rw [← Int64.neg_ofInt, ← h, Int64.ofInt_toInt]
    show (-k).toInt = -(m : ℤ)
    rw [made, Int64.toInt_ofInt_of_le (by omega) (by omega)]
  | absent => exact h
  | plus => exact h

theorem ofText_text_eq (n : Numeral) :
    ofText? n.text = (ofInt? n.magnitude).map fun k => if n.sign.isMinus then -k else k := by
  obtain ⟨c, cs, digits⟩ := List.exists_cons_of_ne_nil n.filled
  have isDigit : ∀ d ∈ n.digits, d.isDigit := fun d hd => isDigit_iff.2 (n.decimal d hd)
  have first : c.isDigit := isDigit c (digits ▸ List.mem_cons_self)
  have trimmed : Text.trimStart n.text.toList = n.sign.text ++ (n.digits ++ n.rest) := by
    rw [Numeral.text, String.toList_ofList, List.append_assoc, List.append_assoc, Text.trimStart,
      List.dropWhile_append_of_pos fun d hd => Text.isBlank_iff.2 (n.blank d hd), digits]
    exact dropWhile_of_head (isBlank_head n.sign first (cs ++ n.rest))
  have signed : readSign (n.sign.text ++ (n.digits ++ n.rest)) =
      (n.sign.isMinus, n.digits ++ n.rest) := by
    rw [digits]
    exact readSign_text n.sign first (cs ++ n.rest)
  have run : (n.digits ++ n.rest).takeWhile Char.isDigit = n.digits := by
    rw [List.takeWhile_append_of_pos isDigit, takeWhile_of_head, List.append_nil]
    intro d hd
    exact Bool.eq_false_iff.2 fun digit => n.ended d hd (isDigit_iff.1 digit)
  rw [ofText_eq, trimmed, signed]
  simp only [run, parse_ofList, ofDigits_eq_placeValue]
  rw [if_neg (by simpa using n.filled)]
  rfl

/-- A text that starts with an integer is read as this integer if its magnitude is a count. -/
theorem ofText_text_iff (n : Numeral) (k : Int64) :
    ofText? n.text = some k ↔ n.magnitude ≤ 2 ^ 63 - 1 ∧ k.toInt = n.value := by
  rw [ofText_text_eq]
  cases read : ofInt? n.magnitude with
  | none =>
    have outside := ofInt_eq_none_iff.1 read
    constructor
    · intro h
      cases h
    · rintro ⟨small, -⟩
      omega
  | some m =>
    have value := ofInt_eq_some_iff.1 read
    have top := m.toInt_lt
    rw [Option.map_some, Option.some_inj, Numeral.value, ← n.sign.toInt_apply value, Int64.toInt_inj]
    constructor
    · rintro rfl
      exact ⟨by omega, rfl⟩
    · rintro ⟨-, same⟩
      exact same.symm

/-- Nothing is read but from a text that starts with an integer. -/
theorem exists_numeral {s : String} {k : Int64} (h : ofText? s = some k) :
    ∃ n : Numeral, n.text = s := by
  obtain ⟨sign, parts, -⟩ := exists_sign (Text.trimStart s.toList)
  rw [ofText_eq] at h
  generalize readSign (Text.trimStart s.toList) = signed at parts h
  obtain ⟨negative, cs⟩ := signed
  obtain ⟨m, read, -⟩ := Option.map_eq_some_iff.1 h
  rw [parse_ofList] at read
  have filled : cs.takeWhile Char.isDigit ≠ [] := fun empty =>
    (Option.ite_none_left_eq_some.1 read).1 (List.isEmpty_iff.2 empty)
  let n : Numeral := {
    blanks := s.toList.takeWhile Text.isBlank
    sign := sign
    digits := cs.takeWhile Char.isDigit
    rest := cs.dropWhile Char.isDigit
    blank := fun c hc => Text.isBlank_iff.1 (List.mem_takeWhile_imp hc)
    filled := filled
    decimal := fun c hc => isDigit_iff.1 (List.mem_takeWhile_imp hc)
    ended := fun c hc digit => by
      have other := List.head?_dropWhile_not Char.isDigit cs
      rw [Option.mem_def.1 hc] at other
      exact absurd (isDigit_iff.2 digit) (by simp [other]) }
  refine ⟨n, ?_⟩
  rw [Numeral.text, List.append_assoc, List.append_assoc, List.takeWhile_append_dropWhile, ← parts,
    Text.trimStart, List.takeWhile_append_dropWhile, String.ofList_toList]

theorem ofText_text_congr {n m : Numeral} (sign : n.sign = m.sign)
    (magnitude : n.magnitude = m.magnitude) : ofText? n.text = ofText? m.text := by
  rw [ofText_text_eq, ofText_text_eq, sign, magnitude]

theorem magnitude_withZeros (zeros : ℕ) (n : Numeral) :
    (n.withZeros zeros).magnitude = n.magnitude := by
  show placeValue (List.replicate zeros '0' ++ n.digits) = placeValue n.digits
  rw [← ofDigits_eq_placeValue, ofDigits_zeros, ofDigits_eq_placeValue]

/-- A text is read as a count exactly if it starts with an integer, that is with blanks, at most one
sign and a run of digits that is as long as it can be, and the digits denote at most `2 ^ 63 - 1`;
the count is this integer. All other texts are no counts. The reading in place does the same, without
a cut inside a character and without leaving 64 bits. Neither what stands behind the digits nor zeros
in front of them change what is read. -/
theorem ofText_exact :
    (∀ s k, ofText? s = some k ↔
      ∃ n : Numeral, n.text = s ∧ n.magnitude ≤ 2 ^ 63 - 1 ∧ k.toInt = n.value) ∧
    (∀ s, readInPlace s = .ok (ofText? s)) ∧
    (∀ n m : Numeral, n.sign = m.sign → n.digits = m.digits → ofText? n.text = ofText? m.text) ∧
    ∀ zeros (n : Numeral), ofText? (n.withZeros zeros).text = ofText? n.text := by
  refine ⟨fun s k => ⟨fun read => ?_, ?_⟩, readInPlace_eq, fun n m sign digits => ?_,
    fun zeros n => ?_⟩
  · obtain ⟨n, rfl⟩ := exists_numeral read
    exact ⟨n, rfl, (ofText_text_iff n k).1 read⟩
  · rintro ⟨n, rfl, small, value⟩
    exact (ofText_text_iff n k).2 ⟨small, value⟩
  · exact ofText_text_congr sign (congrArg placeValue digits)
  · exact ofText_text_congr rfl (magnitude_withZeros zeros n)

/-- The digits of other scripts are no digits, a sign has to stand directly before the digits, and
there is no bound on zeros. -/
example : [" \u2003+0042x", "-7", "- 5", "+-5", "\u0664", "9223372036854775808"].map ofText? =
    [some 42, some (-7), none, none, none, none] := by
  decide +kernel

/-! ## Decimal texts of integers -/

/-- The decimal text of an integer between blanks and another text. -/
def Numeral.ofInt (n : ℤ) {blanks rest : List Char} (blank : ∀ c ∈ blanks, c ∈ Text.whiteSpace)
    (ended : ∀ c ∈ rest.head?, ¬ Digit c) : Numeral where
  blanks := blanks
  sign := if n < 0 then .minus else .absent
  digits := Nat.toDigits 10 n.natAbs
  rest := rest
  blank := blank
  filled := Nat.toDigits_ne_nil
  decimal _ hc := isDigit_iff.1 (Nat.isDigit_of_mem_toDigits (by decide) (by decide) hc)
  ended := ended

section Written

variable (n : ℤ) {blanks rest : List Char} (blank : ∀ c ∈ blanks, c ∈ Text.whiteSpace)
  (ended : ∀ c ∈ rest.head?, ¬ Digit c)

theorem text_ofInt : (Numeral.ofInt n blank ended).text =
    String.ofList (blanks ++ (toString n).toList ++ rest) := by
  have sign : (Numeral.ofInt n blank ended).sign.text = signText (n < 0) := by
    show (if n < 0 then Sign.minus else Sign.absent).text = _
    by_cases negative : n < 0 <;> simp [negative, Sign.text, signText]
  rw [Numeral.text, sign, Sqlite.toList_toString, ← List.append_assoc]
  rfl

theorem magnitude_ofInt : (Numeral.ofInt n blank ended).magnitude = n.natAbs := by
  show placeValue (Nat.toDigits 10 n.natAbs) = _
  rw [← ofDigits_eq_placeValue, ofDigits_toDigits]

theorem value_ofInt : (Numeral.ofInt n blank ended).value = n := by
  rw [Numeral.value, magnitude_ofInt]
  show (if n < 0 then Sign.minus else Sign.absent).apply n.natAbs = n
  by_cases negative : n < 0 <;> simp only [negative, if_true, if_false, Sign.apply] <;> omega

end Written

/-- The magnitude of the smallest integer is one too large for a count. -/
theorem ofText_ofInt (n : Int64) {blanks rest : List Char}
    (blank : ∀ c ∈ blanks, c ∈ Text.whiteSpace) (ended : ∀ c ∈ rest.head?, ¬ Digit c) :
    ofText? (String.ofList (blanks ++ (toString n.toInt).toList ++ rest)) =
      if n = Int64.minValue then none else some n := by
  have low := n.le_toInt
  have high := n.toInt_lt
  have smallest : n = Int64.minValue ↔ n.toInt = -2 ^ 63 := Int64.toInt_inj.symm
  rw [← text_ofInt n.toInt blank ended]
  by_cases edge : n = Int64.minValue
  · rw [if_pos edge, ofText_text_eq, magnitude_ofInt,
      ofInt_eq_none_iff.2 (by have := smallest.1 edge; omega)]
    rfl
  · rw [if_neg edge, ofText_text_iff, magnitude_ofInt, value_ofInt]
    refine ⟨?_, rfl⟩
    have := mt smallest.2 edge
    omega

end Count

namespace Query

variable (q : Query) {n : Int64}

theorem setLimit_eq_self_iff (nonzero : n ≠ 0) : q = q.setLimit (some n) ↔ q.limit = some n := by
  rw [setLimit, if_neg nonzero]
  constructor
  · intro same
    rw [same]
  · intro set
    rw [← set]

theorem setOffset_eq_self_iff : q = q.setOffset (some n) ↔ q.offset = some n := by
  rw [setOffset]
  constructor
  · intro same
    rw [same]
  · intro set
    rw [← set]

end Query

namespace Count

/-- The decimal text of an integer, with blanks in front and a text behind that does not start with a
digit, is read like the integer itself, and so sets the same limit and the same offset, with the one
exception of the smallest integer. Its text is not read, and setting a limit or an offset by it is
passed over, so that the query becomes the same only if it has this limit or offset already. -/
theorem ofText_toString_iff (n : Int64) {blanks rest : List Char}
    (blank : ∀ c ∈ blanks, c ∈ Text.whiteSpace) (ended : ∀ c ∈ rest.head?, ¬ Digit c) :
    let written := ofText? (String.ofList (blanks ++ (toString n.toInt).toList ++ rest))
    (written = ofInt? n.toInt ↔ n ≠ Int64.minValue) ∧
    (n = Int64.minValue → written = none) ∧
    ∀ q : Query,
      (q.setLimit written = q.setLimit (ofInt? n.toInt) ↔
        n ≠ Int64.minValue ∨ q.limit = some n) ∧
      (q.setOffset written = q.setOffset (ofInt? n.toInt) ↔
        n ≠ Int64.minValue ∨ q.offset = some n) := by
  rw [ofText_ofInt n blank ended, ofInt_toInt]
  by_cases edge : n = Int64.minValue
  · have nonzero : n ≠ 0 := by
      rw [edge]
      decide
    have only {p : Prop} : n ≠ Int64.minValue ∨ p ↔ p := or_iff_right (not_not_intro edge)
    rw [if_pos edge]
    refine ⟨iff_of_false (Option.some_ne_none n).symm (not_not_intro edge), fun _ => rfl,
      fun q => ⟨?_, ?_⟩⟩
    · exact (q.setLimit_eq_self_iff nonzero).trans only.symm
    · exact q.setOffset_eq_self_iff.trans only.symm
  · rw [if_neg edge]
    exact ⟨iff_of_true rfl edge, fun smallest => absurd smallest edge,
      fun q => ⟨iff_of_true rfl (.inl edge), iff_of_true rfl (.inl edge)⟩⟩

/-- An integer next to the exception, between blanks and a word. -/
theorem ofText_toString_of_rows :
    (∀ c ∈ ['\u2003', ' '], c ∈ Text.whiteSpace) ∧ (∀ c ∈ " rows".toList.head?, ¬ Digit c) ∧
    ofText? (String.ofList
      (['\u2003', ' '] ++ (toString (-9223372036854775807 : Int64).toInt).toList ++ " rows".toList)) =
      ofInt? (-9223372036854775807 : Int64).toInt := by
  have blank : ∀ c ∈ ['\u2003', ' '], c ∈ Text.whiteSpace :=
    List.forall_mem_cons.2 ⟨by decide, List.forall_mem_singleton.2 (by decide)⟩
  have ended : ∀ c ∈ " rows".toList.head?, ¬ Digit c := by
    rintro c hc ⟨low, -⟩
    obtain rfl : ' ' = c := Option.some.inj hc
    exact absurd low (by decide)
  exact ⟨blank, ended, (ofText_toString_iff (-9223372036854775807) blank ended).1.2 (by decide)⟩

/-- The smallest integer is a count, but its decimal text is not read as one, so that a limit set by
the text stays as it was. -/
theorem smallest_unread :
    toString Int64.minValue.toInt = "-9223372036854775808" ∧
    ofInt? Int64.minValue.toInt = some Int64.minValue ∧
    ofText? "-9223372036854775808" = none ∧
    ({ scope := ⟨"t", none⟩ } : Query).setLimit (ofText? "-9223372036854775808") ≠
      ({ scope := ⟨"t", none⟩ } : Query).setLimit (ofInt? Int64.minValue.toInt) := by
  have unread : ofText? "-9223372036854775808" = none := by decide +kernel
  refine ⟨by decide +kernel, by decide, unread, fun same => ?_⟩
  rw [unread] at same
  exact absurd (congrArg Query.limit same) (by decide)

end Count

end SelectQuery
