import SelectQuery.Proofs.Sqlite.Lexer
import SelectQuery.Value

/-!
The literals of values. Each is read as the tokens of its value before every border; the content of
a string or a blob is decoded to what was written, whatever it is.

What is proved:
  1. `unquote_doubleQuotes`, `ofHex_hexBytes`: what is quoted, or written in hexadecimal digits, is
     read back.
  2. `takes_positional`, `takes_word`: digits, with or without a point, and words are tokens.
  3. `scans_integer`, `scans_floating`: numbers are read back, behind a minus if they are negative.
  4. `scans_literal`: so are the literals of all values.
-/

namespace SelectQuery

open Sqlite (Token Takes Scans lex)

namespace Sqlite

/-- The sign before a number. -/
def minus (negative : Bool) : List Token := if negative then [.sign ['-']] else []

end Sqlite

open Sqlite (minus)

/-- The tokens of a floating-point number: its sign, and its digits or a word. -/
def Number.Floating.tokens : Floating → List Token
  | nan => [.word ['N', 'a', 'N']]
  | infinite negative => minus negative ++ [.word ['i', 'n', 'f']]
  | finite negative 0 _ => minus negative ++ [.integer 0]
  | finite negative m q => minus negative ++ [.ofNumber (shortest m q).positional]

def Value.tokens : Value → List Token
  | null => [.word ['N', 'U', 'L', 'L']]
  | bool b => [.integer b.toNat]
  | int n => minus (n.toInt < 0) ++ [.integer n.toInt.natAbs]
  | float x => x.value.tokens
  | text s => [.string s.toList]
  | date t => [.string t.text.toList]
  | blob bytes => [.blob bytes]
  | array items => [.string (array items).unquoted.toList]

namespace Sqlite

/-! ## Strings and blobs -/

theorem unquote_of_other {q c : Char} (h : c ≠ q) (cs : List Char) :
    unquote q (c :: cs) = (unquote q cs).map fun (text, rest) => (c :: text, rest) := by
  rw [unquote.eq_def]
  exact if_neg h

theorem unquote_doubleQuotes (cs : List Char) {rest : List Char} (border : Border rest) :
    unquote '\'' (Value.doubleQuotes cs ++ '\'' :: rest) = some (cs, rest) := by
  induction cs with
  | nil =>
    rcases border.cases with rfl | ⟨c, rest, rfl, rfl | rfl | rfl⟩ <;> simp [Value.doubleQuotes, unquote]
  | cons c cs ih =>
    by_cases quote : c = '\''
    · simp [Value.doubleQuotes, quote, unquote, ih]
    · rw [Value.doubleQuotes, if_neg quote, List.cons_append, unquote_of_other quote, ih]
      rfl

theorem takes_quote (s : String) : Takes (Value.quote s).toList (.string s.toList) := by
  intro rest border
  have text : (Value.quote s).toList ++ rest =
      '\'' :: (Value.doubleQuotes s.toList ++ '\'' :: rest) := by
    simp [Value.quote]
  have read : quotation .string '\'' (Value.doubleQuotes s.toList ++ '\'' :: rest) =
      (.string s.toList, rest) := by
    rw [quotation, unquote_doubleQuotes s.toList border]
  rw [text]
  apply first_of_scan
  show (some (quotation .string '\'' _).1, (quotation .string '\'' _).2) = _
  rw [read]

theorem isHex_hexDigit {n : Nat} (h : n < 16) : isHex (Number.hexDigit n) := by
  have each : ∀ i : Fin 16, isHex (Number.hexDigit i) := by decide
  exact each ⟨n, h⟩

theorem hexValue_hexDigit {n : Nat} (h : n < 16) : hexValue (Number.hexDigit n) = n := by
  have each : ∀ i : Fin 16, hexValue (Number.hexDigit i) = i := by decide
  exact each ⟨n, h⟩

theorem isHex_hexBytes (bytes : List UInt8) : ∀ c ∈ Number.hexBytes bytes, isHex c := by
  intro c hc
  obtain ⟨b, -, hc⟩ := List.mem_flatMap.1 hc
  have small : b.toNat < 256 := b.toNat_lt
  rcases List.mem_cons.1 hc with rfl | hc
  · exact isHex_hexDigit (by omega)
  · rw [List.mem_singleton.1 hc]
    exact isHex_hexDigit (by omega)

theorem ofHex_hexBytes (bytes : List UInt8) : ofHex (Number.hexBytes bytes) = bytes := by
  induction bytes with
  | nil => rfl
  | cons b bytes ih =>
    have small : b.toNat < 256 := b.toNat_lt
    have byte : 16 * (b.toNat / 16) + b.toNat % 16 = b.toNat := Nat.div_add_mod b.toNat 16
    show ofHex (Number.hexDigit (b.toNat / 16) :: Number.hexDigit (b.toNat % 16) ::
      Number.hexBytes bytes) = b :: bytes
    rw [ofHex, ih, hexValue_hexDigit (by omega), hexValue_hexDigit (by omega), byte]
    simp

theorem length_hexBytes (bytes : List UInt8) :
    (Number.hexBytes bytes).length = 2 * bytes.length := by
  induction bytes with
  | nil => rfl
  | cons b bytes ih =>
    rw [Number.hexBytes, List.flatMap_cons] at *
    simp only [List.length_append, ih, List.length_cons, List.length_nil]
    omega

namespace Front

theorem run_append {p : Char → Bool} {cs : List Char} (rest : List Char) (h : ∀ c ∈ cs, p c)
    (stop : rest.head?.any p = false) : run p (cs ++ rest) = (cs, rest) := by
  rw [run, List.takeWhile_append_of_pos h, List.dropWhile_append_of_pos h]
  cases rest with
  | nil => simp
  | cons c rest =>
    have stop : p c = false := stop
    simp [stop]

end Front

theorem takes_blob (bytes : List UInt8) : Takes (Value.blob bytes).literal.toList (.blob bytes) := by
  intro rest border
  have text : (Value.blob bytes).literal.toList ++ rest =
      'X' :: '\'' :: (Number.hexBytes bytes ++ '\'' :: rest) := by
    simp [Value.literal]
  have digits := Front.run_append ('\'' :: rest) (isHex_hexBytes bytes) rfl
  have read : blob ('\'' :: (Number.hexBytes bytes ++ '\'' :: rest)) = (.blob bytes, rest) := by
    rw [blob, List.tail_cons, digits]
    simp [length_hexBytes, ofHex_hexBytes]
  rw [text]
  apply first_of_scan
  show (some (blob _).1, (blob _).2) = _
  rw [read]

/-! ## Numbers -/

/-- A text of digits, or of digits before and behind a point. -/
inductive Positional : List Char → Prop where
  | whole {c : Char} {cs : List Char} (first : c.isDigit) (digits : ∀ d ∈ cs, d.isDigit) :
    Positional (c :: cs)
  | point {c : Char} {cs places : List Char} (first : c.isDigit) (digits : ∀ d ∈ cs, d.isDigit)
    (behind : ∀ d ∈ places, d.isDigit) (filled : places ≠ []) : Positional (c :: cs ++ '.' :: places)

/-- Such a text starts with a digit. -/
theorem Positional.head {text : List Char} (h : Positional text) :
    ∃ c cs, text = c :: cs ∧ c.isDigit := by
  cases h with
  | whole first _ => exact ⟨_, _, rfl, first⟩
  | point first _ _ _ => exact ⟨_, _, rfl, first⟩

/-- A digit starts a number. -/
theorem scan_digit {c : Char} (h : c.isDigit) (cs : List Char) :
    scan c cs = (some (number c cs).1, (number c cs).2) := by
  have no_blob : ¬ (c = 'x' ∨ c = 'X') := by
    rintro (rfl | rfl) <;> cases h
  rw [scan_nameChar (isNameChar_of_isDigit h)]
  simp [lexeme, no_blob, h]

theorem scan_of_front {c : Char} {cs text : List Char} (digit : c.isDigit)
    (front : Front.number c cs = (text, [])) : scan c cs = (some (.ofNumber (c :: text)), []) := by
  rw [scan_digit digit, number, front]
  rfl

theorem announcesHex_of_digit {c : Char} (h : c.isDigit ∨ c = '.') (cs : List Char) :
    Front.announcesHex (c :: cs) = false := by
  have no_x : (c == 'x' || c == 'X') = false := by
    rw [Bool.or_eq_false_iff, beq_eq_false_iff_ne, beq_eq_false_iff_ne]
    constructor <;> rintro rfl <;> rcases h with h | h <;> cases h
  cases cs with
  | nil => rfl
  | cons d cs => rw [Front.announcesHex, no_x, Bool.false_and]

/-- A number in decimal notation that reaches to the end of the text. -/
theorem front_number {c : Char} {cs text : List Char} (rest : List Char) (first : c.isDigit)
    (digits : ∀ d ∈ cs, d.isDigit) (stop : rest = [] ∨ ∃ places, rest = '.' :: places)
    (fraction : Front.fraction rest = (text, [])) :
    Front.number c (cs ++ rest) = (cs ++ text, []) := by
  have no_point : c ≠ '.' := by
    rintro rfl
    cases first
  have no_hex : Front.announcesHex (cs ++ rest) = false := by
    cases cs with
    | nil =>
      rcases stop with rfl | ⟨places, rfl⟩
      · rfl
      · exact announcesHex_of_digit (.inr rfl) places
    | cons d cs => exact announcesHex_of_digit (.inl (digits d List.mem_cons_self)) _
  have no_digit : rest.head?.any Char.isDigit = false := by
    rcases stop with rfl | ⟨places, rfl⟩ <;> rfl
  have front : Front.digits (cs ++ rest) = (cs, rest) := Front.run_append rest digits no_digit
  simp [Front.number, no_point, no_hex, Front.andThen, front, fraction, Front.exponent]

theorem scan_positional {c : Char} {cs : List Char} (h : Positional (c :: cs)) :
    scan c cs = (some (.ofNumber (c :: cs)), []) := by
  cases h with
  | whole first digits =>
    have front := front_number [] first digits (.inl rfl) rfl
    rw [List.append_nil] at front
    exact scan_of_front first front
  | @point _ cs places first digits behind =>
    have places_only : Front.fraction ('.' :: places) = ('.' :: places, []) := by
      have run := Front.run_append [] behind rfl
      rw [List.append_nil, Front.run, Prod.mk.injEq] at run
      rw [Front.fraction, run.1, run.2]
    exact scan_of_front first (front_number _ first digits (.inr ⟨places, rfl⟩) places_only)

/-- The digits of a natural number. -/
theorem positional_toDigits (n : Nat) : Positional (Nat.toDigits 10 n) := by
  have digits : ∀ d ∈ Nat.toDigits 10 n, d.isDigit := fun d hd =>
    Nat.isDigit_of_mem_toDigits (by decide) (by decide) hd
  cases text : Nat.toDigits 10 n with
  | nil => exact absurd text Nat.toDigits_ne_nil
  | cons c cs =>
    rw [text] at digits
    exact .whole (digits c List.mem_cons_self) fun d hd => digits d (List.mem_cons_of_mem c hd)

theorem ofNumber_toDigits (n : Nat) : Token.ofNumber (Nat.toDigits 10 n) = .integer n := by
  have digits : (Nat.toDigits 10 n).all Char.isDigit := List.all_eq_true.2 fun d hd =>
    Nat.isDigit_of_mem_toDigits (by decide) (by decide) hd
  rw [Token.ofNumber, if_pos digits, Number.ofDigits_toDigits]

theorem plain_positional {text : List Char} (h : Positional text) : Text.Only isTextChar text := by
  have digit {c : Char} (h : c.isDigit) : isTextChar c := by
    simp [isTextChar, isNameChar_of_isDigit h]
  cases h with
  | whole first later => exact .cons (digit first) fun c hc => digit (later c hc)
  | point first later behind _ =>
    exact .append (.cons (digit first) fun c hc => digit (later c hc))
      (.cons rfl fun c hc => digit (behind c hc))

/-- A number before every border. -/
theorem takes_positional {text : List Char} (h : Positional text) :
    Takes text (.ofNumber text) := by
  have plain := plain_positional h
  obtain ⟨c, cs, rfl, -⟩ := h.head
  exact .plain plain (scan_positional h)

theorem takes_natural (n : Nat) : Takes (Nat.toDigits 10 n) (.integer n) := by
  rw [← ofNumber_toDigits]
  exact takes_positional (positional_toDigits n)

/-- A minus is a token of its own where no second minus and no arrow follows. -/
theorem first_minus {c : Char} (name : isNameChar c) (cs : List Char) :
    first? ('-' :: c :: cs) = some (.sign ['-'], c :: cs) := by
  have no_minus : c ≠ '-' ∧ c ≠ '>' := by
    constructor <;> rintro rfl <;> exact absurd name (by decide)
  have arrow : ('>' == c) = false := beq_false_of_ne no_minus.2.symm
  have found : signs.find? (·.isPrefixOf ('-' :: c :: cs)) = some ['-'] := by
    simp [signs, List.isPrefixOf, arrow]
  have read : sign '-' (c :: cs) = (.sign ['-'], c :: cs) := by
    rw [sign, found]
    rfl
  apply first_of_scan
  simp [scan, isBlank, isNameChar, Text.isIdentifierRest, other, no_minus.1, read]

theorem scans_signed (negative : Bool) {c : Char} {cs : List Char} {toks : List Token}
    (name : isNameChar c) (h : Scans (c :: cs) toks) :
    Scans (Number.signText negative ++ c :: cs) (Sqlite.minus negative ++ toks) := by
  cases negative with
  | false => exact h
  | true =>
    intro rest border
    show lex ('-' :: c :: (cs ++ rest)) = _
    rw [lex_of_first (first_minus name _), ← List.cons_append, h rest border]
    rfl

theorem scans_number (negative : Bool) {text : List Char} (h : Positional text) :
    Scans (Number.signText negative ++ text) (Sqlite.minus negative ++ [.ofNumber text]) := by
  obtain ⟨c, cs, rfl, digit⟩ := h.head
  exact scans_signed negative (isNameChar_of_isDigit digit) (takes_positional h).scans

theorem toList_toString (n : Int) :
    (toString n).toList = Number.signText (n < 0) ++ Nat.toDigits 10 n.natAbs := by
  rw [Int.toString_eq_repr, Int.repr_eq_if]
  by_cases negative : n < 0
  · have magnitude : (-n).toNat = n.natAbs := by omega
    rw [if_neg (by omega), String.toList_append, Nat.toList_repr, magnitude]
    simp [Number.signText, negative]
  · have magnitude : n.toNat = n.natAbs := by omega
    rw [if_pos (by omega), Nat.toList_repr, magnitude]
    simp [Number.signText, negative]

/-- An integer is read as its magnitude, behind a minus if it is negative. -/
theorem scans_integer (n : Int) :
    Scans (toString n).toList (Sqlite.minus (n < 0) ++ [.integer n.natAbs]) := by
  rw [toList_toString, ← ofNumber_toDigits]
  exact scans_number _ (positional_toDigits n.natAbs)

theorem isDigit_of_mem_replicate {n : Nat} {d : Char} (h : d ∈ List.replicate n '0') :
    d.isDigit := by
  rw [List.eq_of_mem_replicate h]
  rfl

theorem positional_of_point {a b : List Char} (filled : a ≠ [] ∧ b ≠ [])
    (before : ∀ c ∈ a, c.isDigit) (behind : ∀ c ∈ b, c.isDigit) : Positional (a ++ '.' :: b) := by
  cases a with
  | nil => exact absurd rfl filled.1
  | cons c cs =>
    exact .point (before c List.mem_cons_self) (fun d hd => before d (List.mem_cons_of_mem c hd))
      behind filled.2

theorem positional_padded {digits : List Char} {places : Nat} (each : ∀ c ∈ digits, c.isDigit)
    (length : 0 < places ∧ places < digits.length) :
    Positional (digits.take (digits.length - places) ++ '.' :: digits.drop (digits.length - places)) := by
  apply positional_of_point
  · constructor <;> apply List.ne_nil_of_length_pos
    · rw [List.length_take]
      omega
    · rw [List.length_drop]
      omega
  · exact fun c hc => each c (List.mem_of_mem_take hc)
  · exact fun c hc => each c (List.mem_of_mem_drop hc)

/-- A decimal without an exponent has digits, and at most one point among them. -/
theorem positional_decimal (d : Number.Decimal) : Positional d.positional := by
  have digits : ∀ c ∈ d.digits, c.isDigit := fun c hc =>
    Nat.isDigit_of_mem_toDigits (by decide) (by decide) hc
  have filled : d.digits ≠ [] := Nat.toDigits_ne_nil
  unfold Number.Decimal.positional
  split
  case isTrue =>
    cases text : d.digits with
    | nil => exact absurd text filled
    | cons c cs =>
      rw [text] at digits
      refine .whole (digits c List.mem_cons_self) fun x hx => ?_
      rcases List.mem_append.1 hx with hx | hx
      · exact digits x (List.mem_cons_of_mem c hx)
      · exact isDigit_of_mem_replicate hx
  case isFalse fraction =>
    have positive : 0 < (-d.exponent).toNat := by omega
    generalize (-d.exponent).toNat = places at *
    -- There are more digits than places, so one stands before the point.
    have padded : ∀ c ∈ List.replicate (places + 1 - d.digits.length) '0' ++ d.digits,
        c.isDigit := by
      intro c hc
      rcases List.mem_append.1 hc with hc | hc
      · exact isDigit_of_mem_replicate hc
      · exact digits c hc
    have length : places < (List.replicate (places + 1 - d.digits.length) '0' ++ d.digits).length := by
      rw [List.length_append, List.length_replicate]
      omega
    exact positional_padded padded ⟨positive, length⟩

/-- A word before every border. -/
theorem takes_word {c : Char} {cs : List Char}
    (first : isNameChar c ∧ ¬ c.isDigit ∧ c ≠ '.' ∧ c ≠ 'x' ∧ c ≠ 'X')
    (later : Text.Only Text.isIdentifierRest cs) : Takes (c :: cs) (.word (c :: cs)) := by
  obtain ⟨name, no_digit, no_point, lower, upper⟩ := first
  have word : ∀ d ∈ cs, isWordChar d := by
    intro d hd
    simp [isWordChar, later d hd]
  have tail := Front.run_append [] word rfl
  rw [List.append_nil, Front.run, Prod.mk.injEq] at tail
  apply Takes.plain
  · intro d hd
    rcases List.mem_cons.1 hd with rfl | hd
    · simp [isTextChar, name]
    · simp [isTextChar, isNameChar, later d hd]
  · rw [scan_nameChar name]
    simp [lexeme, lower, upper, no_digit, no_point, tail.1, tail.2]

theorem plainText_infinite (negative : Bool) :
    (Number.Floating.infinite negative).plainText.toList =
      Number.signText negative ++ ['i', 'n', 'f'] := by
  rw [Number.Floating.plainText, String.toList_append, String.toList_ofList]
  rfl

/-- A finite number is written in digits behind its sign. -/
theorem plainText_finite (negative : Bool) (m : Nat) (q : Int) : ∃ text, Positional text ∧
    (Number.Floating.finite negative m q).plainText.toList = Number.signText negative ++ text ∧
    (Number.Floating.finite negative m q).tokens = minus negative ++ [.ofNumber text] := by
  cases m with
  | zero =>
    refine ⟨['0'], .whole rfl (fun _ h => nomatch h), ?_, rfl⟩
    rw [Number.Floating.plainText, String.toList_append, String.toList_ofList]
    rfl
  | succ m =>
    refine ⟨(Number.shortest (m + 1) q).positional, positional_decimal _, ?_, ?_⟩
    · rw [Number.Floating.plainText, String.toList_ofList]
      exact Nat.succ_ne_zero m
    · rw [Number.Floating.tokens]
      exact Nat.succ_ne_zero m

theorem scans_floating (x : Number.Floating) : Scans x.plainText.toList x.tokens := by
  cases x with
  | nan => exact (takes_word (by decide) (by decide)).scans
  | infinite negative =>
    rw [plainText_infinite]
    exact scans_signed negative rfl (takes_word (by decide) (by decide)).scans
  | finite negative m q =>
    obtain ⟨text, positional, written, tokens⟩ := plainText_finite negative m q
    rw [written, tokens]
    exact scans_number negative positional

/-- Whether `c` can stand in the text of a floating-point number. -/
def isFloatingChar (c : Char) : Bool := c.isDigit || ['.', '-', 'i', 'n', 'f', 'N', 'a'].contains c

theorem only_positional {text : List Char} (h : Positional text) : Text.Only isFloatingChar text := by
  have digit {c : Char} (h : c.isDigit) : isFloatingChar c := by
    rw [isFloatingChar, h, Bool.true_or]
  cases h with
  | whole first later => exact .cons (digit first) fun c hc => digit (later c hc)
  | point first later behind _ =>
    exact .append (.cons (digit first) fun c hc => digit (later c hc))
      (.cons rfl fun c hc => digit (behind c hc))

/-- A floating-point number has no other characters than digits, a point, a minus, and those of its
two words. -/
theorem only_plainText (x : Number.Floating) : Text.Only isFloatingChar x.plainText.toList := by
  have sign (negative : Bool) : Text.Only isFloatingChar (Number.signText negative) := by
    cases negative <;> decide
  cases x with
  | nan => decide
  | infinite negative =>
    rw [plainText_infinite]
    exact (sign negative).append (by decide)
  | finite negative m q =>
    obtain ⟨text, positional, written, -⟩ := plainText_finite negative m q
    rw [written]
    exact (sign negative).append (only_positional positional)

/-- The literal of a value is read as the value, before every border. -/
theorem scans_literal (v : Value) : Scans v.literal.toList v.tokens := by
  cases v with
  | null => exact (takes_word (by decide) (by decide)).scans
  | bool b => cases b with
    | true => exact (takes_natural 1).scans
    | false => exact (takes_natural 0).scans
  | int n => exact scans_integer n.toInt
  | float x => exact scans_floating x.value
  | text s => exact (takes_quote s).scans
  | date t => exact (takes_quote t.text).scans
  | blob bytes => exact (takes_blob bytes).scans
  | array items => exact (takes_quote (Value.array items).unquoted).scans

end Sqlite

end SelectQuery
