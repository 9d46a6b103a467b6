import Mathlib.Data.Nat.Digits.Defs
import Mathlib.Data.String.Basic
import SelectQuery.Proofs.Bytes
import SelectQuery.Proofs.Count.Numeral
import SelectQuery.Proofs.Trimming
import SelectQuery.Settings

/-!
The settings that an environment gives. A number of connections that cannot be read is passed over
without a word, so it matters exactly which texts are read, and as which numbers.

What is proved:
  1. `denotes_iff`, `Denotes.trimmed`: which texts denote a number, and that blanks around such a text
     are no part of it.
  2. `readCount_of_gives`, `readCount_of_passedOver`: a text is read as the number that it denotes
     between blanks, and for one of three reasons it is passed over.
  3. `accumulate_eq`, `readBytes_eq`: taking in the bytes of the text, with a check of each byte and of
     each step in 32 bits, gives the same.
  4. `ofLookup_exact`: so the settings are the database as it stands and this number, each of them the
     default where it is not given.
-/

namespace SelectQuery.Settings

open SelectQuery.Count (Digit isDigit_iff isBlank_of_isDigit)
open Number (digitValue ofDigits placeValue ofDigits_cons ofDigits_eq_placeValue)
open Text (Trimmed whiteSpace)

/-! ## Texts that are numbers -/

/-- The texts that denote a number: digits, with a `+` in front of them or without. -/
inductive Denotes : List Char → ℕ → Prop where
  | bare {digits : List Char} (filled : digits ≠ []) (decimal : ∀ c ∈ digits, Digit c) :
    Denotes digits (placeValue digits)
  | plus {digits : List Char} (filled : digits ≠ []) (decimal : ∀ c ∈ digits, Digit c) :
    Denotes ('+' :: digits) (placeValue digits)

/-- A variable gives a number of connections if its text denotes this number between blanks. -/
def Gives (content : Option String) (n : UInt32) : Prop :=
  ∃ text core, content = some text ∧ Trimmed text.toList core ∧ Denotes core n.toNat

/-- The text behind a `+`, or the whole text if it does not start with one. -/
def behindPlus (cs : List Char) : List Char :=
  match cs with
  | '+' :: rest => rest
  | _ => cs

/-- A variable gives no number of connections if it is not set, and if between the blanks of its text,
behind a `+` or without one, there is nothing, or a character that is no digit, or a number that is too
large. -/
inductive PassedOver : Option String → Prop where
  | unset : PassedOver none
  | empty {text : String} {core : List Char} (trimmed : Trimmed text.toList core)
    (nothing : behindPlus core = []) : PassedOver (some text)
  | character {text : String} {core : List Char} {c : Char} (trimmed : Trimmed text.toList core)
    (mem : c ∈ behindPlus core) (other : ¬ Digit c) : PassedOver (some text)
  | large {text : String} {core : List Char} (trimmed : Trimmed text.toList core)
    (decimal : ∀ c ∈ behindPlus core, Digit c) (beyond : 2 ^ 32 ≤ placeValue (behindPlus core)) :
    PassedOver (some text)

variable {text : String} {core cs before after : List Char} {c : Char} {n : ℕ} {m : UInt32}

theorem behindPlus_cons (other : c ≠ '+') : behindPlus (c :: cs) = c :: cs := by
  rw [behindPlus]
  intro rest same
  exact other (List.cons.inj same).1

theorem behindPlus_cases (cs : List Char) : cs = behindPlus cs ∨ cs = '+' :: behindPlus cs := by
  cases cs with
  | nil => exact .inl rfl
  | cons c cs =>
    by_cases plus : c = '+'
    · right
      rw [plus]
      rfl
    · left
      rw [behindPlus_cons plus]

theorem plus_not_digit : ¬ Digit '+' := by
  intro digit
  exact absurd (isDigit_iff.2 digit) (by decide)

theorem denotes_iff :
    Denotes cs n ↔
      behindPlus cs ≠ [] ∧ (∀ c ∈ behindPlus cs, Digit c) ∧ placeValue (behindPlus cs) = n := by
  constructor
  · intro denotes
    cases denotes with
    | bare filled decimal =>
      obtain ⟨c, rest, rfl⟩ := List.exists_cons_of_ne_nil filled
      have other : c ≠ '+' := fun plus => plus_not_digit (plus ▸ decimal c List.mem_cons_self)
      rw [behindPlus_cons other]
      exact ⟨filled, decimal, rfl⟩
    | plus filled decimal => exact ⟨filled, decimal, rfl⟩
  · intro h
    obtain ⟨filled, decimal, rfl⟩ := h
    obtain bare | plus := behindPlus_cases cs
    · have denotes := Denotes.bare filled decimal
      rwa [← bare] at denotes ⊢
    · have denotes := Denotes.plus filled decimal
      rwa [← plus] at denotes

theorem Denotes.not_blank (denotes : Denotes core n) (mem : c ∈ core) : c ∉ whiteSpace := by
  have digit_not_blank {d : Char} (digit : Digit d) : d ∉ whiteSpace :=
    Text.isBlank_eq_false_iff.1 (isBlank_of_isDigit (isDigit_iff.2 digit))
  cases denotes with
  | bare _ decimal => exact digit_not_blank (decimal c mem)
  | plus _ decimal =>
    obtain rfl | digit := List.mem_cons.1 mem
    · decide
    · exact digit_not_blank (decimal c digit)

theorem Denotes.trimmed (denotes : Denotes core n) (front : ∀ c ∈ before, c ∈ whiteSpace)
    (back : ∀ c ∈ after, c ∈ whiteSpace) : Trimmed (before ++ core ++ after) core where
  parts := ⟨before, after, rfl, front, back⟩
  head _ hc := denotes.not_blank (List.mem_of_mem_head? hc)
  last _ hc := denotes.not_blank (List.mem_of_mem_getLast? hc)

theorem denotes_toDigits (n : ℕ) : Denotes (Nat.toDigits 10 n) n := by
  have decimal : ∀ c ∈ Nat.toDigits 10 n, Digit c := fun c hc =>
    isDigit_iff.1 (Nat.isDigit_of_mem_toDigits (by decide) (by decide) hc)
  have denotes := Denotes.bare Nat.toDigits_ne_nil decimal
  rwa [← ofDigits_eq_placeValue, Number.ofDigits_toDigits] at denotes

/-! ## The number of connections -/

def fit? (n : ℕ) : Option UInt32 := if n < 2 ^ 32 then some (.ofNat n) else none

theorem fit_eq_some_iff : fit? n = some m ↔ m.toNat = n := by
  rw [fit?]
  constructor
  · intro h
    obtain ⟨small, made⟩ := Option.ite_none_right_eq_some.1 h
    rw [← Option.some.inj made, UInt32.toNat_ofNat_of_lt' small]
  · intro same
    rw [← same, if_pos m.toNat_lt, UInt32.ofNat_toNat]

theorem fit_eq_none_iff : fit? n = none ↔ 2 ^ 32 ≤ n := by
  rw [fit?, ite_eq_right_iff]
  constructor
  · intro h
    by_contra small
    exact absurd (h (by omega)) (Option.some_ne_none _)
  · intro large small
    omega

theorem readCount_eq (trimmed : Trimmed text.toList core) :
    readCount? text =
      if (behindPlus core).isEmpty || !(behindPlus core).all Char.isDigit then none
      else fit? (placeValue (behindPlus core)) := by
  rw [← Text.trim_eq_iff.2 trimmed, ← ofDigits_eq_placeValue]
  rfl

/-- Digits behind a `+` or without one are read as the number that they denote, if it fits. -/
theorem readCount_of_decimal (trimmed : Trimmed text.toList core) (filled : behindPlus core ≠ [])
    (decimal : ∀ c ∈ behindPlus core, Digit c) :
    readCount? text = fit? (placeValue (behindPlus core)) := by
  have all : (behindPlus core).all Char.isDigit :=
    List.all_eq_true.2 fun c hc => isDigit_iff.2 (decimal c hc)
  rw [readCount_eq trimmed, all]
  simp [filled]

theorem readCount_of_empty (trimmed : Trimmed text.toList core) (empty : behindPlus core = []) :
    readCount? text = none := by
  rw [readCount_eq trimmed, empty]
  rfl

theorem readCount_of_character (trimmed : Trimmed text.toList core) (mem : c ∈ behindPlus core)
    (other : ¬ Digit c) : readCount? text = none := by
  have some_other : (behindPlus core).all Char.isDigit = false :=
    List.all_eq_false.2 ⟨c, mem, mt isDigit_iff.1 other⟩
  rw [readCount_eq trimmed, some_other]
  simp

theorem readCount_of_gives (gives : Gives (some text) m) : readCount? text = some m := by
  obtain ⟨_, core, ⟨⟩, trimmed, denotes⟩ := gives
  obtain ⟨filled, decimal, value⟩ := denotes_iff.1 denotes
  rw [readCount_of_decimal trimmed filled decimal, fit_eq_some_iff, value]

theorem readCount_of_passedOver (passed : PassedOver (some text)) : readCount? text = none := by
  cases passed with
  | empty trimmed empty => exact readCount_of_empty trimmed empty
  | character trimmed mem other => exact readCount_of_character trimmed mem other
  | @large _ core trimmed decimal beyond =>
    have filled : behindPlus core ≠ [] := by
      intro empty
      rw [empty] at beyond
      exact absurd beyond (by decide)
    rw [readCount_of_decimal trimmed filled decimal, fit_eq_none_iff]
    exact beyond

/-- A variable gives a number or is passed over. -/
theorem gives_or_passedOver (content : Option String) :
    (∃ m, Gives content m) ∨ PassedOver content := by
  cases content with
  | none => exact .inr .unset
  | some text =>
    have trimmed := Text.trimmed_trim text.toList
    by_cases empty : behindPlus (Text.trim text.toList) = []
    · exact .inr (.empty trimmed empty)
    by_cases decimal : ∀ c ∈ behindPlus (Text.trim text.toList), Digit c
    · cases fits : fit? (placeValue (behindPlus (Text.trim text.toList))) with
      | none => exact .inr (.large trimmed decimal (fit_eq_none_iff.1 fits))
      | some m =>
        have denotes := denotes_iff.2 ⟨empty, decimal, (fit_eq_some_iff.1 fits).symm⟩
        exact .inl ⟨m, text, _, rfl, trimmed, denotes⟩
    · push Not at decimal
      obtain ⟨c, mem, other⟩ := decimal
      exact .inr (.character trimmed mem other)

/-! ## The bytes of a text in 32 bits -/

/-- What a byte counts, if it is a digit. -/
def byteDigit? (b : UInt8) : Option ℕ :=
  if 0x30 ≤ b.toNat ∧ b.toNat ≤ 0x39 then some (b.toNat - 0x30) else none

/-- The number that bytes denote behind the digits of `n`, as long as each of them is a digit and the
number fits 32 bits after each multiplication and each addition. -/
def accumulate (n : UInt32) : List UInt8 → Option UInt32
  | [] => some n
  | b :: bs => do
    let digit ← byteDigit? b
    let tens ← fit? (n.toNat * 10)
    let next ← fit? (tens.toNat + digit)
    accumulate next bs

/-- The number that bytes denote, behind a `+` or without one. No digits denote no number. -/
def parse? : List UInt8 → Option UInt32
  | [] => none
  | b :: bs =>
    if b ≠ 0x2B then accumulate 0 (b :: bs) else if bs.isEmpty then none else accumulate 0 bs

/-- The number of connections that a text gives, read byte by byte. -/
def readBytes? (text : String) : Option UInt32 :=
  parse? (Text.bytes (String.ofList (Text.trim text.toList)))

theorem byteDigit_ofNat (small : n < 256) :
    byteDigit? (.ofNat n) = if 0x30 ≤ n ∧ n ≤ 0x39 then some (n - 0x30) else none := by
  rw [byteDigit?, UInt8.toNat_ofNat_of_lt' small]

/-- A digit is one byte, which counts the same. -/
theorem encode_of_digit (digit : Digit c) : ∃ b, String.utf8EncodeChar c = [b] ∧
    byteDigit? b = some (digitValue c) := by
  have range : 0x30 ≤ c.toNat ∧ c.toNat ≤ 0x39 := digit
  obtain ⟨-, bytes⟩ | ⟨low, -⟩ | ⟨low, -⟩ | ⟨low, -⟩ := Text.encode_cases c
  · refine ⟨_, bytes, ?_⟩
    rw [byteDigit_ofNat (by omega), if_pos range]
    rfl
  all_goals omega

/-- Any other character starts with a byte that is no digit. -/
theorem encode_of_other (other : ¬ Digit c) : ∃ b bs, String.utf8EncodeChar c = b :: bs ∧
    byteDigit? b = none := by
  have range : ¬ (0x30 ≤ c.toNat ∧ c.toNat ≤ 0x39) := other
  obtain ⟨ascii, bytes⟩ | ⟨-, -, bytes⟩ | ⟨-, -, bytes⟩ | ⟨-, -, bytes⟩ := Text.encode_cases c
  all_goals
    refine ⟨_, _, bytes, ?_⟩
    rw [byteDigit_ofNat (by omega), if_neg (by omega)]

theorem accumulate_digit (digit : Digit c) :
    accumulate m ((c :: cs).flatMap String.utf8EncodeChar) =
      (fit? (m.toNat * 10)).bind fun tens => (fit? (tens.toNat + digitValue c)).bind fun next =>
        accumulate next (cs.flatMap String.utf8EncodeChar) := by
  obtain ⟨b, bytes, value⟩ := encode_of_digit digit
  rw [List.flatMap_cons, bytes, List.cons_append, accumulate, value]
  rfl

theorem accumulate_other (other : ¬ Digit c) :
    accumulate m ((c :: cs).flatMap String.utf8EncodeChar) = none := by
  obtain ⟨b, bs, bytes, value⟩ := encode_of_other other
  rw [List.flatMap_cons, bytes, List.cons_append, accumulate, value]
  rfl

/-- A step that leaves 32 bits is not made up for by later digits. -/
theorem accumulate_eq : accumulate m (cs.flatMap String.utf8EncodeChar) =
    if cs.all Char.isDigit then fit? (10 ^ cs.length * m.toNat + placeValue cs) else none := by
  -- On the characters, for any number in front of them.
  induction cs generalizing m with
  | nil =>
    have all : m.toNat = 10 ^ 0 * m.toNat + placeValue [] := by simp [placeValue]
    exact (fit_eq_some_iff.2 all).symm
  | cons c cs ih =>
    by_cases digit : c.isDigit
    · have total : 10 ^ (c :: cs).length * m.toNat + placeValue (c :: cs) =
          10 ^ cs.length * (m.toNat * 10 + digitValue c) + placeValue cs := by
        rw [← ofDigits_eq_placeValue, ← ofDigits_eq_placeValue, ofDigits_cons, List.length_cons]
        ring
      have grows : m.toNat * 10 + digitValue c ≤
          10 ^ cs.length * (m.toNat * 10 + digitValue c) + placeValue cs := by
        have power := Nat.le_mul_of_pos_left (m.toNat * 10 + digitValue c)
          (Nat.pow_pos (n := cs.length) (show 0 < 10 by decide))
        omega
      rw [accumulate_digit (isDigit_iff.1 digit), total, List.all_cons, digit, Bool.true_and]
      cases tens : fit? (m.toNat * 10) with
      | none =>
        have beyond := fit_eq_none_iff.1 tens
        rw [fit_eq_none_iff.2 (by omega), ite_self, Option.bind_none]
      | some t =>
        rw [Option.bind_some, fit_eq_some_iff.1 tens]
        cases next : fit? (m.toNat * 10 + digitValue c) with
        | none =>
          have beyond := fit_eq_none_iff.1 next
          rw [fit_eq_none_iff.2 (by omega), ite_self, Option.bind_none]
        | some k => rw [Option.bind_some, ih, fit_eq_some_iff.1 next]
    · rw [accumulate_other (mt isDigit_iff.2 digit), List.all_cons, Bool.eq_false_iff.2 digit]
      rfl

theorem accumulate_zero : accumulate 0 (cs.flatMap String.utf8EncodeChar) =
    if cs.all Char.isDigit then fit? (placeValue cs) else none := by
  have zero : (0 : UInt32).toNat = 0 := rfl
  rw [accumulate_eq, zero, Nat.mul_zero, Nat.zero_add]

/-- A `+` is one byte, and no other character starts with this byte. -/
theorem parse_flatMap (cs : List Char) : parse? (cs.flatMap String.utf8EncodeChar) =
    if (behindPlus cs).isEmpty then none
    else accumulate 0 ((behindPlus cs).flatMap String.utf8EncodeChar) := by
  cases cs with
  | nil => rfl
  | cons c cs =>
    by_cases plus : c = '+'
    · have sign : String.utf8EncodeChar '+' = [0x2B] := by decide
      have behind : behindPlus ('+' :: cs) = cs := rfl
      rw [plus, behind, List.flatMap_cons, sign, List.singleton_append, parse?]
      cases cs with
      | nil => rfl
      | cons d cs => simp [String.utf8EncodeChar_ne_nil]
    · have first : ((c :: cs).flatMap String.utf8EncodeChar).head? ≠ some 0x2B := by
        rw [← String.toList_ofList (l := c :: cs), ← Text.bytes_eq]
        intro byte
        have same := (Text.head?_bytes_iff (d := '+') (by decide) (c :: cs)).1 byte
        exact plus (Option.some.inj same)
      rw [behindPlus_cons plus]
      cases bytes : (c :: cs).flatMap String.utf8EncodeChar with
      | nil => simp [String.utf8EncodeChar_ne_nil] at bytes
      | cons b bs =>
        rw [bytes] at first
        have other : b ≠ 0x2B := fun same => first (congrArg some same)
        rw [parse?, if_pos other]
        rfl

/-- The bytes of a text are read as a number exactly if its characters are, and as the same. -/
theorem readBytes_eq (text : String) : readBytes? text = readCount? text := by
  rw [readBytes?, Text.bytes_eq, String.toList_ofList, parse_flatMap, accumulate_zero,
    readCount_eq (Text.trimmed_trim text.toList)]
  generalize behindPlus (Text.trim text.toList) = digits
  cases digits.isEmpty <;> cases digits.all Char.isDigit <;> rfl

/-! ## The settings -/

variable {content url : Option String}

theorem maxConnections_of_gives (gives : Gives content m) :
    (ofEnvironment url content).maxConnections = m := by
  obtain ⟨text, core, rfl, parts⟩ := gives
  have read := readCount_of_gives ⟨text, core, rfl, parts⟩
  show ((some text).bind readCount?).getD _ = m
  rw [Option.bind_some, read, Option.getD_some]

theorem maxConnections_of_passedOver (passed : PassedOver content) :
    (ofEnvironment url content).maxConnections = 5 := by
  cases content with
  | none => rfl
  | some text =>
    have unread := readCount_of_passedOver passed
    show ((some text).bind readCount?).getD _ = 5
    rw [Option.bind_some, unread]
    rfl

theorem passedOver_iff : PassedOver content ↔ ∀ m, ¬ Gives content m := by
  constructor
  · intro passed m gives
    obtain ⟨text, core, rfl, parts⟩ := gives
    have read := readCount_of_gives ⟨text, core, rfl, parts⟩
    rw [readCount_of_passedOver passed] at read
    cases read
  · intro none_given
    obtain ⟨m, gives⟩ | passed := gives_or_passedOver content
    · exact absurd gives (none_given m)
    · exact passed

theorem maxConnections_iff : (ofEnvironment url content).maxConnections = m ↔
    Gives content m ∨ m = 5 ∧ PassedOver content := by
  constructor
  · intro same
    obtain ⟨k, gives⟩ | passed := gives_or_passedOver content
    · left
      rw [← same, maxConnections_of_gives gives]
      exact gives
    · right
      rw [← same, maxConnections_of_passedOver passed]
      exact ⟨rfl, passed⟩
  · intro h
    obtain gives | ⟨rfl, passed⟩ := h
    · exact maxConnections_of_gives gives
    · exact maxConnections_of_passedOver passed

/-- A number that is given goes beside the database. -/
theorem ofEnvironment_of_gives (gives : Gives content m) (database : String) :
    ofEnvironment (some database) content = (Settings.new database).withMaxConnections m := by
  have number : (ofEnvironment (some database) content).maxConnections = m :=
    maxConnections_of_gives gives
  calc ofEnvironment (some database) content
      = ⟨database, (ofEnvironment (some database) content).maxConnections⟩ := rfl
    _ = ⟨database, m⟩ := by rw [number]
    _ = (Settings.new database).withMaxConnections m := rfl

theorem gives_toString (n : UInt32) (front : ∀ c ∈ before, c ∈ whiteSpace)
    (back : ∀ c ∈ after, c ∈ whiteSpace) :
    Gives (some (String.ofList (before ++ (toString n).toList ++ after))) n := by
  have digits : (toString n).toList = Nat.toDigits 10 n.toNat := Nat.toList_repr
  have denotes : Denotes (toString n).toList n.toNat := digits ▸ denotes_toDigits n.toNat
  refine ⟨_, _, rfl, ?_, denotes⟩
  rw [String.toList_ofList]
  exact denotes.trimmed front back

/-- The settings that an environment gives are the database that one variable holds, or the default if
it is not set, and the number of connections that the other one gives, or the default if it gives none.
It gives the number that its text denotes between blanks, by digits with a `+` in front of them or
without, and none if it is not set, or if there is nothing between the blanks, a character that is no
digit, a minus sign included, or a number beyond 32 bits. Each setting depends on its own variable
alone. So the decimal text of a number between any blanks gives the settings that are made from the
database and this number. The bytes of a text are read as what its characters denote. -/
theorem ofLookup_exact (lookup : String → Option String) :
    (ofLookup lookup).url = (lookup "DATABASE_URL").getD "sqlite::memory:" ∧
    (∀ n, (ofLookup lookup).maxConnections = n ↔
      Gives (lookup "DATABASE_MAX_CONNECTIONS") n ∨
        n = 5 ∧ PassedOver (lookup "DATABASE_MAX_CONNECTIONS")) ∧
    (PassedOver (lookup "DATABASE_MAX_CONNECTIONS") ↔
      ∀ n, ¬ Gives (lookup "DATABASE_MAX_CONNECTIONS") n) ∧
    (∀ other : String → Option String, other "DATABASE_URL" = lookup "DATABASE_URL" →
      (ofLookup other).url = (ofLookup lookup).url) ∧
    (∀ other : String → Option String,
      other "DATABASE_MAX_CONNECTIONS" = lookup "DATABASE_MAX_CONNECTIONS" →
      (ofLookup other).maxConnections = (ofLookup lookup).maxConnections) ∧
    (∀ url (n : UInt32) before after, (∀ c ∈ before, c ∈ whiteSpace) →
      (∀ c ∈ after, c ∈ whiteSpace) → lookup "DATABASE_URL" = some url →
      lookup "DATABASE_MAX_CONNECTIONS" =
        some (String.ofList (before ++ (toString n).toList ++ after)) →
      ofLookup lookup = (Settings.new url).withMaxConnections n) ∧
    ∀ text, readBytes? text = readCount? text := by
  have parts (other : String → Option String) : ofLookup other =
      ofEnvironment (other "DATABASE_URL") (other "DATABASE_MAX_CONNECTIONS") := rfl
  refine ⟨rfl, fun n => maxConnections_iff, passedOver_iff, ?_, ?_, ?_, readBytes_eq⟩
  · intro other same
    rw [parts, parts, same]
    rfl
  · intro other same
    rw [parts, parts, same]
    rfl
  · intro url n before after front back given written
    rw [parts, given, written]
    exact ofEnvironment_of_gives (gives_toString n front back) url

/-- The largest number of connections between blanks. -/
theorem ofLookup_of_largest_count :
    let environment : String → Option String := fun
      | "DATABASE_URL" => some "sqlite://blog.db"
      | "DATABASE_MAX_CONNECTIONS" => some "\u2003 4294967295\n"
      | _ => none
    ofLookup environment = (Settings.new "sqlite://blog.db").withMaxConnections 4294967295 := by
  intro environment
  have front : ∀ c ∈ ['\u2003', ' '], c ∈ whiteSpace :=
    List.forall_mem_cons.2 ⟨by decide, List.forall_mem_singleton.2 (by decide)⟩
  have back : ∀ c ∈ ['\n'], c ∈ whiteSpace := List.forall_mem_singleton.2 (by decide)
  obtain ⟨-, -, -, -, -, made, -⟩ := ofLookup_exact environment
  exact made "sqlite://blog.db" 4294967295 ['\u2003', ' '] ['\n'] front back rfl (by decide +kernel)

/-- A sign in front of a sign, a minus sign, digits of other scripts and what stands between digits
are no part of a number, and zeros in front of it are. -/
example : ["\t+0042 ", "4294967296", "-0", "+", "", "++1", "1 2", "1_0", "\u0667"].map readCount? =
    [some 42, none, none, none, none, none, none, none, none] := by
  decide +kernel

end SelectQuery.Settings
