import SelectQuery.Proofs.Names
import SelectQuery.Number.Digits

/-!
The lexical rules of SQLite. A text is read from the left; each token is as long as the rule for its
first character makes it, blanks stand between tokens, and what no rule covers is illegal.

What is proved:
  1. `scan_append`: a name, a keyword or a number ends at the latest where a blank, a comma, a closing
     parenthesis or the end of the text follows.
  2. `lex_append`: a text of names and keywords is read the same way before all of these.
  3. `Scans`: texts with this property; `spaced`, `listed` and `parens` put them together.
  4. `Takes`: texts that are one token before every border, and so have the property.
-/

namespace SelectQuery.Sqlite

open Text (isIdentifierRest Only)

/-- A token of a statement, with what it denotes. -/
inductive Token where
  | word (text : List Char)
  /-- A name in double quotes, backquotes or brackets. -/
  | quoted (name : List Char)
  | string (content : List Char)
  | blob (bytes : List UInt8)
  | integer (n : Nat)
  /-- A number with a point, an exponent or hexadecimal digits. -/
  | decimal (text : List Char)
  | mark
  /-- A numbered or named parameter. -/
  | parameter (text : List Char)
  | sign (text : List Char)
  | comment
  | illegal
  deriving DecidableEq

/-! ## The rules -/

/-- Whether `c` stands between tokens. -/
def isBlank (c : Char) : Bool := c == ' ' || c == '\t' || c == '\n' || c == '\x0c' || c == '\r'

/-- Whether `c` can stand in a word. Every character beyond ASCII can. -/
def isWordChar (c : Char) : Bool := isIdentifierRest c || c == '$' || 0x80 ≤ c.toNat

def isHex (c : Char) : Bool := c.isDigit || 'a' ≤ c.toLower && c.toLower ≤ 'f'

def hexValue (c : Char) : Nat := if c.isDigit then c.toNat - 48 else c.toLower.toNat - 87

/-- The bytes that pairs of hexadecimal digits denote. -/
def ofHex : List Char → List UInt8
  | a :: b :: rest => .ofNat (16 * hexValue a + hexValue b) :: ofHex rest
  | _ => []

/-- A rule for the front of a text: what belongs to it, and the text behind it. -/
abbrev Front := List Char → List Char × List Char

namespace Front

/-- The longest front of characters that satisfy `p`. -/
def run (p : Char → Bool) : Front := fun cs => (cs.takeWhile p, cs.dropWhile p)

/-- One front and behind it another. -/
def andThen (f g : Front) : Front := fun cs =>
  let (a, rest) := f cs
  let (b, rest) := g rest
  (a ++ b, rest)

def digits : Front := run Char.isDigit

/-- A point and the digits behind it. -/
def fraction : Front
  | '.' :: cs => ('.' :: cs.takeWhile Char.isDigit, cs.dropWhile Char.isDigit)
  | cs => ([], cs)

/-- An exponent: a letter `e`, a sign or none, and digits. -/
def exponent : Front
  | e :: c :: cs =>
    if e ≠ 'e' ∧ e ≠ 'E' then ([], e :: c :: cs)
    else if c.isDigit then (e :: c :: cs.takeWhile Char.isDigit, cs.dropWhile Char.isDigit)
    else if (c = '+' ∨ c = '-') ∧ cs.head?.any Char.isDigit then
      (e :: c :: cs.takeWhile Char.isDigit, cs.dropWhile Char.isDigit)
    else ([], e :: c :: cs)
  | cs => ([], cs)

/-- The digits of a number in hexadecimal notation, behind a zero. -/
def hexadecimal : Front := fun cs =>
  (cs.take 1 ++ (cs.drop 1).takeWhile isHex, (cs.drop 1).dropWhile isHex)

/-- Whether the text behind a zero makes it a number in hexadecimal notation. -/
def announcesHex : List Char → Bool
  | x :: d :: _ => (x == 'x' || x == 'X') && isHex d
  | _ => false

/-- What belongs to a number behind its first character `c`, a digit or a point. -/
def number (c : Char) : Front := fun cs =>
  if c = '.' then (digits.andThen exponent) cs
  else if c = '0' ∧ announcesHex cs then hexadecimal cs
  else (digits.andThen (fraction.andThen exponent)) cs

end Front

def Token.ofNumber (text : List Char) : Token :=
  if text.all Char.isDigit then .integer (Number.ofDigits text) else .decimal text

/-- A number that starts with `c` and the text behind it. Where a word follows at once, both are
illegal. -/
def number (c : Char) (cs : List Char) : Token × List Char :=
  let text := (Front.number c cs).1
  let tail := Front.run isWordChar (Front.number c cs).2
  (if tail.1.isEmpty then .ofNumber (c :: text) else .illegal, tail.2)

/-- The text up to the closing quote `q`, and the text behind it. A doubled quote stands for one. -/
def unquote (q : Char) : List Char → Option (List Char × List Char)
  | [] => none
  | c :: cs =>
    if c = q then
      match cs with
      | [] => some ([], [])
      | d :: rest =>
        if d = q then (unquote q rest).map fun (text, rest) => (q :: text, rest)
        else some ([], d :: rest)
    else (unquote q cs).map fun (text, rest) => (c :: text, rest)

/-- A token in quotes and the text behind it. -/
def quotation (token : List Char → Token) (q : Char) (cs : List Char) : Token × List Char :=
  match unquote q cs with
  | some (text, rest) => (token text, rest)
  | none => (.illegal, [])

def bracketed (cs : List Char) : Token × List Char :=
  match cs.dropWhile (· ≠ ']') with
  | [] => (.illegal, [])
  | _ :: rest => (.quoted (cs.takeWhile (· ≠ ']')), rest)

/-- A blob and the text behind it, where `cs` starts with the opening quote. -/
def blob (cs : List Char) : Token × List Char :=
  let (digits, rest) := Front.run isHex cs.tail
  match rest with
  | '\'' :: rest => (if digits.length % 2 = 0 then .blob (ofHex digits) else .illegal, rest)
  | rest => (.illegal, (rest.dropWhile (· ≠ '\'')).tail)

/-- The text behind a comment in stars. -/
def afterComment : List Char → List Char
  | [] => []
  | '*' :: '/' :: rest => rest
  | _ :: rest => afterComment rest

/-- The signs, each before those that it starts with. -/
def signs : List (List Char) :=
  [['-', '>', '>'], ['-', '>'], ['<', '='], ['<', '>'], ['<', '<'], ['<'], ['>', '='], ['>', '>'],
    ['>'], ['=', '='], ['='], ['!', '='], ['|', '|'], ['|'], ['('], [')'], [';'], ['+'], ['-'],
    ['*'], ['/'], ['%'], [','], ['&'], ['~'], ['.']]

/-- A sign that starts with `c`, and the text behind it. -/
def sign (c : Char) (cs : List Char) : Token × List Char :=
  match signs.find? (·.isPrefixOf (c :: cs)) with
  | some s => (.sign s, cs.drop (s.length - 1))
  | none => (.illegal, cs)

def parameter (c : Char) (cs : List Char) : Token × List Char :=
  let (text, rest) := Front.run (if c = '?' then Char.isDigit else isWordChar) cs
  (if text.isEmpty then if c = '?' then .mark else .illegal else .parameter (c :: text), rest)

/-- A token that starts with a letter, a digit, an underscore or a point, and the text behind it. -/
def lexeme (c : Char) (cs : List Char) : Token × List Char :=
  if (c = 'x' ∨ c = 'X') ∧ cs.head? = some '\'' then blob cs
  else if c.isDigit ∨ (c = '.' ∧ cs.head?.any Char.isDigit) then number c cs
  else if c = '.' then (.sign ['.'], cs)
  else (.word (c :: cs.takeWhile isWordChar), cs.dropWhile isWordChar)

/-- A token that starts with any other character but a blank, and the text behind it. -/
def other (c : Char) (cs : List Char) : Token × List Char :=
  match c with
  | '\'' => quotation .string c cs
  | '\x22' => quotation .quoted c cs
  | '\x60' => quotation .quoted c cs
  | '[' => bracketed cs
  | '?' => parameter c cs
  | '$' => parameter c cs
  | '@' => parameter c cs
  | ':' => parameter c cs
  | '#' => parameter c cs
  | '-' => if cs.head? = some '-' then (.comment, cs.dropWhile (· ≠ '\n')) else sign c cs
  | '/' => if cs.head? = some '*' then (.comment, afterComment cs.tail) else sign c cs
  | _ => sign c cs

/-- The token that starts with `c`, if one does, and the text behind it. -/
def scan (c : Char) (cs : List Char) : Option Token × List Char :=
  if isBlank c then (none, cs)
  else if isNameChar c || 0x80 ≤ c.toNat then (some (lexeme c cs).1, (lexeme c cs).2)
  else (some (other c cs).1, (other c cs).2)

/-! ## What a rule leaves is the end of the text -/

namespace Front

/-- What belongs to the front and what stands behind it make up the text. -/
def Splits (f : Front) : Prop := ∀ cs, (f cs).1 ++ (f cs).2 = cs

theorem splits_run (p : Char → Bool) : (run p).Splits := fun _ => List.takeWhile_append_dropWhile

theorem Splits.andThen {f g : Front} (hf : f.Splits) (hg : g.Splits) : (f.andThen g).Splits := by
  intro cs
  have whole : (f cs).1 ++ ((g (f cs).2).1 ++ (g (f cs).2).2) = cs := by rw [hg, hf]
  rwa [← List.append_assoc] at whole

theorem splits_fraction : fraction.Splits := by
  intro cs
  unfold fraction
  split <;> simp [List.takeWhile_append_dropWhile]

theorem splits_exponent : exponent.Splits := by
  intro cs
  unfold exponent
  split
  · split
    · rfl
    · split
      · simp [List.takeWhile_append_dropWhile]
      · split <;> simp [List.takeWhile_append_dropWhile]
  · rfl

theorem splits_number (c : Char) : (number c).Splits := by
  intro cs
  unfold number
  split
  · exact (splits_run _).andThen splits_exponent cs
  · split
    · rw [hexadecimal, List.append_assoc, List.takeWhile_append_dropWhile, List.take_append_drop]
    · exact (splits_run _).andThen (splits_fraction.andThen splits_exponent) cs

end Front

theorem suffix_number (c : Char) (cs : List Char) : (number c cs).2 <:+ cs :=
  (List.dropWhile_suffix _).trans ⟨_, Front.splits_number c cs⟩

theorem suffix_unquote {q : Char} {cs text rest : List Char}
    (h : unquote q cs = some (text, rest)) : rest <:+ cs := by
  fun_induction unquote q cs generalizing text with
  | case1 => cases h
  | case2 => cases h; exact List.nil_suffix
  | case3 rest' ih =>
    obtain ⟨⟨inner, rest''⟩, found, same⟩ := Option.map_eq_some_iff.1 h
    cases same
    exact (ih found).trans ((List.suffix_cons q rest').trans (List.suffix_cons q _))
  | case4 d rest' _ => cases h; exact List.suffix_cons q _
  | case5 c cs' _ ih =>
    obtain ⟨⟨inner, rest'⟩, found, same⟩ := Option.map_eq_some_iff.1 h
    cases same
    exact (ih found).trans (List.suffix_cons c cs')

theorem suffix_afterComment (cs : List Char) : afterComment cs <:+ cs := by
  fun_induction afterComment cs with
  | case1 => exact List.suffix_refl []
  | case2 rest => exact ⟨['*', '/'], rfl⟩
  | case3 c rest _ ih => exact ih.trans (List.suffix_cons c rest)

theorem suffix_blob (cs : List Char) : (blob cs).2 <:+ cs := by
  have digits : cs.tail.dropWhile isHex <:+ cs := (List.dropWhile_suffix _).trans (List.tail_suffix cs)
  unfold blob
  simp only [Front.run]
  split
  · rename_i rest' h
    exact (List.suffix_cons _ _).trans (h ▸ digits)
  · rename_i rest' h
    exact (List.tail_suffix _).trans ((List.dropWhile_suffix _).trans digits)

theorem suffix_lexeme (c : Char) (cs : List Char) : (lexeme c cs).2 <:+ cs := by
  unfold lexeme
  split
  · exact suffix_blob cs
  · split
    · exact suffix_number c cs
    · split
      · exact List.suffix_refl cs
      · exact List.dropWhile_suffix _

theorem suffix_quotation (token : List Char → Token) (q : Char) (cs : List Char) :
    (quotation token q cs).2 <:+ cs := by
  unfold quotation
  split
  · exact suffix_unquote ‹_›
  · exact List.nil_suffix

theorem suffix_sign (c : Char) (cs : List Char) : (sign c cs).2 <:+ cs := by
  unfold sign
  split
  · exact List.drop_suffix _ cs
  · exact List.suffix_refl cs

theorem suffix_bracketed (cs : List Char) : (bracketed cs).2 <:+ cs := by
  have name : cs.dropWhile (· ≠ ']') <:+ cs := List.dropWhile_suffix _
  unfold bracketed
  split
  · exact List.nil_suffix
  · rename_i h
    exact (List.suffix_cons _ _).trans (h ▸ name)

theorem suffix_other (c : Char) (cs : List Char) : (other c cs).2 <:+ cs := by
  unfold other
  split
  all_goals first
    | exact suffix_quotation _ _ cs
    | exact suffix_bracketed cs
    | exact List.dropWhile_suffix _
    | exact suffix_sign _ cs
    | split
      · first
          | exact List.dropWhile_suffix _
          | exact (suffix_afterComment _).trans (List.tail_suffix cs)
      · exact suffix_sign _ cs

/-- What stands behind the first token is an end of the text. -/
theorem suffix_scan (c : Char) (cs : List Char) : (scan c cs).2 <:+ cs := by
  unfold scan
  split
  · exact List.suffix_refl cs
  · split
    · exact suffix_lexeme c cs
    · exact suffix_other c cs

/-- The tokens of a text. -/
def lex : List Char → List Token
  | [] => []
  | c :: cs => (scan c cs).1.toList ++ lex (scan c cs).2
termination_by cs => cs.length
decreasing_by exact Nat.lt_succ_of_le (suffix_scan c cs).length_le

theorem lex_nil : lex [] = [] := by rw [lex]

theorem lex_cons (c : Char) (cs : List Char) :
    lex (c :: cs) = (scan c cs).1.toList ++ lex (scan c cs).2 := by
  rw [lex]

/-- The token that a text starts with, and the text behind it. No token starts with a blank. -/
def first? : List Char → Option (Token × List Char)
  | [] => none
  | c :: cs => (scan c cs).1.map fun tok => (tok, (scan c cs).2)

theorem first_of_scan {c : Char} {cs rest : List Char} {tok : Token}
    (h : scan c cs = (some tok, rest)) : first? (c :: cs) = some (tok, rest) := by
  rw [first?, h]
  rfl

theorem lex_of_first {cs rest : List Char} {tok : Token} (h : first? cs = some (tok, rest)) :
    lex cs = tok :: lex rest := by
  cases cs with
  | nil => cases h
  | cons c cs =>
    obtain ⟨tok, found, same⟩ := Option.map_eq_some_iff.1 h
    cases same
    rw [lex_cons, found]
    rfl

example : lex "u.a<='it''s?' --'?\nX'0fAB' -1.5e3 ?2 ?".toList =
    [.word ['u'], .sign ['.'], .word ['a'], .sign ['<', '='], .string "it's?".toList, .comment,
      .blob [0x0f, 0xab], .sign ['-'], .decimal "1.5e3".toList, .parameter ['?', '2'], .mark] := by
  decide +kernel

/-! ## Borders -/

/-- A text that no word, number or sign in front of it goes on in. -/
def Border (rest : List Char) : Prop := ∀ c ∈ rest.head?, c = ' ' ∨ c = ',' ∨ c = ')'

theorem Border.cases {rest : List Char} (h : Border rest) :
    rest = [] ∨ ∃ c cs, rest = c :: cs ∧ (c = ' ' ∨ c = ',' ∨ c = ')') := by
  cases rest with
  | nil => exact .inl rfl
  | cons c cs => exact .inr ⟨c, cs, rfl, h c rfl⟩

/-- Whether no border starts with a character that satisfies `p`. -/
def Inside (p : Char → Bool) : Prop := p ' ' = false ∧ p ',' = false ∧ p ')' = false

theorem Border.head {rest : List Char} (h : Border rest) {p : Char → Bool} (inside : Inside p) :
    rest.head?.any p = false := by
  obtain ⟨blank, comma, paren⟩ := inside
  rcases h.cases with rfl | ⟨c, cs, rfl, rfl | rfl | rfl⟩
  · rfl
  · exact blank
  · exact comma
  · exact paren

theorem head_append {cs rest : List Char} (border : Border rest) {p : Char → Bool}
    (inside : Inside p) : (cs ++ rest).head?.any p = cs.head?.any p := by
  cases cs with
  | nil => exact border.head inside
  | cons c cs => rfl

theorem inside_digit : Inside Char.isDigit := ⟨rfl, rfl, rfl⟩

namespace Front

/-- A front that stays the same, whatever border follows the text. -/
def Local (f : Front) : Prop :=
  ∀ cs rest, Border rest → f (cs ++ rest) = ((f cs).1, (f cs).2 ++ rest)

theorem local_run {p : Char → Bool} (inside : Inside p) : (run p).Local := by
  intro cs rest border
  have outside := border.head inside
  induction cs with
  | nil =>
    cases rest with
    | nil => rfl
    | cons c rest =>
      have stop : p c = false := outside
      simp [run, stop]
  | cons c cs ih =>
    simp only [run, Prod.mk.injEq] at ih ⊢
    rw [List.cons_append, List.takeWhile_cons, List.dropWhile_cons, List.takeWhile_cons,
      List.dropWhile_cons]
    cases p c with
    | true => exact ⟨congrArg _ ih.1, ih.2⟩
    | false => exact ⟨rfl, rfl⟩

theorem Local.andThen {f g : Front} (hf : f.Local) (hg : g.Local) : (f.andThen g).Local := by
  intro cs rest border
  show ((f (cs ++ rest)).1 ++ (g (f (cs ++ rest)).2).1, (g (f (cs ++ rest)).2).2) = _
  rw [hf cs rest border, hg _ rest border]
  rfl

theorem local_digits : digits.Local := local_run inside_digit

theorem local_fraction : fraction.Local := by
  intro cs rest border
  cases cs with
  | nil => rcases border.cases with rfl | ⟨c, cs, rfl, rfl | rfl | rfl⟩ <;> rfl
  | cons c cs =>
    by_cases point : c = '.'
    · have same := local_digits cs rest border
      simp only [digits, run, Prod.mk.injEq] at same
      simp [point, fraction, same]
    · simp [fraction, point]

theorem exponent_of_other {c : Char} (h : c ≠ 'e' ∧ c ≠ 'E') (cs : List Char) :
    exponent (c :: cs) = ([], c :: cs) := by
  cases cs with
  | nil => rfl
  | cons d cs => rw [exponent, if_pos h]

theorem local_exponent : exponent.Local := by
  intro cs rest border
  rcases cs with _ | ⟨e, _ | ⟨c, cs⟩⟩
  · rcases border.cases with rfl | ⟨c, cs, rfl, rfl | rfl | rfl⟩
    · rfl
    all_goals exact exponent_of_other (by decide) cs
  -- A letter at the end of the text starts no exponent, as no digit follows.
  · rcases border.cases with rfl | ⟨c, cs, rfl, rfl | rfl | rfl⟩
    · rfl
    all_goals
      show exponent (e :: _ :: cs) = ([], e :: _ :: cs)
      simp [exponent, Char.isDigit]
  · have same := local_digits cs rest border
    simp only [digits, run, Prod.mk.injEq] at same
    simp only [List.cons_append, exponent, head_append border inside_digit, same]
    split
    · rfl
    · split
      · rfl
      · split <;> rfl

theorem announcesHex_append {cs rest : List Char} (border : Border rest) :
    announcesHex (cs ++ rest) = announcesHex cs := by
  rcases cs with _ | ⟨x, _ | ⟨d, cs⟩⟩
  · rcases border.cases with rfl | ⟨c, _ | ⟨d, cs⟩, rfl, rfl | rfl | rfl⟩ <;> rfl
  · rcases border.cases with rfl | ⟨c, cs, rfl, rfl | rfl | rfl⟩
    · rfl
    all_goals exact Bool.and_false _
  · rfl

theorem hexadecimal_append {cs rest : List Char} (border : Border rest) (h : announcesHex cs) :
    hexadecimal (cs ++ rest) = ((hexadecimal cs).1, (hexadecimal cs).2 ++ rest) := by
  cases cs with
  | nil => cases h
  | cons x cs =>
    have same := local_run (p := isHex) ⟨rfl, rfl, rfl⟩ cs rest border
    simp only [run, Prod.mk.injEq] at same
    simp [hexadecimal, same]

theorem local_number (c : Char) : (number c).Local := by
  intro cs rest border
  unfold number
  rw [announcesHex_append border]
  split
  · exact local_digits.andThen local_exponent cs rest border
  · split
    · rename_i hex
      exact hexadecimal_append border hex.2
    · exact local_digits.andThen (local_fraction.andThen local_exponent) cs rest border

end Front

theorem inside_wordChar : Inside isWordChar := by
  refine ⟨?_, ?_, ?_⟩ <;> decide

theorem number_append (c : Char) {cs rest : List Char} (border : Border rest) :
    number c (cs ++ rest) = ((number c cs).1, (number c cs).2 ++ rest) := by
  simp only [number, Front.local_number c cs rest border,
    Front.local_run inside_wordChar _ rest border]

theorem lexeme_append (c : Char) {cs rest : List Char} (plain : Only isTextChar cs)
    (border : Border rest) :
    lexeme c (cs ++ rest) = ((lexeme c cs).1, (lexeme c cs).2 ++ rest) := by
  have same := Front.local_run inside_wordChar cs rest border
  simp only [Front.run, Prod.mk.injEq] at same
  -- No literal of a blob starts within the text or at its border.
  have inner : cs.head? ≠ some '\'' := by
    intro quote
    exact absurd (plain _ (List.mem_of_mem_head? quote)) (by decide)
  have outer : (cs ++ rest).head? ≠ some '\'' := by
    cases cs with
    | nil => rcases border.cases with rfl | ⟨c, cs, rfl, rfl | rfl | rfl⟩ <;> simp
    | cons d cs => exact inner
  simp only [lexeme, inner, outer, and_false, if_false,
    head_append border inside_digit, number_append c border, same]
  split
  · rfl
  · split <;> rfl

theorem isBlank_of_nameChar {c : Char} (name : isNameChar c) : isBlank c = false := by
  rw [Bool.eq_false_iff]
  intro blank
  simp only [isBlank, Bool.or_eq_true, beq_iff_eq] at blank
  rcases blank with (((rfl | rfl) | rfl) | rfl) | rfl <;> exact absurd name (by decide)

theorem scan_nameChar {c : Char} (name : isNameChar c) (cs : List Char) :
    scan c cs = (some (lexeme c cs).1, (lexeme c cs).2) := by
  simp [scan, isBlank_of_nameChar name, name]

/-- In such a text, what is no blank starts a lexeme. -/
theorem scan_textChar {c : Char} (text : isTextChar c) :
    (∀ cs, scan c cs = (none, cs)) ∨
      ∀ cs, scan c cs = (some (lexeme c cs).1, (lexeme c cs).2) := by
  rw [isTextChar, Bool.or_eq_true, beq_iff_eq] at text
  rcases text with name | rfl
  · exact .inr (scan_nameChar name)
  · exact .inl fun _ => rfl

theorem scan_append {c : Char} {cs rest : List Char} (plain : Only isTextChar (c :: cs))
    (border : Border rest) : scan c (cs ++ rest) = ((scan c cs).1, (scan c cs).2 ++ rest) := by
  have later : Only isTextChar cs := fun d hd => plain d (List.mem_cons_of_mem c hd)
  rcases scan_textChar (plain c List.mem_cons_self) with h | h <;> rw [h, h]
  rw [lexeme_append c later border]

/-- A text of names and keywords is read the same way before every border. -/
theorem lex_append {cs : List Char} (plain : Only isTextChar cs) {rest : List Char}
    (border : Border rest) : lex (cs ++ rest) = lex cs ++ lex rest := by
  fun_induction lex cs with
  | case1 => rfl
  | case2 c cs ih =>
    have remaining : Only isTextChar (scan c cs).2 := fun d hd =>
      plain d (List.mem_cons_of_mem c ((suffix_scan c cs).mem hd))
    rw [List.cons_append, lex_cons, scan_append plain border, ih remaining, List.append_assoc]

theorem blob_ne_mark (cs : List Char) : (blob cs).1 ≠ .mark := by
  unfold blob
  simp only
  split
  · split <;> exact Token.noConfusion
  · exact Token.noConfusion

theorem ofNumber_ne_mark (text : List Char) : Token.ofNumber text ≠ .mark := by
  unfold Token.ofNumber
  split <;> exact Token.noConfusion

theorem number_ne_mark (c : Char) (cs : List Char) : (number c cs).1 ≠ .mark := by
  simp only [number]
  split
  · exact ofNumber_ne_mark _
  · exact Token.noConfusion

theorem lexeme_ne_mark (c : Char) (cs : List Char) : (lexeme c cs).1 ≠ .mark := by
  unfold lexeme
  split
  · exact blob_ne_mark cs
  · split
    · exact number_ne_mark c cs
    · split <;> exact Token.noConfusion

theorem scan_ne_mark {c : Char} (text : isTextChar c) (cs : List Char) :
    (scan c cs).1 ≠ some .mark := by
  rcases scan_textChar text with h | h <;> rw [h]
  · exact Option.some_ne_none _ ∘ Eq.symm
  · exact fun mark => lexeme_ne_mark c cs (Option.some.inj mark)

theorem mark_not_mem_lex {cs : List Char} (plain : Only isTextChar cs) : .mark ∉ lex cs := by
  fun_induction lex cs with
  | case1 => exact List.not_mem_nil
  | case2 c cs ih =>
    have remaining : Only isTextChar (scan c cs).2 := fun d hd =>
      plain d (List.mem_cons_of_mem c ((suffix_scan c cs).mem hd))
    intro mark
    rcases List.mem_append.1 mark with mark | mark
    · exact scan_ne_mark (plain c List.mem_cons_self) cs (Option.mem_toList.1 mark)
    · exact ih remaining mark

/-! ## Texts that are read as they stand -/

/-- The text is read as the tokens, whatever border follows. -/
def Scans (text : List Char) (toks : List Token) : Prop :=
  ∀ rest, Border rest → lex (text ++ rest) = toks ++ lex rest

theorem lex_blank (rest : List Char) : lex (' ' :: rest) = lex rest := by
  rw [lex_cons]
  rfl

theorem lex_comma (rest : List Char) : lex (',' :: rest) = .sign [','] :: lex rest := by
  rw [lex_cons]
  rfl

theorem lex_left (rest : List Char) : lex ('(' :: rest) = .sign ['('] :: lex rest := by
  rw [lex_cons]
  rfl

theorem lex_right (rest : List Char) : lex (')' :: rest) = .sign [')'] :: lex rest := by
  rw [lex_cons]
  rfl

namespace Scans

variable {a b : List Char} {x y : List Token}

theorem plain {cs : List Char} (h : Only isTextChar cs) : Scans cs (lex cs) :=
  fun _ border => lex_append h border

theorem whole (h : Scans a x) : lex a = x := by
  have alone := h [] fun _ hc => nomatch hc
  rwa [List.append_nil, lex_nil, List.append_nil] at alone

theorem empty : Scans [] [] := fun _ _ => rfl

theorem spaced (ha : Scans a x) (hb : Scans b y) : Scans (a ++ ' ' :: b) (x ++ y) := by
  intro rest border
  have blank : Border (' ' :: (b ++ rest)) := by
    rintro c ⟨⟩
    exact .inl rfl
  rw [List.append_assoc, List.cons_append, ha _ blank, lex_blank, hb rest border,
    List.append_assoc]

theorem listed (ha : Scans a x) (hb : Scans b y) :
    Scans (a ++ ',' :: ' ' :: b) (x ++ .sign [','] :: y) := by
  intro rest border
  have comma : Border (',' :: ' ' :: (b ++ rest)) := by
    rintro c ⟨⟩
    exact .inr (.inl rfl)
  rw [List.append_assoc, List.cons_append, List.cons_append, ha _ comma, lex_comma, lex_blank,
    hb rest border, List.append_assoc, List.cons_append]

theorem parens (ha : Scans a x) :
    Scans ('(' :: a ++ [')']) (.sign ['('] :: x ++ [.sign [')']]) := by
  intro rest border
  have paren : Border (')' :: rest) := by
    rintro c ⟨⟩
    exact .inr (.inr rfl)
  have inner : lex (a ++ ')' :: rest) = x ++ .sign [')'] :: lex rest := by
    rw [ha _ paren, lex_right]
  calc lex ('(' :: a ++ [')'] ++ rest) = lex ('(' :: (a ++ ')' :: rest)) := by simp
    _ = .sign ['('] :: x ++ [.sign [')']] ++ lex rest := by rw [lex_left, inner]; simp

/-- A placeholder is a token of its own. -/
theorem mark : Scans ['?'] [.mark] := by
  intro rest border
  have stop : Front.run Char.isDigit ([] ++ rest) = _ :=
    Front.local_run inside_digit [] rest border
  have read : parameter '?' rest = (.mark, rest) := by
    rw [parameter, if_pos rfl, ← List.nil_append rest, stop]
    rfl
  show lex ('?' :: rest) = _
  rw [lex_cons]
  show [(parameter '?' rest).1] ++ lex (parameter '?' rest).2 = _
  rw [read]

end Scans

/-- The text is taken as the token and nothing behind it is, whatever border follows. -/
def Takes (text : List Char) (tok : Token) : Prop :=
  ∀ rest, Border rest → first? (text ++ rest) = some (tok, rest)

namespace Takes

theorem scans {text : List Char} {tok : Token} (h : Takes text tok) : Scans text [tok] :=
  fun rest border => lex_of_first (h rest border)

/-- A name, a keyword or a number is taken before a border, if it is one token where nothing
follows. -/
theorem plain {c : Char} {cs : List Char} {tok : Token} (plain : Only isTextChar (c :: cs))
    (whole : scan c cs = (some tok, [])) : Takes (c :: cs) tok := by
  intro rest border
  rw [List.cons_append]
  apply first_of_scan
  rw [scan_append plain border, whole]
  rfl

end Takes

end SelectQuery.Sqlite
