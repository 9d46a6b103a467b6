import SelectQuery.Proofs.Floating
import SelectQuery.Proofs.Sqlite.Inlined
import SelectQuery.Proofs.Sqlite.Stored

/-!
The identifiers that a statement mentions, with placeholders and with literals. A finite
floating-point number is written in digits, but a NaN and the infinities are written as words, and
these are identifiers to SQLite.

What is proved:
  1. `literal_of_number`, `literal_of_no_number`: the literal of a floating-point number is one to
     SQLite exactly if the number is finite.
  2. `Phrase.mem_identifiers`: literals add their own identifiers to those of a statement, and no
     others.
  3. `identifiers_tokens`: only NaNs and infinities have any.
  4. `identifiers_sql`: so these are what a statement mentions more with literals than with
     placeholders.
-/

namespace SelectQuery

open Sqlite (Token Border Stored Scans Positional literal? lex minus)

namespace Sqlite

/-! ## Identifiers -/

/-- The identifier that a token is: a word that is no keyword, or a name in quotes. -/
def Token.identifier? : Token → Option (List Char)
  | word text => if keywords.contains (upperCase text) then none else some text
  | quoted name => some name
  | _ => none

def identifiers (toks : List Token) : List (List Char) := toks.filterMap Token.identifier?

theorem identifiers_append (a b : List Token) :
    identifiers (a ++ b) = identifiers a ++ identifiers b :=
  List.filterMap_append

theorem identifiers_sign (text : List Char) (toks : List Token) :
    identifiers (.sign text :: toks) = identifiers toks := rfl

theorem identifiers_minus (negative : Bool) (toks : List Token) :
    identifiers (minus negative ++ toks) = identifiers toks := by
  cases negative <;> rfl

theorem identifiers_ofNumber (text : List Char) : identifiers [.ofNumber text] = [] := by
  rw [Token.ofNumber]
  split <;> rfl

/-! ## Numbers as literals -/

def Stored.IsNumber : Stored → Prop
  | integer _ => True
  | real _ => True
  | _ => False

theorem Stored.isNumber_ofInt (n : Int) : (ofInt n).IsNumber := by
  rw [ofInt]
  split <;> exact trivial

/-- Digits, with or without a point, are a number. -/
theorem ofNumber_positional {text : List Char} (h : Positional text) (negative : Bool) :
    ∃ s : Stored, s.IsNumber ∧ Stored.ofNumber? negative (.ofNumber text) = some s := by
  have only := only_positional h
  rw [Token.ofNumber]
  split
  case isTrue => exact ⟨_, Stored.isNumber_ofInt _, rfl⟩
  case isFalse =>
    rcases text with _ | ⟨c, _ | ⟨x, digits⟩⟩
    · exact ⟨.real _, trivial, rfl⟩
    · exact ⟨.real _, trivial, rfl⟩
    · have second : isFloatingChar x := only x (by simp)
      have no_hex : ¬ (c = '0' ∧ (x = 'x' ∨ x = 'X')) := by
        rintro ⟨-, rfl | rfl⟩ <;> exact absurd second (by decide)
      rw [Stored.ofNumber?, if_neg no_hex]
      exact ⟨.real _, trivial, rfl⟩

end Sqlite

open Sqlite (identifiers)

namespace Number.Floating

/-- The word that a floating-point number is written as, if it is not written in digits. -/
def word? : Floating → Option (List Char)
  | nan => some ['N', 'a', 'N']
  | infinite _ => some ['i', 'n', 'f']
  | finite .. => none

theorem word_eq_none_iff {x : Binary64} : x.value.word? = none ↔ x.number ≠ none := by
  rw [← x.toRat_value]
  cases x.value <;> simp [word?, toRat?]

/-- The identifiers of a floating-point number: its word, if it is written as one. -/
theorem identifiers_tokens (x : Floating) : identifiers x.tokens = x.word?.toList := by
  cases x with
  | nan => decide +kernel
  | infinite negative =>
    rw [tokens, Sqlite.identifiers_minus]
    show identifiers [.word ['i', 'n', 'f']] = [['i', 'n', 'f']]
    decide +kernel
  | finite negative m q =>
    obtain ⟨text, -, -, tokens⟩ := Sqlite.plainText_finite negative m q
    rw [tokens, Sqlite.identifiers_minus, Sqlite.identifiers_ofNumber]
    rfl

end Number.Floating

namespace Value

variable {x : Number.Binary64}

/-- The literal of a finite number is an optional minus and digits, with or without a point among
them, and is read as a number. -/
theorem literal_of_number (h : x.number ≠ none) :
    (∃ negative text, Positional text ∧
      (float x).literal.toList = Number.signText negative ++ text) ∧
    ∀ rest, Border rest → ∃ s : Stored, s.IsNumber ∧
      literal? ((float x).literal.toList ++ rest) = some (s, rest) := by
  rw [← Number.Floating.word_eq_none_iff] at h
  cases value : x.value with
  | nan => rw [value] at h; cases h
  | infinite negative => rw [value] at h; cases h
  | finite negative m q =>
    obtain ⟨text, positional, written, -⟩ := Sqlite.plainText_finite negative m q
    have shown : (float x).literal.toList = Number.signText negative ++ text := by
      rw [literal, value, written]
    refine ⟨⟨negative, text, positional, shown⟩, fun rest border => ?_⟩
    obtain ⟨s, number, read⟩ := Sqlite.ofNumber_positional positional negative
    refine ⟨s, number, ?_⟩
    rw [shown, Sqlite.literal_number border positional, read]
    rfl

/-- A NaN or an infinity is written as a word, behind a minus or none, which is no literal but an
identifier. -/
theorem literal_of_no_number (h : x.number = none) :
    (∃ word, x.value.word? = some word ∧ identifiers (lex (float x).literal.toList) = [word]) ∧
    ∀ rest, Border rest → literal? ((float x).literal.toList ++ rest) = none := by
  have some_word : x.value.word? ≠ none := fun none => Number.Floating.word_eq_none_iff.1 none h
  obtain ⟨word, written⟩ := Option.ne_none_iff_exists'.1 some_word
  constructor
  · refine ⟨word, written, ?_⟩
    rw [literal, (Sqlite.scans_floating x.value).whole, Number.Floating.identifiers_tokens, written]
    rfl
  · intro rest border
    rw [literal]
    cases value : x.value with
    | nan =>
      have word : Sqlite.Takes ['N', 'a', 'N'] (.word ['N', 'a', 'N']) :=
        Sqlite.takes_word (by decide) (by decide)
      exact (Sqlite.literal_word border word).trans (if_neg (by decide +kernel))
    | infinite negative =>
      have word : Sqlite.Takes ['i', 'n', 'f'] (.word ['i', 'n', 'f']) :=
        Sqlite.takes_word (by decide) (by decide)
      rw [Sqlite.plainText_infinite]
      cases negative with
      | true =>
        -- Behind the minus a number has to follow.
        show literal? ('-' :: 'i' :: ('n' :: 'f' :: rest)) = none
        rw [literal?, Sqlite.first_minus (by decide)]
        exact Sqlite.number_of_takes border word true
      | false => exact (Sqlite.literal_word border word).trans (if_neg (by decide +kernel))
    | finite negative m q =>
      rw [value] at some_word
      exact absurd rfl some_word

end Value

/-! ## Statements -/

theorem Value.identifiers_tokens (v : Value) (word : List Char) :
    word ∈ identifiers v.tokens ↔ ∃ x, v = .float x ∧ x.value.word? = some word := by
  cases v with
  | float x => simp [tokens, Number.Floating.identifiers_tokens]
  | null =>
    have keyword : identifiers null.tokens = [] := by decide +kernel
    simp [keyword]
  | int n =>
    rw [tokens, Sqlite.identifiers_minus]
    simp [identifiers, Token.identifier?]
  | _ => simp [tokens, identifiers, Token.identifier?]

/-- The identifiers of a phrase are those of the phrase with placeholders, and those of what stands
for its values. -/
theorem Phrase.mem_identifiers (φ : Phrase) (read : Value → List Token) (name : List Char) :
    name ∈ identifiers (φ.tokens read) ↔ name ∈ identifiers (φ.tokens fun _ => [.mark]) ∨
      ∃ v ∈ φ.values, name ∈ identifiers (read v) := by
  induction φ with
  | slot v => simp [tokens, values, identifiers, Token.identifier?]
  | spaced a b iha ihb =>
    simp only [tokens, values, Sqlite.identifiers_append, List.mem_append, iha, ihb, or_and_right,
      exists_or]
    exact or_or_or_comm
  | listed a b iha ihb =>
    simp only [tokens, values, Sqlite.identifiers_append, Sqlite.identifiers_sign, List.mem_append,
      iha, ihb, or_and_right, exists_or]
    exact or_or_or_comm
  | parens a ih =>
    have close : identifiers [.sign [')']] = [] := rfl
    simp only [tokens, values, List.cons_append, Sqlite.identifiers_sign,
      Sqlite.identifiers_append, close, List.append_nil, ih]
  | _ => simp [tokens, values]

namespace Query

variable {q : Query}

/-- With literals a query mentions the identifiers of its text, and the words of its floating-point
numbers that are not finite. -/
theorem mem_identifiers_render (paths : ∀ n ∈ q.givenNames, isIdentifierPath n)
    (name : List Char) :
    name ∈ identifiers (lex (q.render Value.literal).toList) ↔
      name ∈ identifiers (lex q.text.toList) ∨
        ∃ x, .float x ∈ q.args ∧ x.value.word? = some name := by
  rw [lex_render Sqlite.scans_literal paths, lex_text paths, Phrase.mem_identifiers, values_phrase]
  refine or_congr_right ?_
  simp only [Value.identifiers_tokens]
  constructor
  · rintro ⟨v, arg, x, rfl, word⟩
    exact ⟨x, arg, word⟩
  · rintro ⟨x, arg, word⟩
    exact ⟨_, arg, x, rfl, word⟩

/-- A finite floating-point number is written as an optional minus and digits, with or without a point
among them, and SQLite reads a number. A NaN or an infinity is written as a word, and SQLite reads no
literal but an identifier. So the literal form of a query of names that are paths mentions the
identifiers of its text and these words, and no others: it mentions none besides those of the text
exactly if the word of each argument that is not finite is one of them. -/
theorem identifiers_sql (paths : ∀ n ∈ q.givenNames, isIdentifierPath n) :
    (∀ x : Number.Binary64, x.number ≠ none →
      (∃ negative text, Positional text ∧
        (Value.float x).literal.toList = Number.signText negative ++ text) ∧
      ∀ rest, Border rest → ∃ s : Stored, s.IsNumber ∧
        literal? ((Value.float x).literal.toList ++ rest) = some (s, rest)) ∧
    (∀ x : Number.Binary64, x.number = none →
      (∃ word, x.value.word? = some word ∧
        identifiers (lex (Value.float x).literal.toList) = [word]) ∧
      ∀ rest, Border rest → literal? ((Value.float x).literal.toList ++ rest) = none) ∧
    ∃ sql, q.sql = .ok sql ∧
      (∀ name, name ∈ identifiers (lex sql.toList) ↔ name ∈ identifiers (lex q.text.toList) ∨
        ∃ x, .float x ∈ q.args ∧ x.value.word? = some name) ∧
      (identifiers (lex sql.toList) ⊆ identifiers (lex q.text.toList) ↔
        ∀ x word, .float x ∈ q.args → x.value.word? = some word →
          word ∈ identifiers (lex q.text.toList)) := by
  have mentioned := mem_identifiers_render paths
  refine ⟨fun x => Value.literal_of_number, fun x => Value.literal_of_no_number,
    q.render Value.literal, sql_of_plain (no_mark_names paths), mentioned, ?_⟩
  constructor
  · intro within x word arg written
    exact within ((mentioned word).2 (.inr ⟨x, arg, written⟩))
  · intro known name mentions
    rcases (mentioned name).1 mentions with inText | ⟨x, arg, written⟩
    · exact inText
    · exact known x name arg written

/-- A statement that names the column `inf` mentions nothing else where it is compared with an
infinity. -/
theorem identifiers_sql_of_inf :
    let q := build { scope := ⟨"t", none⟩ }
      [.select ["x"], .filter (.add .and (.compare "inf" .gt (.float ⟨0xfff0000000000000⟩))),
        .filter (.add .or (.compare "x" .le (.float ⟨0x4004000000000000⟩)))]
    ∃ sql, q.sql = .ok sql ∧ identifiers (lex sql.toList) ⊆ identifiers (lex q.text.toList) := by
  intro q
  obtain ⟨-, -, sql, ok, -, within⟩ := identifiers_sql (q := q) (by decide)
  refine ⟨sql, ok, within.2 ?_⟩
  have args : q.args = [.float ⟨0xfff0000000000000⟩, .float ⟨0x4004000000000000⟩] := rfl
  have infinite : Number.Binary64.value ⟨0xfff0000000000000⟩ = .infinite true := by decide +kernel
  have finite : Number.Binary64.number ⟨0x4004000000000000⟩ ≠ none :=
    Number.Floating.word_eq_none_iff.1 (by decide +kernel)
  intro x word arg written
  simp only [args, List.mem_cons, Value.float.injEq, List.not_mem_nil, or_false] at arg
  rcases arg with rfl | rfl
  · rw [infinite] at written
    cases written
    decide +kernel
  · rw [Number.Floating.word_eq_none_iff.2 finite] at written
    cases written

/-- A NaN is written as a word. It is no literal, and the column that it names is not one of the
query. -/
theorem identifiers_sql_of_nan :
    let q := build { scope := ⟨"t", none⟩ }
      [.filter (.add .and (.compare "x" .eq (.float ⟨0x7ff8000000000000⟩)))]
    let sql := "SELECT * FROM t WHERE t.x = NaN"
    q.sql = .ok sql ∧ literal? "NaN".toList = none ∧
      "NaN".toList ∈ identifiers (lex sql.toList) ∧
      "NaN".toList ∉ identifiers (lex q.text.toList) := by
  intro q sql
  have text : q.text = "SELECT * FROM t WHERE t.x = ?" := rfl
  have shown : q.render Value.literal = sql := by decide +kernel
  refine ⟨?_, by decide +kernel, by decide +kernel, ?_⟩
  · rw [← shown]
    exact sql_of_plain (by decide)
  · rw [text]
    decide +kernel

end Query

end SelectQuery
