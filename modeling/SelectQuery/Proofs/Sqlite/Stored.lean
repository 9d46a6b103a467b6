import Mathlib.Algebra.Ring.Int.Defs
import SelectQuery.Proofs.Phrase
import SelectQuery.Proofs.Sqlite.Grammar
import SelectQuery.Proofs.Sqlite.Literal
import SelectQuery.Proofs.Substitution

/-!
Literals and what is stored for them. `literal?` reads one literal from the front of a text by the
rules of SQLite and leaves the text behind it.

What is proved:
  1. `literal_word`, `literal_string`, `literal_blob`, `literal_number`: what is read for each kind
     of literal.
  2. `literal_stored`: the literal of a value that is no floating-point number is read as what is
     stored for the value when it is bound.
  3. `Template.Bordered`, `Phrase.bordered_before`: every value of a statement stands before a border.
  4. `literals_read_back`: so each literal of a statement is read back where it stands.
-/

namespace SelectQuery

namespace Sqlite

/-! ## The reader -/

/-- What a column holds. -/
inductive Stored where
  | null
  | integer (n : Int64)
  /-- A floating-point number, as it is written. -/
  | real (text : List Char)
  | text (content : List Char)
  | blob (bytes : List UInt8)
  deriving DecidableEq

namespace Stored

/-- An integer, which becomes a floating-point number beyond 64 bits. -/
def ofInt (n : Int) : Stored :=
  if -2 ^ 63 ≤ n ∧ n < 2 ^ 63 then integer (.ofInt n) else real (toString n).toList

theorem ofInt_toInt (n : Int64) : ofInt n.toInt = integer n := by
  rw [ofInt, if_pos ⟨n.le_toInt, n.toInt_lt⟩, Int64.ofInt_toInt]

/-- An integer that is written as its 64 bits. More bits are refused, and so is the negative of the
least integer. -/
def ofBits? (negative : Bool) (n : Nat) : Option Stored :=
  if 2 ^ 64 ≤ n ∨ negative ∧ n = 2 ^ 63 then none
  else some (integer (if negative then -.ofNat n else .ofNat n))

/-- The number that a token stands for, behind a minus if it is negative. -/
def ofNumber? (negative : Bool) : Token → Option Stored
  | .integer n => some (ofInt (if negative then -n else n))
  | .decimal (c :: x :: digits) =>
    if c = '0' ∧ (x = 'x' ∨ x = 'X') then
      ofBits? negative (digits.foldl (fun n d => 16 * n + hexValue d) 0)
    else some (real (Number.signText negative ++ c :: x :: digits))
  | .decimal cs => some (real (Number.signText negative ++ cs))
  | _ => none

end Stored

/-- The number that a text starts with, and the text behind it. -/
def number? (negative : Bool) (cs : List Char) : Option (Stored × List Char) :=
  (first? cs).bind fun (tok, rest) => (Stored.ofNumber? negative tok).map (·, rest)

/-- The literal that a text starts with, as it is stored, and the text behind it. A sign stands
directly before its number. TRUE and FALSE are no literals, as they name a column where there is
one. -/
def literal? (cs : List Char) : Option (Stored × List Char) :=
  match first? cs with
  | some (.word text, rest) => if upperCase text = "NULL" then some (.null, rest) else none
  | some (.string content, rest) => some (.text content, rest)
  | some (.blob bytes, rest) => some (.blob bytes, rest)
  | some (.sign ['-'], rest) => number? true rest
  | some (.sign ['+'], rest) => number? false rest
  | _ => number? false cs

/-! ## Reading literals -/

section Reading

variable {text rest : List Char} (border : Border rest)

include border

/-- Of all words only NULL is a literal. -/
theorem literal_word (h : Takes text (.word text)) : literal? (text ++ rest) =
    if upperCase text = "NULL" then some (.null, rest) else none := by
  rw [literal?, h rest border]

theorem literal_string (s : String) :
    literal? ((Value.quote s).toList ++ rest) = some (.text s.toList, rest) := by
  rw [literal?, takes_quote s rest border]

theorem literal_blob (bytes : List UInt8) :
    literal? ((Value.blob bytes).literal.toList ++ rest) = some (.blob bytes, rest) := by
  rw [literal?, takes_blob bytes rest border]

theorem number_of_takes {tok : Token} (h : Takes text tok) (negative : Bool) :
    number? negative (text ++ rest) = (Stored.ofNumber? negative tok).map (·, rest) := by
  rw [number?, h rest border]
  rfl

/-- A number with its sign. -/
theorem literal_number (h : Positional text) (negative : Bool) :
    literal? (Number.signText negative ++ text ++ rest) =
      (Stored.ofNumber? negative (.ofNumber text)).map (·, rest) := by
  have number := number_of_takes border (takes_positional h)
  cases negative with
  | true =>
    obtain ⟨c, cs, rfl, digit⟩ := h.head
    show literal? ('-' :: c :: (cs ++ rest)) = _
    rw [literal?, first_minus (isNameChar_of_isDigit digit)]
    exact number true
  | false =>
    show literal? (text ++ rest) = _
    have first := takes_positional h rest border
    -- The token of a number is none of those that are read in another way.
    rw [Token.ofNumber] at first
    split at first <;> (rw [literal?, first]; exact number false)

theorem literal_integer (n : Int) :
    literal? ((toString n).toList ++ rest) = some (.ofInt n, rest) := by
  have signed : (if decide (n < 0) then -(n.natAbs : Int) else n.natAbs) = n := by
    split
    case isTrue negative =>
      rw [decide_eq_true_iff] at negative
      omega
    case isFalse positive =>
      rw [decide_eq_true_iff] at positive
      omega
  rw [toList_toString, literal_number border (positional_toDigits n.natAbs), ofNumber_toDigits,
    Stored.ofNumber?, signed]
  rfl

end Reading

example : literal? "-9223372036854775808, -0xfF".toList =
    some (.integer Int64.minValue, ", -0xfF".toList) := by
  decide +kernel

end Sqlite

open Sqlite (Border Stored literal?)

/-! ## The literals of values -/

namespace Value

/-- The text of an item in the text of an array. -/
def itemText : Value → String
  | null => ""
  | v => v.unquoted

theorem itemTexts_eq_map (items : List Value) : itemTexts items = items.map itemText := by
  induction items with
  | nil => rfl
  | cons item items ih => cases item <;> rw [itemTexts, ih] <;> first | rfl | exact Value.noConfusion

/-- What is stored for a value that is bound. For a NaN this is null. -/
def stored : Value → Stored
  | null => .null
  | bool b => .integer (if b then 1 else 0)
  | int n => .integer n
  | float x => if x.isNaN then .null else .real x.value.plainText.toList
  | text s => .text s.toList
  | date t => .text t.text.toList
  | blob bytes => .blob bytes
  | array items => .text (String.intercalate "," (items.map itemText)).toList

/-- The literal of a value that is no floating-point number is read as what is stored for it. -/
theorem literal_stored {v : Value} (exact : ∀ x, v ≠ .float x) {rest : List Char}
    (border : Border rest) : literal? (v.literal.toList ++ rest) = some (v.stored, rest) := by
  cases v with
  | null =>
    have word : Sqlite.Takes "NULL".toList (.word "NULL".toList) :=
      Sqlite.takes_word (by decide) (by decide)
    exact Sqlite.literal_word border word
  | bool b => cases b with
    | true => exact Sqlite.literal_integer border 1
    | false => exact Sqlite.literal_integer border 0
  | int n => rw [literal, Sqlite.literal_integer border, Stored.ofInt_toInt, stored]
  | float x => exact absurd rfl (exact x)
  | text s => exact Sqlite.literal_string border s
  | date t => exact Sqlite.literal_string border t.text
  | blob bytes => exact Sqlite.literal_blob border bytes
  | array items => rw [literal, Sqlite.literal_string border, unquoted, itemTexts_eq_map, stored]

/-- Two such values with one literal are stored alike. -/
theorem stored_of_literal {v w : Value} (exact : (∀ x, v ≠ .float x) ∧ ∀ x, w ≠ .float x)
    (same : v.literal = w.literal) : v.stored = w.stored := by
  have border : Border [] := fun _ h => nomatch h
  have read := literal_stored exact.1 border
  rw [same, literal_stored exact.2 border] at read
  exact (congrArg Prod.fst (Option.some.inj read)).symm

end Value

/-! ## Where the literals of a statement stand -/

namespace Template

/-- A text in front of a template. -/
def behind (cs : List Char) (t : Template) : Template := ⟨cs ++ t.head, t.tail⟩

theorem render_behind (cs : List Char) (t : Template) (write : Value → String) :
    (t.behind cs).render write = cs ++ t.render write := List.append_assoc cs t.head _

theorem border_behind {c : Char} (h : c = ' ' ∨ c = ',' ∨ c = ')') (cs : List Char) (t : Template)
    (write : Value → String) : Border ((t.behind (c :: cs)).render write) := by
  rintro d ⟨⟩
  exact h

/-- Every value stands before a border, whatever is written for the values. -/
def Bordered (t : Template) : Prop := ∀ v piece rest, (v, piece) :: rest <:+ t.tail →
  ∀ write, Border (piece ++ places write rest)

end Template

namespace Phrase

/-- The template of a phrase in front of a template. -/
def before : Phrase → Template → Template
  | empty, t => t
  | words s, t => t.behind s.toList
  | sign s, t => t.behind s.toList
  | number n, t => t.behind (toString n).toList
  | slot v, t => ⟨[], (v, t.head) :: t.tail⟩
  | spaced a b, t => a.before ((b.before t).behind [' '])
  | listed a b, t => a.before ((b.before t).behind [',', ' '])
  | parens a, t => (a.before (t.behind [')'])).behind ['(']

theorem render_before (φ : Phrase) (t : Template) (write : Value → String) :
    (φ.before t).render write = (φ.text write).toList ++ t.render write := by
  induction φ generalizing t with
  | empty => rfl
  | words s => exact t.render_behind s.toList write
  | sign s => exact t.render_behind s.toList write
  | number n => exact t.render_behind (toString n).toList write
  | slot v => rfl
  | spaced a b iha ihb => simp [before, text, iha, ihb, Template.render_behind]
  | listed a b iha ihb => simp [before, text, iha, ihb, Template.render_behind]
  | parens a ih => simp [before, text, ih, Template.render_behind]

theorem values_before (φ : Phrase) (t : Template) :
    (φ.before t).values = φ.values ++ t.values := by
  induction φ generalizing t with
  | spaced a b iha ihb =>
    have first := iha ((b.before t).behind [' '])
    rw [before, first, values, List.append_assoc, ← ihb t]
    rfl
  | listed a b iha ihb =>
    have first := iha ((b.before t).behind [',', ' '])
    rw [before, first, values, List.append_assoc, ← ihb t]
    rfl
  | parens a ih => exact ih (t.behind [')'])
  | _ => rfl

/-- What stands behind a phrase stands behind its last value; behind each other one stands a blank, a
comma or a parenthesis of the phrase. -/
theorem bordered_before (φ : Phrase) {t : Template} (opens : ∀ write, Border (t.render write))
    (bordered : t.Bordered) : (φ.before t).Bordered := by
  induction φ generalizing t with
  | slot v =>
    intro w piece rest h
    rcases List.suffix_cons_iff.1 h with same | later
    · cases same
      exact opens
    · exact bordered w piece rest later
  | spaced a b iha ihb =>
    exact iha (Template.border_behind (.inl rfl) [] _) (ihb opens bordered)
  | listed a b iha ihb =>
    exact iha (Template.border_behind (.inr (.inl rfl)) [' '] _) (ihb opens bordered)
  | parens a ih => exact ih (Template.border_behind (.inr (.inr rfl)) [] t) bordered
  | _ => exact bordered

end Phrase

/-- Every value of a query stands before a border. -/
theorem Query.exists_bordered (q : Query) : ∃ t : Template, t.values = q.args ∧
    (∀ write, t.render write = (q.render write).toList) ∧ t.Bordered := by
  have opens (write : Value → String) : Border (Template.render write ⟨[], []⟩) :=
    fun _ h => nomatch h
  have bordered : Template.Bordered ⟨[], []⟩ := fun _ _ _ h => nomatch List.suffix_nil.1 h
  refine ⟨q.phrase.before ⟨[], []⟩, ?_, ?_, q.phrase.bordered_before opens bordered⟩
  · rw [Phrase.values_before, values_phrase]
    exact List.append_nil _
  · intro write
    rw [Phrase.render_before, text_phrase]
    exact List.append_nil _

/-- Before an end, a blank, a comma or a closing parenthesis, the literal of a value that is no
floating-point number is read to its end and not beyond it, as what is stored for the value when it
is bound. So texts, blobs and integers have literals of their own. In a statement each value stands
before such a border: the pieces of the statement between its values are the same, whatever is
written for the values. -/
theorem literals_read_back :
    (∀ (v : Value) (rest : List Char), (∀ x, v ≠ .float x) → Border rest →
      literal? (v.literal.toList ++ rest) = some (v.stored, rest)) ∧
    (∀ s t, (Value.text s).literal = (Value.text t).literal → s = t) ∧
    (∀ a b, (Value.blob a).literal = (Value.blob b).literal → a = b) ∧
    (∀ m n, (Value.int m).literal = (Value.int n).literal → m = n) ∧
    ∀ q : Query, ∃ t : Template, t.values = q.args ∧
      (∀ write, t.render write = (q.render write).toList) ∧ t.Bordered := by
  refine ⟨fun v rest exact border => Value.literal_stored exact border, ?_, ?_, ?_,
    Query.exists_bordered⟩
  · intro s t same
    have stored := Value.stored_of_literal (by simp) same
    exact String.toList_inj.1 (Stored.text.inj stored)
  · intro a b same
    have stored := Value.stored_of_literal (by simp) same
    exact Stored.blob.inj stored
  · intro m n same
    have stored := Value.stored_of_literal (by simp) same
    exact Stored.integer.inj stored

end SelectQuery
