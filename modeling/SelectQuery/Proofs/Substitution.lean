import SelectQuery.Proofs.Placeholders

/-!
The substitution of literals, text by text. A text is cut at its placeholders into pieces, and each
placeholder makes room for the literal of one value. A literal is put between two pieces and not
looked at again, so it may hold question marks of its own.

What is proved:
  1. `substitute_eq_splice`: the substitution is the loop over the pieces that puts the next literal
     in front of each piece but the first, also where values or placeholders are left over.
  2. `substitute_append`: with a value for each placeholder, texts are substituted one by one.
  3. `exists_template`, `Template.substitute_render`: what the substitution makes of a text is what
     the text is with other things in the same places, and nothing else.
  4. `inlineLiterals_homomorphism`: all this for a statement and its values, and when it fails.
-/

namespace SelectQuery

/-! ## The loop over the pieces -/

/-- The pieces behind the first, each with the literal of the next value in front as long as there
are values. -/
def interleave : List (List Char) → List Value → List Char
  | [], _ => []
  | piece :: pieces, [] => piece ++ interleave pieces []
  | piece :: pieces, v :: vs => v.literal.toList ++ piece ++ interleave pieces vs

/-- The pieces between the placeholders of a text, with literals between them. -/
def splice (sql : List Char) (values : List Value) : List Char :=
  match Text.segments '?' sql with
  | [] => []
  | head :: pieces => head ++ interleave pieces values

theorem splice_of_segments {sql head : List Char} {pieces : List (List Char)}
    (h : Text.segments '?' sql = head :: pieces) (values : List Value) :
    splice sql values = head ++ interleave pieces values := by
  rw [splice, h]

/-- Whether or not there is a value for each placeholder, substituting is going through the
pieces. -/
theorem substitute_eq_splice (sql : List Char) (values : List Value) :
    substitute sql values = splice sql values := by
  induction sql generalizing values with
  | nil => rfl
  | cons c cs ih =>
    obtain ⟨head, pieces, cut⟩ := List.exists_cons_of_ne_nil (Text.segments_ne_nil '?' cs)
    have later (vs : List Value) : substitute cs vs = head ++ interleave pieces vs := by
      rw [ih, splice_of_segments cut]
    by_cases mark : c = '?'
    -- A placeholder ends an empty first piece, and what was the first piece follows a literal.
    · have parts : Text.segments '?' (c :: cs) = [] :: head :: pieces := by
        rw [Text.segments, if_pos mark, cut]
      rw [splice_of_segments parts, mark]
      cases values with
      | nil =>
        have skipped : substitute ('?' :: cs) [] = substitute cs [] := by simp [substitute]
        rw [skipped, later]
        rfl
      | cons v vs =>
        rw [substitute_placeholder, later, List.nil_append, interleave, List.append_assoc]
    · have parts : Text.segments '?' (c :: cs) = (c :: head) :: pieces := by
        rw [Text.segments, if_neg mark, cut]
      rw [splice_of_segments parts, substitute_cons mark, later, List.cons_append]

/-! ## Texts one behind the other -/

/-- Where a text has one value for each placeholder, what comes behind it gets the values behind
these. -/
theorem substitute_append {a : List Char} {xs : List Value} (h : a.count '?' = xs.length)
    (b : List Char) (ys : List Value) :
    substitute (a ++ b) (xs ++ ys) = substitute a xs ++ substitute b ys := by
  induction a generalizing xs with
  | nil =>
    obtain rfl : xs = [] := List.length_eq_zero_iff.1 h.symm
    rfl
  | cons c cs ih =>
    by_cases mark : c = '?'
    · subst mark
      rw [List.count_cons_self] at h
      obtain ⟨v, vs, rfl⟩ := List.exists_cons_of_length_eq_add_one h.symm
      have fewer : cs.count '?' = vs.length := Nat.succ.inj h
      rw [List.cons_append, List.cons_append, substitute_placeholder, substitute_placeholder,
        ih fewer, List.append_assoc]
    · rw [List.count_cons_of_ne mark] at h
      rw [List.cons_append, substitute_cons mark, substitute_cons mark, ih h, List.cons_append]

/-! ## Pieces and the values between them -/

/-- A text in pieces, with values in the places between them. -/
structure Template where
  head : List Char
  tail : List (Value × List Char)

namespace Template

/-- The places with the pieces behind them, where `write` gives what stands for a value. -/
def places (write : Value → String) : List (Value × List Char) → List Char
  | [] => []
  | (v, piece) :: rest => (write v).toList ++ (piece ++ places write rest)

def render (write : Value → String) (t : Template) : List Char := t.head ++ places write t.tail

def values (t : Template) : List Value := t.tail.map Prod.fst

/-- No piece holds a placeholder. -/
def Cut (t : Template) : Prop := '?' ∉ t.head ∧ ∀ place ∈ t.tail, '?' ∉ place.2

theorem substitute_places {tail : List (Value × List Char)} (plain : ∀ place ∈ tail, '?' ∉ place.2) :
    substitute (places Value.hidden tail) (tail.map Prod.fst) = places Value.literal tail := by
  induction tail with
  | nil => rfl
  | cons place rest ih =>
    obtain ⟨first, later⟩ := List.forall_mem_cons.1 plain
    obtain ⟨v, piece⟩ := place
    rw [places, toList_hidden, List.singleton_append, List.map_cons, substitute_placeholder,
      substitute_of_not_mem first, ih later, places]

theorem count_places {tail : List (Value × List Char)} (plain : ∀ place ∈ tail, '?' ∉ place.2) :
    (places Value.hidden tail).count '?' = tail.length := by
  induction tail with
  | nil => rfl
  | cons place rest ih =>
    obtain ⟨first, later⟩ := List.forall_mem_cons.1 plain
    obtain ⟨v, piece⟩ := place
    rw [places, toList_hidden, List.singleton_append, List.count_cons_self, List.count_append,
      List.count_eq_zero.2 first, ih later, Nat.zero_add, List.length_cons]

/-- Substitution puts a literal in each place of a value and leaves the pieces. -/
theorem substitute_render {t : Template} (cut : t.Cut) :
    substitute (t.render Value.hidden) t.values = t.render Value.literal := by
  rw [render, values, substitute_of_not_mem cut.1, substitute_places cut.2, render]

theorem count_render {t : Template} (cut : t.Cut) :
    (t.render Value.hidden).count '?' = t.values.length := by
  rw [render, values, List.count_append, List.count_eq_zero.2 cut.1, count_places cut.2,
    Nat.zero_add, List.length_map]

end Template

/-- With one value for each placeholder, the placeholders are the places of the values. -/
theorem exists_template {sql : List Char} {values : List Value}
    (h : sql.count '?' = values.length) :
    ∃ t : Template, t.Cut ∧ t.render Value.hidden = sql ∧ t.values = values := by
  induction sql generalizing values with
  | nil =>
    obtain rfl : values = [] := List.length_eq_zero_iff.1 h.symm
    exact ⟨⟨[], []⟩, ⟨List.not_mem_nil, fun _ h => absurd h List.not_mem_nil⟩, rfl, rfl⟩
  | cons c cs ih =>
    by_cases mark : c = '?'
    · subst mark
      rw [List.count_cons_self] at h
      obtain ⟨v, vs, rfl⟩ := List.exists_cons_of_length_eq_add_one h.symm
      obtain ⟨t, ⟨plain, pieces⟩, rfl, rfl⟩ := ih (Nat.succ.inj h)
      -- What was the first piece of the rest is the piece behind the value.
      refine ⟨⟨[], (v, t.head) :: t.tail⟩, ⟨List.not_mem_nil, ?_⟩, ?_, rfl⟩
      · exact List.forall_mem_cons.2 ⟨plain, pieces⟩
      · rw [Template.render, Template.places, toList_hidden]
        rfl
    · rw [List.count_cons_of_ne mark] at h
      obtain ⟨t, ⟨plain, pieces⟩, rfl, rfl⟩ := ih h
      refine ⟨⟨c :: t.head, t.tail⟩, ⟨?_, pieces⟩, rfl, rfl⟩
      exact List.not_mem_cons_of_ne_of_not_mem (Ne.symm mark) plain

/-! ## Statements -/

section Statements

variable {sql out : String} {values : List Value} {e : QueryFailure}

theorem inlineLiterals_eq_ok : inlineLiterals sql values = .ok out ↔
    placeholderCount sql = values.length ∧ substitute sql.toList values = out.toList := by
  rw [inlineLiterals]
  split
  case isTrue count => simp [count, String.ext_iff]
  case isFalse count => simp [count]

theorem inlineLiterals_eq_error : inlineLiterals sql values = .error e ↔
    placeholderCount sql ≠ values.length ∧
      e = .bindCount (placeholderCount sql) values.length := by
  rw [inlineLiterals]
  split
  case isTrue count => simp [count]
  case isFalse count => simp [count, eq_comm]

/-- What the substitution gives is the statement with literals in the places of its placeholders. -/
theorem inlineLiterals_eq_render : inlineLiterals sql values = .ok out ↔
    ∃ t : Template, t.Cut ∧ sql.toList = t.render Value.hidden ∧ values = t.values ∧
      out.toList = t.render Value.literal := by
  rw [inlineLiterals_eq_ok]
  constructor
  · rintro ⟨count, result⟩
    obtain ⟨t, cut, text, rfl⟩ := exists_template count
    refine ⟨t, cut, text.symm, rfl, ?_⟩
    rw [← result, ← text, t.substitute_render cut]
  · rintro ⟨t, cut, text, rfl, result⟩
    refine ⟨?_, ?_⟩
    · rw [placeholderCount, text, t.count_render cut]
    · rw [text, result, t.substitute_render cut]

end Statements

/-- Substitution goes through a statement once, from left to right. Two statements that have their
values are one statement with the values of both, and give what they give one behind the other. It
fails exactly if there are more or fewer placeholders than values, and reports both numbers. Where
it does not, the statement is in pieces without placeholders, with one value behind each piece but
the last: the result has the same pieces in the same order, and in each place the literal of the
value there, whatever it holds. It is what the loop over the pieces gives. -/
theorem inlineLiterals_homomorphism :
    (∀ a b xs ys s t, inlineLiterals a xs = .ok s → inlineLiterals b ys = .ok t →
      inlineLiterals (a ++ b) (xs ++ ys) = .ok (s ++ t)) ∧
    (∀ sql values e, inlineLiterals sql values = .error e ↔
      placeholderCount sql ≠ values.length ∧
        e = .bindCount (placeholderCount sql) values.length) ∧
    (∀ sql values out, inlineLiterals sql values = .ok out ↔
      ∃ t : Template, t.Cut ∧ sql.toList = t.render Value.hidden ∧ values = t.values ∧
        out.toList = t.render Value.literal) ∧
    ∀ sql values, substitute sql values = splice sql values := by
  refine ⟨?_, fun _ _ _ => inlineLiterals_eq_error, fun _ _ _ => inlineLiterals_eq_render,
    substitute_eq_splice⟩
  intro a b xs ys s t first second
  obtain ⟨count, text⟩ := inlineLiterals_eq_ok.1 first
  obtain ⟨count', text'⟩ := inlineLiterals_eq_ok.1 second
  refine inlineLiterals_eq_ok.2 ⟨?_, ?_⟩
  · rw [placeholderCount_append, count, count', List.length_append]
  · rw [String.toList_append, substitute_append count, text, text', String.toList_append]

/-- A question mark in a literal takes no value from the statement behind it. -/
theorem inlineLiterals_of_marked_text :
    inlineLiterals ("a = ?" ++ " AND b = ?") ([.text "? or '?'"] ++ [.int 7]) =
      .ok ("a = '? or ''?'''" ++ " AND b = 7") := by
  apply inlineLiterals_homomorphism.1
  · rfl
  · rfl

end SelectQuery
