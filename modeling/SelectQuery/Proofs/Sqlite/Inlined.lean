import SelectQuery.Proofs.Phrase
import SelectQuery.Proofs.Placeholders
import SelectQuery.Proofs.Sqlite.Literal
import SelectQuery.Proofs.Stem

/-!
The literal form of a statement cannot be broken out of. A statement of names that are paths has the
same tokens with placeholders and with literals, but for each placeholder, in whose place stand the
tokens of its value.

What is proved:
  1. `scans_tokens`: a phrase of names and operators is read as its tokens, with placeholders as well
     as with literals.
  2. `plain_phrase`: the phrase of a query is one, if the names given to the query are paths.
  3. `lex_sql`: so putting the values into the text of a query puts them into its tokens, one by one.
-/

namespace SelectQuery

open Sqlite (Token Scans lex minus)

namespace Sqlite

/-- The tokens with the tokens of the next value in place of each placeholder. -/
def fill : List Token → List Value → List Token
  | .mark :: toks, v :: vs => v.tokens ++ fill toks vs
  | tok :: toks, vs => tok :: fill toks vs
  | [], _ => []

theorem fill_of_not_mem {toks : List Token} (h : .mark ∉ toks) (rest : List Token)
    (vs : List Value) : fill (toks ++ rest) vs = toks ++ fill rest vs := by
  induction toks with
  | nil => rfl
  | cons tok toks ih =>
    have first : tok ≠ .mark := fun mark => h (mark ▸ List.mem_cons_self)
    have later := ih fun mark => h (List.mem_cons_of_mem tok mark)
    rw [List.cons_append, List.cons_append, ← later]
    cases tok <;> first | rfl | exact absurd rfl first

theorem mark_not_mem_number (negative : Bool) (n : Nat) : .mark ∉ minus negative ++ [.integer n] := by
  cases negative <;> simp [minus]

/-- The operators of statements, and the star. -/
def operators : List String := ["=", "!=", "<", ">", "<=", ">=", "*"]

theorem scans_operator {s : String} (h : s ∈ operators) : Scans s.toList [.sign s.toList] := by
  intro rest border
  simp only [operators, List.mem_cons, List.not_mem_nil, or_false] at h
  -- No operator goes on behind itself in a border.
  rcases h with rfl | rfl | rfl | rfl | rfl | rfl | rfl <;>
    rcases border.cases with rfl | ⟨c, cs, rfl, rfl | rfl | rfl⟩ <;>
    exact lex_cons _ _

end Sqlite

open Sqlite (fill operators)

namespace Phrase

/-- The tokens of a phrase, where `read` gives those that stand for a value. -/
def tokens (read : Value → List Token) : Phrase → List Token
  | empty => []
  | words s => lex s.toList
  | sign s => [.sign s.toList]
  | number n => minus (n < 0) ++ [.integer n.natAbs]
  | slot v => read v
  | spaced a b => a.tokens read ++ b.tokens read
  | listed a b => a.tokens read ++ .sign [','] :: b.tokens read
  | parens a => .sign ['('] :: a.tokens read ++ [.sign [')']]

/-- A phrase of names, keywords and operators. -/
def Plain : Phrase → Prop
  | words s => Text.Only isTextChar s.toList
  | sign s => s ∈ operators
  | spaced a b => a.Plain ∧ b.Plain
  | listed a b => a.Plain ∧ b.Plain
  | parens a => a.Plain
  | _ => True

instance decidablePlain : (φ : Phrase) → Decidable φ.Plain
  | words s => inferInstanceAs (Decidable (Text.Only isTextChar s.toList))
  | sign s => inferInstanceAs (Decidable (s ∈ operators))
  | spaced a b => @instDecidableAnd _ _ (decidablePlain a) (decidablePlain b)
  | listed a b => @instDecidableAnd _ _ (decidablePlain a) (decidablePlain b)
  | parens a => decidablePlain a
  | empty => .isTrue trivial
  | number _ => .isTrue trivial
  | slot _ => .isTrue trivial

/-- A phrase is read as its tokens, if what is written for a value is. -/
theorem scans_tokens {write : Value → String} {read : Value → List Token}
    (each : ∀ v, Scans (write v).toList (read v)) {φ : Phrase} (plain : φ.Plain) :
    Scans (φ.text write).toList (φ.tokens read) := by
  induction φ with
  | empty => exact .empty
  | words s => exact .plain plain
  | sign s => exact Sqlite.scans_operator plain
  | number n => exact Sqlite.scans_integer n
  | slot v => exact each v
  | spaced a b iha ihb =>
    have joined := (iha plain.1).spaced (ihb plain.2)
    simpa [text, tokens] using joined
  | listed a b iha ihb =>
    have joined := (iha plain.1).listed (ihb plain.2)
    simpa [text, tokens] using joined
  | parens a ih =>
    have enclosed := (ih plain).parens
    simpa [text, tokens] using enclosed

/-- Filling the tokens of a phrase with its values gives the tokens of their literals. -/
theorem fill_tokens {φ : Phrase} (plain : φ.Plain) (rest : List Token) (vs : List Value) :
    fill (φ.tokens (fun _ => [.mark]) ++ rest) (φ.values ++ vs) =
      φ.tokens Value.tokens ++ fill rest vs := by
  induction φ generalizing rest vs with
  | empty => rfl
  | words s => exact Sqlite.fill_of_not_mem (Sqlite.mark_not_mem_lex plain) rest vs
  | sign s => rfl
  | number n =>
    exact Sqlite.fill_of_not_mem (Sqlite.mark_not_mem_number _ _) rest vs
  | slot v => rfl
  | spaced a b iha ihb =>
    simp only [tokens, values, List.append_assoc]
    rw [iha plain.1, ihb plain.2]
  | listed a b iha ihb =>
    simp only [tokens, values, List.append_assoc, List.cons_append]
    rw [iha plain.1]
    show _ ++ .sign [','] :: fill _ _ = _
    rw [ihb plain.2]
  | parens a ih =>
    simp only [tokens, values, List.append_assoc, List.cons_append]
    show .sign ['('] :: fill _ _ = _
    rw [ih plain]
    rfl

theorem count_mark {φ : Phrase} (plain : φ.Plain) :
    (φ.tokens fun _ => [.mark]).count .mark = φ.values.length := by
  induction φ with
  | empty => rfl
  | words s => exact List.count_eq_zero.2 (Sqlite.mark_not_mem_lex plain)
  | sign s => rfl
  | number n =>
    exact List.count_eq_zero.2 (Sqlite.mark_not_mem_number _ _)
  | slot v => rfl
  | spaced a b iha ihb =>
    rw [tokens, values, List.count_append, List.length_append, iha plain.1, ihb plain.2]
  | listed a b iha ihb =>
    have comma : (Token.sign [',']) ≠ .mark := Token.noConfusion
    rw [tokens, values, List.count_append, List.length_append, List.count_cons_of_ne comma,
      iha plain.1, ihb plain.2]
  | parens a ih =>
    have left : (Token.sign ['(']) ≠ .mark := Token.noConfusion
    rw [tokens, values, List.cons_append, List.count_cons_of_ne left, List.count_append, ih plain]
    rfl

theorem plain_trailing {first : Phrase} {rest : List Phrase} (hf : first.Plain)
    (hr : ∀ φ ∈ rest, φ.Plain) : (trailing first rest).Plain := by
  induction rest generalizing first with
  | nil => exact hf
  | cons φ rest ih =>
    exact ih ⟨hf, hr φ List.mem_cons_self⟩ fun ψ hψ => hr ψ (List.mem_cons_of_mem φ hψ)

theorem plain_items {φs : List Phrase} (h : ∀ φ ∈ φs, φ.Plain) : (items φs).Plain := by
  induction φs with
  | nil => exact trivial
  | cons φ φs ih =>
    have later := ih fun ψ hψ => h ψ (List.mem_cons_of_mem φ hψ)
    cases φs with
    | nil => exact h φ List.mem_cons_self
    | cons ψ φs => exact ⟨h φ List.mem_cons_self, later⟩

end Phrase

open Phrase (Plain words plain_trailing plain_items)

theorem plain_words {n : String} (h : isIdentifierPath n) : (words n).Plain := (only_nameChar h).text

theorem plain_negating (negated : Bool) {φ : Phrase} (h : φ.Plain) :
    (Phrase.negating negated φ).Plain := by
  have keyword : (words "NOT").Plain := by decide
  cases negated with
  | true => exact ⟨keyword, h⟩
  | false => exact h

theorem plain_test {t : Test} (h : ∀ n ∈ t.names, isIdentifierPath n) : t.phrase.Plain := by
  have column {n : String} (h : ∀ m ∈ [n], isIdentifierPath m) : (words n).Plain :=
    plain_words (h n List.mem_cons_self)
  cases t with
  | compare name op operand =>
    have operator : op.phrase.Plain := by
      cases op <;> decide
    have right : operand.phrase.Plain := by
      cases operand with
      | value v => exact trivial
      | column path => exact plain_words (h path (by simp [Test.names, Operand.names]))
    exact ⟨⟨plain_words (h name List.mem_cons_self), operator⟩, right⟩
  | oneOf name negated values =>
    have keyword : (words "IN").Plain := by decide
    have slots : ∀ φ ∈ values.map Phrase.slot, φ.Plain := by
      intro φ hφ
      obtain ⟨v, -, rfl⟩ := List.mem_map.1 hφ
      exact trivial
    exact ⟨column h, plain_negating negated ⟨keyword, plain_items slots⟩⟩
  | between name negated low high =>
    have keyword : (words "BETWEEN").Plain ∧ (words "AND").Plain := by decide
    exact ⟨column h, plain_negating negated ⟨⟨⟨keyword.1, trivial⟩, keyword.2⟩, trivial⟩⟩
  | isNull name negated =>
    have keyword : (words "IS").Plain ∧ (words "NULL").Plain := by decide
    exact ⟨⟨column h, keyword.1⟩, plain_negating negated keyword.2⟩

mutual

theorem plain_condition : (c : Condition) → (∀ n ∈ c.names, isIdentifierPath n) → c.phrase.Plain
  | .test _ _, h => plain_test h
  | .group _ parts, h => plain_allPhrase parts h

theorem plain_allPhrase : (cs : List Condition) →
    (∀ n ∈ Condition.allNames cs, isIdentifierPath n) → (Condition.allPhrase cs).Plain
  | [], _ => trivial
  | c :: rest, h => plain_trailing (plain_condition c fun n hn => h n (List.mem_append_left _ hn))
    (plain_linkedPhrases rest fun n hn => h n (List.mem_append_right _ hn))

theorem plain_linkedPhrases : (cs : List Condition) →
    (∀ n ∈ Condition.allNames cs, isIdentifierPath n) →
    ∀ φ ∈ Condition.linkedPhrases cs, φ.Plain
  | [], _ => fun _ hφ => absurd hφ List.not_mem_nil
  | c :: rest, h => by
    have keyword : (words c.link.text).Plain := by cases c.link <;> decide
    intro φ hφ
    rcases List.mem_cons.1 hφ with rfl | hφ
    · exact ⟨keyword, plain_condition c fun n hn => h n (List.mem_append_left _ hn)⟩
    · exact plain_linkedPhrases rest (fun n hn => h n (List.mem_append_right _ hn)) φ hφ

end

namespace Column

theorem mem_distinct {names : List String} {n : String} (h : n ∈ distinct names) : n ∈ names := by
  suffices ∀ seen, n ∈ names.foldl (fun seen name => if seen.contains name then seen
      else seen ++ [name]) seen → n ∈ seen ∨ n ∈ names from (this [] h).resolve_left List.not_mem_nil
  clear h
  induction names with
  | nil => exact fun seen h => .inl h
  | cons name rest ih =>
    intro seen h
    rcases ih _ h with h | h
    · simp only at h
      split at h
      · exact .inl h
      · rcases List.mem_append.1 h with h | h
        · exact .inl h
        · exact .inr (List.mem_singleton.1 h ▸ List.mem_cons_self)
    · exact .inr (List.mem_cons_of_mem name h)

end Column

namespace Query

/-- The names that a query has been given: its tables and its columns. -/
def givenNames (q : Query) : List String :=
  q.table :: q.columns ++ q.joins.flatMap Join.names ++ Condition.allNames q.wheres ++ q.groups
    ++ q.orders.map Prod.fst

theorem plain_join {j : Join} (h : ∀ n ∈ j.names, isIdentifierPath n) : j.phrase.Plain := by
  have kind : (words j.kind.text).Plain := by cases j.kind <;> decide
  have table : (words j.table).Plain := plain_words (h j.table List.mem_cons_self)
  have keyword : (words "ON").Plain := by decide
  unfold Join.phrase
  simp only
  split
  · exact ⟨kind, table⟩
  · exact ⟨⟨⟨kind, table⟩, keyword⟩,
      plain_allPhrase j.on fun n hn => h n (List.mem_cons_of_mem _ hn)⟩

theorem plain_part {keyword : String} {content : Phrase} {absent : Bool}
    (word : (words keyword).Plain) (h : content.Plain) :
    ∀ φ ∈ partPhrases keyword content absent, φ.Plain := by
  cases absent with
  | true => exact fun _ hφ => absurd hφ List.not_mem_nil
  | false =>
    intro φ hφ
    exact List.mem_singleton.1 hφ ▸ ⟨word, h⟩

theorem plain_count {keyword : String} (word : (words keyword).Plain) (n : Option Int64) :
    ∀ φ ∈ countPhrases keyword n, φ.Plain := by
  cases n with
  | none => exact fun _ hφ => absurd hφ List.not_mem_nil
  | some n =>
    intro φ hφ
    exact List.mem_singleton.1 hφ ▸ ⟨word, trivial⟩

variable {q : Query}

theorem plain_entries (paths : ∀ n ∈ q.givenNames, isIdentifierPath n) :
    ∀ c ∈ q.entries, (words c).Plain := by
  have table := only_nameChar (paths q.table (by simp [givenNames]))
  intro c hc
  obtain ⟨column, hcolumn, rfl⟩ := List.mem_map.1 (Column.mem_distinct hc)
  have path : isIdentifierPath column := paths column (by simp [givenNames, hcolumn])
  exact Column.only_selected Column.keepsNames_aliasStem q.hasJoin table (only_nameChar path)

theorem plain_projection (paths : ∀ n ∈ q.givenNames, isIdentifierPath n) :
    q.projectionPhrase.Plain := by
  have each := plain_entries paths
  unfold projectionPhrase
  cases columns : q.entries with
  | nil => exact (by decide : "*" ∈ operators)
  | cons c rest =>
    apply plain_items
    intro φ hφ
    obtain ⟨n, hn, rfl⟩ := List.mem_map.1 hφ
    exact each n (columns ▸ hn)

theorem plain_select (paths : ∀ n ∈ q.givenNames, isIdentifierPath n) : q.selectPhrase.Plain := by
  have select : (words "SELECT").Plain ∧ (words "DISTINCT").Plain ∧ (words "FROM").Plain := by
    decide
  have table : (words q.table).Plain := plain_words (paths q.table (by simp [givenNames]))
  unfold selectPhrase
  apply plain_trailing
  · cases q.distinct with
    | true => exact ⟨select.1, select.2.1⟩
    | false => exact select.1
  · intro φ hφ
    simp only [List.mem_cons, List.not_mem_nil, or_false] at hφ
    rcases hφ with rfl | rfl | rfl
    · exact plain_projection paths
    · exact select.2.2
    · exact table

theorem plain_sorted {column table : String} (hc : isIdentifierPath column)
    (ht : isIdentifierPath table) (hasJoin : Bool) :
    (words (Column.sorted column table hasJoin)).Plain := by
  unfold Column.sorted
  split
  · exact plain_words (isIdentifierPath_of_qualified (isQualifiedPath_qualified hc ht))
  · exact plain_words hc

/-- A query of names that are paths is a phrase of names, keywords and operators. -/
theorem plain_phrase (paths : ∀ n ∈ q.givenNames, isIdentifierPath n) : q.phrase.Plain := by
  have listed (names : List String) (h : ∀ n ∈ names, isIdentifierPath n) :
      (Phrase.items (names.map words)).Plain := by
    apply plain_items
    intro φ hφ
    obtain ⟨n, hn, rfl⟩ := List.mem_map.1 hφ
    exact plain_words (h n hn)
  have orders : (Phrase.items (q.orders.map q.orderPhrase)).Plain := by
    apply plain_items
    intro φ hφ
    obtain ⟨⟨column, direction⟩, ho, rfl⟩ := List.mem_map.1 hφ
    have keyword : (words direction.text).Plain := by cases direction <;> decide
    have path : isIdentifierPath column :=
      paths column (List.mem_append_right _ (List.mem_map.2 ⟨_, ho, rfl⟩))
    exact ⟨plain_sorted path (paths q.table (by simp [givenNames])) q.hasJoin, keyword⟩
  have wheres : (Condition.allPhrase q.wheres).Plain :=
    plain_allPhrase q.wheres fun n hn => paths n (by simp [givenNames, hn])
  apply plain_trailing (plain_select paths)
  intro φ hφ
  simp only [List.mem_append] at hφ
  rcases hφ with ((((hφ | hφ) | hφ) | hφ) | hφ) | hφ
  · obtain ⟨j, hj, rfl⟩ := List.mem_map.1 hφ
    apply plain_join
    intro n hn
    have given : n ∈ q.joins.flatMap Join.names := List.mem_flatMap.2 ⟨j, hj, hn⟩
    exact paths n (by simp [givenNames, given])
  · exact plain_part (by decide) wheres φ hφ
  · exact plain_part (by decide) (listed q.groups fun n hn => paths n (by simp [givenNames, hn])) φ hφ
  · exact plain_part (by decide) orders φ hφ
  · exact plain_count (by decide) q.limit φ hφ
  · exact plain_count (by decide) q.offset φ hφ

/-- As they are written, such names hold no question mark. -/
theorem no_mark_names (paths : ∀ n ∈ q.givenNames, isIdentifierPath n) :
    ∀ n ∈ q.names, '?' ∉ n.toList := by
  have no_mark {n : String} (plain : (words n).Plain) : '?' ∉ n.toList := fun mark =>
    absurd (plain '?' mark) (by decide)
  have given {n : String} (h : n ∈ q.givenNames) : '?' ∉ n.toList :=
    no_mark (plain_words (paths n h))
  intro n hn
  simp only [names, List.mem_append, List.mem_singleton] at hn
  rcases hn with ((((hn | rfl) | hn) | hn) | hn) | hn
  · exact no_mark (plain_entries paths n hn)
  · exact given (by simp [givenNames])
  · exact given (by simp only [givenNames, List.mem_append, List.mem_cons, hn, true_or, or_true])
  · exact given (by simp [givenNames, hn])
  · exact given (by simp [givenNames, hn])
  · obtain ⟨⟨column, direction⟩, ho, rfl⟩ := List.mem_map.1 hn
    have path := paths column (List.mem_append_right _ (List.mem_map.2 ⟨_, ho, rfl⟩))
    exact no_mark (plain_sorted path (paths q.table (by simp [givenNames])) q.hasJoin)

/-- A query of names that are paths is read as its phrase, if what is written for a value is read as
its tokens. -/
theorem lex_render {write : Value → String} {read : Value → List Token}
    (each : ∀ v, Scans (write v).toList (read v)) (paths : ∀ n ∈ q.givenNames, isIdentifierPath n) :
    lex (q.render write).toList = q.phrase.tokens read := by
  rw [← text_phrase]
  exact (Phrase.scans_tokens each (plain_phrase paths)).whole

/-- The text of a query of names that are paths is read as its phrase, with a placeholder for each
value. -/
theorem lex_text (paths : ∀ n ∈ q.givenNames, isIdentifierPath n) :
    lex q.text.toList = q.phrase.tokens fun _ => [.mark] := by
  have mark (v : Value) : Scans v.hidden.toList [.mark] := toList_hidden v ▸ Sqlite.Scans.mark
  exact lex_render mark paths

/-- The literal form of a query of names that are paths has the tokens of its text, with the tokens
of the first value in place of the first placeholder, those of the second in place of the second, and
so on; there are as many placeholders as values. The tokens of a floating-point number are those of
its own text, which holds digits, points, minuses and letters alone. -/
theorem lex_sql (paths : ∀ n ∈ q.givenNames, isIdentifierPath n) :
    (∃ sql, q.sql = .ok sql ∧ lex sql.toList = fill (lex q.text.toList) q.args ∧
      (lex q.text.toList).count .mark = q.args.length) ∧
    ∀ x : Number.Floating, x.tokens = lex x.plainText.toList ∧
      Text.Only Sqlite.isFloatingChar x.plainText.toList := by
  have plain := plain_phrase paths
  have shown : lex (q.render Value.literal).toList = q.phrase.tokens Value.tokens := by
    rw [← text_phrase]
    exact (Phrase.scans_tokens Sqlite.scans_literal plain).whole
  have hidden := lex_text paths
  refine ⟨⟨q.render Value.literal, sql_of_plain (no_mark_names paths), ?_, ?_⟩, ?_⟩
  · have filled := Phrase.fill_tokens plain [] []
    rw [List.append_nil, List.append_nil] at filled
    rw [shown, hidden, ← values_phrase, filled]
    exact (List.append_nil _).symm
  · rw [hidden, Phrase.count_mark plain, values_phrase]
  · intro x
    exact ⟨(Sqlite.scans_floating x).whole.symm, Sqlite.only_plainText x⟩

/-- Quotes, question marks and comments in values stay in the strings that they are written in. -/
theorem lex_sql_of_hostile_values :
    let q := build { scope := ⟨"users", none⟩ }
      [.select ["name", "users.id"],
        .filter (.add .and (.compare "name" .eq (.text "' OR 1=1; -- ?"))),
        .joinGroup .left "roles" false [.add .and (.oneOf "data" true [.blob [39, 0], .null])],
        .filter (.add .or (.between "level" false (.int (-5)) (.array [.text "it's", .null]))),
        .order "name" .desc, .limit (some 3)]
    ∃ sql, q.sql = .ok sql ∧ lex sql.toList = fill (lex q.text.toList)
        [.blob [39, 0], .null, .text "' OR 1=1; -- ?", .int (-5), .array [.text "it's", .null]] ∧
      fill [.mark, .sign [','], .mark] [.text "' OR 1=1; -- ?", .int (-5)] =
        [.string "' OR 1=1; -- ?".toList, .sign [','], .sign ['-'], .integer 5] := by
  intro q
  obtain ⟨sql, ok, tokens, -⟩ := (lex_sql (q := q) (by decide)).1
  exact ⟨sql, ok, tokens, rfl⟩

end Query

end SelectQuery
