import SelectQuery.Proofs.Rearrangement
import SelectQuery.Proofs.Sqlite.Inlined
import SelectQuery.Proofs.Sqlite.Reference

/-!
Whether the text of a query is a statement of SQLite. Up to its limit, a query of names is always
written by the grammar. Behind that stand a limit and an offset, which are set apart from each
other, while the grammar has an offset only as part of a limit.

What is proved:
  1. `derives_test`, `derives_condition`: a test and a condition are expressions.
  2. `derives_core`, `derives_orders`: a query of names starts with a SELECT and its order.
  3. `sentence_iff`: it is a statement exactly if it has a limit or no offset.
  4. `sentence_text`: that is, if its script sets no offset, or also a limit other than zero.
-/

namespace SelectQuery

open Sqlite (Terminal Derives Form Sentence withoutLimit expressions isName isReference
  terminals_append)
open Sqlite.Form (row choice opt)
open Phrase (words spaced negating trailing items)

/-! ## Phrases as the grammar sees them -/

namespace Phrase

/-- The terminals of a phrase with placeholders. -/
def terminals (φ : Phrase) : List Terminal := Sqlite.terminals (φ.tokens fun _ => [.mark])

theorem terminals_spaced (a b : Phrase) : (spaced a b).terminals = a.terminals ++ b.terminals :=
  terminals_append ..

theorem terminals_listed (a b : Phrase) :
    (listed a b).terminals = a.terminals ++ .sign "," :: b.terminals :=
  terminals_append ..

theorem terminals_parens (a : Phrase) :
    (parens a).terminals = .sign "(" :: (a.terminals ++ [.sign ")"]) :=
  congrArg _ (terminals_append ..)

theorem terminals_keyword {s : String} (h : s ∈ Sqlite.keywords) :
    (words s).terminals = [.keyword s] :=
  Sqlite.terminals_keyword h

theorem terminals_keywords {a b s : String} (written : s.toList = a.toList ++ ' ' :: b.toList)
    (ha : a ∈ Sqlite.keywords) (hb : b ∈ Sqlite.keywords) :
    (words s).terminals = [.keyword a, .keyword b] :=
  Sqlite.terminals_keywords written ha hb

theorem terminals_trailing (first : Phrase) (rest : List Phrase) :
    (trailing first rest).terminals = first.terminals ++ rest.flatMap terminals := by
  induction rest generalizing first with
  | nil => exact (List.append_nil _).symm
  | cons φ rest ih =>
    show (trailing (spaced first φ) rest).terminals = _
    rw [ih, terminals_spaced, List.flatMap_cons, List.append_assoc]

/-- Phrases of a form with commas between them are a list of the form. -/
theorem derives_items {k : Sqlite.Nonterminal → Bool} {f : Form} {φs : List Phrase}
    (filled : φs ≠ []) (each : ∀ φ ∈ φs, Derives k f φ.terminals) :
    Derives k (Form.listed f) (items φs).terminals := by
  induction φs with
  | nil => exact absurd rfl filled
  | cons φ φs ih =>
    cases φs with
    | nil => exact (each φ List.mem_cons_self).listed_one
    | cons ψ φs =>
      have later := ih (List.cons_ne_nil ψ φs) fun χ hχ => each χ (List.mem_cons_of_mem φ hχ)
      rw [items, terminals_listed]
      · exact (each φ List.mem_cons_self).listed_cons later
      · exact List.cons_ne_nil ψ φs

theorem exists_negating (negated : Bool) (φ : Phrase) :
    ∃ word, Derives withoutLimit (opt (.word "NOT")) word ∧
      (negating negated φ).terminals = word ++ φ.terminals := by
  have keyword : (words "NOT").terminals = [.keyword "NOT"] :=
    Phrase.terminals_keyword (by decide)
  cases negated with
  | true => exact ⟨[.keyword "NOT"], (Derives.word "NOT").some, keyword ▸ terminals_spaced _ φ⟩
  | false => exact ⟨[], .absent, rfl⟩

end Phrase

/-! ## Conditions are expressions -/

namespace Sqlite

/-- The terminals are an expression, with no statement in it. -/
def IsExpr (ts : List Terminal) : Prop := Derives withoutLimit (.part .expr) ts

namespace IsExpr

variable {f : Form} {a b op ts : List Terminal}

theorem of (h : Derives withoutLimit f ts) (mem : f ∈ expressions) : IsExpr ts :=
  .part rfl (h.choice mem)

theorem parameter : IsExpr [.parameter] := of (.terminal _) (by decide)

theorem literal : IsExpr [.literal] := of (.terminal _) (by decide)

theorem binary (ha : IsExpr a) (hop : Derives withoutLimit (.part .binary) op) (hb : IsExpr b) :
    IsExpr (a ++ op ++ b) := by
  have joined := of (ha.cons (hop.cons (hb.cons .nil))) (by decide)
  simpa using joined

/-- A name behind at most two qualifiers is an expression. -/
theorem path {n : Nat} (few : n ≤ 2) : IsExpr (path n) := by
  have name : Derives withoutLimit Form.name [.name] := .terminal _
  have point := Derives.symbol (k := withoutLimit) "."
  refine of (f := .part .column) (.part rfl ?_) (by decide)
  match n, few with
  | 0, _ => exact name.choice (by decide)
  | 1, _ => exact (name.cons (point.cons (name.cons .nil))).choice (by decide)
  | 2, _ =>
    exact (name.cons (point.cons (name.cons (point.cons (name.cons .nil))))).choice (by decide)

theorem reference {text : String} (h : isReference 2 text) : IsExpr (words text).terminals := by
  obtain ⟨n, few, read⟩ := terminals_reference h
  exact cast (congrArg IsExpr read.symm) (path few)

end IsExpr

end Sqlite

open Sqlite (IsExpr)

theorem derives_compare {a b : List Terminal} (op : Operator) (ha : IsExpr a) (hb : IsExpr b) :
    IsExpr (a ++ op.phrase.terminals ++ b) := by
  have like : Derives withoutLimit (.part .matching) [.keyword "LIKE"] :=
    .part rfl ((Derives.word "LIKE").choice (by decide))
  have no_escape : Derives withoutLimit (opt (row [.word "ESCAPE", .part .expr])) [] := .absent
  have plain : Derives withoutLimit (opt (.word "NOT")) [] := .absent
  have negated := (Derives.word (k := withoutLimit) "NOT").some
  cases op with
  | like =>
    have keyword : (words "LIKE").terminals = [.keyword "LIKE"] :=
      Phrase.terminals_keyword (by decide)
    have joined := IsExpr.of (ha.cons (plain.cons (like.cons (hb.cons (no_escape.cons .nil)))))
      (by decide)
    simpa [Operator.phrase, Operator.text, keyword] using joined
  | notLike =>
    have keyword : (words "NOT LIKE").terminals = [.keyword "NOT", .keyword "LIKE"] :=
      Phrase.terminals_keywords rfl (by decide) (by decide)
    have joined := IsExpr.of (ha.cons (negated.cons (like.cons (hb.cons (no_escape.cons .nil)))))
      (by decide)
    simpa [Operator.phrase, Operator.text, keyword] using joined
  | _ => exact ha.binary (.part rfl ((Derives.symbol _).choice (by decide))) hb

theorem derives_operand {o : Operand} (h : ∀ n ∈ o.names, isReference 2 n) :
    IsExpr o.phrase.terminals := by
  cases o with
  | value v => exact .parameter
  | column path => exact .reference (h path (List.mem_singleton_self path))

theorem derives_slots {values : List Value} (filled : values ≠ []) :
    Derives withoutLimit (.listed (.part .expr)) (items (values.map Phrase.slot)).terminals := by
  refine Phrase.derives_items (mt List.map_eq_nil_iff.1 filled) ?_
  intro φ hφ
  obtain ⟨v, -, rfl⟩ := List.mem_map.1 hφ
  exact IsExpr.parameter

theorem derives_members (values : List Value) : Derives withoutLimit (.part .members)
    (Phrase.parens (items (values.map Phrase.slot))).terminals := by
  have inside : Derives withoutLimit (opt (choice [.part .statement, .listed (.part .expr)]))
      (items (values.map Phrase.slot)).terminals := by
    cases values with
    | nil => exact .absent
    | cons v vs => exact ((derives_slots (List.cons_ne_nil v vs)).choice (by decide)).some
  have enclosed : Derives withoutLimit (.parens _) _ :=
    .cons (.symbol "(") (inside.cons (.cons (.symbol ")") .nil))
  rw [Phrase.terminals_parens]
  exact .part rfl (enclosed.choice (by decide))

/-- A test of references is an expression. -/
theorem derives_test {t : Test} (h : ∀ n ∈ t.names, isReference 2 n) :
    IsExpr t.phrase.terminals := by
  have column {n : String} (hn : n ∈ t.names) : IsExpr (words n).terminals := .reference (h n hn)
  cases t with
  | compare name op operand =>
    have right : IsExpr operand.phrase.terminals :=
      derives_operand fun n hn => h n (List.mem_cons_of_mem name hn)
    rw [Test.phrase, Phrase.terminals_spaced, Phrase.terminals_spaced]
    exact derives_compare op (column List.mem_cons_self) right
  | oneOf name negated values =>
    obtain ⟨word, negation, read⟩ := Phrase.exists_negating negated
      (spaced (words "IN") (.parens (items (values.map .slot))))
    have keyword : (words "IN").terminals = [.keyword "IN"] :=
      Phrase.terminals_keyword (by decide)
    have joined := IsExpr.of ((column List.mem_cons_self).cons (negation.cons
      ((Derives.word "IN").cons ((derives_members values).cons .nil)))) (by decide)
    rw [Test.phrase, Phrase.terminals_spaced, read, Phrase.terminals_spaced, keyword]
    simpa using joined
  | between name negated low high =>
    obtain ⟨word, negation, read⟩ := Phrase.exists_negating negated
      (trailing (words "BETWEEN") [.slot low, words "AND", .slot high])
    have between : (words "BETWEEN").terminals = [.keyword "BETWEEN"] :=
      Phrase.terminals_keyword (by decide)
    have and_word : (words "AND").terminals = [.keyword "AND"] :=
      Phrase.terminals_keyword (by decide)
    have joined := IsExpr.of ((column List.mem_cons_self).cons (negation.cons
      ((Derives.word "BETWEEN").cons (.cons IsExpr.parameter
        ((Derives.word "AND").cons (.cons IsExpr.parameter .nil)))))) (by decide)
    have slots : (Phrase.slot low).terminals = [.parameter] ∧
        (Phrase.slot high).terminals = [.parameter] := ⟨rfl, rfl⟩
    rw [Test.phrase, Phrase.terminals_spaced, read, Phrase.terminals_trailing, between]
    simpa only [List.flatMap_cons, List.flatMap_nil, slots, and_word] using joined
  | isNull name negated =>
    obtain ⟨word, negation, read⟩ := Phrase.exists_negating negated (words "NULL")
    have is_word : (words "IS").terminals = [.keyword "IS"] :=
      Phrase.terminals_keyword (by decide)
    have null_word : (words "NULL").terminals = [.keyword "NULL"] :=
      Phrase.terminals_keyword (by decide)
    have null : IsExpr [.keyword "NULL"] := .of (.terminal _) (by decide)
    have same : Derives withoutLimit (opt (.words ["DISTINCT", "FROM"])) [] := .absent
    have joined := IsExpr.of ((column List.mem_cons_self).cons ((Derives.word "IS").cons
      (negation.cons (same.cons (.cons null .nil))))) (by decide)
    rw [Test.phrase, Phrase.terminals_spaced, Phrase.terminals_spaced, read, is_word, null_word]
    simpa using joined

theorem derives_link (link : Connective) :
    Derives withoutLimit (.part .binary) (words link.text).terminals := by
  have keyword : (words link.text).terminals = [.keyword link.text] := by
    cases link <;> exact Phrase.terminals_keyword (by decide)
  rw [keyword]
  cases link <;> exact .part rfl ((Derives.word _).choice (by decide))

/-- No group of the condition is empty. -/
abbrev Condition.Filled (c : Condition) : Prop := c.Every fun _ => True

mutual

/-- A condition on references is an expression. -/
theorem derives_condition : (c : Condition) → c.Filled → (∀ n ∈ c.names, isReference 2 n) →
    IsExpr c.phrase.terminals
  | .test _ _, _, h => derives_test h
  | .group _ parts, .group filled each, h => by
    have inner := derives_allPhrase parts filled each h
    have enclosed : Derives withoutLimit (.parens (.listed (.part .expr))) _ :=
      .cons (.symbol "(") (inner.listed_one.cons (.cons (.symbol ")") .nil))
    rw [Condition.phrase, Phrase.terminals_parens]
    exact .of enclosed (by decide)

theorem derives_allPhrase : (cs : List Condition) → cs ≠ [] → (∀ c ∈ cs, c.Filled) →
    (∀ n ∈ Condition.allNames cs, isReference 2 n) → IsExpr (Condition.allPhrase cs).terminals
  | [], filled, _, _ => absurd rfl filled
  | c :: rest, _, each, h => by
    have first := derives_condition c (each c List.mem_cons_self)
      fun n hn => h n (List.mem_append_left _ hn)
    rw [Condition.allPhrase, Phrase.terminals_trailing]
    exact derives_linkedPhrases rest (fun d hd => each d (List.mem_cons_of_mem c hd))
      (fun n hn => h n (List.mem_append_right _ hn)) first

/-- Further conditions behind an expression make a longer one. -/
theorem derives_linkedPhrases : (cs : List Condition) → (∀ c ∈ cs, c.Filled) →
    (∀ n ∈ Condition.allNames cs, isReference 2 n) → ∀ {a : List Terminal}, IsExpr a →
    IsExpr (a ++ (Condition.linkedPhrases cs).flatMap Phrase.terminals)
  | [], _, _, a, ha => (List.append_nil a).symm ▸ ha
  | c :: rest, each, h, a, ha => by
    have next := derives_condition c (each c List.mem_cons_self)
      fun n hn => h n (List.mem_append_left _ hn)
    have joined := derives_linkedPhrases rest (fun d hd => each d (List.mem_cons_of_mem c hd))
      (fun n hn => h n (List.mem_append_right _ hn)) (ha.binary (derives_link c.link) next)
    rw [Condition.linkedPhrases, List.flatMap_cons, Phrase.terminals_spaced]
    simpa only [List.append_assoc] using joined

end

/-! ## The parts of a query -/

/-- The words in front of JOIN. -/
def JoinKind.side : JoinKind → List Terminal
  | plain => []
  | inner => [.keyword "INNER"]
  | left => [.keyword "LEFT"]
  | right => [.keyword "RIGHT"]
  | cross => [.keyword "CROSS"]

theorem derives_joinKind (kind : JoinKind) :
    Derives withoutLimit (.part .joinOperator) (words kind.text).terminals := by
  have read : (words kind.text).terminals = kind.side ++ [.keyword "JOIN"] := by
    cases kind with
    | plain => exact Phrase.terminals_keyword (by decide)
    | _ => exact Phrase.terminals_keywords rfl (by decide) (by decide)
  have side : Derives withoutLimit (opt (choice [row [choice [.word "LEFT", .word "RIGHT",
      .word "FULL"], opt (.word "OUTER")], .word "INNER", .word "CROSS"])) kind.side := by
    cases kind with
    | plain => exact .absent
    | inner => exact ((Derives.word "INNER").choice (by decide)).some
    | left => exact .some (.left (((Derives.word "LEFT").choice (by decide)).cons
        (.cons .absent .nil)))
    | right => exact .some (.left (((Derives.word "RIGHT").choice (by decide)).cons
        (.cons .absent .nil)))
    | cross => exact ((Derives.word "CROSS").choice (by decide)).some
  rw [read]
  refine .of_eq (.part rfl (.right (.left (.cons .absent (side.cons
    (.cons (.word "JOIN") .nil)))))) ?_
  simp

namespace Query

/-- Every table of the query is a name, and every column that it names a reference. A column in the
projection has one qualifier at most, as its alias is made of the rest. -/
structure Named (q : Query) : Prop where
  table : isName q.table.toList
  columns : ∀ c ∈ q.columns, isReference 1 c
  joined : ∀ j ∈ q.joins, isName j.table.toList
  ons : ∀ j ∈ q.joins, ∀ n ∈ Condition.allNames j.on, isReference 2 n
  wheres : ∀ n ∈ Condition.allNames q.wheres, isReference 2 n
  groups : ∀ n ∈ q.groups, isReference 2 n
  orders : ∀ o ∈ q.orders, isReference 2 o.1

/-- The terminals of the SELECT that a query starts with. -/
def coreTerminals (q : Query) : List Terminal :=
  q.selectPhrase.terminals ++ (q.joins.map Join.phrase
    ++ partPhrases "WHERE" (Condition.allPhrase q.wheres) q.wheres.isEmpty
    ++ partPhrases "GROUP BY" (items (q.groups.map words)) q.groups.isEmpty).flatMap
      Phrase.terminals

def orderTerminals (q : Query) : List Terminal :=
  (partPhrases "ORDER BY" (items (q.orders.map q.orderPhrase)) q.orders.isEmpty).flatMap
    Phrase.terminals

def countTerminals (keyword : String) (n : Option Int64) : List Terminal :=
  (countPhrases keyword n).flatMap Phrase.terminals

variable {q : Query}

theorem Named.paths (named : q.Named) : ∀ n ∈ q.givenNames, isIdentifierPath n := by
  intro n hn
  simp only [givenNames, List.mem_append, List.mem_cons] at hn
  rcases hn with ((((rfl | hn) | hn) | hn) | hn) | hn
  · exact Sqlite.isIdentifierPath_of_name named.table
  · exact Sqlite.isIdentifierPath_of_reference (named.columns n hn)
  · obtain ⟨j, hj, hn⟩ := List.mem_flatMap.1 hn
    rcases List.mem_cons.1 hn with rfl | hn
    · exact Sqlite.isIdentifierPath_of_name (named.joined j hj)
    · exact Sqlite.isIdentifierPath_of_reference (named.ons j hj n hn)
  · exact Sqlite.isIdentifierPath_of_reference (named.wheres n hn)
  · exact Sqlite.isIdentifierPath_of_reference (named.groups n hn)
  · obtain ⟨o, ho, rfl⟩ := List.mem_map.1 hn
    exact Sqlite.isIdentifierPath_of_reference (named.orders o ho)

theorem derives_projection (named : q.Named) :
    Derives withoutLimit (.listed (.part .resultColumn)) q.projectionPhrase.terminals := by
  have label : Derives withoutLimit (.part .label) [.keyword "AS", .name] :=
    .part rfl (.cons (Derives.word "AS").some (.cons (.terminal _) .nil))
  unfold projectionPhrase
  cases columns : q.entries with
  | nil => exact Derives.listed_one (.part rfl (.left (.symbol "*")))
  | cons c rest =>
    apply Phrase.derives_items (mt List.map_eq_nil_iff.1 (List.cons_ne_nil c rest))
    intro φ hφ
    obtain ⟨n, hn, rfl⟩ := List.mem_map.1 hφ
    obtain ⟨column, hcolumn, rfl⟩ := List.mem_map.1 (Column.mem_distinct (columns ▸ hn))
    rcases Sqlite.terminals_selected Column.keepsNames_aliasStem q.hasJoin named.table
      (named.columns column hcolumn) with bare | aliased
    · rw [Phrase.terminals, Phrase.tokens, bare]
      exact .part rfl (.right (.right (.left ((IsExpr.path (Nat.zero_le 2)).cons
        (.cons .absent .nil)))))
    · rw [Phrase.terminals, Phrase.tokens, aliased]
      exact .part rfl (.right (.right (.left ((IsExpr.path (Nat.le_succ 1)).cons
        (label.some.cons .nil)))))

theorem derives_source {table : String} (h : isName table.toList) :
    Derives withoutLimit (.part .source) (words table).terminals := by
  have read : (words table).terminals = [.name] := Sqlite.terminals_name h
  have name : Derives withoutLimit (.part .tableName) [.name] := .part rfl (.left (.terminal _))
  rw [read]
  exact .part rfl (.left (name.cons (.cons .absent (.cons .absent .nil))))

theorem derives_direction (direction : Direction) :
    Derives withoutLimit (choice [.word "ASC", .word "DESC"]) (words direction.text).terminals := by
  have keyword : (words direction.text).terminals = [.keyword direction.text] := by
    cases direction <;> exact Phrase.terminals_keyword (by decide)
  rw [keyword]
  cases direction <;> exact (Derives.word _).choice (by decide)

theorem derives_join {j : Join} (table : isName j.table.toList)
    (on : ∀ n ∈ Condition.allNames j.on, isReference 2 n) (each : ∀ c ∈ j.on, c.Filled) :
    Derives withoutLimit (row [.part .joinOperator, .part .source, opt (.part .joinConstraint)])
      j.phrase.terminals := by
  have keyword : (words "ON").terminals = [.keyword "ON"] :=
    Phrase.terminals_keyword (by decide)
  unfold Join.phrase
  simp only
  split
  · have joined := (derives_joinKind j.kind).cons ((derives_source table).cons
      (.cons (Derives.absent (f := .part .joinConstraint)) .nil))
    rw [Phrase.terminals_spaced]
    simpa using joined
  · rename_i filled
    have condition := derives_allPhrase j.on (mt List.isEmpty_iff.2 filled) each on
    have constraint : Derives withoutLimit (.part .joinConstraint)
        ([.keyword "ON"] ++ ((Condition.allPhrase j.on).terminals ++ [])) :=
      .part rfl (.left (.cons (.word "ON") (condition.cons .nil)))
    have joined := (derives_joinKind j.kind).cons ((derives_source table).cons
      (constraint.some.cons .nil))
    rw [Phrase.terminals_spaced, Phrase.terminals_spaced, Phrase.terminals_spaced, keyword]
    simpa using joined

theorem derives_part {f : Form} {keyword : String} {content : Phrase} {absent : Bool}
    (h : absent = false → Derives withoutLimit f ((words keyword).terminals ++ content.terminals)) :
    Derives withoutLimit (opt f)
      ((partPhrases keyword content absent).flatMap Phrase.terminals) := by
  cases absent with
  | true => exact .absent
  | false =>
    have present := (h rfl).some
    rw [← Phrase.terminals_spaced] at present
    simpa [partPhrases] using present

theorem derives_where (named : q.Named) (each : ∀ c ∈ q.wheres, c.Filled) :
    Derives withoutLimit (opt (row [.word "WHERE", .part .expr]))
      ((partPhrases "WHERE" (Condition.allPhrase q.wheres) q.wheres.isEmpty).flatMap
        Phrase.terminals) := by
  have keyword : (words "WHERE").terminals = [.keyword "WHERE"] :=
    Phrase.terminals_keyword (by decide)
  apply derives_part
  intro filled
  have condition := derives_allPhrase q.wheres (List.isEmpty_eq_false_iff.1 filled) each
    named.wheres
  have joined := (Derives.word "WHERE").cons (condition.cons .nil)
  rw [keyword]
  simpa using joined

theorem derives_groups (named : q.Named) :
    Derives withoutLimit (opt (row [.words ["GROUP", "BY"], .listed (.part .expr)]))
      ((partPhrases "GROUP BY" (items (q.groups.map words)) q.groups.isEmpty).flatMap
        Phrase.terminals) := by
  have keyword : (words "GROUP BY").terminals = [.keyword "GROUP", .keyword "BY"] :=
    Phrase.terminals_keywords rfl (by decide) (by decide)
  apply derives_part
  intro filled
  have columns : Derives withoutLimit (.listed (.part .expr))
      (items (q.groups.map words)).terminals := by
    apply Phrase.derives_items (mt List.map_eq_nil_iff.1 (List.isEmpty_eq_false_iff.1 filled))
    intro φ hφ
    obtain ⟨n, hn, rfl⟩ := List.mem_map.1 hφ
    exact IsExpr.reference (named.groups n hn)
  have group : Derives withoutLimit (.words ["GROUP", "BY"]) [.keyword "GROUP", .keyword "BY"] :=
    .cons (.word "GROUP") (.cons (.word "BY") .nil)
  have joined := group.cons (columns.cons .nil)
  rw [keyword]
  simpa using joined

/-- A query of names has an order or none. -/
theorem derives_orders (named : q.Named) :
    Derives withoutLimit (opt (.part .orderBy)) q.orderTerminals := by
  have keyword : (words "ORDER BY").terminals = [.keyword "ORDER", .keyword "BY"] :=
    Phrase.terminals_keywords rfl (by decide) (by decide)
  apply derives_part
  intro filled
  have terms : Derives withoutLimit (.listed (row [.part .expr,
      opt (choice [.word "ASC", .word "DESC"]),
      opt (row [.word "NULLS", choice [.word "FIRST", .word "LAST"]])]))
      (items (q.orders.map q.orderPhrase)).terminals := by
    apply Phrase.derives_items (mt List.map_eq_nil_iff.1 (List.isEmpty_eq_false_iff.1 filled))
    intro φ hφ
    obtain ⟨⟨column, direction⟩, ho, rfl⟩ := List.mem_map.1 hφ
    have term : IsExpr (words (Column.sorted column q.table q.hasJoin)).terminals :=
      .reference (Sqlite.isReference_sorted q.hasJoin named.table (named.orders _ ho))
    rw [orderPhrase, Phrase.terminals_spaced]
    refine .of_eq (.cons term (.cons (derives_direction direction).some (.cons .absent .nil))) ?_
    simp
  have order : Derives withoutLimit (.words ["ORDER", "BY"]) [.keyword "ORDER", .keyword "BY"] :=
    .cons (.word "ORDER") (.cons (.word "BY") .nil)
  rw [keyword]
  refine .of_eq (.part rfl (order.cons (terms.cons .nil))) ?_
  simp

theorem derives_joined (named : q.Named) (each : ∀ j ∈ q.joins, ∀ c ∈ j.on, c.Filled) :
    Derives withoutLimit (.part .joined)
      ((words q.table).terminals ++ (q.joins.map Join.phrase).flatMap Phrase.terminals) := by
  have joins := Derives.many fun j (hj : j ∈ q.joins) =>
    derives_join (named.joined j hj) (named.ons j hj) (each j hj)
  rw [List.flatMap_map]
  refine .of_eq (.part rfl ((derives_source named.table).cons (joins.cons .nil))) ?_
  simp

/-- A query of names starts with a SELECT. -/
theorem derives_core (named : q.Named) (filled : q.Every fun _ => True) :
    Derives withoutLimit (.part .core) q.coreTerminals := by
  have select : (words "SELECT").terminals = [.keyword "SELECT"] :=
    Phrase.terminals_keyword (by decide)
  have distinct : (words "DISTINCT").terminals = [.keyword "DISTINCT"] :=
    Phrase.terminals_keyword (by decide)
  have from_word : (words "FROM").terminals = [.keyword "FROM"] :=
    Phrase.terminals_keyword (by decide)
  have quantifier : Derives withoutLimit (opt (choice [.word "DISTINCT", .word "ALL"]))
      (if q.distinct then [.keyword "DISTINCT"] else []) := by
    cases q.distinct with
    | true => exact ((Derives.word "DISTINCT").choice (by decide)).some
    | false => exact .absent
  have source : Derives withoutLimit (row [.word "FROM", .part .joined]) _ :=
    .cons (.word "FROM") (.cons (derives_joined named filled.joins) .nil)
  refine .of_eq (.part rfl (.left (.cons (.word "SELECT") (quantifier.cons
    ((derives_projection named).cons (source.some.cons ((derives_where named filled.wheres).cons
      ((derives_groups named).cons (.cons .absent (.cons .absent .nil)))))))))) ?_
  have keyword : (if q.distinct then spaced (words "SELECT") (words "DISTINCT")
      else words "SELECT").terminals =
        .keyword "SELECT" :: if q.distinct then [.keyword "DISTINCT"] else [] := by
    cases q.distinct with
    | true => exact (Phrase.terminals_spaced ..).trans (by rw [select, distinct]; rfl)
    | false => exact select
  simp only [coreTerminals, selectPhrase, Phrase.terminals_trailing, keyword, from_word,
    List.flatMap_append, List.flatMap_cons, List.flatMap_nil, List.append_assoc, List.cons_append,
    List.nil_append, List.append_nil]

/-- A query of names is read as its SELECT, its order, its limit and its offset. -/
theorem terminals_text (named : q.Named) : Sqlite.terminals (Sqlite.lex q.text.toList) =
    q.coreTerminals ++ q.orderTerminals ++
      (countTerminals "LIMIT" q.limit ++ countTerminals "OFFSET" q.offset) := by
  rw [lex_text named.paths]
  show q.phrase.terminals = _
  rw [phrase, Phrase.terminals_trailing]
  simp only [coreTerminals, orderTerminals, countTerminals, List.flatMap_append, List.append_assoc]

/-! ## Limit and offset -/

theorem derives_number (n : Int) : IsExpr (Phrase.number n).terminals := by
  by_cases negative : n < 0
  · have read : (Phrase.number n).terminals = [.sign "-", .literal] := by
      simp [Phrase.terminals, Phrase.tokens, Sqlite.minus, negative]
      rfl
    have minus : Derives withoutLimit (.part .unary) [.sign "-"] := .part rfl (.left (.symbol "-"))
    rw [read]
    exact .of (minus.cons (.cons IsExpr.literal .nil)) (by decide)
  · have read : (Phrase.number n).terminals = [.literal] := by
      simp [Phrase.terminals, Phrase.tokens, Sqlite.minus, negative]
      rfl
    rw [read]
    exact .literal

theorem countTerminals_some (keyword : String) (n : Int64) :
    countTerminals keyword (some n) =
      (words keyword).terminals ++ (Phrase.number n.toInt).terminals :=
  (List.append_nil _).trans (Phrase.terminals_spaced ..)

theorem terminals_limit : (words "LIMIT").terminals = [.keyword "LIMIT"] :=
  Phrase.terminals_keyword (by decide)

theorem terminals_offset : (words "OFFSET").terminals = [.keyword "OFFSET"] :=
  Phrase.terminals_keyword (by decide)

/-- A limit with an offset or none is a limit by the grammar, and so is neither. -/
theorem derives_counts {limit offset : Option Int64} (h : offset.isSome → limit.isSome) :
    Derives (fun _ => true) (opt (.part .limit))
      (countTerminals "LIMIT" limit ++ countTerminals "OFFSET" offset) := by
  cases limit with
  | none =>
    cases offset with
    | none => exact .absent
    | some m => exact absurd (h rfl) Bool.false_ne_true
  | some n =>
    have count := (derives_number n.toInt).whole
    rw [countTerminals_some, terminals_limit]
    cases offset with
    | none =>
      refine .of_eq (.some (.part rfl (.cons (.word "LIMIT") (count.cons (.cons .absent .nil))))) ?_
      rfl
    | some m =>
      have start := (derives_number m.toInt).whole
      rw [countTerminals_some, terminals_offset]
      refine .of_eq (.some (.part rfl (.cons (.word "LIMIT") (count.cons
        (.cons (.some (.cons (.left (.word "OFFSET")) (start.cons .nil))) .nil))))) ?_
      simp

/-- The text of a query of names is a statement exactly if the query has a limit or no offset. -/
theorem sentence_iff (named : q.Named) (filled : q.Every fun _ => True) :
    Sentence q.text ↔ (q.offset.isSome → q.limit.isSome) := by
  have read := terminals_text named
  constructor
  · intro sentence set
    obtain ⟨n, offset⟩ := Option.isSome_iff_exists.1 set
    rw [offset, countTerminals_some, terminals_offset] at read
    cases limit : q.limit with
    | some m => rfl
    | none =>
      have word := Sqlite.limit_of_offset sentence (read ▸ by simp)
      rw [read, limit, List.mem_append, List.mem_append, List.mem_append, List.mem_append] at word
      -- Neither the SELECT nor the order holds a limit, nor does the offset itself.
      have core := Sqlite.limit_not_mem (derives_core named filled) (by decide)
      have order := Sqlite.limit_not_mem (derives_orders named) (by decide)
      have number := Sqlite.limit_not_mem (derives_number n.toInt) (by decide)
      rcases word with (word | word) | word | word | word
      · exact absurd word core
      · exact absurd word order
      · cases word
      · exact absurd word (by decide)
      · exact absurd word number
  · intro together
    have statement : Derives (fun _ => true) (.part .statement) _ :=
      .part rfl (.cons .absent (.cons (derives_core named filled).whole (.cons .none
        (.cons (derives_orders named).whole (.cons (derives_counts together) .nil)))))
    rw [Sentence, read]
    refine statement.of_eq ?_
    simp

/-! ## Scripts -/

/-- What a step can only bring about holds after a script if it held before or a step brings it
about. -/
theorem build_iff {p : Query → Prop} {brings : QueryStep → Prop}
    (each : ∀ q s, p (attempt q s).2 ↔ p q ∨ brings s) (q : Query) (script : List QueryStep) :
    p (q.build script) ↔ p q ∨ ∃ s ∈ script, brings s := by
  induction script generalizing q with
  | nil => simp [build]
  | cons s rest ih =>
    show p ((q.attempt s).2.build rest) ↔ _
    rw [ih, each, or_assoc]
    simp

/-- A limit that is zero or cannot be read sets nothing. -/
theorem isSome_limit_attempt (q : Query) (s : QueryStep) :
    (q.attempt s).2.limit.isSome ↔ q.limit.isSome ∨ ∃ n, n ≠ 0 ∧ s = .limit (some n) := by
  by_cases about : s.isAbout .limit
  · cases s with
    | limit count =>
      rcases count with _ | n
      · simp [attempt, step, setLimit]
      · by_cases zero : n = 0 <;> simp [attempt, step, setLimit, zero]
    | _ => cases about
  · have same := congrArg Query.limit (only_attempt_of_other about q)
    simp only [only] at same
    rw [same]
    refine ⟨.inl, fun h => h.resolve_right ?_⟩
    rintro ⟨n, -, rfl⟩
    exact about rfl

/-- An offset that cannot be read sets nothing, but one of zero counts. -/
theorem isSome_offset_attempt (q : Query) (s : QueryStep) :
    (q.attempt s).2.offset.isSome ↔ q.offset.isSome ∨ ∃ n, s = .offset (some n) := by
  by_cases about : s.isAbout .offset
  · cases s with
    | offset count => cases count <;> simp [attempt, step, setOffset]
    | _ => cases about
  · have same := congrArg Query.offset (only_attempt_of_other about q)
    simp only [only] at same
    rw [same]
    refine ⟨.inl, fun h => h.resolve_right ?_⟩
    rintro ⟨n, rfl⟩
    exact about rfl

theorem isSome_limit_build (scope : Scope) (script : List QueryStep) :
    (build { scope } script).limit.isSome ↔ ∃ n, n ≠ 0 ∧ QueryStep.limit (some n) ∈ script := by
  rw [build_iff (p := fun q => q.limit.isSome) isSome_limit_attempt]
  constructor
  · rintro (unset | ⟨_, hs, n, counts, rfl⟩)
    · cases unset
    · exact ⟨n, counts, hs⟩
  · rintro ⟨n, counts, hn⟩
    exact .inr ⟨_, hn, n, counts, rfl⟩

theorem isSome_offset_build (scope : Scope) (script : List QueryStep) :
    (build { scope } script).offset.isSome ↔ ∃ n, QueryStep.offset (some n) ∈ script := by
  rw [build_iff (p := fun q => q.offset.isSome) isSome_offset_attempt]
  constructor
  · rintro (unset | ⟨_, hs, n, rfl⟩)
    · cases unset
    · exact ⟨n, hs⟩
  · rintro ⟨n, hn⟩
    exact .inr ⟨_, hn, n, rfl⟩

theorem filled_build (scope : Scope) (script : List QueryStep) :
    (build { scope } script).Every fun _ => True :=
  every_build (fun _ _ _ _ => trivial) (fun _ _ _ _ => trivial) (q := { scope }) rfl
    ⟨fun _ h => (nomatch h), fun _ h => (nomatch h)⟩ script

/-- A script of names alone that sets an offset and no limit. -/
theorem not_sentence_of_offset :
    let q := build { scope := ⟨"t", none⟩ } [.offset (some 20)]
    q.Named ∧ q.text = "SELECT * FROM t OFFSET 20" ∧ ¬ Sentence q.text := by
  intro q
  have named : q.Named := by
    constructor <;> decide
  refine ⟨named, rfl, ?_⟩
  rw [sentence_iff named (filled_build _ _)]
  decide

/-- The text of a query of names is a statement exactly if its script sets no offset, or also sets a
limit: one that can be read and is not zero. -/
theorem sentence_text (scope : Scope) (script : List QueryStep)
    (named : (build { scope } script).Named) :
    Sentence (build { scope } script).text ↔
      ((∃ n, QueryStep.offset (some n) ∈ script) →
        ∃ n, n ≠ 0 ∧ QueryStep.limit (some n) ∈ script) := by
  rw [sentence_iff named (filled_build scope script), isSome_offset_build, isSome_limit_build]

/-- With a limit of zero an offset makes no statement; with a limit behind it, it does. -/
theorem sentence_text_of_late_limit :
    let unlimited : List QueryStep := [.limit (some 0), .offset (some 20), .limit none]
    let limited : List QueryStep :=
      [.select ["name", "roles.id"], .offset (some 20),
        .join .left "roles" (.value "level" .ge (.int 3)),
        .filter (.group .or true [.add .and (.oneOf "id" true [.int 1, .null]), .fail]),
        .groupBy ["users.name"], .order "name" .desc, .limit (some (-1))]
    ¬ Sentence (build { scope := ⟨"users", none⟩ } unlimited).text ∧
      Sentence (build { scope := ⟨"users", none⟩ } limited).text := by
  intro unlimited limited
  have none_counts := sentence_text ⟨"users", none⟩ unlimited (by constructor <;> decide)
  have one_counts := sentence_text ⟨"users", none⟩ limited (by constructor <;> decide)
  constructor
  · intro sentence
    obtain ⟨n, counts, set⟩ := none_counts.1 sentence ⟨20, by simp [unlimited]⟩
    simp [unlimited] at set
    exact counts set
  · exact one_counts.2 fun _ => ⟨-1, by decide, by simp [limited]⟩

end Query

end SelectQuery
