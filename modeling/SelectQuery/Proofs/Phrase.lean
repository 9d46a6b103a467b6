import SelectQuery.Proofs.QueryDraft

/-!
Phrases: a statement as a tree of words, signs, numbers and values. The tree says where blanks,
commas and parentheses stand, so what is read off the text of each part is read off the whole.

What is proved:
  1. `text_trailing`, `text_items`: the texts of phrases put together.
  2. `text_phrase`: a query is written as its phrase, whatever stands for the values.
  3. `values_phrase`: the values in its phrase are the values of the query.
-/

namespace SelectQuery

/-- A part of a statement. -/
inductive Phrase where
  | empty
  /-- Keywords and names, with blanks between them. -/
  | words (text : String)
  /-- An operator or a star. -/
  | sign (text : String)
  | number (n : Int)
  | slot (v : Value)
  /-- One phrase and, behind a blank, another. -/
  | spaced (a b : Phrase)
  /-- One phrase and, behind a comma, another. -/
  | listed (a b : Phrase)
  | parens (a : Phrase)

namespace Phrase

/-- The phrase as it is written, where `write` gives what stands for a value. -/
def text (write : Value → String) : Phrase → String
  | empty => ""
  | words s => s
  | sign s => s
  | number n => toString n
  | slot v => write v
  | spaced a b => a.text write ++ " " ++ b.text write
  | listed a b => a.text write ++ ", " ++ b.text write
  | parens a => "(" ++ a.text write ++ ")"

def values : Phrase → List Value
  | slot v => [v]
  | spaced a b => a.values ++ b.values
  | listed a b => a.values ++ b.values
  | parens a => a.values
  | _ => []

/-- A phrase and, behind it, others. -/
def trailing (first : Phrase) (rest : List Phrase) : Phrase := rest.foldl spaced first

/-- Phrases with commas between them. -/
def items : List Phrase → Phrase
  | [] => empty
  | [p] => p
  | p :: ps => listed p (items ps)

/-- What is written for phrases that stand behind another. -/
def behind (write : Value → String) : List Phrase → String
  | [] => ""
  | p :: ps => " " ++ p.text write ++ behind write ps

variable {write : Value → String}

theorem behind_append (a b : List Phrase) :
    behind write (a ++ b) = behind write a ++ behind write b := by
  induction a with
  | nil => simp [behind]
  | cons p a ih => simp only [List.cons_append, behind, ih, String.append_assoc]

theorem text_trailing (first : Phrase) (rest : List Phrase) :
    (trailing first rest).text write = first.text write ++ behind write rest := by
  induction rest generalizing first with
  | nil => simp [trailing, behind]
  | cons p rest ih =>
    show (trailing (spaced first p) rest).text write = _
    rw [ih, text, behind]
    simp only [String.append_assoc]

theorem text_items (ps : List Phrase) :
    (items ps).text write = String.intercalate ", " (ps.map (text write)) := by
  induction ps with
  | nil => simp [items, text]
  | cons p ps ih =>
    cases ps with
    | nil => simp [items]
    | cons q ps =>
      rw [items, text, ih]
      · simp only [List.map_cons, String.intercalate_cons_cons]
      · exact List.cons_ne_nil q ps

theorem values_trailing (first : Phrase) (rest : List Phrase) :
    (trailing first rest).values = first.values ++ rest.flatMap values := by
  induction rest generalizing first with
  | nil => simp [trailing]
  | cons p rest ih =>
    show (trailing (spaced first p) rest).values = _
    rw [ih, values, List.flatMap_cons, List.append_assoc]

theorem values_items (ps : List Phrase) : (items ps).values = ps.flatMap values := by
  induction ps with
  | nil => rfl
  | cons p ps ih =>
    cases ps with
    | nil => simp [items]
    | cons q ps =>
      rw [items, values, ih]
      · rfl
      · exact List.cons_ne_nil q ps

/-- The phrase behind NOT, if it is negated. -/
def negating (negated : Bool) (p : Phrase) : Phrase := if negated then spaced (words "NOT") p else p

theorem text_negating (negated : Bool) (p : Phrase) :
    (negating negated p).text write = Test.negation negated ++ p.text write := by
  cases negated with
  | false => simp [negating, Test.negation]
  | true => rfl

end Phrase

open Phrase (words sign spaced parens negating trailing items behind)

/-! ## The phrases of conditions -/

def Operator.phrase (op : Operator) : Phrase :=
  match op with
  | like => words op.text
  | notLike => words op.text
  | _ => sign op.text

def Operand.phrase : Operand → Phrase
  | value v => .slot v
  | column path => words path

def Test.phrase : Test → Phrase
  | compare column op operand => spaced (spaced (words column) op.phrase) operand.phrase
  | oneOf column negated values =>
    spaced (words column) (negating negated (spaced (words "IN") (parens (items (values.map .slot)))))
  | between column negated low high =>
    spaced (words column) (negating negated
      (trailing (words "BETWEEN") [.slot low, words "AND", .slot high]))
  | isNull column negated => spaced (spaced (words column) (words "IS")) (negating negated (words "NULL"))

namespace Condition

mutual

/-- The phrase of a condition, without its connective. -/
def phrase : Condition → Phrase
  | test _ t => t.phrase
  | group _ parts => parens (allPhrase parts)

/-- The phrase of conditions, all but the first with their connectives. -/
def allPhrase : List Condition → Phrase
  | [] => .empty
  | c :: rest => trailing c.phrase (linkedPhrases rest)

/-- The phrases of conditions that stand behind others. -/
def linkedPhrases : List Condition → List Phrase
  | [] => []
  | c :: rest => spaced (words c.link.text) c.phrase :: linkedPhrases rest

end

end Condition

section Conditions

variable {write : Value → String}

theorem text_phrase_operator (op : Operator) : op.phrase.text write = op.text := by
  cases op <;> rfl

theorem text_phrase_operand (o : Operand) : o.phrase.text write = o.render write := by
  cases o <;> rfl

theorem text_phrase_test (t : Test) : t.phrase.text write = t.render write := by
  cases t with
  | compare column op operand =>
    simp only [Test.phrase, Phrase.text, text_phrase_operator, text_phrase_operand, Test.render]
  | oneOf column negated values =>
    have written : (values.map Phrase.slot).map (Phrase.text write) = values.map write := by
      simp [Function.comp_def, Phrase.text]
    simp only [Test.phrase, Phrase.text, Phrase.text_negating, Phrase.text_items, written,
      Test.render]
    simp [← String.toList_inj]
  | between column negated low high =>
    simp only [Test.phrase, Phrase.text, Phrase.text_negating, Phrase.text_trailing, behind,
      Test.render]
    simp [← String.toList_inj]
  | isNull column negated =>
    simp only [Test.phrase, Phrase.text, Phrase.text_negating, Test.render]
    simp [← String.toList_inj]

mutual

theorem text_phrase_condition : (c : Condition) → c.phrase.text write = c.render write
  | .test _ t => by rw [Condition.phrase, Condition.render, text_phrase_test]
  | .group _ parts => by
    have inner := text_allPhrase parts
    rw [Condition.renderAll] at inner
    rw [Condition.phrase, Condition.render, Phrase.text, inner]

theorem text_allPhrase : (cs : List Condition) →
    (Condition.allPhrase cs).text write = Condition.renderAll write cs
  | [] => rfl
  | c :: rest => by
    rw [Condition.allPhrase, Phrase.text_trailing, Condition.renderAll_cons,
      text_phrase_condition c, behind_linkedPhrases rest]

theorem behind_linkedPhrases : (cs : List Condition) →
    behind write (Condition.linkedPhrases cs) = Condition.following write cs
  | [] => rfl
  | c :: rest => by
    rw [Condition.linkedPhrases, behind, Condition.following, Phrase.text, Phrase.text,
      text_phrase_condition c, behind_linkedPhrases rest]

end

end Conditions

/-! ## The phrase of a query -/

/-- The phrase of a join. Without conditions the join has no ON. -/
def Join.phrase (j : Join) : Phrase :=
  let table := spaced (words j.kind.text) (words j.table)
  if j.on.isEmpty then table else spaced (spaced table (words "ON")) (Condition.allPhrase j.on)

namespace Query

def projectionPhrase (q : Query) : Phrase :=
  match q.entries with
  | [] => sign "*"
  | columns => items (columns.map words)

def partPhrases (keyword : String) (content : Phrase) (absent : Bool) : List Phrase :=
  if absent then [] else [spaced (words keyword) content]

def countPhrases (keyword : String) : Option Int64 → List Phrase
  | none => []
  | some n => [spaced (words keyword) (.number n.toInt)]

def orderPhrase (q : Query) (order : String × Direction) : Phrase :=
  spaced (words (Column.sorted order.1 q.table q.hasJoin)) (words order.2.text)

def selectPhrase (q : Query) : Phrase :=
  let keyword := if q.distinct then spaced (words "SELECT") (words "DISTINCT") else words "SELECT"
  trailing keyword [q.projectionPhrase, words "FROM", words q.table]

def phrase (q : Query) : Phrase :=
  trailing q.selectPhrase (q.joins.map Join.phrase
    ++ partPhrases "WHERE" (Condition.allPhrase q.wheres) q.wheres.isEmpty
    ++ partPhrases "GROUP BY" (items (q.groups.map words)) q.groups.isEmpty
    ++ partPhrases "ORDER BY" (items (q.orders.map q.orderPhrase)) q.orders.isEmpty
    ++ countPhrases "LIMIT" q.limit ++ countPhrases "OFFSET" q.offset)

section Text

variable {write : Value → String}

theorem text_phrase_join (j : Join) : j.phrase.text write = j.render write := by
  unfold Join.phrase Join.render
  cases j.on with
  | nil => simp [Phrase.text]
  | cons c rest =>
    simp only [List.isEmpty_cons, Bool.false_eq_true, if_false, Phrase.text, text_allPhrase]
    simp [← String.toList_inj]

theorem behind_joins (joins : List Join) :
    behind write (joins.map Join.phrase) = joinTexts write joins := by
  induction joins with
  | nil => rfl
  | cons j rest ih => rw [List.map_cons, behind, joinTexts, text_phrase_join, ih]

theorem text_words (names : List String) :
    (items (names.map words)).text write = String.intercalate ", " names := by
  rw [Phrase.text_items, List.map_map]
  exact congrArg _ (List.map_id names)

theorem text_projectionPhrase (q : Query) : q.projectionPhrase.text write = q.projectionText := by
  unfold projectionPhrase projectionText
  cases q.entries with
  | nil => rfl
  | cons c rest => exact text_words (c :: rest)

theorem behind_part (keyword : String) {sep : String} {content : Phrase} {texts : List String}
    {absent : Bool} (empty : texts.isEmpty = absent)
    (written : content.text write = String.intercalate sep texts) :
    behind write (partPhrases keyword content absent) = part keyword sep texts := by
  subst empty
  cases texts with
  | nil => rfl
  | cons t rest =>
    simp only [partPhrases, List.isEmpty_cons, Bool.false_eq_true, if_false, behind, Phrase.text,
      written, part]
    simp [← String.toList_inj]

theorem behind_count (keyword : String) (n : Option Int64) :
    behind write (countPhrases keyword n) = countPart keyword n := by
  cases n with
  | none => rfl
  | some n =>
    simp only [countPhrases, behind, Phrase.text, countPart]
    simp [← String.toList_inj]

theorem text_selectPhrase (q : Query) : q.selectPhrase.text write =
    "SELECT " ++ (if q.distinct then "DISTINCT " else "") ++ q.projectionText ++ " FROM " ++
      q.table := by
  simp only [selectPhrase, Phrase.text_trailing, behind, Phrase.text, text_projectionPhrase]
  cases q.distinct <;> simp [Phrase.text, ← String.toList_inj]

/-- A query is written as its phrase. -/
theorem text_phrase (q : Query) : q.phrase.text write = q.render write := by
  have absent : q.orderTexts.isEmpty = q.orders.isEmpty := List.isEmpty_map ..
  have sorted : (items (q.orders.map q.orderPhrase)).text write =
      String.intercalate ", " q.orderTexts := by
    rw [Phrase.text_items, List.map_map]
    rfl
  have wheres := behind_part "WHERE" (Condition.isEmpty_fragments write q.wheres)
    (text_allPhrase q.wheres)
  have groups := behind_part "GROUP BY" rfl (@text_words write q.groups)
  have orders := behind_part "ORDER BY" absent sorted
  delta phrase render
  rw [Phrase.text_trailing]
  simp only [Phrase.behind_append, text_selectPhrase, behind_joins, wheres, groups, orders,
    behind_count, String.append_assoc]

end Text

end Query

/-! ## The values of a phrase -/

theorem values_negating (negated : Bool) (p : Phrase) : (negating negated p).values = p.values := by
  cases negated <;> rfl

theorem values_phrase_test (t : Test) : t.phrase.values = t.values := by
  cases t with
  | compare column op operand => cases op <;> cases operand <;> rfl
  | oneOf column negated values =>
    simp only [Test.phrase, Phrase.values, values_negating, Phrase.values_items, List.flatMap_map,
      Test.values, List.nil_append]
    exact List.flatMap_singleton' values
  | between column negated low high => cases negated <;> rfl
  | isNull column negated => cases negated <;> rfl

mutual

theorem values_phrase_condition : (c : Condition) → c.phrase.values = c.values
  | .test _ t => values_phrase_test t
  | .group _ parts => values_allPhrase parts

theorem values_allPhrase : (cs : List Condition) →
    (Condition.allPhrase cs).values = Condition.allValues cs
  | [] => rfl
  | c :: rest => by
    rw [Condition.allPhrase, Phrase.values_trailing, values_phrase_condition c,
      values_linkedPhrases rest, Condition.allValues]

theorem values_linkedPhrases : (cs : List Condition) →
    (Condition.linkedPhrases cs).flatMap Phrase.values = Condition.allValues cs
  | [] => rfl
  | c :: rest => by
    rw [Condition.linkedPhrases, List.flatMap_cons, values_linkedPhrases rest, Condition.allValues,
      Phrase.values, values_phrase_condition c]
    rfl

end

theorem values_words (names : List String) : (items (names.map words)).values = [] := by
  rw [Phrase.values_items, List.flatMap_map]
  exact List.flatMap_eq_nil_iff.2 fun _ _ => rfl

namespace Query

theorem values_phrase_join (j : Join) : j.phrase.values = j.values := by
  unfold Join.phrase Join.values
  cases j.on with
  | nil => rfl
  | cons c rest => exact values_allPhrase (c :: rest)

theorem values_selectPhrase (q : Query) : q.selectPhrase.values = [] := by
  have projection : q.projectionPhrase.values = [] := by
    unfold projectionPhrase
    cases q.entries with
    | nil => rfl
    | cons c rest => exact values_words (c :: rest)
  simp only [selectPhrase, Phrase.values_trailing]
  cases q.distinct <;> simp [Phrase.values, projection]

theorem values_partPhrases (keyword : String) (content : Phrase) {absent : Bool}
    (empty : absent → content.values = []) :
    (partPhrases keyword content absent).flatMap Phrase.values = content.values := by
  cases absent with
  | true => exact (empty rfl).symm
  | false => simp [partPhrases, Phrase.values]

/-- The values in the phrase of a query are the values of the query, in their order. -/
theorem values_phrase (q : Query) : q.phrase.values = q.args := by
  have joins : (q.joins.map Join.phrase).flatMap Phrase.values = q.joins.flatMap Join.values := by
    simp only [List.flatMap_map, values_phrase_join]
  have wheres : (partPhrases "WHERE" (Condition.allPhrase q.wheres) q.wheres.isEmpty).flatMap
      Phrase.values = Condition.allValues q.wheres := by
    rw [values_partPhrases, values_allPhrase]
    intro empty
    rw [List.isEmpty_iff.1 empty]
    rfl
  have orders : (items (q.orders.map q.orderPhrase)).values = [] := by
    rw [Phrase.values_items, List.flatMap_map]
    exact List.flatMap_eq_nil_iff.2 fun _ _ => rfl
  have counts (keyword : String) (n : Option Int64) :
      (countPhrases keyword n).flatMap Phrase.values = [] := by
    cases n <;> rfl
  rw [phrase, Phrase.values_trailing, values_selectPhrase]
  simp only [List.flatMap_append, joins, wheres, counts, args, List.nil_append, List.append_nil,
    values_partPhrases _ _ fun _ => values_words _, values_partPhrases _ _ fun _ => orders,
    values_words, orders]

end Query

end SelectQuery
