import SelectQuery.Proofs.Sqlite.Inlined
import SelectQuery.Proofs.Syntax.Lexeme

/-!
The text of a query can be read back. If the names of a query are paths and no words of statements,
its text falls into the parts that the query was rendered from, and each part says what it was
rendered from.

What is proved:
  1. `readable_build`: the tests that a script adds can be read back.
  2. `reads_select`, `reads_join`, `reads_where`, `reads_items`, `reads_count`: each part of the text
     adds what the query says there to the outline.
  3. `outline_of_values`: the outline and the values of a query make up what the query says.
  4. `parse_text`: so the text of a query is read as its outline, and queries with the same text and
     the same values say the same.
-/

namespace SelectQuery

open Syntax (Token Atom Head Outline Reading Joined Falls Reads Headless Nameable Worded tokens
  columns? sorted? items? name? number?)
open Phrase (words items spaced)

/-! ## What a query says -/

/-- What a join says, where `f` gives what is kept of a test. -/
def Join.outline {α : Type} (f : Test → α) (j : Join) : Joined α :=
  ⟨j.kind, j.table, Condition.trees f j.on⟩

/-- What a query says, with its columns as they are written, where `f` gives what is kept of a
test. -/
def Query.outline {α : Type} (f : Test → α) (q : Query) : Outline α where
  distinct := q.distinct
  projection := q.entries
  table := q.table
  joins := q.joins.map (Join.outline f)
  wheres := Condition.trees f q.wheres
  groups := q.groups
  orders := q.orders.map fun (column, direction) =>
    (Column.sorted column q.table q.hasJoin, direction)
  limit := q.limit.map Int64.toInt
  offset := q.offset.map Int64.toInt

/-! ## Tests that can be read back -/

/-- A membership has values, and every column is named with its table. -/
structure Test.Located (t : Test) : Prop where
  filled : t.Filled
  dotted : ∀ n ∈ t.names, Column.isDotted n

theorem Scope.located_of_test {s : Scope} {r : Request} {t : Test} (h : s.test? r = .ok (some t)) :
    t.Located := by
  obtain ⟨filled, path, found, names⟩ := test?_eq_ok h
  refine ⟨filled, ?_⟩
  intro n hn
  rcases names n hn with rfl | further
  · rw [locate_eq_ok found]
    exact isDotted_qualified _ _
  · exact isDotted_of_qualified further

theorem JoinCondition.located_of_test {s : Scope} {on : JoinCondition} {t : Test}
    (h : on.test s = .ok t) : t.Located := by
  cases on with
  | value column op v =>
    apply Scope.located_of_test (s := s) (r := .compare column op v)
    rw [Scope.test?, show s.valueTest column op v = .ok t from h]
    rfl
  | columns column op table other =>
    simp only [JoinCondition.test, Scope.columnTest, bind_eq_ok, pure_eq_ok] at h
    obtain ⟨path, found, _, _, rfl⟩ := h
    refine ⟨trivial, ?_⟩
    intro n hn
    rcases List.mem_cons.1 hn with rfl | hn
    · rw [Scope.locate_eq_ok found]
      exact isDotted_qualified _ _
    · rw [List.mem_singleton.1 hn]
      exact isDotted_qualified _ _

mutual

theorem Condition.readable_of_names : (c : Condition) → c.Every Test.Located →
    (∀ n ∈ c.names, isIdentifierPath n) → c.Every Test.Readable
  | .test _ t, .test located, paths => by
    refine .test ⟨?_, located.filled⟩
    intro n hn
    rw [isQualifiedPath, Bool.and_eq_true]
    exact ⟨paths n hn, located.dotted n hn⟩
  | .group _ parts, .group filled each, paths => .group filled (readable_of_allNames parts each paths)

theorem Condition.readable_of_allNames : (cs : List Condition) → (∀ c ∈ cs, c.Every Test.Located) →
    (∀ n ∈ Condition.allNames cs, isIdentifierPath n) → ∀ c ∈ cs, c.Every Test.Readable
  | [], _, _ => fun _ hc => absurd hc List.not_mem_nil
  | c :: rest, located, paths => by
    have first := readable_of_names c (located c List.mem_cons_self) fun n hn =>
      paths n (List.mem_append_left _ hn)
    have later := readable_of_allNames rest (fun d hd => located d (List.mem_cons_of_mem c hd))
      fun n hn => paths n (List.mem_append_right _ hn)
    intro d hd
    rcases List.mem_cons.1 hd with rfl | hd
    · exact first
    · exact later d hd

end

namespace Query

/-- The tests of a query that a script builds can be read back, if their names are paths. -/
theorem readable_build (scope : Scope) (script : List QueryStep)
    (paths : ∀ n ∈ (build { scope } script).givenNames, isIdentifierPath n) :
    (build { scope } script).Every Test.Readable := by
  have empty : Every Test.Located { scope } :=
    ⟨fun _ hc => absurd hc List.not_mem_nil, fun _ hj => absurd hj List.not_mem_nil⟩
  obtain ⟨wheres, joins⟩ := @every_build scope.oracle Test.Located
    (fun _ _ _ => Scope.located_of_test) (fun _ _ _ => JoinCondition.located_of_test) _ rfl empty
    script
  constructor
  · exact Condition.readable_of_allNames _ wheres fun n hn => paths n (by simp [givenNames, hn])
  · intro j hj
    apply Condition.readable_of_allNames _ (joins j hj)
    intro n hn
    have given : n ∈ (build { scope } script).joins.flatMap Join.names :=
      List.mem_flatMap.2 ⟨j, hj, List.mem_cons_of_mem _ hn⟩
    exact paths n (by simp [givenNames, given])

/-! ## The parts of the text -/

section Parts

variable {o : Outline Atom}

/-- A part that is left out adds nothing. -/
theorem reads_part {keyword : String} {content : Phrase} {absent : Bool} {p : Outline Atom}
    (skipped : absent = true → o = p)
    (given : absent = false → Reads (tokens keyword ++ content.lexemes) o p) :
    Reads ((partPhrases keyword content absent).flatMap Phrase.lexemes) o p := by
  cases absent with
  | true => exact skipped rfl ▸ .refl o
  | false =>
    rw [partPhrases, if_neg Bool.false_ne_true, List.flatMap_singleton]
    exact given rfl

variable {q : Query}

theorem worded_entries (names : ∀ n ∈ q.givenNames, Nameable n) :
    ∀ c ∈ q.entries, Worded c := by
  have table := (names q.table (by simp [givenNames])).path
  intro c hc
  obtain ⟨column, hcolumn, rfl⟩ := List.mem_map.1 (Column.mem_distinct hc)
  exact Syntax.worded_selected Column.keepsNames_aliasStem q.hasJoin table
    (names column (by simp [givenNames, hcolumn]))

/-- The projected columns can be read back and do not start as DISTINCT does. -/
theorem columns_projection (names : ∀ n ∈ q.givenNames, Nameable n) :
    ∃ t ts, q.projectionPhrase.lexemes = t :: ts ∧ t.spells "DISTINCT" = false ∧
      Headless (t :: ts) ∧
      columns? (t :: ts) = some (q.entries) := by
  have worded := worded_entries names
  unfold projectionPhrase
  cases columns : q.entries with
  | nil =>
    have star : tokens "*" = [.stray ['*']] := by decide +kernel
    exact ⟨_, _, star, rfl, .cons rfl .nil, rfl⟩
  | cons c rest =>
    rw [columns] at worded
    obtain ⟨word, ts, free, front, headless, read⟩ := Worded.columns? worded
    exact ⟨_, ts, front, free.spells (by decide), headless, read⟩

/-- The text up to the base table says whether rows are distinct, the projected columns and the
base table. -/
theorem reads_select (names : ∀ n ∈ q.givenNames, Nameable n) :
    Reads q.selectPhrase.lexemes {}
      { distinct := q.distinct
        projection := q.entries
        table := q.table } := by
  obtain ⟨t, ts, projection, other, headless, read⟩ := columns_projection names
  have table := names q.table (by simp [givenNames])
  have select : tokens "SELECT" = [.name "SELECT"] := by decide +kernel
  have distinct : tokens "DISTINCT" = [.name "DISTINCT"] := by decide +kernel
  have source : tokens "FROM" = [.name "FROM"] := by decide +kernel
  have columns : Reads (.name "SELECT" :: (if q.distinct then [.name "DISTINCT"] else []) ++ t :: ts)
      {} { distinct := q.distinct
           projection := q.entries } := by
    cases q.distinct with
    | true =>
      refine .head .select (by decide +kernel) (.cons (by decide +kernel) headless) ?_
      have spelled : (Token.name "DISTINCT").spells "DISTINCT" := by decide +kernel
      show Reading.step {} (.select, .name "DISTINCT" :: t :: ts) = _
      rw [Reading.step, if_pos spelled, read]
      rfl
    | false =>
      refine .head .select (by decide +kernel) headless ?_
      show Reading.step {} (.select, t :: ts) = _
      rw [Reading.step, other, if_neg Bool.false_ne_true, read]
      rfl
  have base : Reads [.name "FROM", .name q.table]
      { distinct := q.distinct
        projection := q.entries }
      { distinct := q.distinct
        projection := q.entries
        table := q.table } := .head .from (by decide +kernel) (.cons table.head? .nil) rfl
  have parts := columns.append base
  rw [selectPhrase, Phrase.lexemes_trailing]
  simp only [List.flatMap_cons, List.flatMap_nil, projection, Phrase.lexemes, source, table.tokens]
  cases distinct_rows : q.distinct <;>
    simpa [distinct_rows, Phrase.lexemes, select, distinct] using parts

/-- A join without its conditions. -/
theorem reads_joined (kind : JoinKind) {table : String} (name : Nameable table) :
    Reads (tokens kind.text ++ [.name table]) o
      { o with joins := o.joins ++ [⟨kind, table, []⟩] } := by
  have joined : Falls [.name "JOIN", .name table] [(.join, [.name table])] :=
    .head .join (by decide +kernel) (.cons name.head? .nil)
  have spoken : tokens JoinKind.plain.text = [.name "JOIN"] := by decide +kernel
  -- The word before JOIN heads a section of its own.
  have kinds {word : String} {kind : JoinKind} (heads : (Token.name word).head? = some (.kind kind))
      (spoken : tokens kind.text = [.name word, .name "JOIN"]) :
      Reads (tokens kind.text ++ [.name table]) o
        { o with joins := o.joins ++ [⟨kind, table, []⟩] } := by
    have falls := Falls.append (.head (.kind kind) heads .nil) joined
    rw [spoken]
    exact ⟨_, falls, rfl⟩
  cases kind with
  | plain =>
    rw [spoken]
    exact ⟨_, joined, rfl⟩
  | inner => exact @kinds "INNER" .inner (by decide +kernel) (by decide +kernel)
  | left => exact @kinds "LEFT" .left (by decide +kernel) (by decide +kernel)
  | right => exact @kinds "RIGHT" .right (by decide +kernel) (by decide +kernel)
  | cross => exact @kinds "CROSS" .cross (by decide +kernel) (by decide +kernel)

/-- A join says its kind, its table and its conditions. -/
theorem reads_join {j : Join} (name : Nameable j.table)
    (readable : ∀ c ∈ j.on, c.Every Test.Readable) :
    Reads j.phrase.lexemes o { o with joins := o.joins ++ [j.outline Test.atom] } := by
  have joined := reads_joined (o := o) j.kind name
  unfold Join.phrase Join.outline
  cases on : j.on with
  | nil => simpa [Phrase.lexemes, name.tokens, Condition.trees] using joined
  | cons c rest =>
    rw [on] at readable
    have keyword : tokens "ON" = [.name "ON"] := by decide +kernel
    have conditions : Reads (.name "ON" :: Condition.allTokens (c :: rest))
        { o with joins := o.joins ++ [⟨j.kind, j.table, []⟩] }
        { o with
          joins := o.joins ++ [⟨j.kind, j.table, Condition.trees Test.atom (c :: rest)⟩] } := by
      refine .head .on (by decide +kernel) (Syntax.headless_allTokens _ readable) ?_
      have read := Syntax.Tree.parse_allTokens (List.cons_ne_nil c rest) readable
      simp [Reading.step, read]
    have parts := joined.append conditions
    simpa [Phrase.lexemes, name.tokens, keyword, Phrase.lexemes_allPhrase readable] using parts

/-- The joins are read in their order. -/
theorem reads_joins {joins : List Join} (names : ∀ j ∈ joins, Nameable j.table)
    (readable : ∀ j ∈ joins, ∀ c ∈ j.on, c.Every Test.Readable) :
    Reads ((joins.map Join.phrase).flatMap Phrase.lexemes) o
      { o with joins := o.joins ++ joins.map (Join.outline Test.atom) } := by
  induction joins generalizing o with
  | nil => simpa using Reads.refl o
  | cons j rest ih =>
    have first := reads_join (o := o) (names j List.mem_cons_self) (readable j List.mem_cons_self)
    have later := ih (o := { o with joins := o.joins ++ [j.outline Test.atom] })
      (fun k hk => names k (List.mem_cons_of_mem j hk))
      fun k hk => readable k (List.mem_cons_of_mem j hk)
    simpa using first.append later

/-! ### Conditions, lists and numbers -/

theorem reads_where {wheres : List Condition} (fresh : o.wheres = [])
    (readable : ∀ c ∈ wheres, c.Every Test.Readable) :
    Reads ((partPhrases "WHERE" (Condition.allPhrase wheres) wheres.isEmpty).flatMap Phrase.lexemes) o
      { o with wheres := Condition.trees Test.atom wheres } := by
  apply reads_part
  · intro absent
    rw [List.isEmpty_iff.1 absent, Condition.trees, ← fresh]
  · intro given
    have filled : wheres ≠ [] := List.isEmpty_eq_false_iff.1 given
    have keyword : tokens "WHERE" = [.name "WHERE"] := by decide +kernel
    rw [keyword, Phrase.lexemes_allPhrase readable]
    refine .head .where (by decide +kernel) (Syntax.headless_allTokens _ readable) ?_
    have read := Syntax.Tree.parse_allTokens filled readable
    simp [Reading.step, read]

/-- A list is read item by item. -/
theorem reads_items {α β : Type} {keyword : String} (word : String) (head : Head)
    (set : List α → Outline Atom) {read : List Token → Option α} {value : β → α} {φ : β → Phrase}
    {xs : List β}
    (spoken : tokens keyword = [.name word, .name "BY"])
    (heads : (Token.name word).head? = some head)
    (step : ∀ ts, Reading.step ⟨o, .plain⟩ (head, .name "BY" :: ts) =
      (items? read ts).map fun ys => ⟨set ys, .plain⟩)
    (fresh : o = set [])
    (each : ∀ x ∈ xs, Headless (φ x).lexemes ∧ .comma ∉ (φ x).lexemes ∧
      read (φ x).lexemes = some (value x)) :
    Reads ((partPhrases keyword (items (xs.map φ)) xs.isEmpty).flatMap Phrase.lexemes) o
      (set (xs.map value)) := by
  apply reads_part
  · intro absent
    rw [List.isEmpty_iff.1 absent]
    exact fresh
  · intro given
    have filled : xs ≠ [] := List.isEmpty_eq_false_iff.1 given
    have headless : Headless (items (xs.map φ)).lexemes := by
      apply Phrase.headless_items
      intro ψ hψ
      obtain ⟨x, hx, rfl⟩ := List.mem_map.1 hψ
      exact (each x hx).1
    have whole : items? read (items (xs.map φ)).lexemes = some (xs.map value) := by
      rw [Phrase.lexemes_items, List.map_map]
      exact Syntax.items?_intercalate filled fun x hx => (each x hx).2
    rw [spoken]
    refine .head head heads (.cons (by decide +kernel) headless) ?_
    show Reading.step _ (head, .name "BY" :: (items (xs.map φ)).lexemes) = _
    rw [step, whole]
    rfl

theorem reads_groups {groups : List String} (fresh : o.groups = [])
    (names : ∀ n ∈ groups, Nameable n) :
    Reads ((partPhrases "GROUP BY" (items (groups.map words)) groups.isEmpty).flatMap Phrase.lexemes) o
      { o with groups } := by
  have read := @reads_items o _ _ "GROUP BY" "GROUP" .group (fun groups => { o with groups }) name? id
    words groups (by decide +kernel) (by decide +kernel) (fun _ => rfl) (by rw [← fresh]) ?each
  · rwa [List.map_id] at read
  · intro n hn
    rw [Phrase.lexemes, (names n hn).tokens]
    exact ⟨.cons (names n hn).head? .nil, by simp, rfl⟩

theorem nameable_sorted {column table : String} (hc : Nameable column) (ht : isIdentifierPath table)
    (hasJoin : Bool) : Nameable (Column.sorted column table hasJoin) := by
  unfold Column.sorted
  split
  · exact .of_qualified (isQualifiedPath_qualified hc.path ht)
  · exact hc

/-- A sorted column is read back with its direction. -/
theorem sorted?_order {order : String × Direction} (hc : Nameable order.1)
    (ht : isIdentifierPath q.table) :
    Headless (q.orderPhrase order).lexemes ∧ .comma ∉ (q.orderPhrase order).lexemes ∧
      sorted? (q.orderPhrase order).lexemes =
        some (Column.sorted order.1 q.table q.hasJoin, order.2) := by
  obtain ⟨column, direction⟩ := order
  have name := nameable_sorted hc ht q.hasJoin
  have keyword : tokens direction.text = [.name direction.text] := by
    cases direction <;> decide +kernel
  have free : (Token.name direction.text).head? = none := by
    cases direction <;> decide +kernel
  have known : (Direction.ofKeyword direction.text).toOption = some direction := by
    cases direction <;> decide +kernel
  rw [orderPhrase, Phrase.lexemes, Phrase.lexemes, Phrase.lexemes, name.tokens, keyword]
  refine ⟨.cons name.head? (.cons free .nil), by simp, ?_⟩
  show (Direction.ofKeyword direction.text).toOption.map _ = _
  rw [known]
  rfl

theorem reads_orders (fresh : o.orders = []) (ht : isIdentifierPath q.table)
    (names : ∀ order ∈ q.orders, Nameable order.1) :
    Reads ((partPhrases "ORDER BY" (items (q.orders.map q.orderPhrase)) q.orders.isEmpty).flatMap
        Phrase.lexemes) o
      { o with orders := (q.outline Test.atom).orders } :=
  reads_items "ORDER" .order (fun orders => { o with orders }) (by decide +kernel) (by decide +kernel)
    (fun _ => rfl) (by rw [← fresh]) fun order ho => sorted?_order (names order ho) ht

/-- A number is read as what its digits denote. -/
theorem reads_count (keyword : String) (head : Head) (set : Option Int → Outline Atom)
    (spoken : tokens keyword = [.name keyword]) (heads : (Token.name keyword).head? = some head)
    (step : ∀ ts, Reading.step ⟨o, .plain⟩ (head, ts) =
      (number? ts).map fun n => ⟨set (some n), .plain⟩)
    (fresh : o = set none) (n : Option Int64) :
    Reads ((countPhrases keyword n).flatMap Phrase.lexemes) o (set (n.map Int64.toInt)) := by
  cases n with
  | none => exact fresh ▸ .refl o
  | some n =>
    obtain ⟨read, headless⟩ := Syntax.number?_tokens n.toInt
    rw [countPhrases, List.flatMap_singleton, Phrase.lexemes, Phrase.lexemes, Phrase.lexemes, spoken]
    refine .head head heads headless ?_
    show Reading.step _ (head, tokens (toString n.toInt)) = _
    rw [step, read]
    rfl

theorem reads_limit (fresh : o.limit = none) (n : Option Int64) :
    Reads ((countPhrases "LIMIT" n).flatMap Phrase.lexemes) o
      { o with limit := n.map Int64.toInt } :=
  reads_count "LIMIT" .limit (fun limit => { o with limit }) (by decide +kernel) (by decide +kernel)
    (fun _ => rfl) (by rw [← fresh]) n

theorem reads_offset (fresh : o.offset = none) (n : Option Int64) :
    Reads ((countPhrases "OFFSET" n).flatMap Phrase.lexemes) o
      { o with offset := n.map Int64.toInt } :=
  reads_count "OFFSET" .offset (fun offset => { o with offset }) (by decide +kernel)
    (by decide +kernel) (fun _ => rfl) (by rw [← fresh]) n

/-! ## The text -/

/-- Part by part, the text of a query says what the query says. -/
theorem reads_phrase (names : ∀ n ∈ q.givenNames, Nameable n) (readable : q.Every Test.Readable) :
    Reads q.phrase.lexemes {} (q.outline Test.atom) := by
  have table := (names q.table (by simp [givenNames])).path
  have joined : ∀ j ∈ q.joins, Nameable j.table := by
    intro j hj
    have given : j.table ∈ q.joins.flatMap Join.names :=
      List.mem_flatMap.2 ⟨j, hj, List.mem_cons_self⟩
    exact names j.table (by simp [givenNames, given])
  have ordered : ∀ order ∈ q.orders, Nameable order.1 := fun order ho =>
    names order.1 (List.mem_append_right _ (List.mem_map_of_mem ho))
  have grouped : ∀ n ∈ q.groups, Nameable n := fun n hn => names n (by simp [givenNames, hn])
  have base := (reads_select names).append (reads_joins joined readable.joins)
  have wheres := base.append (reads_where rfl readable.wheres)
  have groups := wheres.append (reads_groups rfl grouped)
  have orders := groups.append (reads_orders rfl table ordered)
  have limit := orders.append (reads_limit rfl q.limit)
  have offset := limit.append (reads_offset rfl q.offset)
  rw [phrase, Phrase.lexemes_trailing]
  simp only [List.flatMap_append, ← List.append_assoc]
  exact offset

end Parts

end Query

/-! ## The values -/

/-- What is read of a test and its values are the test. -/
theorem Test.eq_of_atom {t u : Test} (same : t.atom = u.atom) {r s : List Value}
    (values : t.values ++ r = u.values ++ s) : t = u ∧ r = s := by
  cases t with
  | compare column op operand =>
    cases u with
    | compare column' op' operand' =>
      obtain ⟨rfl, rfl, term⟩ := Syntax.Atom.compare.inj same
      cases operand with
      | value v =>
        cases operand' with
        | value w =>
          obtain ⟨rfl, rest⟩ := List.cons.inj values
          exact ⟨rfl, rest⟩
        | column path => cases term
      | column path =>
        cases operand' with
        | value w => cases term
        | column path' =>
          cases term
          exact ⟨rfl, values⟩
    | _ => cases same
  | oneOf column negated items =>
    cases u with
    | oneOf column' negated' items' =>
      obtain ⟨rfl, rfl, marks⟩ := Syntax.Atom.oneOf.inj same
      have length : items.length = items'.length := by simpa using congrArg List.length marks
      obtain ⟨rfl, rest⟩ := List.append_inj values length
      exact ⟨rfl, rest⟩
    | _ => cases same
  | between column negated low high =>
    cases u with
    | between column' negated' low' high' =>
      obtain ⟨rfl, rfl, -, -⟩ := Syntax.Atom.between.inj same
      obtain ⟨bounds, rest⟩ := List.append_inj values rfl
      cases bounds
      exact ⟨rfl, rest⟩
    | _ => cases same
  | isNull column negated =>
    cases u with
    | isNull column' negated' =>
      obtain ⟨rfl, rfl⟩ := Syntax.Atom.isNull.inj same
      exact ⟨rfl, values⟩
    | _ => cases same

namespace Condition

mutual

/-- What is read of a condition and its values say what the condition says. -/
theorem tree_of_values : (c d : Condition) → c.tree Test.atom = d.tree Test.atom → ∀ r s,
    c.values ++ r = d.values ++ s → c.tree id = d.tree id ∧ r = s
  | .test _ t, .test _ u, same, r, s, values => by
    obtain ⟨rfl, rest⟩ := Test.eq_of_atom (Syntax.Tree.atom.inj same) values
    exact ⟨rfl, rest⟩
  | .group _ cs, .group _ ds, same, r, s, values => by
    obtain ⟨parts, rest⟩ := trees_of_values cs ds (Syntax.Tree.group.inj same) r s values
    exact ⟨congrArg Syntax.Tree.group parts, rest⟩
  | .test _ _, .group _ _, same, _, _, _ => by cases same
  | .group _ _, .test _ _, same, _, _, _ => by cases same

theorem trees_of_values : (cs ds : List Condition) → trees Test.atom cs = trees Test.atom ds →
    ∀ r s, allValues cs ++ r = allValues ds ++ s → trees id cs = trees id ds ∧ r = s
  | [], [], _, _, _, values => ⟨rfl, values⟩
  | c :: cs, d :: ds, same, r, s, values => by
    obtain ⟨first, others⟩ := List.cons.inj same
    rw [allValues, allValues, List.append_assoc, List.append_assoc] at values
    obtain ⟨tree, rest⟩ := tree_of_values c d (Prod.mk.inj first).2 _ _ values
    obtain ⟨later, rest⟩ := linkedTrees_of_values cs ds others r s rest
    exact ⟨by rw [trees, trees, tree, later], rest⟩
  | [], _ :: _, same, _, _, _ => by cases same
  | _ :: _, [], same, _, _, _ => by cases same

theorem linkedTrees_of_values : (cs ds : List Condition) →
    linkedTrees Test.atom cs = linkedTrees Test.atom ds →
    ∀ r s, allValues cs ++ r = allValues ds ++ s → linkedTrees id cs = linkedTrees id ds ∧ r = s
  | [], [], _, _, _, values => ⟨rfl, values⟩
  | c :: cs, d :: ds, same, r, s, values => by
    obtain ⟨first, others⟩ := List.cons.inj same
    obtain ⟨link, first⟩ := Prod.mk.inj first
    rw [allValues, allValues, List.append_assoc, List.append_assoc] at values
    obtain ⟨tree, rest⟩ := tree_of_values c d first _ _ values
    obtain ⟨later, rest⟩ := linkedTrees_of_values cs ds others r s rest
    exact ⟨by rw [linkedTrees, linkedTrees, link, tree, later], rest⟩
  | [], _ :: _, same, _, _, _ => by cases same
  | _ :: _, [], same, _, _, _ => by cases same

end

end Condition

namespace Query

theorem joins_of_values {js ks : List Join}
    (same : js.map (Join.outline Test.atom) = ks.map (Join.outline Test.atom)) {r s : List Value}
    (values : js.flatMap Join.values ++ r = ks.flatMap Join.values ++ s) :
    js.map (Join.outline id) = ks.map (Join.outline id) ∧ r = s := by
  induction js generalizing ks with
  | nil =>
    cases ks with
    | nil => exact ⟨rfl, values⟩
    | cons k ks => cases same
  | cons j js ih =>
    cases ks with
    | nil => cases same
    | cons k ks =>
      obtain ⟨first, others⟩ := List.cons.inj same
      obtain ⟨kind, table, on⟩ := Joined.mk.inj first
      rw [List.flatMap_cons, List.flatMap_cons, List.append_assoc, List.append_assoc] at values
      obtain ⟨conditions, rest⟩ := Condition.trees_of_values j.on k.on on _ _ values
      obtain ⟨later, rest⟩ := ih others rest
      refine ⟨?_, rest⟩
      rw [List.map_cons, List.map_cons, later, Join.outline, Join.outline, kind, table, conditions]

/-- What is read of a query and its values say what the query says. -/
theorem outline_of_values {p q : Query} (same : p.outline Test.atom = q.outline Test.atom)
    (values : p.args = q.args) : p.outline id = q.outline id := by
  unfold outline at same ⊢
  obtain ⟨distinct, projection, table, joins, wheres, groups, orders, limit, offset⟩ :=
    Outline.mk.inj same
  obtain ⟨joined, rest⟩ := joins_of_values joins values
  obtain ⟨conditions, -⟩ := Condition.trees_of_values p.wheres q.wheres wheres [] [] (by rw [rest])
  rw [Outline.mk.injEq]
  exact ⟨distinct, projection, table, joined, conditions, groups, orders, limit, offset⟩

/-- The text of a query whose names are paths and no words of statements is read as what the query
says: whether its rows are distinct, the projected columns, the base table, the joined tables with
their conditions, the conditions of WHERE, the grouped and sorted columns, the limit and the offset.
So queries with the same text say the same, but for the values behind the placeholders, and queries
with the same text and the same values say the same. -/
theorem parse_text (scope : Scope) (script : List QueryStep) :
    let q := build { scope } script
    (∀ n ∈ q.givenNames, Nameable n) →
      Outline.parse q.text = some (q.outline Test.atom) ∧
      ∀ (scope' : Scope) (script' : List QueryStep),
        let p := build { scope := scope' } script'
        (∀ n ∈ p.givenNames, Nameable n) → p.text = q.text →
          p.outline Test.atom = q.outline Test.atom ∧
            (p.args = q.args → p.outline id = q.outline id) := by
  have parse (scope : Scope) (script : List QueryStep)
      (names : ∀ n ∈ (build { scope } script).givenNames, Nameable n) :
      Outline.parse (build { scope } script).text =
        some ((build { scope } script).outline Test.atom) := by
    apply Syntax.parse_of_reads
    rw [text, ← text_phrase, Phrase.tokens_text]
    exact reads_phrase names (readable_build scope script fun n hn => (names n hn).path)
  intro q names
  refine ⟨parse scope script names, ?_⟩
  intro scope' script' p names' texts
  have same : p.outline Test.atom = q.outline Test.atom := by
    have read := parse scope' script' names'
    rw [show (build { scope := scope' } script').text = q.text from texts,
      parse scope script names] at read
    exact (Option.some.inj read).symm
  exact ⟨same, outline_of_values same⟩

/-- Joins with and without ON, a range, a group and a limit below zero. The second script gives the
parts in another order, and a first connective that is not written. -/
theorem parse_text_of_mixed_parts :
    let q := build { scope := ⟨"users", none⟩ }
      [.distinct, .select ["roles.id"], .joinGroup .cross "flags" false [],
        .joinGroup .left "roles" false
          [.add .or (.compare "id" .eq (.text "x")), .add .or (.isNull "role" true)],
        .filter (.add .and (.between "age" true (.int 1) (.int 2))),
        .filter (.group .and false
          [.add .or (.oneOf "id" true [.int 3, .int 4]), .add .or (.compare "name" .notLike .null)]),
        .groupBy ["name"], .order "name" .desc, .limit (some (-1))]
    let p := build { scope := ⟨"users", none⟩ }
      [.limit (some (-1)), .filter (.add .or (.between "users.age" true (.int 1) (.int 2))),
        .filter (.group .and true [.fail, .add .and (.oneOf "id" true [.int 3, .int 4]),
          .add .or (.compare "name" .notLike .null)]),
        .joinGroup .cross "flags" true [.fail],
        .joinGroup .left "roles" false
          [.add .and (.compare "id" .eq (.text "x")), .add .or (.isNull "role" true)],
        .groupBy ["name"], .select ["roles.id"], .distinct, .order "name" .desc]
    Outline.parse q.text = some
        { distinct := true
          projection := ["roles.id AS role_id"]
          table := "users"
          joins := [⟨.cross, "flags", []⟩,
            ⟨.left, "roles", [(.and, .atom (.compare "roles.id" .eq .mark)),
              (.or, .atom (.isNull "roles.role" true))]⟩]
          wheres := [(.and, .atom (.between "users.age" true .mark .mark)),
            (.and, .group [(.and, .atom (.oneOf "users.id" true [.mark, .mark])),
              (.or, .atom (.compare "users.name" .notLike .mark))])]
          groups := ["name"]
          orders := [("users.name", .desc)]
          limit := some (-1) } ∧
      p.outline id = q.outline id := by
  intro q p
  have names : ∀ n ∈ q.givenNames, Nameable n := by decide +kernel
  have names' : ∀ n ∈ p.givenNames, Nameable n := by decide +kernel
  have texts : p.text = q.text := by decide +kernel
  have projection : q.entries = ["roles.id AS role_id"] := by
    decide +kernel
  obtain ⟨parsed, unique⟩ := parse_text ⟨"users", none⟩ _ names
  refine ⟨parsed.trans ?_, (unique ⟨"users", none⟩ _ names' texts).2 rfl⟩
  rw [outline, projection]
  rfl

end Query

end SelectQuery
