import SelectQuery.Proofs.NamedColumn
import SelectQuery.Proofs.Noninterference

/-!
Joins of a column with a column. The other column can be given as a table and a name, as a path that
stands where a value stands, with the operator spelled out, or in a group of one condition. The ways
are checked and written by different routes: a path is a value first and has to be found out to name
a column, and a group is written on a draft of its own.

What is proved:
  1. `namedColumn_path`: two words with a dot between them name a column where the oracle knows it.
  2. `valueTest_of_path`: comparing with a path, as a value, is comparing with its column.
  3. `attempt_columnJoin`: every way is the same step of a query.
  4. `column_joins_agree`: so they have the same outcome in place too, and the same join is written,
     with nothing bound.
-/

namespace SelectQuery

/-- The ways to write a join of `table` in which a column of it is compared with the column `name` of
`owner`. -/
inductive ColumnJoin (kind : JoinKind) (table column : String) (op : Operator)
    (owner name : String) : QueryStep → Prop where
  | columns : ColumnJoin kind table column op owner name
    (.join kind table (.columns column op owner name))
  | path : ColumnJoin kind table column op owner name
    (.join kind table (.value column op (.text (owner ++ "." ++ name))))
  /-- Three texts, the middle one an operator. -/
  | spelled {middle : String} (reads : Operator.parse? middle = some op) :
    ColumnJoin kind table column op owner name
      (.join kind table (.ofTexts column middle (owner ++ "." ++ name)))
  /-- A group of one condition, which fails if the condition does. -/
  | group : ColumnJoin kind table column op owner name
    (.joinGroup kind table false [.add .and (.compare column op (.text (owner ++ "." ++ name)))])
  /-- Three texts, the middle one no operator. -/
  | equal (eq : op = .eq) (unread : Operator.parse? owner = none) :
    ColumnJoin kind table column op owner name (.join kind table (.ofTexts column owner name))
  /-- A column and a path. -/
  | pair (eq : op = .eq) : ColumnJoin kind table column op owner name
    (.join kind table (.value column .eq (.text (owner ++ "." ++ name))))

section Words

variable {owner name : String} (owners : Text.Word owner.toList) (names : Text.Word name.toList)

include owners names

theorem path_of_words : Text.Path (owner ++ "." ++ name) := by
  refine ⟨[owner, name], Nat.le_refl 2, ?_, ?_⟩
  · exact List.forall_mem_cons.2 ⟨owners, List.forall_mem_singleton.2 names⟩
  · rw [String.intercalate_cons_cons, String.intercalate_singleton]

theorem namedColumn_path {oracle : Option Oracle}
    (known : ∀ o ∈ oracle, (o.typeAt (owner ++ "." ++ name)).isSome) :
    (Value.text (owner ++ "." ++ name)).namedColumn? oracle = some (owner ++ "." ++ name) :=
  namedColumn_eq_some_iff.2 ⟨rfl, path_of_words owners names, known⟩

omit owners in
/-- A word is qualified with the table that it is said to be of. -/
theorem qualified_word : Column.qualified name owner = owner ++ "." ++ name := by
  have bare : '.' ∉ name.toList := by
    intro dot
    have rest := Text.isIdentifierRest_of_mem (Text.isIdentifier_iff.2 names) dot
    exact absurd rest (by decide)
  have undotted : Column.isDotted name = false := by
    rw [Column.isDotted, Bool.eq_false_iff]
    exact fun dot => bare (List.contains_iff_mem.1 dot)
  rw [Column.qualified, undotted]
  rfl

end Words

/-- Where a text names a column, comparing with the text is comparing with the column. -/
theorem Scope.valueTest_of_path {s : Scope} {path : String}
    (named : (Value.text path).namedColumn? s.oracle = some path) (column : String)
    (op : Operator) : s.valueTest column op (.text path) = s.columnTest column op path := by
  rw [valueTest, columnTest]
  cases s.locate column with
  | error e => rfl
  | ok found =>
    simp only [bind, Except.bind, operand, named]
    cases s.checkColumns found path <;> rfl

/-- What passes is the comparison of the two columns. -/
theorem Scope.columnTest_eq_ok {s : Scope} {column other : String} {op : Operator} {t : Test}
    (h : s.columnTest column op other = .ok t) :
    t = .compare (Column.qualified column s.table) op (.column other) := by
  simp only [columnTest, bind_eq_ok, pure_eq_ok] at h
  obtain ⟨path, found, _, -, rfl⟩ := h
  rw [locate_eq_ok found]

namespace Query

variable {kind : JoinKind} {table column owner name : String} {op : Operator} {q : Query}
  {s s' : QueryStep}

/-- Every way to write the join adds it on the test of the two columns, or fails as this does. -/
theorem attempt_columnJoin (owners : Text.Word owner.toList) (names : Text.Word name.toList)
    (known : ∀ o ∈ q.scope.oracle, (o.typeAt (owner ++ "." ++ name)).isSome)
    (way : ColumnJoin kind table column op owner name s) :
    q.attempt s = q.pushed kind table
      (((Scope.columnTest ⟨table, q.scope.oracle⟩ column op (owner ++ "." ++ name)).map
        fun t => [.test .and t]).mapError .query) := by
  have named : (Value.text (owner ++ "." ++ name)).namedColumn?
      (⟨table, q.scope.oracle⟩ : Scope).oracle = some (owner ++ "." ++ name) :=
    namedColumn_path owners names known
  have compared := Scope.valueTest_of_path named column
  have apart : JoinCondition.test ⟨table, q.scope.oracle⟩ (.columns column op owner name) =
      Scope.columnTest ⟨table, q.scope.oracle⟩ column op (owner ++ "." ++ name) := by
    rw [JoinCondition.test, qualified_word names]
  cases way with
  | columns => rw [attempt_join, apart]
  | path => rw [attempt_join, JoinCondition.test, compared]
  | spelled reads =>
    rw [attempt_join, JoinCondition.ofTexts, reads]
    simp only [JoinCondition.test, compared]
  | group =>
    rw [attempt_joinGroup, ClauseStep.bodyConditions, ClauseStep.conditions, Scope.test?, compared]
    cases Scope.columnTest ⟨table, q.scope.oracle⟩ column op (owner ++ "." ++ name) <;> rfl
  | equal eq unread =>
    subst eq
    rw [attempt_join, JoinCondition.ofTexts, unread]
    simp only [apart]
  | pair eq =>
    subst eq
    rw [attempt_join, JoinCondition.test, compared]

/-- All ways to write a join of two columns are the same step, if there is no oracle or it knows the
other column: they fail with the same error, or leave the same query, in place or not. The error is
that of checking the two columns, and the join is written with both columns and binds nothing. -/
theorem column_joins_agree (owners : Text.Word owner.toList) (names : Text.Word name.toList)
    (known : ∀ o ∈ q.scope.oracle, (o.typeAt (owner ++ "." ++ name)).isSome)
    (way : ColumnJoin kind table column op owner name s)
    (way' : ColumnJoin kind table column op owner name s') :
    q.attempt s = q.attempt s' ∧ s.edit.perform q.draft = s'.edit.perform q.draft ∧
    (q.attempt s).2.args = q.args ∧
    match Scope.columnTest ⟨table, q.scope.oracle⟩ column op (owner ++ "." ++ name) with
    | .error e => q.attempt s = (some (.query e), q)
    | .ok t =>
      q.attempt s = (none, { q with joins := q.joins ++ [⟨kind, table, [.test .and t]⟩] }) ∧
      (Join.mk kind table [.test .and t]).render Value.hidden =
        kind.text ++ " " ++ table ++ " ON " ++ Column.qualified column table ++ " " ++ op.text
          ++ " " ++ (owner ++ "." ++ name) := by
  have here := attempt_columnJoin owners names known way
  have there := attempt_columnJoin owners names known way'
  have same : q.attempt s = q.attempt s' := here.trans there.symm
  refine ⟨same, ?_, ?_⟩
  · rw [QueryDraft.perform_edit_query, QueryDraft.perform_edit_query, same]
  · cases test : Scope.columnTest ⟨table, q.scope.oracle⟩ column op (owner ++ "." ++ name) with
    | error e =>
      rw [test] at here
      rw [here]
      exact ⟨rfl, rfl⟩
    | ok t =>
      rw [test] at here
      have made : q.attempt s =
          (none, { q with joins := q.joins ++ [⟨kind, table, [.test .and t]⟩] }) := here
      obtain rfl := Scope.columnTest_eq_ok test
      rw [made]
      refine ⟨?_, rfl, ?_⟩
      · simp [args, Join.values, Condition.allValues, Condition.values, Test.values,
          Operand.values]
      · simp [Join.render, Condition.renderAll, Condition.fragments, Condition.linked,
          Condition.render, Test.render, Operand.render, String.append_assoc]

/-- A strict scope of two tables, of which one refers to the other. -/
def strictRoles : Scope where
  table := "users"
  oracle := some (.ofSchema ((Schema.empty.table "users" [("id", .number)]).table "roles"
    [("user_id", .number), ("label", .string)]))

/-- Columns that can be compared are joined alike with the table in the middle and in a group, and
columns that cannot are refused alike. -/
theorem column_joins_agree_in_schema :
    let q : Query := { scope := strictRoles }
    let apart (column : String) : QueryStep := .join .left "roles" (.ofTexts column "users" "id")
    let grouped (column : String) : QueryStep :=
      .joinGroup .left "roles" false [.add .and (.compare column .eq (.text "users.id"))]
    q.attempt (apart "user_id") = q.attempt (grouped "user_id") ∧
      (q.attempt (apart "user_id")).1 = none ∧
      q.attempt (apart "label") = q.attempt (grouped "label") ∧
      (q.attempt (apart "label")).1 =
        some (.query (.typeMismatch "roles.label" "string" "number")) := by
  intro q apart grouped
  have owners : Text.Word "users".toList := Text.isIdentifier_iff.1 (by decide)
  have names : Text.Word "id".toList := Text.isIdentifier_iff.1 (by decide)
  have known : ∀ o ∈ q.scope.oracle, (o.typeAt ("users" ++ "." ++ "id")).isSome := by
    rintro _ ⟨⟩
    rfl
  have agree (column : String) : q.attempt (apart column) = q.attempt (grouped column) :=
    (column_joins_agree owners names known (.equal rfl rfl) .group).1
  exact ⟨agree "user_id", by decide +kernel, agree "label", by decide +kernel⟩

end Query

end SelectQuery
