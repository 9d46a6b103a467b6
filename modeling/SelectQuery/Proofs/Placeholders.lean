import Mathlib.Algebra.GroupWithZero.Nat
import SelectQuery.Proofs.Names
import SelectQuery.Proofs.QueryDraft

/-!
Placeholders and values. A text is written twice from the same parts, once with placeholders and
once with literals; `Written` says that the placeholders are those of its values and of its names,
and that substitution turns the one text into the other unless a name holds a question mark.

What is proved:
  1. `Written.append` and its kin: the relation holds of a whole when it holds of its parts.
  2. `written_query`: it holds of every query.
  3. `sql_of_script`: after every script a query has a placeholder for each of its values, and its
     literal form is its text written with literals, unless a name holds a question mark.
-/

namespace SelectQuery

/-! ## Names -/

/-- The joined table and the columns that it is joined on. -/
def Join.names (j : Join) : List String := j.table :: Condition.allNames j.on

/-- The names of a query as they are written: the projection, the base table, the joined tables, the
columns of conditions, and the grouped and sorted columns. -/
def Query.names (q : Query) : List String :=
  q.entries ++ [q.table] ++ q.joins.flatMap Join.names
    ++ Condition.allNames q.wheres ++ q.groups
    ++ q.orders.map fun (column, _) => Column.sorted column q.table q.hasJoin

/-! ## Texts with placeholders and texts with literals -/

/-- The text `hidden` has a placeholder for each value, and no others but those in names; where
names have none, putting the values in gives the text `shown` and goes on behind it. -/
structure Written (hidden shown : String) (values : List Value) (names : List String) : Prop where
  count : placeholderCount hidden = values.length + (names.map placeholderCount).sum
  fill : (∀ n ∈ names, '?' ∉ n.toList) → ∀ rest vs,
    substitute (hidden.toList ++ rest) (values ++ vs) = shown.toList ++ substitute rest vs

theorem substitute_cons {c : Char} (h : c ≠ '?') (cs : List Char) (vs : List Value) :
    substitute (c :: cs) vs = c :: substitute cs vs := by
  simp [substitute, h]

theorem toList_hidden (v : Value) : v.hidden.toList = ['?'] := by
  simp [Value.hidden, Value.placeholder]

theorem substitute_placeholder (v : Value) (cs : List Char) (vs : List Value) :
    substitute ('?' :: cs) (v :: vs) = v.literal.toList ++ substitute cs vs := by
  simp [substitute]

theorem substitute_of_not_mem {cs : List Char} (h : '?' ∉ cs) (rest : List Char)
    (vs : List Value) : substitute (cs ++ rest) vs = cs ++ substitute rest vs := by
  induction cs with
  | nil => rfl
  | cons c cs ih =>
    have first : c ≠ '?' := by
      intro hc
      apply h
      rw [hc]
      exact List.mem_cons_self
    have later : '?' ∉ cs := fun hc => h (List.mem_cons_of_mem c hc)
    calc substitute (c :: cs ++ rest) vs
        = c :: substitute (cs ++ rest) vs := substitute_cons first _ vs
      _ = c :: cs ++ substitute rest vs := by rw [ih later, List.cons_append]

theorem placeholderCount_append (a b : String) :
    placeholderCount (a ++ b) = placeholderCount a + placeholderCount b := by
  simp [placeholderCount]

theorem placeholderCount_eq_zero {s : String} (h : '?' ∉ s.toList) : placeholderCount s = 0 :=
  List.count_eq_zero.2 h

namespace Written

variable {h₁ h₂ s₁ s₂ : String} {v₁ v₂ : List Value} {n₁ n₂ : List String}

/-- A text without question marks stands for itself. -/
theorem plain (s : String) (h : '?' ∉ s.toList := by decide) : Written s s [] [] where
  count := by simp [placeholderCount_eq_zero h]
  fill _ rest vs := substitute_of_not_mem h rest vs

theorem name (n : String) : Written n n [] [n] where
  count := by simp
  fill h rest vs := substitute_of_not_mem (h n (List.mem_singleton_self n)) rest vs

theorem slot (v : Value) : Written v.hidden v.literal [v] [] where
  count := by simp [placeholderCount, toList_hidden]
  fill _ rest vs := by
    rw [toList_hidden]
    exact substitute_placeholder v rest vs

theorem append (a : Written h₁ s₁ v₁ n₁) (b : Written h₂ s₂ v₂ n₂) :
    Written (h₁ ++ h₂) (s₁ ++ s₂) (v₁ ++ v₂) (n₁ ++ n₂) where
  count := by
    rw [placeholderCount_append, a.count, b.count, List.map_append, List.sum_append,
      List.length_append]
    omega
  fill h rest vs := by
    have ha := a.fill fun n hn => h n (List.mem_append_left _ hn)
    have hb := b.fill fun n hn => h n (List.mem_append_right _ hn)
    rw [String.toList_append, String.toList_append, List.append_assoc, List.append_assoc, ha, hb,
      List.append_assoc]

theorem append_plain (a : Written h₁ s₁ v₁ n₁) (s : String) (h : '?' ∉ s.toList := by decide) :
    Written (h₁ ++ s) (s₁ ++ s) v₁ n₁ := by
  simpa using a.append (plain s h)

/-- Items with a separator between them. -/
theorem intercalate {α : Type} {sep : String} (hs : '?' ∉ sep.toList) {hidden shown : α → String}
    {values : α → List Value} {names : α → List String} (xs : List α)
    (each : ∀ x ∈ xs, Written (hidden x) (shown x) (values x) (names x)) :
    Written (String.intercalate sep (xs.map hidden)) (String.intercalate sep (xs.map shown))
      (xs.flatMap values) (xs.flatMap names) := by
  induction xs with
  | nil => exact plain ""
  | cons x rest ih =>
    have first := each x List.mem_cons_self
    have later := ih fun y hy => each y (List.mem_cons_of_mem x hy)
    -- There is a separator behind the first item if another one follows.
    cases rest with
    | nil => simpa using first
    | cons y rest =>
      simp only [List.map_cons, String.intercalate_cons_cons] at later ⊢
      simpa using (first.append_plain sep hs).append later

end Written

/-! ## The parts of a query -/

section Parts

theorem written_operand (o : Operand) :
    Written (o.render Value.hidden) (o.render Value.literal) o.values o.names := by
  cases o with
  | value v => exact .slot v
  | column path => exact .name path

theorem text_plain (op : Operator) : '?' ∉ op.text.toList := by
  cases op <;> decide

theorem negation_plain (negated : Bool) : '?' ∉ (Test.negation negated).toList := by
  cases negated <;> decide

theorem written_values (values : List Value) :
    Written (String.intercalate ", " (values.map Value.hidden))
      (String.intercalate ", " (values.map Value.literal)) values [] := by
  have plain : '?' ∉ ", ".toList := by decide
  have joined := Written.intercalate plain values fun v _ => Written.slot v
  have values_eq : values.flatMap (fun v => [v]) = values := by simp
  have names_eq : values.flatMap (fun _ => ([] : List String)) = [] := by simp
  rwa [values_eq, names_eq] at joined

theorem written_test (t : Test) :
    Written (t.render Value.hidden) (t.render Value.literal) t.values t.names := by
  cases t with
  | compare column op operand =>
    have left := (((Written.name column).append_plain " ").append_plain op.text
      (text_plain op)).append_plain " "
    exact left.append (written_operand operand)
  | oneOf column negated values =>
    have left := (((Written.name column).append_plain " ").append_plain (Test.negation negated)
      (negation_plain negated)).append_plain "IN ("
    exact (left.append (written_values values)).append_plain ")"
  | between column negated low high =>
    have left := (((Written.name column).append_plain " ").append_plain (Test.negation negated)
      (negation_plain negated)).append_plain "BETWEEN "
    exact ((left.append (.slot low)).append_plain " AND ").append (.slot high)
  | isNull column negated =>
    exact (((Written.name column).append_plain " IS ").append_plain (Test.negation negated)
      (negation_plain negated)).append_plain "NULL"

theorem connective_plain (link : Connective) : '?' ∉ link.text.toList := by
  cases link <;> decide

mutual

theorem written_condition : (c : Condition) →
    Written (c.render Value.hidden) (c.render Value.literal) c.values c.names
  | .test _ t => by
    simpa only [Condition.render, Condition.values, Condition.names] using written_test t
  | .group _ parts => by
    simp only [Condition.render, Condition.values, Condition.names]
    exact ((Written.plain "(").append (written_conditions parts)).append_plain ")"

theorem written_conditions : (cs : List Condition) →
    Written (Condition.renderAll Value.hidden cs) (Condition.renderAll Value.literal cs)
      (Condition.allValues cs) (Condition.allNames cs)
  | [] => .plain ""
  | c :: rest => by
    simp only [Condition.renderAll_cons, Condition.allValues, Condition.allNames]
    exact (written_condition c).append (written_following rest)

theorem written_following : (cs : List Condition) →
    Written (Condition.following Value.hidden cs) (Condition.following Value.literal cs)
      (Condition.allValues cs) (Condition.allNames cs)
  | [] => .plain ""
  | c :: rest => by
    simp only [Condition.following, Condition.allValues, Condition.allNames]
    have link := ((Written.plain c.link.text (connective_plain c.link)).append_plain " ")
    have first := (Written.plain " ").append (link.append (written_condition c))
    exact first.append (written_following rest)

end

theorem kind_plain (kind : JoinKind) : '?' ∉ kind.text.toList := by
  cases kind <;> decide

theorem written_join (j : Join) :
    Written (j.render Value.hidden) (j.render Value.literal) j.values j.names := by
  have table := ((Written.plain j.kind.text (kind_plain j.kind)).append_plain " ").append
    (.name j.table)
  rw [Join.render, Join.render, Join.values, Join.names]
  cases on : j.on with
  | nil => simpa [Condition.allValues, Condition.allNames] using table.append_plain ""
  | cons c rest =>
    have conditions := (Written.plain " ON ").append (written_conditions (c :: rest))
    exact table.append conditions

theorem written_joins (joins : List Join) :
    Written (Query.joinTexts Value.hidden joins) (Query.joinTexts Value.literal joins)
      (joins.flatMap Join.values) (joins.flatMap Join.names) := by
  induction joins with
  | nil => exact .plain ""
  | cons j rest ih =>
    simp only [Query.joinTexts, List.flatMap_cons]
    exact ((Written.plain " ").append (written_join j)).append ih

/-- A part of the statement, of which there may be nothing to write. -/
theorem written_part (keyword : String) (h : '?' ∉ keyword.toList) {sep : String}
    {xs ys : List String} {values : List Value} {names : List String} (empty : xs = [] ↔ ys = [])
    (items : Written (String.intercalate sep xs) (String.intercalate sep ys) values names) :
    Written (Query.part keyword sep xs) (Query.part keyword sep ys) values names := by
  cases xs with
  | nil =>
    rw [empty.1 rfl] at items ⊢
    simpa [Query.part] using items
  | cons x xs =>
    cases ys with
    | nil => simp at empty
    | cons y ys =>
      have opening := ((Written.plain " ").append_plain keyword h).append_plain " "
      exact opening.append items

theorem written_where (wheres : List Condition) :
    Written (Query.part "WHERE" " " (Condition.fragments Value.hidden wheres))
      (Query.part "WHERE" " " (Condition.fragments Value.literal wheres))
      (Condition.allValues wheres) (Condition.allNames wheres) := by
  have empty : Condition.fragments Value.hidden wheres = [] ↔
      Condition.fragments Value.literal wheres = [] := by
    cases wheres <;> simp [Condition.fragments]
  exact written_part "WHERE" (by decide) empty (written_conditions wheres)

/-- Items that hold one name each, with commas between them. -/
theorem written_items {α : Type} (text name : α → String) (xs : List α)
    (each : ∀ x ∈ xs, Written (text x) (text x) [] [name x]) :
    Written (String.intercalate ", " (xs.map text)) (String.intercalate ", " (xs.map text)) []
      (xs.map name) := by
  have plain : '?' ∉ ", ".toList := by decide
  have joined := Written.intercalate plain xs each
  have values_eq : xs.flatMap (fun _ => ([] : List Value)) = [] := by simp
  have names_eq : xs.flatMap (fun x => [name x]) = xs.map name := (List.map_eq_flatMap).symm
  rwa [values_eq, names_eq] at joined

theorem written_names (names : List String) :
    Written (String.intercalate ", " names) (String.intercalate ", " names) [] names := by
  have items := written_items id id names fun n _ => Written.name n
  rwa [List.map_id] at items

theorem toString_plain (n : Int) : '?' ∉ (toString n).toList := by
  have digits (m : Nat) : '?' ∉ m.repr.toList := by
    intro h
    rw [Nat.toList_repr] at h
    exact absurd (Nat.isDigit_of_mem_toDigits (by decide) (by decide) h) (by decide)
  -- A number is written with its digits, behind a minus if it is negative.
  rw [Int.toString_eq_repr, Int.repr_eq_if]
  split
  · exact digits _
  · intro h
    rcases List.mem_append.1 (String.toList_append ▸ h) with minus | digit
    · exact absurd minus (by decide)
    · exact digits _ digit

theorem written_count (keyword : String) (h : '?' ∉ keyword.toList) (n : Option Int64) :
    Written (Query.countPart keyword n) (Query.countPart keyword n) [] [] := by
  cases n with
  | none => exact .plain ""
  | some n =>
    have left := ((Written.plain " ").append_plain keyword h).append_plain " "
    exact left.append_plain (toString n.toInt) (toString_plain n.toInt)

theorem written_projection (q : Query) :
    Written q.projectionText q.projectionText []
      (q.entries) := by
  rw [Query.projectionText]
  cases q.entries with
  | nil => exact .plain "*"
  | cons n rest => exact written_names (n :: rest)

theorem written_orders (q : Query) :
    Written (String.intercalate ", " q.orderTexts) (String.intercalate ", " q.orderTexts) []
      (q.orders.map fun (column, _) => Column.sorted column q.table q.hasJoin) := by
  refine written_items _ _ q.orders fun (column, direction) _ => ?_
  have direction_plain : '?' ∉ direction.text.toList := by cases direction <;> decide
  exact ((Written.name _).append_plain " ").append_plain direction.text direction_plain

/-- A query has a placeholder for each of its values, and putting the values in gives its text with
literals. -/
theorem written_query (q : Query) : Written q.text (q.render Value.literal) q.args q.names := by
  -- The parts in the order of the text, which is the order of the values and of the names too.
  have distinct_plain : '?' ∉ (if q.distinct then "DISTINCT " else "").toList := by
    cases q.distinct <;> decide
  have select := ((Written.plain "SELECT ").append_plain _ distinct_plain).append
    (written_projection q)
  have base := (select.append_plain " FROM ").append (.name q.table)
  have conditions := (base.append (written_joins q.joins)).append (written_where q.wheres)
  have groups := conditions.append
    (written_part "GROUP BY" (by decide) Iff.rfl (written_names q.groups))
  have orders := groups.append
    (written_part "ORDER BY" (by decide) Iff.rfl (written_orders q))
  have limit := orders.append (written_count "LIMIT" (by decide) q.limit)
  have whole := limit.append (written_count "OFFSET" (by decide) q.offset)
  have values_eq : [] ++ [] ++ [] ++ q.joins.flatMap Join.values ++ Condition.allValues q.wheres
      ++ [] ++ [] ++ [] ++ [] = q.args := by
    simp [Query.args]
  have names_eq : [] ++ q.entries ++ [q.table]
      ++ q.joins.flatMap Join.names ++ Condition.allNames q.wheres ++ q.groups
      ++ q.orders.map (fun (column, _) => Column.sorted column q.table q.hasJoin) ++ [] ++ [] =
      q.names := by
    simp [Query.names]
  rw [values_eq, names_eq] at whole
  exact whole

end Parts

/-! ## The statement with its values in place -/

theorem sum_placeholderCount_eq_zero {names : List String} (h : ∀ n ∈ names, '?' ∉ n.toList) :
    (names.map placeholderCount).sum = 0 := by
  apply List.sum_eq_zero_iff_forall_eq_nat.2
  intro k hk
  obtain ⟨n, hn, rfl⟩ := List.mem_map.1 hk
  exact placeholderCount_eq_zero (h n hn)

theorem sum_placeholderCount_pos {names : List String} {n : String} (hn : n ∈ names)
    (h : '?' ∈ n.toList) : 0 < (names.map placeholderCount).sum := by
  have some_mark : 0 < placeholderCount n := List.count_pos_iff.2 h
  exact List.sum_pos_iff_exists_pos_nat.2 ⟨_, List.mem_map_of_mem hn, some_mark⟩

/-- Where no name holds a question mark, the values go where the query writes them. -/
theorem sql_of_plain {q : Query} (h : ∀ n ∈ q.names, '?' ∉ n.toList) :
    q.sql = .ok (q.render Value.literal) := by
  have written := written_query q
  have count : placeholderCount q.text = q.args.length := by
    rw [written.count, sum_placeholderCount_eq_zero h, Nat.add_zero]
  have fill : substitute q.text.toList q.args = (q.render Value.literal).toList := by
    -- No text and no values are left behind the statement.
    have whole := written.fill h [] []
    rwa [List.append_nil, List.append_nil, substitute, List.append_nil] at whole
  rw [Query.sql, inlineLiterals, if_pos count, fill, String.ofList_toList]

/-- Where a name holds a question mark, there are more placeholders than values. -/
theorem sql_of_mark {q : Query} {n : String} (hn : n ∈ q.names) (h : '?' ∈ n.toList) :
    q.sql = .error (.bindCount (placeholderCount q.text) q.args.length) := by
  have more : placeholderCount q.text ≠ q.args.length := by
    have marks := sum_placeholderCount_pos hn h
    rw [(written_query q).count]
    omega
  rw [Query.sql, inlineLiterals, if_neg more]

/-- What a value names adds no question mark to a statement. -/
theorem namedColumn_plain (oracle : Option Oracle) (v : Value) :
    placeholderCount ((v.namedColumn? oracle).getD "") = 0 := by
  cases named : v.namedColumn? oracle with
  | none => rfl
  | some path =>
    apply placeholderCount_eq_zero
    intro mark
    have path := isIdentifierPath_of_qualified (isQualifiedPath_namedColumn named)
    have path_char := isNameChar_of_mem path mark
    exact absurd path_char (by decide)

/-- After every script the statement has a placeholder for each of its values, besides the question
marks in names. It has a literal form unless there are such, and then each value stands where the
query writes it. Written in place, the query has the same statement. -/
theorem sql_of_script (scope : Scope) (script : List QueryStep) :
    let q := Query.build { scope } script
    let d := QueryDraft.build { scope } script
    (d.text = q.text ∧ d.args = q.args ∧ d.sql = q.sql) ∧
      placeholderCount q.text = q.args.length + (q.names.map placeholderCount).sum ∧
      (q.sql = if q.names.any (fun n => n.toList.contains '?')
        then .error (.bindCount (placeholderCount q.text) q.args.length)
        else .ok (q.render Value.literal)) ∧
      ∀ v : Value, placeholderCount ((v.namedColumn? scope.oracle).getD "") = 0 := by
  intro q d
  have same : d = q.draft := QueryDraft.build_draft { scope } script
  refine ⟨?_, (written_query q).count, ?_, namedColumn_plain scope.oracle⟩
  · rw [same, QueryDraft.text_draft, QueryDraft.args_draft, QueryDraft.sql_draft]
    exact ⟨rfl, rfl, rfl⟩
  · split
    case isTrue marked =>
      obtain ⟨n, hn, mark⟩ := List.any_eq_true.1 marked
      exact sql_of_mark hn (List.contains_iff_mem.1 mark)
    case isFalse unmarked =>
      apply sql_of_plain
      intro n hn mark
      exact unmarked (List.any_eq_true.2 ⟨n, hn, List.contains_iff_mem.2 mark⟩)

end SelectQuery
