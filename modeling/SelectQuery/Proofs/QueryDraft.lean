import SelectQuery.Proofs.Draft
import SelectQuery.Session

/-!
Query drafts: a query as it is written in place, each join as a text with its values, the WHERE
clause as a draft, and the runs of the query in between. As with drafts, an edit that fails leaves
what it has written by then.

What is proved:
  1. `perform_edit_query`, `perform_edit_session`: a step has the same outcome in place, and leaves
     the draft of the query that it leaves otherwise.
  2. `text_draft`, `args_draft`: the draft of a query has the text and the values of the query.
-/

namespace SelectQuery

open Edit (check)

/-- A join as it is written. -/
structure JoinDraft where
  sql : String
  bindings : List Value

/-- A query as it is written. -/
structure QueryDraft where
  scope : Scope
  distinct : Bool := false
  columns : List String := []
  joins : List JoinDraft := []
  wheres : Draft := { scope := scope }
  groups : List String := []
  orders : List (String × Direction) := []
  limit : Option Int64 := none
  offset : Option Int64 := none

/-- The condition of a join, written in the scope of the joined table. -/
def JoinCondition.edit : JoinCondition → Edit Draft Unit
  | value column op v => Draft.compare .and column op v
  | columns column op table other => Draft.compareColumns column op (Column.qualified other table)

namespace QueryDraft

def joinTexts : List JoinDraft → String
  | [] => ""
  | j :: rest => " " ++ j.sql ++ joinTexts rest

def projectionText (q : QueryDraft) : String :=
  let columns := Column.selection Column.aliasStem q.columns q.scope.table (!q.joins.isEmpty)
  if columns.isEmpty then "*" else String.intercalate ", " columns

def orderTexts (q : QueryDraft) : List String :=
  q.orders.map fun (column, direction) =>
    Column.sorted column q.scope.table (!q.joins.isEmpty) ++ " " ++ direction.text

def text (q : QueryDraft) : String :=
  "SELECT " ++ (if q.distinct then "DISTINCT " else "") ++ q.projectionText
    ++ " FROM " ++ q.scope.table ++ joinTexts q.joins
    ++ (if q.wheres.fragments.isEmpty then "" else " WHERE " ++ q.wheres.render)
    ++ Query.part "GROUP BY" ", " q.groups
    ++ Query.part "ORDER BY" ", " q.orderTexts
    ++ Query.countPart "LIMIT" q.limit
    ++ Query.countPart "OFFSET" q.offset

def args (q : QueryDraft) : List Value := q.joins.flatMap JoinDraft.bindings ++ q.wheres.bindings

def sql (q : QueryDraft) : Except QueryFailure String := inlineLiterals q.text q.args

/-- Adds projected columns. -/
def select (columns : List String) : Edit QueryDraft Unit :=
  modify fun q => { q with columns := q.columns ++ columns }

/-- Stores a join whose condition has been written. -/
def pushJoin (kind : JoinKind) (table : String) (on : Draft) : Edit QueryDraft Unit :=
  let sql := if on.fragments.isEmpty then kind.text ++ " " ++ table
    else kind.text ++ " " ++ table ++ " ON " ++ on.render
  modify fun q => { q with joins := q.joins ++ [⟨sql, on.bindings⟩] }

/-- The draft that the conditions of a joined table are written on. -/
def onDraft (q : QueryDraft) (table : String) : Draft := { scope := { q.scope with table } }

/-- Writes a join whose condition is written on a draft of the joined table. -/
def join (kind : JoinKind) (table : String) (on : Edit Draft Unit) : Edit QueryDraft Unit := do
  let q ← get
  let (outcome, written) := on.perform (q.onDraft table)
  match outcome with
  | .ok () => pushJoin kind table written
  | .error e => throw e

/-- Changes the WHERE clause, also where the change fails. -/
def filter (x : Edit Draft Unit) : Edit QueryDraft Unit := do
  let q ← get
  let (outcome, wheres) := x.perform q.wheres
  -- The clause is put back before anything is thrown.
  set { q with wheres }
  match outcome with
  | .ok () => pure ()
  | .error e => throw e

end QueryDraft

/-- A step, written in place. -/
def QueryStep.edit : QueryStep → Edit QueryDraft Unit
  | select columns => QueryDraft.select columns
  | distinct => modify fun q => { q with distinct := true }
  | join kind table on => QueryDraft.join kind table on.edit
  | joinGroup kind table tolerant body =>
    QueryDraft.join kind table (ClauseStep.editAll tolerant body)
  | filter s => QueryDraft.filter s.edit
  | groupBy columns => modify fun q => { q with groups := q.groups ++ columns }
  | order column direction => modify fun q => { q with orders := q.orders ++ [(column, direction)] }
  | limit count => match count with
    | some n => if n = 0 then pure () else modify fun q => { q with limit := some n }
    | none => pure ()
  | offset count => match count with
    | some n => modify fun q => { q with offset := some n }
    | none => pure ()
  | misspelt e => throw (.keyword e)

namespace QueryDraft

def build (q : QueryDraft) (script : List QueryStep) : QueryDraft :=
  Edit.runAll QueryStep.edit q script

/-- The answer of the executor to the query, as it comes. -/
def ask (executor : Option Executor) : Edit QueryDraft ResultSet := do
  let q ← get
  match executor with
  | none => throw (.query .noExecutor)
  | some answer => check (answer ⟨q.text, q.args, q.scope.table⟩)

end QueryDraft

variable {ρ : Type}

/-- A run of the query. The runs with columns first add these to the projection, for good. -/
def Ask.edit (executor : Option Executor) : Ask ρ → Edit QueryDraft (Reply ρ)
  | run => return .result (← QueryDraft.ask executor)
  | firstRow => return .row (← QueryDraft.ask executor).first?
  | allRows => return .rows (← QueryDraft.ask executor).results
  | firstRowOf columns => do
    QueryDraft.select columns
    return .row (← QueryDraft.ask executor).first?
  | allRowsOf columns => do
    QueryDraft.select columns
    return .rows (← QueryDraft.ask executor).results
  | firstRecord decode => do
    let r ← QueryDraft.ask executor
    return .record (← check (r.decodeFirst decode))
  | allRecords decode => do
    let r ← QueryDraft.ask executor
    return .records (← check (r.decodeAll decode))

/-- A step of a session, in place. What runs on a copy leaves the query as it is. -/
def SessionStep.edit (executor : Option Executor) : SessionStep ρ → Edit QueryDraft Unit
  | build s => s.edit
  | ask a => do
    let _ ← a.edit executor
  | fork _ => pure ()
  | look => pure ()

/-- The query after a session. -/
def QueryDraft.run (executor : Option Executor) (q : QueryDraft)
    (script : List (SessionStep ρ)) : QueryDraft :=
  Edit.runAll (SessionStep.edit executor) q script

/-! ## A query as a draft -/

def Join.draft (j : Join) : JoinDraft := ⟨j.render Value.hidden, j.values⟩

def Query.draft (q : Query) : QueryDraft where
  scope := q.scope
  distinct := q.distinct
  columns := q.columns
  joins := q.joins.map Join.draft
  wheres := q.whereClause.draft
  groups := q.groups
  orders := q.orders
  limit := q.limit
  offset := q.offset

namespace QueryDraft

theorem joinTexts_draft (joins : List Join) :
    joinTexts (joins.map Join.draft) = Query.joinTexts Value.hidden joins := by
  induction joins with
  | nil => rfl
  | cons j rest ih => simp only [List.map_cons, joinTexts, Query.joinTexts, Join.draft, ih]

theorem projectionText_draft (q : Query) : q.draft.projectionText = q.projectionText := by
  have joined : (!(q.joins.map Join.draft).isEmpty) = q.hasJoin := by simp [Query.hasJoin]
  simp only [projectionText, Query.projectionText, Query.entries, Query.draft, joined, Query.table]
  cases Column.selection Column.aliasStem q.columns q.scope.table q.hasJoin <;> rfl

theorem orderTexts_draft (q : Query) : q.draft.orderTexts = q.orderTexts := by
  simp [orderTexts, Query.orderTexts, Query.draft, Query.hasJoin, Query.table]

theorem whereText_draft (q : Query) :
    (if q.draft.wheres.fragments.isEmpty then "" else " WHERE " ++ q.draft.wheres.render) =
      Query.part "WHERE" " " (Condition.fragments Value.hidden q.wheres) := by
  have fragments : q.draft.wheres.fragments = Condition.fragments Value.hidden q.wheres := rfl
  rw [fragments, Draft.render, fragments]
  cases Condition.fragments Value.hidden q.wheres <;> simp [Query.part]

/-- The draft of a query has its text. -/
theorem text_draft (q : Query) : q.draft.text = q.text := by
  show "SELECT " ++ (if q.distinct then "DISTINCT " else "") ++ q.draft.projectionText
    ++ " FROM " ++ q.table ++ joinTexts (q.joins.map Join.draft)
    ++ (if q.draft.wheres.fragments.isEmpty then "" else " WHERE " ++ q.draft.wheres.render)
    ++ Query.part "GROUP BY" ", " q.groups ++ Query.part "ORDER BY" ", " q.draft.orderTexts
    ++ Query.countPart "LIMIT" q.limit ++ Query.countPart "OFFSET" q.offset = q.text
  rw [projectionText_draft, joinTexts_draft, whereText_draft, orderTexts_draft]
  rfl

/-- The draft of a query has its values. -/
theorem args_draft (q : Query) : q.draft.args = q.args := by
  simp [args, Query.args, Query.draft, List.flatMap_map, Join.draft, Clause.draft,
    Query.whereClause, Clause.values]

theorem sql_draft (q : Query) : q.draft.sql = q.sql := by
  rw [sql, text_draft, args_draft, Query.sql]

/-- A condition of a join is written as its test. -/
theorem perform_edit_condition (on : JoinCondition) (d : Draft) :
    on.edit.perform d = match on.test d.scope with
      | .ok t => (.ok (), d.write [.test .and t])
      | .error e => (.error (.query e), d) := by
  cases on with
  | value column op v =>
    have written := Draft.perform_request .and (.compare column op v) d
    simp only [JoinCondition.edit, JoinCondition.test]
    rw [Draft.request, Scope.test?] at written
    rw [written]
    cases d.scope.valueTest column op v <;> rfl
  | columns column op table other =>
    simp only [JoinCondition.edit, JoinCondition.test, Draft.compareColumns, Scope.columnTest,
      Edit.perform_bind, Edit.perform_get, Edit.perform_check]
    cases d.scope.locate column with
    | error e => rfl
    | ok path =>
      simp only [mapError_ok, bind, Except.bind]
      cases d.scope.checkColumns path (Column.qualified other table) with
      | error e => rfl
      | ok _ =>
        exact Draft.perform_push_condition
          (.test .and (.compare path op (.column (Column.qualified other table)))) d

section Join

variable {kind : JoinKind} {table : String} {x : Edit Draft Unit}

/-- A join whose condition fails is not made. -/
theorem perform_join_of_error {q : QueryDraft} {e : StepFailure}
    (h : (x.perform (q.onDraft table)).1 = .error e) :
    (join kind table x).perform q = (.error e, q) := by
  simp only [join, Edit.perform_bind, Edit.perform_get, h, Edit.perform_throw]

theorem perform_join_of_ok {q : QueryDraft} {on : Draft}
    (h : x.perform (q.onDraft table) = (.ok (), on)) :
    (join kind table x).perform q = (pushJoin kind table on).perform q := by
  simp only [join, Edit.perform_bind, Edit.perform_get, h]

/-- Storing a written condition is joining on what it was written from. -/
theorem perform_join_draft {q : Query} {on : List Condition}
    (written : x.perform (q.draft.onDraft table) = (.ok (), (q.draft.onDraft table).write on)) :
    (join kind table x).perform q.draft =
      (.ok (), { q with joins := q.joins ++ [⟨kind, table, on⟩] : Query }.draft) := by
  have whole : (q.draft.onDraft table).write on =
      Clause.draft ⟨⟨table, q.scope.oracle⟩, on⟩ :=
    Draft.write_draft ⟨⟨table, q.scope.oracle⟩, []⟩ on
  have fragments : (Clause.draft ⟨⟨table, q.scope.oracle⟩, on⟩).fragments =
      Condition.fragments Value.hidden on := rfl
  have text : (if (Condition.fragments Value.hidden on).isEmpty then kind.text ++ " " ++ table
      else kind.text ++ " " ++ table ++ " ON " ++
        String.intercalate " " (Condition.fragments Value.hidden on)) =
      (Join.mk kind table on).render Value.hidden := by
    rw [Condition.isEmpty_fragments, Join.render]
    cases on <;> simp [Condition.renderAll, String.append_assoc]
  rw [perform_join_of_ok written, whole, pushJoin, Draft.render, fragments, text,
    Edit.perform_modify]
  simp [Query.draft, Join.draft, Query.whereClause, Join.values, Clause.draft, Clause.values]

end Join

section Filter

variable {s : ClauseStep} {added : List Condition} {e : StepFailure}

/-- A step of the WHERE clause that succeeds changes the clause alone. -/
theorem perform_filter_of_ok {q : QueryDraft} (h : s.conditions q.wheres.scope = .ok added) :
    (filter s.edit).perform q = (.ok (), { q with wheres := q.wheres.write added }) := by
  simp only [filter, Edit.perform_bind, Edit.perform_get, Edit.perform_set,
    ClauseStep.perform_of_ok h, Edit.perform_pure]

theorem perform_filter_of_error {q : QueryDraft} (h : s.conditions q.wheres.scope = .error e) :
    (filter s.edit).perform q = (.error e, q) := by
  simp only [filter, Edit.perform_bind, Edit.perform_get, Edit.perform_set,
    ClauseStep.perform_of_error h, Edit.perform_throw]

theorem perform_filter_draft {q : Query} (h : s.conditions q.scope = .ok added) :
    (filter s.edit).perform q.draft =
      (.ok (), { q with wheres := q.wheres ++ added : Query }.draft) := by
  have ok : s.conditions q.draft.wheres.scope = .ok added := h
  have written : q.draft.wheres.write added = Clause.draft ⟨q.scope, q.wheres ++ added⟩ :=
    Draft.write_draft q.whereClause added
  rw [perform_filter_of_ok ok, written]
  rfl

end Filter

/-- In place or not, a step has the same outcome and leaves the same query. -/
theorem perform_edit_query (q : Query) (s : QueryStep) :
    s.edit.perform q.draft =
      (match (q.attempt s).1 with
        | none => .ok ()
        | some e => .error e, (q.attempt s).2.draft) := by
  cases s with
  | join kind table on =>
    -- The condition is written in the scope of the joined table, on a draft that is empty.
    have written := perform_edit_condition on (q.draft.onDraft table)
    have scope : (q.draft.onDraft table).scope = ⟨table, q.scope.oracle⟩ := rfl
    rw [scope] at written
    simp only [QueryStep.edit, Query.attempt, Query.step, Query.join]
    cases h : on.test ⟨table, q.scope.oracle⟩ with
    | ok t =>
      rw [h] at written
      rw [perform_join_draft written]
      rfl
    | error e =>
      have failed : (on.edit.perform (q.draft.onDraft table)).1 = .error (.query e) := by
        rw [written, h]
      rw [perform_join_of_error failed]
      rfl
  | joinGroup kind table tolerant body =>
    have written := ClauseStep.perform_editAll (q.draft.onDraft table) tolerant body
    have scope : (q.draft.onDraft table).scope = ⟨table, q.scope.oracle⟩ := rfl
    rw [scope] at written
    simp only [QueryStep.edit, Query.attempt, Query.step, Query.joinGroup]
    cases h : ClauseStep.bodyConditions ⟨table, q.scope.oracle⟩ tolerant body with
    | ok on =>
      rw [h] at written
      rw [perform_join_draft written]
      rfl
    | error e =>
      rw [h] at written
      rw [perform_join_of_error written]
      rfl
  | filter s =>
    have scope : q.whereClause.scope = q.scope := rfl
    simp only [QueryStep.edit, Query.attempt, Query.step, Clause.step, scope]
    cases h : s.conditions q.scope with
    | ok added =>
      rw [perform_filter_draft h]
      rfl
    | error e =>
      have failed : s.conditions q.draft.wheres.scope = .error e := h
      rw [perform_filter_of_error failed]
      rfl
  | limit count =>
    cases count with
    | none => rfl
    | some n =>
      by_cases zero : n = 0
      · simp [QueryStep.edit, Query.attempt, Query.step, Query.setLimit, zero]
      · simp [QueryStep.edit, Query.attempt, Query.step, Query.setLimit, zero]; rfl
  | offset count => cases count <;> rfl
  | select _ | distinct | groupBy _ | order _ _ | misspelt _ => rfl

/-- In place or not, a script leaves the same query. -/
theorem build_draft (q : Query) (script : List QueryStep) :
    build q.draft script = (q.build script).draft := by
  refine Edit.runAll_eq_foldl QueryStep.edit (fun q s => ?_) q script
  rw [perform_edit_query]

theorem perform_ask (executor : Option Executor) (q : Query) :
    (ask executor).perform q.draft = ((q.run executor).mapError .query, q.draft) := by
  have statement : (⟨q.draft.text, q.draft.args, q.draft.scope.table⟩ : Statement) =
      q.statement := by
    rw [text_draft, args_draft]
    rfl
  cases executor with
  | none => rfl
  | some answer =>
    simp only [ask, Edit.perform_bind, Edit.perform_get, statement, Edit.perform_check, Query.run]

end QueryDraft

/-- A run gives the same reply in place, and leaves the query that it has prepared. -/
theorem Ask.perform_edit (executor : Option Executor) (a : Ask ρ) (q : Query) :
    (a.edit executor).perform q.draft =
      ((a.reply (a.prepare q) executor).mapError .query, (a.prepare q).draft) := by
  have selected (columns : List String) : (QueryDraft.select columns).perform q.draft =
      (.ok (), (q.select columns).draft) := rfl
  cases a with
  | firstRowOf columns | allRowsOf columns =>
    simp only [edit, Edit.perform_bind, selected, QueryDraft.perform_ask, reply, prepare,
      Query.firstRow, Query.allRows]
    cases (q.select columns).run executor <;> rfl
  | run | firstRow | allRows =>
    simp only [edit, Edit.perform_bind, QueryDraft.perform_ask, reply, prepare, Query.firstRow,
      Query.allRows]
    cases q.run executor <;> rfl
  | firstRecord decode =>
    simp only [edit, Edit.perform_bind, QueryDraft.perform_ask, reply, prepare, Query.firstRecord]
    cases q.run executor with
    | error e => rfl
    | ok r =>
      simp only [mapError_ok, Edit.perform_check, bind, Except.bind]
      cases r.decodeFirst decode <;> rfl
  | allRecords decode =>
    simp only [edit, Edit.perform_bind, QueryDraft.perform_ask, reply, prepare, Query.allRecords]
    cases q.run executor with
    | error e => rfl
    | ok r =>
      simp only [mapError_ok, Edit.perform_check, bind, Except.bind]
      cases r.decodeAll decode <;> rfl

/-- Why a step of a session failed, if it did. -/
def Outcome.failure? : Outcome ρ → Option StepFailure
  | failed e => some e
  | _ => none

namespace QueryDraft

/-- In place or not, a step of a session has the same outcome and leaves the same query. -/
theorem perform_edit_session (executor : Option Executor) (s : Session) (step : SessionStep ρ) :
    (step.edit executor).perform s.query.draft =
      (match (step.perform executor s).1.failure? with
        | none => .ok ()
        | some e => .error e, (step.perform executor s).2.query.draft) := by
  cases step with
  | build step =>
    rw [SessionStep.edit, perform_edit_query, SessionStep.perform]
    cases (s.query.attempt step) with
    | mk failure q => cases failure <;> rfl
  | ask a =>
    simp only [SessionStep.edit, Edit.perform_bind, Ask.perform_edit, SessionStep.perform]
    cases a.reply (a.prepare s.query) executor <;> rfl
  | fork script => rfl
  | look => rfl

end QueryDraft

theorem SessionStep.performAll_eq_foldl (executor : Option Executor) (s : Session)
    (script : List (SessionStep ρ)) :
    (performAll executor s script).2 =
      script.foldl (fun s step => (step.perform executor s).2) s := by
  induction script generalizing s with
  | nil => rfl
  | cons step rest ih => exact ih (step.perform executor s).2

/-- In place or not, a session leaves the same query. -/
theorem QueryDraft.run_draft_session (executor : Option Executor) (s : Session)
    (script : List (SessionStep ρ)) :
    run executor s.query.draft script =
      (SessionStep.performAll executor s script).2.query.draft := by
  have step : ∀ (s : Session) (step : SessionStep ρ),
      ((step.edit executor).perform s.query.draft).2 = (step.perform executor s).2.query.draft := by
    intro s step
    rw [perform_edit_session]
  rw [SessionStep.performAll_eq_foldl]
  exact Edit.runAll_eq_foldl (SessionStep.edit executor) step s script

end SelectQuery
