import SelectQuery.Execution

/-!
Sessions: scripts that build a query and run it in between. Every statement that is handed to
the executor is recorded, also those of forks. The records that a session decodes are of any type.
-/

namespace SelectQuery

/-- A way to run the query. The steps with columns first add these to the projection, and those with
a decoder make records of what they get. -/
inductive Ask (ρ : Type) where
  | run
  | firstRow
  | allRows
  | firstRowOf (columns : List String)
  | allRowsOf (columns : List String)
  | firstRecord (decode : Row → Option ρ)
  | allRecords (decode : Row → Option ρ)

inductive SessionStep (ρ : Type) where
  | build (step : QueryStep)
  | ask (a : Ask ρ)
  /-- Runs a script on a copy of the query. -/
  | fork (script : List (SessionStep ρ))
  /-- Changes nothing. -/
  | look

inductive Reply (ρ : Type) where
  | result (r : ResultSet)
  | row (r : Option Row)
  | rows (rs : List Row)
  | record (r : Option ρ)
  | records (rs : List ρ)

inductive Outcome (ρ : Type) where
  | done
  | failed (e : StepFailure)
  | reply (r : Reply ρ)
  | forked (trace : List (Outcome ρ × Query))

/-- A query under construction and the statements handed to the executor so far. -/
structure Session where
  query : Query
  seen : List Statement := []

variable {ρ : Type}

namespace Ask

/-- The query that is run. -/
def prepare (q : Query) : Ask ρ → Query
  | firstRowOf columns => q.select columns
  | allRowsOf columns => q.select columns
  | _ => q

/-- What the run of a prepared query gives. -/
def reply (q : Query) (executor : Option Executor) : Ask ρ → Except QueryFailure (Reply ρ)
  | run => (q.run executor).map .result
  | firstRow => (q.firstRow executor).map .row
  | firstRowOf _ => (q.firstRow executor).map .row
  | allRows => (q.allRows executor).map .rows
  | allRowsOf _ => (q.allRows executor).map .rows
  | firstRecord decode => (q.firstRecord decode executor).map .record
  | allRecords decode => (q.allRecords decode executor).map .records

end Ask

namespace SessionStep

mutual

/-- What comes of a step, and the session after it. -/
def perform (executor : Option Executor) (s : Session) :
    SessionStep ρ → Outcome ρ × Session
  | build step => match s.query.attempt step with
    | (none, q) => (.done, { s with query := q })
    | (some e, q) => (.failed e, { s with query := q })
  | ask a =>
    let q := a.prepare s.query
    let seen := if executor.isSome then s.seen ++ [q.statement] else s.seen
    match a.reply q executor with
    | .ok r => (.reply r, ⟨q, seen⟩)
    | .error e => (.failed (.query e), ⟨q, seen⟩)
  | fork script =>
    let (trace, after) := performAll executor s script
    (.forked trace, { s with seen := after.seen })
  | look => (.done, s)

/-- What comes of each step of a script, with the query after it, and the session after all. -/
def performAll (executor : Option Executor) (s : Session) :
    List (SessionStep ρ) → List (Outcome ρ × Query) × Session
  | [] => ([], s)
  | step :: rest =>
    let (outcome, next) := step.perform executor s
    let (trace, last) := performAll executor next rest
    ((outcome, next.query) :: trace, last)

end

end SessionStep

end SelectQuery
