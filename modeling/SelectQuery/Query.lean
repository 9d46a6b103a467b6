import SelectQuery.Binding
import SelectQuery.Join

/-!
SELECT queries: their parts, the steps that build them, and their text. The text depends on the
parts alone, not on the order in which parts of different kinds were given.
-/

namespace SelectQuery

/-- A query under construction. -/
structure Query where
  scope : Scope
  distinct : Bool := false
  columns : List String := []
  joins : List Join := []
  wheres : List Condition := []
  groups : List String := []
  orders : List (String × Direction) := []
  limit : Option Int64 := none
  offset : Option Int64 := none

/-- A finished statement: its text with placeholders, its values in the order of the placeholders,
and its base table. -/
structure Statement where
  sql : String
  args : List Value
  table : String

namespace Query

def table (q : Query) : String := q.scope.table

def hasJoin (q : Query) : Bool := !q.joins.isEmpty

def whereClause (q : Query) : Clause := ⟨q.scope, q.wheres⟩

/-- A part of the text that is left out if it has no items. -/
def part (keyword separator : String) : List String → String
  | [] => ""
  | items => " " ++ keyword ++ " " ++ String.intercalate separator items

/-- A part of the text that is a number, if it is given. -/
def countPart (keyword : String) : Option Int64 → String
  | none => ""
  | some n => " " ++ keyword ++ " " ++ toString n.toInt

def entries (q : Query) : List String :=
  Column.selection Column.aliasStem q.columns q.table q.hasJoin

/-- The projected columns as they are written; all columns if none are given. -/
def projectionText (q : Query) : String :=
  match q.entries with
  | [] => "*"
  | columns => String.intercalate ", " columns

def orderTexts (q : Query) : List String :=
  q.orders.map fun (column, direction) =>
    Column.sorted column q.table q.hasJoin ++ " " ++ direction.text

/-- The joins as they are written, each after a blank. -/
def joinTexts (write : Value → String) : List Join → String
  | [] => ""
  | j :: rest => " " ++ j.render write ++ joinTexts write rest

/-- The text, where `write` gives what stands for a value. -/
def render (write : Value → String) (q : Query) : String :=
  "SELECT " ++ (if q.distinct then "DISTINCT " else "") ++ q.projectionText ++ " FROM " ++ q.table
    ++ joinTexts write q.joins
    ++ part "WHERE" " " (Condition.fragments write q.wheres)
    ++ part "GROUP BY" ", " q.groups
    ++ part "ORDER BY" ", " q.orderTexts
    ++ countPart "LIMIT" q.limit
    ++ countPart "OFFSET" q.offset

/-- The text with placeholders. -/
def text (q : Query) : String := q.render Value.hidden

/-- The values in the order of the placeholders: those of the joins, then those of WHERE. -/
def args (q : Query) : List Value :=
  q.joins.flatMap Join.values ++ Condition.allValues q.wheres

/-- The text with its values in place of the placeholders. -/
def sql (q : Query) : Except QueryFailure String := inlineLiterals q.text q.args

def statement (q : Query) : Statement := ⟨q.text, q.args, q.table⟩

def join (q : Query) (kind : JoinKind) (table : String) (on : JoinCondition) :
    Except QueryFailure Query := do
  let test ← on.test { q.scope with table }
  return { q with joins := q.joins ++ [⟨kind, table, [.test .and test]⟩] }

/-- The query with a further join on the conditions that the steps build. -/
def joinGroup (q : Query) (kind : JoinKind) (table : String) (tolerant : Bool)
    (body : List ClauseStep) : Except StepFailure Query := do
  let on ← ClauseStep.bodyConditions { q.scope with table } tolerant body
  return { q with joins := q.joins ++ [⟨kind, table, on⟩] }

/-- The query with a limit, unless the limit is zero or cannot be read. -/
def setLimit (q : Query) (count : Option Int64) : Query :=
  match count with
  | some n => if n = 0 then q else { q with limit := some n }
  | none => q

/-- The query with an offset, unless the offset cannot be read. -/
def setOffset (q : Query) (count : Option Int64) : Query :=
  match count with
  | some n => { q with offset := some n }
  | none => q

def select (q : Query) (columns : List String) : Query :=
  { q with columns := q.columns ++ columns }

end Query

inductive QueryStep where
  | select (columns : List String)
  | distinct
  | join (kind : JoinKind) (table : String) (on : JoinCondition)
  | joinGroup (kind : JoinKind) (table : String) (tolerant : Bool) (body : List ClauseStep)
  | filter (step : ClauseStep)
  | groupBy (columns : List String)
  | order (column : String) (direction : Direction)
  | limit (count : Option Int64)
  | offset (count : Option Int64)
  /-- A step whose operator or direction cannot be read. -/
  | misspelt (e : UnknownKeyword)

namespace Query

def step (q : Query) : QueryStep → Except StepFailure Query
  | .select columns => .ok (q.select columns)
  | .distinct => .ok { q with distinct := true }
  | .join kind table on => (q.join kind table on).mapError .query
  | .joinGroup kind table tolerant body => q.joinGroup kind table tolerant body
  | .filter s => (q.whereClause.step s).map fun c => { q with wheres := c.conditions }
  | .groupBy columns => .ok { q with groups := q.groups ++ columns }
  | .order column direction => .ok { q with orders := q.orders ++ [(column, direction)] }
  | .limit count => .ok (q.setLimit count)
  | .offset count => .ok (q.setOffset count)
  | .misspelt e => .error (.keyword e)

/-- The query after a step, as it was if the step fails; and why the step failed. -/
def attempt (q : Query) (s : QueryStep) : Option StepFailure × Query :=
  match q.step s with
  | .ok q => (none, q)
  | .error e => (some e, q)

def build (q : Query) (script : List QueryStep) : Query :=
  script.foldl (fun q s => (q.attempt s).2) q

end Query

end SelectQuery
