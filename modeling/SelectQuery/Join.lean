import SelectQuery.Clause

/-!
Joined tables and the conditions that they are joined on.
-/

namespace SelectQuery

/-- A condition on a joined table: a column of it compared with a value, or with a column of
another table. -/
inductive JoinCondition where
  | value (column : String) (op : Operator) (value : Value)
  | columns (column : String) (op : Operator) (table other : String)

namespace JoinCondition

/-- The condition that three texts give: the middle one is an operator before a value, or else the
table of the column to be equal to. -/
def ofTexts (column middle last : String) : JoinCondition :=
  match Operator.parse? middle with
  | some op => value column op (.text last)
  | none => columns column .eq middle last

/-- The test that the condition asks for, in the scope of the joined table. -/
def test (scope : Scope) : JoinCondition → Except QueryFailure Test
  | value column op v => scope.valueTest column op v
  | columns column op table other => scope.columnTest column op (Column.qualified other table)

end JoinCondition

/-- A joined table. Without conditions the join has no ON. -/
structure Join where
  kind : JoinKind
  table : String
  on : List Condition

namespace Join

def render (write : Value → String) (j : Join) : String :=
  j.kind.text ++ " " ++ j.table ++
    (if j.on.isEmpty then "" else " ON " ++ Condition.renderAll write j.on)

def values (j : Join) : List Value := Condition.allValues j.on

end Join

end SelectQuery
