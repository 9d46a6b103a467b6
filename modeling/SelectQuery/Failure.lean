/-!
The ways in which building, rendering or running a query fails.
-/

namespace SelectQuery

/-- Why a query could not be built, rendered or run. -/
inductive QueryFailure where
  /-- A value cannot be assigned to a column, or two columns cannot be compared. -/
  | typeMismatch (column expected actual : String)
  /-- The schema has no such column. -/
  | unknownColumn (path : String)
  /-- A statement has another number of placeholders than there are values. -/
  | bindCount (placeholders values : Nat)
  /-- There is nothing to run the query. -/
  | noExecutor
  /-- The executor refused the query. -/
  | executor (reason : String)
  /-- A row does not have the shape asked for. -/
  | decode
  deriving DecidableEq

def QueryFailure.message : QueryFailure → String
  | typeMismatch column expected actual =>
    "Table column '" ++ column ++ "' of type '" ++ expected ++
      "' is not assignable as type of '" ++ actual ++ "'"
  | unknownColumn path => "Table column '" ++ path ++ "' doesn't exist"
  | bindCount placeholders values =>
    "Bind count mismatch: " ++ toString placeholders ++ " placeholders for " ++ toString values ++
      " values"
  | noExecutor => "No database connection"
  | executor reason => "Executor error: " ++ reason
  | decode => "Decode error"

end SelectQuery
