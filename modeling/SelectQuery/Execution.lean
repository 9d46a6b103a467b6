import SelectQuery.Entries
import SelectQuery.Query

/-!
The running of queries. An executor answers a statement with a result or fails in any of the ways in
which a query can, and its answer goes through unchanged; rows are taken from the result as they are
or decoded.
-/

namespace SelectQuery

open Number (Binary64)

/-- A row of a result: its values under their names, in ascending order of the names. -/
abbrev Row := List (String × Json)

/-- The outcome of a statement. -/
structure ResultSet where
  success : Bool := false
  /-- The number of rows that were changed. -/
  changes : Nat := 0
  /-- The nanoseconds that it took, where they were measured. -/
  duration : Option Nat := none
  /-- The identity of the row inserted last. -/
  lastId : Option Int64 := none
  rowsRead : Nat := 0
  rowsWritten : Nat := 0
  results : List Row := []

/-- What runs statements. -/
abbrev Executor := Statement → Except QueryFailure ResultSet

namespace ResultSet

def first? (r : ResultSet) : Option Row := r.results.head?

/-- The rows decoded, provided that each of them can be. -/
def decodeAll (decode : Row → Option α) (r : ResultSet) : Except QueryFailure (List α) :=
  match r.results.mapM decode with
  | some decoded => .ok decoded
  | none => .error .decode

/-- The first row decoded, provided that it can be. -/
def decodeFirst (decode : Row → Option α) (r : ResultSet) : Except QueryFailure (Option α) :=
  match r.first? with
  | none => .ok none
  | some row => match decode row with
    | some decoded => .ok (some decoded)
    | none => .error .decode

end ResultSet

namespace Query

/-- The answer of the executor to the query, as it comes. -/
def run (q : Query) (executor : Option Executor) : Except QueryFailure ResultSet :=
  match executor with
  | none => .error .noExecutor
  | some answer => answer q.statement

def firstRow (q : Query) (executor : Option Executor) : Except QueryFailure (Option Row) :=
  (q.run executor).map ResultSet.first?

def allRows (q : Query) (executor : Option Executor) : Except QueryFailure (List Row) :=
  (q.run executor).map ResultSet.results

def firstRecord (decode : Row → Option α) (q : Query) (executor : Option Executor) :
    Except QueryFailure (Option α) := do
  (← q.run executor).decodeFirst decode

def allRecords (decode : Row → Option α) (q : Query) (executor : Option Executor) :
    Except QueryFailure (List α) := do
  (← q.run executor).decodeAll decode

end Query

/-- What a field of a record holds. -/
inductive FieldKind where
  | integer
  | float
  | text
  /-- A text that may be null or missing. -/
  | optionalText
  deriving DecidableEq

/-- The value of a field, given what the row has under its name. -/
def FieldKind.decode : FieldKind → Option Json → Option Json
  | integer, some (.int n) =>
    if Int64.minValue.toInt ≤ n ∧ n ≤ Int64.maxValue.toInt then some (.int n) else none
  | float, some (.float x) => some (.float x)
  | float, some (.int n) => some (.float (Binary64.ofInt n))
  | text, some (.string s) => some (.string s)
  | optionalText, some (.string s) => some (.string s)
  | optionalText, some .null => some .null
  | optionalText, none => some .null
  | _, _ => none

/-- The fields of a record, under their names. -/
abbrev Shape := List (String × FieldKind)

/-- The entry of a record for a field, if the row has what the field asks for. -/
def decodeField (row : Row) (field : String × FieldKind) : Option (String × Json) :=
  (field.2.decode (row.lookup field.1)).map fun v => (field.1, v)

/-- The record of the given shape that a row holds. Other entries of the row do not matter. -/
def Shape.decode (shape : Shape) (row : Row) : Option Row :=
  (shape.mapM (decodeField row)).map Entries.ofList

end SelectQuery
