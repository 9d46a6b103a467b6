import SelectQuery.Column
import SelectQuery.Condition
import SelectQuery.Failure
import SelectQuery.Schema.Oracle

/-!
Scopes: the table that bare column names belong to, and the oracle that tests are checked against.
Without an oracle every test passes. With one, the column of a test has to exist, values have to
be accepted by its declared type, and columns that are compared have to be comparable.
-/

namespace SelectQuery

/-- A table, and in strict mode an oracle. -/
structure Scope where
  table : String
  oracle : Option Oracle

/-- A test that a caller asks for, with the column named as the caller names it. -/
inductive Request where
  | compare (column : String) (op : Operator) (value : Value)
  | oneOf (column : String) (negated : Bool) (values : List Value)
  | between (column : String) (negated : Bool) (low high : Value)
  | isNull (column : String) (negated : Bool)

namespace Scope

/-- The qualified name of a column that exists. -/
def locate (s : Scope) (name : String) : Except QueryFailure String :=
  let path := Column.qualified name s.table
  match s.oracle with
  | none => .ok path
  | some o => if (o.typeAt path).isSome then .ok path else .error (.unknownColumn path)

/-- Refuses a value that the column at `path` does not accept. -/
def checkValue (s : Scope) (path : String) (v : Value) : Except QueryFailure Unit :=
  match s.oracle with
  | none => .ok ()
  | some o => match o.declaredAt path with
    | none => .error (.unknownColumn path)
    | some t =>
      if o.allows path v then .ok () else .error (.typeMismatch path t.text v.kindName)

/-- Refuses the first of several values that the column at `path` does not accept. -/
def checkValues (s : Scope) (path : String) : List Value → Except QueryFailure Unit
  | [] => .ok ()
  | v :: vs => do
    s.checkValue path v
    s.checkValues path vs

/-- Refuses two columns that cannot be compared. -/
def checkColumns (s : Scope) (path other : String) : Except QueryFailure Unit :=
  match s.oracle with
  | none => .ok ()
  | some o => match o.declaredAt path, o.declaredAt other with
    | none, _ => .error (.unknownColumn path)
    | some _, none => .error (.unknownColumn other)
    | some t, some u =>
      if t.comparable u then .ok () else .error (.typeMismatch path t.text u.text)

/-- The operand for a value: the column that it names, or the value itself. -/
def operand (s : Scope) (path : String) (v : Value) : Except QueryFailure Operand :=
  match v.namedColumn? s.oracle with
  | some other => do
    s.checkColumns path other
    return .column other
  | none => do
    s.checkValue path v
    return .value v

/-- The test that compares a column with a value. -/
def valueTest (s : Scope) (column : String) (op : Operator) (v : Value) :
    Except QueryFailure Test := do
  let path ← s.locate column
  let operand ← s.operand path v
  return .compare path op operand

/-- The test that compares a column with the column `other`, whose name is qualified. -/
def columnTest (s : Scope) (column : String) (op : Operator) (other : String) :
    Except QueryFailure Test := do
  let path ← s.locate column
  s.checkColumns path other
  return .compare path op (.column other)

/-- The test that a caller asks for. An empty list of values asks for none, whatever the column. -/
def test? (s : Scope) : Request → Except QueryFailure (Option Test)
  | .compare column op v => (s.valueTest column op v).map some
  | .oneOf _ _ [] => return none
  | .oneOf column negated values => do
    let path ← s.locate column
    s.checkValues path values
    return some (.oneOf path negated values)
  | .between column negated low high => do
    let path ← s.locate column
    s.checkValues path [low, high]
    return some (.between path negated low high)
  | .isNull column negated => do
    let path ← s.locate column
    return some (.isNull path negated)

end Scope

end SelectQuery
