import SelectQuery.Json.Reader
import SelectQuery.Schema

/-!
Column types and schemas as JSON. A plain type is its name; the other types are objects with one
member, named for the kind of the type. A schema is an object of objects of types.
-/

namespace SelectQuery

namespace ColumnType

mutual

def toJson : ColumnType → Json
  | string => .string "string"
  | number => .string "number"
  | boolean => .string "boolean"
  | date => .string "date"
  | array => .string "array"
  | object fields => .object [("object", .object (fieldsToJson fields))]
  | optional inner => .object [("optional", inner.toJson)]
  | union ts => .object [("union", .array (allToJson ts))]

def fieldsToJson : List (String × ColumnType) → List (String × Json)
  | [] => []
  | (k, t) :: rest => (k, t.toJson) :: fieldsToJson rest

def allToJson : List ColumnType → List Json
  | [] => []
  | t :: ts => t.toJson :: allToJson ts

end

open Json (Fault Reading Stop)

/-- The plain type of a name. -/
def plain? : String → Option ColumnType
  | "string" => some string
  | "number" => some number
  | "boolean" => some boolean
  | "date" => some date
  | "array" => some array
  | _ => none

/-- The fault of an object that may have one member only, after that member. -/
def afterOnly : List (Option String × Reading) → Stop → Option Fault
  | [], .closed => none
  | [], .afterItem f => some f
  | _, _ => some .syntactic

mutual

/-- The type that a text describes, its fields as they stand. Where a type is wanted, everything
but a string and an object is no JSON of a type at all. -/
def read : Reading → Except Fault ColumnType
  | .string name => match plain? name with
    | some t => .ok t
    | none => .error .data
  | .object members stop => readTagged members stop
  | .broken false used _ => .error used
  | _ => .error .syntactic

/-- The type that the only member of an object describes. -/
def readTagged : List (Option String × Reading) → Stop → Except Fault ColumnType
  | [], stop => .error (stop.fault?.getD .syntactic)
  | (none, _) :: _, _ => .error .syntactic
  | (some kind, r) :: rest, stop => do
    let t ← match kind with
      | "object" => (readObject r).map object
      | "optional" => (read r).map optional
      | "union" => (readUnion r).map union
      | name => match plain? name, r with
        | some t, .null => .ok t
        | some _, r => .error r.wrongShape
        | none, _ => .error .data
    match afterOnly rest stop with
    | some f => .error f
    | none => .ok t

/-- The fields that an object describes. -/
def readObject : Reading → Except Fault (List (String × ColumnType))
  | .object members stop => readFields members stop
  | r => .error r.wrongShape

def readFields : List (Option String × Reading) → Stop → Except Fault (List (String × ColumnType))
  | [], stop => match stop.fault? with
    | some f => .error f
    | none => .ok []
  | (none, _) :: _, _ => .error .syntactic
  | (some k, r) :: rest, stop => do
    let t ← read r
    let fields ← readFields rest stop
    return (k, t) :: fields

/-- The alternatives that an array describes. -/
def readUnion : Reading → Except Fault (List ColumnType)
  | .array items stop => readAll items stop
  | r => .error r.wrongShape

def readAll : List Reading → Stop → Except Fault (List ColumnType)
  | [], stop => match stop.fault? with
    | some f => .error f
    | none => .ok []
  | r :: rest, stop => do
    let t ← read r
    let ts ← readAll rest stop
    return t :: ts

end

/-- The nesting of brackets that a text may have. -/
def maxDepth : Nat := 127

def ofReading (r : Reading) : Except Fault ColumnType :=
  (read r).map normalize

/-- The type that a JSON text describes. -/
def ofText (text : String) : Except Fault ColumnType :=
  (Json.Reader.read maxDepth text).decode ofReading

/-- The type that a JSON value describes. A value is JSON already, so all that can be wrong with it
is its shape. -/
def ofJson (j : Json) : Except Fault ColumnType :=
  (ofReading (.ofJson j)).mapError fun _ => .data

end ColumnType

namespace Schema

open Json (Fault Reading Stop)

def toJson (s : Schema) : Json :=
  .object (s.tables.map fun t => (t.1, .object (ColumnType.fieldsToJson t.2)))

def readTables : List (Option String × Reading) → Stop → Except Fault (List (String × Columns))
  | [], stop => match stop.fault? with
    | some f => .error f
    | none => .ok []
  | (none, _) :: _, _ => .error .syntactic
  | (some k, r) :: rest, stop => do
    let columns ← ColumnType.readObject r
    let tables ← readTables rest stop
    return (k, columns) :: tables

def ofReading : Reading → Except Fault Schema
  | .object members stop => (readTables members stop).map ofTables
  | r => .error r.wrongShape

def ofText (text : String) : Except Fault Schema :=
  (Json.Reader.read ColumnType.maxDepth text).decode ofReading

/-- The schema that a JSON value describes. It is judged as its text would be. -/
def ofJson (j : Json) : Except Fault Schema := ofReading (.ofJson j)

end Schema

end SelectQuery
