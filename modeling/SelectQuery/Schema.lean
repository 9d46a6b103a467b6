import SelectQuery.Schema.ColumnType
import SelectQuery.Text.Segments

/-!
Schemas: which tables there are, and the types of their columns. A path names a column by its
table, its name and, inside objects, the names of fields, with dots between them.
-/

namespace SelectQuery

abbrev Columns := List (String × ColumnType)

/-- Tables and their columns, both in ascending order, with normal types. -/
structure Schema where
  tables : List (String × Columns)
  ascending : Entries.Ascending tables
  normal : ∀ table ∈ tables, (ColumnType.object table.2).Normal

namespace Schema

def empty : Schema := ⟨[], List.Pairwise.nil, fun _ h => absurd h List.not_mem_nil⟩

instance : Inhabited Schema := ⟨empty⟩

/-- The columns of a table in normal form: of two columns with the same name the later one
holds. -/
def normalColumns (columns : Columns) : Columns :=
  Entries.ofList (ColumnType.normalizeFields columns)

theorem normal_normalColumns (columns : Columns) :
    (ColumnType.object (normalColumns columns)).Normal := by
  have h := ColumnType.normal_normalize (.object columns)
  rwa [ColumnType.normalize] at h

/-- The schema with a further table, in place of one of the same name. -/
def table (s : Schema) (name : String) (columns : Columns) : Schema where
  tables := Entries.insert name (normalColumns columns) s.tables
  ascending := Entries.ascending_insert s.ascending
  normal := fun t ht => by
    rcases Entries.mem_insert ht with rfl | ht
    · exact normal_normalColumns columns
    · exact s.normal t ht

/-- The schema with the given tables. Of two tables with the same name the later one holds. -/
def ofTables (tables : List (String × Columns)) : Schema :=
  tables.foldl (fun s t => s.table t.1 t.2) empty

def columns? (s : Schema) (table : String) : Option Columns := s.tables.lookup table

def hasTable (s : Schema) (table : String) : Bool := (s.columns? table).isSome

/-- The type found by walking through the fields of objects, each under one `optional` at most. -/
def walk (t : ColumnType) : List (List Char) → Option ColumnType
  | [] => some t
  | field :: rest => match t.stripOptional with
    | .object fields => match fields.lookup (String.ofList field) with
      | some t => walk t rest
      | none => none
    | _ => none

/-- The type of the column at a path, as it was declared. -/
def declaredAt (s : Schema) (path : String) : Option ColumnType :=
  match Text.segments '.' path.toList with
  | table :: column :: fields => do
    let columns ← s.columns? (String.ofList table)
    let t ← columns.lookup (String.ofList column)
    walk t fields
  | _ => none

/-- The type of the column at a path, without one level of `optional`. -/
def typeAt (s : Schema) (path : String) : Option ColumnType :=
  (s.declaredAt path).map ColumnType.stripOptional

/-- Whether the column at a path accepts a value; a column that is not there accepts none. -/
def allows (s : Schema) (path : String) (v : Value) : Bool :=
  (s.declaredAt path).any (·.accepts v)

end Schema

end SelectQuery
