import SelectQuery.Inflection
import SelectQuery.Text.Segments

/-!
Column names: how a bare name is qualified with a table, and how a projected or sorted column is
written. A projected column of a table gets the alias `<stem of the table>_<column>`, for any stem;
queries take the singular of the table.
-/

namespace SelectQuery.Column

/-- Whether the name says which table it belongs to. -/
def isDotted (name : String) : Bool :=
  name.toList.contains '.'

/-- The name with `table` in front, unless it already is qualified. -/
def qualified (name table : String) : String :=
  if isDotted name then name else table ++ "." ++ name

/-- The stem in queries: the singular of the table. -/
def aliasStem (table : String) : String :=
  Inflection.singular table

/-- Whether the column has an alias of its own, in any letter case. -/
def hasAlias (column : String) : Bool :=
  Text.occurs " as ".toList (column.toList.map Char.toLower)

/-- The names at their first occurrence. -/
def distinct (names : List String) : List String :=
  names.foldl (fun seen name => if seen.contains name then seen else seen ++ [name]) []

section Aliases

variable (stem : String → String)

def aliased (table name : String) : String :=
  table ++ "." ++ name ++ " AS " ++ stem table ++ "_" ++ name

/-- A projected column as it is written. A column with an alias stays; a qualified one is aliased
for the part before its first dot; a bare one belongs to the base table if the statement joins
other tables and stays otherwise. -/
def selected (column baseTable : String) (hasJoin : Bool) : String :=
  if hasAlias column then column
  else match Text.cut? '.' column.toList with
    | some (table, name) => aliased stem (String.ofList table) (String.ofList name)
    | none => if hasJoin then aliased stem baseTable column else column

/-- The projected columns as they are written, each once. -/
def selection (columns : List String) (baseTable : String) (hasJoin : Bool) : List String :=
  distinct (columns.map fun c => selected stem c baseTable hasJoin)

end Aliases

/-- A sorted column as it is written: qualified only if the statement joins other tables. -/
def sorted (column baseTable : String) (hasJoin : Bool) : String :=
  if hasJoin then qualified column baseTable else column

end SelectQuery.Column
