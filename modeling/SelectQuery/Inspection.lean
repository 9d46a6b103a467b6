import SelectQuery.Query
import SelectQuery.Text.Quoted

/-!
Texts for inspection: values that show their kinds, and queries with their values beside them.
-/

namespace SelectQuery

def bracketed (items : List String) : String :=
  "[" ++ String.intercalate ", " items ++ "]"

namespace Value

mutual

def inspect : Value → String
  | null => "Null"
  | bool b => "Bool(" ++ (if b then "true" else "false") ++ ")"
  | int n => "Int(" ++ toString n.toInt ++ ")"
  | float x => "Float(" ++ x.value.detailedText ++ ")"
  | text s => "Text(" ++ Text.quoted s ++ ")"
  | date t => "Date(" ++ t.detailedText ++ ")"
  | blob bytes => "Blob(" ++ bracketed (bytes.map fun b => toString b.toNat) ++ ")"
  | array items => "Array(" ++ bracketed (inspectAll items) ++ ")"

def inspectAll : List Value → List String
  | [] => []
  | v :: vs => v.inspect :: inspectAll vs

end

end Value

def Query.inspect (q : Query) : String :=
  "QueryBuilder \x7b table: " ++ Text.quoted q.table
    ++ ", strict: " ++ (if q.scope.oracle.isSome then "true" else "false")
    ++ ", query: " ++ Text.quoted q.text
    ++ ", args: " ++ bracketed (Value.inspectAll q.args)
    ++ ", .. \x7d"

end SelectQuery
