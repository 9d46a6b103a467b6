import SelectQuery.Failure
import SelectQuery.Value

/-!
The substitution of literals for placeholders.
-/

namespace SelectQuery

def placeholderCount (sql : String) : Nat :=
  sql.toList.count '?'

/-- The text with each placeholder replaced by the literal of the next value. What has been put in
is not read again, and a placeholder without a value stands for nothing. -/
def substitute : List Char → List Value → List Char
  | [], _ => []
  | c :: cs, values =>
    if c = '?' then
      match values with
      | [] => substitute cs []
      | v :: vs => v.literal.toList ++ substitute cs vs
    else c :: substitute cs values

/-- The statement with its values in place, if there is one value for each placeholder. -/
def inlineLiterals (sql : String) (values : List Value) : Except QueryFailure String :=
  if placeholderCount sql = values.length then
    .ok (String.ofList (substitute sql.toList values))
  else .error (.bindCount (placeholderCount sql) values.length)

end SelectQuery
