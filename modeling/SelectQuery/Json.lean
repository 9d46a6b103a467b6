import SelectQuery.Number.Binary

/-!
JSON values, as rows hold them and as schemas are exchanged.
-/

namespace SelectQuery

/-- A JSON value. A number is an integer or a floating-point number, as it was written. -/
inductive Json where
  | null
  | bool (b : Bool)
  | int (n : Int)
  | float (x : Number.Binary64)
  | string (s : String)
  | array (items : List Json)
  | object (fields : List (String × Json))
  deriving Inhabited

end SelectQuery
