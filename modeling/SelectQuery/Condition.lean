import SelectQuery.Keyword
import SelectQuery.Value

/-!
Conditions of WHERE and ON: tests of single columns, and groups of conditions in parentheses. Each
condition keeps the connective of the call that added it; the connective of the first condition of
a list is not written.
-/

namespace SelectQuery

/-- What a column is compared with: a value, which is bound to a placeholder, or a column, which
stands in the statement. -/
inductive Operand where
  | value (v : Value)
  | column (path : String)

/-- A test of one column, whose name is qualified. -/
inductive Test where
  | compare (column : String) (op : Operator) (operand : Operand)
  | oneOf (column : String) (negated : Bool) (values : List Value)
  | between (column : String) (negated : Bool) (low high : Value)
  | isNull (column : String) (negated : Bool)

/-- A condition, with the connective that joins it to the condition before it. -/
inductive Condition where
  | test (link : Connective) (t : Test)
  | group (link : Connective) (parts : List Condition)

/-- The operand as it is written, where `write` gives what stands for a value. -/
def Operand.render (write : Value → String) : Operand → String
  | value v => write v
  | column path => path

def Operand.values : Operand → List Value
  | value v => [v]
  | column _ => []

namespace Test

/-- The words of a negated test start with NOT. -/
def negation (negated : Bool) : String := if negated then "NOT " else ""

def render (write : Value → String) : Test → String
  | compare column op operand => column ++ " " ++ op.text ++ " " ++ operand.render write
  | oneOf column negated values =>
    column ++ " " ++ negation negated ++ "IN (" ++ String.intercalate ", " (values.map write) ++ ")"
  | between column negated low high =>
    column ++ " " ++ negation negated ++ "BETWEEN " ++ write low ++ " AND " ++ write high
  | isNull column negated => column ++ " IS " ++ negation negated ++ "NULL"

def values : Test → List Value
  | compare _ _ operand => operand.values
  | oneOf _ _ values => values
  | between _ _ low high => [low, high]
  | isNull _ _ => []

end Test

namespace Condition

def link : Condition → Connective
  | test link _ => link
  | group link _ => link

mutual

/-- The condition as it is written, without its connective. -/
def render (write : Value → String) : Condition → String
  | test _ t => t.render write
  | group _ parts => "(" ++ String.intercalate " " (fragments write parts) ++ ")"

/-- The conditions as they are written, all but the first with their connectives. -/
def fragments (write : Value → String) : List Condition → List String
  | [] => []
  | c :: rest => c.render write :: linked write rest

/-- The conditions as they are written, each with its connective. -/
def linked (write : Value → String) : List Condition → List String
  | [] => []
  | c :: rest => (c.link.text ++ " " ++ c.render write) :: linked write rest

end

mutual

def values : Condition → List Value
  | test _ t => t.values
  | group _ parts => allValues parts

def allValues : List Condition → List Value
  | [] => []
  | c :: rest => c.values ++ allValues rest

end

def renderAll (write : Value → String) (conditions : List Condition) : String :=
  String.intercalate " " (fragments write conditions)

end Condition

end SelectQuery
