import SelectQuery.Text.Blank

/-!
The keywords of a statement: comparison operators, logical connectives, sort directions and join
kinds, and the reading of operators and directions from text.
-/

namespace SelectQuery

/-- A text that was to be an operator or a direction and is neither. -/
structure UnknownKeyword where
  text : String
  deriving DecidableEq

/-- The message names the text as it was given. -/
def UnknownKeyword.message (e : UnknownKeyword) : String :=
  "unknown SQL keyword: " ++ e.text

inductive Operator where
  | eq
  | ne
  | lt
  | gt
  | le
  | ge
  | like
  | notLike
  deriving DecidableEq

namespace Operator

def all : List Operator := [eq, ne, lt, gt, le, ge, like, notLike]

def text : Operator → String
  | eq => "="
  | ne => "!="
  | lt => "<"
  | gt => ">"
  | le => "<="
  | ge => ">="
  | like => "LIKE"
  | notLike => "NOT LIKE"

/-- The texts that name an operator, in lower case. -/
def spellings : Operator → List String
  | eq => ["="]
  | ne => ["!=", "<>"]
  | lt => ["<"]
  | gt => [">"]
  | le => ["<="]
  | ge => [">="]
  | like => ["like"]
  | notLike => ["not like"]

/-- The operator that a text names, with any blanks around it and in any case of ASCII letters. -/
def parse? (s : String) : Option Operator :=
  let name := String.ofList ((Text.trim s.toList).map Char.toLower)
  all.find? fun op => op.spellings.contains name

def ofKeyword (s : String) : Except UnknownKeyword Operator :=
  match parse? s with
  | some op => .ok op
  | none => .error ⟨s⟩

end Operator

/-- What joins a condition to the conditions before it. -/
inductive Connective where
  | and
  | or
  deriving DecidableEq

/-- Conditions are joined by AND unless the call says otherwise. -/
instance : Inhabited Connective := ⟨.and⟩

def Connective.text : Connective → String
  | and => "AND"
  | or => "OR"

inductive Direction where
  | asc
  | desc
  deriving DecidableEq

/-- Terms sort upwards unless the call says otherwise. -/
instance : Inhabited Direction := ⟨.asc⟩

namespace Direction

def text : Direction → String
  | asc => "ASC"
  | desc => "DESC"

/-- The direction that a text names in any case of ASCII letters, or the refusal of the text. -/
def ofKeyword (s : String) : Except UnknownKeyword Direction :=
  let name := String.ofList (s.toList.map Char.toLower)
  if name = "asc" then .ok asc
  else if name = "desc" then .ok desc
  else .error ⟨s⟩

end Direction

inductive JoinKind where
  | plain
  | inner
  | left
  | right
  | cross
  deriving DecidableEq

/-- A join has no further word unless the call says otherwise. -/
instance : Inhabited JoinKind := ⟨.plain⟩

/-- The words that introduce a joined table. -/
def JoinKind.text : JoinKind → String
  | plain => "JOIN"
  | inner => "INNER JOIN"
  | left => "LEFT JOIN"
  | right => "RIGHT JOIN"
  | cross => "CROSS JOIN"

end SelectQuery
