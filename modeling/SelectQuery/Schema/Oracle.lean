import SelectQuery.Schema

/-!
What a query asks about columns. A schema answers, and so can anything else that knows types.
-/

namespace SelectQuery

/-- Answers about the columns at dotted paths: the type without one level of `optional`, the type
as it was declared, and whether a value is accepted. -/
structure Oracle where
  typeAt : String → Option ColumnType
  declaredAt : String → Option ColumnType
  allows : String → Value → Bool

namespace Oracle

def ofSchema (s : Schema) : Oracle := ⟨s.typeAt, s.declaredAt, s.allows⟩

/-- The answers of one who does not know how a type was declared and gives the type without
`optional` instead. -/
def resolving (o : Oracle) : Oracle := { o with declaredAt := o.typeAt }

end Oracle

/-- Whether the text is a path of two or more identifiers. -/
def isPath (text : List Char) : Bool :=
  text.contains '.' && (Text.segments '.' text).all Text.isIdentifier

/-- The column that a value names: the content of a text that is a path, provided that the oracle,
if there is one, knows a column there. -/
def Value.namedColumn? (oracle : Option Oracle) (v : Value) : Option String :=
  match v.content? with
  | none => none
  | some content =>
    if isPath content.toList then
      match oracle with
      | none => some content
      | some o => if (o.typeAt content).isSome then some content else none
    else none

end SelectQuery
