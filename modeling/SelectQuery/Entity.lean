import SelectQuery.Execution
import SelectQuery.Inflection
import SelectQuery.TableName

/-!
Entities: the tables that types of records stand for, with what their queries are checked and run
with. Queries over a table start from its entity.
-/

namespace SelectQuery

/-- A table, and in given cases an oracle and an executor for its queries. -/
structure Entity where
  table : String
  oracle : Option Oracle := none
  executor : Option Executor := none

namespace Entity

/-- The entity of a type without further arrangements. -/
def ofType (typePath : String) : Entity := { table := TableName.ofType Inflection.plural typePath }

def query (e : Entity) : Query := { scope := ⟨e.table, e.oracle⟩ }

def start (e : Entity) (s : QueryStep) : Except StepFailure Query := e.query.step s

end Entity

end SelectQuery
