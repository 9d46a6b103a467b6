import SelectQuery.Scope

/-!
Clauses: the conditions of a WHERE or an ON, built step by step. What a step adds depends on its
scope alone; a step that fails adds nothing.
-/

namespace SelectQuery

/-- A step that builds a clause. The steps of a group build a clause of their own; a tolerant group
passes over those that fail, any other group fails with the first of them. -/
inductive ClauseStep where
  /-- Adds a test. -/
  | add (link : Connective) (request : Request)
  /-- Adds a group, unless it is empty. -/
  | group (link : Connective) (tolerant : Bool) (body : List ClauseStep)
  /-- Fails as a query without an executor does. -/
  | fail
  /-- A step whose operator cannot be read. -/
  | misspelt (e : UnknownKeyword)
  /-- Adds nothing. -/
  | look

/-- Why a step failed. A keyword that cannot be read ends every group around it. -/
inductive StepFailure where
  | query (e : QueryFailure)
  | keyword (e : UnknownKeyword)
  deriving DecidableEq

namespace ClauseStep

mutual

/-- The conditions that a step adds: at most one. -/
def conditions (scope : Scope) : ClauseStep → Except StepFailure (List Condition)
  | add link request => match scope.test? request with
    | .ok (some t) => .ok [.test link t]
    | .ok none => .ok []
    | .error e => .error (.query e)
  | group link tolerant body => match bodyConditions scope tolerant body with
    | .ok [] => .ok []
    | .ok parts => .ok [.group link parts]
    | .error e => .error e
  | fail => .error (.query .noExecutor)
  | misspelt e => .error (.keyword e)
  | look => .ok []

/-- The conditions that the steps of a group add. -/
def bodyConditions (scope : Scope) (tolerant : Bool) :
    List ClauseStep → Except StepFailure (List Condition)
  | [] => .ok []
  | s :: rest => match s.conditions scope with
    | .ok added => (bodyConditions scope tolerant rest).map (added ++ ·)
    | .error (.query e) =>
      if tolerant then bodyConditions scope tolerant rest else .error (.query e)
    | .error (.keyword e) => .error (.keyword e)

end

end ClauseStep

/-- A clause under construction. -/
structure Clause where
  scope : Scope
  conditions : List Condition := []

namespace Clause

def fresh (c : Clause) : Clause := { scope := c.scope }

/-- The conditions as they are written, with placeholders. -/
def fragments (c : Clause) : List String := Condition.fragments Value.hidden c.conditions

def render (c : Clause) : String := Condition.renderAll Value.hidden c.conditions

/-- The values of the clause in the order of its placeholders. -/
def values (c : Clause) : List Value := Condition.allValues c.conditions

def isEmpty (c : Clause) : Bool := c.conditions.isEmpty

def step (c : Clause) (s : ClauseStep) : Except StepFailure Clause :=
  (s.conditions c.scope).map fun added => { c with conditions := c.conditions ++ added }

/-- The clause after a step, as it was if the step fails; and why the step failed. -/
def attempt (c : Clause) (s : ClauseStep) : Option StepFailure × Clause :=
  match c.step s with
  | .ok c => (none, c)
  | .error e => (some e, c)

/-- What came of each step of a script, and the clause after it. -/
def trace (c : Clause) : List ClauseStep → List (Option StepFailure × Clause)
  | [] => []
  | s :: rest => c.attempt s :: (c.attempt s).2.trace rest

def run (c : Clause) (script : List ClauseStep) : Clause :=
  script.foldl (fun c s => (c.attempt s).2) c

end Clause

end SelectQuery
