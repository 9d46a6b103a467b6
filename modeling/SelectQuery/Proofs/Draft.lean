import SelectQuery.Clause

/-!
Drafts: a clause as it is written in place, its fragments and its values in two lists. A step
checks and writes statement by statement, and a step that fails leaves what it has written by then.
The steps of a group write a draft of their own, which is folded into the one around it.

What is proved:
  1. `perform_edit`: a step writes the conditions that it stands for, fragments and values alike, or
     fails for the reason that it has none and leaves the draft as it was.
  2. `run_draft`: writing a script in place gives the fragments and values of the clause that the
     script builds.
-/

namespace SelectQuery

theorem mapError_ok {ε ε' α : Type} (f : ε → ε') (a : α) :
    (Except.ok a : Except ε α).mapError f = .ok a := rfl

/-- A change of a state that may fail part of the way. What it has changed by then stays changed. -/
abbrev Edit (σ : Type) := ExceptT StepFailure (StateM σ)

namespace Edit

variable {σ α β : Type}

/-- What comes of an edit, and the state that it leaves, also where it fails. -/
def perform (x : Edit σ α) (s : σ) : Except StepFailure α × σ := x.run.run s

/-- A check, which changes nothing. -/
def check (r : Except QueryFailure α) : Edit σ α :=
  match r with
  | .ok a => pure a
  | .error e => throw (.query e)

/-- Goes on with what came of an edit, whether or not it failed. -/
def observe (x : Edit σ α) : Edit σ (Except StepFailure α) := fun s =>
  let (r, s) := x.perform s
  (.ok r, s)

section Scripts

variable {τ S : Type} (edit : S → Edit σ Unit)

/-- The state after a script, whose failing steps are passed over. -/
def runAll (s : σ) (script : List S) : σ := script.foldl (fun s a => ((edit a).perform s).2) s

/-- If steps change what stands for a state as they change the state, so do scripts. -/
theorem runAll_eq_foldl {state : τ → σ} {next : τ → S → τ}
    (step : ∀ t a, ((edit a).perform (state t)).2 = state (next t a)) (t : τ) (script : List S) :
    runAll edit (state t) script = state (script.foldl next t) := by
  induction script generalizing t with
  | nil => rfl
  | cons a rest ih =>
    calc runAll edit (state t) (a :: rest)
        = runAll edit ((edit a).perform (state t)).2 rest := rfl
      _ = runAll edit (state (next t a)) rest := by rw [step]
      _ = state ((a :: rest).foldl next t) := ih (next t a)

end Scripts

@[simp] theorem perform_pure (a : α) (s : σ) : (pure a : Edit σ α).perform s = (.ok a, s) := rfl

@[simp] theorem perform_throw (e : StepFailure) (s : σ) :
    (throw e : Edit σ α).perform s = (.error e, s) := rfl

@[simp] theorem perform_get (s : σ) : (get : Edit σ σ).perform s = (.ok s, s) := rfl

@[simp] theorem perform_set (s t : σ) : (set t : Edit σ PUnit).perform s = (.ok (), t) := rfl

@[simp] theorem perform_modify (f : σ → σ) (s : σ) :
    (modify f : Edit σ PUnit).perform s = (.ok (), f s) := rfl

@[simp] theorem perform_observe (x : Edit σ α) (s : σ) :
    x.observe.perform s = (.ok (x.perform s).1, (x.perform s).2) := rfl

@[simp] theorem perform_check (r : Except QueryFailure α) (s : σ) :
    (check r : Edit σ α).perform s = (r.mapError .query, s) := by
  cases r <;> rfl

theorem perform_bind (x : Edit σ α) (f : α → Edit σ β) (s : σ) :
    (x >>= f).perform s = match x.perform s with
      | (.ok a, s) => (f a).perform s
      | (.error e, s) => (.error e, s) := by
  simp only [perform, ExceptT.run_bind, StateT.run_bind]
  cases h : x.run.run s with
  | mk r t => cases r <;> rfl

end Edit

open Edit (check)

/-- A clause as it is written: its fragments, and its values in the order of the placeholders. -/
structure Draft where
  scope : Scope
  fragments : List String := []
  bindings : List Value := []

namespace Draft

def fresh (d : Draft) : Draft := { scope := d.scope }

def render (d : Draft) : String := String.intercalate " " d.fragments

/-- Writes a fragment and its values. The first fragment of a draft has no connective. -/
def push (link : Connective) (sql : String) (values : List Value) : Edit Draft Unit := do
  modify fun d => { d with
    fragments := d.fragments ++ [if d.fragments.isEmpty then sql else link.text ++ " " ++ sql] }
  modify fun d => { d with bindings := d.bindings ++ values }

/-- Writes another draft as a group, unless it is empty. -/
def fold (link : Connective) (group : Draft) : Edit Draft Unit :=
  if group.fragments.isEmpty then pure ()
  else push link ("(" ++ String.intercalate " " group.fragments ++ ")") group.bindings

/-- Writes the comparison of a column with a value. -/
def compare (link : Connective) (column : String) (op : Operator) (v : Value) :
    Edit Draft Unit := do
  let d ← get
  let path ← check (d.scope.locate column)
  let operand ← check (d.scope.operand path v)
  push link (path ++ " " ++ op.text ++ " " ++ operand.render Value.hidden) operand.values

/-- Writes the comparison of a column with the column `other`, whose name is qualified. -/
def compareColumns (column : String) (op : Operator) (other : String) : Edit Draft Unit := do
  let d ← get
  let path ← check (d.scope.locate column)
  check (d.scope.checkColumns path other)
  push .and (path ++ " " ++ op.text ++ " " ++ other) []

/-- Writes that a column is one of some values, unless there are none. -/
def membership (link : Connective) (column : String) (negated : Bool) (values : List Value) :
    Edit Draft Unit :=
  if values.isEmpty then pure ()
  else do
    let d ← get
    let path ← check (d.scope.locate column)
    check (d.scope.checkValues path values)
    push link (path ++ " " ++ Test.negation negated ++ "IN (" ++
      String.intercalate ", " (values.map fun _ => Value.placeholder) ++ ")") values

def range (link : Connective) (column : String) (negated : Bool) (low high : Value) :
    Edit Draft Unit := do
  let d ← get
  let path ← check (d.scope.locate column)
  check (d.scope.checkValues path [low, high])
  push link (path ++ " " ++ Test.negation negated ++ "BETWEEN ? AND ?") [low, high]

def null (link : Connective) (column : String) (negated : Bool) : Edit Draft Unit := do
  let d ← get
  let path ← check (d.scope.locate column)
  push link (path ++ " IS " ++ Test.negation negated ++ "NULL") []

def request (link : Connective) : Request → Edit Draft Unit
  | .compare column op v => compare link column op v
  | .oneOf column negated values => membership link column negated values
  | .between column negated low high => range link column negated low high
  | .isNull column negated => null link column negated

end Draft

namespace ClauseStep

mutual

/-- A step, written in place. -/
def edit : ClauseStep → Edit Draft Unit
  | add link request => Draft.request link request
  | group link tolerant body => do
    let d ← get
    let (outcome, written) := (editAll tolerant body).perform d.fresh
    match outcome with
    | .ok () => Draft.fold link written
    -- What a failing group has written by then is given up.
    | .error e => throw e
  | fail => throw (.query .noExecutor)
  | misspelt e => throw (.keyword e)
  | look => pure ()

/-- The steps of a group, written in place up to the first that ends it. -/
def editAll (tolerant : Bool) : List ClauseStep → Edit Draft Unit
  | [] => pure ()
  | s :: rest => do
    match ← s.edit.observe with
    | .ok () => editAll tolerant rest
    | .error (.query e) => if tolerant then editAll tolerant rest else throw (.query e)
    | .error (.keyword e) => throw (.keyword e)

end

end ClauseStep

namespace Draft

def run (d : Draft) (script : List ClauseStep) : Draft := Edit.runAll ClauseStep.edit d script

/-- The draft with further conditions, each written after those before it. -/
def write (d : Draft) (added : List Condition) : Draft := { d with
  fragments := d.fragments ++
    if d.fragments.isEmpty then Condition.fragments Value.hidden added
    else Condition.linked Value.hidden added
  bindings := d.bindings ++ Condition.allValues added }

@[simp] theorem write_scope (d : Draft) (added : List Condition) :
    (d.write added).scope = d.scope := rfl

@[simp] theorem write_nil (d : Draft) : d.write [] = d := by
  simp [write, Condition.fragments, Condition.linked, Condition.allValues]

theorem perform_push (link : Connective) (sql : String) (values : List Value) (d : Draft) :
    (push link sql values).perform d = (.ok (), { d with
      fragments := d.fragments ++ [if d.fragments.isEmpty then sql else link.text ++ " " ++ sql]
      bindings := d.bindings ++ values }) := rfl

/-- A condition is written by pushing its text and its values. -/
theorem perform_push_condition (c : Condition) (d : Draft) :
    (push c.link (c.render Value.hidden) c.values).perform d = (.ok (), d.write [c]) := by
  rw [perform_push, write]
  -- The connective is written or not, on both sides by whether the draft is empty.
  cases h : d.fragments.isEmpty <;>
    simp [Condition.fragments, Condition.linked, Condition.allValues]

end Draft

namespace Condition

theorem linked_append (write : Value → String) (a b : List Condition) :
    linked write (a ++ b) = linked write a ++ linked write b := by
  induction a with
  | nil => rfl
  | cons c a ih => simp only [List.cons_append, linked, ih]

theorem fragments_append (write : Value → String) (a b : List Condition) :
    fragments write (a ++ b) =
      fragments write a ++ if a.isEmpty then fragments write b else linked write b := by
  cases a with
  | nil => rfl
  | cons c a => simp [fragments, linked_append]

theorem allValues_append (a b : List Condition) :
    allValues (a ++ b) = allValues a ++ allValues b := by
  induction a with
  | nil => rfl
  | cons c a ih => simp only [List.cons_append, allValues, ih, List.append_assoc]

/-- The conditions as they are written after others, each after a blank and its connective. -/
def following (write : Value → String) : List Condition → String
  | [] => ""
  | c :: rest => " " ++ (c.link.text ++ " " ++ c.render write) ++ following write rest

theorem intercalate_cons_linked (write : Value → String) (s : String) (rest : List Condition) :
    String.intercalate " " (s :: linked write rest) = s ++ following write rest := by
  induction rest generalizing s with
  | nil => simp [linked, following]
  | cons c rest ih =>
    rw [linked, following, String.intercalate_cons_cons, ih]
    simp only [String.append_assoc]

theorem renderAll_cons (write : Value → String) (c : Condition) (rest : List Condition) :
    renderAll write (c :: rest) = c.render write ++ following write rest := by
  rw [renderAll, fragments, intercalate_cons_linked]

theorem isEmpty_fragments (write : Value → String) (cs : List Condition) :
    (fragments write cs).isEmpty = cs.isEmpty := by
  cases cs <;> rfl

end Condition

namespace Draft

/-- Conditions written one list after the other are written as one list. -/
theorem write_append (d : Draft) (a b : List Condition) :
    d.write (a ++ b) = (d.write a).write b := by
  cases h : d.fragments.isEmpty with
  | true =>
    simp [write, List.isEmpty_iff.1 h, Condition.fragments_append, Condition.allValues_append,
      Condition.isEmpty_fragments]
  | false =>
    have ne : d.fragments ≠ [] := by simpa using h
    simp [write, ne, Condition.linked_append, Condition.allValues_append]

/-- What a request writes is what its test is as a condition. -/
theorem perform_request (link : Connective) (r : Request) (d : Draft) :
    (request link r).perform d = match d.scope.test? r with
      | .ok (some t) => (.ok (), d.write [.test link t])
      | .ok none => (.ok (), d)
      | .error e => (.error (.query e), d) := by
  have pushed (t : Test) : (push link (t.render Value.hidden) t.values).perform d =
      (.ok (), d.write [.test link t]) := perform_push_condition (.test link t) d
  -- Every kind of request checks before it writes, so a failing check finds the draft unchanged.
  cases r with
  | compare column op v =>
    simp only [request, compare, Edit.perform_bind, Edit.perform_get, Edit.perform_check,
      Scope.test?, Scope.valueTest]
    cases d.scope.locate column with
    | error e => rfl
    | ok path =>
      simp only [mapError_ok, bind, Except.bind]
      cases d.scope.operand path v with
      | error e => rfl
      | ok operand => exact pushed (.compare path op operand)
  | oneOf column negated values =>
    cases values with
    | nil => rfl
    | cons v vs =>
      simp only [request, membership, List.isEmpty_cons, Bool.false_eq_true, if_false,
        Edit.perform_bind, Edit.perform_get, Edit.perform_check, Scope.test?]
      cases d.scope.locate column with
      | error e => rfl
      | ok path =>
        simp only [mapError_ok, bind, Except.bind]
        cases d.scope.checkValues path (v :: vs) with
        | error e => rfl
        | ok _ => exact pushed (.oneOf path negated (v :: vs))
  | between column negated low high =>
    simp only [request, range, Edit.perform_bind, Edit.perform_get, Edit.perform_check,
      Scope.test?]
    cases d.scope.locate column with
    | error e => rfl
    | ok path =>
      simp only [mapError_ok, bind, Except.bind]
      cases d.scope.checkValues path [low, high] with
      | error e => rfl
      | ok _ =>
        have text : path ++ " " ++ Test.negation negated ++ "BETWEEN ? AND ?" =
            (Test.between path negated low high).render Value.hidden := by
          simp [Test.render, Value.hidden, Value.placeholder, String.append_assoc]
        rw [text]
        exact pushed (.between path negated low high)
  | isNull column negated =>
    simp only [request, null, Edit.perform_bind, Edit.perform_get, Edit.perform_check,
      Scope.test?]
    cases d.scope.locate column with
    | error e => rfl
    | ok path => exact pushed (.isNull path negated)

/-- Conditions written on a draft of their own and folded are a group, or nothing at all. -/
theorem perform_fold (link : Connective) (parts : List Condition) (d : Draft) :
    (fold link (d.fresh.write parts)).perform d =
      (.ok (), if parts.isEmpty then d else d.write [.group link parts]) := by
  have written : d.fresh.write parts =
      ⟨d.scope, Condition.fragments Value.hidden parts, Condition.allValues parts⟩ := by
    simp [write, fresh]
  rw [written, fold, Condition.isEmpty_fragments]
  cases parts with
  | nil => rfl
  | cons c rest => exact perform_push_condition (.group link (c :: rest)) d

end Draft

namespace ClauseStep

mutual

/-- A step writes the conditions that it adds, or fails as they do and changes nothing. -/
theorem perform_edit (d : Draft) : (s : ClauseStep) →
    s.edit.perform d = match s.conditions d.scope with
      | .ok added => (.ok (), d.write added)
      | .error e => (.error e, d)
  | add link request => by
    rw [edit, conditions, Draft.perform_request]
    rcases d.scope.test? request with e | _ | t
    · rfl
    · show (Except.ok (), d) = (Except.ok (), d.write [])
      rw [Draft.write_nil]
    · rfl
  | group link tolerant body => by
    have inner := perform_editAll d.fresh tolerant body
    rw [edit, conditions]
    simp only [Edit.perform_bind, Edit.perform_get]
    cases h : bodyConditions d.scope tolerant body with
    | error e =>
      -- The draft of the group may be half written; it is given up as a whole.
      have failed : ((editAll tolerant body).perform d.fresh).1 = .error e := by
        simpa only [Draft.fresh, h] using inner
      simp only [failed, Edit.perform_throw]
    | ok parts =>
      have written : (editAll tolerant body).perform d.fresh = (.ok (), d.fresh.write parts) := by
        simpa only [Draft.fresh, h] using inner
      simp only [written, Draft.perform_fold]
      cases parts <;> simp
  | fail => rfl
  | misspelt e => rfl
  | look => by simp [edit, conditions]

theorem perform_editAll (d : Draft) (tolerant : Bool) : (body : List ClauseStep) →
    match bodyConditions d.scope tolerant body with
      | .ok parts => (editAll tolerant body).perform d = (.ok (), d.write parts)
      | .error e => ((editAll tolerant body).perform d).1 = .error e
  | [] => by simp [bodyConditions, editAll]
  | s :: rest => by
    have first := perform_edit d s
    rw [bodyConditions, editAll]
    simp only [Edit.perform_bind, Edit.perform_observe]
    cases h : s.conditions d.scope with
    | ok added =>
      rw [h] at first
      have later := perform_editAll (d.write added) tolerant rest
      simp only [first, Draft.write_scope] at later ⊢
      cases hr : bodyConditions d.scope tolerant rest with
      | ok parts =>
        rw [hr] at later
        simpa only [Except.map, Draft.write_append] using later
      | error e =>
        rw [hr] at later
        simpa only [Except.map] using later
    | error e =>
      rw [h] at first
      cases e with
      | query e =>
        simp only [first]
        -- The failing step has left the draft as it was, and a tolerant group goes on with it.
        cases tolerant with
        | true => exact perform_editAll d true rest
        | false => simp
      | keyword e => simp [first]

end

section Outcome

variable {d : Draft} {s : ClauseStep} {added : List Condition} {e : StepFailure}

theorem perform_of_ok (h : s.conditions d.scope = .ok added) :
    s.edit.perform d = (.ok (), d.write added) := by
  rw [perform_edit, h]

theorem perform_of_error (h : s.conditions d.scope = .error e) :
    s.edit.perform d = (.error e, d) := by
  rw [perform_edit, h]

end Outcome

end ClauseStep

/-- A clause as a draft. -/
def Clause.draft (c : Clause) : Draft := ⟨c.scope, c.fragments, c.values⟩

namespace Draft

theorem write_draft (c : Clause) (added : List Condition) :
    c.draft.write added = { c with conditions := c.conditions ++ added : Clause }.draft := by
  simp only [write, Clause.draft, Clause.fragments, Clause.values, Condition.fragments_append,
    Condition.allValues_append, Condition.isEmpty_fragments]

/-- In place or not, a step has the same outcome and leaves the same fragments and values. -/
theorem perform_edit_draft (c : Clause) (s : ClauseStep) :
    s.edit.perform c.draft =
      (match (c.attempt s).1 with
        | none => .ok ()
        | some e => .error e, (c.attempt s).2.draft) := by
  have scope : c.draft.scope = c.scope := rfl
  rw [ClauseStep.perform_edit, scope, Clause.attempt, Clause.step]
  cases s.conditions c.scope with
  | error e => rfl
  | ok added => simp only [Except.map, write_draft]

/-- In place or not, a script leaves the same fragments and values. -/
theorem run_draft (c : Clause) (script : List ClauseStep) :
    run c.draft script = (c.run script).draft := by
  refine Edit.runAll_eq_foldl ClauseStep.edit (fun c s => ?_) c script
  rw [perform_edit_draft]

end Draft

end SelectQuery
