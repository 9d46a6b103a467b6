import SelectQuery.Proofs.Checks
import SelectQuery.Query

/-!
Scripts: what the requests of a script have in common, its conditions have too. A script adds the
conditions that its steps add one by one, and no group among them is empty.

What is proved:
  1. `every_conditions`: if all tests that a step asks for have a property, so do all tests in the
     conditions that it adds, at any depth.
  2. `bodyConditions_eq`, `run_eq`: a group or a script adds what its steps add, in order.
  3. `every_run`, `every_build`: the first statement, for a whole script of a clause or a query.
-/

namespace SelectQuery

/-- All tests of the condition have the property `p`, and no group of it is empty. -/
inductive Condition.Every (p : Test → Prop) : Condition → Prop where
  | test {link : Connective} {t : Test} (holds : p t) : Every p (.test link t)
  | group {link : Connective} {parts : List Condition} (filled : parts ≠ [])
    (each : ∀ c ∈ parts, Every p c) : Every p (.group link parts)

namespace ClauseStep

mutual

/-- What a step asks for, at any depth. -/
def requests : ClauseStep → List Request
  | add _ request => [request]
  | group _ _ body => allRequests body
  | fail => []
  | misspelt _ => []
  | look => []

def allRequests : List ClauseStep → List Request
  | [] => []
  | s :: rest => s.requests ++ allRequests rest

end

theorem mem_allRequests {s : ClauseStep} {script : List ClauseStep} (hs : s ∈ script)
    {r : Request} (hr : r ∈ s.requests) : r ∈ allRequests script := by
  induction script with
  | nil => exact absurd hs List.not_mem_nil
  | cons first rest ih =>
    rcases List.mem_cons.1 hs with rfl | hs
    · exact List.mem_append_left _ hr
    · exact List.mem_append_right _ (ih hs)

section Every

variable {scope : Scope} {p : Test → Prop}

mutual

/-- If the tests that a step asks for have a property, so do those in the conditions it adds. -/
theorem every_conditions : (s : ClauseStep) →
    (∀ r ∈ s.requests, ∀ t, scope.test? r = .ok (some t) → p t) →
    ∀ added, s.conditions scope = .ok added → ∀ c ∈ added, c.Every p
  | add link request, test, added, h => by
    have holds := test request (List.mem_singleton_self request)
    rw [conditions] at h
    intro c hc
    cases asked : scope.test? request with
    | error e => simp [asked] at h
    | ok t? =>
      cases t? with
      -- An empty list of values passes without a test.
      | none =>
        simp only [asked, Except.ok.injEq] at h
        exact absurd hc (h ▸ List.not_mem_nil)
      | some t =>
        simp only [asked, Except.ok.injEq] at h
        obtain rfl := List.mem_singleton.1 (h ▸ hc)
        exact .test (holds t asked)
  | group link tolerant body, test, added, h => by
    rw [conditions] at h
    intro c hc
    cases written : bodyConditions scope tolerant body with
    | error e => simp [written] at h
    | ok parts =>
      have each := every_bodyConditions tolerant body test parts written
      cases parts with
      | nil =>
        simp only [written, Except.ok.injEq] at h
        exact absurd hc (h ▸ List.not_mem_nil)
      | cons first rest =>
        simp only [written, Except.ok.injEq] at h
        obtain rfl := List.mem_singleton.1 (h ▸ hc)
        exact .group (List.cons_ne_nil first rest) each
  | fail, _, _, h => by simp [conditions] at h
  | misspelt _, _, _, h => by simp [conditions] at h
  | look, _, added, h => by
    simp only [conditions, Except.ok.injEq] at h
    intro c hc
    exact absurd hc (h ▸ List.not_mem_nil)

theorem every_bodyConditions (tolerant : Bool) : (body : List ClauseStep) →
    (∀ r ∈ allRequests body, ∀ t, scope.test? r = .ok (some t) → p t) →
    ∀ parts, bodyConditions scope tolerant body = .ok parts → ∀ c ∈ parts, c.Every p
  | [], _, parts, h => by
    simp only [bodyConditions, Except.ok.injEq] at h
    intro c hc
    exact absurd hc (h ▸ List.not_mem_nil)
  | s :: rest, test, parts, h => by
    have here := every_conditions s fun r hr => test r (List.mem_append_left _ hr)
    have later := every_bodyConditions tolerant rest fun r hr => test r (List.mem_append_right _ hr)
    rw [bodyConditions] at h
    cases first : s.conditions scope with
    | ok added =>
      simp only [first, map_eq_ok] at h
      obtain ⟨others, written, rfl⟩ := h
      intro c hc
      rcases List.mem_append.1 hc with hc | hc
      · exact here added first c hc
      · exact later others written c hc
    | error e =>
      cases e with
      | query e =>
        cases tolerant with
        | true =>
          simp only [first, if_true] at h
          exact later parts h
        | false => simp [first] at h
      | keyword e => simp [first] at h

end

end Every

/-- The conditions that a step adds where its failure is passed over. -/
def added (scope : Scope) (s : ClauseStep) : List Condition :=
  match s.conditions scope with
  | .ok added => added
  | .error _ => []

/-- A group that succeeds adds what its steps add. -/
theorem bodyConditions_eq {scope : Scope} {tolerant : Bool} {body : List ClauseStep}
    {parts : List Condition} (h : bodyConditions scope tolerant body = .ok parts) :
    parts = body.flatMap (added scope) := by
  induction body generalizing parts with
  | nil =>
    rw [bodyConditions, Except.ok.injEq] at h
    exact h.symm
  | cons s rest ih =>
    rw [bodyConditions] at h
    rw [List.flatMap_cons, added]
    cases first : s.conditions scope with
    | ok here =>
      simp only [first, map_eq_ok] at h
      obtain ⟨others, later, rfl⟩ := h
      rw [ih later]
    | error e =>
      cases e with
      | query e =>
        cases tolerant with
        | true =>
          simp only [first, if_true] at h
          exact ih h
        | false => simp [first] at h
      | keyword e => simp [first] at h

theorem every_added {scope : Scope} {p : Test → Prop} {s : ClauseStep}
    (test : ∀ r ∈ s.requests, ∀ t, scope.test? r = .ok (some t) → p t) :
    ∀ c ∈ s.added scope, c.Every p := by
  intro c hc
  unfold added at hc
  cases h : s.conditions scope with
  | ok added =>
    rw [h] at hc
    exact every_conditions s test added h c hc
  | error e =>
    rw [h] at hc
    exact absurd hc List.not_mem_nil

end ClauseStep

namespace Clause

theorem attempt_eq (c : Clause) (s : ClauseStep) :
    (c.attempt s).2 = { c with conditions := c.conditions ++ s.added c.scope } := by
  unfold attempt step ClauseStep.added
  cases s.conditions c.scope <;> simp [Except.map]

/-- A script adds what its steps add, in order. -/
theorem run_eq (c : Clause) (script : List ClauseStep) :
    c.run script = { c with
      conditions := c.conditions ++ script.flatMap (ClauseStep.added c.scope) } := by
  induction script generalizing c with
  | nil => simp [run]
  | cons s rest ih =>
    have first := attempt_eq c s
    calc c.run (s :: rest) = (c.attempt s).2.run rest := rfl
      _ = { c with
            conditions := c.conditions ++ (s :: rest).flatMap (ClauseStep.added c.scope) } := by
        rw [first, ih, List.flatMap_cons, List.append_assoc]

/-- If the tests that a script asks for have a property, so do those in the clause it builds. -/
theorem every_run {scope : Scope} {p : Test → Prop} {script : List ClauseStep}
    (test : ∀ r ∈ ClauseStep.allRequests script, ∀ t, scope.test? r = .ok (some t) → p t) :
    ∀ c ∈ (Clause.run { scope } script).conditions, c.Every p := by
  intro c hc
  rw [run_eq] at hc
  obtain ⟨s, hs, hc⟩ := List.mem_flatMap.1 hc
  apply ClauseStep.every_added _ c hc
  intro r hr
  exact test r (ClauseStep.mem_allRequests hs hr)

end Clause

/-! ## Queries -/

/-- All tests of the query have the property `p`, and no group of it is empty. -/
structure Query.Every (p : Test → Prop) (q : Query) : Prop where
  wheres : ∀ c ∈ q.wheres, c.Every p
  joins : ∀ j ∈ q.joins, ∀ c ∈ j.on, c.Every p

namespace Query

/-- What a step does to the conditions of a query: nothing, or it adds to WHERE what a step of a
clause adds, or it adds a join on a test or on what the steps of a group add. -/
theorem attempt_cases (q : Query) (s : QueryStep) :
    ((q.attempt s).2.scope = q.scope ∧ (q.attempt s).2.wheres = q.wheres ∧
      (q.attempt s).2.joins = q.joins) ∨
    (∃ (step : ClauseStep) (added : List Condition), step.conditions q.scope = .ok added ∧
      (q.attempt s).2 = { q with wheres := q.wheres ++ added }) ∨
    (∃ kind table on t, JoinCondition.test ⟨table, q.scope.oracle⟩ on = .ok t ∧
      (q.attempt s).2 = { q with joins := q.joins ++ [⟨kind, table, [.test .and t]⟩] }) ∨
    (∃ kind table tolerant body on,
      ClauseStep.bodyConditions ⟨table, q.scope.oracle⟩ tolerant body = .ok on ∧
      (q.attempt s).2 = { q with joins := q.joins ++ [⟨kind, table, on⟩] }) := by
  cases s with
  | join kind table on =>
    simp only [attempt, step, join]
    cases test : on.test ⟨table, q.scope.oracle⟩ with
    | error e => exact .inl ⟨rfl, rfl, rfl⟩
    | ok t => exact .inr (.inr (.inl ⟨kind, table, on, t, test, rfl⟩))
  | joinGroup kind table tolerant body =>
    simp only [attempt, step, joinGroup]
    cases written : ClauseStep.bodyConditions ⟨table, q.scope.oracle⟩ tolerant body with
    | error e => exact .inl ⟨rfl, rfl, rfl⟩
    | ok on => exact .inr (.inr (.inr ⟨kind, table, tolerant, body, on, written, rfl⟩))
  | filter s =>
    simp only [attempt, step, Clause.step, whereClause]
    cases added : s.conditions q.scope with
    | error e => exact .inl ⟨rfl, rfl, rfl⟩
    | ok here => exact .inr (.inl ⟨s, here, added, rfl⟩)
  | limit count =>
    left
    simp only [attempt, step, setLimit]
    rcases count with _ | n
    · exact ⟨rfl, rfl, rfl⟩
    · by_cases zero : n = 0 <;> simp [zero]
  | offset count => cases count <;> exact .inl ⟨rfl, rfl, rfl⟩
  | select _ | distinct | groupBy _ | order _ _ | misspelt _ => exact .inl ⟨rfl, rfl, rfl⟩

theorem scope_attempt (q : Query) (s : QueryStep) : (q.attempt s).2.scope = q.scope := by
  rcases attempt_cases q s with ⟨scope, -, -⟩ | ⟨_, _, -, after⟩ | ⟨_, _, _, _, -, after⟩ |
    ⟨_, _, _, _, _, -, after⟩
  · exact scope
  all_goals rw [after]

section Every

variable {oracle : Option Oracle} {p : Test → Prop}
  (asked : ∀ table r t, (⟨table, oracle⟩ : Scope).test? r = .ok (some t) → p t)
  (joined : ∀ table on t, JoinCondition.test ⟨table, oracle⟩ on = .ok t → p t)

include asked joined

theorem every_attempt {q : Query} (strict : q.scope.oracle = oracle) (every : q.Every p)
    (s : QueryStep) : (q.attempt s).2.Every p := by
  subst strict
  obtain ⟨wheres, joins⟩ := every
  -- A further join has the property if its conditions have.
  have pushed {kind : JoinKind} {table : String} {on : List Condition}
      (each : ∀ c ∈ on, c.Every p) :
      ({ q with joins := q.joins ++ [⟨kind, table, on⟩] } : Query).Every p := by
    refine ⟨wheres, ?_⟩
    intro j hj
    rcases List.mem_append.1 hj with hj | hj
    · exact joins j hj
    · exact List.mem_singleton.1 hj ▸ each
  rcases attempt_cases q s with ⟨-, wheres', joins'⟩ | ⟨step, added, here, after⟩ |
    ⟨kind, table, on, t, test, after⟩ | ⟨kind, table, tolerant, body, on, written, after⟩
  · exact ⟨wheres' ▸ wheres, joins' ▸ joins⟩
  · rw [after]
    refine ⟨?_, joins⟩
    intro c hc
    rcases List.mem_append.1 hc with hc | hc
    · exact wheres c hc
    · exact ClauseStep.every_conditions step (fun r _ => asked _ r) added here c hc
  · rw [after]
    apply pushed
    intro c hc
    rw [List.mem_singleton.1 hc]
    exact .test (joined table on t test)
  · rw [after]
    apply pushed
    exact ClauseStep.every_bodyConditions tolerant body (fun r _ => asked table r) on written

/-- If the tests that pass the checks have a property, so do those of every query that a script
builds. -/
theorem every_build {q : Query} (strict : q.scope.oracle = oracle) (every : q.Every p)
    (script : List QueryStep) : (q.build script).Every p := by
  induction script generalizing q with
  | nil => exact every
  | cons s rest ih =>
    apply ih
    · rw [scope_attempt, strict]
    · exact every_attempt asked joined strict every s

end Every

end Query

end SelectQuery
