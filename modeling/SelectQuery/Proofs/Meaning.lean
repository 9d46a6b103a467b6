import Mathlib.Data.List.TakeWhile
import SelectQuery.Proofs.Syntax.Expression

/-!
What a clause means. A level of a script is cut before each step that is joined with OR; a block
holds if all of its steps do, the level if one of its blocks does, and a group is a level of its
own. Truth is that of SQL, with a third value.

What is proved:
  1. `eval_join`: an expression read from left to right has the value of its level.
  2. `eval_expr`: the expression of conditions has their value.
  3. `parse_of_script`: the text of every script is read as an expression with the tests of the
     script, and with the value of the script whatever the values of the tests.
-/

namespace SelectQuery

open Syntax (Atom Expr parse)

inductive Truth where
  | holds
  | fails
  | unknown
  deriving DecidableEq

namespace Truth

def and : Truth → Truth → Truth
  | fails, _ => fails
  | _, fails => fails
  | holds, holds => holds
  | _, _ => unknown

def or : Truth → Truth → Truth
  | holds, _ => holds
  | _, holds => holds
  | fails, fails => fails
  | _, _ => unknown

def all (ts : List Truth) : Truth := ts.foldr and holds

def any (ts : List Truth) : Truth := ts.foldr or fails

theorem and_assoc (a b c : Truth) : (a.and b).and c = a.and (b.and c) := by
  cases a <;> cases b <;> cases c <;> rfl

theorem or_assoc (a b c : Truth) : (a.or b).or c = a.or (b.or c) := by
  cases a <;> cases b <;> cases c <;> rfl

theorem and_holds (a : Truth) : a.and holds = a := by
  cases a <;> rfl

theorem or_fails (a : Truth) : a.or fails = a := by
  cases a <;> rfl

/-- Whether a step belongs to the block of the step before it. -/
def continues (step : Connective × Truth) : Bool := step.1 = .and

/-- The value of a level, given the connectives and the values of its steps. It is cut before each
step that is joined with OR. -/
def level (steps : List (Connective × Truth)) : Truth :=
  any ((steps.splitBy fun _ next => continues next).map fun block => all (block.map Prod.snd))

/-- The first block of a level goes up to the first OR behind its first step. -/
theorem level_cons (link : Connective) (t : Truth) (rest : List (Connective × Truth)) :
    level ((link, t) :: rest) =
      (t.and (all ((rest.takeWhile continues).map Prod.snd))).or
        (level (rest.dropWhile continues)) := by
  have parts : (link, t) :: rest =
      ((link, t) :: rest.takeWhile continues) ++ rest.dropWhile continues := by
    rw [List.cons_append, List.takeWhile_append_dropWhile]
  -- Whatever its own connective is, the first step is in the first block.
  have border : ∀ s ∈ ((link, t) :: rest.takeWhile continues).getLast?,
      ∀ next ∈ (rest.dropWhile continues).head?, continues next = false := by
    intro _ _ next hn
    have first := List.head?_dropWhile_not continues rest
    rw [Option.mem_def] at hn
    simpa [hn] using first
  have block : ((link, t) :: rest.takeWhile continues).IsChain fun _ next => continues next := by
    refine List.Pairwise.isChain (List.pairwise_cons.2 ⟨?_, ?_⟩)
    · intro s hs
      exact List.mem_takeWhile_imp hs
    · refine List.pairwise_of_forall_mem_list ?_
      intro _ _ s hs
      exact List.mem_takeWhile_imp hs
  rw [level, parts, List.splitBy_append border,
    List.splitBy_of_isChain (List.cons_ne_nil _ _) block]
  rfl

theorem level_singleton (link : Connective) (t : Truth) : level [(link, t)] = t := by
  rw [level_cons]
  exact (or_fails _).trans (and_holds t)

/-- The first two steps of a block are one step. -/
theorem level_and (link : Connective) (a b : Truth) (rest : List (Connective × Truth)) :
    level ((link, a) :: (.and, b) :: rest) = level ((link, a.and b) :: rest) := by
  rw [level_cons, level_cons, List.takeWhile_cons_of_pos rfl,
    List.dropWhile_cons_of_pos rfl, and_assoc]
  rfl

/-- A step before OR is a block of its own. -/
theorem level_or (link : Connective) (a b : Truth) (rest : List (Connective × Truth)) :
    level ((link, a) :: (.or, b) :: rest) = a.or (level ((.or, b) :: rest)) := by
  have cut : ¬ continues (.or, b) := by simp [continues]
  rw [level_cons, List.takeWhile_cons_of_neg cut, List.dropWhile_cons_of_neg cut]
  exact congrArg (fun t => Truth.or t _) (and_holds a)

end Truth

/-! ## Expressions -/

namespace Syntax.Expr

/-- The tests of an expression in order. -/
def atoms : Expr → List Atom
  | atom a => [a]
  | and l r => l.atoms ++ r.atoms
  | or l r => l.atoms ++ r.atoms

/-- The value of an expression, given the values of its tests, the first of which is number `n`. -/
def eval (σ : Nat → Truth) (n : Nat) : Expr → Truth
  | atom _ => σ n
  | and l r => (l.eval σ n).and (r.eval σ (n + l.atoms.length))
  | or l r => (l.eval σ n).or (r.eval σ (n + l.atoms.length))

def linkedEval (σ : Nat → Truth) (n : Nat) : List (Connective × Expr) → List (Connective × Truth)
  | [] => []
  | (link, e) :: rest => (link, e.eval σ n) :: linkedEval σ (n + e.atoms.length) rest

section Join

variable (σ : Nat → Truth) (link : Connective)

/-- Behind alternatives, an expression is one more alternative. -/
theorem eval_join_some (es : List (Connective × Expr)) : (a e : Expr) → (n : Nat) →
    (join (some a) e es).eval σ n = (a.eval σ n).or (Truth.level
      ((link, e.eval σ (n + a.atoms.length)) ::
        linkedEval σ (n + a.atoms.length + e.atoms.length) es)) := by
  -- The connective of the first step of a level does not count, so it may change on the way.
  induction es generalizing link with
  | nil =>
    intro a e n
    rw [linkedEval, Truth.level_singleton]
    rfl
  | cons first rest ih =>
    intro a e n
    obtain ⟨connective, f⟩ := first
    cases connective with
    | and =>
      rw [join, ih link, linkedEval, Truth.level_and, eval, atoms, List.length_append,
        ← Nat.add_assoc]
    | or =>
      rw [join, orElse, ih .or, linkedEval, Truth.level_or, eval, Truth.or_assoc, atoms,
        List.length_append, ← Nat.add_assoc]

/-- An expression read from left to right has the value of its level. -/
theorem eval_join (es : List (Connective × Expr)) : (e : Expr) → (n : Nat) →
    (join none e es).eval σ n =
      Truth.level ((link, e.eval σ n) :: linkedEval σ (n + e.atoms.length) es) := by
  induction es generalizing link with
  | nil =>
    intro e n
    rw [linkedEval, Truth.level_singleton]
    rfl
  | cons first rest ih =>
    intro e n
    obtain ⟨connective, f⟩ := first
    cases connective with
    | and =>
      rw [join, ih link, linkedEval, Truth.level_and, eval, atoms, List.length_append,
        ← Nat.add_assoc]
    | or =>
      rw [join, orElse, eval_join_some σ .or, linkedEval, Truth.level_or]

end Join

/-- An expression keeps the tests of its operands in order. -/
theorem atoms_join (es : List (Connective × Expr)) (alternatives : Option Expr) (e : Expr) :
    (join alternatives e es).atoms =
      alternatives.elim [] atoms ++ e.atoms ++ es.flatMap fun (_, e) => e.atoms := by
  induction es generalizing alternatives e with
  | nil => cases alternatives <;> simp [join, orElse, atoms]
  | cons first rest ih =>
    obtain ⟨connective, f⟩ := first
    cases connective with
    | and =>
      rw [join, ih]
      simp [atoms]
    | or =>
      rw [join, ih]
      cases alternatives <;> simp [orElse, atoms]

end Syntax.Expr

/-! ## Conditions -/

namespace Condition

mutual

/-- The tests of a condition in order. -/
def tests : Condition → List Test
  | test _ t => [t]
  | group _ parts => allTests parts

def allTests : List Condition → List Test
  | [] => []
  | c :: rest => c.tests ++ allTests rest

end

mutual

/-- The value of a condition, given the values of its tests, the first of which is number `n`. -/
def truth (σ : Nat → Truth) (n : Nat) : Condition → Truth
  | test _ _ => σ n
  | group _ parts => .level (truths σ n parts)

/-- The values of conditions, with the connectives before them. -/
def truths (σ : Nat → Truth) (n : Nat) : List Condition → List (Connective × Truth)
  | [] => []
  | c :: rest => (c.link, c.truth σ n) :: truths σ (n + c.tests.length) rest

end

theorem allTests_append (a b : List Condition) : allTests (a ++ b) = allTests a ++ allTests b := by
  induction a with
  | nil => rfl
  | cons c rest ih => rw [List.cons_append, allTests, allTests, ih, List.append_assoc]

theorem truths_append (σ : Nat → Truth) (n : Nat) (a b : List Condition) :
    truths σ n (a ++ b) = truths σ n a ++ truths σ (n + (allTests a).length) b := by
  induction a generalizing n with
  | nil => rfl
  | cons c rest ih =>
    rw [List.cons_append, truths, truths, ih, allTests, List.length_append, Nat.add_assoc]
    rfl

mutual

/-- The expression of a condition has its tests and its value. -/
theorem eval_expr : (c : Condition) → ∀ e, c.expr? = some e →
    e.atoms = c.tests.map Test.atom ∧ ∀ σ n, e.eval σ n = c.truth σ n
  | .test _ t, e, h => by
    rw [expr?, Option.some.injEq] at h
    subst h
    exact ⟨rfl, fun σ n => rfl⟩
  | .group _ parts, e, h => by
    rw [expr?] at h
    exact eval_allExpr parts e h

/-- The expression of conditions has their tests, and the value of their level. -/
theorem eval_allExpr : (cs : List Condition) → ∀ e, allExpr? cs = some e →
    e.atoms = (allTests cs).map Test.atom ∧ ∀ σ n, e.eval σ n = .level (truths σ n cs)
  | [], e, h => by simp [allExpr?] at h
  | c :: rest, e, h => by
    simp only [allExpr?, Option.bind_eq_bind, Option.bind_eq_some_iff, Option.pure_def,
      Option.some.injEq] at h
    obtain ⟨first, hf, es, hes, rfl⟩ := h
    obtain ⟨atoms, value⟩ := eval_expr c first hf
    obtain ⟨later_atoms, later⟩ := eval_linkedExprs rest es hes
    constructor
    · rw [Syntax.Expr.atoms_join, atoms, later_atoms, allTests, List.map_append]
      rfl
    · intro σ n
      rw [Syntax.Expr.eval_join σ c.link, value, later, atoms, List.length_map]
      rfl

theorem eval_linkedExprs : (cs : List Condition) → ∀ es, linkedExprs? cs = some es →
    es.flatMap (fun (_, e) => e.atoms) = (allTests cs).map Test.atom ∧
      ∀ σ n, Syntax.Expr.linkedEval σ n es = truths σ n cs
  | [], es, h => by
    simp only [linkedExprs?, Option.some.injEq] at h
    subst h
    exact ⟨rfl, fun σ n => rfl⟩
  | c :: rest, es, h => by
    simp only [linkedExprs?, Option.bind_eq_bind, Option.bind_eq_some_iff, Option.pure_def,
      Option.some.injEq] at h
    obtain ⟨first, hf, others, hos, rfl⟩ := h
    obtain ⟨atoms, value⟩ := eval_expr c first hf
    obtain ⟨later_atoms, later⟩ := eval_linkedExprs rest others hos
    constructor
    · rw [List.flatMap_cons, later_atoms, allTests, List.map_append, ← atoms]
    · intro σ n
      rw [Syntax.Expr.linkedEval, value, later, atoms, List.length_map]
      rfl

end

end Condition

/-! ## Scripts -/

namespace ClauseStep

section Reading

variable (scope : Scope)

mutual

/-- The tests of a step that succeeds, in order. A step that fails has none. -/
def tests : ClauseStep → List Test
  | add _ request => match scope.test? request with
    | .ok (some t) => [t]
    | _ => []
  | group _ tolerant body => match bodyConditions scope tolerant body with
    | .ok _ => allTests body
    | .error _ => []
  | fail => []
  | misspelt _ => []
  | look => []

def allTests : List ClauseStep → List Test
  | [] => []
  | s :: rest => s.tests ++ allTests rest

end

mutual

/-- What a step says on its level, given the values of its tests, the first of which is number `n`:
its connective and its value. A step that fails or adds nothing says nothing, and a group has the
value of its own level. -/
def reading (σ : Nat → Truth) (n : Nat) : ClauseStep → List (Connective × Truth)
  | add link request => match scope.test? request with
    | .ok (some _) => [(link, σ n)]
    | _ => []
  | group link tolerant body => match bodyConditions scope tolerant body with
    | .ok _ => match allReadings σ n body with
      | [] => []
      | steps => [(link, .level steps)]
    | .error _ => []
  | fail => []
  | misspelt _ => []
  | look => []

def allReadings (σ : Nat → Truth) (n : Nat) : List ClauseStep → List (Connective × Truth)
  | [] => []
  | s :: rest => s.reading σ n ++ allReadings σ (n + (s.tests scope).length) rest

end

variable {scope}

mutual

/-- What a step adds has the tests of the step, and says what the step says. -/
theorem truths_added : (s : ClauseStep) →
    Condition.allTests (s.added scope) = s.tests scope ∧
      ∀ σ n, Condition.truths σ n (s.added scope) = s.reading scope σ n
  | add link request => by
    unfold added conditions tests reading
    rcases scope.test? request with e | _ | t
    · exact ⟨rfl, fun σ n => rfl⟩
    · exact ⟨rfl, fun σ n => rfl⟩
    · exact ⟨rfl, fun σ n => rfl⟩
  | group link tolerant body => by
    obtain ⟨inner_tests, inner⟩ := truths_allAdded body
    unfold added conditions tests reading
    cases written : bodyConditions scope tolerant body with
    | error e => exact ⟨rfl, fun σ n => rfl⟩
    | ok parts =>
      rw [← bodyConditions_eq written] at inner_tests inner
      -- A group without conditions adds nothing and says nothing.
      constructor
      · cases parts with
        | nil => exact inner_tests
        | cons c rest =>
          rw [← inner_tests]
          exact List.append_nil _
      · intro σ n
        cases parts with
        | nil => simp only [← inner, Condition.truths]
        | cons c rest => simp only [← inner, Condition.truths, Condition.truth, Condition.link]
  | fail | misspelt _ | look => by
    unfold added conditions tests reading
    exact ⟨rfl, fun σ n => rfl⟩

theorem truths_allAdded : (script : List ClauseStep) →
    Condition.allTests (script.flatMap (added scope)) = allTests scope script ∧
      ∀ σ n, Condition.truths σ n (script.flatMap (added scope)) = allReadings scope σ n script
  | [] => ⟨rfl, fun σ n => rfl⟩
  | s :: rest => by
    obtain ⟨first_tests, first⟩ := truths_added s
    obtain ⟨later_tests, later⟩ := truths_allAdded rest
    constructor
    · rw [List.flatMap_cons, Condition.allTests_append, first_tests, later_tests, allTests]
    · intro σ n
      rw [List.flatMap_cons, Condition.truths_append, first, later, first_tests, allReadings]

end

end Reading

end ClauseStep

/-- The tests of a script of paths can be read back. -/
theorem readable_run {scope : Scope} {script : List ClauseStep}
    (table : isIdentifierPath scope.table)
    (columns : ∀ r ∈ ClauseStep.allRequests script, isIdentifierPath r.column) :
    ∀ c ∈ (Clause.run { scope } script).conditions, c.Every Test.Readable := by
  apply Clause.every_run
  intro r hr t asked
  constructor
  · exact Scope.names_of_test asked table (columns r hr)
  · exact (Scope.test?_eq_ok asked).1

/-- The text of a script is read as an expression of the tests that the script adds, and whatever
the values of these are, the expression has the value of the script. It is empty if the script adds
nothing. Written in place, the script has the same text. -/
theorem parse_of_script (scope : Scope) (script : List ClauseStep)
    (table : isIdentifierPath scope.table)
    (columns : ∀ r ∈ ClauseStep.allRequests script, isIdentifierPath r.column) :
    let c := Clause.run { scope } script
    (Draft.run { scope } script).render = c.render ∧
      ∃ e : Option Expr, parse c.render = some e ∧ (e = none ↔ c.isEmpty) ∧
        e.elim [] Expr.atoms = (ClauseStep.allTests scope script).map Test.atom ∧
        ∀ σ, e.elim .fails (Expr.eval σ 0) =
          .level (ClauseStep.allReadings scope σ 0 script) := by
  intro c
  have readable : ∀ d ∈ c.conditions, d.Every Test.Readable := readable_run table columns
  have added : c.conditions = script.flatMap (ClauseStep.added scope) := by
    show (Clause.run { scope } script).conditions = _
    rw [Clause.run_eq]
    rfl
  have in_place : Draft.run { scope } script = c.draft := Draft.run_draft { scope } script
  constructor
  · rw [in_place]
    rfl
  refine ⟨Condition.allExpr? c.conditions, Syntax.parse_renderAll readable, ?_⟩
  obtain ⟨tests, truths⟩ := @ClauseStep.truths_allAdded scope script
  rw [← added] at tests truths
  -- A clause without conditions has an empty text, which is read as no expression at all.
  cases conditions : c.conditions with
  | nil =>
    rw [conditions] at tests truths
    refine ⟨by simp [Condition.allExpr?, Clause.isEmpty, conditions], ?_, ?_⟩
    · rw [← tests]
      rfl
    · intro σ
      rw [← truths]
      rfl
  | cons first rest =>
    rw [conditions] at readable tests truths
    obtain ⟨e, h⟩ := Condition.exists_expr (.group .and (first :: rest))
      (.group (List.cons_ne_nil first rest) readable)
    rw [Condition.expr?] at h
    obtain ⟨atoms, eval⟩ := Condition.eval_allExpr _ e h
    rw [h]
    refine ⟨by simp [Clause.isEmpty, conditions], ?_, ?_⟩
    · rw [← tests]
      exact atoms
    · intro σ
      rw [← truths]
      exact eval σ 0

/-- An OR before an empty group and an AND in the group behind it. -/
theorem parse_of_mixed_script :
    let script : List ClauseStep :=
      [.add .and (.compare "a" .eq (.int 1)), .group .or false [.add .or (.oneOf "b" false [])],
        .group .or true [.add .or (.between "c" true (.int 1) (.int 2)), .fail,
          .add .and (.isNull "t.d" false)]]
    (isIdentifierPath "u" ∧ ∀ r ∈ ClauseStep.allRequests script, isIdentifierPath r.column) ∧
      ∃ e : Option Expr,
        parse (Clause.run { scope := ⟨"u", none⟩ } script).render = some e ∧
          ∀ σ, e.elim .fails (Expr.eval σ 0) = (σ 0).or ((σ 1).and (σ 2)) := by
  intro script
  have table : isIdentifierPath "u" := by decide +kernel
  have columns : ∀ r ∈ ClauseStep.allRequests script, isIdentifierPath r.column := by
    show ∀ r ∈ [_, _, _, _], _
    simp only [List.forall_mem_cons]
    decide +kernel
  obtain ⟨_, e, read, _, _, eval⟩ := parse_of_script ⟨"u", none⟩ script table columns
  refine ⟨⟨table, columns⟩, e, read, ?_⟩
  intro σ
  rw [eval]
  -- The first block is the first step, and the second is the last group, a level of one block.
  show Truth.or ((σ 0).and .holds) (Truth.or ((Truth.or ((σ 1).and ((σ 2).and .holds)) .fails).and
    .holds) .fails) = _
  simp only [Truth.and_holds, Truth.or_fails]

end SelectQuery
