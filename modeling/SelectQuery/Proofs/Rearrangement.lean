import SelectQuery.Proofs.QueryDraft
import SelectQuery.Proofs.Script

/-!
Rearrangements of a script. Each step is about one part of the query; steps about different parts
may change places, and steps about the same part keep their order. What comes of a step depends on
the scope alone, and what it changes on its own part besides.

What is proved:
  1. `fst_attempt`: whether and why a step fails depends on the scope of the query alone.
  2. `only_build`: what a script leaves in a part is what its steps about the part leave.
  3. `build_of_rearranged`: a rearranged script has the same outcome at every step, and leaves the
     same query; the values of the joins go before those of WHERE wherever the joins were added.
-/

namespace SelectQuery

/-- The parts of a query that steps are about. -/
inductive Part where
  | projection
  | distinct
  | joins
  | wheres
  | groups
  | orders
  | limit
  | offset
  deriving DecidableEq

namespace QueryStep

/-- The part that a step is about. A step that cannot be read is about none. -/
def part? : QueryStep → Option Part
  | select _ => some .projection
  | distinct => some .distinct
  | join _ _ _ => some .joins
  | joinGroup _ _ _ _ => some .joins
  | filter _ => some .wheres
  | groupBy _ => some .groups
  | order _ _ => some .orders
  | limit _ => some .limit
  | offset _ => some .offset
  | misspelt _ => none

def isAbout (p : Part) (s : QueryStep) : Bool := s.part? = some p

end QueryStep

/-- The same steps in another order, where the steps about one part have kept theirs. -/
structure Rearranged (a b : List QueryStep) : Prop where
  perm : a.Perm b
  order : ∀ p : Part, a.filter (·.isAbout p) = b.filter (·.isAbout p)

namespace Query

/-- The steps of a script with what came of them: why a step failed, if it did. -/
def outcomes (q : Query) : List QueryStep → List (QueryStep × Option StepFailure)
  | [] => []
  | s :: rest => (s, (q.attempt s).1) :: (q.attempt s).2.outcomes rest

/-- What comes of a step depends on the scope alone. -/
theorem fst_attempt (q : Query) (s : QueryStep) :
    (q.attempt s).1 = (attempt { scope := q.scope } s).1 := by
  cases s with
  | join kind table on =>
    simp only [attempt, step, join]
    cases on.test ⟨table, q.scope.oracle⟩ <;> rfl
  | joinGroup kind table tolerant body =>
    simp only [attempt, step, joinGroup]
    cases ClauseStep.bodyConditions ⟨table, q.scope.oracle⟩ tolerant body <;> rfl
  | filter s =>
    simp only [attempt, step, Clause.step, whereClause]
    cases s.conditions q.scope <;> rfl
  | select _ | distinct | groupBy _ | order _ _ | limit _ | offset _ | misspelt _ => rfl

theorem outcomes_eq_map (q : Query) (script : List QueryStep) :
    q.outcomes script =
      script.map fun s => (s, (attempt { scope := q.scope } s).1) := by
  induction script generalizing q with
  | nil => rfl
  | cons s rest ih => rw [outcomes, ih, scope_attempt, fst_attempt, List.map_cons]

/-- The outcomes of the steps about a part are those of a script of these steps alone. -/
theorem filter_outcomes (q : Query) (p : Part) (script : List QueryStep) :
    (q.outcomes script).filter (·.1.isAbout p) = q.outcomes (script.filter (·.isAbout p)) := by
  rw [outcomes_eq_map, outcomes_eq_map, List.filter_map]
  rfl

/-! ## The parts of a query -/

theorem scope_build (q : Query) (script : List QueryStep) : (q.build script).scope = q.scope := by
  induction script generalizing q with
  | nil => rfl
  | cons s rest ih => exact (ih (q.attempt s).2).trans (scope_attempt q s)

/-- A query with the parts of another behind its own. Of two limits and of two offsets the later one
holds. -/
def extend (q r : Query) : Query where
  scope := q.scope
  distinct := q.distinct || r.distinct
  columns := q.columns ++ r.columns
  joins := q.joins ++ r.joins
  wheres := q.wheres ++ r.wheres
  groups := q.groups ++ r.groups
  orders := q.orders ++ r.orders
  limit := r.limit.or q.limit
  offset := r.offset.or q.offset

theorem extend_empty (q : Query) (scope : Scope) : q.extend { scope } = q := by
  simp [extend]

/-- What a step leaves of a query is the query and what the step leaves of an empty one. -/
theorem snd_attempt (q : Query) (s : QueryStep) :
    (q.attempt s).2 = q.extend (attempt { scope := q.scope } s).2 := by
  cases s with
  | join kind table on =>
    simp only [attempt, step, join]
    cases on.test ⟨table, q.scope.oracle⟩ with
    | error e => exact (extend_empty q q.scope).symm
    | ok t => simp [extend, Functor.map, Except.map, mapError_ok]
  | joinGroup kind table tolerant body =>
    simp only [attempt, step, joinGroup]
    cases ClauseStep.bodyConditions ⟨table, q.scope.oracle⟩ tolerant body with
    | error e => exact (extend_empty q q.scope).symm
    | ok on => simp [extend, Functor.map, Except.map]
  | filter s =>
    simp only [attempt, step, Clause.step, whereClause]
    cases s.conditions q.scope with
    | error e => exact (extend_empty q q.scope).symm
    | ok added => simp [extend, Except.map]
  | limit count =>
    rcases count with _ | n
    · exact (extend_empty q q.scope).symm
    · by_cases zero : n = 0 <;> simp [attempt, step, setLimit, extend, zero]
  | offset count => cases count <;> simp [attempt, step, setOffset, extend]
  | select _ | distinct | groupBy _ | order _ _ | misspelt _ =>
    simp [attempt, step, Query.select, extend]

/-- The query with one of its parts alone. -/
def only (p : Part) (q : Query) : Query :=
  match p with
  | .projection => { scope := q.scope, columns := q.columns }
  | .distinct => { scope := q.scope, distinct := q.distinct }
  | .joins => { scope := q.scope, joins := q.joins }
  | .wheres => { scope := q.scope, wheres := q.wheres }
  | .groups => { scope := q.scope, groups := q.groups }
  | .orders => { scope := q.scope, orders := q.orders }
  | .limit => { scope := q.scope, limit := q.limit }
  | .offset => { scope := q.scope, offset := q.offset }

theorem scope_only (p : Part) (q : Query) : (q.only p).scope = q.scope := by
  cases p <;> rfl

theorem only_extend (p : Part) (q r : Query) : (q.extend r).only p = (q.only p).extend (r.only p) := by
  cases p <;> simp [only, extend]

/-- A query is all of its parts. -/
theorem eq_of_only {q r : Query} (h : ∀ p, q.only p = r.only p) : q = r := by
  have projection := h .projection
  have distinct := h .distinct
  have joins := h .joins
  have wheres := h .wheres
  have groups := h .groups
  have orders := h .orders
  have limit := h .limit
  have offset := h .offset
  cases q
  cases r
  simp_all [only]

/-- A step leaves nothing in an empty query but in its own part. -/
theorem only_attempt_empty (scope : Scope) {p : Part} {s : QueryStep} (other : ¬ s.isAbout p) :
    (attempt { scope } s).2.only p = { scope } := by
  cases s with
  | join kind table on =>
    simp only [attempt, step, join]
    cases on.test ⟨table, scope.oracle⟩ with
    | error e => cases p <;> rfl
    | ok t => cases p <;> first | rfl | exact absurd rfl other
  | joinGroup kind table tolerant body =>
    simp only [attempt, step, joinGroup]
    cases ClauseStep.bodyConditions ⟨table, scope.oracle⟩ tolerant body with
    | error e => cases p <;> rfl
    | ok on => cases p <;> first | rfl | exact absurd rfl other
  | filter s =>
    simp only [attempt, step, Clause.step, whereClause]
    cases s.conditions scope with
    | error e => cases p <;> rfl
    | ok added => cases p <;> first | rfl | exact absurd rfl other
  | limit count =>
    rcases count with _ | n
    · cases p <;> rfl
    · by_cases zero : n = 0 <;> cases p <;>
        simp_all [attempt, step, setLimit, only, QueryStep.isAbout, QueryStep.part?]
  | offset count => cases count <;> cases p <;> first | rfl | exact absurd rfl other
  | misspelt _ => cases p <;> rfl
  | select _ | distinct | groupBy _ | order _ _ => cases p <;> first | rfl | exact absurd rfl other

/-- What a step leaves in a part depends on this part alone. -/
theorem only_attempt (p : Part) (q : Query) (s : QueryStep) :
    (q.attempt s).2.only p = ((q.only p).attempt s).2.only p := by
  have again : (q.only p).only p = q.only p := by cases p <;> rfl
  rw [snd_attempt q, snd_attempt (q.only p), only_extend, only_extend, scope_only, again]

/-- Steps about other parts leave a part alone. -/
theorem only_attempt_of_other {p : Part} {s : QueryStep} (other : ¬ s.isAbout p) (q : Query) :
    (q.attempt s).2.only p = q.only p := by
  rw [snd_attempt, only_extend, only_attempt_empty _ other, extend_empty]

/-- What a script leaves in a part is what its steps about the part leave. -/
theorem only_build (p : Part) (q : Query) (script : List QueryStep) :
    (q.build script).only p = (q.build (script.filter (·.isAbout p))).only p := by
  -- The two queries drift apart in the other parts, so they agree on this one alone.
  suffices ∀ q r : Query, q.only p = r.only p →
      (q.build script).only p = (r.build (script.filter (·.isAbout p))).only p from this q q rfl
  induction script with
  | nil => exact fun q r same => same
  | cons s rest ih =>
    intro q r same
    by_cases about : s.isAbout p
    · rw [List.filter_cons_of_pos about]
      apply ih (q.attempt s).2 (r.attempt s).2
      rw [only_attempt, same, ← only_attempt]
    · rw [List.filter_cons_of_neg about]
      apply ih (q.attempt s).2 r
      rw [only_attempt_of_other about, same]

/-- Without steps about a part, a script leaves it as it is. -/
theorem only_build_of_other {p : Part} {script : List QueryStep}
    (other : ∀ s ∈ script, ¬ s.isAbout p) (q : Query) : (q.build script).only p = q.only p := by
  have none : script.filter (·.isAbout p) = [] := List.filter_eq_nil_iff.2 other
  rw [only_build, none]
  rfl

/-- A query with the parts of a script about joins and about WHERE has its values, those of the
joins before those of WHERE. -/
theorem args_build (scope : Scope) (script : List QueryStep) :
    (build { scope } script).args = (build { scope } (script.filter (·.isAbout .joins))).args ++
      (build { scope } (script.filter (·.isAbout .wheres))).args := by
  have apart (p other : Part) (h : p ≠ other) :
      (build { scope } (script.filter (·.isAbout p))).only other = only other { scope } := by
    apply only_build_of_other
    intro s hs about
    have about' := (List.mem_filter.1 hs).2
    simp only [QueryStep.isAbout, decide_eq_true_eq] at about about'
    exact h (Option.some.inj (about'.symm.trans about))
  have joins := congrArg Query.joins (only_build .joins { scope } script)
  have wheres := congrArg Query.wheres (only_build .wheres { scope } script)
  have no_wheres := congrArg Query.wheres (apart .joins .wheres (by decide))
  have no_joins := congrArg Query.joins (apart .wheres .joins (by decide))
  simp only [only] at joins wheres no_wheres no_joins
  simp only [args, joins, wheres, no_wheres, no_joins, List.flatMap_nil, Condition.allValues,
    List.nil_append, List.append_nil]

/-- A rearranged script leaves the same query, whatever query it starts from, and hence the same
text, values, literal form and statement; and each of its steps has the same outcome. In place or
not, it does so. The values of a query are those that its joins bind and then those that WHERE
binds, whichever of the two was built first. -/
theorem build_of_rearranged (q : Query) {a b : List QueryStep} (h : Rearranged a b) :
    ((q.outcomes a).Perm (q.outcomes b) ∧
      ∀ p : Part, (q.outcomes a).filter (·.1.isAbout p) =
        (q.outcomes b).filter (·.1.isAbout p)) ∧
    q.build a = q.build b ∧ QueryDraft.build q.draft a = QueryDraft.build q.draft b ∧
    ((q.build a).text = (q.build b).text ∧ (q.build a).args = (q.build b).args ∧
      (q.build a).sql = (q.build b).sql ∧ (q.build a).statement = (q.build b).statement) ∧
    ∀ scope, (build { scope } a).args = (build { scope } (b.filter (·.isAbout .joins))).args ++
      (build { scope } (b.filter (·.isAbout .wheres))).args := by
  have same : q.build a = q.build b := by
    apply eq_of_only
    intro p
    rw [only_build p q a, only_build p q b, h.order]
  refine ⟨⟨?_, ?_⟩, same, ?_, ?_, ?_⟩
  · rw [outcomes_eq_map, outcomes_eq_map]
    exact h.perm.map _
  · intro p
    rw [filter_outcomes, filter_outcomes, h.order]
  · rw [QueryDraft.build_draft, QueryDraft.build_draft, same]
  · rw [same]
    exact ⟨rfl, rfl, rfl, rfl⟩
  · intro scope
    rw [args_build, h.order, h.order]

/-- The joins of a query may come behind its conditions, its projection and its order. -/
theorem build_of_joins_last :
    let parts : List QueryStep :=
      [.filter (.add .and (.compare "active" .eq (.bool true))), .select ["name"],
        .order "name" .desc, .filter (.add .or (.oneOf "id" false [.int 1, .int 2]))]
    let joins : List QueryStep :=
      [.join .left "roles" (.value "level" .ge (.int 3)),
        .joinGroup .plain "teams" true [.add .and (.compare "size" .lt (.int 4)), .fail]]
    let first := build { scope := ⟨"users", none⟩ } (joins ++ parts)
    let last := build { scope := ⟨"users", none⟩ } (parts ++ joins)
    Rearranged (parts ++ joins) (joins ++ parts) ∧ last.text = first.text ∧ last.sql = first.sql ∧
      last.args = [.int 3, .int 4, .bool true, .int 1, .int 2] := by
  intro parts joins first last
  have moved : Rearranged (parts ++ joins) (joins ++ parts) := by
    constructor
    · exact List.perm_append_comm
    · intro p
      cases p <;> rfl
  obtain ⟨_, _, _, ⟨text, _, sql, _⟩, args⟩ :=
    build_of_rearranged { scope := ⟨"users", none⟩ } moved
  refine ⟨moved, text, sql, ?_⟩
  rw [args]
  rfl

end Query

end SelectQuery
