import SelectQuery.Proofs.Simulation
import SelectQuery.Proofs.Strict

/-!
A schema only rejects. A script all of whose steps succeed with a schema has the same query without
one, but for one decision: whether a text that looks like a column is a column. With a schema it is
one if the column is declared, without a schema it always is.

What is proved:
  1. `test?_guessed`, `joinTest_guessed`: a test that passes the checks of an oracle passes without
     them, and then every value that looks like a column is one.
  2. `declared_of_test`: if such values are declared columns, the two tests are the same.
  3. `passes_of_trails`: if all steps of a script succeed, at any depth, all of its tests pass.
  4. `schema_only_rejects`: such a script succeeds without a schema and leaves the same query.
-/

namespace SelectQuery

/-! ## What no oracle knows better -/

/-- The operand where no oracle says which texts are columns: every path is one. -/
def Operand.guessed : Operand → Operand
  | value v => match v.namedColumn? none with
    | some path => column path
    | none => value v
  | column path => column path

/-- The test where no oracle says which of the texts that columns are compared with are columns. -/
def Test.guessed : Test → Test
  | compare column op operand => compare column op operand.guessed
  | t => t

/-- The schema declares the column that the value names, if the value is a path. -/
def Value.Declared (schema : Schema) (v : Value) : Prop :=
  ∀ s, v = .text s → isPath s.toList → (schema.declaredAt s).isSome

/-- The values that columns are compared with in a request. -/
def Request.comparands : Request → List Value
  | compare _ _ v => [v]
  | _ => []

def ClauseStep.comparands (s : ClauseStep) : List Value := s.requests.flatMap Request.comparands

def QueryStep.comparands : QueryStep → List Value
  | join _ _ on => on.operands
  | joinGroup _ _ _ body => (ClauseStep.allRequests body).flatMap Request.comparands
  | filter s => s.comparands
  | _ => []

/-- Every step of the script succeeds on a query in the scope, and so does every step in it. -/
def QueryStep.Accepted (scope : Scope) (script : List QueryStep) : Prop :=
  Trail.AllIn (· = none) (Query.trails id { scope } script)

instance (scope : Scope) (script : List QueryStep) : Decidable (QueryStep.Accepted scope script) :=
  inferInstanceAs (Decidable (Trail.AllIn _ _))

namespace Scope

section Guessed

variable {s : Scope} {column path : String}

theorem locate_free (h : s.locate column = .ok path) :
    Scope.locate ⟨s.table, none⟩ column = .ok path := by
  rw [locate_eq_ok h]
  rfl

theorem checkValues_free (table path : String) (values : List Value) :
    Scope.checkValues ⟨table, none⟩ path values = .ok () := by
  induction values with
  | nil => rfl
  | cons v rest ih => exact ih

/-- A column that an oracle finds in a value is found there without one. -/
theorem namedColumn_free {v : Value} {other : String} (h : v.namedColumn? s.oracle = some other) :
    v.namedColumn? none = some other := by
  unfold Value.namedColumn? at h ⊢
  grind

theorem operand_free {v : Value} {o : Operand} (h : s.operand path v = .ok o) (table : String) :
    Scope.operand ⟨table, none⟩ path v = .ok o.guessed := by
  unfold operand
  rcases operand_eq_ok h with ⟨other, named, rfl⟩ | ⟨-, rfl⟩
  · rw [namedColumn_free named]
    rfl
  · rw [Operand.guessed]
    cases v.namedColumn? none <;> rfl

theorem valueTest_guessed {op : Operator} {v : Value} {t : Test}
    (h : s.valueTest column op v = .ok t) :
    Scope.valueTest ⟨s.table, none⟩ column op v = .ok t.guessed := by
  simp only [valueTest, bind_eq_ok, pure_eq_ok] at h
  obtain ⟨path, found, operand, passed, rfl⟩ := h
  rw [valueTest, locate_free found]
  simp only [bind, Except.bind, operand_free passed]
  rfl

theorem checked_free {α : Type} (values : List Value) {test : String → α} {a : α}
    (h : s.checked column values test = .ok a) :
    Scope.checked ⟨s.table, none⟩ column values test = .ok a ∧ ∃ path, a = test path := by
  simp only [checked, bind_eq_ok, pure_eq_ok] at h
  obtain ⟨path, found, _, _, rfl⟩ := h
  refine ⟨?_, path, rfl⟩
  rw [checked, locate_free found]
  simp only [bind, Except.bind, checkValues_free]
  rfl

/-- A test that passes the checks of a scope passes without them, with every path as a column. -/
theorem test?_guessed {r : Request} {t? : Option Test} (h : s.test? r = .ok t?) :
    Scope.test? ⟨s.table, none⟩ r = .ok (t?.map Test.guessed) := by
  -- Only a comparison guesses; the other tests bind their values in both scopes.
  cases r with
  | compare column op v =>
    simp only [test?, map_eq_ok] at h
    obtain ⟨t, passed, rfl⟩ := h
    rw [test?, valueTest_guessed passed]
    rfl
  | oneOf column negated values =>
    cases values with
    | nil =>
      simp only [test?, pure_eq_ok] at h
      rw [← h]
      rfl
    | cons v rest =>
      obtain ⟨free, path, rfl⟩ := checked_free _ h
      exact free
  | between column negated low high =>
    obtain ⟨free, path, rfl⟩ := checked_free [low, high] h
    exact free
  | isNull column negated =>
    obtain ⟨free, path, rfl⟩ := checked_free [] h
    exact free

theorem joinTest_guessed {on : JoinCondition} {t : Test} (h : on.test s = .ok t) :
    on.test ⟨s.table, none⟩ = .ok t.guessed := by
  cases on with
  | value column op v => exact valueTest_guessed h
  | columns column op table other =>
    simp only [JoinCondition.test, columnTest, bind_eq_ok, pure_eq_ok] at h
    obtain ⟨path, found, _, _, rfl⟩ := h
    rw [JoinCondition.test, columnTest, locate_free found]
    rfl

end Guessed

section Declared

variable {schema : Schema} {table column : String}

theorem guessed_of_declared {path : String} {v : Value} {o : Operand} (declared : v.Declared schema)
    (h : (strict schema table).operand path v = .ok o) : o.guessed = o := by
  rcases operand_eq_ok h with ⟨other, -, rfl⟩ | ⟨unnamed, rfl⟩
  · rfl
  · -- A path that is declared would be a column, so the value is no path.
    have free : v.namedColumn? none = none := by
      rw [namedColumn_strict] at unnamed
      cases v with
      | text s =>
        have known := declared s rfl
        simp only [Value.reference?] at unnamed
        simp only [Value.namedColumn?, Value.content?]
        grind
      | _ => rfl
    rw [Operand.guessed, free]

theorem valueTest_declared {op : Operator} {v : Value} {t : Test} (declared : v.Declared schema)
    (h : (strict schema table).valueTest column op v = .ok t) : t.guessed = t := by
  simp only [valueTest, bind_eq_ok, pure_eq_ok] at h
  obtain ⟨path, -, operand, passed, rfl⟩ := h
  rw [Test.guessed, guessed_of_declared declared passed]

/-- If the columns that values name are declared, no test guesses. -/
theorem declared_of_test {r : Request} {t : Test}
    (declared : ∀ v ∈ r.comparands, v.Declared schema)
    (h : (strict schema table).test? r = .ok (some t)) : t.guessed = t := by
  cases r with
  | compare column op v =>
    simp only [test?, map_eq_ok, Option.some.injEq] at h
    obtain ⟨t, passed, rfl⟩ := h
    exact valueTest_declared (declared v (List.mem_singleton_self v)) passed
  | oneOf column negated values =>
    cases values with
    | nil => simp [test?, pure, Except.pure] at h
    | cons v rest =>
      obtain ⟨-, path, made⟩ := checked_free _ h
      rw [Option.some.inj made]
      rfl
  | between column negated low high =>
    obtain ⟨-, path, made⟩ := checked_free [low, high] h
    rw [Option.some.inj made]
    rfl
  | isNull column negated =>
    obtain ⟨-, path, made⟩ := checked_free [] h
    rw [Option.some.inj made]
    rfl

theorem declared_of_joinTest {on : JoinCondition} {t : Test}
    (declared : ∀ v ∈ on.operands, v.Declared schema)
    (h : on.test (strict schema table) = .ok t) : t.guessed = t := by
  cases on with
  | value column op v => exact valueTest_declared (declared v (List.mem_singleton_self v)) h
  | columns column op table other =>
    simp only [JoinCondition.test, columnTest, bind_eq_ok, pure_eq_ok] at h
    obtain ⟨_, _, _, _, rfl⟩ := h
    rfl

end Declared

end Scope

/-! ## Requests of accepted scripts -/

namespace ClauseStep

variable {scope : Scope}

theorem failure?_eq_none {s : ClauseStep} :
    s.failure? scope = none ↔ ∃ added, s.conditions scope = .ok added := by
  unfold failure?
  cases s.conditions scope <;> simp

mutual

/-- If a step and the steps in it succeed, all requests of the step pass the checks. -/
theorem passed_of_trail : (s : ClauseStep) → (s.trail id scope).All (· = none) →
    ∀ r ∈ s.requests, ∃ t?, scope.test? r = .ok t?
  | add link request, accepted, r, hr => by
    obtain rfl := List.mem_singleton.1 hr
    have success : (add link r).failure? scope = none := accepted.1
    obtain ⟨added, h⟩ := failure?_eq_none.1 success
    rw [conditions] at h
    cases passed : scope.test? r with
    | ok t? => exact ⟨t?, rfl⟩
    | error e => simp [passed] at h
  | group link tolerant body, accepted, r, hr => by
    rw [trail] at accepted
    exact passed_of_bodyTrails tolerant body accepted.2 r hr

theorem passed_of_bodyTrails (tolerant : Bool) : (body : List ClauseStep) →
    Trail.AllIn (· = none) (bodyTrails id scope tolerant body) →
    ∀ r ∈ allRequests body, ∃ t?, scope.test? r = .ok t?
  | s :: rest, accepted, r, hr => by
    rw [bodyTrails] at accepted
    obtain ⟨here, later⟩ := accepted
    have success : s.failure? scope = none := by
      rw [Query.trail_eq] at here
      exact here.1
    rw [success] at later
    rcases List.mem_append.1 hr with hr | hr
    · exact passed_of_trail s here r hr
    · exact passed_of_bodyTrails tolerant rest later r hr

end

end ClauseStep

namespace QueryStep

/-- The requests of a step pass the checks of the scope. -/
def Passes (scope : Scope) : QueryStep → Prop
  | join _ table on => ∃ t, on.test { scope with table } = .ok t
  | joinGroup _ table _ body =>
    ∀ r ∈ ClauseStep.allRequests body, ∃ t?, Scope.test? { scope with table } r = .ok t?
  | filter s => ∀ r ∈ s.requests, ∃ t?, scope.test? r = .ok t?
  | _ => True

theorem passes_of_attempt {q : Query} {s : QueryStep} (outer : (q.attempt s).1 = none)
    (inner : Trail.AllIn (· = none) (s.innerTrails id q.scope)) : s.Passes q.scope := by
  cases s with
  | join kind table on =>
    rw [Query.attempt_join] at outer
    cases made : on.test ⟨table, q.scope.oracle⟩ with
    | ok t => exact ⟨t, made⟩
    | error e =>
      rw [made] at outer
      cases outer
  | joinGroup kind table tolerant body => exact ClauseStep.passed_of_bodyTrails tolerant body inner
  | filter s =>
    rw [Query.attempt_filter] at outer
    apply ClauseStep.passed_of_trail s
    rw [Query.trail_eq]
    exact ⟨outer, inner⟩
  | select _ | distinct | groupBy _ | order _ _ | limit _ | offset _ | misspelt _ => trivial

/-- If all steps of a script succeed, at any depth, all of its requests pass the checks. -/
theorem passes_of_trails {q : Query} {script : List QueryStep}
    (accepted : Trail.AllIn (· = none) (q.trails id script)) : ∀ s ∈ script, s.Passes q.scope := by
  induction script generalizing q with
  | nil => exact fun _ h => absurd h List.not_mem_nil
  | cons first rest ih =>
    rw [Query.trails] at accepted
    obtain ⟨⟨outer, inner⟩, later⟩ := accepted
    intro s hs
    rcases List.mem_cons.1 hs with rfl | hs
    · exact passes_of_attempt outer inner
    · rw [← Query.scope_attempt q first]
      exact ih later s hs

theorem answered_of_passes {scope : Scope} {s : QueryStep} (passes : s.Passes scope) :
    s.Answered Eq Test.guessed scope none := by
  have asked {scope : Scope} {r : Request} (h : ∃ t?, scope.test? r = .ok t?) :
      r.Answered Eq Test.guessed scope ⟨scope.table, none⟩ := by
    obtain ⟨t?, passed⟩ := h
    rw [Request.Answered, passed, Scope.test?_guessed passed]
    exact .ok t?
  cases s with
  | join kind table on =>
    obtain ⟨t, passed⟩ := passes
    rw [Answered, passed, Scope.joinTest_guessed passed]
    exact .ok t
  | joinGroup kind table tolerant body => exact fun r hr => asked (passes r hr)
  | filter s => exact fun r hr => asked (passes r hr)
  | select _ | distinct | groupBy _ | order _ _ | limit _ | offset _ | misspelt _ => trivial

/-- If the columns that values name are declared, the requests that pass are answered the same
without a schema. -/
theorem answered_of_declared {schema : Schema} {table : String} {s : QueryStep}
    (passes : s.Passes (.strict schema table)) (declared : ∀ v ∈ s.comparands, v.Declared schema) :
    s.Answered Eq id (.strict schema table) none := by
  have asked {table : String} {r : Request}
      (h : ∃ t?, Scope.test? (.strict schema table) r = .ok t?)
      (declared : ∀ v ∈ r.comparands, v.Declared schema) :
      r.Answered Eq id (.strict schema table) ⟨table, none⟩ := by
    obtain ⟨t?, passed⟩ := h
    have same : t?.map Test.guessed = t?.map id := by
      cases t? with
      | none => rfl
      | some t => exact congrArg some (Scope.declared_of_test declared passed)
    have free := Scope.test?_guessed passed
    rw [same] at free
    rw [Request.Answered, passed, free]
    exact .ok t?
  cases s with
  | join kind table on =>
    obtain ⟨t, passed⟩ := passes
    have free := Scope.joinTest_guessed passed
    rw [Scope.declared_of_joinTest declared passed] at free
    rw [Answered, passed, free]
    exact .ok t
  | joinGroup kind table tolerant body =>
    exact fun r hr => asked (passes r hr) fun v hv =>
      declared v (List.mem_flatMap.2 ⟨r, hr, hv⟩)
  | filter s =>
    exact fun r hr => asked (passes r hr) fun v hv =>
      declared v (List.mem_flatMap.2 ⟨r, hr, hv⟩)
  | select _ | distinct | groupBy _ | order _ _ | limit _ | offset _ | misspelt _ => trivial

end QueryStep

/-! ## Scripts -/

/-- A schema only rejects. A script all of whose steps succeed with a schema, at any depth, succeeds
so without one, and leaves the same query but that every value that looks like a column is one. If
the schema declares the columns that such values name, the two queries are the same: their joins,
the fragments and values of WHERE, their text, their values and their literal form. -/
theorem schema_only_rejects (schema : Schema) (table : String) (script : List QueryStep)
    (accepted : QueryStep.Accepted (.strict schema table) script) :
    QueryStep.Accepted ⟨table, none⟩ script ∧
    Query.build { scope := ⟨table, none⟩ } script =
      (Query.build { scope := .strict schema table } script).under none Test.guessed ∧
    ((∀ s ∈ script, ∀ v ∈ s.comparands, v.Declared schema) →
      QueryDraft.Same (QueryDraft.build { scope := ⟨table, none⟩ } script)
        (QueryDraft.build { scope := .strict schema table } script)) := by
  have passes := QueryStep.passes_of_trails accepted
  obtain ⟨trails, built⟩ := Query.build_follow { scope := .strict schema table } script
    fun s hs => QueryStep.answered_of_passes (passes s hs)
  refine ⟨?_, built, ?_⟩
  · refine Trail.allIn_of_matches ?_ _ trails accepted
    rintro _ _ outcome rfl
    cases outcome
    rfl
  · intro declared
    exact Query.build_same fun s hs => QueryStep.answered_of_declared (passes s hs) (declared s hs)

/-- A script with a join on a column that is named by a text, and a group. -/
theorem schema_only_rejects_named_column :
    let schema := (Schema.empty.table "users" [("id", .number), ("name", .string)]).table "teams"
      [("owner", .number)]
    let script : List QueryStep :=
      [.join .left "teams" (.value "owner" .eq (.text "users.id")),
        .filter (.group .and false [.add .and (.compare "name" .eq (.text "Ann")),
          .add .or (.oneOf "id" true [.int 1, .int 2])]),
        .limit (some 5)]
    let strict := QueryDraft.build { scope := .strict schema "users" } script
    let free := QueryDraft.build { scope := ⟨"users", none⟩ } script
    QueryStep.Accepted ⟨"users", none⟩ script ∧ free.text = strict.text ∧
      strict.joins.map JoinDraft.sql = ["LEFT JOIN teams ON teams.owner = users.id"] ∧
      free.wheres.fragments = ["(users.name = ? OR users.id NOT IN (?, ?))"] := by
  intro schema script strict free
  have accepted : QueryStep.Accepted (.strict schema "users") script := by decide +kernel
  have comparands : script.flatMap QueryStep.comparands = [.text "users.id", .text "Ann"] := rfl
  have declared : ∀ s ∈ script, ∀ v ∈ s.comparands, v.Declared schema := by
    intro s hs v hv content text path
    have named := List.mem_flatMap.2 ⟨s, hs, hv⟩
    rw [comparands, text] at named
    rcases List.mem_pair.1 named with h | h
    · rw [Value.text.inj h]
      rfl
    · rw [Value.text.inj h] at path
      exact absurd path (by decide)
  obtain ⟨free_accepted, -, same⟩ := schema_only_rejects schema "users" script accepted
  refine ⟨free_accepted, (same declared).text, by decide +kernel, ?_⟩
  rw [(same declared).fragments]
  decide +kernel

end SelectQuery
