import SelectQuery.Proofs.Script

/-!
Strict mode: a query with a schema takes a test if and only if the test is well typed.

What is proved:
  1. `refusal?_eq_none`, `refusal?_eq_some`: the verdict on a test is none if and only if the test
     is well typed, and otherwise names what is wrong with it.
  2. `test?_strict`, `test_strict`: what a caller asks for goes through that verdict, whether as a
     step of a clause or as the condition of a join.
  3. `strict_mode`: each such step succeeds if and only if its test is well typed, and every test of
     every query that a script builds is.
-/

namespace SelectQuery

/-! ## Well-typed tests -/

namespace Test

def column : Test → String
  | compare column _ _ => column
  | oneOf column _ _ => column
  | between column _ _ _ => column
  | isNull column _ => column

/-- The column that the tested one is compared with, if it is compared with a column. -/
def other? : Test → Option String
  | compare _ _ (.column path) => some path
  | _ => none

/-- A test whose columns exist, whose values are accepted by the type of the tested column as it was
declared, and whose columns are comparable. -/
def WellTyped (schema : Schema) (t : Test) : Prop :=
  ∃ type, schema.declaredAt t.column = some type ∧
    (∀ v ∈ t.values, type.accepts v) ∧
    ∀ other ∈ t.other?, ∃ type', schema.declaredAt other = some type' ∧ type.comparable type'

/-- What is wrong with a test: the first of the following that applies. -/
inductive Refused (schema : Schema) (t : Test) : QueryFailure → Prop where
  /-- The tested column does not exist. -/
  | column (missing : schema.declaredAt t.column = none) :
    Refused schema t (.unknownColumn t.column)
  /-- The other column does not exist. -/
  | other {type : ColumnType} {path : String} (declared : schema.declaredAt t.column = some type)
    (compared : t.other? = some path) (missing : schema.declaredAt path = none) :
    Refused schema t (.unknownColumn path)
  /-- The columns are not comparable. -/
  | types {type type' : ColumnType} {path : String}
    (declared : schema.declaredAt t.column = some type) (compared : t.other? = some path)
    (declared' : schema.declaredAt path = some type') (apart : ¬ type.comparable type') :
    Refused schema t (.typeMismatch t.column type.text type'.text)
  /-- A value is not accepted, and it is the first of them. -/
  | value {type : ColumnType} {before after : List Value} {v : Value}
    (declared : schema.declaredAt t.column = some type) (bound : t.values = before ++ v :: after)
    (accepted : ∀ w ∈ before, type.accepts w) (rejected : ¬ type.accepts v) :
    Refused schema t (.typeMismatch t.column type.text v.kindName)

/-- The verdict on a test. -/
def refusal? (schema : Schema) (t : Test) : Option QueryFailure :=
  match schema.declaredAt t.column with
  | none => some (.unknownColumn t.column)
  | some type => match t.other? with
    | some path => match schema.declaredAt path with
      | none => some (.unknownColumn path)
      | some type' =>
        if type.comparable type' then none else some (.typeMismatch t.column type.text type'.text)
    -- The values are checked in order, so the first that is not accepted counts.
    | none => (t.values.find? fun v => !type.accepts v).map fun v =>
      .typeMismatch t.column type.text v.kindName

/-- A test that compares columns binds no values. -/
theorem values_of_other {t : Test} {path : String} (h : t.other? = some path) : t.values = [] := by
  unfold other? at h
  split at h
  · rfl
  · cases h

section Verdict

variable {schema : Schema} {t : Test}

theorem refusal?_eq_none : t.refusal? schema = none ↔ t.WellTyped schema := by
  unfold refusal? WellTyped
  cases declared : schema.declaredAt t.column with
  | none => simp
  | some type =>
    cases compared : t.other? with
    | none => simp [List.find?_eq_none]
    | some path =>
      have none_bound := values_of_other compared
      cases declared' : schema.declaredAt path with
      | none => simp [declared']
      | some type' => simp [declared', none_bound]

theorem refusal?_eq_some {e : QueryFailure} : t.refusal? schema = some e ↔ t.Refused schema e := by
  constructor
  · intro h
    unfold refusal? at h
    cases declared : schema.declaredAt t.column with
    | none =>
      simp only [declared, Option.some.injEq] at h
      exact h ▸ .column declared
    | some type =>
      cases compared : t.other? with
      | none =>
        simp only [declared, compared, Option.map_eq_some_iff] at h
        obtain ⟨v, found, rfl⟩ := h
        obtain ⟨rejected, before, after, bound, accepted⟩ := List.find?_eq_some_iff_append.1 found
        refine .value declared bound ?_ (by simpa using rejected)
        intro w hw
        simpa using accepted w hw
      | some path =>
        cases declared' : schema.declaredAt path with
        | none =>
          simp only [declared, compared, declared', Option.some.injEq] at h
          exact h ▸ .other declared compared declared'
        | some type' =>
          by_cases apart : type.comparable type'
          · simp [declared, compared, declared', apart] at h
          · simp only [declared, compared, declared', apart] at h
            obtain rfl := Option.some.inj h
            exact .types declared compared declared' apart
  · intro h
    unfold refusal?
    cases h with
    | column missing => simp [missing]
    | other declared compared missing => simp [declared, compared, missing]
    | types declared compared declared' apart => simp [declared, compared, declared', apart]
    | value declared bound accepted rejected =>
      -- A test that binds a value is not one that compares columns.
      have compared : t.other? = none := by
        cases compared : t.other? with
        | none => rfl
        | some path =>
          have none_bound := values_of_other compared
          rw [bound] at none_bound
          exact absurd none_bound (by simp)
      have first : t.values.find? (fun v => !ColumnType.accepts _ v) = some _ :=
        List.find?_eq_some_iff_append.2
          ⟨by simpa using rejected, _, _, bound, fun w hw => by simpa using accepted w hw⟩
      simp [declared, compared, first]

end Verdict

end Test

/-! ## What a caller asks for -/

/-- The column that a value refers to: its text, if that is a path of a declared column. -/
def Value.reference? (schema : Schema) : Value → Option String
  | text s => if isPath s.toList && (schema.declaredAt s).isSome then some s else none
  | _ => none

/-- A value as an operand: the column that it refers to, or else the value itself. -/
def Value.operand (schema : Schema) (v : Value) : Operand :=
  match v.reference? schema with
  | some path => .column path
  | none => .value v

/-- The test that a caller asks for, whether or not it is well typed. An empty list of values asks
for none. -/
def Request.intended? (schema : Schema) (table : String) : Request → Option Test
  | compare column op v => some (.compare (Column.qualified column table) op (v.operand schema))
  | oneOf _ _ [] => none
  | oneOf column negated values => some (.oneOf (Column.qualified column table) negated values)
  | between column negated low high =>
    some (.between (Column.qualified column table) negated low high)
  | isNull column negated => some (.isNull (Column.qualified column table) negated)

/-- The test of the condition of a join, whether or not it is well typed. -/
def JoinCondition.intended (schema : Schema) (table : String) : JoinCondition → Test
  | value column op v => .compare (Column.qualified column table) op (v.operand schema)
  | columns column op table' other =>
    .compare (Column.qualified column table) op (.column (Column.qualified other table'))

namespace Scope

abbrev strict (schema : Schema) (table : String) : Scope := ⟨table, some (.ofSchema schema)⟩

section Strict

variable (schema : Schema) (table : String)

theorem isSome_typeAt (path : String) :
    (schema.typeAt path).isSome = (schema.declaredAt path).isSome := by
  rw [Schema.typeAt, Option.isSome_map]

theorem namedColumn_strict (v : Value) :
    v.namedColumn? (strict schema table).oracle = v.reference? schema := by
  cases v with
  | text s =>
    unfold Value.namedColumn? Value.reference?
    simp only [Value.content?, Oracle.ofSchema, isSome_typeAt]
    cases isPath s.toList <;> simp
  | _ => rfl

theorem locate_strict (column : String) :
    (strict schema table).locate column =
      match schema.declaredAt (Column.qualified column table) with
      | none => .error (.unknownColumn (Column.qualified column table))
      | some _ => .ok (Column.qualified column table) := by
  unfold locate
  simp only [Oracle.ofSchema, isSome_typeAt]
  cases schema.declaredAt (Column.qualified column table) <;> rfl

variable {schema} {type : ColumnType} {path : String}

theorem checkValue_strict (declared : schema.declaredAt path = some type) (v : Value) :
    (strict schema table).checkValue path v =
      if type.accepts v then .ok () else .error (.typeMismatch path type.text v.kindName) := by
  unfold checkValue
  simp only [Oracle.ofSchema, Schema.allows, declared, Option.any_some]

/-- Of several values the first that is not accepted is refused. -/
theorem checkValues_strict (declared : schema.declaredAt path = some type) (values : List Value) :
    (strict schema table).checkValues path values =
      match values.find? fun v => !type.accepts v with
      | none => .ok ()
      | some v => .error (.typeMismatch path type.text v.kindName) := by
  induction values with
  | nil => rfl
  | cons v rest ih =>
    rw [checkValues, checkValue_strict table declared, List.find?_cons]
    cases type.accepts v with
    | true => exact ih
    | false => rfl

theorem checkColumns_strict (declared : schema.declaredAt path = some type) (other : String) :
    (strict schema table).checkColumns path other =
      match schema.declaredAt other with
      | none => .error (.unknownColumn other)
      | some type' =>
        if type.comparable type' then .ok ()
        else .error (.typeMismatch path type.text type'.text) := by
  unfold checkColumns
  simp only [Oracle.ofSchema, declared]
  cases schema.declaredAt other <;> rfl

end Strict

/-- What comes of a request, given the test that it asks for. -/
def verdict (schema : Schema) (t : Test) : Except QueryFailure Test :=
  match t.refusal? schema with
  | none => .ok t
  | some e => .error e

section Verdict

variable (schema : Schema) (table : String)

theorem valueTest_strict (column : String) (op : Operator) (v : Value) :
    (strict schema table).valueTest column op v =
      verdict schema (.compare (Column.qualified column table) op (v.operand schema)) := by
  unfold valueTest verdict Test.refusal? operand Value.operand
  rw [locate_strict, namedColumn_strict]
  cases declared : schema.declaredAt (Column.qualified column table) with
  | none => simp [Test.column, declared, bind, Except.bind]
  | some type =>
    cases referred : v.reference? schema with
    | none =>
      simp only [bind, Except.bind, checkValue_strict table declared, Test.column, declared,
        Test.other?, Test.values, Operand.values, List.find?_singleton]
      cases type.accepts v <;> rfl
    | some other =>
      simp only [bind, Except.bind, checkColumns_strict table declared, Test.column, declared,
        Test.other?]
      cases declared' : schema.declaredAt other with
      | none => simp
      | some type' =>
        cases comparable : type.comparable type' with
        | false =>
          simp [comparable]
        | true =>
          simp [comparable]
          rfl

theorem columnTest_strict (column : String) (op : Operator) (other : String) :
    (strict schema table).columnTest column op other =
      verdict schema (.compare (Column.qualified column table) op (.column other)) := by
  unfold columnTest verdict Test.refusal?
  rw [locate_strict]
  cases declared : schema.declaredAt (Column.qualified column table) with
  | none => simp [Test.column, declared, bind, Except.bind]
  | some type =>
    simp only [bind, Except.bind, checkColumns_strict table declared, Test.column, declared,
      Test.other?]
    cases declared' : schema.declaredAt other with
    | none => simp
    | some type' =>
      cases comparable : type.comparable type' with
      | false =>
        simp [comparable]
      | true =>
        simp [comparable]
        rfl

/-- Several values of one column are refused as the test that binds them all. -/
theorem checkValues_verdict (column : String) (values : List Value) (test : String → Test)
    (tested : ∀ path, (test path).column = path) (bound : ∀ path, (test path).values = values)
    (alone : ∀ path, (test path).other? = none) :
    (do
      let path ← (strict schema table).locate column
      (strict schema table).checkValues path values
      return some (test path)) =
        (verdict schema (test (Column.qualified column table))).map some := by
  unfold verdict Test.refusal?
  rw [locate_strict, tested, bound, alone]
  cases declared : schema.declaredAt (Column.qualified column table) with
  | none => rfl
  | some type =>
    simp only [bind, Except.bind, checkValues_strict table declared]
    cases values.find? fun v => !type.accepts v <;> rfl

/-- What a caller asks for goes through the verdict on the test, if it asks for one. -/
theorem test?_strict (r : Request) :
    (strict schema table).test? r = match r.intended? schema table with
      | none => .ok none
      | some t => (verdict schema t).map some := by
  cases r with
  | compare column op v =>
    rw [test?, valueTest_strict]
    rfl
  | oneOf column negated values =>
    cases values with
    | nil => rfl
    | cons v rest =>
      exact checkValues_verdict schema table column (v :: rest) (.oneOf · negated (v :: rest))
        (fun _ => rfl) (fun _ => rfl) fun _ => rfl
  | between column negated low high =>
    exact checkValues_verdict schema table column [low, high] (.between · negated low high)
      (fun _ => rfl) (fun _ => rfl) fun _ => rfl
  | isNull column negated =>
    have tested : (Test.isNull (Column.qualified column table) negated).column =
        Column.qualified column table := rfl
    show _ = (verdict schema (.isNull (Column.qualified column table) negated)).map some
    rw [test?, locate_strict]
    unfold verdict Test.refusal?
    rw [tested]
    cases schema.declaredAt (Column.qualified column table) <;> rfl

/-- The condition of a join goes through the verdict on its test. -/
theorem test_strict (on : JoinCondition) :
    on.test (strict schema table) = verdict schema (on.intended schema table) := by
  cases on with
  | value column op v => exact valueTest_strict schema table column op v
  | columns column op table' other =>
    exact columnTest_strict schema table column op (Column.qualified other table')

end Verdict

end Scope

/-- What has to come of a step that asks for a test, or for none: it succeeds if and only if the
test is well typed, and it fails with what is wrong with the test. -/
structure Judged {α : Type} (schema : Schema) (asked : Option Test)
    (outcome : Except StepFailure α) : Prop where
  success : (∃ a, outcome = .ok a) ↔ ∀ t ∈ asked, t.WellTyped schema
  failure : ∀ e, outcome = .error e ↔ ∃ t ∈ asked, ∃ f, t.Refused schema f ∧ e = .query f

namespace Judged

variable {α β : Type} {schema : Schema} {asked : Option Test}

/-- Without a test there is nothing to fail. -/
theorem none {a : α} : Judged schema none (.ok a) where
  success := by simp
  failure e := by simp

/-- The verdict on a test is what has to come of it. -/
theorem verdict (t : Test) (f : Test → α) :
    Judged schema (some t) (((Scope.verdict schema t).map f).mapError .query) := by
  unfold Scope.verdict
  cases refusal : t.refusal? schema with
  | none =>
    have typed := Test.refusal?_eq_none.1 refusal
    have sound {e : QueryFailure} : ¬ t.Refused schema e := fun refused => by
      rw [← Test.refusal?_eq_some, refusal] at refused
      cases refused
    show Judged schema (some t) (.ok (f t))
    exact ⟨by simp [typed], fun e => by simp [sound]⟩
  | some e =>
    have refused := Test.refusal?_eq_some.1 refusal
    have untyped : ¬ t.WellTyped schema := by
      rw [← Test.refusal?_eq_none, refusal]
      exact Option.some_ne_none e
    have only {e' : QueryFailure} : t.Refused schema e' ↔ e' = e := by
      rw [← Test.refusal?_eq_some, refusal, Option.some.injEq, eq_comm]
    show Judged schema (some t) (.error (.query e))
    exact ⟨by simp [untyped], fun e' => by simp [only, eq_comm]⟩

theorem map {outcome : Except StepFailure α} (h : Judged schema asked outcome) (f : α → β) :
    Judged schema asked (outcome.map f) where
  success := by
    rw [← h.success]
    cases outcome <;> simp [Except.map]
  failure e := by rw [map_eq_error, h.failure]

end Judged

section Strict

variable (schema : Schema) (table : String)

/-- A step that asks for a test is judged by it, in a clause or in a group of any depth. -/
theorem judged_conditions (link : Connective) (r : Request) :
    Judged schema (r.intended? schema table)
      ((ClauseStep.add link r).conditions (.strict schema table)) := by
  have outcome : (ClauseStep.add link r).conditions (.strict schema table) =
      (((Scope.strict schema table).test? r).map
        fun t => (t.map (Condition.test link)).toList).mapError .query := by
    rw [ClauseStep.conditions]
    rcases (Scope.strict schema table).test? r with e | _ | t <;> rfl
  rw [outcome, Scope.test?_strict]
  cases r.intended? schema table with
  | none => exact .none
  | some t =>
    -- The step adds the test as its only condition.
    have added : ((Scope.verdict schema t).map some).map
        (fun t => (t.map (Condition.test link)).toList) =
          (Scope.verdict schema t).map fun t => [Condition.test link t] := by
      cases Scope.verdict schema t <;> rfl
    show Judged schema (some t) ((((Scope.verdict schema t).map some).map _).mapError .query)
    rw [added]
    exact .verdict t _

/-- A join on a condition is judged by the test of the condition. -/
theorem judged_join (q : Query) (kind : JoinKind) (joined : String) (on : JoinCondition) :
    Judged schema (some (on.intended schema joined))
      ({ q with scope := .strict schema table }.step (.join kind joined on)) := by
  have outcome : ({ q with scope := .strict schema table }).step (.join kind joined on) =
      ((Scope.verdict schema (on.intended schema joined)).map fun t => { q with
        scope := .strict schema table
        joins := q.joins ++ [⟨kind, joined, [.test .and t]⟩] }).mapError .query := by
    rw [← Scope.test_strict schema joined]
    simp only [Query.step, Query.join]
    cases on.test (.strict schema joined) <;> rfl
  rw [outcome]
  exact .verdict _ _

theorem wellTyped_of_verdict {t t' : Test} (h : Scope.verdict schema t = .ok t') :
    t'.WellTyped schema := by
  unfold Scope.verdict at h
  cases refusal : t.refusal? schema with
  | none =>
    rw [refusal] at h
    cases h
    exact Test.refusal?_eq_none.1 refusal
  | some e => simp [refusal] at h

/-- Every test of every query that a script builds is well typed. -/
theorem wellTyped_build (script : List QueryStep) :
    (Query.build { scope := .strict schema table } script).Every (Test.WellTyped schema) := by
  have asked : ∀ table r t, (Scope.strict schema table).test? r = .ok (some t) →
      t.WellTyped schema := by
    intro table r t h
    rw [Scope.test?_strict] at h
    cases intended : r.intended? schema table with
    | none => simp [intended] at h
    | some t' =>
      simp only [intended, map_eq_ok, Option.some.injEq] at h
      obtain ⟨_, judged, rfl⟩ := h
      exact wellTyped_of_verdict schema judged
  have joined : ∀ table on t, JoinCondition.test (.strict schema table) on = .ok t →
      t.WellTyped schema := by
    intro table on t h
    rw [Scope.test_strict] at h
    exact wellTyped_of_verdict schema h
  apply Query.every_build asked joined rfl
  constructor
  · intro c hc
    exact absurd hc List.not_mem_nil
  · intro j hj
    exact absurd hj List.not_mem_nil

/-- Strict mode takes well-typed tests and no others. A step of a clause, of a group at any depth,
of a WHERE or of a join succeeds if and only if the test that it asks for is well typed, and names
what is wrong otherwise; and all tests of every query that a script builds are well typed. -/
theorem strict_mode :
    (∀ link r, Judged schema (r.intended? schema table)
      ((ClauseStep.add link r).conditions (.strict schema table))) ∧
    (∀ conditions link r, Judged schema (r.intended? schema table)
      (Clause.step ⟨.strict schema table, conditions⟩ (.add link r))) ∧
    (∀ (q : Query) link r, Judged schema (r.intended? schema table)
      ({ q with scope := .strict schema table }.step (.filter (.add link r)))) ∧
    (∀ (q : Query) kind joined on, Judged schema (some (on.intended schema joined))
      ({ q with scope := .strict schema table }.step (.join kind joined on))) ∧
    ∀ script,
      (Query.build { scope := .strict schema table } script).Every (Test.WellTyped schema) := by
  refine ⟨judged_conditions schema table, ?_, ?_, judged_join schema table,
    wellTyped_build schema table⟩
  · intro conditions link r
    exact (judged_conditions schema table link r).map _
  · intro q link r
    exact ((judged_conditions schema table link r).map _).map _

end Strict

end SelectQuery
