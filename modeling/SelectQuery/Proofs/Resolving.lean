import SelectQuery.Proofs.Simulation
import SelectQuery.Proofs.Strict

/-!
An oracle that does not know how types were declared. It gives types without one level of
`optional` to checks that are written for types as declared. Where no `optional` wraps another one
directly, this shows in the wording of errors alone.

What is proved:
  1. `comparable_stripOptional`: comparing columns does not see one level of `optional` on either
     side, provided that there is one level at most.
  2. `single_declaredAt`: the columns of a schema without such types have no such types, also those
     inside objects.
  3. `test?_resolving`, `joinTest_resolving`: the checks of the two oracles let the same tests pass,
     and refuse the others with errors that differ in the texts of types at most.
  4. `build_resolving`: the same steps of a script succeed, at any depth, and leave the same query.
-/

namespace SelectQuery

/-! ## Types with one level of `optional` -/

namespace ColumnType

mutual

/-- No `optional` in the type wraps another one directly. -/
def Single : ColumnType → Prop
  | optional (optional _) => False
  | optional inner => inner.Single
  | object fields => SingleFields fields
  | union ts => SingleAll ts
  | _ => True

def SingleFields : List (String × ColumnType) → Prop
  | [] => True
  | (_, t) :: rest => t.Single ∧ SingleFields rest

def SingleAll : List ColumnType → Prop
  | [] => True
  | t :: ts => t.Single ∧ SingleAll ts

end

theorem singleFields_iff {fields : List (String × ColumnType)} :
    SingleFields fields ↔ ∀ f ∈ fields, f.2.Single := by
  induction fields with
  | nil => simp [SingleFields]
  | cons f rest ih => simp [SingleFields, ih]

theorem single_stripOptional {t : ColumnType} (h : t.Single) : t.stripOptional.Single := by
  cases t with
  | optional inner =>
    cases inner with
    | optional _ => simp [Single] at h
    | string | number | boolean | date | array | object _ | union _ => exact h
  | string | number | boolean | date | array | object _ | union _ => exact h

theorem stripOptional_stripOptional {t : ColumnType} (h : t.Single) :
    t.stripOptional.stripOptional = t.stripOptional := by
  cases t with
  | optional inner =>
    cases inner with
    | optional _ => simp [Single] at h
    | string | number | boolean | date | array | object _ | union _ => rfl
  | string | number | boolean | date | array | object _ | union _ => rfl

/-- Whether columns of two types can be compared, where no level of `optional` is left out. -/
def comparableBare : ColumnType → ColumnType → Bool
  | union alternatives, other => anyComparable alternatives other
  | other, union alternatives => anyComparable alternatives other
  | object _, object _ => true
  | left, right => left.same right

theorem comparable_eq (s t : ColumnType) :
    s.comparable t = comparableBare s.stripOptional t.stripOptional := by
  rw [comparable]
  unfold comparableBare
  split <;> simp_all

/-- Comparing types is comparing them without `optional`. -/
theorem comparable_stripOptional {s t : ColumnType} (hs : s.Single) (ht : t.Single) :
    s.stripOptional.comparable t.stripOptional = s.comparable t := by
  rw [comparable_eq, comparable_eq s, stripOptional_stripOptional hs,
    stripOptional_stripOptional ht]

end ColumnType

namespace Schema

/-- No `optional` in the schema wraps another one directly. -/
def Single (s : Schema) : Prop := ∀ table ∈ s.tables, (ColumnType.object table.2).Single

theorem single_lookup {fields : List (String × ColumnType)} {name : String} {t : ColumnType}
    (h : ColumnType.SingleFields fields) (found : fields.lookup name = some t) : t.Single := by
  obtain ⟨before, after, rfl, -⟩ := List.lookup_eq_some_iff.1 found
  exact ColumnType.singleFields_iff.1 h (name, t) (by simp)

theorem single_walk {t u : ColumnType} {path : List (List Char)} (h : t.Single)
    (found : walk t path = some u) : u.Single := by
  induction path generalizing t with
  | nil =>
    rw [walk, Option.some.injEq] at found
    exact found ▸ h
  | cons field rest ih =>
    have bare := ColumnType.single_stripOptional h
    rw [walk] at found
    split at found
    · rename_i fields stripped
      rw [stripped, ColumnType.Single] at bare
      split at found
      · rename_i inner inside
        exact ih (single_lookup bare inside) found
      · cases found
    · cases found

/-- The columns of a schema have one level of `optional` at most, also those inside objects. -/
theorem single_declaredAt {s : Schema} (single : s.Single) {path : String} {t : ColumnType}
    (declared : s.declaredAt path = some t) : t.Single := by
  unfold declaredAt at declared
  split at declared
  · simp only [Option.bind_eq_bind, Option.bind_eq_some_iff] at declared
    obtain ⟨columns, table, u, column, found⟩ := declared
    obtain ⟨before, after, tables, -⟩ := List.lookup_eq_some_iff.1 table
    have known : (_, columns) ∈ s.tables := tables ▸ List.mem_append_right before List.mem_cons_self
    have fields := single _ known
    rw [ColumnType.Single] at fields
    exact single_walk (single_lookup fields column) found
  · cases declared

end Schema

/-! ## Errors -/

/-- The second text is the first one, or the first one without the `optional` around it. -/
def Bared (text bare : String) : Prop := text = bare ∨ text = "optional<" ++ bare ++ ">"

theorem ColumnType.bared_text (t : ColumnType) : Bared t.text t.stripOptional.text := by
  cases t with
  | optional inner => exact .inr rfl
  | string | number | boolean | date | array | object _ | union _ => exact .inl rfl

/-- The same errors, or mismatches of the same column whose types are shown without the `optional`
around them in the second one. -/
inductive QueryFailure.Bared : QueryFailure → QueryFailure → Prop where
  | same (e : QueryFailure) : Bared e e
  | types {column expected actual expected' actual' : String}
    (left : SelectQuery.Bared expected expected') (right : SelectQuery.Bared actual actual') :
    Bared (.typeMismatch column expected actual) (.typeMismatch column expected' actual')

/-! ## Checks -/

namespace Scope

/-- The scope of a table with the oracle of a schema that gives types without `optional`. -/
abbrev resolving (schema : Schema) (table : String) : Scope :=
  ⟨table, some (Oracle.ofSchema schema).resolving⟩

section Resolving

variable {schema : Schema} (table : String)

theorem checkValue_resolving (path : String) (v : Value) :
    Follows QueryFailure.Bared id ((strict schema table).checkValue path v)
      ((resolving schema table).checkValue path v) := by
  unfold checkValue
  simp only [Oracle.ofSchema, Oracle.resolving, Schema.typeAt]
  cases schema.declaredAt path with
  | none => exact .error (.same _)
  | some t =>
    by_cases allowed : schema.allows path v
    · simp only [Option.map_some, allowed, if_true]
      exact .ok ()
    · simp only [Option.map_some, allowed]
      exact .error (.types t.bared_text (.inl rfl))

theorem checkValues_resolving (path : String) (values : List Value) :
    Follows QueryFailure.Bared id ((strict schema table).checkValues path values)
      ((resolving schema table).checkValues path values) := by
  induction values with
  | nil => exact .ok ()
  | cons v rest ih => exact (checkValue_resolving table path v).bind fun _ => ih

theorem checked_resolving {α : Type} (column : String) (values : List Value) (test : String → α) :
    Follows QueryFailure.Bared id ((strict schema table).checked column values test)
      ((resolving schema table).checked column values test) := by
  have located : Follows QueryFailure.Bared id ((strict schema table).locate column)
      ((resolving schema table).locate column) := .refl .same _
  refine located.bind fun path => ?_
  refine (checkValues_resolving table path values).bind fun _ => ?_
  exact .ok (test path)

variable (single : schema.Single)

include single

theorem checkColumns_resolving (path other : String) :
    Follows QueryFailure.Bared id ((strict schema table).checkColumns path other)
      ((resolving schema table).checkColumns path other) := by
  unfold checkColumns
  simp only [Oracle.ofSchema, Oracle.resolving, Schema.typeAt]
  cases declared : schema.declaredAt path with
  | none => exact .error (.same _)
  | some t =>
    cases declared' : schema.declaredAt other with
    | none => exact .error (.same _)
    | some u =>
      have same := ColumnType.comparable_stripOptional (Schema.single_declaredAt single declared)
        (Schema.single_declaredAt single declared')
      simp only [Option.map_some, same]
      cases t.comparable u with
      | true => exact .ok ()
      | false => exact .error (.types t.bared_text u.bared_text)

theorem valueTest_resolving (column : String) (op : Operator) (v : Value) :
    Follows QueryFailure.Bared id ((strict schema table).valueTest column op v)
      ((resolving schema table).valueTest column op v) := by
  have located : Follows QueryFailure.Bared id ((strict schema table).locate column)
      ((resolving schema table).locate column) := .refl .same _
  have named : v.namedColumn? (resolving schema table).oracle =
      v.namedColumn? (strict schema table).oracle := rfl
  have operand (path : String) : Follows QueryFailure.Bared id
      ((strict schema table).operand path v) ((resolving schema table).operand path v) := by
    unfold Scope.operand
    rw [named]
    cases v.namedColumn? (strict schema table).oracle with
    | some other => exact (checkColumns_resolving table single path other).bind fun _ => .ok _
    | none => exact (checkValue_resolving table path v).bind fun _ => .ok _
  exact located.bind fun path => (operand path).bind fun o => .ok (Test.compare path op o)

/-- A request passes the checks of both oracles or of none. -/
theorem test?_resolving (r : Request) :
    r.Answered QueryFailure.Bared id (strict schema table) (resolving schema table) := by
  rw [Request.Answered, Option.map_id]
  cases r with
  | compare column op v => exact (valueTest_resolving table single column op v).map fun _ => rfl
  | oneOf column negated values =>
    cases values with
    | nil => exact .ok none
    | cons v rest => exact checked_resolving table column (v :: rest) _
  | between column negated low high => exact checked_resolving table column [low, high] _
  | isNull column negated =>
    exact checked_resolving table column [] fun path => some (Test.isNull path negated)

theorem joinTest_resolving (on : JoinCondition) :
    Follows QueryFailure.Bared id (on.test (strict schema table))
      (on.test (resolving schema table)) := by
  have located (column : String) : Follows QueryFailure.Bared id
      ((strict schema table).locate column) ((resolving schema table).locate column) :=
    .refl .same _
  cases on with
  | value column op v => exact valueTest_resolving table single column op v
  | columns column op other name =>
    refine (located column).bind fun path => ?_
    refine (checkColumns_resolving table single path (Column.qualified name other)).bind fun _ => ?_
    exact .ok _

end Resolving

end Scope

/-! ## Scripts -/

/-- An oracle that gives types without `optional` in place of types as declared accepts and rejects
the same steps as the schema, at any depth, provided that no `optional` in the schema wraps another
one directly. The errors name the same columns, and the second shows a type without the `optional`
around it at most. Whatever the script, the queries have the same joins, fragments, values and
text. -/
theorem build_resolving (schema : Schema) (single : schema.Single) (table : String)
    (script : List QueryStep) :
    List.Forall₂ (Trail.Matches (Option.Rel (StepFailure.Blamed QueryFailure.Bared)))
      (Query.trails id { scope := .strict schema table } script)
      (Query.trails id { scope := .resolving schema table } script) ∧
    QueryDraft.Same (QueryDraft.build { scope := .resolving schema table } script)
      (QueryDraft.build { scope := .strict schema table } script) := by
  have answered : ∀ s ∈ script, s.Answered QueryFailure.Bared id (.strict schema table)
      (some (Oracle.ofSchema schema).resolving) := by
    intro s _
    cases s with
    | join kind table on => exact Scope.joinTest_resolving table single on
    | joinGroup kind table tolerant body => exact fun r _ => Scope.test?_resolving table single r
    | filter s => exact fun r _ => Scope.test?_resolving table single r
    | select _ | distinct | groupBy _ | order _ _ | limit _ | offset _ | misspelt _ => trivial
  exact ⟨(Query.build_follow { scope := .strict schema table } script answered).1,
    Query.build_same answered⟩

/-- A step that is refused by both, with the two wordings of its error, and one that is taken. -/
theorem build_resolving_optional_column :
    let schema := Schema.empty.table "users" [("age", .optional .number), ("id", .number)]
    let refused : QueryStep := .filter (.add .and (.compare "age" .eq (.text "old")))
    let taken : QueryStep := .filter (.add .and (.compare "age" .gt (.text "users.id")))
    let failure (scope : Scope) := (Query.attempt { scope } refused).1
    QueryDraft.Same
      (QueryDraft.build { scope := .resolving schema "users" } [refused, taken, .limit (some 3)])
      (QueryDraft.build { scope := .strict schema "users" } [refused, taken, .limit (some 3)]) ∧
    failure (.strict schema "users") =
      some (.query (.typeMismatch "users.age" "optional<number>" "string")) ∧
    failure (.resolving schema "users") =
      some (.query (.typeMismatch "users.age" "number" "string")) ∧
    (Query.build { scope := .resolving schema "users" } [refused, taken, .limit (some 3)]).text =
      "SELECT * FROM users WHERE users.age > users.id LIMIT 3" := by
  intro schema refused taken failure
  have single : schema.Single := by
    have tables : schema.tables = [("users", [("age", .optional .number), ("id", .number)])] := rfl
    intro table known
    rw [tables, List.mem_singleton] at known
    simp [known, ColumnType.Single, ColumnType.SingleFields]
  refine ⟨(build_resolving schema single "users" _).2, ?_, ?_, ?_⟩ <;> decide +kernel

/-- With an `optional` around another one the two oracles differ: the schema refuses to compare the
column with a number, and the other oracle does not. -/
example :
    let schema := Schema.empty.table "users"
      [("age", .optional (.optional .number)), ("id", .number)]
    let step : QueryStep := .filter (.add .and (.compare "age" .gt (.text "users.id")))
    (Query.attempt { scope := .strict schema "users" } step).1 =
        some (.query (.typeMismatch "users.age" "optional<optional<number>>" "number")) ∧
      (Query.attempt { scope := .resolving schema "users" } step).1 = none := by
  decide +kernel

end SelectQuery
