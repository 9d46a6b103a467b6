import SelectQuery.Proofs.Names

/-!
The checks of a scope: what a test is made of once they have passed.

What is proved:
  1. `locate_eq_ok`, `operand_eq_ok`, `test?_eq_ok`: what passes a check is what was asked for.
  2. `names_of_test`: the names in a test are the column that was asked for, qualified, and the
     columns that values name; they are paths if the table and the column are.
-/

namespace SelectQuery

section Except

variable {ε α β : Type} {x : Except ε α} {f : α → Except ε β} {g : α → β} {b : β} {e : ε}

theorem bind_eq_ok : (x >>= f) = .ok b ↔ ∃ a, x = .ok a ∧ f a = .ok b := by
  cases x <;> simp [bind, Except.bind]

theorem map_eq_ok : x.map g = .ok b ↔ ∃ a, x = .ok a ∧ g a = b := by
  cases x <;> simp [Except.map]

theorem map_eq_error : x.map g = .error e ↔ x = .error e := by
  cases x <;> simp [Except.map]

theorem pure_eq_ok {a : β} : (pure a : Except ε β) = .ok b ↔ a = b := by
  simp [pure, Except.pure]

end Except

def Request.column : Request → String
  | compare column _ _ => column
  | oneOf column _ _ => column
  | between column _ _ _ => column
  | isNull column _ => column

/-- A membership has values. -/
def Test.Filled : Test → Prop
  | oneOf _ _ values => values ≠ []
  | _ => True

namespace Scope

variable {s : Scope} {column path : String}

theorem locate_eq_ok (h : s.locate column = .ok path) : path = Column.qualified column s.table := by
  unfold locate at h
  grind

/-- The operand is the column that the value names, or else the value. -/
theorem operand_eq_ok {v : Value} {o : Operand} (h : s.operand path v = .ok o) :
    (∃ other, v.namedColumn? s.oracle = some other ∧ o = .column other) ∨
      (v.namedColumn? s.oracle = none ∧ o = .value v) := by
  unfold operand at h
  cases named : v.namedColumn? s.oracle with
  | some other =>
    simp only [named, bind_eq_ok, pure_eq_ok] at h
    obtain ⟨_, _, rfl⟩ := h
    exact .inl ⟨other, rfl, rfl⟩
  | none =>
    simp only [named, bind_eq_ok, pure_eq_ok] at h
    obtain ⟨_, _, rfl⟩ := h
    exact .inr ⟨rfl, rfl⟩

theorem isQualifiedPath_operand {v : Value} {o : Operand} (h : s.operand path v = .ok o) :
    ∀ n ∈ o.names, isQualifiedPath n := by
  rcases operand_eq_ok h with ⟨other, named, rfl⟩ | ⟨_, rfl⟩
  · intro n hn
    rw [Operand.names, List.mem_singleton] at hn
    exact hn ▸ isQualifiedPath_namedColumn named
  · intro n hn
    exact absurd hn List.not_mem_nil

/-- What passes the checks is a membership with values or another test, of the column that was asked
for, and its further columns are paths. -/
theorem test?_eq_ok {r : Request} {t : Test} (h : s.test? r = .ok (some t)) :
    t.Filled ∧ ∃ path, s.locate r.column = .ok path ∧
      ∀ n ∈ t.names, n = path ∨ isQualifiedPath n := by
  have only {path n : String} (hn : n ∈ [path]) : n = path ∨ isQualifiedPath n :=
    .inl (List.mem_singleton.1 hn)
  cases r with
  | compare name op v =>
    simp only [test?, valueTest, map_eq_ok, bind_eq_ok, pure_eq_ok, Option.some.injEq] at h
    obtain ⟨_, ⟨path, found, o, operand, rfl⟩, rfl⟩ := h
    refine ⟨trivial, path, found, ?_⟩
    intro n hn
    rcases List.mem_cons.1 hn with rfl | hn
    · exact .inl rfl
    · exact .inr (isQualifiedPath_operand operand n hn)
  | oneOf name negated values =>
    cases values with
    -- No test is asked for of an empty list.
    | nil => simp [test?, pure, Except.pure] at h
    | cons v vs =>
      simp only [test?, bind_eq_ok, pure_eq_ok, Option.some.injEq] at h
      obtain ⟨path, found, _, _, rfl⟩ := h
      exact ⟨List.cons_ne_nil v vs, path, found, fun _ => only⟩
  | between name negated low high =>
    simp only [test?, bind_eq_ok, pure_eq_ok, Option.some.injEq] at h
    obtain ⟨path, found, _, _, rfl⟩ := h
    exact ⟨trivial, path, found, fun _ => only⟩
  | isNull name negated =>
    simp only [test?, bind_eq_ok, pure_eq_ok, Option.some.injEq] at h
    obtain ⟨path, found, rfl⟩ := h
    exact ⟨trivial, path, found, fun _ => only⟩

/-- In the scope of a path, a test of a path has paths with dots alone. -/
theorem names_of_test {r : Request} {t : Test} (h : s.test? r = .ok (some t))
    (table : isIdentifierPath s.table) (column : isIdentifierPath r.column) :
    ∀ n ∈ t.names, isQualifiedPath n := by
  obtain ⟨-, path, found, names⟩ := test?_eq_ok h
  intro n hn
  rcases names n hn with rfl | further
  · rw [locate_eq_ok found]
    exact isQualifiedPath_qualified column table
  · exact further

end Scope

end SelectQuery
