import SelectQuery.Proofs.Resolving

/-!
Which columns can be compared. A type has alternatives, the plain types and objects inside its
`optional`s and `union`s, and two columns can be compared if they share one. That holds of types
in which no `optional` wraps another one directly; with such a type in a union it can matter which
column is named first.

What is proved:
  1. `accepts_iff`: apart from null, a column accepts what one of its alternatives accepts.
  2. `comparable_iff_alternatives`: two types are comparable exactly if some alternatives of theirs
     are, which holds of objects and of equal plain types.
  3. `comparableWithin_eq`: the comparison ends, having descended no deeper than the types are
     large.
  4. `comparable_iff_operand`: two columns can be compared exactly if some value apart from null
     can be compared with both, or both can be objects.
  5. `comparable_comm` (and `comparable_one_way`, where it fails): comparing two columns does not
     depend on their order, unless both are unions and an `optional` wraps another one in them.
-/

namespace SelectQuery

/-- The plain type whose columns accept the value. -/
def Value.columnType? : Value → Option ColumnType
  | text _ => some .string
  | int _ => some .number
  | float _ => some .number
  | bool _ => some .boolean
  | date _ => some .date
  | array _ => some .array
  | null => none
  | blob _ => none

namespace ColumnType

variable {s t : ColumnType}

/-! ## Alternatives -/

mutual

/-- The types inside the `optional`s and unions of a type that are neither. -/
def alternatives : ColumnType → List ColumnType
  | optional inner => inner.alternatives
  | union ts => allAlternatives ts
  | t => [t]

def allAlternatives : List ColumnType → List ColumnType
  | [] => []
  | t :: ts => t.alternatives ++ allAlternatives ts

end

/-- Whether a column of the type can be an object. -/
def HasObject (t : ColumnType) : Prop := ∃ fields, object fields ∈ t.alternatives

/-- A type that is neither an `optional` nor a union. -/
def Plain : ColumnType → Prop
  | optional _ => False
  | union _ => False
  | _ => True

theorem alternatives_of_plain (h : t.Plain) : t.alternatives = [t] := by
  cases t with
  | optional _ | union _ => exact h.elim
  | string | number | boolean | date | array | object _ => simp [alternatives]

theorem ne_union_of_plain (h : t.Plain) (ts : List ColumnType) : t ≠ union ts := by
  rintro rfl
  exact h

theorem mem_allAlternatives {ts : List ColumnType} {a : ColumnType} :
    a ∈ allAlternatives ts ↔ ∃ t ∈ ts, a ∈ t.alternatives := by
  induction ts with
  | nil => simp [allAlternatives]
  | cons t ts ih => simp [allAlternatives, ih]

theorem alternatives_stripOptional (t : ColumnType) :
    t.stripOptional.alternatives = t.alternatives := by
  cases t <;> simp [stripOptional, alternatives]

theorem exists_alternative {ts : List ColumnType} (h : t.stripOptional = union ts)
    {p : ColumnType → Prop} :
    (∃ a ∈ t.alternatives, p a) ↔ ∃ u ∈ ts, ∃ a ∈ u.alternatives, p a := by
  rw [← alternatives_stripOptional, h, alternatives]
  simp only [mem_allAlternatives]
  constructor
  · rintro ⟨a, ⟨u, hu, ha⟩, holds⟩
    exact ⟨u, hu, a, ha, holds⟩
  · rintro ⟨u, hu, a, ha, holds⟩
    exact ⟨a, ⟨u, hu, ha⟩, holds⟩

mutual

theorem plain_of_mem {t a : ColumnType} (h : a ∈ t.alternatives) : a.Plain := by
  cases t with
  | optional inner =>
    rw [alternatives] at h
    exact plain_of_mem h
  | union ts =>
    rw [alternatives] at h
    exact plain_of_mem_all h
  | string | number | boolean | date | array | object _ =>
    rw [alternatives_of_plain (by trivial), List.mem_singleton] at h
    rw [h]
    trivial

theorem plain_of_mem_all {ts : List ColumnType} {a : ColumnType} (h : a ∈ allAlternatives ts) :
    a.Plain := by
  cases ts with
  | nil => exact absurd h List.not_mem_nil
  | cons t ts =>
    rw [allAlternatives] at h
    exact (List.mem_append.1 h).elim plain_of_mem plain_of_mem_all

end

mutual

/-- Apart from null, a column accepts what one of its alternatives accepts. -/
theorem accepts_iff (t : ColumnType) {v : Value} (hv : v ≠ .null) :
    t.accepts v ↔ ∃ a ∈ t.alternatives, a.accepts v := by
  cases t with
  | optional inner =>
    have same : (optional inner).accepts v = inner.accepts v := by
      cases v <;> simp_all [accepts]
    rw [same, alternatives]
    exact accepts_iff inner hv
  | union ts =>
    rw [accepts, alternatives]
    exact anyAccepts_iff ts hv
  | string | number | boolean | date | array | object _ => simp [alternatives]

theorem anyAccepts_iff (ts : List ColumnType) {v : Value} (hv : v ≠ .null) :
    anyAccepts ts v ↔ ∃ a ∈ allAlternatives ts, a.accepts v := by
  cases ts with
  | nil => simp [anyAccepts, allAlternatives]
  | cons t ts =>
    have first := accepts_iff t hv
    have later := anyAccepts_iff ts hv
    rw [anyAccepts, Bool.or_eq_true, first, later]
    simp [allAlternatives, or_and_right, exists_or]

end

/-! ## Comparing alternatives -/

mutual

theorem same_iff {s t : ColumnType} : s.same t ↔ s = t := by
  cases s with
  | object fs => cases t <;> simp [same, sameFields_iff]
  | optional inner => cases t <;> simp [same, same_iff]
  | union ss => cases t <;> simp [same, sameAll_iff]
  | string | number | boolean | date | array => cases t <;> simp [same]

theorem sameFields_iff {fs gs : List (String × ColumnType)} : sameFields fs gs ↔ fs = gs := by
  cases fs with
  | nil => cases gs <;> simp [sameFields]
  | cons f fs =>
    obtain ⟨j, s⟩ := f
    cases gs with
    | nil => simp [sameFields]
    | cons g gs =>
      obtain ⟨k, t⟩ := g
      have first : s.same t ↔ s = t := same_iff
      have later : sameFields fs gs ↔ fs = gs := sameFields_iff
      simp [sameFields, first, later]

theorem sameAll_iff {ss ts : List ColumnType} : sameAll ss ts ↔ ss = ts := by
  cases ss with
  | nil => cases ts <;> simp [sameAll]
  | cons s ss =>
    cases ts with
    | nil => simp [sameAll]
    | cons t ts =>
      have first : s.same t ↔ s = t := same_iff
      have later : sameAll ss ts ↔ ss = ts := sameAll_iff
      simp [sameAll, first, later]

end

instance : DecidableEq ColumnType := fun _ _ => decidable_of_iff _ same_iff

theorem anyComparable_eq (ss : List ColumnType) (t : ColumnType) :
    anyComparable ss t = ss.any (·.comparable t) := by
  induction ss with
  | nil => simp [anyComparable]
  | cons s ss ih => simp [anyComparable, ih]

/-- A union is taken apart on the right if there is none on the left. -/
theorem comparableBare_union {ts : List ColumnType} (h : ∀ ss, s ≠ union ss) :
    comparableBare s (union ts) = anyComparable ts s := by
  cases s with
  | union ss => exact absurd rfl (h ss)
  | string | number | boolean | date | array | object _ | optional _ => rfl

/-- Without unions, two objects are comparable, and so are equal types. -/
theorem comparableBare_iff (hs : ∀ ss, s ≠ union ss) (ht : ∀ ts, t ≠ union ts) :
    comparableBare s t ↔ ((∃ fs, s = object fs) ∧ ∃ gs, t = object gs) ∨ s = t := by
  cases s with
  | union ss => exact absurd rfl (hs ss)
  | object fs =>
    cases t with
    | union ts => exact absurd rfl (ht ts)
    | _ => simp [comparableBare, same]
  | string | number | boolean | date | array | optional _ =>
    cases t with
    | union ts => exact absurd rfl (ht ts)
    | _ => simp [comparableBare, same, same_iff]

/-- If one of two types is no union, it does not matter which of them comes first. -/
theorem comparableBare_comm (h : (∀ ss, s ≠ union ss) ∨ ∀ ts, t ≠ union ts) :
    comparableBare s t = comparableBare t s := by
  by_cases left : ∃ ss, s = union ss
  · obtain ⟨ss, rfl⟩ := left
    rw [comparableBare_union (h.resolve_left fun no => no ss rfl)]
    rfl
  · have hs : ∀ ss, s ≠ union ss := fun ss same => left ⟨ss, same⟩
    by_cases right : ∃ ts, t = union ts
    · obtain ⟨ts, rfl⟩ := right
      rw [comparableBare_union hs]
      rfl
    · have ht : ∀ ts, t ≠ union ts := fun ts same => right ⟨ts, same⟩
      rw [Bool.eq_iff_iff, comparableBare_iff hs ht, comparableBare_iff ht hs, eq_comm (a := s),
        and_comm]

theorem comparable_union_left {ss : List ColumnType} (h : s.stripOptional = union ss) :
    s.comparable t ↔ ∃ a ∈ ss, a.comparable t.stripOptional := by
  rw [comparable_eq, h, ← List.any_eq_true, ← anyComparable_eq]
  rfl

theorem comparable_union_right {ts : List ColumnType} (hs : ∀ ss, s.stripOptional ≠ union ss)
    (ht : t.stripOptional = union ts) :
    s.comparable t ↔ ∃ b ∈ ts, b.comparable s.stripOptional := by
  rw [comparable_eq, ht, comparableBare_union hs, ← List.any_eq_true, ← anyComparable_eq]

/-- The comparison follows the unions: of the left type as long as it is one, and then of the right
type, with the sides exchanged. -/
theorem comparison_induction {motive : ColumnType → ColumnType → Prop}
    (left : ∀ {s t ss}, s.stripOptional = union ss →
      (∀ a ∈ ss, motive a t.stripOptional) → motive s t)
    (right : ∀ {s t ts}, (∀ ss, s.stripOptional ≠ union ss) → t.stripOptional = union ts →
      (∀ b ∈ ts, motive b s.stripOptional) → motive s t)
    (neither : ∀ {s t}, (∀ ss, s.stripOptional ≠ union ss) → (∀ ts, t.stripOptional ≠ union ts) →
      motive s t) (s t : ColumnType) : motive s t := by
  have small := sizeOf_stripOptional_le s
  have small' := sizeOf_stripOptional_le t
  by_cases hs : ∃ ss, s.stripOptional = union ss
  · obtain ⟨ss, hs⟩ := hs
    refine left hs fun a ha => ?_
    have smaller : sizeOf a < sizeOf s := by
      have inside := List.sizeOf_lt_of_mem ha
      rw [hs, union.sizeOf_spec] at small
      omega
    exact comparison_induction left right neither a t.stripOptional
  · have hs : ∀ ss, s.stripOptional ≠ union ss := fun ss same => hs ⟨ss, same⟩
    by_cases ht : ∃ ts, t.stripOptional = union ts
    · obtain ⟨ts, ht⟩ := ht
      refine right hs ht fun b hb => ?_
      have smaller : sizeOf b < sizeOf t := by
        have inside := List.sizeOf_lt_of_mem hb
        rw [ht, union.sizeOf_spec] at small'
        omega
      exact comparison_induction left right neither b s.stripOptional
    · exact neither hs fun ts same => ht ⟨ts, same⟩
termination_by sizeOf s + sizeOf t

/-- A type without an `optional` around it is plain if it is no union. -/
theorem plain_stripOptional (single : t.Single) (h : ∀ ts, t.stripOptional ≠ union ts) :
    t.stripOptional.Plain := by
  have bare := stripOptional_stripOptional single
  cases inner : t.stripOptional with
  | optional _ =>
    rw [inner] at bare
    have smaller := congrArg sizeOf bare
    simp [stripOptional] at smaller
  | union ts => exact h ts inner
  | string | number | boolean | date | array | object _ => trivial

theorem singleAll_iff {ts : List ColumnType} : SingleAll ts ↔ ∀ t ∈ ts, t.Single := by
  induction ts with
  | nil => simp [SingleAll]
  | cons t ts ih => simp [SingleAll, ih]

/-- Two types are comparable exactly if some alternatives of theirs are. -/
theorem comparable_iff_alternatives (hs : s.Single) (ht : t.Single) :
    s.comparable t ↔ ∃ a ∈ s.alternatives, ∃ b ∈ t.alternatives, comparableBare a b := by
  induction s, t using comparison_induction with
  | @left s t ss stripped ih =>
    have inside := single_stripOptional hs
    rw [stripped, Single, singleAll_iff] at inside
    rw [comparable_union_left stripped, exists_alternative stripped]
    refine exists_congr fun a => and_congr_right fun ha => ?_
    rw [ih a ha (inside a ha) (single_stripOptional ht), alternatives_stripOptional]
  | @right s t ts no_union stripped ih =>
    have inside := single_stripOptional ht
    rw [stripped, Single, singleAll_iff] at inside
    have alone : s.alternatives = [s.stripOptional] := by
      rw [← alternatives_stripOptional, alternatives_of_plain (plain_stripOptional hs no_union)]
    have swap (y : ColumnType) : comparableBare y s.stripOptional =
        comparableBare s.stripOptional y := comparableBare_comm (.inr no_union)
    rw [comparable_union_right no_union stripped, alone]
    simp only [List.mem_singleton, exists_eq_left]
    rw [exists_alternative stripped]
    refine exists_congr fun b => and_congr_right fun hb => ?_
    rw [ih b hb (inside b hb) (single_stripOptional hs), alternatives_stripOptional, alone]
    simp only [List.mem_singleton, exists_eq_left, swap]
  | @neither s t left right =>
    rw [comparable_eq, ← alternatives_stripOptional s, ← alternatives_stripOptional t,
      alternatives_of_plain (plain_stripOptional hs left),
      alternatives_of_plain (plain_stripOptional ht right)]
    simp

/-! ## The end of the comparison -/

/-- The comparison of two types, no deeper than `depth` steps; none if it has not ended there. -/
def comparableWithin : Nat → ColumnType → ColumnType → Option Bool
  | 0, _, _ => none
  | depth + 1, s, t => match s.stripOptional, t.stripOptional with
    | union alternatives, other => alternatives.anyM (comparableWithin depth · other)
    | other, union alternatives => alternatives.anyM (comparableWithin depth · other)
    | object _, object _ => some true
    | left, right => some (left.same right)

theorem anyM_of_some {α : Type} {f : α → Option Bool} {g : α → Bool} {as : List α}
    (h : ∀ a ∈ as, f a = some (g a)) : as.anyM f = some (as.any g) := by
  induction as with
  | nil => rfl
  | cons a as ih =>
    rw [List.anyM, h a List.mem_cons_self, List.any_cons]
    cases g a with
    | true => rfl
    | false => exact ih fun b hb => h b (List.mem_cons_of_mem a hb)

/-- A depth that exceeds the size of the types is enough for the comparison to end. -/
theorem comparableWithin_eq {depth : Nat} (h : sizeOf s + sizeOf t < depth) :
    comparableWithin depth s t = some (s.comparable t) := by
  induction depth generalizing s t with
  | zero => omega
  | succ depth ih =>
    have small := sizeOf_stripOptional_le s
    have small' := sizeOf_stripOptional_le t
    rw [comparableWithin, comparable_eq]
    generalize s.stripOptional = left at *
    generalize t.stripOptional = right at *
    split
    · rename_i ss
      rw [show comparableBare (union ss) right = anyComparable ss right from rfl, anyComparable_eq]
      refine anyM_of_some fun a ha => ih ?_
      have inside := List.sizeOf_lt_of_mem ha
      rw [union.sizeOf_spec] at small
      omega
    · rename_i ts no_union
      rw [comparableBare_union no_union, anyComparable_eq]
      refine anyM_of_some fun b hb => ih ?_
      have inside := List.sizeOf_lt_of_mem hb
      rw [union.sizeOf_spec] at small'
      omega
    · rfl
    · rw [comparableBare] <;> assumption

/-! ## Operands for both columns -/

theorem accepts_iff_columnType (h : t.Plain) (v : Value) :
    t.accepts v ↔ v.columnType? = some t := by
  cases t with
  | optional _ | union _ => exact h.elim
  | string | number | boolean | date | array | object _ =>
    cases v <;> simp [accepts, Value.columnType?]

/-- Each plain type but objects has values. -/
theorem exists_value (h : t.Plain) :
    (∃ fields, t = object fields) ∨ ∃ v : Value, v ≠ .null ∧ v.columnType? = some t := by
  cases t with
  | optional _ | union _ => exact h.elim
  | object fields => exact .inl ⟨fields, rfl⟩
  | string => exact .inr ⟨.text "", by simp, rfl⟩
  | number => exact .inr ⟨.int 0, by simp, rfl⟩
  | boolean => exact .inr ⟨.bool true, by simp, rfl⟩
  | date => exact .inr ⟨.date (.midnight 2000 1 1), by simp, rfl⟩
  | array => exact .inr ⟨.array [], by simp, rfl⟩

/-- Plain types are comparable exactly if both are objects or some value goes with both. -/
theorem comparableBare_iff_value (hs : s.Plain) (ht : t.Plain) :
    comparableBare s t ↔ (∃ v, v ≠ .null ∧ s.accepts v ∧ t.accepts v) ∨
      ((∃ fields, s = object fields) ∧ ∃ fields, t = object fields) := by
  rw [comparableBare_iff (ne_union_of_plain hs) (ne_union_of_plain ht), or_comm]
  simp only [accepts_iff_columnType hs, accepts_iff_columnType ht]
  constructor
  · rintro (rfl | objects)
    · exact (exists_value hs).symm.imp (fun ⟨v, hv, typed⟩ => ⟨v, hv, typed, typed⟩)
        fun object => ⟨object, object⟩
    · exact .inr objects
  · rintro (⟨v, -, left, right⟩ | objects)
    · exact .inl (Option.some.inj (left.symm.trans right))
    · exact .inr objects

theorem comparable_iff_value (hs : s.Single) (ht : t.Single) :
    s.comparable t ↔ (∃ v, v ≠ .null ∧ s.accepts v ∧ t.accepts v) ∨
      (s.HasObject ∧ t.HasObject) := by
  rw [comparable_iff_alternatives hs ht]
  constructor
  · rintro ⟨a, ha, b, hb, same⟩
    rcases (comparableBare_iff_value (plain_of_mem ha) (plain_of_mem hb)).1 same with
      ⟨v, hv, left, right⟩ | ⟨⟨fs, rfl⟩, gs, rfl⟩
    · exact .inl ⟨v, hv, (accepts_iff s hv).2 ⟨a, ha, left⟩, (accepts_iff t hv).2 ⟨b, hb, right⟩⟩
    · exact .inr ⟨⟨fs, ha⟩, gs, hb⟩
  · rintro (⟨v, hv, left, right⟩ | ⟨⟨fs, ha⟩, gs, hb⟩)
    · obtain ⟨a, ha, left⟩ := (accepts_iff s hv).1 left
      obtain ⟨b, hb, right⟩ := (accepts_iff t hv).1 right
      exact ⟨a, ha, b, hb, (comparableBare_iff_value (plain_of_mem ha) (plain_of_mem hb)).2
        (.inl ⟨v, hv, left, right⟩)⟩
    · exact ⟨_, ha, _, hb, rfl⟩

/-! ## Comparing columns -/

/-- One of the types is no union, or no `optional` in them wraps another one directly. -/
def Exchangeable (s t : ColumnType) : Prop :=
  (∀ ss, s.stripOptional ≠ union ss) ∨ (∀ ts, t.stripOptional ≠ union ts) ∨ s.Single ∧ t.Single

theorem comparable_exchange (h : s.Exchangeable t) : s.comparable t = t.comparable s := by
  rcases h with no_union | no_union | ⟨hs, ht⟩
  · rw [comparable_eq, comparable_eq t, comparableBare_comm (.inl no_union)]
  · rw [comparable_eq, comparable_eq t, comparableBare_comm (.inr no_union)]
  · rw [Bool.eq_iff_iff, comparable_iff_value hs ht, comparable_iff_value ht hs]
    simp only [and_comm]

end ColumnType

namespace Scope

variable {schema : Schema} {table : String} {path other : String} {s t : ColumnType}

theorem checkValue_eq_ok (declared : schema.declaredAt path = some s) {v : Value} :
    (strict schema table).checkValue path v = .ok () ↔ s.accepts v := by
  rw [checkValue_strict table declared]
  split <;> simp_all

theorem checkColumns_eq_ok : (strict schema table).checkColumns path other = .ok () ↔
    ∃ s ∈ schema.declaredAt path, ∃ t ∈ schema.declaredAt other, s.comparable t := by
  cases declared : schema.declaredAt path with
  | none => simp [checkColumns, Oracle.ofSchema, declared]
  | some s =>
    rw [checkColumns_strict table declared]
    cases declared' : schema.declaredAt other with
    | none => simp
    | some t => cases comparable : s.comparable t <;> simp [comparable]

end Scope

/-- The comparison of types ends. Of types in which no `optional` wraps another one directly, it
tells whether some value apart from null is accepted by both, or both have objects among their
alternatives. So in strict mode two columns of such types can be compared exactly if some value
apart from null can be compared with both, or both can be objects. -/
theorem ColumnType.comparable_iff_operand {s t : ColumnType} (hs : s.Single) (ht : t.Single) :
    (∀ depth, sizeOf s + sizeOf t < depth →
      comparableWithin depth s t = some (s.comparable t)) ∧
    (s.comparable t ↔ (∃ v, v ≠ .null ∧ s.accepts v ∧ t.accepts v) ∨
      (s.HasObject ∧ t.HasObject)) ∧
    ∀ (schema : Schema) (table path other : String),
      schema.declaredAt path = some s → schema.declaredAt other = some t →
        ((Scope.strict schema table).checkColumns path other = .ok () ↔
          (∃ v, v ≠ .null ∧ (Scope.strict schema table).checkValue path v = .ok () ∧
            (Scope.strict schema table).checkValue other v = .ok ()) ∨
          (s.HasObject ∧ t.HasObject)) := by
  refine ⟨fun _ => comparableWithin_eq, comparable_iff_value hs ht, ?_⟩
  intro schema table path other declared declared'
  simp only [Scope.checkColumns_eq_ok, Scope.checkValue_eq_ok declared,
    Scope.checkValue_eq_ok declared', declared, declared', Option.mem_some_iff, exists_eq_left',
    comparable_iff_value hs ht]

/-- Unions in unions that share numbers, with an object on one side only. -/
theorem ColumnType.comparable_iff_operand_of_nested_unions :
    let left := optional (union [union [], object [("x", optional date)], optional number])
    let right := union [union [string, union [number]], optional (union [date])]
    let schema := Schema.empty.table "t" [("a", left), ("b", right)]
    left.Single ∧ right.Single ∧ ¬ right.HasObject ∧
    (∃ v, v ≠ .null ∧ left.accepts v ∧ right.accepts v) ∧
    (Scope.strict schema "t").checkColumns "t.a" "t.b" = .ok () := by
  intro left right schema
  have single : left.Single := by simp [left, Single, SingleAll, SingleFields]
  have single' : right.Single := by simp [right, Single, SingleAll]
  have no_object : ¬ right.HasObject := by
    simp [right, HasObject, alternatives, allAlternatives]
  obtain ⟨-, shared, strict⟩ := comparable_iff_operand single single'
  have operand := (shared.1 (by decide +kernel)).resolve_right fun h => no_object h.2
  have declared : schema.declaredAt "t.a" = some left := by decide +kernel
  have declared' : schema.declaredAt "t.b" = some right := by decide +kernel
  refine ⟨single, single', no_object, operand, (strict schema "t" _ _ declared declared').2 ?_⟩
  exact .inl ⟨.int 3, by simp, by decide +kernel, by decide +kernel⟩

/-- Whether two types are comparable does not depend on their order, if one of them is no union or
no `optional` in them wraps another one directly. So in strict mode, of two columns that have such
types where they are declared, either can be compared with the other or neither. -/
theorem ColumnType.comparable_comm {s t : ColumnType} (h : s.Exchangeable t) :
    s.comparable t = t.comparable s ∧
    ∀ (schema : Schema) (table path other : String),
      (∀ u ∈ schema.declaredAt path, u = s) → (∀ u ∈ schema.declaredAt other, u = t) →
        ((Scope.strict schema table).checkColumns path other = .ok () ↔
          (Scope.strict schema table).checkColumns other path = .ok ()) := by
  have same := comparable_exchange h
  refine ⟨same, ?_⟩
  intro schema table path other declared declared'
  rw [Scope.checkColumns_eq_ok, Scope.checkColumns_eq_ok]
  constructor
  · rintro ⟨u, hu, v, hv, comparable⟩
    rw [declared u hu, declared' v hv, same] at comparable
    exact ⟨t, declared' v hv ▸ hv, s, declared u hu ▸ hu, comparable⟩
  · rintro ⟨v, hv, u, hu, comparable⟩
    rw [declared u hu, declared' v hv, ← same] at comparable
    exact ⟨s, declared u hu ▸ hu, t, declared' v hv ▸ hv, comparable⟩

/-- The order does not matter where only one type is a union. -/
theorem ColumnType.comparable_comm_of_one_union :
    let nested := optional (optional string)
    let mixed := union [number, optional string, nested]
    let schema := Schema.empty.table "t" [("a", nested), ("b", mixed)]
    nested.Exchangeable mixed ∧ nested.comparable mixed = true ∧ mixed.comparable nested = true ∧
    (Scope.strict schema "t").checkColumns "t.b" "t.a" = .ok () := by
  intro nested mixed schema
  have exchangeable : nested.Exchangeable mixed := .inl fun ss => by simp [nested, stripOptional]
  have comparable : nested.comparable mixed = true := by decide +kernel
  obtain ⟨same, strict⟩ := comparable_comm exchangeable
  have declared : schema.declaredAt "t.a" = some nested := by decide +kernel
  have declared' : schema.declaredAt "t.b" = some mixed := by decide +kernel
  have columns := strict schema "t" "t.a" "t.b" (by simp [declared]) (by simp [declared'])
  exact ⟨exchangeable, comparable, same ▸ comparable, columns.1 (by decide +kernel)⟩

/-- With an `optional` around another one in a union, a column can be compared with another column
and the other column not with it. -/
theorem ColumnType.comparable_one_way :
    let nested := union [optional (optional string)]
    let plain := union [string]
    let schema := Schema.empty.table "t" [("a", nested), ("b", plain)]
    nested.comparable plain = true ∧ plain.comparable nested = false ∧
    (Scope.strict schema "t").checkColumns "t.a" "t.b" = .ok () ∧
    (Scope.strict schema "t").checkColumns "t.b" "t.a" =
      .error (.typeMismatch "t.b" "string" "optional<optional<string>>") := by
  intro nested plain schema
  refine ⟨?_, ?_, ?_, ?_⟩ <;> decide +kernel

end SelectQuery
