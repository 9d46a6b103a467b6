import SelectQuery.Proofs.Lookup
import SelectQuery.Schema.Json

/-!
Schemas that are exchanged as JSON. A type is written as the name of its kind, or as an object whose
only member is named so, and read by that name; the fields of an object are written as one object,
and may be called like a kind without harm, since they stand one level deeper.

What is proved:
  1. `read_toJson`: what a type is written as is read as the type, its fields as they stand.
  2. `ofTables_tables`: a schema is the one that its own tables declare.
  3. `ofJson_declarations`: declarations that are read make the schema that they make when they are
     called in turn.
  4. `ofJson_toJson`: so a schema is read as it was written, and no other is written alike.
-/

namespace SelectQuery

open Json (Reading)

namespace ColumnType

/-! ## Types -/

mutual

/-- What a type is written as is read as the type, its fields as they stand. -/
theorem read_toJson (t : ColumnType) : read (.ofJson t.toJson) = .ok t := by
  cases t with
  | string | number | boolean | date | array => rfl
  | object fields =>
    have inner := readFields_fieldsToJson fields
    simp only [toJson, Reading.ofJson, Reading.ofFields, read, readTagged, readObject, inner]
    rfl
  | optional inner =>
    have inside := read_toJson inner
    simp only [toJson, Reading.ofJson, Reading.ofFields, read, readTagged, inside]
    rfl
  | union ts =>
    have inner := readAll_allToJson ts
    simp only [toJson, Reading.ofJson, Reading.ofFields, read, readTagged, readUnion, inner]
    rfl

theorem readFields_fieldsToJson (fields : List (String × ColumnType)) :
    readFields (Reading.ofFields (fieldsToJson fields)) .closed = .ok fields := by
  cases fields with
  | nil => rfl
  | cons f rest =>
    obtain ⟨k, t⟩ := f
    have here := read_toJson t
    have later := readFields_fieldsToJson rest
    simp only [fieldsToJson, Reading.ofFields, readFields, here, later]
    rfl

theorem readAll_allToJson (ts : List ColumnType) :
    readAll (Reading.ofItems (allToJson ts)) .closed = .ok ts := by
  cases ts with
  | nil => rfl
  | cons t ts =>
    have here := read_toJson t
    have later := readAll_allToJson ts
    simp only [allToJson, Reading.ofItems, readAll, here, later]
    rfl

end

/-- Different types are written differently, also where one is the normal form of the other. -/
theorem toJson_injective : Function.Injective toJson := by
  intro t u same
  have read := read_toJson t
  rw [same, read_toJson u] at read
  exact (Except.ok.inj read).symm

/-- A type is read in its normal form. -/
theorem ofJson_toJson_eq (t : ColumnType) : ofJson t.toJson = .ok t.normalize := by
  rw [ofJson, ofReading, read_toJson]
  rfl

end ColumnType

namespace Schema

/-! ## Schemas -/

/-- Declarations of tables as JSON, in the order in which they are made. -/
def declarations (calls : List (String × Columns)) : Json :=
  .object (calls.map fun call => (call.1, .object (ColumnType.fieldsToJson call.2)))

theorem readTables_declarations (calls : List (String × Columns)) :
    readTables (Reading.ofFields
      (calls.map fun call => (call.1, .object (ColumnType.fieldsToJson call.2)))) .closed =
      .ok calls := by
  induction calls with
  | nil => rfl
  | cons call rest ih =>
    have columns := ColumnType.readFields_fieldsToJson call.2
    simp only [List.map_cons, Reading.ofFields, Reading.ofJson, readTables, ColumnType.readObject,
      columns, ih]
    rfl

/-- Declarations that are read make the schema that they make when they are called in turn. -/
theorem ofJson_declarations (calls : List (String × Columns)) :
    ofJson (declarations calls) = .ok (ofTables calls) := by
  have read := readTables_declarations calls
  rw [ofJson, declarations, Reading.ofJson, ofReading, read]
  rfl

/-- The columns of a table of a schema are in normal form already. -/
theorem normalColumns_of_normal {columns : Columns} (h : (ColumnType.object columns).Normal) :
    normalColumns columns = columns := by
  rw [ColumnType.Normal] at h
  rw [normalColumns, ColumnType.normalizeFields_of_normal h.2, Entries.ofList_of_ascending h.1]

theorem tables_ofTables {tables : List (String × Columns)} (ascending : Entries.Ascending tables)
    (normal : ∀ table ∈ tables, (ColumnType.object table.2).Normal) :
    (ofTables tables).tables = tables := by
  -- The last of the ascending tables is declared last, so it goes behind the others.
  induction tables using List.reverseRecOn with
  | nil => rfl
  | append_singleton front last ih =>
    obtain ⟨front_ascending, -, before⟩ := List.pairwise_append.1 ascending
    have columns := normalColumns_of_normal (normal last (by simp))
    have there := ih front_ascending fun t ht => normal t (List.mem_append_left _ ht)
    have behind : ∀ t ∈ front, t.1 < last.1 := fun t ht =>
      before t ht last (List.mem_singleton_self last)
    rw [ofTables_concat]
    show Entries.insert last.1 (normalColumns last.2) (ofTables front).tables = front ++ [last]
    rw [columns, there, Entries.insert_of_lt behind]

/-- A schema is the one that its own tables declare. -/
theorem ofTables_tables (s : Schema) : ofTables s.tables = s := by
  have tables := tables_ofTables s.ascending s.normal
  cases built : ofTables s.tables
  cases s
  rw [built] at tables
  subst tables
  rfl

theorem toJson_eq (s : Schema) : s.toJson = declarations s.tables := rfl

theorem ofJson_toJson_eq (s : Schema) : ofJson s.toJson = .ok s := by
  rw [toJson_eq, ofJson_declarations, ofTables_tables]

/-- A schema is read as it was written, so different schemas are never written alike. The same goes
for types: a type is read in its normal form, and a type in normal form as it is. What is read need
not have been written in order: declarations make the schema that they make when they are called in
turn. -/
theorem ofJson_toJson :
    (∀ s : Schema, ofJson s.toJson = .ok s) ∧ Function.Injective toJson ∧
    (∀ t : ColumnType, ColumnType.ofJson t.toJson = .ok t.normalize ∧
      ColumnType.ofJson t.normalize.toJson = .ok t.normalize) ∧
    Function.Injective ColumnType.toJson ∧
    ∀ calls, ofJson (declarations calls) = .ok (ofTables calls) := by
  refine ⟨ofJson_toJson_eq, ?_, ?_, ColumnType.toJson_injective, ofJson_declarations⟩
  · intro s t same
    have read := ofJson_toJson_eq s
    rw [same, ofJson_toJson_eq t] at read
    exact (Except.ok.inj read).symm
  · intro t
    have again : t.normalize.normalize = t.normalize :=
      ColumnType.normalize_of_normal (ColumnType.normal_normalize t)
    rw [ColumnType.ofJson_toJson_eq, ColumnType.ofJson_toJson_eq, again]
    exact ⟨rfl, rfl⟩

end Schema

end SelectQuery
