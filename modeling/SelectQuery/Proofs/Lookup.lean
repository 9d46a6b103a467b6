import Mathlib.Data.List.Induction
import SelectQuery.Proofs.Names

/-!
Where a schema looks up a path. A schema is built by declaring tables one after another, and a path
is the name of a table, the name of a column and names of fields, with dots between them. The last
declaration of a table counts, and in it the last column of a name.

What is proved:
  1. `segments_eq_iff`: the segments of a text are the texts without separators that make it up.
  2. `lookup_ofList`: sorted entries hold the last entry under each name.
  3. `walk_normalize`: a walk through normal objects goes where a walk through them as they were
     written goes.
  4. `lookup_of_declarations`: so a schema knows exactly the paths that lead to a declared type, its
     three answers agree, and declaring a table touches the paths into that table alone.
-/

namespace SelectQuery

/-! ## Segments -/

namespace Text

variable {sep : Char} {cs : List Char}

theorem segments_eq_splitOn (sep : Char) (cs : List Char) : segments sep cs = cs.splitOn sep := by
  induction cs with
  | nil => rfl
  | cons c cs ih =>
    rw [segments, List.splitOn_cons_eq_if_modifyHead, ← ih]
    simp only [beq_iff_eq]
    split
    · rfl
    · cases parts : segments sep cs with
      | nil => exact absurd parts (segments_ne_nil sep cs)
      | cons s ss => rfl

theorem not_mem_of_mem_segments {s : List Char} (h : s ∈ segments sep cs) : sep ∉ s := by
  induction cs generalizing s with
  | nil =>
    rw [List.mem_singleton.1 h]
    exact List.not_mem_nil
  | cons c cs ih =>
    rw [segments] at h
    split at h
    · rcases List.mem_cons.1 h with rfl | h
      · exact List.not_mem_nil
      · exact ih h
    · rename_i other
      cases parts : segments sep cs with
      | nil => exact absurd parts (segments_ne_nil sep cs)
      | cons p ps =>
        simp only [parts] at h ih
        rcases List.mem_cons.1 h with rfl | h
        · intro mem
          rcases List.mem_cons.1 mem with rfl | mem
          · exact other rfl
          · exact ih List.mem_cons_self mem
        · exact ih (List.mem_cons_of_mem p h)

/-- The segments of a text are the texts without separators that make it up. -/
theorem segments_eq_iff {ss : List (List Char)} :
    segments sep cs = ss ↔ ss ≠ [] ∧ (∀ s ∈ ss, sep ∉ s) ∧ cs = [sep].intercalate ss := by
  constructor
  · rintro rfl
    refine ⟨segments_ne_nil sep cs, fun _ => not_mem_of_mem_segments, ?_⟩
    rw [segments_eq_splitOn, List.intercalate_splitOn]
  · rintro ⟨some, free, rfl⟩
    rw [segments_eq_splitOn, List.splitOn_intercalate sep free some]

theorem exists_segments (h : sep ∈ cs) :
    ∃ first second rest, segments sep cs = first :: second :: rest := by
  cases parts : segments sep cs with
  | nil => exact absurd parts (segments_ne_nil sep cs)
  | cons first others =>
    cases others with
    | nil =>
      obtain ⟨-, free, alone⟩ := segments_eq_iff.1 parts
      have whole : cs = first := by simpa using alone
      exact absurd (whole ▸ h) (free first (List.mem_singleton_self first))
    | cons second rest => exact ⟨first, second, rest, rfl⟩

/-- The same of names with dots between them. -/
theorem segments_path {path : String} {names : List String} (some : names ≠ []) :
    segments '.' path.toList = names.map String.toList ↔
      (∀ n ∈ names, '.' ∉ n.toList) ∧ path = String.intercalate "." names := by
  have chars : path = String.intercalate "." names ↔
      path.toList = ['.'].intercalate (names.map String.toList) := by
    rw [← String.toList_inj, String.toList_intercalate]
    rfl
  rw [segments_eq_iff, chars]
  simp [some]

end Text

/-! ## Entries -/

namespace Entries

variable {α β : Type} {entries : List (String × α)} {name : String} {a : α}

/-- The last entry under a name. -/
def Last (entries : List (String × α)) (name : String) (a : α) : Prop :=
  ∃ before after, entries = before ++ (name, a) :: after ∧ ∀ e ∈ after, e.1 ≠ name

theorem lookup_concat (entries : List (String × α)) (e : String × α) :
    (entries ++ [e]).reverse.lookup name =
      if name = e.1 then some e.2 else entries.reverse.lookup name := by
  rw [List.reverse_append, List.reverse_singleton, List.singleton_append, lookup_cons]

theorem last_iff : Last entries name a ↔ entries.reverse.lookup name = some a := by
  rw [List.lookup_eq_some_iff]
  constructor
  · rintro ⟨before, after, rfl, later⟩
    refine ⟨after.reverse, before.reverse, by simp, ?_⟩
    intro e he
    exact bne_iff_ne.2 (later e (List.mem_reverse.1 he)).symm
  · rintro ⟨after, before, reversed, later⟩
    refine ⟨before.reverse, after.reverse, ?_, ?_⟩
    · simpa using congrArg List.reverse reversed
    · intro e he
      exact (bne_iff_ne.1 (later e (List.mem_reverse.1 he))).symm

/-- Sorted entries hold the last entry under each name. -/
theorem lookup_ofList (entries : List (String × α)) (name : String) :
    (ofList entries).lookup name = entries.reverse.lookup name := by
  induction entries using List.reverseRecOn with
  | nil => rfl
  | append_singleton entries e ih =>
    rw [lookup_concat, ← ih, ofList, List.foldl_append, List.foldl_cons, List.foldl_nil,
      lookup_insert]
    rfl

theorem lookup_map (f : α → β) (entries : List (String × α)) (name : String) :
    (entries.map fun e => (e.1, f e.2)).lookup name = (entries.lookup name).map f := by
  induction entries with
  | nil => rfl
  | cons e rest ih =>
    rw [List.map_cons, lookup_cons, ih, lookup_cons]
    split <;> rfl

theorem lookup_filter {p : String × α → Bool} (h : ∀ e, e.1 = name → p e) :
    (entries.filter p).lookup name = entries.lookup name := by
  induction entries with
  | nil => rfl
  | cons e rest ih =>
    rw [lookup_cons]
    by_cases same : name = e.1
    · rw [List.filter_cons_of_pos (h e same.symm), lookup_cons, if_pos same, if_pos same]
    · rw [if_neg same, List.filter_cons]
      split
      · rw [lookup_cons, if_neg same, ih]
      · exact ih

/-- An entry whose name comes behind all others is put last. -/
theorem insert_of_lt (h : ∀ e ∈ entries, e.1 < name) :
    insert name a entries = entries ++ [(name, a)] := by
  induction entries with
  | nil => rfl
  | cons e rest ih =>
    have before := h e List.mem_cons_self
    rw [insert, if_neg (String.lt_asymm before), if_pos before,
      ih fun d hd => h d (List.mem_cons_of_mem e hd), List.cons_append]

theorem ofList_of_ascending (h : Ascending entries) : ofList entries = entries := by
  induction entries using List.reverseRecOn with
  | nil => rfl
  | append_singleton entries e ih =>
    obtain ⟨front, -, before⟩ := List.pairwise_append.1 h
    rw [ofList, List.foldl_append, List.foldl_cons, List.foldl_nil]
    have same : ofList entries = entries := ih front
    rw [ofList] at same
    rw [same, insert_of_lt fun d hd => before d hd e (List.mem_singleton_self e)]

end Entries

/-! ## Walks -/

namespace ColumnType

/-- Walking from a type through the fields of objects, each under one `optional` at most, ends at
another type. Of several fields with one name the last counts. -/
inductive Reaches : ColumnType → List String → ColumnType → Prop where
  | nil (t : ColumnType) : Reaches t [] t
  | field {fields : List (String × ColumnType)} {name : String} {t u : ColumnType}
    {rest : List String} (found : Entries.Last fields name t) (later : Reaches t rest u) :
    Reaches (object fields) (name :: rest) u
  | optional {fields : List (String × ColumnType)} {name : String} {u : ColumnType}
    {rest : List String} (bare : Reaches (object fields) (name :: rest) u) :
    Reaches (optional (object fields)) (name :: rest) u

theorem reaches_nil {t u : ColumnType} : t.Reaches [] u ↔ u = t := by
  constructor
  · rintro ⟨⟩
    rfl
  · rintro rfl
    exact .nil u

theorem reaches_cons {t u : ColumnType} {name : String} {rest : List String} :
    t.Reaches (name :: rest) u ↔ ∃ fields, t.stripOptional = object fields ∧
      ∃ v, Entries.Last fields name v ∧ v.Reaches rest u := by
  constructor
  · intro h
    cases h with
    | field found later => exact ⟨_, rfl, _, found, later⟩
    | optional bare =>
      cases bare with
      | field found later => exact ⟨_, rfl, _, found, later⟩
  · rintro ⟨fields, stripped, v, found, later⟩
    cases t with
    | object fs =>
      obtain rfl := ColumnType.object.inj stripped
      exact .field found later
    | optional inner =>
      rw [stripOptional] at stripped
      rw [stripped]
      exact .optional (.field found later)
    | string | number | boolean | date | array | union _ => cases stripped

theorem normalizeFields_eq_map (fields : List (String × ColumnType)) :
    normalizeFields fields = fields.map fun f => (f.1, f.2.normalize) := by
  induction fields with
  | nil => simp [normalizeFields]
  | cons f rest ih => simp [normalizeFields, ih]

/-- Of the fields of a normal object, each has the last type under its name. -/
theorem lookup_normalizeFields (fields : List (String × ColumnType)) (name : String) :
    (Entries.ofList (normalizeFields fields)).lookup name =
      (fields.reverse.lookup name).map normalize := by
  rw [Entries.lookup_ofList, normalizeFields_eq_map, ← List.map_reverse, Entries.lookup_map]

theorem stripOptional_normalize (t : ColumnType) :
    t.normalize.stripOptional = t.stripOptional.normalize := by
  cases t with
  | optional inner => simp [normalize, stripOptional]
  | string | number | boolean | date | array | object _ | union _ => simp [normalize, stripOptional]

theorem stripOptional_eq_iff {t bare : ColumnType} : t.stripOptional = bare ↔
    t = .optional bare ∨ t = bare ∧ ∀ inner, bare ≠ .optional inner := by
  cases t with
  | optional inner =>
    rw [stripOptional, optional.injEq]
    refine ⟨.inl, fun h => h.resolve_right ?_⟩
    rintro ⟨rfl, no_optional⟩
    exact no_optional inner rfl
  | string | number | boolean | date | array | object _ | union _ =>
    constructor
    · rintro rfl
      exact .inr ⟨rfl, by simp [stripOptional]⟩
    · rintro (wrapped | ⟨rfl, -⟩)
      · cases wrapped
      · rfl

theorem normal_of_last {fields : List (String × ColumnType)} {name : String} {t : ColumnType}
    (h : NormalFields fields) (found : Entries.Last fields name t) : t.Normal := by
  obtain ⟨before, after, rfl, -⟩ := found
  exact normalFields_iff.1 h (name, t) (by simp)

theorem normal_of_reaches {t u : ColumnType} {names : List String} (h : t.Normal)
    (walked : t.Reaches names u) : u.Normal := by
  induction walked with
  | nil => exact h
  | field found later ih =>
    rw [Normal] at h
    exact ih (normal_of_last h.2 found)
  | optional bare ih =>
    rw [Normal] at h
    exact ih h

mutual

/-- Normal types stay as they are. -/
theorem normalize_of_normal {t : ColumnType} (h : t.Normal) : t.normalize = t := by
  cases t with
  | object fields =>
    rw [Normal] at h
    rw [normalize, normalizeFields_of_normal h.2, Entries.ofList_of_ascending h.1]
  | optional inner =>
    rw [Normal] at h
    rw [normalize, normalize_of_normal h]
  | union ts =>
    rw [Normal] at h
    rw [normalize, normalizeAll_of_normal h]
  | string | number | boolean | date | array => simp [normalize]

theorem normalizeFields_of_normal {fields : List (String × ColumnType)}
    (h : NormalFields fields) : normalizeFields fields = fields := by
  cases fields with
  | nil => simp [normalizeFields]
  | cons f rest =>
    obtain ⟨k, t⟩ := f
    rw [NormalFields] at h
    rw [normalizeFields, normalize_of_normal h.1, normalizeFields_of_normal h.2]

theorem normalizeAll_of_normal {ts : List ColumnType} (h : NormalAll ts) :
    normalizeAll ts = ts := by
  cases ts with
  | nil => simp [normalizeAll]
  | cons t ts =>
    rw [NormalAll] at h
    rw [normalizeAll, normalize_of_normal h.1, normalizeAll_of_normal h.2]

end

end ColumnType

namespace Schema

/-- A walk through normal objects goes where a walk through them as they were written goes. -/
theorem walk_normalize {t u : ColumnType} {names : List String} :
    walk t.normalize (names.map String.toList) = some u ↔
      ∃ v, t.Reaches names v ∧ u = v.normalize := by
  induction names generalizing t with
  | nil => simp [walk, ColumnType.reaches_nil, eq_comm]
  | cons name rest ih =>
    rw [List.map_cons, walk, ColumnType.stripOptional_normalize]
    simp only [ColumnType.reaches_cons, String.ofList_toList]
    cases stripped : t.stripOptional with
    | object fields =>
      rw [ColumnType.normalize]
      simp only [ColumnType.lookup_normalizeFields, ColumnType.object.injEq, exists_eq_left',
        Entries.last_iff]
      cases fields.reverse.lookup name with
      | none => simp
      | some inner => simp [ih]
    | string | number | boolean | date | array | optional _ | union _ =>
      simp [ColumnType.normalize]

/-! ## Declarations -/

theorem columns?_table (s : Schema) (name : String) (columns : Columns) (table : String) :
    (s.table name columns).columns? table =
      if table = name then some (normalColumns columns) else s.columns? table :=
  Entries.lookup_insert

theorem ofTables_concat (calls : List (String × Columns)) (call : String × Columns) :
    ofTables (calls ++ [call]) = (ofTables calls).table call.1 call.2 := by
  rw [ofTables, List.foldl_append]
  rfl

/-- The last declaration of a table counts. -/
theorem columns?_ofTables (calls : List (String × Columns)) (table : String) :
    (ofTables calls).columns? table = (calls.reverse.lookup table).map normalColumns := by
  induction calls using List.reverseRecOn with
  | nil => rfl
  | append_singleton calls call ih =>
    rw [ofTables_concat, columns?_table, Entries.lookup_concat, ih]
    split <;> rfl

/-- A path is known if it is a table of the schema, a column of the table, and fields to walk
through, with dots between them. -/
theorem declaredAt_eq_some_iff {s : Schema} {path : String} {type : ColumnType} :
    s.declaredAt path = some type ↔ ∃ table column fields,
      (path = String.intercalate "." (table :: column :: fields) ∧
        ∀ n ∈ table :: column :: fields, '.' ∉ n.toList) ∧
      ∃ columns, s.columns? table = some columns ∧
        ∃ t, columns.lookup column = some t ∧ walk t (fields.map String.toList) = some type := by
  constructor
  · intro found
    unfold declaredAt at found
    split at found
    · rename_i table column fields segments
      simp only [Option.bind_eq_bind, Option.bind_eq_some_iff] at found
      have names : Text.segments '.' path.toList =
          (String.ofList table :: String.ofList column :: fields.map String.ofList).map
            String.toList := by
        simp [segments, Function.comp_def]
      obtain ⟨free, made⟩ := (Text.segments_path (List.cons_ne_nil _ _)).1 names
      obtain ⟨columns, tables, t, inside, walked⟩ := found
      refine ⟨_, _, _, ⟨made, free⟩, columns, tables, t, inside, ?_⟩
      simpa [Function.comp_def] using walked
    · cases found
  · rintro ⟨table, column, fields, ⟨made, free⟩, columns, tables, t, inside, walked⟩
    have segments := (Text.segments_path (List.cons_ne_nil _ _)).2 ⟨free, made⟩
    simp only [List.map_cons] at segments
    unfold declaredAt
    simp [segments, tables, inside, walked]

/-- What declarations say of a column and the fields inside it: the last declaration of the table
counts, in it the last column of the name, and a walk from its type ends at the given one. -/
def Declared (calls : List (String × Columns)) (table column : String) (fields : List String)
    (t : ColumnType) : Prop :=
  ∃ columns u, Entries.Last calls table columns ∧ Entries.Last columns column u ∧ u.Reaches fields t

/-- The path leads to the type: it is a table, a column and fields that are declared so, with dots
between their names, which have none. -/
def Leads (calls : List (String × Columns)) (path : String) (t : ColumnType) : Prop :=
  ∃ table column fields, (path = String.intercalate "." (table :: column :: fields) ∧
    ∀ n ∈ table :: column :: fields, '.' ∉ n.toList) ∧ Declared calls table column fields t

theorem declaredAt_ofTables {calls : List (String × Columns)} {path : String} {type : ColumnType} :
    (ofTables calls).declaredAt path = some type ↔
      ∃ t, Leads calls path t ∧ type = t.normalize := by
  have split : (∃ t, Leads calls path t ∧ type = t.normalize) ↔ ∃ table column fields,
      (path = String.intercalate "." (table :: column :: fields) ∧
        ∀ n ∈ table :: column :: fields, '.' ∉ n.toList) ∧
      ∃ t, Declared calls table column fields t ∧ type = t.normalize := by
    unfold Leads
    constructor
    · rintro ⟨t, ⟨table, column, fields, named, declared⟩, same⟩
      exact ⟨table, column, fields, named, t, declared, same⟩
    · rintro ⟨table, column, fields, named, t, declared, same⟩
      exact ⟨t, ⟨table, column, fields, named, declared⟩, same⟩
  rw [declaredAt_eq_some_iff, split]
  refine exists_congr fun table => exists_congr fun column => exists_congr fun fields =>
    and_congr_right fun _ => ?_
  simp only [Declared, columns?_ofTables, Entries.last_iff]
  cases calls.reverse.lookup table with
  | none => simp
  | some columns =>
    simp only [Option.map_some, Option.some.injEq, exists_eq_left', normalColumns,
      ColumnType.lookup_normalizeFields, exists_and_left]
    cases columns.reverse.lookup column with
    | none => simp
    | some u => simp [walk_normalize]

/-- The declarations without the tables and columns whose names have a dot. -/
def undotted (calls : List (String × Columns)) : List (String × Columns) :=
  (calls.filter fun call => !Column.isDotted call.1).map fun call =>
    (call.1, call.2.filter fun column => !Column.isDotted column.1)

theorem reverse_lookup_filter {α : Type} {entries : List (String × α)} {name : String}
    (h : '.' ∉ name.toList) :
    (entries.filter fun e => !Column.isDotted e.1).reverse.lookup name =
      entries.reverse.lookup name := by
  rw [← List.filter_reverse]
  apply Entries.lookup_filter
  rintro e rfl
  simpa [Column.isDotted] using h

theorem declared_undotted {table column : String} {fields : List String} {t : ColumnType}
    (ht : '.' ∉ table.toList) (hc : '.' ∉ column.toList) :
    Declared (undotted calls) table column fields t ↔ Declared calls table column fields t := by
  simp only [Declared, Entries.last_iff, undotted]
  rw [← List.map_reverse, Entries.lookup_map, reverse_lookup_filter ht]
  cases calls.reverse.lookup table with
  | none => simp
  | some columns => simp [reverse_lookup_filter hc]

theorem declaredAt_undotted (calls : List (String × Columns)) (path : String) :
    (ofTables (undotted calls)).declaredAt path = (ofTables calls).declaredAt path := by
  have same (t : ColumnType) : Leads (undotted calls) path t ↔ Leads calls path t := by
    refine exists_congr fun table => exists_congr fun column => exists_congr fun fields =>
      and_congr_right fun named => ?_
    exact declared_undotted (named.2 table (by simp)) (named.2 column (by simp))
  apply Option.ext
  intro type
  rw [declaredAt_ofTables, declaredAt_ofTables]
  simp only [same]

/-- A path into another table is looked up as before. -/
theorem declaredAt_table {s : Schema} {name : String} {columns : Columns} {path : String}
    (other : (Text.segments '.' path.toList).head? ≠ some name.toList) :
    (s.table name columns).declaredAt path = s.declaredAt path := by
  apply Option.ext
  intro type
  rw [declaredAt_eq_some_iff, declaredAt_eq_some_iff]
  refine exists_congr fun table => exists_congr fun column => exists_congr fun fields =>
    and_congr_right fun named => ?_
  have segments := (Text.segments_path (List.cons_ne_nil _ _)).2 named.symm
  have apart : table ≠ name := by
    rintro rfl
    exact other (by rw [segments]; rfl)
  rw [columns?_table, if_neg apart]

theorem typeAt_eq_some_iff {s : Schema} {path : String} {bare : ColumnType} :
    s.typeAt path = some bare ↔ s.declaredAt path = some (.optional bare) ∨
      s.declaredAt path = some bare ∧ ∀ inner, bare ≠ .optional inner := by
  rw [typeAt, Option.map_eq_some_iff]
  cases s.declaredAt path with
  | none => simp
  | some t => simp [ColumnType.stripOptional_eq_iff]

theorem leads_normal {t : ColumnType} (normal : ∀ call ∈ calls, ColumnType.NormalFields call.2)
    (h : Leads calls path t) : t.Normal := by
  obtain ⟨table, column, fields, -, columns, u, ⟨before, after, rfl, -⟩, inside, walked⟩ := h
  have columns_normal := normal (table, columns) (by simp)
  exact ColumnType.normal_of_reaches (ColumnType.normal_of_last columns_normal inside) walked

/-- A schema built by declaring tables knows exactly the paths that lead to a declared type, and
gives the type in normal form, which is the type itself where the declared types are normal; tables
and columns whose names have a dot do not count. Its other answers are this one without one
`optional` around it, and whether this one accepts a value. Declaring a further table changes no
answer about a path whose first name is another one. -/
theorem lookup_of_declarations (calls : List (String × Columns)) (path : String) :
    (∀ type, (ofTables calls).declaredAt path = some type ↔
      ∃ t, Leads calls path t ∧ type = t.normalize) ∧
    ((∀ call ∈ calls, ColumnType.NormalFields call.2) →
      ∀ type, (ofTables calls).declaredAt path = some type ↔ Leads calls path type) ∧
    (ofTables (undotted calls)).declaredAt path = (ofTables calls).declaredAt path ∧
    (∀ bare, (ofTables calls).typeAt path = some bare ↔
      (ofTables calls).declaredAt path = some (.optional bare) ∨
      (ofTables calls).declaredAt path = some bare ∧ ∀ inner, bare ≠ .optional inner) ∧
    (∀ v, (ofTables calls).allows path v ↔
      ∃ type, (ofTables calls).declaredAt path = some type ∧ type.accepts v) ∧
    ∀ name columns, (Text.segments '.' path.toList).head? ≠ some name.toList →
      ((ofTables calls).table name columns).declaredAt path = (ofTables calls).declaredAt path ∧
      ((ofTables calls).table name columns).typeAt path = (ofTables calls).typeAt path ∧
      ((ofTables calls).table name columns).allows path = (ofTables calls).allows path := by
  refine ⟨fun _ => declaredAt_ofTables, ?_, declaredAt_undotted calls path,
    fun _ => typeAt_eq_some_iff, ?_, ?_⟩
  · intro normal type
    rw [declaredAt_ofTables]
    constructor
    · rintro ⟨t, leads, rfl⟩
      rwa [ColumnType.normalize_of_normal (leads_normal normal leads)]
    · intro leads
      exact ⟨type, leads, (ColumnType.normalize_of_normal (leads_normal normal leads)).symm⟩
  · intro v
    rw [allows, Option.any_eq_true]
  · intro name columns other
    have same : ((ofTables calls).table name columns).declaredAt path =
        (ofTables calls).declaredAt path := declaredAt_table other
    refine ⟨same, ?_, ?_⟩
    · rw [typeAt, same, typeAt]
    · funext v
      rw [allows, same, allows]

/-- A table that is declared twice, and in it a column that is. -/
theorem lookup_of_repeated_declarations :
    let profile : ColumnType :=
      .optional (.object [("a.b", .date), ("city", .optional .string)])
    let users : Columns := [("profile", .string), ("x.y", .date), ("profile", profile)]
    let calls : List (String × Columns) :=
      [("users", [("id", .number)]), ("roles", []), ("users", users)]
    Leads calls "users.profile.city" (.optional .string) ∧
    (ofTables calls).declaredAt "users.profile.city" = some (.optional .string) ∧
    ((ofTables calls).table "roles" [("id", .number)]).declaredAt "users.profile.city" =
      some (.optional .string) := by
  intro profile users calls
  have leads : Leads calls "users.profile.city" (.optional .string) := by
    refine ⟨"users", "profile", ["city"], ⟨by decide +kernel, by decide⟩, users, profile, ?_⟩
    refine ⟨?_, ?_, ?_⟩
    · exact ⟨[("users", [("id", .number)]), ("roles", [])], [], rfl, by simp⟩
    · exact ⟨[("profile", .string), ("x.y", .date)], [], rfl, by simp⟩
    · exact .optional (.field ⟨[("a.b", .date)], [], rfl, by simp⟩ (.nil _))
  have normal : ∀ call ∈ calls, ColumnType.NormalFields call.2 := by
    have ascending : Entries.Ascending [("a.b", ColumnType.date), ("city", .optional .string)] :=
      List.pairwise_pair.2 (by decide +kernel)
    simp [calls, users, profile, ColumnType.NormalFields, ColumnType.Normal, ascending]
  obtain ⟨-, exact_types, -, -, -, others⟩ := lookup_of_declarations calls "users.profile.city"
  have found := (exact_types normal _).2 leads
  refine ⟨leads, found, ?_⟩
  rw [(others "roles" [("id", .number)] (by decide)).1, found]

end Schema

end SelectQuery
