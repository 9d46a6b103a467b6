import Mathlib.Data.List.Basic
import SelectQuery.Execution
import SelectQuery.Proofs.Lookup
import SelectQuery.Proofs.Sqlite.Reference
import SelectQuery.Proofs.Stem

/-!
Aliases that collide. A projected column gets the alias `<stem of the table>_<column>`, and
underscores stand in the names of tables and columns too, so columns of two tables can get one
alias. A row of a result holds its values under the aliases, and one value under each.

What is proved:
  1. `distinct_eq_eraseDups`: a selection keeps each entry where it first stands.
  2. `key_eq_iff`: two columns get one alias exactly if they have the same name and their tables the
     same stem, or the stem of one table goes on with what the other column starts with.
  3. `key_injective_of_plain`: stems that differ and have no underscores exclude both.
  4. `entry_injective`: the entries of different columns differ all the same.
  5. `rows_complete_iff` (and `rows_incomplete`, where it fails): rows have a value for each
     projected column exactly if no two of them get one alias.
-/

namespace SelectQuery

open Text (isIdentifier cut? Only)
open Sqlite (nameChars_of_identifier undotted_of_identifier)

namespace Column

/-! ## Distinct entries -/

section Distinct

variable {α β : Type} [DecidableEq α] [DecidableEq β]

theorem eraseDups_concat (l : List α) (a : α) :
    (l ++ [a]).eraseDups = if a ∈ l then l.eraseDups else l.eraseDups ++ [a] := by
  rw [List.eraseDups_append]
  by_cases known : a ∈ l <;> simp [List.removeAll, List.eraseDups_cons, known]

theorem nodup_eraseDups (l : List α) : l.eraseDups.Nodup := by
  induction l using List.reverseRecOn with
  | nil => exact List.nodup_nil
  | append_singleton l a ih =>
    rw [eraseDups_concat]
    split
    · exact ih
    · rename_i new
      refine List.nodup_append.2 ⟨ih, List.pairwise_singleton _ a, ?_⟩
      rintro b hb c hc rfl
      exact new (List.mem_singleton.1 hc ▸ List.mem_eraseDups.1 hb)

/-- What is written differently stays apart. -/
theorem eraseDups_map {f : α → β} {l : List α} (injective : ∀ a ∈ l, ∀ b ∈ l, f a = f b → a = b) :
    (l.map f).eraseDups = l.eraseDups.map f := by
  induction l using List.reverseRecOn with
  | nil => rfl
  | append_singleton l a ih =>
    have known : f a ∈ l.map f ↔ a ∈ l := by
      refine ⟨fun written => ?_, List.mem_map_of_mem⟩
      obtain ⟨b, hb, same⟩ := List.mem_map.1 written
      exact injective b (by simp [hb]) a (by simp) same ▸ hb
    rw [List.map_append, List.map_singleton, eraseDups_concat, eraseDups_concat,
      ih fun b hb c hc => injective b (by simp [hb]) c (by simp [hc])]
    simp only [known]
    split <;> simp

end Distinct

theorem distinct_eq_eraseDups (names : List String) : distinct names = names.eraseDups := by
  induction names using List.reverseRecOn with
  | nil => rfl
  | append_singleton names name ih =>
    have last : distinct (names ++ [name]) =
        if (distinct names).contains name then distinct names else distinct names ++ [name] := by
      rw [distinct, List.foldl_append]
      rfl
    rw [last, eraseDups_concat, ih, List.contains_eq_mem]
    simp only [decide_eq_true_eq, List.mem_eraseDups]

/-! ## Columns of tables -/

/-- Whether the text names a column: an identifier, or the identifiers of a table and of a column of
it with a dot between them. -/
def isColumnName (column : String) : Bool :=
  match cut? '.' column.toList with
  | some (table, name) => isIdentifier table && isIdentifier name
  | none => isIdentifier column.toList

/-- A column and the table it belongs to. -/
@[ext]
structure Owned where
  table : String
  name : String
deriving DecidableEq

namespace Owned

variable {stem : String → String} {base : String} {c d : Owned}

/-- The column that a name stands for. A bare one belongs to the base table. -/
def of (base column : String) : Owned :=
  match cut? '.' column.toList with
  | some (table, name) => ⟨String.ofList table, String.ofList name⟩
  | none => ⟨base, column⟩

/-- The name under which a row holds the column. -/
def key (stem : String → String) (c : Owned) : String := stem c.table ++ "_" ++ c.name

/-- The column as it stands in a statement. -/
def entry (stem : String → String) (c : Owned) : String :=
  c.table ++ "." ++ c.name ++ " AS " ++ c.key stem

/-- Whether the column can be projected from the base table and the tables joined with it. -/
def Named (base : String) (c : Owned) : Prop :=
  (c.table = base ∨ isIdentifier c.table.toList) ∧ isIdentifier c.name.toList

theorem aliased_eq (table name : String) :
    aliased stem table name = entry stem ⟨table, name⟩ := by
  simp only [aliased, entry, key, String.append_assoc]

theorem named_of {column : String} (h : isColumnName column) : (of base column).Named base := by
  rw [isColumnName] at h
  rw [of]
  cases cut : cut? '.' column.toList with
  | none =>
    rw [cut] at h
    exact ⟨.inl rfl, h⟩
  | some pair =>
    rw [cut] at h
    obtain ⟨table, name⟩ := Bool.and_eq_true_iff.1 h
    exact ⟨.inr (by simpa using table), by simpa using name⟩

theorem only_of_columnName {column : String} (h : isColumnName column) :
    Only isNameChar column.toList := by
  rw [isColumnName] at h
  cases cut : cut? '.' column.toList with
  | none =>
    rw [cut] at h
    exact nameChars_of_identifier h
  | some pair =>
    rw [cut] at h
    obtain ⟨table, name⟩ := Bool.and_eq_true_iff.1 h
    rw [eq_of_cut? cut]
    exact (nameChars_of_identifier table).append (.cons (by decide) (nameChars_of_identifier name))

/-- In a statement that joins tables each column is written with its table and its alias. -/
theorem selected_eq {column : String} (base : String) (h : isColumnName column) :
    selected stem column base true = (of base column).entry stem := by
  have no_alias := Sqlite.hasAlias_of_only (only_of_columnName h)
  rw [selected, no_alias, if_neg Bool.false_ne_true, of]
  cases cut? '.' column.toList with
  | none => exact aliased_eq base column
  | some pair => exact aliased_eq _ _

/-! ## Equal aliases -/

/-- Two columns clash if they have the same name and their tables the same stem, or if the stem of
one table is that of the other with an underscore and a text behind it, and the other column starts
with this text and an underscore. -/
def Clash (stem : String → String) (c d : Owned) : Prop :=
  (stem c.table = stem d.table ∧ c.name = d.name) ∨
  (∃ middle, stem d.table = stem c.table ++ "_" ++ middle ∧
    c.name = middle ++ "_" ++ d.name) ∨
  ∃ middle, stem c.table = stem d.table ++ "_" ++ middle ∧
    d.name = middle ++ "_" ++ c.name

/-- Texts with an underscore between them are equal if both are, or if the underscore of one is
behind that of the other. -/
theorem joined_eq_iff {a b x y : List Char} : a ++ '_' :: x = b ++ '_' :: y ↔
    (a = b ∧ x = y) ∨ (∃ m, b = a ++ '_' :: m ∧ x = m ++ '_' :: y) ∨
      ∃ m, a = b ++ '_' :: m ∧ y = m ++ '_' :: x := by
  constructor
  · intro same
    rcases List.append_eq_append_iff.1 same with ⟨m, longer, rest⟩ | ⟨m, longer, rest⟩
    · cases m with
      | nil => exact .inl ⟨by simpa using longer.symm, by simpa using rest⟩
      | cons e m =>
        obtain ⟨rfl, tail⟩ := List.cons_eq_cons.1 (rest.trans List.cons_append)
        exact .inr (.inl ⟨m, longer, tail⟩)
    · cases m with
      | nil => exact .inl ⟨by simpa using longer, by simpa using rest.symm⟩
      | cons e m =>
        obtain ⟨rfl, tail⟩ := List.cons_eq_cons.1 (rest.trans List.cons_append)
        exact .inr (.inr ⟨m, longer, tail⟩)
  · rintro (⟨rfl, rfl⟩ | ⟨m, rfl, rfl⟩ | ⟨m, rfl, rfl⟩) <;> simp

/-- Two columns get one alias exactly if they clash. -/
theorem key_eq_iff : c.key stem = d.key stem ↔ c.Clash stem d := by
  have chars (e : Owned) : (e.key stem).toList = (stem e.table).toList ++ '_' :: e.name.toList := by
    simp [key]
  have texts {p : List Char → Prop} : (∃ m, p m) ↔ ∃ middle : String, p middle.toList :=
    ⟨fun ⟨m, h⟩ => ⟨String.ofList m, by simpa using h⟩, fun ⟨middle, h⟩ => ⟨_, h⟩⟩
  rw [← String.toList_inj, chars, chars, joined_eq_iff, texts, texts]
  simp [Clash, ← String.toList_inj]

/-- Stems without underscores keep columns apart, unless two tables have the same one. -/
theorem key_injective_of_plain {columns : List Owned}
    (plain : ∀ c ∈ columns, '_' ∉ (stem c.table).toList)
    (tables : ∀ c ∈ columns, ∀ d ∈ columns, stem c.table = stem d.table → c.table = d.table) :
    ∀ c ∈ columns, ∀ d ∈ columns, c.key stem = d.key stem → c = d := by
  intro c hc d hd same
  have underscore (root middle : String) : '_' ∈ (root ++ "_" ++ middle).toList := by simp
  rcases key_eq_iff.1 same with ⟨stems, names⟩ | ⟨middle, longer, -⟩ | ⟨middle, longer, -⟩
  · exact Owned.ext (tables c hc d hd stems) names
  · exact absurd (longer ▸ underscore _ middle) (plain d hd)
  · exact absurd (longer ▸ underscore _ middle) (plain c hc)

/-! ## Different entries -/

theorem entry_toList (c : Owned) :
    (c.entry stem).toList = c.table.toList ++ '.' :: (c.name ++ " AS " ++ c.key stem).toList := by
  simp [entry]

/-- If the table is an identifier, it stands before the only dot of the entry. -/
theorem table_of_entry (keeps : KeepsNames stem) (ht : isIdentifier c.table.toList)
    (hn : isIdentifier c.name.toList) (same : c.entry stem = d.entry stem) : c.table = d.table := by
  have key : '.' ∉ (c.key stem).toList := undotted_of_identifier (keeps.isIdentifier_alias ht hn)
  have behind : '.' ∉ (c.name ++ " AS " ++ c.key stem).toList := by
    simp [undotted_of_identifier hn, key]
  rw [← String.toList_inj, entry_toList, entry_toList,
    List.append_cons_inj_of_notMem (undotted_of_identifier ht) behind] at same
  exact String.toList_inj.1 same.1

/-- Entries of one table have the same length only if the names have. -/
theorem name_of_entry {table name name' : String}
    (same : entry stem ⟨table, name⟩ = entry stem ⟨table, name'⟩) : name = name' := by
  have lengths := congrArg (fun text => text.toList.length) same
  simp only [entry, key, String.toList_append, List.length_append] at lengths
  simp only [entry, key, ← String.toList_inj, String.toList_append, List.append_assoc] at same
  have front := List.append_cancel_left (List.append_cancel_left same)
  exact String.toList_inj.1 (List.append_inj front (by omega)).1

theorem entry_injective (keeps : KeepsNames stem) (hc : c.Named base) (hd : d.Named base)
    (same : c.entry stem = d.entry stem) : c = d := by
  have tables : c.table = d.table := by
    rcases hc.1 with left | left
    · rcases hd.1 with right | right
      · exact left.trans right.symm
      · exact (table_of_entry keeps right hd.2 same.symm).symm
    · exact table_of_entry keeps left hc.2 same
  obtain ⟨table, name⟩ := c
  obtain ⟨table', name'⟩ := d
  subst tables
  rw [name_of_entry same]

end Owned

/-! ## Rows -/

variable {stem : String → String} {base : String} {columns : List String}

/-- The columns that some names stand for, each once. -/
def ownedBy (base : String) (columns : List String) : List Owned :=
  (columns.map (Owned.of base)).eraseDups

theorem mem_ownedBy {c : Owned} :
    c ∈ ownedBy base columns ↔ ∃ column ∈ columns, Owned.of base column = c := by
  rw [ownedBy, List.mem_eraseDups, List.mem_map]

/-- A statement that joins tables has an entry for each column. -/
theorem selection_eq (keeps : KeepsNames stem) (base : String)
    (names : ∀ c ∈ columns, isColumnName c) :
    selection stem columns base true = (ownedBy base columns).map (Owned.entry stem) := by
  have entries : columns.map (selected stem · base true) =
      (columns.map (Owned.of base)).map (Owned.entry stem) := by
    rw [List.map_map]
    exact List.map_congr_left fun c hc => Owned.selected_eq base (names c hc)
  have named : ∀ c ∈ columns.map (Owned.of base), c.Named base := by
    intro c hc
    obtain ⟨column, known, rfl⟩ := List.mem_map.1 hc
    exact Owned.named_of (names column known)
  rw [selection, distinct_eq_eraseDups, entries, ownedBy]
  exact eraseDups_map fun c hc d hd => Owned.entry_injective keeps (named c hc) (named d hd)

/-- The row with the values of the columns under their aliases. Of two values under one alias the
later one stays. -/
def row (stem : String → String) (columns : List Owned) (value : Owned → Json) : Row :=
  Entries.ofList (columns.map fun c => (c.key stem, value c))

/-- Under the alias of a column a row has the value of some column with that alias. -/
theorem exists_lookup_row {columns : List Owned} (value : Owned → Json) {c : Owned}
    (hc : c ∈ columns) :
    ∃ d ∈ columns, d.key stem = c.key stem ∧
      (row stem columns value).lookup (c.key stem) = some (value d) := by
  have here : (c.key stem, value c) ∈ (columns.map fun d => (d.key stem, value d)).reverse :=
    List.mem_reverse.2 (List.mem_map_of_mem hc)
  rw [row, Entries.lookup_ofList]
  cases found : (columns.map fun d => (d.key stem, value d)).reverse.lookup (c.key stem) with
  | none =>
    have other := List.lookup_eq_none_iff.1 found _ here
    simp at other
  | some v =>
    obtain ⟨before, after, split, -⟩ := List.lookup_eq_some_iff.1 found
    have inside : (c.key stem, v) ∈ (columns.map fun d => (d.key stem, value d)).reverse := by
      rw [split]
      exact List.mem_append_right _ List.mem_cons_self
    obtain ⟨d, hd, same⟩ := List.mem_map.1 (List.mem_reverse.1 inside)
    obtain ⟨key, rfl⟩ := Prod.mk.inj same
    exact ⟨d, hd, key, rfl⟩

/-- Rows have each value exactly if different columns have different aliases. -/
theorem lookup_row_iff {columns : List Owned} :
    (∀ value : Owned → Json, ∀ c ∈ columns,
      (row stem columns value).lookup (c.key stem) = some (value c)) ↔
      ∀ c ∈ columns, ∀ d ∈ columns, c ≠ d → c.key stem ≠ d.key stem := by
  constructor
  · intro complete c hc d hd different same
    have at_c := complete (fun e => .bool (e == c)) c hc
    have at_d := complete (fun e => .bool (e == c)) d hd
    rw [← same, at_c] at at_d
    simp [different.symm] at at_d
  · intro apart value c hc
    obtain ⟨d, hd, key, found⟩ := exists_lookup_row value hc
    have same : d = c := by
      by_contra different
      exact apart d hd c hc different key
    rw [found, same]

/-- A statement that joins tables has one entry for each column that is named, with the table and
the alias of the column. Two columns have one alias exactly if they clash, and rows have the values
of all columns exactly if no two of them do. So it is with the singular of the table as its stem, and
with every stem that makes names of names. -/
theorem rows_complete_iff (base : String) (names : ∀ c ∈ columns, isColumnName c) :
    KeepsNames aliasStem ∧ ∀ stem, KeepsNames stem →
      selection stem columns base true = (ownedBy base columns).map (Owned.entry stem) ∧
      (ownedBy base columns).Nodup ∧
      (∀ c, c ∈ ownedBy base columns ↔ ∃ column ∈ columns, Owned.of base column = c) ∧
      (∀ c d : Owned, c.key stem = d.key stem ↔ c.Clash stem d) ∧
      ((∀ value : Owned → Json, ∀ c ∈ ownedBy base columns,
          (row stem (ownedBy base columns) value).lookup (c.key stem) = some (value c)) ↔
        ∀ c ∈ ownedBy base columns, ∀ d ∈ ownedBy base columns, c ≠ d → ¬ c.Clash stem d) := by
  refine ⟨keepsNames_aliasStem, fun stem keeps => ?_⟩
  refine ⟨selection_eq keeps base names, nodup_eraseDups _, fun _ => mem_ownedBy,
    fun _ _ => Owned.key_eq_iff, ?_⟩
  rw [lookup_row_iff]
  simp only [ne_eq, Owned.key_eq_iff]

/-- Columns of two tables, one of them named twice, with aliases that differ. -/
theorem rows_complete_of_users_and_roles :
    let columns := ["users.name", "roles.name", "id", "users.name"]
    selection aliasStem columns "users" true =
      ["users.name AS user_name", "roles.name AS role_name", "users.id AS user_id"] ∧
    ∀ value : Owned → Json, ∀ c ∈ ownedBy "users" columns,
      (row aliasStem (ownedBy "users" columns) value).lookup (c.key aliasStem) =
        some (value c) := by
  intro columns
  have owned : ownedBy "users" columns =
      [⟨"users", "name"⟩, ⟨"roles", "name"⟩, ⟨"users", "id"⟩] := by decide +kernel
  have stems : aliasStem "users" = "user" ∧ aliasStem "roles" = "role" := by decide +kernel
  obtain ⟨keeps, each⟩ :=
    rows_complete_iff "users" (show ∀ c ∈ columns, isColumnName c by decide)
  obtain ⟨entries, -, -, clash, complete⟩ := each aliasStem keeps
  refine ⟨?_, complete.2 ?_⟩
  · rw [entries, owned]
    simp [Owned.entry, Owned.key, stems]
  · intro c hc d hd different shared
    have plain : ∀ c ∈ ownedBy "users" columns, '_' ∉ (aliasStem c.table).toList := by
      simp [owned, stems]
    have tables : ∀ c ∈ ownedBy "users" columns, ∀ d ∈ ownedBy "users" columns,
        aliasStem c.table = aliasStem d.table → c.table = d.table := by
      simp [owned, stems]
    exact different (Owned.key_injective_of_plain plain tables c hc d hd ((clash c d).2 shared))

/-- Two columns of a statement with one alias: a row holds the value of one of them alone. -/
theorem rows_incomplete :
    let columns := ["users.role_id", "user_roles.id"]
    (∀ c ∈ columns, isColumnName c) ∧
    selection aliasStem columns "users" true =
      ["users.role_id AS user_role_id", "user_roles.id AS user_role_id"] ∧
    row aliasStem (ownedBy "users" columns) (fun c => .string c.table) =
      [("user_role_id", .string "user_roles")] := by
  intro columns
  have names : ∀ c ∈ columns, isColumnName c := by decide
  have owned : ownedBy "users" columns = [⟨"users", "role_id"⟩, ⟨"user_roles", "id"⟩] := by
    decide +kernel
  have stems : aliasStem "users" = "user" ∧ aliasStem "user_roles" = "user_role" := by
    decide +kernel
  refine ⟨names, ?_, ?_⟩
  · rw [selection_eq keepsNames_aliasStem "users" names, owned]
    simp [Owned.entry, Owned.key, stems]
  · simp [row, owned, Owned.key, stems, Entries.ofList, Entries.insert]

end Column

end SelectQuery
