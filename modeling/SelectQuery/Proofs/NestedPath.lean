import SelectQuery.Proofs.Collision

/-!
Projected columns that are paths. A path is cut at its first dot: what stands before it is a table,
and all that stands behind it goes into the alias, further dots included. So the alias of a column
inside an object, or of a column of a table that is qualified itself, has dots too.

What is proved:
  1. `segments_append_first`: a text that is put in front goes into the first segment.
  2. `lex_path`: identifiers with points between them are read as words and points.
  3. `segments_key`: the alias of a path has the segments of the path, but the first two as one.
  4. `selected_path` (and `selected_nested`, where it fails): a path is written under an alias that
     is an identifier exactly if it names a table and a column alone.
-/

namespace SelectQuery

open Text (isIdentifier isIdentifierRest segments cut? Only)
open Sqlite (segments_eq segments_of_identifier starts_of_segments)

namespace Text

variable {sep : Char} {front cs first second : List Char} {rest : List (List Char)}

theorem segments_append_first (free : sep ∉ front) (parts : segments sep cs = first :: rest) :
    segments sep (front ++ cs) = (front ++ first) :: rest := by
  induction front with
  | nil => exact parts
  | cons c front ih =>
    have other : c ≠ sep := fun same => free (same ▸ List.mem_cons_self)
    have later := ih fun inside => free (List.mem_cons_of_mem c inside)
    rw [List.cons_append, segments, if_neg other, later]
    rfl

/-- A text of two or more segments is cut behind the first. -/
theorem cut?_of_segments (parts : segments sep cs = first :: second :: rest) :
    ∃ inner, cut? sep cs = some (first, inner) ∧ segments sep inner = second :: rest := by
  rw [segments_eq] at parts
  cases cut : cut? sep cs with
  | none =>
    rw [cut] at parts
    cases parts
  | some pair =>
    rw [cut] at parts
    obtain ⟨rfl, later⟩ := List.cons_eq_cons.1 parts
    exact ⟨pair.2, rfl, later⟩

end Text

namespace Sqlite

/-- The tokens of words with points between them. -/
def pathTokens : List (List Char) → List Token
  | [] => []
  | [w] => [.word w]
  | w :: rest => .word w :: .sign ['.'] :: pathTokens rest

/-- Identifiers with points between them are read as words and points. -/
theorem lex_path {cs : List Char} (identifiers : ∀ s ∈ segments '.' cs, isIdentifier s) :
    lex cs = pathTokens (segments '.' cs) := by
  induction parts : segments '.' cs generalizing cs with
  | nil => exact absurd parts (Text.segments_ne_nil '.' cs)
  | cons w rest ih =>
    rw [parts] at identifiers
    have word := identifiers w List.mem_cons_self
    rw [segments_eq] at parts
    cases cut : cut? '.' cs with
    | none =>
      rw [cut] at parts
      obtain ⟨rfl, rfl⟩ := List.cons_eq_cons.1 parts
      have alone := lex_word word stop_nil
      rwa [List.append_nil, lex_nil] at alone
    | some pair =>
      rw [cut] at parts
      obtain ⟨rfl, rfl⟩ := List.cons_eq_cons.1 parts
      have inner : ∀ s ∈ segments '.' pair.2, isIdentifier s :=
        fun s hs => identifiers s (List.mem_cons_of_mem _ hs)
      obtain ⟨c, behind, text, start⟩ := starts_of_segments inner
      have point := lex_point start behind
      rw [← text] at point
      rw [eq_of_cut? cut, lex_word word (stop_point _), point, ih inner rfl]
      cases more : segments '.' pair.2 with
      | nil => exact absurd more (Text.segments_ne_nil '.' pair.2)
      | cons v others => rfl

end Sqlite

namespace Column

variable {stem : String → String} {path table column : String} {fields : List (List Char)}

/-! ## Aliases of paths -/

/-- A path with a dot names a table, a column of it, and maybe fields inside the column. -/
theorem exists_names (h : isQualifiedPath path) :
    ∃ (table column : String) (fields : List (List Char)),
      segments '.' path.toList = table.toList :: column.toList :: fields := by
  obtain ⟨first, second, fields, parts⟩ :=
    Text.exists_segments (List.contains_iff_mem.1 (isDotted_of_qualified h))
  refine ⟨String.ofList first, String.ofList second, fields, ?_⟩
  rw [parts, String.toList_ofList, String.toList_ofList]

/-- A path is written as it stands, under an alias. -/
theorem selected_of_path (h : isQualifiedPath path)
    (names : segments '.' path.toList = table.toList :: column.toList :: fields) (base : String)
    (hasJoin : Bool) :
    selected stem path base hasJoin = path ++ " AS " ++ (Owned.of base path).key stem := by
  have no_alias := Sqlite.hasAlias_of_only (only_nameChar (isIdentifierPath_of_qualified h))
  obtain ⟨inner, cut, -⟩ := Text.cut?_of_segments names
  have whole : table ++ "." ++ String.ofList inner = path := by
    rw [← String.toList_inj, eq_of_cut? cut]
    simp
  rw [selected, no_alias, if_neg Bool.false_ne_true, Owned.of, cut]
  simp only [Owned.aliased_eq, Owned.entry, String.ofList_toList, whole]

/-- The alias of a path has the segments of the path, but the first two as one. -/
theorem segments_key (keeps : KeepsNames stem) (identifier : isIdentifier table.toList)
    (names : segments '.' path.toList = table.toList :: column.toList :: fields) (base : String) :
    segments '.' ((Owned.of base path).key stem).toList =
      (stem table ++ "_" ++ column).toList :: fields := by
  obtain ⟨inner, cut, parts⟩ := Text.cut?_of_segments names
  have front : Only isIdentifierRest (stem table ++ "_").toList := by
    rw [String.toList_append]
    exact only_of_identifier (keeps.front table identifier)
  have free : '.' ∉ (stem table ++ "_").toList := by
    intro inside
    cases front '.' inside
  have key : ((Owned.of base path).key stem).toList = (stem table ++ "_").toList ++ inner := by
    rw [Owned.of, cut]
    simp [Owned.key]
  rw [key, Text.segments_append_first free parts, ← String.toList_append]

/-- A path is written as it stands, under an alias that has one segment less: the stem of its table
and its column are one, and the names of fields inside the column stay behind dots. It is read as the
words that its segments are, with points between them. So the path is written under an identifier
exactly if it names no field, and is a table and a column alone. So it is with the singular of the
table as its stem, and with every stem that makes names of names. -/
theorem selected_path (h : isQualifiedPath path) (base : String) (hasJoin : Bool) :
    KeepsNames aliasStem ∧ ∀ stem, KeepsNames stem →
      ∃ (table column : String) (fields : List (List Char)),
        segments '.' path.toList = table.toList :: column.toList :: fields ∧
        selected stem path base hasJoin = path ++ " AS " ++ (Owned.of base path).key stem ∧
        segments '.' ((Owned.of base path).key stem).toList =
          (stem table ++ "_" ++ column).toList :: fields ∧
        isIdentifierPath ((Owned.of base path).key stem) ∧
        Sqlite.lex ((Owned.of base path).key stem).toList =
          Sqlite.pathTokens ((stem table ++ "_" ++ column).toList :: fields) ∧
        ((∃ name : String, isIdentifier name.toList ∧
          selected stem path base hasJoin = path ++ " AS " ++ name) ↔ fields = []) := by
  refine ⟨keepsNames_aliasStem, fun stem keeps => ?_⟩
  obtain ⟨table, column, fields, names⟩ := exists_names h
  have identifiers := List.all_eq_true.1 (isIdentifierPath_of_qualified h)
  rw [names] at identifiers
  have table_identifier := identifiers table.toList (by simp)
  have column_identifier := identifiers column.toList (by simp)
  have written : selected stem path base hasJoin = _ := selected_of_path h names base hasJoin
  have parts := segments_key keeps table_identifier names base
  have key_identifiers :
      ∀ s ∈ segments '.' ((Owned.of base path).key stem).toList, isIdentifier s := by
    rw [parts, List.forall_mem_cons]
    refine ⟨keeps.isIdentifier_alias table_identifier column_identifier, fun s hs => ?_⟩
    exact identifiers s (by simp [hs])
  have tokens := Sqlite.lex_path key_identifiers
  rw [parts] at tokens
  refine ⟨table, column, fields, names, written, parts, ?_, tokens, ?_⟩
  · rw [isIdentifierPath, List.all_eq_true]
    exact key_identifiers
  · rw [written]
    constructor
    · rintro ⟨name, identifier, same⟩
      have key : (Owned.of base path).key stem = name := (String.append_right_inj _).1 same
      rw [key, segments_of_identifier identifier] at parts
      exact (List.cons_eq_cons.1 parts).2.symm
    · rintro rfl
      have alone : ((Owned.of base path).key stem).toList ∈
          segments '.' ((Owned.of base path).key stem).toList := by
        obtain ⟨-, -, whole⟩ := Text.segments_eq_iff.1 parts
        rw [parts, whole]
        simp
      exact ⟨_, key_identifiers _ alone, rfl⟩

/-- A path of a table and a column is written under an identifier. -/
theorem selected_user_name :
    isQualifiedPath "users.first_name" ∧ ∃ name : String, isIdentifier name.toList ∧
      selected aliasStem "users.first_name" "roles" true = "users.first_name AS " ++ name := by
  have path : isQualifiedPath "users.first_name" := by decide
  obtain ⟨keeps, each⟩ := selected_path path "roles" true
  obtain ⟨table, column, fields, names, -, -, -, -, alone⟩ := each aliasStem keeps
  have no_fields : fields = [] := by
    have parts : segments '.' "users.first_name".toList =
        ["users".toList, "first_name".toList] := by
      decide
    rw [parts] at names
    exact (List.cons_eq_cons.1 (List.cons_eq_cons.1 names).2).2.symm
  obtain ⟨name, identifier, written⟩ := alone.2 no_fields
  exact ⟨path, name, identifier, written⟩

/-- A path into an object is written under no identifier, although the singular of its table is
one. -/
theorem selected_nested :
    isQualifiedPath "users.profile.zip" ∧ isIdentifier (aliasStem "users").toList ∧
    selected aliasStem "users.profile.zip" "users" false =
      "users.profile.zip AS user_profile.zip" ∧
    ¬ ∃ name : String, isIdentifier name.toList ∧
      selected aliasStem "users.profile.zip" "users" false =
        "users.profile.zip" ++ " AS " ++ name := by
  have path : isQualifiedPath "users.profile.zip" := by decide
  have names : segments '.' "users.profile.zip".toList =
      ["users".toList, "profile".toList, "zip".toList] := by
    decide
  have owned : Owned.of "users" "users.profile.zip" = ⟨"users", "profile.zip"⟩ := by
    decide +kernel
  have root : aliasStem "users" = "user" := by decide +kernel
  have written : selected aliasStem "users.profile.zip" "users" false =
      "users.profile.zip" ++ " AS " ++ "user_profile.zip" := by
    rw [selected_of_path path names, owned, Owned.key, root]
    rfl
  refine ⟨path, ?_, written, ?_⟩
  · rw [root]
    decide
  · rintro ⟨name, identifier, same⟩
    rw [written] at same
    have key : "user_profile.zip" = name := (String.append_right_inj _).1 same
    rw [← key] at identifier
    exact absurd identifier (by decide)

end Column

end SelectQuery
