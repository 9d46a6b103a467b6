/-!
Lists of named entries in ascending order of the names, one entry for each name. The order of two
such lists with the same entries is the same, so equal content means equal lists.
-/

namespace SelectQuery.Entries

variable {α : Type}

/-- The names ascend, so each of them has one entry. -/
def Ascending (entries : List (String × α)) : Prop :=
  entries.Pairwise fun a b => a.1 < b.1

/-- The entries with `a` under `name`, in place of the entry that was there. -/
def insert (name : String) (a : α) : List (String × α) → List (String × α)
  | [] => [(name, a)]
  | (k, b) :: rest =>
    if name < k then (name, a) :: (k, b) :: rest
    else if k < name then (k, b) :: insert name a rest
    else (name, a) :: rest

/-- The entries of a list in order. Of two entries with the same name the later one holds. -/
def ofList (entries : List (String × α)) : List (String × α) :=
  entries.foldl (fun sorted e => insert e.1 e.2 sorted) []

theorem lookup_cons {name key : String} {a : α} {rest : List (String × α)} :
    ((name, a) :: rest).lookup key = if key = name then some a else rest.lookup key := by
  rw [List.lookup_cons]
  by_cases h : key = name
  · simp [h]
  · rw [beq_false_of_ne h, if_neg h]

/-- A look-up finds the entry that was put in last under a name. -/
theorem lookup_insert {name key : String} {a : α} {entries : List (String × α)} :
    (insert name a entries).lookup key = if key = name then some a else entries.lookup key := by
  induction entries with
  | nil => rw [insert, lookup_cons]
  | cons head rest ih =>
    obtain ⟨k, b⟩ := head
    by_cases lt : name < k
    · rw [insert, if_pos lt, lookup_cons]
    · by_cases gt : k < name
      · have ne : k ≠ name := fun h => String.lt_irrefl _ (h ▸ gt)
        rw [insert, if_neg lt, if_pos gt, lookup_cons, lookup_cons, ih]
        by_cases h : key = k
        · rw [if_pos h, if_pos h, if_neg (h ▸ ne)]
        · rw [if_neg h, if_neg h]
      · have eq : k = name := String.le_antisymm lt gt
        rw [insert, if_neg lt, if_neg gt, lookup_cons, lookup_cons, eq]
        by_cases h : key = name
        · rw [if_pos h, if_pos h]
        · rw [if_neg h, if_neg h, if_neg h]

theorem mem_insert {name : String} {a : α} {entries : List (String × α)} {e : String × α}
    (h : e ∈ insert name a entries) : e = (name, a) ∨ e ∈ entries := by
  induction entries with
  | nil => simpa [insert] using h
  | cons head rest ih =>
    obtain ⟨k, b⟩ := head
    simp only [insert] at h
    split at h
    · simpa using h
    · split at h
      · rcases List.mem_cons.1 h with h | h
        · simp [h]
        · rcases ih h with h | h <;> simp [h]
      · rcases List.mem_cons.1 h with h | h <;> simp [h]

theorem ascending_insert {name : String} {a : α} {entries : List (String × α)}
    (h : Ascending entries) : Ascending (insert name a entries) := by
  induction entries with
  | nil => simp [insert, Ascending]
  | cons head rest ih =>
    obtain ⟨k, b⟩ := head
    have hrest : Ascending rest := (List.pairwise_cons.1 h).2
    have hk : ∀ e ∈ rest, k < e.1 := (List.pairwise_cons.1 h).1
    simp only [insert]
    split
    · next lt =>
      refine List.pairwise_cons.2 ⟨fun e he => ?_, h⟩
      rcases List.mem_cons.1 he with rfl | he
      · exact lt
      · exact String.lt_trans lt (hk e he)
    · split
      · next gt =>
        refine List.pairwise_cons.2 ⟨fun e he => ?_, ih hrest⟩
        rcases mem_insert he with rfl | he
        · exact gt
        · exact hk e he
      · next nlt ngt =>
        have eq : name = k := String.le_antisymm ngt nlt
        subst eq
        exact List.pairwise_cons.2 ⟨hk, hrest⟩

theorem ascending_foldl_insert {entries sorted : List (String × α)} (h : Ascending sorted) :
    Ascending (entries.foldl (fun sorted e => insert e.1 e.2 sorted) sorted) := by
  induction entries generalizing sorted with
  | nil => exact h
  | cons e rest ih => exact ih (ascending_insert h)

theorem mem_foldl_insert {entries sorted : List (String × α)} {e : String × α}
    (h : e ∈ entries.foldl (fun sorted e => insert e.1 e.2 sorted) sorted) :
    e ∈ entries ∨ e ∈ sorted := by
  induction entries generalizing sorted with
  | nil => exact .inr h
  | cons head rest ih =>
    rcases ih h with h | h
    · exact .inl (List.mem_cons_of_mem _ h)
    · rcases mem_insert h with rfl | h
      · exact .inl List.mem_cons_self
      · exact .inr h

theorem ascending_ofList (entries : List (String × α)) : Ascending (ofList entries) :=
  ascending_foldl_insert List.Pairwise.nil

theorem mem_of_mem_ofList {entries : List (String × α)} {e : String × α} (h : e ∈ ofList entries) :
    e ∈ entries :=
  (mem_foldl_insert h).resolve_right (List.not_mem_nil)

end SelectQuery.Entries
