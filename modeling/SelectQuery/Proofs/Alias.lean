import SelectQuery.Proofs.Names

/-!
Aliases of projected columns. The alias of a column is the stem of its table, an underscore and the
column, whatever the stem is; what is said here of aliases rests on what is asked of the stem alone.

What is proved:
  1. `KeepsNames.isIdentifier_alias`: the alias of a column is an identifier.
  2. `only_selected`: a projected column is written in the characters of names and blanks.
-/

namespace SelectQuery

open Text (Only isIdentifier isIdentifierRest)

theorem only_of_identifier {cs : List Char} (h : isIdentifier cs) : Only isIdentifierRest cs :=
  fun _ hc => Text.isIdentifierRest_of_mem h hc

theorem isIdentifier_append {a b : List Char} (ha : isIdentifier a) (hb : Only isIdentifierRest b) :
    isIdentifier (a ++ b) := by
  cases a with
  | nil => cases ha
  | cons c a =>
    rw [isIdentifier, Bool.and_eq_true] at ha
    rw [List.cons_append, isIdentifier, Bool.and_eq_true, List.all_append, Bool.and_eq_true]
    exact ⟨ha.1, ha.2, List.all_eq_true.2 hb⟩

/-- A text that is cut is what stands before the separator, the separator, and what stands behind. -/
theorem eq_of_cut? {sep : Char} {cs a b : List Char} (h : Text.cut? sep cs = some (a, b)) :
    cs = a ++ sep :: b := by
  induction cs generalizing a with
  | nil => cases h
  | cons c cs ih =>
    rw [Text.cut?] at h
    split at h
    · rename_i same
      cases h
      rw [same, List.nil_append]
    · obtain ⟨⟨a', b'⟩, found, same⟩ := Option.map_eq_some_iff.1 h
      cases same
      rw [ih found, List.cons_append]

theorem mem_cut? {sep : Char} {cs a b : List Char} (h : Text.cut? sep cs = some (a, b)) :
    (∀ c ∈ a, c ∈ cs) ∧ ∀ c ∈ b, c ∈ cs := by
  rw [eq_of_cut? h]
  exact ⟨fun _ hc => List.mem_append_left _ hc,
    fun _ hc => List.mem_append_right _ (List.mem_cons_of_mem sep hc)⟩

namespace Column

/-- What is asked of a stem: of the characters of names it makes a text of such characters, and of an
identifier a text that is an identifier with an underscore behind it. -/
structure KeepsNames (stem : String → String) : Prop where
  chars : ∀ table, Only isNameChar table.toList → Only isNameChar (stem table).toList
  front : ∀ table, isIdentifier table.toList → isIdentifier ((stem table).toList ++ ['_'])

section Aliases

variable {stem : String → String} (keeps : KeepsNames stem) {table column : String}

include keeps

/-- The alias of a column of identifiers is an identifier. -/
theorem KeepsNames.isIdentifier_alias (ht : isIdentifier table.toList)
    (hc : isIdentifier column.toList) : isIdentifier (stem table ++ "_" ++ column).toList := by
  simp only [String.toList_append]
  exact isIdentifier_append (keeps.front table ht) (only_of_identifier hc)

theorem only_aliased (ht : Only isNameChar table.toList) (hc : Only isNameChar column.toList) :
    Only isTextChar (aliased stem table column).toList := by
  have root := (keeps.chars table ht).text
  have keyword : Only isTextChar " AS ".toList := by decide
  simp only [aliased, String.toList_append]
  exact (((((ht.text.append (by decide)).append hc.text).append keyword).append root).append
    (by decide)).append hc.text

/-- Of names, a projected column is written in the characters of names and blanks. -/
theorem only_selected (hasJoin : Bool) (ht : Only isNameChar table.toList)
    (hc : Only isNameChar column.toList) :
    Only isTextChar (selected stem column table hasJoin).toList := by
  unfold selected
  split
  · exact hc.text
  · split
    · rename_i cut
      obtain ⟨left, right⟩ := mem_cut? cut
      apply only_aliased keeps <;> rw [String.toList_ofList]
      · exact fun c h => hc c (left c h)
      · exact fun c h => hc c (right c h)
    · split
      · exact only_aliased keeps ht hc
      · exact hc.text

end Aliases

end Column

end SelectQuery
