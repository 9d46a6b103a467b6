import SelectQuery.Proofs.Collision
import SelectQuery.Proofs.Rearrangement

/-!
Projections that are resolved more than once. A projected column is written as it stands, or under
an alias; a column with an alias is written as it stands from then on. So the entries of a
projection can be given as columns again, with joins or without.

What is proved:
  1. `hasAlias_eq_occurs_lower`: an alias is found in any letter case, by the rules of Unicode.
  2. `selected_selected`: a column that is written again is written as at once.
  3. `firstAppearances_distinct`, `distinct_map_distinct`: entries stand where they first appear,
     and it does not matter when repeated ones are left out.
  4. `entries_build`: the projection of a query goes on with what further steps add.
  5. `selection_selection`: so projections compose; entries only merge, and further ones only come
     behind.
-/

namespace SelectQuery

open Text (occurs lower lowerFrom lowerChar Only)

/-! ## Letter case -/

namespace Text

/-- Texts that have the same characters of some kind in the same places, where one character of
other kinds may stand for several. -/
inductive Matches (p : Char → Bool) : List Char → List Char → Prop where
  | nil : Matches p [] []
  | same (c : Char) {as bs : List Char} (rest : Matches p as bs) : Matches p (c :: as) (c :: bs)
  | other {a b : Char} {block as bs : List Char} (left : Only (!p ·) (a :: block))
    (right : p b = false) (rest : Matches p as bs) : Matches p (a :: block ++ as) (b :: bs)

theorem ne_of_only {p : Char → Bool} {c d : Char} {block : List Char} (inside : p d)
    (other : Only (!p ·) block) (hc : c ∈ block) : d ≠ c := by
  rintro rfl
  have outside : (!p d) = true := other d hc
  rw [inside] at outside
  cases outside

namespace Matches

variable {p : Char → Bool} {part as bs : List Char}

theorem isPrefixOf_eq (h : Matches p as bs) (kind : Only p part) :
    part.isPrefixOf as = part.isPrefixOf bs := by
  induction h generalizing part with
  | nil => rfl
  | same c _ ih =>
    cases part with
    | nil => rfl
    | cons d part => rw [List.isPrefixOf_cons_cons, List.isPrefixOf_cons_cons, ih kind.tail]
  | @other a b _ _ _ left right _ _ =>
    cases part with
    | nil => rfl
    | cons d part =>
      have front : d ≠ a := ne_of_only kind.head left List.mem_cons_self
      have behind : d ≠ b := by
        rintro rfl
        exact Bool.false_ne_true (right.symm.trans kind.head)
      rw [List.cons_append, List.isPrefixOf_cons_cons, List.isPrefixOf_cons_cons,
        beq_false_of_ne front, beq_false_of_ne behind, Bool.false_and, Bool.false_and]

/-- What starts with a character of the kind occurs in none of the others. -/
theorem occurs_block {d : Char} (inside : p d) {block : List Char} (other : Only (!p ·) block) :
    occurs (d :: part) (block ++ as) = occurs (d :: part) as := by
  induction block with
  | nil => rfl
  | cons c block ih =>
    have front : d ≠ c := ne_of_only inside other List.mem_cons_self
    rw [List.cons_append, occurs, List.isPrefixOf_cons_cons, beq_false_of_ne front, Bool.false_and,
      Bool.false_or, ih other.tail]

/-- A text of the kind occurs in both or in neither. -/
theorem occurs_eq {d : Char} (h : Matches p as bs) (kind : Only p (d :: part)) :
    occurs (d :: part) as = occurs (d :: part) bs := by
  induction h with
  | nil => rfl
  | @same c as bs rest ih =>
    have front := (Matches.same c rest).isPrefixOf_eq kind
    rw [occurs, occurs, front, ih]
  | @other a b block as bs left right rest ih =>
    have single : Only (!p ·) [b] := by
      refine .cons ?_ .nil
      rw [right]
      rfl
    have behind : occurs (d :: part) ([b] ++ bs) = occurs (d :: part) bs :=
      occurs_block kind.head single
    rw [occurs_block kind.head left, ih, ← behind]
    rfl

end Matches

/-- Whether `c` stands in the word that introduces an alias, in lower case. -/
def isAliasChar (c : Char) : Bool := " as ".toList.contains c

theorem isAliasChar_iff {c : Char} : isAliasChar c ↔ c ∈ " as ".toList :=
  List.contains_iff_mem

theorem toNat_ofNat_cases (n : Nat) : (Char.ofNat n).toNat = n ∨ (Char.ofNat n).toNat = 0 := by
  by_cases valid : n.isValidChar
  · have here : Char.ofNat n = Char.ofNatAux n valid := dif_pos valid
    rw [here]
    exact .inl rfl
  · have here : (Char.ofNat n).toNat = '\x00'.toNat := congrArg Char.toNat (dif_neg valid)
    exact .inr here

theorem isAliasChar_beyond {c : Char} (beyond : ¬ c.toNat < 0x80) : isAliasChar c = false := by
  have ascii : Only (·.toNat < 0x80) " as ".toList := by decide
  rw [Bool.eq_false_iff]
  intro standing
  exact beyond (decide_eq_true_iff.1 (ascii c (isAliasChar_iff.1 standing)))

/-- No shift ends at one of these characters. -/
theorem isAliasChar_shiftCode {c : Char} (beyond : ¬ c.toNat < 0x80) :
    isAliasChar (shiftCode lowerShifts c) = false := by
  have apart : lowerShifts.all fun s => " as ".toList.all fun d =>
      d.toNat ≠ 0 ∧ (d.toNat < s.first + s.offset ∨ s.last + s.offset < d.toNat) := by
    decide +kernel
  unfold shiftCode
  split
  · rename_i s found
    have inside : s.first ≤ c.toNat ∧ c.toNat ≤ s.last := by
      have contained := List.find?_some found
      simp only [SteppedRange.contains, Bool.and_eq_true, decide_eq_true_eq] at contained
      exact contained.1
    rw [Bool.eq_false_iff]
    intro standing
    have here := List.all_eq_true.1 apart s (List.mem_of_find?_eq_some found)
    have away := List.all_eq_true.1 here _ (isAliasChar_iff.1 standing)
    rw [decide_eq_true_iff] at away
    rcases toNat_ofNat_cases ((c.toNat : Int) + s.offset).toNat with code | code
    · omega
    · exact away.1 code
  · exact isAliasChar_beyond beyond

theorem lowerChar_beyond {c : Char} (beyond : ¬ c.toNat < 0x80) :
    ∃ a block, lowerChar c = a :: block ∧ Only (!isAliasChar ·) (a :: block) := by
  rw [lowerChar, if_neg beyond]
  split
  -- A capital i with a dot has a lower case of two characters.
  · exact ⟨'i', ['\u0307'], rfl, by decide⟩
  · refine ⟨shiftCode lowerShifts c, [], rfl, .cons ?_ .nil⟩
    rw [isAliasChar_shiftCode beyond]
    rfl

/-- The lower case of a text has these characters where it has them with its ASCII letters alone in
lower case. -/
theorem matches_lowerFrom (before cs : List Char) :
    Matches isAliasChar (lowerFrom before cs) (cs.map Char.toLower) := by
  induction cs generalizing before with
  | nil => exact .nil
  | cons c cs ih =>
    rw [lowerFrom, List.map_cons]
    by_cases ascii : c.toNat < 0x80
    · have no_sigma : (c == 'Σ') = false := by
        rw [beq_eq_false_iff_ne]
        rintro rfl
        exact absurd ascii (by decide)
      rw [no_sigma, lowerChar, if_pos ascii]
      exact .same c.toLower (ih _)
    · have here := isAliasChar_beyond ascii
      rw [toLower_beyond ascii]
      split
      -- Both lower cases of a sigma are Greek.
      · refine .other ?_ here (ih _)
        split <;> decide
      · obtain ⟨a, block, lowered, other⟩ := lowerChar_beyond ascii
        rw [lowered]
        exact .other other here (ih _)

end Text

namespace Column

/-! ## Columns that are written again -/

/-- An alias is found in any letter case. -/
theorem hasAlias_eq_occurs_lower (column : String) :
    hasAlias column = occurs " as ".toList (lower column.toList) :=
  ((Text.matches_lowerFrom [] column.toList).occurs_eq (by decide)).symm

theorem occurs_middle (front part behind : List Char) :
    occurs part (front ++ (part ++ behind)) := by
  induction front with
  | nil =>
    have here : part.isPrefixOf (part ++ behind) :=
      List.isPrefixOf_iff_prefix.2 (List.prefix_append part behind)
    cases whole : part ++ behind with
    | nil =>
      rw [List.append_eq_nil_iff] at whole
      rw [whole.1]
      rfl
    | cons c rest =>
      rw [whole] at here
      rw [List.nil_append, occurs, here, Bool.true_or]
  | cons c front ih => rw [List.cons_append, occurs, ih, Bool.or_true]

section Stem

variable (stem : String → String)

/-- An alias that was generated is found like any other. -/
theorem hasAlias_aliased (table name : String) : hasAlias (aliased stem table name) := by
  have chars : (aliased stem table name).toList.map Char.toLower =
      (table ++ "." ++ name).toList.map Char.toLower ++
        (" as ".toList ++ (stem table ++ "_" ++ name).toList.map Char.toLower) := by
    have word : " AS ".toList.map Char.toLower = " as ".toList := by decide
    simp only [aliased, String.toList_append, List.map_append, word, List.append_assoc]
  rw [hasAlias, chars]
  exact occurs_middle _ _ _

section Selected

variable {column : String} (base : String) (hasJoin : Bool)

theorem selected_of_hasAlias (named : hasAlias column) :
    selected stem column base hasJoin = column := if_pos named

theorem selected_of_dotted (unnamed : ¬ hasAlias column) {table name : List Char}
    (cut : Text.cut? '.' column.toList = some (table, name)) :
    selected stem column base hasJoin =
      aliased stem (String.ofList table) (String.ofList name) := by
  rw [selected, if_neg unnamed, cut]

theorem selected_of_bare (unnamed : ¬ hasAlias column)
    (bare : Text.cut? '.' column.toList = none) :
    selected stem column base hasJoin = if hasJoin then aliased stem base column else column := by
  rw [selected, if_neg unnamed, bare]

theorem selected_aliased (table name : String) :
    selected stem (aliased stem table name) base hasJoin = aliased stem table name :=
  selected_of_hasAlias stem base hasJoin (hasAlias_aliased stem table name)

end Selected

/-- A column that is written twice is written as at once, with joins if one of the times has
them. -/
theorem selected_selected (column base : String) (a b : Bool) :
    selected stem (selected stem column base a) base b = selected stem column base (a || b) := by
  by_cases named : hasAlias column
  · have kept (hasJoin : Bool) := selected_of_hasAlias stem base hasJoin named
    rw [kept a, kept b, kept]
  · cases cut : Text.cut? '.' column.toList with
    | some pair =>
      have written (hasJoin : Bool) := selected_of_dotted stem base hasJoin named cut
      rw [written a, selected_aliased, written]
    | none =>
      have written (hasJoin : Bool) := selected_of_bare stem base hasJoin named cut
      cases a with
      | true => rw [written true, if_pos rfl, selected_aliased, Bool.true_or, written, if_pos rfl]
      | false => rw [written false, if_neg Bool.false_ne_true, Bool.false_or]

end Stem

/-! ## Entries that repeat -/

theorem distinct_concat (names : List String) (name : String) : distinct (names ++ [name]) =
    if name ∈ names then distinct names else distinct names ++ [name] := by
  rw [distinct_eq_eraseDups, distinct_eq_eraseDups, eraseDups_concat]

theorem mem_distinct_iff {names : List String} {name : String} :
    name ∈ distinct names ↔ name ∈ names := by
  rw [distinct_eq_eraseDups, List.mem_eraseDups]

/-- Names without repetition are those of a list, in the order in which they first appear there. -/
structure FirstAppearances (all names : List String) : Prop where
  nodup : names.Nodup
  mem_iff : ∀ name, name ∈ names ↔ name ∈ all
  ordered : names.Pairwise fun a b => all.idxOf a < all.idxOf b

theorem firstAppearances_distinct (names : List String) :
    FirstAppearances names (distinct names) := by
  refine ⟨distinct_eq_eraseDups names ▸ nodup_eraseDups names, fun _ => mem_distinct_iff, ?_⟩
  induction names using List.reverseRecOn with
  | nil => exact List.Pairwise.nil
  | append_singleton names name ih =>
    have kept : (distinct names).Pairwise fun a b =>
        (names ++ [name]).idxOf a < (names ++ [name]).idxOf b := by
      refine ih.imp_of_mem fun ha hb before => ?_
      rwa [List.idxOf_append_of_mem (mem_distinct_iff.1 ha),
        List.idxOf_append_of_mem (mem_distinct_iff.1 hb)]
    rw [distinct_concat]
    split
    · exact kept
    · rename_i new
      refine List.pairwise_append.2 ⟨kept, List.pairwise_singleton _ name, ?_⟩
      intro a ha b hb
      rw [List.mem_singleton.1 hb, List.idxOf_append_of_mem (mem_distinct_iff.1 ha),
        List.idxOf_append_of_notMem new]
      exact Nat.lt_add_right _ (List.idxOf_lt_length_of_mem (mem_distinct_iff.1 ha))

/-- It does not matter whether repeated names are left out before or after they are written. -/
theorem distinct_map_distinct (write : String → String) (names : List String) :
    distinct ((distinct names).map write) = distinct (names.map write) := by
  induction names using List.reverseRecOn with
  | nil => rfl
  | append_singleton names name ih =>
    rw [List.map_append, List.map_singleton, distinct_concat, distinct_concat]
    by_cases known : name ∈ names
    · rw [if_pos known, if_pos (List.mem_map_of_mem known), ih]
    · have written : write name ∈ (distinct names).map write ↔ write name ∈ names.map write := by
        simp only [List.mem_map, mem_distinct_iff]
      rw [if_neg known, List.map_append, List.map_singleton, distinct_concat, ih]
      simp only [written]

/-- Of names that are written alike only the first is kept, so what is kept has their order. -/
theorem exists_kept (write : String → String) (names : List String) :
    ∃ kept : List String, kept.Sublist names ∧ distinct (names.map write) = kept.map write := by
  -- From the back: whether the last name is kept depends on all names before it.
  induction names using List.reverseRecOn with
  | nil => exact ⟨[], List.Sublist.refl _, rfl⟩
  | append_singleton names name ih =>
    obtain ⟨kept, sublist, same⟩ := ih
    rw [List.map_append, List.map_singleton, distinct_concat]
    split
    · exact ⟨kept, sublist.trans (List.sublist_append_left names [name]), same⟩
    · refine ⟨kept ++ [name], sublist.append (List.Sublist.refl _), ?_⟩
      rw [same, List.map_append, List.map_singleton]

theorem distinct_prefix (names more : List String) :
    distinct names <+: distinct (names ++ more) := by
  rw [distinct_eq_eraseDups, distinct_eq_eraseDups, List.eraseDups_append]
  exact List.prefix_append _ _

/-! ## Projections -/

section Stem

variable (stem : String → String)

theorem selection_selection_eq (columns : List String) (base : String) (a b : Bool) :
    selection stem (selection stem columns base a) base b =
      selection stem columns base (a || b) := by
  have again : (columns.map (selected stem · base a)).map (selected stem · base b) =
      columns.map (selected stem · base (a || b)) := by
    rw [List.map_map]
    refine List.map_congr_left fun c _ => ?_
    rw [Function.comp_apply, selected_selected]
  rw [selection, selection, distinct_map_distinct, again, selection]

theorem selection_prefix (columns more : List String) (base : String) (hasJoin : Bool) :
    selection stem columns base hasJoin <+: selection stem (columns ++ more) base hasJoin := by
  rw [selection, selection, List.map_append]
  exact distinct_prefix _ _

/-- A join writes entries that are there already, in their order, and may write several alike. -/
theorem selection_joined (columns : List String) (base : String) :
    ∃ kept : List String, kept.Sublist (selection stem columns base false) ∧
      selection stem columns base true = kept.map (selected stem · base true) := by
  obtain ⟨kept, sublist, same⟩ :=
    exists_kept (selected stem · base true) (selection stem columns base false)
  refine ⟨kept, sublist, ?_⟩
  calc selection stem columns base true
      = selection stem (selection stem columns base false) base true :=
        (selection_selection_eq stem columns base false true).symm
    _ = kept.map (selected stem · base true) := same

end Stem

end Column

namespace Query

variable {q : Query}

theorem extend_assoc (q r s : Query) : (q.extend r).extend s = q.extend (r.extend s) := by
  simp [extend, Bool.or_assoc, Option.or_assoc]

/-- A script leaves the query with further parts behind its own. -/
theorem exists_extend (q : Query) (script : List QueryStep) : ∃ r, q.build script = q.extend r := by
  induction script generalizing q with
  | nil => exact ⟨{ scope := q.scope }, (extend_empty q q.scope).symm⟩
  | cons s rest ih =>
    obtain ⟨r, later⟩ := ih (q.attempt s).2
    refine ⟨(attempt { scope := q.scope } s).2.extend r, ?_⟩
    calc q.build (s :: rest) = (q.attempt s).2.extend r := later
      _ = q.extend ((attempt { scope := q.scope } s).2.extend r) := by
        rw [snd_attempt, extend_assoc]

theorem hasJoin_extend (q r : Query) :
    (q.hasJoin || (q.extend r).hasJoin) = (q.extend r).hasJoin := by
  cases joins : q.joins <;> simp [hasJoin, extend, joins]

theorem entries_extend (q r : Query) :
    Column.selection Column.aliasStem q.entries q.table (q.extend r).hasJoin <+:
      (q.extend r).entries := by
  rw [entries, Column.selection_selection_eq, hasJoin_extend]
  exact Column.selection_prefix Column.aliasStem q.columns r.columns q.table _

/-- Whatever is added to a query, its entries come first, as they are written then. -/
theorem entries_build (q : Query) (script : List QueryStep) :
    Column.selection Column.aliasStem q.entries q.table (q.build script).hasJoin <+:
      (q.build script).entries := by
  obtain ⟨r, built⟩ := exists_extend q script
  rw [built]
  exact entries_extend q r

/-- The entries of a query are kept as they are, unless it gets its first join. -/
theorem entries_prefix_or (q : Query) (script : List QueryStep) :
    q.entries <+: (q.build script).entries ∨
      q.hasJoin = false ∧ (q.build script).hasJoin = true := by
  have later := entries_build q script
  obtain ⟨r, built⟩ := exists_extend q script
  have joins := hasJoin_extend q r
  rw [← built] at joins
  by_cases same : (q.build script).hasJoin = q.hasJoin
  · have again : Column.selection Column.aliasStem q.entries q.table q.hasJoin = q.entries := by
      rw [entries, Column.selection_selection_eq, Bool.or_self]
    rw [same, again] at later
    exact .inl later
  · cases before : q.hasJoin with
    | true =>
      rw [← joins, before, Bool.true_or] at same
      exact absurd rfl same
    | false => exact .inr ⟨rfl, by simpa [before] using same⟩

/-- Further columns only add entries behind. -/
theorem entries_select (q : Query) (more : List String) :
    q.entries <+: (q.select more).entries :=
  Column.selection_prefix Column.aliasStem q.columns more q.table q.hasJoin

end Query

namespace Column

/-- Projections compose. The entries of a projection, taken as columns, give the projection that has
joins if one of the two has them. The entries are the columns as they are written, each once, where
it first appears; further columns only add entries behind; and where a statement gets its first
join, some of its entries are kept and written anew, in their order. An alias that makes an entry
stay as it is may stand in any letter case. All this holds whatever the stems of aliases are. So a
query that is built further goes on with the entries it has, unchanged unless it gets its first
join. -/
theorem selection_selection (stem : String → String) (columns : List String) (base : String)
    (a b : Bool) :
    selection stem (selection stem columns base a) base b =
      selection stem columns base (a || b) ∧
    FirstAppearances (columns.map (selected stem · base a)) (selection stem columns base a) ∧
    (∀ more, selection stem columns base a <+: selection stem (columns ++ more) base a) ∧
    (∃ kept : List String, kept.Sublist (selection stem columns base false) ∧
      selection stem columns base true = kept.map (selected stem · base true)) ∧
    (∀ column, hasAlias column = occurs " as ".toList (lower column.toList)) ∧
    ∀ (q : Query) (script : List QueryStep),
      selection aliasStem q.entries q.table (q.build script).hasJoin <+:
        (q.build script).entries ∧
      (q.entries <+: (q.build script).entries ∨
        q.hasJoin = false ∧ (q.build script).hasJoin = true) ∧
      ∀ more, q.entries <+: (q.select more).entries := by
  refine ⟨selection_selection_eq stem columns base a b, firstAppearances_distinct _,
    fun more => selection_prefix stem columns more base a, selection_joined stem columns base,
    hasAlias_eq_occurs_lower, ?_⟩
  intro q script
  exact ⟨q.entries_build script, q.entries_prefix_or script, q.entries_select⟩

end Column

end SelectQuery
