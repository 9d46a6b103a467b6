import SelectQuery.Proofs.Alias
import SelectQuery.Proofs.Sqlite.Grammar

/-!
Names as the grammar sees them. A reference, which is a name behind qualifiers, is read as the names
and points that it is made of, and a projected column as a reference and its alias.

What is proved:
  1. `lex_word`, `lex_point`: an identifier and a point are tokens of their own.
  2. `terminals_reference`: a reference is read as its names, with points between them.
  3. `terminals_selected`: a projected column is read as a name, or as a qualified name and its
     alias.
-/

namespace SelectQuery

open Text (isIdentifier isIdentifierStart isIdentifierRest segments cut? Only)

namespace Sqlite

/-- Whether the text is a name: an identifier that is no keyword. -/
def isName (cs : List Char) : Bool := isIdentifier cs && !keywords.contains (upperCase cs)

/-- Whether the text is a name behind at most `n` qualifiers. -/
def isReference (n : Nat) (text : String) : Bool :=
  (segments '.' text.toList).all isName && (segments '.' text.toList).length ≤ n + 1

/-- The terminals of a name behind `n` qualifiers. -/
def path : Nat → List Terminal
  | 0 => [.name]
  | n + 1 => .name :: .sign "." :: path n

theorem isIdentifier_of_name {cs : List Char} (h : isName cs) : isIdentifier cs := by
  rw [isName, Bool.and_eq_true] at h
  exact h.1

/-! ## Words and points -/

theorem isWordChar_of_rest {c : Char} (h : isIdentifierRest c) : isWordChar c := by
  simp [isWordChar, h]

theorem isDigit_of_start {c : Char} (h : isIdentifierStart c) : c.isDigit = false := by
  rw [Bool.eq_false_iff]
  intro digit
  have each : ∀ n < 0x80, (Char.ofNat n).isDigit → isIdentifierStart (Char.ofNat n) = false := by
    decide
  have code := toNat_of_nameChar (isNameChar_of_isDigit digit)
  have other := each c.toNat code
  rw [Char.ofNat_toNat] at other
  rw [other digit] at h
  cases h

/-- A text that no word goes on in, and that makes no blob of a letter in front of it. -/
def Stop (rest : List Char) : Prop := ∀ c ∈ rest.head?, isWordChar c = false ∧ c ≠ '\''

theorem stop_point (rest : List Char) : Stop ('.' :: rest) := by
  rintro c ⟨⟩
  decide

theorem stop_nil : Stop [] := fun _ h => nomatch h

/-- An identifier is a word of its own. -/
theorem lex_word {w rest : List Char} (h : isIdentifier w) (stop : Stop rest) :
    lex (w ++ rest) = .word w :: lex rest := by
  cases w with
  | nil => cases h
  | cons c cs =>
    rw [isIdentifier, Bool.and_eq_true, List.all_eq_true] at h
    obtain ⟨start, later⟩ := h
    have name : isNameChar c := isNameChar_of_rest (Text.isIdentifierRest_of_start start)
    have no_point : c ≠ '.' := by
      rintro rfl
      cases start
    have no_quote : (cs ++ rest).head? ≠ some '\'' := by
      cases cs with
      | nil => exact fun quote => (stop '\'' quote).2 rfl
      | cons d cs =>
        intro quote
        have first := later d List.mem_cons_self
        cases Option.some.inj quote
        cases first
    have inner : ∀ d ∈ cs, isWordChar d := fun d hd => isWordChar_of_rest (later d hd)
    have outer : rest.takeWhile isWordChar = [] ∧ rest.dropWhile isWordChar = rest := by
      cases rest with
      | nil => exact ⟨rfl, rfl⟩
      | cons d rest => simp [(stop d rfl).1]
    have front : lexeme c (cs ++ rest) = (.word (c :: cs), rest) := by
      simp only [lexeme, no_quote, and_false, isDigit_of_start start, no_point, false_and, or_self,
        if_false, Bool.false_eq_true]
      rw [List.takeWhile_append_of_pos inner, List.dropWhile_append_of_pos inner, outer.1, outer.2,
        List.append_nil]
    rw [List.cons_append, lex_cons, scan_nameChar name, front]
    rfl

/-- A point before a word is a sign of its own. -/
theorem lex_point {c : Char} (start : isIdentifierStart c) (rest : List Char) :
    lex ('.' :: c :: rest) = .sign ['.'] :: lex (c :: rest) := by
  have front : lexeme '.' (c :: rest) = (.sign ['.'], c :: rest) := by
    simp [lexeme, isDigit_of_start start]
  rw [lex_cons, scan_nameChar (by decide), front]
  rfl

theorem terminals_word {w : List Char} (h : isName w) (toks : List Token) :
    terminals (.word w :: toks) = .name :: terminals toks := by
  rw [isName, Bool.and_eq_true, Bool.not_eq_true'] at h
  have name : (Token.word w).terminal? = some .name := by
    rw [Token.terminal?, h.2]
    rfl
  rw [terminals, List.filterMap_cons, name]
  rfl

theorem terminals_name {w : List Char} (h : isName w) : terminals (lex w) = [.name] := by
  have alone := lex_word (isIdentifier_of_name h) stop_nil
  rw [List.append_nil, lex_nil] at alone
  rw [alone, terminals_word h]
  rfl

theorem terminals_qualified {w cs : List Char} (h : isName w)
    (start : ∃ c rest, cs = c :: rest ∧ isIdentifierStart c) :
    terminals (lex (w ++ '.' :: cs)) = .name :: .sign "." :: terminals (lex cs) := by
  obtain ⟨c, rest, rfl, start⟩ := start
  rw [lex_word (isIdentifier_of_name h) (stop_point _), lex_point start, terminals_word h]
  rfl

/-! ## Keywords -/

theorem isUpper_keyword {s : String} (h : s ∈ keywords) :
    s.toList ≠ [] ∧ ∀ c ∈ s.toList, c.isUpper := by
  have each : keywords.all (fun s => !s.toList.isEmpty && s.toList.all Char.isUpper) := by
    decide +kernel
  have upper := List.all_eq_true.1 each s h
  rwa [Bool.and_eq_true, Bool.not_eq_true', List.isEmpty_eq_false_iff, List.all_eq_true] at upper

theorem start_of_isUpper {c : Char} (h : c.isUpper) : isIdentifierStart c := by
  show (c.isUpper || c.isLower || c == '_') = true
  rw [h, Bool.true_or, Bool.true_or]

theorem isIdentifier_keyword {s : String} (h : s ∈ keywords) : isIdentifier s.toList := by
  obtain ⟨filled, upper⟩ := isUpper_keyword h
  have start : ∀ c ∈ s.toList, isIdentifierStart c := fun c hc => start_of_isUpper (upper c hc)
  cases text : s.toList with
  | nil => exact absurd text filled
  | cons c cs =>
    rw [text] at start
    rw [isIdentifier, Bool.and_eq_true, List.all_eq_true]
    exact ⟨start c List.mem_cons_self, fun d hd =>
      Text.isIdentifierRest_of_start (start d (List.mem_cons_of_mem c hd))⟩

theorem toUpper_of_isUpper {c : Char} (h : c.isUpper) : c.toUpper = c := by
  have each : ∀ n < 0x80, (Char.ofNat n).isUpper → (Char.ofNat n).toUpper = Char.ofNat n := by
    decide
  have name : isNameChar c :=
    isNameChar_of_rest (Text.isIdentifierRest_of_start (start_of_isUpper h))
  have same := each c.toNat (toNat_of_nameChar name)
  rw [Char.ofNat_toNat] at same
  exact same h

theorem upperCase_keyword {s : String} (h : s ∈ keywords) : upperCase s.toList = s := by
  have same : s.toList.map Char.toUpper = s.toList.map id :=
    List.map_congr_left fun c hc => toUpper_of_isUpper ((isUpper_keyword h).2 c hc)
  rw [upperCase, same, List.map_id, String.ofList_toList]

theorem lex_keyword {s : String} (h : s ∈ keywords) {rest : List Char} (stop : Stop rest) :
    terminals (lex (s.toList ++ rest)) = .keyword s :: terminals (lex rest) := by
  have read : (Token.word s.toList).terminal? = some (.keyword s) := by
    rw [Token.terminal?, upperCase_keyword h, if_pos (List.contains_iff_mem.2 h)]
  rw [lex_word (isIdentifier_keyword h) stop, terminals, List.filterMap_cons, read]
  rfl

theorem terminals_keyword {s : String} (h : s ∈ keywords) :
    terminals (lex s.toList) = [.keyword s] := by
  have alone := lex_keyword h stop_nil
  rwa [List.append_nil, lex_nil] at alone

theorem terminals_keywords {a b s : String} (written : s.toList = a.toList ++ ' ' :: b.toList)
    (ha : a ∈ keywords) (hb : b ∈ keywords) :
    terminals (lex s.toList) = [.keyword a, .keyword b] := by
  have stop : Stop (' ' :: b.toList) := by
    rintro c ⟨⟩
    decide
  rw [written, lex_keyword ha stop, lex_blank, terminals_keyword hb]

/-! ## References -/

theorem segments_eq (sep : Char) (cs : List Char) :
    segments sep cs = match cut? sep cs with
      | none => [cs]
      | some (a, b) => a :: segments sep b := by
  induction cs with
  | nil => rfl
  | cons c cs ih =>
    by_cases same : c = sep
    · simp [segments, cut?, same]
    · rw [segments, if_neg same, cut?, if_neg same, ih]
      cases cut? sep cs <;> rfl

theorem segments_of_not_mem {sep : Char} {cs : List Char} (h : sep ∉ cs) :
    segments sep cs = [cs] := by
  rw [segments_eq]
  cases cut : cut? sep cs with
  | none => rfl
  | some pair =>
    have inside : sep ∈ cs := eq_of_cut? cut ▸ List.mem_append_right _ List.mem_cons_self
    exact absurd inside h

theorem undotted_of_identifier {cs : List Char} (h : isIdentifier cs) : '.' ∉ cs := by
  intro point
  cases Text.isIdentifierRest_of_mem h point

theorem segments_of_identifier {cs : List Char} (h : isIdentifier cs) :
    segments '.' cs = [cs] :=
  segments_of_not_mem (undotted_of_identifier h)

theorem isIdentifierPath_of_name {name : String} (h : isName name.toList) :
    isIdentifierPath name := by
  rw [isIdentifierPath, segments_of_identifier (isIdentifier_of_name h), List.all_cons,
    isIdentifier_of_name h]
  rfl

theorem starts_of_identifier {cs : List Char} (h : isIdentifier cs) :
    ∃ c rest, cs = c :: rest ∧ isIdentifierStart c := by
  cases cs with
  | nil => cases h
  | cons c rest =>
    rw [isIdentifier, Bool.and_eq_true] at h
    exact ⟨c, rest, rfl, h.1⟩

theorem starts_of_segments {sep : Char} {cs : List Char}
    (h : ∀ s ∈ segments sep cs, isIdentifier s) :
    ∃ c rest, cs = c :: rest ∧ isIdentifierStart c := by
  rw [segments_eq] at h
  cases cut : cut? sep cs with
  | none =>
    rw [cut] at h
    exact starts_of_identifier (h cs (List.mem_singleton_self cs))
  | some pair =>
    rw [cut] at h
    obtain ⟨c, rest, same, start⟩ := starts_of_identifier (h pair.1 List.mem_cons_self)
    exact ⟨c, rest ++ sep :: pair.2, by rw [eq_of_cut? cut, same, List.cons_append], start⟩

/-- Names with points between them are read as such. -/
theorem terminals_segments {n : Nat} {cs : List Char} (names : ∀ s ∈ segments '.' cs, isName s)
    (count : (segments '.' cs).length = n + 1) : terminals (lex cs) = path n := by
  induction n generalizing cs with
  | zero =>
    rw [segments_eq] at names count
    cases cut : cut? '.' cs with
    | none =>
      rw [cut] at names
      exact terminals_name (names cs (List.mem_singleton_self cs))
    | some pair =>
      rw [cut] at count
      exact absurd (Nat.succ.inj count) (mt List.length_eq_zero_iff.1 (Text.segments_ne_nil _ _))
  | succ n ih =>
    rw [segments_eq] at names count
    cases cut : cut? '.' cs with
    | none =>
      rw [cut] at count
      cases count
    | some pair =>
      rw [cut] at names count
      have later : ∀ s ∈ segments '.' pair.2, isName s :=
        fun s hs => names s (List.mem_cons_of_mem _ hs)
      have start := starts_of_segments fun s hs => isIdentifier_of_name (later s hs)
      rw [eq_of_cut? cut, terminals_qualified (names _ List.mem_cons_self) start,
        ih later (Nat.succ.inj count), path]

theorem terminals_reference {n : Nat} {text : String} (h : isReference n text) :
    ∃ m ≤ n, terminals (lex text.toList) = path m := by
  rw [isReference, Bool.and_eq_true, List.all_eq_true, decide_eq_true_eq] at h
  obtain ⟨m, count⟩ := Nat.exists_eq_succ_of_ne_zero
    (mt List.length_eq_zero_iff.1 (Text.segments_ne_nil '.' text.toList))
  exact ⟨m, by omega, terminals_segments h.1 count⟩

theorem isIdentifierPath_of_reference {n : Nat} {text : String} (h : isReference n text) :
    isIdentifierPath text := by
  rw [isReference, Bool.and_eq_true, List.all_eq_true] at h
  exact List.all_eq_true.2 fun s hs => isIdentifier_of_name (h.1 s hs)

/-- A sorted column is a reference, also where the base table is put in front. -/
theorem isReference_sorted {column table : String} (hasJoin : Bool) (ht : isName table.toList)
    (hc : isReference 2 column) : isReference 2 (Column.sorted column table hasJoin) := by
  unfold Column.sorted Column.qualified
  split
  · split
    · exact hc
    · rename_i bare
      have alone : segments '.' column.toList = [column.toList] :=
        segments_of_not_mem fun point => bare (List.contains_iff_mem.2 point)
      have chars : (table ++ "." ++ column).toList = table.toList ++ '.' :: column.toList := by
        simp
      have parts : segments '.' (table ++ "." ++ column).toList =
          [table.toList, column.toList] := by
        rw [chars, Text.segments_append, segments_of_identifier (isIdentifier_of_name ht), alone]
        rfl
      rw [isReference, alone, Bool.and_eq_true, List.all_cons, Bool.and_eq_true] at hc
      rw [isReference, parts, List.all_cons, List.all_cons, ht, hc.1.1]
      rfl
  · exact hc

/-! ## Projected columns -/

theorem mem_of_occurs {part cs : List Char} (h : Text.occurs part cs) : ∀ c ∈ part, c ∈ cs := by
  induction cs with
  | nil =>
    rw [Text.occurs, List.isEmpty_iff] at h
    exact fun c hc => absurd (h ▸ hc) List.not_mem_nil
  | cons d cs ih =>
    rw [Text.occurs, Bool.or_eq_true] at h
    intro c hc
    rcases h with front | later
    · exact (List.isPrefixOf_iff_prefix.1 front).mem hc
    · exact List.mem_cons_of_mem d (ih later c hc)

theorem hasAlias_of_only {column : String} (h : Only isNameChar column.toList) :
    Column.hasAlias column = false := by
  rw [Bool.eq_false_iff]
  intro occurs
  obtain ⟨c, hc, blank⟩ := List.mem_map.1 (mem_of_occurs occurs ' ' (by decide))
  have name := stable_nameChar.lower c (h c hc)
  rw [blank] at name
  cases name

theorem nameChars_of_identifier {cs : List Char} (h : isIdentifier cs) : Only isNameChar cs :=
  fun _ hc => isNameChar_of_rest (Text.isIdentifierRest_of_mem h hc)

theorem only_of_name {cs : List Char} (h : isName cs) : Only isTextChar cs :=
  (nameChars_of_identifier (isIdentifier_of_name h)).text

theorem toUpper_underscore : Char.toUpper '_' = '_' := by decide

section Aliases

variable {stem : String → String} (keeps : Column.KeepsNames stem)

include keeps

/-- No keyword has an underscore, so the alias of a column is a name. -/
theorem isName_alias {table name : String} (ht : isName table.toList) (hn : isName name.toList) :
    isName (stem table ++ "_" ++ name).toList := by
  have underscore : '_' ∈ (upperCase (stem table ++ "_" ++ name).toList).toList := by
    simp [upperCase, toUpper_underscore]
  rw [isName, Bool.and_eq_true, Bool.not_eq_true', Bool.eq_false_iff, Ne, List.contains_iff_mem]
  refine ⟨keeps.isIdentifier_alias (isIdentifier_of_name ht) (isIdentifier_of_name hn), ?_⟩
  intro keyword
  cases (isUpper_keyword keyword).2 '_' underscore

theorem terminals_aliased {table name : String} (ht : isName table.toList)
    (hn : isName name.toList) : terminals (lex (Column.aliased stem table name).toList) =
      [.name, .sign ".", .name, .keyword "AS", .name] := by
  have written : (Column.aliased stem table name).toList = (table.toList ++ '.' :: name.toList) ++
      ' ' :: ("AS".toList ++ ' ' :: (stem table ++ "_" ++ name).toList) := by
    simp [Column.aliased]
  have renamed := isName_alias keeps ht hn
  have front : Only isTextChar (table.toList ++ '.' :: name.toList) :=
    (only_of_name ht).append (.cons (by decide) (only_of_name hn))
  have keyword : terminals (lex "AS".toList) = [.keyword "AS"] := terminals_keyword (by decide)
  have scans := (Scans.plain front).spaced
    ((Scans.plain (by decide : Only isTextChar "AS".toList)).spaced (.plain (only_of_name renamed)))
  rw [written, scans.whole, terminals_append, terminals_append, keyword, terminals_name renamed,
    terminals_qualified ht (starts_of_identifier (isIdentifier_of_name hn)), terminals_name hn]
  rfl

/-- A projected column is a name, or a qualified one under a name of its own. -/
theorem terminals_selected {column table : String} (hasJoin : Bool) (ht : isName table.toList)
    (hc : isReference 1 column) :
    terminals (lex (Column.selected stem column table hasJoin).toList) = [.name] ∨
      terminals (lex (Column.selected stem column table hasJoin).toList) =
        [.name, .sign ".", .name, .keyword "AS", .name] := by
  have no_alias := hasAlias_of_only (only_nameChar (isIdentifierPath_of_reference hc))
  rw [isReference, Bool.and_eq_true, List.all_eq_true, decide_eq_true_eq, segments_eq] at hc
  obtain ⟨names, few⟩ := hc
  rw [Column.selected, if_neg (Bool.eq_false_iff.1 no_alias)]
  cases cut : cut? '.' column.toList with
  | none =>
    rw [cut] at names
    have name := names _ (List.mem_singleton_self _)
    cases hasJoin with
    | true => exact .inr (terminals_aliased keeps ht name)
    | false => exact .inl (terminals_name name)
  | some pair =>
    rw [cut] at names few
    obtain ⟨a, b⟩ := pair
    simp only [List.length_cons, Nat.add_le_add_iff_right] at few
    -- At most one point stands in the reference, so what is behind it is a name.
    have last : segments '.' b = [b] := by
      rw [segments_eq] at few ⊢
      cases inner : cut? '.' b with
      | none => rfl
      | some rest =>
        rw [inner, List.length_cons] at few
        have filled := List.length_pos_iff.2 (Text.segments_ne_nil '.' rest.2)
        omega
    have ha : isName (String.ofList a).toList := by
      rw [String.toList_ofList]
      exact names a List.mem_cons_self
    have hb : isName (String.ofList b).toList := by
      rw [String.toList_ofList]
      exact names b (List.mem_cons_of_mem a (last ▸ List.mem_singleton_self b))
    exact .inr (terminals_aliased keeps ha hb)

end Aliases

end Sqlite

end SelectQuery
