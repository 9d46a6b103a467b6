import Mathlib.Data.List.Forall2
import SelectQuery.Join
import SelectQuery.Proofs.Trimming
import SelectQuery.Text.LetterCase

/-!
The texts that name operators. The reading of an operator decides between a value and a table where a
join is given by three texts, so it matters exactly which texts are operators. The ways to write each
of them are listed here apart from the program, which compares texts in lower case with a table.

What is proved:
  1. `toLower_eq_iff`, `anyCase_iff`: a text is a given one in lower case exactly if each character
     is the given one or its upper case.
  2. `spells_iff`, `Spells.unique`: the table has the ways to write each operator, and no two
     operators share one.
  3. `parse_exact`: so a text is an operator exactly if it is one of these between blanks.
-/

namespace SelectQuery

open Text (Trimmed whiteSpace trim_eq_iff)

/-! ## Letters in any case -/

/-- The text `letters`, with any of its ASCII letters in upper case. -/
def AnyCase (letters cs : List Char) : Prop :=
  List.Forall₂ (fun l c => c = l ∨ c = l.toUpper) letters cs

/-- Whether `c` is an ASCII character and no letter in upper case. -/
def isSmall (c : Char) : Bool := c.toNat < 0x80 && !c.isUpper

theorem eq_or_eq_toUpper (c : Char) : c = c.toLower ∨ c = c.toLower.toUpper := by
  by_cases ascii : c.toNat < 0x80
  · have each : ∀ n < 0x80, Char.ofNat n = (Char.ofNat n).toLower ∨
        Char.ofNat n = (Char.ofNat n).toLower.toUpper := by
      decide
    have here := each c.toNat ascii
    rwa [Char.ofNat_toNat] at here
  · exact .inl (Text.toLower_beyond ascii).symm

theorem toLower_of_isSmall {l : Char} (small : isSmall l) :
    l.toLower = l ∧ l.toUpper.toLower = l := by
  have each : ∀ n < 0x80, isSmall (Char.ofNat n) → (Char.ofNat n).toLower = Char.ofNat n ∧
      (Char.ofNat n).toUpper.toLower = Char.ofNat n := by
    decide
  have ascii : l.toNat < 0x80 := by
    rw [isSmall, Bool.and_eq_true, decide_eq_true_iff] at small
    exact small.1
  have here := each l.toNat ascii
  rw [Char.ofNat_toNat] at here
  exact here small

theorem toLower_eq_iff {c l : Char} (small : isSmall l) :
    c.toLower = l ↔ c = l ∨ c = l.toUpper := by
  constructor
  · rintro rfl
    exact eq_or_eq_toUpper c
  · rintro (rfl | rfl)
    · exact (toLower_of_isSmall small).1
    · exact (toLower_of_isSmall small).2

theorem anyCase_iff {letters cs : List Char} (small : ∀ l ∈ letters, isSmall l) :
    cs.map Char.toLower = letters ↔ AnyCase letters cs := by
  induction letters generalizing cs with
  | nil => simp [AnyCase]
  | cons l letters ih =>
    obtain ⟨first, later⟩ := List.forall_mem_cons.1 small
    rw [AnyCase, List.forall₂_cons_left_iff, List.map_eq_cons_iff]
    constructor
    · rintro ⟨c, rest, rfl, same, others⟩
      exact ⟨c, rest, (toLower_eq_iff first).1 same, (ih later).1 others, rfl⟩
    · rintro ⟨c, rest, same, others, rfl⟩
      exact ⟨c, rest, rfl, (toLower_eq_iff first).2 same, (ih later).2 others⟩

theorem AnyCase.refl (cs : List Char) : AnyCase cs cs := List.forall₂_same.2 fun _ _ => .inl rfl

theorem AnyCase.append {a b x y : List Char} (ha : AnyCase a x) (hb : AnyCase b y) :
    AnyCase (a ++ b) (x ++ y) :=
  List.rel_append ha hb

theorem AnyCase.exists_append {a b cs : List Char} (h : AnyCase (a ++ b) cs) :
    ∃ x y, cs = x ++ y ∧ AnyCase a x ∧ AnyCase b y := by
  induction a generalizing cs with
  | nil => exact ⟨[], cs, rfl, .refl [], h⟩
  | cons l a ih =>
    obtain ⟨c, rest, first, later, rfl⟩ := List.forall₂_cons_left_iff.1 h
    obtain ⟨x, y, rfl, ha, hb⟩ := ih later
    exact ⟨c :: x, y, rfl, .cons first ha, hb⟩

/-- Where no letter has an upper case there is one way to write the text. -/
theorem AnyCase.eq_of_caseless {letters cs : List Char} (h : AnyCase letters cs)
    (caseless : letters.map Char.toUpper = letters) : cs = letters := by
  induction h with
  | nil => rfl
  | @cons l c letters cs first _ ih =>
    obtain ⟨same, others⟩ := List.cons.inj caseless
    rw [same, or_self] at first
    rw [first, ih others]

namespace Operator

/-! ## The ways to write an operator -/

/-- A way to write an operator. The two words of an operator have one blank between them. -/
inductive Spells : Operator → List Char → Prop where
  | equal : Spells eq ['=']
  | unequal : Spells ne ['!', '=']
  | lessOrGreater : Spells ne ['<', '>']
  | less : Spells lt ['<']
  | greater : Spells gt ['>']
  | atMost : Spells le ['<', '=']
  | atLeast : Spells ge ['>', '=']
  | like {word : List Char} (h : AnyCase "like".toList word) : Spells like word
  | notLike {first second : List Char} (hn : AnyCase "not".toList first)
    (hl : AnyCase "like".toList second) : Spells notLike (first ++ ' ' :: second)

variable {op op' : Operator} {cs name : List Char} {s : String}

theorem mem_all (op : Operator) : op ∈ all := by
  cases op <;> decide

theorem every_spelling {p : String → Bool} (every : all.all fun op => op.spellings.all p)
    (h : s ∈ op.spellings) : p s :=
  List.all_eq_true.1 (List.all_eq_true.1 every op op.mem_all) s h

theorem isSmall_spelling (h : s ∈ op.spellings) : ∀ c ∈ s.toList, isSmall c := by
  have small : s.toList.all isSmall :=
    every_spelling (p := fun s => s.toList.all isSmall) (by decide) h
  exact List.all_eq_true.1 small

theorem unique_spelling (h : s ∈ op.spellings) (h' : s ∈ op'.spellings) : op = op' := by
  have each : ∀ op ∈ all, ∀ op' ∈ all, ∀ s ∈ op.spellings, s ∈ op'.spellings → op = op' := by
    decide
  exact each op op.mem_all op' op'.mem_all s h h'

theorem mem_spellings_iff : String.ofList (cs.map Char.toLower) ∈ op.spellings ↔
    ∃ s ∈ op.spellings, AnyCase s.toList cs := by
  constructor
  · intro h
    exact ⟨_, h, (anyCase_iff (isSmall_spelling h)).1 String.toList_ofList.symm⟩
  · rintro ⟨s, h, written⟩
    rwa [(anyCase_iff (isSmall_spelling h)).2 written, String.ofList_toList]

/-- The table has the ways to write each operator, in lower case. -/
theorem spells_iff : op.Spells cs ↔ String.ofList (cs.map Char.toLower) ∈ op.spellings := by
  constructor
  · intro h
    cases h with
    | like h => exact mem_spellings_iff.2 ⟨"like", List.mem_singleton_self _, h⟩
    | notLike hn hl =>
      have words := hn.append ((AnyCase.refl [' ']).append hl)
      exact mem_spellings_iff.2 ⟨"not like", List.mem_singleton_self _, words⟩
    | _ => decide
  · intro h
    obtain ⟨s, h, written⟩ := mem_spellings_iff.1 h
    cases op with
    | like =>
      obtain rfl := List.mem_singleton.1 h
      exact .like written
    | notLike =>
      obtain rfl := List.mem_singleton.1 h
      obtain ⟨first, rest, rfl, hn, later⟩ := AnyCase.exists_append (a := "not".toList) written
      obtain ⟨blank, second, rfl, hb, hl⟩ := AnyCase.exists_append (a := [' ']) later
      obtain rfl := hb.eq_of_caseless (by decide)
      exact .notLike hn hl
    | ne =>
      rcases List.mem_pair.1 h with rfl | rfl <;> obtain rfl := written.eq_of_caseless (by decide)
      · exact .unequal
      · exact .lessOrGreater
    | eq | lt | gt | le | ge =>
      obtain rfl := List.mem_singleton.1 h
      obtain rfl := written.eq_of_caseless (by decide)
      first
        | exact .equal
        | exact .less
        | exact .greater
        | exact .atMost
        | exact .atLeast

theorem Spells.unique (h : op.Spells name) (h' : op'.Spells name) : op = op' :=
  unique_spelling (spells_iff.1 h) (spells_iff.1 h')

theorem spells_text (op : Operator) : op.Spells op.text.toList := by
  rw [spells_iff]
  cases op <;> decide

/-- Whether a text ends in a blank, where `edge` is the character at this end. -/
def isBlankEdge (edge : Option Char) : Bool := edge.any whiteSpace.contains

/-- A blank has no case, so an edge that is blank stays so in lower case. -/
theorem not_blank_of_lower {edge : Option Char} (h : isBlankEdge (edge.map Char.toLower) = false) :
    ∀ c ∈ edge, c ∉ whiteSpace := by
  have caseless : whiteSpace.map Char.toLower = whiteSpace := by decide
  rintro c rfl blank
  have lower : c.toLower ∈ whiteSpace := caseless ▸ List.mem_map_of_mem blank
  rw [← List.contains_iff_mem] at lower
  exact absurd (lower.symm.trans h) (by decide)

/-- No spelling has a blank at an end, so blanks around it are trimmed, and no others. -/
theorem Spells.trimmed (h : op.Spells name) {before after : List Char}
    (front : ∀ c ∈ before, c ∈ whiteSpace) (back : ∀ c ∈ after, c ∈ whiteSpace) :
    Trimmed (before ++ name ++ after) name := by
  have ends := every_spelling
    (p := fun s => !isBlankEdge s.toList.head? && !isBlankEdge s.toList.getLast?) (by decide)
    (spells_iff.1 h)
  rw [String.toList_ofList, Bool.and_eq_true, Bool.not_eq_true', Bool.not_eq_true', List.head?_map,
    List.getLast?_map] at ends
  exact ⟨⟨before, after, rfl, front, back⟩, not_blank_of_lower ends.1, not_blank_of_lower ends.2⟩

theorem parse_eq_some_iff : parse? s = some op ↔ op.Spells (Text.trim s.toList) := by
  rw [spells_iff, parse?]
  generalize String.ofList ((Text.trim s.toList).map Char.toLower) = name
  have named_of {op : Operator} (found : all.find? (·.spellings.contains name) = some op) :
      name ∈ op.spellings := by
    have listed : op.spellings.contains name :=
      List.find?_some (p := fun op : Operator => op.spellings.contains name) found
    exact List.contains_iff_mem.1 listed
  constructor
  · exact named_of
  · intro named
    cases found : all.find? (·.spellings.contains name) with
    | none =>
      have other := List.find?_eq_none.1 found op op.mem_all
      exact absurd (List.contains_iff_mem.2 named) other
    | some op' => rw [unique_spelling (named_of found) named]

theorem parse_of_blanks (op : Operator) {before after : List Char}
    (front : ∀ c ∈ before, c ∈ whiteSpace) (back : ∀ c ∈ after, c ∈ whiteSpace) :
    parse? (String.ofList (before ++ op.text.toList ++ after)) = some op := by
  have trimmed := trim_eq_iff.2 (op.spells_text.trimmed front back)
  rw [parse_eq_some_iff, String.toList_ofList, trimmed]
  exact op.spells_text

theorem ofKeyword_eq_ok_iff : ofKeyword s = .ok op ↔ parse? s = some op := by
  rw [ofKeyword]
  cases parse? s <;> simp

theorem ofKeyword_eq_error_iff {e : UnknownKeyword} :
    ofKeyword s = .error e ↔ parse? s = none ∧ e = ⟨s⟩ := by
  rw [ofKeyword]
  cases parse? s <;> simp [eq_comm]

/-- A text is read as an operator exactly if it is a way to write this operator, with any blanks
around it and none more in it, and no text is a way to write two operators. So an operator as it is
written in a statement is read back, whatever blanks stand around it. Where a text has to be an
operator and is none, it is refused as it was given. Three texts are a comparison with a value if the
middle one is an operator, and else the equality with the column that a table and a name give. -/
theorem parse_exact :
    (∀ s op, parse? s = some op ↔ ∃ name, Trimmed s.toList name ∧ op.Spells name) ∧
    (∀ (op op' : Operator) name, op.Spells name → op'.Spells name → op = op') ∧
    (∀ (op : Operator) before after, (∀ c ∈ before, c ∈ whiteSpace) → (∀ c ∈ after, c ∈ whiteSpace) →
      parse? (String.ofList (before ++ op.text.toList ++ after)) = some op) ∧
    (∀ s op, ofKeyword s = .ok op ↔ parse? s = some op) ∧
    (∀ s e, ofKeyword s = .error e ↔ parse? s = none ∧ e = ⟨s⟩) ∧
    ∀ column middle last,
      (∀ op, parse? middle = some op →
        JoinCondition.ofTexts column middle last = .value column op (.text last)) ∧
      (parse? middle = none →
        JoinCondition.ofTexts column middle last = .columns column .eq middle last) := by
  refine ⟨fun s op => ?_, fun op op' name => Spells.unique, fun op before after => op.parse_of_blanks,
    fun s op => ofKeyword_eq_ok_iff, fun s e => ofKeyword_eq_error_iff, fun column middle last => ?_⟩
  · rw [parse_eq_some_iff]
    constructor
    · intro named
      exact ⟨_, trim_eq_iff.1 rfl, named⟩
    · rintro ⟨name, trimmed, named⟩
      rwa [trim_eq_iff.2 trimmed]
  · rw [JoinCondition.ofTexts]
    refine ⟨fun op read => ?_, fun unread => ?_⟩
    · rw [read]
    · rw [unread]

/-- The Kelvin sign is no letter K, a tab between the words is not their blank, and three texts with
such a word in the middle name a column. -/
example : [" Like\u2003", "NOT like", "<>", "li\u212ae", "not\tlike", "not  like", "=>"].map parse? =
    [some .like, some .notLike, some .ne, none, none, none, none] := by
  decide +kernel

end Operator

end SelectQuery
