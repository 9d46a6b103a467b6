import SelectQuery.Inflection
import SelectQuery.Proofs.Names

/-!
The characters of inflected words. The singular of a word is put together from its own characters
and those of the inflection tables, which are letters.

What is proved:
  1. `ways_made`, `matchEnd_made`: what a pattern captures is made of the characters of the text.
  2. `only_inflected`: so is the word that a rule gives, but for what the rule puts in.
  3. `singular_cases`: what the singular of a word can be.
  4. `only_singular`: it has the characters of the word and letters alone.
-/

namespace SelectQuery

open Text (lower upper Only Stable)

namespace Inflection

/-! ## Letter case -/

/-- Whether `c` satisfies `p` or marks a place to fill in. -/
def isMarked (p : Char → Bool) (c : Char) : Bool := p c || c == '$'

theorem isMarked_iff {p : Char → Bool} {c : Char} : isMarked p c ↔ p c ∨ c = '$' := by
  rw [isMarked, Bool.or_eq_true, beq_iff_eq]

theorem stable_marked {p : Char → Bool} (stable : Stable p) : Stable (isMarked p) where
  ascii c h := by
    rcases isMarked_iff.1 h with h | rfl
    · exact stable.ascii c h
    · decide
  lower c h := by
    rcases isMarked_iff.1 h with h | rfl
    · exact isMarked_iff.2 (.inl (stable.lower c h))
    · exact isMarked_iff.2 (.inr (by decide))
  upper c h := by
    rcases isMarked_iff.1 h with h | rfl
    · exact isMarked_iff.2 (.inl (stable.upper c h))
    · exact isMarked_iff.2 (.inr (by decide))

theorem only_marked {p q : Char → Bool} {cs : List Char} (weaker : ∀ c, p c → q c)
    (h : Only (isMarked p) cs) : Only (isMarked q) cs := by
  intro c hc
  exact isMarked_iff.2 ((isMarked_iff.1 (h c hc)).imp_left (weaker c))

section Stable

variable {p : Char → Bool} (stable : Stable p) {cs : List Char}

include stable

theorem only_lowerFrom (h : Only p cs) (before : List Char) :
    Only p (Text.lowerFrom before cs) := by
  induction cs generalizing before with
  | nil => exact .nil
  | cons c cs ih =>
    have code := stable.ascii c h.head
    have no_sigma : (c == 'Σ') = false := by
      rw [beq_eq_false_iff_ne]
      rintro rfl
      exact absurd code (by decide)
    rw [Text.lowerFrom, no_sigma, Text.lowerChar, if_pos code]
    exact .cons (stable.lower c h.head) (ih h.tail _)

theorem only_upper (h : Only p cs) : Only p (upper cs) := by
  intro d hd
  obtain ⟨c, hc, hd⟩ := List.mem_flatMap.1 hd
  rw [Text.upperChar, if_pos (stable.ascii c (h c hc)), List.mem_singleton] at hd
  exact hd ▸ stable.upper c (h c hc)

theorem only_caseLike (h : Only p cs) (word : List Char) : Only p (caseLike word cs) := by
  have lowered : Only p (lower cs) := only_lowerFrom stable h []
  unfold caseLike
  split
  · exact h
  · split
    · exact lowered
    · split
      · exact only_upper stable h
      · split
        · exact h
        · exact lowered

end Stable

/-! ## Patterns -/

namespace Pattern

/-- A way to match whose remaining and captured texts are made of such characters. -/
structure Way.Made (p : Char → Bool) (w : Way) : Prop where
  rest : Only p w.rest
  captures : ∀ part ∈ w.captures, Only p part

variable {p : Char → Bool}

/-- A character that is eaten stands at the front of the text and is accepted. -/
theorem eat_cases {accepts : Char → Bool} {w v : Way} (hv : v ∈ w.eat accepts) :
    ∃ c rest, w.rest = c :: rest ∧ accepts c ∧ v = ⟨some c, rest, w.captures⟩ := by
  unfold Way.eat at hv
  split at hv
  · rename_i c rest whole
    obtain ⟨accepted, hv⟩ := List.mem_ite_nil_right.1 hv
    exact ⟨c, rest, whole, accepted, List.mem_singleton.1 hv⟩
  · exact absurd hv List.not_mem_nil

/-- A pattern that only looks around leaves the way as it is. -/
theorem eq_of_guard {b : Bool} {w v : Way} (hv : v ∈ if b then [w] else []) : v = w :=
  List.mem_singleton.1 (List.mem_ite_nil_right.1 hv).2

theorem eat_made {accepts : Char → Bool} {w v : Way} (h : w.Made p) (hv : v ∈ w.eat accepts) :
    v.Made p := by
  obtain ⟨c, rest, whole, -, rfl⟩ := eat_cases hv
  exact ⟨(whole ▸ h.rest).tail, h.captures⟩

theorem ways_made (q : Pattern) {w : Way} (h : w.Made p) : ∀ v ∈ q.ways w, v.Made p := by
  induction q generalizing w with
  | charOf negated cs => exact fun v hv => eat_made h hv
  | nonAscii => exact fun v hv => eat_made h hv
  | nonWord => exact fun v hv => eat_made h hv
  | start => exact fun v hv => eq_of_guard hv ▸ h
  | boundary => exact fun v hv => eq_of_guard hv ▸ h
  | empty => exact fun v hv => List.mem_singleton.1 hv ▸ h
  | seq first second ihp ihq =>
    intro v hv
    obtain ⟨u, hu, hv⟩ := List.mem_flatMap.1 hv
    exact ihq (ihp h u hu) v hv
  | either first second ihp ihq =>
    intro v hv
    rcases List.mem_append.1 hv with hv | hv
    · exact ihp h v hv
    · exact ihq h v hv
  | capture part ih =>
    intro v hv
    obtain ⟨u, hu, rfl⟩ := List.mem_map.1 hv
    refine ⟨(ih h u hu).rest, ?_⟩
    intro part hpart
    rcases List.mem_append.1 hpart with hpart | hpart
    · exact (ih h u hu).captures part hpart
    · rw [List.mem_singleton.1 hpart]
      exact fun c hc => h.rest c (List.mem_of_mem_take hc)

theorem matchWhole_made (q : Pattern) {before : Option Char} {text : List Char} {w : Way}
    (h : Only p text) (whole : q.matchWhole before text = some w) :
    ∀ part ∈ text :: w.captures, Only p part := by
  have way : w ∈ q.ways ⟨before, text, []⟩ := List.mem_of_find?_eq_some whole
  have made := ways_made q ⟨h, fun _ hc => absurd hc List.not_mem_nil⟩ w way
  intro part hpart
  rcases List.mem_cons.1 hpart with rfl | hpart
  · exact h
  · exact made.captures part hpart

theorem matchEnd_made (q : Pattern) {before : Option Char} {text head tail : List Char}
    {captures : List (List Char)} (h : Only p text)
    (found : q.matchEnd before text = some (head, tail, captures)) :
    Only p head ∧ ∀ part ∈ tail :: captures, Only p part := by
  induction text generalizing before head with
  | nil =>
    obtain ⟨w, whole, same⟩ := Option.map_eq_some_iff.1 found
    cases same
    exact ⟨h, matchWhole_made q h whole⟩
  | cons c rest ih =>
    rw [matchEnd] at found
    cases whole : q.matchWhole before (c :: rest) with
    | some w =>
      rw [whole] at found
      cases found
      exact ⟨Only.nil, matchWhole_made q h whole⟩
    | none =>
      rw [whole] at found
      obtain ⟨⟨inner, tail', captures'⟩, later, same⟩ := Option.map_eq_some_iff.1 found
      cases same
      obtain ⟨made, parts⟩ := ih h.tail later
      exact ⟨.cons h.head made, parts⟩

end Pattern

/-! ## Replacements -/

section Replacement

variable {p : Char → Bool}

theorem only_fill {i : Nat} {text out : List Char} (ht : Only p text) (ho : Only p out) :
    Only p (fill i text out) := by
  fun_induction fill i text out with
  | case1 rest ih => exact ht.append (ih ho.tail.tail)
  | case2 d rest _ ih => exact .cons ho.head (ih ho.tail)
  | case3 c rest _ ih => exact .cons ho.head (ih ho.tail)
  | case4 => exact ho

theorem only_fillAll (stable : Stable p) {word : List Char} {parts : List (List Char)}
    (hp : ∀ part ∈ parts, Only p part) {i : Nat} {out : List Char} (ho : Only p out) :
    Only p (fillAll word i parts out) := by
  induction parts generalizing i out with
  | nil => exact ho
  | cons part parts ih =>
    apply ih fun p hp' => hp p (List.mem_cons_of_mem part hp')
    exact only_fill (only_caseLike stable (hp part List.mem_cons_self) word) ho

/-- Without its marks, such a text has the characters that satisfy `p` alone. -/
theorem only_dropMarks {cs : List Char} (h : Only (isMarked p) cs) : Only p (dropMarks cs) := by
  fun_induction dropMarks cs with
  | case1 d rest ih => exact ih h.tail.tail
  | case2 => exact Only.nil
  | case3 c rest no_mark no_end ih =>
    intro d hd
    rcases List.mem_cons.1 hd with rfl | hd
    · have mark : d ≠ '$' := by
        rintro rfl
        cases rest with
        | nil => exact no_end rfl rfl
        | cons e rest => exact no_mark e rest rfl rfl
      exact (isMarked_iff.1 h.head).resolve_right mark
    · exact ih h.tail d hd
  | case4 => exact Only.nil

theorem only_inflected (stable : Stable p) {rule : Rule} {word out : List Char}
    (h : Only (isMarked p) word) (hr : Only (isMarked p) rule.replacement.toList)
    (found : rule.inflected? word = some out) : Only p out := by
  obtain ⟨⟨head, tail, captures⟩, matched, rfl⟩ := Option.map_eq_some_iff.1 found
  obtain ⟨front, parts⟩ := Pattern.matchEnd_made rule.ending h matched
  have replaced := only_caseLike (stable_marked stable) hr word
  exact only_dropMarks (front.append (only_fillAll (stable_marked stable) parts replaced))

end Replacement

/-- The replacements of the rules are made of letters and marks. -/
theorem only_replacement : ∀ rule ∈ singularRules ++ uncountableRules,
    Only (isMarked Text.isIdentifierRest) rule.replacement.toList := by
  have each : (singularRules ++ uncountableRules).all
      (fun rule => rule.replacement.toList.all (isMarked Text.isIdentifierRest)) := by decide
  intro rule hr
  exact List.all_eq_true.1 (List.all_eq_true.1 each rule hr)

/-- The irregular words are made of letters. -/
theorem only_irregular :
    ∀ pair ∈ irregularPlurals, Only Text.isIdentifierRest pair.2.toList := by
  have each : irregularPlurals.all (fun pair => pair.2.toList.all Text.isIdentifierRest) := by
    decide
  intro pair hp
  exact List.all_eq_true.1 (List.all_eq_true.1 each pair hp)

/-- An irregular word is one of the table. -/
theorem mem_of_lookupLast {token other : List Char}
    (found : lookupLast irregularPlurals token = some other) :
    ∃ pair ∈ irregularPlurals, pair.2.toList = other := by
  obtain ⟨text, looked, rfl⟩ := Option.map_eq_some_iff.1 found
  have pair : (String.ofList token, text) ∈ irregularPlurals.reverse := by
    obtain ⟨before, behind, split, -⟩ := List.lookup_eq_some_iff.1 looked
    rw [split]
    exact List.mem_append_right _ List.mem_cons_self
  exact ⟨_, List.mem_reverse.1 pair, rfl⟩

/-- The singular of a word is the word itself in lower case or as it stands, a word of the table in
the letter case of the word, or what a rule makes of the word. -/
theorem singular_cases (word : String) :
    (singular word).toList = caseLike word.toList (lower word.toList) ∨
    (∃ pair ∈ irregularPlurals, (singular word).toList = caseLike word.toList pair.2.toList) ∨
    (singular word).toList = word.toList ∨
    ∃ rule ∈ singularRules ++ uncountableRules,
      rule.inflected? word.toList = some (singular word).toList := by
  rw [singular, String.toList_ofList, inflect]
  split
  · exact .inl rfl
  · split
    · rename_i other found
      obtain ⟨pair, known, rfl⟩ := mem_of_lookupLast found
      exact .inr (.inl ⟨pair, known, rfl⟩)
    · split
      · exact .inr (.inr (.inl rfl))
      · cases found : (singularRules ++ uncountableRules).reverse.findSome?
            (·.inflected? word.toList) with
        | none => exact .inr (.inr (.inl rfl))
        | some out =>
          obtain ⟨rule, hr, inflected⟩ := List.exists_of_findSome?_eq_some found
          exact .inr (.inr (.inr ⟨rule, List.mem_reverse.1 hr, inflected⟩))

/-- The singular of a word has the characters of the word and letters alone. -/
theorem only_singular {p : Char → Bool} (stable : Stable p)
    (letters : ∀ c, Text.isIdentifierRest c → p c) {word : String} (h : Only p word.toList) :
    Only p (singular word).toList := by
  rcases singular_cases word with same | ⟨pair, known, same⟩ | same | ⟨rule, hr, inflected⟩
  · rw [same]
    exact only_caseLike stable (only_lowerFrom stable h []) word.toList
  · rw [same]
    have listed : Only p pair.2.toList := fun c hc => letters c (only_irregular pair known c hc)
    exact only_caseLike stable listed word.toList
  · rw [same]
    exact h
  · have marked : Only (isMarked p) word.toList := fun c hc => isMarked_iff.2 (.inl (h c hc))
    exact only_inflected stable marked (only_marked letters (only_replacement rule hr)) inflected

end Inflection

end SelectQuery
