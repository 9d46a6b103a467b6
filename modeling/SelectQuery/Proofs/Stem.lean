import SelectQuery.Proofs.Alias
import SelectQuery.Proofs.Inflected

/-!
The singular as a stem of aliases. The singular of an identifier is empty or starts as an identifier
does, so with an underscore behind it, it is one. What could go wrong is a rule that gives back an
inner part of the word, which may start with a digit; so it matters where the captures of the rules
open.

What is proved:
  1. `rest_of_still`, `led_of_lettered`, `led_captures`: what the shape of a pattern says about
     where its captures open.
  2. `fronted_fillAll`: filling in such texts keeps the front of a replacement.
  3. `led_singular`: so the singular of an identifier starts as one, or is empty.
  4. `keepsNames_aliasStem`: the singular has what is asked of a stem.
-/

namespace SelectQuery

open Text (lower upper Only Stable isIdentifier isIdentifierStart isIdentifierRest)

namespace Inflection

/-- Nothing, or a text whose first character can start an identifier. -/
def Led (cs : List Char) : Prop := ∀ c ∈ cs.head?, isIdentifierStart c

namespace Led

variable {a b cs : List Char} {c : Char}

theorem nil : Led [] := fun _ h => nomatch h

theorem cons (h : isIdentifierStart c) : Led (c :: cs) := by
  rintro _ ⟨⟩
  exact h

theorem head (h : Led (c :: cs)) : isIdentifierStart c := h c rfl

theorem take (h : Led cs) (n : Nat) : Led (cs.take n) := by
  cases cs with
  | nil => rw [List.take_nil]; exact nil
  | cons c cs =>
    cases n with
    | zero => exact nil
    | succ n => exact cons h.head

theorem append (ha : Led a) (hb : Led b) : Led (a ++ b) := by
  cases a with
  | nil => exact hb
  | cons c a => exact cons ha.head

end Led

theorem led_of_identifier {cs : List Char} (h : isIdentifier cs) : Led cs := by
  cases cs with
  | nil => exact .nil
  | cons c cs =>
    rw [isIdentifier, Bool.and_eq_true] at h
    exact .cons h.1

theorem mark_ne_start {c : Char} (h : isIdentifierStart c) : c ≠ '$' := by
  rintro rfl
  exact absurd h (by decide)

/-! ## Letter case -/

theorem stable_identifierStart : Stable isIdentifierStart :=
  .of_ascii (fun c h => stable_identifierRest.ascii c (Text.isIdentifierRest_of_start h))
    (by decide)

theorem led_lower {cs : List Char} (h : Led cs) : Led (lower cs) := by
  cases cs with
  | nil => exact .nil
  | cons c cs =>
    have code := stable_identifierStart.ascii c h.head
    have no_sigma : (c == 'Σ') = false := by
      rw [beq_eq_false_iff_ne]
      rintro rfl
      exact absurd code (by decide)
    rw [lower, Text.lowerFrom, no_sigma, Text.lowerChar, if_pos code]
    exact .cons (stable_identifierStart.lower c h.head)

theorem led_upper {cs : List Char} (h : Led cs) : Led (upper cs) := by
  cases cs with
  | nil => exact .nil
  | cons c cs =>
    rw [upper, List.flatMap_cons, Text.upperChar, if_pos (stable_identifierStart.ascii c h.head)]
    exact .cons (stable_identifierStart.upper c h.head)

theorem caseLike_cases (word text : List Char) :
    caseLike word text = text ∨ caseLike word text = lower text ∨
      caseLike word text = upper text := by
  unfold caseLike
  split
  · exact .inl rfl
  · split
    · exact .inr (.inl rfl)
    · split
      · exact .inr (.inr rfl)
      · split
        · exact .inl rfl
        · exact .inr (.inl rfl)

theorem led_caseLike {cs : List Char} (h : Led cs) (word : List Char) : Led (caseLike word cs) := by
  rcases caseLike_cases word cs with same | same | same <;> rw [same]
  · exact h
  · exact led_lower h
  · exact led_upper h

/-! ## Where captures open -/

theorem isDigit_foldCase {c : Char} (h : c.isDigit) : (foldCase c).isDigit := by
  have each : ∀ n < 0x80, (Char.ofNat n).isDigit → (foldCase (Char.ofNat n)).isDigit := by decide
  have code : c.toNat < 0x80 := toNat_of_nameChar (isNameChar_of_isDigit h)
  have same := each c.toNat code
  rw [Char.ofNat_toNat] at same
  exact same h

namespace Pattern

/-- The pattern matches nothing but the empty text. -/
def still : Pattern → Bool
  | start => true
  | boundary => true
  | empty => true
  | seq p q => p.still && q.still
  | either p q => p.still && q.still
  | capture p => p.still
  | _ => false

/-- What the pattern matches starts with one of certain characters, none of which is a digit. -/
def lettered : Pattern → Bool
  | charOf false cs => cs.all fun d => !(foldCase d).isDigit
  | seq p q => p.lettered || p.still && q.lettered
  | either p q => p.lettered && q.lettered
  | capture p => p.lettered
  | _ => false

/-- Each capture of the pattern opens at its first place, if `first`, or before such a character. -/
def opens (first : Bool) : Pattern → Bool
  | capture p => (first || p.lettered) && p.opens first
  | seq p q => p.opens first && q.opens (first && p.still)
  | either p q => p.opens first && q.opens first
  | _ => true

variable {w v : Way}

theorem rest_of_still {q : Pattern} (still : q.still) (hv : v ∈ q.ways w) : v.rest = w.rest := by
  induction q generalizing w v with
  | charOf _ _ | nonAscii | nonWord => simp [Pattern.still] at still
  | start | boundary => rw [eq_of_guard hv]
  | empty => rw [List.mem_singleton.1 hv]
  | seq p q ihp ihq =>
    rw [Pattern.still, Bool.and_eq_true] at still
    obtain ⟨u, hu, hv⟩ := List.mem_flatMap.1 hv
    rw [ihq still.2 hv, ihp still.1 hu]
  | either p q ihp ihq =>
    rw [Pattern.still, Bool.and_eq_true] at still
    exact (List.mem_append.1 hv).elim (ihp still.1) (ihq still.2)
  | capture p ih =>
    obtain ⟨u, hu, rfl⟩ := List.mem_map.1 hv
    have same : u.rest = w.rest := ih still hu
    exact same

theorem led_of_lettered {q : Pattern} (lettered : q.lettered) (only : Only isIdentifierRest w.rest)
    (hv : v ∈ q.ways w) : Led w.rest := by
  induction q generalizing w v with
  | nonAscii | nonWord | start | boundary | empty => simp [Pattern.lettered] at lettered
  | charOf negated cs =>
    cases negated with
    | true => simp [Pattern.lettered] at lettered
    | false =>
      obtain ⟨c, rest, whole, accepted, -⟩ := eat_cases hv
      rw [whole] at only ⊢
      -- A digit would be matched by a digit alone.
      have no_digit : c.isDigit = false := by
        rw [Bool.eq_false_iff]
        intro digit
        simp only [bne_iff_ne, ne_eq, Bool.not_eq_false, List.any_eq_true, beq_iff_eq] at accepted
        obtain ⟨d, hd, same⟩ := accepted
        have letter := List.all_eq_true.1 lettered d hd
        rw [same, isDigit_foldCase digit] at letter
        exact absurd letter (by decide)
      have start : isIdentifierStart c := by
        simpa [isIdentifierRest, isIdentifierStart, Char.isAlphanum, no_digit] using only.head
      exact .cons start
  | seq p q ihp ihq =>
    rw [Pattern.lettered, Bool.or_eq_true, Bool.and_eq_true] at lettered
    obtain ⟨u, hu, hv⟩ := List.mem_flatMap.1 hv
    rcases lettered with lettered | ⟨still, lettered⟩
    · exact ihp lettered only hu
    · have same := rest_of_still still hu
      rw [← same] at only ⊢
      exact ihq lettered only hv
  | either p q ihp ihq =>
    rw [Pattern.lettered, Bool.and_eq_true] at lettered
    exact (List.mem_append.1 hv).elim (ihp lettered.1 only) (ihq lettered.2 only)
  | capture p ih =>
    obtain ⟨u, hu, -⟩ := List.mem_map.1 hv
    exact ih lettered only hu

/-- If the pattern opens its captures so, what they capture starts as an identifier does. -/
theorem led_captures {q : Pattern} {first : Bool} (opens : q.opens first)
    (led : first → Led w.rest) (made : w.Made isIdentifierRest)
    (before : ∀ part ∈ w.captures, Led part) (hv : v ∈ q.ways w) :
    ∀ part ∈ v.captures, Led part := by
  induction q generalizing w v first with
  | charOf _ _ | nonAscii | nonWord =>
    obtain ⟨c, rest, -, -, rfl⟩ := eat_cases hv
    exact before
  | start | boundary =>
    rw [eq_of_guard hv]
    exact before
  | empty =>
    rw [List.mem_singleton.1 hv]
    exact before
  | seq p q ihp ihq =>
    rw [Pattern.opens, Bool.and_eq_true] at opens
    obtain ⟨u, hu, hv⟩ := List.mem_flatMap.1 hv
    refine ihq opens.2 ?_ (ways_made p made u hu) (ihp opens.1 led made before hu) hv
    intro still
    rw [Bool.and_eq_true] at still
    rw [rest_of_still still.2 hu]
    exact led still.1
  | either p q ihp ihq =>
    rw [Pattern.opens, Bool.and_eq_true] at opens
    exact (List.mem_append.1 hv).elim (ihp opens.1 led made before) (ihq opens.2 led made before)
  | capture p ih =>
    rw [Pattern.opens, Bool.and_eq_true, Bool.or_eq_true] at opens
    obtain ⟨u, hu, rfl⟩ := List.mem_map.1 hv
    have open_led : Led w.rest := opens.1.elim led fun lettered =>
      led_of_lettered lettered made.rest hu
    intro part hpart
    rcases List.mem_append.1 hpart with hpart | hpart
    · exact ih opens.2 led made before hu part hpart
    · rw [List.mem_singleton.1 hpart]
      exact open_led.take _

theorem led_matchWhole {q : Pattern} (opens : q.opens true) {before : Option Char}
    {text : List Char} {w : Way} (led : Led text) (only : Only isIdentifierRest text)
    (matched : q.matchWhole before text = some w) : ∀ part ∈ text :: w.captures, Led part := by
  have way : w ∈ q.ways ⟨before, text, []⟩ := List.mem_of_find?_eq_some matched
  intro part hpart
  rcases List.mem_cons.1 hpart with rfl | hpart
  · exact led
  · exact led_captures opens (fun _ => led) ⟨only, fun _ h => absurd h List.not_mem_nil⟩
      (fun _ h => absurd h List.not_mem_nil) way part hpart

/-- The longest match leaves a front that starts as the text does, or else all of its captures start
as an identifier does. -/
theorem led_matchEnd {q : Pattern} (opens : q.opens true) {before : Option Char}
    {text head tail : List Char} {captures : List (List Char)} (led : Led text)
    (only : Only isIdentifierRest text)
    (found : q.matchEnd before text = some (head, tail, captures)) :
    (head ≠ [] ∧ Led head) ∨ (head = [] ∧ ∀ part ∈ tail :: captures, Led part) := by
  cases text with
  | nil =>
    obtain ⟨w, matched, same⟩ := Option.map_eq_some_iff.1 found
    cases same
    exact .inr ⟨rfl, led_matchWhole opens led only matched⟩
  | cons c rest =>
    rw [matchEnd] at found
    cases matched : q.matchWhole before (c :: rest) with
    | some w =>
      rw [matched] at found
      cases found
      exact .inr ⟨rfl, led_matchWhole opens led only matched⟩
    | none =>
      rw [matched] at found
      obtain ⟨⟨inner, tail', captures'⟩, -, same⟩ := Option.map_eq_some_iff.1 found
      cases same
      exact .inl ⟨List.cons_ne_nil _ _, .cons led.head⟩

end Pattern

/-! ## Replacements -/

/-- Apart from marks, the text starts as an identifier does, if it is not empty. -/
def fronted : List Char → Bool
  | '$' :: d :: rest => d ≠ '$' && fronted rest
  | ['$'] => true
  | c :: _ => isIdentifierStart c
  | [] => true

theorem fronted_cons {c : Char} (h : isIdentifierStart c) (cs : List Char) : fronted (c :: cs) := by
  have mark := mark_ne_start h
  unfold fronted
  split <;> simp_all

theorem led_dropMarks {cs : List Char} (h : fronted cs) : Led (dropMarks cs) := by
  fun_induction dropMarks cs with
  | case1 d rest ih =>
    rw [fronted, Bool.and_eq_true] at h
    exact ih h.2
  | case2 => exact .nil
  | case3 c rest no_mark no_end _ =>
    refine .cons ?_
    unfold fronted at h
    split at h <;> simp_all
  | case4 => exact .nil

theorem fronted_append {a b : List Char} (led : Led a) (h : fronted b) : fronted (a ++ b) := by
  cases a with
  | nil => exact h
  | cons c a => exact fronted_cons led.head _

theorem fronted_fill (i : Nat) {text : List Char} (led : Led text) :
    (out : List Char) → fronted out → fronted (fill i text out)
  | [], _ => rfl
  | [c], h => by
    have same : fill i text [c] = [c] := by
      unfold fill
      split <;> simp_all [fill]
    rw [same]
    exact h
  | c :: d :: rest, h => by
    by_cases mark : c = '$'
    · subst mark
      rw [fronted, Bool.and_eq_true] at h
      have later := fronted_fill i led rest h.2
      have other : d ≠ '$' := by simpa using h.1
      rw [fill]
      split
      · exact fronted_append led later
      · have kept : fill i text (d :: rest) = d :: fill i text rest := by
          rw [fill]
          intro _ _ eq
          exact absurd eq other
        rw [kept, fronted, Bool.and_eq_true]
        exact ⟨h.1, later⟩
    · have start : isIdentifierStart c := by
        unfold fronted at h
        split at h <;> simp_all
      have kept : fill i text (c :: d :: rest) = c :: fill i text (d :: rest) := by
        rw [fill]
        intro _ _ eq
        exact absurd eq mark
      rw [kept]
      exact fronted_cons start _

theorem fronted_fillAll {word : List Char} {parts : List (List Char)}
    (led : ∀ part ∈ parts, Led part) {i : Nat} {out : List Char} (h : fronted out) :
    fronted (fillAll word i parts out) := by
  induction parts generalizing i out with
  | nil => exact h
  | cons part parts ih =>
    apply ih fun p hp => led p (List.mem_cons_of_mem part hp)
    exact fronted_fill i (led_caseLike (led part List.mem_cons_self) word) out h

/-- The rule opens its captures at the front of what it matches or before a letter, and the front of
its replacement is a letter or is captured. -/
def Rule.leads (rule : Rule) : Bool :=
  rule.ending.opens true && fronted rule.replacement.toList &&
    fronted (lower rule.replacement.toList) && fronted (upper rule.replacement.toList)

theorem leads_rules : ∀ rule ∈ singularRules ++ uncountableRules, rule.leads := by
  have each : (singularRules ++ uncountableRules).all Rule.leads := by decide +kernel
  exact List.all_eq_true.1 each

theorem led_inflected {rule : Rule} (leads : rule.leads) {word out : List Char} (led : Led word)
    (only : Only isIdentifierRest word) (found : rule.inflected? word = some out) : Led out := by
  simp only [Rule.leads, Bool.and_eq_true] at leads
  obtain ⟨⟨⟨opens, same⟩, low⟩, high⟩ := leads
  obtain ⟨⟨head, tail, captures⟩, matched, rfl⟩ := Option.map_eq_some_iff.1 found
  have replaced : fronted (caseLike word rule.replacement.toList) := by
    rcases caseLike_cases word rule.replacement.toList with eq | eq | eq <;> rw [eq]
    · exact same
    · exact low
    · exact high
  apply led_dropMarks
  rcases Pattern.led_matchEnd opens led only matched with ⟨front, led_head⟩ | ⟨rfl, parts⟩
  · obtain ⟨c, cs, rfl⟩ := List.exists_cons_of_ne_nil front
    exact fronted_cons led_head.head _
  · exact fronted_fillAll parts replaced

theorem led_irregular : ∀ pair ∈ irregularPlurals, Led pair.2.toList := by
  have each : irregularPlurals.all (fun pair => pair.2.toList.head?.all isIdentifierStart) := by
    decide
  intro pair hp c hc
  have start := List.all_eq_true.1 each pair hp
  rw [hc] at start
  exact start

/-- The singular of an identifier starts as an identifier does, if it is not empty. -/
theorem led_singular {word : String} (h : isIdentifier word.toList) :
    Led (singular word).toList := by
  have led := led_of_identifier h
  rcases singular_cases word with same | ⟨pair, known, same⟩ | same | ⟨rule, hr, inflected⟩
  · rw [same]
    exact led_caseLike (led_lower led) word.toList
  · rw [same]
    exact led_caseLike (led_irregular pair known) word.toList
  · rw [same]
    exact led
  · exact led_inflected (leads_rules rule hr) led (only_of_identifier h) inflected

end Inflection

/-- The singular of a table can be the stem of its aliases. -/
theorem Column.keepsNames_aliasStem : KeepsNames aliasStem where
  chars _ ht := Inflection.only_singular stable_nameChar (fun _ => isNameChar_of_rest) ht
  front table ht := by
    have only : Only isIdentifierRest (aliasStem table).toList :=
      Inflection.only_singular stable_identifierRest (fun _ h => h) (only_of_identifier ht)
    have led := (Inflection.led_singular ht).append (.cons (by decide) : Inflection.Led ['_'])
    have rest := only.append (by decide : Only isIdentifierRest ['_'])
    cases text : (aliasStem table).toList ++ ['_'] with
    | nil => simp at text
    | cons c cs =>
      rw [isIdentifier, Bool.and_eq_true]
      exact ⟨(text ▸ led).head, List.all_eq_true.2 (text ▸ rest).tail⟩

end SelectQuery
