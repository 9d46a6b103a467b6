import SelectQuery.Proofs.Alias
import SelectQuery.Proofs.Phrase
import SelectQuery.Proofs.Syntax.Statement

/-!
The tokens of statements, part by part. A blank, a comma or a parenthesis cuts what stands before it
off from what stands behind it, so the tokens of a phrase are those of its parts.

What is proved:
  1. `tokens_text`: a phrase is read as its lexemes.
  2. `Free.tokens`, `Nameable.tokens`: a word or a name that has no meaning of its own is one token.
  3. `number?_tokens`: the tokens of an integer denote it.
  4. `worded_selected`: a projected column is read back as it is written.
  5. `headless_allTokens`: no section starts within the conditions of a clause.
-/

namespace SelectQuery

open Syntax (Token tokens Apart apart_of_head apart_of_last tokens_append tokens_spaced tokens_word
  isReserved reserved Headless)

/-! ## Phrases -/

theorem Syntax.tokens_listed (a b : String) :
    tokens (a ++ ", " ++ b) = tokens a ++ .comma :: tokens b := by
  have before : Apart a ", " := apart_of_head (c := ',') (by decide) rfl
  have behind : Apart (a ++ ", ") b :=
    apart_of_last (c := ' ') (by decide) (getLast?_append rfl)
  have comma : tokens ", " = [.comma] := by decide +kernel
  rw [tokens_append behind, tokens_append before, comma, List.append_assoc]
  rfl

namespace Phrase

def lexemes : Phrase → List Token
  | empty => []
  | words s => Syntax.tokens s
  | sign s => Syntax.tokens s
  | number n => Syntax.tokens (toString n)
  | slot _ => [.mark]
  | spaced a b => a.lexemes ++ b.lexemes
  | listed a b => a.lexemes ++ .comma :: b.lexemes
  | parens a => .left :: a.lexemes ++ [.right]

/-- A phrase is read as its lexemes. -/
theorem tokens_text (φ : Phrase) : Syntax.tokens (φ.text Value.hidden) = φ.lexemes := by
  induction φ with
  | empty => decide +kernel
  | words s => rfl
  | sign s => rfl
  | number n => rfl
  | slot v => exact Syntax.tokens_hidden v
  | spaced a b iha ihb => rw [text, tokens_spaced, iha, ihb, lexemes]
  | listed a b iha ihb => rw [text, Syntax.tokens_listed, iha, ihb, lexemes]
  | parens a ih => rw [text, Syntax.tokens_group, ih, lexemes]

theorem lexemes_trailing (first : Phrase) (rest : List Phrase) :
    (trailing first rest).lexemes = first.lexemes ++ rest.flatMap lexemes := by
  induction rest generalizing first with
  | nil => simp [trailing]
  | cons p rest ih =>
    show (trailing (spaced first p) rest).lexemes = _
    rw [ih, lexemes, List.flatMap_cons, List.append_assoc]

theorem lexemes_items (ps : List Phrase) :
    (items ps).lexemes = [Token.comma].intercalate (ps.map lexemes) := by
  induction ps with
  | nil => rfl
  | cons p ps ih =>
    cases ps with
    | nil => simp [items]
    | cons q ps =>
      rw [items, lexemes, ih]
      · simp only [List.map_cons, List.intercalate_cons_cons, List.append_assoc]
        rfl
      · exact List.cons_ne_nil q ps

theorem lexemes_words (names : List String) :
    (items (names.map words)).lexemes = [Token.comma].intercalate (names.map Syntax.tokens) := by
  rw [lexemes_items, List.map_map]
  rfl

theorem exists_lexemes_items (p : Phrase) (ps : List Phrase) :
    ∃ ts, (items (p :: ps)).lexemes = p.lexemes ++ ts := by
  cases ps with
  | nil => exact ⟨[], (List.append_nil _).symm⟩
  | cons q ps => exact ⟨_, rfl⟩

theorem headless_items {ps : List Phrase} (each : ∀ p ∈ ps, Headless p.lexemes) :
    Headless (items ps).lexemes := by
  induction ps with
  | nil => exact .nil
  | cons p ps ih =>
    have first := each p List.mem_cons_self
    have later := ih fun q hq => each q (List.mem_cons_of_mem p hq)
    cases ps with
    | nil => exact first
    | cons q ps => exact first.append (.cons rfl later)

theorem lexemes_allPhrase {cs : List Condition} (readable : ∀ c ∈ cs, c.Every Test.Readable) :
    (Condition.allPhrase cs).lexemes = Condition.allTokens cs := by
  rw [← tokens_text, text_allPhrase, Syntax.tokens_renderAll cs readable]

end Phrase

namespace Syntax

/-! ## Words -/

/-- The words of statements are made of capital letters. -/
theorem only_reserved : ∀ w ∈ reserved, Text.Only Char.isUpper w := by decide

/-- A text with another character than a letter is none of them. -/
theorem not_reserved_of_mem {word : List Char} {c : Char} (hc : c ∈ word)
    (other : c.toUpper.isUpper = false) : isReserved word = false := by
  rw [isReserved, List.contains_eq_mem, decide_eq_false_iff_not]
  intro mem
  have upper := only_reserved _ mem _ (List.mem_map_of_mem hc)
  rw [other] at upper
  cases upper

theorem not_reserved_of_dotted {name : String} (h : Column.isDotted name) :
    isReserved name.toList = false :=
  not_reserved_of_mem (List.contains_iff_mem.1 h) rfl

/-- A word without a meaning of its own. -/
structure Free (word : List Char) : Prop where
  filled : word ≠ []
  only : Text.Only isNameChar word
  free : isReserved word = false

/-- The texts with a meaning of their own are words of statements, or no words at all. -/
theorem fixed_cases : ∀ entry ∈ Token.fixed,
    entry.1 ∈ reserved ∨ ¬ Text.Only isNameChar entry.1 := by decide

theorem mem_reserved_of_mem_heads : ∀ entry ∈ Head.words, entry.1 ∈ reserved := by decide

namespace Free

variable {word : List Char}

theorem ne_of_mem (h : Free word) : ∀ w ∈ reserved, word.map Char.toUpper ≠ w := by
  rintro w hw rfl
  have not_mem := h.free
  rw [isReserved, List.contains_eq_mem, decide_eq_false_iff_not] at not_mem
  exact not_mem hw

theorem ofLexeme (h : Free word) : Token.ofLexeme word = .ofWord word := by
  have none : Token.fixed.lookup (word.map Char.toUpper) = none := by
    rw [List.lookup_eq_none_iff]
    intro entry he
    rw [bne_iff_ne]
    rcases fixed_cases entry he with mem | other
    · exact h.ne_of_mem _ mem
    · intro same
      apply other
      rw [← same]
      intro c hc
      obtain ⟨d, hd, rfl⟩ := List.mem_map.1 hc
      exact stable_nameChar.upper d (h.only d hd)
  unfold Token.ofLexeme
  split
  · rfl
  · rw [none]

theorem tokens {word : String} (h : Free word.toList) : tokens word = [.ofWord word.toList] := by
  rw [tokens_word h.only h.filled, h.ofLexeme]

theorem head? (h : Free word) : (Token.ofWord word).head? = none := by
  unfold Token.ofWord
  split
  · rw [Token.head?, List.lookup_eq_none_iff, String.toList_ofList]
    intro entry he
    rw [bne_iff_ne]
    exact h.ne_of_mem _ (mem_reserved_of_mem_heads entry he)
  · rfl

theorem spells (h : Free word) {keyword : String} (hk : keyword.toList ∈ reserved) :
    (Token.ofWord word).spells keyword = false := by
  unfold Token.ofWord
  split
  · rw [Token.spells, String.toList_ofList, beq_eq_false_iff_ne]
    exact h.ne_of_mem _ hk
  · rfl

end Free

theorem text?_ofWord (word : List Char) : (Token.ofWord word).text? = some (String.ofList word) := by
  unfold Token.ofWord
  split <;> rfl

/-- A name that is a path and no word of statements. The parts of a path with dots may be such
words. -/
structure Nameable (name : String) : Prop where
  path : isIdentifierPath name
  free : isReserved name.toList = false

instance (name : String) : Decidable (Nameable name) :=
  decidable_of_iff (isIdentifierPath name ∧ isReserved name.toList = false)
    ⟨fun ⟨path, free⟩ => ⟨path, free⟩, fun ⟨path, free⟩ => ⟨path, free⟩⟩

namespace Nameable

variable {name : String}

theorem filled (h : Nameable name) : name.toList ≠ [] := by
  intro empty
  have path := h.path
  rw [isIdentifierPath, empty] at path
  exact absurd path (by decide)

theorem word (h : Nameable name) : Free name.toList := ⟨h.filled, only_nameChar h.path, h.free⟩

theorem ofWord (h : Nameable name) : Token.ofWord name.toList = .name name := by
  rw [Token.ofWord, String.ofList_toList, if_pos h.path]

theorem tokens (h : Nameable name) : tokens name = [.name name] := by
  rw [h.word.tokens, h.ofWord]

theorem head? (h : Nameable name) : (Token.name name).head? = none := by
  rw [← h.ofWord]
  exact h.word.head?

theorem of_qualified (h : isQualifiedPath name) : Nameable name :=
  ⟨isIdentifierPath_of_qualified h, not_reserved_of_dotted (isDotted_of_qualified h)⟩

end Nameable

/-! ## Numbers -/

theorem isUpper_of_isDigit {c : Char} (h : c.isDigit) : c.toUpper.isUpper = false := by
  have each : ∀ n < 0x80, (Char.ofNat n).isDigit → (Char.ofNat n).toUpper.isUpper = false := by
    decide
  have same := each c.toNat (toNat_of_nameChar (isNameChar_of_isDigit h))
  rw [Char.ofNat_toNat] at same
  exact same h

theorem free_toDigits (n : Nat) : Free (Nat.toDigits 10 n) := by
  have digit {c : Char} (hc : c ∈ Nat.toDigits 10 n) : c.isDigit :=
    Nat.isDigit_of_mem_toDigits (by decide) (by decide) hc
  obtain ⟨c, hc⟩ := List.exists_mem_of_ne_nil _ (Nat.toDigits_ne_nil (b := 10) (n := n))
  refine ⟨Nat.toDigits_ne_nil, ?_, not_reserved_of_mem hc (isUpper_of_isDigit (digit hc))⟩
  exact fun d hd => isNameChar_of_isDigit (digit hd)

theorem natural?_toDigits (n : Nat) : (Token.ofWord (Nat.toDigits 10 n)).natural? = some n := by
  have digits : (Nat.toDigits 10 n).all Char.isDigit := List.all_eq_true.2 fun d hd =>
    Nat.isDigit_of_mem_toDigits (by decide) (by decide) hd
  rw [Token.natural?, text?_ofWord]
  show (if (String.ofList _).toList.all Char.isDigit then some _ else none) = _
  rw [String.toList_ofList, if_pos digits, Number.ofDigits_toDigits]

/-- An integer is read back from its tokens. -/
theorem number?_tokens (n : Int) :
    number? (tokens (toString n)) = some n ∧ Headless (tokens (toString n)) := by
  have natural (m : Nat) : tokens (toString m) = [.ofWord (Nat.toDigits 10 m)] := by
    have free : Free (toString m).toList := by
      rw [Nat.toString_eq_repr, Nat.toList_repr]
      exact free_toDigits m
    rw [free.tokens, Nat.toString_eq_repr, Nat.toList_repr]
  have headless (m : Nat) : Headless [.ofWord (Nat.toDigits 10 m)] :=
    .cons (free_toDigits m).head? .nil
  cases n with
  | ofNat m =>
    show number? (tokens (toString m)) = _ ∧ Headless (tokens (toString m))
    rw [natural]
    refine ⟨?_, headless m⟩
    rw [number?, natural?_toDigits]
    rfl
  | negSucc m =>
    have minus : tokens "-" = [.stray ['-']] := by decide +kernel
    have apart (b : String) : Apart "-" b := apart_of_last (c := '-') (by decide) rfl
    show number? (tokens ("-" ++ toString (m + 1))) = _ ∧
      Headless (tokens ("-" ++ toString (m + 1)))
    rw [tokens_append (apart _), minus, natural]
    refine ⟨?_, .cons rfl (headless _)⟩
    show ((Token.ofWord (Nat.toDigits 10 (m + 1))).natural?.map fun n => -(n : Int)) = _
    rw [natural?_toDigits]
    rfl

/-! ## Projected columns -/

/-- A text of words with blanks between them, none of which heads a section, and the first of which
has no meaning of its own. -/
def Worded (text : String) : Prop :=
  ∃ (first : String) (rest : List String), Free first.toList ∧
    (∀ w ∈ rest, (Token.ofWord w.toList).head? = none) ∧
    tokens text = (first :: rest).map (fun w => .ofWord w.toList) ∧
    text = String.intercalate " " (first :: rest)

namespace Worded

variable {text : String}

theorem of_free (h : Free text.toList) : Worded text :=
  ⟨text, [], h, fun _ hw => absurd hw List.not_mem_nil, h.tokens, rfl⟩

theorem column? (h : Worded text) : column? (tokens text) = some text := by
  obtain ⟨first, rest, -, -, read, written⟩ := h
  have texts (words : List String) :
      (words.map fun w => Token.ofWord w.toList).mapM Token.text? = some words := by
    induction words with
    | nil => rfl
    | cons w words ih =>
      rw [List.map_cons, List.mapM_cons, text?_ofWord, String.ofList_toList, ih]
      rfl
  rw [read, Syntax.column?, texts, written]
  rfl

theorem headless (h : Worded text) : Headless (tokens text) := by
  obtain ⟨first, rest, free, others, read, -⟩ := h
  rw [read]
  refine .cons free.head? ?_
  intro t ht
  obtain ⟨w, hw, rfl⟩ := List.mem_map.1 ht
  exact others w hw

theorem no_comma (h : Worded text) : .comma ∉ tokens text := by
  obtain ⟨first, rest, -, -, read, -⟩ := h
  rw [read]
  intro mem
  obtain ⟨w, -, comma⟩ := List.mem_map.1 mem
  have text := text?_ofWord w.toList
  rw [comma] at text
  cases text

/-- Such texts are read back as projected columns. -/
theorem columns? {first : String} {rest : List String} (each : ∀ c ∈ first :: rest, Worded c) :
    ∃ word ts, Free word ∧
      (Phrase.items ((first :: rest).map .words)).lexemes = .ofWord word :: ts ∧
      Headless (.ofWord word :: ts) ∧
      Syntax.columns? (.ofWord word :: ts) = some (first :: rest) := by
  have headless : Headless (Phrase.items ((first :: rest).map .words)).lexemes := by
    apply Phrase.headless_items
    intro φ hφ
    obtain ⟨c, hc, rfl⟩ := List.mem_map.1 hφ
    exact (each c hc).headless
  have read : items? Syntax.column? (Phrase.items ((first :: rest).map .words)).lexemes =
      some (first :: rest) := by
    rw [Phrase.lexemes_words, items?_intercalate (List.cons_ne_nil first rest),
      List.map_id]
    exact fun c hc => ⟨(each c hc).no_comma, (each c hc).column?⟩
  obtain ⟨word, others, free, -, tokens_first, -⟩ := each first List.mem_cons_self
  obtain ⟨ts, front⟩ := Phrase.exists_lexemes_items (.words first) (rest.map .words)
  rw [Phrase.lexemes, tokens_first, List.map_cons, List.cons_append, ← List.map_cons] at front
  rw [front] at headless read
  refine ⟨word.toList, _, free, front, headless, ?_⟩
  have no_star {ts : List Token} : .ofWord word.toList :: ts ≠ [Token.stray ['*']] := by
    intro star
    have text := text?_ofWord word.toList
    rw [(List.cons.inj star).1, String.ofList_toList] at text
    have only := free.only
    rw [← Option.some.inj text] at only
    exact absurd only (by decide)
  rw [Syntax.columns?, if_neg no_star, read]

end Worded

section Aliases

variable {stem : String → String} (keeps : Column.KeepsNames stem) {table column : String}

include keeps

theorem worded_aliased (ht : Text.Only isNameChar table.toList)
    (hc : Text.Only isNameChar column.toList) : Worded (Column.aliased stem table column) := by
  have root := keeps.chars table ht
  have name : Free (table ++ "." ++ column).toList := by
    have dot : '.' ∈ (table ++ "." ++ column).toList := by simp
    refine ⟨List.ne_nil_of_mem dot, ?_, not_reserved_of_mem dot rfl⟩
    simp only [String.toList_append]
    exact (ht.append (by decide)).append hc
  have renamed : Free (stem table ++ "_" ++ column).toList := by
    have underscore : '_' ∈ (stem table ++ "_" ++ column).toList := by simp
    refine ⟨List.ne_nil_of_mem underscore, ?_, not_reserved_of_mem underscore rfl⟩
    simp only [String.toList_append]
    exact (root.append (by decide)).append hc
  have written : Column.aliased stem table column = (table ++ "." ++ column) ++ " " ++ "AS" ++ " " ++
      (stem table ++ "_" ++ column) := by
    simp [Column.aliased, ← String.toList_inj]
  have keyword : tokens "AS" = [.ofWord "AS".toList] := by decide +kernel
  refine ⟨table ++ "." ++ column, ["AS", stem table ++ "_" ++ column], name, ?_, ?_, ?_⟩
  · intro w hw
    rcases List.mem_cons.1 hw with rfl | hw
    · decide +kernel
    · rw [List.mem_singleton.1 hw]
      exact renamed.head?
  · rw [written, tokens_spaced, tokens_spaced, name.tokens, keyword, renamed.tokens]
    rfl
  · rw [written]
    simp [← String.toList_inj]

/-- A projected column is read back as it is written. -/
theorem worded_selected (hasJoin : Bool) (ht : isIdentifierPath table) (hc : Nameable column) :
    Worded (Column.selected stem column table hasJoin) := by
  unfold Column.selected
  split
  · exact .of_free hc.word
  · split
    · rename_i cut
      obtain ⟨left, right⟩ := mem_cut? cut
      apply worded_aliased keeps <;> rw [String.toList_ofList]
      · exact fun c h => hc.word.only c (left c h)
      · exact fun c h => hc.word.only c (right c h)
    · split
      · exact worded_aliased keeps (only_nameChar ht) hc.word.only
      · exact .of_free hc.word

end Aliases

/-! ## Conditions -/

theorem headless_marks (values : List Value) :
    Headless ((values.map fun _ => Token.mark).intersperse .comma) := by
  induction values with
  | nil => exact .nil
  | cons v rest ih =>
    cases rest with
    | nil => exact .cons rfl .nil
    | cons w rest => exact .cons rfl (.cons rfl ih)

theorem headless_test {t : Test} (readable : t.Readable) : Headless t.tokens := by
  have word (n : String) (hn : n ∈ t.names) : (Token.name n).head? = none :=
    (Nameable.of_qualified (readable.paths n hn)).head?
  have negation (negated : Bool) : Headless (Test.negationTokens negated) := by
    cases negated <;> decide
  cases t with
  | compare column op operand =>
    have operator : Headless op.tokens := by cases op <;> decide
    have right : Headless [operand.token] := by
      cases operand with
      | value v => exact .cons rfl .nil
      | column path => exact .cons (word path (by simp [Test.names, Operand.names])) .nil
    exact .cons (word column List.mem_cons_self) (operator.append right)
  | oneOf column negated values =>
    have opened : Headless (Test.negationTokens negated ++ [.member, .left]) :=
      (negation negated).append (by decide)
    exact .cons (word column List.mem_cons_self)
      ((opened.append (headless_marks values)).append (by decide))
  | between column negated low high =>
    exact .cons (word column List.mem_cons_self) ((negation negated).append (by decide))
  | isNull column negated =>
    exact .cons (word column List.mem_cons_self) (.cons rfl ((negation negated).append (by decide)))

theorem head?_connective (link : Connective) : link.token.head? = none := by cases link <;> rfl

mutual

theorem headless_condition : (c : Condition) → c.Every Test.Readable → Headless c.tokens
  | .test _ _, .test readable => headless_test readable
  | .group _ parts, .group _ each =>
    .cons rfl ((headless_allTokens parts each).append (by decide))

/-- No section starts within conditions. -/
theorem headless_allTokens : (cs : List Condition) → (∀ c ∈ cs, c.Every Test.Readable) →
    Headless (Condition.allTokens cs)
  | [], _ => .nil
  | c :: rest, readable => (headless_condition c (readable c List.mem_cons_self)).append
    (headless_followingTokens rest fun d hd => readable d (List.mem_cons_of_mem c hd))

theorem headless_followingTokens : (cs : List Condition) → (∀ c ∈ cs, c.Every Test.Readable) →
    Headless (Condition.followingTokens cs)
  | [], _ => .nil
  | c :: rest, readable => .cons (head?_connective c.link)
    ((headless_condition c (readable c List.mem_cons_self)).append
      (headless_followingTokens rest fun d hd => readable d (List.mem_cons_of_mem c hd)))

end

end Syntax

end SelectQuery
