import Mathlib.Data.List.SplitBy
import SelectQuery.Proofs.Draft
import SelectQuery.Proofs.Script

/-!
The tokens of a condition as a database reads it. A text falls into the longest runs of characters
that go together; blanks are left out, and keywords are read in any case of letters.

What is proved:
  1. `tokens_append`: where nothing goes together across the border of two texts, the tokens of both
     are those of the one and those of the other.
  2. `tokens_name`: a path with a dot is one token.
  3. `tokens_renderAll`: the tokens of conditions of such paths, however deep the groups.
-/

namespace SelectQuery

namespace Syntax

inductive Token where
  | name (path : String)
  | sign (op : Operator)
  | mark
  | left
  | right
  | comma
  | and
  | or
  | not
  | is
  | null
  | member
  | between
  | stray (lexeme : List Char)
  deriving DecidableEq

/-- Whether `c` can stand in a sign of comparison. -/
def isSignChar (c : Char) : Bool := c == '=' || c == '!' || c == '<' || c == '>'

/-- Whether two characters that follow one another belong to one token. -/
def joins (c d : Char) : Bool := isNameChar c && isNameChar d || isSignChar c && isSignChar d

namespace Token

/-- The words and signs with a meaning of their own, in upper case. -/
def fixed : List (List Char × Token) :=
  [("?".toList, mark), ("(".toList, left), (")".toList, right), (",".toList, comma),
   ("AND".toList, and), ("OR".toList, or), ("NOT".toList, not), ("IS".toList, is),
   ("NULL".toList, null), ("IN".toList, member), ("BETWEEN".toList, between),
   ("LIKE".toList, sign .like), ("=".toList, sign .eq), ("!=".toList, sign .ne),
   ("<>".toList, sign .ne), ("<".toList, sign .lt), (">".toList, sign .gt),
   ("<=".toList, sign .le), (">=".toList, sign .ge)]

/-- A word without a meaning of its own is a name if it is a path. -/
def ofWord (lexeme : List Char) : Token :=
  if isIdentifierPath (String.ofList lexeme) then name (String.ofList lexeme) else stray lexeme

/-- The token that a run of characters is. What has a dot in it is never a keyword. -/
def ofLexeme (lexeme : List Char) : Token :=
  if lexeme.contains '.' then ofWord lexeme
  else match fixed.lookup (lexeme.map Char.toUpper) with
    | some t => t
    | none => ofWord lexeme

end Token

def tokens (text : String) : List Token :=
  -- Nothing goes together with a blank, so each blank is a run of its own.
  ((text.toList.splitBy joins).filter (· ≠ [' '])).map Token.ofLexeme

/-- Whether `c` is a token of its own, whatever stands next to it. -/
def isLoose (c : Char) : Bool := !isNameChar c && !isSignChar c

theorem joins_of_loose {c d : Char} (h : isLoose c ∨ isLoose d) : joins c d = false := by
  unfold joins
  simp only [isLoose, Bool.and_eq_true, Bool.not_eq_true'] at h
  rcases h with ⟨name, sign⟩ | ⟨name, sign⟩ <;> simp [name, sign]

/-- Texts whose border no token crosses. -/
def Apart (a b : String) : Prop :=
  ∀ c ∈ a.toList.getLast?, ∀ d ∈ b.toList.head?, isLoose c ∨ isLoose d

theorem tokens_append {a b : String} (h : Apart a b) : tokens (a ++ b) = tokens a ++ tokens b := by
  have border : ∀ c ∈ a.toList.getLast?, ∀ d ∈ b.toList.head?, joins c d = false := by
    intro c hc d hd
    exact joins_of_loose (h c hc d hd)
  unfold tokens
  rw [String.toList_append, List.splitBy_append border, List.filter_append, List.map_append]

/-- A text of characters of names is one token. -/
theorem tokens_word {word : String} (only : Text.Only isNameChar word.toList)
    (filled : word.toList ≠ []) : tokens word = [.ofLexeme word.toList] := by
  have joined : word.toList.IsChain fun c d => joins c d := by
    refine List.Pairwise.isChain (List.pairwise_of_forall_mem_list ?_)
    intro c hc d hd
    simp [joins, only c hc, only d hd]
  have not_blank : word.toList ≠ [' '] := by
    intro blank
    rw [blank] at only
    exact absurd only (by decide)
  unfold tokens
  rw [List.splitBy_of_isChain filled joined]
  simp [not_blank]

/-- A path with a dot is one token, and none with a meaning of its own. -/
theorem tokens_name {path : String} (h : isQualifiedPath path) : tokens path = [.name path] := by
  rw [isQualifiedPath, Bool.and_eq_true] at h
  obtain ⟨word, dotted⟩ := h
  have filled : path.toList ≠ [] := by
    intro empty
    simp [Column.isDotted, empty] at dotted
  have dot : path.toList.contains '.' := dotted
  rw [tokens_word (only_nameChar word) filled, Token.ofLexeme, if_pos dot, Token.ofWord,
    String.ofList_toList, if_pos word]

theorem apart_of_head {a b : String} {c : Char} (loose : isLoose c)
    (head : b.toList.head? = some c) : Apart a b := by
  intro _ _ d hd
  rw [head, Option.mem_some_iff] at hd
  exact .inr (hd ▸ loose)

theorem apart_of_last {a b : String} {c : Char} (loose : isLoose c)
    (last : a.toList.getLast? = some c) : Apart a b := by
  intro d hd _ _
  rw [last, Option.mem_some_iff] at hd
  exact .inl (hd ▸ loose)

theorem getLast?_append {a b : String} {c : Char} (last : b.toList.getLast? = some c) :
    (a ++ b).toList.getLast? = some c := by
  rw [String.toList_append, List.getLast?_append, last, Option.some_or]

theorem tokens_spaced (a b : String) : tokens (a ++ " " ++ b) = tokens a ++ tokens b := by
  have before : Apart a " " := apart_of_head (c := ' ') (by decide) rfl
  have behind : Apart (a ++ " ") b := apart_of_last (c := ' ') (by decide) (getLast?_append rfl)
  have blank : tokens " " = [] := by decide +kernel
  rw [tokens_append behind, tokens_append before, blank, List.append_nil]

/-! ## The tokens of conditions -/

end Syntax

open Syntax (Token tokens Apart apart_of_head apart_of_last tokens_append tokens_name tokens_spaced)

/-- The tokens of an operator. -/
def Operator.tokens : Operator → List Token
  | notLike => [.not, .sign .like]
  | op => [.sign op]

def Connective.token : Connective → Token
  | and => .and
  | or => .or

def Operand.token : Operand → Token
  | value _ => .mark
  | column path => .name path

namespace Test

/-- A test that can be read back: its names are paths with dots, and a membership has values. -/
structure Readable (t : Test) : Prop where
  paths : ∀ n ∈ t.names, isQualifiedPath n
  filled : t.Filled

def negationTokens (negated : Bool) : List Token := if negated then [.not] else []

def tokens : Test → List Token
  | compare column op operand => .name column :: op.tokens ++ [operand.token]
  | oneOf column negated values => .name column :: negationTokens negated ++ [.member, .left] ++
    (values.map fun _ => Token.mark).intersperse .comma ++ [.right]
  | between column negated _ _ =>
    .name column :: negationTokens negated ++ [.between, .mark, .and, .mark]
  | isNull column negated => .name column :: .is :: negationTokens negated ++ [.null]

end Test

namespace Condition

mutual

/-- The tokens of a condition, without its connective. -/
def tokens : Condition → List Token
  | test _ t => t.tokens
  | group _ parts => .left :: allTokens parts ++ [.right]

/-- The tokens of conditions, all but the first with their connectives. -/
def allTokens : List Condition → List Token
  | [] => []
  | c :: rest => c.tokens ++ followingTokens rest

/-- The tokens of conditions that stand after others. -/
def followingTokens : List Condition → List Token
  | [] => []
  | c :: rest => c.link.token :: c.tokens ++ followingTokens rest

end

end Condition

namespace Syntax

theorem tokens_operator (op : Operator) : tokens op.text = op.tokens := by
  cases op <;> decide +kernel

theorem tokens_connective (link : Connective) : tokens link.text = [link.token] := by
  cases link <;> decide +kernel

theorem tokens_hidden (v : Value) : tokens v.hidden = [.mark] := by
  show tokens "?" = [.mark]
  decide +kernel

theorem tokens_operand {o : Operand} (paths : ∀ n ∈ o.names, isQualifiedPath n) :
    tokens (o.render Value.hidden) = [o.token] := by
  cases o with
  | value v => exact tokens_hidden v
  | column path => exact tokens_name (paths path (List.mem_singleton_self path))

/-- Placeholders with commas between them. -/
theorem tokens_items (values : List Value) :
    tokens (String.intercalate ", " (values.map Value.hidden)) =
      (values.map fun _ => Token.mark).intersperse .comma := by
  induction values with
  | nil => decide +kernel
  | cons v rest ih =>
    cases rest with
    | nil => simpa using tokens_hidden v
    | cons w rest =>
      have comma : tokens ", " = [.comma] := by decide +kernel
      have before : Apart v.hidden ", " := apart_of_head (c := ',') (by decide) rfl
      have behind (b : String) : Apart (v.hidden ++ ", ") b :=
        apart_of_last (c := ' ') (by decide) (getLast?_append rfl)
      simp only [List.map_cons, String.intercalate_cons_cons] at ih ⊢
      rw [tokens_append (behind _), tokens_append before, tokens_hidden, comma, ih]
      rfl

/-- A test of paths is read as its tokens. -/
theorem tokens_test {t : Test} (readable : t.Readable) :
    tokens (t.render Value.hidden) = t.tokens := by
  have paths := readable.paths
  cases t with
  | compare column op operand =>
    have column_path := paths column List.mem_cons_self
    have operand_paths := fun n hn => paths n (List.mem_cons_of_mem column hn)
    rw [Test.render, tokens_spaced, tokens_spaced, tokens_name column_path, tokens_operator,
      tokens_operand operand_paths]
    rfl
  | oneOf column negated values =>
    have column_path := paths column (List.mem_singleton_self column)
    have close (a : String) : tokens (a ++ ")") = tokens a ++ [.right] := by
      have apart : Apart a ")" := apart_of_head (c := ')') (by decide) rfl
      have right : tokens ")" = [.right] := by decide +kernel
      rw [tokens_append apart, right]
    -- The parentheses cut the items off from what stands before and behind them.
    have opened (b : String) : Apart (column ++ " " ++ Test.negation negated ++ "IN (") b :=
      apart_of_last (c := '(') (by decide) (getLast?_append rfl)
    have keyword : tokens (Test.negation negated ++ "IN (") =
        Test.negationTokens negated ++ [.member, .left] := by
      cases negated <;> decide +kernel
    rw [Test.render, close, tokens_append (opened _), tokens_items, String.append_assoc,
      tokens_spaced, tokens_name column_path, keyword]
    simp [Test.tokens]
  | between column negated low high =>
    have column_path := paths column (List.mem_singleton_self column)
    -- Behind the column all tests of this kind have the same text.
    have keyword : tokens (Test.negation negated ++ ("BETWEEN " ++ (low.hidden ++ (" AND " ++
        high.hidden)))) = Test.negationTokens negated ++ [.between, .mark, .and, .mark] := by
      simp only [Value.hidden, Value.placeholder]
      cases negated <;> decide +kernel
    rw [Test.render]
    simp only [String.append_assoc]
    rw [← String.append_assoc, tokens_spaced, tokens_name column_path, keyword]
    rfl
  | isNull column negated =>
    have column_path := paths column (List.mem_singleton_self column)
    have apart (b : String) : Apart column (" IS " ++ b) :=
      apart_of_head (c := ' ') (by decide) (by simp)
    have keyword : tokens (" IS " ++ (Test.negation negated ++ "NULL")) =
        .is :: Test.negationTokens negated ++ [.null] := by
      cases negated <;> decide +kernel
    rw [Test.render, String.append_assoc, String.append_assoc, tokens_append (apart _),
      tokens_name column_path, keyword]
    rfl

/-- Nothing goes together with what is written after other conditions. -/
theorem apart_following (a : String) (cs : List Condition) :
    Apart a (Condition.following Value.hidden cs) := by
  cases cs with
  | nil =>
    intro _ _ d hd
    exact absurd hd (by simp [Condition.following])
  | cons c rest =>
    refine apart_of_head (c := ' ') (by decide) ?_
    simp [Condition.following]

theorem tokens_group {body : String} :
    tokens ("(" ++ body ++ ")") = .left :: tokens body ++ [.right] := by
  have before : Apart "(" body := apart_of_last (c := '(') (by decide) rfl
  have behind : Apart ("(" ++ body) ")" := apart_of_head (c := ')') (by decide) rfl
  have left : tokens "(" = [.left] := by decide +kernel
  have right : tokens ")" = [.right] := by decide +kernel
  rw [tokens_append behind, tokens_append before, left, right]
  rfl

theorem tokens_linked (link : Connective) (text : String) :
    tokens (" " ++ (link.text ++ " " ++ text)) = link.token :: tokens text := by
  have before : Apart " " (link.text ++ " " ++ text) :=
    apart_of_last (c := ' ') (by decide) rfl
  have blank : tokens " " = [] := by decide +kernel
  rw [tokens_append before, blank, tokens_spaced, tokens_connective]
  rfl

mutual

/-- A condition is read as its tokens. -/
theorem tokens_render : (c : Condition) → c.Every Test.Readable →
    tokens (c.render Value.hidden) = c.tokens
  | .test _ t, .test readable => by
    rw [Condition.render, Condition.tokens, tokens_test readable]
  | .group _ parts, .group _ each => by
    have inner := tokens_renderAll parts each
    rw [Condition.renderAll] at inner
    rw [Condition.render, Condition.tokens, tokens_group, inner]

/-- Conditions are read as their tokens. -/
theorem tokens_renderAll : (cs : List Condition) → (∀ c ∈ cs, c.Every Test.Readable) →
    tokens (Condition.renderAll Value.hidden cs) = Condition.allTokens cs
  | [], _ => by decide +kernel
  | c :: rest, paths => by
    have first := tokens_render c (paths c List.mem_cons_self)
    have later := tokens_following rest fun d hd => paths d (List.mem_cons_of_mem c hd)
    rw [Condition.renderAll_cons, Condition.allTokens, tokens_append (apart_following _ _), first,
      later]

theorem tokens_following : (cs : List Condition) → (∀ c ∈ cs, c.Every Test.Readable) →
    tokens (Condition.following Value.hidden cs) = Condition.followingTokens cs
  | [], _ => by decide +kernel
  | c :: rest, paths => by
    have first := tokens_render c (paths c List.mem_cons_self)
    have later := tokens_following rest fun d hd => paths d (List.mem_cons_of_mem c hd)
    rw [Condition.following, Condition.followingTokens, tokens_append (apart_following _ _),
      tokens_linked, first, later]

end

end Syntax

end SelectQuery
