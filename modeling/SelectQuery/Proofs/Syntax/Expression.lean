import SelectQuery.Proofs.Syntax.Token

/-!
Expressions, and a parser that reads one from the text of a clause. A test takes all its tokens,
also the AND of a BETWEEN; AND binds tighter than OR, and parentheses bind tightest. The parser
keeps one level for each parenthesis that is open.

What is proved:
  1. `read_test`, `read_condition`: from wherever a condition may stand, the parser reads the tokens
     of a condition and goes on with its expression as an operand.
  2. `parse_renderAll`: the text of conditions without empty groups is read as their expression.
-/

namespace SelectQuery

namespace Syntax

/-- What a column is compared with: the value of a placeholder, or a column. -/
inductive Term where
  | mark
  | name (path : String)
  deriving DecidableEq

/-- A test as a database reads it. -/
inductive Atom where
  | compare (column : String) (op : Operator) (right : Term)
  | oneOf (column : String) (negated : Bool) (items : List Term)
  | between (column : String) (negated : Bool) (low high : Term)
  | isNull (column : String) (negated : Bool)
  deriving DecidableEq

inductive Expr where
  | atom (a : Atom)
  | and (left right : Expr)
  | or (left right : Expr)
  deriving DecidableEq

/-- The term that a token is. -/
def Token.term? : Token → Option Term
  | mark => some .mark
  | name path => some (.name path)
  | _ => none

/-- A test of which some tokens have been read, by what comes next. -/
inductive Begun where
  /-- A column. -/
  | column (column : String)
  /-- A column and NOT. -/
  | denied (column : String)
  /-- A column and an operator: a term follows. -/
  | sign (column : String) (op : Operator)
  /-- IN: a parenthesis follows. -/
  | member (column : String) (negated : Bool)
  /-- The items so far: one more follows. -/
  | item (column : String) (negated : Bool) (items : List Term)
  /-- The items so far: a comma or a parenthesis follows. -/
  | items (column : String) (negated : Bool) (items : List Term)
  /-- BETWEEN: a term follows. -/
  | low (column : String) (negated : Bool)
  /-- BETWEEN and a term: AND follows. -/
  | range (column : String) (negated : Bool) (low : Term)
  /-- BETWEEN, a term and AND: a term follows. -/
  | high (column : String) (negated : Bool) (low : Term)
  /-- IS: NULL follows, or first NOT. -/
  | is (column : String) (negated : Bool)

/-- What has been read of a test after a further token: part of it, or all of it. -/
def Begun.step : Begun → Token → Option (Begun ⊕ Atom)
  | column c, .not => some (.inl (denied c))
  | column c, .sign op => some (.inl (sign c op))
  | column c, .member => some (.inl (member c false))
  | column c, .between => some (.inl (low c false))
  | column c, .is => some (.inl (is c false))
  | denied c, .sign .like => some (.inl (sign c .notLike))
  | denied c, .member => some (.inl (member c true))
  | denied c, .between => some (.inl (low c true))
  | sign c op, t => t.term?.map fun right => .inr (.compare c op right)
  | member c negated, .left => some (.inl (item c negated []))
  | item c negated xs, t => t.term?.map fun x => .inl (items c negated (xs ++ [x]))
  | items c negated xs, .comma => some (.inl (item c negated xs))
  | items c negated xs, .right => some (.inr (.oneOf c negated xs))
  | low c negated, t => t.term?.map fun a => .inl (range c negated a)
  | range c negated a, .and => some (.inl (high c negated a))
  | high c negated a, t => t.term?.map fun b => .inr (.between c negated a b)
  | is c false, .not => some (.inl (is c true))
  | is c negated, .null => some (.inr (.isNull c negated))
  | _, _ => none

/-- The test that is read at the last of some further tokens. -/
def Begun.finish : Begun → List Token → Option Atom
  | _, [] => none
  | b, t :: ts => match b.step t with
    | some (.inl b) => b.finish ts
    | some (.inr a) => if ts.isEmpty then some a else none
    | none => none

/-- What has been read on a level: the alternatives before the last OR, and the factors that the
next operand is joined to with AND. -/
structure Level where
  alternatives : Option Expr := none
  factors : Option Expr := none

/-- The factors with a further operand. -/
def Level.factor (l : Level) (e : Expr) : Expr :=
  match l.factors with
  | none => e
  | some factors => .and factors e

/-- Alternatives with a further one. -/
def Expr.orElse (alternatives : Option Expr) (e : Expr) : Expr :=
  match alternatives with
  | none => e
  | some alternatives => .or alternatives e

inductive Position where
  /-- Before a test or a parenthesis. -/
  | operand
  /-- Within a test. -/
  | test (begun : Begun)
  /-- Behind an operand, with the factors up to there. -/
  | link (factors : Expr)

/-- The parser: the levels around, the innermost first, its own level, and where it stands. -/
structure Parser where
  outer : List Level := []
  level : Level := {}
  position : Position := .operand

namespace Parser

/-- The parser behind an operand. -/
def place (p : Parser) (e : Expr) : Parser := { p with position := .link (p.level.factor e) }

/-- The parser after a token, if the token may stand there. -/
def step (p : Parser) (t : Token) : Option Parser :=
  match p.position with
  | .operand => match t with
    -- A parenthesis opens a level.
    | .left => some { outer := p.level :: p.outer }
    | .name column => some { p with position := .test (.column column) }
    | _ => none
  | .test begun => match begun.step t with
    | some (.inl begun) => some { p with position := .test begun }
    | some (.inr a) => some (p.place (.atom a))
    | none => none
  | .link factors => match t with
    | .and => some { p with level := ⟨p.level.alternatives, some factors⟩, position := .operand }
    | .or => some { p with
        level := ⟨some (.orElse p.level.alternatives factors), none⟩, position := .operand }
    -- The closed level is an operand of the level around it.
    | .right => match p.outer with
      | [] => none
      | l :: outer => some (place ⟨outer, l, .operand⟩ (.orElse p.level.alternatives factors))
    | _ => none

def read (p : Parser) (ts : List Token) : Option Parser := ts.foldlM step p

/-- The expression, if the parser stands behind an operand and no parenthesis is open. -/
def result? (p : Parser) : Option Expr :=
  match p.outer, p.position with
  | [], .link factors => some (.orElse p.level.alternatives factors)
  | _, _ => none

end Parser

/-- Reads the text of a clause: an expression, or nothing at all. -/
def parse (text : String) : Option (Option Expr) :=
  match tokens text with
  | [] => some none
  | ts => ((Parser.read {} ts).bind Parser.result?).map some

end Syntax

/-! ## The expression that conditions stand for -/

open Syntax (Token Term Atom Expr Begun Level Position Parser parse)

def Operand.term : Operand → Term
  | value _ => .mark
  | column path => .name path

/-- The test as a database reads it. -/
def Test.atom : Test → Atom
  | compare column op operand => .compare column op operand.term
  | oneOf column negated values => .oneOf column negated (values.map fun _ => .mark)
  | between column negated _ _ => .between column negated .mark .mark
  | isNull column negated => .isNull column negated

/-- The expression of operands with connectives between them, behind some alternatives and the
factors so far. -/
def Syntax.Expr.join (alternatives : Option Expr) (factors : Expr) :
    List (Connective × Expr) → Expr
  | [] => .orElse alternatives factors
  | (.and, e) :: rest => join alternatives (.and factors e) rest
  | (.or, e) :: rest => join (some (.orElse alternatives factors)) e rest

namespace Condition

mutual

/-- The expression of a condition. An empty group has none. -/
def expr? : Condition → Option Expr
  | test _ t => some (.atom t.atom)
  | group _ parts => allExpr? parts

def allExpr? : List Condition → Option Expr
  | [] => none
  | c :: rest => do
    let e ← c.expr?
    let es ← linkedExprs? rest
    return .join none e es

/-- The expressions of conditions, with the connectives before them. -/
def linkedExprs? : List Condition → Option (List (Connective × Expr))
  | [] => some []
  | c :: rest => do
    let e ← c.expr?
    let es ← linkedExprs? rest
    return (c.link, e) :: es

end

end Condition

namespace Syntax

/-- Within the list of an IN, placeholders are read up to the parenthesis. -/
theorem Begun.finish_items (column : String) (negated : Bool) (v : Value) (values : List Value)
    (items : List Term) :
    (item column negated items).finish
        (((v :: values).map fun _ => Token.mark).intersperse .comma ++ [.right]) =
      some (.oneOf column negated (items ++ (v :: values).map fun _ => Term.mark)) := by
  induction values generalizing v items with
  | nil => rfl
  | cons w rest ih =>
    -- One placeholder and one comma further on, there is one more item.
    have later := ih w (items ++ [.mark])
    rw [List.append_assoc] at later
    exact later

/-- A parser that goes on within a test as the test does, and behind it once it is complete, reads the
remaining tokens of the test. -/
theorem Begun.foldlM_of_finish {σ : Type} {step : σ → Token → Option σ} {within : Begun → σ}
    {behind : Atom → σ}
    (goes : ∀ b t, step (within b) t = match Begun.step b t with
      | some (.inl b) => some (within b)
      | some (.inr a) => some (behind a)
      | none => none)
    {b : Begun} {ts : List Token} {a : Atom} (h : b.finish ts = some a) :
    ts.foldlM step (within b) = some (behind a) := by
  induction ts generalizing b with
  | nil => cases h
  | cons t ts ih =>
    rw [finish] at h
    rw [List.foldlM_cons, goes]
    cases next : b.step t with
    | none => simp [next] at h
    | some result =>
      rw [next] at h
      cases result with
      | inl b => exact ih h
      | inr b =>
        obtain ⟨last, same⟩ := Option.ite_none_right_eq_some.1 h
        cases same
        rw [List.isEmpty_iff.1 last]
        rfl

/-- A test is read from its column on. -/
theorem exists_finish {t : Test} (filled : t.Filled) :
    ∃ column ts, t.tokens = .name column :: ts ∧ (Begun.column column).finish ts = some t.atom := by
  cases t with
  | compare column op operand =>
    refine ⟨column, _, rfl, ?_⟩
    cases op <;> cases operand <;> rfl
  | oneOf column negated values =>
    refine ⟨column, _, rfl, ?_⟩
    cases values with
    | nil => exact absurd rfl filled
    | cons v rest =>
      have items := Begun.finish_items column negated v rest []
      cases negated <;> exact items
  | between column negated low high =>
    refine ⟨column, _, rfl, ?_⟩
    cases negated <;> rfl
  | isNull column negated =>
    refine ⟨column, _, rfl, ?_⟩
    cases negated <;> rfl

namespace Parser

theorem read_cons (p : Parser) (t : Token) (ts : List Token) :
    p.read (t :: ts) = (p.step t).bind fun p => p.read ts := rfl

theorem read_append (p : Parser) (a b : List Token) :
    p.read (a ++ b) = (p.read a).bind fun p => p.read b :=
  List.foldlM_append

section

variable (outer : List Level) (level : Level)

/-- A test is read as an operand. -/
theorem read_test {t : Test} (filled : t.Filled) :
    read ⟨outer, level, .operand⟩ t.tokens =
      some (place ⟨outer, level, .operand⟩ (.atom t.atom)) := by
  obtain ⟨column, ts, tokens, finish⟩ := exists_finish filled
  have read := @Begun.foldlM_of_finish _ step (fun b => ⟨outer, level, .test b⟩)
    (fun a => place ⟨outer, level, .operand⟩ (.atom a)) (fun _ _ => rfl) _ _ _ finish
  rw [tokens]
  exact read

end

/-- The parser at the end of its level, with the expression of all that was read on it. -/
def Closes (outer : List Level) (p : Parser) (e : Expr) : Prop :=
  ∃ level factors, p = ⟨outer, level, .link factors⟩ ∧ .orElse level.alternatives factors = e

mutual

/-- A condition is read as an operand. -/
theorem read_condition : (c : Condition) → c.Every Test.Readable → ∀ e, c.expr? = some e →
    ∀ outer level, read ⟨outer, level, .operand⟩ c.tokens =
      some (place ⟨outer, level, .operand⟩ e)
  | .test _ t, .test readable, e, h, outer, level => by
    rw [Condition.expr?, Option.some.injEq] at h
    rw [Condition.tokens, read_test outer level readable.filled, h]
  | .group _ parts, .group _ each, e, h, outer, level => by
    rw [Condition.expr?] at h
    obtain ⟨p, inner, inner_level, factors, rfl, rfl⟩ :=
      read_conditions parts each e h (level :: outer)
    -- Behind the parenthesis the parser is back on the level around, with the group as an operand.
    have opened : step ⟨outer, level, .operand⟩ .left = some ⟨level :: outer, {}, .operand⟩ := rfl
    rw [Condition.tokens, List.cons_append, read_cons, opened, Option.bind_some, read_append, inner]
    rfl

/-- Conditions are read up to the end of their level. -/
theorem read_conditions : (cs : List Condition) → (∀ c ∈ cs, c.Every Test.Readable) →
    ∀ e, Condition.allExpr? cs = some e → ∀ outer,
      ∃ p, read ⟨outer, {}, .operand⟩ (Condition.allTokens cs) = some p ∧ Closes outer p e
  | [], _, e, h, _ => by simp [Condition.allExpr?] at h
  | c :: rest, readable, e, h, outer => by
    simp only [Condition.allExpr?, Option.bind_eq_bind, Option.bind_eq_some_iff, Option.pure_def,
      Option.some.injEq] at h
    obtain ⟨first, hf, es, hes, rfl⟩ := h
    have one := read_condition c (readable c List.mem_cons_self) first hf outer {}
    have others := read_following rest (fun d hd => readable d (List.mem_cons_of_mem c hd)) es hes
      outer {} first
    rw [Condition.allTokens, read_append, one]
    exact others

theorem read_following : (cs : List Condition) → (∀ c ∈ cs, c.Every Test.Readable) →
    ∀ es, Condition.linkedExprs? cs = some es → ∀ outer level factors,
      ∃ p, read ⟨outer, level, .link factors⟩ (Condition.followingTokens cs) = some p ∧
        Closes outer p (.join level.alternatives factors es)
  | [], _, es, h, outer, level, factors => by
    simp only [Condition.linkedExprs?, Option.some.injEq] at h
    subst h
    exact ⟨_, rfl, level, factors, rfl, rfl⟩
  | c :: rest, readable, es, h, outer, level, factors => by
    simp only [Condition.linkedExprs?, Option.bind_eq_bind, Option.bind_eq_some_iff,
      Option.pure_def, Option.some.injEq] at h
    obtain ⟨first, hf, es, hes, rfl⟩ := h
    have one := read_condition c (readable c List.mem_cons_self) first hf outer
    have others := read_following rest (fun d hd => readable d (List.mem_cons_of_mem c hd)) es hes
      outer
    rw [Condition.followingTokens, List.cons_append, read_cons]
    -- AND keeps the factors for the next operand; OR makes them one of the alternatives.
    cases link : c.link with
    | and =>
      have linked : step ⟨outer, level, .link factors⟩ Connective.and.token =
          some ⟨outer, ⟨level.alternatives, some factors⟩, .operand⟩ := rfl
      rw [linked, Option.bind_some, read_append, one]
      exact others _ _
    | or =>
      have linked : step ⟨outer, level, .link factors⟩ Connective.or.token =
          some ⟨outer, ⟨some (.orElse level.alternatives factors), none⟩, .operand⟩ := rfl
      rw [linked, Option.bind_some, read_append, one]
      exact others _ _

end

end Parser

end Syntax

namespace Condition

mutual

/-- A condition without empty groups has an expression. -/
theorem exists_expr {p : Test → Prop} : (c : Condition) → c.Every p → ∃ e, c.expr? = some e
  | .test _ t, _ => ⟨.atom t.atom, rfl⟩
  | .group _ [], .group filled _ => absurd rfl filled
  | .group _ (c :: rest), .group _ each => by
    obtain ⟨e, he⟩ := exists_expr c (each c List.mem_cons_self)
    obtain ⟨es, hes⟩ := exists_linkedExprs rest fun d hd => each d (List.mem_cons_of_mem c hd)
    exact ⟨.join none e es, by simp [expr?, allExpr?, he, hes]⟩

theorem exists_linkedExprs {p : Test → Prop} : (cs : List Condition) → (∀ c ∈ cs, c.Every p) →
    ∃ es, linkedExprs? cs = some es
  | [], _ => ⟨[], rfl⟩
  | c :: rest, each => by
    obtain ⟨e, he⟩ := exists_expr c (each c List.mem_cons_self)
    obtain ⟨es, hes⟩ := exists_linkedExprs rest fun d hd => each d (List.mem_cons_of_mem c hd)
    exact ⟨(c.link, e) :: es, by simp [linkedExprs?, he, hes]⟩

end

end Condition

namespace Syntax

/-- The text of conditions is read as the expression that they stand for, and an empty text as
none. -/
theorem parse_renderAll {cs : List Condition} (readable : ∀ c ∈ cs, c.Every Test.Readable) :
    parse (Condition.renderAll Value.hidden cs) = some (Condition.allExpr? cs) := by
  have lexed := tokens_renderAll cs readable
  cases cs with
  | nil =>
    rw [parse, lexed]
    rfl
  | cons c rest =>
    obtain ⟨e, h⟩ := Condition.exists_expr (.group .and (c :: rest))
      (.group (List.cons_ne_nil c rest) readable)
    rw [Condition.expr?] at h
    obtain ⟨p, read, level, factors, rfl, rfl⟩ := Parser.read_conditions _ readable e h []
    have filled : Condition.allTokens (c :: rest) ≠ [] := by
      intro empty
      rw [empty] at read
      cases read
    rw [parse, lexed, h]
    cases ts : Condition.allTokens (c :: rest) with
    | nil => exact absurd ts filled
    | cons t ts' =>
      rw [ts] at read
      simp only [read]
      rfl

example : parse "u.a = ? AND u.b between ? and ? OR (u.c IS NULL OR u.d IN (?, ?)) AND u.e < v.f" =
    some (some (.or
      (.and (.atom (.compare "u.a" .eq .mark)) (.atom (.between "u.b" false .mark .mark)))
      (.and
        (.or (.atom (.isNull "u.c" false)) (.atom (.oneOf "u.d" false [.mark, .mark])))
        (.atom (.compare "u.e" .lt (.name "v.f")))))) := by decide +kernel

end Syntax

end SelectQuery
