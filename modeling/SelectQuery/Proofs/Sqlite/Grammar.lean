import SelectQuery.Proofs.Sqlite.Lexer

/-!
The grammar of SELECT statements in SQLite, over the tokens of its lexical rules. The parts of a
statement refer to each other, so the grammar is a form for each part, and what a form stands for is
an inductive relation. Names in the grammar are no keywords; SQLite itself reads some keywords as
names where nothing else fits.

What is proved:
  1. `Derives.choice`, `Derives.many`, `Derives.listed_cons`: how texts are put together by forms.
  2. `exists_of_mem`: if no part brings a word without another, what has the one has the other.
  3. `limit_of_offset`: so a sentence has no OFFSET without a LIMIT.
  4. `limit_not_mem`: the parts that have no limit have none anywhere in them.
-/

namespace SelectQuery.Sqlite

/-! ## Terminals -/

/-- The keywords. CURRENT_DATE, CURRENT_TIME and CURRENT_TIMESTAMP are not among them: each may
stand wherever a name may. -/
def keywords : List String :=
  ["ABORT", "ACTION", "ADD", "AFTER", "ALL", "ALTER", "ALWAYS", "ANALYZE", "AND", "AS", "ASC",
    "ATTACH", "AUTOINCREMENT", "BEFORE", "BEGIN", "BETWEEN", "BY", "CASCADE", "CASE", "CAST",
    "CHECK", "COLLATE", "COLUMN", "COMMIT", "CONFLICT", "CONSTRAINT", "CREATE", "CROSS", "CURRENT",
    "DATABASE", "DEFAULT", "DEFERRABLE", "DEFERRED", "DELETE", "DESC", "DETACH", "DISTINCT", "DO",
    "DROP", "EACH", "ELSE", "END", "ESCAPE", "EXCEPT", "EXCLUDE", "EXCLUSIVE", "EXISTS", "EXPLAIN",
    "FAIL", "FILTER", "FIRST", "FOLLOWING", "FOR", "FOREIGN", "FROM", "FULL", "GENERATED", "GLOB",
    "GROUP", "GROUPS", "HAVING", "IF", "IGNORE", "IMMEDIATE", "IN", "INDEX", "INDEXED", "INITIALLY",
    "INNER", "INSERT", "INSTEAD", "INTERSECT", "INTO", "IS", "ISNULL", "JOIN", "KEY", "LAST",
    "LEFT", "LIKE", "LIMIT", "MATCH", "MATERIALIZED", "NATURAL", "NO", "NOT", "NOTHING", "NOTNULL",
    "NULL", "NULLS", "OF", "OFFSET", "ON", "OR", "ORDER", "OTHERS", "OUTER", "OVER", "PARTITION",
    "PLAN", "PRAGMA", "PRECEDING", "PRIMARY", "QUERY", "RAISE", "RANGE", "RECURSIVE", "REFERENCES",
    "REGEXP", "REINDEX", "RELEASE", "RENAME", "REPLACE", "RESTRICT", "RETURNING", "RIGHT",
    "ROLLBACK", "ROW", "ROWS", "SAVEPOINT", "SELECT", "SET", "TABLE", "TEMP", "TEMPORARY", "THEN",
    "TIES", "TO", "TRANSACTION", "TRIGGER", "UNBOUNDED", "UNION", "UNIQUE", "UPDATE", "USING",
    "VACUUM", "VALUES", "VIEW", "VIRTUAL", "WHEN", "WHERE", "WINDOW", "WITH", "WITHOUT"]

def upperCase (text : List Char) : String := String.ofList (text.map Char.toUpper)

/-- What the grammar tells apart. -/
inductive Terminal where
  | keyword (text : String)
  | name
  | literal
  | parameter
  | sign (text : String)
  | illegal
  deriving DecidableEq

/-- The terminal that a token is. Comments are passed over. -/
def Token.terminal? : Token → Option Terminal
  | word text =>
    some (if keywords.contains (upperCase text) then .keyword (upperCase text) else .name)
  | quoted _ => some .name
  | string _ => some .literal
  | blob _ => some .literal
  | integer _ => some .literal
  | decimal _ => some .literal
  | mark => some .parameter
  | parameter _ => some .parameter
  | sign text => some (.sign (String.ofList text))
  | comment => none
  | illegal => some .illegal

def terminals (toks : List Token) : List Terminal := toks.filterMap Token.terminal?

theorem terminals_append (a b : List Token) : terminals (a ++ b) = terminals a ++ terminals b :=
  List.filterMap_append

/-! ## Forms -/

/-- The parts of a statement. -/
inductive Nonterminal where
  | statement
  | commonTable
  | compound
  | core
  | resultColumn
  | source
  | joined
  | joinOperator
  | joinConstraint
  | label
  | tableName
  | orderBy
  | limit
  | expr
  | column
  | unary
  | binary
  | matching
  | members
  | call
  | window
  | frame
  | bound
  | typeName
  deriving DecidableEq

/-- A form of texts. -/
inductive Form where
  | never
  | empty
  | terminal (t : Terminal)
  | part (n : Nonterminal)
  | seq (f g : Form)
  | alt (f g : Form)
  /-- The form any number of times. -/
  | many (f : Form)
  deriving DecidableEq

namespace Form

def word (s : String) : Form := terminal (.keyword s)

def symbol (s : String) : Form := terminal (.sign s)

def name : Form := terminal .name

/-- Forms one after the other. -/
def row (fs : List Form) : Form := fs.foldr seq empty

def choice (fs : List Form) : Form := fs.foldr alt never

def opt (f : Form) : Form := alt f empty

def words (ss : List String) : Form := row (ss.map word)

/-- One or more times the form, with commas between them. -/
def listed (f : Form) : Form := seq f (many (seq (symbol ",") f))

def signedNumber : Form := row [opt (choice [symbol "+", symbol "-"]), terminal .literal]

def parens (f : Form) : Form := row [symbol "(", f, symbol ")"]

end Form

section Grammar

open Form

def expressions : List Form :=
  [terminal .literal, terminal .parameter, word "NULL", part .column,
    row [part .unary, part .expr],
    row [part .expr, part .binary, part .expr],
    row [part .expr, choice [word "ISNULL", word "NOTNULL", words ["NOT", "NULL"]]],
    row [part .expr, word "COLLATE", name],
    row [part .expr, opt (word "NOT"), part .matching, part .expr,
      opt (row [word "ESCAPE", part .expr])],
    row [part .expr, word "IS", opt (word "NOT"), opt (words ["DISTINCT", "FROM"]), part .expr],
    row [part .expr, opt (word "NOT"), word "BETWEEN", part .expr, word "AND", part .expr],
    row [part .expr, opt (word "NOT"), word "IN", part .members],
    parens (listed (part .expr)),
    row [opt (row [opt (word "NOT"), word "EXISTS"]), parens (part .statement)],
    part .call,
    row [word "CAST", parens (row [part .expr, word "AS", part .typeName])],
    row [word "CASE", opt (part .expr),
      row [word "WHEN", part .expr, word "THEN", part .expr],
      many (row [word "WHEN", part .expr, word "THEN", part .expr]),
      opt (row [word "ELSE", part .expr]), word "END"]]

def form : Nonterminal → Form
  | .statement =>
    row [opt (row [word "WITH", opt (word "RECURSIVE"), listed (part .commonTable)]),
      part .core, many (row [part .compound, part .core]), opt (part .orderBy), opt (part .limit)]
  | .commonTable =>
    row [name, opt (parens (listed name)), word "AS",
      opt (row [opt (word "NOT"), word "MATERIALIZED"]), parens (part .statement)]
  | .compound =>
    choice [word "UNION", words ["UNION", "ALL"], word "INTERSECT", word "EXCEPT"]
  | .core =>
    choice [
      row [word "SELECT", opt (choice [word "DISTINCT", word "ALL"]), listed (part .resultColumn),
        opt (row [word "FROM", part .joined]), opt (row [word "WHERE", part .expr]),
        opt (row [words ["GROUP", "BY"], listed (part .expr)]),
        opt (row [word "HAVING", part .expr]),
        opt (row [word "WINDOW", listed (row [name, word "AS", part .window])])],
      row [word "VALUES", listed (parens (listed (part .expr)))]]
  | .resultColumn =>
    choice [symbol "*", row [name, symbol ".", symbol "*"], row [part .expr, opt (part .label)]]
  | .joined =>
    row [part .source, many (row [part .joinOperator, part .source, opt (part .joinConstraint)])]
  | .source =>
    choice [
      row [part .tableName, opt (part .label),
        opt (choice [row [words ["INDEXED", "BY"], name], words ["NOT", "INDEXED"]])],
      row [part .tableName, parens (opt (listed (part .expr))), opt (part .label)],
      row [parens (part .statement), opt (part .label)],
      parens (part .joined)]
  | .joinOperator =>
    choice [symbol ",",
      row [opt (word "NATURAL"),
        opt (choice [row [choice [word "LEFT", word "RIGHT", word "FULL"], opt (word "OUTER")],
          word "INNER", word "CROSS"]),
        word "JOIN"]]
  | .joinConstraint =>
    choice [row [word "ON", part .expr], row [word "USING", parens (listed name)]]
  | .label => row [opt (word "AS"), name]
  | .tableName => choice [name, row [name, symbol ".", name]]
  | .orderBy =>
    row [words ["ORDER", "BY"],
      listed (row [part .expr, opt (choice [word "ASC", word "DESC"]),
        opt (row [word "NULLS", choice [word "FIRST", word "LAST"]])])]
  | .limit =>
    row [word "LIMIT", part .expr, opt (row [choice [word "OFFSET", symbol ","], part .expr])]
  | .expr => choice expressions
  | .column =>
    choice [name, row [name, symbol ".", name], row [name, symbol ".", name, symbol ".", name]]
  | .unary => choice [symbol "-", symbol "+", symbol "~", word "NOT"]
  | .binary =>
    choice [symbol "||", symbol "->", symbol "->>", symbol "*", symbol "/", symbol "%", symbol "+",
      symbol "-", symbol "&", symbol "|", symbol "<<", symbol ">>", symbol "<", symbol "<=",
      symbol ">", symbol ">=", symbol "=", symbol "==", symbol "<>", symbol "!=", word "AND",
      word "OR"]
  | .matching => choice [word "LIKE", word "GLOB", word "REGEXP", word "MATCH"]
  | .members =>
    choice [parens (opt (choice [part .statement, listed (part .expr)])), part .tableName,
      row [part .tableName, parens (opt (listed (part .expr)))]]
  | .call =>
    row [name,
      parens (choice [empty, symbol "*",
        row [opt (word "DISTINCT"), listed (part .expr), opt (part .orderBy)]]),
      opt (row [word "FILTER", parens (row [word "WHERE", part .expr])]),
      opt (row [word "OVER", choice [name, part .window]])]
  | .window =>
    parens (row [opt name, opt (row [words ["PARTITION", "BY"], listed (part .expr)]),
      opt (part .orderBy), opt (part .frame)])
  | .frame =>
    row [choice [word "RANGE", word "ROWS", word "GROUPS"],
      choice [part .bound, row [word "BETWEEN", part .bound, word "AND", part .bound]],
      opt (row [word "EXCLUDE",
        choice [words ["NO", "OTHERS"], words ["CURRENT", "ROW"], word "GROUP", word "TIES"]])]
  | .bound =>
    choice [words ["UNBOUNDED", "PRECEDING"], words ["UNBOUNDED", "FOLLOWING"],
      words ["CURRENT", "ROW"], row [part .expr, choice [word "PRECEDING", word "FOLLOWING"]]]
  | .typeName =>
    row [name, many name, opt (parens (row [signedNumber, opt (row [symbol ",", signedNumber])]))]

end Grammar

/-- What a form stands for, where the parts that `k` leaves out stand for nothing. -/
inductive Derives (k : Nonterminal → Bool) : Form → List Terminal → Prop where
  | empty : Derives k .empty []
  | terminal (t : Terminal) : Derives k (.terminal t) [t]
  | part {n : Nonterminal} {ts : List Terminal} (kept : k n) (h : Derives k (form n) ts) :
    Derives k (.part n) ts
  | seq {f g : Form} {a b : List Terminal} (hf : Derives k f a) (hg : Derives k g b) :
    Derives k (.seq f g) (a ++ b)
  | left {f g : Form} {ts : List Terminal} (h : Derives k f ts) : Derives k (.alt f g) ts
  | right {f g : Form} {ts : List Terminal} (h : Derives k g ts) : Derives k (.alt f g) ts
  | none {f : Form} : Derives k (.many f) []
  | more {f : Form} {a b : List Terminal} (h : Derives k f a) (later : Derives k (.many f) b) :
    Derives k (.many f) (a ++ b)

/-- The text is a SELECT statement by the grammar. -/
def Sentence (text : String) : Prop :=
  Derives (fun _ => true) (.part .statement) (terminals (lex text.toList))

/-- Every part but a limit and a statement, which may end in one. -/
def withoutLimit (n : Nonterminal) : Bool := n ≠ .statement && n ≠ .limit

namespace Derives

open Form (row choice listed opt word symbol)

variable {k : Nonterminal → Bool} {f : Form} {fs : List Form} {a b ts : List Terminal}

/-- What a form stands for in a part of the grammar, it stands for in the whole of it. -/
theorem whole (h : Derives k f ts) : Derives (fun _ => true) f ts := by
  induction h with
  | empty => exact .empty
  | terminal t => exact .terminal t
  | part _ _ ih => exact .part rfl ih
  | seq _ _ ihf ihg => exact .seq ihf ihg
  | left _ ih => exact .left ih
  | right _ ih => exact .right ih
  | none => exact .none
  | more _ _ ih ihl => exact .more ih ihl

theorem of_eq (h : Derives k f a) (same : a = b) : Derives k f b := same ▸ h

theorem nil : Derives k (row []) [] := .empty

theorem cons (h : Derives k f a) (hs : Derives k (row fs) b) : Derives k (row (f :: fs)) (a ++ b) :=
  .seq h hs

theorem choice (h : Derives k f ts) (mem : f ∈ fs) : Derives k (choice fs) ts := by
  induction fs with
  | nil => exact absurd mem List.not_mem_nil
  | cons g fs ih =>
    rcases List.mem_cons.1 mem with rfl | mem
    · exact .left h
    · exact .right (ih mem)

theorem some (h : Derives k f ts) : Derives k (opt f) ts := .left h

theorem absent : Derives k (opt f) [] := .right .empty

theorem word (s : String) : Derives k (word s) [.keyword s] := .terminal _

theorem symbol (s : String) : Derives k (symbol s) [.sign s] := .terminal _

theorem many {α : Type} {items : List α} {write : α → List Terminal}
    (each : ∀ x ∈ items, Derives k f (write x)) : Derives k (.many f) (items.flatMap write) := by
  induction items with
  | nil => exact .none
  | cons x items ih =>
    exact .more (each x List.mem_cons_self) (ih fun y hy => each y (List.mem_cons_of_mem x hy))

theorem listed_one (h : Derives k f ts) : Derives k (listed f) ts := by
  have alone := Derives.seq h (none (f := .seq (Form.symbol ",") f))
  rwa [List.append_nil] at alone

theorem listed_cons (h : Derives k f a) (hs : Derives k (listed f) b) :
    Derives k (listed f) (a ++ .sign "," :: b) := by
  cases hs with
  | seq first later => exact .seq h (.more (.seq (symbol ",") first) later)

end Derives

/-! ## Words that need another -/

namespace Form

variable {k : Nonterminal → Bool} {p : Terminal → Bool} {t : Terminal} {f : Form}
  {ts : List Terminal}

/-- Whatever the form stands for has a terminal that satisfies `p`, also without its parts. -/
def holds (p : Terminal → Bool) : Form → Bool
  | never => true
  | terminal t => p t
  | seq f g => f.holds p || g.holds p
  | alt f g => f.holds p && g.holds p
  | _ => false

/-- But for its parts, the form may bring `t` where it need not hold a terminal that satisfies
`p`. -/
def bares (t : Terminal) (p : Terminal → Bool) : Form → Bool
  | terminal u => u = t
  | seq f g => (f.bares t p || g.bares t p) && !(f.holds p || g.holds p)
  | alt f g => f.bares t p || g.bares t p
  | many f => f.bares t p
  | _ => false

theorem exists_of_holds (holds : f.holds p) (h : Derives k f ts) : ∃ u ∈ ts, p u := by
  induction h with
  | empty | part _ _ | none | more _ _ => cases holds
  | terminal t => exact ⟨t, List.mem_singleton_self t, holds⟩
  | seq _ _ ihf ihg =>
    rw [Form.holds, Bool.or_eq_true] at holds
    rcases holds with holds | holds
    · obtain ⟨u, hu, sat⟩ := ihf holds
      exact ⟨u, List.mem_append_left _ hu, sat⟩
    · obtain ⟨u, hu, sat⟩ := ihg holds
      exact ⟨u, List.mem_append_right _ hu, sat⟩
  | left _ ih =>
    rw [Form.holds, Bool.and_eq_true] at holds
    exact ih holds.1
  | right _ ih =>
    rw [Form.holds, Bool.and_eq_true] at holds
    exact ih holds.2

/-- If no part bares `t`, then where `t` stands, a terminal that satisfies `p` stands too, unless
the form itself bares `t`. -/
theorem exists_of_mem (parts : ∀ n, k n → (form n).bares t p = false) (h : Derives k f ts)
    (mem : t ∈ ts) : (∃ u ∈ ts, p u) ∨ f.bares t p := by
  have before {a b : List Terminal} : (∃ u ∈ a, p u) → ∃ u ∈ a ++ b, p u :=
    fun ⟨u, hu, sat⟩ => ⟨u, List.mem_append_left b hu, sat⟩
  have behind {a b : List Terminal} : (∃ u ∈ b, p u) → ∃ u ∈ a ++ b, p u :=
    fun ⟨u, hu, sat⟩ => ⟨u, List.mem_append_right a hu, sat⟩
  induction h with
  | empty | none => exact absurd mem List.not_mem_nil
  | terminal u => exact .inr (decide_eq_true (List.mem_singleton.1 mem).symm)
  | @part n _ kept _ ih =>
    refine (ih mem).imp_right fun bares => ?_
    rw [parts n kept] at bares
    cases bares
  | @seq f g a b hf hg ihf ihg =>
    have found : (∃ u ∈ a ++ b, p u) ∨ f.bares t p ∨ g.bares t p := by
      rcases List.mem_append.1 mem with mem | mem
      · exact (ihf mem).imp before .inl
      · exact (ihg mem).imp behind .inr
    cases held : f.holds p || g.holds p with
    | true =>
      rw [Bool.or_eq_true] at held
      exact .inl (held.elim (before <| exists_of_holds · hf) (behind <| exists_of_holds · hg))
    | false =>
      refine found.imp_right fun bares => ?_
      rw [Form.bares, held, Bool.not_false, Bool.and_true, Bool.or_eq_true]
      exact bares
  | left _ ih =>
    rw [Form.bares, Bool.or_eq_true]
    exact (ih mem).imp_right .inl
  | right _ ih =>
    rw [Form.bares, Bool.or_eq_true]
    exact (ih mem).imp_right .inr
  | more _ _ ih ihl =>
    rcases List.mem_append.1 mem with mem | mem
    · exact (ih mem).imp_left before
    · exact (ihl mem).imp_left behind

end Form

/-- A sentence has no OFFSET without a LIMIT. -/
theorem limit_of_offset {text : String} (h : Sentence text)
    (mem : .keyword "OFFSET" ∈ terminals (lex text.toList)) :
    .keyword "LIMIT" ∈ terminals (lex text.toList) := by
  have parts (n : Nonterminal) (_ : true) :
      (form n).bares (.keyword "OFFSET") (· = .keyword "LIMIT") = false := by
    cases n <;> decide
  obtain ⟨u, hu, limit⟩ := (Form.exists_of_mem parts h mem).resolve_right Bool.false_ne_true
  exact of_decide_eq_true limit ▸ hu

/-- Without the parts that may have a limit, only a form with the word LIMIT brings it. -/
theorem limit_not_mem {f : Form} {ts : List Terminal} (h : Derives withoutLimit f ts)
    (free : f.bares (.keyword "LIMIT") (fun _ => false) = false) : .keyword "LIMIT" ∉ ts := by
  have parts (n : Nonterminal) (kept : withoutLimit n) :
      (form n).bares (.keyword "LIMIT") (fun _ => false) = false := by
    cases n <;> first | decide | cases kept
  intro mem
  rcases Form.exists_of_mem parts h mem with ⟨u, -, never⟩ | bares
  · cases never
  · rw [free] at bares
    cases bares

end SelectQuery.Sqlite
