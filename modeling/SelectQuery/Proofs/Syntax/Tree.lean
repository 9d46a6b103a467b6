import SelectQuery.Proofs.Syntax.Expression

/-!
Predicate trees: the conditions of a clause as they are written, group by group, and a parser that
reads them from the tokens of the clause. Unlike an expression, a tree keeps the order of the
connectives and the parentheses.

What is proved:
  1. `read_condition`: from wherever a condition may stand, the parser reads its tokens and goes on
     behind its tree.
  2. `parse_allTokens`: the tokens of conditions without empty groups are read as their trees.
-/

namespace SelectQuery

namespace Syntax

/-- A condition as it is written: a test, or a group in parentheses. The conditions of a level stand
behind connectives; the first one, which is written without, counts as joined by AND. -/
inductive Tree (α : Type) where
  | atom (a : α)
  | group (parts : List (Connective × Tree α))

namespace Tree

abbrev Level (α : Type) := List (Connective × Tree α)

inductive Position where
  /-- Behind a connective: a test or a parenthesis follows. -/
  | operand (link : Connective)
  /-- Within a test. -/
  | test (link : Connective) (begun : Begun)
  /-- Behind a condition. -/
  | link

/-- The parser: for each open parenthesis, the innermost first, what stands before it on its level
and the connective of the group; what has been read on the own level; and where the parser stands. -/
structure Parser where
  outer : List (Level Atom × Connective) := []
  level : Level Atom := []
  position : Position := .operand .and

namespace Parser

def place (p : Parser) (link : Connective) (t : Tree Atom) : Parser :=
  { p with level := p.level ++ [(link, t)], position := .link }

def step (p : Parser) (t : Token) : Option Parser :=
  match p.position with
  | .operand link => match t with
    -- A parenthesis opens a level.
    | .left => some { outer := (p.level, link) :: p.outer }
    | .name column => some { p with position := .test link (.column column) }
    | _ => none
  | .test link begun => match begun.step t with
    | some (.inl begun) => some { p with position := .test link begun }
    | some (.inr a) => some (p.place link (.atom a))
    | none => none
  | .link => match t with
    | .and => some { p with position := .operand .and }
    | .or => some { p with position := .operand .or }
    -- The closed level is a group of the level around it.
    | .right => match p.outer with
      | [] => none
      | (level, link) :: outer => some (place ⟨outer, level, .link⟩ link (.group p.level))
    | _ => none

def read (p : Parser) (ts : List Token) : Option Parser := ts.foldlM step p

/-- The conditions, if the parser stands behind one and no parenthesis is open. -/
def result? (p : Parser) : Option (Level Atom) :=
  match p.outer, p.position with
  | [], .link => some p.level
  | _, _ => none

end Parser

def parse (ts : List Token) : Option (Level Atom) := (Parser.read {} ts).bind Parser.result?

end Tree

end Syntax

open Syntax (Token Begun Atom)

/-! ## The trees of conditions -/

namespace Condition

section

variable {α : Type} (f : Test → α)

mutual

/-- The tree of a condition, where `f` gives what is kept of a test. -/
def tree : Condition → Syntax.Tree α
  | test _ t => .atom (f t)
  | group _ parts => .group (trees parts)

/-- The trees of conditions. The connective of the first does not count. -/
def trees : List Condition → Syntax.Tree.Level α
  | [] => []
  | c :: rest => (.and, c.tree) :: linkedTrees rest

def linkedTrees : List Condition → Syntax.Tree.Level α
  | [] => []
  | c :: rest => (c.link, c.tree) :: linkedTrees rest

end

end

end Condition

namespace Syntax.Tree

namespace Parser

theorem read_cons (p : Parser) (t : Token) (ts : List Token) :
    p.read (t :: ts) = (p.step t).bind fun p => p.read ts := rfl

theorem read_append (p : Parser) (a b : List Token) :
    p.read (a ++ b) = (p.read a).bind fun p => p.read b :=
  List.foldlM_append

theorem read_test (outer : List (Level Atom × Connective)) (level : Level Atom) (link : Connective)
    {t : Test} (filled : t.Filled) :
    read ⟨outer, level, .operand link⟩ t.tokens =
      some (place ⟨outer, level, .link⟩ link (.atom t.atom)) := by
  obtain ⟨column, ts, tokens, finish⟩ := exists_finish filled
  have read := @Begun.foldlM_of_finish _ step (fun b => ⟨outer, level, .test link b⟩)
    (fun a => place ⟨outer, level, .link⟩ link (.atom a)) (fun _ _ => rfl) _ _ _ finish
  rw [tokens]
  exact read

mutual

/-- A condition is read as its tree. -/
theorem read_condition : (c : Condition) → c.Every Test.Readable → ∀ outer level link,
    read ⟨outer, level, .operand link⟩ c.tokens =
      some (place ⟨outer, level, .link⟩ link (c.tree Test.atom))
  | .test _ t, .test readable, outer, level, link => read_test outer level link readable.filled
  | .group _ parts, .group filled each, outer, level, link => by
    have inner := read_conditions parts filled each ((level, link) :: outer)
    have opened : step ⟨outer, level, .operand link⟩ .left =
        some { outer := (level, link) :: outer } := rfl
    rw [Condition.tokens, List.cons_append, read_cons, opened, Option.bind_some, read_append, inner]
    rfl

/-- Conditions are read up to the end of their level. -/
theorem read_conditions : (cs : List Condition) → cs ≠ [] → (∀ c ∈ cs, c.Every Test.Readable) →
    ∀ outer, read { outer } (Condition.allTokens cs) =
      some ⟨outer, Condition.trees Test.atom cs, .link⟩
  | [], filled, _, _ => absurd rfl filled
  | c :: rest, _, readable, outer => by
    have one := read_condition c (readable c List.mem_cons_self) outer [] .and
    have others := read_following rest (fun d hd => readable d (List.mem_cons_of_mem c hd)) outer
      [(.and, c.tree Test.atom)]
    rw [Condition.allTokens, read_append, one]
    exact others

theorem read_following : (cs : List Condition) → (∀ c ∈ cs, c.Every Test.Readable) →
    ∀ outer level, read ⟨outer, level, .link⟩ (Condition.followingTokens cs) =
      some ⟨outer, level ++ Condition.linkedTrees Test.atom cs, .link⟩
  | [], _, outer, level => by
    rw [Condition.linkedTrees, List.append_nil]
    rfl
  | c :: rest, readable, outer, level => by
    have linked : step ⟨outer, level, .link⟩ c.link.token =
        some ⟨outer, level, .operand c.link⟩ := by
      cases c.link <;> rfl
    have one := read_condition c (readable c List.mem_cons_self) outer level c.link
    have others := read_following rest (fun d hd => readable d (List.mem_cons_of_mem c hd)) outer
      (level ++ [(c.link, c.tree Test.atom)])
    rw [List.append_assoc] at others
    rw [Condition.followingTokens, List.cons_append, read_cons, linked, Option.bind_some,
      read_append, one]
    exact others

end

end Parser

/-- The tokens of conditions are read as their trees. -/
theorem parse_allTokens {cs : List Condition} (filled : cs ≠ [])
    (readable : ∀ c ∈ cs, c.Every Test.Readable) :
    parse (Condition.allTokens cs) = some (Condition.trees Test.atom cs) := by
  rw [parse, Parser.read_conditions cs filled readable]
  rfl

end Syntax.Tree

end SelectQuery
