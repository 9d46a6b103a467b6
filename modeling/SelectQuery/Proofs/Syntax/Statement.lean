import SelectQuery.Number.Digits
import SelectQuery.Proofs.Syntax.Tree

/-!
Statements, and a parser that reads what one says from its text: the tokens fall into sections at
the words that head them, and each section is read by itself.

What is proved:
  1. `sections_append`: before a head, some tokens fall into the sections that they fall into alone.
  2. `Reads.append`: what is read part by part is read as a whole.
  3. `items?_intercalate`: items with commas between them are read one by one.
-/

namespace SelectQuery

namespace Syntax

/-! ## Words -/

/-- A word that heads a section. -/
inductive Head where
  | select
  | from
  /-- What stands before JOIN. -/
  | kind (kind : JoinKind)
  | join
  | on
  | where
  | group
  | order
  | limit
  | offset
  deriving DecidableEq

/-- The words that head sections. -/
def Head.words : List (List Char × Head) :=
  [("SELECT".toList, select), ("FROM".toList, .from), ("INNER".toList, kind .inner),
    ("LEFT".toList, kind .left), ("RIGHT".toList, kind .right), ("CROSS".toList, kind .cross),
    ("JOIN".toList, join), ("ON".toList, on), ("WHERE".toList, .where), ("GROUP".toList, group),
    ("ORDER".toList, order), ("LIMIT".toList, limit), ("OFFSET".toList, offset)]

/-- The words of statements, in upper case. -/
def reserved : List (List Char) :=
  Head.words.map Prod.fst ++ ["DISTINCT", "AS", "BY", "ASC", "DESC", "AND", "OR", "NOT", "IS",
    "NULL", "IN", "BETWEEN", "LIKE"].map String.toList

/-- Whether the text is a word of statements, in any case of letters. -/
def isReserved (word : List Char) : Bool := reserved.contains (word.map Char.toUpper)

namespace Token

def head? : Token → Option Head
  | name word => Head.words.lookup (word.toList.map Char.toUpper)
  | _ => none

/-- Whether the token is the word, in any case of letters. -/
def spells (word : String) : Token → Bool
  | name w => w.toList.map Char.toUpper == word.toList
  | _ => false

def text? : Token → Option String
  | name word => some word
  | stray lexeme => some (String.ofList lexeme)
  | _ => none

def natural? (t : Token) : Option Nat := do
  let word ← t.text?
  if word.toList.all Char.isDigit then some (Number.ofDigits word.toList) else none

end Token

/-! ## What a statement says -/

/-- A joined table. Without ON there are no conditions. -/
structure Joined (α : Type) where
  kind : JoinKind
  table : String
  on : Tree.Level α

/-- What a statement says, with columns as they are written. Without projected columns it asks for
all, and without WHERE there are no conditions. -/
structure Outline (α : Type) where
  distinct : Bool := false
  projection : List String := []
  table : String := ""
  joins : List (Joined α) := []
  wheres : Tree.Level α := []
  groups : List String := []
  orders : List (String × Direction) := []
  limit : Option Int := none
  offset : Option Int := none

/-! ## The parser -/

/-- A head and the tokens up to the next one. -/
abbrev Section := Head × List Token

/-- The tokens before the first head, and the sections. -/
def sections : List Token → List Token × List Section
  | [] => ([], [])
  | t :: ts => match t.head? with
    | none => (t :: (sections ts).1, (sections ts).2)
    | some head => ([], (head, (sections ts).1) :: (sections ts).2)

/-- Reads items with commas between them. -/
def items? {α : Type} (read : List Token → Option α) (ts : List Token) : Option (List α) :=
  (ts.splitOn .comma).mapM read

def name? : List Token → Option String
  | [.name path] => some path
  | _ => none

/-- Reads a projected column: words with blanks between them. -/
def column? (ts : List Token) : Option String := (ts.mapM Token.text?).map (String.intercalate " ")

/-- Reads projected columns. A star stands for all. -/
def columns? (ts : List Token) : Option (List String) :=
  if ts = [.stray ['*']] then some [] else items? column? ts

def sorted? : List Token → Option (String × Direction)
  | [.name path, .name direction] => (Direction.ofKeyword direction).toOption.map (path, ·)
  | _ => none

/-- Reads a number, behind a minus if it is negative. -/
def number? : List Token → Option Int
  | [t] => t.natural?.map Int.ofNat
  | [.stray ['-'], t] => t.natural?.map fun n => -(n : Int)
  | _ => none

/-- The outline of what has been read, and the kind of the join that follows. -/
structure Reading extends Outline Atom where
  kind : JoinKind := .plain

/-- What has been read after a further section. -/
def Reading.step (r : Reading) : Section → Option Reading
  | (.select, t :: ts) => if t.spells "DISTINCT"
    then (columns? ts).map fun projection => { r with distinct := true, projection }
    else (columns? (t :: ts)).map fun projection => { r with projection }
  | (.from, ts) => (name? ts).map fun table => { r with table }
  | (.kind kind, []) => some { r with kind }
  | (.join, ts) => (name? ts).map fun table =>
    { r with joins := r.joins ++ [⟨r.kind, table, []⟩], kind := .plain }
  | (.on, ts) => do
    -- The conditions belong to the table that was joined last.
    let join ← r.joins.getLast?
    let on ← Tree.parse ts
    return { r with joins := r.joins.dropLast ++ [{ join with on }] }
  | (.where, ts) => (Tree.parse ts).map fun wheres => { r with wheres }
  | (.group, t :: ts) => if t.spells "BY"
    then (items? name? ts).map fun groups => { r with groups } else none
  | (.order, t :: ts) => if t.spells "BY"
    then (items? sorted? ts).map fun orders => { r with orders } else none
  | (.limit, ts) => (number? ts).map fun n => { r with limit := some n }
  | (.offset, ts) => (number? ts).map fun n => { r with offset := some n }
  | _ => none

/-- Reads the text of a statement. -/
def Outline.parse (text : String) : Option (Outline Atom) :=
  match sections (tokens text) with
  | ([], parts) => (parts.foldlM Reading.step {}).map Reading.toOutline
  | _ => none

/-! ## Sections -/

theorem sections_append {a b : List Token} (h : (sections b).1 = []) :
    sections (a ++ b) = ((sections a).1, (sections a).2 ++ (sections b).2) := by
  induction a with
  | nil => rw [List.nil_append, sections, List.nil_append, ← h]
  | cons t a ih =>
    rw [List.cons_append, sections, sections, ih]
    cases t.head? <;> rfl

/-- Tokens none of which heads a section. -/
def Headless (ts : List Token) : Prop := ∀ t ∈ ts, t.head? = none

instance (ts : List Token) : Decidable (Headless ts) :=
  List.decidableBAll (fun t : Token => t.head? = none) ts

theorem sections_of_headless {ts : List Token} (h : Headless ts) : sections ts = (ts, []) := by
  induction ts with
  | nil => rfl
  | cons t ts ih =>
    have later := ih fun u hu => h u (List.mem_cons_of_mem t hu)
    rw [sections, h t List.mem_cons_self, later]

namespace Headless

variable {a b : List Token}

theorem nil : Headless [] := fun _ ht => absurd ht List.not_mem_nil

theorem append (ha : Headless a) (hb : Headless b) : Headless (a ++ b) := by
  intro t ht
  rcases List.mem_append.1 ht with ht | ht
  · exact ha t ht
  · exact hb t ht

theorem cons {t : Token} (ht : t.head? = none) (ha : Headless a) : Headless (t :: a) := by
  intro u hu
  rcases List.mem_cons.1 hu with rfl | hu
  · exact ht
  · exact ha u hu

end Headless

/-- The tokens fall into the sections, from the first token on. -/
def Falls (ts : List Token) (parts : List Section) : Prop := sections ts = ([], parts)

namespace Falls

theorem head {t : Token} (head : Head) {ts : List Token} (heads : t.head? = some head)
    (h : Headless ts) : Falls (t :: ts) [(head, ts)] := by
  rw [Falls, sections, heads, sections_of_headless h]

theorem append {a b : List Token} {x y : List Section} (ha : Falls a x) (hb : Falls b y) :
    Falls (a ++ b) (x ++ y) := by
  have front : (sections b).1 = [] := by rw [hb]
  rw [Falls, sections_append front, ha, hb]

end Falls

/-- The tokens fall into sections that take the parser from one outline to another. -/
def Reads (ts : List Token) (o p : Outline Atom) : Prop :=
  ∃ parts, Falls ts parts ∧ parts.foldlM Reading.step ⟨o, .plain⟩ = some ⟨p, .plain⟩

namespace Reads

variable {o p r : Outline Atom}

theorem refl (o : Outline Atom) : Reads [] o o := ⟨[], rfl, rfl⟩

theorem append {a b : List Token} (ha : Reads a o p) (hb : Reads b p r) : Reads (a ++ b) o r := by
  obtain ⟨x, falls, first⟩ := ha
  obtain ⟨y, falls', second⟩ := hb
  refine ⟨x ++ y, falls.append falls', ?_⟩
  rw [List.foldlM_append, first]
  exact second

theorem head {t : Token} (head : Head) {ts : List Token} (heads : t.head? = some head)
    (h : Headless ts) (next : Reading.step ⟨o, .plain⟩ (head, ts) = some ⟨p, .plain⟩) :
    Reads (t :: ts) o p := by
  refine ⟨[(head, ts)], .head head heads h, ?_⟩
  rw [List.foldlM_cons, next]
  rfl

end Reads

/-- A text that takes the parser to an outline is read as it. -/
theorem parse_of_reads {text : String} {o : Outline Atom} (h : Reads (tokens text) {} o) :
    Outline.parse text = some o := by
  obtain ⟨parts, falls, last⟩ := h
  rw [Outline.parse, falls]
  exact congrArg (Option.map Reading.toOutline) last

/-! ## Items -/

/-- Items that can be read one by one can be read with commas between them. -/
theorem items?_intercalate {α β : Type} {read : List Token → Option α} {write : β → List Token}
    {value : β → α} {xs : List β} (filled : xs ≠ [])
    (each : ∀ x ∈ xs, .comma ∉ write x ∧ read (write x) = some (value x)) :
    items? read ([.comma].intercalate (xs.map write)) = some (xs.map value) := by
  have split : ([Token.comma].intercalate (xs.map write)).splitOn .comma = xs.map write := by
    apply List.splitOn_intercalate
    · intro ts hts
      obtain ⟨x, hx, rfl⟩ := List.mem_map.1 hts
      exact (each x hx).1
    · exact fun empty => filled (List.map_eq_nil_iff.1 empty)
  rw [items?, split]
  clear split filled
  induction xs with
  | nil => rfl
  | cons x xs ih =>
    have first := (each x List.mem_cons_self).2
    have later := ih fun y hy => each y (List.mem_cons_of_mem x hy)
    rw [List.map_cons, List.mapM_cons, first, later]
    rfl

end Syntax

end SelectQuery
