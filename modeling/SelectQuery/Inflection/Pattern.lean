import SelectQuery.Text.Word

/-!
Patterns for the ends of words, compared without regard to letter case. A pattern has no
repetition, so the ways in which it can match at a place are a finite list, best way first.
-/

namespace SelectQuery.Inflection

/-- One character stands for itself whatever its case; the long s and the kelvin sign are cases
of `s` and `k`. -/
def foldCase (c : Char) : Char :=
  match c with
  | 'ſ' => 's'
  | '\u212A' => 'k'
  | 'É' => 'é'
  | _ => c.toLower

/-- What a pattern asks of a word at one place. -/
inductive Pattern where
  /-- A character of the list, or, if negated, one outside it. -/
  | charOf (negated : Bool) (cs : List Char)
  /-- A character beyond ASCII that is no case of an ASCII letter. -/
  | nonAscii
  /-- A character that belongs to no word. -/
  | nonWord
  /-- The start of the text. -/
  | start
  /-- A place with a word character on exactly one side. -/
  | boundary
  /-- Nothing. -/
  | empty
  /-- The first pattern, then the second. -/
  | seq (first second : Pattern)
  /-- The first pattern if the rest can follow it, otherwise the second. -/
  | either (first second : Pattern)
  /-- A part whose text is remembered. -/
  | capture (part : Pattern)

namespace Pattern

instance : Append Pattern := ⟨seq⟩

def oneOf (cs : String) : Pattern := charOf false cs.toList

def noneOf (cs : String) : Pattern := charOf true cs.toList

def word (s : String) : Pattern :=
  s.toList.foldr (fun c p => charOf false [c] ++ p) empty

/-- The first of `ps` that fits. -/
def anyOf : List Pattern → Pattern
  | [] => charOf false []
  | [p] => p
  | p :: ps => either p (anyOf ps)

def words (ss : List String) : Pattern := anyOf (ss.map word)

def optional (p : Pattern) : Pattern := either p empty

/-- A way to match so far: the character before the place reached, the text after it, and the
captured texts. -/
structure Way where
  before : Option Char
  rest : List Char
  captures : List (List Char)

/-- The way after one more character, if that character satisfies `accepts`. -/
def Way.eat (accepts : Char → Bool) (w : Way) : List Way :=
  match w.rest with
  | c :: rest => if accepts c then [⟨some c, rest, w.captures⟩] else []
  | [] => []

/-- Whether the character before or after a place belongs to a word; the text's ends do not. -/
def onWord (c : Option Char) : Bool := c.any Text.isWord

/-- The ways in which the pattern extends `w`, best first. -/
def ways : Pattern → Way → List Way
  | charOf negated cs, w => w.eat fun c => (cs.any fun d => foldCase d == foldCase c) != negated
  | nonAscii, w => w.eat fun c => 0x80 ≤ (foldCase c).toNat
  | nonWord, w => w.eat fun c => !Text.isWord c
  | start, w => if w.before.isNone then [w] else []
  | boundary, w => if onWord w.before != onWord w.rest.head? then [w] else []
  | empty, w => [w]
  | seq p q, w => (p.ways w).flatMap q.ways
  | either p q, w => p.ways w ++ q.ways w
  | capture p, w => (p.ways w).map fun v =>
      { v with captures := v.captures ++ [w.rest.take (w.rest.length - v.rest.length)] }

/-- The best way in which all of `rest` matches, given the character before it. -/
def matchWhole (p : Pattern) (before : Option Char) (rest : List Char) : Option Way :=
  (p.ways ⟨before, rest, []⟩).find? (·.rest.isEmpty)

/-- The longest end of `text` that matches: the text before it, its own text, and the captured
texts. -/
def matchEnd (p : Pattern) (before : Option Char) :
    List Char → Option (List Char × List Char × List (List Char))
  | [] => (p.matchWhole before []).map fun w => ([], [], w.captures)
  | c :: rest =>
    match p.matchWhole before (c :: rest) with
    | some w => some ([], c :: rest, w.captures)
    | none => (p.matchEnd (some c) rest).map fun (head, tail) => (c :: head, tail)

end Pattern

end SelectQuery.Inflection
