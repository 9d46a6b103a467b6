import SelectQuery.Text.CaseTable

/-!
The lower and upper case of characters and texts. A character may have an upper case of several
characters, and a capital sigma has two lower cases: `ς` at the end of a word, `σ` elsewhere.
-/

namespace SelectQuery.Text

def isUppercase (c : Char) : Bool :=
  if c.toNat < 0x80 then c.isUpper else uppercaseRanges.any (·.contains c)

theorem toLower_beyond {c : Char} (h : ¬ c.toNat < 0x80) : c.toLower = c := by
  have other : ¬ (c.val ≥ 'A'.val ∧ c.val ≤ 'Z'.val) := by
    rintro ⟨-, le⟩
    exact h (Nat.lt_of_le_of_lt (UInt32.le_iff_toNat_le.1 le) (by decide))
  exact dif_neg other

/-- The lower case of a character, without regard to its place in a word. -/
def lowerChar (c : Char) : List Char :=
  if c.toNat < 0x80 then [c.toLower]
  else if c == 'İ' then ['i', '\u0307']
  else [shiftCode lowerShifts c]

def upperChar (c : Char) : List Char :=
  if c.toNat < 0x80 then [c.toUpper]
  else match upperExpansions.lookup c.toNat with
    | some ns => ns.map Char.ofNat
    | none => [shiftCode upperShifts c]

/-- Whether the first character that does not ignore case is a cased one. -/
def meetsCased (cs : List Char) : Bool :=
  match cs.dropWhile (inRanges caseIgnorableRanges) with
  | [] => false
  | c :: _ => inRanges casedRanges c

/-- Lower case of `cs`, where `before` is the text before it, read backwards. -/
def lowerFrom (before : List Char) : List Char → List Char
  | [] => []
  | c :: cs =>
    (if c == 'Σ' then [if meetsCased before && !meetsCased cs then 'ς' else 'σ'] else lowerChar c)
      ++ lowerFrom (c :: before) cs

def lower (cs : List Char) : List Char :=
  lowerFrom [] cs

def upper (cs : List Char) : List Char :=
  cs.flatMap upperChar

end SelectQuery.Text
