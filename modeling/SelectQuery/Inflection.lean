import SelectQuery.Text.LetterCase
import SelectQuery.Inflection.Rules

/-!
The singular and the plural of a word. Irregular words come first, then words without a plural,
then the rule tables, last rule first; a word that nothing covers stays as it is. The answer
follows the letter case of the word.
-/

namespace SelectQuery.Inflection

open Text (lower upper isUppercase)

/-- `text` in the letter case of `word`: lower or upper case like the whole word, as it stands
where the word is the same or starts with a capital, and lower case otherwise. -/
def caseLike (word text : List Char) : List Char :=
  if word = text then text
  else if word = lower word then lower text
  else if word = upper word then upper text
  else if word.head?.any isUppercase then text
  else lower text

/-- `template` with `text` at every `$` that the digit `i` follows. -/
def fill (i : Nat) (text : List Char) : List Char → List Char
  | '$' :: d :: rest =>
    if d = i.digitChar then text ++ fill i text rest else '$' :: fill i text (d :: rest)
  | c :: rest => c :: fill i text rest
  | [] => []

/-- The text without any `$` and the character after it. -/
def dropMarks : List Char → List Char
  | '$' :: _ :: rest => dropMarks rest
  | ['$'] => []
  | c :: rest => c :: dropMarks rest
  | [] => []

/-- The replacement text with the texts `parts` at the marks `$i`, `$(i+1)`, … -/
def fillAll (word : List Char) : Nat → List (List Char) → List Char → List Char
  | _, [], out => out
  | i, part :: parts, out => fillAll word (i + 1) parts (fill i (caseLike word part) out)

/-- The word as the rule inflects it, if the rule covers it. -/
def Rule.inflected? (rule : Rule) (word : List Char) : Option (List Char) :=
  (rule.ending.matchEnd none word).map fun (head, tail, captures) =>
    let out := caseLike word rule.replacement.toList
    dropMarks (head ++ fillAll word 0 (tail :: captures) out)

/-- The word that the irregular pairs give for `token`, where `pairs` lists the words to find and
the words to give. -/
def lookupLast (pairs : List (String × String)) (token : List Char) : Option (List Char) :=
  (pairs.reverse.lookup (String.ofList token)).map String.toList

/-- The inflected form of `word`. `found` pairs each irregular word with its inflected form, and
`kept` the inflected forms with the words that they come from. -/
def inflect (found kept : List (String × String)) (rules : List Rule) (word : List Char) :
    List Char :=
  let token := lower word
  if (lookupLast kept token).isSome then caseLike word token
  else match lookupLast found token with
    | some other => caseLike word other
    | none =>
      if token.isEmpty || uncountable.contains (String.ofList token) then word
      else ((rules ++ uncountableRules).reverse.findSome? (·.inflected? word)).getD word

/-- The irregular words, plural and singular. -/
def irregularPlurals : List (String × String) := irregular.map Prod.swap

def singular (word : String) : String :=
  String.ofList (inflect irregularPlurals irregular singularRules word.toList)

def plural (word : String) : String :=
  String.ofList (inflect irregular irregularPlurals pluralRules word.toList)

end SelectQuery.Inflection
