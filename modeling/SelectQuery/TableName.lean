import SelectQuery.Text.LetterCase

/-!
The default table of a record type: the plural of the type's own name in lower case, without the
modules before it and the arguments after it.
-/

namespace SelectQuery.TableName

/-- The text before the first pair of colons. -/
def beforeColons : List Char → List Char
  | [] => []
  | ':' :: ':' :: _ => []
  | c :: cs => c :: beforeColons cs

/-- The text after the last pair of colons. -/
def lastSegment (path : List Char) : List Char :=
  (beforeColons path.reverse).reverse

/-- The table for the type with the path `typePath`, given how words are put into the plural. The
arguments of the type are cut off first, so paths among them do not count. -/
def ofType (plural : String → String) (typePath : String) : String :=
  let name := lastSegment (typePath.toList.takeWhile (· ≠ '<'))
  plural (String.ofList (Text.lower name))

end SelectQuery.TableName
