import SelectQuery.Number.Shortest

/-!
The two texts of a floating-point number. The plain text never has an exponent and a point only
before a fraction. The detailed text always shows that the number is no integer: it has a point
with a digit after it, or an exponent from `1e16` on and below `0.0001`.
-/

namespace SelectQuery.Number

/-- The sign that goes before a text. -/
def signText (negative : Bool) : List Char := if negative then ['-'] else []

namespace Floating

/-- The text without an exponent. -/
def plainText : Floating → String
  | nan => "NaN"
  | infinite negative => String.ofList (signText negative) ++ "inf"
  | finite negative 0 _ => String.ofList (signText negative) ++ "0"
  | finite negative m q => String.ofList (signText negative ++ (shortest m q).positional)

/-- A positional text with at least one place. -/
def withPlaces (digits : List Char) : List Char :=
  if digits.contains '.' then digits else digits ++ ".0".toList

/-- The text that no integer has. -/
def detailedText : Floating → String
  | nan => "NaN"
  | infinite negative => String.ofList (signText negative) ++ "inf"
  | finite negative 0 _ => String.ofList (signText negative) ++ "0.0"
  | finite negative m q =>
    let d := shortest m q
    let body :=
      if -5 < d.magnitude && d.magnitude < 16 then withPlaces d.positional else d.scientific
    String.ofList (signText negative ++ body)

end Floating

end SelectQuery.Number
