import SelectQuery.Json.Literal
import SelectQuery.Json.Numeral

/-!
The reading of JSON texts. Arrays and objects may only be nested to a given depth.
-/

namespace SelectQuery.Json.Reader

/-- Whether `c` may stand between the tokens of a text. -/
def isBlank (c : Char) : Bool :=
  c == ' ' || c == '\n' || c == '\t' || c == '\r'

/-- The text from its next token on. -/
def skipBlanks (cs : List Char) : List Char := cs.dropWhile isBlank

/-- What has been read, and the text after it unless nothing can follow. -/
abbrev Result (α : Type) := α × Option (List Char)

/-- Nothing that could be read: the fault is the same for everyone. -/
def nothing (f : Fault) : Result Reading := (.broken false f (some f), none)

/-- A word of the language, whose first character has been read. -/
def readWord (meaning : Reading) : List Char → List Char → Result Reading
  | [], rest => (meaning, some rest)
  | _ :: _, [] => (.broken true .eof (some .eof), none)
  | w :: ws, c :: rest =>
    if w = c then readWord meaning ws rest
    else (.broken true .syntactic (some .syntactic), none)

/-- A string, whose opening quote has been read. -/
def readString (cs : List Char) : Result Reading :=
  match Literal.read none cs, Literal.skip cs with
  | .ok (s, _), .ok rest => (.string (String.ofList s), some rest)
  | .error f, .ok rest => (.broken false f none, some rest)
  | .ok _, .error f => (.broken false f (some f), none)
  | .error f, .error g => (.broken false f (some g), none)

/-- The name that a string gives to a member. -/
def keyOf : Reading → Option String
  | .string s => some s
  | _ => none

mutual

/-- The value at the start of a text. At depth 0 no array or object may start. -/
def readValue : Nat → Nat → List Char → Result Reading
  | 0, _, _ => nothing .eof
  | fuel + 1, depth, cs =>
    match skipBlanks cs with
    | [] => nothing .eof
    | '"' :: rest => readString rest
    | 'n' :: rest => readWord .null "ull".toList rest
    | 't' :: rest => readWord (.bool true) "rue".toList rest
    | 'f' :: rest => readWord (.bool false) "alse".toList rest
    | '[' :: rest => match depth with
      | 0 => (.array [] (.beforeItem .syntactic), none)
      | depth + 1 =>
        let ((items, stop), rest) := readItems fuel depth true rest
        (.array items stop, rest)
    | '{' :: rest => match depth with
      | 0 => (.object [] (.beforeItem .syntactic), none)
      | depth + 1 =>
        let ((members, stop), rest) := readMembers fuel depth true rest
        (.object members stop, rest)
    | c :: rest =>
      if c == '-' || c.isDigit then Numeral.read (c :: rest) else nothing .syntactic

/-- The items of an array from a place where one may end, or where the first may start. -/
def readItems : Nat → Nat → Bool → List Char → Result (List Reading × Stop)
  | 0, _, _, _ => (([], .afterItem .eof), none)
  | fuel + 1, depth, first, cs =>
    match first, skipBlanks cs with
    | true, [] => (([], .beforeItem .eof), none)
    | false, [] => (([], .afterItem .eof), none)
    | _, ']' :: rest => (([], .closed), some rest)
    | true, cs => readItem fuel depth cs
    | false, ',' :: rest => match skipBlanks rest with
      | [] => (([], .beforeItem .eof), none)
      | ']' :: _ => (([], .beforeItem .syntactic), none)
      | cs => readItem fuel depth cs
    | false, _ => (([], .afterItem .syntactic), none)

def readItem : Nat → Nat → List Char → Result (List Reading × Stop)
  | 0, _, _ => (([], .afterItem .eof), none)
  | fuel + 1, depth, cs =>
    match readValue fuel depth cs with
    | (item, none) => (([item], .closed), none)
    | (item, some rest) =>
      let ((items, stop), rest) := readItems fuel depth false rest
      ((item :: items, stop), rest)

/-- The members of an object from a place where one may end, or where the first may start. -/
def readMembers : Nat → Nat → Bool → List Char → Result (List (Option String × Reading) × Stop)
  | 0, _, _, _ => (([], .afterItem .eof), none)
  | fuel + 1, depth, first, cs =>
    match first, skipBlanks cs with
    | true, [] => (([], .beforeItem .eof), none)
    | false, [] => (([], .afterItem .eof), none)
    | _, '}' :: rest => (([], .closed), some rest)
    | true, '"' :: rest => readMember fuel depth rest
    | true, _ => (([], .beforeItem .syntactic), none)
    | false, ',' :: rest => match skipBlanks rest with
      | [] => (([], .beforeItem .eof), none)
      | '"' :: rest => readMember fuel depth rest
      | _ => (([], .beforeItem .syntactic), none)
    | false, _ => (([], .afterItem .syntactic), none)

/-- A member of an object, from behind the quote that opens its key, and those after it. -/
def readMember : Nat → Nat → List Char → Result (List (Option String × Reading) × Stop)
  | 0, _, _ => (([], .afterItem .eof), none)
  | fuel + 1, depth, cs =>
    match readString cs with
    | (.broken _ .eof _, none) => (([], .beforeItem .eof), none)
    | (key, none) => (([(none, key)], .closed), none)
    | (key, some rest) => match skipBlanks rest with
      | [] => (([(keyOf key, (nothing .eof).1)], .closed), none)
      | ':' :: rest => match readValue fuel depth rest with
        | (value, none) => (([(keyOf key, value)], .closed), none)
        | (value, some rest) =>
          let ((members, stop), rest) := readMembers fuel depth false rest
          (((keyOf key, value) :: members, stop), rest)
      | _ => (([(keyOf key, (nothing .syntactic).1)], .closed), none)

end

/-- The reading of a text whose arrays and objects are nested at most `depth` deep. At least every
third step takes a character off the text. -/
def read (depth : Nat) (text : String) : Document :=
  let cs := text.toList
  let (value, rest) := readValue (3 * cs.length + 4) depth cs
  match rest with
  | none => ⟨value, none⟩
  | some rest => ⟨value, if (skipBlanks rest).isEmpty then none else some .syntactic⟩

end SelectQuery.Json.Reader

namespace SelectQuery.Json

/-- The value that a JSON text holds, nested at most `depth` deep. -/
def ofText (depth : Nat) (text : String) : Except Fault Json :=
  (Reader.read depth text).decode Reading.value

end SelectQuery.Json
