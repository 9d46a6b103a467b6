import SelectQuery.Json
import SelectQuery.Number.Text
import SelectQuery.Text.Utf8
import SelectQuery.Timestamp

/-!
The values that a statement compares columns with. A value is bound to a placeholder; its literal
stands in the statement where placeholders are not wanted.
-/

namespace SelectQuery

open Number (Binary64)

inductive Value where
  | null
  | bool (b : Bool)
  | int (n : Int64)
  | float (x : Binary64)
  | text (s : String)
  | date (t : Timestamp)
  | blob (bytes : List UInt8)
  | array (items : List Value)
  deriving Inhabited

namespace Value

/-- What stands for a bound value in a statement. -/
def placeholder : String := "?"

/-- A placeholder, whatever the value. -/
def hidden (_ : Value) : String := placeholder

mutual

/-- The text of the value, without quotes. -/
def unquoted : Value → String
  | null => "NULL"
  | bool b => if b then "true" else "false"
  | int n => toString n.toInt
  | float x => x.value.plainText
  | text s => s
  | date t => t.text
  | blob bytes => String.ofList (Text.decodeUtf8 bytes)
  | array items => String.intercalate "," (itemTexts items)

/-- The texts of the items of an array, where a null has no text. -/
def itemTexts : List Value → List String
  | [] => []
  | null :: items => "" :: itemTexts items
  | item :: items => item.unquoted :: itemTexts items

end

def doubleQuotes : List Char → List Char
  | [] => []
  | c :: cs => if c = '\'' then '\'' :: '\'' :: doubleQuotes cs else c :: doubleQuotes cs

def quote (s : String) : String :=
  String.ofList ('\'' :: doubleQuotes s.toList ++ ['\''])

def literal : Value → String
  | null => "NULL"
  | bool b => if b then "1" else "0"
  | int n => toString n.toInt
  | float x => x.value.plainText
  | text s => quote s
  | date t => quote t.text
  | blob bytes => String.ofList ("X'".toList ++ Number.hexBytes bytes ++ ['\''])
  | array items => quote (array items).unquoted

/-- The kind of the value as errors name it. -/
def kindName : Value → String
  | null => "null"
  | bool _ => "boolean"
  | int _ => "number"
  | float _ => "number"
  | text _ => "string"
  | date _ => "date"
  | blob _ => "blob"
  | array _ => "array"

/-- The content of a text value. -/
def content? : Value → Option String
  | text s => some s
  | _ => none

mutual

/-- The value as JSON. A float that is not finite has no JSON number and becomes null. -/
def toJson : Value → Json
  | null => .null
  | bool b => .bool b
  | int n => .int n.toInt
  | float x => match x.value with
    | .finite .. => .float x
    | _ => .null
  | text s => .string s
  | date t => .string t.text
  | blob bytes => .array (bytes.map fun b => .int b.toNat)
  | array items => .array (itemsToJson items)

def itemsToJson : List Value → List Json
  | [] => []
  | item :: items => item.toJson :: itemsToJson items

end

end Value

end SelectQuery
