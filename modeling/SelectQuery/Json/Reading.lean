import SelectQuery.Entries
import SelectQuery.Json

/-!
A JSON text as a reader meets it: the values it holds as far as it can be read, with the faults of
the text in their places. A reader that wants a certain shape works through it in the order of the
text, so the first problem decides, whether it lies in the text or in its shape.
-/

namespace SelectQuery.Json

/-- What is wrong with a JSON text: it ends too soon, it is no JSON, or it is JSON of another
shape than the one wanted. -/
inductive Fault where
  | eof
  | syntactic
  | data
  deriving DecidableEq

/-- Where the reading of an array or an object ends. -/
inductive Stop where
  /-- At its closing bracket. -/
  | closed
  /-- After an item, where a comma or the closing bracket is missing. -/
  | afterItem (fault : Fault)
  /-- Where an item has to start and none does. -/
  | beforeItem (fault : Fault)

/-- A JSON text, read as far as possible. -/
inductive Reading where
  | null
  | bool (b : Bool)
  | int (n : Int)
  | float (x : Number.Binary64)
  | string (s : String)
  | array (items : List Reading) (stop : Stop)
  /-- An object. A key that names no text is read by those who skip it. -/
  | object (members : List (Option String × Reading)) (stop : Stop)
  /-- A place where no value can be read: `used` is the fault for a reader that wants the value,
  `skipped` the one for a reader that only passes over it. A `scalar` starts like a number or
  like one of the words `null`, `true` and `false`. -/
  | broken (scalar : Bool) (used : Fault) (skipped : Option Fault)
  deriving Inhabited

namespace Reading

/-- The fault of a value where one of another kind is wanted. -/
def wrongShape : Reading → Fault
  | broken _ used _ => used
  | _ => .data

end Reading

/-- The fault at which a reader of all items ends. -/
def Stop.fault? : Stop → Option Fault
  | closed => none
  | afterItem f => some f
  | beforeItem f => some f

namespace Reading

mutual

/-- The fault that a reader meets who passes over the value. -/
def skipFault? : Reading → Option Fault
  | broken _ _ skipped => skipped
  | array items stop => itemsSkipFault? items stop
  | object members stop => membersSkipFault? members stop
  | _ => none

/-- The first fault met in the items of an array. -/
def itemsSkipFault? : List Reading → Stop → Option Fault
  | [], stop => stop.fault?
  | r :: rest, stop => match r.skipFault? with
    | some f => some f
    | none => itemsSkipFault? rest stop

/-- The first fault met in the members of an object. -/
def membersSkipFault? : List (Option String × Reading) → Stop → Option Fault
  | [], stop => stop.fault?
  | (_, r) :: rest, stop => match r.skipFault? with
    | some f => some f
    | none => membersSkipFault? rest stop

end

mutual

/-- The reading of a text without a fault that holds the given value. -/
def ofJson : Json → Reading
  | .null => null
  | .bool b => bool b
  | .int n => int n
  | .float x => float x
  | .string s => string s
  | .array items => array (ofItems items) .closed
  | .object fields => object (ofFields fields) .closed

def ofItems : List Json → List Reading
  | [] => []
  | j :: rest => ofJson j :: ofItems rest

def ofFields : List (String × Json) → List (Option String × Reading)
  | [] => []
  | (k, j) :: rest => (some k, ofJson j) :: ofFields rest

end

mutual

/-- The value that a text without a fault holds. Its objects are in order, and of two members with
the same key the later one holds. -/
def value : Reading → Except Fault Json
  | null => .ok .null
  | bool b => .ok (.bool b)
  | int n => .ok (.int n)
  | float x => .ok (.float x)
  | string s => .ok (.string s)
  | array items stop => (values items stop).map .array
  | object members stop => (fields members stop).map fun fs => .object (Entries.ofList fs)
  | broken _ used _ => .error used

def values : List Reading → Stop → Except Fault (List Json)
  | [], stop => match stop.fault? with
    | some f => .error f
    | none => .ok []
  | r :: rest, stop => do
    let j ← r.value
    let js ← values rest stop
    return j :: js

def fields : List (Option String × Reading) → Stop → Except Fault (List (String × Json))
  | [], stop => match stop.fault? with
    | some f => .error f
    | none => .ok []
  | (none, _) :: _, _ => .error .syntactic
  | (some k, r) :: rest, stop => do
    let j ← r.value
    let fs ← fields rest stop
    return (k, j) :: fs

end

end Reading

/-- A whole text: its value, and the fault of what follows the value. -/
structure Document where
  value : Reading
  trailing : Option Fault

/-- What `read` makes of the value of the text, unless something follows it. -/
def Document.decode (d : Document) (read : Reading → Except Fault α) : Except Fault α :=
  match read d.value, d.trailing with
  | .ok a, none => .ok a
  | .ok _, some f => .error f
  | .error f, _ => .error f

end SelectQuery.Json
