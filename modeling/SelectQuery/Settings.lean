import SelectQuery.Json.Reader
import SelectQuery.Text.Blank

/-!
Connection settings: where the database is and how many connections a pool may hold. They come
from code, from environment variables or from a JSON text; what is not given has a default.
-/

namespace SelectQuery

open Json (Fault Reading Stop)

/-- The settings of a connection pool. -/
structure Settings where
  url : String := "sqlite::memory:"
  maxConnections : UInt32 := 5
  deriving DecidableEq

namespace Settings

/-- The settings for a database, with the default number of connections. -/
def new (url : String) : Settings := { url }

def withMaxConnections (s : Settings) (n : UInt32) : Settings := { s with maxConnections := n }

/-- The number of connections that a text gives: digits, with a `+` and blanks around them if
need be. -/
def readCount? (text : String) : Option UInt32 :=
  let cs := Text.trim text.toList
  let digits := match cs with
    | '+' :: rest => rest
    | _ => cs
  if digits.isEmpty || !digits.all Char.isDigit then none
  else
    let n := Number.ofDigits digits
    if n < UInt32.size then some (.ofNat n) else none

/-- The settings that two environment variables give. -/
def ofEnvironment (url maxConnections : Option String) : Settings where
  url := url.getD ({} : Settings).url
  maxConnections := (maxConnections.bind readCount?).getD ({} : Settings).maxConnections

def urlVariable : String := "DATABASE_URL"

def maxConnectionsVariable : String := "DATABASE_MAX_CONNECTIONS"

def ofLookup (lookup : String → Option String) : Settings :=
  ofEnvironment (lookup urlVariable) (lookup maxConnectionsVariable)

def readUrl : Reading → Except Fault String
  | .string s => .ok s
  | r => .error r.wrongShape

def readMax : Reading → Except Fault UInt32
  | .int n => if 0 ≤ n ∧ n < UInt32.size then .ok (.ofNat n.toNat) else .error .data
  | r => .error r.wrongShape

def ofGiven (url : Option String) (maxConnections : Option UInt32) : Settings where
  url := url.getD ({} : Settings).url
  maxConnections := maxConnections.getD ({} : Settings).maxConnections

/-- The settings that the members of an object give, after those already given. Members with other
names are passed over. -/
def readMembers (url : Option String) (maxConnections : Option UInt32) :
    List (Option String × Reading) → Stop → Except Fault Settings
  | [], stop => match stop.fault? with
    | some f => .error f
    | none => .ok (ofGiven url maxConnections)
  | (none, _) :: _, _ => .error .syntactic
  | (some "url", r) :: rest, stop =>
    if url.isSome then .error .data
    else do
      let given ← readUrl r
      readMembers (some given) maxConnections rest stop
  | (some "max_connections", r) :: rest, stop =>
    if maxConnections.isSome then .error .data
    else do
      let given ← readMax r
      readMembers url (some given) rest stop
  | (some _, r) :: rest, stop => match r.skipFault? with
    | some f => .error f
    | none => readMembers url maxConnections rest stop

/-- The settings that the items of an array give, in the order of the fields. -/
def readItems : List Reading → Stop → Except Fault Settings
  | [], stop => match stop.fault? with
    | some f => .error f
    | none => .ok {}
  | [url], stop => do
    let url ← readUrl url
    match stop.fault? with
    | some f => .error f
    | none => .ok (ofGiven url none)
  | url :: max :: rest, stop => do
    let url ← readUrl url
    let max ← readMax max
    match rest, stop with
    | [], .closed => .ok (ofGiven url max)
    | [], .afterItem f => .error f
    | _, _ => .error .syntactic

def ofReading : Reading → Except Fault Settings
  | .object members stop => readMembers none none members stop
  | .array items stop => readItems items stop
  | r => .error r.wrongShape

/-- The settings that a JSON text describes. What is passed over may be nested to any depth. -/
def ofText (text : String) : Except Fault Settings :=
  (Json.Reader.read text.length text).decode ofReading

end Settings

end SelectQuery
