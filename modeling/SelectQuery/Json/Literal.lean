import SelectQuery.Json.Reading

/-!
String literals of JSON, from behind the opening quote on. A literal can be read for its text or
passed over; only who reads the text minds an escape that names half of a character.
-/

namespace SelectQuery.Json.Literal

def hexDigit? (c : Char) : Option Nat :=
  if c.isDigit then some (c.toNat - '0'.toNat)
  else if 'a' ≤ c && c ≤ 'f' then some (c.toNat - 'a'.toNat + 10)
  else if 'A' ≤ c && c ≤ 'F' then some (c.toNat - 'A'.toNat + 10)
  else none

def hex4? (a b c d : Char) : Option Nat := do
  let a ← hexDigit? a
  let b ← hexDigit? b
  let c ← hexDigit? c
  let d ← hexDigit? d
  return ((a * 16 + b) * 16 + c) * 16 + d

/-- The fault of an escape with fewer than four characters left for its digits: the text ends too
soon if they are fewer than four bytes. -/
def shortFault (cs : List Char) : Fault :=
  if cs.foldl (fun n c => n + c.utf8Size) 0 < 4 then .eof else .syntactic

/-- The character that a backslash and `c` stand for. -/
def escape? (c : Char) : Option Char :=
  match c with
  | '"' => some '"'
  | '\\' => some '\\'
  | '/' => some '/'
  | 'b' => some '\x08'
  | 'f' => some '\x0C'
  | 'n' => some '\n'
  | 'r' => some '\r'
  | 't' => some '\t'
  | _ => none

/-- Whether the number is the first half of a pair that stands for one character. -/
def isHigh (n : Nat) : Bool := 0xD800 ≤ n && n < 0xDC00

/-- Whether the number is the second half of such a pair. -/
def isLow (n : Nat) : Bool := 0xDC00 ≤ n && n < 0xE000

/-- The character that a pair stands for. -/
def pairChar (high low : Nat) : Char :=
  Char.ofNat (0x10000 + (high - 0xD800) * 0x400 + (low - 0xDC00))

/-- The text after the closing quote. -/
def skip : List Char → Except Fault (List Char)
  | [] => .error .eof
  | '"' :: rest => .ok rest
  | ['\\'] => .error .eof
  | '\\' :: 'u' :: a :: b :: c :: d :: rest =>
    if (hex4? a b c d).isSome then skip rest else .error .syntactic
  | '\\' :: 'u' :: short => .error (shortFault short)
  | '\\' :: e :: rest => if (escape? e).isSome then skip rest else .error .syntactic
  | c :: rest => if c.toNat < 0x20 then .error .syntactic else skip rest

/-- The characters up to the closing quote, and the text after it. After the first half of a pair,
`pending`, only its second half can follow. -/
def read (pending : Option Nat) : List Char → Except Fault (List Char × List Char)
  | [] => .error .eof
  | ['\\'] => .error .eof
  | '\\' :: 'u' :: a :: b :: c :: d :: rest =>
    match hex4? a b c d, pending with
    | none, _ => .error .syntactic
    | some n, some high =>
      if isLow n then (read none rest).map fun (cs, after) => (pairChar high n :: cs, after)
      else .error .syntactic
    | some n, none =>
      if isLow n then .error .syntactic
      else if isHigh n then read (some n) rest
      else (read none rest).map fun (cs, after) => (Char.ofNat n :: cs, after)
  | '\\' :: 'u' :: short => .error (shortFault short)
  | c :: rest =>
    if pending.isSome then .error .syntactic
    else if c = '"' then .ok ([], rest)
    else if c = '\\' then
      match rest with
      | [] => .error .eof
      | e :: rest => match escape? e with
        | some c => (read none rest).map fun (cs, after) => (c :: cs, after)
        | none => .error .syntactic
    else if c.toNat < 0x20 then .error .syntactic
    else (read none rest).map fun (cs, after) => (c :: cs, after)

end SelectQuery.Json.Literal
