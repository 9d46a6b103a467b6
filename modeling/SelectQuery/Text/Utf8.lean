/-!
Text from bytes. Bytes that are no UTF-8 become replacement characters, one for each longest part
that starts a character and breaks off.
-/

namespace SelectQuery.Text

/-- The character that stands for bytes that are no text. -/
def replacement : Char := '\uFFFD'

/-- What a first byte of several announces: the bytes that still have to follow, the bits of its
own, and the range of the second byte. -/
structure Lead where
  follow : Nat
  bits : Nat
  low : Nat
  high : Nat

/-- The announcement of a byte that starts a character of several bytes. Second bytes that would
make a character too long, a surrogate or too large are out of its range. -/
def lead? (b : Nat) : Option Lead :=
  if b < 0xC2 then none
  else if b < 0xE0 then some ⟨1, b - 0xC0, 0x80, 0xBF⟩
  else if b = 0xE0 then some ⟨2, 0, 0xA0, 0xBF⟩
  else if b = 0xED then some ⟨2, 0xD, 0x80, 0x9F⟩
  else if b < 0xF0 then some ⟨2, b - 0xE0, 0x80, 0xBF⟩
  else if b = 0xF0 then some ⟨3, 0, 0x90, 0xBF⟩
  else if b < 0xF4 then some ⟨3, b - 0xF0, 0x80, 0xBF⟩
  else if b = 0xF4 then some ⟨3, 4, 0x80, 0x8F⟩
  else none

/-- What a byte at the start of a character gives: text, or the announcement of more bytes. -/
def startChar (b : Nat) : List Char × Option Lead :=
  if b < 0x80 then ([Char.ofNat b], none)
  else match lead? b with
    | some l => ([], some l)
    | none => ([replacement], none)

/-- What a byte gives after the announcement `pending`. A byte that cannot follow ends the
character begun before and starts another. -/
def nextChar (pending : Option Lead) (b : Nat) : List Char × Option Lead :=
  match pending with
  | none => startChar b
  | some l =>
    if l.low ≤ b && b ≤ l.high then
      let bits := l.bits * 64 + (b - 0x80)
      if l.follow ≤ 1 then ([Char.ofNat bits], none)
      else ([], some ⟨l.follow - 1, bits, 0x80, 0xBF⟩)
    else
      let (text, next) := startChar b
      (replacement :: text, next)

/-- The text of `bytes`, where `pending` is the announcement of a character begun before. -/
def decodeFrom (pending : Option Lead) : List UInt8 → List Char
  | [] => if pending.isSome then [replacement] else []
  | byte :: bytes =>
    let (text, next) := nextChar pending byte.toNat
    text ++ decodeFrom next bytes

def decodeUtf8 (bytes : List UInt8) : List Char := decodeFrom none bytes

end SelectQuery.Text
