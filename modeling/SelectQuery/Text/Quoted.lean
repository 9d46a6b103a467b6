import SelectQuery.Text.Visible

/-!
Text between double quotes, with everything escaped that would not show as it is.
-/

namespace SelectQuery.Text

def hexCode (c : Char) : List Char := Nat.toDigits 16 c.toNat

/-- A character as it stands between quotes. -/
def escapeChar (c : Char) : List Char :=
  match c with
  | '\x00' => ['\\', '0']
  | '\t' => ['\\', 't']
  | '\r' => ['\\', 'r']
  | '\n' => ['\\', 'n']
  | '"' => ['\\', '"']
  | '\\' => ['\\', '\\']
  | c => if isVisible c then [c] else "\\u\x7b".toList ++ hexCode c ++ ['\x7d']

def quoted (s : String) : String :=
  String.ofList ('"' :: s.toList.flatMap escapeChar ++ ['"'])

end SelectQuery.Text
